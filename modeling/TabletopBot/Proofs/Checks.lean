/-! # Checks in turn

A check gives a value or a fault. Checks made one after the other succeed where all of them do, and
otherwise the first one that fails decides the fault.
-/

namespace TabletopBot

variable {ε α β : Type}

/-- A sequence of two checks succeeds exactly when both do. -/
theorem bind_eq_ok_iff {first : Except ε α} {next : α → Except ε β} {value : β} :
    (first >>= next) = .ok value ↔ ∃ middle, first = .ok middle ∧ next middle = .ok value := by
  cases first with
  | error fault => exact ⟨nofun, nofun⟩
  | ok middle => exact ⟨fun success => ⟨middle, rfl, success⟩, fun ⟨_, rfl, success⟩ => success⟩

/-- What succeeds can be compared where faults cannot. -/
theorem eq_ok_of_toOption {outcome : Except ε α} {value : α} (came : outcome.toOption = some value) :
    outcome = .ok value := by
  cases outcome with
  | error fault => cases came
  | ok other => exact congrArg Except.ok (Option.some.inj came)

/-- A sequence of two checks has the fault of the first, or of the second where the first succeeds. -/
theorem bind_eq_error_iff {first : Except ε α} {next : α → Except ε β} {fault : ε} :
    (first >>= next) = .error fault ↔
      first = .error fault ∨ ∃ middle, first = .ok middle ∧ next middle = .error fault := by
  cases first with
  | error other => exact ⟨fun failure => .inl (by cases failure; rfl), fun
    | .inl rfl => rfl⟩
  | ok middle => exact ⟨fun failure => .inr ⟨middle, rfl, failure⟩, fun
    | .inr ⟨_, rfl, failure⟩ => failure⟩

section

variable {check : α → Except ε Unit}

theorem forM_cons_eq (item : α) (items : List α) :
    (item :: items).forM check = check item >>= fun _ => items.forM check := rfl

/-- Checks of all items succeed where every item passes. -/
theorem forM_eq_ok_iff {items : List α} :
    items.forM check = .ok () ↔ ∀ item ∈ items, check item = .ok () := by
  induction items with
  | nil => exact ⟨fun _ => nofun, fun _ => rfl⟩
  | cons item items ih =>
    rw [forM_cons_eq, bind_eq_ok_iff, List.forall_mem_cons, ← ih]
    exact ⟨fun ⟨_, first, others⟩ => ⟨first, others⟩, fun ⟨first, others⟩ => ⟨(), first, others⟩⟩

/-- Checks of all items have the fault of the first item that does not pass. -/
theorem forM_eq_error_iff {items : List α} {fault : ε} :
    items.forM check = .error fault ↔ ∃ before item behind, items = before ++ item :: behind ∧
      (∀ earlier ∈ before, check earlier = .ok ()) ∧ check item = .error fault := by
  induction items with
  | nil =>
    constructor
    · exact nofun
    · rintro ⟨before, item, behind, shape, _⟩
      exact absurd shape.symm (by simp)
  | cons first items ih =>
    rw [forM_cons_eq, bind_eq_error_iff, ih]
    constructor
    · rintro (failed | ⟨_, passed, before, item, behind, rfl, all, failed⟩)
      · exact ⟨[], first, items, rfl, nofun, failed⟩
      · refine ⟨first :: before, item, behind, rfl, ?_, failed⟩
        exact List.forall_mem_cons.mpr ⟨passed, all⟩
    · rintro ⟨before, item, behind, shape, all, failed⟩
      cases before with
      | nil =>
        cases shape
        exact .inl failed
      | cons earlier before =>
        cases shape
        obtain ⟨passed, others⟩ := List.forall_mem_cons.mp all
        exact .inr ⟨(), passed, before, item, behind, rfl, others, failed⟩

end

end TabletopBot
