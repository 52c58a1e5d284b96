import TabletopBot.Config.Value

/-! # What stands at a path of merged layers

Of two layers the upper one decides what stands at a path, and the lower one where the upper has nothing
there: `at?_merge`. This takes that no key occurs twice in the upper layer, and that nothing but tables
leads to the path in it, because any other value replaces a whole table below.
-/

namespace TabletopBot.Config

/-- No key occurs twice in a table, nor in the tables it holds. -/
inductive Value.Neat : Value → Prop
  | table {entries : Entries} : (entries.map (·.1)).Nodup →
      (∀ key value, (key, value) ∈ entries → Value.Neat value) → Value.Neat (.table entries)
  | other {value : Value} : (∀ entries, value ≠ .table entries) → Value.Neat value

namespace Entries

theorem map_fst_set (key : String) (value : Value) (entries : Entries) :
    (entries.set key value).map (·.1) =
      if key ∈ entries.map (·.1) then entries.map (·.1) else entries.map (·.1) ++ [key] := by
  induction entries with
  | nil => simp [set]
  | cons entry rest ih =>
    obtain ⟨other, present⟩ := entry
    rw [set]
    by_cases same : other = key
    · simp [same]
    · rw [if_neg same, List.map_cons, ih]
      by_cases later : key ∈ rest.map (·.1)
      · simp only [List.map_cons, List.mem_cons, later, or_true, if_true]
      · simp only [List.map_cons, List.mem_cons, later, Ne.symm same, or_false, if_false,
          List.cons_append]

theorem mem_of_mem_set {key asked : String} {value found : Value} {entries : Entries}
    (member : (asked, found) ∈ entries.set key value) :
    (asked, found) = (key, value) ∨ (asked, found) ∈ entries := by
  induction entries with
  | nil => exact .inl (List.mem_singleton.1 member)
  | cons entry rest ih =>
    obtain ⟨other, present⟩ := entry
    rw [set] at member
    split at member
    · rcases List.mem_cons.1 member with same | later
      · exact .inl same
      · exact .inr (List.mem_cons_of_mem _ later)
    · rcases List.mem_cons.1 member with same | later
      · exact .inr (same ▸ List.mem_cons_self ..)
      · exact (ih later).imp_right (List.mem_cons_of_mem _)

/-- Giving a key a value keeps a table neat. -/
theorem neat_set {key : String} {value : Value} {entries : Entries} (neat : (Value.table entries).Neat)
    (also : value.Neat) : (Value.table (entries.set key value)).Neat := by
  cases neat with
  | other noTable => exact absurd rfl (noTable entries)
  | table nodup inner =>
    refine .table ?_ ?_
    · rw [map_fst_set]
      split
      · exact nodup
      · next absent =>
        refine List.nodup_append.2 ⟨nodup, by simp, ?_⟩
        rintro other member _ (⟨⟩ | ⟨_, ⟨⟩⟩) rfl
        exact absent member
    · intro asked found member
      rcases mem_of_mem_set member with same | before
      · cases same
        exact also
      · exact inner asked found before

theorem mem_of_lookup {key : String} {value : Value} {entries : Entries}
    (found : entries.lookup key = some value) : (key, value) ∈ entries := by
  induction entries with
  | nil => cases found
  | cons entry rest ih =>
    obtain ⟨other, present⟩ := entry
    rw [List.lookup_cons] at found
    split at found
    · next same =>
      cases found
      rw [beq_iff_eq.1 same]
      exact List.mem_cons_self ..
    · exact List.mem_cons_of_mem _ (ih found)

end Entries

namespace Value

theorem Neat.of_lookup {entries : Entries} {key : String} {value : Value}
    (neat : (Value.table entries).Neat) (found : entries.lookup key = some value) : value.Neat := by
  cases neat with
  | other noTable => exact absurd rfl (noTable entries)
  | table _ inner => exact inner key value (Entries.mem_of_lookup found)

theorem Neat.nodup {entries : Entries} (neat : (Value.table entries).Neat) :
    (entries.map (·.1)).Nodup := by
  cases neat with
  | table nodup => exact nodup
  | other noTable => exact absurd rfl (noTable entries)

theorem Neat.nested {value : Value} (neat : value.Neat) (path : List String) :
    (value.nested path).Neat := by
  induction path with
  | nil => exact neat
  | cons key path ih =>
    refine .table (by simp) fun other found member => ?_
    cases List.mem_singleton.1 member
    exact ih

/-- What a key has once entries are laid over others. -/
theorem lookup_mergeEntries {upper : Entries} (nodup : (upper.map (·.1)).Nodup) (lower : Entries)
    (key : String) : (mergeEntries lower upper).lookup key =
      match upper.lookup key, lower.lookup key with
      | some value, some present => some (merge present value)
      | some value, none => some value
      | none, found => found := by
  induction upper generalizing lower with
  | nil => rw [mergeEntries]; rfl
  | cons entry rest ih =>
    obtain ⟨other, value⟩ := entry
    rw [List.map_cons, List.nodup_cons] at nodup
    rw [mergeEntries, ih nodup.2, List.lookup_cons]
    by_cases same : key = other
    · subst same
      have absent : rest.lookup key = none := by
        refine List.lookup_eq_none_iff.2 fun entry member => bne_iff_ne.2 ?_
        rintro rfl
        exact nodup.1 (List.mem_map.2 ⟨entry, member, rfl⟩)
      rw [absent, beq_self_eq_true, Entries.lookup_set_self]
      cases lower.lookup key <;> rfl
    · rw [beq_false_of_ne same, Entries.lookup_set_of_ne same]

theorem table_or_other (value : Value) :
    (∃ entries, value = .table entries) ∨ ∀ entries, value ≠ .table entries := by
  cases value with
  | table entries => exact .inl ⟨entries, rfl⟩
  | _ => exact .inr (by rintro _ ⟨⟩)

theorem merge_of_not_table (lower : Value) {upper : Value} (other : ∀ entries, upper ≠ .table entries) :
    merge lower upper = upper := by
  cases upper with
  | table entries => exact absurd rfl (other entries)
  | _ => rw [merge]; exact other

theorem merge_table (lower upper : Entries) :
    merge (.table lower) (.table upper) = .table (mergeEntries lower upper) := by
  rw [merge]

theorem merge_over_other {lower : Value} (other : ∀ entries, lower ≠ .table entries) (upper : Entries) :
    merge lower (.table upper) = .table upper := by
  cases lower with
  | table entries => exact absurd rfl (other entries)
  | _ => simp only [merge]

theorem neat_mergeEntries {upper lower : Entries} (below : (Value.table lower).Neat)
    (each : ∀ key value, (key, value) ∈ upper →
      value.Neat ∧ ∀ present : Value, present.Neat → (merge present value).Neat) :
    (Value.table (mergeEntries lower upper)).Neat := by
  induction upper generalizing lower with
  | nil =>
    rw [mergeEntries]
    exact below
  | cons entry rest ih =>
    obtain ⟨key, value⟩ := entry
    obtain ⟨neat, merged⟩ := each key value (List.mem_cons_self ..)
    rw [mergeEntries]
    refine ih (Entries.neat_set below ?_) fun other found member =>
      each other found (List.mem_cons_of_mem _ member)
    split
    · next found => exact merged _ (below.of_lookup found)
    · exact neat

/-- Laying a neat value over a neat one gives a neat one. -/
theorem Neat.merge {lower upper : Value} (below : lower.Neat) (above : upper.Neat) :
    (merge lower upper).Neat := by
  induction above generalizing lower with
  | other noTable =>
    rw [merge_of_not_table lower noTable]
    exact .other noTable
  | @table entries nodup inner ih =>
    cases below with
    | @table present keys others =>
      rw [merge_table]
      exact neat_mergeEntries (.table keys others) fun key value member =>
        ⟨inner key value member, fun present neat => ih key value member neat⟩
    | other noTable =>
      rw [merge_over_other noTable]
      exact .table nodup inner

/-- What stands at the end of a path of keys. -/
def at? : List String → Value → Option Value
  | [], value => some value
  | key :: path, .table entries => (entries.lookup key).bind (at? path)
  | _ :: _, _ => none

/-- Nothing but tables is on the way to the end of a path, as far as there is anything. -/
def Opens : List String → Value → Prop
  | [], _ => True
  | key :: path, value => ∃ entries, value = .table entries ∧
    ∀ next, entries.lookup key = some next → Opens path next

/-- Of two layers the upper one decides what stands at a path, if it has something there. -/
theorem at?_merge {path : List String} {upper : Value} (neat : upper.Neat) (opens : Opens path upper)
    (lower : Value) : at? path (merge lower upper) =
      match at? path upper, at? path lower with
      | some value, some present => some (merge present value)
      | some value, none => some value
      | none, found => found := by
  induction path generalizing upper lower with
  | nil => rfl
  | cons key path ih =>
    obtain ⟨entries, rfl, inner⟩ := opens
    rcases lower.table_or_other with ⟨present, rfl⟩ | other
    · rw [merge_table, at?, lookup_mergeEntries neat.nodup, at?, at?]
      cases found : entries.lookup key with
      | none => rfl
      | some value =>
        cases lower : present.lookup key with
        | none =>
          simp only [Option.bind_some, Option.bind_none]
          cases at? path value <;> rfl
        | some below => exact ih (neat.of_lookup found) (inner value found) below
    · have absent : at? (key :: path) lower = none := by
        cases lower with
        | table present => exact absurd rfl (other present)
        | _ => rfl
      rw [merge_over_other other, absent]
      cases at? (key :: path) (.table entries) <;> rfl

theorem Opens.merge {path : List String} {lower upper : Value} (neat : upper.Neat)
    (below : Opens path lower) (above : Opens path upper) : Opens path (merge lower upper) := by
  induction path generalizing lower upper with
  | nil => exact trivial
  | cons key path ih =>
    obtain ⟨present, rfl, inner⟩ := below
    obtain ⟨entries, rfl, outer⟩ := above
    refine ⟨_, merge_table present entries, fun next found => ?_⟩
    rw [lookup_mergeEntries neat.nodup] at found
    split at found
    · next value old given kept =>
      cases found
      exact ih (neat.of_lookup given) (inner old kept) (outer value given)
    · next given _ =>
      cases found
      exact outer next given
    · exact inner next found

section

variable {α : Type} {read? : Value → Option α}

/-- What is read of the value at a path, if there is one. -/
def readAt? (read? : Value → Option α) (path : List String) (value : Value) : Option (Option α) :=
  (at? path value).map read?

theorem read?_merge (scalar : ∀ entries, read? (.table entries) = none) (lower upper : Value) :
    read? (merge lower upper) = read? upper := by
  rcases upper.table_or_other with ⟨entries, rfl⟩ | other
  · rcases lower.table_or_other with ⟨present, rfl⟩ | other
    · rw [merge_table, scalar, scalar]
    · rw [merge_over_other other]
  · rw [merge_of_not_table lower other]

/-- What is no table is read off the upper layer, and off the lower one where the upper has nothing. -/
theorem readAt?_merge (scalar : ∀ entries, read? (.table entries) = none) {path : List String}
    {upper : Value} (neat : upper.Neat) (opens : Opens path upper) (lower : Value) :
    readAt? read? path (merge lower upper) =
      (readAt? read? path upper).or (readAt? read? path lower) := by
  rw [readAt?, readAt?, readAt?, at?_merge neat opens]
  cases at? path upper with
  | none => rfl
  | some value =>
    cases at? path lower with
    | none => rfl
    | some present => exact congrArg some (read?_merge scalar present value)

end

end Value

end TabletopBot.Config
