import TabletopBot.Json.Decoder
import TabletopBot.Proofs.Checks

/-! # What holds of every record that is read

A record is finished from a draft into which its fields were read one after the other. What holds of the
empty draft and is kept by reading each field holds of this draft, whichever way the record is written.
-/

namespace TabletopBot.Json

variable {δ α : Type} {record : Record δ α} {invariant : δ → Prop}

/-- Reading any field of a record keeps what holds of the draft. -/
def Record.Keeps (record : Record δ α) (invariant : δ → Prop) : Prop :=
  ∀ field ∈ record.fields, ∀ draft next tokens rest, invariant draft →
    field.read draft tokens = .ok (next, rest) → invariant next

theorem exists_of_close {draft : δ} (holds : invariant draft) {tokens rest : List Token} {value : α}
    (closed : record.close draft tokens = .ok (value, rest)) :
    ∃ draft, invariant draft ∧ record.finish draft = some value := by
  rw [Record.close] at closed
  split at closed
  · next finished =>
    cases closed
    exact ⟨draft, holds, finished⟩
  · cases closed

theorem exists_of_objectWithin (keeps : record.Keeps invariant) {bound : Nat} {turn : Turn} {draft : δ}
    (holds : invariant draft) {tokens rest : List Token} {value : α}
    (read : record.objectWithin bound turn draft tokens = .ok (value, rest)) :
    ∃ draft, invariant draft ∧ record.finish draft = some value := by
  induction bound generalizing turn draft tokens with
  | zero => cases read
  | succ bound ih =>
    obtain ⟨⟨key, behind⟩, -, read⟩ := bind_eq_ok_iff.1 read
    cases key with
    | none => exact exists_of_close holds read
    | some key =>
      simp only at read
      split at read
      · obtain ⟨_, -, read⟩ := bind_eq_ok_iff.1 read
        obtain ⟨_, -, read⟩ := bind_eq_ok_iff.1 read
        exact ih holds read
      · next field found =>
        split at read
        · cases read
        · obtain ⟨_, -, read⟩ := bind_eq_ok_iff.1 read
          obtain ⟨⟨next, left⟩, fieldRead, read⟩ := bind_eq_ok_iff.1 read
          exact ih (keeps field (List.mem_of_find?_eq_some found) _ _ _ _ holds fieldRead) read

theorem exists_of_listFrom (keeps : record.Keeps invariant) {fields : List (Field δ)}
    (among : fields ⊆ record.fields) {turn : Turn} {draft : δ} (holds : invariant draft)
    {tokens rest : List Token} {value : α}
    (read : record.listFrom fields turn draft tokens = .ok (value, rest)) :
    ∃ draft, invariant draft ∧ record.finish draft = some value := by
  induction fields generalizing turn draft tokens with
  | nil =>
    cases tokens with
    | nil => cases read
    | cons token tokens =>
      cases token with
      | closeBracket => exact exists_of_close holds read
      | _ => cases read
  | cons field fields ih =>
    obtain ⟨⟨more, behind⟩, -, read⟩ := bind_eq_ok_iff.1 read
    simp only at read
    split at read
    · obtain ⟨⟨next, left⟩, fieldRead, read⟩ := bind_eq_ok_iff.1 read
      refine ih (fun other member => among (List.mem_cons_of_mem _ member)) ?_ read
      exact keeps field (among (List.mem_cons_self ..)) _ _ _ _ holds fieldRead
    · exact exists_of_close holds read

/-- The draft from which a record is finished has what holds at the start and is kept by every field. -/
theorem exists_draft_of_decoder (keeps : record.Keeps invariant) (start : invariant record.start)
    {tokens rest : List Token} {value : α} (read : record.decoder tokens = .ok (value, rest)) :
    ∃ draft, invariant draft ∧ record.finish draft = some value := by
  rw [Record.decoder.eq_def] at read
  split at read
  · exact exists_of_objectWithin keeps start read
  · exact exists_of_listFrom keeps (List.Subset.refl _) start read
  · cases read

theorem natBelow_lt {limit value : Nat} {tokens rest : List Token}
    (read : natBelow limit tokens = .ok (value, rest)) : value < limit := by
  rw [natBelow.eq_def] at read
  split at read
  · split at read
    · cases read
    · split at read
      · cases read
      · next accepted =>
        cases read
        simp only [not_or, Nat.not_le] at accepted
        exact accepted.2.2
  · cases read

end TabletopBot.Json
