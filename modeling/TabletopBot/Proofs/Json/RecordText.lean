import TabletopBot.Proofs.Json.ValueText

/-! # Records as they are written

A record is written as an object. Its fields stand in any order, each at most once, among further ones
with values of every kind, and a field that need not be there may be left out. However this is done, the
decoder gives the same record (`exists_reads_record`): the draft depends only on which fields have been
read, which is the invariant of reading one entry after the other.
-/

namespace TabletopBot.Json

/-- How a field of a record is written: its name, its values, and whether it has to be there. -/
structure FieldForm where
  name : String
  Written : List Char → Prop
  required : Bool

/-- A key of an object with its value: a field of the record, or another key with any value. -/
inductive EntryText (forms : List FieldForm) : String → List Char → Prop
  | known {form : FieldForm} {a b c d name value : List Char} : form ∈ forms → Spaces a →
      Literal form.name name → Spaces b → Spaces c → form.Written value → Spaces d →
      EntryText forms form.name (a ++ name ++ b ++ [':'] ++ c ++ value ++ d)
  | further {key : String} {a b c d name value : List Char} : (∀ form ∈ forms, form.name ≠ key) →
      Spaces a → Literal key name → Spaces b → Spaces c → ValueText value → Spaces d →
      EntryText forms key (a ++ name ++ b ++ [':'] ++ c ++ value ++ d)

/-- Entries with commas between them, at least one, and their keys in order. -/
inductive EntriesText (forms : List FieldForm) : List String → List Char → Prop
  | last {key : String} {written : List Char} :
      EntryText forms key written → EntriesText forms [key] written
  | cons {key : String} {keys : List String} {written others : List Char} :
      EntryText forms key written → EntriesText forms keys others →
      EntriesText forms (key :: keys) (written ++ [','] ++ others)

/-- No field is repeated, and none that has to be there is left out. -/
def Complete (forms : List FieldForm) (keys : List String) : Prop :=
  ∀ form ∈ forms, keys.count form.name ≤ 1 ∧ (form.required = true → form.name ∈ keys)

instance (forms : List FieldForm) (keys : List String) : Decidable (Complete forms keys) :=
  List.decidableBAll _ forms

/-- An object with the fields of a record. -/
inductive RecordText (forms : List FieldForm) : List Char → Prop
  | empty {a : List Char} :
      Complete forms [] → Spaces a → RecordText forms (['\x7b'] ++ a ++ ['\x7d'])
  | entries {keys : List String} {written : List Char} : EntriesText forms keys written →
      Complete forms keys → RecordText forms (['\x7b'] ++ written ++ ['\x7d'])

/-- The word that stands for a value that is not there, or the value. -/
def OptionalText {α : Type} (Written : α → List Char → Prop) : Option α → List Char → Prop
  | none, written => written = Word.null.letters
  | some value, written => Written value written

section

variable {δ α : Type} {record : Record δ α} {forms : List FieldForm} {draft : List String → δ}

/-- The decoder of a record reads its forms, and what it has made of them is told by the keys read. -/
structure ReadsForms (record : Record δ α) (forms : List FieldForm) (draft : List String → δ) :
    Prop where
  start : draft [] = record.start
  further : ∀ key, (∀ form ∈ forms, form.name ≠ key) →
    record.fields.find? (·.name == key) = none ∧ ∀ keys, draft (keys ++ [key]) = draft keys
  known : ∀ form ∈ forms, ∃ field, record.fields.find? (·.name == form.name) = some field ∧
    (∀ keys, form.name ∉ keys → field.known (draft keys) = false) ∧
    ∀ written, form.Written written → ∃ tokens, Cut written tokens ∧ ∀ keys rest,
      field.read (draft keys) (tokens ++ rest) = .ok (draft (keys ++ [form.name]), rest)

theorem objectWithin_further {key : String} (unknown : record.fields.find? (·.name == key) = none)
    {name : Token} (denotes : StringToken key name) {value : List Token} (skips : Skips .value value)
    (bound : Nat) (turn : Turn) (present : δ) (rest : List Token) :
    record.objectWithin (bound + 1) turn present
        (marksBefore turn ++ (name :: .colon :: value ++ rest)) =
      record.objectWithin bound .later present rest := by
  rw [Record.objectWithin, List.cons_append, nextKey_stringToken denotes]
  simp only [bind, Except.bind, unknown, List.cons_append, skipColon, skipValue_append skips]

theorem objectWithin_known {key : String} {field : Field δ}
    (found : record.fields.find? (·.name == key) = some field) {present next : δ}
    (fresh : field.known present = false) {name : Token} (denotes : StringToken key name)
    {value rest : List Token} (read : field.read present (value ++ rest) = .ok (next, rest))
    (bound : Nat) (turn : Turn) :
    record.objectWithin (bound + 1) turn present
        (marksBefore turn ++ (name :: .colon :: value ++ rest)) =
      record.objectWithin bound .later next rest := by
  rw [Record.objectWithin, List.cons_append, nextKey_stringToken denotes]
  simp only [bind, Except.bind, found, fresh, Bool.false_eq_true, if_false, List.cons_append, skipColon,
    read]

/-- One entry more is read into the draft. -/
theorem objectWithin_entry (reads : ReadsForms record forms draft) {key : String} {written : List Char}
    (entry : EntryText forms key written) : ∃ tokens, CutBefore written tokens ∧ 1 ≤ tokens.length ∧
      ∀ bound turn keys rest, ((∃ form ∈ forms, form.name = key) → key ∉ keys) →
        record.objectWithin (bound + 1) turn (draft keys) (marksBefore turn ++ (tokens ++ rest)) =
          record.objectWithin bound .later (draft (keys ++ [key])) rest := by
  cases entry with
  | known member a name b c value d =>
    obtain ⟨field, found, fresh, written⟩ := reads.known _ member
    obtain ⟨tokens, cut, read⟩ := written _ value
    obtain ⟨token, denotes, nameCut⟩ := cut_literal name
    refine ⟨_, cut.before.entry nameCut a b c d, Nat.le_add_left 1 _, ?_⟩
    intro bound turn keys rest new
    exact objectWithin_known found (fresh keys (new ⟨_, member, rfl⟩)) denotes (read keys rest) bound turn
  | further other a name b c value d =>
    obtain ⟨unknown, same⟩ := reads.further key other
    obtain ⟨tokens, cut, skips⟩ := exists_skips value
    obtain ⟨token, denotes, nameCut⟩ := cut_literal name
    refine ⟨_, cut.entry nameCut a b c d, Nat.le_add_left 1 _, ?_⟩
    intro bound turn keys rest _
    rw [same]
    exact objectWithin_further unknown denotes skips bound turn _ rest

theorem not_mem_of_count_le {key : String} {keys others : List String}
    (once : (keys ++ key :: others).count key ≤ 1) : key ∉ keys := by
  intro member
  have before := List.count_pos_iff.mpr member
  rw [List.count_append, List.count_cons_self] at once
  omega

/-- All entries are read into the draft, up to the closing brace. -/
theorem objectWithin_entries (reads : ReadsForms record forms draft) {keys : List String}
    {written : List Char} (entries : EntriesText forms keys written) : ∃ tokens,
      CutBefore written tokens ∧ ∀ bound turn earlier rest, tokens.length < bound →
        (∀ form ∈ forms, (earlier ++ keys).count form.name ≤ 1) →
        record.objectWithin bound turn (draft earlier)
          (marksBefore turn ++ (tokens ++ .closeBrace :: rest)) =
          record.close (draft (earlier ++ keys)) rest := by
  induction entries with
  | last entry =>
    obtain ⟨tokens, cut, nonempty, read⟩ := objectWithin_entry reads entry
    refine ⟨tokens, cut, ?_⟩
    intro bound turn earlier rest fits once
    obtain ⟨least, rfl⟩ := Nat.exists_eq_add_of_le' (show 2 ≤ bound by omega)
    rw [read (least + 1) turn earlier _ ?_]
    · rfl
    · rintro ⟨form, member, rfl⟩
      exact not_mem_of_count_le (once form member)
  | @cons key keys _ _ entry _ ih =>
    obtain ⟨tokens, cut, nonempty, read⟩ := objectWithin_entry reads entry
    obtain ⟨others, behind, readOthers⟩ := ih
    have comma : Cut [','] [.comma] := cut_token (by decide) (by decide) fun _ => rfl
    refine ⟨_, (cut.append_mark (by decide) (by decide) comma).append_before behind, ?_⟩
    intro bound turn earlier rest fits once
    rw [List.length_append, List.length_append] at fits
    obtain ⟨least, rfl⟩ := Nat.exists_eq_add_of_le' (show 1 ≤ bound by omega)
    rw [List.append_assoc, List.append_assoc, read least turn earlier _ ?_]
    · have later := readOthers least .later (earlier ++ [key]) rest (by omega) (by simpa using once)
      rw [List.append_assoc] at later
      exact later
    · rintro ⟨form, member, rfl⟩
      exact not_mem_of_count_le (once form member)

/-- However a record is written, it is cut into tokens from which the same record is read. -/
theorem exists_reads_record (reads : ReadsForms record forms draft) {value : α}
    (finished : ∀ keys, Complete forms keys → record.finish (draft keys) = some value)
    {written : List Char} (text : RecordText forms written) : ∃ tokens, Cut written tokens ∧
      ∀ rest, record.decoder (tokens ++ rest) = .ok (value, rest) := by
  have brace : Cut ['\x7b'] [.openBrace] := cut_token (by decide) (by decide) fun _ => rfl
  have close : Cut ['\x7d'] [.closeBrace] := cut_token (by decide) (by decide) fun _ => rfl
  have closed {keys : List String} (complete : Complete forms keys) (rest : List Token) :
      record.close (draft keys) rest = .ok (value, rest) := by
    rw [Record.close, finished keys complete]
  cases text with
  | empty complete spaces =>
    refine ⟨_, (brace.append (cut_spaces spaces)).append close, ?_⟩
    intro rest
    have first := closed complete rest
    rw [reads.start] at first
    exact first
  | @entries keys _ entries complete =>
    obtain ⟨tokens, cut, read⟩ := objectWithin_entries reads entries
    refine ⟨[.openBrace] ++ (tokens ++ [.closeBrace]), ?_, ?_⟩
    · rw [List.append_assoc]
      exact brace.append (cut.append_mark (by decide) (by decide) close)
    · intro rest
      have all := read ((tokens ++ .closeBrace :: rest).length + 1) .first [] rest
        (by rw [List.length_append]; exact Nat.lt_succ_of_le (Nat.le_add_right _ _))
        (fun form member => (complete form member).1)
      rw [reads.start] at all
      simp only [List.append_assoc, List.cons_append, List.nil_append]
      exact all.trans (closed complete rest)

end

end TabletopBot.Json
