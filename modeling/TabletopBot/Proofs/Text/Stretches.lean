import TabletopBot.Text.Blank
import Mathlib.Data.List.Basic

/-! # Stretches of white space

A text is in one way a row of stretches, of white space and of other characters in turn, each as long as
it can be. What keeps the kind of each stretch keeps the row.
-/

namespace TabletopBot.Text

/-- A text as its stretches, in each of which all characters or none are white space, and none of which
could be longer. -/
inductive Stretches : List Char → List (List Char) → Prop
  | nil : Stretches [] []
  | cons {part text : List Char} {parts : List (List Char)} {blank : Bool} (nonempty : part ≠ [])
      (alike : ∀ char ∈ part, isBlank char = blank)
      (longest : ∀ next ∈ text.head?, isBlank next ≠ blank) (rest : Stretches text parts) :
      Stretches (part ++ text) (part :: parts)

theorem exists_stretches (text : List Char) : ∃ parts, Stretches text parts := by
  induction text with
  | nil => exact ⟨[], .nil⟩
  | cons char text ih =>
    obtain ⟨parts, stretches⟩ := ih
    have single : ∀ other ∈ [char], isBlank other = isBlank char := by simp
    cases stretches with
    | nil => exact ⟨[[char]], .cons (List.cons_ne_nil _ _) single (by simp) .nil⟩
    | @cons part text parts blank some alike longest rest =>
      by_cases same : isBlank char = blank
      · refine ⟨(char :: part) :: parts, .cons (List.cons_ne_nil _ _) ?_ longest rest⟩
        rintro other member
        rcases List.mem_cons.mp member with rfl | member
        · exact same
        · exact alike other member
      · refine ⟨[char] :: part :: parts,
          .cons (List.cons_ne_nil _ _) single ?_ (.cons some alike longest rest)⟩
        intro next first
        obtain ⟨head, others, rfl⟩ := List.exists_cons_of_ne_nil some
        obtain rfl : head = next := Option.some.inj first
        rw [alike head List.mem_cons_self]
        exact Ne.symm same

theorem Stretches.flatten_eq {text : List Char} {parts : List (List Char)}
    (stretches : Stretches text parts) : parts.flatten = text := by
  induction stretches with
  | nil => rfl
  | cons _ _ _ _ ih => rw [List.flatten_cons, ih]

/-- What leaves every stretch one of its kind gives the stretches of the outcome. -/
theorem Stretches.map {text : List Char} {parts : List (List Char)} (stretches : Stretches text parts)
    {change : List Char → List Char}
    (keeps : ∀ (blank : Bool) (part : List Char), part ≠ [] → (∀ char ∈ part, isBlank char = blank) →
      change part ≠ [] ∧ ∀ char ∈ change part, isBlank char = blank) :
    Stretches (parts.flatMap change) (parts.map change) := by
  induction stretches with
  | nil => exact .nil
  | @cons part text parts blank nonempty alike longest rest ih =>
    obtain ⟨changed, kind⟩ := keeps blank part nonempty alike
    refine .cons changed kind ?_ ih
    cases rest with
    | nil => simp
    | @cons second text parts other someToo alikeToo =>
      obtain ⟨changedToo, kindToo⟩ := keeps other second someToo alikeToo
      obtain ⟨first, others, shape⟩ := List.exists_cons_of_ne_nil someToo
      obtain ⟨next, behind, changedShape⟩ := List.exists_cons_of_ne_nil changedToo
      rw [List.map_cons, List.flatten_cons, changedShape]
      rintro _ ⟨⟩
      rw [kindToo next (changedShape ▸ List.mem_cons_self),
        ← alikeToo first (shape ▸ List.mem_cons_self)]
      exact longest first (by rw [shape]; rfl)

/-- White space within a text lies within one stretch of it. -/
theorem Stretches.exists_of_infix {text : List Char} {parts : List (List Char)}
    (stretches : Stretches text parts) {run : List Char} (nonempty : run ≠ [])
    (white : Blank run = true) (within : run <:+: text) :
    ∃ part ∈ parts, Blank part = true ∧ run <:+: part := by
  rw [Blank, List.all_eq_true] at white
  induction stretches with
  | nil => exact absurd (List.infix_nil.mp within) nonempty
  | @cons part text parts blank _ alike longest _ ih =>
    have here (inside : run <:+: part) :
        ∃ found ∈ part :: parts, Blank found = true ∧ run <:+: found := by
      obtain ⟨char, member⟩ := List.exists_mem_of_ne_nil run nonempty
      obtain rfl : blank = true := (alike char (inside.subset member)).symm.trans (white char member)
      exact ⟨part, List.mem_cons_self, List.all_eq_true.mpr alike, inside⟩
    have behindIt (inside : run <:+: text) :
        ∃ found ∈ part :: parts, Blank found = true ∧ run <:+: found := by
      obtain ⟨found, member, rest⟩ := ih inside
      exact ⟨found, List.mem_cons_of_mem _ member, rest⟩
    obtain ⟨before, behind, split⟩ := within
    rw [List.append_assoc] at split
    rcases List.append_eq_append_iff.mp split with ⟨start, shape, inner⟩ | ⟨gap, -, inner⟩
    · -- it begins in the first stretch, and cannot both have some of it and go on behind
      rcases List.append_eq_append_iff.mp inner with ⟨left, startShape, -⟩ | ⟨more, shared, textShape⟩
      · exact here ⟨before, left, by rw [shape, startShape, List.append_assoc]⟩
      cases more with
      | nil => exact here ⟨before, [], by rw [shape, shared, List.append_nil, List.append_nil]⟩
      | cons next more =>
        cases start with
        | nil => exact behindIt ⟨[], behind, by rw [textShape, shared]; rfl⟩
        | cons first start =>
          have same : isBlank first = blank := alike first (by simp [shape])
          have differ : isBlank next ≠ blank := longest next (by simp [textShape])
          rw [← same, white first (by simp [shared]), white next (by simp [shared])] at differ
          exact absurd rfl differ
    · exact behindIt ⟨gap, behind, by rw [List.append_assoc, inner]⟩

end TabletopBot.Text
