/-! # Cutting texts

Where a text is cut in two or in pieces at a character, and whether one text occurs inside another.
-/

namespace TabletopBot.Text

section

variable {α : Type} {accepts : α → Bool} {front rest : List α}

/-- A run ends where nothing follows that belongs to it. -/
theorem takeWhile_append_of_stop (all : ∀ item ∈ front, accepts item = true)
    (stop : ∀ next ∈ rest.head?, accepts next = false) :
    (front ++ rest).takeWhile accepts = front := by
  rw [List.takeWhile_append_of_pos all]
  cases rest with
  | nil => exact List.append_nil front
  | cons next rest => rw [List.takeWhile_cons_of_neg (by simp [stop next rfl]), List.append_nil]

theorem dropWhile_append_of_stop (all : ∀ item ∈ front, accepts item = true)
    (stop : ∀ next ∈ rest.head?, accepts next = false) :
    (front ++ rest).dropWhile accepts = rest := by
  rw [List.dropWhile_append_of_pos all]
  cases rest with
  | nil => rfl
  | cons next rest => rw [List.dropWhile_cons_of_neg (by simp [stop next rfl])]

end

/-- A text cut at the first occurrence of a character, which belongs to neither side. -/
def cutAt? (mark : Char) : List Char → Option (List Char × List Char)
  | [] => none
  | char :: chars =>
    if char = mark then some ([], chars)
    else (cutAt? mark chars).map fun (before, behind) => (char :: before, behind)

theorem cutAt?_append {mark : Char} {before : List Char} (absent : mark ∉ before)
    (behind : List Char) : cutAt? mark (before ++ mark :: behind) = some (before, behind) := by
  induction before with
  | nil => simp [cutAt?]
  | cons char before ih =>
    rw [List.mem_cons, not_or] at absent
    simp [cutAt?, Ne.symm absent.1, ih absent.2]

theorem eq_append_of_cutAt? {mark : Char} {chars before behind : List Char}
    (cut : cutAt? mark chars = some (before, behind)) :
    chars = before ++ mark :: behind ∧ mark ∉ before := by
  induction chars generalizing before with
  | nil => simp [cutAt?] at cut
  | cons char chars ih =>
    rw [cutAt?] at cut
    split at cut
    · next same =>
      cases cut
      simp [same]
    · next differs =>
      obtain ⟨⟨first, second⟩, found, same⟩ := Option.map_eq_some_iff.mp cut
      cases same
      obtain ⟨shape, absent⟩ := ih found
      simp [shape, absent, Ne.symm differs]

theorem cutAt?_eq_some_iff {mark : Char} {chars before behind : List Char} :
    cutAt? mark chars = some (before, behind) ↔
      chars = before ++ mark :: behind ∧ mark ∉ before :=
  ⟨eq_append_of_cutAt?, fun ⟨shape, absent⟩ => shape ▸ cutAt?_append absent behind⟩

theorem cutAt?_eq_none_iff {mark : Char} {chars : List Char} :
    cutAt? mark chars = none ↔ mark ∉ chars := by
  induction chars with
  | nil => simp [cutAt?]
  | cons char chars ih =>
    rw [cutAt?]
    by_cases same : char = mark
    · simp [same]
    · simp [same, ih, Ne.symm same]

/-- The pieces of a text between occurrences of a character. -/
def splitAt (mark : Char) : List Char → List (List Char)
  | [] => [[]]
  | char :: rest =>
    if char = mark then [] :: splitAt mark rest
    else
      match splitAt mark rest with
      | [] => [[char]]
      | piece :: others => (char :: piece) :: others

theorem splitAt_of_not_mem {mark : Char} {chars : List Char} (absent : mark ∉ chars) :
    splitAt mark chars = [chars] := by
  induction chars with
  | nil => rfl
  | cons char chars ih =>
    rw [List.mem_cons, not_or] at absent
    rw [splitAt, if_neg (Ne.symm absent.1), ih absent.2]

theorem splitAt_append {mark : Char} {before : List Char} (absent : mark ∉ before)
    (behind : List Char) : splitAt mark (before ++ mark :: behind) = before :: splitAt mark behind := by
  induction before with
  | nil => rw [List.nil_append, splitAt, if_pos rfl]
  | cons char before ih =>
    rw [List.mem_cons, not_or] at absent
    rw [List.cons_append, splitAt, if_neg (Ne.symm absent.1), ih absent.2]

def occursIn (piece : List Char) : List Char → Bool
  | [] => piece.isEmpty
  | char :: chars => piece.isPrefixOf (char :: chars) || occursIn piece chars

theorem occursIn_eq_true_iff {piece chars : List Char} :
    occursIn piece chars = true ↔ piece <:+: chars := by
  induction chars with
  | nil => simp [occursIn, List.infix_nil]
  | cons char chars ih =>
    rw [occursIn, Bool.or_eq_true, List.isPrefixOf_iff_prefix, ih, List.infix_cons_iff]

end TabletopBot.Text
