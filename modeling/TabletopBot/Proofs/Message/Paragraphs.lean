import TabletopBot.Message
import TabletopBot.Text.Cut
import Mathlib.Data.List.Forall2
import Mathlib.Data.List.Infix
import Mathlib.Data.List.TakeWhile

/-! # The paragraphs of a text

A text is cut at its empty lines, found from left to right without overlap, and its paragraphs are the
pieces that hold more than white space, without the white space at their ends. `Cut`, `Trimmed` and
`ParagraphsOf` say so without a reader, and leave no choice. Trimming and cutting lose white space alone.
-/

namespace TabletopBot.Text

/-- A text without the white space at its end. -/
structure Trimmed (text trimmed : List Char) : Prop where
  lost : ∃ blanks, Blank blanks = true ∧ text = trimmed ++ blanks
  ending : ∀ last ∈ trimmed.getLast?, isBlank last = false

theorem trimmed_trimEnd (chars : List Char) : Trimmed chars (trimEnd chars) where
  lost := trimEnd_append_blanks chars
  ending := by
    intro last ending
    have first := List.head?_dropWhile_not isBlank chars.reverse
    rw [trimEnd, List.getLast?_reverse] at ending
    rw [Option.mem_def.mp ending] at first
    exact first

/-- A text has one trimmed form. -/
theorem Trimmed.eq_trimEnd {text trimmed : List Char} (trims : Trimmed text trimmed) :
    trimmed = trimEnd text := by
  obtain ⟨blanks, blank, rfl⟩ := trims.lost
  rw [Blank, List.all_eq_true] at blank
  have behind : ∀ char ∈ blanks.reverse, isBlank char = true :=
    fun char member => blank char (List.mem_reverse.mp member)
  have ending := trims.ending
  rw [← List.head?_reverse] at ending
  rw [trimEnd, List.reverse_append, dropWhile_append_of_stop behind ending, List.reverse_reverse]

theorem trimEnd_eq_nil_iff {chars : List Char} : trimEnd chars = [] ↔ Blank chars = true := by
  simp only [trimEnd, List.reverse_eq_nil_iff, List.dropWhile_eq_nil_iff, List.mem_reverse, Blank,
    List.all_eq_true]

theorem blank_flatten_iff {texts : List (List Char)} :
    Blank texts.flatten = true ↔ ∀ text ∈ texts, Blank text = true := by
  rw [Blank, List.all_flatten, List.all_eq_true]
  rfl

@[simp] theorem withoutBlanks_trimEnd (chars : List Char) :
    withoutBlanks (trimEnd chars) = withoutBlanks chars := by
  obtain ⟨blanks, blank, shape⟩ := trimEnd_append_blanks chars
  conv_rhs => rw [shape]
  rw [withoutBlanks_append, withoutBlanks_eq_nil_iff.mpr blank, List.append_nil]

end TabletopBot.Text

namespace TabletopBot.Message

/-- The pieces of a text between empty lines. A piece does not end in a line feed where another follows,
since the separator would then have been found one place earlier. -/
structure Cut (text : List Char) (pieces : List (List Char)) : Prop where
  joined : separator.intercalate pieces = text
  separated : ∀ piece ∈ pieces, ¬separator <:+: piece
  leftmost : ∀ piece ∈ pieces.dropLast, ¬['\n'] <:+ piece

theorem pieces_ne_nil (text : List Char) : pieces text ≠ [] := by
  fun_induction pieces text with
  | case1 => simp
  | case2 rest ih => simp
  | case3 char rest _ nothing ih => simp
  | case4 char rest _ piece others shape ih => simp

private theorem prefix_of_cut {text piece : List Char} {others : List (List Char)}
    (cut : Cut text (piece :: others)) : piece <+: text := by
  rw [← cut.joined]
  cases others with
  | nil => simp
  | cons second others =>
    rw [List.intercalate_cons_cons, List.append_assoc]
    exact List.prefix_append _ _

/-- A piece in front of an empty line. -/
private theorem Cut.separator_append {text : List Char} {pieces : List (List Char)}
    (cut : Cut text pieces) (nonempty : pieces ≠ []) : Cut (separator ++ text) ([] :: pieces) where
  joined := by rw [List.intercalate_cons_of_ne_nil nonempty, cut.joined, List.nil_append]
  separated := by
    intro piece member
    rcases List.mem_cons.mp member with rfl | member
    · simp [separator]
    · exact cut.separated piece member
  leftmost := by
    intro piece member
    rw [List.dropLast_cons_of_ne_nil nonempty] at member
    rcases List.mem_cons.mp member with rfl | member
    · simp
    · exact cut.leftmost piece member

/-- A character in front of the first piece, where it does not complete an empty line. -/
private theorem Cut.cons {text piece : List Char} {others : List (List Char)} {char : Char}
    (cut : Cut text (piece :: others)) (within : ∀ rest, char = '\n' → text ≠ '\n' :: rest) :
    Cut (char :: text) ((char :: piece) :: others) where
  joined := by rw [List.intercalate_cons_cons_left, cut.joined]
  separated := by
    intro other member
    rcases List.mem_cons.mp member with rfl | member
    · intro inside
      rcases List.infix_cons_iff.mp inside with start | later
      · obtain ⟨same, start⟩ := List.cons_prefix_cons.mp start
        obtain ⟨rest, shape⟩ := start.trans (prefix_of_cut cut)
        exact within rest same.symm shape.symm
      · exact cut.separated piece List.mem_cons_self later
    · exact cut.separated other (List.mem_cons_of_mem _ member)
  leftmost := by
    intro other member ending
    cases others with
    | nil => simp at member
    | cons second others =>
      rw [List.dropLast_cons_cons] at member
      rcases List.mem_cons.mp member with rfl | member
      · rcases List.suffix_cons_iff.mp ending with same | later
        · injection same with same empty
          have joined := cut.joined
          rw [← empty, List.intercalate_cons_cons] at joined
          exact within _ same.symm joined.symm
        · exact cut.leftmost piece (by simp) later
      · exact cut.leftmost other (by simp [member]) ending

/-- The reader cuts a text at its empty lines from left to right. -/
theorem cut_pieces (text : List Char) : Cut text (pieces text) := by
  fun_induction pieces text with
  | case1 => exact ⟨rfl, by simp [separator], by simp⟩
  | case2 rest ih => exact ih.separator_append (pieces_ne_nil rest)
  | case3 char rest _ nothing _ => exact absurd nothing (pieces_ne_nil rest)
  | case4 char rest within piece others shape ih =>
    rw [shape] at ih
    exact ih.cons within

/-- A text in front of which an empty line stands has nothing in its first piece. -/
private theorem Cut.behind_separator {text : List Char} {pieces : List (List Char)}
    (cut : Cut (separator ++ text) pieces) : ∃ others, pieces = [] :: others ∧ others ≠ [] ∧ Cut text others := by
  obtain ⟨joined, separated, leftmost⟩ := cut
  cases pieces with
  | nil => exact absurd joined (by simp [separator])
  | cons piece others =>
    have further : others ≠ [] := by
      rintro rfl
      rw [List.intercalate_singleton] at joined
      exact separated piece (List.mem_singleton_self piece) ⟨[], text, joined.symm⟩
    have empty : piece = [] := by
      rw [List.intercalate_cons_of_ne_nil further] at joined
      match piece with
      | [] => rfl
      | [first] =>
        obtain ⟨rfl, _⟩ := List.cons.inj joined
        refine absurd (List.suffix_refl _) (leftmost _ ?_)
        rw [List.dropLast_cons_of_ne_nil further]
        exact List.mem_cons_self
      | first :: second :: rest =>
        obtain ⟨rfl, same⟩ := List.cons.inj joined
        obtain ⟨rfl, _⟩ := List.cons.inj same
        exact absurd ⟨[], rest, rfl⟩ (separated _ List.mem_cons_self)
    subst empty
    refine ⟨others, rfl, further, ?_, fun other member => separated other (List.mem_cons_of_mem _ member), ?_⟩
    · rw [List.intercalate_cons_of_ne_nil further, List.nil_append] at joined
      exact List.append_cancel_left joined
    · intro other member
      refine leftmost other ?_
      rw [List.dropLast_cons_of_ne_nil further]
      exact List.mem_cons_of_mem _ member

/-- Where a text does not start with an empty line, its first character is in its first piece. -/
private theorem Cut.behind_char {char : Char} {text : List Char} {pieces : List (List Char)}
    (cut : Cut (char :: text) pieces) (within : ∀ rest, char = '\n' → text ≠ '\n' :: rest) :
    ∃ piece others, pieces = (char :: piece) :: others ∧ Cut text (piece :: others) := by
  obtain ⟨joined, separated, leftmost⟩ := cut
  match pieces with
  | [] => exact absurd joined (by simp)
  | [[]] => exact absurd joined (by simp)
  | [] :: second :: others =>
    rw [List.intercalate_cons_cons] at joined
    obtain ⟨rfl, same⟩ := List.cons.inj joined
    exact absurd same.symm (within _ rfl)
  | (first :: piece) :: others =>
    rw [List.intercalate_cons_cons_left] at joined
    obtain ⟨rfl, behind⟩ := List.cons.inj joined
    refine ⟨piece, others, rfl, behind, ?_, ?_⟩
    · intro other member inside
      rcases List.mem_cons.mp member with rfl | member
      · exact separated _ List.mem_cons_self (List.infix_cons inside)
      · exact separated other (List.mem_cons_of_mem _ member) inside
    · intro other member ending
      cases others with
      | nil => exact absurd member (by simp)
      | cons second others =>
        rw [List.dropLast_cons_cons] at member
        rcases List.mem_cons.mp member with rfl | member
        · exact leftmost (first :: other) (by simp) (ending.trans (List.suffix_cons first other))
        · exact leftmost other (by simp [member]) ending

/-- A text is cut in one way. -/
theorem Cut.eq_pieces {text : List Char} {cutPieces : List (List Char)} (cut : Cut text cutPieces)
    (nonempty : cutPieces ≠ []) : cutPieces = pieces text := by
  fun_induction pieces text generalizing cutPieces with
  | case1 =>
    obtain ⟨piece, others, rfl⟩ := List.exists_cons_of_ne_nil nonempty
    have joined := cut.joined
    cases others with
    | nil =>
      rw [List.intercalate_singleton] at joined
      rw [joined]
    | cons second others => exact absurd joined (by simp [List.intercalate_cons_cons, separator])
  | case2 rest ih =>
    have behind : Cut (separator ++ rest) cutPieces := cut
    obtain ⟨others, rfl, further, behind⟩ := behind.behind_separator
    rw [ih behind further]
  | case3 char rest _ nothing _ => exact absurd nothing (pieces_ne_nil rest)
  | case4 char rest within piece others shape ih =>
    obtain ⟨first, further, rfl, behind⟩ := cut.behind_char within
    have same := ih behind (List.cons_ne_nil _ _)
    rw [shape] at same
    cases same
    rfl

/-- Joining adds white space alone. -/
theorem withoutBlanks_intercalate (pieces : List (List Char)) :
    Text.withoutBlanks (separator.intercalate pieces) = Text.withoutBlanks pieces.flatten := by
  have blank : Text.withoutBlanks separator = [] := by decide
  induction pieces with
  | nil => rfl
  | cons piece pieces ih =>
    cases pieces with
    | nil => simp
    | cons second others =>
      rw [List.intercalate_cons_cons, Text.withoutBlanks_append, Text.withoutBlanks_append, blank,
        List.append_nil, ih]
      exact (Text.withoutBlanks_append piece _).symm

/-- A join is white space when all its pieces are. -/
theorem blank_intercalate {pieces : List (List Char)} :
    Text.Blank (separator.intercalate pieces) = true ↔ ∀ piece ∈ pieces, Text.Blank piece = true := by
  rw [← Text.withoutBlanks_eq_nil_iff, withoutBlanks_intercalate, Text.withoutBlanks_eq_nil_iff,
    Text.blank_flatten_iff]

/-- The texts of the paragraphs of a text. -/
def ParagraphsOf (text : List Char) (paragraphs : List (List Char)) : Prop :=
  ∃ pieces trimmed, Cut text pieces ∧ List.Forall₂ Text.Trimmed pieces trimmed ∧
    trimmed.filter (· ≠ []) = paragraphs

theorem paragraphsOf_paragraphs (text : List Char) : ParagraphsOf text (paragraphs text) := by
  refine ⟨pieces text, (pieces text).map Text.trimEnd, cut_pieces text, ?_, ?_⟩
  · rw [List.forall₂_map_right_iff, List.forall₂_same]
    intro piece _
    exact Text.trimmed_trimEnd piece
  · rw [paragraphs]
    refine List.filter_congr ?_
    intro paragraph _
    cases paragraph <;> rfl

/-- A text has one list of paragraphs. -/
theorem ParagraphsOf.eq_paragraphs {text : List Char} {found : List (List Char)}
    (holds : ParagraphsOf text found) : found = paragraphs text := by
  obtain ⟨cutPieces, trimmed, cut, trims, rfl⟩ := holds
  have alike : List.Forall₂ (· = ·) (cutPieces.map Text.trimEnd) trimmed := by
    rw [List.forall₂_map_left_iff]
    exact trims.imp fun _ _ trim => trim.eq_trimEnd.symm
  rw [List.forall₂_eq_eq_eq] at alike
  subst alike
  have dropped (chars : List Char) : decide (chars ≠ []) = !chars.isEmpty := by
    cases chars <;> rfl
  rw [paragraphs, funext dropped]
  by_cases nothing : cutPieces = []
  · -- the empty text can also be cut into no pieces at all
    have joined := cut.joined
    subst nothing
    obtain rfl : [] = text := joined
    rfl
  · rw [cut.eq_pieces nothing]

theorem mem_paragraphs_iff {text paragraph : List Char} : paragraph ∈ paragraphs text ↔
    (∃ piece ∈ pieces text, Text.trimEnd piece = paragraph) ∧ paragraph ≠ [] := by
  simp only [paragraphs, List.mem_filter, List.mem_map, Bool.not_eq_true',
    List.isEmpty_eq_false_iff]

/-- A text has no paragraphs exactly when it is white space. -/
theorem paragraphs_eq_nil_iff {text : List Char} :
    paragraphs text = [] ↔ Text.Blank text = true := by
  rw [List.eq_nil_iff_forall_not_mem]
  conv_rhs => rw [← (cut_pieces text).joined, blank_intercalate]
  simp only [mem_paragraphs_iff, not_and, not_not, forall_exists_index, and_imp]
  constructor
  · intro nothing piece member
    exact Text.trimEnd_eq_nil_iff.mp (nothing _ piece member rfl)
  · rintro blank _ piece member rfl
    exact Text.trimEnd_eq_nil_iff.mpr (blank piece member)

/-- Trimming and dropping blank paragraphs lose white space alone. -/
theorem withoutBlanks_paragraphs (text : List Char) :
    Text.withoutBlanks (paragraphs text).flatten = Text.withoutBlanks text := by
  conv_rhs => rw [← (cut_pieces text).joined, withoutBlanks_intercalate]
  rw [paragraphs]
  induction pieces text with
  | nil => rfl
  | cons piece pieces ih =>
    rw [List.map_cons, List.flatten_cons, Text.withoutBlanks_append, ← ih, List.filter_cons]
    split
    · rw [List.flatten_cons, Text.withoutBlanks_append, Text.withoutBlanks_trimEnd]
    · next empty =>
      have blank : Text.trimEnd piece = [] := by simpa using empty
      rw [Text.withoutBlanks_eq_nil_iff.mpr (Text.trimEnd_eq_nil_iff.mp blank), List.nil_append]

end TabletopBot.Message
