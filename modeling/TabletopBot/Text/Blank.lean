/-! # White space

White space is Unicode's `White_Space` property, 25 characters. The zero-width space U+200B, the
byte-order mark U+FEFF and the information separators U+001C to U+001F are not in it.
-/

namespace TabletopBot.Text

/-- The characters that carry Unicode's `White_Space` property. -/
def isBlank (char : Char) : Bool :=
  let code := char.toNat
  (9 ≤ code && code ≤ 13) || code = 32 || code = 0x85 || code = 0xA0 || code = 0x1680 ||
    (0x2000 ≤ code && code ≤ 0x200A) || code = 0x2028 || code = 0x2029 || code = 0x202F ||
    code = 0x205F || code = 0x3000

theorem isBlank_of_isWhitespace (char : Char) (white : char.isWhitespace = true) :
    isBlank char = true := by
  simp only [Char.isWhitespace, Bool.or_eq_true, decide_eq_true_eq] at white
  rcases white with ((rfl | rfl) | rfl) | rfl <;> decide

/-- A text is blank when it holds nothing but white space; the empty text is blank. -/
def Blank (chars : List Char) : Bool := chars.all isBlank

def trimEnd (chars : List Char) : List Char := (chars.reverse.dropWhile isBlank).reverse

def withoutBlanks (chars : List Char) : List Char := chars.filter (!isBlank ·)

@[simp] theorem withoutBlanks_append (left right : List Char) :
    withoutBlanks (left ++ right) = withoutBlanks left ++ withoutBlanks right :=
  List.filter_append ..

theorem withoutBlanks_eq_nil_iff {chars : List Char} :
    withoutBlanks chars = [] ↔ Blank chars = true := by
  simp only [withoutBlanks, List.filter_eq_nil_iff, Bool.not_eq_true', Bool.not_eq_false, Blank,
    List.all_eq_true]

theorem trimEnd_append_blanks (chars : List Char) :
    ∃ blanks, Blank blanks = true ∧ chars = trimEnd chars ++ blanks := by
  refine ⟨(chars.reverse.takeWhile isBlank).reverse, ?_, ?_⟩
  · simp only [Blank, List.all_reverse, List.all_takeWhile]
  · rw [trimEnd, ← List.reverse_append, List.takeWhile_append_dropWhile, List.reverse_reverse]

end TabletopBot.Text
