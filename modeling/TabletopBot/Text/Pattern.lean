/-! # Patterns and replacement

A pattern is a sequence of items, each one character or a greedy run of characters of a class. Matching
tries the longest run first and gives characters back when the rest of the pattern needs them.
Replacement goes from left to right over matches that do not overlap.

`length?` and `replaceBehind` say what matching and replacing mean. Giving back can take long, so
`replaceAll` finds the lengths at all places in one pass from right to left, by `replaceAll_eq` with the
same outcome.
-/

namespace TabletopBot.Text

/-- One item of a pattern: a single character of a class, or any number of them, as many as can be. -/
inductive PatternItem where
  | one (accepts : Char → Bool)
  | many (accepts : Char → Bool)

abbrev Pattern := List PatternItem

namespace Pattern

def literal (text : String) : Pattern := text.toList.map fun char => .one (· == char)

/-- The number of characters that a pattern matches at the front of a text. -/
def length? : Pattern → List Char → Option Nat
  | [], _ => some 0
  | .one _ :: _, [] => none
  | .one accepts :: items, char :: chars =>
    if accepts char then (length? items chars).map (· + 1) else none
  | .many _ :: items, [] => length? items []
  | .many accepts :: items, char :: chars =>
    if accepts char then
      match length? (.many accepts :: items) chars with
      | some length => some (length + 1)
      | none => length? items (char :: chars)
    else length? items (char :: chars)
termination_by items chars => items.length + chars.length

/-- Replaces every match behind a number of characters that are dropped, from left to right; a match has
to use up at least one character. -/
def replaceBehind (pattern : Pattern) (replacement : List Char) : Nat → List Char → List Char
  | _, [] => []
  | dropped + 1, _ :: chars => replaceBehind pattern replacement dropped chars
  | 0, char :: chars =>
    match pattern.length? (char :: chars) with
    | some (length + 1) => replacement ++ replaceBehind pattern replacement length chars
    | _ => char :: replaceBehind pattern replacement 0 chars

/-- What a pattern and its ends, each one item shorter than the one before, match at one place. -/
abbrev Row := List (Option Nat)

/-- The row at the end of a text. -/
def endRow : Pattern → Row
  | [] => [some 0]
  | .one _ :: items => none :: endRow items
  | .many _ :: items =>
    let row := endRow items
    row.headD none :: row

/-- The row in front of a character, given the row behind it. -/
def rowBefore (char : Char) : Pattern → Row → Row
  | [], _ => [some 0]
  | .one accepts :: items, behind =>
    (if accepts char then (behind.tail.headD none).map (· + 1) else none) ::
      rowBefore char items behind.tail
  | .many accepts :: items, behind =>
    let row := rowBefore char items behind.tail
    (if accepts char then (behind.headD none).map (· + 1) <|> row.headD none else row.headD none) ::
      row

/-- The row in front of a text, and each character with the length of the match that starts there. -/
def marked (pattern : Pattern) : List Char → Row × List (Char × Option Nat)
  | [] => (endRow pattern, [])
  | char :: chars =>
    let (behind, rest) := marked pattern chars
    let row := rowBefore char pattern behind
    (row, (char, row.headD none) :: rest)

/-- Replaces the matches that are marked behind a number of characters that are dropped. -/
def replaceMarked (replacement : List Char) : Nat → List (Char × Option Nat) → List Char
  | _, [] => []
  | dropped + 1, _ :: rest => replaceMarked replacement dropped rest
  | 0, (char, length) :: rest =>
    match length with
    | some (length + 1) => replacement ++ replaceMarked replacement length rest
    | _ => char :: replaceMarked replacement 0 rest

def replaceAll (pattern : Pattern) (replacement chars : List Char) : List Char :=
  replaceMarked replacement 0 (marked pattern chars).2

/-- The row that belongs in front of a text. -/
def rowAt : Pattern → List Char → Row
  | [], chars => [length? [] chars]
  | item :: items, chars => length? (item :: items) chars :: rowAt items chars

theorem headD_rowAt (pattern : Pattern) (chars : List Char) :
    (rowAt pattern chars).headD none = pattern.length? chars := by
  cases pattern <;> rfl

theorem endRow_eq (pattern : Pattern) : endRow pattern = rowAt pattern [] := by
  induction pattern with
  | nil => rw [endRow, rowAt, length?]
  | cons item items ih =>
    cases item <;> simp only [endRow, rowAt, length?, ih, headD_rowAt]

theorem rowBefore_eq (char : Char) (pattern : Pattern) (chars : List Char) :
    rowBefore char pattern (rowAt pattern chars) = rowAt pattern (char :: chars) := by
  induction pattern with
  | nil => rw [rowBefore, rowAt, length?]
  | cons item items ih =>
    cases item with
    | one accepts =>
      simp only [rowBefore, rowAt, length?, List.tail_cons, headD_rowAt, ih]
    | many accepts =>
      simp only [rowBefore, rowAt, List.tail_cons, List.headD_cons, headD_rowAt, ih]
      rw [length?]
      cases length? (.many accepts :: items) chars <;> rfl

theorem marked_fst (pattern : Pattern) (chars : List Char) :
    (marked pattern chars).1 = rowAt pattern chars := by
  induction chars with
  | nil => exact endRow_eq pattern
  | cons char chars ih => simp only [marked, ih, rowBefore_eq]

theorem replaceMarked_marked (pattern : Pattern) (replacement chars : List Char) (dropped : Nat) :
    replaceMarked replacement dropped (marked pattern chars).2 =
      replaceBehind pattern replacement dropped chars := by
  induction chars generalizing dropped with
  | nil => cases dropped <;> rfl
  | cons char chars ih =>
    have found : (rowBefore char pattern (marked pattern chars).1).headD none =
        pattern.length? (char :: chars) := by
      rw [marked_fst, rowBefore_eq, headD_rowAt]
    cases dropped with
    | zero => simp only [marked, replaceMarked, replaceBehind, found, ih]
    | succ dropped => exact ih dropped

/-- Looking for the matches from right to left does not change what is replaced. -/
theorem replaceAll_eq (pattern : Pattern) (replacement chars : List Char) :
    pattern.replaceAll replacement chars = replaceBehind pattern replacement 0 chars :=
  replaceMarked_marked pattern replacement chars 0

end Pattern

end TabletopBot.Text
