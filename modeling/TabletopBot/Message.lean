import TabletopBot.Text.Blank

/-! # Splitting long answers

The chat platform takes messages of limited length, counted in characters. A text is cut into its
paragraphs, blank ones are dropped and white space at the end of each goes; then consecutive paragraphs
share a message as long as they fit. A paragraph that is too long by itself is cut at the limit.
-/

namespace TabletopBot.Message

def maxLength : Nat := 1900

/-- What separates paragraphs: an empty line. -/
def separator : List Char := ['\n', '\n']

/-- The pieces of a text between separators, found from left to right without overlap. -/
def pieces : List Char → List (List Char)
  | [] => [[]]
  | '\n' :: '\n' :: rest => [] :: pieces rest
  | char :: rest =>
    match pieces rest with
    | [] => [[char]]
    | piece :: others => (char :: piece) :: others

/-- The paragraphs of a text: trimmed at the end, and not blank. -/
def paragraphs (text : List Char) : List (List Char) :=
  ((pieces text).map Text.trimEnd).filter (!·.isEmpty)

/-- Consecutive slices of the greatest length, the last one possibly shorter. -/
def slices (chars : List Char) : List (List Char) :=
  if chars.isEmpty then [] else chars.take maxLength :: slices (chars.drop maxLength)
termination_by chars.length
decreasing_by
  next nonempty =>
    simp only [List.isEmpty_iff] at nonempty
    have positive := List.length_pos_iff.mpr nonempty
    simp only [List.length_drop, maxLength]
    omega

/-- The message that is being filled, unless it is still empty. -/
def finished (filling : List Char) : List (List Char) := if filling.isEmpty then [] else [filling]

/-- The messages that carry the remaining paragraphs, when one message is being filled. -/
def pack (filling : List Char) : List (List Char) → List (List Char)
  | [] => finished filling
  | paragraph :: rest =>
    if maxLength < paragraph.length then
      finished filling ++ slices paragraph ++ pack [] rest
    else if filling.isEmpty then pack paragraph rest
    else if filling.length + paragraph.length + 2 ≤ maxLength then
      pack (filling ++ separator ++ paragraph) rest
    else filling :: pack paragraph rest

/-- The messages that carry a text. -/
def split (text : String) : List String :=
  (pack [] (paragraphs text.toList)).map String.ofList

end TabletopBot.Message
