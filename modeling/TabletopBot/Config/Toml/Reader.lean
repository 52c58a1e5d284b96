import TabletopBot.Config.Toml.Scalar
import TabletopBot.Config.Toml.Section

/-! # Reading TOML

A document is read line by line: headers, values under keys, comments. Only whether it is valid and what
it holds matter here, so a fault has no place and no wording. The bounds on recursion are taken from the
length of the text, of which every step uses up a character.
-/

namespace TabletopBot.Config.Toml

/-- Reads something from the front of a text and returns what is behind it. -/
abbrev Reader (α : Type) := List Char → Option (α × List Char)

/-- The greatest depth of nested lists and tables, and the longest dotted key. -/
def depthLimit : Nat := 80

def isSpace (char : Char) : Bool := char == ' ' || char == '\t'

def skipSpaces (chars : List Char) : List Char := chars.dropWhile isSpace

/-- The end of a line, if the text starts with one. -/
def newline? : List Char → Option (List Char)
  | '\n' :: rest => some rest
  | '\r' :: '\n' :: rest => some rest
  | _ => none

/-- Passes over a comment up to the end of its line; control characters may not stand in it. -/
def skipComment : List Char → Option (List Char)
  | '#' :: rest =>
    let comment := rest.takeWhile Text.isPlain
    let behind := rest.drop comment.length
    if behind.isEmpty ∨ (newline? behind).isSome then some behind else none
  | chars => some chars

/-- Passes over spaces and a comment up to the end of the line or of the text. -/
def endLine (chars : List Char) : Option (List Char) := do
  let rest ← skipComment (skipSpaces chars)
  if rest.isEmpty then some [] else newline? rest

/-- Passes over spaces, line ends and comments. The flag says that a comment is being passed over. -/
def skipLines : Bool → List Char → Option (List Char)
  | _, [] => some []
  | _, '\n' :: rest => skipLines false rest
  | _, '\r' :: '\n' :: rest => skipLines false rest
  | true, char :: rest => if Text.isPlain char then skipLines true rest else none
  | false, char :: rest =>
    if isSpace char then skipLines false rest
    else if char = '#' then skipLines true rest
    else some (char :: rest)

/-- A literal string behind its opening quote. -/
def literalString? : Reader (List Char)
  | [] => none
  | '\'' :: rest => some ([], rest)
  | char :: rest =>
    if Text.isPlain char then
      (literalString? rest).map fun (chars, behind) => (char :: chars, behind)
    else none

/-- A literal string of several lines behind its opening quotes. Up to two quotes may stand before the
closing ones. -/
def literalLines? : Reader (List Char)
  | [] => none
  | '\'' :: '\'' :: '\'' :: '\'' :: '\'' :: rest => some (['\'', '\''], rest)
  | '\'' :: '\'' :: '\'' :: '\'' :: rest => some (['\''], rest)
  | '\'' :: '\'' :: '\'' :: rest => some ([], rest)
  | '\r' :: '\n' :: rest => (literalLines? rest).map fun (chars, behind) => ('\n' :: chars, behind)
  | char :: rest =>
    if char = '\n' || Text.isPlain char then
      (literalLines? rest).map fun (chars, behind) => (char :: chars, behind)
    else none

/-- A string of several lines behind its opening quotes. The flag says that white space and line ends
are being passed over behind a backslash at the end of a line. -/
def basicLines? : Bool → Reader (List Char)
  | _, [] => none
  | true, ' ' :: rest => basicLines? true rest
  | true, '\t' :: rest => basicLines? true rest
  | true, '\n' :: rest => basicLines? true rest
  | true, '\r' :: '\n' :: rest => basicLines? true rest
  | _, '"' :: '"' :: '"' :: '"' :: '"' :: rest => some (['"', '"'], rest)
  | _, '"' :: '"' :: '"' :: '"' :: rest => some (['"'], rest)
  | _, '"' :: '"' :: '"' :: rest => some ([], rest)
  | _, '\\' :: 'u' :: a :: b :: c :: d :: rest => do
    let char ← Text.scalar? (← Text.hexNumber? [a, b, c, d])
    let (chars, behind) ← basicLines? false rest
    some (char :: chars, behind)
  | _, '\\' :: 'U' :: a :: b :: c :: d :: e :: f :: g :: h :: rest => do
    let char ← Text.scalar? (← Text.hexNumber? [a, b, c, d, e, f, g, h])
    let (chars, behind) ← basicLines? false rest
    some (char :: chars, behind)
  | _, '\\' :: letter :: rest =>
    match Text.basicEscape? letter with
    | some char => (basicLines? false rest).map fun (chars, behind) => (char :: chars, behind)
    | none =>
      if (newline? (skipSpaces (letter :: rest))).isSome then
        if letter = '\r' then basicLines? true rest.tail else basicLines? true rest
      else none
  | _, '\r' :: '\n' :: rest =>
    (basicLines? false rest).map fun (chars, behind) => ('\n' :: chars, behind)
  | _, char :: rest =>
    if char = '\n' || (Text.isPlain char && char ≠ '\\') then
      (basicLines? false rest).map fun (chars, behind) => (char :: chars, behind)
    else none
termination_by _ chars => chars.length

/-- Drops a line end right behind opening quotes. -/
def dropNewline (chars : List Char) : List Char := (newline? chars).getD chars

/-- A string in any of its four spellings. -/
def string? : Reader String
  | '"' :: '"' :: '"' :: rest =>
    (basicLines? false (dropNewline rest)).map fun (chars, behind) => (String.ofList chars, behind)
  | '"' :: rest => (Text.basicString? rest).map fun (chars, behind) => (String.ofList chars, behind)
  | '\'' :: '\'' :: '\'' :: rest =>
    (literalLines? (dropNewline rest)).map fun (chars, behind) => (String.ofList chars, behind)
  | '\'' :: rest => (literalString? rest).map fun (chars, behind) => (String.ofList chars, behind)
  | _ => none

def isKeyChar (char : Char) : Bool := char.isAlphanum || char == '_' || char == '-'

def keyPart? : Reader String
  | '"' :: rest => (Text.basicString? rest).map fun (chars, behind) => (String.ofList chars, behind)
  | '\'' :: rest => (literalString? rest).map fun (chars, behind) => (String.ofList chars, behind)
  | chars =>
    let part := chars.takeWhile isKeyChar
    if part.isEmpty then none else some (String.ofList part, chars.drop part.length)

/-- A dotted key as its parts, given a bound on their number, and what is behind it. -/
def keyParts? : Nat → Reader (List String)
  | 0, _ => none
  | bound + 1, chars => do
    let (part, rest) ← keyPart? (skipSpaces chars)
    match skipSpaces rest with
    | '.' :: behind =>
      let (parts, left) ← keyParts? bound behind
      some (part :: parts, left)
    | behind => some ([part], behind)

/-- A dotted key as the path to its last part. -/
def key? : Reader (List String × String) := fun chars => do
  let (parts, rest) ← keyParts? (depthLimit - 1) chars
  let last ← parts.getLast?
  some ((parts.dropLast, last), rest)

/-- A scalar. A date and a time may be separated by a space. -/
def word? : Reader Value := fun chars =>
  let word := chars.takeWhile isWordChar
  let rest := chars.drop word.length
  match rest with
  | ' ' :: a :: b :: ':' :: _ =>
    if isDate word && Text.isDigit a && Text.isDigit b then
      let time := rest.tail.takeWhile isWordChar
      if isZonedTime time then some (moment, rest.tail.drop time.length) else none
    else (scalar? word).map fun value => (value, rest)
  | _ => (scalar? word).map fun value => (value, rest)

mutual

/-- A value. The first number bounds the steps, the second one the depth of nesting. -/
def value? : Nat → Nat → Reader Value
  | 0, _, _ => none
  | _ + 1, 0, _ => none
  | bound + 1, depth + 1, chars =>
    match chars with
    | '"' :: _ | '\'' :: _ => (string? chars).map fun (text, rest) => (.text text, rest)
    | '[' :: rest => do
      let start ← skipLines false rest
      let (items, behind) ← items? bound depth start
      some (.list items, behind)
    | '{' :: rest =>
      match skipSpaces rest with
      | '}' :: behind => if depth = 0 then none else some (.table [], behind)
      | start => do
        let (entries, behind) ← entries? bound depth Section.document start
        some (.table (entryValues entries.entries), behind)
    | _ => word? chars

/-- The items of a list up to its closing bracket; a comma may stand behind the last one. -/
def items? : Nat → Nat → Reader (List Value)
  | 0, _, _ => none
  | bound + 1, depth, chars =>
    match chars with
    | ']' :: rest => if depth = 0 then none else some ([], rest)
    | _ => do
      let (item, rest) ← value? bound depth chars
      match ← skipLines false rest with
      | ',' :: behind =>
        let (items, left) ← items? bound depth (← skipLines false behind)
        some (item :: items, left)
      | ']' :: behind => some ([item], behind)
      | _ => none

/-- The entries of a table written in one line up to its closing brace, put into a section. -/
def entries? : Nat → Nat → Section → Reader Section
  | 0, _, _, _ => none
  | bound + 1, depth, current, chars => do
    let ((path, key), rest) ← key? chars
    match rest with
    | '=' :: behind =>
      let (value, left) ← value? bound depth (skipSpaces behind)
      let next ← current.addValue path key value
      match skipSpaces left with
      | ',' :: more => entries? bound depth next more
      | '}' :: last => some (next, last)
      | _ => none
    | _ => none

end

/-- One line of a document: the header that is in force behind it and the document so far. The bound is
one for the steps that a value takes. -/
def line? (bound : Nat) (header : List String) (document : Section) (chars : List Char) :
    Option (List String × Section × List Char) :=
  match chars with
  | '[' :: '[' :: rest => do
    let ((path, key), behind) ← key? rest
    match behind with
    | ']' :: ']' :: left => some (path ++ [key], ← document.openItem path key, ← endLine left)
    | _ => none
  | '[' :: rest => do
    let ((path, key), behind) ← key? rest
    match behind with
    | ']' :: left => some (path ++ [key], ← document.openTable path key, ← endLine left)
    | _ => none
  | _ => do
    let ((path, key), behind) ← key? chars
    match behind with
    | '=' :: rest =>
      let (value, left) ← value? bound depthLimit (skipSpaces rest)
      let next ← Section.changeAt false (·.addValue path key value) header document
      some (header, next, ← endLine left)
    | _ => none

/-- The lines of a document, given a bound on their number and one for the steps that a value takes. -/
def lines? (steps : Nat) : Nat → List String → Section → List Char → Option Section
  | 0, _, document, chars => if chars.isEmpty then some document else none
  | bound + 1, header, document, chars => do
    let start ← skipLines false chars
    if start.isEmpty then some document
    else
      let (next, changed, rest) ← line? steps header document start
      lines? steps bound next changed rest

/-- Reads a document; a byte-order mark at its start is passed over. -/
def parse? (document : List Char) : Option Entries :=
  let chars :=
    match document with
    | '\uFEFF' :: rest => rest
    | _ => document
  (lines? (2 * chars.length + 2) (chars.length + 1) [] Section.document chars).map fun content =>
    entryValues content.entries

end TabletopBot.Config.Toml
