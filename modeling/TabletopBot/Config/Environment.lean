import TabletopBot.Config.Value
import TabletopBot.Text.Blank
import TabletopBot.Text.Cut
import TabletopBot.Text.Decimal
import TabletopBot.Text.Escape

/-! # Settings from environment variables

A variable sets a value when its name starts with the prefix, in any case. The rest of the name is put
in lower case, two underscores or a dot lead into a table, and a name with an empty part is ignored. The
text of a variable is read as a value: a boolean, a table in braces, a list in brackets, a string in
double quotes, a character in single ones, a number. A text that is none of these is taken as it is.
-/

namespace TabletopBot.Config.Environment

def namePrefix : String := "BOREDBOT_"

/-- The text behind a start that is compared without regard to ASCII case. -/
def stripPrefix? : List Char → List Char → Option (List Char)
  | [], chars => some chars
  | _ :: _, [] => none
  | expected :: more, char :: chars =>
    if expected.toLower = char.toLower then stripPrefix? more chars else none

/-- Dots in the place of double underscores, from left to right. -/
def dotted : List Char → List Char
  | '_' :: '_' :: rest => '.' :: dotted rest
  | char :: rest => char :: dotted rest
  | [] => []

def trim (chars : List Char) : List Char := Text.trimEnd (chars.dropWhile Text.isBlank)

/-- The path of keys that a variable's name stands for, if it is one of ours. -/
def path? (name : String) : Option (List String) := do
  let rest ← stripPrefix? namePrefix.toList (trim name.toList)
  let keys := Text.splitAt '.' (trim (dotted rest))
  if keys.any (·.isEmpty) then none
  else some (keys.map fun key => String.ofList (key.map Char.toLower))

/-- The white space between the parts of a value, ASCII only. -/
def isSpace (char : Char) : Bool :=
  char == ' ' || char == '\t' || char == '\n' || char == '\x0c' || char == '\r'

def skipSpaces (chars : List Char) : List Char := chars.dropWhile isSpace

def isSeparator (char : Char) : Bool :=
  char == ',' || char == '{' || char == '}' || char == '[' || char == ']'

def isKeyChar (char : Char) : Bool := char.isAlphanum || char == '_' || char == '-'

/-- An integer of 64 bits, without or with a sign. -/
def integer? (chars : List Char) : Option Int :=
  match Text.splitSign chars with
  | (false, digits) => (Text.natUpTo? (UInt64.size - 1) digits).map Int.ofNat
  | (true, digits) => (Text.natUpTo? integerLimit digits).map fun magnitude => -(magnitude : Int)

/-- A number with a decimal point; digits may be missing on one side of it. -/
def isFloat (chars : List Char) : Bool :=
  let unsigned := (Text.splitSign chars).2
  let whole := unsigned.takeWhile Text.isDigit
  match unsigned.drop whole.length with
  | '.' :: behind =>
    let fraction := behind.takeWhile Text.isDigit
    (!whole.isEmpty || !fraction.isEmpty) &&
      match behind.drop fraction.length with
      | [] => true
      | mark :: exponent =>
        (mark == 'e' || mark == 'E') && Text.isDigitRun (Text.splitSign exponent).2
  | _ => false

def bare (chars : List Char) : Value :=
  if isFloat chars then .float
  else
    match integer? chars with
    | some value => .integer value
    | none => .text (String.ofList chars)

def literal? : List Char → List Char → Option (List Char)
  | [], chars => some chars
  | _ :: _, [] => none
  | expected :: more, char :: chars => if expected = char then literal? more chars else none

/-- The characters at the front of a text whose UTF-8 takes so many bytes, if some do. -/
def firstBytes? : Nat → List Char → Option (List Char)
  | 0, _ => some []
  | _ + 1, [] => none
  | size + 1, char :: chars =>
    if char.utf8Size ≤ size + 1 then
      (firstBytes? (size + 1 - char.utf8Size) chars).map (char :: ·)
    else none

/-- A string in double quotes behind the opening one. What stands before its first escape is kept only up
to as many bytes as it has characters, which is all of it where it is ASCII. -/
def quotedText? (chars : List Char) : Option (String × List Char) := do
  let (text, behind) ← Text.basicString? chars
  let plain := chars.takeWhile fun char => char != '"' && char != '\\'
  let kept ←
    if (chars.drop plain.length).head? = some '\\' then
      firstBytes? plain.length plain
    else some plain
  some (String.ofList (kept ++ text.drop plain.length), behind)

def key? : List Char → Option (String × List Char)
  | '"' :: rest => quotedText? rest
  | chars =>
    let key := chars.takeWhile isKeyChar
    if key.isEmpty then none else some (String.ofList key, chars.drop key.length)

mutual

/-- A value with the white space around it, given a bound on the steps. -/
def value? : Nat → List Char → Option (Value × List Char)
  | 0, _ => none
  | bound + 1, chars =>
    let start := skipSpaces chars
    match literal? "true".toList start, literal? "false".toList start with
    | some rest, _ => some (.bool true, skipSpaces rest)
    | _, some rest => some (.bool false, skipSpaces rest)
    | none, none =>
      match start with
      | '{' :: rest => (entries? bound [] rest).map fun (entries, behind) =>
        (.table entries, skipSpaces behind)
      | '[' :: rest => (items? bound rest).map fun (items, behind) => (.list items, skipSpaces behind)
      | '"' :: rest => (quotedText? rest).map fun (text, behind) => (.text text, skipSpaces behind)
      | '\'' :: char :: '\'' :: rest => some (.text (String.ofList [char]), skipSpaces rest)
      | '\'' :: _ => none
      | _ =>
        let text := start.takeWhile (!isSeparator ·)
        some (bare (trim text), skipSpaces (start.drop text.length))

/-- The items of a list up to its closing bracket; a comma may stand behind the last one. -/
def items? : Nat → List Char → Option (List Value × List Char)
  | 0, _ => none
  | _ + 1, ']' :: rest => some ([], rest)
  | bound + 1, chars => do
    let (item, rest) ← value? bound chars
    match rest with
    | ',' :: behind =>
      let (items, left) ← items? bound behind
      some (item :: items, left)
    | ']' :: behind => some ([item], behind)
    | _ => none

/-- The entries of a table up to its closing brace, added to those before; a comma may stand behind the
last one. -/
def entries? : Nat → Entries → List Char → Option (Entries × List Char)
  | 0, _, _ => none
  | _ + 1, before, '}' :: rest => some (before, rest)
  | bound + 1, before, chars => do
    let (key, rest) ← key? (skipSpaces chars)
    match skipSpaces rest with
    | '=' :: behind =>
      let (value, left) ← value? bound behind
      match left with
      | ',' :: more => entries? bound (before.set key value) more
      | '}' :: last => some (before.set key value, last)
      | _ => none
    | _ => none

end

def value (text : String) : Value :=
  match value? (text.length + 1) text.toList with
  | some (value, []) => value
  | _ => .text text

/-- The settings of all variables, laid over each other in order. -/
def settings (environment : List (String × String)) : Entries :=
  environment.foldl
    (fun entries (name, text) =>
      match path? name with
      | some (key :: keys) => Value.mergeEntries entries [(key, (value text).nested keys)]
      | _ => entries) []

end TabletopBot.Config.Environment
