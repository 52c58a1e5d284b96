import TabletopBot.Text.Invisible

/-! # Quoted text

How a piece of user text is shown inside a message. Quotes, backslashes and a few controls have short
escapes, every other invisible character is spelled `\u{…}` with its number in lower-case hexadecimal,
and all else stands for itself, the apostrophe included. `decode` reads the escapes back.
-/

namespace TabletopBot.Text.Quoted

/-- The letter that follows the backslash in the short escape of a character. -/
def shortEscape? : Char → Option Char
  | '"' => some '"'
  | '\\' => some '\\'
  | '\x00' => some '0'
  | '\t' => some 't'
  | '\n' => some 'n'
  | '\r' => some 'r'
  | _ => none

def ofShortEscape? : Char → Option Char
  | '"' => some '"'
  | '\\' => some '\\'
  | '0' => some '\x00'
  | 't' => some '\t'
  | 'n' => some '\n'
  | 'r' => some '\r'
  | _ => none

theorem ofShortEscape?_of_shortEscape? {char letter : Char} (short : shortEscape? char = some letter) :
    ofShortEscape? letter = some char := by
  unfold shortEscape? at short
  split at short <;> simp_all [ofShortEscape?] <;> subst short <;> rfl

/-- One character as it is written between quotes. -/
def encodeChar (char : Char) : List Char :=
  match shortEscape? char with
  | some letter => ['\\', letter]
  | none =>
    if isInvisible char then ['\\', 'u', '{'] ++ Nat.toDigits 16 char.toNat ++ ['}'] else [char]

def encode (chars : List Char) : List Char := chars.flatMap encodeChar

@[simp] theorem encode_nil : encode [] = [] := rfl

@[simp] theorem encode_cons (char : Char) (chars : List Char) :
    encode (char :: chars) = encodeChar char ++ encode chars := rfl

/-- Where a reader of escapes stands: in plain text, after a backslash, after `\u`, or inside the
braces with the number read so far. -/
inductive Place where
  | text
  | escape
  | brace
  | number (value : Nat)
deriving DecidableEq, Repr

def hexValue? (char : Char) : Option Nat :=
  if '0' ≤ char ∧ char ≤ '9' then some (char.toNat - '0'.toNat)
  else if 'a' ≤ char ∧ char ≤ 'f' then some (char.toNat - 'a'.toNat + 10)
  else none

/-- Reads escapes back from a given place; a lone quote and a broken escape are refused. -/
def decodeFrom : Place → List Char → Option (List Char)
  | .text, [] => some []
  | .text, '\\' :: rest => decodeFrom .escape rest
  | .text, '"' :: _ => none
  | .text, char :: rest => (decodeFrom .text rest).map (char :: ·)
  | .escape, 'u' :: rest => decodeFrom .brace rest
  | .escape, letter :: rest => do
    let char ← ofShortEscape? letter
    let decoded ← decodeFrom .text rest
    some (char :: decoded)
  | .brace, '{' :: rest => decodeFrom (.number 0) rest
  | .number value, '}' :: rest => (decodeFrom .text rest).map (Char.ofNat value :: ·)
  | .number value, digit :: rest => do
    let digitValue ← hexValue? digit
    decodeFrom (.number (value * 16 + digitValue)) rest
  | _, _ => none

def decode (written : List Char) : Option (List Char) := decodeFrom .text written

end TabletopBot.Text.Quoted

namespace TabletopBot.Text

/-- A text between quotes, with escapes for what could break out of them. -/
def quoted (text : String) : String :=
  String.ofList ('"' :: Quoted.encode text.toList ++ ['"'])

end TabletopBot.Text
