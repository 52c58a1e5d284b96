/-! # Escapes in basic strings

Reading a string up to its closing double quote. A backslash starts an escape: a short one, or `\u` and
`\U` with four and eight hexadecimal digits. Control characters other than the tab may not stand in a
string as they are.
-/

namespace TabletopBot.Text

def hexDigit? (char : Char) : Option Nat :=
  if '0' ≤ char ∧ char ≤ '9' then some (char.toNat - '0'.toNat)
  else if 'a' ≤ char ∧ char ≤ 'f' then some (char.toNat - 'a'.toNat + 10)
  else if 'A' ≤ char ∧ char ≤ 'F' then some (char.toNat - 'A'.toNat + 10)
  else none

def hexNumber? (digits : List Char) : Option Nat :=
  digits.foldlM (fun value digit => (hexDigit? digit).map (value * 16 + ·)) 0

/-- The character with a number, unless the number is a surrogate's or too large. -/
def scalar? (code : Nat) : Option Char :=
  if code.isValidChar then some (Char.ofNat code) else none

def basicEscape? : Char → Option Char
  | 'b' => some '\x08'
  | 't' => some '\t'
  | 'n' => some '\n'
  | 'f' => some '\x0c'
  | 'r' => some '\r'
  | '"' => some '"'
  | '\\' => some '\\'
  | _ => none

/-- The characters that may stand in a string as they are. -/
def isPlain (char : Char) : Bool := char = '\t' || (32 ≤ char.toNat && char.toNat ≠ 127)

/-- A string behind its opening quote, and what is behind its closing quote. -/
def basicString? : List Char → Option (List Char × List Char)
  | [] => none
  | '"' :: rest => some ([], rest)
  | '\\' :: 'u' :: a :: b :: c :: d :: rest => do
    let char ← scalar? (← hexNumber? [a, b, c, d])
    let (chars, behind) ← basicString? rest
    some (char :: chars, behind)
  | '\\' :: 'U' :: a :: b :: c :: d :: e :: f :: g :: h :: rest => do
    let char ← scalar? (← hexNumber? [a, b, c, d, e, f, g, h])
    let (chars, behind) ← basicString? rest
    some (char :: chars, behind)
  | '\\' :: letter :: rest => do
    let char ← basicEscape? letter
    let (chars, behind) ← basicString? rest
    some (char :: chars, behind)
  | char :: rest =>
    if isPlain char && char ≠ '\\' then
      (basicString? rest).map fun (chars, behind) => (char :: chars, behind)
    else none

end TabletopBot.Text
