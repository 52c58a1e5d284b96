import TabletopBot.Text.Decimal

/-! # JSON values that are written

The values that the bot sends, and their text: no white space, fields in the given order, and escapes
for quotes, backslashes and control characters only.
-/

namespace TabletopBot.Json

/-- A JSON value. A number is a whole mantissa divided by a power of ten. -/
inductive Value where
  | null
  | bool (value : Bool)
  | number (mantissa : Nat) (places : Nat)
  | string (text : String)
  | list (items : List Value)
  | object (fields : List (String × Value))

namespace Value

def escapeChar (char : Char) : List Char :=
  if char = '"' then ['\\', '"']
  else if char = '\\' then ['\\', '\\']
  else if char = '\x08' then ['\\', 'b']
  else if char = '\x0c' then ['\\', 'f']
  else if char = '\n' then ['\\', 'n']
  else if char = '\r' then ['\\', 'r']
  else if char = '\t' then ['\\', 't']
  else if char.toNat < 32 then
    ['\\', 'u', '0', '0', Nat.digitChar (char.toNat / 16), Nat.digitChar (char.toNat % 16)]
  else [char]

def literal (text : String) : List Char := '"' :: text.toList.flatMap escapeChar ++ ['"']

def decimal (mantissa places : Nat) : List Char :=
  if places = 0 then Text.decimalDigits mantissa
  else
    let digits := Text.decimalDigits (mantissa % Nat.pow 10 places)
    Text.decimalDigits (mantissa / Nat.pow 10 places) ++
      '.' :: List.replicate (places - digits.length) '0' ++ digits

mutual

def chars : Value → List Char
  | .null => ['n', 'u', 'l', 'l']
  | .bool true => ['t', 'r', 'u', 'e']
  | .bool false => ['f', 'a', 'l', 's', 'e']
  | .number mantissa places => decimal mantissa places
  | .string text => literal text
  | .list [] => ['[', ']']
  | .list (item :: items) => '[' :: item.chars ++ itemChars items
  | .object [] => ['{', '}']
  | .object ((name, value) :: fields) =>
    '{' :: literal name ++ ':' :: value.chars ++ fieldChars fields

/-- The characters of further list items up to the closing bracket. -/
def itemChars : List Value → List Char
  | [] => [']']
  | item :: items => ',' :: item.chars ++ itemChars items

/-- The characters of further fields up to the closing brace. -/
def fieldChars : List (String × Value) → List Char
  | [] => ['}']
  | (name, value) :: fields => ',' :: literal name ++ ':' :: value.chars ++ fieldChars fields

end

def render (value : Value) : String := String.ofList value.chars

end Value

end TabletopBot.Json
