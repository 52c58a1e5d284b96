/-! # UTF-8

Bytes and text. `encode` writes characters as bytes; `decode?` accepts well-formed UTF-8 alone;
`decodeLossy` puts U+FFFD for every maximal stretch that starts a character and cannot finish it.
-/

namespace TabletopBot.Text.Utf8

def encode (chars : List Char) : List UInt8 := chars.flatMap String.utf8EncodeChar

@[simp] theorem encode_append (left right : List Char) :
    encode (left ++ right) = encode left ++ encode right :=
  List.flatMap_append

/-- The character at the front of a byte sequence. -/
def first? (bytes : List UInt8) : Option Char := ByteArray.utf8DecodeChar? ⟨(bytes.take 4).toArray⟩ 0

/-- How many bytes a lead byte asks for in all, and the range of the second of them. -/
def leadRow? (lead : UInt8) : Option (Nat × UInt8 × UInt8) :=
  if 0xC2 ≤ lead ∧ lead ≤ 0xDF then some (2, 0x80, 0xBF)
  else if lead = 0xE0 then some (3, 0xA0, 0xBF)
  else if 0xE1 ≤ lead ∧ lead ≤ 0xEC then some (3, 0x80, 0xBF)
  else if lead = 0xED then some (3, 0x80, 0x9F)
  else if 0xEE ≤ lead ∧ lead ≤ 0xEF then some (3, 0x80, 0xBF)
  else if lead = 0xF0 then some (4, 0x90, 0xBF)
  else if 0xF1 ≤ lead ∧ lead ≤ 0xF3 then some (4, 0x80, 0xBF)
  else if lead = 0xF4 then some (4, 0x80, 0x8F)
  else none

def isContinuation (byte : UInt8) : Bool := 0x80 ≤ byte && byte ≤ 0xBF

/-- The length of the ill-formed stretch that starts with a byte: this byte goes together with the
continuation bytes behind it that could still have belonged to its character. -/
def illFormedLength (lead : UInt8) (rest : List UInt8) : Nat :=
  match leadRow? lead, rest with
  | some (length, low, high), second :: behind =>
    if second < low ∨ high < second then 1
    else 2 + ((behind.take (length - 2)).takeWhile isContinuation).length
  | _, _ => 1

/-- A byte sequence as characters and, where no character can be read, ill-formed stretches (`none`).
The number says how many bytes still belong to the symbol before. -/
def symbolsBehind : Nat → List UInt8 → List (Option Char)
  | _, [] => []
  | skip + 1, _ :: rest => symbolsBehind skip rest
  | 0, lead :: rest =>
    match first? (lead :: rest) with
    | some char => some char :: symbolsBehind (char.utf8Size - 1) rest
    | none => none :: symbolsBehind (illFormedLength lead rest - 1) rest

/-- A byte sequence as characters and ill-formed stretches. -/
def symbols (bytes : List UInt8) : List (Option Char) := symbolsBehind 0 bytes

/-- The text that a byte sequence encodes, if it is well-formed UTF-8. -/
def decode? (bytes : List UInt8) : Option (List Char) := (symbols bytes).mapM id

/-- The text of a byte sequence, with U+FFFD for each ill-formed stretch. -/
def decodeLossy (bytes : List UInt8) : List Char := (symbols bytes).map (·.getD '\uFFFD')

end TabletopBot.Text.Utf8
