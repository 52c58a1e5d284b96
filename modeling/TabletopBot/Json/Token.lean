import TabletopBot.Double
import TabletopBot.Text.Utf8

/-! # JSON tokens

A JSON text is first cut into tokens, and the typed decoders read those. White space between tokens and
the spelling of strings are settled here. A token that cannot be finished is kept with the reason and is
the last one, because whether it matters is decided by the decoder that reaches it: a string that is
skipped may hold lone surrogates and ill-formed UTF-8, and a number that is skipped may be too large.
-/

namespace TabletopBot.Json

/-- How reading a JSON text fails. The first problem met from left to right is the one reported. -/
inductive Problem where
  /-- The text ends inside a value. -/
  | endOfText
  /-- The text is not JSON. -/
  | malformed
  /-- The text is JSON so far, but not of the type asked for. -/
  | mismatch
deriving DecidableEq, Repr

/-- A part of a string literal: a character, half of a surrogate pair, or a byte that belongs to no
character. -/
inductive StringPiece where
  | char (char : Char)
  | surrogate (unit : Nat)
  | illFormed
deriving DecidableEq, Repr

/-- A well-formed number: a significand of 64 bits and the power of ten that it is multiplied with. Digits
that no longer fit the significand are dropped. -/
structure Number where
  /-- There is a minus sign. -/
  negative : Bool
  /-- There is neither a fraction nor an exponent, and no digit was dropped. -/
  integral : Bool
  significand : Nat
  exponent : Int
deriving DecidableEq, Repr

def Number.isTooLarge (number : Number) : Bool :=
  0 ≤ number.exponent && Double.scaledOverflows number.significand number.exponent.toNat

inductive Word where
  | null
  | false
  | true
deriving DecidableEq, Repr

inductive Token where
  | openBrace
  | closeBrace
  | openBracket
  | closeBracket
  | colon
  | comma
  | word (word : Word)
  | number (number : Number)
  /-- A string, with the reason why it does not reach its closing quote, if it does not. -/
  | string (pieces : List StringPiece) (unfinished : Option Problem)
  /-- A number that breaks off, at the end of the text or before it. -/
  | brokenNumber (atEnd : Bool)
  | brokenWord (problem : Problem)
  /-- A byte that starts no token. -/
  | junk
deriving DecidableEq, Repr

namespace Token

abbrev byte (char : Char) : UInt8 := char.toUInt8

/-- Space, tab, line feed and carriage return separate tokens. -/
def isSpace (byte : UInt8) : Bool := byte = 32 || byte = 9 || byte = 10 || byte = 13

def isDigitByte (byte : UInt8) : Bool := 48 ≤ byte && byte ≤ 57

def digitValue (digit : UInt8) : Nat := digit.toNat - 48

/-- Where exponents are cut off, `2^31`: far beyond those that matter, however long the number is. -/
def exponentCap : Nat := 2147483648

/-- The exponent that digits denote, or the cap where that is smaller. -/
def exponentValue (digits : List UInt8) : Nat :=
  digits.foldl (fun value digit => min exponentCap (10 * value + digitValue digit)) 0

/-- Appends digits to a significand up to the first one that makes it exceed 64 bits, and returns this
one and those behind it. -/
def appendDigits (significand : Nat) : List UInt8 → Nat × List UInt8
  | [] => (significand, [])
  | digit :: rest =>
    let next := 10 * significand + digitValue digit
    if next < UInt64.size then appendDigits next rest else (significand, digit :: rest)

/-- The number with the given digits before and behind its point. Each digit of the fraction that fits
the significand lowers the exponent by one, and each whole digit that does not fit raises it. -/
def numberOf (negative isWhole : Bool) (whole fraction : List UInt8) (exponent : Int) : Number :=
  let (leading, surplus) := appendDigits 0 whole
  let (significand, dropped) := appendDigits leading fraction
  let places : Int := fraction.length - dropped.length
  ⟨negative, isWhole && surplus.isEmpty, significand, exponent + surplus.length - places⟩

def hexValue? (byte : UInt8) : Option Nat :=
  if 48 ≤ byte ∧ byte ≤ 57 then some (byte.toNat - 48)
  else if 65 ≤ byte ∧ byte ≤ 70 then some (byte.toNat - 55)
  else if 97 ≤ byte ∧ byte ≤ 102 then some (byte.toNat - 87)
  else none

def unit? (first second third fourth : UInt8) : Option Nat := do
  let a ← hexValue? first
  let b ← hexValue? second
  let c ← hexValue? third
  let d ← hexValue? fourth
  some (((a * 16 + b) * 16 + c) * 16 + d)

/-- The piece that a UTF-16 unit makes by itself. -/
def pieceOfUnit (unit : Nat) : StringPiece :=
  if 0xD800 ≤ unit ∧ unit ≤ 0xDFFF then .surrogate unit else .char (Char.ofNat unit)

def shortEscape? (letter : UInt8) : Option Char :=
  if letter = byte '"' then some '"'
  else if letter = byte '\\' then some '\\'
  else if letter = byte '/' then some '/'
  else if letter = byte 'b' then some '\x08'
  else if letter = byte 'f' then some '\x0c'
  else if letter = byte 'n' then some '\n'
  else if letter = byte 'r' then some '\r'
  else if letter = byte 't' then some '\t'
  else none

/-- A string literal behind its opening quote: the pieces, the reason why it is not finished, if it is
not, and the bytes behind the closing quote. The number says how many bytes of the character before
are still to be passed over. -/
def scanString : Nat → List UInt8 → List StringPiece × Option Problem × List UInt8
  | _, [] => ([], some .endOfText, [])
  | skip + 1, _ :: rest => scanString skip rest
  | 0, first :: rest =>
    if first = byte '"' then ([], none, rest)
    else if first = byte '\\' then
      match rest with
      | [] => ([], some .endOfText, [])
      | letter :: behind =>
        if letter = byte 'u' then
          match behind with
          | a :: b :: c :: d :: tail =>
            match unit? a b c d with
            | none => ([], some .malformed, [])
            | some unit =>
              let (pieces, unfinished, left) := scanString 0 tail
              (pieceOfUnit unit :: pieces, unfinished, left)
          | _ => ([], some .endOfText, [])
        else
          match shortEscape? letter with
          | none => ([], some .malformed, [])
          | some char =>
            let (pieces, unfinished, left) := scanString 0 behind
            (.char char :: pieces, unfinished, left)
    else if first < 32 then ([], some .malformed, [])
    else
      match Text.Utf8.first? (first :: rest) with
      | some char =>
        let (pieces, unfinished, left) := scanString (char.utf8Size - 1) rest
        (.char char :: pieces, unfinished, left)
      | none =>
        let (pieces, unfinished, left) := scanString 0 rest
        (.illFormed :: pieces, unfinished, left)

def spanDigits (bytes : List UInt8) : List UInt8 × List UInt8 :=
  (bytes.takeWhile isDigitByte, bytes.dropWhile isDigitByte)

/-- The exponent behind the digits of a number, zero if there is none. -/
def scanExponent : List UInt8 → Except Bool (Bool × Int × List UInt8)
  | [] => .ok (false, 0, [])
  | mark :: rest =>
    if mark = byte 'e' ∨ mark = byte 'E' then
      let (negative, unsigned) :=
        match rest with
        | sign :: behind =>
          if sign = byte '-' then (true, behind)
          else if sign = byte '+' then (false, behind)
          else (false, rest)
        | [] => (false, rest)
      let (digits, left) := spanDigits unsigned
      if digits.isEmpty then .error left.isEmpty
      else
        let value : Int := exponentValue digits
        .ok (true, if negative then -value else value, left)
    else .ok (false, 0, mark :: rest)

/-- The fraction behind the whole digits of a number, empty if there is none. -/
def scanFraction : List UInt8 → Except Bool (Bool × List UInt8 × List UInt8)
  | [] => .ok (false, [], [])
  | mark :: rest =>
    if mark = byte '.' then
      let (digits, left) := spanDigits rest
      if digits.isEmpty then .error left.isEmpty else .ok (true, digits, left)
    else .ok (false, [], mark :: rest)

/-- A number without its sign, and what is behind it. An error says whether the text ended. -/
def scanUnsigned (negative : Bool) (bytes : List UInt8) : Except Bool (Number × List UInt8) := do
  let (digits, behind) := spanDigits bytes
  if digits.isEmpty then .error behind.isEmpty
  else if digits.head? = some (byte '0') ∧ digits.length > 1 then .error false
  else
    let (hasFraction, fraction, rest) ← scanFraction behind
    let (hasExponent, exponent, left) ← scanExponent rest
    .ok (numberOf negative (!hasFraction && !hasExponent) digits fraction exponent, left)

/-- The rest of a word, whose first letter has been read. -/
def scanWord (word : Word) : List Char → List UInt8 → Token × List UInt8
  | [], bytes => (.word word, bytes)
  | _ :: _, [] => (.brokenWord .endOfText, [])
  | letter :: letters, first :: rest =>
    if first = byte letter then scanWord word letters rest else (.brokenWord .malformed, [])

/-- The token that starts with a given byte, and what is behind it. -/
def scanOne (first : UInt8) (rest : List UInt8) : Token × List UInt8 :=
  if first = 0x7B then (.openBrace, rest)
  else if first = 0x7D then (.closeBrace, rest)
  else if first = byte '[' then (.openBracket, rest)
  else if first = byte ']' then (.closeBracket, rest)
  else if first = byte ':' then (.colon, rest)
  else if first = byte ',' then (.comma, rest)
  else if first = byte '"' then
    let (pieces, unfinished, left) := scanString 0 rest
    (.string pieces unfinished, left)
  else if first = byte 'n' then scanWord .null ['u', 'l', 'l'] rest
  else if first = byte 't' then scanWord .true ['r', 'u', 'e'] rest
  else if first = byte 'f' then scanWord .false ['a', 'l', 's', 'e'] rest
  else if first = byte '-' then
    match scanUnsigned true rest with
    | .ok (scanned, left) => (.number scanned, left)
    | .error atEnd => (.brokenNumber atEnd, [])
  else if isDigitByte first then
    match scanUnsigned false (first :: rest) with
    | .ok (scanned, left) => (.number scanned, left)
    | .error atEnd => (.brokenNumber atEnd, [])
  else (.junk, [])

/-- Cuts a text into tokens, given a bound on its length. -/
def scanWithin : Nat → List UInt8 → List Token
  | 0, _ => []
  | _ + 1, [] => []
  | bound + 1, first :: rest =>
    if isSpace first then scanWithin bound rest
    else
      let (token, left) := scanOne first rest
      token :: scanWithin bound left

/-- Cuts a text into tokens. Every token uses up at least one byte, so the length bounds their number;
nothing is read behind a token that is not finished. -/
def scan (bytes : List UInt8) : List Token := scanWithin bytes.length bytes

end Token

end TabletopBot.Json
