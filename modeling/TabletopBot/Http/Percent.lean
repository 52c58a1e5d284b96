import TabletopBot.Text.Cut
import TabletopBot.Text.Escape
import TabletopBot.Text.Utf8

/-! # Percent-encoding

Characters that may not stand in a place are written as the bytes of their UTF-8, each as a percent sign
with two upper-case hexadecimal digits. Form encoding keeps few characters and writes a space as a plus
sign. Both come with their decoders.
-/

namespace TabletopBot.Http

def hexDigit (value : Nat) : Char := (Nat.digitChar value).toUpper

def percentByte (byte : UInt8) : List Char :=
  ['%', hexDigit (byte.toNat / 16), hexDigit (byte.toNat % 16)]

def percentEncode (keeps : Char → Bool) (chars : List Char) : List Char :=
  chars.flatMap fun char =>
    if keeps char then [char] else (String.utf8EncodeChar char).flatMap percentByte

/-- The bytes that a percent-encoded text stands for. A percent sign without two hexadecimal digits stands
for itself. -/
def percentDecode : List Char → List UInt8
  | [] => []
  | '%' :: high :: low :: rest =>
    match Text.hexDigit? high, Text.hexDigit? low with
    | some first, some second => UInt8.ofNat (first * 16 + second) :: percentDecode rest
    | _, _ => 37 :: percentDecode (high :: low :: rest)
  | char :: rest => String.utf8EncodeChar char ++ percentDecode rest

namespace Form

/-- The bytes that stand for themselves in a form: letters, digits and `*-._`. -/
def keepsByte (byte : UInt8) : Bool :=
  (48 ≤ byte && byte ≤ 57) || (65 ≤ byte && byte ≤ 90) || (97 ≤ byte && byte ≤ 122) ||
    byte = 0x2A || byte = 0x2D || byte = 0x2E || byte = 0x5F

def encodeByte (byte : UInt8) : List Char :=
  if keepsByte byte then [Char.ofNat byte.toNat]
  else if byte = 32 then ['+']
  else percentByte byte

def encodeText (text : String) : List Char := (Text.Utf8.encode text.toList).flatMap encodeByte

def encodePair (pair : String × String) : List Char :=
  encodeText pair.1 ++ '=' :: encodeText pair.2

/-- Names with their values, joined by ampersands. -/
def encode : List (String × String) → List Char
  | [] => []
  | [pair] => encodePair pair
  | pair :: pairs => encodePair pair ++ '&' :: encode pairs

def decodeBytes (chars : List Char) : List UInt8 :=
  percentDecode (chars.map fun char => if char = '+' then ' ' else char)

def decodeText (chars : List Char) : String :=
  String.ofList (Text.Utf8.decodeLossy (decodeBytes chars))

/-- A piece cut at its first equals sign; a piece without one is a name without a value. -/
def decodePair (chars : List Char) : String × String :=
  (decodeText (chars.takeWhile (· != '=')), decodeText ((chars.dropWhile (· != '=')).drop 1))

def decode (chars : List Char) : List (String × String) :=
  ((Text.splitAt '&' chars).filter (!·.isEmpty)).map decodePair

end Form

end TabletopBot.Http
