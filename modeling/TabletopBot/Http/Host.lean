import TabletopBot.Http.Percent
import TabletopBot.IpAddress

/-! # Hosts

The host of an address in its settled spelling. A name is percent-decoded and put in lower case; a name
with other than ASCII characters, or with a label in the encoding for them, has the ASCII spelling that the
tables for international names give it (`AddressRules`). A host whose last label is a number is an IPv4
address, whose numbers may be decimal, octal or hexadecimal and of which the last one stands for all octets
that are left. An IPv6 address stands in brackets.
-/

namespace TabletopBot.Http

/-- The rules on addresses that are kept in other standards. -/
class AddressRules where
  /-- The ASCII spelling of an international host name, where it has one. -/
  asciiName? : List Char → Option (List Char)
  /-- The absolute address that a text names at an address, where it names one. -/
  resolve? : String → String → Option String

namespace Host

def isForbidden (char : Char) : Bool :=
  char.toNat ≤ 32 || 127 ≤ char.toNat || "\"#%/:<>?@[\\]^`|".toList.contains char || char == '\x7b' ||
    char == '\x7d'

/-- The number of 32 bits that digits of a base denote; zero for no digits. Larger numbers are cut off on
the way. -/
def inBase? (base : Nat) (digits : List Char) : Option Nat := do
  let value ← digits.foldlM
    (fun value digit => do
      let digitValue ← Text.hexDigit? digit
      if digitValue < base then some (min UInt32.size (value * base + digitValue)) else none) 0
  if value < UInt32.size then some value else none

/-- A number in a host: hexadecimal behind `0x`, octal behind another zero, else decimal. -/
def number? : List Char → Option Nat
  | [] => none
  | '0' :: 'x' :: digits => inBase? 16 digits
  | '0' :: digit :: digits => inBase? 8 (digit :: digits)
  | digits => inBase? 10 digits

/-- A label that makes its host an IPv4 address when it is the last one. -/
def isNumeric : List Char → Bool
  | '0' :: 'x' :: digits => digits.all fun digit => (Text.hexDigit? digit).isSome
  | label => Text.isDigitRun label

/-- The labels of a name; a dot at its end does not count. -/
def labels (name : List Char) : List (List Char) :=
  let all := Text.splitAt '.' name
  if all.getLast? = some [] then all.dropLast else all

def octetsOf (value : Nat) : Nat → List Nat
  | 0 => []
  | count + 1 => value / Nat.pow 256 count % 256 :: octetsOf value count

def octets? (labels : List (List Char)) : Option (List Nat) := do
  let numbers ← labels.mapM number?
  let last ← numbers.getLast?
  let front := numbers.dropLast
  let left := 4 - front.length
  if 3 < front.length ∨ front.any (255 < ·) ∨ Nat.pow 256 left ≤ last then none
  else some (front ++ octetsOf last left)

/-- A label in the encoding for characters that are not ASCII. -/
def isEncoded (label : List Char) : Bool := "xn--".toList.isPrefixOf label

def ascii? [AddressRules] (name : List Char) : Option (List Char) :=
  let lower := name.map Char.toLower
  if name.all (·.toNat < 128) && !(labels lower).any isEncoded then some lower
  else AddressRules.asciiName? name

def name? [AddressRules] (chars : List Char) : Option (List Char) := do
  let decoded ← Text.Utf8.decode? (percentDecode chars)
  let name ← ascii? decoded
  if name.isEmpty ∨ name.any isForbidden then none
  else if (labels name).getLast?.any isNumeric then
    (octets? (labels name)).map fun octets => (IpAddress.v4Text octets).toList
  else some name

/-- Settles an IPv6 address in brackets, given what is behind the opening one. -/
def bracketed? (chars : List Char) : Option (List Char) := do
  let (groups, rest) ← IpAddress.v6Groups? chars
  if rest = [']'] then some ('[' :: (IpAddress.v6Text groups).toList ++ [']']) else none

def parse? [AddressRules] : List Char → Option (List Char)
  | '[' :: rest => bracketed? rest
  | chars => name? chars

end Host

/-- The rules for ASCII names and for texts that are absolute addresses. -/
@[reducible]
def AddressRules.plain : AddressRules where
  asciiName? _ := none
  resolve? _ text := some text

end TabletopBot.Http
