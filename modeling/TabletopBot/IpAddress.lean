import TabletopBot.Text.Decimal
import TabletopBot.Text.Escape

/-! # IP addresses

The written forms of IPv4 addresses, four octets with dots between them, and of IPv6 addresses, eight
groups of 16 bits with colons between them, which may be abbreviated by two colons for a run of zeros and
may end in an IPv4 address. Octets have no leading zeros. The printed form abbreviates the longest run of
zeros.
-/

namespace TabletopBot.IpAddress

/-- A decimal number up to a limit, and what is behind its digits. -/
def decimal? (limit : Nat) (chars : List Char) : Option (Nat × List Char) :=
  (Text.natUpTo? limit (chars.takeWhile Text.isDigit)).map fun value =>
    (value, chars.dropWhile Text.isDigit)

/-- An octet: up to three digits and no leading zero. -/
def octet? (chars : List Char) : Option (Nat × List Char) :=
  let digits := chars.takeWhile Text.isDigit
  if 3 < digits.length ∨ (digits.head? = some '0' ∧ 1 < digits.length) then none
  else decimal? 255 chars

def mark? (mark : Char) : List Char → Option (List Char)
  | [] => none
  | char :: rest => if char = mark then some rest else none

def octets? (chars : List Char) : Option (List Nat × List Char) := do
  let (first, rest) ← octet? chars
  let (second, rest) ← octet? (← mark? '.' rest)
  let (third, rest) ← octet? (← mark? '.' rest)
  let (fourth, rest) ← octet? (← mark? '.' rest)
  some ([first, second, third, fourth], rest)

def group? (chars : List Char) : Option (Nat × List Char) :=
  let digits := chars.takeWhile fun char => (Text.hexDigit? char).isSome
  if digits.isEmpty ∨ 4 < digits.length then none
  else (Text.hexNumber? digits).map fun value => (value, chars.drop digits.length)

/-- Groups with colons between them, as many as there are up to a limit. An IPv4 address may stand for
the last two; the flag says that one did. -/
def groups (first : Bool) : Nat → List Char → List Nat × Bool × List Char
  | 0, chars => ([], false, chars)
  | limit + 1, chars =>
    match if first then some chars else mark? ':' chars with
    | none => ([], false, chars)
    | some start =>
      match if limit = 0 then none else octets? start with
      | some ([a, b, c, d], rest) => ([a * 256 + b, c * 256 + d], true, rest)
      | _ =>
        match group? start with
        | none => ([], false, chars)
        | some (group, rest) =>
          let (others, embedded, left) := groups false limit rest
          (group :: others, embedded, left)

/-- The eight groups of an IPv6 address. Two colons stand for at least one group of zero. -/
def v6Groups? (chars : List Char) : Option (List Nat × List Char) :=
  let (head, embedded, rest) := groups true 8 chars
  if head.length = 8 then some (head, rest)
  else if embedded then none
  else do
    let behind ← mark? ':' (← mark? ':' rest)
    let (tail, _, left) := groups true (7 - head.length) behind
    some (head ++ List.replicate (8 - head.length - tail.length) 0 ++ tail, left)

def zeros (groups : List Nat) : Nat := (groups.takeWhile (· == 0)).length

/-- Where the first of the longest runs of zero groups starts and how long it is. -/
def longestZeros : List Nat → Nat × Nat
  | [] => (0, 0)
  | group :: groups =>
    let here := zeros (group :: groups)
    let (start, length) := longestZeros groups
    if length ≤ here then (0, here) else (start + 1, length)

def joined (base : Nat) (separator : String) (numbers : List Nat) : String :=
  separator.intercalate (numbers.map fun number => String.ofList (Nat.toDigits base number))

def v4Text (octets : List Nat) : String := joined 10 "." octets

/-- Eight groups as text. Two colons stand for the first of the longest runs of zeros, if one has at least
two groups. -/
def v6Text (groups : List Nat) : String :=
  let (start, length) := longestZeros groups
  if 1 < length then
    joined 16 ":" (groups.take start) ++ "::" ++ joined 16 ":" (groups.drop (start + length))
  else joined 16 ":" groups

end TabletopBot.IpAddress
