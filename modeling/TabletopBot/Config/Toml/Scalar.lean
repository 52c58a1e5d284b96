import TabletopBot.Config.Value
import TabletopBot.Double
import TabletopBot.Text.Cut
import TabletopBot.Text.Escape

/-! # TOML scalars

Booleans, numbers, dates and times, each read from a whole word. Integers have 64 bits. A floating-point
number is checked but not kept, and a date or a time counts as a table with one entry, as it does
wherever a setting is read.
-/

namespace TabletopBot.Config.Toml

def isWordChar (char : Char) : Bool := char.isAlphanum || "+-_.:".toList.contains char

/-- Characters of a class with single underscores between them, at least one. -/
def isGroup (accepts : Char → Bool) : List Char → Bool
  | [] => false
  | [char] => accepts char
  | '_' :: _ => false
  | first :: '_' :: rest => accepts first && isGroup accepts rest
  | first :: rest => accepts first && isGroup accepts rest

def withoutUnderscores (chars : List Char) : List Char := chars.filter (· != '_')

/-- Decimal digits without a leading zero. -/
def isDecimal (chars : List Char) : Bool :=
  isGroup Text.isDigit chars && (chars.head? != some '0' || chars.length == 1)

/-- Digits of a base behind its two-character mark. Numbers that are too large are cut off on the way. -/
def ofBase? (base : Nat) (accepts : Char → Bool) (digits : List Char) : Option Int := do
  if isGroup accepts digits then
    let value ← (withoutUnderscores digits).foldlM
      (fun value digit => (Text.hexDigit? digit).map (min integerLimit <| value * base + ·)) 0
    if value < integerLimit then some (value : Int) else none
  else none

def integer? : List Char → Option Int
  | '0' :: 'x' :: digits => ofBase? 16 (fun char => (Text.hexDigit? char).isSome) digits
  | '0' :: 'o' :: digits => ofBase? 8 (fun char => '0' ≤ char && char ≤ '7') digits
  | '0' :: 'b' :: digits => ofBase? 2 (fun char => char == '0' || char == '1') digits
  | chars =>
    let (negative, digits) := Text.splitSign chars
    let magnitude? (most : Nat) : Option Int :=
      if isDecimal digits then (Text.natUpTo? most (withoutUnderscores digits)).map Int.ofNat
      else none
    if negative then (magnitude? integerLimit).map (-·) else magnitude? (integerLimit - 1)

/-- The exponent of a number without its mark, cut off at a cap in either direction. -/
def exponent? (cap : Nat) (chars : List Char) : Option Int :=
  let (negative, digits) := Text.splitSign chars
  if isGroup Text.isDigit digits then
    let magnitude : Int := Text.cappedValue cap (withoutUnderscores digits)
    some (if negative then -magnitude else magnitude)
  else none

/-- A word cut at its exponent mark, if it has one. -/
def splitExponent (chars : List Char) : List Char × Option (List Char) :=
  match Text.cutAt? 'e' chars <|> Text.cutAt? 'E' chars with
  | some (before, behind) => (before, some behind)
  | none => (chars, none)

/-- A floating-point number. It needs a fraction or an exponent, and a positive one must not be beyond
the largest double. An exponent that exceeds the number of digits by 310 decides by itself, so it is cut
off there. -/
def isFloat (chars : List Char) : Bool :=
  let (negative, unsigned) := Text.splitSign chars
  if unsigned = "inf".toList ∨ unsigned = "nan".toList then true
  else
    let (mantissa, exponentText) := splitExponent unsigned
    let (whole, fraction) :=
      match Text.cutAt? '.' mantissa with
      | some (whole, fraction) => (whole, some fraction)
      | none => (mantissa, none)
    let digits := withoutUnderscores (whole ++ fraction.getD [])
    match exponentText.elim (some 0) (exponent? (digits.length + 310)) with
    | none => false
    | some exponent =>
      let places := (withoutUnderscores (fraction.getD [])).length
      isDecimal whole && fraction.all (isGroup Text.isDigit) &&
        (fraction.isSome || exponentText.isSome) &&
        (negative || !Double.decimalOverflows digits (exponent - places))

/-- A number of exactly so many digits within bounds. -/
def fixed? (digits least most : Nat) (chars : List Char) : Option Nat :=
  let value := Text.decimalValue chars
  if chars.length = digits ∧ chars.all Text.isDigit ∧ least ≤ value ∧ value ≤ most then some value
  else none

def daysOf (year month : Nat) : Nat :=
  if month = 2 then
    if year % 4 = 0 ∧ (year % 100 ≠ 0 ∨ year % 400 = 0) then 29 else 28
  else if month = 4 ∨ month = 6 ∨ month = 9 ∨ month = 11 then 30
  else 31

/-- A date `YYYY-MM-DD`. -/
def isDate : List Char → Bool
  | [a, b, c, d, '-', e, f, '-', g, h] =>
    match fixed? 4 0 9999 [a, b, c, d], fixed? 2 1 12 [e, f], fixed? 2 1 31 [g, h] with
    | some year, some month, some day => day ≤ daysOf year month
    | _, _, _ => false
  | _ => false

/-- A time `HH:MM:SS` with an optional fraction of a second. -/
def isTime : List Char → Bool
  | a :: b :: ':' :: c :: d :: ':' :: e :: f :: rest =>
    (fixed? 2 0 23 [a, b]).isSome && (fixed? 2 0 59 [c, d]).isSome &&
      (fixed? 2 0 60 [e, f]).isSome &&
      match rest with
      | [] => true
      | '.' :: digits => Text.isDigitRun digits
      | _ => false
  | _ => false

/-- A time zone: `Z`, or hours and minutes with a sign. -/
def isZone : List Char → Bool
  | ['Z'] | ['z'] => true
  | [sign, a, b, ':', c, d] =>
    (sign == '+' || sign == '-') && (fixed? 2 0 23 [a, b]).isSome && (fixed? 2 0 59 [c, d]).isSome
  | _ => false

def isZonedTime (chars : List Char) : Bool :=
  let time := chars.takeWhile fun char => Text.isDigit char || char == ':' || char == '.'
  let zone := chars.drop time.length
  isTime time && (zone.isEmpty || isZone zone)

/-- A date, a time, or a date and a time with a letter between them. -/
def isMoment (chars : List Char) : Bool :=
  isTime chars || isDate chars ||
    (isDate (chars.take 10) &&
      match chars.drop 10 with
      | 'T' :: time | 't' :: time => isZonedTime time
      | _ => false)

def moment : Value := .table [("datetime", .text "")]

def scalar? (word : List Char) : Option Value :=
  if word = "true".toList then some (.bool true)
  else if word = "false".toList then some (.bool false)
  else if isMoment word then some moment
  else
    match integer? word with
    | some value => some (.integer value)
    | none => if isFloat word then some .float else none

end TabletopBot.Config.Toml
