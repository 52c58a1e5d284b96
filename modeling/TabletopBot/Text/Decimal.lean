/-! # Decimal numbers

Reading and writing whole numbers in decimal. A written number is a run of ASCII digits, at least one,
with any number of leading zeros. A number that only counts up to a bound is read without ever building
a larger one, so a long run of digits takes time in proportion to its length.
-/

namespace TabletopBot.Text

def isDigit (char : Char) : Bool := '0' ≤ char && char ≤ '9'

def isDigitRun (chars : List Char) : Bool := !chars.isEmpty && chars.all isDigit

/-- The number that a run of digits denotes; zero for the empty run. -/
def decimalValue (digits : List Char) : Nat := Nat.ofDigitChars 10 digits 0

def natOfDigits? (chars : List Char) : Option Nat :=
  if isDigitRun chars then some (decimalValue chars) else none

theorem natOfDigits?_eq_some_iff {chars : List Char} {value : Nat} :
    natOfDigits? chars = some value ↔ isDigitRun chars = true ∧ decimalValue chars = value := by
  simp [natOfDigits?]

/-- The number that digits denote, or the cap where that is smaller. -/
def cappedValue (cap : Nat) (digits : List Char) : Nat :=
  digits.foldl (fun value digit => min cap (10 * value + (digit.toNat - '0'.toNat))) 0

theorem cappedValue_eq_min (cap : Nat) (digits : List Char) :
    cappedValue cap digits = min cap (decimalValue digits) := by
  suffices general : ∀ start : Nat,
      digits.foldl (fun value digit => min cap (10 * value + (digit.toNat - '0'.toNat)))
        (min cap start) = min cap (Nat.ofDigitChars 10 digits start) by
    simpa [cappedValue, decimalValue] using general 0
  induction digits with
  | nil => simp
  | cons digit digits ih =>
    intro start
    have step : min cap (10 * min cap start + (digit.toNat - '0'.toNat)) =
        min cap (10 * start + (digit.toNat - '0'.toNat)) := by omega
    rw [List.foldl_cons, step, ih, Nat.ofDigitChars_cons]

/-- The number that a text denotes if it is a run of digits and the number is at most a bound. -/
def natUpTo? (most : Nat) (chars : List Char) : Option Nat :=
  let value := cappedValue (most + 1) chars
  if isDigitRun chars ∧ value ≤ most then some value else none

theorem natUpTo?_eq_some_iff {most : Nat} {chars : List Char} {value : Nat} :
    natUpTo? most chars = some value ↔ natOfDigits? chars = some value ∧ value ≤ most := by
  simp only [natUpTo?, natOfDigits?, cappedValue_eq_min, Option.ite_none_right_eq_some,
    Option.some.injEq]
  constructor
  · rintro ⟨⟨run, bound⟩, rfl⟩
    exact ⟨⟨run, by omega⟩, bound⟩
  · rintro ⟨⟨run, rfl⟩, bound⟩
    exact ⟨⟨run, by omega⟩, by omega⟩

/-- A text without its sign, and whether the sign is a minus. -/
def splitSign : List Char → Bool × List Char
  | '-' :: rest => (true, rest)
  | '+' :: rest => (false, rest)
  | chars => (false, chars)

def decimalDigits (value : Nat) : List Char := Nat.toDigits 10 value

@[simp] theorem decimalValue_decimalDigits (value : Nat) :
    decimalValue (decimalDigits value) = value :=
  Nat.ofDigitChars_ten_toDigits

def decimalInt (value : Int) : List Char :=
  if value < 0 then '-' :: decimalDigits value.natAbs else decimalDigits value.natAbs

end TabletopBot.Text
