import TabletopBot.Text.Decimal

/-! # Doubles

The binary floating-point format of 64 bits, as far as it decides which numbers are too large to be read.
All comparisons are exact and on natural numbers. Whole numbers are rounded to 53 significant bits, a half
to the even neighbour; what would round beyond the largest double overflows.
-/

namespace TabletopBot.Double

/-- The least magnitude that rounds beyond the largest double, `2^1024 - 2^970`. -/
def overflow : Nat := Nat.pow 2 1024 - Nat.pow 2 970

/-- The distance between doubles around a whole number, at least one. -/
def spacing (value : Nat) : Nat := Nat.pow 2 (value.log2 + 1 - 53)

/-- The double nearest to a whole number, with unbounded exponent. -/
def round (value : Nat) : Nat :=
  let unit := spacing value
  let below := value / unit
  let rest := value % unit
  if unit < 2 * rest ∨ (2 * rest = unit ∧ below % 2 = 1) then (below + 1) * unit else below * unit

theorem spacing_pos (value : Nat) : 0 < spacing value := Nat.pow_pos (by decide)

/-- Rounding moves a number by half the spacing at most. -/
theorem two_mul_round_sub_le (value : Nat) :
    2 * (round value - value) ≤ spacing value ∧ 2 * (value - round value) ≤ spacing value := by
  have positive := spacing_pos value
  have split := Nat.div_add_mod value (spacing value)
  have small := Nat.mod_lt value positive
  simp only [round]
  rw [Nat.mul_comm] at split
  split
  · rw [Nat.add_mul]
    omega
  · omega

/-- The decimal number with the given digits in front of its point, moved by an exponent, overflows.
Where the magnitude alone does not decide, the whole digits do, of which there are 309. -/
def decimalOverflows (digits : List Char) (exponent : Int) : Bool :=
  let significant := digits.dropWhile (· == '0')
  let magnitude := significant.length + exponent
  if significant.isEmpty ∨ magnitude < 309 then false
  else if 309 < magnitude then true
  else
    let leading := significant.take 309
    overflow ≤ Text.decimalValue leading * Nat.pow 10 (309 - leading.length)

/-- The product of a whole number and a power of ten overflows where both factors are rounded before and
the product after. -/
def scaledOverflows (significand exponent : Nat) : Bool :=
  significand ≠ 0 &&
    (308 < exponent || overflow ≤ round significand * round (Nat.pow 10 exponent))

end TabletopBot.Double
