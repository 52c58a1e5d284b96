import TabletopBot.Text.Decimal

/-! # Dice

The seven dice that can be rolled. A die is named by its number of sides, and only a d20 has critical
faces: the highest is a success, the lowest a failure.
-/

namespace TabletopBot.Dice

inductive Die where
  | d4
  | d6
  | d8
  | d10
  | d12
  | d20
  | d100
deriving DecidableEq, Repr

/-- A face that has a phrase of its own. -/
inductive Critical where
  | success
  | failure
deriving DecidableEq, Repr

namespace Die

def all : List Die := [d4, d6, d8, d10, d12, d20, d100]

def sides : Die → Nat
  | d4 => 4
  | d6 => 6
  | d8 => 8
  | d10 => 10
  | d12 => 12
  | d20 => 20
  | d100 => 100

def ofSides? (sides : Nat) : Option Die := all.find? (·.sides == sides)

@[simp] theorem ofSides?_sides (die : Die) : ofSides? die.sides = some die := by
  cases die <;> rfl

theorem ofSides?_eq_some_iff {sides : Nat} {die : Die} :
    ofSides? sides = some die ↔ die.sides = sides := by
  constructor
  · intro found
    simpa using List.find?_some found
  · rintro rfl
    exact ofSides?_sides die

def name (die : Die) : List Char := 'd' :: Text.decimalDigits die.sides

/-- The kind of critical that a face is on this die, if any. -/
def critical? : Die → Nat → Option Critical
  | d20, 20 => some .success
  | d20, 1 => some .failure
  | _, _ => none

end Die

end TabletopBot.Dice
