import TabletopBot.Dice.Die
import TabletopBot.Text.LowerCase
import TabletopBot.Text.Blank
import TabletopBot.Text.Cut
import TabletopBot.Text.Quoted

/-! # Throws

A throw says how many dice of which kind are rolled and what is added to each face: `2d6+3`, `d20`,
`4d8-2`. This module holds the type, its reader and its printer, and the faults the reader reports.

Reading ignores white space and case. The text is cut at its first `d`; a text without any supported die
in it anywhere is refused before its numbers are looked at; then the count, the modifier and the number
of sides are checked in this order, and the first that is wrong is reported.
-/

namespace TabletopBot.Dice

def maxDice : Nat := 100

/-- The largest magnitude of a modifier, `2^31 - 1`. -/
def maxModifier : Nat := 2147483647

/-- The largest number that is read at all, `2^32 - 1`. -/
def maxNumber : Nat := 4294967295

/-- How many dice, which die, and what is added to every face. -/
structure Throw where
  count : Nat
  die : Die
  modifier : Int
  count_pos : 0 < count
  count_le : count ≤ maxDice
  modifier_le : modifier.natAbs ≤ maxModifier
deriving DecidableEq, Repr

inductive NumberPart where
  | count
  | sides
  | modifier
deriving DecidableEq, Repr

def NumberPart.label : NumberPart → String
  | .count => "dice count"
  | .sides => "die sides"
  | .modifier => "modifier"

inductive ThrowFault where
  /-- There is no `d` in it. -/
  | noDieMarker
  /-- The die is none of the seven. -/
  | unsupportedDie (text : String)
  /-- A number is missing, malformed or out of range. -/
  | badNumber (part : NumberPart) (text : String)
deriving DecidableEq, Repr

def ThrowFault.message : ThrowFault → String
  | .noDieMarker => "missing 'd' in dice notation"
  | .unsupportedDie text => "unsupported die size: " ++ text
  | .badNumber part text => "invalid " ++ part.label ++ ": " ++ Text.quoted text

namespace Throw

/-- The names of the seven dice, one of which has to occur in a throw. -/
def dieNames : List (List Char) := Die.all.map Die.name

def namesDie (chars : List Char) : Bool := dieNames.any fun name => Text.occursIn name chars

/-- White space goes and the rest is put in lower case. -/
def normalize (chars : List Char) : List Char := Text.lower (Text.withoutBlanks chars)

/-- The number that a piece of text denotes, if it is a run of digits within the bounds. -/
def number (part : NumberPart) (least most : Nat) (piece : List Char) :
    Except ThrowFault { value : Nat // least ≤ value ∧ value ≤ most } :=
  match Text.natUpTo? most piece with
  | some value =>
    if bounds : least ≤ value ∧ value ≤ most then .ok ⟨value, bounds⟩
    else .error (.badNumber part (String.ofList piece))
  | none => .error (.badNumber part (String.ofList piece))

theorem number_eq_ok_iff {part : NumberPart} {least most : Nat} {piece : List Char}
    {value : { value : Nat // least ≤ value ∧ value ≤ most }} :
    number part least most piece = .ok value ↔ Text.natOfDigits? piece = some value.1 := by
  unfold number
  cases read : Text.natUpTo? most piece with
  | none =>
    simp only [reduceCtorEq, false_iff]
    intro denoted
    rw [Text.natUpTo?_eq_some_iff.mpr ⟨denoted, value.2.2⟩] at read
    cases read
  | some found =>
    obtain ⟨denoted, _⟩ := Text.natUpTo?_eq_some_iff.mp read
    by_cases bounds : least ≤ found ∧ found ≤ most
    · simp [bounds, denoted, Subtype.ext_iff]
    · simp only [bounds, ↓reduceDIte, reduceCtorEq, denoted, Option.some.injEq, false_iff]
      rintro rfl
      exact bounds value.2

/-- The text of the sides and of the modifier around a sign that has to occur exactly once. -/
def cutAtSign (sign : Char) (tail : List Char) : Except ThrowFault (List Char × List Char) :=
  match Text.cutAt? sign tail with
  | some (sides, piece) =>
    if sign ∈ piece then .error (.badNumber .modifier (String.ofList tail)) else .ok (sides, piece)
  | none => .error (.badNumber .modifier (String.ofList tail))

abbrev Modifier := { modifier : Int // modifier.natAbs ≤ maxModifier }

/-- What is behind the `d`, cut into the text of the sides and the modifier. A plus sign is looked for
before a minus sign. -/
def splitModifier (tail : List Char) : Except ThrowFault (List Char × Modifier) :=
  if '+' ∈ tail then do
    let (sides, piece) ← cutAtSign '+' tail
    let magnitude ← number .modifier 0 maxModifier piece
    .ok (sides, ⟨magnitude.1, magnitude.2.2⟩)
  else if '-' ∈ tail then do
    let (sides, piece) ← cutAtSign '-' tail
    let magnitude ← number .modifier 0 maxModifier piece
    .ok (sides, ⟨-magnitude.1, by rw [Int.natAbs_neg]; exact magnitude.2.2⟩)
  else .ok (tail, ⟨0, Nat.zero_le _⟩)

/-- The number of dice: one where nothing stands before the `d`. -/
def readCount (head : List Char) :
    Except ThrowFault { count : Nat // 1 ≤ count ∧ count ≤ maxDice } :=
  if head.isEmpty then .ok ⟨1, by decide⟩ else number .count 1 maxDice head

def readDie (sides : List Char) : Except ThrowFault Die := do
  let value ← number .sides 0 maxNumber sides
  match Die.ofSides? value.1 with
  | some die => .ok die
  | none => .error (.unsupportedDie (String.ofList sides))

def ofNormalized (chars : List Char) : Except ThrowFault Throw :=
  match Text.cutAt? 'd' chars with
  | none => .error .noDieMarker
  | some (head, tail) =>
    if !namesDie chars then .error (.unsupportedDie (String.ofList tail))
    else do
      let count ← readCount head
      let (sides, modifier) ← splitModifier tail
      let die ← readDie sides
      .ok ⟨count.1, die, modifier.1, count.2.1, count.2.2, modifier.2⟩

def parse (text : String) : Except ThrowFault Throw := ofNormalized (normalize text.toList)

/-- A modifier as it is written behind the die: nothing for zero, else with its sign. -/
def modifierChars (modifier : Int) : List Char :=
  if modifier = 0 then []
  else if 0 < modifier then '+' :: Text.decimalDigits modifier.natAbs
  else '-' :: Text.decimalDigits modifier.natAbs

/-- The shortest way to write a throw. -/
def render (throw : Throw) : String :=
  String.ofList (Text.decimalDigits throw.count ++ throw.die.name ++ modifierChars throw.modifier)

end Throw

end TabletopBot.Dice
