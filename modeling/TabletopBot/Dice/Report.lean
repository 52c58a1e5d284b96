import TabletopBot.Dice.Flavor
import TabletopBot.Dice.Throw

/-! # Roll reports

Rolling a throw gives its faces, and a report shows them. Every die has a line: a separator when there
are several dice, a phrase when the face is critical, and the face with the modifier worked out. The
line of a success is followed by the user's song.
-/

namespace TabletopBot.Dice

/-- The faces of a number of dice with the same number of sides, in the order rolled. -/
def drawFaces {σ : Type} [Chance σ] (sides : Nat) : Nat → StateM σ (List Nat)
  | 0 => pure []
  | count + 1 => do
    let face ← drawFace sides
    let faces ← drawFaces sides count
    pure (face :: faces)

def Throw.roll {σ : Type} [Chance σ] (throw : Throw) : StateM σ (List Nat) :=
  drawFaces throw.die.sides throw.count

/-- What stands before each die's line when several dice were rolled. -/
def batchSeparator : String := "---\n"

def resultText (modifier : Int) (face : Nat) : String :=
  let total := String.ofList (Text.decimalInt (face + modifier))
  if modifier = 0 then total ++ "."
  else
    let sign := if modifier < 0 then "-" else "+"
    let magnitude := String.ofList (Text.decimalDigits modifier.natAbs)
    String.ofList (Text.decimalDigits face) ++ " (" ++ sign ++ magnitude ++ ") = " ++ total ++ "."

def criticalText (phrase : String) : String := "**" ++ phrase ++ "** Natural "

structure Report where
  lines : List String
deriving DecidableEq, Repr

namespace Report

/-- The lines for one face, with the phrase drawn for it if it is critical. -/
def faceLines {σ : Type} [Chance σ] (throw : Throw) (separator : String) (book : PhraseBook)
    (songs : SongBook) (user : String) (face : Nat) : StateM σ (List String) := do
  let result := resultText throw.modifier face
  match throw.die.critical? face with
  | none => pure [separator ++ result]
  | some .failure =>
    let phrase ← book.choose .failure
    pure [separator ++ criticalText phrase ++ result]
  | some .success =>
    let phrase ← book.choose .success
    pure [separator ++ criticalText phrase ++ result, songs.linkFor user]

def allLines {σ : Type} [Chance σ] (throw : Throw) (separator : String) (book : PhraseBook)
    (songs : SongBook) (user : String) : List Nat → StateM σ (List String)
  | [] => pure []
  | face :: faces => do
    let lines ← faceLines throw separator book songs user face
    let others ← allLines throw separator book songs user faces
    pure (lines ++ others)

/-- The report on given faces; they need not be as many as the throw asks for. -/
def ofFaces {σ : Type} [Chance σ] (throw : Throw) (faces : List Nat) (book : PhraseBook)
    (songs : SongBook) (user : String) : StateM σ Report := do
  let separator := if faces.length > 1 then batchSeparator else ""
  let lines ← allLines throw separator book songs user faces
  pure ⟨lines⟩

def render (report : Report) : String := "\n".intercalate report.lines

end Report

/-- Reads a throw, rolls it and reports. A text that is no throw is refused before anything is
drawn. -/
def rollText {σ : Type} [Chance σ] (text : String) (user : String) (book : PhraseBook)
    (songs : SongBook) : StateM σ (Except ThrowFault Report) :=
  match Throw.parse text with
  | .error fault => pure (.error fault)
  | .ok throw => do
    let faces ← throw.roll
    let report ← Report.ofFaces throw faces book songs user
    pure (.ok report)

end TabletopBot.Dice
