import TabletopBot.Dice.Report
import TabletopBot.Reply
import TabletopBot.Resources.Tables

/-! # Rolling dice and asking for the weather

The commands that need nothing but the resource tables and chance. A text that is no throw gets a hint
that only the asking user sees, and nothing is drawn for it.
-/

namespace TabletopBot.Command

open Dice (Report ThrowFault)

/-- Shown when a throw names no supported die. -/
def allowedDice : String := "Allowed dice are d4, d6, d8, d10, d12, d20, and d100."

def throwHint : ThrowFault → String
  | .noDieMarker => allowedDice
  | .unsupportedDie _ => allowedDice
  | .badNumber part text =>
    "Invalid format or numbers! " ++ (ThrowFault.badNumber part text).message

def roll {σ : Type} [Chance σ] (resources : Resources) (text user : String) : StateM σ Reply := do
  match ← Dice.rollText text user resources.phrases resources.songs with
  | .ok report => pure (Reply.ofText report.render)
  | .error fault => pure (Reply.ofHint (throwHint fault))

def weather {σ : Type} [Chance σ] (resources : Resources) : StateM σ Reply :=
  Reply.ofText <$> resources.forecasts.choose

def helpLines : List String := [
  "Available commands:",
  "`/search sasha yarna` - Search the Bored Gods Wiki",
  "`/ask who is sasha` - Ask a question answered from the wiki",
  "`/roll 2d6+3` - Roll some dice",
  "`/weather` - Check the Stone-upon-hill weather!",
  "`/chat what is disengage` - Ask about DND rules"]

def help : Reply := Reply.ofText ("\n".intercalate helpLines)

end TabletopBot.Command
