import TabletopBot.Json.Value
import TabletopBot.Resources.Tables
import TabletopBot.Text.Utf8

/-! # The tables that come with the bot

The contents of the four resource files that are in use unless others are put in their place.
-/

namespace TabletopBot.Shipped

def successPhrases : List String :=
  [
    "The gods smile upon you!",
    "Bards will sing of this one!",
    "Flawless!",
    "Critical SUCCESS!",
    "The dice have chosen their champion!"]

def failurePhrases : List String :=
  [
    "The gods are laughing.",
    "Maybe try a different hobby?",
    "Critical FAIL!",
    "Somewhere, a goblin is pointing at you.",
    "Oof."]

def songs : List (String × String) :=
  [
    ("sasha", "4cOdK2wGLETKBW3PvgPWqT?si=0b5e1a6f8f1c4d2a"),
    ("yarna", "2takcwOaAZWiXQijPHIx7B?si=6d2d3f1c9b7e4a10")]

def forecasts : List (String × String) :=
  [
    ("clear", "Clear skies over Stone-upon-hill. A fine day for adventuring."),
    ("drizzle", "A cold drizzle rolls down from the hills. Pack a cloak."),
    ("fog", "Thick fog in the valley. Something moves within it."),
    ("storm", "Thunderstorms expected by dusk. Wizards advise against metal armor."),
    ("frogs", "Light showers, with a small chance of frogs.")]

def announcements : List (String × String) :=
  [
    ("scroll", "A new scroll has been added to the archives!"),
    ("quill", "Hot off the quill, a new page has appeared in the wiki!"),
    ("herald", "Hear ye, hear ye! The wiki grows once more!"),
    ("lore", "Fresh lore has been unearthed!")]

def textObject (pairs : List (String × String)) : Json.Value :=
  .object (pairs.map fun pair => (pair.1, .string pair.2))

def textList (texts : List String) : Json.Value := .list (texts.map .string)

def document : ResourceFile → Json.Value
  | .criticalPhrases =>
    .object [("success", textList successPhrases), ("failure", textList failurePhrases)]
  | .criticalSongs => textObject songs
  | .forecasts => textObject forecasts
  | .announcements => textObject announcements

def files : ResourceFiles := fun file => some (Text.Utf8.encode (document file).chars)

end TabletopBot.Shipped
