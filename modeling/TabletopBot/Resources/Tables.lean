import TabletopBot.Dice.Flavor
import TabletopBot.Json.Decoder
import TabletopBot.Resources.Pool

/-! # Resource tables

The bot reads four JSON files once, before it answers anything: phrases for critical rolls, songs by
user, weather forecasts, and announcements of new pages. Each file is read and checked on its own, in
this order, and the first that is not good decides the outcome.
-/

namespace TabletopBot

open Dice (PhraseBook SongBook)

/-- The resource files, in the order in which they are read. -/
inductive ResourceFile where
  | criticalPhrases
  | criticalSongs
  | forecasts
  | announcements
deriving DecidableEq, Repr

namespace ResourceFile

def all : List ResourceFile := [criticalPhrases, criticalSongs, forecasts, announcements]

def name : ResourceFile → String
  | criticalPhrases => "dice_critical_responses.json"
  | criticalSongs => "critical_songs.json"
  | forecasts => "forecast.json"
  | announcements => "new_post_messages.json"

end ResourceFile

/-- The contents of a resources directory; `none` for a file that is not there. -/
abbrev ResourceFiles := ResourceFile → Option (List UInt8)

inductive ResourceFault where
  /-- The file is not there. -/
  | absent (file : ResourceFile)
  /-- The file is not UTF-8 text. -/
  | notText (file : ResourceFile)
  /-- The text is not JSON of the type asked for. -/
  | json (file : ResourceFile) (problem : Json.Problem)
  /-- The pool has no messages. -/
  | empty (file : ResourceFile)
deriving DecidableEq, Repr

structure SongSettings where
  linkBase : String := Dice.defaultLinkBase
  fallback : String := Dice.defaultFallback
deriving DecidableEq, Repr

structure Resources where
  phrases : PhraseBook
  songs : SongBook
  forecasts : MessagePool
  announcements : MessagePool
deriving Repr

namespace Resources

structure PhraseDraft where
  success : Option (List String) := none
  failure : Option (List String) := none

def phraseLists : Json.Record PhraseDraft (List String × List String) where
  fields := [
    { name := "success"
      known draft := draft.success.isSome
      read draft tokens := do
        let (phrases, rest) ← Json.list Json.string tokens
        .ok ({ draft with success := some phrases }, rest) },
    { name := "failure"
      known draft := draft.failure.isSome
      read draft tokens := do
        let (phrases, rest) ← Json.list Json.string tokens
        .ok ({ draft with failure := some phrases }, rest) }]
  start := {}
  finish draft := do
    let success ← draft.success
    let failure ← draft.failure
    some (success, failure)

/-- Reads a phrase book. That neither list is empty is checked behind the closing bracket. -/
def phraseBook : Json.Decoder PhraseBook := fun tokens => do
  let ((success, failure), rest) ← phraseLists.decoder tokens
  match PhraseBook.ofLists success failure with
  | .ok book => .ok (book, rest)
  | .error _ => .error .mismatch

def songEntries : Json.Decoder (List (String × String)) := Json.pairs Json.string

def read {α : Type} (files : ResourceFiles) (file : ResourceFile) (decoder : Json.Decoder α) :
    Except ResourceFault α :=
  match files file with
  | none => .error (.absent file)
  | some bytes =>
    match Text.Utf8.decode? bytes with
    | none => .error (.notText file)
    | some _ =>
      match Json.decode decoder bytes with
      | .ok value => .ok value
      | .error problem => .error (.json file problem)

def readPool (files : ResourceFiles) (file : ResourceFile) : Except ResourceFault MessagePool := do
  let entries ← read files file (Json.pairs Json.string)
  match MessagePool.ofPairs? entries with
  | some pool => .ok pool
  | none => .error (.empty file)

def load (files : ResourceFiles) (settings : SongSettings) : Except ResourceFault Resources := do
  let phrases ← read files .criticalPhrases phraseBook
  let songs ← read files .criticalSongs songEntries
  let forecasts ← readPool files .forecasts
  let announcements ← readPool files .announcements
  .ok {
    phrases
    songs := { entries := songs, fallback := settings.fallback, linkBase := settings.linkBase }
    forecasts
    announcements }

end Resources

end TabletopBot
