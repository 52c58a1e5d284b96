import TabletopBot.Json.Decoder

/-! # Wiki events

What the wiki posts when something happens on it: the kind of event, and possibly the address of the page
and who did it. Everything else in the post is ignored.
-/

namespace TabletopBot.Webhook

structure Event where
  kind : String
  url : Option String
  /-- The name of who did it. -/
  actor : Option String
deriving DecidableEq, Repr

namespace Event

/-- The kind of event that is announced. -/
def pageCreate : String := "page_create"

structure Draft where
  kind : Option String := none
  url : Option (Option String) := none
  actor : Option (Option String) := none

def actorRecord : Json.Record (Option String) String where
  fields := [
    { name := "name"
      known draft := draft.isSome
      read _ tokens := do
        let (name, rest) ← Json.string tokens
        .ok (some name, rest) }]
  start := none
  finish draft := draft

/-- An event as a record; the address and the actor may be missing. -/
def record : Json.Record Draft Event where
  fields := [
    { name := "event"
      known draft := draft.kind.isSome
      read draft tokens := do
        let (kind, rest) ← Json.string tokens
        .ok ({ draft with kind := some kind }, rest) },
    { name := "url"
      known draft := draft.url.isSome
      read draft tokens := do
        let (url, rest) ← Json.optional Json.string tokens
        .ok ({ draft with url := some url }, rest) },
    { name := "triggered_by"
      known draft := draft.actor.isSome
      read draft tokens := do
        let (actor, rest) ← Json.optional actorRecord.decoder tokens
        .ok ({ draft with actor := some actor }, rest) }]
  start := {}
  finish draft := draft.kind.map fun kind =>
    { kind, url := draft.url.getD none, actor := draft.actor.getD none }

def decode (body : List UInt8) : Except Json.Problem Event := Json.decode record.decoder body

end Event

end TabletopBot.Webhook
