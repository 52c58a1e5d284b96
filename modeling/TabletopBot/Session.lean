import TabletopBot.Command.Roll
import TabletopBot.Webhook.Announcement

/-! # Sessions

A session is a sequence of requests that share the resource tables and one source of chance: rolls,
forecasts, announcements, single phrases and song links. Every request is answered in turn.
-/

namespace TabletopBot.Session

inductive Step where
  | roll (text user : String)
  | weather
  | newPage (author : String) (url : Option String)
  | phrase (critical : Dice.Critical)
  | link (user : String)
deriving DecidableEq, Repr

structure Answer where
  content : String
  ephemeral : Bool := false
deriving DecidableEq, Repr

/-- The part of a reply that a session shows. -/
def Answer.ofReply (reply : Reply) : Answer := ⟨reply.content, reply.ephemeral⟩

def answer {σ : Type} [Chance σ] (resources : Resources) : Step → StateM σ Answer
  | .roll text user => Answer.ofReply <$> Command.roll resources text user
  | .weather => Answer.ofReply <$> Command.weather resources
  | .newPage author url => do
    let content ← Webhook.announce resources.announcements author url
    pure { content }
  | .phrase critical => do
    let content ← resources.phrases.choose critical
    pure { content }
  | .link user => pure { content := resources.songs.linkFor user }

def run {σ : Type} [Chance σ] (resources : Resources) : List Step → StateM σ (List Answer)
  | [] => pure []
  | step :: steps => do
    let first ← answer resources step
    let others ← run resources steps
    pure (first :: others)

end TabletopBot.Session
