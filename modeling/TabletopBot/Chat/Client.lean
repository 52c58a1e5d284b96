import TabletopBot.Config.Settings
import TabletopBot.Http.Network
import TabletopBot.Http.Status
import TabletopBot.Wiki.Client
import TabletopBot.Wiki.Document

/-! # Asking the language model

Questions go to a chat-completions service: questions about the rules, and questions to be answered from
wiki documents. Without a key nothing is asked. The answer is the text of the first choice.
-/

namespace TabletopBot.Chat

open Http (AddressRules)

/-- Why the language model did not answer. -/
inductive ChatFault where
  /-- No key is configured. -/
  | notConfigured
  /-- The request was refused or not answered, or the answer is not what it should be. -/
  | request
  /-- The answer does not tell of success. -/
  | status (code : Nat)
  /-- The answer offers no choice. -/
  | noChoices
deriving DecidableEq, Repr

/-- The wording of a fault; a failed request has no wording of its own. -/
def ChatFault.message? : ChatFault → Option String
  | .notConfigured => some "chat API key not configured"
  | .request => none
  | .status code => some ("chat API error: " ++ Http.Status.render code)
  | .noChoices => some "chat API returned no choices"

def rulesPrompt : String :=
  "You are a chatbot replying ONLY to questions about Dungeons and Dragons 5E rules. " ++
  "You refuse to discuss anything else but DND rules."

def documentsPrompt : String :=
  "Write a comprehensive, well-structured answer (multiple paragraphs) summarizing and " ++
  "synthesizing the information. Write ALL that is required, without restraint. Assume the " ++
  "reader is familiar with the setting, no need for fluff about that. If any retrieved article " ++
  "does not relate to the question, omit it from your answer. Your tone is that of a story " ++
  "teller, but your job is to reproduce the source material in a factual way."

/-- How a kind of question is put to the model. -/
structure Manner where
  system : String
  maxTokens : Nat
  /-- The temperature in tenths. -/
  temperature : Nat
deriving DecidableEq, Repr

/-- Questions about the rules get short and sober answers. -/
def rulesManner : Manner := ⟨rulesPrompt, 1024, 2⟩

/-- Questions about documents get long and freer answers. -/
def documentsManner : Manner := ⟨documentsPrompt, 2048, 4⟩

def message (role content : String) : Json.Value :=
  .object [("role", .string role), ("content", .string content)]

def completionBody (settings : ChatSettings) (manner : Manner) (question : String) : Json.Value :=
  .object [
    ("model", .string settings.model),
    ("messages", .list [message "system" manner.system, message "user" question]),
    ("max_tokens", .number manner.maxTokens 0),
    ("temperature", .number manner.temperature 1)]

/-- A message as far as it has been read. -/
structure MessageDraft where
  role : Option String := none
  content : Option String := none

def messageRecord : Json.Record MessageDraft String where
  fields := [
    { name := "role"
      known draft := draft.role.isSome
      read draft tokens := do
        let (role, rest) ← Json.string tokens
        .ok ({ draft with role := some role }, rest) },
    { name := "content"
      known draft := draft.content.isSome
      read draft tokens := do
        let (content, rest) ← Json.string tokens
        .ok ({ draft with content := some content }, rest) }]
  start := {}
  finish draft := do
    let _ ← draft.role
    draft.content

/-- A choice as a record, of which the content of the message is taken. -/
def choiceRecord : Json.Record (Option String) String where
  fields := [
    { name := "message"
      known draft := draft.isSome
      read _ tokens := do
        let (content, rest) ← messageRecord.decoder tokens
        .ok (some content, rest) }]
  start := none
  finish draft := draft

def completionRecord : Json.Record (Option (List String)) (List String) where
  fields := [
    { name := "choices"
      known draft := draft.isSome
      read _ tokens := do
        let (choices, rest) ← Json.list choiceRecord.decoder tokens
        .ok (some choices, rest) }]
  start := none
  finish draft := draft

def completionUrl? [AddressRules] (settings : ChatSettings) : Option Http.Url :=
  Http.Url.parse? (Wiki.withoutEndSlashes settings.baseUrl ++ "/chat/completions")

def firstChoice (body : List UInt8) : Except ChatFault String :=
  match Json.decode completionRecord.decoder body with
  | .error _ => .error .request
  | .ok [] => .error .noChoices
  | .ok (choice :: _) => .ok choice

def complete [AddressRules] (settings : ChatSettings) (manner : Manner) (question : String) :
    StateM Http.Network (Except ChatFault String) := do
  match settings.apiKey with
  | none => pure (.error .notConfigured)
  | some key =>
    match ← Http.post (completionUrl? settings) (some ("Bearer " ++ key))
      (completionBody settings manner question) with
    | none => pure (.error .request)
    | some response =>
      if Http.Status.isSuccess response.status then pure (firstChoice response.received)
      else pure (.error (.status response.status))

def askRules [AddressRules] (settings : ChatSettings) (question : String) :
    StateM Http.Network (Except ChatFault String) :=
  complete settings rulesManner question

def askDocuments [AddressRules] (settings : ChatSettings) (question : String)
    (documents : List String) : StateM Http.Network (Except ChatFault String) :=
  complete settings documentsManner (Wiki.Document.prompt question documents)

end TabletopBot.Chat
