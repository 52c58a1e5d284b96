import TabletopBot.Chat.Client
import TabletopBot.Message

/-! # Commands that use the network

Searching the wiki, asking about the rules, and asking a question that is answered from the wiki. For
the last, the pages of all hits are fetched in order, those that fail are left out, and the documents go
to the language model; a long answer is split into several messages.
-/

namespace TabletopBot.Command

open Http (AddressRules)

def fetchFailed : String := "Failed to fetch results."

def chatFailed : String := "Something went wrong, and I don't know what."

/-- Shown when the language model has nothing to say about the documents. -/
def noAnswer : String := "AI couldn't form an answer from docs."

def askFailed : String := "Unexpected error processing /ask."

def noKnowledge (question : String) : String :=
  "No knowledge base results for '" ++ question ++ "'."

def search [AddressRules] (settings : WikiSettings) (query : String) : StateM Http.Network Reply := do
  match ← Wiki.search settings query with
  | .ok results => pure (results.reply settings.pageSize)
  | .error _ => pure (Reply.ofText fetchFailed)

def chat [AddressRules] (settings : ChatSettings) (question : String) : StateM Http.Network Reply := do
  match ← Chat.askRules settings question with
  | .ok answer => pure (Reply.ofText answer)
  | .error _ => pure (Reply.ofText chatFailed)

/-- The documents of the hits whose pages can be fetched, in order. -/
def fetchDocuments [AddressRules] (settings : WikiSettings) :
    List Wiki.Hit → StateM Http.Network (List String)
  | [] => pure []
  | hit :: hits => do
    let fetched ← Wiki.page settings hit.url
    let others ← fetchDocuments settings hits
    match fetched with
    | .ok html => pure (Wiki.Document.build hit html :: others)
    | .error _ => pure others

def answerReply : Except Chat.ChatFault String → Reply
  | .ok answer =>
    if Text.Blank answer.toList then Reply.ofText noAnswer
    else Reply.ofMessages (Message.split answer)
  | .error .noChoices => Reply.ofText noAnswer
  | .error _ => Reply.ofText askFailed

def ask [AddressRules] (wiki : WikiSettings) (chat : ChatSettings) (question : String) :
    StateM Http.Network Reply := do
  match ← Wiki.search wiki question with
  | .error _ => pure (Reply.ofText (noKnowledge question))
  | .ok results =>
    if results.hits = [] then pure (Reply.ofText (noKnowledge question))
    else
      let documents ← fetchDocuments wiki results.hits
      let answer ← Chat.askDocuments chat question documents
      pure (answerReply answer)

end TabletopBot.Command
