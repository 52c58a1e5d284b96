import TabletopBot.Config.Settings
import TabletopBot.Http.Network
import TabletopBot.Http.Status
import TabletopBot.Wiki.Preview
import TabletopBot.Wiki.Results

/-! # Asking the wiki

Searching the wiki and fetching its pages. Both carry the wiki's token, and only status 200 counts as an
answer. A search result keeps at most as many hits as fit on a page, with their previews cleaned up.
-/

namespace TabletopBot.Wiki

open Http (AddressRules)

inductive WikiFault where
  /-- The request was refused or not answered, or the answer is not what it should be. -/
  | request
  /-- The answer has another status than 200. -/
  | status (code : Nat)
deriving DecidableEq, Repr

/-- The wording of a status fault; a failed request has no wording of its own. -/
def WikiFault.message? : WikiFault → Option String
  | .request => none
  | .status code => some ("wiki returned " ++ Http.Status.render code)

def withoutEndSlashes (text : String) : String :=
  String.ofList (text.toList.reverse.dropWhile (· == '/')).reverse

def authorization (settings : WikiSettings) : String :=
  "Token " ++ settings.apiId ++ ":" ++ settings.apiKey

/-- A hit as the wiki sends it; the preview is HTML. -/
structure Item where
  name : String
  url : String
  preview : Option String
deriving DecidableEq, Repr

structure ItemDraft where
  name : Option String := none
  url : Option String := none
  preview : Option (Option String) := none

/-- The preview of a hit: a record with one text, empty where it is missing. -/
def previewRecord : Json.Record (Option String) String where
  fields := [
    { name := "content"
      known draft := draft.isSome
      read _ tokens := do
        let (content, rest) ← Json.string tokens
        .ok (some content, rest) }]
  start := none
  finish draft := some (draft.getD "")

/-- A hit as a record; its preview may be missing. -/
def itemRecord : Json.Record ItemDraft Item where
  fields := [
    { name := "name"
      known draft := draft.name.isSome
      read draft tokens := do
        let (name, rest) ← Json.string tokens
        .ok ({ draft with name := some name }, rest) },
    { name := "url"
      known draft := draft.url.isSome
      read draft tokens := do
        let (url, rest) ← Json.string tokens
        .ok ({ draft with url := some url }, rest) },
    { name := "preview_html"
      known draft := draft.preview.isSome
      read draft tokens := do
        let (preview, rest) ← Json.optional previewRecord.decoder tokens
        .ok ({ draft with preview := some preview }, rest) }]
  start := {}
  finish draft := do
    let name ← draft.name
    let url ← draft.url
    some { name, url, preview := draft.preview.getD none }

structure AnswerDraft where
  total : Option Nat := none
  items : Option (List Item) := none

def answerRecord : Json.Record AnswerDraft (Nat × List Item) where
  fields := [
    { name := "total"
      known draft := draft.total.isSome
      read draft tokens := do
        let (total, rest) ← Json.natBelow UInt64.size tokens
        .ok ({ draft with total := some total }, rest) },
    { name := "data"
      known draft := draft.items.isSome
      read draft tokens := do
        let (items, rest) ← Json.list itemRecord.decoder tokens
        .ok ({ draft with items := some items }, rest) }]
  start := {}
  finish draft := do
    let total ← draft.total
    let items ← draft.items
    some (total, items)

def Item.toHit (item : Item) : Hit :=
  { name := item.name, url := item.url, preview := (item.preview.map Preview.clean).getD "" }

def resultsOfAnswer (pageSize : Nat) (answer : Nat × List Item) : Results :=
  ⟨answer.1, (answer.2.take pageSize).map Item.toHit⟩

def searchFields (settings : WikiSettings) (query : String) : List (String × String) :=
  [("query", query), ("page", "1"),
    ("count", String.ofList (Text.decimalDigits settings.pageSize))]

def searchUrl? [AddressRules] (settings : WikiSettings) (query : String) : Option Http.Url :=
  (Http.Url.parse? (withoutEndSlashes settings.baseUrl ++ "/search")).map
    (·.withForm (searchFields settings query))

/-- Asks for an address with the wiki's token and takes the body of a 200 answer. -/
def fetch [AddressRules] (settings : WikiSettings) (url : Option Http.Url) :
    StateM Http.Network (Except WikiFault (List UInt8)) := do
  match ← Http.get url (authorization settings) with
  | none => pure (.error .request)
  | some response =>
    if response.status = 200 then pure (.ok response.received)
    else pure (.error (.status response.status))

def search [AddressRules] (settings : WikiSettings) (query : String) :
    StateM Http.Network (Except WikiFault Results) := do
  match ← fetch settings (searchUrl? settings query) with
  | .error fault => pure (.error fault)
  | .ok body =>
    match Json.decode answerRecord.decoder body with
    | .ok answer => pure (.ok (resultsOfAnswer settings.pageSize answer))
    | .error _ => pure (.error .request)

def page [AddressRules] (settings : WikiSettings) (url : String) :
    StateM Http.Network (Except WikiFault String) := do
  match ← fetch settings (Http.Url.parse? url) with
  | .error fault => pure (.error fault)
  | .ok body => pure (.ok (String.ofList (Text.Utf8.decodeLossy body)))

end TabletopBot.Wiki
