import TabletopBot.Json.Value
import TabletopBot.Webhook.Announcement
import TabletopBot.Webhook.Event
import TabletopBot.Webhook.MediaType
import TabletopBot.Webhook.Queue

/-! # The webhook

The web server that the wiki posts its events to. It introduces itself, tells whether announcements can
be relayed, and queues an announcement for every new page. An announcement is answered only after it has
been queued, so a full queue makes its request wait.
-/

namespace TabletopBot.Webhook

structure Request where
  method : String
  /-- The path with its query, or an absolute address. -/
  target : String
  contentType : Option String := none
  body : List UInt8 := []
deriving DecidableEq, Repr

structure Answer where
  status : Nat
  body : String := ""
deriving DecidableEq, Repr

inductive Outcome where
  | answered (answer : Answer)
  /-- The request waits for room in the queue. -/
  | blocked
deriving DecidableEq, Repr

inductive Route where
  | root
  | health
  | newPost
deriving DecidableEq, Repr

/-- The characters of which the scheme of an absolute address consists. -/
def isSchemeChar (char : Char) : Bool := char.isAlphanum || "+-.".toList.contains char

/-- The path in the target of a request: what is in front of a query or a fragment, without the scheme
and the authority that an absolute address starts with. It is empty where there is none. -/
def targetPath (target : List Char) : List Char :=
  let location := target.takeWhile fun char => char != '?' && char != '#'
  match location, location.dropWhile isSchemeChar with
  | '/' :: _, _ => location
  | _, ':' :: '/' :: '/' :: address =>
    let path := address.dropWhile (· != '/')
    if path.isEmpty then ['/'] else path
  | _, _ => []

def Route.ofTarget? (target : String) : Option Route :=
  let path := String.ofList (targetPath target.toList)
  if path = "/" then some .root
  else if path = "/health" then some .health
  else if path = "/webhooks/new_post" then some .newPost
  else none

/-- The largest body that is read, two mebibytes. -/
def bodyLimit : Nat := 2 * 1024 * 1024

def introduction : Json.Value := .object [("name", .string "boredbot"), ("version", .string "0.1.0")]

def healthAnswer (queue : Queue) : Answer :=
  if queue.receiver = .open then
    ⟨200, (Json.Value.object [("status", .string "healthy"), ("relay", .string "ok")]).render⟩
  else
    ⟨503, (Json.Value.object [("status", .string "unhealthy"), ("relay", .string "stopped")]).render⟩

theorem healthAnswer_of_open {queue : Queue} (reading : queue.receiver = .open) :
    healthAnswer queue =
      ⟨200, (Json.Value.object [("status", .string "healthy"), ("relay", .string "ok")]).render⟩ := by
  rw [healthAnswer, if_pos reading]

/-- The answer to an event that is dealt with or needs nothing. -/
def received : Answer := ⟨200, "Webhook received"⟩

/-- Reads the event in a request, or answers why there is none. The content type is checked before the
body. -/
def eventOf (request : Request) : Except Answer Event :=
  if !request.contentType.any MediaType.isJson then
    .error ⟨415, "Expected request with `Content-Type: application/json`"⟩
  else if bodyLimit < request.body.length then
    .error ⟨413, "Failed to buffer the request body: length limit exceeded"⟩
  else
    match Event.decode request.body with
    | .ok event => .ok event
    | .error .mismatch => .error ⟨422, "Failed to deserialize the JSON body into the target type"⟩
    | .error _ => .error ⟨400, "Failed to parse the request body as JSON"⟩

/-- Deals with an event: a new page is announced, everything else is ignored. -/
def accept {σ : Type} [Chance σ] (pool : MessagePool) (channelId : Nat) (event : Event)
    (queue : Queue) : StateM σ (Outcome × Queue) := do
  if event.kind ≠ Event.pageCreate then pure (.answered received, queue)
  else
    match event.actor with
    | none => pure (.answered ⟨400, "Missing triggered_by"⟩, queue)
    | some author =>
      let content ← announce pool author event.url
      match queue.push ⟨channelId, content⟩ with
      | .queued next => pure (.answered received, next)
      | .full => pure (.blocked, queue)
      | .refused => pure (.answered ⟨503, "Notification relay unavailable"⟩, queue)

/-- A page that is only read: `GET` gives it and `HEAD` its status. -/
def readOnly (method : String) (answer : Answer) : Outcome :=
  if method = "GET" then .answered answer
  else if method = "HEAD" then .answered { answer with body := "" }
  else .answered ⟨405, ""⟩

/-- Answers a request, given the queue, which may get one notification longer. -/
def respond {σ : Type} [Chance σ] (pool : MessagePool) (channelId : Nat) (request : Request)
    (queue : Queue) : StateM σ (Outcome × Queue) :=
  match Route.ofTarget? request.target with
  | none => pure (.answered ⟨404, ""⟩, queue)
  | some .root => pure (readOnly request.method ⟨200, introduction.render⟩, queue)
  | some .health => pure (readOnly request.method (healthAnswer queue), queue)
  | some .newPost =>
    if request.method ≠ "POST" then pure (.answered ⟨405, ""⟩, queue)
    else
      match eventOf request with
      | .error answer => pure (.answered answer, queue)
      | .ok event => accept pool channelId event queue

end TabletopBot.Webhook
