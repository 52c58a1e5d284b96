import TabletopBot.Http.Status
import TabletopBot.Http.Url
import TabletopBot.Json.Decoder
import TabletopBot.Json.Value

/-! # The network

Requests go out one after the other and each is answered or not. What is at the other end is a value: a
script of answers, which is used up from the front and followed by 404 answers without end, or nobody,
whom no request reaches. The requests that reached the other end are noted in order.

An answer may send a request on to another address, and up to ten such redirects are followed: for 307 and
308 with the same request, for 301, 302 and 303 with a plain one. The authorization goes along only as long
as host and port stay the same. An address that cannot be read or is too long is refused before anything is
sent. Time limits and encryption are not modelled.
-/

namespace TabletopBot.Http

inductive Method where
  | get
  | post
deriving DecidableEq, Repr

/-- A request as it arrives at the other end, with the headers that matter. -/
structure Request where
  method : Method
  url : String
  authorization : Option String := none
  contentType : Option String := none
  body : Option Json.Value := none

/-- A request that is to be sent; a body is sent as JSON. -/
structure Outgoing where
  method : Method
  url : Url
  authorization : Option String := none
  body : Option Json.Value := none

def Outgoing.toRequest (outgoing : Outgoing) : Request where
  method := outgoing.method
  url := outgoing.url.render
  authorization := outgoing.authorization
  contentType := outgoing.body.map fun _ => "application/json"
  body := outgoing.body

structure Response where
  status : Nat
  body : List UInt8
  /-- Where the answer says to look instead. -/
  location : Option String := none
deriving DecidableEq, Repr

inductive Reaction where
  | answer (response : Response)
  /-- The connection is closed without an answer. -/
  | drop
deriving DecidableEq, Repr

inductive Peer where
  | script (reactions : List Reaction)
  | nobody
deriving DecidableEq, Repr

structure Network where
  peer : Peer
  sent : List Request := []

/-- The body that is received: some status codes never come with one. -/
def Response.received (response : Response) : List UInt8 :=
  if response.status = 204 ∨ response.status = 304 then [] else response.body

/-- What is answered when a script has run out. -/
def notFound : Response := { status := 404, body := [] }

/-- Sends one request; `none` when no answer comes back. -/
def transmit (request : Request) : StateM Network (Option Response) := fun network =>
  match network.peer with
  | .nobody => (none, network)
  | .script [] => (some notFound, { network with sent := network.sent ++ [request] })
  | .script (.answer response :: rest) =>
    (some response, ⟨.script rest, network.sent ++ [request]⟩)
  | .script (.drop :: rest) => (none, ⟨.script rest, network.sent ++ [request]⟩)

/-- What an answer means for its request. -/
inductive Verdict where
  | stands
  /-- It sends the request on to an address that no request can go to. -/
  | fails
  | leadsTo (next : Outgoing)

def Outgoing.movedTo (outgoing : Outgoing) (status : Nat) (url : Url) : Outgoing :=
  let authorization := if url.SamePlace outgoing.url then outgoing.authorization else none
  if Status.keepsRequest status then { outgoing with url, authorization }
  else { method := .get, url, authorization }

/-- What an answer means for its request. A location that names no address is passed over. -/
def Outgoing.verdict [AddressRules] (outgoing : Outgoing) (response : Response) : Verdict :=
  if Status.isRedirect response.status then
    match response.location.bind (AddressRules.resolve? outgoing.url.render) with
    | none => .stands
    | some address =>
      match Url.parse? address with
      | none => .fails
      | some url =>
        if url.isSendable then .leadsTo (outgoing.movedTo response.status url) else .fails
  else .stands

def maxRedirects : Nat := 10

/-- Sends a request and follows the redirects of its answers; `none` when no answer comes back that
stands. -/
def send [AddressRules] : Nat → Outgoing → StateM Network (Option Response)
  | redirects, outgoing => do
    match ← transmit outgoing.toRequest with
    | none => pure none
    | some response =>
      match outgoing.verdict response with
      | .stands => pure (some response)
      | .fails => pure none
      | .leadsTo next =>
        match redirects with
        | 0 => pure none
        | left + 1 => send left next

/-- A request to nobody changes nothing and is not answered. -/
theorem send_nobody [AddressRules] (redirects : Nat) (outgoing : Outgoing) (sent : List Request) :
    send redirects outgoing ⟨.nobody, sent⟩ = (none, ⟨.nobody, sent⟩) := by
  rw [send]
  rfl

/-- A text can be sent as a header: it has no control characters but tabs. -/
def isHeaderText (text : String) : Bool :=
  text.toList.all fun char => char = '\t' || (32 ≤ char.toNat && char.toNat ≠ 127)

def get [AddressRules] (address : Option Url) (authorization : String) :
    StateM Network (Option Response) :=
  match address with
  | some url =>
    if url.isSendable && isHeaderText authorization then
      send maxRedirects { method := .get, url, authorization := some authorization }
    else pure none
  | none => pure none

def post [AddressRules] (address : Option Url) (authorization : Option String) (body : Json.Value) :
    StateM Network (Option Response) :=
  match address with
  | some url =>
    if url.isSendable && authorization.all isHeaderText then
      send maxRedirects { method := .post, url, authorization, body := some body }
    else pure none
  | none => pure none

theorem post_nobody [AddressRules] (address : Option Url) (authorization : Option String)
    (body : Json.Value) (sent : List Request) :
    post address authorization body ⟨.nobody, sent⟩ = (none, ⟨.nobody, sent⟩) := by
  cases address with
  | none => rfl
  | some url =>
    rw [post]
    split
    · exact send_nobody maxRedirects _ sent
    · rfl

end TabletopBot.Http
