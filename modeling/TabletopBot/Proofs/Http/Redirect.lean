import TabletopBot.Proofs.Http.Attempt
import Mathlib.Logic.Relation

/-! # Where requests are sent on to

An answer can send a request on to another address, and its answer the next one further on. Whatever the
answers are, each request that arrives for an attempt is the attempt's own or has been sent on from it in
such steps. A step never adds an authorization and drops it at another place, so an authorization that
arrives is the attempt's own and has not left the place that the attempt is for.
-/

namespace TabletopBot.Http

theorem Url.SamePlace.refl (url : Url) : url.SamePlace url := ⟨rfl, rfl⟩

theorem Url.SamePlace.trans {url middle other : Url} (first : url.SamePlace middle)
    (second : middle.SamePlace other) : url.SamePlace other :=
  ⟨first.1.trans second.1, first.2.trans second.2⟩

/-- An answer sends a request on as another one: with the same method and body for 307 and 308, as a plain
one otherwise. The authorization goes along only to the same place. -/
structure Onward [AddressRules] (request : Outgoing) (response : Response) (next : Outgoing) : Prop where
  status : response.status ∈ [301, 302, 303, 307, 308]
  address : ∃ location address, response.location = some location ∧
    AddressRules.resolve? request.url.render location = some address ∧
    Url.parse? address = some next.url
  repeated : response.status ∈ [307, 308] → next.method = request.method ∧ next.body = request.body
  plain : response.status ∉ [307, 308] → next.method = .get ∧ next.body = none
  authorization : next.authorization =
    if next.url.SamePlace request.url then request.authorization else none

/-- The requests that come of a request by answers of a script: itself, and what it is sent on as. -/
def ComesOf [AddressRules] (script : List Reaction) : Outgoing → Outgoing → Prop :=
  Relation.ReflTransGen fun request next =>
    ∃ response, .answer response ∈ script ∧ Onward request response next

section

variable [AddressRules] {script reactions : List Reaction} {request next last : Outgoing}
  {response : Response}

/-- What is sent on carries the authorization of its origin, at the same place, or none. -/
theorem ComesOf.authorization (comes : ComesOf script request last) :
    last.authorization = none ∨
      last.authorization = request.authorization ∧ last.url.SamePlace request.url := by
  induction comes with
  | refl => exact .inr ⟨rfl, .refl _⟩
  | @tail middle last _ step ih =>
    obtain ⟨response, _, onward⟩ := step
    rw [onward.authorization]
    split
    · next near => exact ih.imp_right fun ⟨kept, place⟩ => ⟨kept, near.trans place⟩
    · exact .inl rfl

end

end TabletopBot.Http
