import TabletopBot.Http.Network
import Mathlib.Data.List.DropRight

/-! # Attempted requests

An action on the network attempts requests one after the other. An attempt is refused, and nothing is sent,
where its address cannot be read or is too long, or where its authorization cannot stand in a header. Any
other attempt sends its request, and behind it the requests that the answers of the script send it on to,
each of which uses up one reaction. `Makes` says which attempts an action makes and what it gives, for every
script.
-/

namespace TabletopBot.Http

/-- A request as it is asked for: its address as text, and the fields of a form to be put behind it. -/
structure Attempt where
  method : Method
  address : String
  form : Option (List (String × String)) := none
  authorization : Option String := none
  body : Option Json.Value := none

/-- The address of a path below another address, whose slashes at the end do not count. -/
def addressBelow (base path : String) : String :=
  String.ofList (base.toList.rdropWhile (· = '/')) ++ path

/-- What becomes of an attempt. -/
inductive Fate where
  /-- Nothing is sent. -/
  | refused
  /-- What is sent gets no answer that stands. -/
  | unanswered
  | answered (response : Response)
deriving DecidableEq

def Fate.response? : Fate → Option Response
  | .refused => none
  | .unanswered => none
  | .answered response => some response

theorem Fate.response?_eq_some_iff {fate : Fate} {response : Response} :
    fate.response? = some response ↔ fate = .answered response := by
  cases fate with
  | refused => exact iff_of_false nofun nofun
  | unanswered => exact iff_of_false nofun nofun
  | answered other => rw [response?, Option.some.injEq, answered.injEq]

/-- What happens between an attempt and a script: the requests that arrive, the fate of the attempt, and
what is left of the script. -/
structure Exchange where
  arrived : List Request
  fate : Fate
  rest : List Reaction

/-- The exchange for a request that is sent, when a number of redirects may be followed. -/
def Outgoing.exchange [AddressRules] : Nat → Outgoing → List Reaction → Exchange
  | _, outgoing, [] => ⟨[outgoing.toRequest], .answered notFound, []⟩
  | _, outgoing, .drop :: rest => ⟨[outgoing.toRequest], .unanswered, rest⟩
  | redirects, outgoing, .answer response :: rest =>
    match outgoing.verdict response with
    | .stands => ⟨[outgoing.toRequest], .answered response, rest⟩
    | .fails => ⟨[outgoing.toRequest], .unanswered, rest⟩
    | .leadsTo next =>
      match redirects with
      | 0 => ⟨[outgoing.toRequest], .unanswered, rest⟩
      | left + 1 =>
        let behind := next.exchange left rest
        { behind with arrived := outgoing.toRequest :: behind.arrived }

section

variable [AddressRules]

namespace Attempt

def url? (attempt : Attempt) : Option Url :=
  (Url.parse? attempt.address).map fun url => attempt.form.elim url url.withForm

/-- The request that is sent. -/
def outgoing? (attempt : Attempt) : Option Outgoing := do
  let url ← attempt.url?
  if url.isSendable && attempt.authorization.all isHeaderText then
    some {
      method := attempt.method, url, authorization := attempt.authorization, body := attempt.body }
  else none

def exchange (attempt : Attempt) (reactions : List Reaction) : Exchange :=
  match attempt.outgoing? with
  | none => ⟨[], .refused, reactions⟩
  | some outgoing => outgoing.exchange 10 reactions

def fate (attempt : Attempt) (reactions : List Reaction) : Fate := (attempt.exchange reactions).fate

theorem exchange_of_outgoing? {attempt : Attempt} {outgoing : Outgoing}
    (sends : attempt.outgoing? = some outgoing) (reactions : List Reaction) :
    attempt.exchange reactions = outgoing.exchange 10 reactions := by
  rw [exchange, sends]

theorem exchange_of_refused {attempt : Attempt} (refused : attempt.outgoing? = none)
    (reactions : List Reaction) : attempt.exchange reactions = ⟨[], .refused, reactions⟩ := by
  rw [exchange, refused]

end Attempt

/-- The requests that arrive for attempts in turn. -/
def requests : List Attempt → List Reaction → List Request
  | [], _ => []
  | attempt :: attempts, reactions =>
    (attempt.exchange reactions).arrived ++ requests attempts (attempt.exchange reactions).rest

/-- What attempts leave of a script. -/
def remaining : List Attempt → List Reaction → List Reaction
  | [], reactions => reactions
  | attempt :: attempts, reactions => remaining attempts (attempt.exchange reactions).rest

/-- What becomes of attempts in turn. -/
def fates : List Attempt → List Reaction → List Fate
  | [], _ => []
  | attempt :: attempts, reactions =>
    attempt.fate reactions :: fates attempts (attempt.exchange reactions).rest

variable {attempt : Attempt} {attempts first second : List Attempt} {reactions : List Reaction}

theorem requests_singleton : requests [attempt] reactions = (attempt.exchange reactions).arrived :=
  List.append_nil _

theorem remaining_append :
    remaining (first ++ second) reactions = remaining second (remaining first reactions) := by
  induction first generalizing reactions with
  | nil => rfl
  | cons attempt attempts ih => exact ih

theorem requests_append : requests (first ++ second) reactions =
    requests first reactions ++ requests second (remaining first reactions) := by
  induction first generalizing reactions with
  | nil => rfl
  | cons attempt attempts ih =>
    rw [List.cons_append, requests, ih, requests, remaining, List.append_assoc]

theorem fates_append : fates (first ++ second) reactions =
    fates first reactions ++ fates second (remaining first reactions) := by
  induction first generalizing reactions with
  | nil => rfl
  | cons attempt attempts ih => rw [List.cons_append, fates, ih, fates, remaining, List.cons_append]

theorem fates_cons_eq_iff {fate : Fate} {others : List Fate} :
    fates (attempt :: attempts) reactions = fate :: others ↔
      attempt.fate reactions = fate ∧ fates attempts (attempt.exchange reactions).rest = others := by
  rw [fates, List.cons.injEq]

theorem fates_concat_eq_iff {others : List Fate} {fate : Fate} :
    fates (attempts ++ [attempt]) reactions = others ++ [fate] ↔
      fates attempts reactions = others ∧ attempt.fate (remaining attempts reactions) = fate := by
  rw [fates_append]
  constructor
  · intro same
    obtain ⟨before, behind⟩ := List.append_inj' same rfl
    exact ⟨before, List.head_eq_of_cons_eq behind⟩
  · rintro ⟨rfl, rfl⟩
    rfl

theorem length_fates : (fates attempts reactions).length = attempts.length := by
  induction attempts generalizing reactions with
  | nil => rfl
  | cons attempt attempts ih => rw [fates, List.length_cons, ih, List.length_cons]

/-- No answer of a script sends a request on. -/
def Direct (reactions : List Reaction) : Prop :=
  ∀ response, .answer response ∈ reactions → response.location = none

theorem Outgoing.verdict_of_direct {outgoing : Outgoing} {response : Response}
    (direct : response.location = none) : outgoing.verdict response = .stands := by
  rw [verdict, direct]
  split <;> rfl

/-- A request that is not sent on is all that arrives. -/
theorem Outgoing.arrived_exchange_of_direct (redirects : Nat) (outgoing : Outgoing)
    (reactions : List Reaction)
    (direct : ∀ response, reactions.head? = some (.answer response) → response.location = none) :
    (outgoing.exchange redirects reactions).arrived = [outgoing.toRequest] := by
  unfold exchange
  split
  · rfl
  · rfl
  · rw [verdict_of_direct (direct _ rfl)]

/-- The request itself arrives first, and further ones only where its answer sends it on. -/
theorem Outgoing.arrived_exchange (redirects : Nat) (outgoing : Outgoing) (reactions : List Reaction) :
    ∃ further, (outgoing.exchange redirects reactions).arrived = outgoing.toRequest :: further ∧
      ((∀ response, reactions.head? = some (.answer response) → response.location = none) →
        further = []) := by
  have first : ∃ further, (outgoing.exchange redirects reactions).arrived =
      outgoing.toRequest :: further := by
    fun_cases exchange redirects outgoing reactions with
    | case6 => exact ⟨_, rfl⟩
    | _ => exact ⟨[], rfl⟩
  obtain ⟨further, arrived⟩ := first
  refine ⟨further, arrived, fun direct => ?_⟩
  have alone := outgoing.arrived_exchange_of_direct redirects reactions direct
  exact (List.cons.inj (arrived.symm.trans alone)).2

/-- Every request that arrives uses up one reaction. -/
theorem Outgoing.rest_exchange (redirects : Nat) (outgoing : Outgoing) (reactions : List Reaction) :
    (outgoing.exchange redirects reactions).rest =
      reactions.drop (outgoing.exchange redirects reactions).arrived.length := by
  fun_induction exchange redirects outgoing reactions with
  | case6 outgoing response rest next leads left behind ih => exact ih
  | _ => rfl

theorem Attempt.rest_exchange : (attempt.exchange reactions).rest =
    reactions.drop (attempt.exchange reactions).arrived.length := by
  rw [exchange]
  split
  · rfl
  · exact Outgoing.rest_exchange 10 _ reactions

theorem remaining_eq_drop :
    remaining attempts reactions = reactions.drop (requests attempts reactions).length := by
  induction attempts generalizing reactions with
  | nil => rfl
  | cons attempt attempts ih =>
    rw [remaining, ih, requests, List.length_append, ← List.drop_drop, ← Attempt.rest_exchange]

/-- Where no answer sends a request on, every attempt sends one request or none. -/
theorem requests_of_direct (direct : Direct reactions) : requests attempts reactions =
    attempts.filterMap fun attempt => attempt.outgoing?.map Outgoing.toRequest := by
  induction attempts generalizing reactions with
  | nil => rfl
  | cons attempt attempts ih =>
    have later : Direct (attempt.exchange reactions).rest := by
      intro response member
      rw [Attempt.rest_exchange] at member
      exact direct response (List.mem_of_mem_drop member)
    rw [requests, ih later]
    cases sends : attempt.outgoing? with
    | none =>
      rw [Attempt.exchange_of_refused sends, List.filterMap_cons_none (by rw [sends, Option.map_none])]
      rfl
    | some outgoing =>
      have arrived := outgoing.arrived_exchange_of_direct 10 reactions
        fun response first => direct response (List.mem_of_mem_head? first)
      rw [Attempt.exchange_of_outgoing? sends, arrived,
        List.filterMap_cons_some (by rw [sends, Option.map_some])]
      rfl

theorem send_answer (redirects : Nat) (outgoing : Outgoing) (response : Response) (sent : List Request) :
    send redirects outgoing ⟨.script (.answer response :: reactions), sent⟩ =
      let network : Network := ⟨.script reactions, sent ++ [outgoing.toRequest]⟩
      match outgoing.verdict response with
      | .stands => (some response, network)
      | .fails => (none, network)
      | .leadsTo next =>
        match redirects with
        | 0 => (none, network)
        | left + 1 => send left next network := by
  rw [send]
  change (match outgoing.verdict response with
    | .stands => pure (some response)
    | .fails => pure none
    | .leadsTo next =>
      match redirects with
      | 0 => pure none
      | left + 1 => send left next : StateM Network (Option Response)) _ = _
  cases outgoing.verdict response with
  | stands => rfl
  | fails => rfl
  | leadsTo next =>
    cases redirects with
    | zero => rfl
    | succ left => rfl

/-- Sending does to a script what the exchange says. -/
theorem send_script (redirects : Nat) (outgoing : Outgoing) (sent : List Request) :
    send redirects outgoing ⟨.script reactions, sent⟩ =
      ((outgoing.exchange redirects reactions).fate.response?,
        ⟨.script (outgoing.exchange redirects reactions).rest,
          sent ++ (outgoing.exchange redirects reactions).arrived⟩) := by
  fun_induction Outgoing.exchange redirects outgoing reactions generalizing sent with
  | case1 => rw [send]; rfl
  | case2 => rw [send]; rfl
  | case3 redirects outgoing response rest stands => rw [send_answer, stands]; rfl
  | case4 redirects outgoing response rest fails => rw [send_answer, fails]; rfl
  | case5 outgoing response rest next leads => rw [send_answer, leads]; rfl
  | case6 outgoing response rest next leads left behind ih =>
    rw [send_answer, leads]
    simp only [ih, List.append_assoc, List.singleton_append]
    rfl

variable {α β : Type}

/-- Run against a script, an action makes exactly the given attempts and gives the value. -/
structure Makes (action : StateM Network α) (reactions : List Reaction) (attempts : List Attempt)
    (value : α) : Prop where
  run : ∀ sent, action ⟨.script reactions, sent⟩ =
    (value, ⟨.script (remaining attempts reactions), sent ++ requests attempts reactions⟩)

namespace Makes

theorem pure (value : α) : Makes (Pure.pure value) reactions [] value where
  run sent := by
    rw [remaining, requests, List.append_nil]
    rfl

/-- The attempts of two actions in turn follow each other. -/
theorem bind {action : StateM Network α} {next : α → StateM Network β} {value : α} {result : β}
    (before : Makes action reactions first value)
    (behind : Makes (next value) (remaining first reactions) second result) :
    Makes (action >>= next) reactions (first ++ second) result where
  run sent := by
    change (next (action ⟨.script reactions, sent⟩).1) (action ⟨.script reactions, sent⟩).2 = _
    rw [before.run, behind.run, remaining_append, requests_append, List.append_assoc]

theorem bind_pure {action : StateM Network α} {next : α → StateM Network β} {value : α} {result : β}
    (before : Makes action reactions first value) (computed : next value = Pure.pure result) :
    Makes (action >>= next) reactions first result where
  run sent := by
    change (next (action ⟨.script reactions, sent⟩).1) (action ⟨.script reactions, sent⟩).2 = _
    rw [before.run, computed]
    rfl

end Makes

/-- An action that sends the request of an attempt, if there is one, makes that attempt. -/
theorem makes_of_outgoing? {action : StateM Network (Option Response)} (attempt : Attempt)
    (does : action = attempt.outgoing?.elim (Pure.pure none) (send maxRedirects)) :
    Makes action reactions [attempt] (attempt.fate reactions).response? where
  run sent := by
    rw [does, requests_singleton, remaining, remaining, Attempt.fate]
    cases sends : attempt.outgoing? with
    | none =>
      rw [Attempt.exchange_of_refused sends, List.append_nil]
      rfl
    | some outgoing =>
      rw [Attempt.exchange_of_outgoing? sends]
      exact send_script maxRedirects outgoing sent

theorem get_makes {address : String} {form : Option (List (String × String))} {url : Option Url}
    (reads : (Url.parse? address).map (fun url => form.elim url url.withForm) = url)
    (authorization : String) : Makes (get url authorization) reactions
      [{ method := .get, address, form, authorization := some authorization }]
      (Attempt.fate { method := .get, address, form, authorization := some authorization }
        reactions).response? := by
  apply makes_of_outgoing?
  rw [Attempt.outgoing?, Attempt.url?, reads]
  cases url with
  | none => rfl
  | some url =>
    simp only [get, Option.bind_eq_bind, Option.bind_some, Option.all_some]
    split
    · rfl
    · rfl

theorem post_makes (address : String) (authorization : Option String) (body : Json.Value) :
    Makes (post (Url.parse? address) authorization body) reactions
      [{ method := .post, address, authorization, body := some body }]
      (Attempt.fate { method := .post, address, authorization, body := some body }
        reactions).response? := by
  apply makes_of_outgoing?
  rw [Attempt.outgoing?, Attempt.url?]
  cases Url.parse? address with
  | none => rfl
  | some url =>
    simp only [post, Option.map_some, Option.elim_none, Option.bind_eq_bind, Option.bind_some]
    split
    · rfl
    · rfl

end

end TabletopBot.Http
