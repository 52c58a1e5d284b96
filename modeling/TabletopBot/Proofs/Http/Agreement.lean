import TabletopBot.Proofs.Http.Attempt
import Mathlib.Data.List.Forall2

/-! # Requests that differ in their authorization

Two actions agree on a script if from every rest of it they give the same value and make related attempts,
one for one. As long as related attempts leave or are refused alike, they get the same answers, so agreement
passes from one action to the next whatever is made of the answers in between (`Agree.bind`).
-/

namespace TabletopBot.Http

/-- A request without the header that says whom it comes from. -/
def Request.anonymous (request : Request) : Request := { request with authorization := none }

def Outgoing.anonymous (outgoing : Outgoing) : Outgoing := { outgoing with authorization := none }

def Verdict.anonymous : Verdict → Verdict
  | .stands => .stands
  | .fails => .fails
  | .leadsTo next => .leadsTo next.anonymous

def Exchange.anonymous (exchange : Exchange) : Exchange :=
  { exchange with arrived := exchange.arrived.map Request.anonymous }

theorem isHeaderText_append (left right : String) :
    isHeaderText (left ++ right) = (isHeaderText left && isHeaderText right) := by
  rw [isHeaderText, String.toList_append, List.all_append, isHeaderText, isHeaderText]

theorem Outgoing.movedTo_anonymous (outgoing : Outgoing) (status : Nat) (url : Url) :
    outgoing.anonymous.movedTo status url = (outgoing.movedTo status url).anonymous := by
  rw [movedTo, movedTo]
  cases Status.keepsRequest status with
  | false => exact congrArg (Outgoing.mk .get url · none) (ite_self none)
  | true => exact congrArg (Outgoing.mk outgoing.method url · outgoing.body) (ite_self none)

section

variable [AddressRules]

/-- Where a request is sent on to does not depend on whom it comes from. -/
theorem Outgoing.verdict_anonymous (outgoing : Outgoing) (response : Response) :
    outgoing.anonymous.verdict response = (outgoing.verdict response).anonymous := by
  rw [verdict, verdict, anonymous]
  split
  · cases response.location.bind (AddressRules.resolve? outgoing.url.render) with
    | none => rfl
    | some address =>
      dsimp only
      cases Url.parse? address with
      | none => rfl
      | some url =>
        dsimp only
        split
        · exact congrArg Verdict.leadsTo (outgoing.movedTo_anonymous response.status url)
        · rfl
  · rfl

/-- Nor does anything else that happens to it, except for the header itself. -/
theorem Outgoing.exchange_anonymous (redirects : Nat) (outgoing : Outgoing) (reactions : List Reaction) :
    outgoing.anonymous.exchange redirects reactions =
      (outgoing.exchange redirects reactions).anonymous := by
  fun_induction exchange redirects outgoing reactions with
  | case1 => rw [exchange]; rfl
  | case2 => rw [exchange]; rfl
  | case3 redirects outgoing response rest stands =>
    rw [exchange, verdict_anonymous, stands]
    rfl
  | case4 redirects outgoing response rest fails =>
    rw [exchange, verdict_anonymous, fails]
    rfl
  | case5 outgoing response rest next leads =>
    rw [exchange, verdict_anonymous, leads]
    rfl
  | case6 outgoing response rest next leads left behind ih =>
    rw [exchange, verdict_anonymous, leads]
    simp only [Verdict.anonymous, ih]
    rfl

/-- What is sent is the same up to the authorization, and so is whether anything is sent. -/
def Attempt.Alike (attempt other : Attempt) : Prop :=
  attempt.outgoing?.map Outgoing.anonymous = other.outgoing?.map Outgoing.anonymous

variable {attempt other : Attempt} {attempts others : List Attempt} {reactions : List Reaction}

theorem Attempt.anonymous_exchange : (attempt.exchange reactions).anonymous =
    (attempt.outgoing?.map Outgoing.anonymous).elim ⟨[], .refused, reactions⟩
      (·.exchange 10 reactions) := by
  cases sends : attempt.outgoing? with
  | none =>
    rw [exchange_of_refused sends]
    rfl
  | some outgoing =>
    rw [exchange_of_outgoing? sends]
    exact (outgoing.exchange_anonymous 10 reactions).symm

theorem Attempt.Alike.anonymous_exchange (alike : attempt.Alike other) (reactions : List Reaction) :
    (attempt.exchange reactions).anonymous = (other.exchange reactions).anonymous := by
  have sends : attempt.outgoing?.map Outgoing.anonymous = other.outgoing?.map Outgoing.anonymous := alike
  rw [Attempt.anonymous_exchange, Attempt.anonymous_exchange, sends]

theorem Attempt.Alike.rest_exchange_eq (alike : attempt.Alike other) :
    (attempt.exchange reactions).rest = (other.exchange reactions).rest := by
  have same := alike.anonymous_exchange reactions
  exact (Exchange.mk.inj same).2.2

theorem remaining_eq (alike : List.Forall₂ Attempt.Alike attempts others) :
    remaining attempts reactions = remaining others reactions := by
  induction alike generalizing reactions with
  | nil => rfl
  | @cons attempt other attempts others alike _ ih =>
    rw [remaining, remaining, alike.rest_exchange_eq, ih]

theorem remaining_suffix : remaining attempts reactions <:+ reactions := by
  rw [remaining_eq_drop]
  exact List.drop_suffix _ _

end

variable {α β : Type}

/-- From every rest of a script, both actions give the same value, which is one of those expected, and make
related attempts, one for one. -/
def Agree [AddressRules] (script : List Reaction) (Related : Attempt → Attempt → Prop) (Expected : α → Prop)
    (action another : StateM Network α) : Prop :=
  ∀ reactions, reactions <:+ script → ∃ attempts others value, List.Forall₂ Related attempts others ∧
    Makes action reactions attempts value ∧ Makes another reactions others value ∧ Expected value

variable [AddressRules] {script : List Reaction} {Related : Attempt → Attempt → Prop}

namespace Agree

theorem pure {Expected : α → Prop} {value : α} (expected : Expected value) :
    Agree script Related Expected (Pure.pure value) (Pure.pure value) :=
  fun _ _ => ⟨[], [], value, .nil, .pure value, .pure value, expected⟩

/-- Actions that agree, continued by actions that agree on every value expected. -/
theorem bind {Middle : α → Prop} {Expected : β → Prop} {action another : StateM Network α}
    {next following : α → StateM Network β}
    (alike : ∀ attempt other, Related attempt other → attempt.Alike other)
    (before : Agree script Related Middle action another)
    (behind : ∀ value, Middle value → Agree script Related Expected (next value) (following value)) :
    Agree script Related Expected (action >>= next) (another >>= following) := by
  intro reactions rest
  obtain ⟨attempts, others, value, related, makes, alsoMakes, middle⟩ := before reactions rest
  obtain ⟨more, further, result, later, continues, alsoContinues, expected⟩ :=
    behind value middle (remaining attempts reactions) (remaining_suffix.trans rest)
  rw [remaining_eq (related.imp alike)] at alsoContinues
  exact ⟨attempts ++ more, others ++ further, result, List.rel_append related later,
    makes.bind continues, alsoMakes.bind alsoContinues, expected⟩

end Agree

end TabletopBot.Http
