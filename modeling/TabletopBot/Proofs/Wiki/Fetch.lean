import TabletopBot.Proofs.Http.Attempt
import TabletopBot.Wiki.Client

/-! # What the wiki is asked

A search and the fetching of a page are one attempt each, with the wiki's token, and what they give depends
on the answer that stands alone: only a 200 answer counts.
-/

namespace TabletopBot.Wiki

open Http (AddressRules Attempt Fate Makes Reaction Response)

def token (settings : WikiSettings) : String :=
  "Token " ++ settings.apiId ++ ":" ++ settings.apiKey

def searchAttempt (settings : WikiSettings) (query : String) : Attempt where
  method := .get
  address := Http.addressBelow settings.baseUrl "/search"
  form := some [("query", query), ("page", "1"), ("count", toString settings.pageSize)]
  authorization := some (token settings)

def pageAttempt (settings : WikiSettings) (address : String) : Attempt where
  method := .get
  address := address
  authorization := some (token settings)

/-- The answer to a search has status 200 and can be read, and these are the hits it shows. -/
structure Found (pageSize : Nat) (fate : Fate) (hits : List Hit) : Prop where
  read : ∃ response total items, fate = .answered response ∧ response.status = 200 ∧
    Json.decode answerRecord.decoder response.received = .ok (total, items) ∧
    hits = (items.take pageSize).map Item.toHit
  nonempty : hits ≠ []

/-- The text of the page that came, with status 200. -/
def pageText? : Fate → Option String
  | .refused => none
  | .unanswered => none
  | .answered response =>
    if response.status = 200 then some (String.ofList (Text.Utf8.decodeLossy response.received))
    else none

theorem Found.unique {pageSize : Nat} {fate : Fate} {hits others : List Hit}
    (first : Found pageSize fate hits) (second : Found pageSize fate others) : hits = others := by
  obtain ⟨response, _, items, rfl, _, read, rfl⟩ := first.read
  obtain ⟨_, _, _, same, _, again, rfl⟩ := second.read
  cases same
  cases read.symm.trans again
  rfl

/-- Where an answer can be read, it shows its first items, if there are any. -/
theorem found_iff_of_read {pageSize total : Nat} {items : List Item} {response : Response}
    (success : response.status = 200)
    (read : Json.decode answerRecord.decoder response.received = .ok (total, items))
    {hits : List Hit} : Found pageSize (.answered response) hits ↔
      hits = (items.take pageSize).map Item.toHit ∧ hits ≠ [] := by
  constructor
  · intro found
    obtain ⟨_, _, _, same, _, again, shown⟩ := found.read
    cases same
    cases read.symm.trans again
    exact ⟨shown, found.nonempty⟩
  · rintro ⟨shown, nonempty⟩
    exact ⟨⟨response, total, items, rfl, success, read, shown⟩, nonempty⟩

theorem Found.length_le {pageSize : Nat} {fate : Fate} {hits : List Hit}
    (found : Found pageSize fate hits) : hits.length ≤ pageSize := by
  obtain ⟨_, _, items, _, _, _, rfl⟩ := found.read
  rw [List.length_map, List.length_take]
  exact Nat.min_le_left _ _

/-- The body of the answer to a fetch. -/
def received (fate : Fate) : Except WikiFault (List UInt8) :=
  match fate.response? with
  | none => .error .request
  | some response =>
    if response.status = 200 then .ok response.received else .error (.status response.status)

theorem received_eq_ok_iff {fate : Fate} {body : List UInt8} : received fate = .ok body ↔
    ∃ response, fate = .answered response ∧ response.status = 200 ∧ response.received = body := by
  cases fate with
  | refused => simp [received, Fate.response?]
  | unanswered => simp [received, Fate.response?]
  | answered response =>
    rw [received, Fate.response?]
    dsimp only
    split
    · next success => simp [success]
    · next failure => simp [failure]

theorem found_iff {pageSize : Nat} {fate : Fate} {hits : List Hit} : Found pageSize fate hits ↔
    (∃ body content, received fate = .ok body ∧
      Json.decode answerRecord.decoder body = .ok content ∧
      (resultsOfAnswer pageSize content).hits = hits) ∧ hits ≠ [] := by
  constructor
  · intro found
    obtain ⟨response, total, items, came, success, read, shown⟩ := found.read
    have body := received_eq_ok_iff.mpr ⟨response, came, success, rfl⟩
    exact ⟨⟨_, (total, items), body, read, shown.symm⟩, found.nonempty⟩
  · rintro ⟨⟨body, ⟨total, items⟩, came, read, shown⟩, nonempty⟩
    obtain ⟨response, answered, success, rfl⟩ := received_eq_ok_iff.mp came
    exact ⟨⟨response, total, items, answered, success, read, shown.symm⟩, nonempty⟩

theorem pageText?_eq (fate : Fate) : pageText? fate =
    (received fate).toOption.map fun body => String.ofList (Text.Utf8.decodeLossy body) := by
  cases fate with
  | refused => rfl
  | unanswered => rfl
  | answered response =>
    rw [pageText?, received, Fate.response?]
    dsimp only
    split
    · rfl
    · rfl

section

variable [AddressRules] {settings : WikiSettings} {reactions : List Reaction}

/-- What is fetched is the body of the answer that stands. -/
theorem fetch_makes {url : Option Http.Url} {attempt : Attempt}
    (asked : Makes (Http.get url (authorization settings)) reactions [attempt]
      (attempt.fate reactions).response?) :
    Makes (fetch settings url) reactions [attempt] (received (attempt.fate reactions)) := by
  refine asked.bind_pure ?_
  rw [received]
  cases (attempt.fate reactions).response? with
  | none => rfl
  | some response =>
    dsimp only
    split
    · rfl
    · rfl

theorem searchUrl?_eq (settings : WikiSettings) (query : String) :
    (Http.Url.parse? (searchAttempt settings query).address).map (fun url =>
      (searchAttempt settings query).form.elim url url.withForm) = searchUrl? settings query := rfl

theorem fetch_search_makes (settings : WikiSettings) (query : String) (reactions : List Reaction) :
    Makes (fetch settings (searchUrl? settings query)) reactions [searchAttempt settings query]
      (received ((searchAttempt settings query).fate reactions)) :=
  fetch_makes (Http.get_makes (searchUrl?_eq settings query) (authorization settings))

theorem fetch_page_makes (settings : WikiSettings) (address : String) (reactions : List Reaction) :
    Makes (fetch settings (Http.Url.parse? address)) reactions [pageAttempt settings address]
      (received ((pageAttempt settings address).fate reactions)) := by
  have reads : (Http.Url.parse? address).map (fun url => Option.elim none url url.withForm) =
      Http.Url.parse? address := Option.map_id'
  exact fetch_makes (Http.get_makes reads (authorization settings))

theorem search_makes_of_read {query : String} {body : List UInt8} {answer : Nat × List Item}
    (came : received ((searchAttempt settings query).fate reactions) = .ok body)
    (read : Json.decode answerRecord.decoder body = .ok answer) :
    Makes (search settings query) reactions [searchAttempt settings query]
      (.ok (resultsOfAnswer settings.pageSize answer)) := by
  have asked := fetch_search_makes settings query reactions
  rw [came] at asked
  refine asked.bind_pure ?_
  simp only [read]

/-- A search is one attempt, and it finds hits exactly where its answer shows some. -/
theorem search_makes (settings : WikiSettings) (query : String) (reactions : List Reaction) :
    ∃ results, Makes (search settings query) reactions [searchAttempt settings query] results ∧
      ∀ hits, Found settings.pageSize ((searchAttempt settings query).fate reactions) hits ↔
        (∃ total, results = .ok ⟨total, hits⟩) ∧ hits ≠ [] := by
  have asked := fetch_search_makes settings query reactions
  simp only [found_iff]
  cases came : received ((searchAttempt settings query).fate reactions) with
  | error fault =>
    rw [came] at asked
    exact ⟨.error fault, asked.bind_pure rfl, by simp⟩
  | ok body =>
    cases read : Json.decode answerRecord.decoder body with
    | error fault =>
      rw [came] at asked
      refine ⟨.error .request, asked.bind_pure ?_, by simp [read]⟩
      simp only [read]
    | ok answer =>
      refine ⟨.ok (resultsOfAnswer settings.pageSize answer), search_makes_of_read came read, ?_⟩
      intro hits
      constructor
      · rintro ⟨⟨_, _, same, again, rfl⟩, nonempty⟩
        cases same
        cases read.symm.trans again
        exact ⟨⟨answer.1, rfl⟩, nonempty⟩
      · rintro ⟨⟨total, shown⟩, nonempty⟩
        refine ⟨⟨body, answer, rfl, read, ?_⟩, nonempty⟩
        rw [Except.ok.inj shown]

/-- Fetching a page is one attempt, and it gives the text of the page that comes back. -/
theorem page_makes (settings : WikiSettings) (address : String) (reactions : List Reaction) :
    ∃ fetched, Makes (page settings address) reactions [pageAttempt settings address] fetched ∧
      fetched.toOption = pageText? ((pageAttempt settings address).fate reactions) := by
  have asked := fetch_page_makes settings address reactions
  rw [pageText?_eq]
  cases came : received ((pageAttempt settings address).fate reactions) with
  | error fault =>
    rw [came] at asked
    exact ⟨.error fault, asked.bind_pure rfl, rfl⟩
  | ok body =>
    rw [came] at asked
    exact ⟨.ok _, asked.bind_pure rfl, rfl⟩

end

end TabletopBot.Wiki
