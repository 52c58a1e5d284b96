import TabletopBot.Proofs.Command.Ask
import TabletopBot.Proofs.Wiki.Document
import TabletopBot.Proofs.Wiki.Results

/-! # Searching and asking agree on the hits

From one answer of the wiki, a search shows cards and a question fetches pages. The cards are those of the
first items of the answer, the addresses of the pages are those on the cards, and the documents quote what
the cards show (`cards_search_eq_pages_ask`).
-/

namespace TabletopBot.Command

open Http (AddressRules Attempt Fate Makes Reaction Request Response fates remaining requests)
open Wiki.Results (content_reply_eq_nothingFound_iff embeds_reply)

/-- The attempts of a run for pages: what it gets after the search. -/
def pageAttempts (attempts : List Attempt) : List Attempt := attempts.tail.filter (·.method = .get)

/-- The documents of cards in their order, given what became of the attempt for the page of each. A page
that did not come gives none. -/
inductive Documented : List Embed → List Fate → List String → Prop
  | none (others : List Fate) : Documented [] others []
  | failed {card : Embed} {cards : List Embed} {page : Fate} {pages : List Fate}
      {documents : List String} :
      Wiki.pageText? page = none → Documented cards pages documents →
      Documented (card :: cards) (page :: pages) documents
  | came {card : Embed} {cards : List Embed} {page : Fate} {pages : List Fate}
      {html document : String} {documents : List String} :
      Wiki.pageText? page = some html →
      Wiki.Document.Describes card.title card.url card.description html document →
      Documented cards pages documents →
      Documented (card :: cards) (page :: pages) (document :: documents)

/-- A search shows the results in the answer to it. -/
theorem search_makes_of_read [AddressRules] {wiki : WikiSettings} {text : String}
    {reactions : List Reaction} {body : List UInt8} {answer : Nat × List Wiki.Item}
    (came : Wiki.received ((Wiki.searchAttempt wiki text).fate reactions) = .ok body)
    (read : Json.decode Wiki.answerRecord.decoder body = .ok answer) :
    Makes (search wiki text) reactions [Wiki.searchAttempt wiki text]
      ((Wiki.resultsOfAnswer wiki.pageSize answer).reply wiki.pageSize) :=
  (Wiki.search_makes_of_read came read).bind_pure rfl

section

variable {wiki : WikiSettings} {chat : ChatSettings} {question : String} {attempts : List Attempt}
  {first : Fate} {others : List Fate} {reply : Reply}

/-- A run starts with the search. -/
theorem AskRun.exists_cons (run : AskRun wiki chat question attempts others reply) :
    ∃ behind, attempts = Wiki.searchAttempt wiki question :: behind := by
  cases run with
  | unknown => exact ⟨_, rfl⟩
  | keyless => exact ⟨_, rfl⟩
  | asked => exact ⟨_, rfl⟩

/-- Where the answer shows nothing, no page is asked for. -/
theorem AskRun.of_nothing (run : AskRun wiki chat question attempts (first :: others) reply)
    (nothing : ∀ hits, ¬Wiki.Found wiki.pageSize first hits) :
    reply = Reply.ofText (noKnowledge question) ∧ pageAttempts attempts = [] := by
  cases run with
  | unknown => exact ⟨rfl, rfl⟩
  | keyless found => exact absurd found (nothing _)
  | asked found => exact absurd found (nothing _)

theorem filter_method_pagesAttempts (wiki : WikiSettings) (hits : List Wiki.Hit) :
    (pagesAttempts wiki hits).filter (·.method = .get) = pagesAttempts wiki hits := by
  rw [List.filter_eq_self]
  intro attempt member
  obtain ⟨hit, -, rfl⟩ := List.mem_map.mp member
  rfl

/-- Where the answer shows hits, their pages are asked for, and what is asked of the language model is about
the documents of those that came back. -/
theorem AskRun.of_found (run : AskRun wiki chat question attempts (first :: others) reply)
    {hits : List Wiki.Hit} (found : Wiki.Found wiki.pageSize first hits) :
    pageAttempts attempts = pagesAttempts wiki hits ∧
      ∀ key, chat.apiKey = some key → ∃ pages further, pages.length = hits.length ∧
        others = pages ++ further ∧
        attempts.getLast? = some (documentsAttempt chat key question (documentsOf hits pages)) := by
  cases run with
  | unknown nothing => exact absurd found (nothing hits)
  | keyless again _ keyless =>
    obtain rfl := again.unique found
    refine ⟨filter_method_pagesAttempts wiki _, ?_⟩
    intro key configured
    cases keyless.symm.trans configured
  | @asked _ completion _ pages _ _ again length configured =>
    obtain rfl := again.unique found
    constructor
    · rw [pageAttempts, List.cons_append, List.tail_cons, List.filter_append,
        filter_method_pagesAttempts]
      exact List.append_nil _
    · intro other same
      cases configured.symm.trans same
      exact ⟨pages, [completion], length, rfl, List.getLast?_concat⟩

end

/-- The documents of hits are those of their cards. -/
theorem documented_documentsOf {hits : List Wiki.Hit} {pages : List Fate}
    (length : pages.length = hits.length) (others : List Fate) :
    Documented (hits.map Wiki.Results.card) (pages ++ others) (documentsOf hits pages) := by
  induction hits generalizing pages with
  | nil =>
    obtain rfl := List.eq_nil_of_length_eq_zero length
    exact .none others
  | cons hit hits ih =>
    obtain ⟨page, pages, rfl⟩ := List.exists_cons_of_length_eq_add_one length
    have behind := ih (Nat.succ.inj length)
    cases came : Wiki.pageText? page with
    | none =>
      rw [documentsOf_cons_of_none came]
      exact .failed came behind
    | some html =>
      rw [documentsOf_cons_of_some came]
      exact .came came (Wiki.Document.describes_build hit html) behind

/-- The cards for the results in an answer are those of its first items. -/
theorem embeds_reply_resultsOfAnswer {total : Nat} (nonzero : total ≠ 0) (pageSize : Nat)
    (items : List Wiki.Item) :
    ((Wiki.resultsOfAnswer pageSize (total, items)).reply pageSize).embeds =
      ((items.take pageSize).map Wiki.Item.toHit).map Wiki.Results.card := by
  rw [embeds_reply (Wiki.resultsOfAnswer pageSize (total, items)) nonzero, Wiki.resultsOfAnswer,
    List.take_of_length_le]
  rw [List.length_map]
  exact List.length_take_le pageSize items

/-- From one answer with matches in it, a search says that there are none exactly where a question is said
to have no results and asks for no page. The cards of the search are the first items of the answer with
their names and addresses, the pages that the question asks for are those at the addresses on the cards in
the same order, and its documents quote the descriptions of the cards. -/
theorem cards_search_eq_pages_ask [AddressRules] {wiki : WikiSettings} {text : String}
    {reactions others : List Reaction} {response : Response} {total : Nat} {items : List Wiki.Item}
    (searched : (Wiki.searchAttempt wiki text).fate reactions = .answered response)
    (asked : (Wiki.searchAttempt wiki text).fate others = .answered response)
    (success : response.status = 200)
    (read : Json.decode Wiki.answerRecord.decoder response.received = .ok (total, items))
    (matching : 1 ≤ total) (chat : ChatSettings) (sent already : List Request) :
    ∃ shown attempts reply,
      (search wiki text ⟨.script reactions, sent⟩).1 = shown ∧
      AskRun wiki chat text attempts (fates attempts others) reply ∧
      ask wiki chat text ⟨.script others, already⟩ =
        (reply, ⟨.script (remaining attempts others), already ++ requests attempts others⟩) ∧
      (shown.content = Wiki.Results.nothingFound ↔
        reply = Reply.ofText (noKnowledge text) ∧ pageAttempts attempts = []) ∧
      shown.embeds = ((items.take (min wiki.pageSize items.length)).map fun item =>
        { title := item.name, url := item.url
          description := (item.preview.map Wiki.Preview.clean).getD "", color := Embed.accent }) ∧
      pageAttempts attempts = shown.embeds.map (fun card => {
        method := .get, address := card.url, authorization := some (Wiki.token wiki) }) ∧
      ∀ key, chat.apiKey = some key → shown.embeds ≠ [] → ∃ documents,
        attempts.getLast? = some (documentsAttempt chat key text documents) ∧
        Documented shown.embeds (fates attempts others).tail documents := by
  have nonzero : total ≠ 0 := Nat.ne_of_gt matching
  have shows := search_makes_of_read
    (Wiki.received_eq_ok_iff.mpr ⟨response, searched, success, rfl⟩) read
  obtain ⟨attempts, reply, run, asks⟩ := exists_askRun wiki chat text others
  refine ⟨_, attempts, reply, congrArg Prod.fst (shows.run sent), run, asks.run already, ?_⟩
  obtain ⟨behind, rfl⟩ := run.exists_cons
  rw [fates, asked] at run
  have empty : ((Wiki.resultsOfAnswer wiki.pageSize (total, items)).reply wiki.pageSize).content =
      Wiki.Results.nothingFound ↔ (items.take wiki.pageSize).map Wiki.Item.toHit = [] :=
    content_reply_eq_nothingFound_iff _ nonzero wiki.pageSize
  have cards : ((items.take wiki.pageSize).map Wiki.Item.toHit).map Wiki.Results.card =
      (items.take wiki.pageSize).map fun item =>
        { title := item.name, url := item.url
          description := (item.preview.map Wiki.Preview.clean).getD "", color := Embed.accent } :=
    List.map_map
  rw [empty, embeds_reply_resultsOfAnswer nonzero, ← List.take_eq_take_min, ← cards, fates,
    List.tail_cons]
  generalize shape : (items.take wiki.pageSize).map Wiki.Item.toHit = hits
  by_cases nothing : hits = []
  · subst nothing
    have unfound (hits : List Wiki.Hit) : ¬Wiki.Found wiki.pageSize (.answered response) hits := by
      intro found
      obtain ⟨same, nonempty⟩ := (Wiki.found_iff_of_read success read).mp found
      exact nonempty (same.trans shape)
    obtain ⟨unknown, noPage⟩ := run.of_nothing unfound
    exact ⟨iff_of_true rfl ⟨unknown, noPage⟩, rfl, noPage, fun _ _ nonempty => absurd rfl nonempty⟩
  · have found := (Wiki.found_iff_of_read success read).mpr ⟨shape.symm, nothing⟩
    obtain ⟨pages, documents⟩ := run.of_found found
    refine ⟨iff_of_false nothing ?_, rfl, ?_, ?_⟩
    · rintro ⟨-, noPage⟩
      rw [pages, pagesAttempts, List.map_eq_nil_iff] at noPage
      exact nothing noPage
    · rw [pages, List.map_map]
      rfl
    · intro key configured _
      obtain ⟨came, others, length, answers, last⟩ := documents key configured
      rw [answers]
      exact ⟨_, last, documented_documentsOf length others⟩

/-- One card fits: the second item is neither shown nor fetched. -/
theorem cards_search_eq_pages_ask_of_one_card :
    let _ : AddressRules := .plain
    let wiki : WikiSettings := { baseUrl := "https://w", pageSize := 1 }
    let items : List Wiki.Item :=
      [⟨"Inn", "https://w/i", some "An <u>inn</u>"⟩, ⟨"Bar", "https://w/b", none⟩]
    let response : Response := {
      status := 200
      body := Text.Utf8.encode
        ("\x7b\"total\": 2, \"data\": [\x7b\"name\": \"Inn\", \"url\": \"https://w/i\", ".toList ++
          "\"preview_html\": \x7b\"content\": \"An <u>inn</u>\"\x7d\x7d, ".toList ++
          "\x7b\"name\": \"Bar\", \"url\": \"https://w/b\"\x7d]\x7d".toList) }
    (Wiki.searchAttempt wiki "inn").fate [.answer response] = .answered response ∧
    (Wiki.searchAttempt wiki "inn").fate [.answer response, .drop] = .answered response ∧
    Json.decode Wiki.answerRecord.decoder response.received = .ok (2, items) ∧
    ∃ shown attempts reply,
      (search wiki "inn" ⟨.script [.answer response], []⟩).1 = shown ∧
      AskRun wiki {} "inn" attempts (fates attempts [.answer response, .drop]) reply ∧
      shown.embeds = [{
        title := "Inn", url := "https://w/i", description := "An __inn__", color := Embed.accent }] ∧
      pageAttempts attempts =
        [{ method := .get, address := "https://w/i", authorization := some "Token :" }] := by
  intro rules wiki items response
  have searched : (Wiki.searchAttempt wiki "inn").fate [.answer response] = .answered response := by
    decide +kernel +revert
  have asked : (Wiki.searchAttempt wiki "inn").fate [.answer response, .drop] =
      .answered response := by
    decide +kernel +revert
  have read : Json.decode Wiki.answerRecord.decoder response.received = .ok (2, items) := by
    decide +kernel +revert
  obtain ⟨shown, attempts, reply, shows, run, -, -, cards, pages, -⟩ :=
    cards_search_eq_pages_ask searched asked rfl read (by decide) {} [] []
  rw [cards] at pages
  exact ⟨searched, asked, read, shown, attempts, reply, shows, run, cards, pages⟩

end TabletopBot.Command
