import TabletopBot.Proofs.Http.PlainAddress
import TabletopBot.Proofs.Wiki.Fetch

/-! # The address of a search

A search asks the page below the wiki's address, behind a question mark, with a form of three fields. Cut at
its marks and decoded, the form gives back the very text that is searched for and the two other fields as
they are set, so that no text makes another field, takes one away or starts a fragment (`search_asks`).
-/

namespace TabletopBot.Wiki

open Http (AddressRules Attempt Reaction Request addressBelow isHeaderText)

/-- An address that asks a page with a form: behind the first question mark stands the form, and cutting it
at every ampersand and each piece at its first equals sign gives the fields. It has no fragment. -/
structure Asks (page : Http.Url) (fields : List (String × String)) (address : String) : Prop where
  form : ∃ form, Text.cutAt? '?' address.toList = some (page.render.toList, form) ∧
    (Text.splitAt '&' form).map Http.Form.decodePair = fields
  whole : '#' ∉ address.toList

/-- An address asks for one list of fields. -/
theorem Asks.unique {page : Http.Url} {fields others : List (String × String)} {address : String}
    (first : Asks page fields address) (second : Asks page others address) : fields = others := by
  obtain ⟨form, cut, rfl⟩ := first.form
  obtain ⟨_, again, rfl⟩ := second.form
  cases cut.symm.trans again
  rfl

/-- What is cut off at the end of a text are slashes. -/
theorem exists_slashes (text : String) : ∃ slashes, (∀ char ∈ slashes, char = '/') ∧
    text.toList = text.toList.rdropWhile (· = '/') ++ slashes := by
  refine ⟨(text.toList.reverse.takeWhile (· = '/')).reverse, ?_, ?_⟩
  · intro char member
    have slash := List.all_eq_true.mp List.all_takeWhile char (List.mem_reverse.mp member)
    exact of_decide_eq_true slash
  · rw [List.rdropWhile, ← List.reverse_append, List.takeWhile_append_dropWhile, List.reverse_reverse]

theorem addressBelow_eq_ofList (base path : String) : addressBelow base path =
    String.ofList (base.toList.rdropWhile (· = '/') ++ path.toList) := by
  rw [addressBelow, String.ofList_append, String.ofList_toList]

section

variable [AddressRules]

/-- Below an absolute address without white space behind it there is an address at the same place. -/
theorem exists_page {address : String} {base : Http.Url} (absolute : Http.Url.parse? address = some base)
    (ending : ∀ last ∈ address.toList.getLast?, 32 < last.toNat) :
    ∃ page, Http.Url.parse? (addressBelow address "/search") = some page ∧
      page.scheme = base.scheme ∧ page.host = base.host ∧ page.port = base.port := by
  obtain ⟨slashes, all, shape⟩ := exists_slashes address
  have closes : ∀ last ∈ (address.toList.rdropWhile (· = '/') ++ slashes).getLast?,
      Http.Url.isOuter last = false := by
    intro last member
    rw [← shape] at member
    exact decide_eq_false (Nat.not_le.mpr (ending last member))
  rw [← String.ofList_toList (s := address), shape] at absolute
  rw [addressBelow_eq_ofList]
  exact Http.Url.exists_parse?_below all closes absolute "search".toList (by rintro last ⟨⟩; decide)

theorem exists_page_of_plain {address : String} {plain : Http.PlainAddress} {slashes : List Char}
    (all : ∀ char ∈ slashes, char = '/') (shape : address.toList = plain.chars ++ slashes) :
    ∃ page, Http.Url.parse? (addressBelow address "/search") = some page ∧
      page.render.toList = plain.chars ++ "/search".toList := by
  have segment : ∀ segment ∈ ["search".toList], Http.PlainSegment segment := by decide
  have below : addressBelow address "/search" =
      String.ofList (plain.extend ["search".toList] segment).chars :=
    plain.addressBelow_eq all shape segment
  refine ⟨(plain.extend ["search".toList] segment).url, ?_, ?_⟩
  · rw [below, Http.PlainAddress.parse?_plain]
  · have deeper : (plain.extend ["search".toList] segment).segments ≠ [] := by
      simp [Http.PlainAddress.extend]
    rw [Http.PlainAddress.toList_render_url, Http.PlainAddress.asked, if_neg deeper, plain.chars_extend]
    simp only [Option.elim_none, List.append_nil]
    rfl

variable {settings : WikiSettings} {page : Http.Url}

/-- Below an address without a query there is none either. -/
theorem query_eq_none_of_below (noQuery : '?' ∉ settings.baseUrl.toList)
    (below : Http.Url.parse? (addressBelow settings.baseUrl "/search") = some page) :
    page.query = none := by
  refine Http.Url.query_eq_none_of_parse? below ?_
  obtain ⟨slashes, -, shape⟩ := exists_slashes settings.baseUrl
  rw [addressBelow_eq_ofList, String.toList_ofList, List.mem_append]
  rintro (inside | inside)
  · exact noQuery (shape ▸ List.mem_append_left slashes inside)
  · exact absurd inside (by decide)

omit [AddressRules] in
/-- The form of a search holds its fields, whatever text is searched for. -/
theorem asks_withForm {pairs : List (String × String)} (fields : pairs ≠ []) (bare : page.query = none)
    (clear : ∀ stop ∈ Http.stops, stop ∉ page.render.toList) :
    Asks page pairs (page.withForm pairs).render where
  form := by
    refine ⟨Http.Form.encode pairs, ?_, Http.Form.decode_pieces_encode fields⟩
    rw [Http.Url.toList_render_withForm bare]
    exact Text.cutAt?_append (clear '?' (by decide)) _
  whole := by
    rw [Http.Url.toList_render_withForm bare, List.mem_append, List.mem_cons]
    rintro (inside | same | inside)
    · exact clear '#' (by decide) inside
    · exact absurd same (by decide)
    · exact Http.Form.hash_not_mem_encode _ inside

/-- What arrives for a search is what its one attempt sends. -/
theorem sent_search (settings : WikiSettings) (query : String) (reactions : List Reaction)
    (sent : List Request) : (search settings query ⟨.script reactions, sent⟩).2.sent =
      sent ++ ((searchAttempt settings query).exchange reactions).arrived := by
  obtain ⟨results, makes, -⟩ := search_makes settings query reactions
  rw [makes.run, Http.requests_singleton]

theorem url?_searchAttempt
    (below : Http.Url.parse? (addressBelow settings.baseUrl "/search") = some page) (query : String) :
    (searchAttempt settings query).url? =
      some (page.withForm [("query", query), ("page", "1"), ("count", toString settings.pageSize)]) := by
  rw [Attempt.url?, searchAttempt, below]
  rfl

/-- What is asked for goes out, unless its address is too long or the token cannot be sent. -/
theorem outgoing?_searchAttempt {query : String} {url : Http.Url}
    (asks : (searchAttempt settings query).url? = some url) :
    (searchAttempt settings query).outgoing? =
      if url.render.length ≤ 65534 ∧ isHeaderText (token settings) then
        some { method := .get, url, authorization := some (token settings) }
      else none := by
  have allowed : (url.isSendable && isHeaderText (token settings)) = true ↔
      url.render.length ≤ 65534 ∧ isHeaderText (token settings) := by
    rw [Bool.and_eq_true, Http.Url.isSendable, decide_eq_true_iff, Http.Url.maxLength]
  rw [Attempt.outgoing?, asks]
  change (if (url.isSendable && isHeaderText (token settings)) = true then _ else _) = _
  split
  · next sendable => rw [if_pos (allowed.mp sendable)]; rfl
  · next refused => rw [if_neg (mt allowed.mpr refused)]

/-- Where the wiki's address has no query, the address of a search is that of the page below it with a form
of three fields, of which the first is the text that is searched for: each text has an address of its own.
There is such a page for every absolute address without white space behind it, at the same place, and where
the address is plain the page is at the address as it is written. The request for it arrives, and behind it only what its answer sends it on to, unless the address is too long or
the wiki's token cannot be sent. -/
theorem search_asks {settings : WikiSettings} (noQuery : '?' ∉ settings.baseUrl.toList) :
    (∀ base, Http.Url.parse? settings.baseUrl = some base →
      (∀ last ∈ settings.baseUrl.toList.getLast?, 32 < last.toNat) →
      ∃ page, Http.Url.parse? (addressBelow settings.baseUrl "/search") = some page ∧
        page.scheme = base.scheme ∧ page.host = base.host ∧ page.port = base.port) ∧
    (∀ (plain : Http.PlainAddress) (slashes : List Char), (∀ char ∈ slashes, char = '/') →
      settings.baseUrl.toList = plain.chars ++ slashes →
      ∃ page, Http.Url.parse? (addressBelow settings.baseUrl "/search") = some page ∧
        page.render.toList = plain.chars ++ "/search".toList) ∧
    (Http.Url.parse? (addressBelow settings.baseUrl "/search") = none →
      ∀ query reactions sent, (search settings query ⟨.script reactions, sent⟩).2.sent = sent) ∧
    ∀ page, Http.Url.parse? (addressBelow settings.baseUrl "/search") = some page →
      ∃ address : String → String, Function.Injective address ∧ ∀ query,
        Asks page [("query", query), ("page", "1"), ("count", toString settings.pageSize)]
          (address query) ∧
        ∀ reactions sent, ∃ arrived,
          (search settings query ⟨.script reactions, sent⟩).2.sent = sent ++ arrived ∧
          if (address query).length ≤ 65534 ∧ isHeaderText (token settings) then
            ∃ further,
              arrived = {
                method := .get, url := address query
                authorization := some (token settings) } :: further ∧
              ((∀ response, reactions.head? = some (.answer response) → response.location = none) →
                further = [])
          else arrived = [] := by
  refine ⟨fun base absolute ending => exists_page absolute ending, ?_, ?_, ?_⟩
  · intro plain slashes all shape
    exact exists_page_of_plain all shape
  · intro nowhere query reactions sent
    have refused : (searchAttempt settings query).outgoing? = none := by
      rw [Attempt.outgoing?, Attempt.url?, searchAttempt, nowhere]
      rfl
    rw [sent_search, Attempt.exchange_of_refused refused, List.append_nil]
  · intro page below
    have bare := query_eq_none_of_below noQuery below
    have asks (query : String) :
        Asks page [("query", query), ("page", "1"), ("count", toString settings.pageSize)] _ :=
      asks_withForm (List.cons_ne_nil _ _) bare
        fun stop reserved => Http.Url.not_mem_render below bare reserved
    refine ⟨_, ?_, fun query => ⟨asks query, fun reactions sent => ?_⟩⟩
    -- the fields can be read off the address, and the text is in one of them
    · intro query other same
      have again := asks other
      dsimp only at same
      rw [← same] at again
      have fields := (asks query).unique again
      exact congrArg Prod.snd (List.head_eq_of_cons_eq fields)
    · refine ⟨_, sent_search settings query reactions sent, ?_⟩
      have sends := outgoing?_searchAttempt (url?_searchAttempt below query)
      split
      · next allowed =>
        rw [if_pos allowed] at sends
        rw [Attempt.exchange_of_outgoing? sends]
        exact Http.Outgoing.arrived_exchange 10 _ reactions
      · next refused =>
        rw [if_neg refused] at sends
        rw [Attempt.exchange_of_refused sends]

end

/-- The rules for ASCII names and one international name. -/
@[reducible]
def bookRules : AddressRules where
  asciiName? name :=
    if name = "bücher.example".toList then some "xn--bcher-kva.example".toList else none
  resolve? _ text := some text

theorem search_asks_of_page_in_text :
    let _ : AddressRules := bookRules
    '?' ∉ "https://bücher.example/api/".toList ∧
    Http.Url.parse? "https://bücher.example/api/" =
      some ⟨.https, "xn--bcher-kva.example".toList, none, "/api/".toList, none⟩ ∧
    (∃ page, Http.Url.parse? (addressBelow "https://bücher.example/api/" "/search") = some page ∧
      page.scheme = .https ∧ page.host = "xn--bcher-kva.example".toList ∧ page.port = none) ∧
    ∃ address : String → String, Function.Injective address ∧
      Asks ⟨.https, "xn--bcher-kva.example".toList, none, "/api/search".toList, none⟩
        [("query", "a&page=2#+ é"), ("page", "1"), ("count", "3")] (address "a&page=2#+ é") ∧
      ∀ reactions sent, ∃ arrived,
        (search { baseUrl := "https://bücher.example/api/", pageSize := 3 } "a&page=2#+ é"
          ⟨.script reactions, sent⟩).2.sent = sent ++ arrived ∧
        if (address "a&page=2#+ é").length ≤ 65534 ∧ isHeaderText "Token :" then
          ∃ further,
            arrived = {
              method := .get, url := address "a&page=2#+ é"
              authorization := some "Token :" } :: further ∧
            ((∀ response, reactions.head? = some (.answer response) → response.location = none) →
              further = [])
        else arrived = [] := by
  intro rules
  have noQuery : '?' ∉ "https://bücher.example/api/".toList := by decide
  have absolute : Http.Url.parse? "https://bücher.example/api/" =
      some ⟨.https, "xn--bcher-kva.example".toList, none, "/api/".toList, none⟩ := by rfl
  have below : Http.Url.parse? (addressBelow "https://bücher.example/api/" "/search") =
      some ⟨.https, "xn--bcher-kva.example".toList, none, "/api/search".toList, none⟩ := by rfl
  have ending : ∀ last ∈ "https://bücher.example/api/".toList.getLast?, 32 < last.toNat := by
    rintro last ⟨⟩
    decide
  obtain ⟨pages, -, -, addresses⟩ :=
    @search_asks rules { baseUrl := "https://bücher.example/api/", pageSize := 3 } noQuery
  obtain ⟨address, distinct, asks⟩ := addresses _ below
  obtain ⟨fields, sent⟩ := asks "a&page=2#+ é"
  exact ⟨noQuery, absolute, pages _ absolute ending, address, distinct, fields, sent⟩

example :
    let _ : AddressRules := bookRules
    (searchUrl? { baseUrl := "https://bücher.example/api/" } "a&page=2#+ é").map (·.render) = some
      "https://xn--bcher-kva.example/api/search?query=a%26page%3D2%23%2B+%C3%A9&page=1&count=10" := by
  rfl

end TabletopBot.Wiki
