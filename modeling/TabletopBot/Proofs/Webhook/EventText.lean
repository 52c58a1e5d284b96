import TabletopBot.Proofs.Json.RecordText
import TabletopBot.Proofs.Webhook.Handling

/-! # Events as they are written

Of a post the webhook reads the kind of the event, the address and the name of the actor, and nothing
else: whatever else the post holds, and however it is written, it is handled like every other post of
the same event (`respond_eq_of_eventText`).
-/

namespace TabletopBot.Webhook

open Json (Complete Cut FieldForm Literal OptionalText ReadsForms RecordText Spaces)
open Text.Utf8 (encode)

/-- How the actor is written: an object with a name. -/
def actorForms (name : String) : List FieldForm := [⟨"name", Literal name, true⟩]

/-- How an event is written: an object with its kind, and with the address and the actor where there are
some; where there are none, null may stand in their place. -/
def eventForms (event : Event) : List FieldForm := [
  ⟨"event", Literal event.kind, true⟩,
  ⟨"url", OptionalText Literal event.url, event.url.isSome⟩,
  ⟨"triggered_by", OptionalText (fun name => RecordText (actorForms name)) event.actor,
    event.actor.isSome⟩]

/-- A text that writes an event, with white space around it. -/
inductive EventText (event : Event) : List Char → Prop
  | object {a b written : List Char} : Spaces a → RecordText (eventForms event) written → Spaces b →
      EventText event (a ++ written ++ b)

/-- A text is read from the token that it is written as. -/
theorem exists_reads_literal {text : String} {written : List Char} (literal : Literal text written) :
    ∃ tokens, Cut written tokens ∧ ∀ rest, Json.string (tokens ++ rest) = .ok (text, rest) := by
  obtain ⟨token, denotes, cut⟩ := Json.cut_literal literal
  exact ⟨[token], cut, Json.string_stringToken denotes⟩

/-- A value that may be missing is read where its reader reads the value, which does not start like
null. -/
theorem exists_reads_optional {α : Type} {Written : α → List Char → Prop} {decoder : Json.Decoder α}
    (reads : ∀ value written, Written value written → ∃ tokens, Cut written tokens ∧
      ∀ rest, decoder (tokens ++ rest) = .ok (value, rest))
    (refuses : ∀ rest value left, decoder (.word .null :: rest) ≠ .ok (value, left))
    {value : Option α} {written : List Char} (text : OptionalText Written value written) :
    ∃ tokens, Cut written tokens ∧
      ∀ rest, Json.optional decoder (tokens ++ rest) = .ok (value, rest) := by
  cases value with
  | none =>
    cases text
    exact ⟨_, Json.cut_word .null, fun _ => rfl⟩
  | some value =>
    obtain ⟨tokens, cut, read⟩ := reads value written text
    refine ⟨tokens, cut, ?_⟩
    intro rest
    have came := read rest
    generalize tokens ++ rest = all at came
    rw [Json.optional.eq_def]
    split
    · next left => exact absurd came (refuses left value rest)
    · rw [came]
      rfl

def actorDraft (name : String) (keys : List String) : Option String :=
  if "name" ∈ keys then some name else none

theorem readsForms_actor (name : String) :
    ReadsForms Event.actorRecord (actorForms name) (actorDraft name) where
  start := rfl
  further := by
    intro key other
    have differs : "name" ≠ key := other _ List.mem_cons_self
    exact ⟨by simp [Event.actorRecord, differs], fun keys => by simp [actorDraft, differs]⟩
  known := by
    intro form member
    obtain rfl := List.mem_singleton.mp member
    refine ⟨_, rfl, fun keys fresh => by simp [actorDraft, fresh], ?_⟩
    intro written literal
    obtain ⟨tokens, cut, read⟩ := exists_reads_literal literal
    refine ⟨tokens, cut, ?_⟩
    intro keys rest
    simp [read, actorDraft, bind, Except.bind]

theorem exists_reads_actor (name : String) (written : List Char)
    (text : RecordText (actorForms name) written) : ∃ tokens, Cut written tokens ∧
      ∀ rest, Event.actorRecord.decoder (tokens ++ rest) = .ok (name, rest) := by
  refine Json.exists_reads_record (readsForms_actor name) ?_ text
  intro keys complete
  exact if_pos ((complete _ List.mem_cons_self).2 rfl)

def eventDraft (event : Event) (keys : List String) : Event.Draft where
  kind := if "event" ∈ keys then some event.kind else none
  url := if "url" ∈ keys then some event.url else none
  actor := if "triggered_by" ∈ keys then some event.actor else none

theorem readsForms_event (event : Event) :
    ReadsForms Event.record (eventForms event) (eventDraft event) where
  start := rfl
  further := by
    intro key other
    simp only [eventForms, List.forall_mem_cons] at other
    obtain ⟨kind, url, actor, -⟩ := other
    exact ⟨by simp [Event.record, kind, url, actor], fun keys => by simp [eventDraft, kind, url, actor]⟩
  known := by
    intro form member
    simp only [eventForms, List.mem_cons, List.not_mem_nil, or_false] at member
    rcases member with rfl | rfl | rfl
    · refine ⟨_, rfl, fun keys fresh => by simp [eventDraft, fresh], ?_⟩
      intro written literal
      obtain ⟨tokens, cut, read⟩ := exists_reads_literal literal
      refine ⟨tokens, cut, ?_⟩
      intro keys rest
      simp [read, eventDraft, bind, Except.bind]
    · refine ⟨_, rfl, fun keys fresh => by simp [eventDraft, fresh], ?_⟩
      intro written text
      obtain ⟨tokens, cut, read⟩ := exists_reads_optional (fun _ _ => exists_reads_literal)
        (by intro rest value left; exact nofun) text
      refine ⟨tokens, cut, ?_⟩
      intro keys rest
      simp [read, eventDraft, bind, Except.bind]
    · refine ⟨_, rfl, fun keys fresh => by simp [eventDraft, fresh], ?_⟩
      intro written text
      obtain ⟨tokens, cut, read⟩ := exists_reads_optional exists_reads_actor
        (by intro rest value left; exact nofun) text
      refine ⟨tokens, cut, ?_⟩
      intro keys rest
      simp [read, eventDraft, bind, Except.bind]

theorem getD_eq_of_required {α : Type} {name : String} {keys : List String} {value : Option α}
    (required : value.isSome = true → name ∈ keys) :
    (if name ∈ keys then some value else none).getD none = value := by
  split
  · rfl
  · next absent =>
    cases value with
    | none => rfl
    | some value => exact absurd (required rfl) absent

/-- What was left out of an event is what it does not have. -/
theorem finish_eventDraft {event : Event} {keys : List String}
    (complete : Complete (eventForms event) keys) :
    Event.record.finish (eventDraft event keys) = some event := by
  simp only [Complete, eventForms, List.forall_mem_cons] at complete
  obtain ⟨⟨-, kind⟩, ⟨-, url⟩, ⟨-, actor⟩, -⟩ := complete
  simp only [Event.record, eventDraft, if_pos (kind trivial), Option.map_some, getD_eq_of_required url,
    getD_eq_of_required actor]

/-- However an event is written, it is read. -/
theorem decode_eventText {event : Event} {written : List Char} (text : EventText event written) :
    Event.decode (encode written) = .ok event := by
  cases text with
  | object before record behind =>
    obtain ⟨tokens, cut, read⟩ :=
      Json.exists_reads_record (readsForms_event event) (fun _ => finish_eventDraft) record
    have whole := Json.scan_of_cut (((Json.cut_spaces before).append cut).append
      (Json.cut_spaces behind))
    have all := read []
    rw [Event.decode, Json.decode, whole, List.nil_append, all]
    rfl

/-- A post that writes an event in its body, declared as JSON and not too long. -/
structure Writes (request : Request) (event : Event) : Prop extends IsPost request where
  declared : request.contentType.any MediaType.isJson = true
  short : request.body.length ≤ bodyLimit
  written : ∃ written, EventText event written ∧ request.body = encode written

theorem Writes.posts {request : Request} {event : Event} (writes : Writes request event) :
    Posts request event := by
  obtain ⟨written, text, body⟩ := writes.written
  refine ⟨writes.toIsPost, writes.declared, writes.short, ?_⟩
  rw [body]
  exact decode_eventText text

/-- Posts that write the same event are read as this event and handled alike, with the same answer and
the same notification wherever chance chooses alike: the order and the spelling of what they hold do not
matter, and neither does anything else that they hold. -/
theorem respond_eq_of_eventText {σ : Type} [Chance σ] {event : Event} {first second : Request}
    (writes : Writes first event) (again : Writes second event) (pool : MessagePool)
    (channelId : Nat) (queue : Queue) (source : σ) :
    Event.decode first.body = .ok event ∧ Event.decode second.body = .ok event ∧
      respond pool channelId first queue source = respond pool channelId second queue source := by
  refine ⟨writes.posts.read, again.posts.read, ?_⟩
  rw [respond_of_posts writes.posts, respond_of_posts again.posts]

/-- Sasha's new page, posted as briefly as can be, and with other fields, escapes and white space. -/
theorem respond_eq_of_escaped_event :
    let event : Event := ⟨"page_create", none, some "Sasha"⟩
    let post (body : List Char) : Request := {
      method := "POST", target := "/webhooks/new_post", contentType := some "application/json"
      body := encode body }
    let brief := post
      "\x7b\"event\":\"page_create\",\"triggered_by\":\x7b\"name\":\"Sasha\"\x7d\x7d".toList
    let lengthy := post ("\x7b\"triggered_by\": \x7b\"id\":-1.5e+99,\"n\\u0061me\":\"Sasha\"\x7d,".toList ++
      "\n\"tags\":[null,\"\\ud800\"],\"url\":null,\"event\":\"page_create\"\x7d".toList)
    Writes brief event ∧ Writes lengthy event ∧
      ∀ (pool : MessagePool) (channelId : Nat) (queue : Queue) (source : Script),
        respond pool channelId brief queue source = respond pool channelId lengthy queue source := by
  intro event post brief lengthy
  have bare : Spaces [] := by decide
  have blank : Spaces [' '] := by decide
  have newline : Spaces ['\n'] := by decide
  have plain (text : String) (all : text.toList.all fun char =>
      decide (32 ≤ char.toNat ∧ char ≠ '"' ∧ char ≠ '\\')) :
      Literal text ('"' :: (text.toList ++ ['"'])) := .quoted (Json.spelled_of_plain all)
  have name : Literal "name" _ := .quoted (.cons (.plain (by decide) (by decide) (by decide))
    (.cons (.unit (.digits (a := 0) (b := 0) (c := 6) (d := 1) (by decide : Json.HexDigit _ '0')
      (by decide : Json.HexDigit _ '0') (by decide : Json.HexDigit _ '6')
      (by decide : Json.HexDigit _ '1'))) (Json.spelled_of_plain (by decide : ['m', 'e'].all _))))
  have actor : RecordText (actorForms "Sasha") _ :=
    .entries (.last (.known List.mem_cons_self bare (plain "name" (by decide)) bare bare
      (plain "Sasha" (by decide)) bare)) (by decide)
  have text : EventText event _ := .object bare (.entries
    (.cons (.known (.head _) bare (plain "event" (by decide)) bare bare
      (plain "page_create" (by decide)) bare)
    (.last (.known (.tail _ (.tail _ (.head _))) bare (plain "triggered_by" (by decide)) bare bare
      actor bare))) (by decide)) bare
  have one : Json.WholeText ['1'] := .digits (by decide) (by decide)
  have number : Json.NumberText _ := .negative (.parts one
    (.digits (by decide : Text.isDigitRun ['5'] = true))
    (.digits (.inl rfl) (.inr (.inl rfl)) (by decide : Text.isDigitRun ['9', '9'] = true)))
  have surrogate : Json.StringText _ := .quoted (.unit (.digits (a := 13) (b := 8) (c := 0) (d := 0)
    (by decide : Json.HexDigit _ 'd') (by decide : Json.HexDigit _ '8')
    (by decide : Json.HexDigit _ '0') (by decide : Json.HexDigit _ '0')) .nil)
  have tags : Json.ValueText _ := .list (.items (.item bare (.word .null) bare)
    (.item bare (.string surrogate) bare))
  have longActor : RecordText (actorForms "Sasha") _ :=
    .entries (.cons (.further (by decide) bare (plain "id" (by decide)) bare bare (.number number) bare)
      (.last (.known List.mem_cons_self bare name bare bare (plain "Sasha" (by decide)) bare)))
      (by decide)
  have longText : EventText event _ := .object bare (.entries
    (.cons (.known (.tail _ (.tail _ (.head _))) bare (plain "triggered_by" (by decide)) bare blank
      longActor bare)
    (.cons (.further (by decide) newline (plain "tags" (by decide)) bare bare tags bare)
    (.cons (.known (.tail _ (.head _)) bare (plain "url" (by decide)) bare bare rfl bare)
    (.last (.known (.head _) bare (plain "event" (by decide)) bare bare
      (plain "page_create" (by decide)) bare))))) (by decide)) bare
  have path : String.ofList (targetPath "/webhooks/new_post".toList) = "/webhooks/new_post" := by
    decide +kernel
  have declared : (some "application/json").any MediaType.isJson = true := by decide +kernel
  have writes : Writes brief event := ⟨⟨path, rfl⟩, declared, by decide +kernel, _, text, rfl⟩
  have again : Writes lengthy event := ⟨⟨path, rfl⟩, declared, by decide +kernel, _, longText, rfl⟩
  exact ⟨writes, again, fun pool channelId queue source =>
    (respond_eq_of_eventText writes again pool channelId queue source).2.2⟩

end TabletopBot.Webhook
