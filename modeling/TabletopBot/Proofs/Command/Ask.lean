import TabletopBot.Command.Ask
import TabletopBot.Proofs.Chat.Completion
import TabletopBot.Proofs.Http.PlainAddress
import TabletopBot.Proofs.Message.Packing
import TabletopBot.Proofs.Wiki.Fetch

/-! # Runs of a question

What answering a question from the wiki attempts, and what the asking user is shown: `AskRun` describes a
whole run by the answers that come back, and `ask_run` says that every script of answers gives exactly
one such run. The pages are an induction over the hits, in which a failed page takes its reaction from
the script but gives no document.
-/

namespace TabletopBot.Command

open Http (AddressRules Attempt Fate Makes Reaction fates remaining requests)

def pagesAttempts (wiki : WikiSettings) (hits : List Wiki.Hit) : List Attempt :=
  hits.map fun hit => Wiki.pageAttempt wiki hit.url

/-- The documents of the hits whose pages came back, in the order of the hits. -/
def documentsOf (hits : List Wiki.Hit) (pages : List Fate) : List String :=
  (hits.zip pages).filterMap fun (hit, page) => (Wiki.pageText? page).map (Wiki.Document.build hit)

/-- A question with documents to answer it from, numbered from one. -/
def documentsQuestion (question : String) (documents : List String) : String :=
  "User Question: " ++ question ++ "\n\nContext for answering your query: " ++
    "\n\n---\n\n".intercalate
      (documents.mapIdx fun index document => "Document " ++ toString (index + 1) ++ ":\n" ++ document)

/-- What is asked of the language model about documents, word for word. -/
def documentsAttempt (settings : ChatSettings) (key question : String) (documents : List String) :
    Attempt where
  method := .post
  address := Http.addressBelow settings.baseUrl "/chat/completions"
  authorization := some ("Bearer " ++ key)
  body := some (.object [
    ("model", .string settings.model),
    ("messages", .list [
      .object [("role", .string "system"), ("content", .string Chat.documentsPrompt)],
      .object [("role", .string "user"),
        ("content", .string (documentsQuestion question documents))]]),
    ("max_tokens", .number 2048 0),
    ("temperature", .number 4 1)])

/-- What is shown for an answer of the language model: the messages of its first choice, or that there is
nothing to say, or that asking failed. -/
inductive Shown (fate : Fate) : Reply → Prop
  | messages {choice content : String} {others followups : List String} :
      Chat.Offers fate (choice :: others) → Text.Blank choice.toList = false →
      Message.split choice = content :: followups → Shown fate { content, followups }
  | nothing {choices : List String} :
      Chat.Offers fate choices → (∀ choice ∈ choices.head?, Text.Blank choice.toList = true) →
      Shown fate (Reply.ofText noAnswer)
  | failed : (∀ choices, ¬Chat.Offers fate choices) → Shown fate (Reply.ofText askFailed)

/-- A run of a question: what is attempted, what becomes of each attempt, and the reply. -/
inductive AskRun (wiki : WikiSettings) (chat : ChatSettings) (question : String) :
    List Attempt → List Fate → Reply → Prop
  | unknown {search : Fate} :
      (∀ hits, ¬Wiki.Found wiki.pageSize search hits) →
      AskRun wiki chat question [Wiki.searchAttempt wiki question] [search]
        (Reply.ofText (noKnowledge question))
  | keyless {search : Fate} {hits : List Wiki.Hit} {pages : List Fate} :
      Wiki.Found wiki.pageSize search hits → pages.length = hits.length → chat.apiKey = none →
      AskRun wiki chat question (Wiki.searchAttempt wiki question :: pagesAttempts wiki hits)
        (search :: pages) (Reply.ofText askFailed)
  | asked {search completion : Fate} {hits : List Wiki.Hit} {pages : List Fate} {key : String}
      {reply : Reply} :
      Wiki.Found wiki.pageSize search hits → pages.length = hits.length → chat.apiKey = some key →
      Shown completion reply →
      AskRun wiki chat question
        (Wiki.searchAttempt wiki question :: pagesAttempts wiki hits ++
          [documentsAttempt chat key question (documentsOf hits pages)])
        (search :: pages ++ [completion]) reply

theorem numbered_eq_mapIdx (first : Nat) (documents : List String) :
    Wiki.Document.numbered first documents =
      documents.mapIdx fun index document =>
        "Document " ++ toString (first + index) ++ ":\n" ++ document := by
  induction documents generalizing first with
  | nil => rfl
  | cons document documents ih =>
    rw [Wiki.Document.numbered, ih, List.mapIdx_cons]
    simp only [Nat.add_zero, Nat.add_assoc, Nat.add_comm 1]
    rfl

theorem prompt_eq_documentsQuestion (question : String) (documents : List String) :
    Wiki.Document.prompt question documents = documentsQuestion question documents := by
  have numbered := numbered_eq_mapIdx 1 documents
  simp only [Nat.add_comm 1] at numbered
  exact congrArg (fun items => "User Question: " ++ question ++
    "\n\nContext for answering your query: " ++ "\n\n---\n\n".intercalate items) numbered

theorem documentsAttempt_eq (settings : ChatSettings) (key question : String)
    (documents : List String) : documentsAttempt settings key question documents =
      Chat.completionAttempt settings Chat.documentsManner key
        (Wiki.Document.prompt question documents) := by
  rw [prompt_eq_documentsQuestion]
  rfl

section

variable {hit : Wiki.Hit} {hits : List Wiki.Hit} {page : Fate} {pages : List Fate}

theorem documentsOf_cons_of_none (failed : Wiki.pageText? page = none) :
    documentsOf (hit :: hits) (page :: pages) = documentsOf hits pages :=
  List.filterMap_cons_none (by simp only [failed, Option.map_none])

theorem documentsOf_cons_of_some {html : String} (came : Wiki.pageText? page = some html) :
    documentsOf (hit :: hits) (page :: pages) =
      Wiki.Document.build hit html :: documentsOf hits pages :=
  List.filterMap_cons_some (by simp only [came, Option.map_some])

end

theorem pagesAttempts_cons (wiki : WikiSettings) (hit : Wiki.Hit) (hits : List Wiki.Hit) :
    pagesAttempts wiki (hit :: hits) =
      Wiki.pageAttempt wiki hit.url :: pagesAttempts wiki hits := rfl

theorem length_pagesAttempts (wiki : WikiSettings) (hits : List Wiki.Hit) :
    (pagesAttempts wiki hits).length = hits.length := List.length_map _

/-- Every page is attempted once, whatever became of the pages before it. -/
theorem fetchDocuments_makes [AddressRules] (wiki : WikiSettings) (hits : List Wiki.Hit)
    (reactions : List Reaction) :
    Makes (fetchDocuments wiki hits) reactions (pagesAttempts wiki hits)
      (documentsOf hits (fates (pagesAttempts wiki hits) reactions)) := by
  induction hits generalizing reactions with
  | nil => exact .pure []
  | cons hit hits ih =>
    obtain ⟨fetched, page, text⟩ := Wiki.page_makes wiki hit.url reactions
    have others := ih (remaining [Wiki.pageAttempt wiki hit.url] reactions)
    refine page.bind (others.bind_pure ?_)
    rw [pagesAttempts_cons, fates]
    cases fetched with
    | error fault =>
      rw [documentsOf_cons_of_none text.symm]
      rfl
    | ok html =>
      rw [documentsOf_cons_of_some text.symm]
      rfl

theorem shown_answerReply {fate : Fate} {result : Except Chat.ChatFault String}
    (outcome : Chat.Outcome fate result) : Shown fate (answerReply result) := by
  cases outcome with
  | none offers => exact .nothing offers (by simp)
  | @failed fault unread other =>
    have reply : answerReply (.error fault) = Reply.ofText askFailed := by
      rw [answerReply]
      simpa using other
    rw [reply]
    exact .failed unread
  | @chosen choice others offers =>
    rw [answerReply]
    split
    · next blank => exact .nothing offers (by simpa using blank)
    · next nonblank =>
      have nonempty : Message.split choice ≠ [] := Message.split_eq_nil_iff.not.mpr nonblank
      obtain ⟨content, followups, messages⟩ := List.exists_cons_of_ne_nil nonempty
      rw [messages]
      exact .messages offers (by simpa using nonblank) messages

/-- A reply that everybody sees, with a text and no cards. -/
structure Plain (reply : Reply) : Prop where
  content : reply.content ≠ ""
  embeds : reply.embeds = []
  ephemeral : reply.ephemeral = false

theorem plain_noKnowledge (question : String) : Plain (Reply.ofText (noKnowledge question)) := by
  refine ⟨?_, rfl, rfl⟩
  change "No knowledge base results for '" ++ question ++ "'." ≠ ""
  rw [ne_eq, String.append_eq_empty_iff]
  exact fun empty => absurd empty.2 (by decide)

theorem Shown.plain {fate : Fate} {reply : Reply} (shown : Shown fate reply) : Plain reply := by
  cases shown with
  | nothing => exact ⟨by decide, rfl, rfl⟩
  | failed => exact ⟨by decide, rfl, rfl⟩
  | @messages choice content others followups _ _ messages =>
    refine ⟨?_, rfl, rfl⟩
    have length := Message.length_of_mem_split (messages ▸ List.mem_cons_self)
    rintro rfl
    exact absurd length.1 (by decide)

section

variable [AddressRules] {wiki : WikiSettings} {chat : ChatSettings} {question : String}
  {attempts others : List Attempt} {reply other : Reply} {reactions : List Reaction}

/-- What is attempted once hits are found: their pages, and with a key a completion. -/
theorem exists_askRun_of_found {search : Fate} {hits : List Wiki.Hit}
    (found : Wiki.Found wiki.pageSize search hits) (chat : ChatSettings)
    (reactions : List Reaction) : ∃ attempts reply,
      AskRun wiki chat question (Wiki.searchAttempt wiki question :: attempts)
        (search :: fates attempts reactions) reply ∧
      Makes (do
        let documents ← fetchDocuments wiki hits
        let answer ← Chat.askDocuments chat question documents
        pure (answerReply answer)) reactions attempts reply := by
  have pages := fetchDocuments_makes wiki hits reactions
  have length : (fates (pagesAttempts wiki hits) reactions).length = hits.length := by
    rw [Http.length_fates, length_pagesAttempts]
  cases configured : chat.apiKey with
  | none =>
    refine ⟨_, _, .keyless found length configured, pages.bind_pure ?_⟩
    rw [Chat.askDocuments, Chat.complete_of_keyless configured]
    rfl
  | some key =>
    obtain ⟨result, completed, outcome⟩ := Chat.complete_makes configured Chat.documentsManner
      (Wiki.Document.prompt question
        (documentsOf hits (fates (pagesAttempts wiki hits) reactions)))
      (remaining (pagesAttempts wiki hits) reactions)
    rw [← documentsAttempt_eq] at completed outcome
    refine ⟨_, _, ?_, pages.bind (completed.bind_pure rfl)⟩
    rw [Http.fates_append]
    exact .asked found length configured (shown_answerReply outcome)

/-- For every script of answers, answering a question is a run. -/
theorem exists_askRun (wiki : WikiSettings) (chat : ChatSettings) (question : String)
    (reactions : List Reaction) : ∃ attempts reply,
      AskRun wiki chat question attempts (fates attempts reactions) reply ∧
      Makes (ask wiki chat question) reactions attempts reply := by
  obtain ⟨results, searched, finds⟩ := Wiki.search_makes wiki question reactions
  cases results with
  | error fault =>
    refine ⟨_, _, .unknown ?_, searched.bind_pure rfl⟩
    intro hits found
    obtain ⟨⟨total, impossible⟩, _⟩ := (finds hits).mp found
    contradiction
  | ok results =>
    obtain ⟨total, hits⟩ := results
    by_cases empty : hits = []
    · refine ⟨_, _, .unknown ?_, searched.bind_pure (if_pos empty)⟩
      intro others found
      obtain ⟨⟨_, same⟩, nonempty⟩ := (finds others).mp found
      cases same
      exact nonempty empty
    · have found := (finds hits).mpr ⟨⟨total, rfl⟩, empty⟩
      obtain ⟨attempts, reply, run, makes⟩ := exists_askRun_of_found found chat
        (remaining [Wiki.searchAttempt wiki question] reactions)
      refine ⟨_ :: attempts, reply, run, searched.bind ?_⟩
      simpa only [if_neg empty] using makes

omit [AddressRules] in
theorem AskRun.length_le {came : List Fate} (run : AskRun wiki chat question attempts came reply) :
    attempts.length ≤ wiki.pageSize + 2 := by
  cases run with
  | unknown => exact Nat.le_add_left 1 _
  | keyless found =>
    have few := found.length_le
    rw [List.length_cons, length_pagesAttempts]
    omega
  | asked found =>
    have few := found.length_le
    rw [List.length_append, List.length_cons, length_pagesAttempts, List.length_singleton]
    omega

omit [AddressRules] in
theorem AskRun.plain {came : List Fate} (run : AskRun wiki chat question attempts came reply) :
    Plain reply := by
  cases run with
  | unknown => exact plain_noKnowledge question
  | keyless => exact ⟨by decide, rfl, rfl⟩
  | asked _ _ _ shown => exact shown.plain

omit [AddressRules] in
theorem Shown.unique {fate : Fate} (first : Shown fate reply) (second : Shown fate other) :
    reply = other := by
  cases first with
  | messages offers nonblank messages =>
    cases second with
    | messages again _ others =>
      cases Chat.offers_unique offers again
      cases messages.symm.trans others
      rfl
    | nothing again blank =>
      cases Chat.offers_unique offers again
      exact absurd (blank _ rfl) (by simp [nonblank])
    | failed unread => exact absurd offers (unread _)
  | nothing offers blank =>
    cases second with
    | messages again nonblank =>
      cases Chat.offers_unique offers again
      exact absurd (blank _ rfl) (by simp [nonblank])
    | nothing => rfl
    | failed unread => exact absurd offers (unread _)
  | failed unread =>
    cases second with
    | messages offers => exact absurd offers (unread _)
    | nothing offers => exact absurd offers (unread _)
    | failed => rfl

/-- A script determines the run: what is attempted next depends on what became of the attempts before. -/
theorem AskRun.unique {came alsoCame : List Fate}
    (first : AskRun wiki chat question attempts came reply) (fate : fates attempts reactions = came)
    (second : AskRun wiki chat question others alsoCame other)
    (alsoFate : fates others reactions = alsoCame) : attempts = others ∧ reply = other := by
  cases first with
  | unknown nothing =>
    obtain ⟨rfl, _⟩ := Http.fates_cons_eq_iff.mp fate
    cases second with
    | unknown => exact ⟨rfl, rfl⟩
    | keyless found =>
      obtain ⟨rfl, _⟩ := Http.fates_cons_eq_iff.mp alsoFate
      exact absurd found (nothing _)
    | asked found =>
      obtain ⟨rfl, _⟩ := Http.fates_cons_eq_iff.mp alsoFate
      exact absurd found (nothing _)
  | keyless found _ keyless =>
    obtain ⟨rfl, _⟩ := Http.fates_cons_eq_iff.mp fate
    cases second with
    | unknown nothing =>
      obtain ⟨rfl, _⟩ := Http.fates_cons_eq_iff.mp alsoFate
      exact absurd found (nothing _)
    | keyless again =>
      obtain ⟨rfl, _⟩ := Http.fates_cons_eq_iff.mp alsoFate
      rw [found.unique again]
      exact ⟨rfl, rfl⟩
    | asked _ _ configured => cases keyless.symm.trans configured
  | asked found _ configured shown =>
    obtain ⟨rfl, completed⟩ := Http.fates_cons_eq_iff.mp fate
    cases second with
    | unknown nothing =>
      obtain ⟨rfl, _⟩ := Http.fates_cons_eq_iff.mp alsoFate
      exact absurd found (nothing _)
    | keyless _ _ keyless => cases keyless.symm.trans configured
    | asked again _ alsoConfigured alsoShown =>
      obtain ⟨rfl, alsoCompleted⟩ := Http.fates_cons_eq_iff.mp alsoFate
      cases found.unique again
      cases configured.symm.trans alsoConfigured
      obtain ⟨rfl, rfl⟩ := Http.fates_concat_eq_iff.mp completed
      obtain ⟨rfl, rfl⟩ := Http.fates_concat_eq_iff.mp alsoCompleted
      exact ⟨rfl, shown.unique alsoShown⟩

/-- Against every script there is exactly one run of a question, and answering it from the wiki is that
run: the requests of its attempts arrive in order, those at plain addresses as they are written, what becomes
of the attempts is what the script makes of them, and its reply is given. The reply is a text that everybody
sees. -/
theorem ask_run (wiki : WikiSettings) (chat : ChatSettings) (question : String)
    (reactions : List Reaction) (sent : List Http.Request) : ∃ attempts reply,
      AskRun wiki chat question attempts (fates attempts reactions) reply ∧
      (∀ others other, AskRun wiki chat question others (fates others reactions) other →
        others = attempts ∧ other = reply) ∧
      ask wiki chat question ⟨.script reactions, sent⟩ =
        (reply, ⟨.script (remaining attempts reactions), sent ++ requests attempts reactions⟩) ∧
      Http.ArriveInTurn reactions attempts (requests attempts reactions) ∧
      attempts.length ≤ wiki.pageSize + 2 ∧
      reply.content ≠ "" ∧ reply.embeds = [] ∧ reply.ephemeral = false := by
  obtain ⟨attempts, reply, run, makes⟩ := exists_askRun wiki chat question reactions
  obtain ⟨content, embeds, ephemeral⟩ := run.plain
  refine ⟨attempts, reply, run, ?_, makes.run sent, Http.arriveInTurn_requests attempts reactions,
    run.length_le, content, embeds, ephemeral⟩
  intro others other another
  exact another.unique rfl run rfl

end

/-- The page of the one hit has moved to another host, which does not get the wiki's token. -/
theorem ask_run_of_moved_page :
    let _ : AddressRules := .plain
    let wiki : WikiSettings := { baseUrl := "https://wiki.example/api/", apiId := "id", apiKey := "key" }
    let chat : ChatSettings := { apiKey := some "secret" }
    let answered (text : String) : Reaction :=
      .answer { status := 200, body := Text.Utf8.encode text.toList }
    let reactions : List Reaction := [
      answered ("\x7b\"total\": 1, \"data\": " ++
        "[\x7b\"name\": \"Inn\", \"url\": \"https://wiki.example/inn\"\x7d]\x7d"),
      .answer { status := 302, body := [], location := some "https://other.example/inn" },
      answered "<p>An inn.</p>",
      answered ("\x7b\"choices\": [\x7b\"message\": " ++
        "\x7b\"role\": \"assistant\", \"content\": \"An inn.\"\x7d\x7d]\x7d")]
    ∃ attempts, AskRun wiki chat "inn" attempts (fates attempts reactions) (Reply.ofText "An inn.") ∧
      (requests attempts reactions).map
          (fun request => (request.method, request.url, request.authorization)) = [
        (.get, "https://wiki.example/api/search?query=inn&page=1&count=10", some "Token id:key"),
        (.get, "https://wiki.example/inn", some "Token id:key"),
        (.get, "https://other.example/inn", none),
        (.post, "https://api.openai.com/v1/chat/completions", some "Bearer secret")] := by
  intro rules wiki chat answered reactions
  have outcome :
      let finished := ask wiki chat "inn" ⟨.script reactions, []⟩
      (finished.1, finished.2.sent.map fun request =>
        (request.method, request.url, request.authorization)) = (Reply.ofText "An inn.", [
        (.get, "https://wiki.example/api/search?query=inn&page=1&count=10", some "Token id:key"),
        (.get, "https://wiki.example/inn", some "Token id:key"),
        (.get, "https://other.example/inn", none),
        (.post, "https://api.openai.com/v1/chat/completions", some "Bearer secret")]) := by
    decide +kernel +revert
  obtain ⟨attempts, reply, run, -, ran, -⟩ := ask_run wiki chat "inn" reactions []
  rw [ran] at outcome
  obtain ⟨rfl, arrived⟩ := Prod.mk.inj outcome
  exact ⟨attempts, run, arrived⟩

end TabletopBot.Command
