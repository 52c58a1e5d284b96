import Mathlib.Control.Monad.Basic
import TabletopBot.Webhook.Router

/-! # What a request does to the queue

A request is answered, or waits because the queue is full. `Handled` lists all that can become of it
together with the queue behind it, and `respond_handled` says that there is nothing else. A notification
is queued for one kind of request alone, a post of a new page with its author while somebody reads the
queue, and only such a post gets a notification for the answer it is given.
-/

namespace TabletopBot.Webhook

/-- A post to the page for new posts. -/
structure IsPost (request : Request) : Prop where
  path : String.ofList (targetPath request.target.toList) = "/webhooks/new_post"
  method : request.method = "POST"

/-- A post whose body is declared as JSON, is not too long, and is read as an event. -/
structure Posts (request : Request) (event : Event) : Prop extends IsPost request where
  declared : request.contentType.any MediaType.isJson = true
  short : request.body.length ≤ bodyLimit
  read : Event.decode request.body = .ok event

/-- A post of a new page together with its author. -/
structure Announces (request : Request) (event : Event) (author : String) : Prop extends
    Posts request event where
  created : event.kind = "page_create"
  named : event.actor = some author

/-- The notification of a new page: a message of the pool, the author, and the address of the page on a
line of its own where there is one. -/
def announcement (channelId : Nat) (message author : String) (url : Option String) : Notification where
  channelId := channelId
  content := message ++ " It's author is **" ++ author ++ "**!" ++ url.elim "" ("\n" ++ ·)

/-- What can become of a request: the outcome and the queue behind it. -/
inductive Handled (pool : MessagePool) (channelId : Nat) (request : Request) (queue : Queue) :
    Outcome → Queue → Prop
  | queued {event : Event} {author message : String} (announces : Announces request event author)
      (reading : queue.receiver = .open) (room : queue.waiting.length < Queue.capacity)
      (chosen : message ∈ pool.messages) :
      Handled pool channelId request queue (.answered ⟨200, "Webhook received"⟩)
        { queue with waiting := queue.waiting ++ [announcement channelId message author event.url] }
  | waits {event : Event} {author : String} (announces : Announces request event author)
      (reading : queue.receiver = .open) (full : Queue.capacity ≤ queue.waiting.length) :
      Handled pool channelId request queue .blocked queue
  | unheard {event : Event} {author : String} (announces : Announces request event author)
      (deaf : queue.receiver ≠ .open) :
      Handled pool channelId request queue (.answered ⟨503, "Notification relay unavailable"⟩) queue
  | nameless {event : Event} (posts : Posts request event) (created : event.kind = "page_create")
      (nobody : event.actor = none) :
      Handled pool channelId request queue (.answered ⟨400, "Missing triggered_by"⟩) queue
  | ignored {event : Event} (posts : Posts request event) (other : event.kind ≠ "page_create") :
      Handled pool channelId request queue (.answered ⟨200, "Webhook received"⟩) queue
  | unread {answer : Answer} (post : IsPost request) (unread : ∀ event, ¬Posts request event)
      (fault : 400 ≤ answer.status ∧ answer.status < 500) :
      Handled pool channelId request queue (.answered answer) queue
  | health (path : Route.ofTarget? request.target = some .health) :
      Handled pool channelId request queue (readOnly request.method (healthAnswer queue)) queue
  | elsewhere {answer : Answer} (path : Route.ofTarget? request.target ≠ some .health)
      (other : ¬IsPost request) (available : answer.status ≠ 503) :
      Handled pool channelId request queue (.answered answer) queue

theorem ofTarget?_eq_newPost_iff {target : String} :
    Route.ofTarget? target = some .newPost ↔
      String.ofList (targetPath target.toList) = "/webhooks/new_post" := by
  simp only [Route.ofTarget?]
  split
  · next root => simp [root]
  · split
    · next health => simp [health]
    · simp

theorem Posts.unique {request : Request} {first second : Event} (posts : Posts request first)
    (again : Posts request second) : first = second := by
  cases posts.read.symm.trans again.read
  rfl

theorem Announces.unique {request : Request} {first second : Event} {author other : String}
    (announces : Announces request first author) (again : Announces request second other) :
    first = second ∧ author = other := by
  obtain rfl := announces.toPosts.unique again.toPosts
  exact ⟨rfl, Option.some.inj (announces.named.symm.trans again.named)⟩

theorem IsPost.ne_health {request : Request} (post : IsPost request) :
    Route.ofTarget? request.target ≠ some .health := by
  rw [ofTarget?_eq_newPost_iff.mpr post.path]
  decide

theorem eventOf_of_posts {request : Request} {event : Event} (posts : Posts request event) :
    eventOf request = .ok event := by
  have short := Nat.not_lt_of_le posts.short
  simp only [eventOf, posts.declared, short, posts.read, Bool.not_true, Bool.false_eq_true, if_false]

/-- Where no event is posted, the request is to blame. -/
theorem eventOf_of_unread {request : Request} (post : IsPost request)
    (unread : ∀ event, ¬Posts request event) : ∃ answer, eventOf request = .error answer ∧
      400 ≤ answer.status ∧ answer.status < 500 := by
  rw [eventOf]
  split
  · exact ⟨_, rfl, by decide, by decide⟩
  next declared =>
  split
  · exact ⟨_, rfl, by decide, by decide⟩
  next short =>
  split
  · next event read =>
    exact absurd ⟨post, by simpa using declared, Nat.le_of_not_lt short, read⟩ (unread event)
  · exact ⟨_, rfl, by decide, by decide⟩
  · exact ⟨_, rfl, by decide, by decide⟩

/-- What becomes of a post when the queue takes its notification or does not. -/
def ofAcceptance (queue : Queue) : Queue.Acceptance → Outcome × Queue
  | .queued next => (.answered ⟨200, "Webhook received"⟩, next)
  | .full => (.blocked, queue)
  | .refused => (.answered ⟨503, "Notification relay unavailable"⟩, queue)

section

variable {σ : Type} [Chance σ]

/-- Some message of the pool is chosen for the announcement. -/
theorem announce_eq (pool : MessagePool) (channelId : Nat) (author : String) (url : Option String)
    (source : σ) : ∃ message ∈ pool.messages, ∃ last, announce pool author url source =
      ((announcement channelId message author url).content, last) := by
  refine ⟨pool.messages[(Chance.pick pool.messages.length pool.nonempty source).1],
    List.getElem_mem _, (Chance.pick pool.messages.length pool.nonempty source).2, ?_⟩
  cases url with
  | none =>
    simp only [announcement, Option.elim_none, String.append_empty]
    rfl
  | some url =>
    simp only [announcement, Option.elim_some, ← String.append_assoc]
    rfl

theorem respond_of_isPost {request : Request} (post : IsPost request) (pool : MessagePool)
    (channelId : Nat) (queue : Queue) :
    (respond pool channelId request queue : StateM σ _) =
      match eventOf request with
      | .error answer => pure (.answered answer, queue)
      | .ok event => accept pool channelId event queue := by
  rw [respond, ofTarget?_eq_newPost_iff.mpr post.path]
  exact if_neg (not_not_intro post.method)

theorem respond_of_posts {request : Request} {event : Event} (posts : Posts request event)
    (pool : MessagePool) (channelId : Nat) (queue : Queue) :
    (respond pool channelId request queue : StateM σ _) = accept pool channelId event queue := by
  rw [respond_of_isPost posts.toIsPost, eventOf_of_posts posts]

/-- The announcement of a new page by its author is pushed into the queue. -/
theorem respond_of_announces {request : Request} {event : Event} {author : String}
    (announces : Announces request event author) (pool : MessagePool) (channelId : Nat) (queue : Queue)
    (source : σ) : ∃ message ∈ pool.messages, ∃ last,
      respond pool channelId request queue source =
        (ofAcceptance queue (queue.push (announcement channelId message author event.url)), last) := by
  obtain ⟨message, chosen, last, announced⟩ :=
    announce_eq pool channelId author event.url source
  refine ⟨message, chosen, last, ?_⟩
  have announcing : ¬event.kind ≠ Event.pageCreate := not_not_intro announces.created
  have accepted (content : String) (rest : σ) :
      (match queue.push ⟨channelId, content⟩ with
        | .queued next => pure (.answered received, next)
        | .full => pure (.blocked, queue)
        | .refused => pure (.answered ⟨503, "Notification relay unavailable"⟩, queue) :
        StateM σ (Outcome × Queue)) rest =
      (ofAcceptance queue (queue.push ⟨channelId, content⟩), rest) := by
    cases queue.push ⟨channelId, content⟩ with
    | queued next => rfl
    | full => rfl
    | refused => rfl
  rw [respond_of_posts announces.toPosts, accept, if_neg announcing, announces.named]
  refine (accepted (announce pool author event.url source).1
    (announce pool author event.url source).2).trans ?_
  rw [announced]
  rfl

theorem respond_of_nameless {request : Request} {event : Event} (posts : Posts request event)
    (created : event.kind = "page_create") (nobody : event.actor = none) (pool : MessagePool)
    (channelId : Nat) (queue : Queue) :
    (respond pool channelId request queue : StateM σ _) =
      pure (.answered ⟨400, "Missing triggered_by"⟩, queue) := by
  have announcing : ¬event.kind ≠ Event.pageCreate := not_not_intro created
  rw [respond_of_posts posts, accept, if_neg announcing, nobody]

theorem respond_of_ignored {request : Request} {event : Event} (posts : Posts request event)
    (other : event.kind ≠ "page_create") (pool : MessagePool) (channelId : Nat) (queue : Queue) :
    (respond pool channelId request queue : StateM σ _) =
      pure (.answered ⟨200, "Webhook received"⟩, queue) := by
  have ignoring : event.kind ≠ Event.pageCreate := other
  rw [respond_of_posts posts, accept, if_pos ignoring]
  rfl

theorem respond_of_unread {request : Request} (post : IsPost request)
    (unread : ∀ event, ¬Posts request event) (pool : MessagePool) (channelId : Nat) (queue : Queue) :
    ∃ answer : Answer, (respond pool channelId request queue : StateM σ _) =
      pure (.answered answer, queue) ∧ 400 ≤ answer.status ∧ answer.status < 500 := by
  obtain ⟨answer, read, fault⟩ := eventOf_of_unread post unread
  refine ⟨answer, ?_, fault⟩
  rw [respond_of_isPost post, read]

theorem readOnly_eq_answered (method : String) (answer : Answer) : ∃ given : Answer,
    readOnly method answer = .answered given ∧ (given.status = answer.status ∨ given.status = 405) := by
  rw [readOnly]
  split
  · exact ⟨answer, rfl, .inl rfl⟩
  · split
    · exact ⟨_, rfl, .inl rfl⟩
    · exact ⟨_, rfl, .inr rfl⟩

theorem respond_of_health {request : Request}
    (health : Route.ofTarget? request.target = some .health) (pool : MessagePool) (channelId : Nat)
    (queue : Queue) : (respond pool channelId request queue : StateM σ _) =
      pure (readOnly request.method (healthAnswer queue), queue) := by
  rw [respond, health]

theorem respond_of_elsewhere {request : Request}
    (path : Route.ofTarget? request.target ≠ some .health) (other : ¬IsPost request)
    (pool : MessagePool) (channelId : Nat) (queue : Queue) : ∃ answer : Answer,
      (respond pool channelId request queue : StateM σ _) = pure (.answered answer, queue) ∧
      answer.status ≠ 503 := by
  cases route : Route.ofTarget? request.target with
  | none =>
    refine ⟨⟨404, ""⟩, ?_, by decide⟩
    rw [respond, route]
  | some page =>
    cases page with
    | root =>
      obtain ⟨given, shown, status⟩ := readOnly_eq_answered request.method ⟨200, introduction.render⟩
      refine ⟨given, ?_, ?_⟩
      · rw [respond, route, ← shown]
      · rcases status with same | same
        · rw [same]
          decide
        · rw [same]
          decide
    | health => exact absurd route path
    | newPost =>
      refine ⟨⟨405, ""⟩, ?_, by decide⟩
      have method : request.method ≠ "POST" := fun posted =>
        other ⟨ofTarget?_eq_newPost_iff.mp route, posted⟩
      simp only [respond, route, method, ne_eq, not_false_eq_true, if_true]

/-- There is nothing else that can become of a request, whatever is chosen. -/
theorem respond_handled (pool : MessagePool) (channelId : Nat) (request : Request) (queue : Queue)
    (source : σ) : ∃ outcome next last,
      respond pool channelId request queue source = ((outcome, next), last) ∧
      Handled pool channelId request queue outcome next := by
  by_cases post : IsPost request
  · by_cases posted : ∃ event, Posts request event
    · obtain ⟨event, posts⟩ := posted
      by_cases created : event.kind = "page_create"
      · cases named : event.actor with
        | none =>
          rw [respond_of_nameless posts created named]
          exact ⟨_, _, source, rfl, .nameless posts created named⟩
        | some author =>
          have announces : Announces request event author := ⟨posts, created, named⟩
          obtain ⟨message, chosen, last, ran⟩ :=
            respond_of_announces announces pool channelId queue source
          rw [ran]
          refine ⟨_, _, last, rfl, ?_⟩
          cases pushed : queue.push (announcement channelId message author event.url) with
          | queued next =>
            obtain ⟨reading, room, rfl⟩ := Queue.push_eq_queued_iff.mp pushed
            exact .queued announces reading room chosen
          | full =>
            obtain ⟨reading, full⟩ := Queue.push_eq_full_iff.mp pushed
            exact .waits announces reading full
          | refused => exact .unheard announces (Queue.push_eq_refused_iff.mp pushed)
      · rw [respond_of_ignored posts created]
        exact ⟨_, _, source, rfl, .ignored posts created⟩
    · have unread : ∀ event, ¬Posts request event := fun event posts => posted ⟨event, posts⟩
      obtain ⟨answer, ran, fault⟩ := respond_of_unread (σ := σ) post unread pool channelId queue
      rw [ran]
      exact ⟨_, _, source, rfl, .unread post unread fault⟩
  · by_cases health : Route.ofTarget? request.target = some .health
    · rw [respond_of_health health]
      exact ⟨_, _, source, rfl, .health health⟩
    · obtain ⟨answer, ran, available⟩ :=
        respond_of_elsewhere (σ := σ) health post pool channelId queue
      rw [ran]
      exact ⟨_, _, source, rfl, .elsewhere health post available⟩

end

section

variable {pool : MessagePool} {channelId : Nat} {request : Request} {queue next : Queue}
  {outcome : Outcome}

/-- Only a full queue makes a request wait. -/
theorem Handled.exists_answer (handled : Handled pool channelId request queue outcome next)
    (ready : queue.receiver = .open → queue.waiting.length < Queue.capacity) :
    ∃ answer, outcome = .answered answer := by
  cases handled with
  | waits _ reading full => exact absurd (ready reading) (Nat.not_lt_of_le full)
  | health =>
    obtain ⟨given, shown, _⟩ := readOnly_eq_answered request.method (healthAnswer queue)
    exact ⟨given, shown⟩
  | queued | unheard | nameless | ignored | unread | elsewhere => exact ⟨_, rfl⟩

/-- The queue is left as it was, or an announcement was pushed into it and the answer tells of success. -/
theorem Handled.eq_or_queued (handled : Handled pool channelId request queue outcome next) :
    next = queue ∨ ∃ event author, ∃ message ∈ pool.messages,
      Announces request event author ∧ queue.receiver = .open ∧
      queue.push (announcement channelId message author event.url) = .queued next ∧
      outcome = .answered ⟨200, "Webhook received"⟩ := by
  cases handled with
  | @queued event author message announces reading room chosen =>
    exact .inr ⟨event, author, message, chosen, announces, reading,
      Queue.push_eq_queued_iff.mpr ⟨reading, room, rfl⟩, rfl⟩
  | waits | unheard | nameless | ignored | unread | health | elsewhere => exact .inl rfl

end

/-- Where the queue has room or nobody reads it, every request is answered, and a notification is queued
exactly for the posts of a new page with its author that somebody will read: one notification behind the
others, for the channel and with a message of the pool, and success is answered. Everything else leaves
the queue as it was, and what it is answered tells why. -/
theorem respond_queues_iff_announces {σ : Type} [Chance σ] (pool : MessagePool) (channelId : Nat)
    (request : Request) (queue : Queue)
    (ready : queue.receiver = .open → queue.waiting.length < Queue.capacity) (source : σ) :
    ∃ answer next last,
      respond pool channelId request queue source = ((.answered answer, next), last) ∧
      (next ≠ queue ↔ queue.receiver = .open ∧ ∃ event author, Announces request event author) ∧
      (∀ event author, Announces request event author → queue.receiver = .open →
        answer.status = 200 ∧ ∃ message ∈ pool.messages,
          next = { queue with waiting := queue.waiting ++ [{
            channelId
            content := message ++ " It's author is **" ++ author ++ "**!" ++
              event.url.elim "" ("\n" ++ ·) }] }) ∧
      (∀ event author, Announces request event author → queue.receiver ≠ .open →
        answer.status = 503) ∧
      (∀ event, Posts request event → event.kind = "page_create" → event.actor = none →
        answer.status = 400) ∧
      (∀ event, Posts request event → event.kind ≠ "page_create" → answer.status = 200) ∧
      (IsPost request → (∀ event, ¬Posts request event) →
        400 ≤ answer.status ∧ answer.status < 500) := by
  obtain ⟨outcome, next, last, ran, handled⟩ := respond_handled pool channelId request queue source
  obtain ⟨answer, rfl⟩ := handled.exists_answer ready
  have announced : ∀ event author, Announces request event author → queue.receiver = .open →
      answer.status = 200 ∧ ∃ message ∈ pool.messages, next = { queue with
        waiting := queue.waiting ++ [announcement channelId message author event.url] } := by
    intro event author announces reading
    obtain ⟨message, chosen, _, pushed⟩ := respond_of_announces announces pool channelId queue source
    rw [ran, Queue.push_eq_queued_iff.mpr ⟨reading, ready reading, rfl⟩] at pushed
    cases pushed
    exact ⟨rfl, message, chosen, rfl⟩
  refine ⟨answer, next, last, ran, ⟨?_, ?_⟩, announced, ?_, ?_, ?_, ?_⟩
  · intro changed
    rcases handled.eq_or_queued with same | ⟨event, author, _, _, announces, reading, _⟩
    · exact absurd same changed
    · exact ⟨reading, event, author, announces⟩
  · rintro ⟨reading, event, author, announces⟩ same
    obtain ⟨_, message, _, longer⟩ := announced event author announces reading
    have lengths := congrArg (·.waiting.length) (same.symm.trans longer)
    simp at lengths
  · intro event author announces deaf
    obtain ⟨message, _, _, pushed⟩ := respond_of_announces announces pool channelId queue source
    rw [ran, Queue.push_eq_refused_iff.mpr deaf] at pushed
    cases pushed
    rfl
  · intro event posts created nobody
    rw [respond_of_nameless posts created nobody] at ran
    cases ran
    rfl
  · intro event posts other
    rw [respond_of_ignored posts other] at ran
    cases ran
    rfl
  · intro post unread
    obtain ⟨given, answered, fault⟩ := respond_of_unread (σ := σ) post unread pool channelId queue
    rw [answered] at ran
    cases ran
    exact fault

/-- Sasha's new page is announced behind the notification that waits already. -/
theorem respond_queues_new_page :
    let pool : MessagePool := ⟨["First!"], by decide⟩
    let request : Request := {
      method := "POST", target := "/webhooks/new_post?from=wiki"
      contentType := some "application/json; charset=utf-8"
      body := Text.Utf8.encode ("\x7b\"event\": \"page_create\", \"url\": \"https://wiki/p/1\", ".toList ++
        "\"triggered_by\": \x7b\"id\": 5, \"name\": \"Sasha\"\x7d\x7d".toList) }
    let queue : Queue := { waiting := [⟨7, "earlier"⟩] }
    (queue.receiver = .open → queue.waiting.length < Queue.capacity) ∧
    Announces request ⟨"page_create", some "https://wiki/p/1", some "Sasha"⟩ "Sasha" ∧
    ∃ answer next last,
      respond pool 1234 request queue ({ faces := [], picks := [] } : Script) =
        ((.answered answer, next), last) ∧
      answer.status = 200 ∧ next.waiting =
        [⟨7, "earlier"⟩, ⟨1234, "First! It's author is **Sasha**!\nhttps://wiki/p/1"⟩] := by
  intro pool request queue
  have ready : queue.receiver = .open → queue.waiting.length < Queue.capacity := fun _ => by decide
  have announces :
      Announces request ⟨"page_create", some "https://wiki/p/1", some "Sasha"⟩ "Sasha" := by
    refine ⟨⟨⟨?_, rfl⟩, ?_, ?_, ?_⟩, rfl, rfl⟩
    · decide +kernel +revert
    · decide +kernel +revert
    · decide +kernel +revert
    · decide +kernel +revert
  obtain ⟨answer, next, last, ran, _, announced, _⟩ := respond_queues_iff_announces pool 1234 request
    queue ready ({ faces := [], picks := [] } : Script)
  obtain ⟨status, message, chosen, longer⟩ := announced _ _ announces rfl
  obtain rfl : message = "First!" := by simpa [pool] using chosen
  refine ⟨ready, announces, answer, next, last, ran, status, ?_⟩
  rw [longer]
  rfl

end TabletopBot.Webhook
