import TabletopBot.Proofs.Http.PlainAddress
import TabletopBot.Proofs.Relay
import TabletopBot.Proofs.Server.Steps
import TabletopBot.Proofs.Webhook.Handling

/-! # Every announcement is relayed, in order

Whatever the order in which handlers, the relay and the shutdown take their steps, and whatever becomes of
the deliveries, what was queued is what was attempted, what is being delivered and what still waits, in
this order. `Consistent` is the invariant behind this: besides that equation it says why a handler never
finds the receiving end closed and what every answer tells about the queue. What the webhook gets are the
posts of the deliveries that were attempted (`Run.network_eq`).
-/

namespace TabletopBot.Server

open Http (AddressRules Direct Reaction Request remaining requests)
open Relay (deliveryAttempts)
open Webhook (Announces IsPost Posts Queue Route announcement)

variable {server : Server} {network : Http.Network} {request : Webhook.Request}
  {answer : Webhook.Answer}

/-- What a server that relays its announcements answers about its health. -/
def healthyAnswer : Webhook.Answer :=
  ⟨200, (Json.Value.object [("status", .string "healthy"), ("relay", .string "ok")]).render⟩

/-- What an answer tells about the notifications that its handler queued while somebody was reading. -/
structure Settles (server : Server) (request : Webhook.Request) (answer : Webhook.Answer)
    (queued : List Notification) : Prop where
  available : answer.status ≠ 503
  healthy : Route.ofTarget? request.target = some .health → request.method = "GET" →
    answer = healthyAnswer
  named : ∀ event, Posts request event → event.kind = "page_create" → answer.status = 200 →
    ∃ author, event.actor = some author
  announced : ∀ event author, Announces request event author →
    ∃ message ∈ server.resources.announcements.messages,
      queued = [announcement server.notify.channelId message author event.url]
  silent : (∀ event author, ¬Announces request event author) → queued = []

theorem Settles.of_announces {event : Webhook.Event} {author message : String}
    (announces : Announces request event author)
    (chosen : message ∈ server.resources.announcements.messages) (available : answer.status ≠ 503) :
    Settles server request answer
      [announcement server.notify.channelId message author event.url] where
  available := available
  healthy health := absurd health announces.toIsPost.ne_health
  named other posts _ _ := by
    obtain rfl := announces.toPosts.unique posts
    exact ⟨author, announces.named⟩
  announced other name again := by
    obtain ⟨rfl, rfl⟩ := announces.unique again
    exact ⟨message, chosen, rfl⟩
  silent never := absurd announces (never event author)

theorem Settles.of_post (post : IsPost request) (available : answer.status ≠ 503)
    (named : ∀ event, Posts request event → event.kind = "page_create" → answer.status = 200 →
      ∃ author, event.actor = some author)
    (never : ∀ event author, ¬Announces request event author) : Settles server request answer [] where
  available := available
  healthy health := absurd health post.ne_health
  named := named
  announced event author announces := absurd announces (never event author)
  silent _ := rfl

theorem Settles.of_other (other : ¬IsPost request) (available : answer.status ≠ 503)
    (healthy : Route.ofTarget? request.target = some .health → request.method = "GET" →
      answer = healthyAnswer) : Settles server request answer [] where
  available := available
  healthy := healthy
  named _ posts := absurd posts.toIsPost other
  announced _ _ announces := absurd announces.toIsPost other
  silent _ := rfl

/-- Where somebody reads the queue, an answered request leaves it as it was with at most one announcement
behind it, and the answer tells which. -/
theorem exists_settles {σ : Type} [Chance σ] {source last : σ} {queue next : Queue}
    (reading : queue.receiver = .open) (bounded : queue.waiting.length ≤ Queue.capacity)
    (ran : Webhook.respond server.resources.announcements server.notify.channelId request queue source =
      ((.answered answer, next), last)) :
    ∃ queued, next = { queue with waiting := queue.waiting ++ queued } ∧
      next.waiting.length ≤ Queue.capacity ∧ Settles server request answer queued := by
  obtain ⟨outcome, behind, _, found, handled⟩ := Webhook.respond_handled
    server.resources.announcements server.notify.channelId request queue source
  rw [ran] at found
  cases found
  have same : queue = { queue with waiting := queue.waiting ++ [] } := by rw [List.append_nil]
  generalize shown : Webhook.Outcome.answered answer = outcome at handled
  cases handled with
  | @queued event author message announces _ room chosen =>
    cases shown
    refine ⟨_, rfl, ?_, .of_announces announces chosen (by decide)⟩
    rw [List.length_append, List.length_singleton]
    exact room
  | waits => cases shown
  | unheard _ deaf => exact absurd reading deaf
  | nameless posts created nobody =>
    cases shown
    refine ⟨[], same, bounded, .of_post posts.toIsPost (by decide) ?_ ?_⟩
    · intro event _ _ success
      cases success
    · intro event author announces
      obtain rfl := posts.unique announces.toPosts
      cases nobody.symm.trans announces.named
  | ignored posts other =>
    cases shown
    refine ⟨[], same, bounded, .of_post posts.toIsPost (by decide) ?_ ?_⟩
    · intro event again created
      obtain rfl := posts.unique again
      exact absurd created other
    · intro event author announces
      obtain rfl := posts.unique announces.toPosts
      exact absurd announces.created other
  | unread post unread fault =>
    cases shown
    refine ⟨[], same, bounded, .of_post post (fun down => ?_) ?_ ?_⟩
    · rw [down] at fault
      exact absurd fault.2 (by decide)
    · intro event posts
      exact absurd posts (unread event)
    · intro event author announces
      exact unread event announces.toPosts
  | health path =>
    rw [Webhook.healthAnswer_of_open reading] at shown
    obtain ⟨given, read, known⟩ := Webhook.readOnly_eq_answered request.method healthyAnswer
    obtain rfl : answer = given := Webhook.Outcome.answered.inj (shown.trans read)
    refine ⟨[], same, bounded, .of_other (fun post => post.ne_health path) (fun down => ?_) ?_⟩
    · rw [down] at known
      exact absurd known (by decide)
    · intro _ method
      rw [Webhook.readOnly, if_pos method] at read
      exact (Webhook.Outcome.answered.inj read).symm
  | elsewhere path other available =>
    cases shown
    exact ⟨[], same, bounded, .of_other other available (fun health => absurd health path)⟩

/-- What the progress of a handler tells about the notifications that it queued; where no handler is,
nobody queued any. -/
inductive Accounts (server : Server) : Option Handler → List Notification → Prop
  | absent : Accounts server none []
  | working {request : Webhook.Request} : Accounts server (some ⟨request, .working⟩) []
  | settled {handler : Handler} {answer : Webhook.Answer} {queued : List Notification}
      (given : handler.progress.answer? = some answer)
      (settles : Settles server handler.request answer queued) : Accounts server (some handler) queued
  | unsettled {request : Webhook.Request} : Accounts server (some ⟨request, .abandoned⟩) []
  | unsent {request : Webhook.Request} {answer : Webhook.Answer} {queued : List Notification}
      (settles : Settles server request answer queued) :
      Accounts server (some ⟨request, .abandoned⟩) queued

section

variable {queued : List Notification} {handler : Handler}

theorem Accounts.eq_nil_of_absent (accounts : Accounts server none queued) : queued = [] := by
  cases accounts
  rfl

theorem Accounts.eq_nil_of_working (accounts : Accounts server (some ⟨request, .working⟩) queued) :
    queued = [] := by
  cases accounts with
  | working => rfl
  | settled given => cases given

theorem Accounts.settles (accounts : Accounts server (some handler) queued)
    (given : handler.progress.answer? = some answer) :
    Settles server handler.request answer queued := by
  cases accounts with
  | working => cases given
  | settled found settles =>
    cases given.symm.trans found
    exact settles
  | unsettled => cases given
  | unsent => cases given

/-- A handler that is given up may have queued its announcement before. -/
theorem Accounts.abandon (accounts : Accounts server (some handler) queued) :
    Accounts server (some { handler with progress := .abandoned }) queued := by
  cases accounts with
  | working => exact .unsettled
  | settled _ settles => exact .unsent settles
  | unsettled => exact .unsettled
  | unsent settles => exact .unsent settles

theorem Settles.length_le_one (settles : Settles server request answer queued) :
    queued.length ≤ 1 := by
  by_cases announcing : ∃ event author, Announces request event author
  · obtain ⟨event, author, announces⟩ := announcing
    obtain ⟨message, _, rfl⟩ := settles.announced event author announces
    exact Nat.le_refl 1
  · have nothing := settles.silent fun event author announces => announcing ⟨event, author, announces⟩
    rw [nothing]
    exact Nat.zero_le 1

theorem Accounts.length_le_one {handler? : Option Handler}
    (accounts : Accounts server handler? queued) : queued.length ≤ 1 := by
  cases accounts with
  | absent | working | unsettled => exact Nat.zero_le 1
  | settled _ settles => exact settles.length_le_one
  | unsent settles => exact settles.length_le_one

end

/-- What holds after every step, given what was queued and what was attempted so far. -/
structure Consistent (server : Server) (queued : List (Nat × Notification))
    (attempts : List Notification) (state : State) : Prop where
  conserved : queued.map Prod.snd = attempts ++ state.relay.current ++ state.queue.waiting
  bounded : state.queue.waiting.length ≤ Queue.capacity
  reading : state.relay ≠ .stopped → state.queue.receiver = .open
  closed : state.phase = .closed → ∀ handler ∈ state.handlers, handler.progress.isFinished = true
  stopped : state.relay = .stopped → state.phase = .closed ∧ state.queue.waiting = []
  accounted : ∀ place, Accounts server state.handlers[place]? (queuedBy place queued)

namespace Consistent

variable {queued : List (Nat × Notification)} {attempts : List Notification} {state : State}

theorem start (server : Server) (network : Http.Network) :
    Consistent server [] [] { network } where
  conserved := rfl
  bounded := Nat.zero_le _
  reading _ := rfl
  closed closed := nomatch closed
  stopped stopped := nomatch stopped
  accounted _ := .absent

/-- While a handler is at work, the server is not closed. -/
theorem phase_ne_closed (consistent : Consistent server queued attempts state) {place : Nat}
    {handler : Handler} (present : state.handlers[place]? = some handler)
    (unfinished : handler.progress.isFinished = false) : state.phase ≠ .closed := by
  intro closed
  have finished := consistent.closed closed handler (List.mem_of_getElem? present)
  rw [unfinished] at finished
  cases finished

theorem relay_ne_stopped (consistent : Consistent server queued attempts state)
    (alive : state.phase ≠ .closed) : state.relay ≠ .stopped :=
  fun stopped => alive (consistent.stopped stopped).1

/-- While the server is not closed, the relay reads the queue. -/
theorem receiver_open (consistent : Consistent server queued attempts state)
    (alive : state.phase ≠ .closed) : state.queue.receiver = .open :=
  consistent.reading (consistent.relay_ne_stopped alive)

/-- A new handler has queued nothing. -/
theorem arrive (consistent : Consistent server queued attempts state)
    (listening : state.phase ≠ .closed) : Consistent server queued attempts
      { state with handlers := state.handlers ++ [{ request }] } :=
  { consistent with
    closed := fun closed => absurd closed listening
    accounted := fun place => by
      have accounts := consistent.accounted place
      by_cases known : place < state.handlers.length
      · rw [List.getElem?_append_left known]
        exact accounts
      · have unknown : state.handlers.length ≤ place := Nat.le_of_not_lt known
        rw [List.getElem?_eq_none unknown] at accounts
        rw [accounts.eq_nil_of_absent, List.getElem?_append_right unknown]
        cases place - state.handlers.length with
        | zero => exact .working
        | succ => exact .absent }

/-- The step of a handler leaves the accounts of all others as they are. -/
theorem accounted_set (consistent : Consistent server queued attempts state) {place : Nat}
    {handler next : Handler} (present : state.handlers[place]? = some handler)
    (more : List Notification) (accounts : Accounts server (some next) (queuedBy place queued ++ more))
    (other : Nat) : Accounts server (state.handlers.set place next)[other]?
      (queuedBy other (queued ++ more.map (place, ·))) := by
  by_cases same : other = place
  · obtain ⟨known, -⟩ := List.getElem?_eq_some_iff.mp present
    rw [same, List.getElem?_set_self known, queuedBy_append_self]
    exact accounts
  · rw [List.getElem?_set_ne (Ne.symm same), queuedBy_append_other same]
    exact consistent.accounted other

/-- The step of a handler that queues nothing leaves the queue and the relay as they are. -/
theorem advance (consistent : Consistent server queued attempts state) {place : Nat}
    {handler next : Handler} (present : state.handlers[place]? = some handler)
    (unfinished : handler.progress.isFinished = false)
    (accounts : Accounts server (some next) (queuedBy place queued)) :
    Consistent server queued attempts
      { state with handlers := state.handlers.set place next } :=
  { consistent with
    closed := fun closed => absurd closed (consistent.phase_ne_closed present unfinished)
    accounted := fun other => by
      have accounted := consistent.accounted_set present [] (by rwa [List.append_nil]) other
      rwa [List.map_nil, List.append_nil] at accounted }

/-- A handler that does its work queues at most one notification. -/
theorem handle {σ : Type} [Chance σ] {source last : σ} {place : Nat} {next : Queue}
    (consistent : Consistent server queued attempts state)
    (working : state.handlers[place]? = some ⟨request, .working⟩)
    (ran : Webhook.respond server.resources.announcements server.notify.channelId request
      state.queue source = ((.answered answer, next), last)) :
    Consistent server
      (queued ++ (next.waiting.drop state.queue.waiting.length).map (place, ·)) attempts
      { state with handlers := state.handlers.set place ⟨request, .replying answer⟩, queue := next } := by
  have alive := consistent.phase_ne_closed working rfl
  have reading := consistent.receiver_open alive
  obtain ⟨more, rfl, bounded, settles⟩ := exists_settles reading consistent.bounded ran
  have nothing : queuedBy place queued = [] := by
    have accounts := consistent.accounted place
    rw [working] at accounts
    exact accounts.eq_nil_of_working
  have accounts : Accounts server (some ⟨request, .replying answer⟩)
      (queuedBy place queued ++ more) := by
    rw [nothing]
    exact .settled rfl settles
  rw [List.drop_left]
  exact { consistent with
    conserved := by
      rw [List.map_append, consistent.conserved, map_snd_map_pair, List.append_assoc]
    bounded
    reading := fun _ => reading
    closed := fun closed => absurd closed alive
    stopped := fun stopped => absurd stopped (consistent.relay_ne_stopped alive)
    accounted := consistent.accounted_set working more accounts }

/-- The oldest notification moves from the queue to the relay. -/
theorem take {notification : Notification} {next : Queue}
    (consistent : Consistent server queued attempts state) (idle : state.relay = .waiting)
    (read : state.queue.pop = (.notification notification, next)) :
    Consistent server queued attempts
      { state with queue := next, relay := .delivering notification } := by
  obtain ⟨_, rest, waiting, rfl⟩ := Queue.pop_eq_notification_iff.mp read
  have running : state.relay ≠ .stopped := by
    rw [idle]
    exact nofun
  have conserved := consistent.conserved
  rw [idle, waiting] at conserved
  have bounded := consistent.bounded
  rw [waiting, List.length_cons] at bounded
  exact { consistent with
    conserved := by
      rw [conserved, Activity.current, Activity.current, List.append_nil, List.append_assoc,
        List.singleton_append]
    bounded := Nat.le_of_succ_le bounded
    reading := fun _ => consistent.reading running
    stopped := nofun }

/-- The notification in progress becomes the last one attempted. -/
theorem attempt {notification : Notification} (consistent : Consistent server queued attempts state)
    (busy : state.relay = .delivering notification) (after : Http.Network) :
    Consistent server queued (attempts ++ [notification])
      { state with relay := .waiting, network := after } := by
  have running : state.relay ≠ .stopped := by
    rw [busy]
    exact nofun
  have conserved := consistent.conserved
  rw [busy] at conserved
  exact { consistent with
    conserved := by
      rw [conserved, Activity.current, Activity.current, List.append_nil]
    reading := fun _ => consistent.reading running
    stopped := nofun }

/-- The server enters another phase, closed only after its handlers. -/
theorem enter (consistent : Consistent server queued attempts state)
    (alive : state.phase ≠ .closed) (phase : Phase) (finished : phase = .closed →
      ∀ handler ∈ state.handlers, handler.progress.isFinished = true) :
    Consistent server queued attempts { state with phase } :=
  { consistent with
    closed := finished
    stopped := fun stopped => absurd stopped (consistent.relay_ne_stopped alive) }

/-- The relay stops and drops an empty queue. -/
theorem stop (consistent : Consistent server queued attempts state)
    (idle : state.relay = .waiting) (read : state.queue.pop = (.empty, state.queue))
    (silent : ¬state.HasSender) : Consistent server queued attempts
      { state with relay := .stopped, queue := state.queue.abandon } := by
  obtain ⟨_, drained, -⟩ := Queue.pop_eq_empty_iff.mp read
  have conserved := consistent.conserved
  rw [idle, drained] at conserved
  have closed : state.phase = .closed := (State.not_hasSender_iff.mp silent).1
  exact { consistent with
    conserved
    bounded := Nat.zero_le _
    reading := fun running => absurd rfl running
    stopped := fun _ => ⟨closed, rfl⟩ }

/-- What neither queues nor attempts anything adds nothing to what was queued or attempted. -/
theorem of_quiet {event : Event} (consistent : Consistent server queued attempts state)
    (queues : event.queued = []) (attempted : event.attempted? = none) :
    Consistent server (queued ++ event.queued) (attempts ++ event.attempted?.toList)
      state := by
  rw [queues, attempted, Option.toList_none, List.append_nil, List.append_nil]
  exact consistent

/-- Every step keeps the invariant. -/
theorem step [AddressRules] (consistent : Consistent server queued attempts state) {event : Event}
    {next : State} (step : Step server state event next) :
    Consistent server (queued ++ event.queued) (attempts ++ event.attempted?.toList) next := by
  cases step with
  | arrive listening => exact (consistent.arrive listening).of_quiet rfl rfl
  | handle working ran =>
    have next := consistent.handle working ran
    rw [← List.append_nil attempts] at next
    exact next
  | @answer place request answer replying =>
    have accounts := consistent.accounted place
    rw [replying] at accounts
    have settled : Accounts server (some ⟨request, .answered answer⟩) (queuedBy place queued) :=
      .settled rfl (accounts.settles rfl)
    exact (consistent.advance replying rfl settled).of_quiet rfl rfl
  | @abandon place _ present unfinished =>
    have accounts := consistent.accounted place
    rw [present] at accounts
    exact (consistent.advance present unfinished accounts.abandon).of_quiet rfl rfl
  | take idle read => exact (consistent.take idle read).of_quiet rfl rfl
  | @attempt _ _ after busy _ =>
    have next := consistent.attempt busy after
    rw [← List.append_nil queued] at next
    exact next
  | shutdown serving =>
    have alive : state.phase ≠ .closed := by
      rw [serving]
      exact nofun
    exact (consistent.enter alive .closing nofun).of_quiet rfl rfl
  | close closing finished =>
    have alive : state.phase ≠ .closed := by
      rw [closing]
      exact nofun
    exact (consistent.enter alive .closed fun _ => finished).of_quiet rfl rfl
  | stop idle read silent => exact (consistent.stop idle read silent).of_quiet rfl rfl

end Consistent

section

variable [AddressRules] {state next : State} {event : Event} {events : List Event}

theorem Run.consistent (run : Run server network events state) :
    Consistent server (queuedIn events) (attemptsIn events) state := by
  induction run with
  | start => exact .start server network
  | step _ step ih =>
    rw [queuedIn_concat, attemptsIn_concat]
    exact ih.step step

/-- Only an attempted delivery touches the network. -/
theorem Step.network_eq_or_deliver (step : Step server state event next) :
    event.attempted? = none ∧ event.result? = none ∧ next.network = state.network ∨
      ∃ notification result, event = .attempted notification result ∧
        Relay.deliver server.notify notification state.network = (result, next.network) := by
  cases step with
  | attempt _ ran => exact .inr ⟨_, _, rfl, ran⟩
  | _ => exact .inl ⟨rfl, rfl, rfl⟩

/-- What has arrived from a run, and what came of its deliveries, is what the attempted deliveries make of
the script. -/
theorem Run.network_eq {reactions : List Reaction} {sent : List Request}
    (run : Run server ⟨.script reactions, sent⟩ events state) :
    state.network =
        ⟨.script (remaining (deliveryAttempts server.notify (attemptsIn events)) reactions),
          sent ++ requests (deliveryAttempts server.notify (attemptsIn events)) reactions⟩ ∧
      resultsIn events = Relay.results server.notify (attemptsIn events) reactions := by
  induction run with
  | start =>
    have nothing : deliveryAttempts server.notify [] = [] := by
      rw [deliveryAttempts]
      cases server.notify.webhookUrl <;> rfl
    have noResults : Relay.results server.notify [] reactions = [] := by
      rw [Relay.results, nothing]
      exact ite_self []
    exact ⟨by rw [attemptsIn, List.filterMap_nil, nothing, requests, List.append_nil, remaining],
      noResults.symm⟩
  | @step events event state next _ step ih =>
    obtain ⟨before, results⟩ := ih
    rw [attemptsIn_concat, resultsIn_concat]
    obtain ⟨attempted, result, same⟩ | ⟨notification, result, rfl, ran⟩ := step.network_eq_or_deliver
    · rw [attempted, result, same, Option.toList_none, Option.toList_none, List.append_nil,
        List.append_nil]
      exact ⟨before, results⟩
    · obtain ⟨outcome, came, delivered⟩ := Relay.deliver_concat server.notify
        (attemptsIn events) notification reactions sent
      rw [before, delivered] at ran
      obtain ⟨rfl, after⟩ := Prod.mk.inj ran
      exact ⟨after.symm, (congrArg (· ++ [outcome]) results).trans came.symm⟩

/-- Whom no request reaches gets nothing in a run. -/
theorem Run.network_eq_nobody {sent : List Request} (run : Run server ⟨.nobody, sent⟩ events state) :
    state.network = ⟨.nobody, sent⟩ := by
  induction run with
  | start => rfl
  | step _ step ih =>
    obtain ⟨-, -, same⟩ | ⟨notification, result, -, ran⟩ := step.network_eq_or_deliver
    · exact same.trans ih
    · rw [ih] at ran
      have delivered := congrArg Prod.snd ran
      rw [Relay.deliver_nobody] at delivered
      exact delivered.symm

/-- However handlers, relay and shutdown take turns and whatever becomes of the deliveries: what was queued
is what was attempted, what is being delivered and what waits, in this order, and at most 64 notifications
wait. No handler queues twice, and one that answers a new page with success queued its announcement before
it answered. Until the server is closed it is healthy and turns no post away. The relay stops only after
the last sender and with nothing left, so that in the end exactly what was queued was attempted. An attempt
is a post to the webhook: against a script what has arrived are the posts of the attempts in order, one for
each as long as the webhook can be used and sends nobody on, and the results are what the script makes of
them. To a webhook at a plain address the posts go as they are written. -/
theorem run_relays_in_order {server : Server} {network : Http.Network} (run :
    Run server network events state) :
    (queuedIn events).map Prod.snd =
        attemptsIn events ++ state.relay.current ++ state.queue.waiting ∧
      state.queue.waiting.length ≤ 64 ∧
      (∀ place, (queuedBy place (queuedIn events)).length ≤ 1) ∧
      (∀ place handler answer, state.handlers[place]? = some handler →
        handler.progress.answer? = some answer →
        answer.status ≠ 503 ∧
        (Route.ofTarget? handler.request.target = some .health → handler.request.method = "GET" →
          answer = healthyAnswer) ∧
        ∀ event, Posts handler.request event → event.kind = "page_create" → answer.status = 200 →
          ∃ author, event.actor = some author ∧
            ∃ message ∈ server.resources.announcements.messages,
              queuedBy place (queuedIn events) =
                [announcement server.notify.channelId message author event.url]) ∧
      (state.phase ≠ .closed → Webhook.healthAnswer state.queue = healthyAnswer) ∧
      (state.relay = .stopped → ¬state.HasSender ∧ state.queue.waiting = [] ∧
        attemptsIn events = (queuedIn events).map Prod.snd) ∧
      (∀ sent, network = ⟨.nobody, sent⟩ → state.network = ⟨.nobody, sent⟩) ∧
      ∀ reactions sent, network = ⟨.script reactions, sent⟩ →
        let posts := deliveryAttempts server.notify (attemptsIn events)
        state.network = ⟨.script (remaining posts reactions), sent ++ requests posts reactions⟩ ∧
        resultsIn events = Relay.results server.notify (attemptsIn events) reactions ∧
        Http.ArriveInTurn reactions posts (requests posts reactions) ∧
        (Direct reactions → ∀ address url, server.notify.webhookUrl = some address →
          Http.Url.parse? address = some url → url.render.length ≤ 65534 →
          requests posts reactions = (attemptsIn events).map fun notification => {
            method := .post, url := url.render, contentType := some "application/json"
            body := some (.object [("content", .string notification.content)]) }) := by
  have consistent := run.consistent
  refine ⟨consistent.conserved, consistent.bounded, ?_, ?_, ?_, ?_, ?_, ?_⟩
  · intro place
    exact (consistent.accounted place).length_le_one
  · intro place handler answer present given
    have accounts := consistent.accounted place
    rw [present] at accounts
    have settles := accounts.settles given
    refine ⟨settles.available, settles.healthy, ?_⟩
    intro event posts created success
    obtain ⟨author, named⟩ := settles.named event posts created success
    exact ⟨author, named, settles.announced event author ⟨posts, created, named⟩⟩
  · intro alive
    exact Webhook.healthAnswer_of_open (consistent.receiver_open alive)
  · intro stopped
    obtain ⟨closed, drained⟩ := consistent.stopped stopped
    have conserved := consistent.conserved
    rw [stopped, drained, Activity.current, List.append_nil, List.append_nil] at conserved
    have silent : ¬state.HasSender := State.not_hasSender_iff.mpr ⟨closed, consistent.closed closed⟩
    exact ⟨silent, drained, conserved.symm⟩
  · rintro sent rfl
    exact run.network_eq_nobody
  · rintro reactions sent rfl
    obtain ⟨after, came⟩ := run.network_eq
    exact ⟨after, came, Http.arriveInTurn_requests _ reactions, fun direct address url configured usable short =>
      Relay.requests_deliveryAttempts direct configured usable short (attemptsIn events)⟩

end

/-- Shutdown is asked for before Sasha's page is announced, and the webhook fails: the relay posts the
announcement nevertheless, after the router is gone, and stops. -/
theorem run_relays_after_shutdown :
    let _ : AddressRules := .plain
    let server : Server := {
      resources := {
        phrases := ⟨["Yes!"], ["Ouch."], by decide, by decide⟩
        songs := {}
        forecasts := ⟨["Rain."], by decide⟩
        announcements := ⟨["First!"], by decide⟩ }
      notify := { webhookUrl := some "https://chat/hook", channelId := 1234 } }
    let failing : Reaction := .answer { status := 500, body := [] }
    ∃ events state, Run server ⟨.script [failing], []⟩ events state ∧ state.relay = .stopped ∧
      .shutdown ∈ events ∧ attemptsIn events = [⟨1234, "First! It's author is **Sasha**!"⟩] ∧
      resultsIn events = [.error (.status 500)] ∧ state.network.sent = [{
        method := .post, url := "https://chat/hook", contentType := some "application/json"
        body := some (.object [("content", .string "First! It's author is **Sasha**!")]) }] := by
  intro rules server failing
  let request : Webhook.Request := {
    method := "POST", target := "/webhooks/new_post", contentType := some "application/json"
    body := Text.Utf8.encode
      "\x7b\"event\":\"page_create\",\"triggered_by\":\x7b\"name\":\"Sasha\"\x7d\x7d".toList }
  let notification : Notification := ⟨1234, "First! It's author is **Sasha**!"⟩
  have failed : Relay.results server.notify [notification] [failing] = [.error (.status 500)] := by
    decide +kernel +revert
  have direct : Direct [failing] := by
    intro response member
    rw [Reaction.answer.inj (List.mem_singleton.mp member)]
  have usable : Http.Url.parse? "https://chat/hook" =
      some ⟨.https, "chat".toList, none, "/hook".toList, none⟩ := by rfl
  have announces : Announces request ⟨"page_create", none, some "Sasha"⟩ "Sasha" := by
    refine ⟨⟨⟨?_, rfl⟩, ?_, ?_, ?_⟩, rfl, rfl⟩
    · decide +kernel +revert
    · decide +kernel +revert
    · decide +kernel +revert
    · decide +kernel +revert
  obtain ⟨message, chosen, last, ran⟩ := Webhook.respond_of_announces announces
    server.resources.announcements 1234 {} ({ faces := [], picks := [] } : Script)
  obtain rfl : message = "First!" := by simpa [server] using chosen
  let before : Http.Network := ⟨.script [failing], []⟩
  rcases delivered : Relay.deliver server.notify notification before with ⟨result, after⟩
  let moment (phase : Phase) (progress : Progress) (waiting : List Notification) (relay : Activity)
      (network : Http.Network) : State := ⟨phase, [⟨request, progress⟩], { waiting }, relay, network⟩
  have arrived : Run server before [.arrived request] (moment .serving .working [] .waiting before) :=
    .step .start (.arrive (by decide))
  have asked : Step server (moment .serving .working [] .waiting before) .shutdown
      (moment .closing .working [] .waiting before) := .shutdown rfl
  have handled : Step server (moment .closing .working [] .waiting before)
      (.handled 0 [notification])
      (moment .closing (.replying Webhook.received) [notification] .waiting before) :=
    @Step.handle rules server _ 0 request Webhook.received { waiting := [notification] } Script _ _
      last rfl ran
  have answered : Step server
      (moment .closing (.replying Webhook.received) [notification] .waiting before) (.answered 0)
      (moment .closing (.answered Webhook.received) [notification] .waiting before) := .answer rfl
  have finished : ∀ handler ∈ [(⟨request, .answered Webhook.received⟩ : Handler)],
      handler.progress.isFinished = true := by
    intro handler present
    rw [List.mem_singleton.mp present]
    rfl
  have closed : Step server
      (moment .closing (.answered Webhook.received) [notification] .waiting before) .closed
      (moment .closed (.answered Webhook.received) [notification] .waiting before) :=
    .close rfl finished
  have taken : Step server
      (moment .closed (.answered Webhook.received) [notification] .waiting before) .taken
      (moment .closed (.answered Webhook.received) [] (.delivering notification) before) :=
    .take rfl rfl
  have attempted : Step server
      (moment .closed (.answered Webhook.received) [] (.delivering notification) before)
      (.attempted notification result)
      (moment .closed (.answered Webhook.received) [] .waiting after) := .attempt rfl delivered
  have silent : ¬(moment .closed (.answered Webhook.received) [] .waiting after).HasSender :=
    State.not_hasSender_iff.mpr ⟨rfl, finished⟩
  have run := ((((((arrived.step asked).step handled).step answered).step closed).step taken).step
    attempted).step (.stop rfl rfl silent)
  obtain ⟨_, _, _, _, _, ended, _, posted⟩ := run_relays_in_order run
  obtain ⟨network, came, -, alone⟩ := posted [failing] [] rfl
  have arrivals := alone direct _ _ rfl usable (by decide)
  have sent := congrArg Http.Network.sent network
  exact ⟨_, _, run, rfl, by simp, (ended rfl).2.2, came.trans failed, sent.trans arrivals⟩

end TabletopBot.Server
