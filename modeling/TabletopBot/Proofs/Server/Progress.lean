import Mathlib.Logic.Relation
import TabletopBot.Proofs.Server.Delivery

/-! # The server comes to an end

Once shutdown has been asked for, the server can answer every request that it deals with, deliver what
waits and stop, without help from outside: no request has to arrive and no handler to be given up. The
server that answers one request and relays what it announced before the next one arrives takes steps of
the same kind.
-/

namespace TabletopBot.Server

open Http (AddressRules)
open Relation (ReflTransGen)
open Webhook (Queue)

/-- The events that the server brings about by itself. -/
def Event.isInner : Event → Bool
  | .arrived _ => false
  | .abandoned _ => false
  | .shutdown => false
  | _ => true

/-- The server goes on to a state by itself. -/
def Leads [AddressRules] (server : Server) : State → State → Prop :=
  ReflTransGen fun state next => ∃ event, event.isInner = true ∧ Step server state event next

variable [AddressRules] {server : Server} {network : Http.Network} {events : List Event}
  {state next : State}

theorem Step.leads {event : Event} (step : Step server state event next)
    (inner : event.isInner = true) : Leads server state next := .single ⟨event, inner, step⟩

/-- What the server does by itself continues its run. -/
theorem Run.leads (run : Run server network events state) (leads : Leads server state next) :
    ∃ more, (∀ event ∈ more, event.isInner = true) ∧ Run server network (events ++ more) next := by
  induction leads with
  | refl =>
    refine ⟨[], nofun, ?_⟩
    rw [List.append_nil]
    exact run
  | tail _ last ih =>
    obtain ⟨more, inner, run⟩ := ih
    obtain ⟨event, own, step⟩ := last
    refine ⟨more ++ [event], ?_, ?_⟩
    · intro other present
      rcases List.mem_append.mp present with before | now
      · exact inner other before
      · rw [List.mem_singleton.mp now]
        exact own
    · rw [← List.append_assoc]
      exact run.step step

/-- A delivery that is in progress comes to its result. -/
theorem leads_of_delivering (server : Server) (phase : Phase) (handlers : List Handler)
    (queue : Queue) (notification : Notification) (network : Http.Network) :
    Leads server ⟨phase, handlers, queue, .delivering notification, network⟩
      ⟨phase, handlers, queue, .waiting, (Relay.deliver server.notify notification network).2⟩ :=
  Step.leads (.attempt rfl rfl) rfl

/-- A relay that is not busy works off what waits, in order. -/
theorem leads_of_waiting (phase : Phase) (handlers : List Handler) (waiting : List Notification)
    (network : Http.Network) :
    Leads server ⟨phase, handlers, { waiting }, .waiting, network⟩
      ⟨phase, handlers, {}, .waiting, (Relay.run server.notify waiting network).2⟩ := by
  induction waiting generalizing network with
  | nil => exact .refl
  | cons notification rest ih =>
    have taken : Leads server ⟨phase, handlers, { waiting := notification :: rest }, .waiting, network⟩
        ⟨phase, handlers, { waiting := rest }, .delivering notification, network⟩ :=
      Step.leads (.take rfl rfl) rfl
    have attempted := leads_of_delivering server phase handlers { waiting := rest }
      notification network
    exact (taken.trans attempted).trans (ih _)

/-- A relay that runs finishes its delivery and works off what waits. -/
theorem leads_drained (server : Server) (running : state.relay ≠ .stopped)
    (reading : state.queue.receiver = .open) :
    ∃ after, Leads server state ⟨state.phase, state.handlers, {}, .waiting, after⟩ := by
  obtain ⟨phase, handlers, ⟨waiting, receiver⟩, relay, network⟩ := state
  cases reading
  cases relay with
  | waiting => exact ⟨_, leads_of_waiting phase handlers waiting network⟩
  | delivering notification =>
    have attempted := leads_of_delivering server phase handlers { waiting } notification network
    exact ⟨_, attempted.trans (leads_of_waiting phase handlers waiting _)⟩
  | stopped => exact absurd rfl running

omit [AddressRules] in
/-- A request that finds the queue empty and read is answered, and its announcement is all that waits. -/
theorem exists_respond_eq_answered {σ : Type} [Chance σ] (server : Server)
    (request : Webhook.Request) (source : σ) : ∃ answer queued last,
      Webhook.respond server.resources.announcements server.notify.channelId request {} source =
        ((.answered answer, { waiting := queued }), last) := by
  obtain ⟨outcome, queue, last, ran, handled⟩ := Webhook.respond_handled
    server.resources.announcements server.notify.channelId request {} source
  obtain ⟨answer, rfl⟩ := handled.exists_answer fun _ => by decide
  obtain ⟨queued, rfl, -, -⟩ := exists_settles rfl (Nat.zero_le _) ran
  exact ⟨answer, queued, last, ran⟩

/-- A handler queues its announcement and answers, and the relay delivers what was queued. -/
theorem leads_of_respond {σ : Type} [Chance σ] {source last : σ} (phase : Phase)
    {handlers : List Handler} {place : Nat} {request : Webhook.Request} {answer : Webhook.Answer}
    {queued : List Notification} (working : handlers[place]? = some ⟨request, .working⟩)
    (ran : Webhook.respond server.resources.announcements server.notify.channelId request {} source =
      ((.answered answer, { waiting := queued }), last)) (network : Http.Network) :
    Leads server ⟨phase, handlers, {}, .waiting, network⟩
      ⟨phase, handlers.set place ⟨request, .answered answer⟩, {}, .waiting,
        (Relay.run server.notify queued network).2⟩ := by
  obtain ⟨known, -⟩ := List.getElem?_eq_some_iff.mp working
  have handled : Leads server ⟨phase, handlers, {}, .waiting, network⟩
      ⟨phase, handlers.set place ⟨request, .replying answer⟩, { waiting := queued }, .waiting,
        network⟩ := Step.leads (.handle working ran) rfl
  have replying : (handlers.set place ⟨request, .replying answer⟩)[place]? =
      some ⟨request, .replying answer⟩ := List.getElem?_set_self known
  have answered : Leads server
      ⟨phase, handlers.set place ⟨request, .replying answer⟩, { waiting := queued }, .waiting, network⟩
      ⟨phase, (handlers.set place ⟨request, .replying answer⟩).set place ⟨request, .answered answer⟩,
        { waiting := queued }, .waiting, network⟩ := Step.leads (.answer replying) rfl
  rw [List.set_set] at answered
  exact (handled.trans answered).trans (leads_of_waiting phase _ queued network)

/-- Whatever a handler has still to do, it comes to its end, and no other handler is touched. -/
theorem leads_finished_at (server : Server) (phase : Phase) (handlers : List Handler) (place : Nat)
    (network : Http.Network) : ∃ done after,
      Leads server ⟨phase, handlers, {}, .waiting, network⟩ ⟨phase, done, {}, .waiting, after⟩ ∧
      done.length = handlers.length ∧ (∀ other, other ≠ place → done[other]? = handlers[other]?) ∧
      ∀ handler, done[place]? = some handler → handler.progress.isFinished = true := by
  have answered (request : Webhook.Request) (answer : Webhook.Answer) (handler : Handler)
      (present : (handlers.set place ⟨request, .answered answer⟩)[place]? = some handler) :
      handler.progress.isFinished = true := by
    obtain ⟨known, rfl⟩ := List.getElem?_eq_some_iff.mp present
    rw [List.getElem_set_self]
    rfl
  match found : handlers[place]? with
  | some ⟨request, .working⟩ =>
    obtain ⟨answer, queued, last, ran⟩ :=
      exists_respond_eq_answered server request ({ faces := [], picks := [] } : Script)
    exact ⟨_, _, leads_of_respond phase found ran network, List.length_set,
      fun other differs => List.getElem?_set_ne differs.symm, answered request answer⟩
  | some ⟨request, .replying answer⟩ =>
    have leads : Leads server ⟨phase, handlers, {}, .waiting, network⟩
        ⟨phase, handlers.set place ⟨request, .answered answer⟩, {}, .waiting, network⟩ :=
      Step.leads (.answer found) rfl
    exact ⟨_, network, leads, List.length_set, fun other differs => List.getElem?_set_ne differs.symm,
      answered request answer⟩
  | some ⟨request, .answered answer⟩ =>
    refine ⟨handlers, network, .refl, rfl, fun _ _ => rfl, ?_⟩
    intro handler present
    cases found.symm.trans present
    rfl
  | some ⟨request, .abandoned⟩ =>
    refine ⟨handlers, network, .refl, rfl, fun _ _ => rfl, ?_⟩
    intro handler present
    cases found.symm.trans present
    rfl
  | none =>
    refine ⟨handlers, network, .refl, rfl, fun _ _ => rfl, ?_⟩
    intro handler present
    cases found.symm.trans present

/-- One handler after the other comes to its end. -/
theorem leads_finished (server : Server) (phase : Phase) (handlers : List Handler) (network : Http.Network)
    (count : Nat) : ∃ done after,
      Leads server ⟨phase, handlers, {}, .waiting, network⟩ ⟨phase, done, {}, .waiting, after⟩ ∧
      done.length = handlers.length ∧
      ∀ place < count, ∀ handler, done[place]? = some handler → handler.progress.isFinished = true := by
  induction count with
  | zero => exact ⟨handlers, network, .refl, rfl, nofun⟩
  | succ count ih =>
    obtain ⟨done, between, first, length, finished⟩ := ih
    obtain ⟨final, after, second, same, others, last⟩ :=
      leads_finished_at server phase done count between
    refine ⟨final, after, first.trans second, same.trans length, ?_⟩
    intro place bound handler present
    by_cases now : place = count
    · rw [now] at present
      exact last handler present
    · rw [others place now] at present
      exact finished place (by omega) handler present

/-- Once shutdown has been asked for, every run can go on to its end by itself. -/
theorem Run.exists_stopped (run : Run server network events state) (asked : state.phase ≠ .serving) :
    ∃ more last, (∀ event ∈ more, event.isInner = true) ∧
      Run server network (events ++ more) last ∧ last.relay = .stopped := by
  by_cases running : state.relay = .stopped
  · refine ⟨[], state, nofun, ?_, running⟩
    rw [List.append_nil]
    exact run
  · obtain ⟨between, drained⟩ :=
      leads_drained server running (run.consistent.reading running)
    obtain ⟨done, after, finished, length, all⟩ :=
      leads_finished server state.phase state.handlers between state.handlers.length
    have everyone : ∀ handler ∈ done, handler.progress.isFinished = true := by
      intro handler present
      obtain ⟨place, known, rfl⟩ := List.getElem_of_mem present
      exact all place (length ▸ known) _ (List.getElem?_eq_getElem known)
    have closed : Leads server ⟨state.phase, done, {}, .waiting, after⟩
        ⟨.closed, done, {}, .waiting, after⟩ := by
      cases phase : state.phase with
      | serving => exact absurd phase asked
      | closing => exact Step.leads (.close rfl everyone) rfl
      | closed => exact .refl
    have silent : ¬(⟨.closed, done, {}, .waiting, after⟩ : State).HasSender :=
      State.not_hasSender_iff.mpr ⟨rfl, everyone⟩
    have stopped : Leads server ⟨.closed, done, {}, .waiting, after⟩
        ⟨.closed, done, Queue.abandon {}, .stopped, after⟩ := Step.leads (.stop rfl rfl silent) rfl
    obtain ⟨more, inner, ended⟩ :=
      run.leads (((drained.trans finished).trans closed).trans stopped)
    exact ⟨more, _, inner, ended, rfl⟩

/-- Answering a request and relaying what it announced before the next request arrives is one of the
ways in which the steps can follow each other. -/
theorem exists_run_of_handle {σ : Type} [Chance σ] (server : Server) (request : Webhook.Request)
    (surroundings : Surroundings σ) : ∃ answer chance events state,
      server.handle request surroundings = (.answered answer, ⟨chance, state.network⟩) ∧
      Run server surroundings.network events state ∧ state.handlers =
        [⟨{ request with contentType := request.contentType.map headerValue }, .answered answer⟩] ∧
      state.relay = .waiting ∧ state.queue = {} := by
  obtain ⟨source, network⟩ := surroundings
  let arrived := { request with contentType := request.contentType.map headerValue }
  obtain ⟨answer, queued, last, ran⟩ := exists_respond_eq_answered server arrived source
  have started : Run server network [.arrived arrived]
      ⟨.serving, [⟨arrived, .working⟩], {}, .waiting, network⟩ := .step .start (.arrive nofun)
  have working : [(⟨arrived, .working⟩ : Handler)][0]? = some ⟨arrived, .working⟩ := rfl
  obtain ⟨more, _, run⟩ := started.leads (leads_of_respond .serving working ran network)
  exact ⟨answer, last, _, _, handle_of_respond ran network, run, rfl, rfl, rfl⟩

end TabletopBot.Server
