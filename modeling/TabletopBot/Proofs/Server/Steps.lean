import TabletopBot.Server

/-! # The server at work

Handlers and the relay take turns in any order. A handler puts its notification into the queue when there
is room and answers afterwards; the relay takes one notification at a time and attempts its delivery. When
shutdown is asked for, the server waits for its handlers and lets go of the queue, and the relay stops
once nobody can send and nothing is left to read. Each step is an event, and a run is a list of events.
-/

namespace TabletopBot.Server

/-- How far the server is. A connection that is open may bring a request until the server is closed. -/
inductive Phase where
  | serving
  | closing
  | closed
deriving DecidableEq, Repr

/-- How far a handler is with its request. -/
inductive Progress where
  | working
  /-- The answer is settled but has not left. -/
  | replying (answer : Webhook.Answer)
  | answered (answer : Webhook.Answer)
  /-- The connection broke before the answer left. -/
  | abandoned
deriving DecidableEq, Repr

namespace Progress

def isFinished : Progress → Bool
  | .working => false
  | .replying _ => false
  | .answered _ => true
  | .abandoned => true

def answer? : Progress → Option Webhook.Answer
  | .working => none
  | .replying answer => some answer
  | .answered answer => some answer
  | .abandoned => none

end Progress

/-- A handler and the request it deals with. -/
structure Handler where
  request : Webhook.Request
  progress : Progress := .working
deriving DecidableEq, Repr

/-- What the relay does. -/
inductive Activity where
  | waiting
  | delivering (notification : Notification)
  | stopped
deriving DecidableEq, Repr

/-- The notification whose delivery is in progress. -/
def Activity.current : Activity → List Notification
  | .waiting => []
  | .delivering notification => [notification]
  | .stopped => []

/-- The server at one moment; the handlers are listed as they started. -/
structure State where
  phase : Phase := .serving
  handlers : List Handler := []
  queue : Webhook.Queue := {}
  relay : Activity := .waiting
  network : Http.Network

/-- Somebody holds a sender: the router while the server is not closed, or a handler. -/
def State.HasSender (state : State) : Prop :=
  state.phase ≠ .closed ∨ ∃ handler ∈ state.handlers, handler.progress.isFinished = false

theorem State.not_hasSender_iff {state : State} : ¬state.HasSender ↔
    state.phase = .closed ∧ ∀ handler ∈ state.handlers, handler.progress.isFinished = true := by
  simp only [State.HasSender, not_or, ne_eq, Decidable.not_not, not_exists, not_and,
    Bool.not_eq_false]

/-- What happens in one step; handlers go by their place. -/
inductive Event where
  | arrived (request : Webhook.Request)
  | handled (place : Nat) (queued : List Notification)
  | answered (place : Nat)
  | abandoned (place : Nat)
  | taken
  | attempted (notification : Notification) (result : Except DeliveryFault Unit)
  | shutdown
  | closed
  | stopped

/-- One step of the server. A request that would have to wait for room is simply not handled yet: its
message is chosen from a source of its own, so it does not matter when. -/
inductive Step [Http.AddressRules] (server : Server) : State → Event → State → Prop
  /-- A handler starts. -/
  | arrive {state : State} {request : Webhook.Request} (listening : state.phase ≠ .closed) :
      Step server state (.arrived request) { state with handlers := state.handlers ++ [{ request }] }
  /-- A handler does its work up to the answer, which comes after what it put into the queue. -/
  | handle {state : State} {place : Nat} {request : Webhook.Request} {answer : Webhook.Answer}
      {queue : Webhook.Queue} {σ : Type} [Chance σ] {source last : σ}
      (working : state.handlers[place]? = some ⟨request, .working⟩)
      (ran : Webhook.respond server.resources.announcements server.notify.channelId request
        state.queue source = ((.answered answer, queue), last)) :
      Step server state (.handled place (queue.waiting.drop state.queue.waiting.length))
        { state with handlers := state.handlers.set place ⟨request, .replying answer⟩, queue }
  /-- An answer leaves. -/
  | answer {state : State} {place : Nat} {request : Webhook.Request} {answer : Webhook.Answer}
      (replying : state.handlers[place]? = some ⟨request, .replying answer⟩) :
      Step server state (.answered place)
        { state with handlers := state.handlers.set place ⟨request, .answered answer⟩ }
  /-- A handler is given up, be it while it waits for room. -/
  | abandon {state : State} {place : Nat} {handler : Handler}
      (present : state.handlers[place]? = some handler)
      (unfinished : handler.progress.isFinished = false) :
      Step server state (.abandoned place)
        { state with handlers := state.handlers.set place { handler with progress := .abandoned } }
  /-- The relay takes the oldest notification. -/
  | take {state : State} {notification : Notification} {queue : Webhook.Queue}
      (idle : state.relay = .waiting) (read : state.queue.pop = (.notification notification, queue)) :
      Step server state .taken { state with queue, relay := .delivering notification }
  /-- The relay attempts the delivery and goes on whatever the result is. -/
  | attempt {state : State} {notification : Notification} {result : Except DeliveryFault Unit}
      {network : Http.Network} (busy : state.relay = .delivering notification)
      (ran : Relay.deliver server.notify notification state.network = (result, network)) :
      Step server state (.attempted notification result) { state with relay := .waiting, network }
  /-- Somebody asks for shutdown. -/
  | shutdown {state : State} (serving : state.phase = .serving) :
      Step server state .shutdown { state with phase := .closing }
  /-- The router is dropped, after the last handler. -/
  | close {state : State} (closing : state.phase = .closing)
      (finished : ∀ handler ∈ state.handlers, handler.progress.isFinished = true) :
      Step server state .closed { state with phase := .closed }
  /-- The relay finds nothing to read and nobody who could still send. -/
  | stop {state : State} (idle : state.relay = .waiting)
      (read : state.queue.pop = (.empty, state.queue)) (silent : ¬state.HasSender) :
      Step server state .stopped { state with relay := .stopped, queue := state.queue.abandon }

/-- Everything that happens from the start of the server up to a state. -/
inductive Run [Http.AddressRules] (server : Server) (network : Http.Network) : List Event → State → Prop
  | start : Run server network [] { network }
  | step {events : List Event} {event : Event} {state next : State}
      (run : Run server network events state) (step : Step server state event next) :
      Run server network (events ++ [event]) next

/-- What an event put into the queue, each notification with the place of its handler. -/
def Event.queued : Event → List (Nat × Notification)
  | .handled place queued => queued.map (place, ·)
  | _ => []

/-- The notification whose delivery an event attempted. -/
def Event.attempted? : Event → Option Notification
  | .attempted notification _ => some notification
  | _ => none

/-- What came of the delivery that an event attempted. -/
def Event.result? : Event → Option (Except DeliveryFault Unit)
  | .attempted _ result => some result
  | _ => none

/-- What was put into the queue, in order. -/
def queuedIn (events : List Event) : List (Nat × Notification) := events.flatMap Event.queued

/-- The notifications whose delivery was attempted, in order. -/
def attemptsIn (events : List Event) : List Notification := events.filterMap Event.attempted?

/-- What came of these attempts. -/
def resultsIn (events : List Event) : List (Except DeliveryFault Unit) :=
  events.filterMap Event.result?

/-- What the handler at a place put into the queue, out of what everybody put into it. -/
def queuedBy (place : Nat) (entries : List (Nat × Notification)) : List Notification :=
  (entries.filter fun entry => entry.1 = place).map Prod.snd

theorem queuedIn_concat (events : List Event) (event : Event) :
    queuedIn (events ++ [event]) = queuedIn events ++ event.queued := by
  rw [queuedIn, List.flatMap_append, List.flatMap_singleton, queuedIn]

theorem attemptsIn_concat (events : List Event) (event : Event) :
    attemptsIn (events ++ [event]) = attemptsIn events ++ event.attempted?.toList := by
  rw [attemptsIn, attemptsIn, List.filterMap_append]
  cases event <;> rfl

theorem resultsIn_concat (events : List Event) (event : Event) :
    resultsIn (events ++ [event]) = resultsIn events ++ event.result?.toList := by
  rw [resultsIn, resultsIn, List.filterMap_append]
  cases event <;> rfl

theorem map_snd_map_pair (place : Nat) (queued : List Notification) :
    (queued.map (place, ·)).map Prod.snd = queued := by
  rw [List.map_map]
  exact List.map_id queued

/-- A handler's own notifications come behind those it queued before. -/
theorem queuedBy_append_self (place : Nat) (entries : List (Nat × Notification))
    (queued : List Notification) :
    queuedBy place (entries ++ queued.map (place, ·)) = queuedBy place entries ++ queued := by
  have all : (queued.map (place, ·)).filter (fun entry => entry.1 = place) =
      queued.map (place, ·) := by
    rw [List.filter_eq_self]
    simp
  rw [queuedBy, List.filter_append, List.map_append, all, map_snd_map_pair, queuedBy]

/-- What one handler queues is not counted for another. -/
theorem queuedBy_append_other {place other : Nat} (differs : other ≠ place)
    (entries : List (Nat × Notification)) (queued : List Notification) :
    queuedBy other (entries ++ queued.map (place, ·)) = queuedBy other entries := by
  have nothing : (queued.map (place, ·)).filter (fun entry => entry.1 = other) = [] := by
    rw [List.filter_eq_nil_iff]
    simp [differs.symm]
  rw [queuedBy, List.filter_append, nothing, List.append_nil, queuedBy]

end TabletopBot.Server
