import TabletopBot.Relay

/-! # The notification queue

Notifications wait in a bounded queue between the webhook and the relay. The receiving end can be closed,
which leaves what waits to be read, or be gone altogether.
-/

namespace TabletopBot.Webhook

inductive Receiver where
  | open
  | closed
  | gone
deriving DecidableEq, Repr

/-- The notifications that wait, the oldest first. -/
structure Queue where
  waiting : List Notification := []
  receiver : Receiver := .open
deriving DecidableEq, Repr

namespace Queue

def capacity : Nat := 64

inductive Acceptance where
  | queued (queue : Queue)
  /-- There is no room at the moment. -/
  | full
  /-- Nobody will read it. -/
  | refused
deriving DecidableEq, Repr

def push (queue : Queue) (notification : Notification) : Acceptance :=
  match queue.receiver with
  | .open =>
    if queue.waiting.length < capacity then
      .queued { queue with waiting := queue.waiting ++ [notification] }
    else .full
  | .closed => .refused
  | .gone => .refused

theorem push_eq_queued_iff {queue next : Queue} {notification : Notification} :
    queue.push notification = .queued next ↔
      queue.receiver = .open ∧ queue.waiting.length < capacity ∧
        next = { queue with waiting := queue.waiting ++ [notification] } := by
  unfold push
  cases queue.receiver with
  | «open» =>
    by_cases room : queue.waiting.length < capacity
    · simp [room, eq_comm]
    · simp [room]
  | closed => simp
  | gone => simp

theorem push_eq_full_iff {queue : Queue} {notification : Notification} :
    queue.push notification = .full ↔ queue.receiver = .open ∧ capacity ≤ queue.waiting.length := by
  unfold push
  cases queue.receiver with
  | «open» =>
    by_cases room : queue.waiting.length < capacity
    · simp [room]
    · simp [room, Nat.le_of_not_lt room]
  | closed => simp
  | gone => simp

theorem push_eq_refused_iff {queue : Queue} {notification : Notification} :
    queue.push notification = .refused ↔ queue.receiver ≠ .open := by
  unfold push
  cases queue.receiver with
  | «open» =>
    by_cases room : queue.waiting.length < capacity
    · simp [room]
    · simp [room]
  | closed => simp
  | gone => simp

theorem length_le_capacity_of_push {queue next : Queue} {notification : Notification}
    (queued : queue.push notification = .queued next) : next.waiting.length ≤ capacity := by
  obtain ⟨-, room, rfl⟩ := push_eq_queued_iff.mp queued
  simpa using Nat.succ_le_of_lt room

inductive Finding where
  | notification (notification : Notification)
  | empty
  /-- The receiving end is closed and nothing is left. -/
  | closed
  | gone
deriving DecidableEq, Repr

def pop (queue : Queue) : Finding × Queue :=
  match queue.receiver, queue.waiting with
  | .gone, _ => (.gone, queue)
  | _, notification :: rest => (.notification notification, { queue with waiting := rest })
  | .open, [] => (.empty, queue)
  | .closed, [] => (.closed, queue)

theorem pop_eq_notification_iff {queue next : Queue} {notification : Notification} :
    queue.pop = (.notification notification, next) ↔
      queue.receiver ≠ .gone ∧ ∃ rest, queue.waiting = notification :: rest ∧
        next = { queue with waiting := rest } := by
  obtain ⟨waiting, receiver⟩ := queue
  cases receiver <;> cases waiting <;> simp [pop, eq_comm, and_assoc]

theorem pop_eq_empty_iff {queue next : Queue} :
    queue.pop = (.empty, next) ↔ queue.receiver = .open ∧ queue.waiting = [] ∧ next = queue := by
  obtain ⟨waiting, receiver⟩ := queue
  cases receiver <;> cases waiting <;> simp [pop, eq_comm]

/-- Closes the receiving end; a closed or missing one stays as it is. -/
def close (queue : Queue) : Queue :=
  match queue.receiver with
  | .open => { queue with receiver := .closed }
  | _ => queue

/-- Gives up the receiving end with everything that waits. -/
def abandon (_ : Queue) : Queue := { waiting := [], receiver := .gone }

end Queue

end TabletopBot.Webhook
