import TabletopBot.Chance

/-! # Message pools

A pool holds messages of which one is chosen by chance; it is never empty. A pool that was written down
as keys with messages lists them by ascending key, and of a repeated key the last message counts.
-/

namespace TabletopBot

/-- Messages to choose from, at least one. -/
structure MessagePool where
  messages : List String
  nonempty : 0 < messages.length
deriving DecidableEq, Repr

namespace MessagePool

/-- The pool of a list, unless the list is empty. -/
def ofList? (messages : List String) : Option MessagePool :=
  if nonempty : 0 < messages.length then some ⟨messages, nonempty⟩ else none

theorem ofList?_eq_some_iff {messages : List String} {pool : MessagePool} :
    ofList? messages = some pool ↔ pool.messages = messages := by
  unfold ofList?
  constructor
  · intro made
    split at made
    · cases made
      rfl
    · cases made
  · rintro rfl
    rw [dif_pos pool.nonempty]

def choose {σ : Type} [Chance σ] (pool : MessagePool) : StateM σ String :=
  drawItem pool.messages pool.nonempty

/-- Puts a message under its key into a list ordered by key, in place of the message that was there.
Keys are ordered by their code points, which is also the order of their UTF-8 bytes. -/
def insertEntry (key message : String) : List (String × String) → List (String × String)
  | [] => [(key, message)]
  | (other, present) :: rest =>
    if key < other then (key, message) :: (other, present) :: rest
    else if key = other then (key, message) :: rest
    else (other, present) :: insertEntry key message rest

@[simp] theorem lookup_insertEntry_self (key message : String) (entries : List (String × String)) :
    (insertEntry key message entries).lookup key = some message := by
  induction entries with
  | nil => simp [insertEntry]
  | cons entry rest ih =>
    obtain ⟨other, present⟩ := entry
    rw [insertEntry]
    split
    · simp
    · split
      · simp
      · next differs => simp [List.lookup_cons, beq_false_of_ne differs, ih]

theorem lookup_insertEntry_of_ne {key asked : String} (differs : asked ≠ key) (message : String)
    (entries : List (String × String)) :
    (insertEntry key message entries).lookup asked = entries.lookup asked := by
  induction entries with
  | nil => simp [insertEntry, List.lookup_cons, beq_false_of_ne differs]
  | cons entry rest ih =>
    obtain ⟨other, present⟩ := entry
    rw [insertEntry]
    split
    · simp [List.lookup_cons, beq_false_of_ne differs]
    · split
      · next same =>
        subst same
        simp [List.lookup_cons, beq_false_of_ne differs]
      · simp [List.lookup_cons, ih]

/-- The entries of a pool by ascending key, the last of a repeated key alone. -/
def sortedEntries (pairs : List (String × String)) : List (String × String) :=
  pairs.foldl (fun entries pair => insertEntry pair.1 pair.2 entries) []

def ofPairs? (pairs : List (String × String)) : Option MessagePool :=
  ofList? ((sortedEntries pairs).map (·.2))

end MessagePool

end TabletopBot
