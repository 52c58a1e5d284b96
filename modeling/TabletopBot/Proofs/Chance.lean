import TabletopBot.Chance

/-! # Recorded runs

A recording source notes every draw together with the answer it got. What a program draws is then a list
that can be reasoned about, and running the program on the recording source shows the very answers that
the plain source would have given. `Yields` holds both runs side by side.
-/

namespace TabletopBot

/-- A draw and the answer of the source; a pick is always an index below the size asked for. -/
inductive Answered where
  | face (sides value : Nat)
  | pick (size : Nat) (index : Fin size)
deriving DecidableEq, Repr

/-- A source of chance together with the answers it has given so far, in order. -/
structure Recorded (σ : Type) where
  source : σ
  answers : List Answered := []

variable {σ α β : Type}

instance [Chance σ] : Chance (Recorded σ) where
  face sides recorded :=
    let (value, source) := Chance.face sides recorded.source
    (value, ⟨source, recorded.answers ++ [.face sides value]⟩)
  pick size positive recorded :=
    let (index, source) := Chance.pick size positive recorded.source
    (index, ⟨source, recorded.answers ++ [.pick size index]⟩)

/-- Run on a source, an action gives a value and leaves another source; run on the recording source, it
gives the same value and adds exactly the given answers to the record. -/
structure Yields (recorded : StateM (Recorded σ) α) (plain : StateM σ α) (source : σ) (value : α)
    (last : σ) (answers : List Answered) : Prop where
  plain_run : plain source = (value, last)
  recorded_run : ∀ earlier, recorded ⟨source, earlier⟩ = (value, ⟨last, earlier ++ answers⟩)

namespace Yields

theorem pure (value : α) (source : σ) :
    Yields (Pure.pure value) (Pure.pure value) source value source [] where
  plain_run := rfl
  recorded_run earlier := by
    rw [List.append_nil]
    rfl

/-- The answers to two actions in turn follow each other. -/
theorem bind {recorded : StateM (Recorded σ) α} {plain : StateM σ α}
    {recordedNext : α → StateM (Recorded σ) β} {plainNext : α → StateM σ β}
    {source middle last : σ} {value : α} {result : β} {answers more : List Answered}
    (first : Yields recorded plain source value middle answers)
    (second : Yields (recordedNext value) (plainNext value) middle result last more) :
    Yields (recorded >>= recordedNext) (plain >>= plainNext) source result last (answers ++ more) where
  plain_run := by
    change (plainNext (plain source).1) (plain source).2 = _
    rw [first.plain_run]
    exact second.plain_run
  recorded_run earlier := by
    change (recordedNext (recorded ⟨source, earlier⟩).1) (recorded ⟨source, earlier⟩).2 = _
    rw [first.recorded_run, ← List.append_assoc]
    exact second.recorded_run _

theorem map {recorded : StateM (Recorded σ) α} {plain : StateM σ α} {source last : σ} {value : α}
    {answers : List Answered} (result : α → β)
    (first : Yields recorded plain source value last answers) :
    Yields (do return result (← recorded)) (do return result (← plain)) source (result value) last
      answers where
  plain_run := by
    change (result (plain source).1, (plain source).2) = _
    rw [first.plain_run]
  recorded_run earlier := by
    change (result (recorded ⟨source, earlier⟩).1, (recorded ⟨source, earlier⟩).2) = _
    rw [first.recorded_run]

theorem drawFace [Chance σ] (sides : Nat) (source : σ) :
    Yields (TabletopBot.drawFace sides) (TabletopBot.drawFace sides) source
      (Chance.face sides source).1 (Chance.face sides source).2
      [.face sides (Chance.face sides source).1] :=
  ⟨rfl, fun _ => rfl⟩

/-- Choosing an item is one draw, with the length of the list as its size. -/
theorem drawItem [Chance σ] (items : List α) (nonempty : 0 < items.length) (source : σ) :
    Yields (TabletopBot.drawItem items nonempty) (TabletopBot.drawItem items nonempty) source
      items[(Chance.pick items.length nonempty source).1]
      (Chance.pick items.length nonempty source).2
      [.pick items.length (Chance.pick items.length nonempty source).1] :=
  ⟨rfl, fun _ => rfl⟩

end Yields

end TabletopBot
