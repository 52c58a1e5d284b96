/-! # Chance

Rolling and choosing ask a source of chance. A source is a value that answers a draw and moves on to its
next state; nothing here has effects. There are three: a pseudo-random generator, a script that replays
given faces and picks round and round, and a log around any source that notes the draws made. Faces are
taken as the source gives them, while a pick is always an index of the list that is chosen from.
-/

namespace TabletopBot

/-- A source of chance: it rolls a die with a number of sides and picks an index below a size. -/
class Chance (σ : Type) where
  /-- The face shown by a die. -/
  face : Nat → σ → Nat × σ
  /-- An index into a list that is not empty. -/
  pick : (size : Nat) → 0 < size → σ → Fin size × σ

/-- The face of a die with `sides` sides, drawn from the current source. -/
def drawFace {σ : Type} [Chance σ] (sides : Nat) : StateM σ Nat := Chance.face sides

/-- One of the items of a list that is not empty, drawn from the current source. -/
def drawItem {σ α : Type} [Chance σ] (items : List α) (nonempty : 0 < items.length) : StateM σ α :=
  (fun index => items[index]) <$> (Chance.pick items.length nonempty : StateM σ _)

/-- A pseudo-random generator rolls every face from one to the number of sides. -/
instance : Chance StdGen where
  face sides generator :=
    let (value, next) := stdNext generator
    (1 + value % sides, next)
  pick size positive generator :=
    let (value, next) := stdNext generator
    (⟨value % size, Nat.mod_lt value positive⟩, next)

/-- Faces and picks to be replayed in order, each list round and round. -/
structure Script where
  faces : List Nat
  picks : List Nat
  facesUsed : Nat := 0
  picksUsed : Nat := 0

/-- The entry of a list that is read round and round after `used` entries were taken. -/
def cyclic (entries : List Nat) (used : Nat) (whenEmpty : Nat) : Nat :=
  entries[used % entries.length]?.getD whenEmpty

/-- A script without faces rolls ones, and one without picks chooses the first item. -/
instance : Chance Script where
  face _ script :=
    (cyclic script.faces script.facesUsed 1, { script with facesUsed := script.facesUsed + 1 })
  pick size positive script :=
    (⟨cyclic script.picks script.picksUsed 0 % size, Nat.mod_lt _ positive⟩,
      { script with picksUsed := script.picksUsed + 1 })

/-- A question put to a source of chance. -/
inductive Draw where
  | face (sides : Nat)
  | pick (size : Nat)
deriving DecidableEq, Repr

/-- A source of chance together with the draws made on it so far, in order. -/
structure Logged (σ : Type) where
  source : σ
  draws : List Draw := []

instance {σ : Type} [Chance σ] : Chance (Logged σ) where
  face sides logged :=
    let (value, source) := Chance.face sides logged.source
    (value, ⟨source, logged.draws ++ [.face sides]⟩)
  pick size positive logged :=
    let (index, source) := Chance.pick size positive logged.source
    (index, ⟨source, logged.draws ++ [.pick size]⟩)

@[simp] theorem drawFace_logged {σ : Type} [Chance σ] (sides : Nat) (logged : Logged σ) :
    (drawFace sides : StateM (Logged σ) Nat) logged =
      ((Chance.face sides logged.source).1,
        ⟨(Chance.face sides logged.source).2, logged.draws ++ [.face sides]⟩) := rfl

@[simp] theorem drawItem_logged {σ α : Type} [Chance σ] (items : List α)
    (nonempty : 0 < items.length) (logged : Logged σ) :
    (drawItem items nonempty : StateM (Logged σ) α) logged =
      (items[(Chance.pick items.length nonempty logged.source).1],
        ⟨(Chance.pick items.length nonempty logged.source).2,
          logged.draws ++ [.pick items.length]⟩) := rfl

end TabletopBot
