/-! # Configuration values

A configuration is a tree of tables. Layers are laid over each other key by key: where both hold a table
the tables are merged, and otherwise the upper layer's value counts. The values of floating-point
numbers are not kept, because no setting takes one.
-/

namespace TabletopBot.Config

inductive Value where
  | bool (value : Bool)
  | integer (value : Int)
  | float
  | text (value : String)
  | list (items : List Value)
  | table (entries : List (String × Value))

/-- Keys with their values; a key occurs once. -/
abbrev Entries := List (String × Value)

/-- The magnitude that bounds signed integers of 64 bits, `2^63`. -/
def integerLimit : Nat := 9223372036854775808

namespace Entries

def set (key : String) (value : Value) : Entries → Entries
  | [] => [(key, value)]
  | (other, present) :: rest =>
    if other = key then (key, value) :: rest else (other, present) :: set key value rest

@[simp] theorem lookup_set_self (key : String) (value : Value) (entries : Entries) :
    (entries.set key value).lookup key = some value := by
  induction entries with
  | nil => simp [set]
  | cons entry rest ih =>
    obtain ⟨other, present⟩ := entry
    rw [set]
    split
    · simp
    · next differs => simpa [List.lookup_cons, beq_eq_false_iff_ne.mpr (Ne.symm differs)] using ih

theorem lookup_set_of_ne {key asked : String} (differs : asked ≠ key) (value : Value)
    (entries : Entries) : (entries.set key value).lookup asked = entries.lookup asked := by
  induction entries with
  | nil => simp [set, List.lookup_cons, beq_eq_false_iff_ne.mpr differs]
  | cons entry rest ih =>
    obtain ⟨other, present⟩ := entry
    rw [set]
    split
    · next same =>
      subst same
      simp [List.lookup_cons, beq_eq_false_iff_ne.mpr differs]
    · simp only [List.lookup_cons, ih]

end Entries

namespace Value

mutual

/-- Lays a value over another one. -/
def merge (lower : Value) : Value → Value
  | .table upper =>
    match lower with
    | .table entries => .table (mergeEntries entries upper)
    | _ => .table upper
  | upper => upper

def mergeEntries (lower : Entries) : List (String × Value) → Entries
  | [] => lower
  | (key, value) :: rest =>
    let merged :=
      match lower.lookup key with
      | some present => merge present value
      | none => value
    mergeEntries (lower.set key merged) rest

end

/-- The table in which a value stands at the end of a path of keys. -/
def nested (value : Value) : List String → Value
  | [] => value
  | key :: keys => .table [(key, nested value keys)]

end Value

end TabletopBot.Config
