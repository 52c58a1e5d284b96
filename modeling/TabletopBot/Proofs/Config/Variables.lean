import Mathlib.Data.List.Induction
import TabletopBot.Config.Environment
import TabletopBot.Proofs.Config.Layers

/-! # What the variables give

Each variable is a layer of its own, a table with one path, and the variables are laid over each other in
order. What stands at a path is given by the last variable that has something there.
-/

namespace TabletopBot.Config.Environment

open Value (at? Opens)

theorem neat_bare (chars : List Char) : (bare chars).Neat := by
  refine .other fun entries same => ?_
  rw [bare] at same
  split at same
  · cases same
  · split at same <;> cases same

/-- Tables in the text of a variable have every key once, because a later entry replaces an earlier
one. -/
theorem neat_value? (bound : Nat) :
    (∀ chars value rest, value? bound chars = some (value, rest) → value.Neat) ∧
      ∀ before chars entries rest, entries? bound before chars = some (entries, rest) →
        (Value.table before).Neat → (Value.table entries).Neat := by
  induction bound with
  | zero => exact ⟨nofun, nofun⟩
  | succ bound ih =>
    obtain ⟨values, tables⟩ := ih
    constructor
    · intro chars value rest read
      rw [value?] at read
      split at read
      · cases read
        exact .other nofun
      · cases read
        exact .other nofun
      · split at read
        · obtain ⟨⟨entries, behind⟩, found, same⟩ := Option.map_eq_some_iff.1 read
          cases same
          exact tables [] _ entries behind found (.table List.nodup_nil nofun)
        · obtain ⟨_, -, same⟩ := Option.map_eq_some_iff.1 read
          cases same
          exact .other nofun
        · obtain ⟨_, -, same⟩ := Option.map_eq_some_iff.1 read
          cases same
          exact .other nofun
        · cases read
          exact .other nofun
        · cases read
        · cases read
          exact neat_bare _
    · intro before chars entries rest read neat
      unfold entries? at read
      split at read
      · cases read
      · cases read
        exact neat
      · next start same last =>
        cases same
        obtain ⟨⟨key, behind⟩, -, read⟩ := Option.bind_eq_some_iff.1 read
        simp only at read
        split at read
        · obtain ⟨⟨value, left⟩, found, read⟩ := Option.bind_eq_some_iff.1 read
          have set := @Entries.neat_set key _ _ neat (values _ _ _ found)
          simp only at read
          split at read
          · exact tables _ _ _ _ read set
          · cases read
            exact set
          · cases read
        · cases read

theorem neat_value (text : String) : (value text).Neat := by
  rw [value]
  split
  · next read => exact (neat_value? _).1 _ _ _ read
  · exact .other nofun

theorem splitAt_ne_nil (mark : Char) (chars : List Char) : Text.splitAt mark chars ≠ [] := by
  cases chars with
  | nil => exact List.cons_ne_nil _ _
  | cons char chars =>
    rw [Text.splitAt]
    split
    · exact List.cons_ne_nil _ _
    · split <;> exact List.cons_ne_nil _ _

theorem path?_ne_nil {name : String} {path : List String} (named : path? name = some path) :
    path ≠ [] := by
  obtain ⟨rest, -, named⟩ := Option.bind_eq_some_iff.1 named
  simp only at named
  split at named
  · cases named
  · cases named
    exact mt List.map_eq_nil_iff.1 (splitAt_ne_nil '.' _)

/-- The layer of one variable, if its name is one of ours. -/
def layer? (entry : String × String) : Option Value :=
  (path? entry.1).map (value entry.2).nested

/-- One variable more is one layer more. -/
theorem settings_concat (environment : List (String × String)) (entry : String × String) :
    Value.table (settings (environment ++ [entry])) =
      match layer? entry with
      | some layer => Value.merge (.table (settings environment)) layer
      | none => .table (settings environment) := by
  obtain ⟨name, text⟩ := entry
  rw [settings, List.foldl_append, List.foldl_cons, List.foldl_nil, ← settings, layer?]
  cases named : path? name with
  | none => simp only [named, Option.map_none]
  | some path =>
    cases path with
    | nil => exact absurd rfl (path?_ne_nil named)
    | cons key keys =>
      simp only [named, Option.map_some]
      exact (Value.merge_table _ _).symm

theorem neat_layer {entry : String × String} {layer : Value} (given : layer? entry = some layer) :
    layer.Neat := by
  obtain ⟨path, -, rfl⟩ := Option.map_eq_some_iff.1 given
  exact (neat_value entry.2).nested path

theorem neat_settings (environment : List (String × String)) :
    (Value.table (settings environment)).Neat := by
  induction environment using List.reverseRecOn with
  | nil => exact .table List.nodup_nil nofun
  | append_singleton environment entry ih =>
    rw [settings_concat]
    split
    · next given => exact ih.merge (neat_layer given)
    · exact ih

section

variable {α : Type} {read? : Value → Option α}

/-- What is read at a path off the last variable that has something there. -/
def given? (read? : Value → Option α) (path : List String) (environment : List (String × String)) :
    Option (Option α) :=
  environment.reverse.findSome? fun entry => (layer? entry).bind (Value.readAt? read? path)

/-- No variable has anything but tables on the way to the end of a path. -/
def AllOpen (path : List String) (environment : List (String × String)) : Prop :=
  ∀ entry ∈ environment, ∀ layer, layer? entry = some layer → Opens path layer

theorem opens_settings {path : List String} {environment : List (String × String)}
    (open' : AllOpen path environment) : Opens path (.table (settings environment)) := by
  induction environment using List.reverseRecOn with
  | nil =>
    cases path with
    | nil => exact trivial
    | cons key path => exact ⟨[], rfl, nofun⟩
  | append_singleton environment entry ih =>
    have before := ih fun other member => open' other (List.mem_append_left _ member)
    rw [settings_concat]
    split
    · next layer given =>
      exact before.merge (neat_layer given) (open' entry (by simp) layer given)
    · exact before

/-- The variables together have at a path what the last one of them has that has anything. -/
theorem readAt?_settings (scalar : ∀ entries, read? (.table entries) = none) {key : String}
    {path : List String} {environment : List (String × String)}
    (open' : AllOpen (key :: path) environment) :
    Value.readAt? read? (key :: path) (.table (settings environment)) =
      given? read? (key :: path) environment := by
  induction environment using List.reverseRecOn with
  | nil => rfl
  | append_singleton environment entry ih =>
    have before := ih fun other member => open' other (List.mem_append_left _ member)
    rw [settings_concat, given?, List.reverse_append, List.reverse_singleton, List.singleton_append,
      List.findSome?_cons, ← given?, ← before]
    cases given : layer? entry with
    | none => rfl
    | some layer =>
      simp only [Option.bind_some]
      rw [Value.readAt?_merge scalar (neat_layer given) (open' entry (by simp) layer given)]
      cases Value.readAt? read? (key :: path) layer <;> rfl

theorem at?_nested_of_apart {path : List String} (value : Value) {keys : List String}
    (beyond : ¬ keys <+: path) (short : ¬ path <+: keys) : at? path (value.nested keys) = none := by
  induction keys generalizing path with
  | nil => exact absurd List.nil_prefix beyond
  | cons key keys ih =>
    cases path with
    | nil => exact absurd List.nil_prefix short
    | cons asked path =>
      rw [Value.nested, at?, List.lookup_cons]
      by_cases same : asked = key
      · subst same
        rw [beq_self_eq_true]
        exact ih (fun before => beyond ((List.prefix_cons_inj _).2 before))
          fun before => short ((List.prefix_cons_inj _).2 before)
      · rw [beq_false_of_ne same]
        rfl

/-- A variable whose path goes elsewhere makes no difference at a path. -/
theorem given?_of_apart {path : List String} {entry : String × String}
    (apart : ∀ keys, path? entry.1 = some keys → ¬ keys <+: path ∧ ¬ path <+: keys)
    (before behind : List (String × String)) :
    given? read? path (before ++ entry :: behind) = given? read? path (before ++ behind) := by
  have nothing : (layer? entry).bind (Value.readAt? read? path) = none := by
    rw [layer?]
    cases named : path? entry.1 with
    | none => rfl
    | some keys =>
      obtain ⟨beyond, short⟩ := apart keys named
      rw [Option.map_some, Option.bind_some, Value.readAt?, at?_nested_of_apart _ beyond short]
      rfl
  simp only [given?, List.reverse_append, List.reverse_cons, List.append_assoc, List.findSome?_append,
    List.findSome?_cons, List.findSome?_nil, nothing, Option.none_or]

end

end TabletopBot.Config.Environment
