import TabletopBot.Resources.Pool
import Mathlib.Data.List.Induction

/-! # Messages by key

What a pool lists of keys with messages: the keys ascend, every key that was written down is listed once,
and its message is the last one written for it. Nothing but the mapping that the pairs write down matters
(`sortedEntries_eq_of_perm`).
-/

namespace TabletopBot.MessagePool

/-- This message is the last one written for the key. -/
def LastFor (pairs : List (String × String)) (key message : String) : Prop :=
  ∃ before behind, pairs = before ++ (key, message) :: behind ∧ ∀ pair ∈ behind, pair.1 ≠ key

/-- The keys ascend. -/
def Ascending (entries : List (String × String)) : Prop :=
  entries.Pairwise fun entry later => entry.1 < later.1

variable {pairs entries : List (String × String)} {key message : String}

theorem lookup_reverse_eq_some_iff :
    pairs.reverse.lookup key = some message ↔ LastFor pairs key message := by
  rw [List.lookup_eq_some_iff]
  constructor
  · rintro ⟨behind, before, shape, absent⟩
    refine ⟨before.reverse, behind.reverse, ?_, ?_⟩
    · rw [← List.reverse_reverse pairs, shape]
      simp
    · intro pair member same
      simpa [same] using absent pair (List.mem_reverse.mp member)
  · rintro ⟨before, behind, rfl, absent⟩
    refine ⟨behind.reverse, before.reverse, by simp, ?_⟩
    intro pair member
    exact bne_iff_ne.mpr (absent pair (List.mem_reverse.mp member)).symm

theorem lookup_reverse_eq_none_iff :
    pairs.reverse.lookup key = none ↔ ∀ pair ∈ pairs, pair.1 ≠ key := by
  simp only [List.lookup_eq_none_iff, List.mem_reverse, bne_iff_ne, ne_comm]

theorem LastFor.mem (last : LastFor pairs key message) : (key, message) ∈ pairs := by
  obtain ⟨before, behind, rfl, _⟩ := last
  exact List.mem_append_right before List.mem_cons_self

/-- Of keys that are all different, every message is the last one. -/
theorem lastFor_iff_mem (distinct : (pairs.map (·.1)).Nodup) :
    LastFor pairs key message ↔ (key, message) ∈ pairs := by
  constructor
  · exact LastFor.mem
  · intro member
    obtain ⟨before, behind, rfl⟩ := List.append_of_mem member
    refine ⟨before, behind, rfl, ?_⟩
    rw [List.map_append, List.map_cons] at distinct
    have absent := (List.nodup_cons.mp (List.nodup_append.mp distinct).2.1).1
    intro pair later same
    exact absent (List.mem_map.mpr ⟨pair, later, same⟩)

theorem sortedEntries_concat (pairs : List (String × String)) (pair : String × String) :
    sortedEntries (pairs ++ [pair]) = insertEntry pair.1 pair.2 (sortedEntries pairs) := by
  rw [sortedEntries, List.foldl_append]
  rfl

theorem lookup_sortedEntries (pairs : List (String × String)) (key : String) :
    (sortedEntries pairs).lookup key = pairs.reverse.lookup key := by
  induction pairs using List.reverseRecOn with
  | nil => rfl
  | append_singleton pairs pair ih =>
    rw [sortedEntries_concat, List.reverse_concat, List.lookup_cons]
    by_cases same : key = pair.1
    · rw [same, lookup_insertEntry_self, beq_self_eq_true]
    · rw [lookup_insertEntry_of_ne same, ih, beq_false_of_ne same]

theorem mem_insertEntry {entry : String × String} (member : entry ∈ insertEntry key message entries) :
    entry = (key, message) ∨ entry ∈ entries := by
  induction entries with
  | nil => exact .inl (List.mem_singleton.mp member)
  | cons first others ih =>
    rw [insertEntry] at member
    split at member
    · exact List.mem_cons.mp member
    · split at member
      · exact (List.mem_cons.mp member).imp_right (List.mem_cons_of_mem first)
      · rcases List.mem_cons.mp member with rfl | later
        · exact .inr List.mem_cons_self
        · exact (ih later).imp_right (List.mem_cons_of_mem first)

theorem ascending_insertEntry (ascending : Ascending entries) :
    Ascending (insertEntry key message entries) := by
  induction entries with
  | nil => exact List.pairwise_singleton _ _
  | cons first others ih =>
    obtain ⟨least, rest⟩ := List.pairwise_cons.mp ascending
    rw [insertEntry]
    split
    · next smaller =>
      refine List.pairwise_cons.mpr ⟨?_, ascending⟩
      intro entry member
      rcases List.mem_cons.mp member with rfl | later
      · exact smaller
      · exact String.lt_trans smaller (least entry later)
    · next notSmaller =>
      split
      · next same =>
        subst same
        exact List.pairwise_cons.mpr ⟨least, rest⟩
      · next differs =>
        refine List.pairwise_cons.mpr ⟨?_, ih rest⟩
        intro entry member
        rcases mem_insertEntry member with rfl | later
        · rcases Std.lt_trichotomy first.1 key with smaller | same | greater
          · exact smaller
          · exact absurd same.symm differs
          · exact absurd greater notSmaller
        · exact least entry later

theorem ascending_sortedEntries (pairs : List (String × String)) : Ascending (sortedEntries pairs) := by
  induction pairs using List.reverseRecOn with
  | nil => exact .nil
  | append_singleton pairs pair ih =>
    rw [sortedEntries_concat]
    exact ascending_insertEntry ih

/-- Where the keys ascend, an entry is found under its key. -/
theorem Ascending.lookup_eq_some_iff (ascending : Ascending entries) :
    entries.lookup key = some message ↔ (key, message) ∈ entries := by
  rw [List.lookup_eq_some_iff]
  constructor
  · rintro ⟨before, behind, rfl, _⟩
    exact List.mem_append_right before List.mem_cons_self
  · intro member
    obtain ⟨before, behind, rfl⟩ := List.append_of_mem member
    refine ⟨before, behind, rfl, ?_⟩
    intro entry earlier
    have smaller := (List.pairwise_append.mp ascending).2.2 entry earlier _ List.mem_cons_self
    refine bne_iff_ne.mpr ?_
    rintro rfl
    exact String.lt_irrefl _ smaller

/-- The listing holds the last message of every key. -/
theorem mem_sortedEntries_iff : (key, message) ∈ sortedEntries pairs ↔ LastFor pairs key message := by
  rw [← (ascending_sortedEntries pairs).lookup_eq_some_iff, lookup_sortedEntries,
    lookup_reverse_eq_some_iff]

theorem Ascending.nodup (ascending : Ascending entries) : entries.Nodup := by
  refine List.Pairwise.imp ?_ ascending
  rintro entry _ smaller rfl
  exact String.lt_irrefl _ smaller

theorem Ascending.ext {others : List (String × String)} (ascending : Ascending entries)
    (alsoAscending : Ascending others) (same : ∀ entry, entry ∈ entries ↔ entry ∈ others) :
    entries = others := by
  refine List.Perm.eq_of_pairwise ?_ ascending alsoAscending
    ((List.perm_ext_iff_of_nodup ascending.nodup alsoAscending.nodup).mpr same)
  intro entry later _ _ smaller greater
  exact absurd greater (String.lt_asymm smaller)

/-- Keys that are all different can be written in any order. -/
theorem sortedEntries_eq_of_perm {others : List (String × String)} (reordered : others.Perm pairs)
    (distinct : (pairs.map (·.1)).Nodup) : sortedEntries others = sortedEntries pairs := by
  have alsoDistinct : (others.map (·.1)).Nodup := (reordered.map (·.1)).nodup_iff.mpr distinct
  refine (ascending_sortedEntries others).ext (ascending_sortedEntries pairs) ?_
  rintro ⟨key, message⟩
  rw [mem_sortedEntries_iff, mem_sortedEntries_iff, lastFor_iff_mem alsoDistinct,
    lastFor_iff_mem distinct, reordered.mem_iff]

theorem sortedEntries_eq_nil_iff : sortedEntries pairs = [] ↔ pairs = [] := by
  constructor
  · intro nothing
    induction pairs using List.reverseRecOn with
    | nil => rfl
    | append_singleton pairs pair _ =>
      have found := lookup_insertEntry_self pair.1 pair.2 (sortedEntries pairs)
      rw [← sortedEntries_concat, nothing] at found
      cases found
  · rintro rfl
    rfl

theorem mem_of_mem_sortedEntries {entry : String × String} (listed : entry ∈ sortedEntries pairs) :
    entry ∈ pairs :=
  (mem_sortedEntries_iff.mp listed).mem

theorem ofPairs?_eq_some_iff {pool : MessagePool} :
    ofPairs? pairs = some pool ↔ pool.messages = (sortedEntries pairs).map (·.2) :=
  ofList?_eq_some_iff

/-- Only without any pair there is no pool. -/
theorem ofPairs?_eq_none_iff : ofPairs? pairs = none ↔ pairs = [] := by
  rw [← sortedEntries_eq_nil_iff, ofPairs?, ofList?]
  constructor
  · intro nothing
    split at nothing
    · cases nothing
    · next empty =>
      rw [List.length_map, Nat.not_lt, Nat.le_zero] at empty
      exact List.eq_nil_of_length_eq_zero empty
  · intro nothing
    rw [nothing]
    rfl

end TabletopBot.MessagePool
