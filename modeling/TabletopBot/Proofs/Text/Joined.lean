import TabletopBot.Text.Cut
import Mathlib.Algebra.GroupWithZero.Nat
import Mathlib.Data.List.Basic

/-! # Joined texts

Texts that are joined by a separator have its characters and their own, can be cut apart again where none of
them has it, and take as much room as the texts with a separator behind each, but for the last.
-/

namespace TabletopBot.Text

theorem mem_of_mem_intercalate {separator : List Char} {pieces : List (List Char)} {char : Char}
    (member : char ∈ separator.intercalate pieces) :
    char ∈ separator ∨ ∃ piece ∈ pieces, char ∈ piece := by
  induction pieces with
  | nil => cases member
  | cons piece pieces ih =>
    by_cases last : pieces = []
    · subst last
      rw [List.intercalate_singleton] at member
      exact .inr ⟨piece, List.mem_cons_self, member⟩
    · rw [List.intercalate_cons_of_ne_nil last, List.mem_append, List.mem_append] at member
      rcases member with (member | member) | member
      · exact .inr ⟨piece, List.mem_cons_self, member⟩
      · exact .inl member
      · obtain inside | ⟨other, among, inside⟩ := ih member
        · exact .inl inside
        · exact .inr ⟨other, List.mem_cons_of_mem _ among, inside⟩

theorem splitAt_intercalate {mark : Char} {pieces : List (List Char)} (nonempty : pieces ≠ [])
    (apart : ∀ piece ∈ pieces, mark ∉ piece) : splitAt mark ([mark].intercalate pieces) = pieces := by
  induction pieces with
  | nil => exact absurd rfl nonempty
  | cons piece pieces ih =>
    obtain ⟨absent, others⟩ := List.forall_mem_cons.mp apart
    by_cases last : pieces = []
    · rw [last, List.intercalate_singleton, splitAt_of_not_mem absent]
    · rw [List.intercalate_cons_of_ne_nil last, List.append_assoc, List.singleton_append,
        splitAt_append absent, ih last others]

theorem length_intercalate_add {separator : String} {texts : List String} (nonempty : texts ≠ []) :
    (separator.intercalate texts).length + separator.length =
      (texts.map (·.length + separator.length)).sum := by
  induction texts with
  | nil => exact absurd rfl nonempty
  | cons text texts ih =>
    cases texts with
    | nil => simp
    | cons next texts =>
      have rest := ih (List.cons_ne_nil next texts)
      rw [String.intercalate_cons_cons, String.length_append, String.length_append, List.map_cons,
        List.sum_cons, ← rest]
      omega

end TabletopBot.Text
