import Mathlib.Algebra.GroupWithZero.Nat
import TabletopBot.Proofs.Message.Packing

/-! # The fewest messages

Paragraphs can be sent in many ways: any that follow each other may share a message while they fit, and
only those that are too long are cut. Filling each message as far as it goes takes the fewest messages.
The invariant of the loop is about two fillings with the same paragraphs ahead: whatever has been begun,
it saves or costs at most one message, and the shorter one never costs more than the longer one.
-/

namespace TabletopBot.Message

/-- Slices are as many as the limit makes of the whole. -/
theorem Slices.length_eq {slices : List (List Char)} (shape : Slices slices) :
    slices.length = (slices.flatten.length + 1899) / 1900 := by
  induction slices with
  | nil => rfl
  | cons slice slices ih =>
    obtain ⟨least, most⟩ := shape.bounded slice List.mem_cons_self
    rw [List.length_cons, List.flatten_cons, List.length_append]
    by_cases last : slices = []
    · subst last
      rw [List.flatten_nil, List.length_nil, List.length_nil]
      omega
    · have full := shape.head_full last
      rw [ih shape.tail]
      omega

theorem length_slices (chars : List Char) : (slices chars).length = (chars.length + 1899) / 1900 := by
  rw [(slices_shape chars).length_eq, flatten_slices]

/-- The number of messages that a group takes: one where paragraphs share it, and for a paragraph that is
too long as many as the limit makes of it. -/
def Group.count : Group → Nat
  | packed _ _ _ => 1
  | sliced slices _ _ => (slices.flatten.length + 1899) / 1900

theorem Group.length_messages (group : Group) : group.messages.length = group.count := by
  cases group with
  | packed => rfl
  | sliced _ shape _ => exact shape.length_eq

theorem length_flatMap_messages (groups : List Group) :
    (groups.flatMap Group.messages).length = (groups.map Group.count).sum := by
  simp only [List.length_flatMap, Group.length_messages]

theorem length_finished_le_one (filling : List Char) : (finished filling).length ≤ 1 := by
  cases filling with
  | nil => exact Nat.zero_le 1
  | cons => exact Nat.le_refl 1

theorem length_finished_le {filling other : List Char} (shorter : filling.length ≤ other.length) :
    (finished filling).length ≤ (finished other).length := by
  cases filling with
  | nil => exact Nat.zero_le _
  | cons first filling =>
    cases other with
    | nil => exact absurd shorter (Nat.not_succ_le_zero _)
    | cons => exact Nat.le_refl 1

theorem pack_cons_of_long {filling paragraph : List Char} (long : maxLength < paragraph.length)
    (rest : List (List Char)) :
    pack filling (paragraph :: rest) = finished filling ++ slices paragraph ++ pack [] rest := by
  rw [pack, if_pos long]

/-- What becomes of a paragraph that fits in a message: it opens one, it joins the one that is being
filled, or that one is sent and it opens the next. -/
theorem pack_cons_of_short {paragraph : List Char} (short : ¬maxLength < paragraph.length)
    (filling : List Char) (rest : List (List Char)) :
    filling = [] ∧ pack filling (paragraph :: rest) = pack paragraph rest ∨
      filling ≠ [] ∧ filling.length + paragraph.length + 2 ≤ maxLength ∧
        pack filling (paragraph :: rest) = pack (filling ++ separator ++ paragraph) rest ∨
      filling ≠ [] ∧ maxLength < filling.length + paragraph.length + 2 ∧
        pack filling (paragraph :: rest) = filling :: pack paragraph rest := by
  rw [pack, if_neg short]
  by_cases empty : filling = []
  · exact .inl ⟨empty, if_pos (by simpa using empty)⟩
  · rw [if_neg (by simpa using empty)]
    by_cases room : filling.length + paragraph.length + 2 ≤ maxLength
    · exact .inr (.inl ⟨empty, room, if_pos room⟩)
    · exact .inr (.inr ⟨empty, Nat.lt_of_not_le room, if_neg room⟩)

/-- Of two messages being filled with the same paragraphs ahead, either takes at most one message more
than the other, and the shorter one takes no more than the longer one. -/
structure Steady (rest : List (List Char)) : Prop where
  near : ∀ filling other, (pack filling rest).length ≤ (pack other rest).length + 1
  mono : ∀ filling other : List Char, filling.length ≤ other.length →
    (pack filling rest).length ≤ (pack other rest).length

/-- Whatever was begun, a paragraph takes what it would take in a message of its own, or one message
more. -/
theorem Steady.pack_cons_bounds {rest : List (List Char)} (steady : Steady rest)
    {paragraph : List Char} (short : ¬maxLength < paragraph.length) (filling : List Char) :
    (pack paragraph rest).length ≤ (pack filling (paragraph :: rest)).length ∧
      (pack filling (paragraph :: rest)).length ≤ (pack paragraph rest).length + 1 := by
  rcases pack_cons_of_short short filling rest with ⟨-, opened⟩ | ⟨-, -, joined⟩ | ⟨-, -, sent⟩
  · rw [opened]
    omega
  · have longer : paragraph.length ≤ (filling ++ separator ++ paragraph).length := by
      rw [List.length_append]
      omega
    rw [joined]
    exact ⟨steady.mono paragraph _ longer, steady.near _ paragraph⟩
  · rw [sent, List.length_cons]
    omega

theorem Steady.cons_of_short {rest : List (List Char)} (steady : Steady rest)
    {paragraph : List Char} (short : ¬maxLength < paragraph.length) : Steady (paragraph :: rest) where
  near filling other :=
    (steady.pack_cons_bounds short filling).2.trans
      (Nat.succ_le_succ (steady.pack_cons_bounds short other).1)
  mono filling other shorter := by
    obtain ⟨least, -⟩ := steady.pack_cons_bounds short other
    obtain ⟨-, most⟩ := steady.pack_cons_bounds short filling
    -- the longer message has something in it if the shorter one has, and is full if that one is
    rcases pack_cons_of_short short filling rest with
      ⟨-, opened⟩ | ⟨begun, room, joined⟩ | ⟨begun, full, sent⟩
    · rw [opened]
      exact least
    · rcases pack_cons_of_short short other rest with ⟨empty, -⟩ | ⟨-, -, same⟩ | ⟨-, -, same⟩
      · rw [empty, List.length_nil, Nat.le_zero, List.length_eq_zero_iff] at shorter
        exact absurd shorter begun
      · rw [joined, same]
        refine steady.mono _ _ ?_
        simp only [List.length_append]
        omega
      · rw [same, List.length_cons]
        exact most
    · rcases pack_cons_of_short short other rest with ⟨empty, -⟩ | ⟨-, room, -⟩ | ⟨-, -, same⟩
      · rw [empty, List.length_nil, Nat.le_zero, List.length_eq_zero_iff] at shorter
        exact absurd shorter begun
      · omega
      · rw [sent, same, List.length_cons, List.length_cons]

theorem Steady.cons_of_long {rest : List (List Char)} {paragraph : List Char}
    (long : maxLength < paragraph.length) : Steady (paragraph :: rest) where
  near filling other := by
    have one := length_finished_le_one filling
    simp only [pack_cons_of_long long, List.length_append]
    omega
  mono filling other shorter := by
    have fewer := length_finished_le shorter
    simp only [pack_cons_of_long long, List.length_append]
    omega

theorem steady (rest : List (List Char)) : Steady rest := by
  induction rest with
  | nil =>
    exact ⟨fun filling _ => Nat.le_add_left_of_le (length_finished_le_one filling),
      fun _ _ => length_finished_le⟩
  | cons paragraph rest ih =>
    by_cases long : maxLength < paragraph.length
    · exact .cons_of_long long
    · exact ih.cons_of_short long

theorem Sharing.dropLast {filling : List (List Char)} {paragraph : List Char}
    (sharing : Sharing (filling ++ [paragraph])) : Sharing filling where
  nonempty other member := sharing.nonempty other (List.mem_append_left _ member)
  short other member := sharing.short other (List.mem_append_left _ member)
  fits := by
    by_cases begun : filling = []
    · subst begun
      exact Sharing.nil.fits
    · have fits := sharing.fits
      rw [intercalate_concat begun, List.length_append, List.length_append] at fits
      omega

/-- Paragraphs that can share a message are put into it one after the other. -/
theorem pack_of_sharing {paragraphs : List (List Char)} (sharing : Sharing paragraphs)
    (rest : List (List Char)) :
    pack [] (paragraphs ++ rest) = pack (separator.intercalate paragraphs) rest := by
  induction paragraphs using List.reverseRecOn generalizing rest with
  | nil => rfl
  | append_singleton front last ih =>
    have before := sharing.dropLast
    rw [List.append_assoc, ih before, List.singleton_append]
    have short : ¬maxLength < last.length := by
      have bound := sharing.short last (List.mem_append_right _ (List.mem_singleton_self last))
      rw [maxLength]
      omega
    rcases pack_cons_of_short short (separator.intercalate front) rest with
      ⟨empty, opened⟩ | ⟨begun, -, joined⟩ | ⟨begun, full, -⟩
    · rw [before.intercalate_eq_nil_iff.mp empty] at opened ⊢
      rw [List.nil_append, List.intercalate_singleton]
      exact opened
    · have nonempty : front ≠ [] := fun nothing => begun (before.intercalate_eq_nil_iff.mpr nothing)
      rw [intercalate_concat nonempty, joined]
    · have nonempty : front ≠ [] := fun nothing => begun (before.intercalate_eq_nil_iff.mpr nothing)
      have fits := sharing.fits
      change (separator.intercalate (front ++ [last])).length ≤ 1900 at fits
      rw [intercalate_concat nonempty, List.length_append, List.length_append] at fits
      change _ + 2 + _ ≤ 1900 at fits
      rw [maxLength] at full
      omega

/-- No way of sending paragraphs takes fewer messages than filling each message as far as it goes. -/
theorem length_pack_le_count (groups : List Group) :
    (pack [] (groups.flatMap Group.paragraphs)).length ≤ (groups.map Group.count).sum := by
  induction groups with
  | nil => exact Nat.le_refl 0
  | cons group groups ih =>
    rw [List.flatMap_cons, List.map_cons, List.sum_cons]
    cases group with
    | packed paragraphs _ sharing =>
      have near := (steady (groups.flatMap Group.paragraphs)).near
        (separator.intercalate paragraphs) []
      rw [Group.paragraphs, pack_of_sharing sharing, Group.count]
      omega
    | sliced slices shape long =>
      rw [Group.paragraphs, List.singleton_append, pack_cons_of_long long, List.length_append,
        List.length_append, length_slices, Group.count]
      have nothing : (finished []).length = 0 := rfl
      omega

/-- A text is sent as groups of its paragraphs, and no other groups of them take fewer messages. -/
theorem split_fewest (text : String) :
    (∃ groups : List Group, ParagraphsOf text.toList (groups.flatMap Group.paragraphs) ∧
      (split text).map String.toList = groups.flatMap Group.messages ∧
      (split text).length = (groups.map Group.count).sum) ∧
    ∀ groups : List Group, ParagraphsOf text.toList (groups.flatMap Group.paragraphs) →
      (split text).length ≤ (groups.map Group.count).sum := by
  constructor
  · obtain ⟨groups, carried, sent⟩ := exists_groups_split text
    refine ⟨groups, ?_, sent, ?_⟩
    · rw [carried]
      exact paragraphsOf_paragraphs text.toList
    · rw [← length_flatMap_messages, ← sent, List.length_map]
  · intro groups carried
    rw [split, List.length_map, ← carried.eq_paragraphs]
    exact length_pack_le_count groups

/-- Three paragraphs could be sent alone, and splitting takes no more messages than that. -/
theorem split_fewest_of_three_alone :
    ParagraphsOf "First.\n\nSecond.\n\nThird.".toList
        ["First.".toList, "Second.".toList, "Third.".toList] ∧
      (split "First.\n\nSecond.\n\nThird.").length ≤ 3 := by
  have found : paragraphs "First.\n\nSecond.\n\nThird.".toList =
      ["First.".toList, "Second.".toList, "Third.".toList] := by decide
  have carried := found ▸ paragraphsOf_paragraphs "First.\n\nSecond.\n\nThird.".toList
  have alone (paragraph : String) (nonempty : paragraph.toList ≠ [])
      (short : paragraph.toList.length ≤ 1900) : Sharing [paragraph.toList] := .single nonempty short
  refine ⟨carried, (split_fewest "First.\n\nSecond.\n\nThird.").2 [
    .packed ["First.".toList] (List.cons_ne_nil _ _) (alone _ (by decide) (by decide)),
    .packed ["Second.".toList] (List.cons_ne_nil _ _) (alone _ (by decide) (by decide)),
    .packed ["Third.".toList] (List.cons_ne_nil _ _) (alone _ (by decide) (by decide))] carried⟩

end TabletopBot.Message
