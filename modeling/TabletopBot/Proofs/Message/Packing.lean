import TabletopBot.Proofs.Message.Paragraphs

/-! # Messages of limited length

The messages of a text carry its paragraphs group by group: consecutive paragraphs joined by empty lines
where they fit, or one paragraph that is too long, in slices. `split_eq_groups` says that nothing else is
sent and that nothing is lost but white space. The invariant is that the message being filled is always
the join of paragraphs that were taken already, and fits.
-/

namespace TabletopBot.Message

open Text (withoutBlanks)

/-- Texts that follow each other in a longer one, all but the last of the greatest length. -/
structure Slices (slices : List (List Char)) : Prop where
  bounded : ∀ slice ∈ slices, 1 ≤ slice.length ∧ slice.length ≤ 1900
  full : ∀ slice ∈ slices.dropLast, slice.length = 1900

/-- Paragraphs that can share one message. -/
structure Sharing (paragraphs : List (List Char)) : Prop where
  nonempty : ∀ paragraph ∈ paragraphs, paragraph ≠ []
  short : ∀ paragraph ∈ paragraphs, paragraph.length ≤ 1900
  fits : (['\n', '\n'].intercalate paragraphs).length ≤ 1900

/-- Paragraphs that are sent together: some that share a message, or one that needs several. -/
inductive Group where
  | packed (paragraphs : List (List Char)) (nonempty : paragraphs ≠ []) (sharing : Sharing paragraphs)
  | sliced (slices : List (List Char)) (shape : Slices slices) (long : 1900 < slices.flatten.length)

namespace Group

/-- The paragraphs that a group carries. -/
def paragraphs : Group → List (List Char)
  | packed paragraphs _ _ => paragraphs
  | sliced slices _ _ => [slices.flatten]

/-- The messages that a group is sent as. -/
def messages : Group → List (List Char)
  | packed paragraphs _ _ => [['\n', '\n'].intercalate paragraphs]
  | sliced slices _ _ => slices

end Group

theorem flatten_slices (chars : List Char) : (slices chars).flatten = chars := by
  fun_induction slices chars with
  | case1 chars empty => simpa using empty.symm
  | case2 chars nonempty ih => rw [List.flatten_cons, ih, List.take_append_drop]

theorem slices_eq_nil_iff {chars : List Char} : slices chars = [] ↔ chars = [] := by
  rw [slices]
  split
  · next empty => simpa using empty
  · next nonempty => simpa using nonempty

/-- Cutting at the limit gives slices of the greatest length, but for the last. -/
theorem slices_shape (chars : List Char) : Slices (slices chars) := by
  fun_induction slices chars with
  | case1 => exact ⟨by simp, by simp⟩
  | case2 chars nonempty ih =>
    have positive : 0 < chars.length := List.length_pos_iff.mpr (by simpa using nonempty)
    have taken : (chars.take maxLength).length = min 1900 chars.length := List.length_take
    constructor
    · intro slice member
      rcases List.mem_cons.mp member with rfl | member
      · omega
      · exact ih.bounded slice member
    · intro slice member
      by_cases last : slices (chars.drop maxLength) = []
      · simp [last] at member
      · have more : maxLength < chars.length := by
          simpa [slices_eq_nil_iff, List.drop_eq_nil_iff] using last
        rw [List.dropLast_cons_of_ne_nil last] at member
        rcases List.mem_cons.mp member with rfl | member
        · rw [maxLength] at more
          omega
        · exact ih.full slice member

theorem Slices.tail {slice : List Char} {slices : List (List Char)} (shape : Slices (slice :: slices)) :
    Slices slices where
  bounded other member := shape.bounded other (List.mem_cons_of_mem _ member)
  full other member := by
    refine shape.full other ?_
    rw [List.dropLast_cons_of_ne_nil (by rintro rfl; simp at member)]
    exact List.mem_cons_of_mem _ member

theorem Slices.head_full {slice : List Char} {slices : List (List Char)}
    (shape : Slices (slice :: slices)) (further : slices ≠ []) : slice.length = 1900 := by
  refine shape.full slice ?_
  rw [List.dropLast_cons_of_ne_nil further]
  exact List.mem_cons_self

namespace Group

theorem messages_ne_nil (group : Group) : group.messages ≠ [] := by
  cases group with
  | packed => simp [messages]
  | sliced slices _ long =>
    rintro rfl
    simp at long

theorem paragraphs_ne_nil (group : Group) : group.paragraphs ≠ [] := by
  cases group with
  | packed _ nonempty _ => exact nonempty
  | sliced => simp [Group.paragraphs]

theorem length_of_mem_messages (group : Group) :
    ∀ message ∈ group.messages, 1 ≤ message.length ∧ message.length ≤ 1900 := by
  cases group with
  | packed paragraphs begun sharing =>
    intro message member
    obtain rfl := List.mem_singleton.mp member
    refine ⟨?_, sharing.fits⟩
    obtain ⟨first, others, rfl⟩ := List.exists_cons_of_ne_nil begun
    obtain ⟨char, chars, rfl⟩ :=
      List.exists_cons_of_ne_nil (sharing.nonempty first List.mem_cons_self)
    rw [List.intercalate_cons_cons_left]
    exact Nat.succ_pos _
  | sliced slices shape _ => exact shape.bounded

/-- A group loses and adds white space alone. -/
theorem withoutBlanks_messages (group : Group) :
    withoutBlanks group.messages.flatten = withoutBlanks group.paragraphs.flatten := by
  cases group with
  | packed paragraphs =>
    simp only [messages, Group.paragraphs, List.flatten_singleton]
    exact withoutBlanks_intercalate paragraphs
  | sliced slices => simp only [messages, Group.paragraphs, List.flatten_singleton]

end Group

theorem withoutBlanks_flatMap_messages (groups : List Group) :
    withoutBlanks (groups.flatMap Group.messages).flatten =
      withoutBlanks (groups.flatMap Group.paragraphs).flatten := by
  induction groups with
  | nil => rfl
  | cons group groups ih =>
    simp only [List.flatMap_cons, List.flatten_append, Text.withoutBlanks_append, ih,
      group.withoutBlanks_messages]

theorem Sharing.nil : Sharing [] := ⟨by simp, by simp, by simp⟩

theorem Sharing.single {paragraph : List Char} (nonempty : paragraph ≠ [])
    (short : paragraph.length ≤ 1900) : Sharing [paragraph] :=
  ⟨by simpa using nonempty, by simpa using short, by simpa using short⟩

theorem intercalate_append {separator : List Char} {first second : List (List Char)}
    (nonempty : first ≠ []) (further : second ≠ []) : separator.intercalate (first ++ second) =
      separator.intercalate first ++ separator ++ separator.intercalate second := by
  induction first with
  | nil => exact absurd rfl nonempty
  | cons piece pieces ih =>
    by_cases last : pieces = []
    · rw [last, List.singleton_append, List.intercalate_cons_of_ne_nil further,
        List.intercalate_singleton]
    · rw [List.cons_append, List.intercalate_cons_of_ne_nil (by simp [last]), ih last,
        List.intercalate_cons_of_ne_nil last]
      simp only [List.append_assoc]

theorem intercalate_concat {separator last : List Char} {pieces : List (List Char)}
    (nonempty : pieces ≠ []) : separator.intercalate (pieces ++ [last]) =
      separator.intercalate pieces ++ separator ++ last := by
  rw [intercalate_append nonempty (List.cons_ne_nil _ _), List.intercalate_singleton]

theorem Sharing.concat {filling : List (List Char)} {paragraph : List Char}
    (sharing : Sharing filling) (filled : paragraph ≠ []) (short : paragraph.length ≤ 1900)
    (begun : filling ≠ [])
    (room : (separator.intercalate filling).length + paragraph.length + 2 ≤ 1900) :
    Sharing (filling ++ [paragraph]) where
  nonempty := by
    intro other member
    rcases List.mem_append.mp member with member | member
    · exact sharing.nonempty other member
    · exact List.mem_singleton.mp member ▸ filled
  short := by
    intro other member
    rcases List.mem_append.mp member with member | member
    · exact sharing.short other member
    · exact List.mem_singleton.mp member ▸ short
  fits := by
    change (separator.intercalate (filling ++ [paragraph])).length ≤ 1900
    rw [intercalate_concat begun, List.length_append, List.length_append]
    change _ + 2 + _ ≤ 1900
    omega

theorem Sharing.intercalate_eq_nil_iff {filling : List (List Char)} (sharing : Sharing filling) :
    separator.intercalate filling = [] ↔ filling = [] := by
  constructor
  · intro empty
    by_contra begun
    have bounds := (Group.packed filling begun sharing).length_of_mem_messages _
      (List.mem_singleton_self _)
    change 1 ≤ (separator.intercalate filling).length ∧ _ at bounds
    rw [empty] at bounds
    exact absurd bounds.1 (by decide)
  · rintro rfl
    rfl

/-- What is finished is one group, or none where nothing was begun. -/
theorem exists_groups_finished {filling : List (List Char)} (sharing : Sharing filling) :
    ∃ groups : List Group, groups.flatMap Group.paragraphs = filling ∧
      finished (separator.intercalate filling) = groups.flatMap Group.messages := by
  by_cases begun : filling = []
  · subst begun
    exact ⟨[], rfl, rfl⟩
  · refine ⟨[.packed filling begun sharing], by simp [Group.paragraphs], ?_⟩
    have nonempty : separator.intercalate filling ≠ [] :=
      fun empty => begun (sharing.intercalate_eq_nil_iff.mp empty)
    rw [finished, if_neg (by simpa using nonempty)]
    rfl

/-- The packing loop sends the paragraphs being filled and all that follow, group by group. -/
theorem exists_groups_pack {filling : List (List Char)} (sharing : Sharing filling)
    {rest : List (List Char)} (nonempty : ∀ paragraph ∈ rest, paragraph ≠ []) :
    ∃ groups : List Group, groups.flatMap Group.paragraphs = filling ++ rest ∧
      pack (separator.intercalate filling) rest = groups.flatMap Group.messages := by
  induction rest generalizing filling with
  | nil =>
    obtain ⟨groups, carried, sent⟩ := exists_groups_finished sharing
    exact ⟨groups, by rw [carried, List.append_nil], sent⟩
  | cons paragraph rest ih =>
    obtain ⟨inhabited, nonempty⟩ := List.forall_mem_cons.mp nonempty
    rw [pack]
    split
    · next long =>
      obtain ⟨before, carried, sent⟩ := exists_groups_finished sharing
      obtain ⟨behind, others, following⟩ := ih .nil nonempty
      rw [List.intercalate_nil] at following
      have shape := slices_shape paragraph
      have whole := flatten_slices paragraph
      refine ⟨before ++ .sliced (slices paragraph) shape (by rwa [whole]) :: behind, ?_, ?_⟩
      · simp [carried, others, Group.paragraphs, whole]
      · simp [sent, following, Group.messages]
    · next notLong =>
      have short : paragraph.length ≤ 1900 := by simpa [maxLength] using notLong
      have alone := Sharing.single inhabited short
      obtain ⟨groups, carried, sent⟩ := ih alone nonempty
      rw [List.intercalate_singleton] at sent
      split
      · next empty =>
        have begun : filling = [] := sharing.intercalate_eq_nil_iff.mp (by simpa using empty)
        subst begun
        exact ⟨groups, carried, sent⟩
      · next nonblank =>
        have begun : filling ≠ [] := fun empty =>
          nonblank (by simp [sharing.intercalate_eq_nil_iff.mpr empty])
        split
        · next room =>
          obtain ⟨groups, carried, sent⟩ := ih (sharing.concat inhabited short begun room) nonempty
          rw [intercalate_concat begun] at sent
          exact ⟨groups, by simpa using carried, sent⟩
        · refine ⟨.packed filling begun sharing :: groups, ?_, ?_⟩
          · simp [carried, Group.paragraphs]
          · simp [sent, Group.messages, separator]

/-- The messages of a text are those of groups that carry its paragraphs. -/
theorem exists_groups_split (text : String) :
    ∃ groups : List Group, groups.flatMap Group.paragraphs = paragraphs text.toList ∧
      (split text).map String.toList = groups.flatMap Group.messages := by
  have nonempty : ∀ paragraph ∈ paragraphs text.toList, paragraph ≠ [] :=
    fun _ member => (mem_paragraphs_iff.mp member).2
  obtain ⟨groups, carried, sent⟩ := exists_groups_pack .nil nonempty
  refine ⟨groups, carried, ?_⟩
  rw [split, List.map_map, ← sent]
  simp

theorem length_of_mem_split {text message : String} (member : message ∈ split text) :
    1 ≤ message.length ∧ message.length ≤ 1900 := by
  obtain ⟨groups, _, sent⟩ := exists_groups_split text
  have sentMember : message.toList ∈ groups.flatMap Group.messages :=
    sent ▸ List.mem_map_of_mem member
  obtain ⟨group, _, inside⟩ := List.mem_flatMap.mp sentMember
  rw [← String.length_toList]
  exact group.length_of_mem_messages _ inside

theorem split_eq_nil_iff {text : String} : split text = [] ↔ Text.Blank text.toList = true := by
  obtain ⟨groups, carried, sent⟩ := exists_groups_split text
  rw [← paragraphs_eq_nil_iff, ← carried, ← List.map_eq_nil_iff (f := String.toList), sent]
  cases groups with
  | nil => simp
  | cons group groups => simp [group.messages_ne_nil, group.paragraphs_ne_nil]

theorem withoutBlanks_split (text : String) :
    withoutBlanks ((split text).flatMap String.toList) = withoutBlanks text.toList := by
  obtain ⟨groups, carried, sent⟩ := exists_groups_split text
  rw [List.flatMap_def, sent, withoutBlanks_flatMap_messages, carried, withoutBlanks_paragraphs]

/-- The messages of a text are those of groups of its paragraphs, each paragraph used once and in order.
Every message is within the limit and not empty, there are none exactly for white space, and apart from
white space the messages together are the text. -/
theorem split_eq_groups (text : String) :
    (∃ groups : List Group, ParagraphsOf text.toList (groups.flatMap Group.paragraphs) ∧
      (split text).map String.toList = groups.flatMap Group.messages) ∧
    (∀ message ∈ split text, 1 ≤ message.length ∧ message.length ≤ 1900) ∧
    (split text = [] ↔ ∀ char ∈ text.toList, Text.isBlank char = true) ∧
    withoutBlanks ((split text).flatMap String.toList) = withoutBlanks text.toList := by
  obtain ⟨groups, carried, sent⟩ := exists_groups_split text
  refine ⟨⟨groups, ?_, sent⟩, fun _ => length_of_mem_split, ?_, withoutBlanks_split text⟩
  · rw [carried]
    exact paragraphsOf_paragraphs text.toList
  · rw [split_eq_nil_iff, Text.Blank, List.all_eq_true]

/-- A paragraph of white space alone is dropped, and white space at the end of a paragraph goes. -/
theorem split_three_paragraphs :
    "First.\n\nSecond.\n\nThird." ∈ split "First.\n\nSecond.  \n\n\n \n\nThird." ∧
      1 ≤ "First.\n\nSecond.\n\nThird.".length ∧ "First.\n\nSecond.\n\nThird.".length ≤ 1900 := by
  have sent : "First.\n\nSecond.\n\nThird." ∈ split "First.\n\nSecond.  \n\n\n \n\nThird." := by
    decide
  exact ⟨sent, (split_eq_groups "First.\n\nSecond.  \n\n\n \n\nThird.").2.1 _ sent⟩

end TabletopBot.Message
