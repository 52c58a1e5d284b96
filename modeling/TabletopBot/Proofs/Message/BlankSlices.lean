import TabletopBot.Command.Ask
import TabletopBot.Proofs.Message.Packing

/-! # Blank messages

Blank paragraphs are dropped and paragraphs do not end in white space, so that a message of whole
paragraphs is never blank. A paragraph that is too long is cut at the limit whatever stands there: its
slices are all there is to be blank, apart from the last one, and `split_blank_iff` says when they are.
-/

namespace TabletopBot.Message

/-- A slice of white space within a paragraph that is too long, with more of the paragraph behind it. -/
structure BlankSlice (text slice : List Char) : Prop where
  within : ∃ paragraphs, ParagraphsOf text paragraphs ∧ ∃ paragraph ∈ paragraphs, ∃ before behind,
    paragraph = before ++ (slice ++ behind) ∧ 1900 ∣ before.length ∧ behind ≠ []
  length : slice.length = 1900
  blank : ∀ char ∈ slice, Text.isBlank char = true

/-- A text is cut into slices in one way. -/
theorem Slices.eq_slices {cut : List (List Char)} (shape : Slices cut) : cut = slices cut.flatten := by
  induction cut with
  | nil =>
    rw [List.flatten_nil, slices]
    rfl
  | cons slice others ih =>
    obtain ⟨least, most⟩ := shape.bounded slice List.mem_cons_self
    have cutAtLimit : (slice ++ others.flatten).take maxLength = slice ∧
        (slice ++ others.flatten).drop maxLength = others.flatten := by
      by_cases last : others = []
      · subst last
        rw [List.flatten_nil, List.append_nil]
        exact ⟨List.take_of_length_le most, List.drop_of_length_le most⟩
      · have full : slice.length = maxLength := shape.head_full last
        exact ⟨List.take_left' full, List.drop_left' full⟩
    have nonempty : (slice ++ others.flatten).isEmpty = false := by
      rw [List.isEmpty_eq_false_iff, ← List.length_pos_iff, List.length_append]
      omega
    rw [List.flatten_cons, slices, if_neg (by simp [nonempty]), cutAtLimit.1, cutAtLimit.2, ← ih shape.tail]

/-- A text that starts with whole slices is cut behind them. -/
theorem slices_append {before : List Char} (whole : 1900 ∣ before.length) (text : List Char) :
    slices (before ++ text) = slices before ++ slices text := by
  obtain ⟨count, size⟩ := whole
  induction count generalizing before with
  | zero =>
    obtain rfl : before = [] := List.length_eq_zero_iff.mp size
    rw [slices_eq_nil_iff.mpr rfl]
    rfl
  | succ count ih =>
    have shorter : (before.drop maxLength).length = 1900 * count := by
      rw [List.length_drop, size, maxLength]
      omega
    have nonempty : before ≠ [] := by
      rintro rfl
      simp at size
    have reaches : maxLength ≤ before.length := by
      rw [size, maxLength]
      omega
    conv_lhs => rw [slices, if_neg (by simp [nonempty])]
    conv_rhs => rw [slices, if_neg (by simpa using nonempty)]
    rw [List.take_append_of_le_length reaches, List.drop_append_of_le_length reaches, ih shorter,
      List.cons_append]

/-- A slice in front of the last one is any stretch of the greatest length at a multiple of it. -/
theorem mem_slices_of_whole {before slice : List Char} (whole : 1900 ∣ before.length)
    (full : slice.length = 1900) (behind : List Char) :
    slice ∈ slices (before ++ (slice ++ behind)) := by
  rw [slices_append whole, slices_append (full ▸ Nat.dvd_refl 1900)]
  refine List.mem_append_right _ (List.mem_append_left _ ?_)
  have nonempty : slice ≠ [] := List.length_pos_iff.mp (by omega)
  rw [slices, if_neg (by simpa using nonempty), List.take_of_length_le (by rw [full, maxLength])]
  exact List.mem_cons_self

/-- A slice stands at a multiple of the greatest length, and is full where something stands behind it. -/
theorem Slices.exists_of_mem {cut : List (List Char)} (shape : Slices cut) {slice : List Char}
    (member : slice ∈ cut) : ∃ before behind, cut.flatten = before ++ (slice ++ behind) ∧
      1900 ∣ before.length ∧ (behind ≠ [] → slice.length = 1900) := by
  induction cut with
  | nil => cases member
  | cons first others ih =>
    rcases List.mem_cons.mp member with rfl | later
    · refine ⟨[], others.flatten, rfl, Nat.dvd_zero _, fun further => shape.head_full ?_⟩
      rintro rfl
      exact further rfl
    · obtain ⟨before, behind, split, whole, full⟩ := ih shape.tail later
      have leading : first.length = 1900 := shape.head_full (List.ne_nil_of_mem later)
      refine ⟨first ++ before, behind, by rw [List.flatten_cons, split, List.append_assoc], ?_, full⟩
      rw [List.length_append, leading]
      exact Nat.dvd_add (Nat.dvd_refl 1900) whole

theorem isBlank_getLast_of_mem_paragraphs {text paragraph : List Char}
    (member : paragraph ∈ paragraphs text) : ∀ last ∈ paragraph.getLast?, Text.isBlank last = false := by
  obtain ⟨⟨piece, -, rfl⟩, -⟩ := mem_paragraphs_iff.mp member
  exact (Text.trimmed_trimEnd piece).ending

/-- The end of a paragraph is not blank, if there is any. -/
theorem eq_nil_of_blank_suffix {text paragraph blanks : List Char} (member : paragraph ∈ paragraphs text)
    (ending : blanks <:+ paragraph) (blank : ∀ char ∈ blanks, Text.isBlank char = true) : blanks = [] := by
  by_contra nonempty
  obtain ⟨front, last, rfl⟩ := List.eq_nil_or_concat blanks |>.resolve_left nonempty
  obtain ⟨before, rfl⟩ := ending
  have unblank := isBlank_getLast_of_mem_paragraphs member last (by simp)
  rw [blank last (by simp)] at unblank
  cases unblank

/-- A message that is shared by paragraphs is not blank. -/
theorem Sharing.not_blank {text : List Char} {shared : List (List Char)} (sharing : Sharing shared)
    (begun : shared ≠ []) (among : ∀ paragraph ∈ shared, paragraph ∈ paragraphs text) :
    ¬∀ char ∈ ['\n', '\n'].intercalate shared, Text.isBlank char = true := by
  intro blank
  obtain ⟨first, others, rfl⟩ := List.exists_cons_of_ne_nil begun
  have empty : first = [] := by
    refine eq_nil_of_blank_suffix (among first List.mem_cons_self) (List.suffix_refl first) ?_
    have all := blank_intercalate.mp (List.all_eq_true.mpr blank) first List.mem_cons_self
    exact List.all_eq_true.mp all
  exact sharing.nonempty first List.mem_cons_self empty

/-- A slice with nothing behind it is not blank. -/
theorem Slices.not_blank_of_suffix {text slice : List Char} {cut : List (List Char)} (shape : Slices cut)
    (inside : cut.flatten ∈ paragraphs text) (member : slice ∈ cut) (ending : slice <:+ cut.flatten) :
    ¬∀ char ∈ slice, Text.isBlank char = true := by
  intro blank
  have bounds := shape.bounded slice member
  rw [eq_nil_of_blank_suffix inside ending blank] at bounds
  exact absurd bounds.1 (by decide)

/-- The last message of a group of paragraphs is not blank. -/
theorem Group.exists_unblank_getLast {text : List Char} (group : Group)
    (among : ∀ paragraph ∈ group.paragraphs, paragraph ∈ Message.paragraphs text) :
    ∃ char ∈ group.messages.getLast group.messages_ne_nil, Text.isBlank char = false := by
  have solid : ¬∀ char ∈ group.messages.getLast group.messages_ne_nil, Text.isBlank char = true := by
    cases group with
    | packed shared begun sharing => exact sharing.not_blank begun among
    | sliced cut shape long =>
      have cut_ne_nil : cut ≠ [] := (sliced cut shape long).messages_ne_nil
      refine shape.not_blank_of_suffix (among _ (List.mem_singleton_self _)) (List.getLast_mem cut_ne_nil) ?_
      refine ⟨cut.dropLast.flatten, ?_⟩
      change _ ++ cut.getLast cut_ne_nil = _
      rw [← List.flatten_concat, List.dropLast_concat_getLast]
  simpa using solid

/-- Of the messages of a group of paragraphs only slices can be blank, and not the last one. -/
theorem blankSlice_of_mem_messages {text : List Char} {group : Group}
    (among : ∀ paragraph ∈ group.paragraphs, paragraph ∈ paragraphs text) {message : List Char}
    (member : message ∈ group.messages) (blank : ∀ char ∈ message, Text.isBlank char = true) :
    BlankSlice text message := by
  cases group with
  | packed shared begun sharing =>
    obtain rfl := List.mem_singleton.mp member
    exact absurd blank (sharing.not_blank begun among)
  | sliced slices shape long =>
    have inside : slices.flatten ∈ paragraphs text := among _ (List.mem_singleton_self _)
    obtain ⟨before, behind, split, whole, full⟩ := shape.exists_of_mem member
    have further : behind ≠ [] := by
      rintro rfl
      have ending : message <:+ slices.flatten := ⟨before, by rw [split, List.append_nil]⟩
      exact shape.not_blank_of_suffix inside member ending blank
    exact ⟨⟨_, paragraphsOf_paragraphs text, _, inside, before, behind, split, whole, further⟩,
      full further, blank⟩

/-- All slices of a paragraph that is too long are sent. -/
theorem mem_split_of_mem_slices {text : String} {paragraph slice : List Char}
    (inside : paragraph ∈ paragraphs text.toList) (long : 1900 < paragraph.length)
    (member : slice ∈ slices paragraph) : String.ofList slice ∈ split text := by
  obtain ⟨groups, carried, sent⟩ := exists_groups_split text
  rw [← carried] at inside
  obtain ⟨group, among, inside⟩ := List.mem_flatMap.mp inside
  have messages : slice ∈ group.messages := by
    cases group with
    | packed shared _ sharing =>
      have short := sharing.short paragraph inside
      omega
    | sliced cut shape _ =>
      obtain rfl := List.mem_singleton.mp inside
      rw [← shape.eq_slices] at member
      exact member
  have found : slice ∈ (split text).map String.toList :=
    sent ▸ List.mem_flatMap.mpr ⟨group, among, messages⟩
  obtain ⟨message, member, rfl⟩ := List.mem_map.mp found
  rwa [String.ofList_toList]

theorem BlankSlice.mem_split {text message : String} (slice : BlankSlice text.toList message.toList) :
    message ∈ split text := by
  obtain ⟨⟨found, holds, paragraph, inside, before, behind, rfl, whole, further⟩, full, -⟩ := slice
  rw [holds.eq_paragraphs] at inside
  have long : 1900 < (before ++ (message.toList ++ behind)).length := by
    have more := List.length_pos_iff.mpr further
    rw [List.length_append, List.length_append]
    omega
  have sent := mem_split_of_mem_slices inside long (mem_slices_of_whole whole full behind)
  rwa [String.ofList_toList] at sent

/-- A text that is not blank is sent in messages of which some are not blank. -/
theorem exists_unblank_mem_split {text : String} (unblank : Text.Blank text.toList = false) :
    ∃ message ∈ split text, ∃ char ∈ message.toList, Text.isBlank char = false := by
  by_contra nothing
  have blank : Text.Blank ((split text).flatMap String.toList) = true := by
    rw [Text.Blank, List.all_eq_true]
    intro char within
    obtain ⟨message, member, inside⟩ := List.mem_flatMap.mp within
    by_contra solid
    exact nothing ⟨message, member, char, inside, by simpa using solid⟩
  rw [← Text.withoutBlanks_eq_nil_iff, withoutBlanks_split, Text.withoutBlanks_eq_nil_iff, unblank] at blank
  cases blank

/-- An answer that is not blank is sent as the messages of its text. -/
theorem messages_answerReply {answer : String} (unblank : Text.Blank answer.toList = false) :
    (Command.answerReply (.ok answer)).messages = split answer := by
  have nonempty : split answer ≠ [] := by
    rw [ne_eq, split_eq_nil_iff, unblank]
    decide
  obtain ⟨content, followups, sent⟩ := List.exists_cons_of_ne_nil nonempty
  rw [Command.answerReply, if_neg (by simp [unblank]), sent]
  rfl

/-- A text without line feeds that does not end in white space is its only paragraph. -/
theorem paragraphsOf_single {text : List Char} (nonempty : text ≠ []) (single : '\n' ∉ text)
    (ending : ∀ last ∈ text.getLast?, Text.isBlank last = false) : ParagraphsOf text [text] := by
  refine ⟨[text], [text], ⟨List.intercalate_singleton, ?_, by simp⟩, ?_, by simp [nonempty]⟩
  · intro piece member inside
    obtain rfl := List.mem_singleton.mp member
    exact single (inside.subset List.mem_cons_self)
  · exact .cons ⟨⟨[], rfl, (List.append_nil text).symm⟩, ending⟩ .nil

/-- White space as long as a message, and a letter behind it. -/
def spacesAndLetter : List Char := List.replicate 1900 ' ' ++ ['b']

theorem blankSlice_spacesAndLetter : BlankSlice spacesAndLetter (List.replicate 1900 ' ') := by
  have single : '\n' ∉ spacesAndLetter := by
    intro member
    rcases List.mem_append.mp member with member | member
    · exact absurd (List.eq_of_mem_replicate member) (by decide)
    · exact absurd (List.mem_singleton.mp member) (by decide)
  have ending : ∀ last ∈ spacesAndLetter.getLast?, Text.isBlank last = false := by
    rw [spacesAndLetter, List.getLast?_concat]
    rintro last ⟨⟩
    decide
  have nonempty : spacesAndLetter ≠ [] := List.append_ne_nil_of_right_ne_nil _ (List.cons_ne_nil _ _)
  refine ⟨⟨_, paragraphsOf_single nonempty single ending, _, List.mem_singleton_self _, [], ['b'], rfl,
    Nat.dvd_zero _, List.cons_ne_nil _ _⟩, List.length_replicate, ?_⟩
  intro char member
  rw [List.eq_of_mem_replicate member]
  decide

theorem unblank_spacesAndLetter : Text.Blank (String.ofList spacesAndLetter).toList = false := by
  rw [String.toList_ofList, Text.Blank, List.all_eq_false]
  exact ⟨'b', List.mem_append_right _ (List.mem_singleton_self 'b'), by decide⟩

/-- The messages of a text that are blank are its slices of white space. In the groups of paragraphs that
the messages carry, no message that paragraphs share is blank, and no last slice of a paragraph. The messages
of an answer to a question are no others: there is always one among them that is not blank. -/
theorem split_blank_iff (text : String) :
    (∀ message, (message ∈ split text ∧ ∀ char ∈ message.toList, Text.isBlank char = true) ↔
      BlankSlice text.toList message.toList) ∧
    (∃ groups : List Group, ParagraphsOf text.toList (groups.flatMap Group.paragraphs) ∧
      (split text).map String.toList = groups.flatMap Group.messages ∧
      ∀ group ∈ groups, ∃ char ∈ group.messages.getLast group.messages_ne_nil,
        Text.isBlank char = false) ∧
    (Text.Blank text.toList = false →
      (Command.answerReply (.ok text)).messages = split text ∧
      ∃ message ∈ split text, ∃ char ∈ message.toList, Text.isBlank char = false) := by
  obtain ⟨groups, carried, sent⟩ := exists_groups_split text
  have inText : ∀ group ∈ groups, ∀ paragraph ∈ group.paragraphs, paragraph ∈ paragraphs text.toList := by
    intro group among paragraph inside
    exact carried ▸ List.mem_flatMap.mpr ⟨group, among, inside⟩
  refine ⟨fun message => ⟨?_, fun slice => ⟨slice.mem_split, slice.blank⟩⟩, ⟨groups, ?_, sent, ?_⟩,
    fun unblank => ⟨?_, ?_⟩⟩
  · rintro ⟨member, blank⟩
    have found : message.toList ∈ groups.flatMap Group.messages := sent ▸ List.mem_map_of_mem member
    obtain ⟨group, among, found⟩ := List.mem_flatMap.mp found
    exact blankSlice_of_mem_messages (inText group among) found blank
  · rw [carried]
    exact paragraphsOf_paragraphs text.toList
  · exact fun group among => group.exists_unblank_getLast (inText group among)
  · exact messages_answerReply unblank
  · exact exists_unblank_mem_split unblank

theorem split_blank_iff_of_spaces :
    Text.Blank (String.ofList spacesAndLetter).toList = false ∧
      (Command.answerReply (.ok (String.ofList spacesAndLetter))).messages =
        split (String.ofList spacesAndLetter) ∧
      ∃ message ∈ split (String.ofList spacesAndLetter),
        ∃ char ∈ message.toList, Text.isBlank char = false :=
  ⟨unblank_spacesAndLetter, (split_blank_iff _).2.2 unblank_spacesAndLetter⟩

/-- White space up to the limit with a letter behind it is no blank answer, and yet the first message of
the reply is blank. -/
theorem split_blank_message :
    Text.Blank (String.ofList spacesAndLetter).toList = false ∧
      ∃ message ∈ split (String.ofList spacesAndLetter),
        message ∈ (Command.answerReply (.ok (String.ofList spacesAndLetter))).messages ∧
        ∀ char ∈ message.toList, Text.isBlank char = true := by
  have first : String.ofList (List.replicate 1900 ' ') ∈ split (String.ofList spacesAndLetter) := by
    refine BlankSlice.mem_split ?_
    rw [String.toList_ofList, String.toList_ofList]
    exact blankSlice_spacesAndLetter
  refine ⟨unblank_spacesAndLetter, _, first, ?_, ?_⟩
  · rwa [messages_answerReply unblank_spacesAndLetter]
  · rw [String.toList_ofList]
    exact blankSlice_spacesAndLetter.blank

end TabletopBot.Message
