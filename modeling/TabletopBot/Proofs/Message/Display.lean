import TabletopBot.Reply
import TabletopBot.Proofs.Message.Fewest

/-! # What is shown of a split text

The messages of a reply are shown with an empty line between them, which is also what stands between the
paragraphs in one message. So where no paragraph is too long, the reply shows the paragraphs of the text
joined by empty lines, whichever of them share a message. Paragraphs do not end in a line feed, so that what
was joined is cut where it was joined, even where the next paragraph starts with one: splitting what is
shown, or one message of it, finds the same paragraphs again (`split_render_stable`).
-/

namespace TabletopBot

/-- Messages that are not empty are shown with an empty line between them. -/
theorem Reply.render_ofMessages {messages : List String} (nonempty : "" ∉ messages) :
    (Reply.ofMessages messages).render = "\n\n".intercalate messages := by
  cases messages with
  | nil => rfl
  | cons content followups =>
    have shown : content.isEmpty = false := by
      rw [Bool.eq_false_iff, ne_eq, String.isEmpty_iff]
      rintro rfl
      exact nonempty List.mem_cons_self
    rw [Reply.render, Reply.sections, Reply.ofMessages, if_neg (by simp [shown])]
    rfl

namespace Message

/-- A text that is one paragraph: it is not empty, has no empty line in it and does not end in white
space. -/
structure Settled (paragraph : List Char) : Prop where
  nonempty : paragraph ≠ []
  whole : ¬separator <:+: paragraph
  ending : ∀ last ∈ paragraph.getLast?, Text.isBlank last = false

theorem settled_of_mem_paragraphs {text paragraph : List Char} (member : paragraph ∈ paragraphs text) :
    Settled paragraph := by
  obtain ⟨⟨piece, within, rfl⟩, nonempty⟩ := mem_paragraphs_iff.mp member
  refine ⟨nonempty, fun inside => ?_, (Text.trimmed_trimEnd piece).ending⟩
  obtain ⟨blanks, -, shape⟩ := Text.trimEnd_append_blanks piece
  have front : Text.trimEnd piece <+: piece := ⟨blanks, shape.symm⟩
  exact (cut_pieces text).separated piece within (inside.trans front.isInfix)

theorem cut_intercalate {found : List (List Char)} (settled : ∀ paragraph ∈ found, Settled paragraph) :
    Cut (separator.intercalate found) found where
  joined := rfl
  separated paragraph member := (settled paragraph member).whole
  leftmost paragraph member ending := by
    obtain ⟨front, rfl⟩ := ending
    have unblank := (settled _ (List.mem_of_mem_dropLast member)).ending '\n' (by simp)
    exact absurd unblank (by decide)

/-- The paragraphs of joined paragraphs are those that were joined. -/
theorem paragraphs_intercalate {found : List (List Char)}
    (settled : ∀ paragraph ∈ found, Settled paragraph) :
    paragraphs (separator.intercalate found) = found := by
  refine (ParagraphsOf.eq_paragraphs ⟨found, found, cut_intercalate settled, ?_, ?_⟩).symm
  · rw [List.forall₂_same]
    intro paragraph member
    exact ⟨⟨[], rfl, (List.append_nil paragraph).symm⟩, (settled paragraph member).ending⟩
  · rw [List.filter_eq_self]
    intro paragraph member
    exact decide_eq_true (settled paragraph member).nonempty

/-- Joining messages joins the paragraphs in them. -/
theorem intercalate_map_intercalate {shared : List (List (List Char))}
    (nonempty : ∀ group ∈ shared, group ≠ []) :
    separator.intercalate (shared.map separator.intercalate) = separator.intercalate shared.flatten := by
  induction shared with
  | nil => rfl
  | cons group others ih =>
    obtain ⟨here, further⟩ := List.forall_mem_cons.mp nonempty
    by_cases last : others = []
    · simp [last]
    · have more : others.flatten ≠ [] := by
        obtain ⟨second, rest, rfl⟩ := List.exists_cons_of_ne_nil last
        exact List.append_ne_nil_of_left_ne_nil (further second List.mem_cons_self) _
      rw [List.map_cons, List.intercalate_cons_of_ne_nil (by simpa using last), ih further,
        List.flatten_cons, intercalate_append here more]

/-- A group without a paragraph that is too long is sent as one message. -/
theorem Group.packed_of_short {group : Group}
    (short : ∀ paragraph ∈ group.paragraphs, paragraph.length ≤ 1900) :
    Sharing group.paragraphs ∧ group.messages = [separator.intercalate group.paragraphs] := by
  cases group with
  | packed paragraphs nonempty sharing => exact ⟨sharing, rfl⟩
  | sliced slices shape long =>
    have bound := short slices.flatten (List.mem_singleton_self _)
    exact absurd long (Nat.not_lt.mpr bound)

/-- Where no paragraph is too long, every message is the join of paragraphs that share it. -/
theorem exists_sharing_split {text : String}
    (short : ∀ paragraph ∈ paragraphs text.toList, paragraph.length ≤ 1900) :
    ∃ shared : List (List (List Char)), shared.flatten = paragraphs text.toList ∧
      (∀ group ∈ shared, group ≠ [] ∧ Sharing group) ∧
      (split text).map String.toList = shared.map separator.intercalate := by
  obtain ⟨groups, carried, sent⟩ := exists_groups_split text
  have packed (group : Group) (member : group ∈ groups) :
      Sharing group.paragraphs ∧ group.messages = [separator.intercalate group.paragraphs] := by
    refine Group.packed_of_short fun paragraph inside => short paragraph ?_
    exact carried ▸ List.mem_flatMap.mpr ⟨group, member, inside⟩
  refine ⟨groups.map Group.paragraphs, carried, ?_, ?_⟩
  · intro paragraphs member
    obtain ⟨group, among, rfl⟩ := List.mem_map.mp member
    exact ⟨group.paragraphs_ne_nil, (packed group among).1⟩
  · rw [sent, List.map_map, List.map_eq_flatMap]
    exact List.flatMap_congr fun group member => (packed group member).2

/-- Paragraphs that share a message are sent as that message. -/
theorem split_intercalate_of_sharing {shared : List (List Char)} (nonempty : shared ≠ [])
    (sharing : Sharing shared) (settled : ∀ paragraph ∈ shared, Settled paragraph) :
    split (String.ofList (separator.intercalate shared)) =
      [String.ofList (separator.intercalate shared)] := by
  have begun : separator.intercalate shared ≠ [] :=
    fun empty => nonempty (sharing.intercalate_eq_nil_iff.mp empty)
  have filled := pack_of_sharing sharing []
  rw [List.append_nil, pack, finished, if_neg (by simpa using begun)] at filled
  rw [split, String.toList_ofList, paragraphs_intercalate settled, filled, List.map_singleton]

/-- A reply of messages without a paragraph that is too long shows all paragraphs, joined by empty lines. -/
theorem render_ofMessages_split {text : String}
    (short : ∀ paragraph ∈ paragraphs text.toList, paragraph.length ≤ 1900) :
    (Reply.ofMessages (split text)).render =
      String.ofList (separator.intercalate (paragraphs text.toList)) := by
  obtain ⟨shared, carried, sharing, sent⟩ := exists_sharing_split short
  have nonempty : "" ∉ split text := fun member => absurd (length_of_mem_split member).1 (by decide)
  have joined := intercalate_map_intercalate fun group member => (sharing group member).1
  rw [Reply.render_ofMessages nonempty, ← carried, ← joined, ← sent]
  exact String.toList_inj.mp (String.toList_intercalate.trans String.toList_ofList.symm)

/-- Where none of its paragraphs is too long, the reply to a text shows them joined by empty lines. Splitting
what is shown gives the same messages again, and splitting one of them gives just that message. -/
theorem split_render_stable {text : String} {found : List (List Char)}
    (holds : ParagraphsOf text.toList found) (short : ∀ paragraph ∈ found, paragraph.length ≤ 1900) :
    (Reply.ofMessages (split text)).render = String.ofList (['\n', '\n'].intercalate found) ∧
      split (Reply.ofMessages (split text)).render = split text ∧
      ∀ message ∈ split text, split message = [message] := by
  obtain rfl := holds.eq_paragraphs
  have shown := render_ofMessages_split short
  refine ⟨shown, ?_, ?_⟩
  · rw [shown, split, String.toList_ofList, split,
      paragraphs_intercalate fun _ member => settled_of_mem_paragraphs member]
  · intro message member
    obtain ⟨shared, carried, sharing, sent⟩ := exists_sharing_split short
    have among : message.toList ∈ shared.map separator.intercalate := sent ▸ List.mem_map_of_mem member
    obtain ⟨group, inside, joined⟩ := List.mem_map.mp among
    have settled : ∀ paragraph ∈ group, Settled paragraph := fun paragraph within =>
      settled_of_mem_paragraphs (carried ▸ List.mem_flatten.mpr ⟨group, inside, within⟩)
    obtain ⟨nonempty, fits⟩ := sharing group inside
    rw [← String.ofList_toList (s := message), ← joined]
    exact split_intercalate_of_sharing nonempty fits settled

/-- A paragraph may start with a line feed: it stands behind three of them where it is joined to another,
and it is found again there. -/
theorem split_render_stable_of_three_feeds :
    ParagraphsOf "a \n\n\nb\n\n \n\nc".toList [['a'], ['\n', 'b'], ['c']] ∧
      (Reply.ofMessages (split "a \n\n\nb\n\n \n\nc")).render = "a\n\n\nb\n\nc" ∧
      split "a\n\n\nb\n\nc" = split "a \n\n\nb\n\n \n\nc" := by
  have holds := paragraphsOf_paragraphs "a \n\n\nb\n\n \n\nc".toList
  have found : paragraphs "a \n\n\nb\n\n \n\nc".toList = [['a'], ['\n', 'b'], ['c']] := by decide
  rw [found] at holds
  obtain ⟨shown, again, -⟩ := split_render_stable holds (by decide)
  have displayed : (Reply.ofMessages (split "a \n\n\nb\n\n \n\nc")).render = "a\n\n\nb\n\nc" := shown
  exact ⟨holds, displayed, displayed ▸ again⟩

end Message

end TabletopBot
