import TabletopBot.Text.Cut
import TabletopBot.Wiki.Preview
import TabletopBot.Proofs.Text.Pattern

/-! # Tags left in a preview

Clean-up replaces every tag it has chat markup for and drops every image, and folding lines neither makes
nor breaks a tag. Nothing looks at the text again where an image has gone, though: a tag is left exactly
when what stands before and behind the images joins to one.
-/

namespace TabletopBot.Wiki.Preview

open Text (InOrder Pattern)

/-- What makes up each tag: one word where there is chat markup for it, and for an image its beginning
with an end somewhere behind. -/
def tags : List (List String) := markup.map (fun (tag, _) => [tag]) ++ [["<img", ">"]]

/-- A text with a tag in it. -/
def Marked (text : List Char) : Prop := ∃ words ∈ tags, InOrder (words.map String.toList) text

/-- A text with an image in it. -/
def HasImage (text : List Char) : Prop := InOrder (["<img", ">"].map String.toList) text

/-- What is left of a text, piece by piece, when the images are taken out from left to right. -/
inductive Pieces : List Char → List (List Char) → Prop
  | rest {text : List Char} (clear : ¬ HasImage text) : Pieces text [text]
  | image {before inner behind : List Char} {pieces : List (List Char)}
      (first : ¬ "<img".toList <:+: before) (ends : '>' ∉ inner) (others : Pieces behind pieces) :
      Pieces (before ++ ("<img".toList ++ (inner ++ '>' :: behind))) (before :: pieces)

theorem Pieces.of_mem {text piece : List Char} {pieces : List (List Char)} (cut : Pieces text pieces)
    (member : piece ∈ pieces) : piece <:+: text ∧ ¬ HasImage piece := by
  induction cut with
  | rest clear =>
    cases List.mem_singleton.1 member
    exact ⟨List.infix_rfl, clear⟩
  | @image before inner behind pieces first ends others ih =>
    rcases List.mem_cons.1 member with rfl | member
    · refine ⟨(List.prefix_append _ _).isInfix, ?_⟩
      rintro ⟨front, back, rfl, -⟩
      exact first (List.infix_append front _ back)
    · obtain ⟨within, clear⟩ := ih member
      refine ⟨within.trans (List.IsSuffix.isInfix ?_), clear⟩
      exact ⟨before ++ ("<img".toList ++ (inner ++ ['>'])), by simp⟩

/-- The end of an image is the first one there is. -/
theorem length?_end (text : List Char) :
    Pattern.length? [.many (· != '>'), .one (· == '>')] text =
      (Text.cutAt? '>' text).map fun (inner, _) => inner.length + 1 := by
  induction text with
  | nil => simp [Pattern.length?, Text.cutAt?]
  | cons char chars ih =>
    rw [Pattern.length?, ih]
    by_cases last : char = '>'
    · simp [last, Pattern.length?, Text.cutAt?]
    · cases cut : Text.cutAt? '>' chars <;> simp [last, Pattern.length?, Text.cutAt?, cut]

theorem imageTag_length? (text : List Char) (length : Nat) :
    imageTag.length? text = some length ↔
      ∃ inner behind, text = "<img".toList ++ (inner ++ '>' :: behind) ∧ '>' ∉ inner ∧
        length = "<img".toList.length + (inner.length + 1) := by
  rw [imageTag, Pattern.length?_literal_append]
  constructor
  · rintro ⟨tail, rest, rfl, found, rfl⟩
    rw [length?_end] at found
    obtain ⟨⟨inner, behind⟩, cut, rfl⟩ := Option.map_eq_some_iff.1 found
    obtain ⟨rfl, absent⟩ := Text.eq_append_of_cutAt? cut
    exact ⟨inner, behind, rfl, absent, rfl⟩
  · rintro ⟨inner, behind, rfl, absent, rfl⟩
    refine ⟨_, inner.length + 1, rfl, ?_, rfl⟩
    rw [length?_end, Text.cutAt?_append absent]
    rfl

/-- Where no image is matched, no end stands behind a beginning. -/
theorem not_mem_of_unmatched {text tail : List Char}
    (unmatched : ∀ length, imageTag.length? text ≠ some (length + 1))
    (opens : text = "<img".toList ++ tail) : '>' ∉ tail := by
  intro ends
  obtain ⟨inner, behind, rfl, absent⟩ := List.eq_append_cons_of_mem ends
  exact unmatched _ ((imageTag_length? text _).2 ⟨inner, behind, opens, absent, rfl⟩)

theorem Pieces.keep {char : Char} {chars piece : List Char} {pieces : List (List Char)}
    (unmatched : ∀ length, imageTag.length? (char :: chars) ≠ some (length + 1))
    (cut : Pieces chars (piece :: pieces)) : Pieces (char :: chars) ((char :: piece) :: pieces) := by
  cases cut with
  | rest clear =>
    refine .rest ?_
    rintro ⟨before, behind, split, front, back, rfl, -⟩
    rw [List.append_assoc] at split
    rcases List.cons_eq_append_iff.1 split with ⟨rfl, opens⟩ | ⟨start, rfl, rfl⟩
    · exact not_mem_of_unmatched unmatched opens.symm (by simp)
    · exact clear ⟨start, _, (List.append_assoc ..).symm, front, back, rfl, trivial⟩
  | image first ends others =>
    have fresh : ¬ "<img".toList <:+: char :: piece := by
      rintro ⟨front, back, split⟩
      rw [List.append_assoc] at split
      rcases List.cons_eq_append_iff.1 split.symm with ⟨rfl, opens⟩ | ⟨front, rfl, rfl⟩
      · obtain ⟨rfl, rfl⟩ := List.cons_eq_cons.1 opens.symm
        exact not_mem_of_unmatched unmatched rfl (by simp)
      · exact first ⟨front, back, List.append_assoc ..⟩
    exact .image fresh ends others

theorem exists_pieces (text : List Char) :
    ∃ piece pieces, Pieces text (piece :: pieces) ∧ dropImages text = (piece :: pieces).flatten := by
  rw [dropImages]
  generalize rewritten : imageTag.replaceAll [] text = result
  have rewrites := Pattern.replaceAll_rewrites imageTag [] text
  rw [rewritten] at rewrites
  clear rewritten
  induction rewrites with
  | nil => exact ⟨[], [], .rest (by rintro ⟨before, behind, split, -⟩; simp at split), rfl⟩
  | @keep char chars result stay rest ih =>
    obtain ⟨piece, pieces, cut, rfl⟩ := ih
    exact ⟨char :: piece, pieces, cut.keep stay, rfl⟩
  | @swap old new chars result swapped rest ih =>
    obtain ⟨piece, pieces, cut, rfl⟩ := ih
    obtain ⟨⟨-, behind, found⟩, rfl⟩ := swapped
    obtain ⟨inner, tail, split, ends, size⟩ := (imageTag_length? ..).1 found
    refine ⟨[], piece :: pieces, ?_, rfl⟩
    have whole : old = "<img".toList ++ (inner ++ ['>']) := by
      refine (List.append_inj (split.trans (?_ : _ = _ ++ tail)) ?_).1
      · simp
      · rw [size]; simp; omega
    rw [whole]
    have taken : Pieces ([] ++ ("<img".toList ++ (inner ++ '>' :: chars))) ([] :: piece :: pieces) :=
      .image (by decide) ends cut
    simpa using taken

/-- Words apart from what is put in the place of tags do not come up while tags are replaced, and a tag
that has had its turn is gone. -/
theorem not_inOrder_replaceMarkup {words : List (List Char)} (nonempty : [] ∉ words)
    {rules : List (String × String)}
    (apart : ∀ rule ∈ rules, rule.2.toList ≠ [] ∧ ∀ word ∈ words, ∀ char ∈ word, char ∉ rule.2.toList)
    {text : List Char}
    (absent : ¬ InOrder words text ∨ ∃ rule ∈ rules, words = [rule.1.toList]) :
    ¬ InOrder words (rules.foldl
      (fun text (tag, mark) => (Pattern.literal tag).replaceAll mark.toList text) text) := by
  induction rules generalizing text with
  | nil => exact absent.resolve_right (by simp)
  | cons rule rules ih =>
    rw [List.foldl_cons]
    refine ih (fun other member => apart other (List.mem_cons_of_mem _ member)) ?_
    obtain ⟨solid, others⟩ := apart rule (List.mem_cons_self ..)
    rcases absent with absent | ⟨found, member, same⟩
    · exact .inl (mt (Pattern.inOrder_of_replaceAll nonempty solid others) absent)
    · rcases List.mem_cons.1 member with rfl | member
      · refine .inl ?_
        subst same
        refine Pattern.not_inOrder_replaceAll_literal ?_ solid (others _ (List.mem_singleton_self _)) text
        exact fun empty => nonempty (by rw [empty]; exact List.mem_singleton_self _)
      · exact .inr ⟨found, member, same⟩

-- The checks below run through lists as Booleans: a statement for all characters of a list could be
-- decided by trying every character there is.

/-- No character of a tag is put in by any of the replacements. -/
theorem apart_of_mem_tags : ∀ words ∈ tags, [] ∉ words.map String.toList ∧
    ∀ word ∈ words.map String.toList, ∀ char ∈ word, char ∉ ['\n'] ∧ ∀ rule ∈ markup,
      char ∉ rule.2.toList := by
  have nonempty : ∀ words ∈ tags, [] ∉ words.map String.toList := by decide
  have apart : tags.all fun words => (words.map String.toList).all fun word => word.all fun char =>
      decide (char ∉ ['\n']) && markup.all fun rule => decide (char ∉ rule.2.toList) := by decide
  simp only [List.all_eq_true, Bool.and_eq_true, decide_eq_true_eq] at apart
  exact fun words member => ⟨nonempty words member, apart words member⟩

/-- No character of a tag is white space. -/
theorem unblank_of_mem_tags : ∀ words ∈ tags, ∀ word ∈ words.map String.toList, ∀ char ∈ word,
    ∀ item ∈ newlineRun ++ blankLines, item.accepts char = false := by
  have unblank : tags.all fun words => (words.map String.toList).all fun word => word.all fun char =>
      (newlineRun ++ blankLines).all fun item => !item.accepts char := by decide
  simpa only [List.all_eq_true, Bool.not_eq_true'] using unblank

theorem marked_foldLines_iff (text : List Char) : Marked (foldLines text) ↔ Marked text := by
  constructor
  · rintro ⟨words, member, found⟩
    obtain ⟨nonempty, apart⟩ := apart_of_mem_tags words member
    have others : ∀ word ∈ words.map String.toList, ∀ char ∈ word, char ∉ ['\n'] :=
      fun word among char inside => (apart word among char inside).1
    refine ⟨words, member, ?_⟩
    exact Pattern.inOrder_of_replaceAll nonempty (by decide) others
      (Pattern.inOrder_of_replaceAll nonempty (by decide) others found)
  · rintro ⟨words, member, found⟩
    obtain ⟨nonempty, -⟩ := apart_of_mem_tags words member
    have refused := unblank_of_mem_tags words member
    refine ⟨words, member, ?_⟩
    apply Pattern.inOrder_replaceAll nonempty
    · exact fun word among char inside item items =>
        refused word among char inside item (List.mem_append_right _ items)
    · apply Pattern.inOrder_replaceAll nonempty _ _ found
      exact fun word among char inside item items =>
        refused word among char inside item (List.mem_append_left _ items)

theorem mem_tags_iff {words : List String} :
    words ∈ tags ↔ (∃ rule ∈ markup, words = [rule.1]) ∨ words = ["<img", ">"] := by
  simp [tags, eq_comm]

/-- Words that are apart from the markup are in the text with markup only if they were there before. -/
theorem not_inOrder_markup {words : List String} (member : words ∈ tags) {text : List Char}
    (absent : ¬ InOrder (words.map String.toList) text ∨ ∃ rule ∈ markup, words = [rule.1]) :
    ¬ InOrder (words.map String.toList) (replaceMarkup text) := by
  obtain ⟨nonempty, apart⟩ := apart_of_mem_tags words member
  refine not_inOrder_replaceMarkup nonempty (fun rule rules => ⟨?_, ?_⟩) (absent.imp_right ?_)
  · exact (by decide : ∀ rule ∈ markup, rule.2.toList ≠ []) rule rules
  · exact fun word among char inside => (apart word among char inside).2 rule rules
  · rintro ⟨rule, rules, rfl⟩
    exact ⟨rule, rules, rfl⟩

/-- No piece of the text between images has a tag by itself. -/
theorem Pieces.unmarked {text : List Char} {pieces : List (List Char)}
    (cut : Pieces (replaceMarkup text) pieces) : ∀ piece ∈ pieces, ¬ Marked piece := by
  rintro piece member ⟨words, among, found⟩
  obtain ⟨within, clear⟩ := cut.of_mem member
  rcases mem_tags_iff.1 among with replaced | rfl
  · exact not_inOrder_markup among (.inr replaced) (found.of_infix within)
  · exact clear found

/-- The preview has a tag in it exactly when the pieces between the images have one once they are joined.
No piece has one by itself, so each tag that is left is one that an image stood in the middle of. -/
theorem marked_clean_iff (html : String) :
    ∃ pieces, Pieces (replaceMarkup html.toList) pieces ∧ (∀ piece ∈ pieces, ¬ Marked piece) ∧
      (Marked (clean html).toList ↔ Marked pieces.flatten) := by
  obtain ⟨first, others, cut, dropped⟩ := exists_pieces (replaceMarkup html.toList)
  refine ⟨first :: others, cut, cut.unmarked, ?_⟩
  rw [clean, String.toList_ofList, marked_foldLines_iff, dropped]

/-- The image goes last, and what stood around it is a tag that is not looked for any more. -/
theorem marked_clean_image_within_tag :
    clean "<u<img>>" = "<u>" ∧ Marked (clean "<u<img>>").toList := by
  have joined : clean "<u<img>>" = "<u>" := by decide
  refine ⟨joined, ["<u>"], by decide, [], [], ?_, trivial⟩
  rw [joined]
  rfl

/-- Where there is no image to be dropped, no tag is left. -/
theorem not_marked_clean_of_not_hasImage (html : String) (clear : ¬ HasImage html.toList) :
    ¬ Marked (clean html).toList := by
  have still : ¬ HasImage (replaceMarkup html.toList) :=
    @not_inOrder_markup ["<img", ">"] (by decide) _ (.inl clear)
  obtain ⟨first, others, cut, dropped⟩ := exists_pieces (replaceMarkup html.toList)
  have unmarked := cut.unmarked
  rw [clean, String.toList_ofList, marked_foldLines_iff, dropped]
  generalize replaceMarkup html.toList = text at cut still
  cases cut with
  | rest =>
    rw [List.flatten_singleton]
    exact unmarked first (List.mem_singleton_self first)
  | @image _ inner behind =>
    refine absurd ⟨first, inner ++ '>' :: behind, (List.append_assoc ..).symm, ?_⟩ still
    exact ⟨inner, behind, by simp, trivial⟩

end TabletopBot.Wiki.Preview
