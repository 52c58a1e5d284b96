import TabletopBot.Text.Pattern

/-! # What replacement does to the words of a text

Replacement keeps some characters and puts another stretch in the place of each match. Words that share
no character with what goes are still there afterwards, and words that share no character with what comes
were there before: it is the same argument, read from the other side. Where it is known what is matched at
the front of a text, replacement goes stretch by stretch.
-/

namespace TabletopBot.Text

/-- Words stand in a text one behind the other, with anything before, between and behind them. -/
def InOrder : List (List Char) → List Char → Prop
  | [], _ => True
  | word :: words, text => ∃ before behind, text = before ++ word ++ behind ∧ InOrder words behind

theorem InOrder.of_infix {words : List (List Char)} {part text : List Char} (found : InOrder words part)
    (within : part <:+: text) : InOrder words text := by
  induction words generalizing part text with
  | nil => exact trivial
  | cons word words ih =>
    obtain ⟨before, behind, rfl, rest⟩ := found
    obtain ⟨front, back, rfl⟩ := within
    refine ⟨front ++ before, behind ++ back, by simp only [List.append_assoc], ?_⟩
    exact ih rest (List.prefix_append behind back).isInfix

/-- A text beside what becomes of it: characters that stay, and stretches with others in their place. -/
inductive Rewrites (stays swaps : List Char → List Char → Prop) : List Char → List Char → Prop
  | nil : Rewrites stays swaps [] []
  | keep {char : Char} {chars result : List Char} (stay : stays (char :: chars) (char :: result))
      (rest : Rewrites stays swaps chars result) :
      Rewrites stays swaps (char :: chars) (char :: result)
  | swap {old new chars result : List Char} (swapped : swaps old new)
      (rest : Rewrites stays swaps chars result) :
      Rewrites stays swaps (old ++ chars) (new ++ result)

namespace Rewrites

variable {stays swaps : List Char → List Char → Prop} {text result : List Char}

theorem symm (rewrites : Rewrites stays swaps text result) :
    Rewrites (flip stays) (flip swaps) result text := by
  induction rewrites with
  | nil => exact .nil
  | keep stay rest ih => exact .keep stay ih
  | swap swapped rest ih => exact .swap swapped ih

/-- A character that is in no stretch that goes stays where it is. -/
theorem exists_char {char : Char} (apart : ∀ old new, swaps old new → char ∉ old)
    (rewrites : Rewrites stays swaps text result) {before behind : List Char}
    (split : text = before ++ char :: behind) :
    ∃ front back, result = front ++ char :: back ∧ stays (char :: behind) (char :: back) ∧
      Rewrites stays swaps behind back := by
  induction rewrites generalizing before with
  | nil => simp at split
  | @keep kept chars result stay rest ih =>
    rcases List.cons_eq_append_iff.1 split with ⟨rfl, same⟩ | ⟨before, rfl, inner⟩
    · obtain ⟨rfl, rfl⟩ := List.cons.inj same
      exact ⟨[], result, rfl, stay, rest⟩
    · obtain ⟨front, back, rfl, stay, rest⟩ := ih inner
      exact ⟨kept :: front, back, rfl, stay, rest⟩
  | @swap old new chars result swapped rest ih =>
    -- the character cannot be inside the stretch that goes, so the cut is at its end or behind it
    rcases List.append_eq_append_iff.1 split with ⟨before, rfl, inner⟩ | ⟨within, rfl, inner⟩
    · obtain ⟨front, back, rfl, stay, rest⟩ := ih inner
      exact ⟨new ++ front, back, by rw [List.append_assoc], stay, rest⟩
    · rcases List.cons_eq_append_iff.1 inner with ⟨rfl, inner⟩ | ⟨within, rfl, -⟩
      · obtain ⟨front, back, rfl, stay, rest⟩ := @ih [] inner.symm
        exact ⟨new ++ front, back, by rw [List.append_assoc], stay, rest⟩
      · exact absurd (List.mem_append_right before (List.mem_cons_self ..)) (apart _ _ swapped)

/-- A word at the front stays whole when nothing can come in between its characters. -/
theorem exists_front {word behind : List Char}
    (apart : ∀ old new, swaps old new → old ≠ [] ∧ ∀ char ∈ word, char ∉ old)
    (rewrites : Rewrites stays swaps (word ++ behind) result) :
    ∃ back, result = word ++ back ∧ Rewrites stays swaps behind back := by
  induction word generalizing result with
  | nil => exact ⟨result, rfl, rewrites⟩
  | cons char word ih =>
    generalize whole : char :: word ++ behind = text at rewrites
    cases rewrites with
    | nil => exact absurd whole (by simp)
    | keep stay rest =>
      obtain ⟨rfl, rfl⟩ := List.cons.inj whole
      obtain ⟨back, rfl, others⟩ := ih (fun old new swapped => ⟨(apart old new swapped).1,
        fun other member => (apart old new swapped).2 other (List.mem_cons_of_mem _ member)⟩) rest
      exact ⟨back, rfl, others⟩
    | @swap old new chars result swapped rest =>
      obtain ⟨solid, others⟩ := apart old new swapped
      obtain ⟨first, old, rfl⟩ := List.exists_cons_of_ne_nil solid
      obtain ⟨rfl, -⟩ := List.cons.inj whole
      exact absurd (List.mem_cons_self ..) (others char (List.mem_cons_self ..))

/-- A word that shares no character with what goes stays whole. -/
theorem exists_word {word before behind : List Char} (nonempty : word ≠ [])
    (apart : ∀ old new, swaps old new → old ≠ [] ∧ ∀ char ∈ word, char ∉ old)
    (rewrites : Rewrites stays swaps text result) (split : text = before ++ word ++ behind) :
    ∃ front back, result = front ++ word ++ back ∧ stays (word ++ behind) (word ++ back) ∧
      Rewrites stays swaps behind back := by
  obtain ⟨char, word, rfl⟩ := List.exists_cons_of_ne_nil nonempty
  rw [List.append_assoc, List.cons_append] at split
  obtain ⟨front, back, rfl, stay, rest⟩ := rewrites.exists_char
    (fun old new swapped => (apart old new swapped).2 char (List.mem_cons_self ..)) split
  obtain ⟨back, rfl, others⟩ := rest.exists_front fun old new swapped => ⟨(apart old new swapped).1,
    fun other member => (apart old new swapped).2 other (List.mem_cons_of_mem _ member)⟩
  exact ⟨front, back, by simp only [List.append_assoc, List.cons_append], stay, others⟩

/-- Words that share no character with what goes stay, in their order. -/
theorem inOrder {words : List (List Char)} (nonempty : [] ∉ words)
    (apart : ∀ old new, swaps old new → old ≠ [] ∧ ∀ word ∈ words, ∀ char ∈ word, char ∉ old)
    (rewrites : Rewrites stays swaps text result) (found : InOrder words text) :
    InOrder words result := by
  induction words generalizing text result with
  | nil => exact trivial
  | cons word words ih =>
    obtain ⟨before, behind, split, found⟩ := found
    obtain ⟨first, others⟩ := not_or.1 (mt List.mem_cons.2 nonempty)
    obtain ⟨front, back, rfl, -, rest⟩ := rewrites.exists_word (Ne.symm first)
      (fun old new swapped => ⟨(apart old new swapped).1,
        (apart old new swapped).2 word (List.mem_cons_self ..)⟩) split
    refine ⟨front, back, rfl, ih others (fun old new swapped => ⟨(apart old new swapped).1,
      fun other member => (apart old new swapped).2 other (List.mem_cons_of_mem _ member)⟩) rest found⟩

end Rewrites

/-- The characters that an item accepts. -/
def PatternItem.accepts : PatternItem → Char → Bool
  | .one accepts => accepts
  | .many accepts => accepts

namespace Pattern

/-- Each character is one that some item accepts. -/
def Accepts (pattern : Pattern) (old : List Char) : Prop :=
  ∀ char ∈ old, ∃ item ∈ pattern, item.accepts char = true

theorem Accepts.behind {pattern : Pattern} {old : List Char} (accepts : Accepts pattern old)
    (item : PatternItem) : Accepts (item :: pattern) old := by
  intro char member
  obtain ⟨found, among, accepted⟩ := accepts char member
  exact ⟨found, List.mem_cons_of_mem item among, accepted⟩

theorem Accepts.cons {pattern : Pattern} {item : PatternItem} {char : Char} {old : List Char}
    (accepted : item.accepts char = true) (accepts : Accepts (item :: pattern) old) :
    Accepts (item :: pattern) (char :: old) :=
  List.forall_mem_cons.2 ⟨⟨item, List.mem_cons_self .., accepted⟩, accepts⟩

/-- A match is the front of the text, of characters that the items accept. -/
theorem exists_of_length?_eq_some {pattern : Pattern} {text : List Char} {length : Nat}
    (found : pattern.length? text = some length) :
    ∃ old behind, text = old ++ behind ∧ old.length = length ∧ pattern.Accepts old := by
  fun_induction length? pattern text generalizing length with
  | case1 chars =>
    cases found
    exact ⟨[], chars, rfl, rfl, by simp [Accepts]⟩
  | case2 => cases found
  | case3 accepts items char chars accepted ih =>
    obtain ⟨length, inner, rfl⟩ := Option.map_eq_some_iff.1 found
    obtain ⟨old, behind, rfl, rfl, all⟩ := ih inner
    exact ⟨char :: old, behind, rfl, rfl, (all.behind _).cons accepted⟩
  | case4 => cases found
  | case6 accepts items char chars accepted length inner ih =>
    cases found
    obtain ⟨old, behind, rfl, rfl, all⟩ := ih inner
    exact ⟨char :: old, behind, rfl, rfl, all.cons accepted⟩
  | case5 _ _ ih | case7 _ _ _ _ _ _ _ ih | case8 _ _ _ _ _ ih =>
    obtain ⟨old, behind, split, size, all⟩ := ih found
    exact ⟨old, behind, split, size, all.behind _⟩

/-- A pattern matches a stretch when it does so in front of some text. -/
def Matches (pattern : Pattern) (old : List Char) : Prop :=
  old ≠ [] ∧ ∃ behind, pattern.length? (old ++ behind) = some old.length

theorem Matches.accepts {pattern : Pattern} {old : List Char} (found : pattern.Matches old) :
    pattern.Accepts old := by
  obtain ⟨-, behind, length⟩ := found
  obtain ⟨front, back, split, size, all⟩ := exists_of_length?_eq_some length
  rw [(List.append_inj split size.symm).1]
  exact all

theorem replaceBehind_rewrites (pattern : Pattern) (replacement : List Char) (dropped : Nat)
    (text : List Char) :
    Rewrites (fun front _ => ∀ length, pattern.length? front ≠ some (length + 1))
      (fun old new => pattern.Matches old ∧ new = replacement)
      (text.drop dropped) (replaceBehind pattern replacement dropped text) := by
  fun_induction replaceBehind pattern replacement dropped text with
  | case1 dropped =>
    rw [List.drop_nil]
    exact .nil
  | case2 dropped char chars ih => exact ih
  | case3 char chars length found ih =>
    obtain ⟨old, behind, split, size, -⟩ := exists_of_length?_eq_some found
    obtain ⟨first, old, rfl⟩ := List.exists_cons_of_length_eq_add_one size
    obtain ⟨rfl, rfl⟩ := List.cons_eq_cons.1 (split.trans (List.cons_append ..))
    rw [List.drop_left' (Nat.succ.inj size)] at ih
    have matched : pattern.Matches (char :: old) :=
      ⟨List.cons_ne_nil _ _, behind, by rw [size]; exact found⟩
    exact .swap ⟨matched, rfl⟩ ih
  | case4 char chars unmatched ih => exact .keep unmatched ih

/-- Replacement keeps the characters at which nothing is matched and puts the other text in the place of
each match. -/
theorem replaceAll_rewrites (pattern : Pattern) (replacement text : List Char) :
    Rewrites (fun front _ => ∀ length, pattern.length? front ≠ some (length + 1))
      (fun old new => pattern.Matches old ∧ new = replacement)
      text (pattern.replaceAll replacement text) := by
  rw [replaceAll_eq]
  exact replaceBehind_rewrites pattern replacement 0 text

theorem replaceBehind_eq_drop (pattern : Pattern) (replacement : List Char) (dropped : Nat)
    (text : List Char) :
    replaceBehind pattern replacement dropped text =
      replaceBehind pattern replacement 0 (text.drop dropped) := by
  induction text generalizing dropped with
  | nil => rw [List.drop_nil, replaceBehind, replaceBehind]
  | cons char chars ih =>
    cases dropped with
    | zero => rfl
    | succ dropped => exact ih dropped

/-- A match at the front is replaced, and replacement goes on behind it. -/
theorem replaceAll_append {pattern : Pattern} {old rest : List Char} (solid : old ≠ [])
    (found : pattern.length? (old ++ rest) = some old.length) (replacement : List Char) :
    pattern.replaceAll replacement (old ++ rest) =
      replacement ++ pattern.replaceAll replacement rest := by
  obtain ⟨char, old, rfl⟩ := List.exists_cons_of_ne_nil solid
  rw [replaceAll_eq, replaceAll_eq]
  rw [List.cons_append, List.length_cons] at found
  simp only [List.cons_append, replaceBehind, found]
  rw [replaceBehind_eq_drop, List.drop_left]

/-- A character at which nothing is matched stays. -/
theorem replaceAll_cons {pattern : Pattern} {char : Char} {chars : List Char}
    (unmatched : pattern.length? (char :: chars) = none) (replacement : List Char) :
    pattern.replaceAll replacement (char :: chars) =
      char :: pattern.replaceAll replacement chars := by
  rw [replaceAll_eq, replaceAll_eq]
  simp only [replaceBehind, unmatched]

/-- A stretch in which nothing is matched stays. -/
theorem replaceAll_append_of_unmatched {pattern : Pattern} {part rest : List Char}
    (unmatched : ∀ tail, tail <:+ part → tail ≠ [] → pattern.length? (tail ++ rest) = none)
    (replacement : List Char) :
    pattern.replaceAll replacement (part ++ rest) = part ++ pattern.replaceAll replacement rest := by
  induction part with
  | nil => rfl
  | cons char part ih =>
    have here : pattern.length? (char :: part ++ rest) = none :=
      unmatched _ List.suffix_rfl (List.cons_ne_nil _ _)
    rw [List.cons_append] at here ⊢
    rw [replaceAll_cons here, List.cons_append]
    rw [ih fun tail suffix => unmatched tail (suffix.trans (List.suffix_cons char part))]

theorem length?_many (accepts : Char → Bool) (text : List Char) :
    length? [.many accepts] text = some (text.takeWhile accepts).length := by
  induction text with
  | nil => rw [length?, length?]; rfl
  | cons char chars ih =>
    rw [length?, ih]
    cases accepted : accepts char <;> simp [accepted, length?]

theorem length?_literal_append (word : String) (items : Pattern) (text : List Char) (length : Nat) :
    (literal word ++ items).length? text = some length ↔
      ∃ behind rest, text = word.toList ++ behind ∧ items.length? behind = some rest ∧
        length = word.toList.length + rest := by
  rw [literal]
  induction word.toList generalizing text length with
  | nil => simp
  | cons char word ih =>
    cases text with
    | nil => simp [length?]
    | cons first text =>
      rw [List.map_cons, List.cons_append, length?]
      by_cases same : first = char
      · simp only [same, beq_self_eq_true, if_true, Option.map_eq_some_iff, ih, List.cons_append,
          List.cons.injEq, true_and, List.length_cons]
        constructor
        · rintro ⟨_, ⟨behind, rest, rfl, found, rfl⟩, rfl⟩
          exact ⟨behind, rest, rfl, found, by omega⟩
        · rintro ⟨behind, rest, rfl, found, rfl⟩
          exact ⟨_, ⟨behind, rest, rfl, found, rfl⟩, by omega⟩
      · simp [same]

/-- A word with a character that a text does not have is not replaced in it. -/
theorem replaceAll_literal_append_of_not_mem {word : String} {char : Char} (needed : char ∈ word.toList)
    (items : Pattern) (replacement : List Char) {text : List Char} (absent : char ∉ text) :
    (literal word ++ items).replaceAll replacement text = text := by
  have unmatched : ∀ tail, tail <:+ text → tail ≠ [] →
      (literal word ++ items).length? (tail ++ []) = none := by
    rintro tail suffix -
    rw [List.append_nil, Option.eq_none_iff_forall_ne_some]
    intro length found
    obtain ⟨behind, rest, rfl, -⟩ := (length?_literal_append ..).1 found
    exact absent (suffix.subset (List.mem_append_left behind needed))
  have whole := replaceAll_append_of_unmatched unmatched replacement
  rw [List.append_nil] at whole
  rw [whole, replaceAll_eq, replaceBehind, List.append_nil]

/-- A tag that is replaced by a text apart from it is nowhere in the outcome. -/
theorem not_inOrder_replaceAll_literal {tag : String} {replacement : List Char}
    (nonempty : tag.toList ≠ []) (solid : replacement ≠ [])
    (apart : ∀ char ∈ tag.toList, char ∉ replacement) (text : List Char) :
    ¬ InOrder [tag.toList] ((literal tag).replaceAll replacement text) := by
  rintro ⟨before, behind, split, -⟩
  obtain ⟨front, back, -, stay, -⟩ :=
    (replaceAll_rewrites (literal tag) replacement text).symm.exists_word nonempty
      (by rintro old new ⟨-, rfl⟩; exact ⟨solid, apart⟩) split
  obtain ⟨first, rest, tagged⟩ := List.exists_cons_of_ne_nil nonempty
  refine stay rest.length ?_
  rw [← List.append_nil (literal tag), length?_literal_append]
  exact ⟨back, 0, rfl, by rw [length?], by rw [tagged]; rfl⟩

/-- What was not there before replacement is not there after it either, when it shares no character with
the text put in. -/
theorem inOrder_of_replaceAll {pattern : Pattern} {replacement : List Char} {words : List (List Char)}
    (nonempty : [] ∉ words) (solid : replacement ≠ [])
    (apart : ∀ word ∈ words, ∀ char ∈ word, char ∉ replacement) {text : List Char}
    (found : InOrder words (pattern.replaceAll replacement text)) : InOrder words text := by
  refine (replaceAll_rewrites pattern replacement text).symm.inOrder nonempty ?_ found
  rintro old new ⟨-, rfl⟩
  exact ⟨solid, apart⟩

/-- Words of characters that a pattern does not accept are still there after replacement. -/
theorem inOrder_replaceAll {pattern : Pattern} {words : List (List Char)} (nonempty : [] ∉ words)
    (apart : ∀ word ∈ words, ∀ char ∈ word, ∀ item ∈ pattern, item.accepts char = false)
    (replacement : List Char) {text : List Char} (found : InOrder words text) :
    InOrder words (pattern.replaceAll replacement text) := by
  refine (replaceAll_rewrites pattern replacement text).inOrder nonempty ?_ found
  rintro old new ⟨matched, -⟩
  refine ⟨matched.1, fun word among char member within => ?_⟩
  obtain ⟨item, items, accepted⟩ := matched.accepts char within
  exact absurd accepted (by rw [apart word among char member item items]; decide)

end Pattern

end TabletopBot.Text
