import TabletopBot.Text.Cut
import TabletopBot.Wiki.Preview
import TabletopBot.Proofs.Text.Pattern
import TabletopBot.Proofs.Text.Stretches

/-! # Line breaks in a preview

Folding looks for line feeds in a row, and then for white space with two line feeds in it. Together the
two do one thing to each stretch of white space by itself, and nothing to the text between: a stretch
that still has two line feeds when those in a row are one becomes a line feed. A text that is folded has
nothing left to fold.
-/

namespace TabletopBot.Wiki.Preview

open Text (Blank Pattern Stretches isBlank withoutBlanks)

/-- Drops the line feeds that stand in front of another one, which leaves one of those in a row. -/
def collapse : List Char → List Char
  | [] => []
  | char :: chars =>
    if char = '\n' ∧ chars.head? = some '\n' then collapse chars else char :: collapse chars

theorem isNewline_iff {char : Char} : isNewline char = true ↔ char = '\n' := by
  rw [isNewline, beq_iff_eq]

theorem newlineRun_length?_eq_none {char : Char} {chars : List Char}
    (single : ¬ (char = '\n' ∧ chars.head? = some '\n')) :
    newlineRun.length? (char :: chars) = none := by
  by_cases feed : char = '\n'
  · cases chars with
    | nil => simp [newlineRun, Pattern.length?]
    | cons second chars =>
      have other : second ≠ '\n' := by simpa [feed] using single
      simp [newlineRun, Pattern.length?, isNewline, other]
  · simp [newlineRun, Pattern.length?, isNewline, feed]

/-- A line feed and those behind it are one line feed afterwards. -/
theorem newlineRun_replaceAll_newline (text : List Char) :
    newlineRun.replaceAll ['\n'] ('\n' :: text) =
      '\n' :: newlineRun.replaceAll ['\n'] (text.dropWhile isNewline) := by
  cases text with
  | nil => rfl
  | cons second text =>
    by_cases feed : second = '\n'
    · subst feed
      have split : '\n' :: '\n' :: text =
          ('\n' :: '\n' :: text.takeWhile isNewline) ++ text.dropWhile isNewline := by simp
      have found : newlineRun.length? ('\n' :: '\n' :: text) =
          some ('\n' :: '\n' :: text.takeWhile isNewline).length := by
        simp [newlineRun, Pattern.length?, isNewline, Pattern.length?_many]
      rw [split] at found
      rw [split, Pattern.replaceAll_append (List.cons_ne_nil _ _) found]
      rfl
    · rw [Pattern.replaceAll_cons (newlineRun_length?_eq_none (by simpa using feed)),
        List.dropWhile_cons_of_neg (mt isNewline_iff.1 feed)]

/-- The first pass leaves one line feed of those in a row. -/
theorem newlineRun_replaceAll (text : List Char) :
    newlineRun.replaceAll ['\n'] text = collapse text := by
  fun_induction collapse text with
  | case1 => rfl
  | case2 char chars row ih =>
    obtain ⟨rfl, next⟩ := row
    obtain ⟨chars, rfl⟩ := List.head?_eq_some_iff.1 next
    rw [← ih, newlineRun_replaceAll_newline, newlineRun_replaceAll_newline]
    rfl
  | case3 char chars single ih =>
    rw [Pattern.replaceAll_cons (newlineRun_length?_eq_none single), ih]

theorem collapse_sublist (text : List Char) : (collapse text).Sublist text := by
  fun_induction collapse text with
  | case1 => exact .slnil
  | case2 char chars row ih => exact ih.cons char
  | case3 char chars single ih => exact ih.cons_cons char

theorem head?_collapse (text : List Char) : (collapse text).head? = text.head? := by
  fun_induction collapse text with
  | case1 => rfl
  | case2 char chars row ih => rw [ih, row.2, row.1, List.head?_cons]
  | case3 char chars single ih => rfl

theorem collapse_eq_self {text : List Char} (few : text.count '\n' ≤ 1) : collapse text = text := by
  fun_induction collapse text with
  | case1 => rfl
  | case2 char chars row ih =>
    obtain ⟨rfl, next⟩ := row
    obtain ⟨chars, rfl⟩ := List.head?_eq_some_iff.1 next
    simp at few
  | case3 char chars single ih =>
    rw [ih (Nat.le_trans List.count_le_count_cons few)]

/-- Line feeds in a row do not go beyond a place where white space begins or ends. -/
theorem collapse_append {left right : List Char} {blank : Bool}
    (alike : ∀ char ∈ left, isBlank char = blank)
    (apart : ∀ next ∈ right.head?, isBlank next ≠ blank) :
    collapse (left ++ right) = collapse left ++ collapse right := by
  induction left with
  | nil => rfl
  | cons char left ih =>
    have rest := ih (fun other member => alike other (List.mem_cons_of_mem char member))
    cases left with
    | nil =>
      have single : ¬ (char = '\n' ∧ right.head? = some '\n') := by
        rintro ⟨rfl, next⟩
        exact apart _ next (alike _ (List.mem_singleton_self _))
      simp [collapse, single]
    | cons second left =>
      by_cases row : char = '\n' ∧ second = '\n' <;>
        simpa [collapse, row] using rest

/-- White space with a number of line feeds in it, or more. -/
def breaks : Nat → Pattern
  | 0 => [.many isBlank]
  | count + 1 => .many isBlank :: .one isNewline :: breaks count

theorem breaks_length?_of_unblank (count : Nat) {rest : List Char}
    (unblank : ∀ next ∈ rest.head?, isBlank next = false) :
    (breaks (count + 1)).length? rest = none := by
  cases rest with
  | nil => simp [breaks, Pattern.length?]
  | cons char rest =>
    have refused : isBlank char = false := unblank char rfl
    have feed : isNewline char = false := by
      rw [Bool.eq_false_iff, Ne, isNewline_iff]
      rintro rfl
      exact absurd refused (by decide)
    simp [breaks, Pattern.length?, refused, feed]

/-- At the front of white space the pattern takes all of it, or there are too few line feeds in it. -/
theorem breaks_length? (count : Nat) {run rest : List Char} (blank : ∀ char ∈ run, isBlank char = true)
    (unblank : ∀ next ∈ rest.head?, isBlank next = false) :
    (breaks count).length? (run ++ rest) =
      if count ≤ run.count '\n' then some run.length else none := by
  induction count generalizing run with
  | zero =>
    rw [breaks, Pattern.length?_many, Text.takeWhile_append_of_stop blank unblank, if_pos (Nat.zero_le _)]
  | succ count shorter =>
    -- the first item tries all of the white space and gives back one character after the other
    induction run with
    | nil => simpa using breaks_length?_of_unblank count unblank
    | cons char run ih =>
      obtain ⟨white, others⟩ := List.forall_mem_cons.1 blank
      have taken := ih others
      rw [breaks] at taken
      rw [breaks, List.cons_append, Pattern.length?, if_pos white, taken]
      by_cases enough : count + 1 ≤ run.count '\n'
      · have still : count + 1 ≤ (char :: run).count '\n' :=
          Nat.le_trans enough List.count_le_count_cons
        rw [if_pos enough, if_pos still, List.length_cons]
      rw [if_neg enough]
      -- nothing behind is enough, so this character has to be the line feed itself
      change Pattern.length? (.one isNewline :: breaks count) (char :: (run ++ rest)) = _
      rw [Pattern.length?, shorter others]
      by_cases feed : char = '\n'
      · rw [if_pos (isNewline_iff.2 feed), feed, List.count_cons_self, List.length_cons]
        simp only [Nat.add_le_add_iff_right]
        split <;> rfl
      · rw [if_neg (mt isNewline_iff.1 feed), List.count_cons_of_ne feed, if_neg enough]

theorem blankLines_eq : blankLines = breaks 2 := rfl

theorem blankLines_replaceAll_unblank {part : List Char} (unblank : ∀ char ∈ part, isBlank char = false)
    (rest : List Char) :
    blankLines.replaceAll ['\n'] (part ++ rest) = part ++ blankLines.replaceAll ['\n'] rest := by
  apply Pattern.replaceAll_append_of_unmatched
  intro tail suffix solid
  obtain ⟨char, tail, rfl⟩ := List.exists_cons_of_ne_nil solid
  have refused : isBlank char = false := unblank char (suffix.subset List.mem_cons_self)
  exact breaks_length?_of_unblank 1 (by simpa using refused)

theorem blankLines_replaceAll_of_few {run rest : List Char} (blank : ∀ char ∈ run, isBlank char = true)
    (unblank : ∀ next ∈ rest.head?, isBlank next = false) (few : run.count '\n' ≤ 1) :
    blankLines.replaceAll ['\n'] (run ++ rest) = run ++ blankLines.replaceAll ['\n'] rest := by
  apply Pattern.replaceAll_append_of_unmatched
  intro tail suffix _
  have white : ∀ char ∈ tail, isBlank char = true := fun char member => blank char (suffix.subset member)
  have fewer : tail.count '\n' ≤ run.count '\n' := suffix.sublist.count_le '\n'
  rw [blankLines_eq, breaks_length? 2 white unblank, if_neg (by omega)]

theorem blankLines_replaceAll_of_many {run rest : List Char} (blank : ∀ char ∈ run, isBlank char = true)
    (unblank : ∀ next ∈ rest.head?, isBlank next = false) (many : 2 ≤ run.count '\n') :
    blankLines.replaceAll ['\n'] (run ++ rest) = '\n' :: blankLines.replaceAll ['\n'] rest := by
  have solid : run ≠ [] := by
    rintro rfl
    simp at many
  have found : blankLines.length? (run ++ rest) = some run.length := by
    rw [blankLines_eq, breaks_length? 2 blank unblank, if_pos many]
  exact Pattern.replaceAll_append solid found ['\n']

/-- What becomes of a stretch: with one left of the line feeds in a row, white space with more than one is
a line feed. -/
def folded (part : List Char) : List Char :=
  if Blank part = true then if (collapse part).count '\n' ≤ 1 then collapse part else ['\n'] else part

theorem folded_of_unblank {part : List Char} (unblank : Blank part = false) : folded part = part := by
  rw [folded, unblank, if_neg Bool.false_ne_true]

theorem folded_eq_self {part : List Char} (few : part.count '\n' ≤ 1) : folded part = part := by
  rw [folded, collapse_eq_self few, if_pos few, ite_self]

theorem blank_collapse {part : List Char} (white : Blank part = true) :
    Blank (collapse part) = true := by
  rw [Blank, List.all_eq_true] at white ⊢
  exact fun char member => white char ((collapse_sublist part).mem member)

theorem blank_folded (part : List Char) : Blank (folded part) = Blank part := by
  cases white : Blank part with
  | false => rw [folded_of_unblank white, white]
  | true =>
    rw [folded, if_pos white]
    split
    · exact blank_collapse white
    · decide

theorem count_folded_le {part : List Char} (white : Blank part = true) :
    (folded part).count '\n' ≤ 1 := by
  rw [folded, if_pos white]
  split
  · next few => exact few
  · decide

theorem folded_folded (part : List Char) : folded (folded part) = folded part := by
  cases white : Blank part with
  | false => rw [folded_of_unblank white, folded_of_unblank white]
  | true => exact folded_eq_self (count_folded_le white)

theorem withoutBlanks_folded (part : List Char) :
    withoutBlanks (folded part) = withoutBlanks part := by
  cases white : Blank part with
  | false => rw [folded_of_unblank white]
  | true =>
    have still : Blank (folded part) = true := (blank_folded part).trans white
    rw [Text.withoutBlanks_eq_nil_iff.2 still, Text.withoutBlanks_eq_nil_iff.2 white]

section

variable {part : List Char} {blank : Bool}

theorem count_le_of_unblank (unblank : ∀ char ∈ part, isBlank char = false) :
    part.count '\n' ≤ 1 := by
  rw [List.count_eq_zero.2 fun member => absurd (unblank _ member) (by decide)]
  exact Nat.zero_le 1

/-- A stretch stays one of its kind. -/
theorem folded_alike (nonempty : part ≠ []) (alike : ∀ char ∈ part, isBlank char = blank) :
    folded part ≠ [] ∧ ∀ char ∈ folded part, isBlank char = blank := by
  have left : collapse part ≠ [] := by
    rwa [Ne, ← List.head?_eq_none_iff, head?_collapse, List.head?_eq_none_iff]
  have whole : folded part ≠ [] := by
    rw [folded]
    split_ifs
    · exact left
    · exact List.cons_ne_nil _ _
    · exact nonempty
  refine ⟨whole, ?_⟩
  cases blank with
  | false =>
    rw [folded_eq_self (count_le_of_unblank alike)]
    exact alike
  | true => exact List.all_eq_true.1 ((blank_folded part).trans (List.all_eq_true.2 alike))

/-- The second pass turns a stretch that the first one has left into what becomes of it. -/
theorem blankLines_replaceAll_collapse (alike : ∀ char ∈ part, isBlank char = blank)
    {rest : List Char} (longest : ∀ next ∈ rest.head?, isBlank next ≠ blank) :
    blankLines.replaceAll ['\n'] (collapse part ++ rest) =
      folded part ++ blankLines.replaceAll ['\n'] rest := by
  cases blank with
  | false =>
    have few : part.count '\n' ≤ 1 := count_le_of_unblank alike
    rw [folded_eq_self few, collapse_eq_self few]
    exact blankLines_replaceAll_unblank alike rest
  | true =>
    have white : Blank part = true := List.all_eq_true.2 alike
    have ends : ∀ next ∈ rest.head?, isBlank next = false := by simpa using longest
    have left : ∀ char ∈ collapse part, isBlank char = true := List.all_eq_true.1 (blank_collapse white)
    rw [folded, if_pos white]
    split
    · next few => exact blankLines_replaceAll_of_few left ends few
    · next many => exact blankLines_replaceAll_of_many left ends (by omega)

end

theorem foldLines_eq_flatMap {text : List Char} {parts : List (List Char)}
    (stretches : Stretches text parts) : foldLines text = parts.flatMap folded := by
  rw [foldLines, newlineRun_replaceAll]
  induction stretches with
  | nil => rfl
  | @cons part text parts blank some alike longest rest ih =>
    rw [collapse_append alike longest, List.flatMap_cons, ← ih]
    exact blankLines_replaceAll_collapse alike (by rwa [head?_collapse])

theorem stretches_foldLines {text : List Char} {parts : List (List Char)}
    (stretches : Stretches text parts) : Stretches (foldLines text) (parts.map folded) := by
  rw [foldLines_eq_flatMap stretches]
  exact stretches.map fun _ _ => folded_alike

/-- White space of a folded text has one line feed at most. -/
theorem count_le_of_infix_foldLines {text run : List Char} (white : Blank run = true)
    (within : run <:+: foldLines text) : run.count '\n' ≤ 1 := by
  by_cases nothing : run = []
  · simp [nothing]
  obtain ⟨parts, stretches⟩ := Text.exists_stretches text
  obtain ⟨found, member, blank, inside⟩ :=
    Stretches.exists_of_infix (stretches_foldLines stretches) nothing white within
  obtain ⟨part, -, rfl⟩ := List.mem_map.1 member
  rw [blank_folded] at blank
  exact Nat.le_trans (inside.sublist.count_le '\n') (count_folded_le blank)

theorem withoutBlanks_foldLines (text : List Char) :
    withoutBlanks (foldLines text) = withoutBlanks text := by
  obtain ⟨parts, stretches⟩ := Text.exists_stretches text
  rw [foldLines_eq_flatMap stretches]
  conv_rhs => rw [← stretches.flatten_eq]
  clear stretches
  induction parts with
  | nil => rfl
  | cons part parts ih =>
    rw [List.flatMap_cons, List.flatten_cons, Text.withoutBlanks_append, Text.withoutBlanks_append, ih,
      withoutBlanks_folded]

/-- A character that is not white space is in the text when it is in the folded one. -/
theorem mem_of_mem_foldLines {text : List Char} {char : Char} (unblank : isBlank char = false)
    (member : char ∈ foldLines text) : char ∈ text := by
  have kept : char ∈ withoutBlanks (foldLines text) := List.mem_filter.2 ⟨member, by simp [unblank]⟩
  rw [withoutBlanks_foldLines] at kept
  exact (List.mem_filter.1 kept).1

theorem foldLines_foldLines (text : List Char) : foldLines (foldLines text) = foldLines text := by
  obtain ⟨parts, stretches⟩ := Text.exists_stretches text
  rw [foldLines_eq_flatMap (stretches_foldLines stretches), foldLines_eq_flatMap stretches,
    List.flatMap_map]
  simp only [folded_folded]

theorem replaceMarkup_of_not_mem {text : List Char} (absent : '<' ∉ text) :
    replaceMarkup text = text := by
  have tagged : ∀ rule ∈ markup, '<' ∈ rule.1.toList := by decide
  rw [replaceMarkup]
  generalize markup = rules at tagged
  induction rules with
  | nil => rfl
  | cons rule rules ih =>
    obtain ⟨tag, mark⟩ := rule
    obtain ⟨first, others⟩ := List.forall_mem_cons.1 tagged
    have same := Pattern.replaceAll_literal_append_of_not_mem first [] mark.toList absent
    rw [List.append_nil] at same
    simp only [List.foldl_cons, same]
    exact ih others

theorem dropImages_of_not_mem {text : List Char} (absent : '<' ∉ text) : dropImages text = text :=
  Pattern.replaceAll_literal_append_of_not_mem (by decide) _ [] absent

theorem clean_of_not_mem {html : String} (absent : '<' ∉ html.toList) :
    clean html = String.ofList (foldLines html.toList) := by
  rw [clean, replaceMarkup_of_not_mem absent, dropImages_of_not_mem absent]

/-- Cleaning up does one thing to each stretch of white space that is left when the images are gone, and
nothing to what stands between. So no white space of a preview has two line feeds, no other character is
lost or has another place among the others, and where no tag can begin a preview stays as it is. -/
theorem clean_folds_stretches (html : String) :
    (∃ parts, Stretches (dropImages (replaceMarkup html.toList)) parts ∧
      (clean html).toList = parts.flatMap folded) ∧
    (∀ run, Blank run = true → run <:+: (clean html).toList → run.count '\n' ≤ 1) ∧
    withoutBlanks (clean html).toList = withoutBlanks (dropImages (replaceMarkup html.toList)) ∧
    ('<' ∉ html.toList → clean (clean html) = clean html) := by
  have shape : (clean html).toList = foldLines (dropImages (replaceMarkup html.toList)) :=
    String.toList_ofList
  obtain ⟨parts, stretches⟩ := Text.exists_stretches (dropImages (replaceMarkup html.toList))
  refine ⟨⟨parts, stretches, ?_⟩, ?_, ?_, ?_⟩
  · rw [shape, foldLines_eq_flatMap stretches]
  · intro run white within
    exact count_le_of_infix_foldLines white (shape ▸ within)
  · rw [shape, withoutBlanks_foldLines]
  · intro absent
    have still : '<' ∉ (clean html).toList := by
      rw [clean_of_not_mem absent, String.toList_ofList]
      exact mt (mem_of_mem_foldLines (by decide)) absent
    rw [clean_of_not_mem still, clean_of_not_mem absent, String.toList_ofList, foldLines_foldLines]

theorem clean_folds_stretches_of_breaks :
    '<' ∉ "\n\na\n\n \nb \r\n".toList ∧
      clean "\n\na\n\n \nb \r\n" = "\na\nb \r\n" ∧
      clean (clean "\n\na\n\n \nb \r\n") = clean "\n\na\n\n \nb \r\n" := by
  have clear : '<' ∉ "\n\na\n\n \nb \r\n".toList := by decide
  obtain ⟨-, -, -, stable⟩ := clean_folds_stretches "\n\na\n\n \nb \r\n"
  exact ⟨clear, by decide, stable clear⟩

end TabletopBot.Wiki.Preview
