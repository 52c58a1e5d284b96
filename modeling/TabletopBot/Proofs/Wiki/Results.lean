import TabletopBot.Wiki.Results
import TabletopBot.Proofs.Text.Decimal

/-! # What a search shows

A reply to a search either says that nothing was found, or shows the hits that fit on a page. Where more
match than fit, it says how many are shown and how many match, and these are the numbers of its cards and of
all matches (`reply_tells_matches`).
-/

namespace TabletopBot.Wiki.Results

section

variable {results : Results} {pageSize : Nat}

theorem summary_eq_empty (fits : results.total ≤ pageSize) :
    results.summary pageSize = "" := by
  rw [summary, if_neg (Nat.not_lt.mpr fits)]

/-- Where not all matches fit on a page, two numbers are named. -/
theorem toList_summary (more : pageSize < results.total) :
    (results.summary pageSize).toList = "Showing".toList ++ ' ' ::
      (Text.decimalDigits (min results.hits.length pageSize) ++ ' ' :: ("of".toList ++ ' ' ::
        (Text.decimalDigits results.total ++ ' ' ::
          "wiki results. Consider a more specific search!".toList))) := by
  have opening : "Showing ".toList = "Showing".toList ++ [' '] := by rfl
  have middle : " of ".toList = ' ' :: ("of".toList ++ [' ']) := by rfl
  have closing : " wiki results. Consider a more specific search!".toList =
      ' ' :: "wiki results. Consider a more specific search!".toList := by rfl
  rw [summary, if_pos more]
  change ("Showing " ++ String.ofList (Text.decimalDigits (min results.hits.length pageSize)) ++ " of " ++
    String.ofList (Text.decimalDigits results.total) ++
    " wiki results. Consider a more specific search!").toList = _
  simp only [String.toList_append, String.toList_ofList, opening, middle, closing, List.append_assoc,
    List.cons_append, List.nil_append]

theorem length_summary (more : pageSize < results.total) :
    (results.summary pageSize).length =
      (Text.decimalDigits (min results.hits.length pageSize)).length +
        (Text.decimalDigits results.total).length + 59 := by
  have opening : "Showing".toList.length = 7 := by rfl
  have middle : "of".toList.length = 2 := by rfl
  have closing : "wiki results. Consider a more specific search!".toList.length = 46 := by rfl
  rw [← String.length_toList, toList_summary more]
  simp only [List.length_append, List.length_cons, opening, middle, closing]
  omega

theorem numbers_summary (more : pageSize < results.total) :
    Text.numbers (results.summary pageSize).toList =
      [min results.hits.length pageSize, results.total] := by
  have space : Text.isDigit ' ' = false := by decide
  have opening : Text.numbers "Showing".toList = [] := by decide
  have middle : Text.numbers "of".toList = [] := by decide
  have closing : Text.numbers "wiki results. Consider a more specific search!".toList = [] := by decide
  rw [toList_summary more]
  simp only [Text.numbers_append_cons space, Text.numbers_decimalDigits, opening, middle, closing,
    List.nil_append, List.append_nil, List.singleton_append]

end

theorem summary_ne_empty_iff (results : Results) (pageSize : Nat) :
    results.summary pageSize ≠ "" ↔ pageSize < results.total := by
  constructor
  · intro said
    by_contra fits
    exact said (summary_eq_empty (Nat.not_lt.mp fits))
  · intro more silent
    have numbers := numbers_summary more
    rw [silent] at numbers
    cases numbers

theorem summary_ne_nothingFound (results : Results) (pageSize : Nat) :
    results.summary pageSize ≠ nothingFound := by
  intro same
  by_cases more : pageSize < results.total
  · have silent : Text.numbers nothingFound.toList = [] := by decide
    have numbers := numbers_summary more
    rw [same, silent] at numbers
    cases numbers
  · rw [summary_eq_empty (Nat.not_lt.mp more)] at same
    exact absurd same (by decide)

theorem content_reply_eq_nothingFound_iff (results : Results) (nonzero : results.total ≠ 0)
    (pageSize : Nat) : (results.reply pageSize).content = nothingFound ↔ results.hits = [] := by
  rw [reply]
  split
  · next nothing => exact iff_of_true rfl (nothing.resolve_left nonzero)
  · next shown => exact iff_of_false (summary_ne_nothingFound results pageSize) (not_or.mp shown).2

theorem embeds_reply (results : Results) (nonzero : results.total ≠ 0) (pageSize : Nat) :
    (results.reply pageSize).embeds = (results.hits.take pageSize).map card := by
  rw [reply]
  split
  · next nothing => rw [nothing.resolve_left nonzero, List.take_nil, List.map_nil]; rfl
  · rfl

theorem content_reply {results : Results} (nonzero : results.total ≠ 0) (found : results.hits ≠ [])
    (pageSize : Nat) : (results.reply pageSize).content = results.summary pageSize := by
  rw [reply, if_neg (not_or.mpr ⟨nonzero, found⟩)]

/-- A page with room for a hit shows one, and a page that all matches fit on has room. -/
theorem content_or_embeds_reply (results : Results) (pageSize : Nat) :
    (results.reply pageSize).content ≠ "" ∨ (results.reply pageSize).embeds ≠ [] := by
  by_cases nothing : results.total = 0 ∨ results.hits = []
  · refine .inl ?_
    rw [reply, if_pos nothing]
    decide
  · obtain ⟨nonzero, found⟩ := not_or.mp nothing
    by_cases more : pageSize < results.total
    · refine .inl ?_
      rw [content_reply nonzero found]
      exact (summary_ne_empty_iff results pageSize).mpr more
    · refine .inr ?_
      have room : 0 < pageSize := by omega
      have hits : 0 < results.hits.length := List.length_pos_iff.mpr found
      rw [embeds_reply results nonzero, ← List.length_pos_iff, List.length_map, List.length_take]
      omega

/-- A search shows that nothing was found exactly where no page matches or none was sent. Else it shows the
hits that fit on a page as they are, and it says something exactly where more match than fit: the number of
cards and the larger number of all matches. There is always something to see. -/
theorem reply_tells_matches (results : Results) (pageSize : Nat) :
    ((results.reply pageSize).content = nothingFound ∧ (results.reply pageSize).embeds = [] ↔
      results.total = 0 ∨ results.hits = []) ∧
    (results.total ≠ 0 → results.hits ≠ [] →
      (results.reply pageSize).embeds =
        ((results.hits.take (min results.hits.length pageSize)).map fun hit =>
          { title := hit.name, url := hit.url, description := hit.preview, color := Embed.accent }) ∧
      ((results.reply pageSize).content ≠ "" ↔ pageSize < results.total) ∧
      (pageSize < results.total →
        Text.numbers (results.reply pageSize).content.toList =
          [(results.reply pageSize).embeds.length, results.total] ∧
        (results.reply pageSize).embeds.length < results.total)) ∧
    ((results.reply pageSize).content ≠ "" ∨ (results.reply pageSize).embeds ≠ []) := by
  refine ⟨?_, ?_, content_or_embeds_reply results pageSize⟩
  · constructor
    · rintro ⟨said, -⟩
      rw [or_iff_not_imp_left]
      intro nonzero
      exact (content_reply_eq_nothingFound_iff results nonzero pageSize).mp said
    · intro nothing
      rw [reply, if_pos nothing]
      exact ⟨rfl, rfl⟩
  · intro nonzero found
    have cards := embeds_reply results nonzero pageSize
    have length : (results.reply pageSize).embeds.length = min results.hits.length pageSize := by
      rw [cards, List.length_map, List.length_take, Nat.min_comm]
    rw [content_reply nonzero found]
    refine ⟨?_, summary_ne_empty_iff results pageSize, ?_⟩
    · rw [cards, Nat.min_comm, ← List.take_eq_take_min]
      rfl
    · intro more
      rw [length]
      exact ⟨numbers_summary more, by omega⟩

/-- Three match, two were sent, and one fits. -/
theorem reply_tells_matches_of_three :
    let results : Results := ⟨3, [⟨"Inn", "http://w/i", "An inn"⟩, ⟨"Bar", "http://w/b", ""⟩]⟩
    results.total ≠ 0 ∧ results.hits ≠ [] ∧ 1 < results.total ∧
    (results.reply 1).embeds =
      [{ title := "Inn", url := "http://w/i", description := "An inn", color := Embed.accent }] ∧
    Text.numbers (results.reply 1).content.toList = [1, 3] := by
  intro results
  obtain ⟨-, shown, -⟩ := reply_tells_matches results 1
  obtain ⟨cards, -, numbers⟩ := shown (by decide) (by decide)
  exact ⟨by decide, by decide, by decide, cards, (numbers (by decide)).1⟩

end TabletopBot.Wiki.Results
