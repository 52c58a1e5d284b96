import TabletopBot.Dice.Report
import TabletopBot.Proofs.Chance

/-! # What a roll draws and shows

A roll draws all faces first and the phrases for its critical faces afterwards. `rollText_yields` says
for every source of chance which draws are made, in which order and with which sizes, and that the lines
of the report show every die with the phrase that was drawn for this very die.
-/

namespace TabletopBot.Dice

/-- A die as it was rolled. Only a d20 has critical faces, and for each of them an index into the
phrases of its kind was drawn. -/
inductive RolledDie (die : Die) (book : PhraseBook) where
  | twenty (isD20 : die = .d20) (index : Fin book.success.length)
  | one (isD20 : die = .d20) (index : Fin book.failure.length)
  | ordinary (face : Nat) (uncritical : die = .d20 → face ≠ 20 ∧ face ≠ 1)

/-- The text of a face with a modifier worked out. -/
def bodyText (modifier : Int) (face : Nat) : String :=
  if modifier = 0 then toString face ++ "."
  else toString face ++ " (" ++ (if modifier < 0 then "-" else "+") ++ toString modifier.natAbs ++
    ") = " ++ toString (face + modifier) ++ "."

namespace RolledDie

variable {die : Die} {book : PhraseBook}

def face : RolledDie die book → Nat
  | twenty _ _ => 20
  | one _ _ => 1
  | ordinary face _ => face

/-- The draw of the phrase, made for critical faces alone. -/
def phraseDraw? : RolledDie die book → Option Answered
  | twenty _ index => some (.pick book.success.length index)
  | one _ index => some (.pick book.failure.length index)
  | ordinary _ _ => none

/-- The lines that show the die: its own, and for a natural 20 the link behind it. -/
def lines (separator : String) (modifier : Int) (link : String) : RolledDie die book → List String
  | twenty _ index =>
    [separator ++ ("**" ++ book.success[index] ++ "** Natural ") ++ bodyText modifier 20, link]
  | one _ index => [separator ++ ("**" ++ book.failure[index] ++ "** Natural ") ++ bodyText modifier 1]
  | ordinary face _ => [separator ++ bodyText modifier face]

theorem length_lines (separator : String) (modifier : Int) (link : String)
    (rolled : RolledDie die book) : (rolled.lines separator modifier link).length =
      1 + if die = .d20 ∧ rolled.face = 20 then 1 else 0 := by
  cases rolled with
  | twenty isD20 _ => simp [lines, face, isD20]
  | one isD20 _ => simp [lines, face]
  | ordinary value uncritical =>
    have absent : ¬(die = .d20 ∧ value = 20) := fun ⟨isD20, same⟩ => (uncritical isD20).1 same
    simp [lines, face, absent]

end RolledDie

private theorem ofList_decimalInt (value : Int) :
    String.ofList (Text.decimalInt value) = toString value := by
  cases value with
  | ofNat value => rfl
  | negSucc value =>
    rw [Text.decimalInt, if_pos (Int.negSucc_lt_zero value), String.ofList_cons]
    rfl

/-- A report shows every face by its body text. -/
theorem resultText_eq_bodyText (modifier : Int) (face : Nat) :
    resultText modifier face = bodyText modifier face := by
  have shown (value : Nat) : String.ofList (Text.decimalDigits value) = toString value := rfl
  simp only [resultText, bodyText, ofList_decimalInt, shown]
  split
  · next zero =>
    rw [zero, Int.add_zero]
    rfl
  · rfl

theorem critical?_eq_none {die : Die} {face : Nat} (uncritical : die = .d20 → face ≠ 20 ∧ face ≠ 1) :
    die.critical? face = none := by
  unfold Die.critical?
  split
  · exact absurd rfl (uncritical rfl).1
  · exact absurd rfl (uncritical rfl).2
  · rfl

section

variable {σ : Type} [Chance σ]

/-- The faces of a throw are drawn one after the other, and as many as there are dice. -/
theorem drawFaces_yields (sides count : Nat) (source : σ) : ∃ faces last, faces.length = count ∧
    Yields (drawFaces sides count) (drawFaces sides count) source faces last
      (faces.map (.face sides)) := by
  induction count generalizing source with
  | zero => exact ⟨[], source, rfl, .pure [] source⟩
  | succ count ih =>
    obtain ⟨faces, last, length, rest⟩ := ih (Chance.face sides source).2
    refine ⟨(Chance.face sides source).1 :: faces, last, ?_, ?_⟩
    · rw [List.length_cons, length]
    · exact (Yields.drawFace sides source).bind (rest.map _)

/-- A critical face draws its phrase from the list of its kind, any other face draws nothing. -/
theorem faceLines_yields (throw : Throw) (separator : String) (book : PhraseBook) (songs : SongBook)
    (user : String) (face : Nat) (source : σ) :
    ∃ (rolled : RolledDie throw.die book) (last : σ), rolled.face = face ∧
      Yields (Report.faceLines throw separator book songs user face)
        (Report.faceLines throw separator book songs user face) source
        (rolled.lines separator throw.modifier (songs.linkFor user)) last
        rolled.phraseDraw?.toList := by
  by_cases critical : throw.die = .d20 ∧ (face = 20 ∨ face = 1)
  · obtain ⟨isD20, rfl | rfl⟩ := critical
    · have chosen := Yields.drawItem book.success book.success_nonempty source
      refine ⟨.twenty isD20 (Chance.pick _ book.success_nonempty source).1,
        (Chance.pick _ book.success_nonempty source).2, rfl, ?_⟩
      simp only [Report.faceLines, isD20, Die.critical?, resultText_eq_bodyText]
      exact chosen.map _
    · have chosen := Yields.drawItem book.failure book.failure_nonempty source
      refine ⟨.one isD20 (Chance.pick _ book.failure_nonempty source).1,
        (Chance.pick _ book.failure_nonempty source).2, rfl, ?_⟩
      simp only [Report.faceLines, isD20, Die.critical?, resultText_eq_bodyText]
      exact chosen.map _
  · have uncritical : throw.die = .d20 → face ≠ 20 ∧ face ≠ 1 := fun isD20 =>
      ⟨fun twenty => critical ⟨isD20, .inl twenty⟩, fun one => critical ⟨isD20, .inr one⟩⟩
    refine ⟨.ordinary face uncritical, source, rfl, ?_⟩
    simp only [Report.faceLines, critical?_eq_none uncritical, resultText_eq_bodyText]
    exact .pure _ source

/-- The lines of all dice follow each other, and so do the draws of their phrases. -/
theorem allLines_yields (throw : Throw) (separator : String) (book : PhraseBook) (songs : SongBook)
    (user : String) (faces : List Nat) (source : σ) :
    ∃ (rolled : List (RolledDie throw.die book)) (last : σ), rolled.map (·.face) = faces ∧
      Yields (Report.allLines throw separator book songs user faces)
        (Report.allLines throw separator book songs user faces) source
        (rolled.flatMap (·.lines separator throw.modifier (songs.linkFor user))) last
        (rolled.filterMap (·.phraseDraw?)) := by
  induction faces generalizing source with
  | nil => exact ⟨[], source, rfl, .pure [] source⟩
  | cons face faces ih =>
    obtain ⟨die, middle, shown, first⟩ := faceLines_yields throw separator book songs user face source
    obtain ⟨dice, last, others, rest⟩ := ih middle
    refine ⟨die :: dice, last, by rw [List.map_cons, shown, others], ?_⟩
    have draws : (die :: dice).filterMap (·.phraseDraw?) =
        die.phraseDraw?.toList ++ dice.filterMap (·.phraseDraw?) := by
      cases drawn : die.phraseDraw? with
      | none => simp [drawn]
      | some answer => simp [drawn]
    rw [draws]
    exact first.bind (rest.map _)

end

theorem length_flatMap_lines {die : Die} {book : PhraseBook} (separator : String) (modifier : Int)
    (link : String) (rolled : List (RolledDie die book)) :
    (rolled.flatMap (·.lines separator modifier link)).length =
      rolled.length + if die = .d20 then (rolled.map (·.face)).count 20 else 0 := by
  induction rolled with
  | nil => simp
  | cons first others ih =>
    rw [List.flatMap_cons, List.length_append, first.length_lines, ih, List.map_cons,
      List.count_cons, List.length_cons]
    by_cases isD20 : die = .d20
    · simp only [isD20, true_and, if_true, beq_iff_eq]
      omega
    · simp only [isD20, false_and, if_false]
      omega

/-- A throw is always reported on: every die is shown by its own lines, for which its own phrase is
drawn. -/
theorem exists_rollText_yields {σ : Type} [Chance σ] {text : String} {throw : Throw}
    (accepted : Throw.parse text = .ok throw) (user : String) (book : PhraseBook) (songs : SongBook)
    (source : σ) :
    ∃ (rolled : List (RolledDie throw.die book)) (last : σ), rolled.length = throw.count ∧
      let separator := if throw.count > 1 then batchSeparator else ""
      Yields (rollText text user book songs) (rollText text user book songs) source
        (.ok ⟨rolled.flatMap (·.lines separator throw.modifier (songs.linkFor user))⟩) last
        (rolled.map (fun die => .face throw.die.sides die.face) ++
          rolled.filterMap (·.phraseDraw?)) := by
  obtain ⟨faces, middle, length, drawn⟩ := drawFaces_yields throw.die.sides throw.count source
  obtain ⟨rolled, last, rfl, reported⟩ := allLines_yields throw
    (if faces.length > 1 then batchSeparator else "") book songs user faces middle
  refine ⟨rolled, last, by rw [← length, List.length_map], ?_⟩
  have report : Yields (Report.ofFaces throw (rolled.map (·.face)) book songs user)
      (Report.ofFaces throw (rolled.map (·.face)) book songs user) middle _ last _ :=
    reported.map Report.mk
  rw [length] at report
  rw [List.map_map] at drawn
  simp only [rollText, accepted]
  exact drawn.bind (report.map Except.ok)

/-- A text that is a throw is rolled and reported against every source of chance. The source is asked
for exactly one face for each die, and then for exactly one phrase for each critical face, in the order
rolled and from the list of its kind. The report shows every die in order by its own lines, which are at
most two hundred in all. -/
theorem rollText_yields {σ : Type} [Chance σ] {text : String} {throw : Throw}
    (accepted : Throw.parse text = .ok throw) (user : String) (book : PhraseBook) (songs : SongBook)
    (source : σ) :
    ∃ (rolled : List (RolledDie throw.die book)) (last : σ),
      let separator := if throw.count > 1 then "---\n" else ""
      let lines := rolled.flatMap (·.lines separator throw.modifier (songs.linkFor user))
      rolled.length = throw.count ∧
      Yields (rollText text user book songs) (rollText text user book songs) source (.ok ⟨lines⟩) last
        (rolled.map (fun die => .face throw.die.sides die.face) ++ rolled.filterMap (·.phraseDraw?)) ∧
      lines.length =
        throw.count + (if throw.die = .d20 then (rolled.map (·.face)).count 20 else 0) ∧
      lines.length ≤ 200 := by
  obtain ⟨rolled, last, count, reported⟩ := exists_rollText_yields accepted user book songs source
  refine ⟨rolled, last, count, reported, ?_, ?_⟩
  · rw [length_flatMap_lines, count]
  · rw [length_flatMap_lines, count]
    have most : (rolled.map (·.face)).count 20 ≤ throw.count := by
      rw [← count, ← List.length_map (f := (·.face))]
      exact List.count_le_length
    have bound := throw.count_le
    rw [maxDice] at bound
    split <;> omega

/-- Two d20 showing a 20 and a 1: both kinds of phrases are drawn, and one link is shown. -/
theorem rollText_two_criticals :
    ∃ (rolled : List (RolledDie .d20 ⟨["Yes!", "Glorious!"], ["Ouch."], by decide, by decide⟩))
      (last : Script),
      let lines := rolled.flatMap (·.lines "---\n" 4 "https://open.spotify.com/track/abc")
      rolled.length = 2 ∧
      Yields
        (rollText "2d20+4" "sasha" ⟨["Yes!", "Glorious!"], ["Ouch."], by decide, by decide⟩
          { entries := [("sasha", "abc")] })
        (rollText "2d20+4" "sasha" ⟨["Yes!", "Glorious!"], ["Ouch."], by decide, by decide⟩
          { entries := [("sasha", "abc")] })
        { faces := [20, 1], picks := [1] } (.ok ⟨lines⟩) last
        (rolled.map (fun die => .face 20 die.face) ++ rolled.filterMap (·.phraseDraw?)) ∧
      lines.length = 2 + (rolled.map (·.face)).count 20 := by
  have accepted : Throw.parse "2d20+4" =
      .ok ⟨2, .d20, 4, by decide, by decide, by decide⟩ := by rfl
  obtain ⟨rolled, last, length, ran, lines, _⟩ := rollText_yields accepted "sasha"
    ⟨["Yes!", "Glorious!"], ["Ouch."], by decide, by decide⟩ { entries := [("sasha", "abc")] }
    ({ faces := [20, 1], picks := [1] } : Script)
  exact ⟨rolled, last, length, ran, lines⟩

example :
    (rollText "2d20+4" "sasha" ⟨["Yes!", "Glorious!"], ["Ouch."], by decide, by decide⟩
      { entries := [("sasha", "abc")] } ({ faces := [20, 1], picks := [1] } : Script)).1 =
    .ok ⟨["---\n**Glorious!** Natural 20 (+4) = 24.", "https://open.spotify.com/track/abc",
      "---\n**Ouch.** Natural 1 (+4) = 5."]⟩ := by rfl

end TabletopBot.Dice
