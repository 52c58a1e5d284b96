import TabletopBot.Proofs.Dice.ThrowText

/-! # Writing throws and reading them back

What is written for a throw is in the grammar, and the grammar gives it the values of that throw, so the
reader finds the very throw again (`parse_render`). A text may spell a throw in many ways, with white
space, capitals, leading zeros or a modifier of zero; rewriting it as it is shown keeps the throw and
settles on one spelling.
-/

namespace TabletopBot.Dice

/-- A text in the spelling that is shown for the throw it denotes. -/
def Throw.rewrite (text : String) : Except ThrowFault String := Throw.render <$> Throw.parse text

theorem rewrite_eq_ok_iff {text shown : String} :
    Throw.rewrite text = .ok shown ↔ ∃ throw, Throw.parse text = .ok throw ∧ throw.render = shown := by
  rw [Throw.rewrite]
  cases Throw.parse text with
  | error fault => exact ⟨nofun, nofun⟩
  | ok throw =>
    constructor
    · intro same
      cases same
      exact ⟨throw, rfl, rfl⟩
    · rintro ⟨_, read, rfl⟩
      cases read
      rfl

/-- A modifier is written as the grammar says: a zero not at all, any other number behind one sign. -/
theorem modifierText_modifierChars {modifier : Int} (bound : modifier.natAbs ≤ maxModifier) :
    ModifierText (Throw.modifierChars modifier) modifier := by
  have numeral := Text.numeral_decimalDigits modifier.natAbs
  rw [Throw.modifierChars]
  split
  · next zero =>
    rw [zero]
    exact .zero
  · split
    · next positive =>
      have value : (modifier.natAbs : Int) = modifier := by omega
      have written := ModifierText.plus numeral bound
      rwa [value] at written
    · next negative =>
      have value : -(modifier.natAbs : Int) = modifier := by omega
      have written := ModifierText.minus numeral bound
      rwa [value] at written

theorem throwText_render (throw : Throw) :
    ThrowText throw.render.toList throw.count throw.die throw.modifier := by
  have chars : throw.render.toList = Text.decimalDigits throw.count ++
      'd' :: (Text.decimalDigits throw.die.sides ++ Throw.modifierChars throw.modifier) := by
    rw [Throw.render, String.toList_ofList, Die.name, List.append_assoc, List.cons_append]
  have counted : CountText (Text.decimalDigits throw.count) throw.count :=
    .counted (Text.numeral_decimalDigits throw.count) throw.count_pos throw.count_le
  rw [chars]
  exact .throw counted (sidesText_decimalDigits throw.die)
    (modifierText_modifierChars throw.modifier_le)

private theorem isBlank_eq_false_of_notationChar {char : Char} (written : NotationChar char) :
    Text.isBlank char = false := by
  have range := notationChar_toNat written
  simp only [Text.isBlank, Bool.or_eq_false_iff, Bool.and_eq_false_iff, decide_eq_false_iff_not]
  omega

/-- A text of the characters of throws alone has no white space to lose and no capital to fold. -/
theorem spelling_of_forall_notationChar {chars : List Char}
    (written : ∀ char ∈ chars, NotationChar char) : spelling chars = chars := by
  have kept : Text.withoutBlanks chars = chars :=
    List.filter_eq_self.mpr fun char member => by
      rw [isBlank_eq_false_of_notationChar (written char member), Bool.not_false]
  have unfolded : ∀ char ∈ chars, foldMarker char = char := by
    intro char member
    refine if_neg ?_
    rintro rfl
    exact absurd (written 'D' member) (by unfold NotationChar; decide)
  rw [spelling, kept, List.map_congr_left unfolded, List.map_id']

/-- Every throw is read back from what is written for it. -/
theorem parse_render (throw : Throw) : Throw.parse throw.render = .ok throw := by
  have written := throwText_render throw
  rw [← spelling_of_forall_notationChar written.notationChar, ← throwText_normalize_iff] at written
  obtain ⟨found, read, count, die, modifier⟩ := ofNormalized_eq_ok_iff.mpr written
  have same : found = throw := by
    cases found
    cases throw
    cases count
    cases die
    cases modifier
    rfl
  rw [same] at read
  exact read

theorem render_injective : Function.Injective Throw.render := by
  intro first second same
  have read := parse_render first
  rw [same, parse_render second] at read
  cases read
  rfl

/-- A throw is written with its count, its die, and its modifier behind a sign unless it is zero. -/
theorem render_eq (throw : Throw) : throw.render =
    toString throw.count ++ "d" ++ toString throw.die.sides ++
      (if 0 < throw.modifier then "+" ++ toString throw.modifier
        else if throw.modifier < 0 then toString throw.modifier else "") := by
  have shown (value : Nat) : String.ofList (Text.decimalDigits value) = toString value := rfl
  have modifier : String.ofList (Throw.modifierChars throw.modifier) =
      if 0 < throw.modifier then "+" ++ toString throw.modifier
        else if throw.modifier < 0 then toString throw.modifier else "" := by
    rw [Throw.modifierChars]
    cases throw.modifier with
    | ofNat value =>
      cases value with
      | zero => rfl
      | succ value =>
        have positive : 0 < Int.ofNat (value + 1) := Int.natCast_pos.mpr (Nat.succ_pos value)
        rw [if_neg (Int.ne_of_lt positive).symm, if_pos positive, if_pos positive, String.ofList_cons]
        rfl
    | negSucc value =>
      have negative : Int.negSucc value < 0 := Int.negSucc_lt_zero value
      rw [if_neg (Int.ne_of_lt negative), if_neg (Int.lt_asymm negative),
        if_neg (Int.lt_asymm negative), if_pos negative, String.ofList_cons]
      rfl
  rw [Throw.render, String.ofList_append, String.ofList_append, modifier, Die.name,
    String.ofList_cons, shown, shown]
  simp only [String.append_assoc]
  rfl

/-- Reading undoes writing for every throw that a text denotes, and every count, die and modifier within
the bounds makes such a throw. So no two throws are written alike, and rewriting a text as it is shown
keeps what it denotes and changes nothing the second time. -/
theorem rewrite_stable :
    (∀ text throw, Throw.parse text = .ok throw →
      throw.render = toString throw.count ++ "d" ++ toString throw.die.sides ++
          (if 0 < throw.modifier then "+" ++ toString throw.modifier
            else if throw.modifier < 0 then toString throw.modifier else "") ∧
        Throw.parse throw.render = .ok throw) ∧
    (∀ text other first second, Throw.parse text = .ok first → Throw.parse other = .ok second →
      first.render = second.render → first = second) ∧
    (∀ text shown, Throw.rewrite text = .ok shown →
      Throw.rewrite shown = .ok shown ∧ Throw.parse shown = Throw.parse text) ∧
    (∀ count die modifier, 1 ≤ count → count ≤ 100 → -2147483647 ≤ modifier →
      modifier ≤ 2147483647 → ∃ throw, Throw.parse throw.render = .ok throw ∧
        throw.count = count ∧ throw.die = die ∧ throw.modifier = modifier) := by
  refine ⟨?_, ?_, ?_, ?_⟩
  · intro text throw _
    exact ⟨render_eq throw, parse_render throw⟩
  · intro text other first second _ _ same
    exact render_injective same
  · intro text shown rewritten
    obtain ⟨throw, read, rfl⟩ := rewrite_eq_ok_iff.mp rewritten
    refine ⟨rewrite_eq_ok_iff.mpr ⟨throw, parse_render throw, rfl⟩, ?_⟩
    rw [parse_render, read]
  · intro count die modifier least most low high
    have bound : modifier.natAbs ≤ maxModifier := by
      rw [maxModifier]
      omega
    exact ⟨⟨count, die, modifier, least, most, bound⟩, parse_render _, rfl, rfl, rfl⟩

/-- A spelling with white space, a capital, leading zeros and a negative zero settles on the shortest one,
and the outermost values survive. -/
theorem rewrite_negative_zero :
    (Throw.rewrite " 003 D6 -00" = .ok "3d6" ∧ Throw.rewrite "3d6" = .ok "3d6" ∧
      Throw.parse "3d6" = Throw.parse " 003 D6 -00") ∧
    ∃ throw, Throw.parse throw.render = .ok throw ∧
      throw.count = 100 ∧ throw.die = .d100 ∧ throw.modifier = -2147483647 := by
  obtain ⟨_, _, rewriting, bounds⟩ := rewrite_stable
  have rewritten : Throw.rewrite " 003 D6 -00" = .ok "3d6" := by rfl
  exact ⟨⟨rewritten, rewriting _ _ rewritten⟩,
    bounds 100 .d100 (-2147483647) (by decide) (by decide) (by decide) (by decide)⟩

end TabletopBot.Dice
