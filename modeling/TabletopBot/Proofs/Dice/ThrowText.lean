import TabletopBot.Dice.Throw
import TabletopBot.Proofs.Checks
import TabletopBot.Proofs.Text.Decimal
import TabletopBot.Proofs.Text.LowerCase
import Mathlib.Data.List.Infix

/-! # The grammar of throws

A throw is written as a count, a `d`, the number of sides and a modifier, of which the count and the
modifier may be missing. The reader looks for the name of some die anywhere in the text, cuts at the
first `d` and at a sign, and then reads three numbers; `parse_eq_ok_iff_throwText` says that it accepts
exactly this grammar. Counts and modifiers may have leading zeros. The sides may not, since the name of
a die has to stand behind the only `d`.
-/

namespace TabletopBot.Dice

open Text (Numeral lowerChar)

/-- What stands before the `d`: nothing for a single die, or a numeral from one to a hundred. -/
inductive CountText : List Char → Nat → Prop
  | single : CountText [] 1
  | counted {digits : List Char} {count : Nat} (numeral : Numeral digits count)
      (least : 1 ≤ count) (most : count ≤ 100) : CountText digits count

/-- What stands behind the `d`, one text for each die. -/
inductive SidesText : List Char → Die → Prop
  | d4 : SidesText ['4'] .d4
  | d6 : SidesText ['6'] .d6
  | d8 : SidesText ['8'] .d8
  | d10 : SidesText ['1', '0'] .d10
  | d12 : SidesText ['1', '2'] .d12
  | d20 : SidesText ['2', '0'] .d20
  | d100 : SidesText ['1', '0', '0'] .d100

/-- What stands behind the sides: nothing for zero, or one sign and a numeral. -/
inductive ModifierText : List Char → Int → Prop
  | zero : ModifierText [] 0
  | plus {digits : List Char} {value : Nat} (numeral : Numeral digits value)
      (most : value ≤ 2147483647) : ModifierText ('+' :: digits) value
  | minus {digits : List Char} {value : Nat} (numeral : Numeral digits value)
      (most : value ≤ 2147483647) : ModifierText ('-' :: digits) (-value)

/-- The texts of throws, with what they denote. -/
inductive ThrowText : List Char → Nat → Die → Int → Prop
  | throw {head sides tail : List Char} {count : Nat} {die : Die} {modifier : Int}
      (counted : CountText head count) (sided : SidesText sides die)
      (modified : ModifierText tail modifier) :
      ThrowText (head ++ 'd' :: (sides ++ tail)) count die modifier

/-- The characters that throws are written with. -/
def NotationChar (char : Char) : Prop :=
  ('0' ≤ char ∧ char ≤ '9') ∨ char = '+' ∨ char = '-' ∨ char = 'd'

/-- A capital `D` is read as a `d`. -/
def foldMarker (char : Char) : Char := if char = 'D' then 'd' else char

/-- A text without white space and with every capital `D` as a `d`; nothing else is put in lower case. -/
def spelling (chars : List Char) : List Char := (Text.withoutBlanks chars).map foldMarker

theorem notationChar_toNat {char : Char} (written : NotationChar char) :
    (43 ≤ char.toNat ∧ char.toNat ≤ 57) ∨ char.toNat = 100 := by
  rcases written with digit | rfl | rfl | rfl
  · exact Or.inl ⟨Nat.le_trans (by decide) digit.1, digit.2⟩
  · decide
  · decide
  · decide

private theorem lowerChar_of_notationChar_foldMarker {char : Char}
    (written : NotationChar (foldMarker char)) : lowerChar char = [foldMarker char] := by
  by_cases capital : char = 'D'
  · subst capital
    decide
  · rw [foldMarker, if_neg capital] at written ⊢
    have range := notationChar_toNat written
    rw [Text.lowerChar_of_le (by omega), if_neg (by omega)]

private theorem lowerChar_of_forall_notationChar {char : Char}
    (written : ∀ lowered ∈ lowerChar char, NotationChar lowered) :
    lowerChar char = [foldMarker char] := by
  obtain ⟨first, others, shape⟩ : ∃ first others, lowerChar char = first :: others := by
    rw [lowerChar]
    split
    · exact ⟨_, _, rfl⟩
    · split <;> exact ⟨_, _, rfl⟩
  have member : first ∈ lowerChar char := by simp [shape]
  have range := notationChar_toNat (written first member)
  have low := Text.toNat_le_of_mem_lowerChar member (by omega) (by omega)
  rw [Text.lowerChar_of_le low] at written ⊢
  split at written
  · next capital =>
    have range := notationChar_toNat (written _ (List.mem_singleton_self _))
    have code : char.toNat = 68 := by
      rcases Text.toNat_ofNat_eq_or (char.toNat + 32) with same | zero <;> omega
    obtain rfl : char = 'D' := Char.toNat_inj.mp code
    decide
  · next plain =>
    have other : char ≠ 'D' := by
      rintro rfl
      exact plain (by decide)
    rw [if_neg plain, foldMarker, if_neg other]

/-- Where lower-casing gives the characters of throws alone, it has only folded the capital `D`. -/
theorem lower_eq_map_foldMarker {chars : List Char}
    (written : ∀ char ∈ Text.lower chars, NotationChar char) :
    Text.lower chars = chars.map foldMarker := by
  induction chars with
  | nil => rfl
  | cons char chars ih =>
    rw [Text.lower, List.flatMap_cons] at written ⊢
    rw [lowerChar_of_forall_notationChar fun lowered member =>
      written lowered (List.mem_append_left _ member)]
    exact congrArg (foldMarker char :: ·)
      (ih fun lowered member => written lowered (List.mem_append_right _ member))

/-- A text that is written with the characters of throws once `D` is folded is only folded. -/
theorem lower_eq_map_foldMarker_of_map {chars : List Char}
    (written : ∀ char ∈ chars.map foldMarker, NotationChar char) :
    Text.lower chars = chars.map foldMarker := by
  induction chars with
  | nil => rfl
  | cons char chars ih =>
    rw [List.map_cons, List.forall_mem_cons] at written
    rw [Text.lower, List.flatMap_cons, lowerChar_of_notationChar_foldMarker written.1]
    exact congrArg (foldMarker char :: ·) (ih written.2)

theorem CountText.notationChar {head : List Char} {count : Nat} (counted : CountText head count) :
    ∀ char ∈ head, '0' ≤ char ∧ char ≤ '9' := by
  cases counted with
  | single => simp
  | counted numeral _ _ => exact numeral.digit

theorem SidesText.eq_decimalDigits {sides : List Char} {die : Die} (sided : SidesText sides die) :
    sides = Text.decimalDigits die.sides := by
  cases sided <;> rfl

theorem sidesText_decimalDigits (die : Die) : SidesText (Text.decimalDigits die.sides) die := by
  cases die <;> constructor

theorem SidesText.numeral {sides : List Char} {die : Die} (sided : SidesText sides die) :
    Numeral sides die.sides := by
  rw [sided.eq_decimalDigits]
  exact Text.numeral_decimalDigits die.sides

theorem ModifierText.notationChar {tail : List Char} {modifier : Int}
    (modified : ModifierText tail modifier) : ∀ char ∈ tail,
      ('0' ≤ char ∧ char ≤ '9') ∨ char = '+' ∨ char = '-' := by
  cases modified with
  | zero => simp
  | plus numeral _ =>
    intro char member
    rcases List.mem_cons.mp member with rfl | member
    · exact Or.inr (Or.inl rfl)
    · exact Or.inl (numeral.digit char member)
  | minus numeral _ =>
    intro char member
    rcases List.mem_cons.mp member with rfl | member
    · exact Or.inr (Or.inr rfl)
    · exact Or.inl (numeral.digit char member)

theorem ThrowText.notationChar {chars : List Char} {count : Nat} {die : Die} {modifier : Int}
    (written : ThrowText chars count die modifier) : ∀ char ∈ chars, NotationChar char := by
  obtain ⟨counted, sided, modified⟩ := written
  intro char member
  simp only [List.mem_append, List.mem_cons] at member
  rcases member with member | rfl | member | member
  · exact Or.inl (counted.notationChar char member)
  · exact Or.inr (Or.inr (Or.inr rfl))
  · exact Or.inl (sided.numeral.digit char member)
  · rcases modified.notationChar char member with digit | rfl | rfl
    · exact Or.inl digit
    · exact Or.inr (Or.inl rfl)
    · exact Or.inr (Or.inr (Or.inl rfl))

theorem ThrowText.bounds {chars : List Char} {count : Nat} {die : Die} {modifier : Int}
    (written : ThrowText chars count die modifier) :
    (1 ≤ count ∧ count ≤ 100) ∧ -2147483647 ≤ modifier ∧ modifier ≤ 2147483647 := by
  obtain ⟨counted, _, modified⟩ := written
  constructor
  · cases counted with
    | single => decide
    | counted _ least most => exact ⟨least, most⟩
  · cases modified <;> omega

theorem readCount_eq_ok_iff {head : List Char}
    {count : { count : Nat // 1 ≤ count ∧ count ≤ maxDice }} :
    Throw.readCount head = .ok count ↔ CountText head count.1 := by
  obtain ⟨count, least, most⟩ := count
  cases head with
  | nil =>
    simp only [Throw.readCount, List.isEmpty_nil, if_true, Except.ok.injEq, Subtype.mk.injEq]
    constructor
    · rintro rfl
      exact .single
    · intro counted
      cases counted with
      | single => rfl
      | counted numeral _ _ => exact absurd rfl numeral.nonempty
  | cons digit digits =>
    simp only [Throw.readCount, List.isEmpty_cons, Bool.false_eq_true, if_false,
      Throw.number_eq_ok_iff, Text.natOfDigits?_eq_some_iff_numeral]
    constructor
    · intro numeral
      exact .counted numeral least most
    · intro counted
      cases counted with
      | counted numeral _ _ => exact numeral

theorem readDie_eq_ok_iff {sides : List Char} {die : Die} :
    Throw.readDie sides = .ok die ↔ Numeral sides die.sides := by
  rw [Throw.readDie, bind_eq_ok_iff]
  constructor
  · rintro ⟨value, read, chosen⟩
    split at chosen
    · next found =>
      cases chosen
      rw [Die.ofSides?_eq_some_iff.mp found]
      exact Text.natOfDigits?_eq_some_iff_numeral.mp (Throw.number_eq_ok_iff.mp read)
    · cases chosen
  · intro numeral
    have bound : die.sides ≤ maxNumber := by cases die <;> decide
    refine ⟨⟨die.sides, Nat.zero_le _, bound⟩, ?_, ?_⟩
    · exact Throw.number_eq_ok_iff.mpr (Text.natOfDigits?_eq_some_iff_numeral.mpr numeral)
    · simp only [Die.ofSides?_sides]

theorem cutAtSign_eq_ok_iff {sign : Char} {tail sides piece : List Char} :
    Throw.cutAtSign sign tail = .ok (sides, piece) ↔
      tail = sides ++ sign :: piece ∧ sign ∉ sides ∧ sign ∉ piece := by
  rw [← and_assoc, ← Text.cutAt?_eq_some_iff, Throw.cutAtSign]
  cases Text.cutAt? sign tail with
  | none => simp
  | some pieces =>
    obtain ⟨before, behind⟩ := pieces
    by_cases again : sign ∈ behind
    · simp only [again, if_true, reduceCtorEq, Option.some.injEq, Prod.mk.injEq, false_iff]
      rintro ⟨⟨_, rfl⟩, once⟩
      exact once again
    · simp only [again, if_false, Except.ok.injEq, Option.some.injEq, Prod.mk.injEq]
      constructor
      · rintro ⟨rfl, rfl⟩
        exact ⟨⟨rfl, rfl⟩, again⟩
      · rintro ⟨same, _⟩
        exact same

theorem number_modifier_eq_ok_iff {piece : List Char}
    {magnitude : { value : Nat // 0 ≤ value ∧ value ≤ maxModifier }} :
    Throw.number .modifier 0 maxModifier piece = .ok magnitude ↔ Numeral piece magnitude.1 := by
  rw [Throw.number_eq_ok_iff, Text.natOfDigits?_eq_some_iff_numeral]

/-- What is split off behind the sides is the text of the modifier. -/
theorem exists_of_splitModifier {tail sides : List Char} {modifier : Throw.Modifier}
    (success : Throw.splitModifier tail = .ok (sides, modifier)) :
    ∃ written, tail = sides ++ written ∧ ModifierText written modifier.1 := by
  rw [Throw.splitModifier] at success
  split at success
  · obtain ⟨⟨before, piece⟩, cut, success⟩ := bind_eq_ok_iff.mp success
    obtain ⟨magnitude, read, success⟩ := bind_eq_ok_iff.mp success
    obtain ⟨shape, _, _⟩ := cutAtSign_eq_ok_iff.mp cut
    cases success
    exact ⟨_, shape, .plus (number_modifier_eq_ok_iff.mp read) magnitude.2.2⟩
  · split at success
    · obtain ⟨⟨before, piece⟩, cut, success⟩ := bind_eq_ok_iff.mp success
      obtain ⟨magnitude, read, success⟩ := bind_eq_ok_iff.mp success
      obtain ⟨shape, _, _⟩ := cutAtSign_eq_ok_iff.mp cut
      cases success
      exact ⟨_, shape, .minus (number_modifier_eq_ok_iff.mp read) magnitude.2.2⟩
    · cases success
      exact ⟨[], (List.append_nil tail).symm, .zero⟩

theorem sign_not_mem {digits : List Char} {value : Nat} (numeral : Numeral digits value)
    {sign : Char} (noDigit : ¬('0' ≤ sign ∧ sign ≤ '9')) : sign ∉ digits :=
  fun member => noDigit (numeral.digit sign member)

/-- Behind sides that are digits, the text of a modifier is split off and read. -/
theorem splitModifier_append {sides written : List Char} {value : Nat} {modifier : Int}
    (numeral : Numeral sides value) (modified : ModifierText written modifier) :
    ∃ bound, Throw.splitModifier (sides ++ written) = .ok (sides, ⟨modifier, bound⟩) := by
  have noPlus : '+' ∉ sides := sign_not_mem numeral (by decide)
  have noMinus : '-' ∉ sides := sign_not_mem numeral (by decide)
  rw [Throw.splitModifier]
  cases modified with
  | zero => exact ⟨Nat.zero_le _, by simp [noPlus, noMinus]⟩
  | @plus digits magnitude read most =>
    have cut : Throw.cutAtSign '+' (sides ++ '+' :: digits) = .ok (sides, digits) :=
      cutAtSign_eq_ok_iff.mpr ⟨rfl, noPlus, sign_not_mem read (by decide)⟩
    have number : Throw.number .modifier 0 maxModifier digits = .ok ⟨magnitude, by omega, most⟩ :=
      number_modifier_eq_ok_iff.mpr read
    refine ⟨most, ?_⟩
    rw [if_pos (by simp)]
    exact bind_eq_ok_iff.mpr ⟨_, cut, bind_eq_ok_iff.mpr ⟨_, number, rfl⟩⟩
  | @minus digits magnitude read most =>
    have cut : Throw.cutAtSign '-' (sides ++ '-' :: digits) = .ok (sides, digits) :=
      cutAtSign_eq_ok_iff.mpr ⟨rfl, noMinus, sign_not_mem read (by decide)⟩
    have number : Throw.number .modifier 0 maxModifier digits = .ok ⟨magnitude, by omega, most⟩ :=
      number_modifier_eq_ok_iff.mpr read
    refine ⟨by rw [Int.natAbs_neg]; exact most, ?_⟩
    have stillNoPlus : '+' ∉ digits := sign_not_mem read (by decide)
    rw [if_neg (by simp [noPlus, stillNoPlus]), if_pos (by simp)]
    exact bind_eq_ok_iff.mpr ⟨_, cut, bind_eq_ok_iff.mpr ⟨_, number, rfl⟩⟩

theorem namesDie_eq_true_iff {chars : List Char} :
    Throw.namesDie chars = true ↔ ∃ die : Die, die.name <:+: chars := by
  simp only [Throw.namesDie, Throw.dieNames, List.any_map, List.any_eq_true, Function.comp_apply,
    Text.occursIn_eq_true_iff]
  constructor
  · rintro ⟨die, _, occurs⟩
    exact ⟨die, occurs⟩
  · rintro ⟨die, occurs⟩
    exact ⟨die, by cases die <;> decide, occurs⟩

/-- A name that starts with a mark can only stand where the mark does. -/
theorem prefix_of_infix {mark : Char} {name head tail : List Char}
    (occurs : mark :: name <:+: head ++ mark :: tail) (before : mark ∉ head) (behind : mark ∉ tail) :
    name <+: tail := by
  induction head with
  | nil =>
    rcases List.infix_cons_iff.mp occurs with start | inside
    · exact (List.cons_prefix_cons.mp start).2
    · exact absurd (inside.subset List.mem_cons_self) behind
  | cons char head ih =>
    rw [List.mem_cons, not_or] at before
    rcases List.infix_cons_iff.mp occurs with start | inside
    · exact absurd (List.cons_prefix_cons.mp start).1 before.1
    · exact ih inside before.2

theorem exists_decimalDigits_sides (die : Die) :
    ∃ first rest, Text.decimalDigits die.sides = first :: rest ∧ first ≠ '0' := by
  cases die <;> exact ⟨_, _, rfl, by decide⟩

/-- Where the name of some die starts behind the only mark, the sides have no leading zero. -/
private theorem sidesText_of_named {sides written : List Char} {die named : Die}
    (numeral : Numeral sides die.sides)
    (start : Text.decimalDigits named.sides <+: sides ++ written) : SidesText sides die := by
  have run : Text.isDigitRun sides = true ∧ Text.decimalValue sides = die.sides :=
    Text.natOfDigits?_eq_some_iff.mp (Text.natOfDigits?_eq_some_iff_numeral.mpr numeral)
  have head : sides.head? ≠ some '0' := by
    obtain ⟨first, others, rfl⟩ := List.exists_cons_of_ne_nil numeral.nonempty
    obtain ⟨digit, rest, shape, nonzero⟩ := exists_decimalDigits_sides named
    rw [shape] at start
    rw [← (List.cons_prefix_cons.mp start).1]
    simpa using nonzero
  rw [← Text.decimalDigits_decimalValue run.1 head, run.2]
  exact sidesText_decimalDigits die

/-- The reader of normalized texts accepts exactly the grammar, with the values it denotes. -/
theorem ofNormalized_eq_ok_iff {chars : List Char} {count : Nat} {die : Die} {modifier : Int} :
    (∃ throw, Throw.ofNormalized chars = .ok throw ∧
      throw.count = count ∧ throw.die = die ∧ throw.modifier = modifier) ↔
      ThrowText chars count die modifier := by
  rw [Throw.ofNormalized]
  constructor
  · rintro ⟨throw, success, rfl, rfl, rfl⟩
    split at success
    · cases success
    next head tail cut =>
    obtain ⟨rfl, before⟩ := Text.eq_append_of_cutAt? cut
    split at success
    · cases success
    next named =>
    obtain ⟨count, counted, afterCount⟩ := bind_eq_ok_iff.mp success
    obtain ⟨⟨sides, modifier⟩, split, afterSplit⟩ := bind_eq_ok_iff.mp afterCount
    obtain ⟨die, sided, made⟩ := bind_eq_ok_iff.mp afterSplit
    obtain ⟨written, rfl, modified⟩ := exists_of_splitModifier split
    cases made
    have numeral := readDie_eq_ok_iff.mp sided
    have behind : 'd' ∉ sides ++ written := by
      rw [List.mem_append, not_or]
      refine ⟨sign_not_mem numeral (by decide), fun member => ?_⟩
      exact absurd (modified.notationChar 'd' member) (by decide)
    obtain ⟨named, occurs⟩ := namesDie_eq_true_iff.mp (by simpa using named)
    have start := prefix_of_infix occurs before behind
    exact .throw (readCount_eq_ok_iff.mp counted) (sidesText_of_named numeral start) modified
  · rintro ⟨counted, sided, modified⟩
    rename_i head sides written
    have bounds := (ThrowText.throw counted sided modified).bounds.1
    have before : 'd' ∉ head := fun member =>
      absurd (counted.notationChar 'd' member) (by decide)
    have named : Throw.namesDie (head ++ 'd' :: (sides ++ written)) = true := by
      refine namesDie_eq_true_iff.mpr ⟨die, head, written, ?_⟩
      rw [Die.name, ← sided.eq_decimalDigits]
      simp
    obtain ⟨bound, split⟩ := splitModifier_append sided.numeral modified
    refine ⟨⟨count, die, modifier, bounds.1, bounds.2, bound⟩, ?_, rfl, rfl, rfl⟩
    simp only [Text.cutAt?_append before, named, Bool.not_true, Bool.false_eq_true, if_false]
    refine bind_eq_ok_iff.mpr ⟨⟨count, bounds⟩, readCount_eq_ok_iff.mpr counted, ?_⟩
    refine bind_eq_ok_iff.mpr ⟨_, split, ?_⟩
    exact bind_eq_ok_iff.mpr ⟨die, readDie_eq_ok_iff.mpr sided.numeral, rfl⟩

/-- White space and case do not matter beyond the capital `D`. -/
theorem throwText_normalize_iff {chars : List Char} {count : Nat} {die : Die} {modifier : Int} :
    ThrowText (Throw.normalize chars) count die modifier ↔
      ThrowText (spelling chars) count die modifier := by
  constructor
  · intro written
    rwa [Throw.normalize, lower_eq_map_foldMarker written.notationChar] at written
  · intro written
    rwa [Throw.normalize, lower_eq_map_foldMarker_of_map written.notationChar]

/-- A text is read as a throw exactly when it is spelled as the grammar says, and then with the values
that the grammar gives it. All its characters are white space, digits, signs, or a `d` in either case. -/
theorem parse_eq_ok_iff_throwText (text : String) :
    (∀ count die modifier, (∃ throw, Throw.parse text = .ok throw ∧
        throw.count = count ∧ throw.die = die ∧ throw.modifier = modifier) ↔
      ThrowText (spelling text.toList) count die modifier) ∧
    ∀ throw, Throw.parse text = .ok throw →
      (1 ≤ throw.count ∧ throw.count ≤ 100) ∧
      (-2147483647 ≤ throw.modifier ∧ throw.modifier ≤ 2147483647) ∧
      ∀ char ∈ text.toList, Text.isBlank char = true ∨ char = 'D' ∨ NotationChar char := by
  have accepts : ∀ count die modifier, (∃ throw, Throw.parse text = .ok throw ∧
        throw.count = count ∧ throw.die = die ∧ throw.modifier = modifier) ↔
      ThrowText (spelling text.toList) count die modifier := by
    intro count die modifier
    rw [← throwText_normalize_iff]
    exact ofNormalized_eq_ok_iff
  refine ⟨accepts, ?_⟩
  intro throw success
  have written := (accepts _ _ _).mp ⟨throw, success, rfl, rfl, rfl⟩
  refine ⟨written.bounds.1, written.bounds.2, ?_⟩
  intro char member
  by_cases blank : Text.isBlank char = true
  · exact Or.inl blank
  · have kept : foldMarker char ∈ spelling text.toList :=
      List.mem_map_of_mem (List.mem_filter.mpr ⟨member, by simp [blank]⟩)
    by_cases capital : char = 'D'
    · exact Or.inr (Or.inl capital)
    · have known := written.notationChar _ kept
      rw [foldMarker, if_neg capital] at known
      exact Or.inr (Or.inr known)

/-- White space, case and leading zeros at work: everywhere but in the sides they are allowed. -/
theorem parse_leading_zeros : ∃ throw, Throw.parse " 0002 D6 +007" = .ok throw ∧
    (throw.count = 2 ∧ throw.die = .d6 ∧ throw.modifier = 7) ∧
    ∀ char ∈ " 0002 D6 +007".toList, Text.isBlank char = true ∨ char = 'D' ∨ NotationChar char := by
  have spelled : spelling " 0002 D6 +007".toList =
      ['0', '0', '0', '2'] ++ 'd' :: (['6'] ++ ['+', '0', '0', '7']) := by decide
  have counted : CountText ['0', '0', '0', '2'] 2 :=
    .counted (Text.natOfDigits?_eq_some_iff_numeral.mp (by decide)) (by decide) (by decide)
  have modified : ModifierText ['+', '0', '0', '7'] 7 :=
    .plus (Text.natOfDigits?_eq_some_iff_numeral.mp (by decide)) (by decide)
  obtain ⟨accepts, known⟩ := parse_eq_ok_iff_throwText " 0002 D6 +007"
  obtain ⟨throw, success, values⟩ := (accepts 2 .d6 7).mpr (spelled ▸ .throw counted .d6 modified)
  exact ⟨throw, success, values, (known throw success).2.2⟩

end TabletopBot.Dice
