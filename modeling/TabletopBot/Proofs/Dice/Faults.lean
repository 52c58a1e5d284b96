import TabletopBot.Proofs.Dice.ThrowText

/-! # What a rejected throw is blamed for

A text may be wrong in several places. The fault that is reported is about the first of them, in the order
die marker, name of a die, count, modifier, sides, and it quotes the piece of the text that stands there
(`parse_eq_error_iff_blames`). The pieces for the count and for the sides are never empty: the name of a die
occurs in the text, and where the count and the modifier are in order it can only stand in front of the
sides.
-/

namespace TabletopBot.Dice

open Text (Numeral)

/-- The name of some die occurs in a text. -/
def NamesDie (chars : List Char) : Prop :=
  ∃ name ∈ ["d4", "d6", "d8", "d10", "d12", "d20", "d100"], name.toList <:+: chars

/-- The numbers that are in order as a part of a throw. -/
def NumberPart.Admits : NumberPart → Nat → Prop
  | .count, value => 1 ≤ value ∧ value ≤ 100
  | .modifier, value => value ≤ 2147483647
  | .sides, value => value ≤ 4294967295

/-- A piece that is no run of digits, or one of a number that is out of range. -/
def Refused (part : NumberPart) (piece : List Char) : Prop :=
  ∀ value, Numeral piece value → ¬part.Admits value

/-- A text cut at its first `d`. -/
structure CutAtMarker (chars head tail : List Char) : Prop where
  shape : chars = head ++ 'd' :: tail
  first : 'd' ∉ head

/-- The sign that decides where a modifier starts: a plus where there is one, else a minus. -/
inductive DecidingSign (tail : List Char) : Char → Prop
  | plus : '+' ∈ tail → DecidingSign tail '+'
  | minus : '+' ∉ tail → '-' ∈ tail → DecidingSign tail '-'

/-- A text cut at a sign that occurs once. -/
structure CutAtOnly (sign : Char) (tail sides piece : List Char) : Prop where
  shape : tail = sides ++ sign :: piece
  front : sign ∉ sides
  back : sign ∉ piece

/-- The sides stand behind the marker, up to the end or up to the only deciding sign, and the modifier
behind the sign is in order. -/
inductive SidesBefore (tail : List Char) : List Char → Prop
  | whole : '+' ∉ tail → '-' ∉ tail → SidesBefore tail tail
  | signed {sign : Char} {sides piece : List Char} {value : Nat} :
      DecidingSign tail sign → CutAtOnly sign tail sides piece →
      Numeral piece value → NumberPart.modifier.Admits value → SidesBefore tail sides

/-- The piece that a modifier is blamed with: everything behind the marker where the deciding sign occurs
more than once, else what stands behind the sign. -/
inductive BadModifier (tail : List Char) : List Char → Prop
  | repeated {sign : Char} : DecidingSign tail sign → 2 ≤ tail.count sign → BadModifier tail tail
  | unread {sign : Char} {sides piece : List Char} :
      DecidingSign tail sign → CutAtOnly sign tail sides piece →
      Refused .modifier piece → BadModifier tail piece

/-- The fault that a normalized text is blamed for. -/
inductive Blames (chars : List Char) : ThrowFault → Prop
  | noDieMarker : 'd' ∉ chars → Blames chars .noDieMarker
  | unnamed {head tail : List Char} :
      CutAtMarker chars head tail → ¬NamesDie chars →
      Blames chars (.unsupportedDie (String.ofList tail))
  | count {head tail : List Char} :
      CutAtMarker chars head tail → NamesDie chars → head ≠ [] → Refused .count head →
      Blames chars (.badNumber .count (String.ofList head))
  | modifier {head tail piece : List Char} {count : Nat} :
      CutAtMarker chars head tail → NamesDie chars → CountText head count → BadModifier tail piece →
      Blames chars (.badNumber .modifier (String.ofList piece))
  | sides {head tail sides : List Char} {count : Nat} :
      CutAtMarker chars head tail → NamesDie chars → CountText head count → SidesBefore tail sides →
      sides ≠ [] → Refused .sides sides →
      Blames chars (.badNumber .sides (String.ofList sides))
  | unsupported {head tail sides : List Char} {count value : Nat} :
      CutAtMarker chars head tail → NamesDie chars → CountText head count → SidesBefore tail sides →
      Numeral sides value → NumberPart.sides.Admits value → value ∉ [4, 6, 8, 10, 12, 20, 100] →
      Blames chars (.unsupportedDie (String.ofList sides))

theorem cutAtMarker_iff {chars head tail : List Char} :
    Text.cutAt? 'd' chars = some (head, tail) ↔ CutAtMarker chars head tail :=
  Text.cutAt?_eq_some_iff.trans
    ⟨fun ⟨shape, first⟩ => ⟨shape, first⟩, fun ⟨shape, first⟩ => ⟨shape, first⟩⟩

theorem namesDie_iff {chars : List Char} : Throw.namesDie chars = true ↔ NamesDie chars := by
  have names : Throw.dieNames =
      ["d4", "d6", "d8", "d10", "d12", "d20", "d100"].map String.toList := by decide
  simp only [Throw.namesDie, names, List.any_map, List.any_eq_true, Function.comp_apply,
    Text.occursIn_eq_true_iff, NamesDie]

theorem number_eq_error_iff {part : NumberPart} {least most : Nat}
    (bounds : ∀ value, part.Admits value ↔ least ≤ value ∧ value ≤ most) {piece : List Char}
    {fault : ThrowFault} : Throw.number part least most piece = .error fault ↔
      fault = .badNumber part (String.ofList piece) ∧ Refused part piece := by
  have only {fault : ThrowFault} (failed : Throw.number part least most piece = .error fault) :
      fault = .badNumber part (String.ofList piece) := by
    unfold Throw.number at failed
    split at failed
    · split at failed
      · cases failed
      · cases failed
        rfl
    · cases failed
      rfl
  constructor
  · intro failed
    refine ⟨only failed, fun value numeral admitted => ?_⟩
    have read : Throw.number part least most piece = .ok ⟨value, (bounds value).mp admitted⟩ :=
      Throw.number_eq_ok_iff.mpr (Text.natOfDigits?_eq_some_iff_numeral.mpr numeral)
    cases failed.symm.trans read
  · rintro ⟨rfl, refused⟩
    cases read : Throw.number part least most piece with
    | ok value =>
      have numeral := Text.natOfDigits?_eq_some_iff_numeral.mp (Throw.number_eq_ok_iff.mp read)
      exact absurd ((bounds value.1).mpr value.2) (refused value.1 numeral)
    | error fault => rw [only read]

theorem admits_count_iff (value : Nat) :
    NumberPart.count.Admits value ↔ 1 ≤ value ∧ value ≤ maxDice := Iff.rfl

theorem admits_modifier_iff (value : Nat) :
    NumberPart.modifier.Admits value ↔ 0 ≤ value ∧ value ≤ maxModifier :=
  (and_iff_right (Nat.zero_le value)).symm

theorem admits_sides_iff (value : Nat) :
    NumberPart.sides.Admits value ↔ 0 ≤ value ∧ value ≤ maxNumber :=
  (and_iff_right (Nat.zero_le value)).symm

theorem readCount_eq_error_iff {head : List Char} {fault : ThrowFault} :
    Throw.readCount head = .error fault ↔ fault = .badNumber .count (String.ofList head) ∧
      head ≠ [] ∧ Refused .count head := by
  cases head with
  | nil => simp [Throw.readCount]
  | cons char chars =>
    rw [Throw.readCount, List.isEmpty_cons, if_neg Bool.false_ne_true,
      number_eq_error_iff admits_count_iff, and_iff_right (List.cons_ne_nil char chars)]

theorem ofSides?_eq_none_iff {value : Nat} :
    Die.ofSides? value = none ↔ value ∉ [4, 6, 8, 10, 12, 20, 100] := by
  have sides : [4, 6, 8, 10, 12, 20, 100] = Die.all.map Die.sides := rfl
  simp only [Die.ofSides?, List.find?_eq_none, beq_iff_eq, sides, List.mem_map, not_exists, not_and]

theorem readDie_eq_error_iff {sides : List Char} {fault : ThrowFault} :
    Throw.readDie sides = .error fault ↔
      (fault = .badNumber .sides (String.ofList sides) ∧ Refused .sides sides) ∨
      (fault = .unsupportedDie (String.ofList sides) ∧ ∃ value, Numeral sides value ∧
        NumberPart.sides.Admits value ∧ value ∉ [4, 6, 8, 10, 12, 20, 100]) := by
  rw [Throw.readDie, bind_eq_error_iff, number_eq_error_iff admits_sides_iff]
  refine or_congr Iff.rfl ?_
  constructor
  · rintro ⟨value, read, failed⟩
    have numeral := Text.natOfDigits?_eq_some_iff_numeral.mp (Throw.number_eq_ok_iff.mp read)
    split at failed
    · cases failed
    · next nothing =>
      cases failed
      exact ⟨rfl, _, numeral, value.2.2, ofSides?_eq_none_iff.mp nothing⟩
  · rintro ⟨rfl, value, numeral, bound, unsupported⟩
    refine ⟨⟨value, Nat.zero_le _, bound⟩, ?_, ?_⟩
    · exact Throw.number_eq_ok_iff.mpr (Text.natOfDigits?_eq_some_iff_numeral.mpr numeral)
    · simp only [ofSides?_eq_none_iff.mpr unsupported]

theorem two_le_count_iff {sign : Char} {sides piece : List Char} (front : sign ∉ sides) :
    2 ≤ (sides ++ sign :: piece).count sign ↔ sign ∈ piece := by
  rw [List.count_append, List.count_eq_zero_of_not_mem front, List.count_cons_self,
    ← List.count_pos_iff]
  omega

theorem cutAtOnly_iff {sign : Char} {tail sides piece : List Char} :
    Throw.cutAtSign sign tail = .ok (sides, piece) ↔ CutAtOnly sign tail sides piece :=
  cutAtSign_eq_ok_iff.trans
    ⟨fun ⟨shape, front, back⟩ => ⟨shape, front, back⟩,
      fun ⟨shape, front, back⟩ => ⟨shape, front, back⟩⟩

theorem cutAtSign_eq_error_iff {sign : Char} {tail : List Char} {fault : ThrowFault}
    (member : sign ∈ tail) : Throw.cutAtSign sign tail = .error fault ↔
      fault = .badNumber .modifier (String.ofList tail) ∧ 2 ≤ tail.count sign := by
  rw [Throw.cutAtSign]
  split
  · next sides piece cut =>
    obtain ⟨shape, front⟩ := Text.eq_append_of_cutAt? cut
    rw [shape, two_le_count_iff front]
    split
    · next again => simp [again, eq_comm]
    · next once => simp [once]
  · next absent => exact absurd member (Text.cutAt?_eq_none_iff.mp absent)

theorem DecidingSign.mem {tail : List Char} {sign : Char} (deciding : DecidingSign tail sign) :
    sign ∈ tail := by
  cases deciding with
  | plus member => exact member
  | minus _ member => exact member

theorem DecidingSign.unique {tail : List Char} {sign other : Char} (first : DecidingSign tail sign)
    (second : DecidingSign tail other) : sign = other := by
  cases first with
  | plus member =>
    cases second with
    | plus => rfl
    | minus absent => exact absurd member absent
  | minus absent =>
    cases second with
    | plus member => exact absurd member absent
    | minus => rfl

/-- Where there is a sign, the deciding one is used with one of the two ways to attach it. -/
theorem splitModifier_of_deciding {tail : List Char} {sign : Char} (deciding : DecidingSign tail sign) :
    ∃ attach : { value : Nat // 0 ≤ value ∧ value ≤ maxModifier } → Throw.Modifier,
      Throw.splitModifier tail = Throw.cutAtSign sign tail >>= fun (sides, piece) =>
        Throw.number .modifier 0 maxModifier piece >>= fun magnitude =>
          .ok (sides, attach magnitude) := by
  rw [Throw.splitModifier]
  cases deciding with
  | plus member => exact ⟨_, if_pos member⟩
  | minus absent member => exact ⟨_, (if_neg absent).trans (if_pos member)⟩

theorem splitModifier_of_unsigned {tail : List Char} (noPlus : '+' ∉ tail) (noMinus : '-' ∉ tail) :
    Throw.splitModifier tail = .ok (tail, ⟨0, Nat.zero_le _⟩) := by
  rw [Throw.splitModifier, if_neg noPlus, if_neg noMinus]

theorem unsigned_or_deciding (tail : List Char) :
    ('+' ∉ tail ∧ '-' ∉ tail) ∨ ∃ sign, DecidingSign tail sign := by
  by_cases plus : '+' ∈ tail
  · exact .inr ⟨_, .plus plus⟩
  · by_cases minus : '-' ∈ tail
    · exact .inr ⟨_, .minus plus minus⟩
    · exact .inl ⟨plus, minus⟩

theorem splitModifier_eq_error_iff {tail : List Char} {fault : ThrowFault} :
    Throw.splitModifier tail = .error fault ↔
      ∃ piece, fault = .badNumber .modifier (String.ofList piece) ∧ BadModifier tail piece := by
  obtain ⟨noPlus, noMinus⟩ | ⟨sign, deciding⟩ := unsigned_or_deciding tail
  · have unsigned {sign : Char} : ¬DecidingSign tail sign := by
      rintro (plus | ⟨-, minus⟩)
      · exact noPlus plus
      · exact noMinus minus
    rw [splitModifier_of_unsigned noPlus noMinus]
    refine iff_of_false nofun ?_
    rintro ⟨_, -, deciding | deciding⟩
    · exact unsigned deciding
    · exact unsigned deciding
  · obtain ⟨attach, shape⟩ := splitModifier_of_deciding deciding
    rw [shape, bind_eq_error_iff, cutAtSign_eq_error_iff deciding.mem]
    constructor
    · rintro (⟨rfl, again⟩ | ⟨⟨sides, piece⟩, cut, failed⟩)
      · exact ⟨tail, rfl, .repeated deciding again⟩
      · obtain failed | ⟨_, _, impossible⟩ := bind_eq_error_iff.mp failed
        · obtain ⟨rfl, refused⟩ := (number_eq_error_iff admits_modifier_iff).mp failed
          exact ⟨piece, rfl, .unread deciding (cutAtOnly_iff.mp cut) refused⟩
        · cases impossible
    · rintro ⟨piece, rfl, bad⟩
      cases bad with
      | repeated other again =>
        obtain rfl := deciding.unique other
        exact .inl ⟨rfl, again⟩
      | unread other cut refused =>
        obtain rfl := deciding.unique other
        refine .inr ⟨_, cutAtOnly_iff.mpr cut, bind_eq_error_iff.mpr (.inl ?_)⟩
        exact (number_eq_error_iff admits_modifier_iff).mpr ⟨rfl, refused⟩

theorem exists_splitModifier_iff {tail sides : List Char} :
    (∃ modifier, Throw.splitModifier tail = .ok (sides, modifier)) ↔ SidesBefore tail sides := by
  constructor
  · rintro ⟨modifier, success⟩
    obtain ⟨noPlus, noMinus⟩ | ⟨sign, deciding⟩ := unsigned_or_deciding tail
    · rw [splitModifier_of_unsigned noPlus noMinus] at success
      cases success
      exact .whole noPlus noMinus
    · obtain ⟨attach, shape⟩ := splitModifier_of_deciding deciding
      rw [shape] at success
      obtain ⟨⟨before, piece⟩, cut, success⟩ := bind_eq_ok_iff.mp success
      obtain ⟨magnitude, read, success⟩ := bind_eq_ok_iff.mp success
      cases success
      exact .signed deciding (cutAtOnly_iff.mp cut) (number_modifier_eq_ok_iff.mp read) magnitude.2.2
  · intro before
    cases before with
    | whole noPlus noMinus => exact ⟨_, splitModifier_of_unsigned noPlus noMinus⟩
    | @signed sign sides piece value deciding cut numeral most =>
      obtain ⟨attach, shape⟩ := splitModifier_of_deciding deciding
      have read : Throw.number .modifier 0 maxModifier piece = .ok ⟨value, Nat.zero_le _, most⟩ :=
        number_modifier_eq_ok_iff.mpr numeral
      refine ⟨attach ⟨value, Nat.zero_le _, most⟩, shape ▸ ?_⟩
      exact bind_eq_ok_iff.mpr ⟨_, cutAtOnly_iff.mpr cut, bind_eq_ok_iff.mpr ⟨_, read, rfl⟩⟩

/-- Where nothing stands before a modifier that is in order, no die is named behind the marker. -/
theorem SidesBefore.unnamed {tail : List Char} (empty : SidesBefore tail []) (die : Die) :
    'd' ∉ tail ∧ ¬Text.decimalDigits die.sides <+: tail := by
  obtain ⟨first, rest, digits, -⟩ := exists_decimalDigits_sides die
  have digit : '0' ≤ first ∧ first ≤ '9' :=
    (Text.numeral_decimalDigits die.sides).digit first (digits ▸ List.mem_cons_self)
  rw [digits]
  cases empty with
  | whole => exact ⟨List.not_mem_nil, fun start => absurd start.length_le (by simp)⟩
  | @signed sign _ piece _ deciding cut numeral =>
    have other : sign ≠ 'd' ∧ ¬('0' ≤ sign ∧ sign ≤ '9') := by
      cases deciding with
      | plus => decide
      | minus => decide
    rw [cut.shape, List.nil_append]
    refine ⟨?_, fun start => other.2 ((List.cons_prefix_cons.mp start).1 ▸ digit)⟩
    rw [List.mem_cons, not_or]
    exact ⟨Ne.symm other.1, sign_not_mem numeral (by decide)⟩

/-- Where some die is named, the sides are blamed with a text that is not empty. -/
theorem SidesBefore.ne_nil {chars head tail sides : List Char} (before : SidesBefore tail sides)
    (cut : CutAtMarker chars head tail) (named : NamesDie chars) : sides ≠ [] := by
  rintro rfl
  obtain ⟨die, occurs⟩ := namesDie_eq_true_iff.mp (namesDie_iff.mpr named)
  obtain ⟨behind, absent⟩ := before.unnamed die
  -- There is one `d` only, so the number of the die would have to start right behind it.
  have start := prefix_of_infix (cut.shape ▸ occurs) cut.first behind
  exact absent start

/-- Where some die is named, the pieces are read in turn. -/
theorem ofNormalized_of_named {chars head tail : List Char} (cut : CutAtMarker chars head tail)
    (named : NamesDie chars) : Throw.ofNormalized chars =
      (Throw.readCount head >>= fun count =>
        Throw.splitModifier tail >>= fun (sides, modifier) =>
          Throw.readDie sides >>= fun die =>
            .ok ⟨count.1, die, modifier.1, count.2.1, count.2.2, modifier.2⟩) := by
  rw [Throw.ofNormalized, cutAtMarker_iff.mpr cut]
  simp only [namesDie_iff.mpr named, Bool.not_true, Bool.false_eq_true, if_false]

theorem CountText.exists_readCount {head : List Char} {count : Nat} (counted : CountText head count) :
    ∃ value, Throw.readCount head = .ok value := by
  have bounds : 1 ≤ count ∧ count ≤ maxDice := by
    cases counted with
    | single => decide
    | counted _ least most => exact ⟨least, most⟩
  exact ⟨⟨count, bounds⟩, readCount_eq_ok_iff.mpr counted⟩

theorem ofNormalized_eq_error_of_blames {chars : List Char} {fault : ThrowFault}
    (blames : Blames chars fault) : Throw.ofNormalized chars = .error fault := by
  cases blames with
  | noDieMarker absent => rw [Throw.ofNormalized, Text.cutAt?_eq_none_iff.mpr absent]
  | unnamed cut unnamed =>
    rw [Throw.ofNormalized, cutAtMarker_iff.mpr cut]
    simp only [Bool.eq_false_iff.mpr (mt namesDie_iff.mp unnamed), Bool.not_false, if_true]
  | count cut named nonempty refused =>
    rw [ofNormalized_of_named cut named]
    exact bind_eq_error_iff.mpr (.inl (readCount_eq_error_iff.mpr ⟨rfl, nonempty, refused⟩))
  | modifier cut named counted bad =>
    obtain ⟨count, read⟩ := counted.exists_readCount
    have failed := splitModifier_eq_error_iff.mpr ⟨_, rfl, bad⟩
    rw [ofNormalized_of_named cut named]
    exact bind_eq_error_iff.mpr (.inr ⟨count, read, bind_eq_error_iff.mpr (.inl failed)⟩)
  | sides cut named counted before _ refused =>
    obtain ⟨count, read⟩ := counted.exists_readCount
    obtain ⟨modifier, split⟩ := exists_splitModifier_iff.mpr before
    have failed := readDie_eq_error_iff.mpr (.inl ⟨rfl, refused⟩)
    rw [ofNormalized_of_named cut named]
    refine bind_eq_error_iff.mpr (.inr ⟨count, read, ?_⟩)
    exact bind_eq_error_iff.mpr (.inr ⟨_, split, bind_eq_error_iff.mpr (.inl failed)⟩)
  | unsupported cut named counted before numeral bound unsupported =>
    obtain ⟨count, read⟩ := counted.exists_readCount
    obtain ⟨modifier, split⟩ := exists_splitModifier_iff.mpr before
    have failed := readDie_eq_error_iff.mpr (.inr ⟨rfl, _, numeral, bound, unsupported⟩)
    rw [ofNormalized_of_named cut named]
    refine bind_eq_error_iff.mpr (.inr ⟨count, read, ?_⟩)
    exact bind_eq_error_iff.mpr (.inr ⟨_, split, bind_eq_error_iff.mpr (.inl failed)⟩)

theorem blames_of_ofNormalized_eq_error {chars : List Char} {fault : ThrowFault}
    (failed : Throw.ofNormalized chars = .error fault) : Blames chars fault := by
  cases marked : Text.cutAt? 'd' chars with
  | none =>
    rw [Throw.ofNormalized, marked] at failed
    cases failed
    exact .noDieMarker (Text.cutAt?_eq_none_iff.mp marked)
  | some pieces =>
    obtain ⟨head, tail⟩ := pieces
    have cut := cutAtMarker_iff.mp marked
    by_cases named : NamesDie chars
    · rw [ofNormalized_of_named cut named] at failed
      obtain failed | ⟨count, read, failed⟩ := bind_eq_error_iff.mp failed
      · obtain ⟨rfl, nonempty, refused⟩ := readCount_eq_error_iff.mp failed
        exact .count cut named nonempty refused
      have counted := readCount_eq_ok_iff.mp read
      obtain failed | ⟨⟨sides, modifier⟩, split, failed⟩ := bind_eq_error_iff.mp failed
      · obtain ⟨piece, rfl, bad⟩ := splitModifier_eq_error_iff.mp failed
        exact .modifier cut named counted bad
      have before := exists_splitModifier_iff.mp ⟨modifier, split⟩
      obtain failed | ⟨_, _, impossible⟩ := bind_eq_error_iff.mp failed
      · obtain ⟨rfl, refused⟩ | ⟨rfl, value, numeral, bound, unsupported⟩ :=
          readDie_eq_error_iff.mp failed
        · exact .sides cut named counted before (before.ne_nil cut named) refused
        · exact .unsupported cut named counted before numeral bound unsupported
      · cases impossible
    · rw [ofNormalized_eq_error_of_blames (.unnamed cut named)] at failed
      cases failed
      exact .unnamed cut named

/-- Behind a repeated sign there is a text with a sign in it, which is no number. -/
theorem BadModifier.refused {tail piece : List Char} (bad : BadModifier tail piece) :
    Refused .modifier piece := by
  cases bad with
  | repeated deciding again =>
    intro value numeral _
    have digit := numeral.digit _ deciding.mem
    cases deciding with
    | plus => exact absurd digit (by decide)
    | minus => exact absurd digit (by decide)
  | unread _ _ refused => exact refused

/-- The piece that a number is blamed with is refused as that number, and only a modifier may be blamed
with an empty one. -/
theorem Blames.refused {chars : List Char} {part : NumberPart} {piece : String}
    (blames : Blames chars (.badNumber part piece)) :
    Refused part piece.toList ∧ (part ≠ .modifier → piece ≠ "") := by
  have nonempty {chars : List Char} (begun : chars ≠ []) : String.ofList chars ≠ "" := by
    simpa using begun
  cases blames with
  | count _ _ begun refused =>
    rw [String.toList_ofList]
    exact ⟨refused, fun _ => nonempty begun⟩
  | modifier _ _ _ bad =>
    rw [String.toList_ofList]
    exact ⟨bad.refused, fun other => absurd rfl other⟩
  | sides _ _ _ _ begun refused =>
    rw [String.toList_ofList]
    exact ⟨refused, fun _ => nonempty begun⟩

/-- A text is rejected with the fault that its normalized form is blamed for, and with no other. A number
is blamed with a piece that is refused as that number, which is not empty unless it is a modifier. -/
theorem parse_eq_error_iff_blames (text : String) :
    (∀ fault, Throw.parse text = .error fault ↔ Blames (Throw.normalize text.toList) fault) ∧
    ∀ part piece, Throw.parse text = .error (.badNumber part piece) →
      Refused part piece.toList ∧ (part ≠ .modifier → piece ≠ "") := by
  refine ⟨fun fault => ⟨blames_of_ofNormalized_eq_error, ofNormalized_eq_error_of_blames⟩, ?_⟩
  intro part piece failed
  exact (blames_of_ofNormalized_eq_error failed).refused

/-- The plus decides although there is a minus in front of it, and it is there twice. -/
theorem parse_blames_modifier :
    Throw.parse "2 D6 - 7 + 1 + x" = .error (.badNumber .modifier "6-7+1+x") ∧
    Blames (Throw.normalize "2 D6 - 7 + 1 + x".toList) (.badNumber .modifier "6-7+1+x") ∧
    Refused .modifier "6-7+1+x".toList := by
  have failed : Throw.parse "2 D6 - 7 + 1 + x" = .error (.badNumber .modifier "6-7+1+x") := by
    decide +kernel
  obtain ⟨blames, refused⟩ := parse_eq_error_iff_blames "2 D6 - 7 + 1 + x"
  exact ⟨failed, (blames _).mp failed, (refused _ _ failed).1⟩

end TabletopBot.Dice
