import Mathlib.Algebra.GroupWithZero.Nat
import TabletopBot.Proofs.Dice.Report
import TabletopBot.Proofs.Text.Joined

/-! # How long a report is

A report is as long as the lines of its dice, with a line feed between them. A die that has no critical
faces takes at most 37 characters, so that 51 of them always fit in a message; 100 of them with a long
modifier never do.
-/

namespace TabletopBot.Dice

/-- Joined lines are as long as the lines with a line feed behind each, but for the last. -/
theorem length_intercalate_add_one {lines : List String} (nonempty : lines ≠ []) :
    ("\n".intercalate lines).length + 1 = (lines.map (·.length + 1)).sum :=
  Text.length_intercalate_add nonempty

namespace RolledDie

variable {die : Die} {book : PhraseBook}

/-- The number of characters that a die takes in a report, with a line feed behind each line. -/
def size (separator : String) (modifier : Int) (link : String) : RolledDie die book → Nat
  | twenty _ index =>
    separator.length + ((book.success.get index).length + 13) + (bodyText modifier 20).length + 1 +
      (link.length + 1)
  | one _ index =>
    separator.length + ((book.failure.get index).length + 13) + (bodyText modifier 1).length + 1
  | ordinary face _ => separator.length + (bodyText modifier face).length + 1

theorem sum_lines (separator : String) (modifier : Int) (link : String) (rolled : RolledDie die book) :
    ((rolled.lines separator modifier link).map (·.length + 1)).sum =
      rolled.size separator modifier link := by
  have opening : "**".length = 2 := by rfl
  have closing : "** Natural ".length = 11 := by rfl
  cases rolled with
  | twenty | one | ordinary =>
    simp only [lines, size, List.map_cons, List.map_nil, List.sum_cons, List.sum_nil,
      String.length_append, opening, closing, List.get_eq_getElem, Fin.getElem_fin]
    omega

end RolledDie

variable {die : Die} {book : PhraseBook}

/-- The length of the report on dice that were rolled. -/
theorem length_render_add_one (separator : String) (modifier : Int) (link : String)
    {rolled : List (RolledDie die book)} (nonempty : rolled ≠ []) :
    (Report.render ⟨rolled.flatMap (·.lines separator modifier link)⟩).length + 1 =
      (rolled.map (·.size separator modifier link)).sum := by
  have lines : rolled.flatMap (·.lines separator modifier link) ≠ [] := by
    obtain ⟨first, others, rfl⟩ := List.exists_cons_of_ne_nil nonempty
    rw [List.flatMap_cons]
    refine List.append_ne_nil_of_left_ne_nil ?_ _
    rw [← List.length_pos_iff, first.length_lines]
    omega
  rw [Report.render, length_intercalate_add_one lines]
  clear nonempty lines
  induction rolled with
  | nil => rfl
  | cons first others ih =>
    rw [List.flatMap_cons, List.map_append, List.sum_append, first.sum_lines, ih, List.map_cons,
      List.sum_cons]

theorem length_toString_nat_le {value digits : Nat} (positive : 0 < digits)
    (small : value < 10 ^ digits) : (toString value).length ≤ digits := by
  change (String.ofList (Nat.toDigits 10 value)).length ≤ digits
  rw [String.length_ofList, Nat.length_toDigits_le_iff (by decide) positive]
  exact small

theorem length_toString_int_le {value : Int} {digits : Nat} (positive : 0 < digits)
    (small : value.natAbs < 10 ^ digits) : (toString value).length ≤ digits + 1 := by
  cases value with
  | ofNat value => exact Nat.le_succ_of_le (length_toString_nat_le positive small)
  | negSucc value =>
    change ("-" ++ toString (value + 1)).length ≤ digits + 1
    have magnitude : (toString (value + 1)).length ≤ digits := length_toString_nat_le positive small
    rw [String.length_append, Nat.add_comm]
    exact Nat.add_le_add_right magnitude 1

theorem length_bodyText (modifier : Int) (face : Nat) : (bodyText modifier face).length =
    if modifier = 0 then (toString face).length + 1
    else (toString face).length + (toString modifier.natAbs).length +
      (toString (face + modifier)).length + 8 := by
  have stop : ".".length = 1 := by rfl
  have opening : " (".length = 2 := by rfl
  have closing : ") = ".length = 4 := by rfl
  have sign : (if modifier < 0 then "-" else "+").length = 1 := by split <;> rfl
  unfold bodyText
  split
  · rw [String.length_append, stop]
  · simp only [String.length_append, stop, opening, closing, sign]
    omega

/-- A die without critical faces takes at most 37 characters, whatever the modifier. -/
theorem RolledDie.size_le {separator : String} (short : separator.length ≤ 4) {modifier : Int}
    (small : modifier.natAbs ≤ maxModifier) (link : String) (ordinary : die ≠ .d20)
    {rolled : RolledDie die book} (onDie : rolled.face ≤ 100) :
    rolled.size separator modifier link ≤ 37 := by
  cases rolled with
  | twenty isD20 | one isD20 => exact absurd isD20 ordinary
  | ordinary face _ =>
    change face ≤ 100 at onDie
    rw [maxModifier] at small
    have shown : (toString face).length ≤ 3 := length_toString_nat_le (by decide) (by omega)
    have magnitude : (toString modifier.natAbs).length ≤ 10 :=
      length_toString_nat_le (by decide) (by omega)
    have total : (toString (face + modifier)).length ≤ 10 + 1 :=
      length_toString_int_le (by decide) (by omega)
    rw [size, length_bodyText]
    split <;> omega

/-- A die that is shown with a modifier takes ten characters beside the separator and the modifier. -/
theorem RolledDie.le_size (separator : String) {modifier : Int} (nonzero : modifier ≠ 0) (link : String)
    (rolled : RolledDie die book) :
    separator.length + (toString modifier.natAbs).length + 9 ≤ rolled.size separator modifier link := by
  cases rolled with
  | twenty | one | ordinary =>
    rw [size, length_bodyText, if_neg nonzero]
    omega

/-- Dice without critical faces fill a report by at most 37 characters each. -/
theorem length_render_le {separator : String} (short : separator.length ≤ 4) {modifier : Int}
    (small : modifier.natAbs ≤ maxModifier) (link : String) (ordinary : die ≠ .d20)
    {rolled : List (RolledDie die book)} (nonempty : rolled ≠ []) (onDie : ∀ die ∈ rolled, die.face ≤ 100) :
    (Report.render ⟨rolled.flatMap (·.lines separator modifier link)⟩).length + 1 ≤
      37 * rolled.length := by
  rw [length_render_add_one separator modifier link nonempty]
  clear nonempty
  induction rolled with
  | nil => exact Nat.le_refl 0
  | cons first others ih =>
    have head := first.size_le short small link ordinary (onDie first (List.mem_cons_self ..))
    have rest := ih fun die member => onDie die (List.mem_cons_of_mem _ member)
    rw [List.map_cons, List.sum_cons, List.length_cons]
    omega

/-- Dice with a modifier fill a report at least by their separators, modifiers and what stands around
them. -/
theorem le_length_render (separator : String) {modifier : Int} (nonzero : modifier ≠ 0) (link : String)
    {rolled : List (RolledDie die book)} (nonempty : rolled ≠ []) :
    (separator.length + (toString modifier.natAbs).length + 9) * rolled.length ≤
      (Report.render ⟨rolled.flatMap (·.lines separator modifier link)⟩).length + 1 := by
  rw [length_render_add_one separator modifier link nonempty]
  clear nonempty
  induction rolled with
  | nil => exact Nat.le_refl 0
  | cons first others ih =>
    have head := first.le_size separator nonzero link
    rw [List.map_cons, List.sum_cons, List.length_cons, Nat.mul_succ]
    omega

end TabletopBot.Dice
