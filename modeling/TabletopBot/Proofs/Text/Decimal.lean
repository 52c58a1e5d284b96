import TabletopBot.Text.Decimal
import Mathlib.Data.List.Induction

/-! # Numerals

A numeral is a run of ASCII digits together with the number that it denotes; leading zeros are allowed,
so a number has many numerals. The reader accepts exactly the numerals, and the printer picks the one
that does not start with a zero, or the single zero. The numbers that are printed in a text are those of its
longest runs of digits.
-/

namespace TabletopBot.Text

/-- A run of ASCII digits, at least one, and the number that it denotes. -/
structure Numeral (digits : List Char) (value : Nat) : Prop where
  nonempty : digits ≠ []
  digit : ∀ char ∈ digits, '0' ≤ char ∧ char ≤ '9'
  denotes : Nat.ofDigitChars 10 digits 0 = value

theorem isDigit_eq_true_iff {char : Char} :
    isDigit char = true ↔ 48 ≤ char.toNat ∧ char.toNat ≤ 57 := by
  rw [isDigit, Bool.and_eq_true, decide_eq_true_eq, decide_eq_true_eq]
  rfl

theorem isDigitRun_eq_true_iff {digits : List Char} :
    isDigitRun digits = true ↔ digits ≠ [] ∧ ∀ char ∈ digits, isDigit char = true := by
  simp only [isDigitRun, Bool.and_eq_true, Bool.not_eq_true', List.isEmpty_eq_false_iff,
    List.all_eq_true]

/-- The reader accepts exactly the numerals. -/
theorem natOfDigits?_eq_some_iff_numeral {digits : List Char} {value : Nat} :
    natOfDigits? digits = some value ↔ Numeral digits value := by
  rw [natOfDigits?_eq_some_iff, isDigitRun_eq_true_iff]
  constructor
  · rintro ⟨⟨nonempty, all⟩, denotes⟩
    refine ⟨nonempty, ?_, denotes⟩
    intro char member
    simpa only [isDigit, Bool.and_eq_true, decide_eq_true_eq] using all char member
  · rintro ⟨nonempty, digit, denotes⟩
    refine ⟨⟨nonempty, ?_⟩, denotes⟩
    intro char member
    simpa only [isDigit, Bool.and_eq_true, decide_eq_true_eq] using digit char member

/-- What is printed for a number is a numeral of it. -/
theorem numeral_decimalDigits (value : Nat) : Numeral (decimalDigits value) value := by
  refine ⟨Nat.toDigits_ne_nil, ?_, Nat.ofDigitChars_ten_toDigits⟩
  intro char member
  have digit := Nat.isDigit_of_mem_toDigits (by decide) (by decide) member
  simp only [Char.isDigit, Bool.and_eq_true, decide_eq_true_eq] at digit
  exact digit

theorem isDigit_of_mem_decimalDigits {value : Nat} {char : Char}
    (member : char ∈ decimalDigits value) : isDigit char = true := by
  have run := (natOfDigits?_eq_some_iff.mp
    (natOfDigits?_eq_some_iff_numeral.mpr (numeral_decimalDigits value))).1
  exact (isDigitRun_eq_true_iff.mp run).2 char member

theorem natOfDigits?_decimalDigits (value : Nat) : natOfDigits? (decimalDigits value) = some value :=
  natOfDigits?_eq_some_iff_numeral.mpr (numeral_decimalDigits value)

/-- A number is written with the digits of the numbers below sixteen, in every base up to that. -/
theorem exists_digitChar_of_mem_toDigits {base value : Nat} {char : Char} (more : 1 < base)
    (most : base ≤ 16) (member : char ∈ Nat.toDigits base value) :
    ∃ digit < 16, char = Nat.digitChar digit := by
  induction value using Nat.strongRecOn with
  | ind value ih =>
    by_cases small : value < base
    · rw [Nat.toDigits_of_lt_base small] at member
      exact ⟨value, by omega, List.mem_singleton.mp member⟩
    · rw [Nat.toDigits_of_base_le more (Nat.le_of_not_lt small), List.mem_append] at member
      rcases member with member | member
      · exact ih (value / base) (Nat.div_lt_self (by omega) more) member
      · have bound : value % base < base := Nat.mod_lt _ (by omega)
        exact ⟨value % base, by omega, List.mem_singleton.mp member⟩

private theorem digitChar_toNat_sub {char : Char} (digit : isDigit char = true) :
    Nat.digitChar (char.toNat - 48) = char := by
  obtain ⟨least, most⟩ := isDigit_eq_true_iff.mp digit
  apply Char.toNat_inj.mp
  rw [Nat.toNat_digitChar_of_lt_ten (by omega)]
  omega

/-- A numeral that does not start with a zero is the one that is printed. -/
theorem decimalDigits_decimalValue {digits : List Char} (run : isDigitRun digits = true)
    (head : digits.head? ≠ some '0') : decimalDigits (decimalValue digits) = digits := by
  induction digits using List.reverseRecOn with
  | nil => simp [isDigitRun] at run
  | append_singleton front last ih =>
    obtain ⟨_, all⟩ := isDigitRun_eq_true_iff.mp run
    have lastDigit : isDigit last = true := all last (by simp)
    have bounds := isDigit_eq_true_iff.mp lastDigit
    have value : decimalValue (front ++ [last]) = 10 * decimalValue front + (last.toNat - 48) := by
      simp [decimalValue, Nat.ofDigitChars_append, Nat.ofDigitChars_cons]
    rw [value]
    by_cases empty : front = []
    · subst front
      have single : decimalDigits (last.toNat - 48) = [Nat.digitChar (last.toNat - 48)] :=
        Nat.toDigits_of_lt_base (by omega)
      simpa [decimalValue, digitChar_toNat_sub lastDigit] using single
    · have sameHead : (front ++ [last]).head? = front.head? := by
        obtain ⟨first, others, rfl⟩ := List.exists_cons_of_ne_nil empty
        rfl
      rw [sameHead] at head
      have shorter : decimalDigits (decimalValue front) = front :=
        ih (isDigitRun_eq_true_iff.mpr ⟨empty, fun char member => all char (by simp [member])⟩) head
      have positive : 0 < decimalValue front := by
        apply Nat.pos_of_ne_zero
        intro zero
        rw [← shorter, zero] at head
        exact head rfl
      have small : last.toNat - 48 < 10 := by omega
      have joined := Nat.toDigits_append_toDigits (by decide) positive small
      rw [Nat.toDigits_of_lt_base small, digitChar_toNat_sub lastDigit] at joined
      rw [decimalDigits, ← joined]
      exact congrArg (· ++ [last]) shorter

/-- The numbers that are printed in a text: those of its longest runs of digits, in their order. -/
def numbers (chars : List Char) : List Nat := (chars.splitOnP (!isDigit ·)).filterMap natOfDigits?

/-- A character that is no digit keeps the numbers on its sides apart. -/
theorem numbers_append_cons {mark : Char} (apart : isDigit mark = false) (front back : List Char) :
    numbers (front ++ mark :: back) = numbers front ++ numbers back := by
  have splits : (!isDigit mark) = true := by rw [apart, Bool.not_false]
  rw [numbers, List.splitOnP_append_cons front back splits, List.filterMap_append]
  rfl

theorem numbers_decimalDigits (value : Nat) : numbers (decimalDigits value) = [value] := by
  have whole : ∀ char ∈ decimalDigits value, (!isDigit char) = false := by
    intro char member
    rw [isDigit_of_mem_decimalDigits member, Bool.not_true]
  rw [numbers, List.splitOnP_eq_singleton whole, List.filterMap_cons_some (natOfDigits?_decimalDigits value),
    List.filterMap_nil]

end TabletopBot.Text
