import TabletopBot.Text.LowerCase

/-! # Lower case below the letter d

Lower-casing knows some two hundred runs of capitals in many scripts. Up to the code point of `d` only
the ASCII capitals change, and no character of any other script is lowered into this range. A reader
that takes digits, signs and a `d` alone therefore sees a character of another script only where that
character is kept as it is.
-/

namespace TabletopBot.Text

/-- Apart from the ASCII capitals, every run is lowered to code points behind that of `d`. -/
private theorem image_of_mem_caseRuns :
    ∀ run ∈ caseRuns, run = ⟨0x41, 0x5A, 1, 0x61⟩ ∨ 100 < run.image := by
  decide +kernel

/-- Up to the code point of `d`, only the ASCII capitals have another lower-case form. -/
theorem lowerCode?_of_le {code : Nat} (low : code ≤ 100) :
    lowerCode? code = if 65 ≤ code ∧ code ≤ 90 then some (code + 32) else none := by
  revert code
  decide

/-- No code point behind that of `d` has a lower-case form before it. -/
theorem lt_of_lowerCode? {code image : Nat} (high : 100 < code)
    (lowered : lowerCode? code = some image) : 100 < image := by
  obtain ⟨run, found, lowered⟩ := Option.bind_eq_some_iff.mp lowered
  simp only [CaseRun.lower?, Option.ite_none_right_eq_some, Option.some.injEq] at lowered
  obtain ⟨⟨_, last, _⟩, rfl⟩ := lowered
  rcases image_of_mem_caseRuns run (List.mem_of_find?_eq_some found) with rfl | behind
  · simp only at last
    omega
  · omega

/-- A code point that is no character's becomes the null character. -/
theorem toNat_ofNat_eq_or (code : Nat) :
    (Char.ofNat code).toNat = code ∨ (Char.ofNat code).toNat = 0 := by
  by_cases valid : code.isValidChar
  · rw [Char.ofNat, dif_pos valid]
    exact Or.inl rfl
  · rw [Char.ofNat, dif_neg valid]
    exact Or.inr rfl

/-- The lower-case form of a character up to `d`. -/
theorem lowerChar_of_le {char : Char} (low : char.toNat ≤ 100) :
    lowerChar char =
      if 65 ≤ char.toNat ∧ char.toNat ≤ 90 then [Char.ofNat (char.toNat + 32)] else [char] := by
  have plain : char ≠ 'İ' := by
    rintro rfl
    contradiction
  rw [lowerChar, if_neg plain, lowerCode?_of_le low]
  by_cases capital : 65 ≤ char.toNat ∧ char.toNat ≤ 90
  · rw [if_pos capital, if_pos capital]
  · rw [if_neg capital, if_neg capital]

/-- A character up to `d`, the null character apart, is the lower-case form of such a character only. -/
theorem toNat_le_of_mem_lowerChar {source char : Char} (member : char ∈ lowerChar source)
    (positive : 0 < char.toNat) (low : char.toNat ≤ 100) : source.toNat ≤ 100 := by
  rw [lowerChar] at member
  split at member
  · simp only [List.mem_cons, List.not_mem_nil, or_false] at member
    rcases member with rfl | rfl <;> contradiction
  · split at member
    · next code lowered =>
      apply Nat.le_of_not_lt
      intro high
      have behind := lt_of_lowerCode? high lowered
      rcases toNat_ofNat_eq_or code with same | zero
      · rw [List.mem_singleton.mp member] at low
        omega
      · rw [List.mem_singleton.mp member] at positive
        omega
    · rw [← List.mem_singleton.mp member]
      exact low

end TabletopBot.Text
