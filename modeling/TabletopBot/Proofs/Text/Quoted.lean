import TabletopBot.Text.Quoted
import TabletopBot.Proofs.Text.Decimal

/-! # Reading quoted text back

What is written between quotes is read back as the text that it was written for (`decode_encode`). No
quote in it closes the quotation, so that a reader who looks for the closing quote stops behind all of it
(`quotation?_append`), and nothing in it is a control character or ends the line.
-/

namespace TabletopBot.Text

/-- The control characters, Unicode's category `Cc`. -/
def isControl (char : Char) : Bool :=
  char.toNat ≤ 0x1F || (0x7F ≤ char.toNat && char.toNat ≤ 0x9F)

/-- The characters that end a line: line feed, vertical tab, form feed, carriage return, next line, and
the separators of lines and paragraphs. -/
def isLineBreak (char : Char) : Bool :=
  char.toNat ∈ [0xA, 0xB, 0xC, 0xD, 0x85, 0x2028, 0x2029]

theorem isInvisible_of_isControl {char : Char} (control : isControl char = true) :
    isInvisible char = true := by
  simp only [isControl, Bool.or_eq_true, Bool.and_eq_true, decide_eq_true_eq] at control
  have small : char.toNat < 0xA0 := by omega
  have listed : ∀ code < 0xA0, (code ≤ 0x1F ∨ 0x7F ≤ code ∧ code ≤ 0x9F) →
      inRanges invisibleBelow1000 code = true := by decide +kernel
  rw [isInvisible, if_pos (by omega)]
  exact listed char.toNat small control

theorem isInvisible_of_isLineBreak {char : Char} (breaks : isLineBreak char = true) :
    isInvisible char = true := by
  simp only [isLineBreak, decide_eq_true_eq] at breaks
  have listed : ∀ code ∈ [0xA, 0xB, 0xC, 0xD, 0x85, 0x2028, 0x2029],
      (if code < 0x1000 then inRanges invisibleBelow1000 code
        else if code < 0x10000 then inRanges invisibleBelow10000 code
        else inRanges invisibleAbove10000 code) = true := by decide
  exact listed char.toNat breaks

/-- Every character of a text has a glyph. -/
def Visible (chars : List Char) : Bool := chars.all (!isInvisible ·)

theorem visible_iff {chars : List Char} :
    Visible chars = true ↔ ∀ char ∈ chars, isInvisible char = false := by
  simp only [Visible, List.all_eq_true, Bool.not_eq_true']

theorem visible_cons (char : Char) (chars : List Char) :
    Visible (char :: chars) = (!isInvisible char && Visible chars) := List.all_cons

theorem visible_append (front back : List Char) :
    Visible (front ++ back) = (Visible front && Visible back) := List.all_append

namespace Quoted

/-- The ways to write a character between quotes. -/
inductive Written (char : Char) : List Char → Prop
  | short {letter : Char} : shortEscape? char = some letter → Written char ['\\', letter]
  | number : isInvisible char = true →
      Written char (['\\', 'u', '{'] ++ Nat.toDigits 16 char.toNat ++ ['}'])
  | plain : shortEscape? char = none → isInvisible char = false → Written char [char]

theorem written_encodeChar (char : Char) : Written char (encodeChar char) := by
  rw [encodeChar]
  split
  · next letter short => exact .short short
  · next long =>
    split
    · next invisible => exact .number invisible
    · next visible => exact .plain long (Bool.eq_false_iff.mpr visible)

theorem mem_of_shortEscape? {char letter : Char} (short : shortEscape? char = some letter) :
    letter ∈ ['"', '\\', '0', 't', 'n', 'r'] := by
  unfold shortEscape? at short
  split at short
  case h_7 => cases short
  all_goals
    cases short
    decide

theorem ne_of_shortEscape?_eq_none {char : Char} (long : shortEscape? char = none) :
    char ≠ '"' ∧ char ≠ '\\' := by
  constructor
  · rintro rfl
    cases long
  · rintro rfl
    cases long

theorem hexDigit_facts : ∀ digit < 16, hexValue? (Nat.digitChar digit) = some digit ∧
    Nat.digitChar digit ≠ '}' ∧ Nat.digitChar digit ≠ '"' ∧ Nat.digitChar digit ≠ '\\' ∧
    isInvisible (Nat.digitChar digit) = false := by
  decide

theorem decodeFrom_number_digit {digit : Nat} (small : digit < 16) (value : Nat) (rest : List Char) :
    decodeFrom (.number value) (Nat.digitChar digit :: rest) =
      decodeFrom (.number (value * 16 + digit)) rest := by
  obtain ⟨denotes, notBrace, -⟩ := hexDigit_facts digit small
  rw [decodeFrom]
  · rw [denotes]
    rfl
  · exact notBrace

/-- Behind the digits of a number, the number has been read. -/
theorem decodeFrom_toDigits (value : Nat) (rest : List Char) :
    decodeFrom (.number 0) (Nat.toDigits 16 value ++ rest) = decodeFrom (.number value) rest := by
  induction value using Nat.strongRecOn generalizing rest with
  | ind value ih =>
    by_cases small : value < 16
    · rw [Nat.toDigits_of_lt_base small, List.singleton_append, decodeFrom_number_digit small,
        Nat.zero_mul, Nat.zero_add]
    · have last : value % 16 < 16 := Nat.mod_lt _ (by decide)
      rw [Nat.toDigits_of_base_le (by decide) (by omega), List.append_assoc, List.singleton_append,
        ih (value / 16) (by omega), decodeFrom_number_digit last, Nat.div_add_mod']

theorem decodeFrom_encodeChar_append (char : Char) (rest : List Char) :
    decodeFrom .text (encodeChar char ++ rest) = (decodeFrom .text rest).map (char :: ·) := by
  have written := written_encodeChar char
  generalize encodeChar char = chars at written
  cases written with
  | @short letter short =>
    have known := ofShortEscape?_of_shortEscape? short
    have notNumber : letter ≠ 'u' := by
      rintro rfl
      exact absurd (mem_of_shortEscape? short) (by decide)
    change decodeFrom .escape (letter :: rest) = _
    rw [decodeFrom]
    · rw [known]
      cases decodeFrom .text rest <;> rfl
    · exact notNumber
  | number =>
    change decodeFrom (.number 0) (Nat.toDigits 16 char.toNat ++ ['}'] ++ rest) = _
    rw [List.append_assoc, decodeFrom_toDigits, List.singleton_append, decodeFrom, Char.ofNat_toNat]
  | plain long visible =>
    obtain ⟨notQuote, notBackslash⟩ := ne_of_shortEscape?_eq_none long
    rw [List.singleton_append, decodeFrom]
    · exact notBackslash
    · exact notQuote

/-- What is written between quotes is read back as the text that it was written for. -/
theorem decode_encode (chars : List Char) : decode (encode chars) = some chars := by
  rw [decode]
  induction chars with
  | nil => rfl
  | cons char chars ih => rw [encode_cons, decodeFrom_encodeChar_append, ih, Option.map_some]

/-- A quote, a bell, and an apostrophe. -/
example : encode "5\"\x07'".toList = "5\\\"\\u\x7b7\x7d'".toList := by decide

theorem encode_injective : Function.Injective encode := by
  intro first second same
  have read := congrArg decode same
  rw [decode_encode, decode_encode] at read
  exact Option.some.inj read

theorem quoted_injective : Function.Injective quoted := by
  intro first second same
  rw [quoted, quoted, String.ofList_inj, List.append_left_inj, List.cons.injEq] at same
  exact String.toList_inj.mp (encode_injective same.2)

/-- What stands in front of the quote that closes a quotation, and what stands behind it. Whatever follows
a backslash closes nothing. -/
def closing? : List Char → Option (List Char × List Char)
  | [] => none
  | '"' :: rest => some ([], rest)
  | '\\' :: char :: rest =>
    (closing? rest).map fun (inside, behind) => ('\\' :: char :: inside, behind)
  | char :: rest => (closing? rest).map fun (inside, behind) => (char :: inside, behind)

/-- What stands in the first quotation of a text, and what stands behind that. -/
def quotation? (chars : List Char) : Option (List Char × List Char) :=
  closing? (chars.dropWhile (· ≠ '"')).tail

theorem closing?_append_of_open {front : List Char} (opens : ∀ char ∈ front, char ≠ '"' ∧ char ≠ '\\')
    (rest : List Char) :
    closing? (front ++ rest) =
      (closing? rest).map fun (inside, behind) => (front ++ inside, behind) := by
  induction front with
  | nil => simp
  | cons char front ih =>
    obtain ⟨notQuote, notBackslash⟩ := opens char List.mem_cons_self
    have behind := ih fun other member => opens other (List.mem_cons_of_mem char member)
    rw [List.cons_append, closing?, behind, Option.map_map]
    · rfl
    · exact notQuote
    · rintro _ _ rfl
      exact absurd rfl notBackslash

theorem closing?_encodeChar_append (char : Char) (rest : List Char) :
    closing? (encodeChar char ++ rest) =
      (closing? rest).map fun (inside, behind) => (encodeChar char ++ inside, behind) := by
  have written := written_encodeChar char
  generalize encodeChar char = chars at written
  cases written with
  | short => rfl
  | number =>
    have opens : ∀ other ∈ '{' :: (Nat.toDigits 16 char.toNat ++ ['}']),
        other ≠ '"' ∧ other ≠ '\\' := by
      intro other member
      rw [List.mem_cons, List.mem_append, List.mem_singleton] at member
      obtain rfl | digit | rfl := member
      · decide
      · obtain ⟨value, small, rfl⟩ := exists_digitChar_of_mem_toDigits (by decide) (by decide) digit
        obtain ⟨-, -, notQuote, notBackslash, -⟩ := hexDigit_facts value small
        exact ⟨notQuote, notBackslash⟩
      · decide
    have behind := closing?_append_of_open opens rest
    change (closing? ('{' :: (Nat.toDigits 16 char.toNat ++ ['}']) ++ rest)).map _ = _
    rw [behind, Option.map_map]
    rfl
  | plain long =>
    refine closing?_append_of_open ?_ rest
    intro other member
    obtain rfl := List.mem_singleton.mp member
    exact ne_of_shortEscape?_eq_none long

theorem closing?_encode_append (chars behind : List Char) :
    closing? (encode chars ++ '"' :: behind) = some (encode chars, behind) := by
  induction chars with
  | nil => rfl
  | cons char chars ih =>
    rw [encode_cons, List.append_assoc, closing?_encodeChar_append, ih, Option.map_some]

/-- Behind a text without quotes, the first quotation is all that has been quoted. -/
theorem quotation?_append {front : List Char} (unquoted : '"' ∉ front) (text : String)
    (behind : List Char) :
    quotation? (front ++ (quoted text).toList ++ behind) = some (encode text.toList, behind) := by
  have opening : ∀ char ∈ front, decide (char ≠ '"') = true := by
    intro char member
    rw [decide_eq_true_eq]
    rintro rfl
    exact unquoted member
  rw [quotation?, quoted, String.toList_ofList, List.append_assoc, List.dropWhile_append_of_pos opening]
  change closing? (encode text.toList ++ ['"'] ++ behind) = _
  rw [List.append_assoc]
  exact closing?_encode_append text.toList behind

theorem visible_of_shortEscape? {char letter : Char} (short : shortEscape? char = some letter) :
    isInvisible letter = false := by
  have listed := mem_of_shortEscape? short
  simp only [List.mem_cons, List.not_mem_nil, or_false] at listed
  obtain rfl | rfl | rfl | rfl | rfl | rfl := listed <;> decide

theorem visible_encodeChar (char : Char) : Visible (encodeChar char) = true := by
  have written := written_encodeChar char
  generalize encodeChar char = chars at written
  cases written with
  | short short =>
    rw [visible_cons, visible_cons, visible_of_shortEscape? short]
    decide
  | number =>
    have digits : Visible (Nat.toDigits 16 char.toNat) = true := by
      rw [visible_iff]
      intro other digit
      obtain ⟨value, small, rfl⟩ := exists_digitChar_of_mem_toDigits (by decide) (by decide) digit
      exact (hexDigit_facts value small).2.2.2.2
    rw [visible_append, visible_append, digits]
    decide
  | plain _ visible =>
    rw [visible_cons, visible]
    decide

theorem visible_encode (chars : List Char) : Visible (encode chars) = true := by
  induction chars with
  | nil => rfl
  | cons char chars ih => rw [encode_cons, visible_append, visible_encodeChar, ih, Bool.and_self]

theorem visible_quoted (text : String) : Visible (quoted text).toList = true := by
  rw [quoted, String.toList_ofList, visible_append, visible_cons, visible_encode]
  decide

end Quoted

end TabletopBot.Text
