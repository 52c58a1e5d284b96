import TabletopBot.Text.Cut
import TabletopBot.Proofs.Json.ObjectText
import TabletopBot.Proofs.Text.Decimal
import Mathlib.Tactic.IntervalCases

/-! # Values that are passed over

The grammar of JSON values of every kind and depth. A number ends where nothing follows that could belong
to it, so its token depends on what is behind (`CutBefore`). However a value is written, it is passed over
as a whole, whatever is open around it (`exists_skips`).
-/

namespace TabletopBot.Json

open Text (isDigitRun isDigitRun_eq_true_iff)
open Text.Utf8 (encode encode_append encode_cons_of_lt)

/-- The whole digits of a number: no leading zero, except for zero itself. -/
inductive WholeText : List Char → Prop
  | zero : WholeText ['0']
  | digits {first : Char} {others : List Char} :
      first ≠ '0' → isDigitRun (first :: others) = true → WholeText (first :: others)

/-- The fraction of a number, which may be missing. -/
inductive FractionText : List Char → Prop
  | none : FractionText []
  | digits {digits : List Char} : isDigitRun digits = true → FractionText ('.' :: digits)

/-- The exponent of a number, which may be missing. -/
inductive ExponentText : List Char → Prop
  | none : ExponentText []
  | digits {mark : Char} {sign digits : List Char} : mark = 'e' ∨ mark = 'E' →
      sign = [] ∨ sign = ['+'] ∨ sign = ['-'] → isDigitRun digits = true →
      ExponentText (mark :: (sign ++ digits))

/-- A number without its sign. -/
inductive UnsignedText : List Char → Prop
  | parts {whole fraction exponent : List Char} : WholeText whole → FractionText fraction →
      ExponentText exponent → UnsignedText (whole ++ (fraction ++ exponent))

/-- A number. -/
inductive NumberText : List Char → Prop
  | unsigned {written : List Char} : UnsignedText written → NumberText written
  | negative {written : List Char} : UnsignedText written → NumberText ('-' :: written)

/-- The symbols between the quotes of a string. Surrogates need not come in pairs. -/
inductive SymbolsText : List Char → Prop
  | nil : SymbolsText []
  | plain {char : Char} {others : List Char} : 32 ≤ char.toNat → char ≠ '"' → char ≠ '\\' →
      SymbolsText others → SymbolsText ([char] ++ others)
  | short {letter char : Char} {others : List Char} : (letter, char) ∈ shortEscapes →
      SymbolsText others → SymbolsText (['\\', letter] ++ others)
  | unit {unit : Nat} {written others : List Char} : UnitEscape unit written →
      SymbolsText others → SymbolsText (written ++ others)

/-- A string that may denote no text. -/
inductive StringText : List Char → Prop
  | quoted {written : List Char} : SymbolsText written → StringText ('"' :: (written ++ ['"']))

/-- The letters of a word. -/
def Word.letters : Word → List Char
  | .null => ['n', 'u', 'l', 'l']
  | .false => ['f', 'a', 'l', 's', 'e']
  | .true => ['t', 'r', 'u', 'e']

/-- What a stretch of JSON text is: a value, or what stands between the brackets of one. -/
inductive Part where
  | value
  | items
  | members

/-- How values, the items of lists and the members of objects are written. -/
inductive PartText : Part → List Char → Prop
  | word (word : Word) : PartText .value word.letters
  | number {written : List Char} : NumberText written → PartText .value written
  | string {written : List Char} : StringText written → PartText .value written
  | emptyList {a : List Char} : Spaces a → PartText .value (['['] ++ a ++ [']'])
  | list {written : List Char} : PartText .items written → PartText .value (['['] ++ written ++ [']'])
  | emptyObject {a : List Char} : Spaces a → PartText .value (['\x7b'] ++ a ++ ['\x7d'])
  | object {written : List Char} :
      PartText .members written → PartText .value (['\x7b'] ++ written ++ ['\x7d'])
  | item {a b written : List Char} : Spaces a → PartText .value written → Spaces b →
      PartText .items (a ++ written ++ b)
  | items {written others : List Char} : PartText .items written → PartText .items others →
      PartText .items (written ++ [','] ++ others)
  | member {a b c d key written : List Char} : Spaces a → StringText key → Spaces b → Spaces c →
      PartText .value written → Spaces d →
      PartText .members (a ++ key ++ b ++ [':'] ++ c ++ written ++ d)
  | members {written others : List Char} : PartText .members written → PartText .members others →
      PartText .members (written ++ [','] ++ others)

/-- How a value of any kind is written. -/
abbrev ValueText : List Char → Prop := PartText .value

/-- A byte that may belong to the number in front of it. -/
def continuesNumber (byte : UInt8) : Bool :=
  Token.isDigitByte byte || byte = Token.byte '.' || byte = Token.byte 'e' || byte = Token.byte 'E'

/-- A number in front ends here. -/
def Delimits (bytes : List UInt8) : Prop := ∀ byte ∈ bytes.head?, continuesNumber byte = false

/-- The characters are cut into the tokens where no number goes on behind them. -/
def CutBefore (written : List Char) (tokens : List Token) : Prop :=
  ∀ rest more, Delimits rest → CutInto rest more → CutInto (encode written ++ rest) (tokens ++ more)

theorem Cut.before {written : List Char} {tokens : List Token} (cut : Cut written tokens) :
    CutBefore written tokens := fun rest more _ later => cut rest more later

/-- Numbers end in front of these characters. -/
theorem delimits_cons {first : Char} {written : List Char} (ascii : first.toNat < 128)
    (other : continuesNumber first.toUInt8 = false) (rest : List UInt8) :
    Delimits (encode (first :: written) ++ rest) := by
  intro byte member
  rw [encode_cons_of_lt ascii, List.cons_append, List.head?_cons, Option.mem_some_iff] at member
  exact member ▸ other

theorem delimits_spaces {chars : List Char} (spaces : Spaces chars) {rest : List UInt8}
    (ends : Delimits rest) : Delimits (encode chars ++ rest) := by
  cases chars with
  | nil => exact ends
  | cons char chars =>
    obtain ⟨space, -⟩ := List.forall_mem_cons.mp spaces
    rcases space with rfl | rfl | rfl | rfl <;> exact delimits_cons (by decide) (by decide) rest

theorem CutBefore.append_spaces {written spaces : List Char} {tokens : List Token}
    (cut : CutBefore written tokens) (blank : Spaces spaces) : CutBefore (written ++ spaces) tokens := by
  intro rest more ends later
  rw [encode_append, List.append_assoc]
  exact cut _ _ (delimits_spaces blank ends) (cut_spaces blank _ _ later)

/-- In front of a mark that belongs to no number, tokens do not depend on what is behind. -/
theorem CutBefore.append_mark {written : List Char} {tokens : List Token} {mark : Char} {token : Token}
    (cut : CutBefore written tokens) (ascii : mark.toNat < 128)
    (other : continuesNumber mark.toUInt8 = false) (behind : Cut [mark] [token]) :
    Cut (written ++ [mark]) (tokens ++ [token]) := by
  intro rest more later
  rw [encode_append, List.append_assoc, List.append_assoc]
  exact cut _ _ (delimits_cons ascii other rest) (behind _ _ later)

theorem Cut.append_before {left right : List Char} {first second : List Token} (cut : Cut left first)
    (behind : CutBefore right second) : CutBefore (left ++ right) (first ++ second) := by
  intro rest more ends later
  rw [encode_append, List.append_assoc, List.append_assoc]
  exact cut _ _ (behind _ _ ends later)

/-- A name, a colon and a value, with white space around each. -/
theorem CutBefore.entry {name value a b c d : List Char} {key : Token} {tokens : List Token}
    (cut : CutBefore value tokens) (named : Cut name [key]) (first : Spaces a) (second : Spaces b)
    (third : Spaces c) (last : Spaces d) :
    CutBefore (a ++ name ++ b ++ [':'] ++ c ++ value ++ d) (key :: .colon :: tokens) := by
  have colon : Cut [':'] [.colon] := cut_token (by decide) (by decide) fun _ => rfl
  have front := (((((cut_spaces first).append named).append (cut_spaces second)).append colon).append
    (cut_spaces third))
  exact (front.append_before cut).append_spaces last

/-- Digits are single bytes, with which numbers start and go on. -/
theorem digit_facts {char : Char} (digit : Text.isDigit char = true) :
    char.toNat < 128 ∧ Token.isDigitByte char.toUInt8 = true ∧ Token.isSpace char.toUInt8 = false ∧
      (char.toUInt8 = Token.byte '0' → char = '0') ∧ ∀ rest, Token.scanOne char.toUInt8 rest =
        match Token.scanUnsigned false (char.toUInt8 :: rest) with
        | .ok (scanned, left) => (.number scanned, left)
        | .error atEnd => (.brokenNumber atEnd, []) := by
  obtain ⟨least, most⟩ := Text.isDigit_eq_true_iff.mp digit
  have number := (Char.ofNat_toNat char).symm
  generalize char.toNat = code at least most number
  subst number
  interval_cases code <;> exact ⟨by decide, by decide, by decide, by decide, fun _ => rfl⟩

theorem encode_digits {digits : List Char} (run : isDigitRun digits = true) :
    encode digits ≠ [] ∧ ∀ byte ∈ encode digits, Token.isDigitByte byte = true := by
  obtain ⟨nonempty, all⟩ := isDigitRun_eq_true_iff.mp run
  have bytes : encode digits = digits.map (·.toUInt8) := by
    clear run nonempty
    induction digits with
    | nil => rfl
    | cons digit digits ih =>
      obtain ⟨first, others⟩ := List.forall_mem_cons.mp all
      rw [encode_cons_of_lt (digit_facts first).1, ih others, List.map_cons]
  rw [bytes]
  refine ⟨by simpa using nonempty, ?_⟩
  intro byte member
  obtain ⟨digit, inside, rfl⟩ := List.mem_map.mp member
  exact (digit_facts (all digit inside)).2.1

/-- All digits are taken where none follows them. -/
theorem spanDigits_append {digits : List Char} (run : isDigitRun digits = true) {rest : List UInt8}
    (ends : ∀ byte ∈ rest.head?, Token.isDigitByte byte = false) :
    Token.spanDigits (encode digits ++ rest) = (encode digits, rest) := by
  obtain ⟨-, all⟩ := encode_digits run
  rw [Token.spanDigits, Text.takeWhile_append_of_stop all ends, Text.dropWhile_append_of_stop all ends]

theorem Delimits.not_digit {rest : List UInt8} (ends : Delimits rest) :
    ∀ byte ∈ rest.head?, Token.isDigitByte byte = false := by
  intro byte member
  have other := ends byte member
  simp only [continuesNumber, Bool.or_eq_false_iff] at other
  exact other.1.1.1

/-- An exponent is read behind its mark and its sign. -/
theorem scanExponent_digits {mark : UInt8} {sign : List UInt8} {digits : List Char}
    (marked : mark = Token.byte 'e' ∨ mark = Token.byte 'E')
    (signed : sign = [] ∨ sign = [Token.byte '+'] ∨ sign = [Token.byte '-'])
    (run : isDigitRun digits = true) : ∃ value, ∀ rest, Delimits rest →
      Token.scanExponent (mark :: (sign ++ (encode digits ++ rest))) = .ok (true, value, rest) := by
  obtain ⟨nonempty, all⟩ := encode_digits run
  have spanned {rest : List UInt8} (ends : Delimits rest) := spanDigits_append run ends.not_digit
  have begun : (encode digits).isEmpty = false := by simpa using nonempty
  rcases signed with rfl | rfl | rfl
  · obtain ⟨first, others, shape⟩ := List.exists_cons_of_ne_nil nonempty
    have digit := all first (shape ▸ List.mem_cons_self)
    have minus : first ≠ Token.byte '-' := by rintro rfl; revert digit; decide
    have plus : first ≠ Token.byte '+' := by rintro rfl; revert digit; decide
    refine ⟨Token.exponentValue (encode digits), ?_⟩
    intro rest ends
    have spanned := spanned ends
    rw [shape] at spanned ⊢
    simp only [List.nil_append, List.cons_append] at spanned ⊢
    simp [Token.scanExponent, marked, minus, plus, spanned]
  · have plus : Token.byte '+' ≠ Token.byte '-' := by decide
    refine ⟨Token.exponentValue (encode digits), ?_⟩
    intro rest ends
    simp [Token.scanExponent, marked, plus, spanned ends, nonempty]
  · refine ⟨-Token.exponentValue (encode digits), ?_⟩
    intro rest ends
    simp [Token.scanExponent, marked, spanned ends, nonempty]

theorem scanExponent_append {written : List Char} (exponent : ExponentText written) :
    ∃ present value, ∀ rest, Delimits rest →
      Token.scanExponent (encode written ++ rest) = .ok (present, value, rest) := by
  cases exponent with
  | none =>
    refine ⟨false, 0, ?_⟩
    intro rest ends
    cases rest with
    | nil => rfl
    | cons byte rest =>
      have other := ends byte rfl
      simp only [continuesNumber, Bool.or_eq_false_iff, decide_eq_false_iff_not] at other
      change Token.scanExponent (byte :: rest) = _
      simp [Token.scanExponent, other]
  | @digits mark sign digits marked signed run =>
    have ascii : mark.toNat < 128 := by rcases marked with rfl | rfl <;> decide
    have signs : encode sign = [] ∨ encode sign = [Token.byte '+'] ∨ encode sign = [Token.byte '-'] := by
      rcases signed with rfl | rfl | rfl
      · exact .inl rfl
      · exact .inr (.inl (encode_cons_of_lt (by decide) []))
      · exact .inr (.inr (encode_cons_of_lt (by decide) []))
    obtain ⟨value, scanned⟩ :=
      scanExponent_digits (marked.imp (congrArg Char.toUInt8) (congrArg Char.toUInt8)) signs run
    refine ⟨true, value, ?_⟩
    intro rest ends
    rw [encode_cons_of_lt ascii, List.cons_append, encode_append, List.append_assoc]
    exact scanned rest ends

/-- An exponent, or what is behind the number, goes on no fraction. -/
theorem head_exponent_append {written : List Char} (exponent : ExponentText written)
    {rest : List UInt8} (ends : Delimits rest) :
    ∀ byte ∈ (encode written ++ rest).head?, Token.isDigitByte byte = false ∧ byte ≠ Token.byte '.' := by
  intro byte member
  cases exponent with
  | none =>
    have other := ends byte member
    simp only [continuesNumber, Bool.or_eq_false_iff, decide_eq_false_iff_not] at other
    exact ⟨other.1.1.1, other.1.1.2⟩
  | digits marked =>
    rcases marked with rfl | rfl <;>
    · rw [encode_cons_of_lt (by decide), List.cons_append, List.head?_cons,
        Option.mem_some_iff] at member
      subst member
      decide

theorem scanFraction_append {written : List Char} (fraction : FractionText written) :
    ∃ present digits, ∀ rest : List UInt8,
      (∀ byte ∈ rest.head?, Token.isDigitByte byte = false ∧ byte ≠ Token.byte '.') →
      Token.scanFraction (encode written ++ rest) = .ok (present, digits, rest) := by
  cases fraction with
  | none =>
    refine ⟨false, [], ?_⟩
    intro rest ends
    cases rest with
    | nil => rfl
    | cons byte rest =>
      obtain ⟨-, other⟩ := ends byte rfl
      change Token.scanFraction (byte :: rest) = _
      simp [Token.scanFraction, other]
  | @digits digits run =>
    obtain ⟨nonempty, -⟩ := encode_digits run
    refine ⟨true, encode digits, ?_⟩
    intro rest ends
    have spanned := spanDigits_append run fun byte member => (ends byte member).1
    rw [encode_cons_of_lt (by decide), List.cons_append]
    change Token.scanFraction (Token.byte '.' :: _) = _
    simp [Token.scanFraction, spanned, nonempty]

theorem head_fraction_append {written : List Char} (fraction : FractionText written)
    {rest : List UInt8} (ends : ∀ byte ∈ rest.head?, Token.isDigitByte byte = false) :
    ∀ byte ∈ (encode written ++ rest).head?, Token.isDigitByte byte = false := by
  cases fraction with
  | none => exact ends
  | digits =>
    intro byte member
    rw [encode_cons_of_lt (by decide), List.cons_append, List.head?_cons,
      Option.mem_some_iff] at member
    subst member
    decide

theorem WholeText.isDigitRun {written : List Char} (whole : WholeText written) :
    isDigitRun written = true := by
  cases whole with
  | zero => decide
  | digits _ run => exact run

/-- Only zero starts with a zero. -/
theorem WholeText.no_leading_zero {written : List Char} (whole : WholeText written) :
    ¬((encode written).head? = some (Token.byte '0') ∧ (encode written).length > 1) := by
  rintro ⟨zero, more⟩
  cases whole with
  | zero =>
    rw [encode_cons_of_lt (by decide)] at more
    exact absurd more (by decide)
  | @digits first others other run =>
    obtain ⟨ascii, -, -, faithful, -⟩ :=
      digit_facts ((isDigitRun_eq_true_iff.mp run).2 first List.mem_cons_self)
    rw [encode_cons_of_lt ascii, List.head?_cons] at zero
    exact other (faithful (Option.some.inj zero))

theorem scanUnsigned_append (negative : Bool) {written : List Char} (text : UnsignedText written) :
    ∃ number, ∀ rest, Delimits rest →
      Token.scanUnsigned negative (encode written ++ rest) = .ok (number, rest) := by
  cases text with
  | @parts whole fraction exponent wholeText fractionText exponentText =>
    obtain ⟨nonempty, -⟩ := encode_digits wholeText.isDigitRun
    obtain ⟨hasFraction, digits, fractionScanned⟩ := scanFraction_append fractionText
    obtain ⟨hasExponent, value, exponentScanned⟩ := scanExponent_append exponentText
    refine ⟨Token.numberOf negative (!hasFraction && !hasExponent) (encode whole) digits value, ?_⟩
    intro rest ends
    have behindFraction := head_exponent_append exponentText ends
    have behindWhole := head_fraction_append fractionText fun byte member =>
      (behindFraction byte member).1
    have spanned := spanDigits_append wholeText.isDigitRun behindWhole
    rw [encode_append, encode_append, List.append_assoc, List.append_assoc, Token.scanUnsigned, spanned]
    simp only [List.isEmpty_iff, nonempty, wholeText.no_leading_zero, if_false,
      fractionScanned _ behindFraction]
    change (Token.scanExponent _ >>= _) = _
    rw [exponentScanned rest ends]
    rfl

theorem UnsignedText.exists_digit {written : List Char} (text : UnsignedText written) :
    ∃ first others, written = first :: others ∧ Text.isDigit first = true := by
  cases text with
  | parts wholeText =>
    obtain ⟨nonempty, all⟩ := isDigitRun_eq_true_iff.mp wholeText.isDigitRun
    obtain ⟨first, others, rfl⟩ := List.exists_cons_of_ne_nil nonempty
    exact ⟨first, _, rfl, all first List.mem_cons_self⟩

theorem cutBefore_number {written : List Char} (text : NumberText written) :
    ∃ number, CutBefore written [.number number] := by
  cases text with
  | unsigned text =>
    obtain ⟨number, scanned⟩ := scanUnsigned_append false text
    obtain ⟨first, others, rfl, digit⟩ := text.exists_digit
    obtain ⟨ascii, -, notSpace, -, scanOne⟩ := digit_facts digit
    refine ⟨number, ?_⟩
    intro rest more ends later
    refine cutInto_token ascii notSpace ?_ later
    have whole := scanned rest ends
    rw [encode_cons_of_lt ascii, List.cons_append] at whole
    simp only [scanOne, whole]
  | @negative written text =>
    obtain ⟨number, scanned⟩ := scanUnsigned_append true text
    refine ⟨number, ?_⟩
    intro rest more ends later
    refine cutInto_token (by decide) (by decide) ?_ later
    change Token.scanOne (Token.byte '-') (encode written ++ rest) = _
    simp only [Token.scanOne, scanned rest ends]
    rfl

theorem scanString_symbols {written : List Char} (symbols : SymbolsText written) :
    ∃ pieces, ∀ rest,
      Token.scanString 0 (encode written ++ Token.byte '"' :: rest) = (pieces, none, rest) := by
  induction symbols with
  | nil =>
    refine ⟨[], ?_⟩
    intro rest
    change Token.scanString 0 (Token.byte '"' :: rest) = _
    rw [Token.scanString.eq_def]
    exact if_pos rfl
  | @plain char _ printable notQuote notBackslash _ ih =>
    obtain ⟨pieces, scanned⟩ := ih
    refine ⟨.char char :: pieces, ?_⟩
    intro rest
    rw [encode_append, List.append_assoc, scanString_plain printable notQuote notBackslash, scanned]
    rfl
  | @short _ char _ escape _ ih =>
    obtain ⟨pieces, scanned⟩ := ih
    refine ⟨.char char :: pieces, ?_⟩
    intro rest
    rw [encode_append, List.append_assoc, scanString_shortEscape escape, scanned]
    rfl
  | @unit unit _ _ escape _ ih =>
    obtain ⟨pieces, scanned⟩ := ih
    refine ⟨Token.pieceOfUnit unit :: pieces, ?_⟩
    intro rest
    rw [encode_append, List.append_assoc, scanString_unitEscape escape, scanned]
    rfl

theorem cut_string {written : List Char} (string : StringText written) :
    ∃ pieces, Cut written [.string pieces none] := by
  cases string with
  | quoted symbols =>
    obtain ⟨pieces, scanned⟩ := scanString_symbols symbols
    refine ⟨pieces, cut_token (by decide) (by decide) ?_⟩
    intro rest
    rw [encode_append, List.append_assoc]
    change Token.scanOne (Token.byte '"') (encode _ ++ Token.byte '"' :: rest) = _
    simp only [Token.scanOne, scanned]
    rfl

theorem cut_word (word : Word) : Cut word.letters [.word word] := by
  cases word <;> exact cut_token (by decide) (by decide) fun _ => rfl

/-- What is behind a value: the end, or the next item or member of what is open around it. -/
def skipBehind : List Enclosure → List Token → Except Problem (List Token)
  | [], rest => .ok rest
  | enclosure :: outer, rest => skipFrom (enclosure :: outer) .commaOrEnd rest

/-- The tokens are passed over as a part of their kind, whatever is open around it and stands behind. -/
def Skips : Part → List Token → Prop
  | .value, tokens => ∀ enclosing rest,
    skipFrom enclosing .value (tokens ++ rest) = skipBehind enclosing rest ∧
    skipFrom enclosing .valueOrEnd (tokens ++ rest) = skipBehind enclosing rest
  | .items, tokens => ∀ outer rest,
    skipFrom (.list :: outer) .value (tokens ++ rest) = skipFrom (.list :: outer) .commaOrEnd rest ∧
    skipFrom (.list :: outer) .valueOrEnd (tokens ++ rest) = skipFrom (.list :: outer) .commaOrEnd rest
  | .members, tokens => ∀ outer rest,
    skipFrom (.object :: outer) .key (tokens ++ rest) = skipFrom (.object :: outer) .commaOrEnd rest ∧
    skipFrom (.object :: outer) .keyOrEnd (tokens ++ rest) =
      skipFrom (.object :: outer) .commaOrEnd rest

/-- The tokens of a value that holds no others. -/
inductive Simple : List Token → Prop
  | word (word : Word) : Simple [.word word]
  | number (number : Number) : Simple [.number number]
  | string (pieces : List StringPiece) : Simple [.string pieces none]
  | emptyList : Simple [.openBracket, .closeBracket]
  | emptyObject : Simple [.openBrace, .closeBrace]

theorem Simple.skips {tokens : List Token} (simple : Simple tokens) : Skips .value tokens := by
  intro enclosing rest
  cases simple <;> cases enclosing <;> exact ⟨rfl, rfl⟩

/-- A list closes behind its items. -/
theorem Skips.list {tokens : List Token} (items : Skips .items tokens) :
    Skips .value ([.openBracket] ++ tokens ++ [.closeBracket]) := by
  intro enclosing rest
  have inside := (items enclosing (.closeBracket :: rest)).2
  have closed : skipFrom (.list :: enclosing) .commaOrEnd (.closeBracket :: rest) =
      skipBehind enclosing rest := by
    cases enclosing <;> rfl
  simp only [List.append_assoc, List.cons_append, List.nil_append]
  exact ⟨inside.trans closed, inside.trans closed⟩

/-- An object closes behind its members. -/
theorem Skips.object {tokens : List Token} (members : Skips .members tokens) :
    Skips .value ([.openBrace] ++ tokens ++ [.closeBrace]) := by
  intro enclosing rest
  have inside := (members enclosing (.closeBrace :: rest)).2
  have closed : skipFrom (.object :: enclosing) .commaOrEnd (.closeBrace :: rest) =
      skipBehind enclosing rest := by
    cases enclosing <;> rfl
  simp only [List.append_assoc, List.cons_append, List.nil_append]
  exact ⟨inside.trans closed, inside.trans closed⟩

theorem Skips.item {tokens : List Token} (value : Skips .value tokens) : Skips .items tokens :=
  fun outer rest => value (.list :: outer) rest

theorem Skips.items {first second : List Token} (before : Skips .items first)
    (behind : Skips .items second) : Skips .items (first ++ [.comma] ++ second) := by
  intro outer rest
  have next : skipFrom (.list :: outer) .commaOrEnd (.comma :: (second ++ rest)) =
      skipFrom (.list :: outer) .commaOrEnd rest := (behind outer rest).1
  have first := before outer (.comma :: (second ++ rest))
  simp only [List.append_assoc, List.cons_append, List.nil_append]
  exact ⟨first.1.trans next, first.2.trans next⟩

theorem Skips.member {tokens : List Token} (pieces : List StringPiece) (value : Skips .value tokens) :
    Skips .members (.string pieces none :: .colon :: tokens) :=
  fun outer rest => ⟨(value (.object :: outer) rest).1, (value (.object :: outer) rest).1⟩

theorem Skips.members {first second : List Token} (before : Skips .members first)
    (behind : Skips .members second) : Skips .members (first ++ [.comma] ++ second) := by
  intro outer rest
  have next : skipFrom (.object :: outer) .commaOrEnd (.comma :: (second ++ rest)) =
      skipFrom (.object :: outer) .commaOrEnd rest := (behind outer rest).1
  have first := before outer (.comma :: (second ++ rest))
  simp only [List.append_assoc, List.cons_append, List.nil_append]
  exact ⟨first.1.trans next, first.2.trans next⟩

/-- However a value is written, it is cut into tokens that are passed over. -/
theorem exists_skips {part : Part} {written : List Char} (text : PartText part written) :
    ∃ tokens, CutBefore written tokens ∧ Skips part tokens := by
  have bracket : Cut ['['] [.openBracket] := cut_token (by decide) (by decide) fun _ => rfl
  have closeBracket : Cut [']'] [.closeBracket] := cut_token (by decide) (by decide) fun _ => rfl
  have brace : Cut ['\x7b'] [.openBrace] := cut_token (by decide) (by decide) fun _ => rfl
  have closeBrace : Cut ['\x7d'] [.closeBrace] := cut_token (by decide) (by decide) fun _ => rfl
  have comma : Cut [','] [.comma] := cut_token (by decide) (by decide) fun _ => rfl
  induction text with
  | word word => exact ⟨_, (cut_word word).before, (Simple.word word).skips⟩
  | number number =>
    obtain ⟨number, cut⟩ := cutBefore_number number
    exact ⟨_, cut, (Simple.number number).skips⟩
  | string string =>
    obtain ⟨pieces, cut⟩ := cut_string string
    exact ⟨_, cut.before, (Simple.string pieces).skips⟩
  | emptyList spaces =>
    exact ⟨_, ((bracket.append (cut_spaces spaces)).append closeBracket).before, Simple.emptyList.skips⟩
  | list _ ih =>
    obtain ⟨tokens, cut, skips⟩ := ih
    refine ⟨_, Cut.before ?_, skips.list⟩
    rw [List.append_assoc, List.append_assoc]
    exact bracket.append (cut.append_mark (by decide) (by decide) closeBracket)
  | emptyObject spaces =>
    exact ⟨_, ((brace.append (cut_spaces spaces)).append closeBrace).before, Simple.emptyObject.skips⟩
  | object _ ih =>
    obtain ⟨tokens, cut, skips⟩ := ih
    refine ⟨_, Cut.before ?_, skips.object⟩
    rw [List.append_assoc, List.append_assoc]
    exact brace.append (cut.append_mark (by decide) (by decide) closeBrace)
  | item before _ behind ih =>
    obtain ⟨tokens, cut, skips⟩ := ih
    exact ⟨tokens, ((cut_spaces before).append_before cut).append_spaces behind, skips.item⟩
  | items _ _ first second =>
    obtain ⟨tokens, cut, skips⟩ := first
    obtain ⟨others, behind, more⟩ := second
    exact ⟨_, (cut.append_mark (by decide) (by decide) comma).append_before behind, skips.items more⟩
  | member a key b c _ d ih =>
    obtain ⟨pieces, keyCut⟩ := cut_string key
    obtain ⟨tokens, cut, skips⟩ := ih
    exact ⟨_, cut.entry keyCut a b c d, skips.member pieces⟩
  | members _ _ first second =>
    obtain ⟨tokens, cut, skips⟩ := first
    obtain ⟨others, behind, more⟩ := second
    exact ⟨_, (cut.append_mark (by decide) (by decide) comma).append_before behind, skips.members more⟩

theorem skipValue_append {tokens : List Token} (skips : Skips .value tokens) (rest : List Token) :
    skipValue (tokens ++ rest) = .ok rest := (skips [] rest).1

end TabletopBot.Json
