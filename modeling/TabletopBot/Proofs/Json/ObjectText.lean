import TabletopBot.Json.Decoder
import TabletopBot.Proofs.Checks
import TabletopBot.Proofs.Text.Utf8

/-! # Objects of texts as they are written

The grammar of JSON objects whose values are texts: white space anywhere between tokens, and every
character of a text by itself, by a short escape, or by its UTF-16 units in hexadecimal digits. However
such an object is written, the decoder reads its fields back in order (`decode_objectText`).
-/

namespace TabletopBot.Json

open Text.Utf8 (encode encode_cons_of_lt)

/-- White space between tokens. -/
def Spaces (chars : List Char) : Prop :=
  ∀ char ∈ chars, char = ' ' ∨ char = '\t' ∨ char = '\n' ∨ char = '\r'

/-- A hexadecimal digit in either case, and its value. -/
def HexDigit (value : Nat) (digit : Char) : Prop :=
  value < 16 ∧ (digit = Nat.digitChar value ∨ digit = (Nat.digitChar value).toUpper)

instance (chars : List Char) : Decidable (Spaces chars) :=
  List.decidableBAll (fun char => char = ' ' ∨ char = '\t' ∨ char = '\n' ∨ char = '\r') chars

instance (value : Nat) (digit : Char) : Decidable (HexDigit value digit) :=
  inferInstanceAs (Decidable (_ ∧ _))

/-- A UTF-16 unit in four hexadecimal digits. -/
inductive UnitEscape : Nat → List Char → Prop
  | digits {a b c d : Nat} {first second third fourth : Char} :
      HexDigit a first → HexDigit b second → HexDigit c third → HexDigit d fourth →
      UnitEscape (((a * 16 + b) * 16 + c) * 16 + d) ['\\', 'u', first, second, third, fourth]

/-- The letters of the short escapes and what they stand for. -/
def shortEscapes : List (Char × Char) :=
  [('"', '"'), ('\\', '\\'), ('/', '/'), ('b', '\x08'), ('f', '\x0c'), ('n', '\n'), ('r', '\r'),
    ('t', '\t')]

/-- The surrogate pair of a character beyond the first plane. -/
structure SurrogatePair (char : Char) (high low : Nat) : Prop where
  least_high : 0xD800 ≤ high
  high_lt : high < 0xDC00
  least_low : 0xDC00 ≤ low
  low_lt : low < 0xE000
  denotes : char.toNat = 0x10000 + (high - 0xD800) * 0x400 + (low - 0xDC00)

/-- How a character can be written in a text. -/
inductive Spelling (char : Char) : List Char → Prop
  | plain : 32 ≤ char.toNat → char ≠ '"' → char ≠ '\\' → Spelling char [char]
  | short {letter : Char} : (letter, char) ∈ shortEscapes → Spelling char ['\\', letter]
  | unit {written : List Char} : UnitEscape char.toNat written → Spelling char written
  | pair {high low : Nat} {first second : List Char} : SurrogatePair char high low →
      UnitEscape high first → UnitEscape low second → Spelling char (first ++ second)

/-- How characters can be written one after the other. -/
inductive Spelled : List Char → List Char → Prop
  | nil : Spelled [] []
  | cons {char : Char} {chars written others : List Char} :
      Spelling char written → Spelled chars others → Spelled (char :: chars) (written ++ others)

/-- Characters can be written by themselves, except for quotes, backslashes and controls. -/
theorem spelled_of_plain {chars : List Char}
    (plain : chars.all fun char => decide (32 ≤ char.toNat ∧ char ≠ '"' ∧ char ≠ '\\')) :
    Spelled chars chars := by
  induction chars with
  | nil => exact .nil
  | cons char chars ih =>
    rw [List.all_cons, Bool.and_eq_true, decide_eq_true_eq] at plain
    obtain ⟨⟨printable, notQuote, notBackslash⟩, others⟩ := plain
    exact .cons (.plain printable notQuote notBackslash) (ih others)

/-- A text between quotes. -/
inductive Literal (text : String) : List Char → Prop
  | quoted {written : List Char} : Spelled text.toList written → Literal text ('"' :: (written ++ ['"']))

/-- A field of an object: a key and a text. -/
inductive FieldText : String × String → List Char → Prop
  | field {key text : String} {a b c d first second : List Char} :
      Spaces a → Literal key first → Spaces b → Spaces c → Literal text second → Spaces d →
      FieldText (key, text) (a ++ first ++ b ++ [':'] ++ c ++ second ++ d)

/-- Fields with commas between them, at least one. -/
inductive FieldsText : List (String × String) → List Char → Prop
  | last {pair : String × String} {written : List Char} :
      FieldText pair written → FieldsText [pair] written
  | cons {pair : String × String} {pairs : List (String × String)} {written others : List Char} :
      FieldText pair written → FieldsText pairs others →
      FieldsText (pair :: pairs) (written ++ [','] ++ others)

/-- An object of texts with white space around it. -/
inductive ObjectText : List (String × String) → List Char → Prop
  | empty {a b c : List Char} : Spaces a → Spaces b → Spaces c →
      ObjectText [] (a ++ ['\x7b'] ++ b ++ ['\x7d'] ++ c)
  | fields {pairs : List (String × String)} {a b written : List Char} :
      Spaces a → FieldsText pairs written → Spaces b →
      ObjectText pairs (a ++ ['\x7b'] ++ written ++ ['\x7d'] ++ b)

/-- The pieces that the spellings of a character are scanned into. -/
inductive Denotes (char : Char) : List StringPiece → Prop
  | char : Denotes char [.char char]
  | pair {high low : Nat} :
      SurrogatePair char high low → Denotes char [.surrogate high, .surrogate low]

theorem joinPieces_append {char : Char} {pieces : List StringPiece} (denotes : Denotes char pieces)
    (more : List StringPiece) :
    joinPieces none (pieces ++ more) = (some char :: ·) <$> joinPieces none more := by
  cases denotes with
  | char => rfl
  | @pair high low pair =>
    have value : Char.ofNat (0x10000 + (high - 0xD800) * 0x400 + (low - 0xDC00)) = char := by
      rw [← pair.denotes, Char.ofNat_toNat]
    change joinPieces none (.surrogate high :: .surrogate low :: more) = _
    rw [joinPieces]
    simp only [pair.high_lt, pair.least_low, if_true, value]

theorem hexValue?_of_hexDigit {value : Nat} {digit : Char} (hex : HexDigit value digit) :
    digit.toNat < 128 ∧ Token.hexValue? digit.toUInt8 = some value := by
  obtain ⟨small, rfl | rfl⟩ := hex
  · revert value
    decide
  · revert value
    decide

theorem pieceOfUnit_toNat (char : Char) : Token.pieceOfUnit char.toNat = .char char := by
  have valid := char.valid
  change char.toNat < 0xD800 ∨ 0xDFFF < char.toNat ∧ char.toNat < 0x110000 at valid
  rw [Token.pieceOfUnit, if_neg (by omega), Char.ofNat_toNat]

section

open Token (scanString)

/-- More pieces in front of what a literal is scanned into. -/
def withPieces (pieces : List StringPiece) (scanned : List StringPiece × Option Problem × List UInt8) :
    List StringPiece × Option Problem × List UInt8 :=
  (pieces ++ scanned.1, scanned.2)

theorem scanString_unitEscape {unit : Nat} {written : List Char} (escape : UnitEscape unit written)
    (rest : List UInt8) : scanString 0 (encode written ++ rest) =
      withPieces [Token.pieceOfUnit unit] (scanString 0 rest) := by
  cases escape with
  | @digits a b c d first second third fourth ha hb hc hd =>
    obtain ⟨firstSmall, firstValue⟩ := hexValue?_of_hexDigit ha
    obtain ⟨secondSmall, secondValue⟩ := hexValue?_of_hexDigit hb
    obtain ⟨thirdSmall, thirdValue⟩ := hexValue?_of_hexDigit hc
    obtain ⟨fourthSmall, fourthValue⟩ := hexValue?_of_hexDigit hd
    have unit : Token.unit? first.toUInt8 second.toUInt8 third.toUInt8 fourth.toUInt8 =
        some (((a * 16 + b) * 16 + c) * 16 + d) := by
      rw [Token.unit?, firstValue, secondValue, thirdValue, fourthValue]
      rfl
    have bytes : encode ['\\', 'u', first, second, third, fourth] =
        [Token.byte '\\', Token.byte 'u', first.toUInt8, second.toUInt8, third.toUInt8,
          fourth.toUInt8] := by
      rw [encode_cons_of_lt (by decide), encode_cons_of_lt (by decide),
        encode_cons_of_lt firstSmall, encode_cons_of_lt secondSmall, encode_cons_of_lt thirdSmall,
        encode_cons_of_lt fourthSmall]
      rfl
    rw [bytes]
    simp only [List.cons_append, List.nil_append]
    rw [scanString, if_neg (by decide), if_pos rfl]
    simp only [unit, if_true]
    rfl

theorem scanString_shortEscape {letter char : Char} (escape : (letter, char) ∈ shortEscapes)
    (rest : List UInt8) : scanString 0 (encode ['\\', letter] ++ rest) =
      withPieces [.char char] (scanString 0 rest) := by
  have every : ∀ pair ∈ shortEscapes, pair.1.toNat < 128 ∧ pair.1.toUInt8 ≠ Token.byte 'u' ∧
      Token.shortEscape? pair.1.toUInt8 = some pair.2 := by
    decide
  obtain ⟨ascii, notUnit, value⟩ := every _ escape
  have bytes : encode ['\\', letter] = [Token.byte '\\', letter.toUInt8] := by
    rw [encode_cons_of_lt (by decide), encode_cons_of_lt ascii]
    rfl
  rw [bytes]
  simp only [List.cons_append, List.nil_append]
  rw [Token.scanString.eq_def]
  simp only [if_neg (by decide : ¬Token.byte '\\' = Token.byte '"'), if_true, if_neg notUnit, value]
  rfl

theorem scanString_skip (skipped rest : List UInt8) :
    scanString skipped.length (skipped ++ rest) = scanString 0 rest := by
  induction skipped with
  | nil => rfl
  | cons byte skipped ih =>
    rw [List.length_cons, List.cons_append, scanString]
    exact ih

/-- The first byte of a character. -/
theorem lead_cases {char : Char} {lead : UInt8} {more : List UInt8}
    (encoded : String.utf8EncodeChar char = lead :: more) :
    lead.toNat = char.toNat ∨ 128 ≤ lead.toNat := by
  have octets := Text.Utf8.octets_encodeChar char
  rw [encoded] at octets
  cases octets <;> simp only [UInt8.toNat_ofNat'] <;> omega

theorem scanString_plain {char : Char} (printable : 32 ≤ char.toNat) (notQuote : char ≠ '"')
    (notBackslash : char ≠ '\\') (rest : List UInt8) : scanString 0 (encode [char] ++ rest) =
      withPieces [.char char] (scanString 0 rest) := by
  obtain ⟨lead, more, encoded, length⟩ := Text.Utf8.exists_encodeChar_eq_cons char
  have bytes : encode [char] ++ rest = lead :: (more ++ rest) := by
    rw [Text.Utf8.encode_cons, encoded]
    simp [encode]
  have read : Text.Utf8.first? (lead :: (more ++ rest)) = some char := by
    rw [← List.cons_append, ← encoded]
    exact Text.Utf8.first?_encodeChar_append char rest
  -- The lead byte is that of an ASCII mark only for the mark itself: beyond ASCII it is at least 128.
  have other : ∀ mark : Char, mark.toNat < 128 → char ≠ mark → lead ≠ Token.byte mark := by
    intro mark ascii differs same
    have number : lead.toNat = mark.toNat := by
      rw [same, Token.byte, Char.toUInt8]
      change UInt8.toNat mark.toNat.toUInt8 = _
      rw [UInt8.toNat_ofNat']
      omega
    rcases lead_cases encoded with value | high
    · exact differs (Char.toNat_inj.mp (value.symm.trans number))
    · omega
  have notControl : ¬lead < 32 := by
    rw [UInt8.lt_iff_toNat_lt]
    have := lead_cases encoded
    change ¬ _ < 32
    omega
  rw [bytes, Token.scanString.eq_def]
  simp only [if_neg (other '"' (by decide) notQuote), if_neg (other '\\' (by decide) notBackslash),
    if_neg notControl, read, ← length, scanString_skip]
  rfl

theorem scanString_spelling {char : Char} {written : List Char} (spelling : Spelling char written) :
    ∃ pieces, Denotes char pieces ∧ ∀ rest,
      scanString 0 (encode written ++ rest) = withPieces pieces (scanString 0 rest) := by
  cases spelling with
  | plain printable notQuote notBackslash =>
    exact ⟨_, .char, scanString_plain printable notQuote notBackslash⟩
  | short escape => exact ⟨_, .char, scanString_shortEscape escape⟩
  | unit escape =>
    refine ⟨_, .char, ?_⟩
    -- The unit is the number of a character, so it is no surrogate.
    rw [← pieceOfUnit_toNat]
    exact scanString_unitEscape escape
  | @pair high low first second pair firstEscape secondEscape =>
    refine ⟨_, .pair pair, ?_⟩
    intro rest
    have highPiece : Token.pieceOfUnit high = .surrogate high :=
      if_pos ⟨pair.least_high, by have := pair.high_lt; omega⟩
    have lowPiece : Token.pieceOfUnit low = .surrogate low :=
      if_pos ⟨by have := pair.least_low; omega, by have := pair.low_lt; omega⟩
    rw [Text.Utf8.encode_append, List.append_assoc, scanString_unitEscape firstEscape,
      scanString_unitEscape secondEscape, highPiece, lowPiece]
    rfl

theorem keptText_of_joined {pieces : List StringPiece} {chars : List Char}
    (joined : joinPieces none pieces = .ok (chars.map some)) : keptText pieces none = .ok chars := by
  have all : (chars.map some).mapM id = some chars := by
    rw [List.mapM_map]
    exact List.mapM_pure.trans (congrArg some (List.map_id chars))
  rw [keptText, bind_eq_ok_iff]
  exact ⟨chars.map some, joined, by simp only [all]⟩

theorem scanString_spelled {chars written : List Char} (spelled : Spelled chars written) :
    ∃ pieces, joinPieces none pieces = .ok (chars.map some) ∧ ∀ rest,
      scanString 0 (encode written ++ Token.byte '"' :: rest) = (pieces, none, rest) := by
  induction spelled with
  | nil =>
    refine ⟨[], rfl, ?_⟩
    intro rest
    change scanString 0 (Token.byte '"' :: rest) = _
    rw [Token.scanString.eq_def]
    exact if_pos rfl
  | cons spelling _ ih =>
    obtain ⟨pieces, denotes, scanned⟩ := scanString_spelling spelling
    obtain ⟨more, joined, others⟩ := ih
    refine ⟨pieces ++ more, ?_, ?_⟩
    · rw [joinPieces_append denotes, joined]
      rfl
    · intro rest
      rw [Text.Utf8.encode_append, List.append_assoc, scanned, others]
      rfl

end

/-- A finished literal token and its text. -/
inductive StringToken (text : String) : Token → Prop
  | kept {pieces : List StringPiece} :
      keptText pieces none = .ok text.toList → StringToken text (.string pieces none)

/-- The bytes are cut into the tokens, whatever bound on their length is given. -/
def CutInto (bytes : List UInt8) (tokens : List Token) : Prop :=
  ∀ bound, bytes.length ≤ bound → Token.scanWithin bound bytes = tokens

/-- The characters are cut into the tokens, whatever is behind them. -/
def Cut (written : List Char) (tokens : List Token) : Prop :=
  ∀ rest more, CutInto rest more → CutInto (encode written ++ rest) (tokens ++ more)

theorem Cut.append {left right : List Char} {first second : List Token} (cut : Cut left first)
    (behind : Cut right second) : Cut (left ++ right) (first ++ second) := by
  intro rest more later
  rw [Text.Utf8.encode_append, List.append_assoc, List.append_assoc]
  exact cut _ _ (behind _ _ later)

theorem cut_spaces {chars : List Char} (spaces : Spaces chars) : Cut chars [] := by
  induction chars with
  | nil => exact fun _ _ later => later
  | cons char chars ih =>
    obtain ⟨space, others⟩ := List.forall_mem_cons.mp spaces
    have blank : char.toNat < 128 ∧ Token.isSpace char.toUInt8 = true := by
      rcases space with rfl | rfl | rfl | rfl <;> decide
    intro rest more later bound fits
    rw [encode_cons_of_lt blank.1, List.cons_append, List.length_cons] at fits
    obtain ⟨least, rfl⟩ := Nat.exists_eq_add_of_le' (Nat.le_trans (Nat.le_add_left 1 _) fits)
    rw [encode_cons_of_lt blank.1, List.cons_append, Token.scanWithin, if_pos blank.2]
    exact ih others rest more later least (Nat.le_of_succ_le_succ fits)

/-- A token that starts with an ASCII character and reaches up to what is behind. -/
theorem cutInto_token {first : Char} {written : List Char} {token : Token} {rest : List UInt8}
    {more : List Token} (ascii : first.toNat < 128) (notSpace : Token.isSpace first.toUInt8 = false)
    (scanned : Token.scanOne first.toUInt8 (encode written ++ rest) = (token, rest))
    (later : CutInto rest more) : CutInto (encode (first :: written) ++ rest) ([token] ++ more) := by
  intro bound fits
  rw [encode_cons_of_lt ascii, List.cons_append, List.length_cons, List.length_append] at fits
  obtain ⟨least, rfl⟩ := Nat.exists_eq_add_of_le' (Nat.le_trans (Nat.le_add_left 1 _) fits)
  rw [encode_cons_of_lt ascii, List.cons_append, Token.scanWithin, notSpace]
  simp only [Bool.false_eq_true, if_false, scanned, List.singleton_append]
  rw [later least (by omega)]

theorem cut_token {first : Char} {written : List Char} {token : Token} (ascii : first.toNat < 128)
    (notSpace : Token.isSpace first.toUInt8 = false)
    (scanned : ∀ rest, Token.scanOne first.toUInt8 (encode written ++ rest) = (token, rest)) :
    Cut (first :: written) [token] :=
  fun rest _ later => cutInto_token ascii notSpace (scanned rest) later

theorem scan_of_cut {written : List Char} {tokens : List Token} (cut : Cut written tokens) :
    Token.scan (encode written) = tokens := by
  have all := cut [] [] (fun bound _ => by cases bound <;> rfl) _ (Nat.le_refl _)
  rwa [List.append_nil, List.append_nil] at all

theorem cut_literal {text : String} {written : List Char} (literal : Literal text written) :
    ∃ token, StringToken text token ∧ Cut written [token] := by
  cases literal with
  | quoted spelled =>
    obtain ⟨pieces, joined, scanned⟩ := scanString_spelled spelled
    refine ⟨.string pieces none, .kept ?_, cut_token (by decide) (by decide) ?_⟩
    · exact keptText_of_joined joined
    · intro rest
      rw [Text.Utf8.encode_append, List.append_assoc]
      change Token.scanOne (Token.byte '"') (encode _ ++ Token.byte '"' :: rest) = _
      simp only [Token.scanOne, scanned]
      rfl

/-- The tokens of a field. -/
inductive FieldTokens : String × String → List Token → Prop
  | field {key text : String} {first second : Token} : StringToken key first →
      StringToken text second → FieldTokens (key, text) [first, .colon, second]

theorem cut_field {pair : String × String} {written : List Char} (field : FieldText pair written) :
    ∃ tokens, FieldTokens pair tokens ∧ Cut written tokens := by
  cases field with
  | field a first b c second d =>
    obtain ⟨key, keyToken, keyCut⟩ := cut_literal first
    obtain ⟨text, textToken, textCut⟩ := cut_literal second
    have colon : Cut [':'] [.colon] := cut_token (by decide) (by decide) fun _ => rfl
    exact ⟨_, .field keyToken textToken, (((((cut_spaces a).append keyCut).append
      (cut_spaces b)).append colon).append (cut_spaces c)).append textCut |>.append (cut_spaces d)⟩

theorem string_stringToken {text : String} {token : Token} (denotes : StringToken text token)
    (rest : List Token) : string (token :: rest) = .ok (text, rest) := by
  cases denotes with
  | kept kept =>
    rw [string, kept]
    exact congrArg (fun text => Except.ok (text, rest)) String.ofList_toList

/-- The marks in front of a field: a comma, unless it is the first. -/
def marksBefore : Turn → List Token
  | .first => []
  | .later => [.comma]

theorem nextKey_stringToken {key : String} {token : Token} (denotes : StringToken key token)
    (turn : Turn) (rest : List Token) :
    nextKey turn (marksBefore turn ++ token :: rest) = .ok (some key, rest) := by
  cases denotes with
  | @kept pieces kept =>
    have read : nextKey.key (.string pieces none :: rest) = .ok (some key, rest) := by
      rw [nextKey.key, kept]
      exact congrArg (fun key => Except.ok (some key, rest)) String.ofList_toList
    cases turn with
    | first => exact read
    | later => exact read

theorem FieldTokens.length_eq {pair : String × String} {tokens : List Token}
    (field : FieldTokens pair tokens) : tokens.length = 3 := by
  cases field
  rfl

theorem pairsWithin_field {pair : String × String} {tokens : List Token}
    (field : FieldTokens pair tokens) (bound : Nat) (turn : Turn) (rest : List Token) :
    pairsWithin string (bound + 1) turn (marksBefore turn ++ (tokens ++ rest)) =
      (do
        let (pairs, left) ← pairsWithin string bound .later rest
        .ok (pair :: pairs, left)) := by
  cases field with
  | field key text =>
    rw [pairsWithin, List.cons_append, nextKey_stringToken key]
    change (string (_ :: rest) >>= _) = _
    rw [string_stringToken text]
    rfl

theorem pairsWithin_fields {pairs : List (String × String)} {written : List Char}
    (fields : FieldsText pairs written) : ∃ tokens, Cut written tokens ∧
      ∀ bound turn rest, tokens.length < bound →
        pairsWithin string bound turn (marksBefore turn ++ (tokens ++ .closeBrace :: rest)) =
          .ok (pairs, rest) := by
  induction fields with
  | last field =>
    obtain ⟨tokens, denotes, cut⟩ := cut_field field
    refine ⟨tokens, cut, ?_⟩
    intro bound turn rest fits
    rw [denotes.length_eq] at fits
    obtain ⟨least, rfl⟩ := Nat.exists_eq_add_of_le' (show 2 ≤ bound by omega)
    exact pairsWithin_field denotes (least + 1) turn (.closeBrace :: rest)
  | cons field _ ih =>
    obtain ⟨tokens, denotes, cut⟩ := cut_field field
    obtain ⟨others, behind, read⟩ := ih
    have comma : Cut [','] [.comma] := cut_token (by decide) (by decide) fun _ => rfl
    refine ⟨_, (cut.append comma).append behind, ?_⟩
    intro bound turn rest fits
    -- A field uses up one of the bound and three tokens, so the bound stays above the tokens left.
    rw [List.length_append, List.length_append, denotes.length_eq] at fits
    obtain ⟨least, rfl⟩ := Nat.exists_eq_add_of_le' (show 1 ≤ bound by omega)
    rw [List.append_assoc, List.append_assoc, pairsWithin_field denotes]
    change (pairsWithin string least .later (marksBefore .later ++ (others ++ .closeBrace :: rest)) >>= _) = _
    rw [read least .later rest (by omega)]
    rfl

/-- However an object of texts is written, its fields are read back in order. -/
theorem decode_objectText {fields : List (String × String)} {written : List Char}
    (text : ObjectText fields written) : decode (pairs string) (encode written) = .ok fields := by
  have brace : Cut ['\x7b'] [.openBrace] := cut_token (by decide) (by decide) fun _ => rfl
  have close : Cut ['\x7d'] [.closeBrace] := cut_token (by decide) (by decide) fun _ => rfl
  cases text with
  | empty a b c =>
    rw [decode, scan_of_cut (((((cut_spaces a).append brace).append (cut_spaces b)).append close).append
      (cut_spaces c))]
    rfl
  | fields a written b =>
    obtain ⟨tokens, cut, read⟩ := pairsWithin_fields written
    rw [decode, scan_of_cut (((((cut_spaces a).append brace).append cut).append close).append
      (cut_spaces b))]
    have all : pairs string (.openBrace :: (tokens ++ [.closeBrace])) = .ok (fields, []) :=
      read _ .first [] (by rw [List.length_append]; exact Nat.lt_succ_of_le (Nat.le_add_right _ _))
    simp only [List.nil_append, List.append_nil, List.cons_append, all]
    rfl

end TabletopBot.Json
