import TabletopBot.Text.Utf8

/-! # Well-formed UTF-8

The bytes that can be read as text are exactly those that some text is written as, and comparing texts by
their bytes is comparing them by their code points.
-/

namespace TabletopBot.Text.Utf8

theorem encode_cons (char : Char) (chars : List Char) :
    encode (char :: chars) = String.utf8EncodeChar char ++ encode chars := rfl

/-- A character below U+0080 is written as the one byte with its number. -/
theorem encodeChar_of_lt {char : Char} (ascii : char.toNat < 128) :
    String.utf8EncodeChar char = [char.toUInt8] := by
  have least : char.val.toNat ≤ 127 := by
    change char.toNat ≤ 127
    omega
  rw [String.utf8EncodeChar, if_pos least]
  rfl

theorem encode_cons_of_lt {char : Char} (ascii : char.toNat < 128) (chars : List Char) :
    encode (char :: chars) = char.toUInt8 :: encode chars := by
  rw [encode_cons, encodeChar_of_lt ascii, List.singleton_append]

/-- The character in front is read back, whatever is behind it. -/
theorem first?_encodeChar_append (char : Char) (rest : List UInt8) :
    first? (String.utf8EncodeChar char ++ rest) = some char := by
  have short : (String.utf8EncodeChar char).length ≤ 4 := by
    rw [String.length_utf8EncodeChar]
    exact char.utf8Size_le_four
  have taken : (String.utf8EncodeChar char ++ rest).take 4 =
      String.utf8EncodeChar char ++ rest.take (4 - (String.utf8EncodeChar char).length) := by
    rw [List.take_append, List.take_of_length_le short]
  have bytes : ByteArray.mk ((String.utf8EncodeChar char ++ rest).take 4).toArray =
      (String.utf8EncodeChar char).toByteArray ++
        (rest.take (4 - (String.utf8EncodeChar char).length)).toByteArray := by
    rw [taken, ← List.toByteArray_append]
    ext1
    simp
  rw [first?, bytes, ByteArray.utf8DecodeChar?_utf8EncodeChar_append]

/-- A character that is read is written in front. -/
theorem exists_of_first?_eq_some {bytes : List UInt8} {char : Char} (read : first? bytes = some char) :
    ∃ rest, bytes = String.utf8EncodeChar char ++ rest := by
  obtain ⟨behind, split⟩ := ByteArray.exists_of_utf8DecodeChar?_eq_some read
  have front : bytes.take 4 = String.utf8EncodeChar char ++ behind.data.toList := by
    have same := congrArg (·.data.toList) split
    simpa using same
  refine ⟨behind.data.toList ++ bytes.drop 4, ?_⟩
  rw [← List.append_assoc, ← front, List.take_append_drop]

theorem symbolsBehind_eq_symbols_drop (skip : Nat) (bytes : List UInt8) :
    symbolsBehind skip bytes = symbols (bytes.drop skip) := by
  induction bytes generalizing skip with
  | nil =>
    rw [List.drop_nil]
    cases skip <;> rfl
  | cons byte bytes ih =>
    cases skip with
    | zero => rfl
    | succ skip => exact ih skip

theorem exists_encodeChar_eq_cons (char : Char) :
    ∃ lead more, String.utf8EncodeChar char = lead :: more ∧ more.length = char.utf8Size - 1 := by
  have size := String.length_utf8EncodeChar char
  cases encoded : String.utf8EncodeChar char with
  | nil =>
    rw [encoded] at size
    exact absurd size.symm (Nat.ne_of_gt char.utf8Size_pos)
  | cons lead more =>
    rw [encoded, List.length_cons] at size
    exact ⟨lead, more, rfl, by omega⟩

theorem symbols_encodeChar_append (char : Char) (rest : List UInt8) :
    symbols (String.utf8EncodeChar char ++ rest) = some char :: symbols rest := by
  obtain ⟨lead, more, encoded, length⟩ := exists_encodeChar_eq_cons char
  have read := first?_encodeChar_append char rest
  rw [encoded, List.cons_append] at read
  have behind : (more ++ rest).drop (char.utf8Size - 1) = rest := by
    rw [← length, List.drop_left]
  rw [encoded, List.cons_append, symbols, symbolsBehind, read]
  simp only [symbolsBehind_eq_symbols_drop, behind]

theorem decode?_encodeChar_append (char : Char) (rest : List UInt8) :
    decode? (String.utf8EncodeChar char ++ rest) = (decode? rest).map (char :: ·) := by
  rw [decode?, decode?, symbols_encodeChar_append, List.mapM_cons]
  cases (symbols rest).mapM id with
  | none => rfl
  | some chars => rfl

theorem decode?_encode (chars : List Char) : decode? (encode chars) = some chars := by
  induction chars with
  | nil => rfl
  | cons char chars ih => rw [encode_cons, decode?_encodeChar_append, ih, Option.map_some]

/-- What a text is written as holds its characters and nothing ill-formed. -/
theorem symbols_encode (chars : List Char) : symbols (encode chars) = chars.map some := by
  induction chars with
  | nil => rfl
  | cons char chars ih => rw [encode_cons, symbols_encodeChar_append, ih, List.map_cons]

theorem decodeLossy_encode (chars : List Char) : decodeLossy (encode chars) = chars := by
  rw [decodeLossy, symbols_encode, List.map_map]
  exact List.map_id chars

theorem decode?_of_first?_eq_none {lead : UInt8} {rest : List UInt8}
    (unread : first? (lead :: rest) = none) : decode? (lead :: rest) = none := by
  rw [decode?, symbols, symbolsBehind, unread, List.mapM_cons]
  rfl

theorem eq_encode_of_decode? {bytes : List UInt8} {chars : List Char}
    (read : decode? bytes = some chars) : bytes = encode chars := by
  induction bounded : bytes.length using Nat.strongRecOn generalizing bytes chars with
  | ind length ih =>
    cases bytes with
    | nil =>
      cases read
      rfl
    | cons lead rest =>
      cases front : first? (lead :: rest) with
      | none => cases (decode?_of_first?_eq_none front).symm.trans read
      | some char =>
        obtain ⟨behind, split⟩ := exists_of_first?_eq_some front
        rw [split, decode?_encodeChar_append, Option.map_eq_some_iff] at read
        obtain ⟨others, later, rfl⟩ := read
        have shorter : behind.length < length := by
          rw [← bounded, split, List.length_append, String.length_utf8EncodeChar]
          exact Nat.lt_add_of_pos_left char.utf8Size_pos
        rw [split, encode_cons, ← ih behind.length shorter later rfl]

/-- Bytes are read as a text exactly where they are what the text is written as. -/
theorem decode?_eq_some_iff {bytes : List UInt8} {chars : List Char} :
    decode? bytes = some chars ↔ bytes = encode chars := by
  constructor
  · exact eq_encode_of_decode?
  · rintro rfl
    exact decode?_encode chars

/-- How the bytes of a character hold its number: without their marks, they are its digits to base 64.
The shorter forms are for smaller numbers. -/
inductive Octets (number : Nat) : List UInt8 → Prop
  | one : number < 0x80 → Octets number [UInt8.ofNat number]
  | two {a b : Nat} : 0x80 ≤ number → number = a * 64 + b → a < 32 → b < 64 →
      Octets number [UInt8.ofNat (a + 192), UInt8.ofNat (b + 128)]
  | three {a b c : Nat} : 0x800 ≤ number → number = (a * 64 + b) * 64 + c → a < 16 → b < 64 → c < 64 →
      Octets number [UInt8.ofNat (a + 224), UInt8.ofNat (b + 128), UInt8.ofNat (c + 128)]
  | four {a b c d : Nat} : 0x10000 ≤ number → number = ((a * 64 + b) * 64 + c) * 64 + d →
      a < 8 → b < 64 → c < 64 → d < 64 →
      Octets number [UInt8.ofNat (a + 240), UInt8.ofNat (b + 128), UInt8.ofNat (c + 128),
        UInt8.ofNat (d + 128)]

theorem octets_encodeChar (char : Char) : Octets char.toNat (String.utf8EncodeChar char) := by
  have most : char.toNat < 0x110000 := by
    have valid := char.valid
    change char.toNat < 0xD800 ∨ 0xDFFF < char.toNat ∧ char.toNat < 0x110000 at valid
    omega
  simp only [String.utf8EncodeChar, Char.toNat_val]
  split
  · exact .one (by omega)
  · split
    · exact .two (by omega) (by omega) (by omega) (by omega)
    · split
      · exact .three (by omega) (by omega) (by omega) (by omega) (by omega)
      · exact .four (by omega) (by omega) (by omega) (by omega) (by omega) (by omega)

/-- Bytes of a smaller number come first, whatever is behind them and behind those of the greater one. -/
theorem Octets.append_lt {number other : Nat} {first second : List UInt8} (octets : Octets number first)
    (others : Octets other second) (smaller : number < other) (left right : List UInt8) :
    first ++ left < second ++ right := by
  cases octets <;> cases others <;>
    simp only [List.cons_append, List.cons_lt_cons_iff, UInt8.lt_iff_toNat_lt, ← UInt8.toNat_inj,
      UInt8.toNat_ofNat'] <;>
    omega

/-- A text that comes first by code points comes first by bytes. -/
theorem encode_lt_encode {first second : List Char} (smaller : first < second) :
    encode first < encode second := by
  induction smaller with
  | @nil char rest =>
    obtain ⟨lead, more, encoded, _⟩ := exists_encodeChar_eq_cons char
    rw [encode_cons, encoded]
    exact List.nil_lt_cons _ _
  | rel before =>
    exact (octets_encodeChar _).append_lt (octets_encodeChar _) before _ _
  | cons _ ih => exact List.append_left_lt ih

end TabletopBot.Text.Utf8
