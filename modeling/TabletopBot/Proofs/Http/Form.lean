import TabletopBot.Http.Percent
import TabletopBot.Proofs.Text.Utf8

/-! # Forms are read back

In a form, bytes stand for themselves, as a plus sign for a space, or as a percent sign with two digits, and
reading takes each of these for the byte again. The characters between names and values are never among
them, so that a form is cut exactly where it was joined: whatever its texts hold, `decode_pieces_encode` gives
back the pairs that were written.
-/

namespace TabletopBot.Http

theorem hexDigit?_hexDigit {value : Nat} (small : value < 16) :
    Text.hexDigit? (hexDigit value) = some value := by
  revert value
  decide

/-- Only a percent sign stands for something else than itself. -/
theorem percentDecode_cons_of_ne {char : Char} (plain : char ≠ '%') (rest : List Char) :
    percentDecode (char :: rest) = String.utf8EncodeChar char ++ percentDecode rest := by
  rw [percentDecode]
  rintro high low behind rfl -
  exact plain rfl

theorem percentDecode_of_not_mem {chars : List Char} (absent : '%' ∉ chars) :
    percentDecode chars = Text.Utf8.encode chars := by
  induction chars with
  | nil => rfl
  | cons char chars ih =>
    rw [List.mem_cons, not_or] at absent
    rw [percentDecode_cons_of_ne (Ne.symm absent.1), ih absent.2, Text.Utf8.encode_cons]

theorem percentDecode_percentByte_append (byte : UInt8) (rest : List Char) :
    percentDecode (percentByte byte ++ rest) = byte :: percentDecode rest := by
  have bound := byte.toNat_lt
  have whole : byte.toNat / 16 * 16 + byte.toNat % 16 = byte.toNat := by omega
  simp only [percentByte, List.cons_append, List.nil_append, percentDecode,
    hexDigit?_hexDigit (show byte.toNat / 16 < 16 by omega),
    hexDigit?_hexDigit (show byte.toNat % 16 < 16 by omega), whole, UInt8.ofNat_toNat]

/-- What holds of every number below 256 holds of every byte. -/
theorem forall_byte {p : UInt8 → Prop} (every : ∀ value < 256, p (UInt8.ofNat value)) (byte : UInt8) :
    p byte := by
  have here := every byte.toNat byte.toNat_lt
  rwa [UInt8.ofNat_toNat] at here

/-- A mark is not in what is written for a byte where it is not for any of the 256 bytes. -/
theorem not_mem_of_forall_byte {marks : List Char} {write : UInt8 → List Char}
    (every : ∀ value < 256, (marks.all fun mark => mark ∉ write (UInt8.ofNat value)) = true)
    {mark : Char} (reserved : mark ∈ marks) (byte : UInt8) : mark ∉ write byte :=
  have apart := forall_byte (p := fun byte => (marks.all fun mark => mark ∉ write byte) = true) every byte
  of_decide_eq_true (List.all_eq_true.mp apart mark reserved)

/-- No mark that means something in an address or a form is in what is written for a byte. -/
theorem not_mem_percentByte {mark : Char} (reserved : mark ∈ ['+', '?', '#']) (byte : UInt8) :
    mark ∉ percentByte byte :=
  not_mem_of_forall_byte (by decide +kernel) reserved byte

namespace Form

/-- The characters between the names and values of a form, and the one that ends a query. -/
def marks : List Char := ['&', '=', '#']

theorem not_mem_encodeByte {mark : Char} (reserved : mark ∈ marks) (byte : UInt8) :
    mark ∉ encodeByte byte :=
  not_mem_of_forall_byte (by decide +kernel) reserved byte

/-- A byte that stands for itself is a character that is read as nothing else. -/
theorem char_of_keepsByte {byte : UInt8} (kept : keepsByte byte = true) :
    Char.ofNat byte.toNat ≠ '+' ∧ Char.ofNat byte.toNat ≠ '%' ∧
      String.utf8EncodeChar (Char.ofNat byte.toNat) = [byte] := by
  refine forall_byte (p := fun byte => keepsByte byte = true → Char.ofNat byte.toNat ≠ '+' ∧
    Char.ofNat byte.toNat ≠ '%' ∧ String.utf8EncodeChar (Char.ofNat byte.toNat) = [byte]) ?_ byte kept
  decide +kernel

theorem decodeBytes_cons (char : Char) (rest : List Char) :
    decodeBytes (char :: rest) =
      percentDecode ((if char = '+' then ' ' else char) :: rest.map fun other =>
        if other = '+' then ' ' else other) := rfl

/-- What is written for a byte is read as that byte, whatever is behind it. -/
theorem decodeBytes_encodeByte_append (byte : UInt8) (rest : List Char) :
    decodeBytes (encodeByte byte ++ rest) = byte :: decodeBytes rest := by
  rw [encodeByte]
  split
  · next kept =>
    obtain ⟨noPlus, noPercent, bytes⟩ := char_of_keepsByte kept
    rw [List.singleton_append, decodeBytes_cons, if_neg noPlus, percentDecode_cons_of_ne noPercent, bytes]
    rfl
  · split
    · next space =>
      rw [List.singleton_append, decodeBytes_cons, if_pos rfl, percentDecode_cons_of_ne (by decide), space]
      rfl
    · have unchanged : (percentByte byte).map (fun other => if other = '+' then ' ' else other) =
          percentByte byte := by
        refine (List.map_congr_left fun char member => if_neg ?_).trans (List.map_id' _)
        rintro rfl
        exact not_mem_percentByte (by decide) byte member
      rw [decodeBytes, List.map_append, unchanged, percentDecode_percentByte_append]
      rfl

theorem decodeBytes_flatMap_encodeByte (bytes : List UInt8) :
    decodeBytes (bytes.flatMap encodeByte) = bytes := by
  induction bytes with
  | nil => rfl
  | cons byte bytes ih => rw [List.flatMap_cons, decodeBytes_encodeByte_append, ih]

theorem not_mem_encodeText {mark : Char} (reserved : mark ∈ marks) (text : String) :
    mark ∉ encodeText text := by
  intro member
  obtain ⟨byte, -, inside⟩ := List.mem_flatMap.mp member
  exact not_mem_encodeByte reserved byte inside

theorem decodeText_encodeText (text : String) : decodeText (encodeText text) = text := by
  rw [decodeText, encodeText, decodeBytes_flatMap_encodeByte, Text.Utf8.decodeLossy_encode,
    String.ofList_toList]

theorem decodePair_encodePair (pair : String × String) : decodePair (encodePair pair) = pair := by
  have name : ∀ char ∈ encodeText pair.1, (char != '=') = true := by
    intro char member
    rw [bne_iff_ne]
    rintro rfl
    exact not_mem_encodeText (by decide) pair.1 member
  have stop : ∀ next ∈ ('=' :: encodeText pair.2).head?, (next != '=') = false := by simp
  rw [decodePair, encodePair, Text.takeWhile_append_of_stop name stop,
    Text.dropWhile_append_of_stop name stop, decodeText_encodeText]
  exact Prod.ext rfl (decodeText_encodeText pair.2)

theorem not_mem_encodePair {mark : Char} (reserved : mark ∈ ['&', '#']) (pair : String × String) :
    mark ∉ encodePair pair := by
  have among : mark ∈ marks ∧ mark ≠ '=' := by
    simp only [List.mem_cons, List.not_mem_nil, or_false] at reserved
    rcases reserved with rfl | rfl
    · decide
    · decide
  rw [encodePair, List.mem_append, List.mem_cons]
  rintro (inside | same | inside)
  · exact not_mem_encodeText among.1 pair.1 inside
  · exact among.2 same
  · exact not_mem_encodeText among.1 pair.2 inside

theorem splitAt_encode {pairs : List (String × String)} (nonempty : pairs ≠ []) :
    Text.splitAt '&' (encode pairs) = pairs.map encodePair := by
  fun_induction encode pairs with
  | case1 => exact absurd rfl nonempty
  | case2 pair => exact Text.splitAt_of_not_mem (not_mem_encodePair (by decide) pair)
  | case3 pair pairs further ih =>
    rw [Text.splitAt_append (not_mem_encodePair (by decide) pair), ih (by simpa using further),
      List.map_cons]

/-- Cutting a form at its ampersands, and each piece at its first equals sign, gives back all pairs. -/
theorem decode_pieces_encode {pairs : List (String × String)} (nonempty : pairs ≠ []) :
    (Text.splitAt '&' (encode pairs)).map decodePair = pairs := by
  rw [splitAt_encode nonempty, List.map_map]
  exact (List.map_congr_left fun pair _ => decodePair_encodePair pair).trans (List.map_id pairs)

/-- A form does not end the query that it stands in. -/
theorem hash_not_mem_encode (pairs : List (String × String)) : '#' ∉ encode pairs := by
  fun_induction encode pairs with
  | case1 => simp
  | case2 pair => exact not_mem_encodePair (by decide) pair
  | case3 pair pairs _ ih =>
    rw [List.mem_append, List.mem_cons]
    rintro (inside | same | inside)
    · exact not_mem_encodePair (by decide) pair inside
    · exact absurd same (by decide)
    · exact ih inside

end Form

end TabletopBot.Http
