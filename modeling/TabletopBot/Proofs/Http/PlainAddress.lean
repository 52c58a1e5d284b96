import TabletopBot.Proofs.Http.Address
import TabletopBot.Proofs.Http.Attempt
import Mathlib.Data.List.Forall2

/-! # Plain addresses

Most addresses need no settling: a scheme in small letters, a host name in small letters, digits and hyphens,
a port unless it is the usual one, and a path of unreserved characters. Such an address is read as it is
written, whatever the rules on other addresses are (`parse?_plain`).
-/

namespace TabletopBot.Http

def smallLetters : List Char := "abcdefghijklmnopqrstuvwxyz".toList

/-- The characters of host names that need no encoding. -/
def labelChars : List Char := smallLetters ++ "0123456789-".toList

/-- The characters of paths that need no encoding. -/
def pathChars : List Char := labelChars ++ "ABCDEFGHIJKLMNOPQRSTUVWXYZ._~".toList

/-- A label of a host name that starts with a letter, and is not in the encoding for international names. -/
structure PlainLabel (label : List Char) : Prop where
  letter : label.head?.any smallLetters.contains = true
  chars : ∀ char ∈ label, char ∈ labelChars
  unencoded : ¬"xn--".toList <+: label

theorem PlainLabel.exists_eq_cons {label : List Char} (plain : PlainLabel label) :
    ∃ first more, label = first :: more ∧ first ∈ smallLetters := by
  cases label with
  | nil => cases plain.letter
  | cons first more => exact ⟨first, more, rfl, List.contains_iff_mem.mp plain.letter⟩

instance (label : List Char) : Decidable (PlainLabel label) :=
  decidable_of_iff (label.head?.any smallLetters.contains = true ∧ label ⊆ labelChars ∧
    ¬"xn--".toList <+: label) ⟨fun ⟨letter, chars, unencoded⟩ => ⟨letter, chars, unencoded⟩,
      fun ⟨letter, chars, unencoded⟩ => ⟨letter, chars, unencoded⟩⟩

structure PlainSegment (segment : List Char) : Prop where
  nonempty : segment ≠ []
  chars : ∀ char ∈ segment, char ∈ pathChars
  no_dots : segment ≠ ".".toList ∧ segment ≠ "..".toList

instance (segment : List Char) : Decidable (PlainSegment segment) :=
  decidable_of_iff (segment ≠ [] ∧ segment ⊆ pathChars ∧ segment ≠ ".".toList ∧ segment ≠ "..".toList)
    ⟨fun ⟨nonempty, chars, noDots⟩ => ⟨nonempty, chars, noDots⟩,
      fun ⟨nonempty, chars, noDots⟩ => ⟨nonempty, chars, noDots⟩⟩

/-- The parts of an address in which nothing has to be settled. -/
structure PlainAddress where
  scheme : Scheme
  labels : List (List Char)
  port : Option Nat
  segments : List (List Char)
  named : labels ≠ []
  plain : ∀ label ∈ labels, PlainLabel label
  unusual : ∀ number ∈ port, number ≤ 65535 ∧ number ≠ scheme.usualPort
  below : ∀ segment ∈ segments, PlainSegment segment

namespace PlainAddress

def host (address : PlainAddress) : List Char := ['.'].intercalate address.labels

def portText (address : PlainAddress) : List Char :=
  address.port.elim [] fun port => ':' :: Text.decimalDigits port

def path (address : PlainAddress) : List Char := address.segments.flatMap ('/' :: ·)

/-- The address as it is written. -/
def chars (address : PlainAddress) : List Char :=
  address.scheme.start ++ "//".toList ++ address.host ++ address.portText ++ address.path

/-- The address as it is read; without any path it asks for the root. -/
def url (address : PlainAddress) : Url where
  scheme := address.scheme
  host := address.host
  port := address.port
  path := if address.segments = [] then ['/'] else address.path
  query := none

end PlainAddress

theorem labelChar_facts {char : Char} (member : char ∈ labelChars) :
    char.toLower = char ∧ char.toNat < 128 ∧ Host.isForbidden char = false ∧ char ≠ '.' ∧ char ≠ '%' ∧
      char ≠ ':' ∧ char ≠ '@' ∧ Url.endsAuthority char = false := by
  have facts := (List.all_eq_true (p := fun char => char.toLower = char && char.toNat < 128 &&
    !Host.isForbidden char && char != '.' && char != '%' && char != ':' && char != '@' &&
    !Url.endsAuthority char)).mp (by decide) char member
  simpa [and_assoc] using facts

theorem pathChar_facts {char : Char} (member : char ∈ pathChars) :
    32 < char.toNat ∧ Url.isSlash char = false ∧ char ≠ '?' ∧ char ≠ '#' ∧ char ≠ '%' ∧
      Url.keepsInPath char = true := by
  have facts := (List.all_eq_true (p := fun char => 32 < char.toNat && !Url.isSlash char &&
    char != '?' && char != '#' && char != '%' && Url.keepsInPath char)).mp (by decide) char member
  simpa [and_assoc] using facts

theorem digit_mem_labelChars {value : Nat} {char : Char} (member : char ∈ Text.decimalDigits value) :
    char ∈ labelChars := by
  obtain ⟨digit, small, rfl⟩ := Text.exists_digitChar_of_mem_toDigits (by decide) (by decide) member
  exact (by decide : ∀ digit < 16, Nat.digitChar digit ∈ labelChars) digit small

namespace Host

theorem labels_intercalate {labels : List (List Char)} (named : labels ≠ [])
    (plain : ∀ label ∈ labels, PlainLabel label) : Host.labels (['.'].intercalate labels) = labels := by
  have apart : ∀ label ∈ labels, '.' ∉ label := by
    intro label member inside
    exact (labelChar_facts ((plain label member).chars '.' inside)).2.2.2.1 rfl
  have closed : labels.getLast? ≠ some [] := by
    intro last
    obtain ⟨first, more, empty, -⟩ := (plain [] (List.mem_of_getLast? last)).exists_eq_cons
    cases empty
  rw [Host.labels, Text.splitAt_intercalate named apart]
  exact if_neg closed

theorem isNumeric_of_plain {label : List Char} (plain : PlainLabel label) : isNumeric label = false := by
  obtain ⟨first, more, rfl, letter⟩ := plain.exists_eq_cons
  have facts := (List.all_eq_true (p := fun char => !Text.isDigit char && char != '0')).mp (by decide)
    first letter
  rw [Bool.and_eq_true, Bool.not_eq_true', bne_iff_ne] at facts
  unfold isNumeric
  split
  · next same => exact absurd (List.cons.inj same).1 facts.2
  · simp [Text.isDigitRun, facts.1]

theorem isEncoded_of_plain {label : List Char} (plain : PlainLabel label) : isEncoded label = false := by
  rw [isEncoded, ← Bool.not_eq_true, List.isPrefixOf_iff_prefix]
  exact plain.unencoded

end Host

namespace PlainAddress

variable (address : PlainAddress)

theorem host_subset {char : Char} (member : char ∈ address.host) : char ∈ labelChars ∨ char = '.' := by
  rcases Text.mem_of_mem_intercalate member with mark | ⟨label, among, inside⟩
  · exact .inr (List.mem_singleton.mp mark)
  · exact .inl ((address.plain label among).chars char inside)

theorem exists_host_eq_cons : ∃ first more, address.host = first :: more ∧ first ∈ smallLetters := by
  obtain ⟨label, labels, listed⟩ := List.exists_cons_of_ne_nil address.named
  obtain ⟨first, more, rfl, letter⟩ :=
    (address.plain label (listed ▸ List.mem_cons_self)).exists_eq_cons
  exact ⟨first, ['.'].intercalate (more :: labels),
    by rw [host, listed, List.intercalate_cons_cons_left], letter⟩

theorem name?_host [AddressRules] : Host.name? address.host = some address.host := by
  have chars {char : Char} (member : char ∈ address.host) :
      char.toLower = char ∧ char.toNat < 128 ∧ Host.isForbidden char = false ∧ char ≠ '%' := by
    rcases address.host_subset member with label | rfl
    · obtain ⟨lower, ascii, allowed, -, escape, -⟩ := labelChar_facts label
      exact ⟨lower, ascii, allowed, escape⟩
    · decide
  have decoded : Text.Utf8.decode? (percentDecode address.host) = some address.host := by
    rw [percentDecode_of_not_mem fun member => (chars member).2.2.2 rfl, Text.Utf8.decode?_encode]
  have lower : address.host.map Char.toLower = address.host :=
    (List.map_congr_left fun char member => (chars member).1).trans (List.map_id _)
  have labels : Host.labels address.host = address.labels :=
    Host.labels_intercalate address.named address.plain
  have ascii : Host.ascii? address.host = some address.host := by
    have small : address.host.all (·.toNat < 128) = true :=
      List.all_eq_true.mpr fun char member => decide_eq_true (chars member).2.1
    have unencoded : address.labels.any Host.isEncoded = false :=
      List.any_eq_false.mpr fun label member => by
        rw [Host.isEncoded_of_plain (address.plain label member)]
        exact Bool.false_ne_true
    rw [Host.ascii?, lower, labels, small, unencoded]
    rfl
  have allowed : ¬(address.host.isEmpty = true ∨ address.host.any Host.isForbidden = true) := by
    obtain ⟨first, more, begins, -⟩ := address.exists_host_eq_cons
    rintro (empty | forbidden)
    · rw [begins] at empty
      cases empty
    · obtain ⟨char, member, refused⟩ := List.any_eq_true.mp forbidden
      rw [(chars member).2.2.1] at refused
      cases refused
  have named : ¬(address.labels.getLast?.any Host.isNumeric = true) := by
    intro numeric
    cases ends : address.labels.getLast? with
    | none =>
      rw [ends] at numeric
      cases numeric
    | some last =>
      have worded := Host.isNumeric_of_plain (address.plain last (List.mem_of_getLast? ends))
      rw [ends, Option.any_some, worded] at numeric
      cases numeric
  rw [Host.name?, decoded]
  change (Host.ascii? address.host).bind _ = _
  rw [ascii, Option.bind_some, if_neg allowed, labels, if_neg named]

theorem parse?_host [AddressRules] : Host.parse? address.host = some address.host := by
  obtain ⟨first, more, begins, letter⟩ := address.exists_host_eq_cons
  have named := address.name?_host
  rw [begins] at named ⊢
  unfold Host.parse?
  split
  · next same =>
    obtain rfl := (List.cons.inj same).1
    exact absurd letter (by decide)
  · exact named

theorem port?_portText : Url.port? address.scheme address.portText = some address.port := by
  rw [portText]
  cases known : address.port with
  | none => rfl
  | some port =>
    obtain ⟨bound, unusual⟩ := address.unusual port known
    have digits : Text.natUpTo? 65535 (Text.decimalDigits port) = some port :=
      Text.natUpTo?_eq_some_iff.mpr ⟨Text.natOfDigits?_decimalDigits port, bound⟩
    rw [Option.elim_some]
    unfold Url.port?
    split
    · next same => cases same
    · next same =>
      rw [(List.cons.inj same).2] at digits
      cases digits
    · next digits' _ same =>
      rw [← (List.cons.inj same).2, digits, Option.map_some, if_neg unusual]
    · next other => exact absurd rfl (other _)

theorem portText_subset {char : Char} (member : char ∈ address.portText) :
    char ∈ labelChars ∨ char = ':' := by
  rw [portText] at member
  cases known : address.port with
  | none =>
    rw [known] at member
    cases member
  | some port =>
    rw [known, Option.elim_some] at member
    rcases List.mem_cons.mp member with colon | digit
    · exact .inr colon
    · exact .inl (digit_mem_labelChars digit)

theorem host?_authority [AddressRules] :
    Url.host? address.scheme (address.host ++ address.portText) = some (address.host, address.port) := by
  obtain ⟨first, more, begins, letter⟩ := address.exists_host_eq_cons
  have unopened : (address.host ++ address.portText).head? ≠ some '[' := by
    rw [begins, List.cons_append, List.head?_cons, ne_eq, Option.some.injEq]
    rintro rfl
    exact absurd letter (by decide)
  have outer : (address.host ++ address.portText).takeWhile (· != ':') = address.host := by
    refine Text.takeWhile_append_of_stop ?_ ?_
    · intro char member
      rw [bne_iff_ne]
      rcases address.host_subset member with label | rfl
      · exact (labelChar_facts label).2.2.2.2.2.1
      · decide
    · intro next ahead
      rw [portText] at ahead
      cases known : address.port with
      | none =>
        rw [known] at ahead
        cases ahead
      | some port =>
        rw [known] at ahead
        cases ahead
        rfl
  rw [Url.host?]
  simp only [unopened, if_false, List.length_nil, List.drop_zero, outer, List.nil_append, Nat.zero_add,
    List.drop_left]
  rw [parse?_host, port?_portText]
  rfl

end PlainAddress

namespace Url

theorem segments_of_forall {segment : List Char} (apart : ∀ char ∈ segment, isSlash char = false) :
    segments segment = [segment] := by
  induction segment with
  | nil => rfl
  | cons char segment ih =>
    obtain ⟨here, behind⟩ := List.forall_mem_cons.mp apart
    rw [segments, if_neg (by simp [here]), ih behind]

theorem segments_append {segment : List Char} (apart : ∀ char ∈ segment, isSlash char = false)
    (rest : List Char) : segments (segment ++ '/' :: rest) = segment :: segments rest := by
  induction segment with
  | nil => rw [List.nil_append, segments, if_pos (by decide)]
  | cons char segment ih =>
    obtain ⟨here, behind⟩ := List.forall_mem_cons.mp apart
    rw [List.cons_append, segments, if_neg (by simp [here]), ih behind]

theorem segments_path {segment : List Char} {others : List (List Char)}
    (plain : ∀ piece ∈ segment :: others, PlainSegment piece) :
    segments (segment ++ others.flatMap ('/' :: ·)) = segment :: others := by
  induction others generalizing segment with
  | nil =>
    rw [List.flatMap_nil, List.append_nil]
    exact segments_of_forall fun char member =>
      (pathChar_facts ((plain segment List.mem_cons_self).chars char member)).2.1
  | cons next others ih =>
    obtain ⟨here, behind⟩ := List.forall_mem_cons.mp plain
    rw [List.flatMap_cons, List.cons_append, segments_append, ih behind]
    exact fun char member => (pathChar_facts (here.chars char member)).2.1

/-- No dots, written out or encoded. -/
theorem no_dots_of_plain {segment : List Char} (plain : PlainSegment segment) :
    isSingleDot segment = false ∧ isDoubleDot segment = false := by
  have facts {char : Char} (member : char ∈ segment) :
      (char.toLower = '.' → char = '.') ∧ char.toLower ≠ '%' := by
    have all := (List.all_eq_true (p := fun char =>
      (char.toLower != '.' || char == '.') && char.toLower != '%')).mp (by decide) char
      (plain.chars char member)
    simpa [Decidable.or_iff_not_imp_left] using all
  have dotted (count : Nat) (lower : segment.map Char.toLower = List.replicate count '.') :
      segment = List.replicate count '.' := by
    obtain ⟨length, dots⟩ := List.eq_replicate_iff.mp lower
    rw [List.length_map] at length
    exact List.eq_replicate_iff.mpr ⟨length, fun char member =>
      (facts member).1 (dots _ (List.mem_map_of_mem member))⟩
  have unescaped {dots : List Char} (escape : '%' ∈ dots) : segment.map Char.toLower ≠ dots := by
    rintro rfl
    obtain ⟨char, member, same⟩ := List.mem_map.mp escape
    exact (facts member).2 same
  have one : segment.map Char.toLower ≠ ".".toList := fun lower => plain.no_dots.1 (dotted 1 lower)
  have two : segment.map Char.toLower ≠ "..".toList := fun lower => plain.no_dots.2 (dotted 2 lower)
  constructor
  · simp only [isSingleDot, Bool.or_eq_false_iff, beq_eq_false_iff_ne]
    exact ⟨one, unescaped (by decide)⟩
  · simp only [isDoubleDot, Bool.or_eq_false_iff, beq_eq_false_iff_ne]
    exact ⟨⟨⟨two, unescaped (by decide)⟩, unescaped (by decide)⟩, unescaped (by decide)⟩

theorem resolve_of_plain (before : List (List Char)) {pieces : List (List Char)}
    (plain : ∀ piece ∈ pieces, PlainSegment piece) : resolve before pieces = before.reverse ++ pieces := by
  induction pieces generalizing before with
  | nil => rw [resolve, List.append_nil]
  | cons piece pieces ih =>
    obtain ⟨here, behind⟩ := List.forall_mem_cons.mp plain
    obtain ⟨single, double⟩ := no_dots_of_plain here
    cases pieces with
    | nil => simp [resolve, single, double]
    | cons next pieces =>
      rw [resolve, if_neg (by simp [double]), if_neg (by simp [single]), ih _ behind, List.reverse_cons,
        List.append_assoc, List.singleton_append]
      simp

theorem percentEncode_of_plain {segment : List Char} (plain : PlainSegment segment) :
    percentEncode keepsInPath segment = segment := by
  have kept (chars : List Char) (all : ∀ char ∈ chars, keepsInPath char = true) :
      percentEncode keepsInPath chars = chars := by
    induction chars with
    | nil => rfl
    | cons char chars ih =>
      obtain ⟨here, behind⟩ := List.forall_mem_cons.mp all
      rw [percentEncode, List.flatMap_cons, if_pos here]
      exact congrArg (char :: ·) (ih behind)
  exact kept segment fun char member => (pathChar_facts (plain.chars char member)).2.2.2.2.2

theorem settlePath_of_plain {pieces : List (List Char)} (plain : ∀ piece ∈ pieces, PlainSegment piece) :
    settlePath (pieces.flatMap ('/' :: ·)) =
      if pieces = [] then ['/'] else pieces.flatMap ('/' :: ·) := by
  cases pieces with
  | nil => rfl
  | cons first others =>
    rw [if_neg (List.cons_ne_nil _ _)]
    change (resolve [] (segments (first ++ others.flatMap ('/' :: ·)))).flatMap
      (fun piece => '/' :: percentEncode keepsInPath piece) = _
    rw [segments_path plain, resolve_of_plain [] plain, List.reverse_nil, List.nil_append]
    have same : ∀ piece ∈ first :: others, '/' :: percentEncode keepsInPath piece = '/' :: piece :=
      fun piece member => congrArg ('/' :: ·) (percentEncode_of_plain (plain piece member))
    rw [List.flatMap_def, List.map_congr_left same, ← List.flatMap_def]

end Url

namespace PlainAddress

variable (address : PlainAddress)

theorem path_facts {char : Char} (member : char ∈ address.path) :
    char = '/' ∨ char ∈ pathChars := by
  obtain ⟨segment, among, inside⟩ := List.mem_flatMap.mp member
  exact (List.mem_cons.mp inside).imp_right ((address.below segment among).chars char)

/-- No character of a plain address is dropped, nor does any start a query or a fragment. -/
theorem chars_facts {char : Char} (member : char ∈ address.chars) :
    32 < char.toNat ∧ char ≠ '?' ∧ char ≠ '#' := by
  have plain {char : Char} (among : char ∈ pathChars) : 32 < char.toNat ∧ char ≠ '?' ∧ char ≠ '#' := by
    obtain ⟨visible, -, question, number, -⟩ := pathChar_facts among
    exact ⟨visible, question, number⟩
  have start : address.scheme.start ++ "//".toList ⊆ ':' :: '/' :: pathChars := by
    cases address.scheme <;> decide
  have mark : (32 < ':'.toNat ∧ ':' ≠ '?' ∧ ':' ≠ '#') ∧ 32 < '/'.toNat ∧ '/' ≠ '?' ∧ '/' ≠ '#' := by
    decide
  have dot : '.' ∈ pathChars := by decide
  have wide {char : Char} (among : char ∈ labelChars) : char ∈ pathChars := List.mem_append_left _ among
  simp only [chars, List.mem_append] at member start
  rcases member with ((scheme | host) | port) | path
  · rcases List.mem_cons.mp (start (List.mem_append.mpr scheme)) with rfl | among
    · exact mark.1
    · rcases List.mem_cons.mp among with rfl | among
      · exact mark.2
      · exact plain among
  · rcases address.host_subset host with label | rfl
    · exact plain (wide label)
    · exact plain dot
  · rcases address.portText_subset port with digit | rfl
    · exact plain (wide digit)
    · exact mark.1
  · rcases address.path_facts path with rfl | among
    · exact mark.2
    · exact plain among

theorem strip_chars : Url.strip address.chars = address.chars := by
  have visible {char : Char} (member : char ∈ address.chars) : Url.isOuter char = false :=
    decide_eq_false (Nat.not_le.mpr (address.chars_facts member).1)
  have inner {char : Char} (member : char ∈ address.chars) : Url.isInner char = true := by
    have high := (address.chars_facts member).1
    simp only [Url.isInner, Bool.and_eq_true, bne_iff_ne, and_assoc]
    refine ⟨?_, ?_, ?_⟩ <;> rintro rfl <;> exact absurd high (by decide)
  rw [Url.strip_of_ending fun last ends => visible (List.mem_of_getLast? ends),
    List.dropWhile_eq_self_iff.mpr ?_, List.filter_eq_self.mpr fun char member => inner member]
  intro positive
  rw [visible (List.getElem_mem positive)]
  exact Bool.false_ne_true

theorem behind?_start (scheme : Scheme) (rest : List Char) :
    Url.behind? scheme.start (scheme.start ++ rest) = some rest := by
  cases scheme with
  | http => rfl
  | https => rfl

/-- Behind the scheme and two slashes stand the host, the port and the path. -/
theorem behindScheme?_chars : Url.behindScheme? (String.ofList address.chars) =
    some (address.scheme, address.host ++ address.portText ++ address.path) := by
  obtain ⟨first, more, begins, letter⟩ := address.exists_host_eq_cons
  refine Url.behindScheme?_ofList_eq_some_iff.mpr
    ⟨"//".toList ++ (address.host ++ address.portText ++ address.path), ?_, ?_⟩
  · rw [strip_chars, chars]
    simp only [List.append_assoc]
    exact behind?_start address.scheme _
  · have word : Url.isSlash first = false := by
      have facts := (List.all_eq_true (p := fun char => !Url.isSlash char)).mp (by decide) first letter
      rwa [Bool.not_eq_true'] at facts
    rw [begins]
    change ('/' :: '/' :: first :: (more ++ address.portText ++ address.path)).dropWhile Url.isSlash = _
    rw [List.dropWhile_cons_of_pos (by decide), List.dropWhile_cons_of_pos (by decide),
      List.dropWhile_cons_of_neg (by simp [word])]
    rfl

theorem takeWhile_authority :
    (address.host ++ address.portText ++ address.path).takeWhile (!Url.endsAuthority ·) =
      address.host ++ address.portText := by
  refine Text.takeWhile_append_of_stop ?_ ?_
  · intro char member
    have label {char : Char} (among : char ∈ labelChars) : (!Url.endsAuthority char) = true := by
      rw [(labelChar_facts among).2.2.2.2.2.2.2]
      rfl
    rcases List.mem_append.mp member with host | port
    · rcases address.host_subset host with among | rfl
      · exact label among
      · rfl
    · rcases address.portText_subset port with among | rfl
      · exact label among
      · rfl
  · intro next ahead
    rw [path] at ahead
    cases segments : address.segments with
    | nil =>
      rw [segments] at ahead
      cases ahead
    | cons first others =>
      rw [segments] at ahead
      cases ahead
      rfl

theorem behindUser_authority :
    Url.behindUser (address.host ++ address.portText) = address.host ++ address.portText := by
  have absent : ∀ char ∈ (address.host ++ address.portText).reverse, (char != '@') = true := by
    intro char member
    rw [bne_iff_ne]
    rcases List.mem_append.mp (List.mem_reverse.mp member) with host | port
    · rcases address.host_subset host with among | rfl
      · exact (labelChar_facts among).2.2.2.2.2.2.1
      · decide
    · rcases address.portText_subset port with among | rfl
      · exact (labelChar_facts among).2.2.2.2.2.2.1
      · decide
  rw [Url.behindUser, List.takeWhile_eq_self_iff.mpr absent, List.reverse_reverse]

/-- A plain address is read as it is written. -/
theorem parse?_plain [AddressRules] : Url.parse? (String.ofList address.chars) = some address.url := by
  have whole : ∀ char ∈ address.path, (char != '#') = true ∧ (char != '?') = true := by
    intro char member
    have inside : char ∈ address.chars := List.mem_append_right _ member
    obtain ⟨-, question, number⟩ := address.chars_facts inside
    exact ⟨bne_iff_ne.mpr number, bne_iff_ne.mpr question⟩
  have location : Url.location (address.host ++ address.portText ++ address.path) = address.path := by
    rw [Url.location, takeWhile_authority, List.drop_left,
      List.takeWhile_eq_self_iff.mpr fun char member => (whole char member).1]
  refine Url.parse?_eq_some_iff.mpr ⟨_, address.behindScheme?_chars, ?_, ?_, ?_⟩
  · rw [Url.place?, takeWhile_authority, behindUser_authority]
    exact address.host?_authority
  · rw [location, List.takeWhile_eq_self_iff.mpr fun char member => (whole char member).2, path,
      Url.settlePath_of_plain address.below]
    rfl
  · rw [location, List.takeWhile_eq_self_iff.mpr fun char member => (whole char member).2,
      List.drop_length]
    rfl

example [AddressRules] : Url.parse? "https://api.openai.com/v1/chat/completions" =
    some ⟨.https, "api.openai.com".toList, none, "/v1/chat/completions".toList, none⟩ :=
  parse?_plain {
    scheme := .https, labels := ["api".toList, "openai".toList, "com".toList], port := none
    segments := ["v1".toList, "chat".toList, "completions".toList], named := by decide
    plain := by decide, unusual := by decide, below := by decide }

/-- What is asked for at a plain address: the root unless there is a path, and behind it a form if there is
one. -/
def asked (form : Option (List (String × String))) : List Char :=
  address.chars ++ (if address.segments = [] then ['/'] else []) ++ form.elim [] ('?' :: Form.encode ·)

theorem toList_render_url : address.url.render.toList = address.asked none := by
  rw [Url.toList_render, asked, chars, Option.elim_none, List.append_nil]
  change address.scheme.start ++ "//".toList ++ address.host ++ address.portText ++
    (if address.segments = [] then ['/'] else address.path) ++ [] = _
  split
  · next rootless => simp [path, rootless]
  · rfl

theorem toList_render_asked (form : Option (List (String × String))) :
    (form.elim address.url address.url.withForm).render.toList = address.asked form := by
  cases form with
  | none => exact address.toList_render_url
  | some pairs =>
    have bare : address.url.query = none := rfl
    rw [Option.elim_some, Url.toList_render_withForm bare, toList_render_url, asked, asked,
      Option.elim_none, List.append_nil]
    rfl

theorem ne_slash_of_getLast? : ∀ last ∈ address.chars.getLast?, last ≠ '/' := by
  have label {char : Char} (among : char ∈ labelChars) : char ≠ '/' := by
    rintro rfl
    exact absurd among (by decide)
  intro last ends
  rcases List.eq_nil_or_concat' address.segments with rootless | ⟨front, segment, closes⟩
  · obtain ⟨first, more, begins, -⟩ := address.exists_host_eq_cons
    have authority : address.host ++ address.portText ≠ [] := by simp [begins]
    rw [chars, path, rootless, List.flatMap_nil, List.append_nil, List.append_assoc,
      List.getLast?_append_of_ne_nil _ authority] at ends
    rcases List.mem_append.mp (List.mem_of_getLast? ends) with host | port
    · rcases address.host_subset host with among | rfl
      · exact label among
      · decide
    · rcases address.portText_subset port with among | rfl
      · exact label among
      · decide
  · have plain := address.below segment (by simp [closes])
    rw [chars, path, closes, List.flatMap_append, List.flatMap_singleton, List.append_cons,
      ← List.append_assoc, ← List.append_assoc, List.getLast?_append_of_ne_nil _ plain.nonempty] at ends
    rintro rfl
    exact absurd (plain.chars _ (List.mem_of_getLast? ends)) (by decide)

/-- The address with further segments at the end of its path. -/
def extend (address : PlainAddress) (more : List (List Char))
    (plain : ∀ segment ∈ more, PlainSegment segment) : PlainAddress :=
  { address with
    segments := address.segments ++ more
    below := fun segment member => (List.mem_append.mp member).elim (address.below segment)
      (plain segment) }

theorem chars_extend {more : List (List Char)} (plain : ∀ segment ∈ more, PlainSegment segment) :
    (address.extend more plain).chars = address.chars ++ more.flatMap ('/' :: ·) := by
  rw [chars, chars, List.append_assoc _ address.path]
  change _ ++ (address.segments ++ more).flatMap ('/' :: ·) = _
  rw [List.flatMap_append]
  rfl

/-- Below a plain address, whatever number of slashes it ends in, there are plain addresses. -/
theorem addressBelow_eq {base : String} {slashes : List Char} (all : ∀ char ∈ slashes, char = '/')
    (shape : base.toList = address.chars ++ slashes) {more : List (List Char)}
    (plain : ∀ segment ∈ more, PlainSegment segment) :
    addressBelow base (String.ofList (more.flatMap ('/' :: ·))) =
      String.ofList (address.extend more plain).chars := by
  have stripped : base.toList.rdropWhile (· = '/') = address.chars := by
    rw [shape, List.rdropWhile, List.reverse_append, Text.dropWhile_append_of_stop, List.reverse_reverse]
    · intro char member
      exact decide_eq_true (all char (List.mem_reverse.mp member))
    · intro next ahead
      rw [List.head?_reverse] at ahead
      exact decide_eq_false (address.ne_slash_of_getLast? next ahead)
  rw [addressBelow, stripped, chars_extend, String.ofList_append]

end PlainAddress

/-- An attempt at a plain address, and the request that arrives for it: its address is not too long, and its
authorization can stand in a header. -/
inductive Attempt.PlainlySends (attempt : Attempt) : Request → Prop
  | intro (address : PlainAddress) :
      attempt.address = String.ofList address.chars →
      (address.asked attempt.form).length ≤ 65534 →
      attempt.authorization.all isHeaderText = true →
      PlainlySends attempt {
        method := attempt.method
        url := String.ofList (address.asked attempt.form)
        authorization := attempt.authorization
        contentType := attempt.body.map fun _ => "application/json"
        body := attempt.body }

/-- What arrives for attempts in turn is, one attempt after the other, its request and behind it what the
answers send it on to. -/
def ArriveInTurn (reactions : List Reaction) (attempts : List Attempt) (requests : List Request) : Prop :=
  ∃ arrived : List (List Request), requests = arrived.flatten ∧
    List.Forall₂ (fun attempt requests => ∀ request, attempt.PlainlySends request →
      ∃ further, requests = request :: further ∧ (Direct reactions → further = [])) attempts arrived

section

variable [AddressRules]

theorem Attempt.PlainlySends.exists_outgoing? {attempt : Attempt} {request : Request}
    (sends : attempt.PlainlySends request) :
    ∃ outgoing, attempt.outgoing? = some outgoing ∧ outgoing.toRequest = request := by
  obtain ⟨address, written, short, authorized⟩ := sends
  have asked : (attempt.form.elim address.url address.url.withForm).render =
      String.ofList (address.asked attempt.form) := by
    rw [← address.toList_render_asked, String.ofList_toList]
  have sendable : (attempt.form.elim address.url address.url.withForm).isSendable = true := by
    rw [Url.isSendable, asked, String.length_ofList]
    exact decide_eq_true short
  let outgoing : Outgoing := {
    method := attempt.method, url := attempt.form.elim address.url address.url.withForm
    authorization := attempt.authorization, body := attempt.body }
  refine ⟨outgoing, ?_, ?_⟩
  · rw [Attempt.outgoing?, Attempt.url?, written, address.parse?_plain, Option.map_some]
    simp only [Option.bind_eq_bind, Option.bind_some, sendable, authorized, Bool.and_self, if_true]
    rfl
  · rw [Outgoing.toRequest, asked]

theorem arriveInTurn_requests (attempts : List Attempt) (reactions : List Reaction) :
    ArriveInTurn reactions attempts (requests attempts reactions) := by
  induction attempts generalizing reactions with
  | nil => exact ⟨[], rfl, .nil⟩
  | cons attempt attempts ih =>
    obtain ⟨arrived, same, others⟩ := ih (attempt.exchange reactions).rest
    refine ⟨(attempt.exchange reactions).arrived :: arrived, ?_, .cons ?_ (others.imp ?_)⟩
    · rw [requests, same, List.flatten_cons]
    · intro request sends
      obtain ⟨outgoing, sent, rfl⟩ := sends.exists_outgoing?
      rw [Attempt.exchange_of_outgoing? sent]
      obtain ⟨further, first, alone⟩ := outgoing.arrived_exchange 10 reactions
      exact ⟨further, first, fun direct => alone fun response ahead =>
        direct response (List.mem_of_mem_head? ahead)⟩
    · intro other requests sends request plainly
      obtain ⟨further, first, alone⟩ := sends request plainly
      refine ⟨further, first, fun direct => alone ?_⟩
      intro response member
      rw [Attempt.rest_exchange] at member
      exact direct response (List.mem_of_mem_drop member)

end

end TabletopBot.Http
