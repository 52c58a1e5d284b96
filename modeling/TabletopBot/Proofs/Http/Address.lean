import TabletopBot.Http.Url
import TabletopBot.Proofs.Http.Form
import TabletopBot.Proofs.Text.Decimal
import TabletopBot.Proofs.Text.Joined
import Mathlib.Data.List.TakeWhile

/-! # Addresses below an address

Reading an address settles it, and what is settled has no question mark and no number sign of its own: in
an address without a query there is neither. Whatever path is written behind the slashes at the end of an
address, the host and the port stay those of that address (`exists_parse?_below`).
-/

namespace TabletopBot.Http

/-- The characters that end the path and the query of an address. -/
def stops : List Char := ['?', '#']

@[elab_as_elim]
theorem stops_cases {motive : Char → Prop} {stop : Char} (reserved : stop ∈ stops)
    (question : motive '?') (number : motive '#') : motive stop := by
  simp only [stops, List.mem_cons, List.not_mem_nil, or_false] at reserved
  rcases reserved with rfl | rfl
  · exact question
  · exact number

theorem not_mem_joined {stop : Char} (reserved : stop ∈ stops) {base : Nat} (more : 1 < base)
    (most : base ≤ 16) {separator : String} (apart : stop ∉ separator.toList) (numbers : List Nat) :
    stop ∉ (IpAddress.joined base separator numbers).toList := by
  intro member
  rw [IpAddress.joined, String.toList_intercalate] at member
  obtain inside | ⟨piece, among, inside⟩ := Text.mem_of_mem_intercalate member
  · exact apart inside
  · simp only [List.map_map, List.mem_map, Function.comp_apply, String.toList_ofList] at among
    obtain ⟨number, -, rfl⟩ := among
    obtain ⟨digit, small, rfl⟩ := Text.exists_digitChar_of_mem_toDigits more most inside
    exact absurd reserved ((by decide : ∀ digit < 16, Nat.digitChar digit ∉ stops) digit small)

namespace Host

theorem not_mem_of_name? [AddressRules] {stop : Char} (reserved : stop ∈ stops) {chars host : List Char}
    (read : name? chars = some host) : stop ∉ host := by
  obtain ⟨decoded, -, read⟩ := Option.bind_eq_some_iff.mp read
  obtain ⟨name, -, read⟩ := Option.bind_eq_some_iff.mp read
  split at read
  · cases read
  · next allowed =>
    split at read
    · obtain ⟨octets, -, rfl⟩ := Option.map_eq_some_iff.mp read
      refine not_mem_joined reserved (by decide) (by decide) ?_ octets
      exact stops_cases reserved (by decide) (by decide)
    · cases read
      intro member
      refine allowed (.inr (List.any_eq_true.mpr ⟨stop, member, ?_⟩))
      exact stops_cases reserved (by decide) (by decide)

theorem not_mem_v6Text {stop : Char} (reserved : stop ∈ stops) (groups : List Nat) :
    stop ∉ (IpAddress.v6Text groups).toList := by
  have colon : stop ∉ ":".toList := stops_cases reserved (by decide) (by decide)
  have colons : stop ∉ "::".toList := stops_cases reserved (by decide) (by decide)
  have joined (numbers : List Nat) : stop ∉ (IpAddress.joined 16 ":" numbers).toList :=
    not_mem_joined reserved (by decide) (by decide) colon numbers
  rw [IpAddress.v6Text]
  generalize IpAddress.longestZeros groups = run
  obtain ⟨start, length⟩ := run
  dsimp only
  split
  · simp only [String.toList_append, List.mem_append, not_or]
    exact ⟨⟨joined _, colons⟩, joined _⟩
  · exact joined groups

theorem not_mem_of_parse? [AddressRules] {stop : Char} (reserved : stop ∈ stops) {chars host : List Char}
    (read : parse? chars = some host) : stop ∉ host := by
  unfold parse? at read
  split at read
  · obtain ⟨⟨groups, rest⟩, -, read⟩ := Option.bind_eq_some_iff.mp read
    obtain ⟨-, same⟩ := Option.ite_none_right_eq_some.mp read
    obtain rfl := Option.some.inj same
    have brackets : stop ≠ '[' ∧ stop ≠ ']' := stops_cases reserved (by decide) (by decide)
    simp only [List.mem_cons, List.mem_append, List.not_mem_nil, or_false, not_or]
    exact ⟨⟨brackets.1, not_mem_v6Text reserved groups⟩, brackets.2⟩
  · exact not_mem_of_name? reserved read

end Host

namespace Url

theorem not_mem_percentEncode {keeps : Char → Bool} {stop : Char} (reserved : stop ∈ stops)
    (refused : keeps stop = false) (chars : List Char) : stop ∉ percentEncode keeps chars := by
  intro member
  obtain ⟨char, -, inside⟩ := List.mem_flatMap.mp member
  split at inside
  · next kept =>
    obtain rfl := List.mem_singleton.mp inside
    rw [refused] at kept
    cases kept
  · obtain ⟨byte, -, inside⟩ := List.mem_flatMap.mp inside
    exact not_mem_percentByte (List.mem_cons_of_mem _ reserved) byte inside

theorem not_mem_settlePath {stop : Char} (reserved : stop ∈ stops) (chars : List Char) :
    stop ∉ settlePath chars := by
  intro member
  obtain ⟨segment, -, inside⟩ := List.mem_flatMap.mp member
  rcases List.mem_cons.mp inside with same | inside
  · exact absurd reserved (same ▸ by decide)
  · refine not_mem_percentEncode reserved ?_ segment inside
    exact stops_cases reserved (by decide) (by decide)

/-- The scheme of an address, and what is behind it and the slashes there. -/
def behindScheme? (text : String) : Option (Scheme × List Char) :=
  (scheme? (strip text.toList)).map fun (scheme, rest) => (scheme, rest.dropWhile isSlash)

/-- The host and the port of what stands behind the scheme. -/
def place? [AddressRules] (scheme : Scheme) (start : List Char) : Option (List Char × Option Nat) :=
  host? scheme (behindUser (start.takeWhile (!endsAuthority ·)))

/-- What is asked for at a place, without the fragment. -/
def location (start : List Char) : List Char :=
  (start.drop (start.takeWhile (!endsAuthority ·)).length).takeWhile (· != '#')

theorem parse?_eq_some_iff [AddressRules] {text : String} {url : Url} : parse? text = some url ↔
    ∃ start, behindScheme? text = some (url.scheme, start) ∧
      place? url.scheme start = some (url.host, url.port) ∧
      url.path = settlePath ((location start).takeWhile (· != '?')) ∧
      url.query =
        match (location start).drop ((location start).takeWhile (· != '?')).length with
        | '?' :: chars => some (percentEncode keepsInQuery chars)
        | _ => none := by
  constructor
  · intro read
    obtain ⟨⟨scheme, rest⟩, starts, read⟩ := Option.bind_eq_some_iff.mp read
    obtain ⟨⟨host, port⟩, place, read⟩ := Option.bind_eq_some_iff.mp read
    cases read
    exact ⟨_, Option.map_eq_some_iff.mpr ⟨(scheme, rest), starts, rfl⟩, place, rfl, rfl⟩
  · rintro ⟨start, starts, place, path, query⟩
    obtain ⟨⟨scheme, rest⟩, behind, same⟩ := Option.map_eq_some_iff.mp starts
    obtain ⟨rfl, rfl⟩ := Prod.mk.inj same
    refine Option.bind_eq_some_iff.mpr ⟨_, behind, Option.bind_eq_some_iff.mpr ⟨_, place, ?_⟩⟩
    cases url
    cases path
    cases query
    rfl

/-- Where there is a host, there is an address. -/
theorem exists_parse?_of_place? [AddressRules] {text : String} {scheme : Scheme}
    {start host : List Char} {port : Option Nat} (starts : behindScheme? text = some (scheme, start))
    (place : place? scheme start = some (host, port)) :
    ∃ url, parse? text = some url ∧ url.scheme = scheme ∧ url.host = host ∧ url.port = port :=
  ⟨⟨scheme, host, port, _, _⟩, parse?_eq_some_iff.mpr ⟨start, starts, place, rfl, rfl⟩, rfl, rfl, rfl⟩

theorem behind?_append (first second chars : List Char) :
    behind? (first ++ second) chars = (behind? first chars).bind (behind? second) := by
  induction first generalizing chars with
  | nil => rfl
  | cons expected first ih =>
    cases chars with
    | nil => rfl
    | cons char chars =>
      rw [List.cons_append, behind?, behind?, ih]
      split
      · rfl
      · rfl

/-- An address does not start with both schemes. -/
theorem behind?_https_eq_none {chars rest : List Char}
    (plain : behind? Scheme.http.start chars = some rest) :
    behind? Scheme.https.start chars = none := by
  have colon : Scheme.http.start = "http".toList ++ [':'] := rfl
  have letter : Scheme.https.start = "http".toList ++ ['s', ':'] := rfl
  rw [colon, behind?_append] at plain
  rw [letter, behind?_append]
  obtain ⟨start, common, plain⟩ := Option.bind_eq_some_iff.mp plain
  rw [common, Option.bind_some]
  cases start with
  | nil => rfl
  | cons char start =>
    rw [behind?] at plain
    rw [behind?, if_neg]
    rintro same
    rw [if_neg (same ▸ by decide)] at plain
    cases plain

theorem scheme?_eq_some_iff {chars rest : List Char} {scheme : Scheme} :
    scheme? chars = some (scheme, rest) ↔ behind? scheme.start chars = some rest := by
  rw [scheme?]
  cases plain : behind? Scheme.http.start chars with
  | some found =>
    cases scheme with
    | http => simp [plain]
    | https => simp [behind?_https_eq_none plain]
  | none =>
    cases scheme with
    | http => simp [plain]
    | https => simp

theorem suffix_of_behind? {expected chars rest : List Char} (found : behind? expected chars = some rest) :
    rest <:+ chars := by
  fun_induction behind? expected chars with
  | case1 chars =>
    cases found
    exact List.suffix_refl _
  | case2 => cases found
  | case3 more char chars ih => exact (ih found).trans (List.suffix_cons char chars)
  | case4 => cases found

theorem strip_subset (chars : List Char) : strip chars ⊆ chars := by
  intro char member
  have inner := List.mem_reverse.mp (List.mem_filter.mp member).1
  have front := List.mem_reverse.mp ((List.dropWhile_suffix _).subset inner)
  exact (List.dropWhile_suffix _).subset front

theorem subset_of_behindScheme? {text : String} {scheme : Scheme} {start : List Char}
    (read : behindScheme? text = some (scheme, start)) : start ⊆ text.toList := by
  obtain ⟨⟨_, rest⟩, behind, same⟩ := Option.map_eq_some_iff.mp read
  obtain ⟨rfl, rfl⟩ := Prod.mk.inj same
  rw [scheme?_eq_some_iff] at behind
  intro char member
  exact strip_subset _ ((suffix_of_behind? behind).subset ((List.dropWhile_suffix _).subset member))

theorem query_eq_none_of_parse? [AddressRules] {text : String} {url : Url} (read : parse? text = some url)
    (absent : '?' ∉ text.toList) : url.query = none := by
  obtain ⟨start, scheme, -, -, query⟩ := parse?_eq_some_iff.mp read
  have clear : '?' ∉ location start := by
    intro member
    have inside := (List.drop_suffix _ _).subset ((List.takeWhile_prefix _).subset member)
    exact absent (subset_of_behindScheme? scheme inside)
  have whole : (location start).takeWhile (· != '?') = location start := by
    rw [List.takeWhile_eq_self_iff]
    intro char member
    rw [bne_iff_ne]
    rintro rfl
    exact clear member
  rw [query, whole, List.drop_length]

theorem exists_of_place? [AddressRules] {scheme : Scheme} {start host : List Char} {port : Option Nat}
    (read : place? scheme start = some (host, port)) : ∃ chars, Host.parse? chars = some host := by
  simp only [place?, host?, Option.bind_eq_bind, Option.bind_eq_some_iff, Option.some.injEq,
    Prod.mk.injEq] at read
  obtain ⟨_, settled, _, -, rfl, -⟩ := read
  exact ⟨_, settled⟩

theorem not_mem_decimalDigits {stop : Char} (reserved : stop ∈ stops) (value : Nat) :
    stop ∉ Text.decimalDigits value := by
  intro member
  obtain ⟨digit, small, rfl⟩ := Text.exists_digitChar_of_mem_toDigits (by decide) (by decide) member
  exact absurd reserved ((by decide : ∀ digit < 16, Nat.digitChar digit ∉ stops) digit small)

theorem toList_render (url : Url) : url.render.toList =
    url.scheme.start ++ "//".toList ++ url.host ++
    url.port.elim [] (fun port => ':' :: Text.decimalDigits port) ++ url.path ++
    url.query.elim [] ('?' :: ·) :=
  String.toList_ofList

/-- A settled address without a query has no character that ends a path or a query. -/
theorem not_mem_render [AddressRules] {text : String} {url : Url} (read : parse? text = some url)
    (bare : url.query = none) {stop : Char} (reserved : stop ∈ stops) : stop ∉ url.render.toList := by
  obtain ⟨start, -, place, path, -⟩ := parse?_eq_some_iff.mp read
  obtain ⟨_, settled⟩ := exists_of_place? place
  have scheme : stop ∉ url.scheme.start ∧ stop ∉ "//".toList := by
    cases url.scheme with
    | http => exact stops_cases reserved (by decide) (by decide)
    | https => exact stops_cases reserved (by decide) (by decide)
  have port : stop ∉ url.port.elim [] fun port => ':' :: Text.decimalDigits port := by
    cases url.port with
    | none => exact List.not_mem_nil
    | some port =>
      intro member
      rcases List.mem_cons.mp member with same | inside
      · exact absurd reserved (same ▸ by decide)
      · exact not_mem_decimalDigits reserved port inside
  rw [toList_render, bare, path]
  simp only [List.mem_append, not_or]
  exact ⟨⟨⟨⟨scheme, Host.not_mem_of_parse? reserved settled⟩, port⟩,
    not_mem_settlePath reserved _⟩, List.not_mem_nil⟩

/-- The address with a form is the address, a question mark and the form. -/
theorem toList_render_withForm {url : Url} (bare : url.query = none) (pairs : List (String × String)) :
    (url.withForm pairs).render.toList = url.render.toList ++ '?' :: Form.encode pairs := by
  rw [toList_render, toList_render, withForm, bare]
  simp only [Option.elim, List.append_nil]

/-- A character that is stripped where it stands at an end of a text. -/
def isOuter (char : Char) : Bool := char.toNat ≤ 32

/-- A character that is kept within a text. -/
def isInner (char : Char) : Bool := char != '\t' && char != '\n' && char != '\r'

/-- Nothing is stripped from the end of a text that does not end in white space or a control. -/
theorem strip_of_ending {chars : List Char} (ending : ∀ last ∈ chars.getLast?, isOuter last = false) :
    strip chars = (chars.dropWhile isOuter).filter isInner := by
  have stays : (chars.dropWhile isOuter).reverse.dropWhile isOuter =
      (chars.dropWhile isOuter).reverse := by
    obtain ⟨dropped, shape⟩ := List.dropWhile_suffix (l := chars) isOuter
    cases reversed : (chars.dropWhile isOuter).reverse with
    | nil => rfl
    | cons last front =>
      rw [List.reverse_eq_cons_iff] at reversed
      rw [reversed] at shape
      refine List.dropWhile_cons_of_neg ?_
      rw [ending last (by simp [← shape])]
      exact Bool.false_ne_true
  change ((chars.dropWhile isOuter).reverse.dropWhile isOuter).reverse.filter isInner = _
  rw [stays, List.reverse_reverse]

theorem strip_append {front back : List Char} (solid : front.dropWhile isOuter ≠ [])
    (ending : ∀ last ∈ (front ++ back).getLast?, isOuter last = false) :
    strip (front ++ back) = (front.dropWhile isOuter).filter isInner ++ back.filter isInner := by
  rw [strip_of_ending ending, List.dropWhile_append, if_neg (by simpa using solid), List.filter_append]

/-- Nothing, or what a slash stands in front of. -/
def Below (back : List Char) : Prop := ∀ next ∈ back.head?, next = '/'

theorem below_of_forall {back : List Char} (slashes : ∀ char ∈ back, char = '/') : Below back :=
  fun next first => slashes next (List.mem_of_mem_head? first)

theorem below_cons (rest : List Char) : Below ('/' :: rest) := by
  rintro next ⟨⟩
  rfl

/-- What stands behind a slash does not belong to a start without slashes. -/
theorem behind?_append_iff {expected front back rest : List Char} (apart : '/' ∉ expected)
    (below : Below back) : behind? expected (front ++ back) = some rest ↔
      ∃ start, behind? expected front = some start ∧ rest = start ++ back := by
  induction expected generalizing front with
  | nil => simp [behind?, eq_comm]
  | cons first more ih =>
    rw [List.mem_cons, not_or] at apart
    cases front with
    | nil =>
      cases back with
      | nil => simp [behind?]
      | cons next back =>
        obtain rfl := below next rfl
        simp [behind?, Ne.symm apart.1]
    | cons char front =>
      rw [List.cons_append, behind?, behind?]
      split
      · exact ih apart.2
      · simp

theorem place?_append [AddressRules] {scheme : Scheme} {start back : List Char} (below : Below back) :
    place? scheme (start ++ back) = place? scheme start := by
  have same : (start ++ back).takeWhile (!endsAuthority ·) = start.takeWhile (!endsAuthority ·) := by
    rw [List.takeWhile_append]
    split
    · next whole =>
      rw [(List.takeWhile_prefix _).eq_of_length whole]
      cases back with
      | nil => rw [List.takeWhile_nil, List.append_nil]
      | cons next back =>
        obtain rfl := below next rfl
        rw [List.takeWhile_cons_of_neg (by decide), List.append_nil]
    · rfl
  rw [place?, same, place?]

/-- Where nothing is behind the slashes at the front, there is no host. -/
theorem place?_nil [AddressRules] (scheme : Scheme) : place? scheme [] = none := rfl

theorem slash_not_mem_start (scheme : Scheme) : '/' ∉ scheme.start := by
  cases scheme with
  | http => decide
  | https => decide

theorem behindScheme?_ofList_eq_some_iff {chars start : List Char} {scheme : Scheme} :
    behindScheme? (String.ofList chars) = some (scheme, start) ↔
      ∃ rest, behind? scheme.start (strip chars) = some rest ∧ rest.dropWhile isSlash = start := by
  have same : (String.ofList chars).toList = chars := String.toList_ofList
  rw [behindScheme?, same, Option.map_eq_some_iff]
  constructor
  · rintro ⟨⟨_, rest⟩, starts, same⟩
    obtain ⟨rfl, rfl⟩ := Prod.mk.inj same
    exact ⟨rest, scheme?_eq_some_iff.mp starts, rfl⟩
  · rintro ⟨rest, behind, rfl⟩
    exact ⟨(scheme, rest), scheme?_eq_some_iff.mpr behind, rfl⟩

/-- Slashes alone are no address. -/
theorem solid_of_behind? {scheme : Scheme} {front slashes rest : List Char}
    (all : ∀ char ∈ slashes, char = '/')
    (ending : ∀ last ∈ (front ++ slashes).getLast?, isOuter last = false)
    (behind : behind? scheme.start (strip (front ++ slashes)) = some rest) :
    front.dropWhile isOuter ≠ [] := by
  intro empty
  have stripped : strip (front ++ slashes) = [] ++ (slashes.dropWhile isOuter).filter isInner := by
    rw [strip_of_ending ending, List.dropWhile_append, if_pos (by simpa using empty), List.nil_append]
  have below : Below ((slashes.dropWhile isOuter).filter isInner) := below_of_forall fun char member =>
    all char ((List.dropWhile_suffix _).subset (List.mem_filter.mp member).1)
  rw [stripped, behind?_append_iff (slash_not_mem_start scheme) below] at behind
  obtain ⟨start, impossible, -⟩ := behind
  cases scheme <;> cases impossible

/-- What an address starts with decides its scheme, its host and its port, whatever is written below it. -/
theorem exists_parse?_below [AddressRules] {front slashes : List Char} {url : Url}
    (all : ∀ char ∈ slashes, char = '/')
    (ending : ∀ last ∈ (front ++ slashes).getLast?, isOuter last = false)
    (read : parse? (String.ofList (front ++ slashes)) = some url) (below : List Char)
    (lower : ∀ last ∈ ('/' :: below).getLast?, isOuter last = false) :
    ∃ other, parse? (String.ofList (front ++ '/' :: below)) = some other ∧
      other.scheme = url.scheme ∧ other.host = url.host ∧ other.port = url.port := by
  obtain ⟨start, starts, place, -, -⟩ := parse?_eq_some_iff.mp read
  obtain ⟨rest, behind, rfl⟩ := behindScheme?_ofList_eq_some_iff.mp starts
  have apart := slash_not_mem_start url.scheme
  have solid := solid_of_behind? all ending behind
  have level : Below (slashes.filter isInner) :=
    below_of_forall fun char member => all char (List.mem_filter.mp member).1
  rw [strip_append solid ending, behind?_append_iff apart level] at behind
  obtain ⟨inner, found, rfl⟩ := behind
  have named : inner.dropWhile isSlash ≠ [] := by
    intro empty
    have nothing : (slashes.filter isInner).dropWhile isSlash = [] := by
      rw [List.dropWhile_eq_nil_iff]
      intro char member
      rw [all char (List.mem_filter.mp member).1]
      decide
    rw [List.dropWhile_append, if_pos (by simpa using empty), nothing, place?_nil] at place
    cases place
  rw [List.dropWhile_append, if_neg (by simpa using named), place?_append level] at place
  have further : Below (('/' :: below).filter isInner) := below_cons (below.filter isInner)
  have closes : ∀ last ∈ (front ++ '/' :: below).getLast?, isOuter last = false := by
    simpa only [List.getLast?_append, List.getLast?_cons, Option.some_or] using lower
  have again : behindScheme? (String.ofList (front ++ '/' :: below)) =
      some (url.scheme, inner.dropWhile isSlash ++ ('/' :: below).filter isInner) := by
    refine behindScheme?_ofList_eq_some_iff.mpr ⟨inner ++ ('/' :: below).filter isInner, ?_, ?_⟩
    · rw [strip_append solid closes, behind?_append_iff apart further]
      exact ⟨inner, found, rfl⟩
    · rw [List.dropWhile_append, if_neg (by simpa using named)]
  rw [← place?_append further] at place
  exact exists_parse?_of_place? again place

end Url

end TabletopBot.Http
