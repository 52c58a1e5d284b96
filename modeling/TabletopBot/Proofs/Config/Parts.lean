import Mathlib.Data.List.Forall2
import TabletopBot.Config.Settings
import TabletopBot.Proofs.Checks

/-! # The parts of a section

A section is read field by field, and each field puts what it reads into its own part of the section.
`Covers` says that the parts are apart from each other and all there is; then a section is read exactly
to the one whose parts are as they were found, in whatever order: `readEntries_eq_ok_iff`.
-/

namespace TabletopBot.Settings

open Config (Entries Value)

/-- One setting of a section: its key, what its values are read as, and its place in the section. -/
structure Part (σ : Type) where
  key : String
  type : Type
  equal : DecidableEq type
  read? : Value → Option type
  get : σ → type
  set : type → σ → σ
  get_set : ∀ value current, get (set value current) = value

variable {σ : Type}

/-- A part has the value that was found for it, or the one from the start where none was found. -/
def Part.Takes (part : Part σ) (found : Option (Option part.type)) (start result : σ) : Prop :=
  match found with
  | some taken => taken = some (part.get result)
  | none => part.get result = part.get start

theorem Part.Takes.of_start {part : Part σ} {found : Option (Option part.type)} {start other result : σ}
    (takes : part.Takes found start result) (same : part.get start = part.get other) :
    part.Takes found other result := by
  cases found with
  | none => exact Eq.trans takes same
  | some taken => exact takes

theorem Part.Takes.unique {part : Part σ} {found : Option (Option part.type)} {start first second : σ}
    (takes : part.Takes found start first) (also : part.Takes found start second) :
    part.get first = part.get second := by
  cases found with
  | none => exact Eq.trans takes (Eq.symm also)
  | some taken => exact Option.some.inj (Eq.trans (Eq.symm takes) also)

/-- A field reads its part of the section and leaves the others alone. -/
structure Reads (path : List String) (field : Field σ) (part : Part σ) : Prop where
  key : field.key = part.key
  read : ∀ value current result, field.read (path ++ [field.key]) value current = .ok result ↔
    ∃ taken, part.read? value = some taken ∧ result = part.set taken current

/-- Setting one part does not change the other. -/
def Apart (part other : Part σ) : Prop :=
  (∀ value current, part.get (other.set value current) = part.get current) ∧
    ∀ value current, other.get (part.set value current) = other.get current

theorem Apart.symm {part other : Part σ} (apart : Apart part other) : Apart other part :=
  ⟨apart.2, apart.1⟩

/-- The parts are all there is to a section, and its fields read them. -/
structure Covers (path : List String) (fields : List (Field σ)) (parts : List (Part σ)) : Prop where
  reads : List.Forall₂ (Reads path) fields parts
  apart : parts.Pairwise Apart
  whole : ∀ first second, (∀ part ∈ parts, part.get first = part.get second) → first = second

section

variable {path : List String} {fields : List (Field σ)} {parts : List (Part σ)} {entries : Entries}
  {start result : σ}

/-- One step of reading: what is found is put into its place, or all stays. -/
theorem Reads.step {field : Field σ} {part : Part σ} (reads : Reads path field part) {next : σ} :
    (match entries.lookup field.key with
      | some value => field.read (path ++ [field.key]) value start
      | none => .ok start) = Except.ok next ↔
      match (entries.lookup part.key).map part.read? with
      | some taken => ∃ value, taken = some value ∧ next = part.set value start
      | none => next = start := by
  rw [← reads.key]
  cases entries.lookup field.key with
  | none => exact ⟨fun same => by cases same; rfl, fun same => by rw [same]⟩
  | some value => exact reads.read value start next

/-- After one step the part is as it was found, and what is apart from it is as before. -/
theorem Reads.takes {field : Field σ} {part : Part σ} (reads : Reads path field part) {next : σ}
    (read : (match entries.lookup field.key with
      | some value => field.read (path ++ [field.key]) value start
      | none => .ok start) = Except.ok next) :
    part.Takes ((entries.lookup part.key).map part.read?) start next ∧
      ∀ other, Apart part other → other.get next = other.get start := by
  have step := reads.step.1 read
  unfold Part.Takes
  split at step
  · obtain ⟨value, taken, rfl⟩ := step
    exact ⟨by rw [taken, part.get_set], fun other apart => apart.2 value start⟩
  · rw [step]
    exact ⟨rfl, fun _ _ => rfl⟩

/-- Reading takes every part as it was found, and changes nothing that is apart from all of them. -/
theorem takes_of_readEntries (reads : List.Forall₂ (Reads path) fields parts)
    (apart : parts.Pairwise Apart) (read : readEntries fields path entries start = .ok result) :
    (∀ part ∈ parts, part.Takes ((entries.lookup part.key).map part.read?) start result) ∧
      ∀ other, (∀ part ∈ parts, Apart part other) → other.get result = other.get start := by
  induction reads generalizing start with
  | nil =>
    cases read
    exact ⟨nofun, fun _ _ => rfl⟩
  | @cons field part fields parts reads rest ih =>
    obtain ⟨others, apart⟩ := List.pairwise_cons.1 apart
    obtain ⟨next, first, read⟩ := bind_eq_ok_iff.1 read
    obtain ⟨takes, keeps⟩ := reads.takes first
    obtain ⟨later, kept⟩ := ih apart read
    refine ⟨List.forall_mem_cons.2 ⟨?_, fun other member => ?_⟩, fun other apart => ?_⟩
    · have same : part.get result = part.get next :=
        kept part fun other member => (others other member).symm
      unfold Part.Takes at takes ⊢
      rw [same]
      exact takes
    · exact (later other member).of_start (keeps other (others other member))
    · obtain ⟨here, behind⟩ := List.forall_mem_cons.1 apart
      exact (kept other behind).trans (keeps other here)

theorem exists_readEntries (reads : List.Forall₂ (Reads path) fields parts)
    (readable : ∀ part ∈ parts, (entries.lookup part.key).map part.read? ≠ some none) :
    ∃ result, readEntries fields path entries start = .ok result := by
  induction reads generalizing start with
  | nil => exact ⟨start, rfl⟩
  | @cons field part fields parts reads rest ih =>
    obtain ⟨first, readable⟩ := List.forall_mem_cons.1 readable
    have steps (next : σ) := @Reads.step _ _ entries start field part reads next
    cases found : (entries.lookup part.key).map part.read? with
    | none =>
      rw [found] at steps
      obtain ⟨result, read⟩ := @ih start readable
      exact ⟨result, bind_eq_ok_iff.2 ⟨start, (steps start).2 rfl, read⟩⟩
    | some taken =>
      rw [found] at steps
      cases taken with
      | none => exact absurd found first
      | some value =>
        obtain ⟨result, read⟩ := @ih (part.set value start) readable
        exact ⟨result, bind_eq_ok_iff.2 ⟨_, (steps _).2 ⟨value, rfl, rfl⟩, read⟩⟩

variable (covers : Covers path fields parts)
include covers

/-- A section is read to the one whose parts are as they were found. -/
theorem readEntries_eq_ok_iff : readEntries fields path entries start = .ok result ↔
    ∀ part ∈ parts, part.Takes ((entries.lookup part.key).map part.read?) start result := by
  constructor
  · exact fun read => (takes_of_readEntries covers.reads covers.apart read).1
  · intro takes
    have readable : ∀ part ∈ parts, (entries.lookup part.key).map part.read? ≠ some none := by
      intro part member missing
      have taken := takes part member
      rw [missing] at taken
      cases taken
    obtain ⟨other, read⟩ := @exists_readEntries _ _ _ _ entries start covers.reads readable
    have same : other = result := by
      refine covers.whole _ _ fun part member => ?_
      have taken := (takes_of_readEntries covers.reads covers.apart read).1 part member
      exact taken.unique (takes part member)
    rw [← same]
    exact read

theorem exists_readEntries_iff : (∃ result, readEntries fields path entries start = .ok result) ↔
    ∀ part ∈ parts, (entries.lookup part.key).map part.read? ≠ some none := by
  refine ⟨?_, exists_readEntries covers.reads⟩
  rintro ⟨result, read⟩ part member missing
  have taken := (readEntries_eq_ok_iff covers).1 read part member
  rw [missing] at taken
  cases taken

end

def text? : Value → Option String
  | .text value => some value
  | _ => none

def natBelow? (limit : Nat) : Value → Option Nat
  | .integer value => if 0 ≤ value ∧ value < limit then some value.toNat else none
  | _ => none

def address? (value : Value) : Option Config.SocketAddress :=
  (text? value).bind Config.SocketAddress.parse?

theorem text_eq_ok_iff {path : List String} {value : Value} {taken : String} :
    text path value = .ok taken ↔ text? value = some taken := by
  cases value <;> simp [text, text?]

theorem natBelow_eq_ok_iff {limit : Nat} {path : List String} {value : Value} {taken : Nat} :
    natBelow limit path value = .ok taken ↔ natBelow? limit value = some taken := by
  cases value with
  | integer value =>
    rw [natBelow, natBelow?]
    split <;> simp
  | _ => simp [natBelow, natBelow?]

theorem address_eq_ok_iff {path : List String} {value : Value} {taken : Config.SocketAddress} :
    address path value = .ok taken ↔ address? value = some taken := by
  rw [address, address?, bind_eq_ok_iff, Option.bind_eq_some_iff]
  refine exists_congr fun shown => and_congr text_eq_ok_iff ?_
  cases Config.SocketAddress.parse? shown <;> simp

theorem toOption_eq_some_iff {ε α : Type} {outcome : Except ε α} {value : α} :
    outcome.toOption = some value ↔ outcome = .ok value :=
  ⟨eq_ok_of_toOption, fun same => by rw [same]; rfl⟩

/-- A field that reads a value and puts it into its place reads its part. -/
theorem Reads.of_reader {path : List String} {field : Field σ} {part : Part σ}
    (reader : Value → Except SettingsFault part.type) (key : field.key = part.key)
    (agree : ∀ value taken, reader value = .ok taken ↔ part.read? value = some taken)
    (shape : ∀ value current, field.read (path ++ [field.key]) value current =
      (do .ok (part.set (← reader value) current))) : Reads path field part where
  key := key
  read value current result := by
    rw [shape, bind_eq_ok_iff]
    refine exists_congr fun taken => and_congr (agree value taken) ?_
    exact ⟨fun same => (Except.ok.inj same).symm, fun same => congrArg Except.ok same.symm⟩

def wikiParts : List (Part WikiSettings) := [
  ⟨"api_id", String, inferInstance, text?, (·.apiId),
    fun value current => { current with apiId := value }, fun _ _ => rfl⟩,
  ⟨"api_key", String, inferInstance, text?, (·.apiKey),
    fun value current => { current with apiKey := value }, fun _ _ => rfl⟩,
  ⟨"base_url", String, inferInstance, text?, (·.baseUrl),
    fun value current => { current with baseUrl := value }, fun _ _ => rfl⟩,
  ⟨"page_size", Nat, inferInstance, natBelow? UInt32.size, (·.pageSize),
    fun value current => { current with pageSize := value }, fun _ _ => rfl⟩]

def chatParts : List (Part ChatSettings) := [
  ⟨"api_key", Option String, inferInstance, fun value => (text? value).map some, (·.apiKey),
    fun value current => { current with apiKey := value }, fun _ _ => rfl⟩,
  ⟨"base_url", String, inferInstance, text?, (·.baseUrl),
    fun value current => { current with baseUrl := value }, fun _ _ => rfl⟩,
  ⟨"model", String, inferInstance, text?, (·.model),
    fun value current => { current with model := value }, fun _ _ => rfl⟩]

def notifyParts : List (Part NotifySettings) := [
  ⟨"channel_id", Nat, inferInstance, natBelow? UInt64.size, (·.channelId),
    fun value current => { current with channelId := value }, fun _ _ => rfl⟩,
  ⟨"webhook_url", Option String, inferInstance, fun value => (text? value).map some, (·.webhookUrl),
    fun value current => { current with webhookUrl := value }, fun _ _ => rfl⟩]

def songParts : List (Part SongSettings) := [
  ⟨"fallback", String, inferInstance, text?, (·.fallback),
    fun value current => { current with fallback := value }, fun _ _ => rfl⟩,
  ⟨"link_base", String, inferInstance, text?, (·.linkBase),
    fun value current => { current with linkBase := value }, fun _ _ => rfl⟩]

theorem some_text_eq_ok_iff {path : List String} {value : Value} {taken : Option String} :
    some <$> text path value = .ok taken ↔ (text? value).map some = some taken := by
  cases value <;> simp [text, text?]

theorem wiki_covers (path : List String) : Covers path wikiFields wikiParts where
  reads := by
    refine .cons ?_ (.cons ?_ (.cons ?_ (.cons ?_ .nil)))
    · exact .of_reader (text _) rfl (fun _ _ => text_eq_ok_iff) fun _ _ => rfl
    · exact .of_reader (text _) rfl (fun _ _ => text_eq_ok_iff) fun _ _ => rfl
    · exact .of_reader (text _) rfl (fun _ _ => text_eq_ok_iff) fun _ _ => rfl
    · exact .of_reader (natBelow _ _) rfl (fun _ _ => natBelow_eq_ok_iff) fun _ _ => rfl
  apart := by simp [wikiParts, Apart]
  whole := by
    rintro ⟨⟩ ⟨⟩ same
    simp [wikiParts] at same
    simp [same]

theorem chat_covers (path : List String) : Covers path chatFields chatParts where
  reads := by
    refine .cons ?_ (.cons ?_ (.cons ?_ .nil))
    · refine .of_reader (fun value => some <$> text (path ++ ["api_key"]) value) rfl
        (fun _ _ => some_text_eq_ok_iff) ?_
      intro value current
      cases value <;> rfl
    · exact .of_reader (text _) rfl (fun _ _ => text_eq_ok_iff) fun _ _ => rfl
    · exact .of_reader (text _) rfl (fun _ _ => text_eq_ok_iff) fun _ _ => rfl
  apart := by simp [chatParts, Apart]
  whole := by
    rintro ⟨⟩ ⟨⟩ same
    simp [chatParts] at same
    simp [same]

theorem notify_covers (path : List String) : Covers path notifyFields notifyParts where
  reads := by
    refine .cons ?_ (.cons ?_ .nil)
    · exact .of_reader (natBelow _ _) rfl (fun _ _ => natBelow_eq_ok_iff) fun _ _ => rfl
    · refine .of_reader (fun value => some <$> text (path ++ ["webhook_url"]) value) rfl
        (fun _ _ => some_text_eq_ok_iff) ?_
      intro value current
      cases value <;> rfl
  apart := by simp [notifyParts, Apart]
  whole := by
    rintro ⟨⟩ ⟨⟩ same
    simp [notifyParts] at same
    simp [same]

theorem song_covers (path : List String) : Covers path songFields songParts where
  reads := by
    refine .cons ?_ (.cons ?_ .nil)
    · exact .of_reader (text _) rfl (fun _ _ => text_eq_ok_iff) fun _ _ => rfl
    · exact .of_reader (text _) rfl (fun _ _ => text_eq_ok_iff) fun _ _ => rfl
  apart := by simp [songParts, Apart]
  whole := by
    rintro ⟨⟩ ⟨⟩ same
    simp [songParts] at same
    simp [same]

def addressPart : Part Settings :=
  ⟨"bind_addr", Config.SocketAddress, inferInstance, address?, (·.bindAddress),
    fun value current => { current with bindAddress := value }, fun _ _ => rfl⟩

def directoryPart : Part Settings :=
  ⟨"resources_dir", String, inferInstance, text?, (·.resourcesDirectory),
    fun value current => { current with resourcesDirectory := value }, fun _ _ => rfl⟩

/-- A section as one part of all settings, read as a whole. -/
def sectionPart {σ : Type} [equal : DecidableEq σ] (name : String) (fields : List (Field σ))
    (get : Settings → σ) (set : σ → Settings → Settings)
    (get_set : ∀ value current, get (set value current) = value) : Part Settings :=
  ⟨name, σ, equal, fun value => (readSection fields (get {}) [name] value).toOption, get, set, get_set⟩

def chatPart : Part Settings :=
  sectionPart "chat" chatFields (·.chat) (fun value current => { current with chat := value })
    fun _ _ => rfl

def notifyPart : Part Settings :=
  sectionPart "notify" notifyFields (·.notify) (fun value current => { current with notify := value })
    fun _ _ => rfl

def songPart : Part Settings :=
  sectionPart "songs" songFields (·.songs) (fun value current => { current with songs := value })
    fun _ _ => rfl

def wikiPart : Part Settings :=
  sectionPart "wiki" wikiFields (·.wiki) (fun value current => { current with wiki := value })
    fun _ _ => rfl

def parts : List (Part Settings) :=
  [addressPart, chatPart, notifyPart, directoryPart, songPart, wikiPart]

theorem settings_covers : Covers [] fields parts where
  reads := by
    refine .cons ?_ (.cons ?_ (.cons ?_ (.cons ?_ (.cons ?_ (.cons ?_ .nil)))))
    · exact .of_reader (address _) rfl (fun _ _ => address_eq_ok_iff) fun _ _ => rfl
    · exact .of_reader (readSection chatFields {} _) rfl (fun _ _ => toOption_eq_some_iff.symm)
        fun _ _ => rfl
    · exact .of_reader (readSection notifyFields {} _) rfl (fun _ _ => toOption_eq_some_iff.symm)
        fun _ _ => rfl
    · exact .of_reader (text _) rfl (fun _ _ => text_eq_ok_iff) fun _ _ => rfl
    · exact .of_reader (readSection songFields {} _) rfl (fun _ _ => toOption_eq_some_iff.symm)
        fun _ _ => rfl
    · exact .of_reader (readSection wikiFields {} _) rfl (fun _ _ => toOption_eq_some_iff.symm)
        fun _ _ => rfl
  apart := by
    simp [parts, addressPart, directoryPart, chatPart, notifyPart, songPart, wikiPart, sectionPart, Apart]
  whole := by
    rintro ⟨⟩ ⟨⟩ same
    simp [parts, addressPart, directoryPart, chatPart, notifyPart, songPart, wikiPart,
      sectionPart] at same
    simp [same]

end TabletopBot.Settings
