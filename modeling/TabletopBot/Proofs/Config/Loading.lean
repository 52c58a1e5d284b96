import TabletopBot.Proofs.Config.Parts
import TabletopBot.Proofs.Config.Variables

/-! # How settings are put together

Every setting is taken from the last variable that gives it, else from the document, else it has its
default, and each one for itself: `load_of_layers`. This takes tables where sections belong, since
anything else there replaces all that lies below it.
-/

namespace TabletopBot.Config

def Value.isTable : Value → Bool
  | .table _ => true
  | _ => false

theorem Value.exists_of_isTable {value : Value} (table : value.isTable = true) :
    ∃ entries, value = .table entries := by
  rcases value.table_or_other with found | other
  · exact found
  · cases value with
    | table entries => exact absurd rfl (other entries)
    | _ => cases table

end TabletopBot.Config

namespace TabletopBot.Settings

open Config (Entries Value)
open Config.Value (Opens at? readAt?)
open Config.Environment (AllOpen given? layer? path? value)

/-- A setting that can be given by itself: the path of its key, what its values are read as, and its
place among all settings. -/
structure Key where
  path : List String
  type : Type
  equal : DecidableEq type
  read? : Value → Option type
  get : Settings → type

def Part.within {σ : Type} (part : Part σ) (path : List String) (get : Settings → σ) : Key :=
  ⟨path ++ [part.key], part.type, part.equal, part.read?, fun settings => part.get (get settings)⟩

def sections : List String := ["chat", "notify", "songs", "wiki"]

def groups : List (List Key) := [
  [addressPart.within [] id],
  chatParts.map (·.within ["chat"] (·.chat)),
  notifyParts.map (·.within ["notify"] (·.notify)),
  [directoryPart.within [] id],
  songParts.map (·.within ["songs"] (·.songs)),
  wikiParts.map (·.within ["wiki"] (·.wiki))]

def keys : List Key := groups.flatten

example : keys.map (·.path) = [["bind_addr"], ["chat", "api_key"], ["chat", "base_url"],
    ["chat", "model"], ["notify", "channel_id"], ["notify", "webhook_url"], ["resources_dir"],
    ["songs", "fallback"], ["songs", "link_base"], ["wiki", "api_id"], ["wiki", "api_key"],
    ["wiki", "base_url"], ["wiki", "page_size"]] := by rfl

/-- A setting has the value that was found for its key, or its default where none was found. A value of
another type or out of range is found, but no setting has it. -/
def Key.Takes (key : Key) (found : Option (Option key.type)) (settings : Settings) : Prop :=
  match found with
  | some taken => taken = some (key.get settings)
  | none => key.get settings = key.get {}

instance (key : Key) (found : Option (Option key.type)) (settings : Settings) :
    Decidable (key.Takes found settings) :=
  match found with
  | some _ => have := key.equal; inferInstanceAs (Decidable (_ = _))
  | none => key.equal _ _

/-- What is found for a key: what the last variable gives that gives anything, else what the document
has. -/
def found? (entries : Entries) (environment : List (String × String)) (key : Key) :
    Option (Option key.type) :=
  (given? key.read? key.path environment).or (readAt? key.read? key.path (.table entries))

/-- Where a section belongs, the document and the variables have nothing but tables. -/
structure Sectioned (entries : Entries) (environment : List (String × String)) : Prop where
  document : ∀ name ∈ sections, (entries.lookup name).all Value.isTable = true
  environment : ∀ name ∈ sections, ∀ entry ∈ environment, path? entry.1 = some [name] →
    (value entry.2).isTable = true

section

variable {entries : Entries}

theorem readAt?_cons {α : Type} (read? : Value → Option α) (key : String) (path : List String) :
    readAt? read? (key :: path) (.table entries) = (entries.lookup key).bind (readAt? read? path) := by
  rw [readAt?, at?]
  cases entries.lookup key <;> rfl

theorem readAt?_single {α : Type} (read? : Value → Option α) (key : String) :
    readAt? read? [key] (.table entries) = (entries.lookup key).map read? := by
  rw [readAt?_cons]
  cases entries.lookup key <;> rfl

theorem within_takes_iff {σ : Type} (part : Part σ) (path : List String) (get : Settings → σ)
    (found : Option (Option part.type)) (settings : Settings) :
    (part.within path get).Takes found settings ↔ part.Takes found (get {}) (get settings) := by
  cases found <;> rfl

/-- What is found for the key of a part inside a section. -/
theorem readAt?_within {σ : Type} (part : Part σ) (name : String) (get : Settings → σ) :
    readAt? (part.within [name] get).read? (part.within [name] get).path (.table entries) =
      (entries.lookup name).bind (readAt? part.read? [part.key]) :=
  readAt?_cons part.read? name [part.key]

/-- A setting outside of sections is taken exactly when its key is. -/
theorem single_takes_iff (part : Part Settings) (settings : Settings) :
    part.Takes ((entries.lookup part.key).map part.read?) {} settings ↔ ∀ key ∈ [part.within [] id],
      key.Takes (readAt? key.read? key.path (.table entries)) settings := by
  rw [List.forall_mem_singleton, ← readAt?_single]
  exact (within_takes_iff part [] id _ settings).symm

section

variable {σ : Type} [DecidableEq σ] {name : String} {fields : List (Field σ)} {parts : List (Part σ)}
  {get : Settings → σ} {set : σ → Settings → Settings}
  {get_set : ∀ value current, get (set value current) = value}

/-- A section is taken as a whole exactly when each of its keys is. -/
theorem section_takes_iff (covers : Covers [name] fields parts)
    (table : (entries.lookup name).all Value.isTable = true) (settings : Settings) :
    (sectionPart name fields get set get_set).Takes
        ((entries.lookup name).map (sectionPart name fields get set get_set).read?) {} settings ↔
      ∀ key ∈ parts.map (·.within [name] get),
        key.Takes (readAt? key.read? key.path (.table entries)) settings := by
  rw [List.forall_mem_map]
  simp only [readAt?_within]
  cases given : entries.lookup name with
  | none => exact ⟨fun same part _ => congrArg part.get same, covers.whole _ _⟩
  | some value =>
    rw [given] at table
    obtain ⟨inner, rfl⟩ := Value.exists_of_isTable table
    simp only [Option.bind_some, readAt?_single]
    change (readEntries fields [name] inner (get {})).toOption = some (get settings) ↔ _
    rw [toOption_eq_some_iff, readEntries_eq_ok_iff covers]
    exact forall₂_congr fun part _ => (within_takes_iff part ..).symm

/-- A section can be read exactly when each of its keys can. -/
theorem section_readable_iff (covers : Covers [name] fields parts)
    (table : (entries.lookup name).all Value.isTable = true) :
    (entries.lookup name).map (sectionPart name fields get set get_set).read? ≠ some none ↔
      ∀ key ∈ parts.map (·.within [name] get),
        readAt? key.read? key.path (.table entries) ≠ some none := by
  rw [List.forall_mem_map]
  simp only [readAt?_within]
  cases given : entries.lookup name with
  | none => exact iff_of_true nofun fun _ _ => nofun
  | some value =>
    rw [given] at table
    obtain ⟨inner, rfl⟩ := Value.exists_of_isTable table
    simp only [Option.bind_some, readAt?_single, Option.map_some]
    change some (readEntries fields [name] inner (get {})).toOption ≠ some none ↔ _
    rw [ne_eq, Option.some_inj]
    refine Iff.trans ?_ (@exists_readEntries_iff σ [name] fields parts inner (get {}) covers)
    cases readEntries fields [name] inner (get {}) with
    | error fault => exact iff_of_false (· rfl) nofun
    | ok result => exact iff_of_true nofun ⟨result, rfl⟩

end

theorem forall_mem_flatten_iff {α β : Type*} {items : List α} {groups : List (List β)}
    {holds : α → Prop} {each : β → Prop}
    (alike : List.Forall₂ (fun item group => holds item ↔ ∀ member ∈ group, each member) items groups) :
    (∀ item ∈ items, holds item) ↔ ∀ member ∈ groups.flatten, each member := by
  induction alike with
  | nil => simp
  | cons same rest ih => rw [List.forall_mem_cons, List.flatten_cons, List.forall_mem_append, same, ih]

variable (tables : ∀ name ∈ sections, (entries.lookup name).all Value.isTable = true)
include tables

/-- The settings of a tree are the ones that take what is found for every key. -/
theorem ofEntries_eq_ok_iff (settings : Settings) : ofEntries entries = .ok settings ↔
    ∀ key ∈ keys, key.Takes (readAt? key.read? key.path (.table entries)) settings := by
  rw [ofEntries, readEntries_eq_ok_iff settings_covers]
  refine forall_mem_flatten_iff (.cons (single_takes_iff ..) (.cons ?_ (.cons ?_
    (.cons (single_takes_iff ..) (.cons ?_ (.cons ?_ .nil))))))
  · exact section_takes_iff (chat_covers _) (tables "chat" (by decide)) settings
  · exact section_takes_iff (notify_covers _) (tables "notify" (by decide)) settings
  · exact section_takes_iff (song_covers _) (tables "songs" (by decide)) settings
  · exact section_takes_iff (wiki_covers _) (tables "wiki" (by decide)) settings

/-- A tree can be read as settings exactly when what is found for every key can. -/
theorem exists_ofEntries_iff : (∃ settings, ofEntries entries = .ok settings) ↔
    ∀ key ∈ keys, readAt? key.read? key.path (.table entries) ≠ some none := by
  have single (part : Part Settings) : (entries.lookup part.key).map part.read? ≠ some none ↔
      ∀ key ∈ [part.within [] id], readAt? key.read? key.path (.table entries) ≠ some none := by
    rw [List.forall_mem_singleton, ← readAt?_single]
    rfl
  refine (exists_readEntries_iff settings_covers).trans ?_
  refine forall_mem_flatten_iff (.cons (single _) (.cons ?_ (.cons ?_
    (.cons (single _) (.cons ?_ (.cons ?_ .nil))))))
  · exact section_readable_iff (chat_covers _) (tables "chat" (by decide))
  · exact section_readable_iff (notify_covers _) (tables "notify" (by decide))
  · exact section_readable_iff (song_covers _) (tables "songs" (by decide))
  · exact section_readable_iff (wiki_covers _) (tables "wiki" (by decide))

end

/-- No setting is a table. -/
theorem read?_table {key : Key} (member : key ∈ keys) (inner : Entries) :
    key.read? (.table inner) = none := by
  revert key
  simp [keys, groups, chatParts, notifyParts, songParts, wikiParts, addressPart, directoryPart,
    Part.within, text?, natBelow?, address?]

/-- A key stands outside of the sections or right inside one. -/
theorem path_cases {key : Key} (member : key ∈ keys) :
    (∃ last, key.path = [last]) ∨ ∃ name ∈ sections, ∃ last, key.path = [name, last] := by
  revert key
  simp [keys, groups, chatParts, notifyParts, songParts, wikiParts, addressPart, directoryPart,
    Part.within, sections]

section

variable {environment : List (String × String)}

theorem opens_single (last : String) : AllOpen [last] environment := by
  intro entry _ layer given
  obtain ⟨keys, named, rfl⟩ := Option.map_eq_some_iff.1 given
  obtain ⟨key, keys, rfl⟩ := List.exists_cons_of_ne_nil (Config.Environment.path?_ne_nil named)
  exact ⟨_, rfl, fun _ _ => trivial⟩

/-- A variable has a table, if anything, where a section belongs. -/
theorem opens_within {name : String} (tables : ∀ entry ∈ environment, path? entry.1 = some [name] →
    (value entry.2).isTable = true) (last : String) : AllOpen [name, last] environment := by
  intro entry member layer given
  obtain ⟨keys, named, rfl⟩ := Option.map_eq_some_iff.1 given
  obtain ⟨key, keys, rfl⟩ := List.exists_cons_of_ne_nil (Config.Environment.path?_ne_nil named)
  refine ⟨_, rfl, fun next found => ?_⟩
  rw [List.lookup_cons] at found
  split at found
  · next same =>
    cases found
    cases keys with
    | nil =>
      rw [← beq_iff_eq.1 same] at named
      obtain ⟨inner, table⟩ := Value.exists_of_isTable (tables entry member named)
      exact ⟨inner, table, fun _ _ => trivial⟩
    | cons => exact ⟨_, rfl, fun _ _ => trivial⟩
  · cases found

variable {entries : Entries} (sectioned : Sectioned entries environment)
include sectioned

theorem opens_of_sectioned {key : Key} (member : key ∈ keys) : AllOpen key.path environment := by
  rcases path_cases member with ⟨last, path⟩ | ⟨name, among, last, path⟩
  · rw [path]
    exact opens_single last
  · rw [path]
    exact opens_within (sectioned.environment name among) last

/-- Merged layers have nothing but tables where sections belong. -/
theorem tables_of_sectioned {name : String} (among : name ∈ sections) :
    ((Value.mergeEntries entries (Config.Environment.settings environment)).lookup name).all
      Value.isTable = true := by
  have below := sectioned.document name among
  rw [Value.lookup_mergeEntries (Config.Environment.neat_settings environment).nodup]
  obtain ⟨_, same, inner⟩ := Config.Environment.opens_settings
    (opens_within (sectioned.environment name among) "")
  cases same
  cases above : (Config.Environment.settings environment).lookup name with
  | none => exact below
  | some upper =>
    obtain ⟨table, rfl, -⟩ := inner upper above
    cases entries.lookup name with
    | none => rfl
    | some lower =>
      change (Value.merge lower (.table table)).isTable = true
      rcases lower.table_or_other with ⟨present, rfl⟩ | other
      · rw [Value.merge_table]
        rfl
      · rw [Value.merge_over_other other]
        rfl

/-- What merged layers have for a key is what is found for it. -/
theorem readAt?_layers {key : Key} (member : key ∈ keys) :
    readAt? key.read? key.path
        (.table (Value.mergeEntries entries (Config.Environment.settings environment))) =
      found? entries environment key := by
  have opens := opens_of_sectioned sectioned member
  have scalar := read?_table member
  rw [← Value.merge_table, Value.readAt?_merge scalar (Config.Environment.neat_settings environment)
    (Config.Environment.opens_settings opens), found?]
  rcases path_cases member with ⟨last, path⟩ | ⟨name, -, last, path⟩
  · rw [path] at opens ⊢
    rw [Config.Environment.readAt?_settings scalar opens]
  · rw [path] at opens ⊢
    rw [Config.Environment.readAt?_settings scalar opens]

variable {document : Option (List UInt8)} (read : document.elim (some []) document? = some entries)
include read

theorem load_eq_ok_iff (settings : Settings) : load document environment = .ok settings ↔
    ∀ key ∈ keys, key.Takes (found? entries environment key) settings := by
  rw [load, read]
  refine (ofEntries_eq_ok_iff (fun name among => tables_of_sectioned sectioned among) settings).trans ?_
  exact forall₂_congr fun key member => by rw [readAt?_layers sectioned member]

theorem exists_load_iff : (∃ settings, load document environment = .ok settings) ↔
    ∀ key ∈ keys, found? entries environment key ≠ some none := by
  rw [load, read]
  refine (exists_ofEntries_iff fun name among => tables_of_sectioned sectioned among).trans ?_
  exact forall₂_congr fun key member => by rw [readAt?_layers sectioned member]

end

/-- Loading succeeds exactly when every value that is found for a key has its type and range, and every
setting is then what was found for its key, or its default where nothing was. A variable whose path goes
elsewhere makes no difference to a key, documents that have the same for all keys give the same settings,
and no document is as good as an empty one. -/
theorem load_of_layers {document : Option (List UInt8)} {entries : Entries}
    (read : document.elim (some []) document? = some entries) {environment : List (String × String)}
    (sectioned : Sectioned entries environment) :
    (∀ settings, load document environment = .ok settings ↔
      ∀ key ∈ keys, key.Takes (found? entries environment key) settings) ∧
    ((∃ settings, load document environment = .ok settings) ↔
      ∀ key ∈ keys, found? entries environment key ≠ some none) ∧
    (∀ key before entry behind, environment = before ++ entry :: behind →
      (∀ path, path? entry.1 = some path → ¬ path <+: key.path ∧ ¬ key.path <+: path) →
      found? entries environment key = found? entries (before ++ behind) key) ∧
    (∀ other others, other.elim (some []) document? = some others → Sectioned others environment →
      (∀ key ∈ keys, readAt? key.read? key.path (.table others) =
        readAt? key.read? key.path (.table entries)) →
      (load other environment).toOption = (load document environment).toOption) ∧
    load none environment = load (some []) environment := by
  refine ⟨load_eq_ok_iff sectioned read, exists_load_iff sectioned read, ?_, ?_, ?_⟩
  · rintro key before entry behind rfl apart
    rw [found?, found?, Config.Environment.given?_of_apart apart]
  · intro other others also sectionedToo same
    refine Option.ext fun settings => ?_
    rw [toOption_eq_some_iff, toOption_eq_some_iff, load_eq_ok_iff sectionedToo also,
      load_eq_ok_iff sectioned read]
    exact forall₂_congr fun key member => by rw [found?, found?, same key member]
  · have empty : document? [] = some [] := by rfl
    rw [load, load, Option.elim, Option.elim, empty]

theorem load_of_layers_songs :
    let document := Text.Utf8.encode "[songs]\nlink_base = \"https://music.example/t/\"\n".toList
    let environment := [("BOREDBOT_SONGS__FALLBACK", "house-track")]
    load (some document) environment =
      .ok { songs := { linkBase := "https://music.example/t/", fallback := "house-track" } } := by
  intro document environment
  have valid : (document? document).isSome = true := by decide +kernel
  have read : (some document).elim (some []) document? = some ((document? document).getD []) := by
    rw [Option.elim_some, ← Option.get_eq_getD (h := valid), Option.some_get]
  have sectioned : Sectioned ((document? document).getD []) environment :=
    ⟨by decide +kernel, by decide +kernel⟩
  exact ((load_of_layers read sectioned).1 _).2 (by decide +kernel)

/-- A list where a section belongs takes away what the document has in that section, although it gives
no setting, and a variable whose path goes on below a setting makes loading fail. -/
theorem load_list_and_path_below :
    let document := Text.Utf8.encode "[wiki]\nbase_url = \"http://wiki.example/api\"\n".toList
    load (some document) [] = .ok { wiki := { baseUrl := "http://wiki.example/api" } } ∧
      (∀ key ∈ keys, (given? key.read? key.path [("BOREDBOT_WIKI", "[]")]).isNone = true) ∧
      load (some document) [("BOREDBOT_WIKI", "[]")] = .ok {} ∧
      load none [] = .ok {} ∧
      (load none [("BOREDBOT_BIND_ADDR__X", "1")]).toOption = none :=
  ⟨eq_ok_of_toOption (by decide +kernel), by decide +kernel, eq_ok_of_toOption (by decide +kernel),
    eq_ok_of_toOption (by decide +kernel), by decide +kernel⟩

end TabletopBot.Settings
