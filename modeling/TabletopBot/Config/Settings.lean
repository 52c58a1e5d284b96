import TabletopBot.Config.Environment
import TabletopBot.Config.SocketAddress
import TabletopBot.Config.Toml.Reader
import TabletopBot.Resources.Tables
import TabletopBot.Text.Utf8

/-! # Settings

What can be configured, its defaults, and how it is read. The document is laid over the defaults and the
environment over the document. A section is a table; keys that no setting has are ignored, and of several
wrong values the one under the first key in byte order is reported. A section may also be given as the
list of its settings in the order declared.
-/

namespace TabletopBot

structure WikiSettings where
  baseUrl : String := "http://localhost/api"
  apiId : String := ""
  apiKey : String := ""
  /-- The most hits that one search shows. -/
  pageSize : Nat := 10
deriving DecidableEq, Repr

structure ChatSettings where
  baseUrl : String := "https://api.openai.com/v1"
  /-- Without a key the model is not asked. -/
  apiKey : Option String := none
  model : String := "gpt-4o-mini"
deriving DecidableEq, Repr

structure NotifySettings where
  /-- Without an address announcements are not sent. -/
  webhookUrl : Option String := none
  channelId : Nat := 0
deriving DecidableEq, Repr

structure Settings where
  bindAddress : Config.SocketAddress := .v4 [0, 0, 0, 0] 5000
  resourcesDirectory : String := "resources"
  wiki : WikiSettings := {}
  chat : ChatSettings := {}
  notify : NotifySettings := {}
  songs : SongSettings := {}
deriving DecidableEq, Repr

inductive SettingsFault where
  /-- The document is not valid. -/
  | invalidDocument
  /-- The text under this path is no socket address. -/
  | notAnAddress (path : List String)
  /-- The value under this path has another type than its setting. -/
  | wrongType (path : List String)
  /-- The number under this path is out of its setting's range. -/
  | outOfRange (path : List String)
deriving DecidableEq, Repr

/-- The path of keys under which the fault lies; empty where the whole document is at fault. -/
def SettingsFault.path : SettingsFault → List String
  | .invalidDocument => []
  | .notAnAddress path => path
  | .wrongType path => path
  | .outOfRange path => path

namespace Settings

open Config (Value Entries)

/-- One setting of a section: its key, its place where the section is given as a list, and how its value
is put into the section. -/
structure Field (σ : Type) where
  key : String
  place : Nat
  read : List String → Value → σ → Except SettingsFault σ

def text (path : List String) : Value → Except SettingsFault String
  | .text value => .ok value
  | _ => .error (.wrongType path)

def natBelow (limit : Nat) (path : List String) : Value → Except SettingsFault Nat
  | .integer value =>
    if 0 ≤ value ∧ value < limit then .ok value.toNat else .error (.outOfRange path)
  | _ => .error (.wrongType path)

def address (path : List String) (value : Value) : Except SettingsFault Config.SocketAddress := do
  match Config.SocketAddress.parse? (← text path value) with
  | some address => .ok address
  | none => .error (.notAnAddress path)

/-- Reads the settings of a table, by their keys. -/
def readEntries {σ : Type} (fields : List (Field σ)) (path : List String) (entries : Entries)
    (start : σ) : Except SettingsFault σ :=
  fields.foldlM
    (fun current field =>
      match entries.lookup field.key with
      | some value => field.read (path ++ [field.key]) value current
      | none => .ok current) start

/-- Reads the settings of a list, by their places. -/
def readItems {σ : Type} (fields : List (Field σ)) (path : List String) (items : List Value)
    (start : σ) : Except SettingsFault σ :=
  items.zipIdx.foldlM
    (fun current (value, place) =>
      match fields.find? (·.place == place) with
      | some field => field.read (path ++ [toString place]) value current
      | none => .ok current) start

def readSection {σ : Type} (fields : List (Field σ)) (start : σ) (path : List String) :
    Value → Except SettingsFault σ
  | .table entries => readEntries fields path entries start
  | .list items => readItems fields path items start
  | _ => .error (.wrongType path)

/-- The settings of the wiki, by ascending key. -/
def wikiFields : List (Field WikiSettings) := [
  ⟨"api_id", 1, fun path value current => do .ok { current with apiId := ← text path value }⟩,
  ⟨"api_key", 2, fun path value current => do .ok { current with apiKey := ← text path value }⟩,
  ⟨"base_url", 0, fun path value current => do .ok { current with baseUrl := ← text path value }⟩,
  ⟨"page_size", 3, fun path value current => do
    .ok { current with pageSize := ← natBelow UInt32.size path value }⟩]

def chatFields : List (Field ChatSettings) := [
  ⟨"api_key", 1, fun path value current => do
    .ok { current with apiKey := some (← text path value) }⟩,
  ⟨"base_url", 0, fun path value current => do .ok { current with baseUrl := ← text path value }⟩,
  ⟨"model", 2, fun path value current => do .ok { current with model := ← text path value }⟩]

def notifyFields : List (Field NotifySettings) := [
  ⟨"channel_id", 1, fun path value current => do
    .ok { current with channelId := ← natBelow UInt64.size path value }⟩,
  ⟨"webhook_url", 0, fun path value current => do
    .ok { current with webhookUrl := some (← text path value) }⟩]

def songFields : List (Field SongSettings) := [
  ⟨"fallback", 1, fun path value current => do .ok { current with fallback := ← text path value }⟩,
  ⟨"link_base", 0, fun path value current => do
    .ok { current with linkBase := ← text path value }⟩]

/-- All settings, by ascending key. -/
def fields : List (Field Settings) := [
  ⟨"bind_addr", 0, fun path value current => do
    .ok { current with bindAddress := ← address path value }⟩,
  ⟨"chat", 3, fun path value current => do
    .ok { current with chat := ← readSection chatFields {} path value }⟩,
  ⟨"notify", 4, fun path value current => do
    .ok { current with notify := ← readSection notifyFields {} path value }⟩,
  ⟨"resources_dir", 1, fun path value current => do
    .ok { current with resourcesDirectory := ← text path value }⟩,
  ⟨"songs", 5, fun path value current => do
    .ok { current with songs := ← readSection songFields {} path value }⟩,
  ⟨"wiki", 2, fun path value current => do
    .ok { current with wiki := ← readSection wikiFields {} path value }⟩]

def ofEntries (entries : Entries) : Except SettingsFault Settings := readEntries fields [] entries {}

/-- The content of a document, if it is UTF-8 and valid. -/
def document? (bytes : List UInt8) : Option Entries :=
  (Text.Utf8.decode? bytes).bind Config.Toml.parse?

/-- Loads the settings from an optional document and the environment. -/
def load (document : Option (List UInt8)) (environment : List (String × String)) :
    Except SettingsFault Settings :=
  match document.elim (some []) document? with
  | none => .error .invalidDocument
  | some entries =>
    ofEntries (Value.mergeEntries entries (Config.Environment.settings environment))

end Settings

end TabletopBot
