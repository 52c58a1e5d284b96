import TabletopBot.Config.Value

/-! # TOML sections

The tree that the lines of a document build up. A table is opened once by its header, or arises on the
way to another one and may then still be opened; tables that arise from dotted keys can only be extended
by dotted keys; lists of tables grow by one with each of their headers. Everything else is a clash.
-/

namespace TabletopBot.Config.Toml

/-- How a table came about. -/
inductive Origin where
  /-- By its own header, or as the document itself. -/
  | header
  /-- On the way to the table of another header. -/
  | passage
  /-- On the way of a dotted key. -/
  | dotted
deriving DecidableEq, Repr

/-- What stands under a key: a finished value, a table, or a list of tables, the newest one first. -/
inductive Node where
  | value (value : Value)
  | section (origin : Origin) (entries : List (String × Node))
  | sections (items : List (List (String × Node)))

/-- A table with its origin. -/
structure Section where
  origin : Origin
  entries : List (String × Node)

namespace Section

def document : Section := ⟨.header, []⟩

/-- Puts a node under a key, in place of the one that is there. -/
def put (key : String) (node : Node) (entries : List (String × Node)) : List (String × Node) :=
  if (entries.lookup key).isSome then
    entries.map fun entry => if entry.1 == key then (key, node) else entry
  else entries ++ [(key, node)]

/-- Changes the table at the end of a path. Tables that are missing arise on the way; a dotted key does
not pass through tables that have headers of their own. In a list of tables the newest one is meant. -/
def changeAt (dotted : Bool) (change : Section → Option Section) :
    List String → Section → Option Section
  | [], current => change current
  | key :: path, current =>
    match current.entries.lookup key with
    | none => do
      let start : Section := ⟨if dotted then .dotted else .passage, []⟩
      let changed ← changeAt dotted change path start
      some { current with
        entries := put key (.section changed.origin changed.entries) current.entries }
    | some (.value _) => none
    | some (.section origin entries) =>
      if dotted && origin == .header then none
      else do
        let changed ← changeAt dotted change path ⟨origin, entries⟩
        some { current with
          entries := put key (.section changed.origin changed.entries) current.entries }
    | some (.sections []) => none
    | some (.sections (newest :: older)) => do
      let changed ← changeAt dotted change path ⟨.header, newest⟩
      some { current with
        entries := put key (.sections (changed.entries :: older)) current.entries }

def addValue (path : List String) (key : String) (value : Value) (current : Section) :
    Option Section :=
  changeAt true
    (fun table =>
      if (!path.isEmpty && table.origin != .dotted) || (table.entries.lookup key).isSome then none
      else some { table with entries := table.entries ++ [(key, .value value)] })
    path current

def openTable (path : List String) (key : String) (document : Section) : Option Section :=
  changeAt false
    (fun parent =>
      match parent.entries.lookup key with
      | none => some { parent with entries := parent.entries ++ [(key, .section .header [])] }
      | some (.section .passage entries) =>
        some { parent with entries := put key (.section .header entries) parent.entries }
      | some _ => none)
    path document

/-- Opens the next table of a list of tables. -/
def openItem (path : List String) (key : String) (document : Section) : Option Section :=
  changeAt false
    (fun parent =>
      match parent.entries.lookup key with
      | none => some { parent with entries := parent.entries ++ [(key, .sections [[]])] }
      | some (.sections items) =>
        some { parent with entries := put key (.sections ([] :: items)) parent.entries }
      | some _ => none)
    path document

end Section

mutual

def Node.toValue : Node → Value
  | .value value => value
  | .section _ entries => .table (entryValues entries)
  | .sections items => .list (itemValues items).reverse

def entryValues : List (String × Node) → Entries
  | [] => []
  | (key, node) :: rest => (key, node.toValue) :: entryValues rest

def itemValues : List (List (String × Node)) → List Value
  | [] => []
  | entries :: rest => .table (entryValues entries) :: itemValues rest

end

end TabletopBot.Config.Toml
