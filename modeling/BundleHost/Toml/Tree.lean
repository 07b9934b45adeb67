import BundleHost.Document

/-!
# Tables under construction

The lines of a TOML text build a tree of tables. A table is implicit as long as only its inner
tables were named, and dotted if it was made by a dotted key; both decide whether a later line may
still add to it.
-/

namespace BundleHost.Toml

inductive Node where
  | value (document : Document)
  | table (implicit dotted : Bool) (entries : List (String × Node))
  /-- An array of tables, whose last one is open. -/
  | tables (items : List Node)

/-- An open table. -/
structure Body where
  implicit : Bool
  dotted : Bool
  entries : List (String × Node)

def Body.toNode (body : Body) : Node := .table body.implicit body.dotted body.entries

def Body.put (body : Body) (key : String) (node : Node) : Body :=
  { body with entries := Entries.put key node body.entries }

def Body.root : Body := ⟨false, false, []⟩

/-- Changes the table that the keys lead to, making tables on the way. Dotted keys do not lead
into tables with a header of their own. -/
def Body.update (dotted : Bool) : List String → Body → (Body → Option Body) → Option Body
  | [], body, change => change body
  | key :: path, body, change =>
    match Entries.lookup? key body.entries with
    | none => do
      let child ← update dotted path ⟨true, dotted, []⟩ change
      some (body.put key child.toNode)
    | some (.value _) => none
    | some (.table implicit isDotted entries) =>
      if dotted && !implicit then none
      else do
        let child ← update dotted path ⟨implicit, isDotted, entries⟩ change
        some (body.put key child.toNode)
    | some (.tables items) =>
      match items.getLast? with
      | some (.table implicit isDotted entries) => do
        let child ← update dotted path ⟨implicit, isDotted, entries⟩ change
        some (body.put key (.tables (items.dropLast ++ [child.toNode])))
      | _ => none

/-- A header `[path]`: the table must not have a header yet. -/
def Body.openTable (root : Body) (path : List String) : Option Body :=
  match path.getLast? with
  | none => none
  | some key =>
    root.update false path.dropLast fun parent =>
      match Entries.lookup? key parent.entries with
      | none => some (parent.put key (.table false false []))
      | some (.table true false entries) => some (parent.put key (.table false false entries))
      | some _ => none

/-- A header `[[path]]`: one more table in an array of tables. -/
def Body.openItem (root : Body) (path : List String) : Option Body :=
  match path.getLast? with
  | none => none
  | some key =>
    root.update false path.dropLast fun parent =>
      match Entries.lookup? key parent.entries with
      | none => some (parent.put key (.tables [.table false false []]))
      | some (.tables items) => some (parent.put key (.tables (items ++ [.table false false []])))
      | some _ => none

/-- A line `path = value` in this table. A table holds either plain or dotted keys of one path. -/
def Body.assign (body : Body) (path : List String) (value : Document) : Option Body :=
  match path.getLast? with
  | none => none
  | some key =>
    body.update true path.dropLast fun table =>
      if table.dotted == path.dropLast.isEmpty then none
      else
        match Entries.lookup? key table.entries with
        | none => some (table.put key (.value value))
        | some _ => none

mutual

def Node.toDocument : Node → Document
  | .value document => document
  | .table _ _ entries => .table (entriesToDocument entries)
  | .tables items => .list (itemsToDocument items)

def entriesToDocument : List (String × Node) → List (String × Document)
  | [] => []
  | (key, node) :: rest => (key, node.toDocument) :: entriesToDocument rest

def itemsToDocument : List Node → List Document
  | [] => []
  | node :: rest => node.toDocument :: itemsToDocument rest

end

end BundleHost.Toml
