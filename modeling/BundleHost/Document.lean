import BundleHost.OrderedMap

/-!
# Documents

A document is a value of a configuration file, an environment variable or a message, before it is
read as something more specific. The entries of a table keep their order.
-/

namespace BundleHost

inductive Document where
  | null
  | bool (value : Bool)
  | int (value : Int)
  /-- A number that is no integer, as it was written. -/
  | float (literal : String)
  /-- A single character, which only the text of an environment variable can be. -/
  | char (value : Char)
  | text (value : String)
  | list (items : List Document)
  | table (entries : List (String × Document))
  deriving Repr, Inhabited

namespace Document

/-! ## Equality -/

mutual

/-- Whether two documents are the same, the order of keys included. -/
def same : Document → Document → Bool
  | .null, .null => true
  | .bool a, .bool b => a = b
  | .int a, .int b => a = b
  | .float a, .float b => a = b
  | .char a, .char b => a = b
  | .text a, .text b => a = b
  | .list a, .list b => sameItems a b
  | .table a, .table b => sameEntries a b
  | _, _ => false

def sameItems : List Document → List Document → Bool
  | [], [] => true
  | a :: rest, b :: rest' => same a b && sameItems rest rest'
  | _, _ => false

def sameEntries : List (String × Document) → List (String × Document) → Bool
  | [], [] => true
  | (key, a) :: rest, (key', b) :: rest' => key = key' && same a b && sameEntries rest rest'
  | _, _ => false

end

mutual

theorem same_iff : (a b : Document) → (same a b = true ↔ a = b)
  | .null, b => by cases b <;> simp [same]
  | .bool _, b => by cases b <;> simp [same]
  | .int _, b => by cases b <;> simp [same]
  | .float _, b => by cases b <;> simp [same]
  | .char _, b => by cases b <;> simp [same]
  | .text _, b => by cases b <;> simp [same]
  | .list a, b => by cases b <;> simp [same, sameItems_iff a]
  | .table a, b => by cases b <;> simp [same, sameEntries_iff a]

theorem sameItems_iff : (a b : List Document) → (sameItems a b = true ↔ a = b)
  | [], b => by cases b <;> simp [sameItems]
  | a :: rest, b => by cases b <;> simp [sameItems, same_iff a, sameItems_iff rest]

theorem sameEntries_iff :
    (a b : List (String × Document)) → (sameEntries a b = true ↔ a = b)
  | [], b => by cases b <;> simp [sameEntries]
  | (key, a) :: rest, b => by
    cases b with
    | nil => simp [sameEntries]
    | cons entry rest' =>
      obtain ⟨key', b⟩ := entry
      simp [sameEntries, same_iff a, sameEntries_iff rest]

end

instance : DecidableEq Document := fun a b => decidable_of_iff _ (same_iff a b)

/-! ## Tables and texts -/

/-- Integers of 64 bits with a sign are less than this, and their negatives at most this. -/
def intLimit : Nat := 1 <<< 63

mutual

/-- The document in which every table holds a key once. -/
def unique : Document → Document
  | .list items => .list (uniqueItems items)
  | .table entries => .table (Entries.distinct (uniqueEntries entries))
  | document => document

def uniqueItems : List Document → List Document
  | [] => []
  | item :: rest => item.unique :: uniqueItems rest

def uniqueEntries : List (String × Document) → List (String × Document)
  | [] => []
  | (key, value) :: rest => (key, value.unique) :: uniqueEntries rest

end

mutual

/-- The document in which every table holds a key once and is in the order of its keys. -/
def sorted : Document → Document
  | .list items => .list (sortedItems items)
  | .table entries => .table (Entries.sort (Entries.distinct (sortedEntries entries)))
  | document => document

def sortedItems : List Document → List Document
  | [] => []
  | item :: rest => item.sorted :: sortedItems rest

def sortedEntries : List (String × Document) → List (String × Document)
  | [] => []
  | (key, value) :: rest => (key, value.sorted) :: sortedEntries rest

end

mutual

/-- The document with every text changed, keys excepted. -/
def mapTexts (change : String → String) : Document → Document
  | .text s => .text (change s)
  | .list items => .list (mapItemTexts change items)
  | .table entries => .table (mapEntryTexts change entries)
  | document => document

def mapItemTexts (change : String → String) : List Document → List Document
  | [] => []
  | item :: rest => item.mapTexts change :: mapItemTexts change rest

def mapEntryTexts (change : String → String) :
    List (String × Document) → List (String × Document)
  | [] => []
  | (key, value) :: rest => (key, value.mapTexts change) :: mapEntryTexts change rest

end

def asText? : Document → Option String
  | .text s => some s
  | _ => none

/-- The value of a key, in a table that has it. -/
def get? (key : String) : Document → Option Document
  | .table entries => Entries.lookup? key entries
  | _ => none

/-- The items of a list; none for other documents. -/
def items : Document → List Document
  | .list items => items
  | _ => []

/-- A list of texts. -/
def texts (items : List String) : Document := .list (items.map .text)

/-- The entries of a map in their order, each a list of key and value. -/
def pairs {α : Type} (encode : α → Document) (map : OrderedMap α) : Document :=
  .list (map.entries.map fun (key, value) => .list [.text key, encode value])

/-- An entry without what tells nothing: nulls and empty lists and tables are absent, and a table
becomes the list of its entries. -/
def compactEntry? : String × Document → Option (String × Document)
  | (_, .null) | (_, .list []) | (_, .table []) => none
  | (key, .table entries) =>
    some (key, .list (entries.map fun (k, v) => .list [.text k, v]))
  | entry => some entry

/-- A table whose entries all tell something. -/
def compact : Document → Document
  | .table entries => .table (entries.filterMap compactEntry?)
  | document => document

/-- The document of a value, or null. -/
def ofOption {α : Type} (encode : α → Document) : Option α → Document
  | some value => encode value
  | none => .null

end Document

end BundleHost
