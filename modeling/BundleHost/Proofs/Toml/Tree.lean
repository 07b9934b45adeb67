import BundleHost.Proofs.Document.Tree
import BundleHost.Toml.Reader

/-!
# TOML texts are trees

Whatever lines a TOML text has, no table that is built from them holds a key twice: a line that
would write a key again is refused.

## Main statements

* `Body.isTree_update` — changing an inner table of a tree gives a tree.
* `isTree_parse?` — a TOML text is read as a table, and as a tree.
-/

namespace BundleHost.Toml

open Document

/-! ## Tables under construction -/

theorem entriesToDocument_eq (entries : List (String × Node)) :
    entriesToDocument entries = entries.map fun entry => (entry.1, entry.2.toDocument) := by
  induction entries with
  | nil => rfl
  | cons entry rest ih => rw [entriesToDocument, ih, List.map_cons]

theorem itemsToDocument_eq (items : List Node) :
    itemsToDocument items = items.map Node.toDocument := by
  induction items with
  | nil => rfl
  | cons item rest ih => rw [itemsToDocument, ih, List.map_cons]

/-- No table of the node repeats a key. -/
def Node.IsTree (node : Node) : Prop := node.toDocument.IsTree

namespace Body

def IsTree (body : Body) : Prop := body.toNode.IsTree

theorem isTree_iff {body : Body} : body.IsTree ↔
    (Entries.keys body.entries).Nodup ∧ ∀ entry ∈ body.entries, entry.2.IsTree := by
  rw [IsTree, Node.IsTree, toNode, Node.toDocument, entriesToDocument_eq]
  constructor
  · intro tree
    have nodup := tree.nodup_keys
    rw [Entries.keys_map] at nodup
    exact ⟨nodup, fun entry mem => tree.of_mem (List.mem_map_of_mem mem)⟩
  · rintro ⟨nodup, trees⟩
    refine .table (by rwa [Entries.keys_map]) fun entry mem => ?_
    obtain ⟨first, there, rfl⟩ := List.mem_map.mp mem
    exact trees first there

theorem isTree_put {body : Body} (tree : body.IsTree) (key : String) {node : Node}
    (inner : node.IsTree) : (body.put key node).IsTree := by
  obtain ⟨nodup, trees⟩ := isTree_iff.mp tree
  refine isTree_iff.mpr ⟨Entries.nodup_keys_put nodup, fun entry mem => ?_⟩
  obtain rfl | mem := Entries.mem_put mem
  · exact inner
  · exact trees entry mem

theorem isTree_of_lookup? {body : Body} (tree : body.IsTree) {key : String} {node : Node}
    (found : Entries.lookup? key body.entries = some node) : node.IsTree :=
  (isTree_iff.mp tree).2 _ (Entries.mem_of_lookup? found)

theorem isTree_empty (implicit dotted : Bool) : (⟨implicit, dotted, []⟩ : Body).IsTree :=
  isTree_iff.mpr ⟨List.nodup_nil, nofun⟩

theorem isTree_tables_iff {items : List Node} :
    (Node.tables items).IsTree ↔ ∀ item ∈ items, item.IsTree := by
  rw [Node.IsTree, Node.toDocument, itemsToDocument_eq]
  constructor
  · intro tree item mem
    exact tree.of_mem_list (List.mem_map_of_mem mem)
  · intro trees
    refine .list fun document mem => ?_
    obtain ⟨item, there, rfl⟩ := List.mem_map.mp mem
    exact trees item there

/-- A change that gives trees from trees does so inside of a tree. -/
theorem isTree_update {dotted : Bool} {path : List String} {body result : Body}
    {change : Body → Option Body}
    (changes : ∀ before after, Body.IsTree before → change before = some after → after.IsTree)
    (tree : body.IsTree) (done : body.update dotted path change = some result) :
    result.IsTree := by
  induction path generalizing body result with
  | nil => exact changes body result tree done
  | cons key path ih =>
    rw [update] at done
    split at done
    next =>
      obtain ⟨child, inner, eq⟩ := Option.bind_eq_some_iff.mp done
      obtain rfl := Option.some.inj eq
      exact isTree_put tree key (ih (isTree_empty true dotted) inner)
    next => cases done
    next implicit isDotted entries found =>
      split at done
      · cases done
      · obtain ⟨child, inner, eq⟩ := Option.bind_eq_some_iff.mp done
        obtain rfl := Option.some.inj eq
        have table : Body.IsTree ⟨implicit, isDotted, entries⟩ := isTree_of_lookup? tree found
        exact isTree_put tree key (ih table inner)
    next items found =>
      have trees := isTree_tables_iff.mp (isTree_of_lookup? tree found)
      split at done
      next implicit isDotted entries last =>
        obtain ⟨child, inner, eq⟩ := Option.bind_eq_some_iff.mp done
        obtain rfl := Option.some.inj eq
        have table : Body.IsTree ⟨implicit, isDotted, entries⟩ :=
          trees _ (List.mem_of_getLast? last)
        refine isTree_put tree key (isTree_tables_iff.mpr fun item mem => ?_)
        obtain before | here := List.mem_append.mp mem
        · exact trees item (List.dropLast_subset items before)
        · obtain rfl := List.mem_singleton.mp here
          exact ih table inner
      next => cases done

theorem isTree_openTable {root result : Body} {path : List String} (tree : root.IsTree)
    (done : root.openTable path = some result) : result.IsTree := by
  rw [openTable] at done
  split at done
  · cases done
  · refine isTree_update (fun before after tree eq => ?_) tree done
    split at eq
    next =>
      obtain rfl := Option.some.inj eq
      exact isTree_put tree _ (isTree_empty false false)
    next entries found =>
      obtain rfl := Option.some.inj eq
      have table : (Node.table true false entries).IsTree := isTree_of_lookup? tree found
      exact isTree_put tree _ (table : (Node.table false false entries).IsTree)
    next => cases eq

theorem isTree_openItem {root result : Body} {path : List String} (tree : root.IsTree)
    (done : root.openItem path = some result) : result.IsTree := by
  rw [openItem] at done
  split at done
  · cases done
  · refine isTree_update (fun before after tree eq => ?_) tree done
    have blank : (Node.table false false []).IsTree := isTree_empty false false
    split at eq
    next =>
      obtain rfl := Option.some.inj eq
      exact isTree_put tree _ (isTree_tables_iff.mpr (List.forall_mem_singleton.mpr blank))
    next items found =>
      obtain rfl := Option.some.inj eq
      have trees := isTree_tables_iff.mp (isTree_of_lookup? tree found)
      refine isTree_put tree _ (isTree_tables_iff.mpr fun item mem => ?_)
      obtain before | here := List.mem_append.mp mem
      · exact trees item before
      · obtain rfl := List.mem_singleton.mp here
        exact blank
    next => cases eq

theorem isTree_assign {body result : Body} {path : List String} {value : Document}
    (tree : body.IsTree) (inner : value.IsTree) (done : body.assign path value = some result) :
    result.IsTree := by
  rw [assign] at done
  split at done
  · cases done
  · refine isTree_update (fun before after tree eq => ?_) tree done
    split at eq
    · cases eq
    · split at eq
      next =>
        obtain rfl := Option.some.inj eq
        exact isTree_put tree _ inner
      next => cases eq

end Body

/-! ## Values -/

theorem isTree_scalar? {word : List Char} {document : Document}
    (read : scalar? word = some document) : document.IsTree := by
  unfold scalar? at read
  split at read
  · obtain rfl := Option.some.inj read
    exact .bool true
  · obtain rfl := Option.some.inj read
    exact .bool false
  · split at read
    next n _ =>
      obtain rfl := Option.some.inj read
      exact .int n
    next =>
      split at read
      · obtain rfl := Option.some.inj read
        exact .float _
      · obtain ⟨date, -, rfl⟩ := Option.map_eq_some_iff.mp read
        refine .table (List.nodup_singleton _) fun entry mem => ?_
        obtain rfl := List.mem_singleton.mp mem
        exact .text date

/-- What the readers of values give from some fuel. -/
structure ReadsTrees (fuel : Nat) : Prop where
  value : ∀ {depth text document rest}, value fuel depth text = some (document, rest) →
    document.IsTree
  items : ∀ {depth text found rest}, items fuel depth text = some (found, rest) →
    ∀ item ∈ found, item.IsTree
  pairs : ∀ {depth body text result rest}, Body.IsTree body →
    pairs fuel depth body text = some (result, rest) → result.IsTree

theorem isTree_value {fuel depth : Nat} (trees : ReadsTrees fuel) {start : List Char}
    {document : Document} {rest : List Char}
    (read : value (fuel + 1) depth start = some (document, rest)) : document.IsTree := by
  have texts : ∀ {start : List Char}, (string? start).map
      (fun found => (Document.text (String.ofList found.1), found.2)) = some (document, rest) →
      document.IsTree := by
    intro start read
    obtain ⟨s, -, eq⟩ := Option.map_eq_some_iff.mp read
    obtain ⟨rfl, -⟩ := Prod.mk.inj eq
    exact .text _
  unfold value at read
  split at read
  next => exact texts read
  next => exact texts read
  next inside =>
    split at read
    next => cases read
    next depth =>
      obtain ⟨found, items, eq⟩ := Option.map_eq_some_iff.mp read
      obtain ⟨rfl, -⟩ := Prod.mk.inj eq
      exact .list (trees.items items)
  next inside =>
    split at read
    next => cases read
    next depth =>
      split at read
      next =>
        obtain ⟨rfl, -⟩ := Prod.mk.inj (Option.some.inj read)
        exact .table List.nodup_nil (List.forall_mem_nil _)
      next =>
        obtain ⟨found, pairs, eq⟩ := Option.bind_eq_some_iff.mp read
        obtain ⟨rfl, -⟩ := Prod.mk.inj (Option.some.inj eq)
        exact trees.pairs (Body.isTree_empty false false) pairs
  next =>
    obtain ⟨scalar, found, eq⟩ := Option.map_eq_some_iff.mp read
    obtain ⟨rfl, -⟩ := Prod.mk.inj eq
    exact isTree_scalar? found

theorem isTree_items {fuel depth : Nat} (trees : ReadsTrees fuel) {start : List Char}
    {found : List Document} {rest : List Char}
    (read : items (fuel + 1) depth start = some (found, rest)) : ∀ item ∈ found, item.IsTree := by
  rw [items] at read
  obtain ⟨text, -, read⟩ := Option.bind_eq_some_iff.mp read
  split at read
  next =>
    obtain ⟨rfl, -⟩ := Prod.mk.inj (Option.some.inj read)
    exact nofun
  next =>
    obtain ⟨⟨item, behind⟩, first, read⟩ := Option.bind_eq_some_iff.mp read
    obtain ⟨text, -, read⟩ := Option.bind_eq_some_iff.mp read
    split at read
    next =>
      obtain ⟨rfl, -⟩ := Prod.mk.inj (Option.some.inj read)
      exact List.forall_mem_singleton.mpr (trees.value first)
    next =>
      obtain ⟨more, others, eq⟩ := Option.bind_eq_some_iff.mp read
      obtain ⟨rfl, -⟩ := Prod.mk.inj (Option.some.inj eq)
      exact List.forall_mem_cons.mpr ⟨trees.value first, trees.items others⟩
    next => cases read

theorem isTree_pairs {fuel depth : Nat} (trees : ReadsTrees fuel) {body result : Body}
    {start rest : List Char} (tree : body.IsTree)
    (read : pairs (fuel + 1) depth body start = some (result, rest)) : result.IsTree := by
  rw [pairs] at read
  obtain ⟨⟨path, behind⟩, -, read⟩ := Option.bind_eq_some_iff.mp read
  dsimp only at read
  split at read
  next =>
    obtain ⟨⟨document, behind⟩, value, read⟩ := Option.bind_eq_some_iff.mp read
    obtain ⟨after, assigned, read⟩ := Option.bind_eq_some_iff.mp read
    have after := Body.isTree_assign tree (trees.value value) assigned
    split at read
    next =>
      obtain ⟨rfl, -⟩ := Prod.mk.inj (Option.some.inj read)
      exact after
    next => exact trees.pairs after read
    next => cases read
  next => cases read

theorem readsTrees (fuel : Nat) : ReadsTrees fuel := by
  induction fuel with
  | zero => exact ⟨nofun, nofun, fun _ => nofun⟩
  | succ fuel ih => exact ⟨isTree_value ih, isTree_items ih, isTree_pairs ih⟩

/-! ## Lines -/

theorem isTree_lines {fuel : Nat} {root result : Body} {current : List String} {start : List Char}
    (tree : root.IsTree) (read : lines fuel root current start = some result) : result.IsTree := by
  induction fuel generalizing root current start with
  | zero => cases read
  | succ fuel ih =>
    rw [lines] at read
    obtain ⟨text, -, read⟩ := Option.bind_eq_some_iff.mp read
    split at read
    next => exact Option.some.inj read ▸ tree
    next =>
      obtain ⟨⟨path, behind⟩, -, read⟩ := Option.bind_eq_some_iff.mp read
      dsimp only at read
      split at read
      next =>
        obtain ⟨after, opened, read⟩ := Option.bind_eq_some_iff.mp read
        obtain ⟨rest, -, read⟩ := Option.bind_eq_some_iff.mp read
        exact ih (Body.isTree_openItem tree opened) read
      next => cases read
    next =>
      obtain ⟨⟨path, behind⟩, -, read⟩ := Option.bind_eq_some_iff.mp read
      dsimp only at read
      split at read
      next =>
        obtain ⟨after, opened, read⟩ := Option.bind_eq_some_iff.mp read
        obtain ⟨rest, -, read⟩ := Option.bind_eq_some_iff.mp read
        exact ih (Body.isTree_openTable tree opened) read
      next => cases read
    next =>
      obtain ⟨⟨path, behind⟩, -, read⟩ := Option.bind_eq_some_iff.mp read
      dsimp only at read
      split at read
      next =>
        obtain ⟨⟨document, behind⟩, found, read⟩ := Option.bind_eq_some_iff.mp read
        obtain ⟨after, assigned, read⟩ := Option.bind_eq_some_iff.mp read
        obtain ⟨rest, -, read⟩ := Option.bind_eq_some_iff.mp read
        refine ih (Body.isTree_update (fun before after tree eq => ?_) tree assigned) read
        exact Body.isTree_assign tree ((readsTrees _).value found) eq
      next => cases read

theorem isTree_parse? {text : String} {document : Document} (read : parse? text = some document) :
    document.IsTree ∧ ∃ entries, document = .table entries := by
  obtain ⟨body, lines, rfl⟩ := Option.map_eq_some_iff.mp read
  exact ⟨isTree_lines (Body.isTree_empty false false) lines, _, rfl⟩

end BundleHost.Toml
