import BundleHost.Enumeration
import BundleHost.Proofs.Decoder
import BundleHost.Proofs.Document.Nulls
import Mathlib.Data.List.Forall2

/-!
# Steady decoders

A decoder is steady if it makes no difference to it in which order the keys of a tree stand, or
whether nulls that it does not read are left out. Decoders that read neither lists nor tables are
steady, and so are those of lists of what a steady decoder reads.

## Main statements

* `steady_of_isLeaf`, `Steady.list` — decoders that are steady.
* `items_eq_ok_iff`, `exists_map_table_iff` — which lists and maps are read.
-/

namespace BundleHost

/-! ## What decoders read -/

namespace Decoder

variable {α : Type} {decode : Decoder α}

theorem text_eq_ok_iff {document : Document} {s : String} :
    text document = .ok s ↔ document = .text s := by
  cases document <;> simp [text]

theorem enumeration_eq_ok_iff [Enumeration α] {document : Document} {m : α} :
    Enumeration.decode document = .ok m ↔
      ∃ s, document = .text s ∧ Enumeration.ofName? s = some m := by
  cases document with
  | text s =>
    change Enumeration.read s = .ok m ↔ _
    rw [Enumeration.read]
    cases found : (Enumeration.ofName? s : Option α) <;> simp [found]
  | _ => exact ⟨nofun, nofun⟩

theorem items_eq_ok_iff {documents : List Document} {values : List α} :
    items decode documents = .ok values ↔
      List.Forall₂ (fun document value => decode document = .ok value) documents values := by
  induction documents generalizing values with
  | nil => simp [items, eq_comm]
  | cons document rest ih =>
    simp only [items, bind_eq_ok_iff, Except.ok.injEq, ih, List.forall₂_cons_left_iff]
    constructor
    · rintro ⟨value, first, values, others, rfl⟩
      exact ⟨value, values, first, others, rfl⟩
    · rintro ⟨value, values, first, others, rfl⟩
      exact ⟨value, first, values, others, rfl⟩

theorem exists_map_table_iff {entries : List (String × Document)} :
    (∃ map, Decoder.map decode (.table entries) = .ok map) ↔
      ∀ entry ∈ entries, ∃ value, decode entry.2 = .ok value := by
  simp only [Decoder.map, map_eq_ok_iff]
  rw [exists_comm]
  simp only [exists_and_left, exists_eq', and_true]
  induction entries with
  | nil => exact ⟨fun _ => List.forall_mem_nil _, fun _ => ⟨[], rfl⟩⟩
  | cons entry rest ih =>
    obtain ⟨key, document⟩ := entry
    simp only [Decoder.entries, bind_eq_ok_iff, List.forall_mem_cons, ← ih]
    constructor
    · rintro ⟨_, value, first, values, others, -⟩
      exact ⟨⟨value, first⟩, ⟨values, others⟩⟩
    · rintro ⟨⟨value, first⟩, ⟨values, others⟩⟩
      exact ⟨_, value, first, values, others, rfl⟩

end Decoder

namespace Document

/-- Neither a list nor a table. -/
def isLeaf : Document → Bool
  | .list _ => false
  | .table _ => false
  | _ => true

theorem sorted_of_isLeaf {document : Document} (leaf : document.isLeaf = true) :
    document.sorted = document := by
  cases document with
  | list => cases leaf
  | table => cases leaf
  | _ => simp only [sorted]

theorem withoutNulls_of_isLeaf {document : Document} (leaf : document.isLeaf = true) :
    document.withoutNulls = document := by
  cases document with
  | list => cases leaf
  | table => cases leaf
  | _ => simp only [withoutNulls]

theorem isLeaf_sorted (document : Document) : document.sorted.isLeaf = document.isLeaf := by
  cases document <;> simp [sorted, isLeaf]

theorem sorted_eq_text_iff {document : Document} {s : String} :
    document.sorted = .text s ↔ document = .text s := by
  cases document <;> simp [sorted]

end Document

/-! ## Steadiness -/

namespace Decoder

variable {α : Type} {decode : Decoder α}

/-- Neither the order of keys nor nulls beside what is read make a difference. -/
structure Steady (decode : Decoder α) : Prop where
  sorted : ∀ {document : Document}, document.IsTree → ∀ a,
    decode document.sorted = .ok a ↔ decode document = .ok a
  withoutNulls : ∀ {document : Document}, document.IsTree → ∀ a,
    decode document = .ok a → decode document.withoutNulls = .ok a

theorem steady_of_isLeaf (leaf : ∀ document a, decode document = .ok a → document.isLeaf = true) :
    Steady decode where
  sorted {document} _ a := by
    constructor
    · intro read
      have same := Document.sorted_of_isLeaf (document.isLeaf_sorted ▸ leaf _ a read)
      rwa [same] at read
    · intro read
      rwa [Document.sorted_of_isLeaf (leaf document a read)]
  withoutNulls {document} _ a read := by
    rwa [Document.withoutNulls_of_isLeaf (leaf document a read)]

theorem list_eq_ok_iff {document : Document} {values : List α} :
    Decoder.list decode document = .ok values ↔ ∃ documents, document = .list documents ∧
      List.Forall₂ (fun document value => decode document = .ok value) documents values := by
  cases document <;> simp [Decoder.list, items_eq_ok_iff]

theorem Steady.list (steady : Steady decode) (nonNull : ∀ a, decode .null ≠ .ok a) :
    Steady (Decoder.list decode) where
  sorted {document} tree values := by
    cases document with
    | list documents =>
      have each : ∀ d ∈ documents, ∀ a, decode d.sorted = .ok a ↔ decode d = .ok a :=
        fun d mem => steady.sorted (tree.of_mem_list mem)
      rw [Document.sorted_list, Decoder.list, Decoder.list, items_eq_ok_iff, items_eq_ok_iff,
        List.forall₂_map_left_iff]
      clear tree
      induction documents generalizing values with
      | nil => rw [List.forall₂_nil_left_iff, List.forall₂_nil_left_iff]
      | cons d rest ih =>
        simp only [List.forall₂_cons_left_iff, each d List.mem_cons_self,
          ih _ fun d mem => each d (List.mem_cons_of_mem _ mem)]
    | table entries =>
      rw [Document.sorted_table tree.nodup_keys]
      exact Iff.rfl
    | _ => simp only [Document.sorted]
  withoutNulls {document} tree values read := by
    obtain ⟨documents, rfl, reads⟩ := list_eq_ok_iff.mp read
    have each : ∀ d ∈ documents, ∀ a, decode d = .ok a → decode d.withoutNulls = .ok a :=
      fun d mem => steady.withoutNulls (tree.of_mem_list mem)
    rw [Document.withoutNulls, list_eq_ok_iff]
    refine ⟨_, rfl, ?_⟩
    clear tree read
    induction reads with
    | nil =>
      rw [Document.itemsWithoutNulls]
      exact .nil
    | @cons d a documents values first others ih =>
      have present : d.isNull = false := by
        cases d with
        | null => exact absurd first (nonNull a)
        | _ => rfl
      rw [Document.itemsWithoutNulls, present, if_neg Bool.false_ne_true]
      exact .cons (each d List.mem_cons_self a first)
        (ih fun d mem => each d (List.mem_cons_of_mem _ mem))

end Decoder

end BundleHost
