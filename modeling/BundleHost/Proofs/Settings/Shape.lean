import BundleHost.Proofs.Settings.Engine
import BundleHost.Proofs.Settings.Written

/-!
# What places read

Options and lists read no tables, but for the names and versions of engines inside of lists, and
maps read tables of texts and truth values. So it makes no difference to options and lists in which
order the keys of a tree stand, or whether nulls that they do not read are left out.

## Main statements

* `Place.steady` — what does not count for options and lists.
* `Place.exists_read_table_iff` — which tables are read as maps.
-/

namespace BundleHost

open SettingsKind OptionFamily Settings

/-! ## Options and lists -/

theorem Document.isLeaf_charAsText (document : Document) :
    document.charAsText.isLeaf = document.isLeaf := by
  cases document <;> rfl

theorem ScalarType.isLeaf_of_decode (t : ScalarType) {document : Document} {x : t.Value}
    (read : t.decode document = .ok x) : document.isLeaf = true := by
  cases document with
  | list items => cases t <;> cases read
  | table entries => cases t <;> cases read
  | _ => rfl

namespace Place

variable {kind : SettingsKind}

def isMap : Place kind → Bool
  | .collection .define | .collection .logOverride | .collection .supported => true
  | _ => false

theorem isLeaf_of_read_scalar {o : kind.ScalarOption} {document : Document} {x : Option (Value o)}
    (read : Place.read (.scalar o) document = .ok x) : document.isLeaf = true := by
  have optional : ∀ (t : ScalarType) (document : Document) (x : Option t.Value),
      Decoder.optional t.decode document = .ok x → document.isLeaf = true := by
    intro t document x read
    cases document with
    | null => rfl
    | _ =>
      obtain ⟨y, read, -⟩ := Decoder.map_eq_ok_iff.mp read
      exact t.isLeaf_of_decode read
  cases o with
  | own o => exact document.isLeaf_charAsText ▸ optional _ _ _ read
  | shared o => exact optional _ _ _ read

/-- To all places but maps the order of keys and nulls make no difference. -/
theorem steady {p : Place kind} (other : p.isMap = false) : Decoder.Steady p.read := by
  have text : Decoder.Steady Decoder.text :=
    Decoder.steady_of_isLeaf fun document a read => by cases document <;> first | rfl | cases read
  have charAsText : Decoder.Steady fun document => Decoder.text document.charAsText :=
    Decoder.steady_of_isLeaf fun document a read => by cases document <;> first | rfl | cases read
  match kind, p with
  | _, .scalar o => exact Decoder.steady_of_isLeaf fun _ _ => isLeaf_of_read_scalar
  | _, .collection .pureNames => exact text.list nofun
  | _, .collection .dropLabels => exact text.list nofun
  | _, .collection .engines => exact EngineVersion.steady.list nofun
  | .build, .collection .entryPoints => exact charAsText.list nofun
  | .build, .collection .external => exact charAsText.list nofun
  | .build, .collection .inject => exact charAsText.list nofun

theorem read_table_ne_ok {p : Place kind} (other : p.isMap = false)
    (entries : List (String × Document)) (x : p.Held) : p.read (.table entries) ≠ .ok x := by
  match kind, p with
  | _, .scalar o =>
    intro read
    cases isLeaf_of_read_scalar read
  | _, .collection .pureNames => exact nofun
  | _, .collection .dropLabels => exact nofun
  | _, .collection .engines => exact nofun
  | .build, .collection .entryPoints => exact nofun
  | .build, .collection .external => exact nofun
  | .build, .collection .inject => exact nofun

/-- Null leaves an option unset; lists cannot be null. -/
theorem eq_empty_of_read_null {p : Place kind} (other : p.isMap = false) {x : p.Held}
    (read : p.read .null = .ok x) : x = held empty p := by
  match kind, p with
  | .build, .scalar (.own o) => exact (Except.ok.inj read).symm
  | .transform, .scalar (.own o) => exact (Except.ok.inj read).symm
  | .build, .scalar (.shared o) => exact (Except.ok.inj read).symm
  | .transform, .scalar (.shared o) => exact (Except.ok.inj read).symm
  | .shared, .scalar (.shared o) => exact (Except.ok.inj read).symm
  | _, .collection .pureNames => cases read
  | _, .collection .dropLabels => cases read
  | _, .collection .engines => cases read
  | .build, .collection .entryPoints => cases read
  | .build, .collection .external => cases read
  | .build, .collection .inject => cases read

/-! ## Maps -/

/-- What may stand in a map. -/
def IsItem (p : Place kind) (document : Document) : Prop :=
  ∃ x, p.read (.table [("", document)]) = .ok x

theorem isMap_iff {p : Place kind} : p.isMap = true ↔
    p = .collection .define ∨ p = .collection .logOverride ∨ p = .collection .supported := by
  constructor
  · intro map
    cases p with
    | scalar o => cases map
    | collection c => cases c <;> simp [isMap] at map ⊢
  · rintro (rfl | rfl | rfl) <;> rfl

theorem exists_table_of_read {p : Place kind} (map : p.isMap = true) {document : Document}
    {x : p.Held} (read : p.read document = .ok x) : ∃ entries, document = .table entries := by
  cases document with
  | table entries => exact ⟨entries, rfl⟩
  | _ => obtain rfl | rfl | rfl := isMap_iff.mp map <;> cases read

/-- A table is read as a map if each of its values can stand in one. -/
theorem exists_read_table_iff {p : Place kind} (map : p.isMap = true)
    {entries : List (String × Document)} :
    (∃ x, p.read (.table entries) = .ok x) ↔ ∀ entry ∈ entries, p.IsItem entry.2 := by
  obtain rfl | rfl | rfl := isMap_iff.mp map <;>
    simp only [IsItem, Place.read, Decoder.exists_map_table_iff, List.forall_mem_singleton]

theorem IsItem.isLeaf {p : Place kind} (map : p.isMap = true) {document : Document}
    (item : p.IsItem document) : document.isLeaf = true ∧ document.isNull = false := by
  obtain ⟨x, read⟩ := item
  cases document with
  | text s => exact ⟨rfl, rfl⟩
  | bool b => exact ⟨rfl, rfl⟩
  | _ => obtain rfl | rfl | rfl := isMap_iff.mp map <;> cases read

end Place

end BundleHost
