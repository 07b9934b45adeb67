import BundleHost.Vocabulary
import Mathlib.Data.List.Nodup

/-!
# Laws of enumerations

In a lawful enumeration a key is the name or an alias of one member at most, and a code belongs to
one member at most. So what a name, an alias or a code finds is the member it belongs to.

## Main statements

* `ofKey?_eq_some_iff`, `ofCode?_eq_some_iff` — what is found.
* `ofName?_name` — a member is found by its name.
* `Vocabulary.lawful` — the vocabularies of the options are lawful.
-/

namespace BundleHost

namespace Enumeration

variable (α : Type) [Enumeration α]

/-- All that members are called, each with its member. -/
def spellings : List (String × α) := aliases ++ members.map fun m => (name m, m)

/-- Every member is listed, nothing is called alike, and canonical names are keys. -/
class Lawful : Prop where
  mem_members (m : α) : m ∈ (members : List α)
  nodup_spellings : (Entries.keys (spellings α)).Nodup
  nodup_codes : ((members : List α).map code).Nodup
  key_name : ∀ m ∈ (members : List α), key (name m) = name m

variable {α}

/-- The member goes by this key: its canonical name or an alias. -/
def GoesBy (m : α) (key : String) : Prop := key = name m ∨ (key, m) ∈ aliases

theorem ofKey?_eq_lookup? (key : String) :
    (ofKey? key : Option α) = Entries.lookup? key (spellings α) := by
  rw [Entries.lookup?_eq_find?, spellings, List.find?_append, List.find?_map, Option.map_or,
    Option.map_map]
  simp [ofKey?, Function.comp_def]

variable [Lawful α]

theorem mem_spellings {m : α} {key : String} : (key, m) ∈ spellings α ↔ GoesBy m key := by
  simp only [GoesBy, spellings, List.mem_append, List.mem_map, Prod.mk.injEq]
  constructor
  · rintro (further | ⟨m, _, rfl, rfl⟩)
    · exact .inr further
    · exact .inl rfl
  · rintro (rfl | further)
    · exact .inr ⟨m, Lawful.mem_members m, rfl, rfl⟩
    · exact .inl further

theorem ofKey?_eq_some_iff {m : α} {key : String} : ofKey? key = some m ↔ GoesBy m key := by
  rw [ofKey?_eq_lookup?, Entries.lookup?_eq_some_iff Lawful.nodup_spellings, mem_spellings]

@[simp]
theorem ofName?_name (m : α) : ofName? (name m) = some m := by
  rw [ofName?, Lawful.key_name m (Lawful.mem_members m)]
  exact ofKey?_eq_some_iff.mpr (.inl rfl)

/-- Members are told apart by their names. -/
theorem name_injective : Function.Injective (name : α → String) := by
  intro a b same
  have found : ofName? (name a) = some b := same ▸ ofName?_name b
  exact Option.some.inj ((ofName?_name a).symm.trans found)

theorem ofCode?_eq_some_iff {m : α} {n : Int} : ofCode? n = some m ↔ (code m : Int) = n := by
  constructor
  · intro found
    simpa using List.find?_some found
  · rintro rfl
    have listed : m ∈ (members : List α) := Lawful.mem_members m
    obtain ⟨other, found⟩ : ∃ other : α, ofCode? (code m : Int) = some other :=
      Option.isSome_iff_exists.mp (List.find?_isSome.mpr ⟨m, listed, by simp⟩)
    have same : code other = code m := by simpa [Int.ofNat_inj] using List.find?_some found
    rw [found, List.inj_on_of_nodup_map Lawful.nodup_codes (Lawful.mem_members other) listed same]

theorem decode_encode (m : α) : decode (encode m) = .ok m := by
  change read (name m) = .ok m
  rw [read, ofName?_name]

end Enumeration

open Enumeration in
instance Vocabulary.lawful (v : Vocabulary) : Lawful v.Member where
  mem_members m := by cases v <;> cases m <;> decide
  nodup_spellings := by cases v <;> decide +kernel
  nodup_codes := by cases v <;> decide
  key_name := by cases v <;> decide +kernel

instance : Enumeration.Lawful Loader := Vocabulary.lawful .loader

instance : Enumeration.Lawful LogLevel := Vocabulary.lawful .logLevel

instance : Enumeration.Lawful EngineName := Vocabulary.lawful .engine

instance : Enumeration.Lawful Target := Vocabulary.lawful .target

end BundleHost
