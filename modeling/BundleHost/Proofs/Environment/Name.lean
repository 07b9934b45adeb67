import BundleHost.Configuration.Environment
import BundleHost.Proofs.Text.Ascii
import BundleHost.Proofs.Text.Split
import BundleHost.Proofs.Text.Trim
import BundleHost.Settings.Kind

/-!
# Names of variables

A variable is called by a marker, a section and an option, in capitals, with two underscores between
the latter. Options are called by small letters with single underscores, so these names lead to
their sections and options.

## Main statements

* `keys?_of_names` — where a name leads.
* `isOptionName_name` — options are called in that way.
-/

namespace BundleHost.Environment

open Text
open Unicode (isWhiteSpace)

/-- The characters that options are called with. -/
def isOptionChar (c : Char) : Bool := c.isLower || c = '_'

/-- An option is called by small letters, with single underscores between them. -/
structure IsOptionName (name : List Char) : Prop where
  chars : ∀ c ∈ name, isOptionChar c = true
  single : ¬ ['_', '_'] <:+: name
  nonempty : name ≠ []

instance (name : List Char) : Decidable (IsOptionName name) :=
  decidable_of_iff (name.all isOptionChar = true ∧ ¬ ['_', '_'] <:+: name ∧ name ≠ [])
    ⟨fun ⟨chars, single, nonempty⟩ => ⟨List.all_eq_true.mp chars, single, nonempty⟩,
      fun ⟨chars, single, nonempty⟩ => ⟨List.all_eq_true.mpr chars, single, nonempty⟩⟩

theorem upper_of_isOptionChar {c : Char} (h : isOptionChar c = true) :
    isWhiteSpace c.toUpper = false ∧ (c.toUpper = '_' → c = '_') ∧ c.toUpper.toLower = c := by
  have low : c.toNat < 128 := by
    simp only [isOptionChar, Bool.or_eq_true, decide_eq_true_eq] at h
    obtain small | rfl := h
    · have := isLower_iff.mp small
      omega
    · decide
  have fact := Text.of_forall_ofNat (P := fun c => isOptionChar c = true →
    isWhiteSpace c.toUpper = false ∧ (c.toUpper = '_' → c = '_') ∧ c.toUpper.toLower = c)
    (by decide +kernel) low
  exact fact h

section Names

variable {name : List Char} (called : IsOptionName name)

include called

theorem IsOptionName.black : ∀ c ∈ name.map Char.toUpper, isWhiteSpace c = false := by
  simp only [List.mem_map, forall_exists_index, and_imp, forall_apply_eq_imp_iff₂]
  exact fun c mem => (upper_of_isOptionChar (called.chars c mem)).1

theorem IsOptionName.single_upper : ¬ ['_', '_'] <:+: name.map Char.toUpper := by
  rw [List.infix_map_iff]
  rintro ⟨part, inside, eq⟩
  obtain ⟨a, rest, rfl, first, eq⟩ := List.map_eq_cons_iff.mp eq.symm
  obtain ⟨b, rest, rfl, second, eq⟩ := List.map_eq_cons_iff.mp eq
  obtain rfl := List.map_eq_nil_iff.mp eq
  have back : ∀ c ∈ [a, b], c.toUpper = '_' → c = '_' := fun c mem =>
    (upper_of_isOptionChar (called.chars c (inside.subset mem))).2.1
  obtain rfl := back a (by simp) first
  obtain rfl := back b (by simp) second
  exact called.single inside

theorem IsOptionName.no_point : '.' ∉ name := fun mem =>
  absurd (called.chars '.' mem) (by decide)

theorem IsOptionName.lower_upper : (name.map Char.toUpper).map Char.toLower = name := by
  rw [List.map_map]
  refine (List.map_congr_left fun c mem => ?_).trans (List.map_id name)
  exact (upper_of_isOptionChar (called.chars c mem)).2.2

end Names

section Joined

variable {place option : List Char} (placed : IsOptionName place) (word : '_' ∉ place)
  (called : IsOptionName option)

include placed called

theorem black_of_joined {mark : List Char} (black : mark.any isWhiteSpace = false) :
    ∀ c ∈ place.map Char.toUpper ++ mark ++ option.map Char.toUpper, isWhiteSpace c = false := by
  simp only [List.forall_mem_append]
  exact ⟨⟨placed.black, fun c mem => by simpa using List.any_eq_false.mp black c mem⟩, called.black⟩

include word

/-- Only the underscores between the two names are two. -/
theorem replaceChars_joined :
    replaceChars ['_', '_'] ['.'] 0
      (place.map Char.toUpper ++ ['_', '_'] ++ option.map Char.toUpper) =
        place.map Char.toUpper ++ ['.'] ++ option.map Char.toUpper := by
  have absent : '_' ∉ place.map Char.toUpper := by
    simp only [List.mem_map, not_exists, not_and]
    intro c mem eq
    exact word ((upper_of_isOptionChar (placed.chars c mem)).2.1 eq ▸ mem)
  rw [List.append_assoc, replaceChars_append absent, List.append_assoc]
  simp [replaceChars, replaceChars_eq_self called.single_upper]

end Joined

/-- The names of a section and an option, in capitals, lead to the option. -/
theorem keys?_of_names {place option : String} (placed : IsOptionName place.toList)
    (word : '_' ∉ place.toList) (called : IsOptionName option.toList) :
    keys? ("KEEL_" ++ upperAscii place ++ "__" ++ upperAscii option) = some [place, option] := by
  let joined (mark : List Char) : List Char :=
    place.toList.map Char.toUpper ++ mark ++ option.toList.map Char.toUpper
  have chars : ("KEEL_" ++ upperAscii place ++ "__" ++ upperAscii option).toList =
      'K' :: 'E' :: 'E' :: 'L' :: '_' :: joined ['_', '_'] := by
    simp [upperAscii, joined]
  have black : ∀ c ∈ 'K' :: 'E' :: 'E' :: 'L' :: '_' :: joined ['_', '_'],
      isWhiteSpace c = false := by
    simp only [List.forall_mem_cons]
    exact ⟨by decide, by decide, by decide, by decide, by decide,
      black_of_joined placed called (by decide)⟩
  have replaced : replaceChars ['_', '_'] ['.'] 0 (joined ['_', '_']) = joined ['.'] :=
    replaceChars_joined placed word called
  have trimmed : trimChars (joined ['.']) = joined ['.'] :=
    trimChars_of_black (black_of_joined placed called (by decide))
  have lowered : (joined ['.']).map Char.toLower = place.toList ++ '.' :: option.toList := by
    simp only [joined, List.map_append, placed.lower_upper, called.lower_upper]
    simp
  have pieces : splitOn '.' (place.toList ++ '.' :: option.toList) =
      [place.toList, option.toList] := by
    rw [splitOn_append placed.no_point, splitOn_of_not_mem called.no_point]
  have full : place ≠ "" ∧ option ≠ "" :=
    ⟨fun empty => placed.nonempty (empty ▸ rfl), fun empty => called.nonempty (empty ▸ rfl)⟩
  have marked : marker.isPrefixOf
      (('K' :: 'E' :: 'E' :: 'L' :: '_' :: joined ['_', '_']).map Char.toLower) = true := by
    simp [marker, List.isPrefixOf]
  have old : "__".toList = ['_', '_'] := rfl
  have new : ".".toList = ['.'] := rfl
  simp only [keys?, trim, replace, lowerAscii, String.toList_ofList, chars,
    trimChars_of_black black, old, new]
  rw [if_pos marked, marker, List.length, List.drop]
  simp [replaced, trimmed, lowered, pieces, full]

theorem isOptionName_name {kind : SettingsKind} (o : kind.ScalarOption) :
    IsOptionName (OptionFamily.name o).toList := by
  have shared : ∀ o ∈ SharedOption.all, IsOptionName o.name.toList := by decide +kernel
  have build : ∀ o ∈ BuildOption.all, IsOptionName o.name.toList := by decide +kernel
  have transform : ∀ o ∈ TransformOption.all, IsOptionName o.name.toList := by decide +kernel
  match kind, o with
  | _, .shared o => exact shared o (OptionFamily.mem_all o)
  | .build, .own o => exact build o (OptionFamily.mem_all o)
  | .transform, .own o => exact transform o (OptionFamily.mem_all o)

end BundleHost.Environment
