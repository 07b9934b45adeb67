import BundleHost.Externals
import BundleHost.Proofs.Decoder
import BundleHost.Proofs.Text.Split
import BundleHost.Regex.Engine
import BundleHost.Settings.Validation

/-!
# What external patterns cover

A pattern with a star covers the specifiers with anything in place of the star, and a pattern
without one covers the package of that name and what lies below it. Whether a specifier begins and
ends as a pattern says is not enough for the first, because beginning and end could overlap in it;
together they must not be larger than the specifier. That can be counted in characters or in bytes.
Of several stars only the first would stand for anything, but validation accepts no such pattern.

## Main statements

* `Text.exists_between_iff` — a beginning and an end that do not overlap, by any size of texts.
* `ExternalPattern.admits_ofText_iff` — what a pattern with at most one star admits.
* `external_of_settings` — which specifiers are external under settings that are accepted.
-/

namespace BundleHost

/-! ## Beginnings and ends -/

namespace Text

/-- If beginning and end are together no larger than the text, they do not overlap in it. -/
theorem exists_between_iff {size : List Char → Nat}
    (size_append : ∀ a b, size (a ++ b) = size a + size b) (eq_nil : ∀ a, size a = 0 → a = [])
    {before after text : List Char} :
    (∃ between, text = before ++ between ++ after) ↔
      size before + size after ≤ size text ∧ before <+: text ∧ after <:+ text := by
  constructor
  · rintro ⟨between, rfl⟩
    refine ⟨?_, ?_, List.suffix_append _ _⟩
    · rw [size_append, size_append]
      omega
    · exact List.append_assoc .. ▸ List.prefix_append _ _
  · rintro ⟨fits, ⟨rest, rfl⟩, front, split⟩
    obtain ⟨overlap, rfl, rfl⟩ | ⟨between, rfl, rfl⟩ := List.append_eq_append_iff.mp split
    · rw [size_append, size_append, size_append, size_append] at fits
      obtain rfl := eq_nil overlap (by omega)
      exact ⟨[], by simp⟩
    · exact ⟨between, by simp⟩

theorem head?_eq_some_iff {text : String} {c : Char} :
    text.toList.head? = some c ↔ ∃ rest, text = String.singleton c ++ rest := by
  constructor
  · intro first
    obtain ⟨rest, chars⟩ := List.head?_eq_some_iff.mp first
    exact ⟨.ofList rest, String.toList_injective (by simp [chars])⟩
  · rintro ⟨rest, rfl⟩
    simp

theorem splitFirst?_eq_none_iff {mark : Char} {text : List Char} :
    splitFirst? mark text = none ↔ mark ∉ text := by
  constructor
  · intro whole occurs
    obtain ⟨before, after, rfl, absent⟩ := List.eq_append_cons_of_mem occurs
    rw [splitFirst?_eq_some_iff.mpr ⟨absent, rfl⟩] at whole
    cases whole
  · intro absent
    cases split : splitFirst? mark text with
    | none => rfl
    | some parts =>
      have found := (splitFirst?_eq_some_iff.mp split).2
      simp [found] at absent

end Text

/-! ## Patterns -/

namespace ExternalPattern

/-- A pattern covers a specifier. -/
inductive Covers : String → String → Prop
  /-- Anything may stand for the star. -/
  | star (before between after : String) :
      Covers (before ++ "*" ++ after) (before ++ between ++ after)
  /-- Without a star the pattern is the name of a package. -/
  | package {name : String} (plain : '*' ∉ name.toList) : Covers name name
  | below {name : String} (plain : '*' ∉ name.toList) (rest : String) :
      Covers name (name ++ "/" ++ rest)

theorem admits_wildcard_iff {before after specifier : List Char} :
    (wildcard before after).admits specifier = true ↔
      ∃ between, specifier = before ++ between ++ after := by
  rw [Text.exists_between_iff (fun _ _ => List.length_append) fun _ =>
    List.eq_nil_of_length_eq_zero]
  simp [admits, and_assoc]

theorem admits_package_iff {name specifier : List Char} :
    (package name).admits specifier = true ↔
      specifier = name ∨ ∃ rest, specifier = name ++ '/' :: rest := by
  simp only [admits, Bool.or_eq_true, decide_eq_true_eq, List.isPrefixOf_iff_prefix]
  constructor
  · rintro (same | ⟨rest, rfl⟩)
    · exact .inl same
    · exact .inr ⟨rest, by simp⟩
  · rintro (same | ⟨rest, rfl⟩)
    · exact .inl same
    · exact .inr ⟨rest, by simp⟩

variable {pattern before after name specifier : String}

theorem exists_star_or_plain (pattern : String) :
    (∃ before after, pattern = before ++ "*" ++ after) ∨ '*' ∉ pattern.toList := by
  by_cases occurs : '*' ∈ pattern.toList
  · obtain ⟨before, after, chars⟩ := List.append_of_mem occurs
    refine .inl ⟨.ofList before, .ofList after, String.toList_injective ?_⟩
    simp [chars]
  · exact .inr occurs

/-- With at most one star, the part before it has none. -/
theorem not_mem_before (single : hasSeveralStars (before ++ "*" ++ after) = false) :
    '*' ∉ before.toList := by
  intro occurs
  have several := List.count_pos_iff.mpr occurs
  simp [hasSeveralStars, List.count_append] at single
  omega

theorem ofText_star (single : hasSeveralStars (before ++ "*" ++ after) = false) :
    ofText (before ++ "*" ++ after) = .wildcard before.toList after.toList := by
  have split : Text.splitFirst? '*' (before ++ "*" ++ after).toList =
      some (before.toList, after.toList) :=
    Text.splitFirst?_eq_some_iff.mpr ⟨not_mem_before single, by simp⟩
  simp only [ofText, split]

theorem ofText_plain (plain : '*' ∉ name.toList) : ofText name = .package name.toList := by
  simp only [ofText, Text.splitFirst?_eq_none_iff.mpr plain]

theorem covers_star_iff (single : hasSeveralStars (before ++ "*" ++ after) = false) :
    Covers (before ++ "*" ++ after) specifier ↔
      ∃ between, specifier = before ++ between ++ after := by
  constructor
  · generalize same : before ++ "*" ++ after = pattern at single
    intro covers
    cases covers with
    | star before' between after' =>
      -- There is only one star to split at.
      have texts := ofText_star single
      rw [← same] at single
      rw [← same, ofText_star single, wildcard.injEq, String.toList_inj, String.toList_inj] at texts
      obtain ⟨rfl, rfl⟩ := texts
      exact ⟨between, rfl⟩
    | package plain => simp [← same] at plain
    | below plain => simp [← same] at plain
  · rintro ⟨between, rfl⟩
    exact .star before between after

theorem covers_plain_iff (plain : '*' ∉ name.toList) :
    Covers name specifier ↔ specifier = name ∨ ∃ rest, specifier = name ++ "/" ++ rest := by
  constructor
  · intro covers
    cases covers with
    | star => simp at plain
    | package => exact .inl rfl
    | below _ rest => exact .inr ⟨rest, rfl⟩
  · rintro (rfl | ⟨rest, rfl⟩)
    · exact .package plain
    · exact .below plain rest

theorem admits_ofText_iff (single : hasSeveralStars pattern = false) :
    (ofText pattern).admits specifier.toList = true ↔ Covers pattern specifier := by
  obtain ⟨before, after, rfl⟩ | plain := exists_star_or_plain pattern
  · rw [ofText_star single, admits_wildcard_iff, covers_star_iff single]
    constructor
    · rintro ⟨between, chars⟩
      exact ⟨.ofList between, String.toList_injective (by simp [chars])⟩
    · rintro ⟨between, rfl⟩
      exact ⟨between.toList, by simp⟩
  · rw [ofText_plain plain, admits_package_iff, covers_plain_iff plain, String.toList_inj]
    refine or_congr_right ⟨?_, ?_⟩
    · rintro ⟨rest, chars⟩
      exact ⟨.ofList rest, String.toList_injective (by simp [chars])⟩
    · rintro ⟨rest, rfl⟩
      exact ⟨rest.toList, by simp⟩

/-- Counted in bytes, the beginning and the end of a pattern do not overlap in what it covers. -/
theorem covers_star_iff_utf8ByteSize
    (single : hasSeveralStars (before ++ "*" ++ after) = false) :
    Covers (before ++ "*" ++ after) specifier ↔
      before.utf8ByteSize + after.utf8ByteSize ≤ specifier.utf8ByteSize ∧
        before.toList <+: specifier.toList ∧ after.toList <:+ specifier.toList := by
  have size_append : ∀ a b : List Char, (String.ofList (a ++ b)).utf8ByteSize =
      (String.ofList a).utf8ByteSize + (String.ofList b).utf8ByteSize := fun a b => by
    rw [String.ofList_append, String.utf8ByteSize_append]
  have eq_nil : ∀ a : List Char, (String.ofList a).utf8ByteSize = 0 → a = [] := fun a empty => by
    simpa using String.utf8ByteSize_eq_zero_iff.mp empty
  have between : (∃ between, specifier.toList = before.toList ++ between ++ after.toList) ↔ _ :=
    Text.exists_between_iff size_append eq_nil
  rw [String.ofList_toList, String.ofList_toList, String.ofList_toList] at between
  rw [← between, ← admits_wildcard_iff, ← ofText_star single, admits_ofText_iff single]

end ExternalPattern

/-! ## Settings -/

theorem isBareSpecifier_iff {specifier : String} :
    isBareSpecifier specifier = true ↔
      specifier ≠ "" ∧ ∀ rest, specifier ≠ "." ++ rest ∧ specifier ≠ "/" ++ rest := by
  have dot : (∃ rest, specifier = "." ++ rest) ↔ specifier.toList.head? = some '.' :=
    (Text.head?_eq_some_iff (c := '.')).symm
  have slash : (∃ rest, specifier = "/" ++ rest) ↔ specifier.toList.head? = some '/' :=
    (Text.head?_eq_some_iff (c := '/')).symm
  have empty : specifier = "" ↔ specifier.toList.head? = none := by simp
  simp only [forall_and, ne_eq, ← not_exists, dot, slash, empty, isBareSpecifier]
  cases specifier.toList.head? <;> simp

section AnyEngine

variable [RegexEngine]

/-- Validation accepts no pattern with several stars. -/
theorem hasSeveralStars_of_validate {settings : BuildSettings}
    (accepted : settings.validate = .ok ()) {pattern : String}
    (member : pattern ∈ settings.external) : hasSeveralStars pattern = false := by
  simp only [BuildSettings.validate, Decoder.bind_eq_ok_iff] at accepted
  obtain ⟨_, -, _, -, _, -, _, -, _, stars, -⟩ := accepted
  unfold checkStars at stars
  split at stars
  next => cases stars
  next none => simpa using List.find?_eq_none.mp none pattern member

/-- Under settings that are accepted, an import is external if nothing is bundled, if a pattern
covers it, or if packages are external and it begins with no dot and no slash. The beginning and the
end of a pattern do not share a byte of a specifier that it covers. -/
theorem external_of_settings {settings : BuildSettings} (accepted : settings.validate = .ok ())
    (specifier : String) :
    ((ExternalPolicy.forBuild settings).isExternal specifier = true ↔
      settings.bundle = false ∨
      (∃ pattern ∈ settings.external, ExternalPattern.Covers pattern specifier) ∨
      (settings.packages = .external ∧ specifier ≠ "" ∧
        ∀ rest, specifier ≠ "." ++ rest ∧ specifier ≠ "/" ++ rest)) ∧
    ∀ before after, before ++ "*" ++ after ∈ settings.external →
      (ExternalPattern.Covers (before ++ "*" ++ after) specifier ↔
        before.utf8ByteSize + after.utf8ByteSize ≤ specifier.utf8ByteSize ∧
          before.toList <+: specifier.toList ∧ after.toList <:+ specifier.toList) := by
  constructor
  · have covered : ((settings.external.map ExternalPattern.ofText).any
        (·.admits specifier.toList) = true) ↔
        ∃ pattern ∈ settings.external, ExternalPattern.Covers pattern specifier := by
      simp only [List.any_map, List.any_eq_true, Function.comp_apply]
      refine exists_congr fun pattern => and_congr_right fun member => ?_
      exact ExternalPattern.admits_ofText_iff (hasSeveralStars_of_validate accepted member)
    simp only [ExternalPolicy.isExternal, ExternalPolicy.forBuild, Bool.or_eq_true, covered,
      Bool.and_eq_true, Bool.not_eq_true', decide_eq_true_eq, isBareSpecifier_iff, or_assoc]
  · intro before after member
    exact ExternalPattern.covers_star_iff_utf8ByteSize
      (hasSeveralStars_of_validate accepted member)

end AnyEngine

/-- A beginning and an end of two bytes each: they do not overlap in a specifier of two bytes. -/
theorem external_of_settings_two_bytes :
    let settings := ({ external := ["é*é", "lodash"] } : BuildSettings).assign .bundle true
    settings.validate = .ok () ∧
      (ExternalPolicy.forBuild settings).isExternal "é.é" = true ∧
      (ExternalPolicy.forBuild settings).isExternal "lodash/fp" = true ∧
      ¬ ExternalPattern.Covers "é*é" "é" := by
  intro settings
  have accepted : settings.validate = .ok () := rfl
  refine ⟨accepted, ?_, ?_, ?_⟩
  · exact (external_of_settings accepted _).1.mpr
      (.inr (.inl ⟨_, List.mem_cons_self, .star "é" "." "é"⟩))
  · exact (external_of_settings accepted _).1.mpr
      (.inr (.inl ⟨"lodash", by decide, .below (by decide) "fp"⟩))
  · intro covers
    have fits := ((external_of_settings accepted "é").2 "é" "é" List.mem_cons_self).mp covers
    exact absurd fits.1 (by decide)

end BundleHost
