import BundleHost.Proofs.Settings.Place

/-!
# What settings were given

An option is explicit if its place holds something else than in settings in which nothing was given.
What an option was given can be taken back: a scalar option is unset, a list or map is emptied.

## Main statements

* `mem_explicitOptions_iff` — the explicit options by what their places hold.
* `held_withdraw` — taking back some options changes their places only.
-/

namespace BundleHost.Settings

open SettingsKind OptionFamily

variable {kind : SettingsKind}

theorem held_empty_scalar (o : kind.ScalarOption) :
    held (empty : kind.Settings) (.scalar o) = none := by
  cases kind <;> cases o <;> rfl

theorem isFilled_iff (settings : kind.Settings) (c : kind.Collection) :
    isFilled settings c = true ↔
      held settings (.collection c) ≠ held empty (.collection c) := by
  cases kind <;> cases c <;>
    simp [isFilled, held, content, Collection.isEmpty, OrderedMap.isEmpty, OrderedMap.ext_iff] <;>
    rfl

theorem isGiven_iff (settings : kind.Settings) (o : kind.ScalarOption) :
    isGiven settings (OptionFamily.name o) = true ↔
      held settings (.scalar o) ≠ held empty (.scalar o) := by
  rw [isGiven_name, held_empty_scalar, held, Option.isSome_iff_ne_none]

theorem mem_explicitOptions_iff {settings : kind.Settings} {name : String} :
    name ∈ explicitOptions settings ↔
      ∃ p : Place kind, p.name = name ∧ held settings p ≠ held empty p := by
  simp only [explicitOptions_eq, List.mem_append, List.mem_filter, List.mem_map, or_assoc]
  constructor
  · rintro (⟨⟨o, _, rfl⟩, given⟩ | ⟨c, ⟨_, filled⟩, rfl⟩ | ⟨⟨o, _, rfl⟩, given⟩ |
      ⟨c, ⟨_, filled⟩, rfl⟩)
    · exact ⟨.scalar (.shared o), rfl, (isGiven_iff settings (.shared o)).mp given⟩
    · exact ⟨.collection c, rfl, (isFilled_iff settings c).mp filled⟩
    · exact ⟨.scalar (.own o), rfl, (isGiven_iff settings (.own o)).mp given⟩
    · exact ⟨.collection c, rfl, (isFilled_iff settings c).mp filled⟩
  · rintro ⟨p, rfl, holds⟩
    match p with
    | .scalar (.shared o) =>
      exact .inl ⟨⟨o, mem_all o, rfl⟩, (isGiven_iff settings (.shared o)).mpr holds⟩
    | .scalar (.own o) =>
      exact .inr (.inr (.inl ⟨⟨o, mem_all o, rfl⟩, (isGiven_iff settings (.own o)).mpr holds⟩))
    | .collection c =>
      have filled := (isFilled_iff settings c).mpr holds
      rcases Place.mem_allShared_or_mem_allOwn c with listed | listed
      · exact .inr (.inl ⟨c, ⟨listed, filled⟩, rfl⟩)
      · exact .inr (.inr (.inr ⟨c, ⟨listed, filled⟩, rfl⟩))

/-! ## Taking back -/

/-- Takes back what one option was given. -/
def clear (settings : kind.Settings) : Place kind → kind.Settings
  | .scalar o => (Edit.unset (OptionFamily.name o)).perform settings
  | .collection c => fill settings c (content empty c)

/-- Takes back what the named options were given. -/
def withdraw (settings : kind.Settings) (names : List String) : kind.Settings :=
  ((Place.all kind).filter (·.name ∈ names)).foldl clear settings

theorem clear_eq_put (settings : kind.Settings) (p : Place kind) :
    clear settings p = put settings p (held empty p) := by
  cases p with
  | scalar o =>
    rw [clear, Edit.perform_unset, option?_name, held_empty_scalar]
    rfl
  | collection c => rfl

theorem held_clear (settings : kind.Settings) (p q : Place kind) :
    held (clear settings p) q = if q = p then held empty q else held settings q := by
  rw [clear_eq_put]
  by_cases same : q = p
  · subst same
    rw [held_put_self, if_pos rfl]
  · rw [held_put_of_ne settings same, if_neg same]

theorem held_foldl_clear (places : List (Place kind)) (settings : kind.Settings)
    (q : Place kind) :
    held (places.foldl clear settings) q =
      if q ∈ places then held empty q else held settings q := by
  induction places generalizing settings with
  | nil => simp
  | cons p rest ih =>
    rw [List.foldl_cons, ih, held_clear]
    by_cases later : q ∈ rest <;> by_cases here : q = p <;> simp [later, here]

theorem held_withdraw (settings : kind.Settings) (names : List String) (p : Place kind) :
    held (withdraw settings names) p =
      if p.name ∈ names then held empty p else held settings p := by
  simp [withdraw, held_foldl_clear, Place.mem_all]

end BundleHost.Settings
