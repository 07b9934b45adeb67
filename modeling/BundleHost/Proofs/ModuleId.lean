import BundleHost.ModuleId
import BundleHost.Proofs.Text.Split

/-!
# Reading module identifiers back

An identifier that begins with the mark and has a separator behind it is read as a namespace and a
path; every other one is the path of a file. Namespaces that are valid and not that of files come
through this unharmed, with any path.

## Main statements

* `ofId_eq_file_iff` — which identifiers are read as files of that path.
* `ofId_toId`, `toId_inj` — valid namespaces and their paths are read back.
-/

namespace BundleHost.ModuleRef

/-- `id` is written like the identifier of `ref` in a namespace of its own. -/
structure Spells (id : String) (ref : ModuleRef) : Prop where
  unsplit : separator ∉ ref.space.toList
  chars : id.toList = mark :: (ref.space.toList ++ separator :: ref.path.toList)

variable {id : String} {ref other : ModuleRef}

theorem Spells.ofId_eq (h : Spells id ref) : ofId id = ref := by
  have split : Text.splitFirst? separator (ref.space.toList ++ separator :: ref.path.toList) =
      some (ref.space.toList, ref.path.toList) := Text.splitFirst?_eq_some_iff.mpr ⟨h.unsplit, rfl⟩
  simp only [ofId, h.chars, if_true, split, String.ofList_toList]

theorem ofId_eq_file_of_not_spells (h : ∀ ref, ¬ Spells id ref) :
    ofId id = ⟨Space.file, id⟩ := by
  unfold ofId
  split
  next c rest chars =>
    split
    next marked =>
      subst marked
      cases split : Text.splitFirst? separator rest with
      | none => rfl
      | some parts =>
        obtain ⟨unsplit, joined⟩ := Text.splitFirst?_eq_some_iff.mp split
        refine absurd ?_ (h ⟨String.ofList parts.1, String.ofList parts.2⟩)
        exact ⟨by simpa using unsplit, by simp [chars, joined]⟩
    next => rfl
  next => rfl

/-- An identifier is read as the file of that path unless it spells another module. -/
theorem ofId_eq_file_iff : ofId id = ⟨Space.file, id⟩ ↔ ∀ ref, ¬ Spells id ref := by
  refine ⟨fun file ref h => ?_, ofId_eq_file_of_not_spells⟩
  -- The path that is spelled is a proper part of the identifier.
  have same : ref.path = id := congrArg ModuleRef.path (h.ofId_eq.symm.trans file)
  have longer := congrArg List.length h.chars
  rw [same] at longer
  simp only [List.length_cons, List.length_append] at longer
  omega

theorem Spells.isMarked (h : Spells id ref) : isMarked id = true := by
  simp [ModuleRef.isMarked, h.chars]

theorem Spells.ne_sourceId (h : Spells id ref) : id ≠ sourceId := by
  rintro rfl
  exact absurd h.isMarked (by decide)

/-! ## Identifiers of modules that are no files -/

theorem spells_toId (valid : Space.isValid ref.space = true)
    (outside : Space.isFile ref.space = false) : Spells ref.toId ref := by
  refine ⟨(Space.isValid_iff.mp valid).2.1, ?_⟩
  simp [toId, outside]

theorem ofId_toId (valid : Space.isValid ref.space = true)
    (outside : Space.isFile ref.space = false) : ofId ref.toId = ref :=
  (spells_toId valid outside).ofId_eq

theorem toId_inj (valid : Space.isValid ref.space = true)
    (outside : Space.isFile ref.space = false) (valid' : Space.isValid other.space = true)
    (outside' : Space.isFile other.space = false) : ref.toId = other.toId ↔ ref = other := by
  refine ⟨fun same => ?_, congrArg toId⟩
  rw [← ofId_toId valid outside, same, ofId_toId valid' outside']

end BundleHost.ModuleRef
