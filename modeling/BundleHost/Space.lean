/-!
# Namespaces

A module is known by its path and a namespace. The namespace `file`, for which the empty text
stands as well, holds the modules that are read from disk.
-/

namespace BundleHost.Space

/-- The namespace of modules on disk. -/
def file : String := "file"

/-- Not empty and without colons and NUL, so that it can stand in a module's name. -/
def isValid (space : String) : Bool :=
  !space.isEmpty && space.toList.all fun c => c ≠ ':' && c ≠ '\x00'

theorem isValid_iff {space : String} :
    isValid space = true ↔ space ≠ "" ∧ ':' ∉ space.toList ∧ '\x00' ∉ space.toList := by
  simp only [isValid, Bool.and_eq_true, Bool.not_eq_true', String.isEmpty_eq_false_iff,
    List.all_eq_true, decide_eq_true_eq]
  constructor
  · rintro ⟨named, clean⟩
    exact ⟨named, fun h => (clean _ h).1 rfl, fun h => (clean _ h).2 rfl⟩
  · rintro ⟨named, colon, nul⟩
    exact ⟨named, fun c h => ⟨fun e => colon (e ▸ h), fun e => nul (e ▸ h)⟩⟩

def isFile (space : String) : Bool := space.isEmpty || space = file

theorem isFile_iff {space : String} : isFile space = true ↔ space = "" ∨ space = file := by
  simp [isFile]

/-- Whether a rule that is restricted to a namespace, if to any, admits modules of another. -/
def admits (restriction : Option String) (space : String) : Bool :=
  match restriction with
  | none => true
  | some only => if isFile only then isFile space else only = space

end BundleHost.Space
