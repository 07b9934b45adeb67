import BundleHost.Configuration.Sources
import BundleHost.Proofs.Document.Tree
import BundleHost.Proofs.Toml.Tree

/-!
# Configuration files

Files of both formats are read as tables in which no key is repeated.

## Main statements

* `isTree_of_readFile` — what a file is read as.
-/

namespace BundleHost.Configuration

open Document

theorem exists_table_of_readValue {fuel depth : Nat} {start rest inside : List Char}
    {document : Document} (brace : Json.skipBlanks start = '\x7b' :: inside)
    (read : Json.readValue fuel depth start = some (document, rest)) :
    ∃ entries, document = .table entries := by
  cases fuel with
  | zero => cases read
  | succ fuel =>
    simp only [Json.readValue, brace] at read
    cases depth with
    | zero => cases read
    | succ depth =>
      simp only at read
      split at read
      · obtain ⟨rfl, -⟩ := Prod.mk.inj (Option.some.inj read)
        exact ⟨_, rfl⟩
      · obtain ⟨_, -, eq⟩ := Option.map_eq_some_iff.mp read
        obtain ⟨rfl, -⟩ := Prod.mk.inj eq
        exact ⟨_, rfl⟩

theorem isTree_of_readJson {text : String} {document : Document}
    (read : readJson text = .ok document) :
    document.IsTree ∧ ∃ entries, document = .table entries := by
  rw [readJson] at read
  split at read
  next inside brace =>
    split at read
    next found parsed =>
      obtain rfl := Except.ok.inj read
      refine ⟨isTree_unique found, ?_⟩
      rw [Json.parse?] at parsed
      split at parsed
      next value rest value_eq =>
        split at parsed
        · obtain rfl := Option.some.inj parsed
          obtain ⟨entries, rfl⟩ := exists_table_of_readValue brace value_eq
          rw [unique]
          exact ⟨_, rfl⟩
        · cases parsed
      next => cases parsed
    next => cases read
  next => cases read

theorem isTree_of_readToml {text : String} {document : Document}
    (read : readToml text = .ok document) :
    document.IsTree ∧ ∃ entries, document = .table entries := by
  rw [readToml] at read
  split at read
  next found parsed =>
    obtain rfl := Except.ok.inj read
    exact Toml.isTree_parse? parsed
  next => cases read

/-- Files are read as tables, and as trees. -/
theorem isTree_of_readFile {disk : Disk} {path : String} {document : Document}
    (read : readFile disk path = .ok (.ok document)) :
    document.IsTree ∧ ∃ entries, document = .table entries := by
  rw [readFile] at read
  split at read
  · simp only at read
    split at read
    next format _ =>
      have read := Except.ok.inj read
      rw [FileFormat.read] at read
      split at read
      · split at read
        · cases read
        · cases format with
          | toml => exact isTree_of_readToml read
          | json => exact isTree_of_readJson read
      · obtain rfl := Except.ok.inj read
        exact ⟨.table List.nodup_nil nofun, [], rfl⟩
    next => cases read
  · cases read

end BundleHost.Configuration
