import BundleHost.Proofs.Json.Scalars

/-!
# Reading what was printed

A document of nulls, truth values, integers of 64 bits, texts, lists and tables is read back from
its JSON text as it is, if it is nested no deeper than the reader goes. Keys may repeat.

## Main statements

* `parse?_print` — a printed document is read back.
-/

namespace BundleHost.Json

/-- Documents whose lists and tables are nested at most `depth` deep, of what JSON can tell apart:
the text of a float need not be a number, and a character is printed like a text. -/
inductive Plain : Nat → Document → Prop
  | null {depth : Nat} : Plain depth .null
  | bool {depth : Nat} (value : Bool) : Plain depth (.bool value)
  | int {depth : Nat} {value : Int} (word : IsWord value) : Plain depth (.int value)
  | text {depth : Nat} (value : String) : Plain depth (.text value)
  | list {depth : Nat} {items : List Document} (plain : ∀ item ∈ items, Plain depth item) :
    Plain (depth + 1) (.list items)
  | table {depth : Nat} {entries : List (String × Document)}
    (plain : ∀ entry ∈ entries, Plain depth entry.2) : Plain (depth + 1) (.table entries)

/-! ## The first character -/

@[simp]
theorem skipBlanks_cons {c : Char} (h : isBlank c = false) (rest : List Char) :
    skipBlanks (c :: rest) = c :: rest := by
  simp [skipBlanks, h]

/-- An integer begins with a digit or with its sign. -/
theorem exists_writeInt (n : Int) :
    ∃ c rest, writeInt n = c :: rest ∧ (c.isDigit = true ∨ c = '-') := by
  cases n with
  | ofNat n =>
    obtain ⟨c, rest, eq⟩ : ∃ c rest, Nat.toDigits 10 n = c :: rest :=
      List.exists_cons_of_ne_nil Nat.toDigits_ne_nil
    exact ⟨c, rest, eq, .inl (Text.isDigit_of_mem_toDigits (n := n) (by simp [eq]))⟩
  | negSucc n => exact ⟨'-', _, rfl, .inr rfl⟩

/-- What begins an integer begins nothing else. -/
theorem ne_of_startsInt {c d : Char} (start : c.isDigit = true ∨ c = '-')
    (h : d ∈ ['"', 'n', 't', 'f', '[', ']', '\x7b', '\x7d', ' ', '\n', '\t', '\r']) : c ≠ d := by
  rintro rfl
  revert start h
  simp only [List.mem_cons, List.not_mem_nil, or_false]
  rintro start (rfl | rfl | rfl | rfl | rfl | rfl | rfl | rfl | rfl | rfl | rfl | rfl) <;>
    exact absurd start (by decide)

/-- A document begins with no blank, and not like the end of a list. -/
theorem Plain.exists_write {depth : Nat} {document : Document} (plain : Plain depth document) :
    ∃ c rest, write document = c :: rest ∧ isBlank c = false ∧ c ≠ ']' := by
  cases plain with
  | null => exact ⟨'n', _, rfl, rfl, by decide⟩
  | bool value => cases value <;> exact ⟨_, _, rfl, rfl, by decide⟩
  | int word =>
    obtain ⟨c, rest, eq, start⟩ := exists_writeInt _
    have other := @ne_of_startsInt c
    exact ⟨c, rest, eq, by simp [isBlank, other start], other start (by decide)⟩
  | text value => exact ⟨'"', _, rfl, rfl, by decide⟩
  | list => exact ⟨'[', _, rfl, rfl, by decide⟩
  | table => exact ⟨'\x7b', _, rfl, rfl, by decide⟩

/-! ## Values -/

/-- Reading gives the document back from its text, whatever follows. -/
def Reads (depth : Nat) (document : Document) : Prop :=
  ∀ fuel rest, 2 * (write document).length < fuel → EndsNumber rest →
    readValue fuel depth (write document ++ rest) = some (document, rest)

theorem readScalar_writeInt {n : Int} {rest : List Char} (word : IsWord n)
    (ends : EndsNumber rest) : readScalar (writeInt n ++ rest) = some (.int n, rest) := by
  have number := readNumber_writeInt word ends
  obtain ⟨c, digits, eq, start⟩ := exists_writeInt n
  have other := @ne_of_startsInt c
  rw [eq, List.cons_append] at number ⊢
  rw [readScalar, number]
  all_goals
    intro _ h
    obtain ⟨rfl, -⟩ := List.cons.inj h
    exact absurd start (by decide)

theorem readKey_writeString (key : String) (rest : List Char) :
    readKey (writeString key ++ ':' :: rest) = some (key, rest) := by
  obtain ⟨inside, eq, reads⟩ := exists_writeString key
  simp [readKey, eq, reads, isBlank]

theorem reads_of_scalar {depth : Nat} {document : Document}
    (scalar : ∀ rest, EndsNumber rest →
      readScalar (write document ++ rest) = some (document, rest))
    (start : ∃ c rest, write document = c :: rest ∧ isBlank c = false ∧ c ≠ '[' ∧ c ≠ '\x7b') :
    Reads depth document := by
  intro fuel rest enough ends
  obtain ⟨c, text, eq, visible, list, table⟩ := start
  obtain ⟨fuel, rfl⟩ : ∃ n, fuel = n + 1 := ⟨fuel - 1, by omega⟩
  have value := scalar rest ends
  rw [eq, List.cons_append] at value ⊢
  rw [readValue, skipBlanks_cons visible]
  split <;> simp_all

/-! ## Lists and tables -/

theorem readItems_writeItems {depth : Nat} {items : List Document} (nonempty : items ≠ [])
    (reads : ∀ item ∈ items, Reads depth item) (fuel : Nat)
    (enough : 2 * (writeItems items).length + 1 < fuel) (rest : List Char) :
    readItems fuel depth (writeItems items ++ ']' :: rest) = some (items, rest) := by
  induction items generalizing fuel with
  | nil => exact absurd rfl nonempty
  | cons item more ih =>
    obtain ⟨fuel, rfl⟩ : ∃ n, fuel = n + 1 := ⟨fuel - 1, by omega⟩
    have first := reads item List.mem_cons_self
    cases more with
    | nil =>
      simp only [writeItems] at enough ⊢
      rw [readItems, first fuel _ (by omega) (endsNumber_cons (by decide) _)]
      simp [isBlank]
    | cons next more =>
      simp only [writeItems, List.length_append, List.length_cons] at enough
      have others := ih (by simp) (fun item h => reads item (List.mem_cons_of_mem _ h)) fuel
        (by omega)
      simp only [writeItems, List.append_assoc, List.cons_append]
      rw [readItems, first fuel _ (by omega) (endsNumber_cons (by decide) _)]
      simp [isBlank, others]

theorem skipBlanks_writeString (text : String) (rest : List Char) :
    skipBlanks (writeString text ++ rest) = writeString text ++ rest := by
  simp [writeString, isBlank]

theorem readEntries_writeEntries {depth : Nat} {entries : List (String × Document)}
    (nonempty : entries ≠ []) (reads : ∀ entry ∈ entries, Reads depth entry.2) (fuel : Nat)
    (enough : 2 * (writeEntries entries).length + 1 < fuel) (rest : List Char) :
    readEntries fuel depth (writeEntries entries ++ '\x7d' :: rest) = some (entries, rest) := by
  induction entries generalizing fuel with
  | nil => exact absurd rfl nonempty
  | cons entry more ih =>
    obtain ⟨fuel, rfl⟩ : ∃ n, fuel = n + 1 := ⟨fuel - 1, by omega⟩
    obtain ⟨key, value⟩ := entry
    have first : Reads depth value := reads (key, value) List.mem_cons_self
    cases more with
    | nil =>
      simp only [writeEntries, List.length_append, List.length_cons] at enough
      simp only [writeEntries, List.append_assoc, List.cons_append]
      rw [readEntries, skipBlanks_writeString, readKey_writeString]
      simp only
      rw [first fuel _ (by omega) (endsNumber_cons (by decide) _)]
      simp [isBlank]
    | cons next more =>
      simp only [writeEntries, List.length_append, List.length_cons] at enough
      have others := ih (by simp) (fun entry h => reads entry (List.mem_cons_of_mem _ h)) fuel
        (by omega)
      simp only [writeEntries, List.append_assoc, List.cons_append]
      rw [readEntries, skipBlanks_writeString, readKey_writeString]
      simp only
      rw [first fuel _ (by omega) (endsNumber_cons (by decide) _)]
      simp [isBlank, others]

/-- The items of a list begin like its first item. -/
theorem exists_writeItems {depth : Nat} {items : List Document} (nonempty : items ≠ [])
    (plain : ∀ item ∈ items, Plain depth item) :
    ∃ c rest, writeItems items = c :: rest ∧ isBlank c = false ∧ c ≠ ']' := by
  match items, nonempty with
  | [item], _ => exact (plain item List.mem_cons_self).exists_write
  | item :: next :: more, _ =>
    obtain ⟨c, rest, eq, start⟩ := (plain item List.mem_cons_self).exists_write
    exact ⟨c, rest ++ ',' :: writeItems (next :: more), by simp [writeItems, eq], start⟩

/-- The entries of a table begin with the quote of a key. -/
theorem exists_writeEntries {entries : List (String × Document)} (nonempty : entries ≠ []) :
    ∃ rest, writeEntries entries = '"' :: rest := by
  match entries, nonempty with
  | [_], _ => exact ⟨_, rfl⟩
  | _ :: _ :: _, _ => exact ⟨_, rfl⟩

theorem reads_list {depth : Nat} {items : List Document}
    (plain : ∀ item ∈ items, Plain depth item) (reads : ∀ item ∈ items, Reads depth item) :
    Reads (depth + 1) (.list items) := by
  intro fuel rest enough _
  obtain ⟨fuel, rfl⟩ : ∃ n, fuel = n + 1 := ⟨fuel - 1, by omega⟩
  by_cases empty : items = []
  · simp [empty, write, writeItems, readValue, isBlank]
  · simp only [write, List.length_append, List.length_cons, List.length_nil] at enough
    have inside := readItems_writeItems empty reads fuel (by omega) rest
    obtain ⟨c, text, eq, visible, filled⟩ := exists_writeItems empty plain
    have bracket : isBlank '[' = false := rfl
    simp only [eq, List.cons_append] at inside
    simp [write, eq, readValue, bracket, visible, filled, inside]

theorem reads_table {depth : Nat} {entries : List (String × Document)}
    (reads : ∀ entry ∈ entries, Reads depth entry.2) :
    Reads (depth + 1) (.table entries) := by
  intro fuel rest enough _
  obtain ⟨fuel, rfl⟩ : ∃ n, fuel = n + 1 := ⟨fuel - 1, by omega⟩
  by_cases empty : entries = []
  · simp [empty, write, writeEntries, readValue, isBlank]
  · simp only [write, List.length_append, List.length_cons, List.length_nil] at enough
    have inside := readEntries_writeEntries empty reads fuel (by omega) rest
    obtain ⟨text, eq⟩ := exists_writeEntries empty
    simp only [eq, List.cons_append] at inside
    simp [write, eq, readValue, isBlank, inside]

/-! ## Documents -/

theorem Plain.reads {depth : Nat} {document : Document} (plain : Plain depth document) :
    Reads depth document := by
  induction plain with
  | null =>
    exact reads_of_scalar (fun _ _ => by simp [write, readScalar]) ⟨'n', _, rfl, rfl, by decide⟩
  | bool value =>
    cases value <;>
      exact reads_of_scalar (fun _ _ => by simp [write, readScalar]) ⟨_, _, rfl, rfl, by decide⟩
  | int word =>
    obtain ⟨c, rest, eq, start⟩ := exists_writeInt _
    have other := @ne_of_startsInt c
    exact reads_of_scalar (fun _ ends => by simpa [write] using readScalar_writeInt word ends)
      ⟨c, rest, by simpa [write] using eq, by simp [isBlank, other start],
        other start (by decide), other start (by decide)⟩
  | text value =>
    obtain ⟨inside, eq, reads⟩ := exists_writeString value
    exact reads_of_scalar (fun rest _ => by simp [write, eq, readScalar, reads])
      ⟨'"', inside, by simp [write, eq], rfl, by decide⟩
  | list plain ih => exact reads_list plain ih
  | table plain ih => exact reads_table ih

/-- A printed document is read back. -/
theorem parse?_print {document : Document} (plain : Plain depthLimit document) :
    parse? (print document) = some document := by
  have read : read? (write document) = some (document, []) := by
    have value := plain.reads (2 * (write document).length + 2) [] (by omega) endsNumber_nil
    rwa [List.append_nil] at value
  simp [parse?, print, read, skipBlanks]

end BundleHost.Json
