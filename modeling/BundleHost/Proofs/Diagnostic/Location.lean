import BundleHost.Diagnostic.Basic
import BundleHost.Diagnostic.Location
import BundleHost.Proofs.Regex.Lawful
import BundleHost.Proofs.Text.Ascii
import BundleHost.Proofs.Text.Split

/-!
# Finding a location that was displayed

A diagnostic is displayed behind its place: a file, a line and maybe a column, with colons between
them. That is the first word of the text, and behind the last dot of the file's name there is no
further one in it. So this place is found again, whatever the message says.

## Main statements

* `lastDot?_append`, `position?_append` — what a word with a place in it is taken for.
* `find_append` — the first word of a text, if it has a place in it.
* `Diagnostic.find_display` — the place of a diagnostic is found in its text.
-/

namespace BundleHost

namespace Location

/-! ## The last dot -/

section LastDot

variable {α : Type} {test : List Char → Option α}

theorem lastDot?_of_not_mem {text : List Char} (absent : '.' ∉ text) (before : List Char) :
    lastDot? test before text = none := by
  induction text generalizing before with
  | nil => rfl
  | cons c rest ih =>
    obtain ⟨other, absent⟩ := List.ne_and_not_mem_of_not_mem_cons absent
    simp [lastDot?, ih absent, other.symm]

/-- The last dot is taken if the test succeeds behind it. -/
theorem lastDot?_append {base rest before : List Char} {found : α} (last : '.' ∉ rest)
    (nonempty : before ++ base ≠ []) (success : test rest = some found) :
    lastDot? test before (base ++ '.' :: rest) = some (before.reverse ++ base, found) := by
  induction base generalizing before with
  | nil =>
    have begun : before ≠ [] := by simpa using nonempty
    simp [lastDot?, lastDot?_of_not_mem last, begun, success]
  | cons c base ih =>
    have later : lastDot? test (c :: before) (base ++ '.' :: rest) =
        some ((c :: before).reverse ++ base, found) := ih (List.cons_ne_nil _ _)
    simp [lastDot?, later]

end LastDot

/-! ## Numbers behind colons -/

theorem lt_of_isDigit {c : Char} (digit : c.isDigit = true) : c.toNat < 58 := by
  have range := Text.isDigit_iff.mp digit
  omega

/-- A digit of ASCII is neither a break nor a dot. -/
theorem kinds_of_isDigit {c : Char} (digit : c.isDigit = true) : isBreak c = false ∧ c ≠ '.' := by
  have kinds := Text.of_forall_ofNat (P := fun c => c.isDigit = true →
    isBreak c = false ∧ c ≠ '.') (by decide +kernel) (lt_of_isDigit digit)
  exact kinds digit

theorem kinds_of_mem_toDigits {n : Nat} {c : Char} (mem : c ∈ Nat.toDigits 10 n) :
    isBreak c = false ∧ c ≠ '.' :=
  kinds_of_isDigit (Text.isDigit_of_mem_toDigits mem)

section Engine

variable [RegexEngine] [RegexEngine.LawfulDigits]

theorem isDecimalDigit_of_isDigit {c : Char} (digit : c.isDigit = true) :
    RegexEngine.isDecimalDigit c = true := by
  have low := lt_of_isDigit digit
  rw [RegexEngine.LawfulDigits.isDecimalDigit_ascii (by omega), digit]

theorem isDecimalDigit_colon : RegexEngine.isDecimalDigit ':' = false :=
  RegexEngine.LawfulDigits.isDecimalDigit_ascii (by decide)

/-- What is read behind a colon ends before the next one. -/
theorem digitsAfterColon?_toDigits (n : Nat) {rest : List Char} (colon : rest.head? = some ':') :
    digitsAfterColon? (':' :: (Nat.toDigits 10 n ++ rest)) = some (Nat.toDigits 10 n, rest) := by
  have digits : ∀ c ∈ Nat.toDigits 10 n, RegexEngine.isDecimalDigit c = true := fun _ mem =>
    isDecimalDigit_of_isDigit (Text.isDigit_of_mem_toDigits mem)
  have ends : ∀ c ∈ rest.head?, RegexEngine.isDecimalDigit c = false := by
    rw [colon]
    rintro c ⟨⟩
    exact isDecimalDigit_colon
  rw [digitsAfterColon?, Text.span_append digits ends]
  split
  next none => exact absurd (congrArg Prod.fst none) Nat.toDigits_ne_nil
  next => rfl

end Engine

theorem number?_toDigits {n : Nat} (small : n < UInt32.size) :
    number? (Nat.toDigits 10 n) = some n := by
  have digits : (Nat.toDigits 10 n).all Char.isDigit = true :=
    List.all_eq_true.mpr fun _ => Text.isDigit_of_mem_toDigits
  have value : (Nat.toDigits 10 n).foldl (fun n c => 10 * n + (c.toNat - '0'.toNat)) 0 = n :=
    Nat.ofDigitChars_ten_toDigits
  rw [number?, if_pos digits, value]
  exact if_pos small

/-! ## Endings of source files -/

/-- The ending of the name of a script, a JSON file or a style sheet. -/
inductive IsSourceEnding : String → Prop where
  | script {module language elements : String} : module ∈ ["", "c", "m"] →
      language ∈ ["j", "t"] → elements ∈ ["", "x"] →
        IsSourceEnding (module ++ language ++ "s" ++ elements)
  | json : IsSourceEnding "json"
  | css : IsSourceEnding "css"

theorem IsSourceEnding.mem_extensions {ending : String} (source : IsSourceEnding ending) :
    ending ∈ extensions := by
  have scripts : ∀ module ∈ ["", "c", "m"], ∀ language ∈ ["j", "t"], ∀ elements ∈ ["", "x"],
      module ++ language ++ "s" ++ elements ∈ extensions := by
    decide
  cases source with
  | script module language elements => exact scripts _ module _ language _ elements
  | json => decide
  | css => decide

theorem IsSourceEnding.isExtension_eq {ending : String} (source : IsSourceEnding ending) :
    isExtension ending.toList = true := by
  rw [isExtension, String.ofList_toList]
  exact List.contains_iff_mem.mpr source.mem_extensions

theorem IsSourceEnding.plain {ending : String} (source : IsSourceEnding ending) :
    '.' ∉ ending.toList ∧ ':' ∉ ending.toList := by
  have listed : ∀ ending ∈ extensions, '.' ∉ ending.toList ∧ ':' ∉ ending.toList := by
    decide
  exact listed ending source.mem_extensions

/-- The name of a source file in a word: nothing in it ends a word. -/
structure IsSourceFile (file : String) : Prop where
  exists_base : ∃ base ending, base ≠ "" ∧ IsSourceEnding ending ∧ file = base ++ "." ++ ending
  unbroken : ∀ c ∈ file.toList,
    Unicode.isWhiteSpace c = false ∧ c ∉ ['"', '\'', '(', ')', ',']

theorem IsSourceFile.isBreak_eq {file : String} (source : IsSourceFile file) :
    ∀ c ∈ file.toList, isBreak c = false := by
  intro c mem
  obtain ⟨black, plain⟩ := source.unbroken c mem
  simpa [isBreak, black, and_assoc] using plain

/-! ## Places in a first word -/

/-- What stands behind a line in the first word of a displayed diagnostic. -/
def columnText : Option Nat → List Char
  | none => [':']
  | some column => ':' :: (Nat.toDigits 10 column ++ [':'])

theorem head?_columnText (column : Option Nat) : (columnText column).head? = some ':' := by
  cases column <;> rfl

/-- What stands behind a file in the first word of a displayed diagnostic. -/
def placeText (line : Nat) (column : Option Nat) : List Char :=
  ':' :: (Nat.toDigits 10 line ++ columnText column)

theorem kinds_of_mem_columnText {column : Option Nat} {c : Char} (mem : c ∈ columnText column) :
    isBreak c = false ∧ c ≠ '.' := by
  have colon : isBreak ':' = false ∧ ':' ≠ '.' := by decide
  cases column with
  | none => exact List.mem_singleton.mp mem ▸ colon
  | some column =>
    simp only [columnText, List.mem_cons, List.mem_append, List.not_mem_nil, or_false] at mem
    rcases mem with rfl | mem | rfl
    · exact colon
    · exact kinds_of_mem_toDigits mem
    · exact colon

theorem kinds_of_mem_placeText {line : Nat} {column : Option Nat} {c : Char}
    (mem : c ∈ placeText line column) : isBreak c = false ∧ c ≠ '.' := by
  rw [placeText, List.mem_cons, List.mem_append] at mem
  rcases mem with rfl | mem | mem
  · decide
  · exact kinds_of_mem_toDigits mem
  · exact kinds_of_mem_columnText mem

section Files

variable [RegexEngine] [RegexEngine.LawfulDigits]

/-- The column is read if there is one. -/
theorem bind_columnText {column : Option Nat} (small : ∀ n ∈ column, n < UInt32.size) :
    ((digitsAfterColon? (columnText column)).bind fun (digits, _) => number? digits) = column := by
  cases column with
  | none => rfl
  | some column =>
    rw [columnText, digitsAfterColon?_toDigits column rfl]
    exact number?_toDigits (small column rfl)

variable {line : Nat} {column : Option Nat} (small : line < UInt32.size)
  (small' : ∀ n ∈ column, n < UInt32.size)
include small small'

/-- An ending with a place behind it. -/
theorem position?_append {ending : String} (source : IsSourceEnding ending) :
    position? (ending.toList ++ placeText line column) =
      some (ending.toList, some line, column) := by
  have plain : ∀ c ∈ ending.toList, decide (c ≠ ':') = true := fun c mem =>
    decide_eq_true (ne_of_mem_of_not_mem mem source.plain.2)
  rw [position?, Text.span_append plain (by simp [placeText])]
  simp only [source.isExtension_eq, if_true, placeText,
    digitsAfterColon?_toDigits line (head?_columnText column), Option.map_some,
    number?_toDigits small, bind_columnText small']

theorem ofWord?_append {file : String} (called : IsSourceFile file) :
    ofWord? (file.toList ++ placeText line column) = some ⟨some file, some line, column⟩ := by
  obtain ⟨base, ending, nonempty, source, rfl⟩ := called.exists_base
  have last : '.' ∉ ending.toList ++ placeText line column := by
    rintro mem
    rcases List.mem_append.mp mem with mem | mem
    · exact source.plain.1 mem
    · exact (kinds_of_mem_placeText mem).2 rfl
  have chars : (base ++ "." ++ ending).toList ++ placeText line column =
      base.toList ++ '.' :: (ending.toList ++ placeText line column) := by
    simp
  have begins : [] ++ base.toList ≠ [] := by simpa using nonempty
  rw [ofWord?, chars, lastDot?_append last begins (position?_append small small' source)]
  simp [fileName, String.ofList_append, String.append_assoc]

end Files

/-- A text whose first word has a place in it. -/
theorem find_append [RegexEngine] {word rest : List Char} {c : Char} {text : String}
    {location : Location} (chars : text.toList = word ++ c :: rest) (ends : isBreak c = true)
    (unbroken : ∀ c ∈ word, isBreak c = false) (found : ofWord? word = some location) :
    find text = location := by
  have nonempty : word ≠ [] := by
    rintro rfl
    cases found
  have first : words text.toList = word :: words rest := by
    rw [chars, words, Text.splitWhere_append ends, Text.splitWhere_of_forall unbroken]
    simp [words, nonempty]
  simp [find, first, found]

end Location

/-! ## Displayed diagnostics -/

namespace Diagnostic

variable {diagnostic : Diagnostic} {file : String} {line : Nat}

theorem toList_display (named : diagnostic.file = some file)
    (placed : diagnostic.line = some line) :
    diagnostic.display.toList =
      file.toList ++ Location.placeText line diagnostic.column ++
        ' ' :: (diagnostic.kind.name ++ ": " ++ diagnostic.message).toList := by
  cases column : diagnostic.column <;>
    simp [display, location?, named, placed, column, Location.placeText, Location.columnText]

/-- The place of a diagnostic is found in its text, whatever its message says. -/
theorem find_display [RegexEngine] [RegexEngine.LawfulDigits]
    (named : diagnostic.file = some file) (source : Location.IsSourceFile file)
    (placed : diagnostic.line = some line) (small : line < UInt32.size)
    (small' : ∀ column ∈ diagnostic.column, column < UInt32.size) :
    Location.find diagnostic.display =
      ⟨diagnostic.file, diagnostic.line, diagnostic.column⟩ := by
  have unbroken : ∀ c ∈ file.toList ++ Location.placeText line diagnostic.column,
      Location.isBreak c = false := by
    intro c mem
    rcases List.mem_append.mp mem with mem | mem
    · exact source.isBreak_eq c mem
    · exact (Location.kinds_of_mem_placeText mem).1
  rw [Location.find_append (toList_display named placed) (by decide) unbroken
    (Location.ofWord?_append small small' source), named, placed]

/-- A name with colons, digits and a further ending in it, and a message about another place. -/
theorem find_display_colons :
    let diagnostic : Diagnostic :=
      { kind := .other "a.js:1", severity := .error, message := "see b.ts:7:8"
        file := some "c:1.js:3.mtsx", line := some 4294967295, column := some 0 }
    Location.IsSourceFile "c:1.js:3.mtsx" ∧
      Location.find diagnostic.display =
        ⟨some "c:1.js:3.mtsx", some 4294967295, some 0⟩ := by
  intro diagnostic
  have ending : Location.IsSourceEnding "mtsx" :=
    @Location.IsSourceEnding.script "m" "t" "x" (by decide) (by decide) (by decide)
  have source : Location.IsSourceFile "c:1.js:3.mtsx" :=
    ⟨⟨"c:1.js:3", "mtsx", by decide, ending, by decide⟩, by simp [Unicode.isWhiteSpace]⟩
  exact ⟨source, find_display rfl source rfl (by decide) (by decide)⟩

end Diagnostic

end BundleHost
