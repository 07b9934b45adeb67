import BundleHost.Diagnostic.Report
import BundleHost.Proofs.Diagnostic.Location
import BundleHost.Proofs.Text.Trim

/-!
# Positions in a text

A place in a text is the name of a source file with the decimal digits of a line behind a colon, and
maybe those of a column behind another one. Of all places in a text the one that begins first is
taken, and of those that begin there the one with the longest name. The numbers of line and column
are read from the digits of that place, each on its own. So a column is found without a line where
the digits of the line write no number of 32 bits in ASCII and those of the column do.

## Main definitions

* `Place`, `StandsIn`, `IsFirst` — places in a text, and the one that is taken.
* `Spells` — digits that write a number.

## Main statements

* `IsFirst.unique` — one place is taken.
* `outcome_words` — the first word in which a place is found has the place that is taken.
* `position_of_find` — what is found in any text.
-/

namespace BundleHost.Location

/-! ## The last dot -/

section LastDot

variable {α : Type} {test : List Char → Option α} {text rest before front : List Char}

theorem test_eq_none_of_lastDot? (missing : lastDot? test before (front ++ '.' :: rest) = none)
    (begun : before ++ front ≠ []) : test rest = none := by
  induction front generalizing before with
  | nil =>
    have nonempty : before ≠ [] := by simpa using begun
    obtain ⟨-, here⟩ := Option.or_eq_none_iff.mp missing
    simpa [nonempty] using here
  | cons c front ih =>
    obtain ⟨later, -⟩ := Option.or_eq_none_iff.mp missing
    exact ih later (by simp)

/-- Behind the last dot where the test succeeds there is no further one. -/
theorem exists_of_lastDot? {base : List Char} {found : α}
    (some_dot : lastDot? test before text = some (base, found)) :
    ∃ front rest, text = front ++ '.' :: rest ∧ base = before.reverse ++ front ∧ base ≠ [] ∧
      test rest = some found ∧
      ∀ front' rest', rest = front' ++ '.' :: rest' → test rest' = none := by
  induction text generalizing before with
  | nil => cases some_dot
  | cons c text ih =>
    rw [lastDot?, Option.or_eq_some_iff] at some_dot
    obtain later | ⟨missing, here⟩ := some_dot
    · obtain ⟨front, rest, rfl, rfl, nonempty, success, last⟩ := ih later
      exact ⟨c :: front, rest, rfl, by simp, nonempty, success, last⟩
    · obtain ⟨dot, here⟩ := Option.ite_none_right_eq_some.mp here
      obtain ⟨found, success, same⟩ := Option.map_eq_some_iff.mp here
      obtain ⟨rfl, rfl⟩ := Prod.mk.inj same
      obtain ⟨rfl, begun⟩ : c = '.' ∧ before ≠ [] := by simpa using dot
      refine ⟨[], text, rfl, by simp, by simpa using begun, success, ?_⟩
      rintro front' rest' rfl
      exact test_eq_none_of_lastDot? missing (by simp)

end LastDot

/-! ## Words and endings -/

/-- Endings have neither colons nor breaks in them. -/
theorem plain_of_isExtension {ending : List Char} (source : isExtension ending = true) :
    ∀ c ∈ ending, c ≠ ':' ∧ isBreak c = false := by
  have listed : ∀ ending ∈ extensions,
      (ending.toList.all fun c => c ≠ ':' && !isBreak c) = true := by
    decide
  have mem : String.ofList ending ∈ extensions := List.contains_iff_mem.mp source
  have plain := listed _ mem
  rw [String.toList_ofList] at plain
  simpa using plain

theorem words_append_break {c : Char} (breaks : isBreak c = true) (word rest : List Char) :
    words (word ++ c :: rest) = words word ++ words rest := by
  rw [words, Text.splitWhere_append breaks, List.filter_append, words, words]

/-! ## Numbers -/

/-- Digits of ASCII that write a number of 32 bits. -/
structure Spells (digits : List Char) (n : Nat) : Prop where
  ascii : ∀ c ∈ digits, c.isDigit = true
  value : Nat.ofDigitChars 10 digits 0 = n
  small : n < UInt32.size

theorem number?_eq_some_iff {digits : List Char} {n : Nat} :
    number? digits = some n ↔ Spells digits n := by
  rw [number?, Option.ite_none_right_eq_some, List.all_eq_true]
  change _ ∧ (if Nat.ofDigitChars 10 digits 0 < UInt32.size then
    some (Nat.ofDigitChars 10 digits 0) else none) = some n ↔ _
  rw [Option.ite_none_right_eq_some]
  constructor
  · rintro ⟨ascii, small, same⟩
    obtain rfl := Option.some.inj same
    exact ⟨ascii, rfl, small⟩
  · rintro ⟨ascii, rfl, small⟩
    exact ⟨ascii, small, rfl⟩

/-! ## Decimal digits -/

section AnyEngine

variable [RegexEngine]

theorem isBreak_of_isDecimalDigit [RegexEngine.LawfulDigits] {c : Char}
    (digit : RegexEngine.isDecimalDigit c = true) : isBreak c = false := by
  refine Bool.eq_false_iff.mpr fun breaks => ?_
  -- A break is white space or one of five characters of ASCII that are no digits.
  have white : Unicode.isWhiteSpace c = false := by
    by_contra white
    have black := RegexEngine.LawfulDigits.isDecimalDigit_whiteSpace (Bool.of_not_eq_false white)
    cases digit.symm.trans black
  have low : c.toNat < 128 ∧ c.isDigit = false := by
    simp only [isBreak, white, Bool.false_or, Bool.or_eq_true, decide_eq_true_eq] at breaks
    rcases breaks with (((rfl | rfl) | rfl) | rfl) | rfl <;> decide
  rw [RegexEngine.LawfulDigits.isDecimalDigit_ascii low.1, low.2] at digit
  cases digit

/-- The decimal digits of a line or a column, of any script that the engine knows. -/
def IsNumeral (digits : List Char) : Prop :=
  digits ≠ [] ∧ ∀ c ∈ digits, RegexEngine.isDecimalDigit c = true

/-- No digits go on in the text. -/
def EndsNumber (text : List Char) : Prop := ∀ c ∈ text.head?, RegexEngine.isDecimalDigit c = false

theorem endsNumber_cons {c : Char} {rest : List Char} :
    EndsNumber (c :: rest) ↔ RegexEngine.isDecimalDigit c = false := by
  simp [EndsNumber]

/-- The text begins with the digits of a column. -/
def BeginsColumn (text : List Char) : Prop :=
  ∃ digits rest, text = ':' :: (digits ++ rest) ∧ IsNumeral digits

variable {text digits rest : List Char}

theorem digitsAfterColon?_eq_some_iff :
    digitsAfterColon? text = some (digits, rest) ↔
      text = ':' :: (digits ++ rest) ∧ IsNumeral digits ∧ EndsNumber rest := by
  constructor
  · intro found
    unfold digitsAfterColon? at found
    split at found
    next behind =>
      split at found
      next => cases found
      next some_digit =>
        have cut := Option.some.inj found
        have nonempty : digits ≠ [] := fun none => some_digit rest (none ▸ cut)
        rw [List.span_eq_takeWhile_dropWhile] at cut
        obtain ⟨rfl, rfl⟩ := Prod.mk.inj cut
        have ends : EndsNumber (behind.dropWhile RegexEngine.isDecimalDigit) :=
          Text.head?_dropWhile behind
        refine ⟨by rw [List.takeWhile_append_dropWhile], ⟨nonempty, fun c mem => ?_⟩, ends⟩
        exact List.mem_takeWhile_imp mem
    next => cases found
  · rintro ⟨rfl, ⟨nonempty, numeral⟩, ends⟩
    rw [digitsAfterColon?, Text.span_append numeral ends]
    split
    next none => exact absurd (congrArg Prod.fst none) nonempty
    next => rfl

theorem digitsAfterColon?_eq_none_iff : digitsAfterColon? text = none ↔ ¬ BeginsColumn text := by
  constructor
  · rintro none ⟨digits, rest, rfl, nonempty, numeral⟩
    -- The column begins with these digits and goes on as long as there are any.
    have whole : IsNumeral (digits ++ rest.takeWhile RegexEngine.isDecimalDigit) := by
      refine ⟨List.append_ne_nil_of_left_ne_nil nonempty _, fun c mem => ?_⟩
      rcases List.mem_append.mp mem with here | later
      · exact numeral c here
      · exact List.mem_takeWhile_imp later
    have found := digitsAfterColon?_eq_some_iff.mpr ⟨rfl, whole, Text.head?_dropWhile rest⟩
    rw [List.append_assoc, List.takeWhile_append_dropWhile, none] at found
    cases found
  · intro begins
    rw [Option.eq_none_iff_forall_ne_some]
    rintro ⟨digits, rest⟩ found
    obtain ⟨rfl, numeral, -⟩ := digitsAfterColon?_eq_some_iff.mp found
    exact begins ⟨digits, rest, rfl, numeral⟩

/-! ## Places -/

/-- What stands behind the last dot of a place. -/
structure Position where
  ending : List Char
  line : List Char
  column : Option (List Char)

def columnChars : Option (List Char) → List Char
  | none => []
  | some digits => ':' :: digits

namespace Position

variable (position : Position)

def chars : List Char :=
  position.ending ++ ':' :: (position.line ++ columnChars position.column)

structure IsFormed : Prop where
  ending : isExtension position.ending = true
  line : IsNumeral position.line
  column : ∀ digits ∈ position.column, IsNumeral digits

/-- The digits of a position do not go on in the text behind it, nor does its column begin there. -/
structure EndsBefore (after : List Char) : Prop where
  digits : EndsNumber after
  column : position.column = none → ¬ BeginsColumn after

/-- The position at the beginning of a text, and what follows it. -/
def read? (text : List Char) : Option (Position × List Char) :=
  let (ending, rest) := text.span (· ≠ ':')
  if isExtension ending then
    (digitsAfterColon? rest).map fun (line, rest) =>
      match digitsAfterColon? rest with
      | some (column, rest) => (⟨ending, line, some column⟩, rest)
      | none => (⟨ending, line, none⟩, rest)
  else none

theorem position?_eq (text : List Char) :
    position? text = (read? text).map fun (position, _) =>
      (position.ending, number? position.line, position.column.bind number?) := by
  unfold position? read?
  dsimp only
  split_ifs
  · rw [Option.map_map]
    congr 1
    funext ⟨line, rest⟩
    dsimp only [Function.comp]
    cases digitsAfterColon? rest <;> rfl
  · rfl

end Position

variable [RegexEngine.LawfulDigits]

namespace Position

variable {position : Position} {after : List Char}

theorem read?_eq_some_iff :
    read? text = some (position, after) ↔
      text = position.chars ++ after ∧ position.IsFormed ∧ position.EndsBefore after := by
  constructor
  · intro read
    unfold read? at read
    rw [List.span_eq_takeWhile_dropWhile] at read
    obtain ⟨source, read⟩ := Option.ite_none_right_eq_some.mp read
    obtain ⟨⟨line, behind⟩, found, read⟩ := Option.map_eq_some_iff.mp read
    obtain ⟨colon, numeral, ends⟩ := digitsAfterColon?_eq_some_iff.mp found
    have cut := List.takeWhile_append_dropWhile (p := fun c => decide (c ≠ ':')) (l := text)
    rw [colon] at cut
    dsimp only at read
    split at read
    next column rest found =>
      obtain ⟨rfl, rfl⟩ := Prod.mk.inj read
      obtain ⟨rfl, numeral', ends'⟩ := digitsAfterColon?_eq_some_iff.mp found
      refine ⟨cut.symm.trans (by simp [chars, columnChars]), ⟨source, numeral, ?_⟩, ends', nofun⟩
      rintro digits ⟨⟩
      exact numeral'
    next none =>
      obtain ⟨rfl, rfl⟩ := Prod.mk.inj read
      refine ⟨cut.symm.trans (by simp [chars, columnChars]), ⟨source, numeral, nofun⟩, ends, ?_⟩
      exact fun _ => digitsAfterColon?_eq_none_iff.mp none
  · rintro ⟨rfl, formed, ends⟩
    obtain ⟨ending, line, column⟩ := position
    have plain : ∀ c ∈ ending, decide (c ≠ ':') = true := fun c mem =>
      decide_eq_true (plain_of_isExtension formed.ending c mem).1
    have cut : (Position.chars ⟨ending, line, column⟩ ++ after).span (· ≠ ':') =
        (ending, ':' :: (line ++ (columnChars column ++ after))) := by
      rw [chars, List.append_assoc, List.cons_append, List.append_assoc]
      exact Text.span_append plain (by simp)
    unfold read?
    rw [cut]
    dsimp only
    rw [if_pos formed.ending]
    cases column with
    | none =>
      have here := digitsAfterColon?_eq_some_iff.mpr ⟨rfl, formed.line, ends.digits⟩
      have alone := digitsAfterColon?_eq_none_iff.mpr (ends.column rfl)
      simp [columnChars, here, alone]
    | some digits =>
      have colon : EndsNumber (':' :: (digits ++ after)) := endsNumber_cons.mpr isDecimalDigit_colon
      have here := digitsAfterColon?_eq_some_iff.mpr ⟨rfl, formed.line, colon⟩
      have there := digitsAfterColon?_eq_some_iff.mpr ⟨rfl, formed.column digits rfl, ends.digits⟩
      simp [columnChars, here, there]

end Position

/-! ## Places in a text -/

/-- The name of a source file and a position in it, as they are written. -/
structure Place extends Position where
  /-- The name of the file up to its last dot. -/
  base : List Char

namespace Place

variable (place : Place)

def chars : List Char := place.base ++ '.' :: place.toPosition.chars

structure IsFormed : Prop extends place.toPosition.IsFormed where
  base_ne_nil : place.base ≠ []
  unbroken : ∀ c ∈ place.base, isBreak c = false

def file : String := fileName place.base place.ending

/-- The location that is read from a place. -/
def location : Location := ⟨some place.file, number? place.line, place.column.bind number?⟩

end Place

/-- A place stands in a text, between what is before it and what is behind it. -/
structure StandsIn (text before : List Char) (place : Place) (after : List Char) : Prop where
  chars : text = before ++ (place.chars ++ after)
  formed : place.IsFormed
  ends : place.EndsBefore after

/-- The place that is taken: none begins earlier, and none that begins there has a longer name. -/
structure IsFirst (text before : List Char) (place : Place) (after : List Char) : Prop
    extends StandsIn text before place after where
  leftmost : ∀ before' place' after', StandsIn text before' place' after' →
    before.length ≤ before'.length
  longest : ∀ place' after', StandsIn text before place' after' →
    place'.base.length ≤ place.base.length

variable {before before' after after' : List Char} {place place' : Place}

namespace StandsIn

variable (stands : StandsIn text before place after)
include stands

omit [RegexEngine.LawfulDigits] in
theorem eq_append_dot :
    text = (before ++ place.base) ++ '.' :: (place.toPosition.chars ++ after) := by
  rw [stands.chars, Place.chars]
  simp

theorem read?_eq :
    Position.read? (place.toPosition.chars ++ after) = some (place.toPosition, after) :=
  Position.read?_eq_some_iff.mpr ⟨rfl, stands.formed.toIsFormed, stands.ends⟩

theorem position?_ne_none : position? (place.toPosition.chars ++ after) ≠ none := by
  rw [Position.position?_eq, stands.read?_eq, Option.map_some]
  exact Option.some_ne_none _

end StandsIn

theorem IsFirst.unique (first : IsFirst text before place after)
    (first' : IsFirst text before' place' after') : before = before' ∧ place = place' := by
  have begins : before = before' := by
    have starts := le_antisymm (first.leftmost _ _ _ first'.toStandsIn)
      (first'.leftmost _ _ _ first.toStandsIn)
    exact List.append_inj_left (first.chars.symm.trans first'.chars) starts
  subst begins
  have names := le_antisymm (first'.longest _ _ first.toStandsIn)
    (first.longest _ _ first'.toStandsIn)
  have same := List.append_cancel_left (first.chars.symm.trans first'.chars)
  rw [Place.chars, Place.chars, List.append_assoc, List.append_assoc] at same
  obtain ⟨base, behind⟩ := List.append_inj same names
  -- Behind the same dot the same position is read.
  have behind : place.toPosition.chars ++ after = place'.toPosition.chars ++ after' :=
    (List.cons.inj behind).2
  have read := first.read?_eq
  rw [behind, first'.read?_eq] at read
  obtain ⟨position, -⟩ := Prod.mk.inj (Option.some.inj read)
  exact ⟨rfl, congrArg₂ Place.mk position.symm base⟩

/-! ## Words -/

/-- What a search for places can find: the place that is taken, or nothing if there is none. -/
inductive Outcome (text : List Char) : Option Location → Prop where
  | found {before after : List Char} {place : Place} :
      IsFirst text before place after → Outcome text (some place.location)
  | missing : (∀ before place after, ¬ StandsIn text before place after) → Outcome text none

/-- Where no word ends, a place whose dot is the last one with a position behind it is taken. -/
theorem isFirst_of_last {base : List Char} {position : Position}
    (unbroken : ∀ c ∈ base, isBreak c = false) (nonempty : base ≠ [])
    (read : Position.read? rest = some (position, after))
    (last : ∀ front rest', rest = front ++ '.' :: rest' → position? rest' = none) :
    IsFirst (base ++ '.' :: rest) [] ⟨position, base⟩ after := by
  obtain ⟨rfl, formed, ends⟩ := Position.read?_eq_some_iff.mp read
  refine ⟨⟨by simp [Place.chars], ⟨formed, nonempty, unbroken⟩, ends⟩, ?_, ?_⟩
  · exact fun _ _ _ _ => Nat.zero_le _
  · intro place' after' stands
    have same := stands.eq_append_dot
    rw [List.nil_append] at same
    obtain ⟨more, longer, behind⟩ | ⟨more, shorter, -⟩ := List.append_eq_append_iff.mp same
    · cases more with
      | nil => simp [longer]
      | cons c more =>
        -- A longer name would end at a later dot.
        exact absurd (last more _ (List.cons.inj behind).2) stands.position?_ne_none
    · simp [shorter]

/-- Where no word ends there is one word, and its place is the one with the last dot. -/
theorem outcome_ofWord? {word : List Char} (unbroken : ∀ c ∈ word, isBreak c = false) :
    Outcome word (ofWord? word) := by
  cases dot : lastDot? position? [] word with
  | none =>
    rw [ofWord?, dot]
    refine .missing fun before place after stands => ?_
    rw [stands.eq_append_dot] at dot
    have begun : [] ++ (before ++ place.base) ≠ [] := by simp [stands.formed.base_ne_nil]
    exact stands.position?_ne_none (test_eq_none_of_lastDot? dot begun)
  | some found =>
    obtain ⟨base, found⟩ := found
    rw [ofWord?, dot]
    obtain ⟨_, rest, rfl, rfl, nonempty, success, last⟩ := exists_of_lastDot? dot
    rw [Position.position?_eq] at success
    obtain ⟨⟨position, after⟩, read, rfl⟩ := Option.map_eq_some_iff.mp success
    have inside : ∀ c ∈ base, isBreak c = false := fun c mem =>
      unbroken c (List.mem_append_left _ mem)
    exact .found (isFirst_of_last inside nonempty read last)

/-! ## Breaks -/

section Breaks

variable {c : Char} {word : List Char} (breaks : isBreak c = true)
include breaks

theorem isDecimalDigit_of_isBreak : RegexEngine.isDecimalDigit c = false := by
  by_contra digit
  have unbroken := isBreak_of_isDecimalDigit (Bool.of_not_eq_false digit)
  cases breaks.symm.trans unbroken

theorem endsNumber_append_break : EndsNumber (after ++ c :: rest) ↔ EndsNumber after := by
  cases after with
  | nil => simp [EndsNumber, isDecimalDigit_of_isBreak breaks]
  | cons d after => rw [List.cons_append, endsNumber_cons, endsNumber_cons]

theorem not_mem_columnChars (numeral : IsNumeral digits) : c ∉ ':' :: digits := by
  intro mem
  obtain rfl | mem := List.mem_cons.mp mem
  · exact absurd breaks (by decide)
  · exact absurd (isDecimalDigit_of_isBreak breaks) (by simp [numeral.2 c mem])

theorem beginsColumn_append_break : BeginsColumn (after ++ c :: rest) ↔ BeginsColumn after := by
  constructor
  · rintro ⟨digits, behind, same, numeral⟩
    have column : after ++ c :: rest = [] ++ ((':' :: digits) ++ behind) := same
    rw [Text.append_cons_eq_append_iff (List.cons_ne_nil _ _)
      (not_mem_columnChars breaks numeral)] at column
    obtain ⟨back, rfl, -⟩ | ⟨back, nothing, -⟩ := column
    · exact ⟨digits, back, rfl, numeral⟩
    · simp at nothing
  · rintro ⟨digits, behind, rfl, numeral⟩
    exact ⟨digits, behind ++ c :: rest, by simp, numeral⟩

theorem Position.endsBefore_append_break {position : Position} :
    position.EndsBefore (after ++ c :: rest) ↔ position.EndsBefore after := by
  constructor
  · rintro ⟨digits, column⟩
    exact ⟨(endsNumber_append_break breaks).mp digits,
      fun none => mt (beginsColumn_append_break breaks).mpr (column none)⟩
  · rintro ⟨digits, column⟩
    exact ⟨(endsNumber_append_break breaks).mpr digits,
      fun none => mt (beginsColumn_append_break breaks).mp (column none)⟩

theorem Place.IsFormed.not_mem_chars (formed : place.IsFormed) : c ∉ place.chars := by
  have other : c ≠ '.' ∧ c ≠ ':' := by
    constructor <;>
    · rintro rfl
      exact absurd breaks (by decide)
  have base : c ∉ place.base := fun mem =>
    absurd (formed.unbroken c mem) (by simp [breaks])
  have ending : c ∉ place.ending := fun mem =>
    absurd (plain_of_isExtension formed.ending c mem).2 (by simp [breaks])
  have line := not_mem_columnChars breaks formed.line
  have column : c ∉ columnChars place.column := by
    cases digits : place.column with
    | none => exact List.not_mem_nil
    | some digits => exact not_mem_columnChars breaks (formed.column _ digits)
  simp_all [Place.chars, Position.chars]

/-- A place stands before a break or behind it. -/
theorem standsIn_append_break :
    StandsIn (word ++ c :: rest) before place after ↔
      (∃ back, StandsIn word before place back ∧ after = back ++ c :: rest) ∨
        ∃ back, before = word ++ c :: back ∧ StandsIn rest back place after := by
  have nonempty : place.chars ≠ [] := by simp [Place.chars]
  constructor
  · rintro ⟨chars, formed, ends⟩
    rw [Text.append_cons_eq_append_iff nonempty (formed.not_mem_chars breaks)] at chars
    obtain ⟨back, rfl, rfl⟩ | ⟨back, rfl, rfl⟩ := chars
    · exact .inl ⟨back, ⟨rfl, formed, (Position.endsBefore_append_break breaks).mp ends⟩, rfl⟩
    · exact .inr ⟨back, rfl, rfl, formed, ends⟩
  · rintro (⟨back, ⟨rfl, formed, ends⟩, rfl⟩ | ⟨back, rfl, rfl, formed, ends⟩)
    · exact ⟨by simp, formed, (Position.endsBefore_append_break breaks).mpr ends⟩
    · exact ⟨by simp, formed, ends⟩

/-- The place that is taken stands before the break if one stands there. -/
theorem Outcome.append {here there : Option Location} (first : Outcome word here)
    (later : Outcome rest there) : Outcome (word ++ c :: rest) (here.or there) := by
  cases first with
  | @found before after place first =>
    have stands : StandsIn (word ++ c :: rest) before place (after ++ c :: rest) :=
      (standsIn_append_break breaks).mpr (.inl ⟨after, first.toStandsIn, rfl⟩)
    have short : before.length ≤ word.length := by simp [first.chars]
    refine .found ⟨stands, fun before' place' after' other => ?_, fun place' after' other => ?_⟩
    · obtain ⟨back, inside, -⟩ | ⟨back, rfl, -⟩ := (standsIn_append_break breaks).mp other
      · exact first.leftmost _ _ _ inside
      · exact short.trans (by simp)
    · obtain ⟨back, inside, -⟩ | ⟨back, rfl, -⟩ := (standsIn_append_break breaks).mp other
      · exact first.longest _ _ inside
      · exact absurd short (by simp)
  | missing none =>
    have behind {before place after}
        (stands : StandsIn (word ++ c :: rest) before place after) :
        ∃ back, before = word ++ c :: back ∧ StandsIn rest back place after := by
      obtain ⟨back, stands, -⟩ | stands := (standsIn_append_break breaks).mp stands
      · exact absurd stands (none _ _ _)
      · exact stands
    cases later with
    | @found before after place first =>
      have stands : StandsIn (word ++ c :: rest) (word ++ c :: before) place after :=
        (standsIn_append_break breaks).mpr (.inr ⟨before, rfl, first.toStandsIn⟩)
      refine .found ⟨stands, fun before' place' after' other => ?_, fun place' after' other => ?_⟩
      · obtain ⟨back, rfl, inside⟩ := behind other
        have := first.leftmost _ _ _ inside
        grind
      · obtain ⟨back, same, inside⟩ := behind other
        obtain rfl : before = back := by simpa using same
        exact first.longest _ _ inside
    | missing none' =>
      refine .missing fun before place after stands => ?_
      obtain ⟨back, -, stands⟩ := behind stands
      exact none' _ _ _ stands

end Breaks

omit [RegexEngine.LawfulDigits] in
theorem findSome?_words {word : List Char} (unbroken : ∀ c ∈ word, isBreak c = false) :
    (words word).findSome? ofWord? = ofWord? word := by
  rw [words, Text.splitWhere_of_forall unbroken]
  cases word with
  | nil => rfl
  | cons c word => simp

/-- The search in the words of a text, one after the other, finds the place that is taken. -/
theorem outcome_words (text : List Char) : Outcome text ((words text).findSome? ofWord?) := by
  suffices step : ∀ word, (∀ c ∈ word, isBreak c = false) →
      Outcome (word ++ text) ((words (word ++ text)).findSome? ofWord?) from
    step [] (List.forall_mem_nil _)
  induction text with
  | nil =>
    intro word unbroken
    rw [List.append_nil, findSome?_words unbroken]
    exact outcome_ofWord? unbroken
  | cons c rest ih =>
    intro word unbroken
    by_cases breaks : isBreak c = true
    · rw [words_append_break breaks, List.findSome?_append, findSome?_words unbroken]
      exact (outcome_ofWord? unbroken).append breaks (ih [] (List.forall_mem_nil _))
    · have longer : ∀ d ∈ word ++ [c], isBreak d = false := by
        simpa [or_imp, forall_and, breaks] using unbroken
      rw [List.append_cons]
      exact ih _ longer

/-! ## What is found -/

/-- The location of a text: that of the place that is taken, with the numbers that its digits
spell, or one without line and column if no place stands in the text. -/
inductive Found (text : List Char) : Location → Prop where
  | placed {before after : List Char} {place : Place} {line column : Option Nat}
      (first : IsFirst text before place after)
      (line_eq : ∀ n, line = some n ↔ Spells place.line n)
      (column_eq : ∀ n, column = some n ↔ ∃ digits, place.column = some digits ∧ Spells digits n) :
      Found text ⟨some place.file, line, column⟩
  | unplaced {file : Option String}
      (none : ∀ before place after, ¬ StandsIn text before place after) :
      Found text ⟨file, Option.none, Option.none⟩

theorem found_find (text : String) : Found text.toList (find text) := by
  change Found text.toList (((words text.toList).findSome? ofWord? |>.or
    ((words text.toList).findSome? fileOfWord?)).getD nowhere)
  have outcome := outcome_words text.toList
  generalize (words text.toList).findSome? ofWord? = location at outcome
  cases outcome with
  | found first =>
    refine .placed first (fun n => number?_eq_some_iff) fun n => ?_
    simp only [Option.bind_eq_some_iff, number?_eq_some_iff]
  | missing none =>
    -- A file that is found without a place has neither a line nor a column.
    cases file : (words text.toList).findSome? fileOfWord? with
    | none => exact .unplaced none
    | some location =>
      obtain ⟨word, -, here⟩ := List.exists_of_findSome?_eq_some file
      obtain ⟨found, -, rfl⟩ := Option.map_eq_some_iff.mp here
      exact .unplaced none

namespace Found

variable {location : Location} (found : Found text location)
include found

omit [RegexEngine.LawfulDigits] in
theorem eq_nowhere (missing : location.file = none) : location = nowhere := by
  cases found with
  | placed first => cases missing
  | unplaced none =>
    obtain rfl := missing
    rfl

/-- A column stands alone if its digits write a number and those of the line do not. -/
theorem column_alone_iff :
    location.line = none ∧ location.column ≠ none ↔
      ∃ before place after digits n, IsFirst text before place after ∧
        (∀ m, ¬ Spells place.line m) ∧ place.column = some digits ∧ Spells digits n := by
  constructor
  · rintro ⟨line, column⟩
    cases found with
    | placed first line_eq column_eq =>
      obtain ⟨n, column⟩ := Option.ne_none_iff_exists'.mp column
      obtain ⟨digits, some_digits, spelled⟩ := (column_eq n).mp column
      refine ⟨_, _, _, digits, n, first, fun m spelled => ?_, some_digits, spelled⟩
      exact absurd (line.symm.trans ((line_eq m).mpr spelled)) nofun
    | unplaced none => exact absurd rfl column
  · rintro ⟨before, place, after, digits, n, first, none, column, spelled⟩
    cases found with
    | placed first' line_eq column_eq =>
      obtain ⟨-, rfl⟩ := first.unique first'
      constructor
      · exact Option.eq_none_iff_forall_ne_some.mpr fun m line => none m ((line_eq m).mp line)
      · have here := (column_eq n).mpr ⟨digits, column, spelled⟩
        exact Option.ne_none_iff_exists'.mpr ⟨n, here⟩
    | unplaced missing => exact absurd first.toStandsIn (missing _ _ _)

end Found

/-- Without a label, the place of a report is the one that its message names. -/
theorem location_of_unlabelled {report : Report} (unlabelled : report.label = none) :
    report.location =
      { find report.message with file := (find report.message).file.or report.moduleId } := by
  rw [Report.location, unlabelled]
  cases file : (find report.message).file with
  | none => simp [(found_find report.message).eq_nowhere file, nowhere]
  | some name =>
    simp only [file, Option.isSome_some, if_true, Option.some_or]
    rw [← file]

/-- What is found in a text, and what of it a diagnostic has. Line and column are the exact values
of the digits in the place that is taken; none of them is found without a file, but a column is
found without a line exactly if the digits of the line spell no number and those of the column
do. -/
theorem position_of_find (text : String) :
    Found text.toList (find text) ∧
      ((find text).file = none → find text = nowhere) ∧
      ((find text).line = none ∧ (find text).column ≠ none ↔
        ∃ before place after digits n, IsFirst text.toList before place after ∧
          (∀ m, ¬ Spells place.line m) ∧ place.column = some digits ∧ Spells digits n) ∧
      ∀ report : Report, report.label = none → report.message = text →
        report.toDiagnostic.file = (find text).file.or report.moduleId ∧
          report.toDiagnostic.line = (find text).line ∧
          report.toDiagnostic.column = (find text).column := by
  have found := found_find text
  refine ⟨found, found.eq_nowhere, found.column_alone_iff, ?_⟩
  rintro report unlabelled rfl
  simp [Report.toDiagnostic, location_of_unlabelled unlabelled]

end AnyEngine

/-- A place with a line and a column behind other words. -/
theorem position_of_find_tsx :
    let report := Report.plain "PARSE_ERROR" .error "Unexpected token at src/app.tsx:12:5" none
      (some "main.js")
    report.label = none ∧ report.toDiagnostic.file = some "src/app.tsx" ∧
      report.toDiagnostic.line = some 12 ∧ report.toDiagnostic.column = some 5 := by
  intro report
  have found : find report.message = ⟨some "src/app.tsx", some 12, some 5⟩ := by decide +kernel
  have same := (position_of_find report.message).2.2.2 report rfl rfl
  rw [found] at same
  exact ⟨rfl, same⟩

/-- Digits of a line that write too large a number, or that are not of ASCII, leave the column
alone. -/
theorem column_without_line :
    find "a.js:4294967296:7" = ⟨some "a.js", none, some 7⟩ ∧
      find "a.js:\u0663:7" = ⟨some "a.js", none, some 7⟩ ∧
      ¬ ∀ text, (find text).column ≠ none → (find text).line ≠ none := by
  have large : find "a.js:4294967296:7" = ⟨some "a.js", none, some 7⟩ := by decide +kernel
  refine ⟨large, by decide +kernel, fun never => never "a.js:4294967296:7" ?_ ?_⟩
  · rw [large]
    exact Option.some_ne_none 7
  · rw [large]

end BundleHost.Location
