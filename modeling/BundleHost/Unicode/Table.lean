/-!
# Tables over the code points

Data of the Unicode Character Database, version 16, is written as text, in hexadecimal, and read
into one of two shapes: a list of closed intervals, or a sequence of runs, each of which holds one
value from its first code point up to the start of the next run.
-/

namespace BundleHost.Unicode

/-- The value of a hexadecimal digit of either case. -/
def hexDigit? (c : Char) : Option Nat :=
  if '0' ≤ c ∧ c ≤ '9' then some (c.toNat - '0'.toNat)
  else if 'a' ≤ c ∧ c ≤ 'f' then some (c.toNat - 'a'.toNat + 10)
  else if 'A' ≤ c ∧ c ≤ 'F' then some (c.toNat - 'A'.toNat + 10)
  else none

/-- The number written by hexadecimal digits; a character of another kind counts as zero. -/
def hexNat (digits : List Char) : Nat :=
  digits.foldl (fun n c => 16 * n + (hexDigit? c).getD 0) 0

/-- The words of a table's text: maximal runs without blanks and line ends. -/
def words (text : String) : List (List Char) :=
  let step (c : Char) (acc : List Char × List (List Char)) :=
    if c = ' ' ∨ c = '\n' then
      ([], if acc.1.isEmpty then acc.2 else acc.1 :: acc.2)
    else (c :: acc.1, acc.2)
  let last := text.toList.foldr step ([], [])
  if last.1.isEmpty then last.2 else last.1 :: last.2

/-- The parts of a word before and after the first `mark`; the second is empty without one. -/
def cut (mark : Char) (word : List Char) : List Char × List Char :=
  (word.takeWhile (· ≠ mark), (word.dropWhile (· ≠ mark)).drop 1)

/-- Closed intervals of code points. -/
abbrev Intervals := List (Nat × Nat)

namespace Intervals

/-- Reads words of the form `41` and `41-5A`. -/
def ofText (text : String) : Intervals :=
  (words text).map fun word =>
    let (lo, hi) := cut '-' word
    (hexNat lo, if hi.isEmpty then hexNat lo else hexNat hi)

def contains (table : Intervals) (c : Char) : Bool :=
  table.any fun (lo, hi) => lo ≤ c.toNat && c.toNat ≤ hi

end Intervals

/-- Runs of code points with one value each, in increasing order of their starts. -/
abbrev Runs (α : Type) := Array (Nat × α)

namespace Runs

variable {α : Type}

/-- Index of the last run between `lo` and `hi` that starts at or before `point`. -/
def locate (runs : Runs α) (point : Nat) : Nat → Nat → Nat → Nat
  | 0, lo, _ => lo
  | fuel + 1, lo, hi =>
    if lo + 1 < hi then
      let mid := (lo + hi) / 2
      match runs[mid]? with
      | some (start, _) =>
        if start ≤ point then locate runs point fuel mid hi else locate runs point fuel lo mid
      | none => lo
    else lo

/-- The value of the run that holds `c`. -/
def get? (runs : Runs α) (c : Char) : Option α :=
  (runs[locate runs c.toNat runs.size 0 runs.size]?).map (·.2)

/-- Reads words of the form `41:Lu`, leaving out those whose value `read` refuses. -/
def ofText (read : String → Option α) (text : String) : Runs α :=
  ((words text).filterMap fun word =>
    let (start, value) := cut ':' word
    (read (String.ofList value)).map (hexNat start, ·)).toArray

end Runs

end BundleHost.Unicode
