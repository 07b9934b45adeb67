import BundleHost.Text.Basic
import Mathlib.Data.List.Basic
import Mathlib.Data.List.TakeWhile

/-!
# Trimmed texts

What is left of a text that was trimmed has no white space at its ends, and a text without white
space at its ends is left as it is.

## Main statements

* `isTrimmed_trimChars`, `IsTrimmed.trimChars_eq` — trimmed texts are those that trimming keeps.
* `trimChars_append`, `trimChars_dropWhile` — white space around a text, or at its beginning.
* `mem_trimChars` — all other characters stay.
* `trim_eq_empty_iff` — nothing is left of blank texts.
-/

namespace BundleHost.Text

open Unicode (isWhiteSpace)

/-- No white space at either end. -/
def IsTrimmed (text : List Char) : Prop :=
  (∀ c ∈ text.head?, isWhiteSpace c = false) ∧ ∀ c ∈ text.getLast?, isWhiteSpace c = false

theorem dropWhile_eq_self {p : Char → Bool} {text : List Char}
    (stop : ∀ c ∈ text.head?, p c = false) : text.dropWhile p = text := by
  cases text with
  | nil => rfl
  | cons c rest => rw [List.dropWhile_cons, stop c rfl, if_neg Bool.false_ne_true]

theorem head?_dropWhile {p : Char → Bool} (text : List Char) :
    ∀ c ∈ (text.dropWhile p).head?, p c = false := by
  intro c first
  have stop := List.head?_dropWhile_not p text
  rw [Option.mem_def.mp first] at stop
  exact stop

/-- The last character of a text stays when characters are dropped from its beginning. -/
theorem getLast?_dropWhile {p : Char → Bool} {text : List Char} {c : Char}
    (last : c ∈ (text.dropWhile p).getLast?) : c ∈ text.getLast? := by
  have nonempty : text.dropWhile p ≠ [] := by
    intro empty
    rw [empty] at last
    cases last
  obtain ⟨before, eq⟩ := List.dropWhile_suffix p (l := text)
  rw [← eq, List.getLast?_append_of_ne_nil before nonempty]
  exact last

theorem isTrimmed_trimChars (text : List Char) : IsTrimmed (trimChars text) := by
  rw [IsTrimmed, trimChars, List.head?_reverse, List.getLast?_reverse]
  refine ⟨fun c last => ?_, head?_dropWhile _⟩
  have first := getLast?_dropWhile last
  rw [List.getLast?_reverse] at first
  exact head?_dropWhile text c first

theorem IsTrimmed.trimChars_eq {text : List Char} (trimmed : IsTrimmed text) :
    trimChars text = text := by
  obtain ⟨first, last⟩ := trimmed
  rw [← List.head?_reverse] at last
  rw [trimChars, dropWhile_eq_self first, dropWhile_eq_self last, List.reverse_reverse]

/-- White space around a text is trimmed. -/
theorem trimChars_append {front text back : List Char}
    (white : ∀ c ∈ front, isWhiteSpace c = true) (white' : ∀ c ∈ back, isWhiteSpace c = true)
    (trimmed : IsTrimmed text) : trimChars (front ++ (text ++ back)) = text := by
  rw [trimChars, List.dropWhile_append_of_pos white]
  cases text with
  | nil => simp [List.dropWhile_eq_nil_iff.mpr white']
  | cons c text =>
    obtain ⟨first, last⟩ := trimmed
    have begins : ∀ d ∈ (c :: text ++ back).head?, isWhiteSpace d = false := first
    rw [← List.head?_reverse] at last
    rw [dropWhile_eq_self begins, List.reverse_append,
      List.dropWhile_append_of_pos fun d mem => white' d (List.mem_reverse.mp mem),
      dropWhile_eq_self last, List.reverse_reverse]

theorem isTrimmed_of_black {text : List Char} (black : ∀ c ∈ text, isWhiteSpace c = false) :
    IsTrimmed text :=
  ⟨fun c first => black c (List.mem_of_mem_head? first),
    fun c last => black c (List.mem_of_getLast? last)⟩

theorem trimChars_of_black {text : List Char} (black : ∀ c ∈ text, isWhiteSpace c = false) :
    trimChars text = text :=
  (isTrimmed_of_black black).trimChars_eq

theorem trimChars_of_white {text : List Char} (white : ∀ c ∈ text, isWhiteSpace c = true) :
    trimChars text = [] := by
  rw [trimChars, List.dropWhile_eq_nil_iff.mpr white, List.reverse_nil, List.dropWhile_nil,
    List.reverse_nil]

@[simp]
theorem trimChars_trimChars (text : List Char) : trimChars (trimChars text) = trimChars text :=
  (isTrimmed_trimChars text).trimChars_eq

theorem trimChars_dropWhile {p : Char → Bool} (white : ∀ c, p c = true → isWhiteSpace c = true)
    (text : List Char) : trimChars (text.dropWhile p) = trimChars text := by
  have dropped : (text.dropWhile p).dropWhile isWhiteSpace = text.dropWhile isWhiteSpace := by
    induction text with
    | nil => rfl
    | cons c rest ih =>
      rw [List.dropWhile_cons]
      split
      next blank => rw [ih, List.dropWhile_cons_of_pos (white c blank)]
      next => rfl
  rw [trimChars, dropped, trimChars]

theorem mem_dropWhile {p : Char → Bool} {text : List Char} {c : Char} (mem : c ∈ text)
    (kept : p c = false) : c ∈ text.dropWhile p := by
  rw [← List.takeWhile_append_dropWhile (p := p) (l := text), List.mem_append] at mem
  obtain dropped | mem := mem
  · have all := List.all_eq_true.mp List.all_takeWhile c dropped
    exact absurd (all.symm.trans kept) nofun
  · exact mem

/-- Only white space is trimmed. -/
theorem mem_trimChars {text : List Char} {c : Char} (mem : c ∈ text)
    (black : isWhiteSpace c = false) : c ∈ trimChars text := by
  rw [trimChars, List.mem_reverse]
  exact mem_dropWhile (List.mem_reverse.mpr (mem_dropWhile mem black)) black

/-- Trimming leaves nothing of blank texts only. -/
theorem trim_eq_empty_iff {text : String} : trim text = "" ↔ isBlank text = true := by
  have nothing : trim text = "" ↔ trimChars text.toList = [] := by
    rw [trim, ← String.toList_eq_nil_iff, String.toList_ofList]
  rw [nothing, isBlank, List.all_eq_true]
  constructor
  · intro gone c mem
    by_contra black
    have stays := mem_trimChars mem (Bool.eq_false_iff.mpr black)
    rw [gone] at stays
    exact List.not_mem_nil stays
  · exact trimChars_of_white

end BundleHost.Text
