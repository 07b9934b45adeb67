import BundleHost.Text.Basic
import Mathlib.Data.List.Infix

/-!
# Splitting and replacing

A text is split at the first occurrence of a mark, so the part before it is free of the mark. This
is what makes it possible to read back two texts that were joined by a mark. What does not occur in
a text is neither split at nor replaced.
-/

namespace BundleHost.Text

variable {mark : Char} {text before after : List Char}

theorem splitFirst?_eq_some_iff :
    splitFirst? mark text = some (before, after) ↔
      mark ∉ before ∧ text = before ++ mark :: after := by
  induction text generalizing before with
  | nil => simp [splitFirst?]
  | cons c rest ih =>
    by_cases h : c = mark
    · subst h
      cases before with
      | nil => simp [splitFirst?, eq_comm]
      | cons d before =>
        simp only [splitFirst?, if_true, List.cons_append, List.cons.injEq, List.mem_cons]
        grind
    · cases before with
      | nil => simp [splitFirst?, h]
      | cons d before =>
        have step : splitFirst? mark (c :: rest) = some (d :: before, after) ↔
            c = d ∧ splitFirst? mark rest = some (before, after) := by
          simp only [splitFirst?, h, if_false, Option.map_eq_some_iff, Prod.exists, Prod.mk.injEq,
            List.cons.injEq]
          grind
        rw [step, ih, List.mem_cons, List.cons_append, List.cons.injEq]
        grind

/-! ## Pieces -/

section SplitWhere

variable {isMark : Char → Bool}

theorem splitWhere_ne_nil (isMark : Char → Bool) (text : List Char) :
    splitWhere isMark text ≠ [] := by
  cases text with
  | nil => exact List.cons_ne_nil _ _
  | cons c rest =>
    rw [splitWhere]
    split
    next => exact List.cons_ne_nil _ _
    next => split <;> exact List.cons_ne_nil _ _

theorem splitWhere_of_forall {text : List Char} (absent : ∀ c ∈ text, isMark c = false) :
    splitWhere isMark text = [text] := by
  induction text with
  | nil => rfl
  | cons c rest ih =>
    obtain ⟨other, absent⟩ := List.forall_mem_cons.mp absent
    rw [splitWhere, other, if_neg Bool.false_ne_true, ih absent]

/-- A mark separates the pieces before it from those behind it. -/
theorem splitWhere_append {mark : Char} (isMark_mark : isMark mark = true)
    (before after : List Char) :
    splitWhere isMark (before ++ mark :: after) =
      splitWhere isMark before ++ splitWhere isMark after := by
  induction before with
  | nil => simp [splitWhere, isMark_mark]
  | cons c rest ih =>
    obtain ⟨piece, pieces, split⟩ :=
      List.exists_cons_of_ne_nil (splitWhere_ne_nil isMark rest)
    rw [List.cons_append, splitWhere, splitWhere, ih, split]
    cases isMark c <;> rfl

end SplitWhere

theorem splitOn_of_not_mem {mark : Char} {text : List Char} (absent : mark ∉ text) :
    splitOn mark text = [text] := by
  refine splitWhere_of_forall fun c mem => ?_
  simpa using ne_of_mem_of_not_mem mem absent

theorem splitOn_append_mark (mark : Char) (before after : List Char) :
    splitOn mark (before ++ mark :: after) = splitOn mark before ++ splitOn mark after :=
  splitWhere_append (by simp) before after

theorem splitOn_append {mark : Char} {before : List Char} (absent : mark ∉ before)
    (after : List Char) :
    splitOn mark (before ++ mark :: after) = before :: splitOn mark after := by
  rw [splitOn_append_mark, splitOn_of_not_mem absent, List.singleton_append]

theorem splitOn_ne_nil (mark : Char) (text : List Char) : splitOn mark text ≠ [] :=
  splitWhere_ne_nil _ text

theorem splitOn_concat_mark (mark : Char) (text : List Char) :
    splitOn mark (text ++ [mark]) = splitOn mark text ++ [[]] :=
  splitOn_append_mark mark text []

/-- No piece has the mark in it. -/
theorem not_mem_of_mem_splitOn {mark : Char} {text piece : List Char}
    (mem : piece ∈ splitOn mark text) : mark ∉ piece := by
  induction text generalizing piece with
  | nil => simp_all [splitOn, splitWhere]
  | cons c rest ih =>
    simp only [splitOn] at ih
    simp only [splitOn, splitWhere] at mem
    split at mem
    next => grind
    next other =>
      cases pieces : splitWhere (· = mark) rest with
      | nil => grind
      | cons first more => grind

/-- The pieces of texts that were joined by a mark. -/
theorem splitOn_intercalate {mark : Char} {pieces : List (List Char)} (nonempty : pieces ≠ [])
    (free : ∀ piece ∈ pieces, mark ∉ piece) :
    splitOn mark ([mark].intercalate pieces) = pieces := by
  induction pieces with
  | nil => exact absurd rfl nonempty
  | cons piece rest ih =>
    obtain ⟨absent, free⟩ := List.forall_mem_cons.mp free
    cases rest with
    | nil => rw [List.intercalate_singleton, splitOn_of_not_mem absent]
    | cons next rest =>
      rw [List.intercalate_cons_cons, List.append_assoc, List.singleton_append,
        splitOn_append absent, ih (List.cons_ne_nil next rest) free]

/-- Joined texts consist of the mark and of what they consist of. -/
theorem eq_or_exists_of_mem_intercalate {mark c : Char} {pieces : List (List Char)}
    (mem : c ∈ [mark].intercalate pieces) : c = mark ∨ ∃ piece ∈ pieces, c ∈ piece := by
  induction pieces with
  | nil => cases mem
  | cons piece rest ih =>
    cases rest with
    | nil => exact .inr ⟨piece, List.mem_cons_self, by simpa using mem⟩
    | cons next rest =>
      simp only [List.intercalate_cons_cons, List.append_assoc, List.mem_append,
        List.mem_singleton] at mem
      obtain here | rfl | later := mem
      · exact .inr ⟨piece, List.mem_cons_self, here⟩
      · exact .inl rfl
      · obtain same | ⟨other, mem, inside⟩ := ih later
        · exact .inl same
        · exact .inr ⟨other, List.mem_cons_of_mem _ mem, inside⟩

/-- What a mark does not occur in stands before the mark or behind it. -/
theorem append_cons_eq_append_iff {mark : Char} {front rest before inner after : List Char}
    (nonempty : inner ≠ []) (absent : mark ∉ inner) :
    front ++ mark :: rest = before ++ (inner ++ after) ↔
      (∃ back, front = before ++ (inner ++ back) ∧ after = back ++ mark :: rest) ∨
        ∃ back, before = front ++ mark :: back ∧ rest = back ++ (inner ++ after) := by
  constructor
  · intro same
    obtain ⟨back, rfl, behind⟩ | ⟨back, rfl, behind⟩ := List.append_eq_append_iff.mp same
    · cases back with
      | nil =>
        obtain ⟨c, inner, rfl⟩ := List.exists_cons_of_ne_nil nonempty
        grind
      | cons c back =>
        obtain ⟨rfl, rfl⟩ := List.cons.inj behind
        exact .inr ⟨back, rfl, rfl⟩
    · refine .inl ?_
      obtain ⟨later, rfl, whole⟩ | ⟨later, rfl, whole⟩ := List.append_eq_append_iff.mp behind
      · exact ⟨later, rfl, whole⟩
      · cases later with
        | nil => exact ⟨[], by simp, by simpa using whole.symm⟩
        | cons c later =>
          obtain ⟨rfl, -⟩ := List.cons.inj whole
          exact absurd (List.mem_append_right _ List.mem_cons_self) absent
  · rintro (⟨back, rfl, rfl⟩ | ⟨back, rfl, rfl⟩) <;> simp

/-! ## Beginnings -/

/-- The longest beginning of characters of a kind ends before the first other one. -/
theorem span_append {isInside : Char → Bool} {front rest : List Char}
    (inside : ∀ c ∈ front, isInside c = true) (ends : ∀ c ∈ rest.head?, isInside c = false) :
    (front ++ rest).span isInside = (front, rest) := by
  have stop : rest.takeWhile isInside = [] ∧ rest.dropWhile isInside = rest := by
    cases rest with
    | nil => exact ⟨rfl, rfl⟩
    | cons c rest => simp [ends c rfl]
  rw [List.span_eq_takeWhile_dropWhile, List.takeWhile_append_of_pos inside,
    List.dropWhile_append_of_pos inside, stop.1, stop.2, List.append_nil]

/-! ## Replacing -/

/-- What does not occur is not replaced. -/
theorem replaceChars_eq_self {old new text : List Char} (absent : ¬ old <:+: text) :
    replaceChars old new 0 text = text := by
  induction text with
  | nil => rfl
  | cons c rest ih =>
    have first : ¬ old.isPrefixOf (c :: rest) = true := fun first =>
      absent (List.isPrefixOf_iff_prefix.mp first).isInfix
    have later : ¬ old <:+: rest :=
      fun later => absent (later.trans (List.suffix_cons c rest).isInfix)
    rw [replaceChars, if_neg first, ih later]

/-- Nothing is replaced before the first character that could begin it. -/
theorem replaceChars_append {mark : Char} {old new before : List Char} (absent : mark ∉ before)
    (rest : List Char) :
    replaceChars (mark :: old) new 0 (before ++ rest) =
      before ++ replaceChars (mark :: old) new 0 rest := by
  induction before with
  | nil => rfl
  | cons c before ih =>
    obtain ⟨other, absent⟩ := not_or.mp (mt List.mem_cons.mpr absent)
    rw [List.cons_append, replaceChars, if_neg (by simp [other]), ih absent, List.cons_append]

/-- What is replaced is left out while it is skipped. -/
theorem replaceChars_eq_drop (old new : List Char) (skip : Nat) (text : List Char) :
    replaceChars old new skip text = replaceChars old new 0 (text.drop skip) := by
  induction text generalizing skip with
  | nil => simp [replaceChars]
  | cons c rest ih =>
    cases skip with
    | zero => rfl
    | succ skip => rw [replaceChars, ih, List.drop_succ_cons]

/-- `result` is a text with `new` in place of every `old`, read from left to right. -/
inductive Replaced (old new : List Char) : List Char → List Char → Prop where
  | nil : Replaced old new [] []
  | found {rest result : List Char} :
      Replaced old new rest result → Replaced old new (old ++ rest) (new ++ result)
  | other {c : Char} {rest result : List Char} :
      ¬ old <+: c :: rest → Replaced old new rest result →
        Replaced old new (c :: rest) (c :: result)

section Replaced

variable {old new text result : List Char} (nonempty : old ≠ [])
include nonempty

theorem replaceChars_append_self (rest : List Char) :
    replaceChars old new 0 (old ++ rest) = new ++ replaceChars old new 0 rest := by
  obtain ⟨c, tail, rfl⟩ := List.exists_cons_of_ne_nil nonempty
  rw [List.cons_append, replaceChars, if_pos (by simp), replaceChars_eq_drop]
  simp

theorem Replaced.replaceChars_eq (replaced : Replaced old new text result) :
    replaceChars old new 0 text = result := by
  induction replaced with
  | nil => rfl
  | found _ ih => rw [replaceChars_append_self nonempty, ih]
  | other absent _ ih =>
    rw [replaceChars, if_neg (mt List.isPrefixOf_iff_prefix.mp absent), ih]

/-- Replacing a text that is not empty goes on behind each occurrence. -/
theorem replaced_replaceChars (new text : List Char) :
    Replaced old new text (replaceChars old new 0 text) := by
  induction h : text.length using Nat.strongRecOn generalizing text with
  | ind n ih =>
    by_cases first : old <+: text
    · obtain ⟨rest, rfl⟩ := first
      rw [replaceChars_append_self nonempty]
      refine .found (ih rest.length ?_ rest rfl)
      have := List.length_pos_iff.mpr nonempty
      grind
    · cases text with
      | nil => exact .nil
      | cons c rest =>
        rw [replaceChars, if_neg (mt List.isPrefixOf_iff_prefix.mp first)]
        exact .other first (ih rest.length (by grind) rest rfl)

theorem replaced_iff : Replaced old new text result ↔ replaceChars old new 0 text = result := by
  constructor
  · intro replaced
    exact replaced.replaceChars_eq nonempty
  · rintro rfl
    exact replaced_replaceChars nonempty new text

end Replaced

theorem replaced_toList_iff {text old new result : String} (nonempty : old ≠ "") :
    Replaced old.toList new.toList text.toList result.toList ↔ replace text old new = result := by
  rw [replaced_iff (mt String.toList_eq_nil_iff.mp nonempty), replace]
  constructor
  · intro replaced
    rw [replaced, String.ofList_toList]
  · rintro rfl
    rw [String.toList_ofList]

end BundleHost.Text
