import BundleHost.Plugin.Filter
import BundleHost.Proofs.Regex.Laws
import BundleHost.Proofs.Text.Ascii
import BundleHost.Regex.Engine

/-!
# The engine of the program that is run does what is relied on

## Main statements

* `Unicode.of_isDecimalDigit` — what has to be checked of the decimal digits of all scripts.
* `Regex.occursIn_star`, `Regex.occursIn_textStart_set` — where two kinds of expressions are found.
* `Regex.parse?_negatedSet` — what a negated set at the beginning is read as.
-/

namespace BundleHost

open RegexEngine (isPlainInBrackets)

/-! ## Decimal digits -/

/-- What holds of the ten digits of each script holds of all decimal digits. -/
theorem Unicode.of_isDecimalDigit {P : Char → Prop}
    (listed : ∀ first ∈ decimalZeros, ∀ value < 10, P (Char.ofNat (first + value)))
    {c : Char} (digit : isDecimalDigit c = true) : P c := by
  rw [isDecimalDigit, decimalDigit?, Option.isSome_map, List.find?_isSome] at digit
  obtain ⟨first, mem, range⟩ := digit
  obtain ⟨least, small⟩ : first ≤ c.toNat ∧ c.toNat < first + 10 := by simpa using range
  have here := listed first mem (c.toNat - first) (by omega)
  rwa [Nat.add_sub_cancel' least, Char.ofNat_toNat] at here

instance : RegexEngine.LawfulDigits where
  isDecimalDigit_ascii {c} low :=
    Text.of_forall_ofNat (P := fun c => Unicode.isDecimalDigit c = c.isDigit) (by decide +kernel)
      low
  isDecimalDigit_whiteSpace {c} white := by
    refine Bool.eq_false_iff.mpr fun digit => ?_
    have black := Unicode.of_isDecimalDigit (P := fun c => Unicode.isWhiteSpace c = false)
      (by decide +kernel) digit
    cases white.symm.trans black

/-! ## Expressions -/

theorem CharClass.contains_single (c d : Char) : (single d).contains c = decide (c = d) := by
  have same : c.toNat = d.toNat ↔ c = d := Char.toNat_inj
  simp only [single, contains, ← Bool.decide_and, ← same, decide_eq_decide]
  omega

namespace Regex

theorem occursIn_star (a : Regex) (text : String) : occursIn (.star a) text = true := by
  unfold occursIn
  cases text.toList <;> rfl

theorem search_of_matched (root : Regex) (begun : List Regex) (prev : Option Char)
    (rest : List Char) : search root (.empty :: begun) prev rest = true := by
  cases rest <;> simp [search, nullable]

/-- Behind the first character nothing matches what is bound to the beginning. -/
theorem search_textStart (a : Regex) (prev : Char) (rest : List Char) :
    search (.seq (.look .textStart) a) [] (some prev) rest = false := by
  induction rest generalizing prev with
  | nil => simp [search, nullable, Assertion.holds]
  | cons c rest ih =>
    -- No match begins here, so the search goes on with none begun.
    have unmatched : nullable (some prev) (some c) (.seq (.look .textStart) a) = false := rfl
    have unbegun : step (some prev) c (.seq (.look .textStart) a) = [] := rfl
    simp [search, unmatched, unbegun, ih]

theorem occursIn_textStart_set (a : CharClass) (text : String) :
    occursIn (.seq (.look .textStart) (.set a)) text = text.toList.head?.any a.contains := by
  unfold occursIn
  cases text.toList with
  | nil => rfl
  | cons c rest =>
    have unmatched : nullable none (some c) (.seq (.look .textStart) (.set a)) = false := rfl
    have begun : step none c (.seq (.look .textStart) (.set a)) =
        if a.contains c then [.empty] else [] := rfl
    by_cases first : a.contains c = true
    · have single : [empty].eraseDups = [empty] := rfl
      simp [search, unmatched, begun, first, single, search_of_matched]
    · simp [search, unmatched, begun, first, search_textStart]

/-! ## Sets in brackets -/

/-- The class of the members of a set in brackets, together with what was read before them. -/
def listed (members : List Char) (before : CharClass) : CharClass :=
  members.foldl (fun a c => .union a (.single c)) before

theorem contains_listed (members : List Char) (before : CharClass) (c : Char) :
    (listed members before).contains c = (before.contains c || members.contains c) := by
  induction members generalizing before with
  | nil => simp [listed]
  | cons d rest ih =>
    refine (ih _).trans ?_
    rw [CharClass.contains, CharClass.contains_single, List.contains_cons, Bool.or_assoc,
      Bool.beq_eq_decide_eq]

theorem classWeight_listed (members : List Char) (before : CharClass) :
    classWeight (listed members before) ≤ classWeight before + 4 * members.length := by
  induction members generalizing before with
  | nil => exact Nat.le_refl _
  | cons d rest ih =>
    have later : classWeight (listed (d :: rest) before) ≤
        classWeight (.union before (.single d)) + 4 * rest.length := ih _
    have single : classWeight (.single d) ≤ 4 := by
      rw [CharClass.single, classWeight]
      split <;> omega
    rw [classWeight] at later
    rw [List.length_cons]
    omega

section Brackets

theorem isPlainInBrackets_iff {c : Char} : isPlainInBrackets c = true ↔
    c ≠ '\\' ∧ c ≠ '[' ∧ c ≠ ']' ∧ c ≠ '^' ∧ c ≠ '-' ∧ c ≠ '&' ∧ c ≠ '~' := by
  simp [isPlainInBrackets]

/-- A plain character is a member unless a hyphen follows it. -/
theorem setBody?_cons {fuel : Nat} {builder : SetBuilder} {c d : Char} {rest : List Char}
    (plain : isPlainInBrackets c = true) (next : d ≠ '-') :
    setBody? {} (fuel + 1) builder (c :: d :: rest) =
      setBody? {} fuel (builder.add (.single c) 0) (d :: rest) := by
  obtain ⟨escape, opening, closing, _, hyphen, ampersand, tilde⟩ := isPlainInBrackets_iff.mp plain
  have item : setItem? {} (c :: d :: rest) = some (.literal c false, d :: rest) := by
    unfold setItem?
    split <;> simp_all
  rw [setBody?]
  simp only [Flags.skip]
  split <;> simp_all
  rfl

theorem leadingMembers_plain {c : Char} (plain : isPlainInBrackets c = true) (fuel : Nat)
    (rest : List Char) :
    leadingMembers {} (fuel + 1) .start true (c :: rest) = some (.start, c :: rest) := by
  obtain ⟨_, _, closing, _, hyphen, -⟩ := isPlainInBrackets_iff.mp plain
  unfold leadingMembers
  split <;> simp_all

variable {members : List Char} (plain : ∀ c ∈ members, isPlainInBrackets c = true)
include plain

theorem setBody?_members {fuel : Nat} (enough : members.length < fuel) (before : CharClass) :
    setBody? {} fuel ⟨none, before, 1⟩ (members ++ [']']) =
      some (listed members before, 1, []) := by
  induction members generalizing fuel before with
  | nil =>
    obtain ⟨fuel, rfl⟩ := Nat.exists_eq_add_one_of_ne_zero (Nat.ne_zero_of_lt enough)
    rfl
  | cons c rest ih =>
    obtain ⟨fuel, rfl⟩ := Nat.exists_eq_add_one_of_ne_zero (Nat.ne_zero_of_lt enough)
    obtain ⟨here, later⟩ := List.forall_mem_cons.mp plain
    have step : setBody? {} (fuel + 1) ⟨none, before, 1⟩ (c :: rest ++ [']']) =
        setBody? {} fuel ⟨none, .union before (.single c), 1⟩ (rest ++ [']']) := by
      cases rest with
      | nil => exact setBody?_cons here (by decide)
      | cons d rest =>
        have next : d ≠ '-' := (isPlainInBrackets_iff.mp (later d List.mem_cons_self)).2.2.2.2.1
        exact setBody?_cons here next
    rw [step, ih later (Nat.lt_of_succ_lt_succ enough)]
    rfl

theorem bracketed?_members (nonempty : members ≠ []) :
    bracketed? {} ('^' :: (members ++ [']'])) =
      some (partOfClass (.compl (listed members .empty)) 1, []) := by
  obtain ⟨c, rest, rfl⟩ := List.exists_cons_of_ne_nil nonempty
  have head : setHead? {} ('^' :: (c :: rest ++ [']'])) = some (true, .start, c :: rest ++ [']']) :=
    congrArg (Option.map (true, ·)) (leadingMembers_plain (plain c List.mem_cons_self) _ _)
  have enough : (c :: rest).length < (c :: rest ++ [']']).length + 1 := by simp
  rw [bracketed?, head]
  change (setBody? {} _ ⟨none, .empty, 1⟩ (c :: rest ++ [']'])).bind _ = _
  rw [setBody?_members plain enough]
  rfl

theorem parse?_negatedSet (nonempty : members ≠ []) (short : members.length ≤ 100) :
    parse? ("^[^" ++ String.ofList members ++ "]") =
      some (.seq (.look .textStart) (.set (.compl (listed members .empty)))) := by
  have chars : ("^[^" ++ String.ofList members ++ "]").toList =
      '^' :: '[' :: '^' :: (members ++ [']']) := by simp
  have light : 0 + classWeight (.compl (listed members .empty)) + 1 ≤ weightLimit := by
    have weight := classWeight_listed members .empty
    simp only [classWeight, weightLimit] at weight ⊢
    omega
  -- The circumflex and the opening bracket are read first.
  have read (fuel : Nat) :
      alternation? (fuel + 3) [] [] ⟨'^' :: '[' :: '^' :: (members ++ [']']), {}, []⟩ =
        (bracketed? {} ('^' :: (members ++ [']']))).bind fun found =>
          alternation? (fuel + 1) [] [found.1, ⟨.look .textStart, 0, 1, false⟩]
            ⟨found.2, {}, []⟩ := rfl
  have whole : alternation? ((members ++ [']']).length + 4) [] []
      ⟨'^' :: '[' :: '^' :: (members ++ [']']), {}, []⟩ =
        some (⟨.seq (.look .textStart) (.set (.compl (listed members .empty))), 2,
          0 + classWeight (.compl (listed members .empty)) + 1, false⟩, ⟨[], {}, []⟩) := by
    rw [read, bracketed?_members plain nonempty]
    rfl
  rw [parse?, chars]
  change (alternation? ((members ++ [']']).length + 4) [] [] _).bind _ = _
  rw [whole]
  exact if_pos ⟨rfl, (by decide : 2 ≤ depthLimit), light⟩

end Brackets

theorem compile_eq_ok {pattern : String} {regex : Regex} (parsed : parse? pattern = some regex) :
    compile pattern = .ok regex := by
  rw [compile, parsed]

end Regex

instance : RegexEngine.LawfulPatterns where
  compile_empty := ⟨.empty, rfl, Regex.occursIn_empty⟩
  compile_anything := ⟨.star (.set (.compl (.single '\n'))), rfl, Regex.occursIn_star _⟩
  compile_negatedSet {members} nonempty short plain := by
    refine ⟨_, Regex.compile_eq_ok (Regex.parse?_negatedSet plain nonempty short), fun text => ?_⟩
    refine (Regex.occursIn_textStart_set _ text).trans ?_
    congr 1
    funext c
    rw [CharClass.contains, Regex.contains_listed, CharClass.contains, Bool.false_or]

/-- The filter that every text passes. -/
def Filter.everything : Filter := ⟨"", Regex.empty, rfl⟩

@[simp] theorem Filter.occursIn_everything (text : String) : everything.occursIn text = true :=
  Regex.occursIn_empty text

end BundleHost
