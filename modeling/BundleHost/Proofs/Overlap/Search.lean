import BundleHost.Overlap
import Mathlib.Data.List.Find

/-!
# The search for overlaps

The search goes through the rules of a stage and compares each with those before it. As these are
of the same attachment or of earlier ones, it might as well compare it with all rules and ask for
those of earlier attachments. What is found among the first rules does not depend on later ones.

## Main statements

* `Overlap.among_eq_filterMap` — each rule is compared with all.
* `Overlap.isPrefix_filter_find` — more attachments only add to the reports of a stage.
-/

namespace BundleHost.Overlap

/-- The entry is of an earlier attachment and shadows the other. -/
def Entry.eclipses (winner entry : Entry) : Bool :=
  winner.slot < entry.slot && winner.shadows entry

theorem restrictionsMeet_iff {a b : Option String} :
    restrictionsMeet a b = true ↔ a = none ∨ b = none ∨ a = b := by
  cases a <;> cases b <;> simp [restrictionsMeet]

theorem Entry.eclipses_iff {winner entry : Entry} :
    winner.eclipses entry = true ↔ winner.slot < entry.slot ∧ winner.filter = entry.filter ∧
      (winner.restriction = none ∨ entry.restriction = none ∨
        winner.restriction = entry.restriction) := by
  simp only [eclipses, shadows, Bool.and_eq_true, decide_eq_true_eq, restrictionsMeet_iff]
  constructor
  · rintro ⟨earlier, ⟨-, same⟩, meet⟩
    exact ⟨earlier, same, meet⟩
  · rintro ⟨earlier, same, meet⟩
    exact ⟨earlier, ⟨Nat.ne_of_lt earlier, same⟩, meet⟩

/-- What is reported of an entry and the one that it is reported against. -/
def report (stage : HookStage) (entry winner : Entry) : Overlap :=
  ⟨stage, entry.filter, entry.restriction, winner.plugin, entry.plugin⟩

/-- The entries behind one do not eclipse it, and those before it do if they shadow it. -/
theorem find?_eclipses {earlier rest : List Entry} {entry : Entry}
    (ordered : (earlier ++ entry :: rest).Pairwise (·.slot ≤ ·.slot)) :
    (earlier ++ entry :: rest).find? (·.eclipses entry) = earlier.find? (·.shadows entry) := by
  obtain ⟨-, behind, before⟩ := List.pairwise_append.mp ordered
  have none : (entry :: rest).find? (·.eclipses entry) = none := by
    rw [List.find?_eq_none]
    intro later inside eclipsed
    have early := (Entry.eclipses_iff.mp eclipsed).1
    rcases List.mem_cons.mp inside with rfl | inside
    · exact Nat.lt_irrefl _ early
    · exact Nat.not_lt.mpr (List.rel_of_pairwise_cons behind inside) early
  rw [List.find?_append, none, Option.or_none]
  apply List.find?_congr
  intro winner inside
  have early : winner.slot ≤ entry.slot := before winner inside entry (by simp)
  have apart : winner.shadows entry = true → winner.slot < entry.slot := by
    intro shadowed
    simp only [Entry.shadows, Bool.and_eq_true, decide_eq_true_eq] at shadowed
    omega
  cases h : winner.shadows entry with
  | false => simp [Entry.eclipses, h]
  | true => simp [Entry.eclipses, h, apart h]

/-- Among entries in the order of attachment, each is compared with all. -/
theorem among_eq_filterMap (stage : HookStage) {earlier rest : List Entry}
    (ordered : (earlier ++ rest).Pairwise (·.slot ≤ ·.slot)) :
    among stage earlier rest = rest.filterMap fun entry =>
      ((earlier ++ rest).find? (·.eclipses entry)).map (report stage entry) := by
  induction rest generalizing earlier with
  | nil => rfl
  | cons entry rest ih =>
    have regrouped : earlier ++ [entry] ++ rest = earlier ++ entry :: rest := by simp
    have later := ih (regrouped ▸ ordered)
    rw [regrouped] at later
    rw [among, later, List.filterMap_cons, find?_eclipses ordered]
    cases earlier.find? (·.shadows entry) <;> rfl

/-! ## More attachments -/

theorem among_append (stage : HookStage) (earlier entries more : List Entry) :
    among stage earlier (entries ++ more) =
      among stage earlier entries ++ among stage (earlier ++ entries) more := by
  induction entries generalizing earlier with
  | nil => simp [among]
  | cons entry rest ih =>
    have regrouped : earlier ++ [entry] ++ rest = earlier ++ entry :: rest := by simp
    rw [List.cons_append, among, among, ih, regrouped]
    cases earlier.find? (·.shadows entry) <;> rfl

theorem stage_of_mem_among {stage : HookStage} {earlier entries : List Entry} {overlap : Overlap}
    (reported : overlap ∈ among stage earlier entries) : overlap.stage = stage := by
  induction entries generalizing earlier with
  | nil => cases reported
  | cons entry rest ih =>
    rw [among] at reported
    split at reported
    · rcases List.mem_cons.mp reported with rfl | later
      · rfl
      · exact ih later
    · exact ih reported

theorem filter_among_of_ne {name stage : HookStage} (ne : name ≠ stage)
    (earlier entries : List Entry) :
    (among name earlier entries).filter (·.stage = stage) = [] := by
  rw [List.filter_eq_nil_iff]
  intro overlap reported same
  exact ne ((stage_of_mem_among reported).symm.trans (of_decide_eq_true same))

variable [RegexEngine] {m : Type → Type} {ρ α : Type}

theorem entriesFrom_append (rules : Plugin m → List (Rule m ρ α)) (slot : Nat)
    (P Q : List (Plugin m)) :
    entriesFrom rules slot (P ++ Q) =
      entriesFrom rules slot P ++ entriesFrom rules (slot + P.length) Q := by
  induction P generalizing slot with
  | nil => rfl
  | cons plugin rest ih =>
    rw [List.cons_append, entriesFrom, entriesFrom, ih, List.append_assoc, List.length_cons,
      Nat.add_right_comm, Nat.add_assoc]

/-- More attachments leave the reports of a stage at the beginning of the new ones. -/
theorem isPrefix_among (name : HookStage) (rules : Plugin m → List (Rule m ρ α))
    (P Q : List (Plugin m)) :
    among name [] (entriesFrom rules 0 P) <+: among name [] (entriesFrom rules 0 (P ++ Q)) := by
  rw [entriesFrom_append, among_append]
  exact List.prefix_append _ _

theorem isPrefix_filter_find (P Q : List (Plugin m)) (stage : HookStage) :
    (find P).filter (·.stage = stage) <+: (find (P ++ Q)).filter (·.stage = stage) := by
  unfold find
  rw [List.filter_append, List.filter_append]
  -- No stage has reports of both searches, so what the other one adds in between is filtered out.
  by_cases resolves : HookStage.resolve = stage
  · have other : HookStage.load ≠ stage := by
      rintro rfl
      cases resolves
    rw [filter_among_of_ne other, filter_among_of_ne other, List.append_nil, List.append_nil]
    apply List.IsPrefix.filter
    exact isPrefix_among .resolve Plugin.resolveRules P Q
  · rw [filter_among_of_ne resolves, filter_among_of_ne resolves, List.nil_append, List.nil_append]
    apply List.IsPrefix.filter
    exact isPrefix_among .load Plugin.loadRules P Q

end BundleHost.Overlap
