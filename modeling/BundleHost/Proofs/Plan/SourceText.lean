import BundleHost.Proofs.Plan.Outcome
import BundleHost.Regex.Engine

/-!
# The text of a result

The engine puts the source text into a chunk of its own, and each other entry point into another
one. The text of a result is the code of the source text between banner and footer, if there is
such a chunk and anything is written for it. Where nothing is, the text is that of the first other
entry: a chunk without code counts as missing, unless a banner or a footer goes with it.

## Main statements

* `wrapCode_eq_empty_iff` — when nothing is written for code.
* `Plan.text_of_finish` — the text of a result, for any assets.
* `Plan.source_text_replaced` — an empty source text for which another entry is shown.
-/

namespace BundleHost

/-! ## Chunks -/

namespace Asset

/-- The asset is code of the source text. -/
inductive IsSource (code : String) : Asset → Prop where
  | chunk {path : String} {isEntry : Bool} :
      IsSource code ⟨path, .chunk code (some ModuleRef.sourceId) isEntry⟩

/-- The asset is code of an entry other than the source text. -/
inductive IsOtherEntry (code : String) : Asset → Prop where
  | chunk {path : String} {facade : Option String} (other : facade ≠ some ModuleRef.sourceId) :
      IsOtherEntry code ⟨path, .chunk code facade true⟩

def sourceCode? (asset : Asset) : Option String :=
  match asset.content with
  | .chunk code facade _ => if facade = some ModuleRef.sourceId then some code else none
  | .raw _ => none

def otherCode? (asset : Asset) : Option String :=
  match asset.content with
  | .chunk code facade isEntry =>
    if isEntry = true ∧ facade ≠ some ModuleRef.sourceId then some code else none
  | .raw _ => none

theorem sourceCode?_eq_some_iff {asset : Asset} {code : String} :
    asset.sourceCode? = some code ↔ asset.IsSource code := by
  constructor
  · intro found
    obtain ⟨path, _ | _⟩ := asset
    · simp only [sourceCode?, Option.ite_none_right_eq_some, Option.some.injEq] at found
      obtain ⟨rfl, rfl⟩ := found
      exact .chunk
    · cases found
  · rintro ⟨⟩
    simp [sourceCode?]

theorem otherCode?_eq_some_iff {asset : Asset} {code : String} :
    asset.otherCode? = some code ↔ asset.IsOtherEntry code := by
  constructor
  · intro found
    obtain ⟨path, _ | _⟩ := asset
    · simp only [otherCode?, Option.ite_none_right_eq_some, Option.some.injEq] at found
      obtain ⟨⟨rfl, other⟩, rfl⟩ := found
      exact .chunk other
    · cases found
  · rintro ⟨other⟩
    simp [otherCode?, other]

end Asset

/-- The code of the last asset that is code of the source text. -/
def SourceCode (assets : List Asset) (code : String) : Prop :=
  ∃ before own after, assets = before ++ own :: after ∧ own.IsSource code ∧
    ∀ asset ∈ after, ∀ code, ¬ asset.IsSource code

/-- The code of the first asset that is code of another entry. -/
def OtherCode (assets : List Asset) (code : String) : Prop :=
  ∃ before other after, assets = before ++ other :: after ∧ other.IsOtherEntry code ∧
    ∀ asset ∈ before, ∀ code, ¬ asset.IsOtherEntry code

section Codes

variable {assets : List Asset} {code : String}

theorem findSome?_sourceCode?_eq_some_iff :
    assets.reverse.findSome? Asset.sourceCode? = some code ↔ SourceCode assets code := by
  simp only [List.findSome?_eq_some_iff, Option.eq_none_iff_forall_ne_some, ne_eq,
    Asset.sourceCode?_eq_some_iff]
  constructor
  · rintro ⟨after, own, before, split, source, last⟩
    refine ⟨before.reverse, own, after.reverse, ?_, source, by simpa using last⟩
    simpa using congrArg List.reverse split
  · rintro ⟨before, own, after, rfl, source, last⟩
    exact ⟨after.reverse, own, before.reverse, by simp, source, by simpa using last⟩

theorem findSome?_otherCode?_eq_some_iff :
    assets.findSome? Asset.otherCode? = some code ↔ OtherCode assets code := by
  simp only [List.findSome?_eq_some_iff, Option.eq_none_iff_forall_ne_some, ne_eq,
    Asset.otherCode?_eq_some_iff]
  exact exists_congr fun before => exists_congr fun other => exists_congr fun after => by simp

theorem findSome?_otherCode?_eq_none (absent : ∀ code, ¬ OtherCode assets code) :
    assets.findSome? Asset.otherCode? = none :=
  Option.eq_none_iff_forall_ne_some.mpr fun code found =>
    absent code (findSome?_otherCode?_eq_some_iff.mp found)

theorem SourceCode.unique {other : String} (h : SourceCode assets code)
    (h' : SourceCode assets other) : code = other := by
  have found := findSome?_sourceCode?_eq_some_iff.mpr h
  rw [findSome?_sourceCode?_eq_some_iff.mpr h'] at found
  exact (Option.some.inj found).symm

theorem OtherCode.unique {other : String} (h : OtherCode assets code)
    (h' : OtherCode assets other) : code = other := by
  have found := findSome?_otherCode?_eq_some_iff.mpr h
  rw [findSome?_otherCode?_eq_some_iff.mpr h'] at found
  exact (Option.some.inj found).symm

end Codes

/-! ## What is written for code -/

/-- Code is written in one way only. -/
theorem Wraps.unique {banner footer : Option String} {code text text' : String}
    (h : Wraps banner footer code text) (h' : Wraps banner footer code text') : text = text' := by
  cases h with
  | closed closed =>
    cases h' with
    | closed => rfl
    | opened footed stays =>
      rcases closed with unfooted | ends
      · exact absurd unfooted footed
      · exact absurd ends stays
  | opened footed stays =>
    cases h' with
    | closed closed =>
      rcases closed with unfooted | ends
      · exact absurd unfooted footed
      · exact absurd ends stays
    | opened => rfl

theorem wraps_iff {banner footer : Option String} {code text : String} :
    Wraps banner footer code text ↔ wrapCode code banner footer = text := by
  constructor
  · exact (wraps_wrapCode code banner footer).unique
  · rintro rfl
    exact wraps_wrapCode code banner footer

theorem markerLine_eq_empty_iff {marker : Option String} :
    markerLine marker = "" ↔ marker = none := by
  cases marker <;> simp [markerLine]

/-- Nothing is written for code that is empty and stands between neither banner nor footer. -/
theorem wrapCode_eq_empty_iff {code : String} {banner footer : Option String} :
    wrapCode code banner footer = "" ↔ code = "" ∧ banner = none ∧ footer = none := by
  constructor
  · intro empty
    have wraps := wraps_wrapCode code banner footer
    generalize wrapCode code banner footer = text at wraps empty
    cases wraps with
    | closed =>
      simp only [String.append_eq_empty_iff, markerLine_eq_empty_iff] at empty
      exact ⟨empty.1.2, empty.1.1, empty.2⟩
    | opened => simp at empty
  · rintro ⟨rfl, rfl, rfl⟩
    rfl

namespace Plan

variable {plan : Plan} {assets : List Asset} {code : String}

/-- Anything is written for code. -/
def Writes (plan : Plan) (code : String) : Prop :=
  code ≠ "" ∨ plan.banner ≠ none ∨ plan.footer ≠ none

theorem wrap_eq_empty_iff : plan.wrap code = "" ↔ ¬ plan.Writes code := by
  rw [Plan.wrap, wrapCode_eq_empty_iff, Writes]
  tauto

theorem sourceCode?_eq (asset : Asset) :
    plan.sourceCode? asset = asset.sourceCode?.map plan.wrap := by
  unfold Plan.sourceCode? Asset.sourceCode?
  obtain ⟨path, ⟨code, _ | facade, isEntry⟩ | _⟩ := asset
  · rfl
  · by_cases own : facade = ModuleRef.sourceId <;> simp [own]
  · rfl

theorem entryCode?_eq (asset : Asset) :
    plan.entryCode? asset = asset.otherCode?.map plan.wrap := by
  unfold Plan.entryCode? Asset.otherCode?
  obtain ⟨path, ⟨code, facade, _ | _⟩ | _⟩ := asset
  · rfl
  · by_cases own : facade = some ModuleRef.sourceId <;> simp [own]
  · rfl

theorem outputText_eq (plan : Plan) (assets : List Asset) :
    plan.outputText assets =
      let own := ((assets.reverse.findSome? Asset.sourceCode?).map plan.wrap).getD ""
      if own = "" then ((assets.findSome? Asset.otherCode?).map plan.wrap).getD "" else own := by
  unfold Plan.outputText
  have own : (assets.filterMap plan.sourceCode?).getLast? =
      (assets.reverse.findSome? Asset.sourceCode?).map plan.wrap := by
    rw [List.getLast?_filterMap, List.map_findSome?]
    exact congrArg (List.findSome? · _) (funext sourceCode?_eq)
  have other : assets.findSome? plan.entryCode? =
      (assets.findSome? Asset.otherCode?).map plan.wrap := by
    rw [List.map_findSome?]
    exact congrArg (List.findSome? · _) (funext entryCode?_eq)
  simp only [own, other, String.isEmpty_iff]

theorem outputText_of_source (source : SourceCode assets code) (writes : plan.Writes code) :
    plan.outputText assets = plan.wrap code := by
  have found := findSome?_sourceCode?_eq_some_iff.mpr source
  have filled : plan.wrap code ≠ "" := fun empty => wrap_eq_empty_iff.mp empty writes
  simp [outputText_eq, found, filled]

/-- Nothing is written for the source text. -/
def Silent (plan : Plan) (assets : List Asset) : Prop :=
  ∀ code, SourceCode assets code → ¬ plan.Writes code

theorem outputText_of_silent (silent : plan.Silent assets) :
    plan.outputText assets = ((assets.findSome? Asset.otherCode?).map plan.wrap).getD "" := by
  have own : ((assets.reverse.findSome? Asset.sourceCode?).map plan.wrap).getD "" = "" := by
    cases found : assets.reverse.findSome? Asset.sourceCode? with
    | none => rfl
    | some code =>
      exact wrap_eq_empty_iff.mpr (silent code (findSome?_sourceCode?_eq_some_iff.mp found))
  rw [outputText_eq]
  exact if_pos own

theorem outputText_of_other (silent : plan.Silent assets) (other : OtherCode assets code) :
    plan.outputText assets = plan.wrap code := by
  rw [outputText_of_silent silent, findSome?_otherCode?_eq_some_iff.mpr other]
  rfl

theorem outputText_of_none (silent : plan.Silent assets)
    (alone : ∀ code, ¬ OtherCode assets code) : plan.outputText assets = "" := by
  rw [outputText_of_silent silent, findSome?_otherCode?_eq_none alone]
  rfl

/-- The text of a result, by the assets that it is taken from. -/
structure TextOf (plan : Plan) (assets : List Asset) (text : String) : Prop where
  /-- It is the code of the source text if anything is written for it, -/
  source (code : String) : SourceCode assets code → plan.Writes code →
    Wraps plan.banner plan.footer code text
  /-- else the code of the first other entry, -/
  other (code : String) : plan.Silent assets → OtherCode assets code →
    Wraps plan.banner plan.footer code text
  /-- and nothing if there is no other entry. -/
  nothing : plan.Silent assets → (∀ code, ¬ OtherCode assets code) → text = ""
  /-- So where the source text has a chunk, its text is shown exactly if anything is written for
  it or if the first other entry has no code either. -/
  source_iff (code : String) : SourceCode assets code →
    (Wraps plan.banner plan.footer code text ↔
      plan.Writes code ∨ ∀ other, OtherCode assets other → other = "")

/-- Where nothing is written for code, nothing is written for other code but the code itself. -/
theorem wrap_eq_empty_iff_of_not_writes (bare : ¬ plan.Writes code) {other : String} :
    plan.wrap other = "" ↔ other = "" := by
  rw [wrap_eq_empty_iff]
  unfold Writes at *
  tauto

theorem source_shown_iff (source : SourceCode assets code) :
    plan.wrap code = plan.outputText assets ↔
      plan.Writes code ∨ ∀ other, OtherCode assets other → other = "" := by
  by_cases writes : plan.Writes code
  · exact iff_of_true (outputText_of_source source writes).symm (.inl writes)
  · have silent : plan.Silent assets := fun code' source' => source.unique source' ▸ writes
    rw [wrap_eq_empty_iff.mpr writes, or_iff_right writes]
    by_cases alone : ∃ other, OtherCode assets other
    · obtain ⟨other, first⟩ := alone
      rw [outputText_of_other silent first, eq_comm, wrap_eq_empty_iff_of_not_writes writes]
      constructor
      · intro empty other' first'
        exact first.unique first' ▸ empty
      · intro empty
        exact empty other first
    · have alone := not_exists.mp alone
      exact iff_of_true (outputText_of_none silent alone).symm
        fun other first => absurd first (alone other)

theorem textOf_outputText (plan : Plan) (assets : List Asset) :
    plan.TextOf assets (plan.outputText assets) where
  source code source writes := by
    rw [outputText_of_source source writes]
    exact wraps_wrapCode code plan.banner plan.footer
  other code silent other := by
    rw [outputText_of_other silent other]
    exact wraps_wrapCode code plan.banner plan.footer
  nothing := outputText_of_none
  source_iff code source := wraps_iff.trans (source_shown_iff source)

theorem outputText_of_finish [RegexEngine] {record : HookRecord} {reports : List Report}
    {result : RunResult} (finished : plan.finish record (.bundle assets reports) = .ok result) :
    result.outputText = plan.outputText assets := by
  cases harmed : record.failure with
  | some failure =>
    rw [finish_of_failure harmed] at finished
    cases finished
  | none =>
    by_cases complete : plan.unresolved (reports.map Report.toDiagnostic) = []
    · rw [finish_of_resolved harmed assets complete] at finished
      cases finished
      rfl
    · rw [finish_of_unresolved harmed assets complete] at finished
      cases finished

/-- The text of the result of a run, for any files that the engine made. -/
theorem text_of_finish [RegexEngine] {record : HookRecord} {reports : List Report}
    {result : RunResult} (finished : plan.finish record (.bundle assets reports) = .ok result) :
    plan.TextOf assets result.outputText := by
  rw [outputText_of_finish finished]
  exact textOf_outputText plan assets

/-- The files of an empty source text and of another entry point. -/
def emptyBesideEntry : List Asset :=
  [⟨"b.js", .chunk "console.log(1);\n" (some "/b.js") true⟩,
    ⟨"stdin.js", .chunk "" (some ModuleRef.sourceId) true⟩]

theorem sourceCode_emptyBesideEntry : SourceCode emptyBesideEntry "" :=
  ⟨[_], _, [], rfl, .chunk, by simp⟩

/-- With a banner, the banner alone is shown for an empty source text. -/
theorem text_of_finish_banner :
    let settings : BuildSettings := BuildSettings.mapShared (·.assign .banner "// b") {}
    ∃ plan result, forBuild "/" .empty settings "" = .ok plan ∧
      plan.finish {} (.bundle emptyBesideEntry []) = .ok result ∧
      plan.TextOf emptyBesideEntry result.outputText ∧ result.outputText = "// b\n" :=
  ⟨_, _, rfl, rfl, @text_of_finish _ emptyBesideEntry _ {} [] _ rfl, rfl⟩

/-- Without one, the code of another entry point is shown in place of an empty source text, for
which nothing is to be shown. -/
theorem source_text_replaced :
    let settings : BuildSettings := { entryPoints := ["./b.js"] }
    ∃ plan result, forBuild "/" .empty settings "" = .ok plan ∧
      plan.finish {} (.bundle emptyBesideEntry []) = .ok result ∧
      SourceCode emptyBesideEntry "" ∧ ¬ Wraps plan.banner plan.footer "" result.outputText ∧
      Wraps plan.banner plan.footer "console.log(1);\n" result.outputText := by
  refine ⟨_, _, rfl, rfl, sourceCode_emptyBesideEntry, ?_, ?_⟩
  · rw [wraps_iff]
    decide +kernel
  · exact wraps_iff.mpr rfl

end Plan

end BundleHost
