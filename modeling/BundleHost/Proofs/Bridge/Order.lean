import BundleHost.Proofs.Bridge.History
import Mathlib.Data.Set.Function

/-!
# The order of calls

The engine has several workers, which call the bridge in no fixed order. A call learns of others
only through the directory that the load of its importer gave. So as long as every module is loaded
before its imports are resolved, and the handlers are functions of their requests, all orders of
the same calls come to the same.

## Main statements

* `Reordered.exchange_unique` — a call has the same exchange wherever it stands.
* `order_of_calls` — what two orders of the same calls have in common.
-/

namespace BundleHost

theorem getLast?_congr {α : Type} {xs ys : List α} (same : ∀ a, a ∈ xs ↔ a ∈ ys)
    (one : ∀ a ∈ xs, ∀ b ∈ xs, a = b) : xs.getLast? = ys.getLast? := by
  cases last : ys.getLast? with
  | none =>
    obtain rfl := List.getLast?_eq_none_iff.mp last
    exact List.getLast?_eq_none_iff.mpr (List.eq_nil_iff_forall_not_mem.mpr fun a h =>
      List.not_mem_nil ((same a).mp h))
  | some b =>
    have inXs := (same b).mpr (List.mem_of_getLast? last)
    cases last' : xs.getLast? with
    | none =>
      rw [List.getLast?_eq_none_iff.mp last'] at inXs
      cases inXs
    | some a => rw [one a (List.mem_of_getLast? last') b inXs]

section AnyEngine

variable [RegexEngine] {World ρ α : Type}

/-- The response depends on nothing but the request; the handler may still act on the world. -/
def Rule.IsFunction (rule : Rule (StateM World) ρ α) : Prop :=
  ∀ request w w',
    (StateT.run (rule.handler request) w).1 = (StateT.run (rule.handler request) w').1

namespace Dispatch

variable {m : Type → Type}

theorem exists_mem_of_claim? [Addressed ρ] {rules : Plugin m → List (Rule m ρ α)}
    {plugins : List (Plugin m)} {request : ρ} {name : String} {rule : Rule m ρ α}
    (h : claim? rules plugins request = some (name, rule)) :
    ∃ plugin ∈ plugins, rule ∈ rules plugin := by
  obtain ⟨before, after, split, -, -⟩ := claim?_eq_some_iff.mp h
  have offered : (name, rule) ∈ offers rules plugins := by simp [split]
  obtain ⟨plugin, attached, has⟩ := List.mem_flatMap.mp offered
  obtain ⟨_, owned, same⟩ := List.mem_map.mp has
  obtain ⟨rfl, rfl⟩ := Prod.mk.inj same
  exact ⟨plugin, attached, owned⟩

end Dispatch

namespace Bridge

/-- All handlers are functions of their requests. -/
structure IsFunctional (bridge : Bridge (StateM World)) : Prop where
  resolve : ∀ plugin ∈ bridge.plugins, ∀ rule ∈ plugin.resolveRules, rule.IsFunction
  load : ∀ plugin ∈ bridge.plugins, ∀ rule ∈ plugin.loadRules, rule.IsFunction

/-- The module that a call names as the importing one. -/
def Call.importer? : Call → Option String
  | .resolve question => question.importer
  | .load _ => none

/-- Every load of a module comes before every question with the module as importer. -/
def LoadsFirst (calls : List Call) : Prop :=
  calls.Pairwise fun earlier later => ∀ id, later = .load id → earlier.importer? ≠ some id

variable {bridge : Bridge (StateM World)} {s s' s₁ s₂ s₁' s₂' : BridgeState}
  {w w' w₁ w₂ w₁' w₂' : World}

/-! ## The same call in two places -/

theorem IsFunctional.resolve_eq (functional : bridge.IsFunctional) (request : ResolveRequest)
    (w₁ w₂ : World) :
    (StateT.run (Dispatch.resolve bridge.plugins request) w₁).1 =
      (StateT.run (Dispatch.resolve bridge.plugins request) w₂).1 := by
  cases claimed : Dispatch.claim? Plugin.resolveRules bridge.plugins request with
  | none =>
    unfold Dispatch.resolve
    rw [claimed]
    rfl
  | some offer =>
    obtain ⟨name, rule⟩ := offer
    obtain ⟨plugin, attached, has⟩ := Dispatch.exists_mem_of_claim? claimed
    have response := functional.resolve plugin attached rule has request w₁ w₂
    rw [Dispatch.resolve_of_first (Dispatch.claim?_eq_some_iff.mp claimed)]
    exact congrArg (Dispatch.checkResolve name) response

theorem IsFunctional.load_eq (functional : bridge.IsFunctional) (request : LoadRequest)
    (w₁ w₂ : World) :
    (StateT.run (Dispatch.load bridge.plugins request) w₁).1 =
      (StateT.run (Dispatch.load bridge.plugins request) w₂).1 := by
  cases claimed : Dispatch.claim? Plugin.loadRules bridge.plugins request with
  | none =>
    unfold Dispatch.load
    rw [claimed]
    rfl
  | some offer =>
    obtain ⟨name, rule⟩ := offer
    obtain ⟨plugin, attached, has⟩ := Dispatch.exists_mem_of_claim? claimed
    have response := functional.load plugin attached rule has request w₁ w₂
    rw [Dispatch.load_of_first (Dispatch.claim?_eq_some_iff.mp claimed)]
    exact congrArg (Dispatch.checkLoad name) response

omit [RegexEngine] in
theorem dirOf_congr (entry : SourceEntry) {id : String}
    (h : s₁.moduleDirs.get? id = s₂.moduleDirs.get? id) :
    s₁.dirOf entry id = s₂.dirOf entry id := by
  unfold BridgeState.dirOf
  rw [h]

theorem request_congr {question : Question}
    (h : bridge.dir question s₁ = bridge.dir question s₂) :
    bridge.request question s₁ = bridge.request question s₂ := by
  obtain ⟨specifier, importer, kind⟩ := question
  cases importer with
  | none => rfl
  | some id =>
    have dir : s₁.dirOf bridge.entry id = s₂.dirOf bridge.entry id := h
    simp only [request, resolveRequest, dir]

theorem fst_settleResolve_congr {question : Question}
    (h : bridge.dir question s₁ = bridge.dir question s₂)
    (result : Except HookFailure (Handling ResolveAnswer)) :
    (bridge.settleResolve question.specifier question.importer result s₁).1 =
      (bridge.settleResolve question.specifier question.importer result s₂).1 := by
  have dir : question.importer.bind (s₁.dirOf bridge.entry) =
    question.importer.bind (s₂.dirOf bridge.entry) := h
  match result with
  | .error failure => rfl
  | .ok .unhandled => simp only [settleResolve, dir]
  | .ok (.handled plugin answer) => simp only [settleResolve, dir]

omit [RegexEngine] in
theorem fst_settleLoad (id : String) (result : Except HookFailure (Handling LoadAnswer))
    (s₁ s₂ : BridgeState) : (settleLoad id result s₁).1 = (settleLoad id result s₂).1 := by
  match result with
  | .error failure => rfl
  | .ok .unhandled => rfl
  | .ok (.handled plugin answer) => rfl

theorem IsFunctional.consultResolve_eq (functional : bridge.IsFunctional) {question : Question}
    (h : bridge.dir question s₁ = bridge.dir question s₂) (w₁ w₂ : World) :
    (StateT.run (bridge.consultResolve question s₁) w₁).1 =
      (StateT.run (bridge.consultResolve question s₂) w₂).1 := by
  unfold consultResolve
  by_cases own : question.IsSource
  · rw [if_pos own, if_pos own]
    rfl
  · rw [if_neg own, if_neg own, ← request, ← request, request_congr h]
    exact functional.resolve_eq _ w₁ w₂

theorem IsFunctional.consultLoad_eq (functional : bridge.IsFunctional) (id : String)
    (w₁ w₂ : World) :
    (StateT.run (bridge.consultLoad id) w₁).1 = (StateT.run (bridge.consultLoad id) w₂).1 := by
  unfold consultLoad
  by_cases own : id = ModuleRef.sourceId
  · rw [if_pos own]
    rfl
  · rw [if_neg own]
    exact functional.load_eq _ w₁ w₂

/-- The reply to a question follows from the plugins' result and the importer's directory. -/
theorem Step.route_eq {question : Question} {result : Except HookFailure (Handling ResolveAnswer)}
    {route : Route} (h : bridge.Step s w (.resolve question result route) s' w') :
    result = (StateT.run (bridge.consultResolve question s) w).1 ∧
      route = if question.IsSource then .found ⟨ModuleRef.sourceId, false, none⟩
        else (bridge.settleResolve question.specifier question.importer result s).1 := by
  cases h with
  | resolve consulted answered =>
    refine ⟨by rw [consulted], ?_⟩
    by_cases own : question.IsSource
    · rw [run_resolve_of_isSource own] at answered
      cases answered
      rw [if_pos own]
    · rw [run_resolve_of_consulted own consulted] at answered
      rw [if_neg own, (Prod.mk.inj answered).1]

/-- The reply to a load follows from the plugins' result. -/
theorem Step.loaded_eq {id : String} {result : Except HookFailure (Handling LoadAnswer)}
    {loaded : Loaded} (h : bridge.Step s w (.load id result loaded) s' w') :
    result = (StateT.run (bridge.consultLoad id) w).1 ∧
      loaded = if id = ModuleRef.sourceId
        then .contents bridge.entry.source (.ofLoader bridge.entry.loader)
        else (settleLoad id result s).1 := by
  cases h with
  | load consulted answered =>
    refine ⟨by rw [consulted], ?_⟩
    by_cases own : id = ModuleRef.sourceId
    · rw [run_load_of_source own] at answered
      cases answered
      rw [if_pos own]
    · rw [run_load_of_consulted own consulted] at answered
      rw [if_neg own, (Prod.mk.inj answered).1]

/-- A call has the same exchange in two states with the same directory for its importer. -/
theorem Step.exchange_eq (functional : bridge.IsFunctional) {e₁ e₂ : Exchange}
    (h₁ : bridge.Step s₁ w₁ e₁ s₁' w₁') (h₂ : bridge.Step s₂ w₂ e₂ s₂' w₂')
    (same : e₁.call = e₂.call)
    (dirs : ∀ id, e₁.call.importer? = some id →
      s₁.moduleDirs.get? id = s₂.moduleDirs.get? id) : e₁ = e₂ := by
  cases e₁ with
  | resolve question result₁ route₁ =>
    cases e₂ with
    | load => cases same
    | resolve _ result₂ route₂ =>
      obtain rfl := Call.resolve.inj same
      have dir : bridge.dir question s₁ = bridge.dir question s₂ := by
        unfold Bridge.dir
        cases imported : question.importer with
        | none => rfl
        | some id => exact dirOf_congr bridge.entry (dirs id imported)
      have result : result₁ = result₂ := by
        rw [h₁.route_eq.1, h₂.route_eq.1]
        exact functional.consultResolve_eq dir w₁ w₂
      subst result
      rw [h₁.route_eq.2, h₂.route_eq.2, fst_settleResolve_congr dir]
  | load id result₁ loaded₁ =>
    cases e₂ with
    | resolve => cases same
    | load _ result₂ loaded₂ =>
      obtain rfl := Call.load.inj same
      have result : result₁ = result₂ := by
        rw [h₁.loaded_eq.1, h₂.loaded_eq.1]
        exact functional.consultLoad_eq id w₁ w₂
      subst result
      rw [h₁.loaded_eq.2, h₂.loaded_eq.2, fst_settleLoad id result₁ s₁ s₂]

/-! ## The same call in two runs -/

theorem Transcript.split {before after : List Exchange} {exchange : Exchange}
    (h : bridge.Transcript s w (before ++ exchange :: after) s' w') :
    ∃ s₁ w₁ s₂ w₂, bridge.Transcript s w before s₁ w₁ ∧ bridge.Step s₁ w₁ exchange s₂ w₂ ∧
      bridge.Transcript s₂ w₂ after s' w' := by
  induction before generalizing s w with
  | nil =>
    cases h with
    | cons first rest => exact ⟨s, w, _, _, .nil s w, first, rest⟩
  | cons earlier before ih =>
    cases h with
    | cons first rest =>
      obtain ⟨s₁, w₁, s₂, w₂, run, step, later⟩ := ih rest
      exact ⟨s₁, w₁, s₂, w₂, .cons first run, step, later⟩

omit [RegexEngine] in
theorem Exchange.call_of_dir? {exchange : Exchange} {id dir : String}
    (h : exchange.dir? id = some dir) : exchange.call = .load id := by
  unfold Exchange.dir? at h
  split at h
  next loaded _ _ _ =>
    by_cases same : loaded = id
    · rw [Exchange.call, same]
    · simp [same] at h
  next => cases h

/-- Once a call names a module as importer, the directory of the module has its last value. -/
theorem Transcript.exists_step_of_mem {exchanges : List Exchange} {exchange : Exchange}
    (h : bridge.Transcript s w exchanges s' w')
    (loadsFirst : LoadsFirst (exchanges.map Exchange.call)) (member : exchange ∈ exchanges) :
    ∃ s₁ w₁ s₂ w₂, bridge.Step s₁ w₁ exchange s₂ w₂ ∧
      ∀ id, exchange.call.importer? = some id →
        s₁.moduleDirs.get? id = s'.moduleDirs.get? id := by
  obtain ⟨before, after, rfl⟩ := List.append_of_mem member
  obtain ⟨s₁, w₁, s₂, w₂, _, step, later⟩ := h.split
  refine ⟨s₁, w₁, s₂, w₂, step, fun id imports => ?_⟩
  -- Neither the call nor one behind it loads the importer.
  have unloaded : ∀ e ∈ exchange :: after, e.dir? id = none := by
    intro e placed
    by_contra given
    obtain ⟨dir, given⟩ := Option.ne_none_iff_exists'.mp given
    have loads := Exchange.call_of_dir? given
    obtain rfl | behind := List.mem_cons.mp placed
    · rw [loads] at imports
      cases imports
    · rw [LoadsFirst, List.map_append, List.map_cons, List.pairwise_append] at loadsFirst
      have order := (List.pairwise_cons.mp loadsFirst.2.1).1 e.call (List.mem_map_of_mem behind)
      exact order id loads imports
  have added := (Transcript.cons step later).adds.dirs id
  rw [latestDir?, List.filterMap_eq_nil_iff.mpr unloaded] at added
  exact added.symm

/-- Two runs of the same calls from one state, which load modules before their imports. -/
structure Reordered (bridge : Bridge (StateM World)) (s : BridgeState) (xs : List Exchange)
    (s₁ : BridgeState) (ys : List Exchange) (s₂ : BridgeState) : Prop where
  functional : bridge.IsFunctional
  left : ∃ w w', bridge.Transcript s w xs s₁ w'
  right : ∃ w w', bridge.Transcript s w ys s₂ w'
  leftFirst : LoadsFirst (xs.map Exchange.call)
  rightFirst : LoadsFirst (ys.map Exchange.call)
  perm : (xs.map Exchange.call).Perm (ys.map Exchange.call)

namespace Reordered

variable {xs ys : List Exchange}

theorem symm (h : bridge.Reordered s xs s₁ ys s₂) : bridge.Reordered s ys s₂ xs s₁ :=
  ⟨h.functional, h.right, h.left, h.rightFirst, h.leftFirst, h.perm.symm⟩

theorem leftTwice (h : bridge.Reordered s xs s₁ ys s₂) : bridge.Reordered s xs s₁ xs s₁ :=
  ⟨h.functional, h.left, h.left, h.leftFirst, h.leftFirst, .refl _⟩

theorem exists_call_eq (h : bridge.Reordered s xs s₁ ys s₂) {e : Exchange} (member : e ∈ xs) :
    ∃ e' ∈ ys, e'.call = e.call :=
  List.mem_map.mp (h.perm.mem_iff.mp (List.mem_map_of_mem member))

/-- The exchanges of a call are the same if its importer gets the same directory in both runs. -/
theorem exchange_eq (h : bridge.Reordered s xs s₁ ys s₂) {e₁ e₂ : Exchange} (inLeft : e₁ ∈ xs)
    (inRight : e₂ ∈ ys) (same : e₁.call = e₂.call)
    (dirs : ∀ id, e₁.call.importer? = some id →
      s₁.moduleDirs.get? id = s₂.moduleDirs.get? id) : e₁ = e₂ := by
  obtain ⟨_, _, left⟩ := h.left
  obtain ⟨_, _, right⟩ := h.right
  obtain ⟨_, _, _, _, first, last₁⟩ := left.exists_step_of_mem h.leftFirst inLeft
  obtain ⟨_, _, _, _, second, last₂⟩ := right.exists_step_of_mem h.rightFirst inRight
  refine first.exchange_eq h.functional second same fun id imports => ?_
  rw [last₁ id imports, last₂ id (same ▸ imports), dirs id imports]

theorem load_eq (h : bridge.Reordered s xs s₁ ys s₂) {e₁ e₂ : Exchange} {id : String}
    (inLeft : e₁ ∈ xs) (inRight : e₂ ∈ ys) (left : e₁.call = .load id)
    (right : e₂.call = .load id) : e₁ = e₂ := by
  refine h.exchange_eq inLeft inRight (left.trans right.symm) fun other imports => ?_
  rw [left] at imports
  cases imports

theorem mem_dirs (h : bridge.Reordered s xs s₁ ys s₂) {id dir : String}
    (given : dir ∈ xs.filterMap (Exchange.dir? id)) : dir ∈ ys.filterMap (Exchange.dir? id) := by
  obtain ⟨e, inLeft, gives⟩ := List.mem_filterMap.mp given
  obtain ⟨e', inRight, same⟩ := h.exists_call_eq inLeft
  have loads := Exchange.call_of_dir? gives
  obtain rfl := h.load_eq inLeft inRight loads (same.trans loads)
  exact List.mem_filterMap.mpr ⟨e, inRight, gives⟩

theorem dirs_subsingleton (h : bridge.Reordered s xs s₁ ys s₂) {id dir dir' : String}
    (given : dir ∈ xs.filterMap (Exchange.dir? id))
    (given' : dir' ∈ xs.filterMap (Exchange.dir? id)) : dir = dir' := by
  obtain ⟨e, member, gives⟩ := List.mem_filterMap.mp given
  obtain ⟨e', member', gives'⟩ := List.mem_filterMap.mp given'
  obtain rfl := h.leftTwice.load_eq member member' (Exchange.call_of_dir? gives)
    (Exchange.call_of_dir? gives')
  exact Option.some.inj (gives.symm.trans gives')

/-- All loads of a module give the same directory, so it does not matter which is the latest. -/
theorem moduleDirs_eq (h : bridge.Reordered s xs s₁ ys s₂) (id : String) :
    s₁.moduleDirs.get? id = s₂.moduleDirs.get? id := by
  obtain ⟨_, _, left⟩ := h.left
  obtain ⟨_, _, right⟩ := h.right
  have latest : latestDir? xs id = latestDir? ys id :=
    getLast?_congr (fun dir => ⟨h.mem_dirs, h.symm.mem_dirs⟩) fun dir given dir' given' =>
      h.dirs_subsingleton given given'
  rw [left.adds.dirs, right.adds.dirs, latest]

/-- A call has the same exchange wherever it stands. -/
theorem exchange_unique (h : bridge.Reordered s xs s₁ ys s₂) {e₁ e₂ : Exchange}
    (inLeft : e₁ ∈ xs) (inRight : e₂ ∈ ys) (same : e₁.call = e₂.call) : e₁ = e₂ :=
  h.exchange_eq inLeft inRight same fun id _ => h.moduleDirs_eq id

/-- There is one exchange for every call, of which both runs consist. -/
theorem exists_exchange (h : bridge.Reordered s xs s₁ ys s₂) :
    ∃ exchange : Call → Exchange, (∀ e ∈ xs, exchange e.call = e) ∧
      ∀ e ∈ ys, exchange e.call = e := by
  have : Nonempty Exchange := ⟨.load "" (.ok .unhandled) .engine⟩
  have unique : Set.InjOn Exchange.call {e | e ∈ xs} := fun e inLeft e' inLeft' same =>
    h.leftTwice.exchange_unique inLeft inLeft' same
  have found : ∀ e ∈ xs, Function.invFunOn Exchange.call {e | e ∈ xs} e.call = e :=
    unique.leftInvOn_invFunOn
  refine ⟨_, found, fun e inRight => ?_⟩
  obtain ⟨e', inLeft, same⟩ := h.symm.exists_call_eq inRight
  obtain rfl := h.exchange_unique inLeft inRight same
  exact found e' inLeft

end Reordered

omit [RegexEngine] in
theorem map_call_map {zs : List Exchange} {exchange : Call → Exchange}
    (fixed : ∀ e ∈ zs, exchange e.call = e) : (zs.map Exchange.call).map exchange = zs := by
  rw [List.map_map]
  exact (List.map_congr_left fixed).trans (List.map_id zs)

/-- If handlers are functions of their requests, two orders of the same calls that load every module
before its imports are resolved give every call the same reply. They end with the same directories
and, but for the order, the same warnings; and if one of them ends with a failure, so does the
other. That failure was kept before, or is the reply to one of the calls. -/
theorem order_of_calls (bridge : Bridge (StateM World)) (functional : bridge.IsFunctional)
    {calls calls' : List Call} (same : calls.Perm calls') (loadsFirst : LoadsFirst calls)
    (loadsFirst' : LoadsFirst calls') (state : BridgeState) (w w' : World) :
    ∃ (reply : Call → Reply) (final final' : BridgeState) (v v' : World),
      StateT.run (bridge.answerAll calls state) w = ((calls.map reply, final), v) ∧
      StateT.run (bridge.answerAll calls' state) w' = ((calls'.map reply, final'), v') ∧
      (∀ id, final.moduleDirs.get? id = final'.moduleDirs.get? id) ∧
      final.takeWarnings.1.Perm final'.takeWarnings.1 ∧
      (final.takeFailure.1.isSome ↔ final'.takeFailure.1.isSome) ∧
      ∀ failure, final.takeFailure.1 = some failure ∨ final'.takeFailure.1 = some failure →
        state.failure = some failure ∨
          ∃ call ∈ calls, (reply call).failure? = some failure := by
  obtain ⟨xs, final, v, left, rfl⟩ := exists_transcript bridge calls state w
  obtain ⟨ys, final', v', right, rfl⟩ := exists_transcript bridge calls' state w'
  have reordered : bridge.Reordered state xs final ys final' :=
    ⟨functional, ⟨w, v, left⟩, ⟨w', v', right⟩, loadsFirst, loadsFirst', same⟩
  obtain ⟨exchange, fixed, fixed'⟩ := reordered.exists_exchange
  have perm : xs.Perm ys := by
    have mapped := same.map exchange
    rwa [map_call_map fixed, map_call_map fixed'] at mapped
  refine ⟨Exchange.reply ∘ exchange, final, final', v, v', ?_, ?_, reordered.moduleDirs_eq, ?_,
    ?_, ?_⟩
  · rw [left.run_answerAll, ← List.map_map, map_call_map fixed]
  · rw [right.run_answerAll, ← List.map_map, map_call_map fixed']
  · change final.warnings.Perm final'.warnings
    rw [left.adds.warnings, right.adds.warnings]
    exact (perm.flatMap_right _).append_left _
  · change final.failure.isSome ↔ final'.failure.isSome
    rw [left.adds.failure, right.adds.failure, Option.isSome_or, Option.isSome_or,
      List.isSome_findSome?, List.isSome_findSome?, perm.any_eq]
  · intro failure kept
    -- Both runs consist of the same exchanges, so those of one of them do.
    have known : state.failure = some failure ∨ ∃ e ∈ xs, e.failure? = some failure := by
      obtain inLeft | inRight := kept
      · exact left.adds.failure_cases inLeft
      · simpa only [perm.mem_iff] using right.adds.failure_cases inRight
    obtain before | ⟨e, member, failed⟩ := known
    · exact .inl before
    · refine .inr ⟨e.call, List.mem_map_of_mem member, ?_⟩
      rw [Function.comp_apply, fixed e member]
      exact failed

end Bridge

end AnyEngine

namespace Bridge

/-- A bridge to a plugin that counts its loads and gives every module the directory that is named
like its namespace. -/
def countingBridge : Bridge (StateM Nat) :=
  let count (request : LoadRequest) : StateM Nat (Except String LoadAnswer) := fun n =>
    (.ok { contents := request.path, resolveDir := some ("/" ++ request.space) }, n + 1)
  ⟨[⟨"count", none, none, [], [⟨.everything, none, count⟩]⟩], ⟨"text", .js, "/"⟩, {}⟩

/-- A module, one of its imports, and another module that may be loaded before or after them. -/
theorem order_of_calls_counting :
    let module : Call := .load "\x00b:c"
    let other : Call := .load "\x00d:e"
    let imported : Call := .resolve ⟨"./x", some "\x00b:c", .importStatement⟩
    [module, imported, other].Perm [other, module, imported] ∧
      LoadsFirst [module, imported, other] ∧ LoadsFirst [other, module, imported] ∧
      ∃ reply : Call → Reply, reply imported = .route (.delegate "/b/<stdin>") ∧
        (StateT.run (countingBridge.answerAll [module, imported, other] {}) 0).1.1 =
          [module, imported, other].map reply ∧
        (StateT.run (countingBridge.answerAll [other, module, imported] {}) 7).1.1 =
          [other, module, imported].map reply := by
  intro module other imported
  have functional : countingBridge.IsFunctional := by
    refine ⟨fun plugin attached rule has => ?_, fun plugin attached rule has => ?_⟩
    · obtain rfl := List.mem_singleton.mp attached
      cases has
    · obtain rfl := List.mem_singleton.mp attached
      obtain rfl := List.mem_singleton.mp has
      exact fun _ _ _ => rfl
  have perm : [module, imported, other].Perm [other, module, imported] := by decide
  have first : LoadsFirst [module, imported, other] := by
    simp [LoadsFirst, module, imported, other, Call.importer?]
  have first' : LoadsFirst [other, module, imported] := by
    simp [LoadsFirst, module, imported, other, Call.importer?]
  obtain ⟨reply, _, _, _, _, replies, replies', -⟩ :=
    order_of_calls countingBridge functional perm first first' {} 0 7
  have listed := congrArg (fun p => p.1.1) replies
  have listed' := congrArg (fun p => p.1.1) replies'
  refine ⟨perm, first, first', reply, ?_, listed, listed'⟩
  have second := congrArg (fun all : List Reply => all[1]?) listed
  exact (Option.some.inj second).symm.trans rfl

end Bridge

end BundleHost
