import BundleHost.Dispatch
import BundleHost.Hook.Coding

/-!
# Overlapping rules

A rule is shadowed when an earlier attachment has a rule of the same stage with the same filter and
a restriction that overlaps with its own. Attachments are told apart by their place, so that
plugins of one name, and a plugin attached twice, are compared like any others.
-/

namespace BundleHost

/-- A shadowed rule and the plugin that shadows it. -/
structure Overlap where
  stage : HookStage
  filter : String
  /-- The restriction of the shadowed rule. -/
  restriction : Option String
  winner : String
  shadowed : String
  deriving DecidableEq, Repr

namespace Overlap

def message (overlap : Overlap) : String :=
  overlap.stage.name ++ " rule /" ++ overlap.filter ++ "/ in plugin '" ++ overlap.shadowed ++
    "' is shadowed by plugin '" ++ overlap.winner ++ "', which was attached first"

/-- What the comparison looks at in a rule. -/
structure Entry where
  /-- The place of the attachment. -/
  slot : Nat
  plugin : String
  filter : String
  restriction : Option String
  deriving DecidableEq, Repr

/-- Restrictions overlap if they are equal or one is absent. -/
def restrictionsMeet : Option String → Option String → Bool
  | some a, some b => a = b
  | _, _ => true

def Entry.shadows (winner entry : Entry) : Bool :=
  winner.slot ≠ entry.slot && winner.filter = entry.filter &&
    restrictionsMeet winner.restriction entry.restriction

/-- The rules of one stage in the order of attachment, then in their own order. -/
def entriesFrom [RegexEngine] {m : Type → Type} {ρ α : Type} (rules : Plugin m → List (Rule m ρ α))
    (slot : Nat) : List (Plugin m) → List Entry
  | [] => []
  | plugin :: rest =>
    (rules plugin).map (fun rule => ⟨slot, plugin.name, rule.filter.source, rule.restriction⟩) ++
      entriesFrom rules (slot + 1) rest

/-- The overlaps of entries with those before them, each with the first that shadows it. -/
def among (stage : HookStage) (earlier : List Entry) : List Entry → List Overlap
  | [] => []
  | entry :: rest =>
    let later := among stage (earlier ++ [entry]) rest
    match earlier.find? (·.shadows entry) with
    | some winner =>
      ⟨stage, entry.filter, entry.restriction, winner.plugin, entry.plugin⟩ :: later
    | none => later

/-- All overlaps of attached plugins, those of resolve rules first. -/
def find [RegexEngine] {m : Type → Type} (plugins : List (Plugin m)) : List Overlap :=
  among .resolve [] (entriesFrom Plugin.resolveRules 0 plugins) ++
    among .load [] (entriesFrom Plugin.loadRules 0 plugins)

/-! ## Overlaps as documents -/

def fields : List Decoder.Field :=
  [Decoder.field "stage" .required (HookStage.decode false),
   Decoder.field "filter" .required Decoder.text,
   Decoder.field "namespace" .nullable (Decoder.optional Decoder.text),
   Decoder.field "winner" .required Decoder.text,
   Decoder.field "shadowed" .required Decoder.text]

def decode : Decoder Overlap := fun document => do
  let found ← Decoder.record fields document
  .ok
    { stage := ← Decoder.get found "stage" (HookStage.decode false) .start
      filter := ← Decoder.get found "filter" Decoder.text ""
      restriction := ← Decoder.get found "namespace" (Decoder.optional Decoder.text) none
      winner := ← Decoder.get found "winner" Decoder.text ""
      shadowed := ← Decoder.get found "shadowed" Decoder.text "" }

def encode (overlap : Overlap) : Document :=
  .table
    [("stage", overlap.stage.encode), ("filter", .text overlap.filter),
     ("namespace", .ofOption .text overlap.restriction), ("winner", .text overlap.winner),
     ("shadowed", .text overlap.shadowed)]

end Overlap

end BundleHost
