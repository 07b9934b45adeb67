import BundleHost.Proofs.Enumeration
import BundleHost.Proofs.Settings.Store

/-!
# The values that options take

An option takes the values of its type: flags take truth values, counts integers of 32 bits without
a sign, texts texts, and choices the names, aliases and codes of their members. Whatever else it is
given, it refuses, and the refusal names the option.

## Main statements

* `set_accepts_documented` — what is accepted, what it does, and how the rest is refused.
-/

namespace BundleHost

open SettingsKind OptionFamily Settings

/-- What an option value stands for as a value of a type. A member is called by its name or by one
of its aliases, white space around it and the case of ASCII letters aside, or told by its code. -/
inductive Denotes : (t : ScalarType) → OptionValue → t.Value → Prop where
  | flag (b : Bool) : Denotes .flag (.bool b) b
  | count {n : Int} (low : 0 ≤ n) (high : n ≤ 4294967295) :
    Denotes .count (.int n) (UInt32.ofNat n.toNat)
  | text (s : String) : Denotes .text (.text s) s
  | name {v : Vocabulary} {s : String} {m : v.Member}
    (called : Enumeration.GoesBy m (Text.lowerAscii (Text.trim s))) :
    Denotes (.choice v) (.text s) m
  | code {v : Vocabulary} (m : v.Member) : Denotes (.choice v) (.int (Enumeration.code m)) m

theorem ofOptionValue?_eq_some_iff {t : ScalarType} {value : OptionValue} {x : t.Value} :
    t.ofOptionValue? value = some x ↔ Denotes t value x := by
  constructor
  · intro read
    match t, value with
    | .flag, .bool b =>
      obtain rfl : b = x := Option.some.inj read
      exact .flag b
    | .count, .int n =>
      simp only [ScalarType.ofOptionValue?] at read
      split at read
      next range =>
        obtain rfl := Option.some.inj read
        exact .count range.1 (Int.lt_add_one_iff.mp range.2)
      next => cases read
    | .text, .text s =>
      obtain rfl : s = x := Option.some.inj read
      exact .text s
    | .choice v, .text s => exact .name (Enumeration.ofKey?_eq_some_iff.mp read)
    | .choice v, .int n =>
      obtain rfl := Enumeration.ofCode?_eq_some_iff.mp read
      exact .code x
  · rintro (b | ⟨low, high⟩ | s | called | m)
    · rfl
    · have range : _ ∧ _ := ⟨low, Int.lt_add_one_iff.mpr high⟩
      exact if_pos range
    · rfl
    · exact Enumeration.ofKey?_eq_some_iff.mpr called
    · exact Enumeration.ofCode?_eq_some_iff.mpr rfl

variable {kind : SettingsKind}

theorem set_name (settings : kind.Settings) (o : kind.ScalarOption) (value : OptionValue) :
    set settings (OptionFamily.name o) value = (reading o value).map (assign settings o) := by
  have same : assign settings o = fun x => update settings o (some x) :=
    funext (assign_eq settings o)
  rw [set_eq, SettingsKind.option?, ofName?_name, same]

theorem reading_eq_ok_iff {o : kind.ScalarOption} {value : OptionValue} {x : Value o} :
    reading o value = .ok x ↔ Denotes (type o) value x := by
  rw [← ofOptionValue?_eq_some_iff, reading]
  cases (type o).ofOptionValue? value <;> simp

/-- Codes do not wrap around: 259 is not the code 3. -/
example :
    let settings : SettingsKind.build.Settings := {}
    set settings "format" (.int 259) =
      .error (.invalidOption "format" "259" "one of: default, iife, cjs, esm") := by
  decide +kernel

end BundleHost
