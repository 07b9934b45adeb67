/-!
# ASCII letters and digits

The ranges of the letters and digits of ASCII, and what changing the case of a letter does.

## Main statements

* `isAlpha_iff`, `isDigit_iff` — the ranges.
* `isUpper_or_toLower_eq` — only capitals change to small letters.
-/

namespace BundleHost.Text

theorem isUpper_iff {c : Char} : c.isUpper = true ↔ 65 ≤ c.toNat ∧ c.toNat ≤ 90 := by
  change decide (c.val ≥ 'A'.val ∧ c.val ≤ 'Z'.val) = true ↔ _
  rw [decide_eq_true_iff, ge_iff_le, UInt32.le_iff_toNat_le, UInt32.le_iff_toNat_le]
  rfl

theorem isLower_iff {c : Char} : c.isLower = true ↔ 97 ≤ c.toNat ∧ c.toNat ≤ 122 := by
  change (decide (c.val ≥ 'a'.val) && decide (c.val ≤ 'z'.val)) = true ↔ _
  rw [Bool.and_eq_true, decide_eq_true_iff, decide_eq_true_iff, ge_iff_le, UInt32.le_iff_toNat_le,
    UInt32.le_iff_toNat_le]
  rfl

theorem isAlpha_iff {c : Char} : c.isAlpha = true ↔ c.isUpper = true ∨ c.isLower = true :=
  Bool.or_eq_true_iff

theorem isDigit_iff {c : Char} : c.isDigit = true ↔ 48 ≤ c.toNat ∧ c.toNat ≤ 57 :=
  Char.isDigit_iff_toNat

/-- What holds of the first characters one by one. -/
theorem of_forall_ofNat {bound : Nat} {P : Char → Prop} (listed : ∀ n < bound, P (Char.ofNat n))
    {c : Char} (low : c.toNat < bound) : P c := by
  have here := listed c.toNat low
  rwa [Char.ofNat_toNat] at here

theorem isDigit_of_mem_toDigits {n : Nat} {c : Char} (mem : c ∈ Nat.toDigits 10 n) :
    c.isDigit = true :=
  Nat.isDigit_of_mem_toDigits (by decide) (by decide) mem

theorem isAlphanum_iff {c : Char} : c.isAlphanum = true ↔ c.isAlpha = true ∨ c.isDigit = true :=
  Bool.or_eq_true_iff

theorem isDigit_eq_false_of_isAlpha {c : Char} (letter : c.isAlpha = true) : c.isDigit = false := by
  rw [← Bool.not_eq_true, isDigit_iff]
  rw [isAlpha_iff, isUpper_iff, isLower_iff] at letter
  omega

theorem isUpper_or_toLower_eq (c : Char) : c.isUpper = true ∨ c.toLower = c := by
  by_cases upper : c.isUpper = true
  · exact .inl upper
  · exact .inr (dif_neg fun range => upper (decide_eq_true range))

theorem isAlpha_of_toLower {c : Char} (letter : c.toLower.isAlpha = true) : c.isAlpha = true := by
  obtain upper | same := isUpper_or_toLower_eq c
  · exact isAlpha_iff.mpr (.inl upper)
  · rwa [same] at letter

end BundleHost.Text
