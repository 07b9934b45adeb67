import BundleHost.Json.Printer
import BundleHost.Json.Reader
import BundleHost.Proofs.Text.Ascii
import BundleHost.Proofs.Text.Split

/-!
# Reading printed strings and numbers

What is printed for a text or a number of 64 bits is read back, whatever follows it. Only after a
number it matters what follows: a digit, a point or an exponent would belong to the number.

## Main statements

* `exists_writeString` — texts, with any characters.
* `readNumber_writeInt` — integers of 64 bits, with or without a sign.
-/

namespace BundleHost.Json

/-! ## Strings -/

/-- The characters that are escaped by a letter or by themselves. -/
def shortEscaped : List Char := ['"', '\\', '\x08', '\x0c', '\n', '\r', '\t']

theorem hex4?_hexChar : ∀ n < 0x20,
    hex4? '0' '0' (hexChar (n / 16)) (hexChar (n % 16)) = some n := by
  decide

theorem escape_of_control {c : Char} (plain : c ∉ shortEscaped) (control : c.toNat < 0x20) :
    escape c = ['\\', 'u', '0', '0', hexChar (c.toNat / 16), hexChar (c.toNat % 16)] := by
  simp only [shortEscaped, List.mem_cons, List.not_mem_nil, or_false, not_or] at plain
  simp [escape, plain, control]

theorem escape_of_printable {c : Char} (plain : c ∉ shortEscaped) (printable : ¬ c.toNat < 0x20) :
    escape c = [c] := by
  simp only [shortEscaped, List.mem_cons, List.not_mem_nil, or_false, not_or] at plain
  simp [escape, plain, printable]

/-- A character is read back from its escape. -/
theorem readString_escape (c : Char) (rest : List Char) :
    readString (escape c ++ rest) =
      (readString rest).map fun (text, rest) => (c :: text, rest) := by
  by_cases short : c ∈ shortEscaped
  · simp only [shortEscaped, List.mem_cons, List.not_mem_nil, or_false] at short
    obtain rfl | rfl | rfl | rfl | rfl | rfl | rfl := short <;>
      simp [escape, readString, shortEscape?]
  · by_cases control : c.toNat < 0x20
    · have unit := hex4?_hexChar c.toNat control
      have low : ¬ (0xD800 ≤ c.toNat ∧ c.toNat < 0xDC00) := by omega
      have low' : ¬ (0xDC00 ≤ c.toNat ∧ c.toNat < 0xE000) := by omega
      rw [escape_of_control short control]
      simp [readString, unit, low, low']
    · have quote : c ≠ '"' := by rintro rfl; exact short (by decide)
      have slash : c ≠ '\\' := by rintro rfl; exact short (by decide)
      rw [escape_of_printable short control, List.singleton_append, readString]
      · rw [if_neg (by simp [control, slash])]
      · exact quote
      · exact fun _ _ _ _ _ eq _ => slash eq
      · exact fun _ _ eq _ => slash eq

theorem readString_flatMap_escape (text rest : List Char) :
    readString (text.flatMap escape ++ '"' :: rest) = some (text, rest) := by
  induction text with
  | nil => simp [readString]
  | cons c text ih =>
    rw [List.flatMap_cons, List.append_assoc, readString_escape, ih]
    rfl

/-- Behind its opening quote, a printed text is read up to its end. -/
theorem exists_writeString (text : String) : ∃ inside, writeString text = '"' :: inside ∧
    ∀ rest, readString (inside ++ rest) = some (text.toList, rest) := by
  refine ⟨text.toList.flatMap escape ++ ['"'], rfl, fun rest => ?_⟩
  rw [List.append_assoc]
  exact readString_flatMap_escape text.toList rest

/-! ## Numbers -/

/-- No character of `rest` could belong to a number in front of it. -/
def EndsNumber (rest : List Char) : Prop :=
  ∀ c ∈ rest.head?, c.isDigit = false ∧ c ≠ '.' ∧ c ≠ 'e' ∧ c ≠ 'E'

theorem endsNumber_nil : EndsNumber [] := nofun

theorem endsNumber_cons {c : Char} (h : c ∈ [',', ']', '\x7d']) (rest : List Char) :
    EndsNumber (c :: rest) := by
  rintro d ⟨⟩
  revert h
  simp only [List.mem_cons, List.not_mem_nil, or_false]
  rintro (rfl | rfl | rfl) <;> decide

theorem takeDigits_append {digits rest : List Char} (digit : ∀ c ∈ digits, c.isDigit = true)
    (ends : EndsNumber rest) : takeDigits (digits ++ rest) = (digits, rest) := by
  rw [takeDigits, ← List.span_eq_takeWhile_dropWhile]
  exact Text.span_append digit fun c first => (ends c first).1

theorem natOfDigits_toDigits (n : Nat) : natOfDigits (Nat.toDigits 10 n) = n :=
  Nat.ofDigitChars_ten_toDigits

/-- No number but zero begins with a zero. -/
theorem exists_toDigits {n : Nat} (h : 0 < n) :
    ∃ c digits, Nat.toDigits 10 n = c :: digits ∧ c ≠ '0' := by
  induction n using Nat.strongRecOn with
  | _ n ih =>
    rw [Nat.toDigits_eq_if (by decide)]
    split
    · refine ⟨_, [], rfl, ?_⟩
      rw [ne_eq, Nat.digitChar_eq_zero]
      omega
    · obtain ⟨c, digits, eq, nonzero⟩ := ih (n / 10) (by omega) (by omega)
      exact ⟨c, digits ++ [Nat.digitChar (n % 10)], by rw [eq, List.cons_append], nonzero⟩

theorem readWhole_toDigits {rest : List Char} (n : Nat) (ends : EndsNumber rest) :
    readWhole (Nat.toDigits 10 n ++ rest) = some (Nat.toDigits 10 n, rest) := by
  obtain rfl | positive := Nat.eq_zero_or_pos n
  · have stop : rest.head?.any Char.isDigit = false := by
      cases rest with
      | nil => rfl
      | cons c rest => exact (ends c rfl).1
    simp [readWhole, Nat.toDigits_zero, stop]
  · have digit : ∀ c ∈ Nat.toDigits 10 n, c.isDigit = true := fun _ =>
      Text.isDigit_of_mem_toDigits
    have taken := takeDigits_append digit ends
    obtain ⟨c, digits, eq, nonzero⟩ := exists_toDigits positive
    simp only [eq, List.cons_append] at taken ⊢
    simp [readWhole, nonzero, taken]

theorem readFraction_eq {rest : List Char} (ends : EndsNumber rest) :
    readFraction rest = some ([], rest) := by
  unfold readFraction
  split
  next => exact absurd rfl (ends '.' rfl).2.1
  next => rfl

theorem readExponent_eq {rest : List Char} (ends : EndsNumber rest) :
    readExponent rest = some (none, rest) := by
  unfold readExponent
  split
  next => exact absurd rfl (ends 'e' rfl).2.2.1
  next => exact absurd rfl (ends 'E' rfl).2.2.2
  next => rfl

/-- The integers of 64 bits, with or without a sign. -/
def IsWord (n : Int) : Prop := -(Document.intLimit : Int) ≤ n ∧ n < UInt64.size

theorem readNumber_writeInt {n : Int} {rest : List Char} (word : IsWord n)
    (ends : EndsNumber rest) : readNumber (writeInt n ++ rest) = some (.int n, rest) := by
  obtain ⟨low, high⟩ := word
  cases n with
  | ofNat n =>
    have small : n < UInt64.size := Int.ofNat_lt.1 high
    have whole := readWhole_toDigits n ends
    obtain ⟨c, digits, eq⟩ : ∃ c digits, Nat.toDigits 10 n = c :: digits :=
      List.exists_cons_of_ne_nil Nat.toDigits_ne_nil
    have unsigned : c ≠ '-' := by
      rintro rfl
      have digit : '-'.isDigit = true :=
        Text.isDigit_of_mem_toDigits (n := n) (by simp [eq])
      exact absurd digit (by decide)
    have value := natOfDigits_toDigits n
    rw [eq] at whole value
    rw [List.cons_append] at whole
    simp [writeInt, readNumber, eq, unsigned, whole, value, small, readFraction_eq ends,
      readExponent_eq ends]
  | negSucc n =>
    have small : n + 1 ≤ Document.intLimit := by omega
    simp [writeInt, readNumber, readWhole_toDigits _ ends, readFraction_eq ends,
      readExponent_eq ends, natOfDigits_toDigits, small, Int.negSucc_eq]

end BundleHost.Json
