import BundleHost.Configuration.Layers
import BundleHost.Json.Printer
import BundleHost.Proofs.Enumeration
import BundleHost.Proofs.Text.Ascii
import BundleHost.Proofs.Text.Trim
import Mathlib.Data.List.TakeDrop
import Mathlib.Data.List.TakeWhile

/-!
# Values of variables

Any text is what some variable gives: in double quotes it stands for itself. A bare text is a truth
value, a number or a text, or stands for itself as a whole where it is followed by something else.
The names of members can be written bare, save the words for truth values.

## Main statements

* `valueOf_quoted` — what a quoted text gives.
* `valueOf_of_isOrdinary` — texts that give themselves.
* `ne_toString_of_valueOf` — no single character gives itself as a character.
* `valueOf_of_isNameLike` — what the name of a member gives.
-/

namespace BundleHost.Environment

open Json (hexChar)
open Unicode (isWhiteSpace)

/-! ## Quoted texts -/

/-- A character between double quotes. -/
def quotedChar (c : Char) : List Char :=
  if c = '"' ∨ c = '\\' then ['\\', c]
  else if Toml.isPlain c then [c]
  else ['\\', 'u', '0', '0', hexChar (c.toNat / 16), hexChar (c.toNat % 16)]

/-- A text in double quotes, which gives just that text. -/
def quoted (text : String) : String :=
  String.ofList ('"' :: (text.toList.flatMap quotedChar ++ ['"']))

theorem hexNat_hexChar : ∀ n < 0x80,
    Unicode.hexNat ['0', '0', hexChar (n / 16), hexChar (n % 16)] = n ∧
    ['0', '0', hexChar (n / 16), hexChar (n % 16)].all Toml.isHex = true := by
  decide

theorem hex_eq_some {width : Nat} {text : List Char} {c : Char}
    (number : Unicode.hexNat (text.take width) = c.toNat) (long : (text.take width).length = width)
    (hex : (text.take width).all Toml.isHex = true) :
    Toml.escape?.hex width text = some (c, text.drop width) := by
  have valid : (Unicode.hexNat (text.take width)).isValidChar := number ▸ c.valid
  have same : ∀ {n : Nat} (valid : n.isValidChar), n = c.toNat → Char.ofNatAux n valid = c := by
    rintro _ valid rfl
    rfl
  refine (dif_pos valid).trans ((if_pos ⟨long, hex⟩).trans ?_)
  rw [same valid number]

theorem escape?_hexChar {c : Char} (low : c.toNat < 0x80) (rest : List Char) :
    Toml.escape? ('u' :: '0' :: '0' :: hexChar (c.toNat / 16) :: hexChar (c.toNat % 16) :: rest) =
      some (c, rest) := by
  obtain ⟨number, hex⟩ := hexNat_hexChar c.toNat low
  exact hex_eq_some number rfl hex

theorem basicString_escape {escaped rest : List Char} {c : Char} (fuel : Nat)
    (read : Toml.escape? escaped = some (c, rest)) :
    Toml.basicString (fuel + 1) ('\\' :: escaped) =
      (Toml.basicString fuel rest).map fun (text, rest) => (c :: text, rest) := by
  rw [Toml.basicString, read]
  cases read : Toml.basicString fuel rest <;> simp [read]

theorem basicString_quotedChar (c : Char) (fuel : Nat) (rest : List Char) :
    Toml.basicString (fuel + 1) (quotedChar c ++ rest) =
      (Toml.basicString fuel rest).map fun (text, rest) => (c :: text, rest) := by
  rw [quotedChar]
  split
  next mark =>
    obtain rfl | rfl := mark <;> exact basicString_escape fuel rfl
  next mark =>
    obtain ⟨quote, slash⟩ := not_or.mp mark
    split
    next plain =>
      rw [List.singleton_append, Toml.basicString, if_pos plain]
      · exact quote
      · exact slash
    next plain =>
      have low : c.toNat < 0x80 := by
        simp only [Toml.isPlain, Bool.or_eq_true, Bool.and_eq_true, decide_eq_true_eq] at plain
        omega
      exact basicString_escape fuel (escape?_hexChar low rest)

/-- Every character takes a step. -/
theorem basicString_flatMap_quotedChar (text rest : List Char) {fuel : Nat}
    (enough : text.length < fuel) :
    Toml.basicString fuel (text.flatMap quotedChar ++ '"' :: rest) = some (text, rest) := by
  induction text generalizing fuel with
  | nil =>
    obtain ⟨fuel, rfl⟩ := Nat.exists_eq_add_of_lt enough
    simp [Toml.basicString]
  | cons c text ih =>
    obtain ⟨fuel, rfl⟩ := Nat.exists_eq_add_of_lt enough
    rw [List.flatMap_cons, List.append_assoc, basicString_quotedChar]
    rw [ih (by rw [List.length_cons]; omega)]
    rfl

theorem length_le_length_flatMap_quotedChar (text : List Char) :
    text.length ≤ (text.flatMap quotedChar).length := by
  induction text with
  | nil => exact Nat.le_refl _
  | cons c text ih =>
    have one : 0 < (quotedChar c).length := by
      rw [quotedChar]
      split
      · simp
      · split <;> simp
    rw [List.flatMap_cons, List.length_cons, List.length_append]
    omega

theorem valueOf_quoted (text : String) : valueOf (quoted text) = .text text := by
  let inside := text.toList.flatMap quotedChar ++ ['"']
  have enough : text.toList.length < inside.length := by
    have := length_le_length_flatMap_quotedChar text.toList
    simp only [inside, List.length_append, List.length_singleton]
    omega
  have read : Toml.basicString inside.length inside = some (text.toList, []) :=
    basicString_flatMap_quotedChar text.toList [] enough
  have value : ∀ fuel, value? (fuel + 1) ('"' :: inside) = some (.text text, []) := by
    intro fuel
    simp [value?, skipBlanks, isBlank, read]
  rw [valueOf, quoted, String.toList_ofList, value]
  rfl

/-! ## Bare texts -/

/-- The word for a truth value. -/
def truthWord : Bool → List Char
  | true => ['t', 'r', 'u', 'e']
  | false => ['f', 'a', 'l', 's', 'e']

/-- The word for a truth value, with nothing but blanks around it. -/
def IsBoolean (text : String) : Prop :=
  ∃ truth before after, text.toList = before ++ truthWord truth ++ after ∧
    (∀ c ∈ before, isBlank c = true) ∧ ∀ c ∈ after, isBlank c = true

/-- The characters that begin a quoted text, a list or a table. -/
def marks : List Char := ['"', '\'', '[', '\x7b']

def IsNumber (word : List Char) : Prop :=
  word.contains '.' = true ∧ isFloat word = true ∨ (integer? word).isSome = true

theorem ofWord_of_not_isNumber {word : List Char} (other : ¬ IsNumber (Text.trimChars word)) :
    ofWord word = .text (String.ofList (Text.trimChars word)) := by
  obtain ⟨noFloat, noInteger⟩ := not_or.mp other
  rw [ofWord, if_neg (by simpa using noFloat), Option.not_isSome_iff_eq_none.mp noInteger]

theorem unique_ofWord (word : List Char) : (ofWord word).unique = ofWord word := by
  rw [ofWord]
  split
  · rfl
  · split <;> rfl

section Bare

variable {text : List Char} (bare : ∀ c ∈ (skipBlanks text).head?, c ∉ marks)

include bare

theorem value?_of_bare (fuel : Nat) :
    (∃ truth rest, skipBlanks text = truthWord truth ++ rest ∧
      value? (fuel + 1) text = some (.bool truth, skipBlanks rest)) ∨
    value? (fuel + 1) text =
      some (ofWord ((skipBlanks text).takeWhile (!isSeparator ·)),
        skipBlanks ((skipBlanks text).dropWhile (!isSeparator ·))) := by
  unfold value?
  generalize skipBlanks text = start at *
  split
  next rest => exact .inl ⟨true, rest, rfl, rfl⟩
  next rest => exact .inl ⟨false, rest, rfl, rfl⟩
  iterate 5 next => exact absurd (by decide) (bare _ rfl)
  next =>
    right
    rw [List.span_eq_takeWhile_dropWhile]
    rfl

end Bare

/-- What is left behind a separator is more than blanks. -/
theorem eq_nil_of_skipBlanks_dropWhile {text : List Char}
    (rest : skipBlanks (text.dropWhile (!isSeparator ·)) = []) :
    text.dropWhile (!isSeparator ·) = [] := by
  have stop := Text.head?_dropWhile (p := (!isSeparator ·)) text
  cases eq : text.dropWhile (!isSeparator ·) with
  | nil => rfl
  | cons c rest' =>
    rw [eq] at rest stop
    have separates : isSeparator c = true := by simpa using stop c rfl
    have blank : isBlank c = true := List.dropWhile_eq_nil_iff.mp rest c List.mem_cons_self
    simp only [isSeparator, isBlank, Bool.or_eq_true, decide_eq_true_eq] at separates blank
    grind

/-- A value counts if nothing follows it. -/
theorem valueOf_eq {text : String} {document : Document} {rest : List Char}
    (value : value? (2 * text.length + 2) text.toList = some (document, rest)) :
    valueOf text = if rest = [] then document.unique else .text text := by
  rw [valueOf, value]
  cases rest <;> rfl

/-- A bare text is a truth value, or a word, or stands for itself. -/
theorem valueOf_of_bare {text : String}
    (bare : ∀ c ∈ (skipBlanks text.toList).head?, c ∉ marks) :
    IsBoolean text ∨ valueOf text = .text text ∨
      valueOf text = ofWord (skipBlanks text.toList) := by
  obtain ⟨truth, rest, start, value⟩ | value := value?_of_bare bare (2 * text.length + 1)
  · rw [valueOf_eq value]
    split
    next done =>
      refine .inl ⟨truth, text.toList.takeWhile isBlank, rest, ?_, ?_, ?_⟩
      · rw [List.append_assoc, ← start, skipBlanks, List.takeWhile_append_dropWhile]
      · exact List.all_eq_true.mp List.all_takeWhile
      · exact List.dropWhile_eq_nil_iff.mp done
    next => exact .inr (.inl rfl)
  · rw [valueOf_eq value]
    split
    next done =>
      have all := List.dropWhile_eq_nil_iff.mp (eq_nil_of_skipBlanks_dropWhile done)
      rw [List.takeWhile_eq_self_iff.mpr all, unique_ofWord]
      exact .inr (.inr rfl)
    next => exact .inr (.inl rfl)

theorem isWhiteSpace_of_isBlank {c : Char} (blank : isBlank c = true) : isWhiteSpace c = true := by
  simp only [isBlank, Bool.or_eq_true, decide_eq_true_eq, or_assoc] at blank
  obtain rfl | rfl | rfl | rfl | rfl := blank <;> rfl

/-! ## Texts that give themselves -/

/-- Neither quoted nor a list, a table, a truth value or a number, and without white space at its
ends. -/
structure IsOrdinary (text : String) : Prop where
  trimmed : Text.IsTrimmed text.toList
  bare : ∀ c ∈ text.toList.head?, c ∉ marks
  noBoolean : ¬ IsBoolean text
  noNumber : ¬ IsNumber text.toList

theorem valueOf_of_isOrdinary {text : String} (ordinary : IsOrdinary text) :
    valueOf text = .text text := by
  have start : skipBlanks text.toList = text.toList := by
    refine Text.dropWhile_eq_self fun c first => ?_
    cases blank : isBlank c with
    | false => rfl
    | true =>
      have white := isWhiteSpace_of_isBlank blank
      exact absurd (white.symm.trans (ordinary.trimmed.1 c first)) nofun
  have bare := ordinary.bare
  rw [← start] at bare
  obtain boolean | itself | word := valueOf_of_bare bare
  · exact absurd boolean ordinary.noBoolean
  · exact itself
  · have whole := ordinary.trimmed.trimChars_eq
    have noNumber := ordinary.noNumber
    rw [← whole] at noNumber
    rw [word, start, ofWord_of_not_isNumber noNumber, whole, String.ofList_toList]

/-! ## Single characters -/

theorem ofWord_ne_char (word : List Char) (c : Char) : ofWord word ≠ .char c := by
  rw [ofWord]
  split
  · nofun
  · split <;> nofun

/-- A single character is given in single quotes. -/
theorem length_of_value?_char {fuel : Nat} {text rest : List Char} {c : Char}
    (value : value? (fuel + 1) text = some (.char c, rest)) : 3 ≤ text.length := by
  have shorter : (skipBlanks text).length ≤ text.length := (List.dropWhile_suffix _).length_le
  refine Nat.le_trans ?_ shorter
  unfold value? at value
  generalize skipBlanks text = start at *
  split at value
  iterate 5 next => simp [Option.bind_eq_some_iff] at value
  next => simp
  next => cases value
  next =>
    simp only [Option.bind_eq_bind, Option.bind_some, Option.some.injEq, Prod.mk.injEq] at value
    exact absurd value.1 (ofWord_ne_char _ c)

theorem unique_eq_char_iff {document : Document} {c : Char} :
    document.unique = .char c ↔ document = .char c := by
  cases document <;> simp [Document.unique]

/-- No character gives itself as a character. -/
theorem ne_toString_of_valueOf {text : String} {c : Char} (eq : valueOf text = .char c) :
    text ≠ c.toString := by
  rintro rfl
  rw [valueOf] at eq
  split at eq
  next document value =>
    obtain rfl := unique_eq_char_iff.mp eq
    have long := length_of_value?_char value
    simp at long
  next => cases eq

/-! ## Names of members -/

theorem isKeyChar_iff {c : Char} :
    isKeyChar c = true ↔ c.isAlphanum = true ∨ c = '-' ∨ c = '_' := by
  simp [isKeyChar, or_assoc]

theorem isKeyChar_of_toLower {c : Char} (h : isKeyChar c.toLower = true) : isKeyChar c = true := by
  obtain upper | same := Text.isUpper_or_toLower_eq c
  · have letter : c.isAlpha = true := Text.isAlpha_iff.mpr (.inl upper)
    have alphanum : c.isAlphanum = true := Text.isAlphanum_iff.mpr (.inl letter)
    exact isKeyChar_iff.mpr (.inl alphanum)
  · rwa [same] at h

/-- White space around letters, digits, dashes and underscores, the first one a letter. -/
structure IsNameLike (text : List Char) : Prop where
  keyChars : ∀ c ∈ Text.trimChars text, isKeyChar c = true
  letter : ∀ c ∈ (Text.trimChars text).head?, c.isAlpha = true

theorem IsNameLike.not_isNumber {text : List Char} (like : IsNameLike text) :
    ¬ IsNumber (Text.trimChars text) := by
  obtain ⟨keyChars, letter⟩ := like
  rintro (⟨point, -⟩ | integer)
  · have mem : '.' ∈ Text.trimChars text := by simpa using point
    exact absurd (keyChars '.' mem) (by decide)
  · generalize Text.trimChars text = word at *
    cases word with
    | nil => cases integer
    | cons c rest =>
      have letter : c.isAlpha = true := letter c rfl
      have noSign : Toml.splitSign (c :: rest) = (none, c :: rest) := by
        unfold Toml.splitSign
        split
        next eq => exact absurd ((List.cons.inj eq).1 ▸ letter) (by decide)
        next eq => exact absurd ((List.cons.inj eq).1 ▸ letter) (by decide)
        next => rfl
      simp [integer?, noSign, Text.isDigit_eq_false_of_isAlpha letter] at integer

theorem IsNameLike.bare {text : List Char} (like : IsNameLike text) :
    ∀ c ∈ (skipBlanks text).head?, c ∉ marks := by
  intro c first mark
  have mem : c ∈ text := (List.dropWhile_suffix _).subset (List.mem_of_mem_head? first)
  have others : marks.all (fun c => !isWhiteSpace c && !isKeyChar c) = true := by decide
  have other := List.all_eq_true.mp others c mark
  simp only [Bool.and_eq_true, Bool.not_eq_true'] at other
  have keyChar := like.keyChars c (Text.mem_trimChars mem other.1)
  exact absurd (other.2.symm.trans keyChar) nofun

theorem valueOf_of_isNameLike {text : String} (like : IsNameLike text.toList) :
    IsBoolean text ∨
      ∃ name, valueOf text = .text name ∧ Enumeration.key name = Enumeration.key text := by
  obtain boolean | itself | word := valueOf_of_bare like.bare
  · exact .inl boolean
  · exact .inr ⟨text, itself, rfl⟩
  · have trimmed : Text.trimChars (skipBlanks text.toList) = Text.trimChars text.toList :=
      Text.trimChars_dropWhile (fun _ => isWhiteSpace_of_isBlank) _
    refine .inr ⟨_, word.trans (ofWord_of_not_isNumber ?_), ?_⟩
    · rw [trimmed]
      exact like.not_isNumber
    · rw [trimmed, Enumeration.key, Enumeration.key, Text.trim, Text.trim, String.toList_ofList,
        Text.trimChars_trimChars]

theorem spelled_like_names (v : Vocabulary) : ∀ entry ∈ Enumeration.spellings v.Member,
    entry.1.toList.all isKeyChar = true ∧ entry.1.toList.head?.all Char.isAlpha = true := by
  cases v <;> decide +kernel

/-- Whatever a member is called is like a name. -/
theorem isNameLike_of_goesBy {v : Vocabulary} {m : v.Member} {text : String}
    (called : Enumeration.GoesBy m (Enumeration.key text)) : IsNameLike text.toList := by
  obtain ⟨keyChars, letter⟩ := spelled_like_names v _ (Enumeration.mem_spellings.mpr called)
  have key : (Enumeration.key text).toList = (Text.trimChars text.toList).map Char.toLower := by
    simp [Enumeration.key, Text.lowerAscii, Text.trim]
  rw [key, List.all_map, List.all_eq_true] at keyChars
  rw [key, List.head?_map, Option.all_map, Option.all_eq_true] at letter
  exact ⟨fun c mem => isKeyChar_of_toLower (keyChars c mem),
    fun c first => Text.isAlpha_of_toLower (letter c first)⟩

end BundleHost.Environment
