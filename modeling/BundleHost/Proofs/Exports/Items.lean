import BundleHost.Exports
import BundleHost.Proofs.Text.Search
import BundleHost.Proofs.Text.Split
import BundleHost.Proofs.Text.Trim

/-!
# Items of an export list

An item of an export list is a name, or a name and the one that it is exported under with `as`
between them. A reader of the text alone takes for the exported name what stands behind the last
`as` that has a blank right before it and right behind it. So it misses an `as` beside which other
white space stands, and it misses a name where `as` itself is a name between blanks.

## Main definitions

* `Item` — an item with any white space in it.
* `Item.exported?`, `Item.read?` — the name that an item exports, and the one that is read.

## Main statements

* `Item.exportedAs_chars` — what is read of an item.
* `Item.read?_eq_exported?_iff` — when the exported name is read.
-/

namespace BundleHost.Exports

open Unicode (isWhiteSpace)

/-! ## Items -/

/-- White space, possibly none. -/
structure Spacing where
  chars : List Char
  white : ∀ c ∈ chars, isWhiteSpace c = true

/-- White space between two words. -/
structure Gap extends Spacing where
  nonempty : chars ≠ []

/-- A word of an export list. It ends at white space, at a comma and at the end of the list. -/
structure Word where
  text : String
  nonempty : text ≠ ""
  plain : ∀ c ∈ text.toList, isWhiteSpace c = false ∧ c ≠ ',' ∧ c ≠ '\x7d'

def Word.chars (word : Word) : List Char := word.text.toList

/-- What stands between the commas of an export list, apart from the white space around it. -/
inductive Entry where
  | nothing
  | plain (word : Word)
  /-- A name and the one that it is exported under, with `as` between them. -/
  | renamed (word : Word) (before after : Gap) (exported : Word)

def Entry.chars : Entry → List Char
  | .nothing => []
  | .plain word => word.chars
  | .renamed word before after exported =>
    word.chars ++ (before.chars ++ (['a', 's'] ++ (after.chars ++ exported.chars)))

structure Item where
  before : Spacing
  entry : Entry
  after : Spacing

/-- A name by which others can import. -/
def importable? (name : String) : Option String :=
  if name = "" ∨ name = "default" then none else some name

namespace Item

def chars (item : Item) : List Char :=
  item.before.chars ++ (item.entry.chars ++ item.after.chars)

/-- The name that an item is exported under. -/
def exported (item : Item) : String :=
  match item.entry with
  | .nothing => ""
  | .plain word => word.text
  | .renamed _ _ _ exported => exported.text

/-- The name that others import, if there is one. -/
def exported? (item : Item) : Option String := importable? item.exported

end Item

/-- A word that is taken for the mark in front of an exported name: `as` between two blanks. -/
def IsMark (before word after : List Char) : Prop :=
  before.getLast? = some ' ' ∧ word = ['a', 's'] ∧ after.head? = some ' '

instance (before word after : List Char) : Decidable (IsMark before word after) :=
  inferInstanceAs (Decidable (_ ∧ _ ∧ _))

namespace Item

/-- The text that is taken for the exported name. -/
def reading (item : Item) : List Char :=
  match item.entry with
  | .nothing => []
  | .plain word =>
    if IsMark item.before.chars word.chars item.after.chars then [] else word.chars
  | .renamed word before after exported =>
    if IsMark after.chars exported.chars item.after.chars then []
    else if IsMark before.chars ['a', 's'] after.chars then exported.chars
    else if IsMark item.before.chars word.chars before.chars then
      ['a', 's'] ++ (after.chars ++ exported.chars)
    else item.entry.chars

/-- The name that is read of an item, if there is one. -/
def read? (item : Item) : Option String := importable? (String.ofList item.reading)

/-- The exported name stands behind the last word that is taken for a mark. -/
def IsClear (item : Item) : Prop :=
  match item.entry with
  | .nothing => True
  | .plain word => ¬ IsMark item.before.chars word.chars item.after.chars
  | .renamed _ before after exported =>
    IsMark before.chars ['a', 's'] after.chars ∧
      ¬ IsMark after.chars exported.chars item.after.chars

end Item

/-! ## The last mark -/

/-- What stands behind a word begins with white space, if there is anything. -/
def EndsWord (rest : List Char) : Prop := ∀ c ∈ rest.head?, isWhiteSpace c = true

def IsBlack (word : List Char) : Prop := ∀ c ∈ word, isWhiteSpace c = false

theorem isBlack_as : IsBlack ['a', 's'] := by simp [IsBlack, isWhiteSpace]

/-- A text begins with no more than one word. -/
theorem append_inj_of_endsWord {word word' rest rest' : List Char} (black : IsBlack word)
    (black' : IsBlack word') (ends : EndsWord rest) (ends' : EndsWord rest')
    (same : word ++ rest = word' ++ rest') : word = word' ∧ rest = rest' := by
  have cut {word rest : List Char} (black : IsBlack word) (ends : EndsWord rest) :
      (word ++ rest).span (fun c => !isWhiteSpace c) = (word, rest) :=
    Text.span_append (fun c mem => by rw [black c mem, Bool.not_false])
      fun c mem => by rw [ends c mem, Bool.not_true]
  have cuts := (cut black ends).symm.trans (same ▸ cut black' ends')
  exact Prod.mk.inj cuts

/-- The mark in front of an exported name. -/
def mark : List Char := [' ', 'a', 's', ' ']

variable {word rest : List Char}

@[simp]
theorem not_isMark_nil : ¬ IsMark [] word rest := nofun

@[simp]
theorem isMark_cons_cons {c d : Char} {gap : List Char} :
    IsMark (c :: d :: gap) word rest ↔ IsMark (d :: gap) word rest := by
  rw [IsMark, List.getLast?_cons_cons, IsMark]

/-- White space and a word behind it begin with a mark if the word is one. -/
theorem isPrefixOf?_mark {c : Char} (black : IsBlack word) (ends : EndsWord rest) :
    mark.isPrefixOf? (c :: (word ++ rest)) =
      if IsMark [c] word rest then some rest.tail else none := by
  ext after
  rw [List.isPrefixOf?_eq_some_iff_append_eq, Option.ite_none_right_eq_some, Option.some_inj]
  constructor
  · intro same
    change ' ' :: (['a', 's'] ++ ' ' :: after) = c :: (word ++ rest) at same
    obtain ⟨rfl, behind⟩ := List.cons.inj same
    have blank : EndsWord (' ' :: after) := by rintro c ⟨⟩; decide
    obtain ⟨rfl, rfl⟩ := append_inj_of_endsWord isBlack_as black blank ends behind
    exact ⟨⟨rfl, rfl, rfl⟩, rfl⟩
  · rintro ⟨⟨last, rfl, blank⟩, rfl⟩
    obtain rfl : c = ' ' := Option.some.inj last
    obtain ⟨after, rfl⟩ := List.head?_eq_some_iff.mp blank
    rfl

/-- No mark begins with two characters of white space. -/
theorem isPrefixOf?_mark_of_white {d : Char} (white : isWhiteSpace d = true) (c : Char) :
    mark.isPrefixOf? (c :: d :: rest) = none := by
  have other : 'a' ≠ d := by
    rintro rfl
    exact absurd white (by decide)
  simp [mark, List.isPrefixOf?, other]

/-- Of white space and a word, only the last white space and the whole word can be a mark. -/
theorem go_append {gap : List Char} (white : ∀ c ∈ gap, isWhiteSpace c = true)
    (black : IsBlack word) (ends : EndsWord rest) :
    Text.afterLast.go mark (gap ++ (word ++ rest)) =
      (Text.afterLast.go mark rest).or
        (if IsMark gap word rest then some rest.tail else none) := by
  induction gap with
  | nil =>
    have absent : ' ' ∉ word := fun mem => absurd (black ' ' mem) (by decide)
    rw [List.nil_append, mark, Text.afterLast_go_append absent]
    simp
  | cons c gap ih =>
    obtain ⟨-, white⟩ := List.forall_mem_cons.mp white
    rw [List.cons_append, Text.afterLast.go, ih white]
    cases gap with
    | nil =>
      rw [List.nil_append, isPrefixOf?_mark black ends]
      simp
    | cons d gap =>
      rw [List.cons_append, isPrefixOf?_mark_of_white (white d List.mem_cons_self), Option.or_none]
      simp only [isMark_cons_cons]

/-- There is no mark in white space. -/
theorem go_of_white {gap : List Char} (white : ∀ c ∈ gap, isWhiteSpace c = true) :
    Text.afterLast.go mark gap = none := by
  induction gap with
  | nil => rfl
  | cons c gap ih =>
    obtain ⟨-, white⟩ := List.forall_mem_cons.mp white
    rw [Text.afterLast.go, ih white]
    cases gap with
    | nil => simp [mark, List.isPrefixOf?]
    | cons d gap =>
      rw [isPrefixOf?_mark_of_white (white d List.mem_cons_self), Option.or_none]

/-! ## What is read of an item -/

theorem Spacing.not_mem (spacing : Spacing) {c : Char} (black : isWhiteSpace c = false) :
    c ∉ spacing.chars := fun mem => absurd (spacing.white c mem) (Bool.eq_false_iff.mp black)

theorem Spacing.endsWord (spacing : Spacing) : EndsWord spacing.chars := fun c first =>
  spacing.white c (List.mem_of_mem_head? first)

namespace Gap

variable (gap : Gap) (rest : List Char)

theorem head?_append : (gap.chars ++ rest).head? = gap.chars.head? :=
  List.head?_append_of_ne_nil _ gap.nonempty

theorem tail_append : (gap.chars ++ rest).tail = gap.chars.tail ++ rest :=
  List.tail_append_of_ne_nil gap.nonempty

theorem endsWord_append : EndsWord (gap.chars ++ rest) := by
  rw [EndsWord, gap.head?_append]
  exact gap.endsWord

theorem isMark_append {before word : List Char} :
    IsMark before word (gap.chars ++ rest) ↔ IsMark before word gap.chars := by
  rw [IsMark, gap.head?_append, IsMark]

end Gap

namespace Word

variable (word : Word)

theorem black : IsBlack word.chars := fun c mem => (word.plain c mem).1

theorem chars_ne_nil : word.chars ≠ [] := mt String.toList_eq_nil_iff.mp word.nonempty

end Word

/-- A text from one word to another has no white space at its ends. -/
theorem isTrimmed_append {first last : List Char} (black : IsBlack first) (black' : IsBlack last)
    (nonempty : first ≠ []) (nonempty' : last ≠ []) (between : List Char) :
    Text.IsTrimmed (first ++ (between ++ last)) := by
  have begins := Text.isTrimmed_of_black black
  have ends := Text.isTrimmed_of_black black'
  rw [Text.IsTrimmed, List.head?_append_of_ne_nil _ nonempty, ← List.append_assoc,
    List.getLast?_append_of_ne_nil _ nonempty']
  exact ⟨begins.1, ends.2⟩

theorem Entry.isTrimmed_chars (entry : Entry) : Text.IsTrimmed entry.chars := by
  cases entry with
  | nothing => exact Text.isTrimmed_of_black (List.forall_mem_nil _)
  | plain word => exact Text.isTrimmed_of_black word.black
  | renamed word before after exported =>
    have whole := isTrimmed_append word.black exported.black word.chars_ne_nil
      exported.chars_ne_nil (before.chars ++ (['a', 's'] ++ after.chars))
    simpa [Entry.chars] using whole

namespace Item

variable (item : Item)

theorem trimChars_chars : Text.trimChars item.chars = item.entry.chars :=
  Text.trimChars_append item.before.white item.after.white item.entry.isTrimmed_chars

/-- What is behind the last mark of an item with a new name, if it has a mark. -/
theorem go_chars_renamed {before after' : Spacing} {word exported : Word} {gap gap' : Gap} :
    Text.afterLast.go mark (Item.mk before (.renamed word gap gap' exported) after').chars =
      if IsMark gap'.chars exported.chars after'.chars then some after'.chars.tail
      else if IsMark gap.chars ['a', 's'] gap'.chars then
        some (gap'.chars.tail ++ (exported.chars ++ after'.chars))
      else if IsMark before.chars word.chars gap.chars then
        some (gap.chars.tail ++ (['a', 's'] ++ (gap'.chars ++ exported.chars) ++ after'.chars))
      else none := by
  have chars : (Item.mk before (.renamed word gap gap' exported) after').chars =
      before.chars ++ (word.chars ++ (gap.chars ++ (['a', 's'] ++ (gap'.chars ++
        (exported.chars ++ after'.chars))))) := by
    simp [Item.chars, Entry.chars]
  rw [chars, go_append before.white word.black (gap.endsWord_append _),
    go_append gap.white isBlack_as (gap'.endsWord_append _),
    go_append gap'.white exported.black after'.endsWord, go_of_white after'.white]
  simp only [Gap.isMark_append, Gap.tail_append, Option.none_or]
  split_ifs <;> simp

/-- The text behind the last mark of an item, without white space around it. -/
theorem trimChars_afterLast : Text.trimChars (Text.afterLast mark item.chars) = item.reading := by
  obtain ⟨before, entry, after⟩ := item
  cases entry with
  | nothing =>
    have white : ∀ c ∈ before.chars ++ after.chars, isWhiteSpace c = true := by
      rintro c mem
      exact (List.mem_append.mp mem).elim (before.white c) (after.white c)
    change Text.trimChars (Text.afterLast mark (before.chars ++ after.chars)) = []
    rw [Text.afterLast, go_of_white white, Option.getD_none, Text.trimChars_of_white white]
  | plain word =>
    have last : Text.afterLast.go mark (Item.mk before (.plain word) after).chars =
        if IsMark before.chars word.chars after.chars then some after.chars.tail else none := by
      rw [Item.chars, Entry.chars, go_append before.white word.black after.endsWord,
        go_of_white after.white, Option.none_or]
    rw [Text.afterLast, last, reading]
    dsimp only
    split_ifs with found
    · exact Text.trimChars_of_white fun c mem => after.white c (List.mem_of_mem_tail mem)
    · exact trimChars_chars _
  | renamed word gap gap' exported =>
    rw [Text.afterLast, go_chars_renamed, reading]
    dsimp only
    split_ifs with last found first
    · exact Text.trimChars_of_white fun c mem => after.white c (List.mem_of_mem_tail mem)
    · exact Text.trimChars_append (fun c mem => gap'.white c (List.mem_of_mem_tail mem)) after.white
        (Text.isTrimmed_of_black exported.black)
    · exact Text.trimChars_append (fun c mem => gap.white c (List.mem_of_mem_tail mem)) after.white
        (isTrimmed_append isBlack_as exported.black (List.cons_ne_nil _ _) exported.chars_ne_nil _)
    · exact trimChars_chars _

theorem exportedAs_chars : exportedAs item.chars = String.ofList item.reading :=
  congrArg String.ofList item.trimChars_afterLast

end Item

/-! ## What is read and what is exported -/

/-- A text with white space in it is taken for no name that is exported. -/
theorem importable?_ne {name word : String} {c : Char} (mem : c ∈ name.toList)
    (white : isWhiteSpace c = true) (black : IsBlack word.toList) :
    importable? name ≠ importable? word := by
  have outside {word : String} (black : IsBlack word.toList) : name ≠ word := by
    rintro rfl
    exact absurd white (Bool.eq_false_iff.mp (black c mem))
  have nonempty : name ≠ "" := outside (List.forall_mem_nil _)
  have other : name ≠ "default" := outside (by simp [IsBlack, isWhiteSpace])
  intro same
  rw [importable?, if_neg (not_or.mpr ⟨nonempty, other⟩), importable?] at same
  obtain ⟨-, same⟩ := Option.ite_none_left_eq_some.mp same.symm
  exact outside black (Option.some.inj same).symm

namespace Item

theorem ofList_chars (word : Word) : String.ofList word.chars = word.text := String.ofList_toList

/-- Nothing is not what a word is exported under that is taken for a mark. -/
theorem importable?_ne_of_isMark {word : Word} {before after : List Char}
    (mark : IsMark before word.chars after) :
    importable? (String.ofList []) ≠ importable? word.text := by
  rw [← ofList_chars, mark.2.1]
  decide

/-- The exported name is read of an item exactly if it is clear. -/
theorem read?_eq_exported?_iff (item : Item) : item.read? = item.exported? ↔ item.IsClear := by
  obtain ⟨before, entry, after⟩ := item
  cases entry with
  | nothing => exact iff_of_true rfl trivial
  | plain word =>
    simp only [read?, reading, exported?, exported, IsClear]
    split_ifs with mark
    · exact iff_of_false (importable?_ne_of_isMark mark) (not_not_intro mark)
    · exact iff_of_true (congrArg importable? (ofList_chars word)) mark
  | renamed word gap gap' exported =>
    simp only [read?, reading, exported?, Item.exported, IsClear]
    -- What is read in place of the name that follows has the white space behind `as` in it.
    obtain ⟨c, rest, chars⟩ := List.exists_cons_of_ne_nil gap'.nonempty
    have white : isWhiteSpace c = true := gap'.white c (chars ▸ List.mem_cons_self)
    split_ifs with last found first
    · exact iff_of_false (importable?_ne_of_isMark last) fun clear => clear.2 last
    · exact iff_of_true (congrArg importable? (ofList_chars exported)) ⟨found, last⟩
    · have mem : c ∈ (String.ofList (['a', 's'] ++ (gap'.chars ++ exported.chars))).toList := by
        simp [chars]
      exact iff_of_false (importable?_ne mem white exported.black) fun clear => found clear.1
    · have mem : c ∈ (String.ofList (Entry.renamed word gap gap' exported).chars).toList := by
        simp [Entry.chars, chars]
      exact iff_of_false (importable?_ne mem white exported.black) fun clear => found clear.1

end Item

end BundleHost.Exports
