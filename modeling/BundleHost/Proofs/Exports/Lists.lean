import BundleHost.Proofs.Exports.Items
import BundleHost.Proofs.Exports.Repeats
import BundleHost.Proofs.Text.Ascii

/-!
# Names in an export list

In a text that is one export list no declaration is found, whatever its names are: behind a name
there is a comma, a brace or `as`. So its names are what is read of its items, one after the other,
and a name that follows itself is left out.

## Main definitions

* `ExportList` — a text that is one export list, with any white space in it.

## Main statements

* `ExportList.undeclared_chars` — no declaration is found in an export list.
* `names_of_exportList` — the names that are read of an export list, and when they are the exported
  ones.
-/

namespace BundleHost.Exports

open Unicode (isWhiteSpace)

/-! ## Export lists -/

/-- A text that is one export list. -/
structure ExportList where
  before : Spacing
  /-- What stands behind `export`. -/
  gap : Spacing
  first : Item
  more : List Item
  after : List Char
  after_idle : ∀ c ∈ after, isWhiteSpace c = true ∨ c = ';'

namespace ExportList

def items (list : ExportList) : List Item := list.first :: list.more

def chars (list : ExportList) : List Char :=
  list.before.chars ++ ("export".toList ++ (list.gap.chars ++
    '\x7b' :: ([','].intercalate (list.items.map Item.chars) ++ '\x7d' :: list.after)))

def text (list : ExportList) : String := String.ofList list.chars

end ExportList

/-! ## Beginnings of declarations -/

/-- What can stand at the beginning of a declaration, behind `export`. -/
def Opens (text : List Char) : Prop := ∃ word ∈ "async" :: declarators, word.toList <+: text

theorem prefix_of_strip? {word : String} {text rest : List Char}
    (stripped : Text.strip? word text = some rest) : text = word.toList ++ rest :=
  (List.isPrefixOf?_eq_some_iff_append_eq.mp stripped).symm

theorem opens_of_skipWord? {text rest : List Char}
    (opened : skipWord? declarators (skipAsync text) = some rest) : Opens text := by
  cases async : Text.strip? "async" text with
  | some behind =>
    exact ⟨"async", List.mem_cons_self, behind, (prefix_of_strip? async).symm⟩
  | none =>
    have same : skipAsync text = text := by rw [skipAsync, async]; rfl
    rw [same] at opened
    obtain ⟨word, mem, stripped⟩ := List.exists_of_findSome?_eq_some opened
    exact ⟨word, List.mem_cons_of_mem _ mem, rest, (prefix_of_strip? stripped).symm⟩

theorem not_opens_cons {c : Char} (other : c.isAlpha = false) (text : List Char) :
    ¬ Opens (c :: text) := by
  rintro ⟨word, mem, begins⟩
  have letters : ("async" :: declarators).all (·.toList.head?.any Char.isAlpha) = true := by decide
  have letter := List.all_eq_true.mp letters word mem
  cases chars : word.toList with
  | nil => simp [chars] at letter
  | cons d rest =>
    rw [chars] at letter begins
    obtain ⟨rfl, -⟩ := List.cons_prefix_cons.mp begins
    exact absurd letter (Bool.eq_false_iff.mp other)

theorem not_opens_as {text : List Char} (ends : EndsWord text) :
    ¬ Opens (['a', 's'] ++ text) := by
  cases text with
  | nil => simp [Opens, declarators, List.cons_prefix_cons]
  | cons c rest =>
    have third : 'y' ≠ c := by
      rintro rfl
      exact absurd (ends 'y' rfl) (by decide)
    simp [Opens, declarators, List.cons_prefix_cons, third]

/-! ## Marks of a list -/

theorem isAlpha_of_white {c : Char} (white : isWhiteSpace c = true) : c.isAlpha = false := by
  rw [← Bool.not_eq_true, Text.isAlpha_iff, Text.isUpper_iff, Text.isLower_iff]
  simp only [isWhiteSpace, Bool.or_eq_true, Bool.and_eq_true, decide_eq_true_eq] at white
  omega

/-- A comma or a brace, which ends a word, and with it all that a declaration could be. -/
def IsStop (c : Char) : Prop := isWhiteSpace c = false ∧ c.isAlpha = false

instance (c : Char) : Decidable (IsStop c) := inferInstanceAs (Decidable (_ ∧ _))

/-- No word goes on in the text, and no declaration begins behind the white space in front of it. -/
structure Shuts (text : List Char) : Prop where
  head : ∀ c ∈ text.head?, c.isAlpha = false
  not_opens : ¬ Opens (text.dropWhile isWhiteSpace)

theorem EndsWord.isAlpha_eq {text : List Char} (ends : EndsWord text) :
    ∀ c ∈ text.head?, c.isAlpha = false := fun c first => isAlpha_of_white (ends c first)

theorem Spacing.shuts (spacing : Spacing) {c : Char} (stop : IsStop c) (text : List Char) :
    Shuts (spacing.chars ++ c :: text) where
  head := by
    cases chars : spacing.chars with
    | nil =>
      rintro d ⟨⟩
      exact stop.2
    | cons d rest =>
      rintro d ⟨⟩
      exact isAlpha_of_white (spacing.white d (chars ▸ List.mem_cons_self))
  not_opens := by
    rw [List.dropWhile_append_of_pos spacing.white,
      List.dropWhile_cons_of_neg (Bool.eq_false_iff.mp stop.1)]
    exact not_opens_cons stop.2 text

theorem Gap.shuts (gap gap' : Gap) (text : List Char) :
    Shuts (gap.chars ++ (['a', 's'] ++ (gap'.chars ++ text))) where
  head := (gap.endsWord_append _).isAlpha_eq
  not_opens := by
    rw [List.dropWhile_append_of_pos gap.white]
    exact not_opens_as (gap'.endsWord_append text)

theorem Item.not_mem_chars (item : Item) {c : Char} (mark : c = ',' ∨ c = '\x7d') :
    c ∉ item.chars := by
  obtain ⟨before, entry, after⟩ := item
  have black : isWhiteSpace c = false := by
    rcases mark with rfl | rfl <;> decide
  have outside (spacing : Spacing) : c ∉ spacing.chars := spacing.not_mem black
  have other (word : Word) : c ∉ word.chars := fun mem =>
    mark.elim (word.plain c mem).2.1 (word.plain c mem).2.2
  have as : c ≠ 'a' ∧ c ≠ 's' := by
    rcases mark with rfl | rfl <;> decide
  cases entry <;> simp [chars, Entry.chars, outside, other, as]

/-! ## What is found in a list -/

theorem exportList?_of_ne (c : Char) (rest : List Char) (other : c ≠ 'e') :
    exportList? (c :: rest) = none := by
  simp [exportList?, Text.strip?, List.isPrefixOf?, other.symm]

namespace ExportList

variable (list : ExportList)

theorem not_mem_after : 'e' ∉ list.after := by
  intro mem
  rcases list.after_idle 'e' mem with white | same
  · exact absurd white (by decide)
  · exact absurd same (by decide)

theorem filter_exportedAs (items : List Item) :
    ((items.map Item.chars).map exportedAs).filter
        (fun name => !name.isEmpty && name ≠ "default") = items.filterMap Item.read? := by
  induction items with
  | nil => rfl
  | cons item rest ih =>
    rw [List.map_cons, List.map_cons, List.filter_cons, List.filterMap_cons, ih,
      item.exportedAs_chars, Item.read?, importable?]
    generalize String.ofList item.reading = name
    by_cases left : name = "" ∨ name = "default"
    · rcases left with rfl | rfl <;> rfl
    · obtain ⟨nonempty, other⟩ := not_or.mp left
      simp [nonempty, other]

/-- The items are found between the braces. -/
theorem exportList?_items :
    exportList? ("export".toList ++ (list.gap.chars ++
      '\x7b' :: ([','].intercalate (list.items.map Item.chars) ++ '\x7d' :: list.after))) =
      some (list.items.filterMap Item.read?, list.after) := by
  let content := [','].intercalate (list.items.map Item.chars)
  have inside : ∀ c ∈ content, decide (c ≠ '\x7d') = true := by
    intro c mem
    obtain rfl | ⟨piece, mem, inside⟩ := Text.eq_or_exists_of_mem_intercalate mem
    · decide
    · obtain ⟨item, -, rfl⟩ := List.mem_map.mp mem
      exact decide_eq_true (ne_of_mem_of_not_mem inside (item.not_mem_chars (.inr rfl)))
  have cut : (content ++ '\x7d' :: list.after).span (fun c => decide (c ≠ '\x7d')) =
      (content, '\x7d' :: list.after) :=
    Text.span_append inside (by rintro c ⟨⟩; decide)
  have pieces : Text.splitOn ',' content = list.items.map Item.chars :=
    Text.splitOn_intercalate (List.cons_ne_nil _ _)
      (List.forall_mem_map.mpr fun item _ => item.not_mem_chars (.inl rfl))
  have stripped (rest : List Char) : Text.strip? "export" ("export".toList ++ rest) = some rest :=
    List.isPrefixOf?_eq_some_iff_append_eq.mpr rfl
  rw [exportList?, stripped, Option.bind_eq_bind, Option.bind_some,
    List.dropWhile_append_of_pos list.gap.white, List.dropWhile_cons_of_neg (by decide)]
  simp only [cut, pieces, filter_exportedAs, content]

theorem scan_exportList? :
    Text.scan exportList? 0 list.chars = [list.items.filterMap Item.read?] := by
  have nothing := Text.scan_append_of_not_mem exportList?_of_ne list.not_mem_after []
  rw [List.append_nil] at nothing
  let front := "export".toList ++ (list.gap.chars ++
    '\x7b' :: ([','].intercalate (list.items.map Item.chars) ++ ['\x7d']))
  have chars : list.chars = list.before.chars ++ (front ++ list.after) := by
    simp [ExportList.chars, front]
  have found : exportList? (front ++ list.after) =
      some (list.items.filterMap Item.read?, list.after) := by
    rw [← list.exportList?_items]
    simp [front]
  rw [chars, Text.scan_append_of_not_mem exportList?_of_ne (list.before.not_mem (by decide)),
    Text.scan_append_found (by simp [front]) found, nothing, Text.scan]

end ExportList

/-! ## No declaration -/

section AnyEngine

variable [RegexEngine] {word rest : List Char}

theorem exists_opens_of_declaration? {text : List Char} {found : String × List Char}
    (declared : declaration? text = some found) :
    ∃ c rest, text = "export".toList ++ c :: rest ∧ isWhiteSpace c = true ∧
      Opens (rest.dropWhile isWhiteSpace) := by
  obtain ⟨behind, stripped, declared⟩ := Option.bind_eq_some_iff.mp declared
  obtain ⟨begun, skipped, declared⟩ := Option.bind_eq_some_iff.mp declared
  obtain ⟨_, opened, -⟩ := Option.bind_eq_some_iff.mp declared
  cases behind with
  | nil => cases skipped
  | cons c rest =>
    obtain ⟨white, same⟩ := Option.ite_none_right_eq_some.mp skipped
    obtain rfl := Option.some.inj same
    exact ⟨c, rest, prefix_of_strip? stripped, white, opens_of_skipWord? opened⟩

theorem declaration?_of_ne {c : Char} (other : c ≠ 'e') (rest : List Char) :
    declaration? (c :: rest) = none := by
  simp [declaration?, Text.strip?, List.isPrefixOf?, other.symm]

/-- No declaration begins anywhere in the text. -/
def Undeclared (text : List Char) : Prop := ∀ rest, rest <:+ text → declaration? rest = none

namespace Undeclared

theorem append {front : List Char}
    (none : ∀ back, back ≠ [] → back <:+ front → declaration? (back ++ rest) = none)
    (undeclared : Undeclared rest) : Undeclared (front ++ rest) := by
  rintro text ⟨before, same⟩
  obtain ⟨back, whole, rfl⟩ | ⟨back, rfl, rfl⟩ := List.append_eq_append_iff.mp same
  · by_cases empty : back = []
    · subst empty
      exact undeclared rest List.suffix_rfl
    · exact none back empty ⟨before, whole.symm⟩
  · exact undeclared text ⟨back, rfl⟩

theorem append_of_not_mem {front : List Char} (absent : 'e' ∉ front)
    (undeclared : Undeclared rest) : Undeclared (front ++ rest) := by
  refine undeclared.append fun back nonempty suffix => ?_
  obtain ⟨c, back, rfl⟩ := List.exists_cons_of_ne_nil nonempty
  have other : c ≠ 'e' := ne_of_mem_of_not_mem (suffix.mem List.mem_cons_self) absent
  exact declaration?_of_ne other _

/-- A word declares nothing, not even if it ends in `export`. -/
theorem append_word (black : IsBlack word) (shuts : Shuts rest) (undeclared : Undeclared rest) :
    Undeclared (word ++ rest) := by
  refine undeclared.append fun back nonempty suffix => ?_
  by_contra declared
  obtain ⟨found, declared⟩ := Option.ne_none_iff_exists'.mp declared
  obtain ⟨c, text, same, white, opens⟩ := exists_opens_of_declaration? declared
  have here : rest ≠ c :: text := by
    rintro rfl
    apply shuts.not_opens
    rwa [List.dropWhile_cons_of_pos white]
  obtain ⟨later, keyword, rfl⟩ | ⟨later, rfl, behind⟩ := List.append_eq_append_iff.mp same
  · cases later with
    | nil => exact here rfl
    | cons d later =>
      have letter : d ∈ "export".toList := keyword ▸ List.mem_append_right _ List.mem_cons_self
      have letters : "export".toList.all Char.isAlpha = true := by decide
      exact absurd (List.all_eq_true.mp letters d letter)
        (Bool.eq_false_iff.mp (shuts.head d rfl))
  · cases later with
    | nil => exact here behind.symm
    | cons d later =>
      obtain ⟨rfl, -⟩ := List.cons.inj behind
      have mem : c ∈ word := suffix.mem (List.mem_append_right _ List.mem_cons_self)
      exact absurd white (Bool.eq_false_iff.mp (black c mem))

end Undeclared

namespace Item

variable (item : Item)

/-- An item declares nothing. -/
theorem undeclared_append {c : Char} (stop : IsStop c) {text : List Char}
    (undeclared : Undeclared (c :: text)) : Undeclared (item.chars ++ c :: text) := by
  obtain ⟨before, entry, after⟩ := item
  have skip (spacing : Spacing) : 'e' ∉ spacing.chars := spacing.not_mem (by decide)
  have behind := undeclared.append_of_not_mem (skip after)
  have shuts := after.shuts stop text
  rw [chars, List.append_assoc, List.append_assoc]
  apply Undeclared.append_of_not_mem (skip before)
  cases entry with
  | nothing => exact behind
  | plain word => exact behind.append_word word.black shuts
  | renamed word gap gap' exported =>
    have last := behind.append_word exported.black shuts
    have mark : 'e' ∉ ['a', 's'] := by decide
    have named := ((last.append_of_not_mem (skip gap'.toSpacing)).append_of_not_mem
      mark).append_of_not_mem (skip gap.toSpacing)
    simpa [Entry.chars] using named.append_word word.black (gap.shuts gap' _)

end Item

namespace ExportList

variable (list : ExportList)

/-- Items declare nothing, whatever separates them. -/
theorem undeclared_items (first : Item) (more : List Item) {c : Char} (stop : IsStop c)
    {text : List Char} (undeclared : Undeclared (c :: text)) :
    Undeclared ([','].intercalate ((first :: more).map Item.chars) ++ c :: text) := by
  induction more generalizing first with
  | nil => simpa using first.undeclared_append stop undeclared
  | cons next more ih =>
    have comma : IsStop ',' := by decide
    have later : Undeclared ([','] ++ _) := (ih next).append_of_not_mem (by decide)
    simpa using first.undeclared_append comma later

/-- No declaration is found in an export list. -/
theorem undeclared_chars : Undeclared list.chars := by
  have nothing : Undeclared [] := by
    rintro rest suffix
    rw [List.suffix_nil.mp suffix]
    rfl
  have skip (spacing : Spacing) : 'e' ∉ spacing.chars := spacing.not_mem (by decide)
  have after : Undeclared (['\x7d'] ++ (list.after ++ [])) :=
    (nothing.append_of_not_mem list.not_mem_after).append_of_not_mem (by decide)
  have items : Undeclared (['\x7b'] ++ _) :=
    (undeclared_items list.first list.more (by decide) after).append_of_not_mem (by decide)
  have keyword : IsBlack "export".toList := by simp [IsBlack, isWhiteSpace]
  rw [List.append_nil] at items
  exact ((items.append_of_not_mem (skip list.gap)).append_word keyword
    (list.gap.shuts (by decide) _)).append_of_not_mem (skip list.before)

theorem names_text : names list.text = (list.items.filterMap Item.read?).destutter (· ≠ ·) := by
  rw [names, dropRepeats_eq_destutter, text, String.toList_ofList,
    Text.scan_eq_nil list.undeclared_chars, scan_exportList?, List.nil_append,
    List.flatten_singleton]

end ExportList

/-- The names that are read of a text that is one export list, and when they are the exported
ones: the name of an item is read unless white space other than a blank stands right beside its
`as`, or `as` itself is the name and stands between blanks. -/
theorem names_of_exportList (list : ExportList) :
    names list.text = (list.items.filterMap Item.read?).destutter (· ≠ ·) ∧
      (∀ item : Item, item.read? = item.exported? ↔ item.IsClear) ∧
      ((∀ item ∈ list.items, item.IsClear) →
        names list.text = (list.items.filterMap Item.exported?).destutter (· ≠ ·)) := by
  refine ⟨list.names_text, Item.read?_eq_exported?_iff, fun clear => ?_⟩
  have same : list.items.filterMap Item.read? = list.items.filterMap Item.exported? :=
    List.filterMap_congr fun item mem => item.read?_eq_exported?_iff.mpr (clear item mem)
  rw [list.names_text, same]

end AnyEngine

/-! ## Lists over several lines -/

def noSpace : Spacing := ⟨[], List.forall_mem_nil _⟩

def blank : Gap := ⟨⟨[' '], by simp [isWhiteSpace]⟩, List.cons_ne_nil _ _⟩

def lineBreak : Gap := ⟨⟨['\n'], by simp [isWhiteSpace]⟩, List.cons_ne_nil _ _⟩

def wordB : Word := ⟨"b", by decide, by simp [isWhiteSpace]⟩

def wordAs : Word := ⟨"as", by decide, by simp [isWhiteSpace]⟩

def wordBuffer : Word := ⟨"Buffer", by decide, by simp [isWhiteSpace]⟩

/-- A list without white space apart from that in its items. -/
def listOf (first : Item) (more : List Item) : ExportList :=
  ⟨noSpace, noSpace, first, more, [], List.forall_mem_nil _⟩

/-- White space around the items does not count if blanks stand beside `as`. -/
theorem names_of_exportList_blanks :
    let renamed : Item := ⟨lineBreak.toSpacing, .renamed wordB blank blank wordBuffer, noSpace⟩
    let plain : Item := ⟨blank.toSpacing, .plain wordB, lineBreak.toSpacing⟩
    let list : ExportList := listOf renamed [plain, plain]
    list.text = "export\x7b\nb as Buffer, b\n, b\n\x7d" ∧ (∀ item ∈ list.items, item.IsClear) ∧
      names list.text = ["Buffer", "b"] := by
  intro renamed plain list
  have clear : ∀ item ∈ list.items, item.IsClear := by
    have named : ¬ IsMark blank.chars wordB.chars lineBreak.chars := by decide
    have aliased : IsMark blank.chars ['a', 's'] blank.chars ∧
        ¬ IsMark blank.chars wordBuffer.chars noSpace.chars := by decide
    simpa [list, listOf, ExportList.items, renamed, plain, Item.IsClear] using ⟨aliased, named⟩
  have listed := (names_of_exportList list).2.2 clear
  exact ⟨by decide +kernel, clear, listed.trans (by decide +kernel)⟩

/-- Where a line ends beside `as`, the whole item is taken for a name, and `as` between blanks is
not taken for one. -/
theorem exported_name_missed :
    (∃ list : ExportList, list.text = "export\x7bb\nas\nBuffer\x7d" ∧
      list.items.filterMap Item.exported? = ["Buffer"] ∧ names list.text = ["b\nas\nBuffer"]) ∧
    ∃ list : ExportList, list.text = "export\x7b as \x7d" ∧
      list.items.filterMap Item.exported? = ["as"] ∧ names list.text = [] := by
  let renamed : Item := ⟨noSpace, .renamed wordB lineBreak lineBreak wordBuffer, noSpace⟩
  let plain : Item := ⟨blank.toSpacing, .plain wordAs, blank.toSpacing⟩
  exact ⟨⟨listOf renamed [], by decide +kernel, by decide +kernel, by decide +kernel⟩,
    listOf plain [], by decide +kernel, by decide +kernel, by decide +kernel⟩

end BundleHost.Exports
