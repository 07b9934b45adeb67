import BundleHost.Regex.Basic

/-!
# Names of character classes

The classes that a pattern names: `\d`, `\s` and `\w`, the bracketed names of ASCII classes, and
the Unicode properties of `\p`. Property names are compared without case, spaces, hyphens and
underscores.
-/

namespace BundleHost.CharClass

open Unicode (Category)

/-- The classes of `\d`, `\s` and `\w`. -/
inductive Shorthand where
  | digit
  | space
  | word
  deriving DecidableEq, Repr

/-- With `unicode` the classes hold characters of all scripts, otherwise ASCII ones only. -/
def ofShorthand (unicode : Bool) : Shorthand → CharClass
  | .digit =>
    if unicode then .property .decimalDigit else .interval 0x30 0x39
  | .space =>
    if unicode then .property .whiteSpace else ofIntervals [(9, 13), (0x20, 0x20)]
  | .word =>
    if unicode then .property .wordChar
    else ofIntervals [(0x30, 0x39), (0x41, 0x5A), (0x5F, 0x5F), (0x61, 0x7A)]

/-- The class that `[:name:]` stands for inside brackets. -/
def ofAsciiName? : String → Option CharClass
  | "alnum" => some (ofIntervals [(0x30, 0x39), (0x41, 0x5A), (0x61, 0x7A)])
  | "alpha" => some (ofIntervals [(0x41, 0x5A), (0x61, 0x7A)])
  | "ascii" => some (ofIntervals [(0, 0x7F)])
  | "blank" => some (ofIntervals [(9, 9), (0x20, 0x20)])
  | "cntrl" => some (ofIntervals [(0, 0x1F), (0x7F, 0x7F)])
  | "digit" => some (ofIntervals [(0x30, 0x39)])
  | "graph" => some (ofIntervals [(0x21, 0x7E)])
  | "lower" => some (ofIntervals [(0x61, 0x7A)])
  | "print" => some (ofIntervals [(0x20, 0x7E)])
  | "punct" => some (ofIntervals [(0x21, 0x2F), (0x3A, 0x40), (0x5B, 0x60), (0x7B, 0x7E)])
  | "space" => some (ofIntervals [(9, 13), (0x20, 0x20)])
  | "upper" => some (ofIntervals [(0x41, 0x5A)])
  | "word" => some (ofIntervals [(0x30, 0x39), (0x41, 0x5A), (0x5F, 0x5F), (0x61, 0x7A)])
  | "xdigit" => some (ofIntervals [(0x30, 0x39), (0x41, 0x46), (0x61, 0x66)])
  | _ => none

/-- A property name without what does not count in it: case, spaces, hyphens, underscores,
characters outside ASCII and a leading `is`. The name `isc` keeps its beginning, because it is
not the category `c`. -/
def normalName (name : List Char) : String :=
  let significant (cs : List Char) : List Char :=
    (cs.filter fun c => c.toNat < 128 && c ≠ ' ' && c ≠ '_' && c ≠ '-').map Char.toLower
  match name with
  | i :: s :: rest =>
    if i.toLower = 'i' ∧ s.toLower = 's' then
      if significant rest = ['c'] then "isc" else String.ofList (significant rest)
    else String.ofList (significant name)
  | _ => String.ofList (significant name)

def ofCategories (categories : List Category) : CharClass :=
  categories.foldr (fun c rest => .union (.property (.category c)) rest) .empty

/-- The categories whose two-letter names begin with `letter`. -/
def categoryGroup (letter : Char) : List Category :=
  Category.all.filter fun c => c.shortName.toList.head? = some letter

/-- A class of general categories by its short or long name, normalized. -/
def ofCategoryName? (name : String) : Option CharClass :=
  match name with
  | "any" => some any
  | "ascii" => some (.interval 0 0x7F)
  | "assigned" => some (.compl (ofCategories [.unassigned]))
  | "lc" | "casedletter" =>
    some (ofCategories [.uppercaseLetter, .lowercaseLetter, .titlecaseLetter])
  | "l" | "letter" => some (ofCategories (categoryGroup 'L'))
  | "m" | "mark" | "combiningmark" => some (ofCategories (categoryGroup 'M'))
  | "n" | "number" => some (ofCategories (categoryGroup 'N'))
  | "p" | "punctuation" | "punct" => some (ofCategories (categoryGroup 'P'))
  | "s" | "symbol" => some (ofCategories (categoryGroup 'S'))
  | "z" | "separator" => some (ofCategories (categoryGroup 'Z'))
  | "c" | "other" => some (ofCategories (categoryGroup 'C'))
  | "cntrl" => some (ofCategories [.control])
  | "digit" => some (ofCategories [.decimalNumber])
  | _ =>
    (Category.all.find? fun c =>
      normalName c.shortName.toList = name || normalName c.longName.toList = name).map
      fun c => ofCategories [c]

/-- The class of a script by its short or long name, normalized. -/
def ofScriptName? (name : String) : Option CharClass :=
  (Unicode.Script.names.find? fun (short, long) =>
    normalName short.toList = name || normalName long.toList = name).map
    fun (_, long) => .property (.script long)

/-- The class of a property that holds or does not hold of a character, by its normalized name. -/
def ofPropertyName? : String → Option CharClass
  | "alphabetic" | "alpha" => some (.property .alphabetic)
  | "lowercase" | "lower" => some (.property .lowercase)
  | "uppercase" | "upper" => some (.property .uppercase)
  | "whitespace" | "space" | "wspace" => some (.property .whiteSpace)
  | _ => none

/-- The class that `\p{name}` stands for: a property, a general category or a script. -/
def ofName? (name : List Char) : Option CharClass :=
  let name := normalName name
  (ofPropertyName? name).or ((ofCategoryName? name).or (ofScriptName? name))

/-- The class that `\p{property=value}` stands for. -/
def ofNamedValue? (name value : List Char) : Option CharClass :=
  match normalName name with
  | "gc" | "generalcategory" => ofCategoryName? (normalName value)
  | "sc" | "script" | "scx" | "scriptextensions" => ofScriptName? (normalName value)
  | _ => none

end BundleHost.CharClass
