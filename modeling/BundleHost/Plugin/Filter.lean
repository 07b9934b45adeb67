import BundleHost.RegexEngine

/-!
# Filters

A filter is a regular expression that is searched for in specifiers or paths. Filters are the same
if their texts are.
-/

namespace BundleHost

variable [RegexEngine]

structure Filter where
  source : String
  program : RegexEngine.Program
  compile_source : RegexEngine.compile source = .ok program

namespace Filter

/-- The filter of a pattern, or what is wrong with the pattern. -/
def ofPattern (pattern : String) : Except String Filter :=
  match h : RegexEngine.compile pattern with
  | .ok program => .ok ⟨pattern, program, h⟩
  | .error fault => .error fault

def ofPattern? (pattern : String) : Option Filter := (ofPattern pattern).toOption

def occursIn (filter : Filter) (text : String) : Bool := RegexEngine.occursIn filter.program text

theorem eq_of_source_eq {a b : Filter} (h : a.source = b.source) : a = b := by
  obtain ⟨s, p, hp⟩ := a
  obtain ⟨t, q, hq⟩ := b
  obtain rfl : s = t := h
  obtain rfl : p = q := Except.ok.inj (hp.symm.trans hq)
  rfl

instance : DecidableEq Filter := fun a b =>
  if h : a.source = b.source then .isTrue (eq_of_source_eq h) else .isFalse fun e => h (e ▸ rfl)

/-- The filter as messages show it. -/
def display (filter : Filter) : String := "/" ++ filter.source ++ "/"

/-! ## Patterns in common use -/

def react : String := "^react$"
def reactDom : String := "^react-dom(/.*)?$"

/-- Specifiers that begin with one or two dots and a slash. -/
def relativeImports : String := "^\\.\\.?/"

def absoluteImports : String := "^/"

/-- Imports of packages: anything that does not begin with a dot or a slash. -/
def bareImports : String := "^[^./]"

def all : String := ".*"
def scripts : String := "\\.(js|mjs|cjs|jsx)$"
def typedScripts : String := "\\.(ts|mts|cts|tsx)$"
def styleSheets : String := "\\.css$"
def jsonFiles : String := "\\.json$"

/-- The patterns by the names under which they are offered. -/
def named : List (String × String) :=
  [("REACT", react), ("REACT_DOM", reactDom), ("RELATIVE", relativeImports),
   ("ABSOLUTE", absoluteImports), ("BARE", bareImports), ("ALL", all), ("JS_FILES", scripts),
   ("TS_FILES", typedScripts), ("CSS_FILES", styleSheets), ("JSON_FILES", jsonFiles)]

end Filter

end BundleHost
