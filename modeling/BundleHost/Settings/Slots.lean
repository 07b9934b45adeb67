import BundleHost.Vocabulary
import BundleHost.OptionValue
import BundleHost.ConfigError

/-!
# Scalar options

A scalar option holds one value: a flag, a count, a text or a member of a vocabulary. The options
come in families: those shared by builds and transforms, and those of either alone. `Slots` keeps
for every option of a family whether it was set, and to what.
-/

namespace BundleHost

/-- What a scalar option holds. -/
inductive ScalarType where
  | flag
  | count
  | text
  | choice (vocabulary : Vocabulary)
  deriving DecidableEq, Repr

namespace ScalarType

abbrev Value : ScalarType → Type
  | .flag => Bool
  | .count => UInt32
  | .text => String
  | .choice vocabulary => vocabulary.Member

instance : (t : ScalarType) → DecidableEq t.Value
  | .flag => inferInstanceAs (DecidableEq Bool)
  | .count => inferInstanceAs (DecidableEq UInt32)
  | .text => inferInstanceAs (DecidableEq String)
  | .choice vocabulary => inferInstanceAs (DecidableEq vocabulary.Member)

/-- What a value of the type looks like, for messages. -/
def expected : ScalarType → String
  | .flag => "a boolean"
  | .count => "a non-negative integer"
  | .text => "a string"
  | .choice vocabulary => "one of: " ++ Enumeration.expected vocabulary.Member

def default : (t : ScalarType) → t.Value
  | .flag => false
  | .count => 0
  | .text => ""
  | .choice _ => Enumeration.default

/-- Reads an option value. A member of a vocabulary is given by its name or by its code. -/
def ofOptionValue? : (t : ScalarType) → OptionValue → Option t.Value
  | .flag, value => value.asBool?
  | .count, .int n => if 0 ≤ n ∧ n < UInt32.size then some (UInt32.ofNat n.toNat) else none
  | .count, _ => none
  | .text, value => value.asText?
  | .choice _, .text name => Enumeration.ofName? name
  | .choice _, .int code => Enumeration.ofCode? code
  | .choice _, .bool _ => none

/-- The canonical form of a value; a member of a vocabulary becomes its name. -/
def toOptionValue : (t : ScalarType) → t.Value → OptionValue
  | .flag, b => .bool b
  | .count, n => .int n.toNat
  | .text, s => .text s
  | .choice _, m => .text (Enumeration.name m)

/-- Reads a document. Members of a vocabulary are given by name only. -/
def decode : (t : ScalarType) → Decoder t.Value
  | .flag => Decoder.bool
  | .count => fun document => do .ok (UInt32.ofNat (← Decoder.natBelow UInt32.size document))
  | .text => Decoder.text
  | .choice _ => Enumeration.decode

def encode (t : ScalarType) (value : t.Value) : Document := (t.toOptionValue value).encode

end ScalarType

/-- A family of scalar options in the order of their declaration. -/
class OptionFamily (ι : Type) [DecidableEq ι] where
  all : List ι
  mem_all : ∀ o : ι, o ∈ all
  name : ι → String
  nodup_names : (all.map name).Nodup
  type : ι → ScalarType
  default : (o : ι) → (type o).Value

namespace OptionFamily

variable {ι : Type} [DecidableEq ι] [OptionFamily ι]

def ofName? (name : String) : Option ι := all.find? (OptionFamily.name · = name)

abbrev Value (o : ι) : Type := (type o).Value

end OptionFamily

open OptionFamily

/-- For every option of a family the value it was set to, if it was. -/
structure Slots (ι : Type) [DecidableEq ι] [OptionFamily ι] where
  explicit? : (o : ι) → Option (Value o)

namespace Slots

variable {ι : Type} [DecidableEq ι] [OptionFamily ι]

def empty : Slots ι := ⟨fun _ => none⟩

/-- The value of an option, or its default. -/
def value (slots : Slots ι) (o : ι) : Value o := (slots.explicit? o).getD (OptionFamily.default o)

def isSet (slots : Slots ι) (o : ι) : Bool := (slots.explicit? o).isSome

/-- Makes one option hold what is given. -/
def update (slots : Slots ι) (o : ι) (value : Option (Value o)) : Slots ι :=
  ⟨fun p => if h : p = o then h ▸ value else slots.explicit? p⟩

def assign (slots : Slots ι) (o : ι) (value : Value o) : Slots ι := slots.update o (some value)

def clear (slots : Slots ι) (o : ι) : Slots ι := slots.update o none

@[simp] theorem explicit?_update_self (slots : Slots ι) (o : ι) (value : Option (Value o)) :
    (slots.update o value).explicit? o = value := by
  simp [update]

@[simp] theorem explicit?_update_of_ne (slots : Slots ι) {o p : ι} (h : p ≠ o)
    (value : Option (Value o)) : (slots.update o value).explicit? p = slots.explicit? p := by
  simp [update, h]

@[ext] theorem ext {a b : Slots ι} (h : ∀ o, a.explicit? o = b.explicit? o) : a = b := by
  cases a; cases b; congr; funext o; exact h o

instance : DecidableEq (Slots ι) := fun a b =>
  if h : ∀ o ∈ (all : List ι), a.explicit? o = b.explicit? o then
    .isTrue (ext fun o => h o (mem_all o))
  else .isFalse fun e => h fun _ _ => e ▸ rfl

/-- The options that were set, in the order of their declaration. -/
def setOptions (slots : Slots ι) : List ι := all.filter slots.isSet

/-- Sets an option by name, or tells why the value does not fit; absent for another name. -/
def setNamed? (slots : Slots ι) (name : String) (value : OptionValue) :
    Option (Except ConfigError (Slots ι)) :=
  (ofName? name).map fun o : ι =>
    match (type o).ofOptionValue? value with
    | some v => .ok (slots.assign o v)
    | none => .error (.invalidOption name value.display (type o).expected)

def getNamed? (slots : Slots ι) (name : String) : Option OptionValue :=
  (ofName? name).map fun o : ι => (type o).toOptionValue (slots.value o)

def isSetNamed? (slots : Slots ι) (name : String) : Option Bool :=
  (ofName? name).map fun o : ι => slots.isSet o

def clearNamed? (slots : Slots ι) (name : String) : Option (Slots ι) :=
  (ofName? name).map fun o : ι => slots.clear o

end Slots

end BundleHost
