import BundleHost.Decoder

/-!
# Option values

What crosses the boundary when an option is set or read by name: a boolean, an integer or a text.
-/

namespace BundleHost

inductive OptionValue where
  | bool (value : Bool)
  | int (value : Int)
  | text (value : String)
  deriving DecidableEq, Repr

namespace OptionValue

/-- The value as messages show it: texts stand in single quotes. -/
def display : OptionValue → String
  | .bool b => if b then "true" else "false"
  | .int n => toString n
  | .text s => "'" ++ s ++ "'"

def asBool? : OptionValue → Option Bool
  | .bool b => some b
  | _ => none

def asInt? : OptionValue → Option Int
  | .int n => some n
  | _ => none

def asText? : OptionValue → Option String
  | .text s => some s
  | _ => none

/-- Integers have to fit into 64 bits with a sign. -/
def decode : Decoder OptionValue
  | .bool b => .ok (.bool b)
  | .int n =>
    if -Document.intLimit ≤ n ∧ n < Document.intLimit then .ok (.int n) else .error .noAlternative
  | .text s => .ok (.text s)
  | _ => .error .noAlternative

def encode : OptionValue → Document
  | .bool b => .bool b
  | .int n => .int n
  | .text s => .text s

end OptionValue

end BundleHost
