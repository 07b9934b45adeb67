/-!
# Reading UTF-8

Bytes are read from left to right into characters. Where they are no UTF-8, the longest prefix
that could begin a character counts as one fault, or a single byte if there is none.
-/

namespace BundleHost.Text.Utf8

/-- The bytes that may follow a leading byte, as an interval, and how many follow in all; absent
for bytes that lead nothing. -/
def followers? (lead : UInt8) : Option (Nat × UInt8 × UInt8) :=
  if 0xC2 ≤ lead ∧ lead ≤ 0xDF then some (1, 0x80, 0xBF)
  else if lead = 0xE0 then some (2, 0xA0, 0xBF)
  else if lead = 0xED then some (2, 0x80, 0x9F)
  else if 0xE1 ≤ lead ∧ lead ≤ 0xEF then some (2, 0x80, 0xBF)
  else if lead = 0xF0 then some (3, 0x90, 0xBF)
  else if 0xF1 ≤ lead ∧ lead ≤ 0xF3 then some (3, 0x80, 0xBF)
  else if lead = 0xF4 then some (3, 0x80, 0x8F)
  else none

/-- The bits of the code point that a leading byte carries. -/
def leadBits (lead : UInt8) : Nat :=
  if lead < 0xE0 then lead.toNat % 32 else if lead < 0xF0 then lead.toNat % 16
  else lead.toNat % 8

/-- Where the reading stands between two bytes. -/
inductive State where
  | start
  /-- `owed` more bytes complete the character begun by `bits`; the next lies in an interval. -/
  | inside (bits owed : Nat) (first last : UInt8)

/-- Reads bytes as characters and faults, the latter as `none`. -/
def decodeFrom : State → List UInt8 → List (Option Char)
  | .start, [] => []
  | .inside .., [] => [none]
  | state, byte :: rest =>
    let begin (before : List (Option Char)) : List (Option Char) :=
      if byte < 0x80 then before ++ some (Char.ofNat byte.toNat) :: decodeFrom .start rest
      else
        match followers? byte with
        | some (owed, first, last) =>
          before ++ decodeFrom (.inside (leadBits byte) owed first last) rest
        | none => before ++ none :: decodeFrom .start rest
    match state with
    | .start => begin []
    | .inside bits owed first last =>
      if first ≤ byte ∧ byte ≤ last then
        let bits := 64 * bits + byte.toNat % 64
        if owed ≤ 1 then some (Char.ofNat bits) :: decodeFrom .start rest
        else decodeFrom (.inside bits (owed - 1) 0x80 0xBF) rest
      else begin [none]

def decode (bytes : List UInt8) : List (Option Char) := decodeFrom .start bytes

/-- The text with a replacement character for each fault. -/
def decodeLossy (bytes : List UInt8) : String :=
  String.ofList ((decode bytes).map (·.getD '\uFFFD'))

/-- The text that the bytes encode, if they have no fault. -/
def decode? (bytes : List UInt8) : Option String :=
  ((decode bytes).mapM id).map String.ofList

def encode (text : String) : List UInt8 := text.toUTF8.toList

end BundleHost.Text.Utf8
