import BundleHost.Json.Reader

/-!
# Numbers and dates of TOML

A word that is no string, list or table is a number, a date or a boolean. Integers have to fit
into 64 bits with a sign.
-/

namespace BundleHost.Toml

open Json (takeDigits natOfDigits)

/-- Drops underscores, each of which has to stand between two digits. -/
def dropUnderscores (isDigit : Char → Bool) (digits : List Char) : Option (List Char) :=
  let rec go (afterDigit : Bool) : List Char → Option (List Char)
    | [] => if afterDigit then some [] else none
    | '_' :: rest => if afterDigit then go false rest else none
    | c :: rest => if isDigit c then (go true rest).map (c :: ·) else none
  go false digits

def decimal? (digits : List Char) : Option (List Char) := dropUnderscores Char.isDigit digits

/-- Decimal digits without a leading zero. -/
def whole? (digits : List Char) : Option (List Char) := do
  let digits ← decimal? digits
  match digits with
  | '0' :: _ :: _ => none
  | _ => some digits

def isBinary (c : Char) : Bool := c = '0' || c = '1'

def isOctal (c : Char) : Bool := '0' ≤ c && c ≤ '7'

def isHex (c : Char) : Bool := (Unicode.hexDigit? c).isSome

def ofRadix (radix : Nat) (digits : List Char) : Nat :=
  digits.foldl (fun n c => radix * n + (Unicode.hexDigit? c).getD 0) 0

/-- A leading sign and what follows it. -/
def splitSign : List Char → Option Bool × List Char
  | '-' :: rest => (some true, rest)
  | '+' :: rest => (some false, rest)
  | word => (none, word)

def integer? (word : List Char) : Option Int :=
  let based (radix : Nat) (isDigit : Char → Bool) (digits : List Char) : Option Int := do
    let n := ofRadix radix (← dropUnderscores isDigit digits)
    if n < Document.intLimit then some n else none
  match word with
  | '0' :: 'x' :: digits => based 16 isHex digits
  | '0' :: 'o' :: digits => based 8 isOctal digits
  | '0' :: 'b' :: digits => based 2 isBinary digits
  | _ => do
    let (sign, digits) := splitSign word
    let n := natOfDigits (← whole? digits)
    if sign = some true then if n ≤ Document.intLimit then some (-n) else none
    else if n < Document.intLimit then some n else none

def isFloat (word : List Char) : Bool :=
  let (_, body) := splitSign word
  if body = ['i', 'n', 'f'] || body = ['n', 'a', 'n'] then true
  else
    let mantissa := body.takeWhile fun c => c ≠ 'e' && c ≠ 'E'
    let exponent := body.dropWhile fun c => c ≠ 'e' && c ≠ 'E'
    let exponentOk :=
      match exponent with
      | [] => true
      | _ :: rest => (decimal? (splitSign rest).2).isSome
    let mantissaOk :=
      match mantissa.span (· ≠ '.') with
      | (digits, '.' :: fraction) => (whole? digits).isSome && (decimal? fraction).isSome
      | (digits, _) => (whole? digits).isSome && !exponent.isEmpty
    exponentOk && mantissaOk

/-! ## Dates and times -/

def twoDigits? : List Char → Option (Nat × List Char)
  | a :: b :: rest => if a.isDigit && b.isDigit then some (natOfDigits [a, b], rest) else none
  | _ => none

def daysOfMonth (year month : Nat) : Nat :=
  if month = 2 then
    if year % 4 = 0 ∧ (year % 100 ≠ 0 ∨ year % 400 = 0) then 29 else 28
  else if [4, 6, 9, 11].contains month then 30 else 31

/-- The text of a full date at the start of a word, and the rest. -/
def date? : List Char → Option (List Char × List Char)
  | a :: b :: c :: d :: '-' :: rest => do
    if !(a.isDigit && b.isDigit && c.isDigit && d.isDigit) then none
    let year := natOfDigits [a, b, c, d]
    let (month, rest) ← twoDigits? rest
    let '-' :: rest := rest | none
    let (day, rest') ← twoDigits? rest
    if 1 ≤ month ∧ month ≤ 12 ∧ 1 ≤ day ∧ day ≤ daysOfMonth year month then
      some ([a, b, c, d, '-'] ++ pad month ++ ['-'] ++ pad day, rest')
    else none
  | _ => none
where
  pad (n : Nat) : List Char := [Nat.digitChar (n / 10), Nat.digitChar (n % 10)]

/-- The text of a time at the start of a word, with at most nine digits of a second, and the
rest. -/
def time? (word : List Char) : Option (List Char × List Char) := do
  let (hour, rest) ← twoDigits? word
  let ':' :: rest := rest | none
  let (minute, rest) ← twoDigits? rest
  let ':' :: rest := rest | none
  let (second, rest) ← twoDigits? rest
  if hour > 23 ∨ minute > 59 ∨ second > 60 then none
  let whole := word.take 8
  match rest with
  | '.' :: rest =>
    let (digits, rest) := takeDigits rest
    if digits.isEmpty then none
    else
      let kept := ((digits.take 9).reverse.dropWhile (· = '0')).reverse
      some (if kept.isEmpty then whole else whole ++ '.' :: kept, rest)
  | rest => some (whole, rest)

/-- The offset of a time from the universal one. -/
def offset? : List Char → Option (List Char)
  | [] => some []
  | ['Z'] | ['z'] => some ['Z']
  | sign :: rest => do
    if sign ≠ '+' ∧ sign ≠ '-' then none
    let (hour, rest) ← twoDigits? rest
    let ':' :: rest := rest | none
    let (minute, rest') ← twoDigits? rest
    if hour > 23 ∨ minute > 59 ∨ !rest'.isEmpty then none
    some (sign :: (date?.pad hour ++ ':' :: date?.pad minute))

/-- The text of a date, a time or both, in its normal form. -/
def dateTime? (word : List Char) : Option String :=
  match date? word with
  | some (date, []) => some (String.ofList date)
  | some (date, mark :: rest) => do
    if mark ≠ 'T' ∧ mark ≠ 't' ∧ mark ≠ ' ' then none
    let (time, rest) ← time? rest
    let offset ← offset? rest
    some (String.ofList (date ++ 'T' :: (time ++ offset)))
  | none =>
    match time? word with
    | some (time, []) => some (String.ofList time)
    | _ => none

/-- The key under which a date is handed on as a table. -/
def dateKey : String := "$__toml_private_datetime"

/-- The value of a word. -/
def scalar? (word : List Char) : Option Document :=
  match word with
  | ['t', 'r', 'u', 'e'] => some (.bool true)
  | ['f', 'a', 'l', 's', 'e'] => some (.bool false)
  | _ =>
    match integer? word with
    | some n => some (.int n)
    | none =>
      if isFloat word then some (.float (String.ofList word))
      else (dateTime? word).map fun date => .table [(dateKey, .text date)]

end BundleHost.Toml
