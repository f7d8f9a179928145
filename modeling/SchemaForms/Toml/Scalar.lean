import SchemaForms.Text.Search
import SchemaForms.Toml.Value

set_option autoImplicit false

namespace SchemaForms.Toml

def hexValue (c : Char) : Nat :=
  if c.isDigit then c.toNat - 48 else c.toLower.toNat - 87

def isHex (c : Char) : Bool := c.isDigit || ('a' ≤ c.toLower && c.toLower ≤ 'f')

def isOctal (c : Char) : Bool := '0' ≤ c && c ≤ '7'

def isBinary (c : Char) : Bool := c = '0' || c = '1'

def digits? (isDigit : Char → Bool) (text : List Char) : Option (List Char) :=
  let parts := Text.parts '_' text
  if parts.all fun part => !part.isEmpty && part.all isDigit then some parts.flatten else none

def ofDigits (base : Nat) (digits : List Char) : Nat :=
  digits.foldl (fun number digit => base * number + hexValue digit) 0

def decimal? (text : List Char) : Option (List Char) :=
  match digits? Char.isDigit text with
  | some ('0' :: _ :: _) => none
  | digits => digits

def inRange (number : Int) : Option Int :=
  if -0x8000000000000000 ≤ number && number < 0x8000000000000000 then some number else none

def integer? : List Char → Option Int
  | '0' :: 'x' :: rest => (digits? isHex rest).bind fun digits => inRange (ofDigits 16 digits)
  | '0' :: 'o' :: rest => (digits? isOctal rest).bind fun digits => inRange (ofDigits 8 digits)
  | '0' :: 'b' :: rest => (digits? isBinary rest).bind fun digits => inRange (ofDigits 2 digits)
  | '+' :: rest => (decimal? rest).bind fun digits => inRange (ofDigits 10 digits)
  | '-' :: rest => (decimal? rest).bind fun digits => inRange (-(ofDigits 10 digits : Int))
  | text => (decimal? text).bind fun digits => inRange (ofDigits 10 digits)

/-- The least number that a double cannot come near. -/
def doubleLimit : Nat := Nat.pow 2 1024 - Nat.pow 2 970

def isTooLarge (digits : List Char) (scale : Int) : Bool :=
  let number := ofDigits 10 digits
  if number = 0 then false
  else if scale ≥ 400 then true
  else if scale ≥ 0 then number * Nat.pow 10 scale.toNat ≥ doubleLimit
  else if -scale > digits.length then false
  else number / Nat.pow 10 (-scale).toNat ≥ doubleLimit

def exponent? : List Char → Option Int
  | '+' :: rest => (digits? Char.isDigit rest).map fun digits => ofDigits 10 digits
  | '-' :: rest => (digits? Char.isDigit rest).map fun digits => -(ofDigits 10 digits : Int)
  | rest => (digits? Char.isDigit rest).map fun digits => ofDigits 10 digits

def unsignedFloat? (text : List Char) : Option (List Char × Int) := do
  let (mantissa, power) := ((Text.cut 'e' text).or (Text.cut 'E' text)).elim (text, none)
    fun (mantissa, power) => (mantissa, some power)
  let (whole, fraction) := (Text.cut '.' mantissa).elim (mantissa, none)
    fun (whole, fraction) => (whole, some fraction)
  let whole ← decimal? whole
  match fraction, power with
  | none, none => none
  | some fraction, none => do
    let fraction ← digits? Char.isDigit fraction
    return (whole ++ fraction, -fraction.length)
  | none, some power => return (whole, ← exponent? power)
  | some fraction, some power => do
    let fraction ← digits? Char.isDigit fraction
    return (whole ++ fraction, (← exponent? power) - fraction.length)

def isFloat (text : List Char) : Bool :=
  let negative := text.head? = some '-'
  let unsigned := if negative || text.head? = some '+' then text.tail else text
  if unsigned = "inf".toList || unsigned = "nan".toList then true
  else (unsignedFloat? unsigned).any fun (digits, scale) => negative || !isTooLarge digits scale

def number? (width : Nat) (low high : Nat) (text : List Char) : Option Nat :=
  if text.length = width && text.all Char.isDigit then
    let number := ofDigits 10 text
    if low ≤ number && number ≤ high then some number else none
  else none

def isLeap (year : Nat) : Bool := year % 4 = 0 && (year % 100 ≠ 0 || year % 400 = 0)

def daysOf (year month : Nat) : Nat :=
  if month = 2 then (if isLeap year then 29 else 28)
  else if month = 4 || month = 6 || month = 9 || month = 11 then 30
  else 31

def isDate (text : List Char) : Bool :=
  match Text.parts '-' text with
  | [year, month, day] =>
    match number? 4 0 9999 year, number? 2 1 12 month with
    | some year, some month => (number? 2 1 (daysOf year month) day).isSome
    | _, _ => false
  | _ => false

def isTime (text : List Char) : Bool :=
  let (clock, fraction) := (Text.cut '.' text).elim (text, ['0'])
    fun (clock, fraction) => (clock, fraction)
  !fraction.isEmpty && fraction.all Char.isDigit &&
    match Text.parts ':' clock with
    | [hour, minute, second] =>
      (number? 2 0 23 hour).isSome && (number? 2 0 59 minute).isSome &&
        (number? 2 0 60 second).isSome
    | _ => false

def isOffset (text : List Char) : Bool :=
  match Text.parts ':' text with
  | [hour, minute] => (number? 2 0 23 hour).isSome && (number? 2 0 59 minute).isSome
  | _ => false

def isOffsetTime (text : List Char) : Bool :=
  match (Text.cut '+' text).or (Text.cut '-' text) with
  | some (time, offset) => isTime time && isOffset offset
  | none =>
    isTime text || ((text.getLast? = some 'Z' || text.getLast? = some 'z') && isTime text.dropLast)

def isMoment (text : List Char) : Bool :=
  match (Text.cut 'T' text).or (Text.cut 't' text) with
  | some (date, time) => isDate date && isOffsetTime time
  | none => isDate text || isTime text

def scalar? (text : List Char) : Option Value :=
  if text = "true".toList then some (.boolean true)
  else if text = "false".toList then some (.boolean false)
  else if isMoment text then some .date
  else
    match integer? text with
    | some number => some (.integer number)
    | none => if isFloat text then some .float else none

end SchemaForms.Toml
