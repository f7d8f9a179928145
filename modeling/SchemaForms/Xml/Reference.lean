import SchemaForms.Xml.Prolog

set_option autoImplicit false

namespace SchemaForms.Xml

inductive Piece
  | literal (c : Char)
  | referred (c : Char)
  | entity (name : String)

def digitValue (c : Char) : Nat :=
  if c.isDigit then c.toNat - 48 else c.toLower.toNat - 87

def isHexDigit (c : Char) : Bool := c.isDigit || ('a' ≤ c.toLower && c.toLower ≤ 'f')

def charOfCode? (base : Nat) (digits : List Char) : Option Char :=
  let code := digits.foldl (fun code digit => base * code + digitValue digit) 0
  if digits.isEmpty || code ≥ 0x100000000 then none
  else
    let c := if code.isValidChar then Char.ofNat code else '\uFFFD'
    if isLegal c then some c else none

def predefined? : String → Option Char
  | "quot" => some '"'
  | "amp" => some '&'
  | "apos" => some '\''
  | "lt" => some '<'
  | "gt" => some '>'
  | _ => none

namespace Scanner

def referenceBody : Scanner Piece := do
  if ← Scan.skip? "#" then
    let hex ← Scan.skip? "x"
    let digits ← Scan.takeWhile (if hex then isHexDigit else Char.isDigit)
    match charOfCode? (if hex then 16 else 10) digits with
    | some c => return .referred c
    | none => throw .malformedReference
  else
    let name ← name
    match predefined? name with
    | some c => return .referred c
    | none => return .entity name

def piece? : Scanner (Option Piece) := do
  match ← Scan.next? with
  | none => return none
  | some '&' =>
    let piece ← referenceBody
    Scan.expect .malformedReference ";"
    return some piece
  | some c => return some (.literal c)

end Scanner

def pieces (text : List Char) : Except Fault (List Piece) := (Scan.many Scanner.piece?).eval text

-- Adds a character to a text kept in reverse. A line feed ends every line: one that follows a
-- carriage return replaces it, and a carriage return that nothing follows becomes one.
def pushLine (text : List Char) (c : Char) (last : Bool) : List Char :=
  let ending := last && c = '\r'
  match text with
  | '\r' :: before =>
    if ending then '\n' :: '\n' :: before
    else if c = '\n' then '\n' :: before
    else c :: '\n' :: before
  | _ => (if ending then '\n' else c) :: text

def normalLines : List Char → List Char
  | [] => []
  | '\r' :: '\n' :: rest => '\n' :: normalLines rest
  | c :: rest => (if c = '\r' then '\n' else c) :: normalLines rest

-- White space in an attribute value counts as a blank.
def blankOf (c : Char) : Char := if isSpace c then ' ' else c

end SchemaForms.Xml
