import SchemaForms.Scan
import SchemaForms.Toml.Scalar

set_option autoImplicit false

namespace SchemaForms.Toml

abbrev Scanner (α : Type) := Scan Fault α

def isBlank (c : Char) : Bool := c = ' ' || c = '\t'

def isPlain (c : Char) : Bool := c = '\t' || (c.toNat ≥ 0x20 && c.toNat ≠ 0x7F)

def isKeyChar (c : Char) : Bool := c.isAlphanum || c = '_' || c = '-'

def isScalarChar (c : Char) : Bool :=
  c.isAlphanum || c = '_' || c = '-' || c = '+' || c = '.' || c = ':'

namespace Scanner

def blanks : Scanner Unit := do
  let _ ← Scan.takeWhile isBlank

def lineBreak? : Scanner Bool := do
  if ← Scan.skip? "\n" then return true else Scan.skip? "\r\n"

def comment : Scanner Unit := do
  if ← Scan.skip? "#" then
    let _ ← Scan.takeWhile isPlain

def lineEnd : Scanner Unit := do
  blanks
  comment
  unless (← Scan.atEnd) || (← lineBreak?) do throw (.expected "the end of the line")

def layout? : Scanner (Option Unit) := do
  blanks
  if ← Scan.startsWith "#" then
    comment
    unless ← lineBreak? do throw (.expected "the end of the line")
    return some ()
  else if ← lineBreak? then return some ()
  else return none

def layout : Scanner Unit := do
  let _ ← Scan.many layout?

def unicodeEscape (width : Nat) : Scanner (List Char) := do
  let input ← get
  let digits := input.take width
  set (input.drop width)
  let code := ofDigits 16 digits
  unless digits.length = width && digits.all isHex && code.isValidChar do throw .malformedEscape
  return [Char.ofNat code]

def escape (multiline : Bool) : Scanner (List Char) := do
  match ← Scan.next? with
  | some 'b' => return ['\x08']
  | some 't' => return ['\t']
  | some 'n' => return ['\n']
  | some 'f' => return ['\x0c']
  | some 'r' => return ['\r']
  | some '"' => return ['"']
  | some '\\' => return ['\\']
  | some 'u' => unicodeEscape 4
  | some 'U' => unicodeEscape 8
  | some c =>
    unless multiline && (isBlank c || c = '\n' || c = '\r') do throw .malformedEscape
    -- The line goes on after all the white space that follows, a line break among it.
    set (c :: (← get))
    blanks
    unless ← lineBreak? do throw .malformedEscape
    let _ ← Scan.many do
      blanks
      return if ← lineBreak? then some () else none
    return []
  | none => throw .malformedEscape

def stringPart? (mark : Char) (multiline : Bool) : Scanner (Option (List Char)) := do
  let input ← get
  let marks := input.takeWhile (· = mark)
  if marks.length ≥ (if multiline then 3 else 1) then return none
  else if !marks.isEmpty then
    set (input.drop marks.length)
    return some marks
  else
    if ← if multiline then lineBreak? else pure false then return some ['\n']
    match ← Scan.next? with
    | none => throw (.expected "the end of a string")
    | some c =>
      if c = '\\' && mark = '"' then return some (← escape multiline)
      unless isPlain c do throw .illegalCharacter
      return some [c]

def stringRest (mark : Char) (multiline : Bool) : Scanner String := do
  let parts ← Scan.many (stringPart? mark multiline)
  let marks ← Scan.takeWhile (· = mark)
  if multiline then
    if marks.length > 5 then throw (.expected "the end of a string")
    return String.ofList (parts.flatten ++ marks.drop 3)
  else
    set (marks.tail ++ (← get))
    return String.ofList parts.flatten

def string? (mark : Char) : Scanner (Option String) := do
  let three := String.ofList [mark, mark, mark]
  if ← Scan.skip? three then
    let _ ← lineBreak?
    return some (← stringRest mark true)
  else if ← Scan.skip? mark.toString then return some (← stringRest mark false)
  else return none

def keyPart : Scanner String := do
  if ← Scan.skip? "\"" then stringRest '"' false
  else if ← Scan.skip? "'" then stringRest '\'' false
  else
    let text ← Scan.takeWhile isKeyChar
    if text.isEmpty then throw (.expected "a key")
    return String.ofList text

def laterKeyPart? : Scanner (Option String) := do
  blanks
  if ← Scan.skip? "." then
    blanks
    return some (← keyPart)
  else return none

/-- How deep values may nest and how many parts a key may have. -/
def depthLimit : Nat := 79

def key : Scanner (List String) := do
  blanks
  let first ← keyPart
  let later ← Scan.many laterKeyPart?
  if later.length ≥ depthLimit then throw .tooDeep
  return first :: later

def scalar : Scanner Value := do
  let text ← Scan.takeWhile isScalarChar
  let input ← get
  -- A date may be parted from its time by a blank.
  let text ← match input with
    | ' ' :: c :: _ =>
      if isDate text && c.isDigit then
        set input.tail
        pure (text ++ 'T' :: (← Scan.takeWhile isScalarChar))
      else pure text
    | _ => pure text
  match scalar? text with
  | some value => return value
  | none => throw (.malformedValue (String.ofList text))

def pair (value : Scanner Value) : Scanner Pair := do
  let path ← key
  Scan.expect (.expected "'='") "="
  blanks
  return (path, ← value)

def element? (value : Scanner Value) (first : Bool) : Scanner (Option Value) := do
  layout
  if ← Scan.startsWith "]" then return none
  unless first do
    Scan.expect (.expected "','") ","
    layout
  if ← Scan.startsWith "]" then return none
  return some (← value)

def array (value : Scanner Value) : Scanner Value := do
  let first ← element? value true
  let rest ← if first.isSome then Scan.many (element? value false) else pure []
  Scan.expect (.expected "']'") "]"
  return .array (first.toList ++ rest)

def laterPair? (value : Scanner Value) : Scanner (Option Pair) := do
  blanks
  if ← Scan.skip? "," then return some (← pair value) else return none

def inlineTable (value : Scanner Value) : Scanner Value := do
  blanks
  let pairs ← if ← Scan.startsWith "\x7d" then pure []
    else do
      let first ← pair value
      pure (first :: (← Scan.many (laterPair? value)))
  blanks
  Scan.expect (.expected "'\x7d'") "\x7d"
  match tableOf [] pairs with
  | .ok entries => return .table .inlined entries
  | .error fault => throw fault

def valueWith (inner : Option (Scanner Value)) : Scanner Value := do
  if let some text ← string? '"' then return .string text
  if let some text ← string? '\'' then return .string text
  if ← Scan.skip? "[" then
    match inner with
    | some inner => array inner
    | none => throw .tooDeep
  else if ← Scan.skip? "\x7b" then
    match inner with
    | some inner => inlineTable inner
    | none => throw .tooDeep
  else scalar

def value : Nat → Scanner Value
  | 0 => valueWith none
  | levels + 1 => valueWith (some (value levels))

inductive Line
  | blank
  | header (path : List String) (repeated : Bool)
  | pair (pair : Pair)

def line : Scanner Line := do
  blanks
  if ← Scan.skip? "[[" then
    let path ← key
    Scan.expect (.expected "']]'") "]]"
    return .header path true
  else if ← Scan.skip? "[" then
    let path ← key
    Scan.expect (.expected "']'") "]"
    return .header path false
  else if (← Scan.atEnd) || (← Scan.startsWith "#") || (← Scan.startsWith "\n") ||
      (← Scan.startsWith "\r\n") then return .blank
  else return .pair (← pair (value depthLimit))

def line? : Scanner (Option Line) := do
  if ← Scan.atEnd then return none
  let line ← line
  lineEnd
  return some line

def lines : Scanner (List Line) := do
  let _ ← Scan.skip? "\uFEFF"
  Scan.many line?

end Scanner

def sections (current : Section) : List Scanner.Line → List Section
  | [] => [current]
  | .blank :: rest => sections current rest
  | .header path repeated :: rest => current :: sections { path, repeated, pairs := [] } rest
  | .pair pair :: rest => sections { current with pairs := current.pairs ++ [pair] } rest

def Entries.ofText (text : String) : Except Fault Entries := do
  let lines ← Scanner.lines.eval text.toList
  (sections { path := [], repeated := false, pairs := [] } lines).foldlM
    (fun document part => part.addTo document) []

end SchemaForms.Toml
