import SchemaForms.Json

set_option autoImplicit false

namespace SchemaForms.Json

def hexDigit (digit : Nat) : Char :=
  if digit < 10 then Char.ofNat (48 + digit) else Char.ofNat (87 + digit)

def escape (c : Char) : List Char :=
  if c = '"' then ['\\', '"']
  else if c = '\\' then ['\\', '\\']
  else if c.toNat < 32 then
    if c = '\n' then ['\\', 'n']
    else if c = '\r' then ['\\', 'r']
    else if c = '\t' then ['\\', 't']
    else if c.toNat = 8 then ['\\', 'b']
    else if c.toNat = 12 then ['\\', 'f']
    else ['\\', 'u', '0', '0', hexDigit (c.toNat / 16), hexDigit (c.toNat % 16)]
  else [c]

def quote (value : String) : List Char :=
  '"' :: (value.toList.flatMap escape ++ ['"'])

inductive Layout
  | compact
  | pretty
deriving DecidableEq, Repr

namespace Layout

def lineBreak : Layout → Nat → List Char
  | .compact, _ => []
  | .pretty, level => '\n' :: List.replicate (2 * level) ' '

def colon : Layout → List Char
  | .compact => [':']
  | .pretty => [':', ' ']

end Layout

mutual

def write (layout : Layout) (level : Nat) : Json → List Char
  | .text value => quote value
  | .array values =>
    '[' :: (writeValues layout level values ++
      (if values.isEmpty then [] else layout.lineBreak level) ++ [']'])
  | .object entries =>
    '\x7b' :: (writeEntries layout level entries ++
      (if entries.isEmpty then [] else layout.lineBreak level) ++ ['\x7d'])

def writeValues (layout : Layout) (level : Nat) : List Json → List Char
  | [] => []
  | value :: rest =>
    layout.lineBreak (level + 1) ++ write layout (level + 1) value ++
      (if rest.isEmpty then [] else ',' :: writeValues layout level rest)

def writeEntries (layout : Layout) (level : Nat) : List (String × Json) → List Char
  | [] => []
  | (key, value) :: rest =>
    layout.lineBreak (level + 1) ++ quote key ++ layout.colon ++ write layout (level + 1) value ++
      (if rest.isEmpty then [] else ',' :: writeEntries layout level rest)

end

def render (layout : Layout) (value : Json) : String := String.ofList (value.write layout 0)

end SchemaForms.Json
