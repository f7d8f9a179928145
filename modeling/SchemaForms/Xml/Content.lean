import SchemaForms.Xml.Reference

set_option autoImplicit false

namespace SchemaForms.Xml

structure Attribute where
  key : QualifiedName
  value : String

inductive Event
  | opening (tag : QualifiedName) (attributes : List Attribute)
  | cutOff (tag : QualifiedName) (attributes : List Attribute)
  | closing (tag : QualifiedName)
  | text (text : String)
  | aside

def depthLimit : Nat := 10

def referenceLimit : Nat := 255

-- The state counts the references met inside the outermost one.
abbrev Expansion (α : Type) := StateT Nat (Except Fault) α

/-- Reads the replacement text of an entity with `inner`, which is there unless the entity lies
too deep. -/
def Entities.enter {α : Type} (entities : Entities) (nested : Bool)
    (inner : Option (List Char → Expansion α)) (name : String) : Expansion α := do
  let some text := entities.find? name | throw (.unknownEntity name)
  let some inner := inner | throw .entityLoop
  if nested then
    if (← get) = referenceLimit then throw .entityLoop
    modify (· + 1)
    inner text
  else
    let result ← inner text
    set 0
    return result

-- Inside an entity no reference may stand for `<`.
def expandValue (nested : Bool) (enter : String → Expansion (List Char)) :
    List Piece → Expansion (List Char)
  | [] => return []
  | .literal '\r' :: .literal '\n' :: rest => return ' ' :: (← expandValue nested enter rest)
  | .literal c :: rest => return blankOf c :: (← expandValue nested enter rest)
  | .referred c :: rest => do
    if nested && c = '<' then throw .unexpectedText
    return (if nested then blankOf c else c) :: (← expandValue nested enter rest)
  | .entity name :: rest => return (← enter name) ++ (← expandValue nested enter rest)

/-- The value of an attribute, with entities nested up to this many levels more. -/
def attributeValue (entities : Entities) : Nat → List Char → Expansion (List Char)
  | 0, text => do
    let pieces ← pieces text
    expandValue true (entities.enter true none) pieces
  | levels + 1, text => do
    let pieces ← pieces text
    let nested := decide (levels + 1 < depthLimit)
    expandValue nested (entities.enter nested (some (attributeValue entities levels))) pieces

def textEvents (reversed : List Char) : List Event :=
  if reversed.isEmpty then [] else [.text (String.ofList reversed.reverse)]

-- The events of a text. `done` holds, in reverse, what stands since the last entity, and `kept`
-- tells that the next character is taken as it is, for it follows one that was written as a
-- reference.
def expandText (nested : Bool) (enter : String → Expansion (List Event)) (done : List Char)
    (kept : Bool) : List Piece → Expansion (List Event)
  | [] => return textEvents done
  | .literal c :: rest =>
    expandText nested enter (if kept then c :: done else pushLine done c rest.isEmpty) false rest
  | .referred c :: rest =>
    if nested then expandText nested enter (pushLine done c rest.isEmpty) kept rest
    else expandText nested enter (c :: done) true rest
  | .entity name :: rest =>
    return textEvents done ++ (← enter name) ++ (← expandText nested enter [] false rest)

def expandAttributes (entities : Entities) (levels : Nat) (attributes : List RawAttribute) :
    Expansion (List Attribute) :=
  attributes.mapM fun raw => do
    let value ← attributeValue entities levels raw.value
    return { key := raw.key, value := String.ofList value }

def expandToken (entities : Entities) (levels : Nat) (nested : Bool)
    (enter : String → Expansion (List Event)) : Token → Expansion (List Event)
  | .opening tag attributes ending => do
    let attributes ← expandAttributes entities levels attributes
    return match ending with
      | .opened => [.opening tag attributes]
      | .closed => [.opening tag attributes, .closing tag]
      | .cutOff => [.cutOff tag attributes]
  | .closing tag => return [.closing tag]
  | .text text => do expandText nested enter [] false (← pieces text)
  | .verbatim text => return [.text (String.ofList (normalLines text))]
  | .aside => return [.aside]

def replacementTokens (text : List Char) : Except Fault (List Token) := do
  let tokens ← Scanner.content.eval text
  if tokens.any Token.isClosing && !tokens.any Token.isOpening then throw .unexpectedText
  return tokens

def contentEvents (entities : Entities) : Nat → List Token → Expansion (List Event)
  | 0, tokens => do
    let parts ← tokens.mapM (expandToken entities 0 true (entities.enter true none))
    return parts.flatten
  | levels + 1, tokens => do
    let nested := decide (levels + 1 < depthLimit)
    let inner (text : List Char) : Expansion (List Event) := do
      contentEvents entities levels (← replacementTokens text)
    let parts ← tokens.mapM
      (expandToken entities (levels + 1) nested (entities.enter nested (some inner)))
    return parts.flatten

end SchemaForms.Xml
