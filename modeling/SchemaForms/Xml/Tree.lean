import SchemaForms.Pairs
import SchemaForms.Xml.Content

set_option autoImplicit false

namespace SchemaForms.Xml

inductive Tree
  | element (qualifier : Option String) (name : String) (attributes : Pairs) (children : List Tree)
  | text (text : String)
  | aside
deriving BEq, Repr

def xmlAddress : String := "http://www.w3.org/XML/1998/namespace"

def xmlnsAddress : String := "http://www.w3.org/2000/xmlns/"

/-- The namespaces in scope, the nearest first; the default one has no qualifier. -/
abbrev Scope := List (Option String × String)

namespace Scope

def declares (scope : Scope) (qualifier : Option String) : Bool :=
  scope.any fun space => space.1 = qualifier

/-- An element's own declarations, then those of its parent that they do not hide. -/
def within (own parent : Scope) : Scope :=
  if own.isEmpty then parent
  else parent.foldl (fun scope space =>
    if scope.declares space.1 then scope else scope ++ [space]) own

def address? (scope : Scope) (qualifier : String) : Except Fault (Option String) :=
  let key := if qualifier.isEmpty then none else some qualifier
  match scope.find? fun space => space.1 = key with
  | some space => .ok (some space.2)
  | none => if qualifier.isEmpty then .ok none else .error (.unknownQualifier qualifier)

def qualifier? (scope : Scope) (address : String) : Option String :=
  if address = xmlAddress then some "xml"
  else (scope.find? fun space => space.2 = address).bind (·.1)

end Scope

-- A declaration of a qualifier; that of `xml` is built in and may only be repeated.
def declareQualifier (own : Scope) (qualifier address : String) : Except Fault Scope :=
  if address = xmlnsAddress || (qualifier == "xml") != (address == xmlAddress) then
    .error .reservedNamespace
  else if own.declares (some qualifier) then .error (.duplicateNamespace qualifier)
  else .ok (if address = xmlAddress then own else own ++ [(some qualifier, address)])

def declareDefault (own : Scope) (address : String) : Except Fault Scope :=
  if address = xmlnsAddress || address = xmlAddress then .error .reservedNamespace
  else .ok (own ++ [(none, address)])

def declarations (attributes : List Attribute) : Except Fault Scope :=
  attributes.foldlM (fun own given =>
    if given.key.qualifier = "xmlns" then declareQualifier own given.key.name given.value
    else if given.key.name = "xmlns" then declareDefault own given.value
    else .ok own) []

def Attribute.isDeclaration (given : Attribute) : Bool :=
  given.key.qualifier = "xmlns" || given.key.name = "xmlns"

-- An attribute without qualifier is in no namespace.
def attributeAddress? (scope : Scope) (qualifier : String) : Except Fault (Option String) :=
  if qualifier = "xml" then .ok (some xmlAddress)
  else if qualifier.isEmpty then .ok none
  else scope.address? qualifier

def attributePairs (scope : Scope) (attributes : List Attribute) : Except Fault Pairs := do
  let names ← attributes.mapM fun given =>
    return (← attributeAddress? scope given.key.qualifier, given.key.name)
  match names.find? fun name => names.count name > 1 with
  | some name => .error (.duplicateAttribute name.2)
  | none => return attributes.map fun given => (given.key.name, given.value)

/-- An element that is still open, with what it holds so far in reverse. -/
structure Frame where
  tag : QualifiedName
  qualifier : Option String
  attributes : Pairs
  scope : Scope
  content : List Tree

def settle (attributes : List Attribute) (parent : Scope) : Except Fault (Scope × Pairs) := do
  let scope := Scope.within (← declarations attributes) parent
  let pairs ← attributePairs scope (attributes.filter fun given => !given.isDeclaration)
  return (scope, pairs)

def checkTag (tag : QualifiedName) : Except Fault Unit := do
  if tag.qualifier = "xmlns" then throw .reservedNamespace

def Frame.ofTag (tag : QualifiedName) (attributes : List Attribute) (parent : Scope) :
    Except Fault Frame := do
  checkTag tag
  let (scope, pairs) ← settle attributes parent
  let address ← scope.address? tag.qualifier
  let qualifier := (address.bind scope.qualifier?).filter fun qualifier => !qualifier.isEmpty
  return { tag, qualifier, attributes := pairs, scope, content := [] }

def Frame.toTree (frame : Frame) : Tree :=
  .element frame.qualifier frame.tag.name frame.attributes frame.content.reverse

def addTree (content : List Tree) (tree : Tree) : List Tree :=
  match tree, content with
  | .text more, .text text :: rest => .text (text ++ more) :: rest
  | _, _ => tree :: content

structure Builder where
  frames : List Frame := []
  finished : List Tree := []
  -- The attributes of tags that were cut off. The next tag takes them, an end tag in vain.
  stray : List Attribute := []

namespace Builder

def add (builder : Builder) (tree : Tree) : Builder :=
  match builder.frames with
  | frame :: rest =>
    { builder with frames := { frame with content := addTree frame.content tree } :: rest }
  | [] => { builder with finished := addTree builder.finished tree }

def scope (builder : Builder) : Scope :=
  match builder.frames with
  | frame :: _ => frame.scope
  | [] => []

def close (builder : Builder) (tag : QualifiedName) : Except Fault Builder := do
  let _ ← settle builder.stray builder.scope
  match builder.frames with
  | frame :: rest =>
    unless frame.tag = tag do throw (.unexpectedEnd tag.name)
    return { builder with frames := rest, stray := [] }.add frame.toTree
  | [] => throw (.unexpectedEnd tag.name)

def step (builder : Builder) : Event → Except Fault Builder
  | .opening tag attributes => do
    let frame ← Frame.ofTag tag (builder.stray ++ attributes) builder.scope
    return { builder with frames := frame :: builder.frames, stray := [] }
  | .cutOff tag attributes => do
    checkTag tag
    let stray := builder.stray ++ attributes
    let _ ← declarations stray
    return { builder.add .aside with stray }
  | .closing tag => builder.close tag
  | .text text => .ok (builder.add (.text text))
  | .aside => .ok (builder.add .aside)

end Builder

def trees (events : List Event) : Except Fault (List Tree) := do
  let builder ← events.foldlM Builder.step {}
  unless builder.frames.isEmpty do throw .unclosed
  return builder.finished.reverse

def Tree.isElement : Tree → Bool
  | .element .. => true
  | .text _ | .aside => false

def Tree.ofText (text : String) : Except Fault Tree := do
  let (entities, rest) ← Scanner.prolog.run text.toList
  let tokens ← Scanner.rootElement.eval rest
  let events ← (contentEvents entities depthLimit tokens).run' 0
  match (← trees events).find? isElement with
  | some root => return root
  | none => throw .noRoot

end SchemaForms.Xml
