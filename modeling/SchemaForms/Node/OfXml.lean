import SchemaForms.Document
import SchemaForms.Text.Characters
import SchemaForms.Xml.Tree

set_option autoImplicit false

namespace SchemaForms

def isBlankText (text : String) : Bool := text.toList.all Text.isBlank

def Xml.Tree.isContentful : Xml.Tree → Bool
  | .text value => !isBlankText value
  | .element .. | .aside => false

mutual

/-- The node of an element; `documented` tells that it lies below a `documentation` element. -/
def Node.ofTree (documented : Bool) : Xml.Tree → Option Node
  | .element qualifier name attributes children =>
    let keep := documented || children.any Xml.Tree.isContentful
    some {
      name, qualifier, attributes
      children := Node.ofTrees (documented || name = "documentation") keep children }
  | .text _ | .aside => none

def Node.ofTrees (documented keep : Bool) : List Xml.Tree → List Node
  | [] => []
  | .text text :: rest =>
    if keep then Node.ofText text :: Node.ofTrees documented keep rest
    else Node.ofTrees documented keep rest
  | tree :: rest => (Node.ofTree documented tree).toList ++ Node.ofTrees documented keep rest

end

def Document.ofText (text : String) : Except SchemaError Document :=
  match Xml.Tree.ofText text with
  | .error fault => .error (.unreadable fault.message)
  | .ok tree =>
    match Node.ofTree false tree with
    | some root => .ok ⟨root⟩
    | none => .error (.unreadable Xml.Fault.noRoot.message)

end SchemaForms
