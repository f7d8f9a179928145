import SchemaForms.Node

set_option autoImplicit false

namespace SchemaForms

namespace Node

def listItemText (item : Node) : String :=
  if item.name = "li" then " - " ++ item.textContent ++ "\n" else ""

def blockText (block : Node) : String :=
  if block.name = "p" then block.textContent
  else if block.name = "ul" then
    "\n" ++ String.join (block.elements.map listItemText) ++ "\n"
  else ""

def documentationText (documentation : Node) : String :=
  String.join (documentation.elements.map blockText)

def doc? (remark : Node) : Option String :=
  let parts := remark.elements.filter fun child => child.tag = .documentation
  let text := String.join (parts.map documentationText)
  if text.isEmpty then none else some text

end Node

end SchemaForms
