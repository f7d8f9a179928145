set_option autoImplicit false

namespace SchemaForms

inductive Tag
  | element
  | all
  | sequence
  | choice
  | attribute
  | complexType
  | simpleType
  | simpleContent
  | complexContent
  | restriction
  | extension
  | list
  | remark
  | documentation
  | enumeration
  | assert
  | text
  | other (name : String)
deriving DecidableEq, Repr

def textName : String := "#text"

def Tag.ofName : String → Tag
  | "#text" => .text
  | "element" => .element
  | "all" => .all
  | "sequence" => .sequence
  | "choice" => .choice
  | "attribute" => .attribute
  | "complexType" => .complexType
  | "simpleType" => .simpleType
  | "simpleContent" => .simpleContent
  | "complexContent" => .complexContent
  | "restriction" => .restriction
  | "extension" => .extension
  | "list" => .list
  | "annotation" => .remark
  | "documentation" => .documentation
  | "enumeration" => .enumeration
  | "assert" => .assert
  | name => .other name

namespace Tag

def name : Tag → String
  | .text => textName
  | .element => "element"
  | .all => "all"
  | .sequence => "sequence"
  | .choice => "choice"
  | .attribute => "attribute"
  | .complexType => "complexType"
  | .simpleType => "simpleType"
  | .simpleContent => "simpleContent"
  | .complexContent => "complexContent"
  | .restriction => "restriction"
  | .extension => "extension"
  | .list => "list"
  | .remark => "annotation"
  | .documentation => "documentation"
  | .enumeration => "enumeration"
  | .assert => "assert"
  | .other name => name

theorem name_ofName (text : String) : (ofName text).name = text := by
  unfold ofName
  split <;> rfl

end Tag

end SchemaForms
