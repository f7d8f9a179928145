import SchemaForms.NativeType
import SchemaForms.Pairs

set_option autoImplicit false

namespace SchemaForms

inductive Kind
  | native (type : NativeType)
  | base (name : String)
  | select
  | multiSelect
  | radio
  | list
deriving DecidableEq, Repr

namespace Kind

def ofBase (name : String) : Kind :=
  match NativeType.ofName? name with
  | some type => .native type
  | none => .base name

def text : Kind → String
  | .native type => type.name
  | .base name => name
  | .select => "select"
  | .multiSelect => "multi-select"
  | .radio => "radio"
  | .list => "list"

def isGrouped : Kind → Bool
  | .radio | .list => true
  | .native _ | .base _ | .select | .multiSelect => false

end Kind

inductive Requiredness
  | required
  | optional
  | use (text : String)
deriving DecidableEq, Repr

namespace Requiredness

def ofMinOccurs (least : String) : Requiredness :=
  if least = "1" then .required else .optional

def text : Requiredness → String
  | .required => "required"
  | .optional => "optional"
  | .use text => text

end Requiredness

structure Assertion where
  message : Option String := none
  formula : Option String := none
deriving DecidableEq, Repr

structure Field where
  name : Option String := none
  kind : Option Kind := none
  required : Option Requiredness := none
  minOccurs : Option String := none
  items : Option (List Field) := none
  enumeration : Option (List String) := none
  doc : Option String := none
  assertions : List Assertion := []
  extra : Pairs := []
deriving BEq, Repr, Inhabited

namespace Field

/-- The key that tells what a field stands for in the XML text. -/
def xmlRoleKey : String := "xsd-type"

def textValue : Field :=
  { name := some "value", extra := [(xmlRoleKey, "text")] }

def attributeValue : Field :=
  { extra := [(xmlRoleKey, "attribute")] }

def named (name : String) : Field := { name := some name }

def isGrouped (field : Field) : Bool := field.kind.any Kind.isGrouped

def members (field : Field) : List Field := field.items.getD []

def item? (field : Field) (name : String) : Option Field :=
  field.members.find? fun item => item.name = some name

end Field

end SchemaForms
