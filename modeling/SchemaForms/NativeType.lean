set_option autoImplicit false

namespace SchemaForms

inductive NativeType
  | string
  | double
  | boolean
  | anyUri
deriving DecidableEq, Repr

namespace NativeType

def ofName? : String → Option NativeType
  | "string" => some .string
  | "double" => some .double
  | "boolean" => some .boolean
  | "anyURI" => some .anyUri
  | _ => none

def name : NativeType → String
  | .string => "string"
  | .double => "double"
  | .boolean => "boolean"
  | .anyUri => "anyURI"

@[simp]
theorem ofName?_name (type : NativeType) : ofName? type.name = some type := by
  cases type <;> rfl

end NativeType

end SchemaForms
