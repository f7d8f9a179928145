import SchemaForms.Field.Form
import SchemaForms.Session

set_option autoImplicit false

namespace SchemaForms

structure Compilation where
  field : Field
  targetNamespace : Option String
  diagnostics : List Diagnostic

def Compilation.form (compilation : Compilation) : Json :=
  .object (("descriptor", compilation.field.form) ::
    Form.entry "target_namespace" compilation.targetNamespace)

def Document.compile (document : Document) : Except SchemaError Compilation := do
  let element ← document.rootElement
  let (session, result) := (Session.start (.ofDocument document)).root document.root element
  let field ← result
  return {
    field
    targetNamespace := document.targetNamespace
    diagnostics := session.diagnostics }

end SchemaForms
