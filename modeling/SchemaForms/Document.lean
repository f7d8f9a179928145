import SchemaForms.Node

set_option autoImplicit false

namespace SchemaForms

structure Document where
  root : Node
deriving BEq, Repr

inductive SchemaError
  | malformed (path : String) (reason : String)
  | unreadable (reason : String)
  | file (reason : String)
  | missing (version : String) (component : String)
deriving DecidableEq, Repr

namespace SchemaError

def message : SchemaError → String
  | .malformed path reason => "malformed schema at " ++ path ++ ": " ++ reason
  | .unreadable reason => "XML parsing error: " ++ reason
  | .file reason => "IO error: " ++ reason
  | .missing version component =>
    "no schema for filter '" ++ component ++ "' in version " ++ version

def chain (error : SchemaError) : List String :=
  error.message :: match error with
    | .unreadable reason | .file reason => [reason]
    | .malformed .. | .missing .. => []

end SchemaError

namespace Document

def targetNamespace (document : Document) : Option String :=
  document.root.attr "targetNamespace"

def rootElement (document : Document) : Except SchemaError Node :=
  if document.root.name = "schema" then
    match document.root.children.find? fun child => child.tag = .element with
    | some element => .ok element
    | none => .error (.malformed "/schema" "schema has no top-level element")
  else .error (.malformed ("/" ++ document.root.name) "document root is not a schema")

theorem rootElement_eq_ok_iff (document : Document) (element : Node) :
    document.rootElement = .ok element ↔
      document.root.name = "schema" ∧
        document.root.children.find? (fun child => child.tag = .element) = some element := by
  unfold rootElement
  by_cases schema : document.root.name = "schema"
  · cases document.root.children.find? fun child => child.tag = .element <;> simp [schema]
  · simp [schema]

end Document

end SchemaForms
