import SchemaForms.Filling

set_option autoImplicit false

namespace SchemaForms

structure Session where
  catalogue : Catalogue
  path : Trail := []
  diagnostics : List Diagnostic := []

namespace Session

def start (catalogue : Catalogue) : Session := { catalogue }

def record (session : Session) (filling : Filling) : Session × Option SchemaError :=
  let diagnostics := session.diagnostics ++ filling.notes.map fun note =>
    { path := (session.path ++ note.trail).render, cause := note.cause }
  match filling.failure with
  | none => ({ session with diagnostics }, none)
  | some trail =>
    let path := session.path ++ trail
    ({ session with path, diagnostics },
      some (.malformed path.render "element declaration has no name attribute"))

/-- Fills `field` from a node; after an error it is filled as far as the reading came. -/
def fill (session : Session) (rule : Rule) (node : Node) (field : Field) :
    Session × Field × Option SchemaError :=
  let filling := rule.fill session.catalogue [] node
  let (session, error) := session.record filling
  (session, field.applyAll filling.edits, error)

def read (session : Session) (rule : Rule) (node : Node) (field : Field) :
    Session × Except SchemaError Field :=
  match session.fill rule node field with
  | (session, field, none) => (session, .ok field)
  | (session, _, some error) => (session, .error error)

def element (session : Session) (node : Node) (field : Field) :
    Session × Except SchemaError Field :=
  session.read (.elementDecl field.isGrouped) node (node.declare field)

def attributeDecl (session : Session) (node : Node) : Session × Except SchemaError Field :=
  session.read .attributeDecl node node.attributeField

def complexType (session : Session) (node : Node) (field : Field) :
    Session × Field × Option SchemaError :=
  session.fill .complexType node field

def simpleType (session : Session) (node : Node) (field : Field) :
    Session × Field × Option SchemaError :=
  session.fill .simpleType node field

def group (session : Session) (node : Node) (sort : Group) :
    Session × Except SchemaError (List Field) :=
  match session.read (.group sort) node {} with
  | (session, .ok field) => (session, .ok field.members)
  | (session, .error error) => (session, .error error)

def root (session : Session) (schema element : Node) : Session × Except SchemaError Field :=
  let (session, result) := { session with path := session.path ++ [schema] }.element element {}
  ({ session with path := session.path.dropLast }, result)

end Session

end SchemaForms
