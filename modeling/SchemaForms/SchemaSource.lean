import SchemaForms.Files
import SchemaForms.Node.OfXml

set_option autoImplicit false

namespace SchemaForms

abbrev Reader (m : Type → Type) := String → m (Except ReadError String)

def schemaPath (root version component : String) : String :=
  Path.join (Path.join root version) (component ++ ".xsd")

variable {m : Type → Type} [Monad m]

def fetchFromDirectory (read : Reader m) (root version component : String) :
    m (Except SchemaError String) := do
  match ← read (schemaPath root version component) with
  | .ok text => return .ok text
  | .error .notFound => return .error (.missing version component)
  | .error error => return .error (.file error.message)

def Document.ofFile (read : Reader m) (path : String) : m (Except SchemaError Document) := do
  match ← read path with
  | .ok text => return Document.ofText text
  | .error error => return .error (.file error.message)

end SchemaForms
