import SchemaForms.Node.OfXml
import SchemaForms.Node.Traversal
import SchemaForms.Settings

set_option autoImplicit false

namespace SchemaForms

inductive BindingsError
  | unreadable (error : SchemaError)
  | noLocation
deriving DecidableEq, Repr

def BindingsError.chain : BindingsError → List String
  | .unreadable error => "Failed to parse bindings document" :: error.chain
  | .noLocation => ["No bindings element with a schemaLocation attribute"]

def schemaLocation (text : String) : Except BindingsError String :=
  match Document.ofText text with
  | .error error => .error (.unreadable error)
  | .ok document =>
    let named := document.root.descendants.filter fun node => node.name = "bindings"
    match named.findSome? fun node => node.attr "schemaLocation" with
    | some location => .ok location
    | none => .error .noLocation

inductive ServiceError
  | request (url : String) (reason : String)
  | bindings (component version : String) (error : BindingsError)
deriving DecidableEq, Repr

def ServiceError.chain : ServiceError → List String
  | .request url reason => ["Request to " ++ url ++ " failed", reason]
  | .bindings component version error =>
    ("Invalid bindings for filter '" ++ component ++ "' " ++ version) :: error.chain

namespace ServiceSettings

def filterUrl (service : ServiceSettings) (version component : String) : String :=
  service.endpoint ++ version ++ service.filtersUri ++ component

def bindingsUrl (service : ServiceSettings) (version component : String) : String :=
  service.filterUrl version component ++ service.bindingsLocation

def schemaUrl (service : ServiceSettings) (version component location : String) : String :=
  service.filterUrl version component ++ service.schemaLocation ++ location

/-- Asks for the text at a URL; an error tells why there is none. -/
abbrev Client (m : Type → Type) := String → m (Except String String)

variable {m : Type → Type} [Monad m]

def fetch (service : ServiceSettings) (client : Client m) (version component : String) :
    m (Except ServiceError String) := do
  let bindingsUrl := service.bindingsUrl version component
  match ← client bindingsUrl with
  | .error reason => return .error (.request bindingsUrl reason)
  | .ok bindings =>
    match SchemaForms.schemaLocation bindings with
    | .error error => return .error (.bindings component version error)
    | .ok location =>
      let schemaUrl := service.schemaUrl version component location
      return (← client schemaUrl).mapError (.request schemaUrl)

end ServiceSettings

end SchemaForms
