import SchemaForms.Node

set_option autoImplicit false

namespace SchemaForms

inductive Cause
  | undefinedType (reference : String)
  | unexpectedChild (name : String)
  | nonElementInGroup (name : String)
  | unhandledComplexChild (name : String)
  | missingAttribute (key : String)
  | recursiveType (name : String)
deriving DecidableEq, Repr

namespace Cause

def message : Cause → String
  | .undefinedType reference => "type '" ++ reference ++ "' is not defined"
  | .unexpectedChild name => "unexpected child <" ++ name ++ ">"
  | .nonElementInGroup name => "group member <" ++ name ++ "> is not an element"
  | .unhandledComplexChild name => "complex type child <" ++ name ++ "> is not handled"
  | .missingAttribute key => "missing attribute '" ++ key ++ "'"
  | .recursiveType name => "type '" ++ name ++ "' refers back to itself; not expanded again"

def label : Cause → String
  | .undefinedType _ => "undefined-type"
  | .unexpectedChild _ => "unexpected-child"
  | .nonElementInGroup _ => "non-element"
  | .unhandledComplexChild _ => "unhandled"
  | .missingAttribute _ => "missing-attribute"
  | .recursiveType _ => "recursive-type"

end Cause

/-- The nodes on the way to a place in a schema, the outermost first. -/
abbrev Trail := List Node

def Node.segment (node : Node) : String :=
  match node.attr "name" with
  | some name => node.name ++ "[@name='" ++ name ++ "']"
  | none => node.name

def Trail.render : Trail → String
  | [] => "/"
  | trail@(_ :: _) => String.join (trail.map fun node => "/" ++ node.segment)

structure Diagnostic where
  path : String
  cause : Cause
deriving DecidableEq, Repr

def Diagnostic.text (diagnostic : Diagnostic) : String :=
  diagnostic.path ++ ": " ++ diagnostic.cause.message

end SchemaForms
