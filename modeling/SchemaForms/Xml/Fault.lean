set_option autoImplicit false

namespace SchemaForms.Xml

inductive Fault
  | expected (what : String)
  | illegalCharacter
  | malformedName
  | malformedReference
  | malformedComment
  | misplacedDeclaration
  | unexpectedText
  | unknownEntity (name : String)
  | entityLoop
  | unknownQualifier (qualifier : String)
  | reservedNamespace
  | duplicateNamespace (qualifier : String)
  | duplicateAttribute (name : String)
  | unexpectedEnd (name : String)
  | unclosed
  | noRoot
deriving DecidableEq, Repr

def Fault.message : Fault → String
  | .expected what => "expected " ++ what
  | .illegalCharacter => "a character that no document may hold"
  | .malformedName => "malformed name"
  | .malformedReference => "malformed reference"
  | .malformedComment => "malformed comment"
  | .misplacedDeclaration => "a declaration that does not stand at the front"
  | .unexpectedText => "text where there can be none"
  | .unknownEntity name => "unknown entity '" ++ name ++ "'"
  | .entityLoop => "entities nested too deeply or too often"
  | .unknownQualifier qualifier => "unknown namespace qualifier '" ++ qualifier ++ "'"
  | .reservedNamespace => "a reserved namespace"
  | .duplicateNamespace qualifier => "namespace qualifier '" ++ qualifier ++ "' declared twice"
  | .duplicateAttribute name => "attribute '" ++ name ++ "' given twice"
  | .unexpectedEnd name => "unexpected end of '" ++ name ++ "'"
  | .unclosed => "an element that is not closed"
  | .noRoot => "not exactly one root element"

end SchemaForms.Xml
