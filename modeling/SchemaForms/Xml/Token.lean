import SchemaForms.Scan
import SchemaForms.Text.Characters
import SchemaForms.Text.Search
import SchemaForms.Xml.Fault

set_option autoImplicit false

namespace SchemaForms.Xml

abbrev Scanner (α : Type) := Scan Fault α

structure QualifiedName where
  qualifier : String
  name : String
deriving DecidableEq, Repr

structure RawAttribute where
  key : QualifiedName
  value : List Char

inductive TagEnd
  | opened
  | closed
  | cutOff
deriving DecidableEq, Repr

inductive Token
  | opening (tag : QualifiedName) (attributes : List RawAttribute) (ending : TagEnd)
  | closing (tag : QualifiedName)
  | text (text : List Char)
  | verbatim (text : List Char)
  | aside

namespace Token

def isOpening : Token → Bool
  | .opening .. => true
  | _ => false

def isClosing : Token → Bool
  | .closing _ => true
  | _ => false

def opens : Token → Bool
  | .opening _ _ .opened => true
  | _ => false

end Token

namespace Scanner

def spaces : Scanner Bool := return !(← Scan.takeWhile isSpace).isEmpty

def someSpaces : Scanner Unit := do
  unless ← spaces do throw (.expected "white space")

def legal (text : List Char) : Scanner (List Char) := do
  unless text.all isLegal do throw .illegalCharacter
  return text

def name : Scanner String := do
  let text ← Scan.takeWhile isNamePart
  unless text.head?.any isNameStart do throw .malformedName
  return String.ofList text

def qualifiedName : Scanner QualifiedName := do
  let text ← Scan.takeWhile isNamePart
  let (qualifier, name) := (Text.cut ':' text).getD ([], text)
  unless qualifier.head?.all isNameStart && name.head?.any isNameStart && !name.contains ':' do
    throw .malformedName
  return ⟨String.ofList qualifier, String.ofList name⟩

def quoteMark : Scanner Char := do
  match ← Scan.next? with
  | some c =>
    unless c = '"' || c = '\'' do throw (.expected "a quote")
    return c
  | none => throw (.expected "a quote")

def quoted : Scanner (List Char) := do
  let mark ← quoteMark
  let text ← Scan.takeWhile (· ≠ mark)
  Scan.expect (.expected "a closing quote") mark.toString
  return text

def equals : Scanner Unit := do
  let _ ← spaces
  Scan.expect (.expected "'='") "="
  let _ ← spaces

def keyValue : Scanner RawAttribute := do
  let key ← qualifiedName
  equals
  let value ← legal (← quoted)
  if value.contains '<' then throw .unexpectedText
  return { key, value }

def attribute? : Scanner (Option RawAttribute) := do
  if ← Scan.atEnd then return none
  let spaced ← spaces
  if (← Scan.startsWith ">") || (← Scan.startsWith "/") then return none
  unless spaced do throw (.expected "white space")
  return some (← keyValue)

def tag : Scanner Token := do
  Scan.expect (.expected "'<'") "<"
  let tag ← qualifiedName
  let attributes ← Scan.many attribute?
  if ← Scan.atEnd then return .opening tag attributes .cutOff
  let closed ← Scan.skip? "/"
  Scan.expect (.expected "'>'") ">"
  return .opening tag attributes (if closed then .closed else .opened)

def endTag : Scanner Token := do
  Scan.expect (.expected "'</'") "</"
  let tag ← qualifiedName
  let _ ← spaces
  Scan.expect (.expected "'>'") ">"
  return .closing tag

def comment : Scanner Unit := do
  Scan.expect (.expected "'<!--'") "<!--"
  let text ← legal (← Scan.takeBefore "-->")
  Scan.expect (.expected "'-->'") "-->"
  if Text.occursIn ['-', '-'] text || text.getLast? = some '-' then throw .malformedComment

def instruction : Scanner Unit := do
  if ← Scan.startsWith "<?xml " then throw .misplacedDeclaration
  Scan.expect (.expected "'<?'") "<?"
  let _ ← name
  let _ ← spaces
  let _ ← legal (← Scan.takeBefore "?>")
  Scan.expect (.expected "'?>'") "?>"

def verbatim : Scanner Token := do
  Scan.expect (.expected "'<![CDATA['") "<![CDATA["
  let text ← legal (← Scan.takeBefore "]]>")
  Scan.expect (.expected "']]>'") "]]>"
  return .verbatim text

def text : Scanner Token := do
  let text ← legal (← Scan.takeWhile (· ≠ '<'))
  if Text.occursIn "]]>".toList text then throw .unexpectedText
  return .text text

def token? : Scanner (Option Token) := do
  if ← Scan.atEnd then return none
  else if ← Scan.startsWith "<!--" then comment; return some .aside
  else if ← Scan.startsWith "<![CDATA[" then return some (← verbatim)
  else if ← Scan.startsWith "<?" then instruction; return some .aside
  else if ← Scan.startsWith "</" then return some (← endTag)
  else if ← Scan.startsWith "<" then return some (← tag)
  else return some (← text)

/-- Content in which so many elements are open, read as far as the end tag of the element around
it, which is the last token, or to the end of the text. -/
def contentUpTo : Nat → Nat → Scanner (List Token)
  | 0, _ => return []
  | limit + 1, depth => do
    match ← token? with
    | none => return []
    | some token =>
      if token.isClosing then
        match depth with
        | 0 => return [token]
        | depth + 1 => return token :: (← contentUpTo limit depth)
      else
        return token :: (← contentUpTo limit (if token.opens then depth + 1 else depth))

def content : Scanner (List Token) := do
  contentUpTo ((← get).length + 1) 0

end Scanner

end SchemaForms.Xml
