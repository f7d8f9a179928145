import SchemaForms.Xml.Token

set_option autoImplicit false

namespace SchemaForms.Xml

abbrev Entities := List (String × List Char)

-- The first declaration of a name counts.
def Entities.find? (entities : Entities) (name : String) : Option (List Char) :=
  (List.find? (fun entity => entity.1 = name) entities).map (·.2)

namespace Scanner

def declarationSpaces : Scanner Unit := do
  unless (← spaces) || (← Scan.startsWith "?>") do throw (.expected "white space")

def declarationPart (key : String) : Scanner Bool := do
  if ← Scan.startsWith key then
    let _ ← keyValue
    return true
  else return false

def declaration : Scanner Unit := do
  Scan.expect (.expected "a declaration") "<?xml"
  declarationSpaces
  unless ← declarationPart "version" do throw (.expected "a version")
  declarationSpaces
  if ← declarationPart "encoding" then declarationSpaces
  let _ ← declarationPart "standalone"
  let _ ← spaces
  Scan.expect (.expected "'?>'") "?>"

def aside? : Scanner (Option Unit) := do
  let _ ← spaces
  if ← Scan.startsWith "<!--" then return some (← comment)
  else if ← Scan.startsWith "<?" then return some (← instruction)
  else return none

def asides : Scanner Unit := do
  let _ ← Scan.many aside?

def externalId? : Scanner Bool := do
  if ← Scan.skip? "SYSTEM" then
    someSpaces
    let _ ← quoted
    return true
  else if ← Scan.skip? "PUBLIC" then
    someSpaces
    let _ ← quoted
    someSpaces
    let _ ← quoted
    return true
  else return false

def entityText? (general : Bool) : Scanner (Option (List Char)) := do
  if ← externalId? then
    if general then
      let _ ← spaces
      if ← Scan.skip? "NDATA" then
        someSpaces
        let _ ← name
    return none
  else return some (← quoted)

def entity : Scanner Entities := do
  Scan.expect (.expected "an entity") "<!ENTITY"
  someSpaces
  let general := !(← Scan.skip? "%")
  unless general do someSpaces
  let name ← name
  someSpaces
  let text ← entityText? general
  let _ ← spaces
  Scan.expect (.expected "'>'") ">"
  return text.toList.map fun text => (name, text)

def otherDeclaration : Scanner Unit := do
  let _ ← Scan.takeWhile (· ≠ '>')
  Scan.expect (.expected "'>'") ">"

def subsetItem? : Scanner (Option Entities) := do
  let _ ← spaces
  if ← Scan.startsWith "]" then return none
  else if ← Scan.startsWith "<!ENTITY" then return some (← entity)
  else if ← Scan.startsWith "<!--" then comment; return some []
  else if ← Scan.startsWith "<?" then instruction; return some []
  else if (← Scan.startsWith "<!ELEMENT") || (← Scan.startsWith "<!ATTLIST") ||
      (← Scan.startsWith "<!NOTATION") then otherDeclaration; return some []
  else throw (.expected "a declaration")

def subset : Scanner Entities := do
  if ← Scan.skip? "[" then
    let entities ← Scan.many subsetItem?
    Scan.expect (.expected "']'") "]"
    return entities.flatten
  else return []

def documentType : Scanner Entities := do
  Scan.expect (.expected "a document type") "<!DOCTYPE"
  someSpaces
  let _ ← name
  let _ ← spaces
  let _ ← externalId?
  let _ ← spaces
  let entities ← subset
  let _ ← spaces
  Scan.expect (.expected "'>'") ">"
  return entities

def prolog : Scanner Entities := do
  let _ ← Scan.skip? "\uFEFF"
  if ← Scan.startsWith "<?xml " then declaration
  asides
  if ← Scan.startsWith "<!DOCTYPE" then return ← documentType
  return []

def rootElement : Scanner (List Token) := do
  asides
  let root ← tag
  let content ← if root.opens then content else pure []
  asides
  unless ← Scan.atEnd do throw .unexpectedText
  return root :: content

end Scanner

end SchemaForms.Xml
