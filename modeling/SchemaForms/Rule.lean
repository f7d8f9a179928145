import SchemaForms.Catalogue
import SchemaForms.Diagnostic
import SchemaForms.Documentation
import SchemaForms.Field.Edit
import SchemaForms.Group

set_option autoImplicit false

namespace SchemaForms

inductive Rule
  /-- An element declaration; `grouped` tells that a group has settled its kind. -/
  | elementDecl (grouped : Bool)
  | attributeDecl
  | group (group : Group)
  /-- A complex type, or what an extension or restriction of complex content holds. -/
  | complexType
  | simpleType
  | list
  | restriction
  | simpleContent
  | extension
  | complexContent
deriving DecidableEq, Repr

/-- How the edits made while a node is visited reach the field being filled. -/
inductive Placement
  | direct
  -- The field has items, even if none are added.
  | listed
  -- All of them or, if the visit fails, none.
  | whole
  -- They fill `field`, which then becomes an item, unless the visit fails.
  | item (field : Field)

inductive Step
  | edit (edit : Edit)
  | note (cause : Cause)
  -- The node is not fit to be read at all.
  | refuse
  | visit (rule : Rule) (child : Node) (placement : Placement)
  -- A visit to a type; one that is open already is not entered again.
  | define (rule : Rule) (definition : Node) (placement : Placement)

namespace Node

/-- The text of an `assert` and its formula; any attribute with "message" in its name will do. -/
def assertion (node : Node) : Assertion :=
  { message := (node.attributes.find? fun pair =>
      Text.occursIn "message".toList pair.1.toList).map (·.2)
    formula := node.attr "test" }

def isComplexType (node : Node) : Bool := node.nameContains "complexType"

def declare (node : Node) (field : Field) : Field :=
  { field with
    name := node.attr "name"
    minOccurs := (node.attributes.last? "minOccurs").or field.minOccurs }

@[simp]
theorem declare_kind (node : Node) (field : Field) : (node.declare field).kind = field.kind := rfl

@[simp]
theorem declare_items (node : Node) (field : Field) :
    (node.declare field).items = field.items := rfl

@[simp]
theorem declare_enumeration (node : Node) (field : Field) :
    (node.declare field).enumeration = field.enumeration := rfl

@[simp]
theorem declare_extra (node : Node) (field : Field) :
    (node.declare field).extra = field.extra := rfl

def attributeField (node : Node) : Field :=
  { Field.attributeValue with
    name := node.attributes.last? "name"
    required := (node.attributes.last? "use").map .use }

end Node

namespace Rule

def docSteps (remark : Node) : List Step :=
  remark.doc?.toList.map fun text => .edit (.doc text)

def nativeItem (type : NativeType) : Edit :=
  .items [{ Field.textValue with kind := some (.native type) }]

def simplePlacement (grouped : Bool) : Placement :=
  if grouped then .item Field.textValue else .direct

/-- What a type reference contributes, by what it resolves to. -/
structure Role where
  native : NativeType → List Edit
  complex : Placement
  simple : Option Placement

def typeRole (grouped : Bool) : Role where
  native type := [if grouped then nativeItem type else .kind (.native type)]
  complex := .listed
  simple := some (simplePlacement grouped)

def baseRole : Role where
  native type := [nativeItem type]
  complex := .direct
  simple := some (.item Field.textValue)

def ancestorRole : Role where
  native _ := []
  complex := .direct
  simple := none

def itemTypeRole : Role where
  native type := [nativeItem type, .extra "sub-type" type.name]
  complex := .listed
  simple := some (.item Field.textValue)

def Role.steps (role : Role) (catalogue : Catalogue) (text : String) : List Step :=
  match catalogue.resolve text with
  | .native type => (role.native type).map .edit
  | .defined definition =>
    if definition.isComplexType then [.define .complexType definition role.complex]
    else role.simple.toList.map (.define .simpleType definition)
  | .undefined => [.note (.undefinedType text)]

def elementPair (pair : String × String) : List Step :=
  if pair.1 = "maxOccurs" ∨ pair.1 = "use" ∨ pair.1 = "default" then
    [.edit (.extra pair.1 pair.2)]
  else []

def elementChild (grouped : Bool) (child : Node) : List Step :=
  match child.tag with
  | .remark => docSteps child
  | .text => []
  | .complexType => [.define .complexType child .listed]
  | .simpleType => [.define .simpleType child (simplePlacement grouped)]
  | _ => [.note (.unexpectedChild child.name)]

def attributePair (catalogue : Catalogue) (pair : String × String) : List Step :=
  if pair.1 = "name" ∨ pair.1 = "use" then []
  else if pair.1 = "type" then (typeRole false).steps catalogue pair.2
  else [.edit (.extra pair.1 pair.2)]

def attributeChild (child : Node) : List Step :=
  match child.tag with
  | .remark => docSteps child
  | .simpleType => [.define .simpleType child .direct]
  | .text => []
  | _ => [.note (.unexpectedChild child.name)]

def groupChild (group : Group) (child : Node) : List Step :=
  if child.isText then []
  else if child.nameContains "element" then
    let field := group.blank child
    [.visit (.elementDecl field.isGrouped) child (.item (child.declare field))]
  else [.note (.nonElementInGroup child.name)]

def complexChild (child : Node) : List Step :=
  match child.tag with
  | .all => [.visit (.group .all) child .whole]
  | .sequence => [.visit (.group .sequence) child .whole]
  | .choice => [.visit (.group .choice) child .whole]
  | .remark => docSteps child
  | .attribute => [.visit .attributeDecl child (.item child.attributeField)]
  | .simpleContent => [.visit .simpleContent child .direct]
  | .complexContent => [.visit .complexContent child .direct]
  | .assert => [.edit (.assertion child.assertion)]
  | .text => []
  | _ => [.note (.unhandledComplexChild child.name)]

def simpleChild (child : Node) : List Step :=
  match child.tag with
  | .list => [.visit .list child .direct]
  | .restriction => [.visit .restriction child .direct]
  | .remark => docSteps child
  | .text => []
  | _ => [.note (.unexpectedChild child.name)]

def inlineItemSteps (node : Node) : List Step :=
  match node.elements.find? fun child => child.tag = .simpleType with
  | some definition => [.define .simpleType definition (.item Field.textValue)]
  | none => [.note (.missingAttribute "itemType")]

def restrictionBase (node : Node) : Step :=
  match node.attr "base" with
  | some base => .edit (.kind (Kind.ofBase (Reference.ofText base).target))
  | none => .note (.missingAttribute "base")

def facetSteps (facet : Node) : List Step :=
  match facet.tag with
  | .text => []
  | .remark => docSteps facet
  | .enumeration =>
    match facet.attr "value" with
    | some value => [.edit (.enumeration value), .edit (.kind .select)]
    | none => [.note (.missingAttribute "value")]
  | _ =>
    match facet.attr "value" with
    | some value => [.edit (.extra facet.name value)]
    | none => [.note (.unexpectedChild facet.name)]

def simpleContentChild (child : Node) : List Step :=
  match child.tag with
  | .extension => [.visit .extension child .direct]
  | .restriction => [.visit .restriction child (.item Field.textValue)]
  | .attribute => [.visit .attributeDecl child (.item child.attributeField)]
  | .remark => docSteps child
  | .text => []
  | _ => [.note (.unexpectedChild child.name)]

def extensionChild (child : Node) : List Step :=
  match child.tag with
  | .attribute => [.visit .attributeDecl child (.item child.attributeField)]
  | .remark => docSteps child
  | .assert => [.edit (.assertion child.assertion)]
  | .text => []
  | _ => [.note (.unexpectedChild child.name)]

-- An extension's inherited fields come before its own.
def complexContentChild (catalogue : Catalogue) (child : Node) : List Step :=
  match child.tag with
  | .extension =>
    (match child.attr "base" with
    | some base => ancestorRole.steps catalogue base
    | none => [.note (.missingAttribute "base")]) ++ [.visit .complexType child .direct]
  | .restriction => [.visit .complexType child .direct]
  | .remark => docSteps child
  | .text => []
  | _ => [.note (.unhandledComplexChild child.name)]

def steps (catalogue : Catalogue) : Rule → Node → List Step
  | .elementDecl grouped, node =>
    if node.hasAttr "name" then
      (node.attr "type").toList.flatMap ((typeRole grouped).steps catalogue) ++
        node.attributes.flatMap elementPair ++ node.children.flatMap (elementChild grouped)
    else [.refuse]
  | .attributeDecl, node =>
    node.attributes.flatMap (attributePair catalogue) ++ node.children.flatMap attributeChild
  | .group sort, node => .edit (.items []) :: node.children.flatMap (groupChild sort)
  | .complexType, node => node.children.flatMap complexChild
  | .simpleType, node => node.children.flatMap simpleChild
  | .list, node =>
    (match node.attr "itemType" with
    | some text => itemTypeRole.steps catalogue text
    | none => inlineItemSteps node) ++ [.edit (.kind .multiSelect)]
  | .restriction, node => restrictionBase node :: node.children.flatMap facetSteps
  | .simpleContent, node => node.children.flatMap simpleContentChild
  | .extension, node =>
    (match node.attr "base" with
    | some text => baseRole.steps catalogue text
    | none => [.note (.missingAttribute "base")]) ++ node.children.flatMap extensionChild
  | .complexContent, node => node.children.flatMap (complexContentChild catalogue)

end Rule

end SchemaForms
