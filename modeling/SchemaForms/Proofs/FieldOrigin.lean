import Mathlib.Data.Set.Defs
import Mathlib.Logic.Relation
import SchemaForms.Proofs.CompilationWalk
import SchemaForms.Proofs.FillingParts
import SchemaForms.Proofs.RuleEffect

set_option autoImplicit false

namespace SchemaForms

open Relation

def Group.member (sort : Group) (catalogue : Catalogue) (opened : List String) (child : Node) :
    Field :=
  (child.declare (sort.blank child)).applyAll
    ((Rule.elementDecl (sort.blank child).isGrouped).fill catalogue opened child).edits

structure Catalogue.Closes (catalogue : Catalogue) (nodes : Set Node) : Prop where
  child : ∀ node ∈ nodes, ∀ child ∈ node.children, child ∈ nodes
  resolved : ∀ text definition, catalogue.resolve text = .defined definition → definition ∈ nodes

theorem Catalogue.Closes.opened {catalogue : Catalogue} {nodes : Set Node} {rule : Rule}
    {node definition : Node} (closes : catalogue.Closes nodes) (inside : node ∈ nodes)
    (opens : rule.Opens catalogue node definition) : definition ∈ nodes := by
  rcases opens with ⟨below, _⟩ | ⟨text, _, found⟩
  · exact closes.child node inside definition below
  · exact closes.resolved text definition found

inductive Field.Made (catalogue : Catalogue) (nodes : Set Node) : Field → Prop
  | native (type : NativeType) :
      Made catalogue nodes { Field.textValue with kind := some (.native type) }
  | value {opened : List String} {rule : Rule} {node : Node}
      (simple : rule = .simpleType ∨ rule = .restriction) (inside : node ∈ nodes)
      (suits : rule.Suits node) (done : (rule.fill catalogue opened node).failure = none) :
      Made catalogue nodes (Field.textValue.applyAll (rule.fill catalogue opened node).edits)
  | attr {opened : List String} {node : Node} (inside : node ∈ nodes)
      (tagged : node.tag = .attribute)
      (done : (Rule.attributeDecl.fill catalogue opened node).failure = none) :
      Made catalogue nodes
        (node.attributeField.applyAll (Rule.attributeDecl.fill catalogue opened node).edits)
  | member {opened : List String} {sort : Group} {group child : Node} (inside : group ∈ nodes)
      (tagged : group.tag = sort.tag)
      (done : ((Rule.group sort).fill catalogue opened group).failure = none)
      (below : child ∈ group.elements) (named : child.nameContains "element" = true) :
      Made catalogue nodes (sort.member catalogue opened child)

/-- What is known of an edit that a reading by `rule` makes. -/
def Edit.Fits (catalogue : Catalogue) (nodes : Set Node) (rule : Rule) : Edit → Prop
  | .items fields => ∀ field ∈ fields, field.Made catalogue nodes
  | .kind given => 1 ≤ rule.grasp ∧ given.isGrouped = false
  | .enumeration _ => 2 ≤ rule.grasp
  | .doc _ | .assertion _ => True
  | .extra key _ =>
    key ∈ ["maxOccurs", "use", "default", "sub-type"] ∨
      ∃ node ∈ nodes, node.name = key ∨ ∃ value, (key, value) ∈ node.attributes

section Origin

variable {catalogue : Catalogue} {nodes : Set Node} {rule visited : Rule} {node child : Node}
  {opened inner : List String} {placement : Placement}

theorem Edit.Suits.fits {edit : Edit} (suits : edit.Suits rule node)
    (closes : catalogue.Closes nodes) (inside : node ∈ nodes) : edit.Fits catalogue nodes rule := by
  cases edit with
  | items fields =>
    intro field member
    obtain ⟨type, rfl⟩ := suits field member
    exact .native type
  | kind | enumeration | doc | assertion => exact suits
  | extra key value =>
    rcases suits with known | ⟨value, held⟩ | ⟨child, below, named⟩
    · exact .inl known
    · exact .inr ⟨node, inside, .inr ⟨value, held⟩⟩
    · exact .inr ⟨child, closes.child node inside child below, .inl named⟩

theorem Edit.Fits.weaken {edit : Edit} (fits : edit.Fits catalogue nodes visited)
    (weaker : visited.grasp ≤ rule.grasp) :
    edit.Fits catalogue nodes rule := by
  cases edit with
  | items | doc | assertion | extra => exact fits
  | kind => exact ⟨fits.1.trans weaker, fits.2⟩
  | enumeration => exact fits.trans weaker

theorem Rule.Places.fits (places : rule.Places node visited child placement)
    (same : (∃ grouped, visited = .elementDecl grouped) → inner = opened)
    (inside : node ∈ nodes) (suits : rule.Suits node)
    (whole : (rule.fill catalogue opened node).failure = none)
    (insideChild : child ∈ nodes) (suitsChild : visited.Suits child)
    (done : (visited.fill catalogue inner child).failure = none)
    (fits : ∀ edit ∈ (visited.fill catalogue inner child).edits,
      edit.Fits catalogue nodes visited) :
    ∀ edit ∈ ((visited.fill catalogue inner child).place placement).edits,
      edit.Fits catalogue nodes rule := by
  cases places with
  | inner weaker keeps =>
    intro edit member
    rcases Filling.mem_place_edits keeps member with rfl | made
    · simp [Edit.Fits]
    · exact (fits edit made).weaken weaker
  | value simple =>
    rw [Filling.place_item_edits _ done]
    exact List.forall_mem_singleton.mpr
      (List.forall_mem_singleton.mpr (.value simple insideChild suitsChild done))
  | attr =>
    rw [Filling.place_item_edits _ done]
    exact List.forall_mem_singleton.mpr
      (List.forall_mem_singleton.mpr (.attr insideChild suitsChild done))
  | member grouped below named =>
    rw [Filling.place_item_edits _ done]
    cases same ⟨_, rfl⟩
    subst grouped
    exact List.forall_mem_singleton.mpr
      (List.forall_mem_singleton.mpr (.member inside suits whole below named))

theorem Rule.fits_fill (closes : catalogue.Closes nodes) (opened : List String) (rule : Rule)
    (node : Node) (inside : node ∈ nodes) (suits : rule.Suits node)
    (done : (rule.fill catalogue opened node).failure = none) :
    ∀ edit ∈ (rule.fill catalogue opened node).edits, edit.Fits catalogue nodes rule := by
  -- An item is made of a whole reading, so what is shown of that reading's edits comes first.
  revert opened rule node
  refine @fill_induction catalogue _ ?_
  intro opened rule node inner inside suits done edit member
  rw [fill_edits done] at member
  obtain ⟨step, among, made⟩ := List.mem_flatMap.mp member
  have origin := from_steps rule step among
  have effect := suits_steps rule step among
  have inner := inner step among
  have stepDone := fill_failure_eq_none_iff.mp done step among
  cases step with
  | edit change =>
    cases List.mem_singleton.mp made
    exact Edit.Suits.fits effect closes inside
  | note | refuse => simp [Step.fill, Filling.note] at made
  | visit visited child placement =>
    rw [Step.fill, Filling.place_failure] at stepDone
    have insideChild := closes.child node inside child origin.1
    exact Places.fits effect (fun _ => rfl) inside suits done insideChild origin.2.1 stepDone
      (inner insideChild origin.2.1 stepDone) edit made
  | define visited definition placement =>
    have insideType := closes.opened inside origin.1
    have suitsType : visited.Suits definition := suits_of_type origin.2
    rcases inner.define catalogue with ⟨later, inner, reads⟩ | ⟨name, met⟩
    · rw [reads, Filling.place_failure] at stepDone
      rw [reads] at made
      refine Places.fits effect ?_ inside suits done insideType suitsType stepDone
        (inner insideType suitsType stepDone) edit made
      rintro ⟨grouped, rfl⟩
      rcases origin.2 with other | other <;> contradiction
    · simp [met, Filling.note] at made

end Origin

namespace Field

section Frame

variable {catalogue : Catalogue} {nodes : Set Node} {rule : Rule} {edits : List Edit}

theorem applyAll_kind (field : Field) (free : rule.grasp < 1)
    (fits : ∀ edit ∈ edits, edit.Fits catalogue nodes rule) :
    (field.applyAll edits).kind = field.kind := by
  induction edits generalizing field with
  | nil => rfl
  | cons edit rest ih =>
    obtain ⟨first, fits⟩ := List.forall_mem_cons.mp fits
    rw [applyAll_cons, ih _ fits]
    cases edit with
    | kind given => exact absurd first.1 (Nat.not_le.mpr free)
    | items | enumeration | doc | assertion | extra => rfl

theorem applyAll_enumeration (field : Field) (free : rule.grasp < 2)
    (fits : ∀ edit ∈ edits, edit.Fits catalogue nodes rule) :
    (field.applyAll edits).enumeration = field.enumeration := by
  induction edits generalizing field with
  | nil => rfl
  | cons edit rest ih =>
    obtain ⟨first, fits⟩ := List.forall_mem_cons.mp fits
    rw [applyAll_cons, ih _ fits]
    cases edit with
    | enumeration value => exact absurd first (Nat.not_le.mpr free)
    | items | kind | doc | assertion | extra => rfl

theorem kind_of_applyAll_grouped {field : Field} {kind : Kind} (grouped : kind.isGrouped = true)
    (fits : ∀ edit ∈ edits, edit.Fits catalogue nodes rule)
    (settled : (field.applyAll edits).kind = some kind) : field.kind = some kind := by
  induction edits generalizing field with
  | nil => exact settled
  | cons edit rest ih =>
    obtain ⟨first, fits⟩ := List.forall_mem_cons.mp fits
    have before := ih fits settled
    cases edit with
    | kind given =>
      cases Option.some.inj before
      simp [Edit.Fits, grouped] at first
    | items | enumeration | doc | assertion | extra => exact before

end Frame

def Holds (outer inner : Field) : Prop := inner ∈ outer.members

section Items

variable {catalogue : Catalogue} {nodes : Set Node} {item start : Field} {edits : List Edit}

theorem made_of_members {rule : Rule} (itemless : start.members = [])
    (fits : ∀ edit ∈ edits, edit.Fits catalogue nodes rule)
    (holds : (start.applyAll edits).Holds item) : item.Made catalogue nodes := by
  rw [Holds, members_applyAll, itemless, List.nil_append] at holds
  obtain ⟨edit, made, member⟩ := List.mem_flatMap.mp holds
  have fits := fits edit made
  cases edit with
  | items fields => exact fits item member
  | kind | enumeration | doc | assertion | extra => simp [Edit.fields] at member

end Items

end Field

theorem Group.done_of_member {catalogue : Catalogue} {opened : List String} {sort : Group}
    {group child : Node} (done : ((Rule.group sort).fill catalogue opened group).failure = none)
    (below : child ∈ group.elements) (named : child.nameContains "element" = true) :
    ((Rule.elementDecl (sort.blank child).isGrouped).fill catalogue opened child).failure =
      none := by
  obtain ⟨below, seen⟩ := List.mem_filter.mp below
  have step := Rule.fill_failure_eq_none_iff.mp done
    (.visit (.elementDecl (sort.blank child).isGrouped) child
      (.item (child.declare (sort.blank child)))) ?_
  · rwa [Step.fill, Filling.place_failure] at step
  · refine List.mem_cons_of_mem _ (List.mem_flatMap.mpr ⟨child, below, ?_⟩)
    simp only [Bool.not_eq_true'] at seen
    simp [Rule.groupChild, seen, named]

theorem Group.fits_member {catalogue : Catalogue} {nodes : Set Node} {opened : List String}
    {sort : Group} {group child : Node} (closes : catalogue.Closes nodes) (inside : group ∈ nodes)
    (done : ((Rule.group sort).fill catalogue opened group).failure = none)
    (below : child ∈ group.elements) (named : child.nameContains "element" = true) :
    ∀ edit ∈ ((Rule.elementDecl (sort.blank child).isGrouped).fill catalogue opened child).edits,
      edit.Fits catalogue nodes (.elementDecl (sort.blank child).isGrouped) := by
  have insideChild := closes.child group inside child (List.mem_filter.mp below).1
  exact Rule.fits_fill closes opened _ child insideChild named (done_of_member done below named)

theorem Field.Made.item {catalogue : Catalogue} {nodes : Set Node} {field item : Field}
    (closes : catalogue.Closes nodes) (made : field.Made catalogue nodes)
    (holds : field.Holds item) : item.Made catalogue nodes := by
  cases made with
  | native type => simp [Holds, members, textValue] at holds
  | value simple inside suits done =>
    exact made_of_members rfl (Rule.fits_fill closes _ _ _ inside suits done) holds
  | attr inside tagged done =>
    exact made_of_members rfl (Rule.fits_fill closes _ .attributeDecl _ inside tagged done) holds
  | member inside tagged done below named =>
    have fits := Group.fits_member closes inside done below named
    exact made_of_members (by simp [members]) fits holds

namespace Document

def nodes (document : Document) : Set Node := {node | node ∈ document.root.preorder}

theorem closes_nodes (document : Document) :
    (Catalogue.ofDocument document).Closes document.nodes where
  child _ inside _ below := Node.mem_preorder_of_mem_children inside below
  resolved _ _ found := Catalogue.mem_preorder_of_resolve found

variable {document : Document} {compilation : Compilation} {field : Field}

theorem field_of_compile (compiled : document.compile = .ok compilation) :
    ∃ element, document.rootElement = .ok element ∧
      ((Rule.elementDecl false).fill (.ofDocument document) [] element).failure = none ∧
      compilation.field = (element.declare {}).applyAll
        ((Rule.elementDecl false).fill (.ofDocument document) [] element).edits := by
  cases found : document.rootElement with
  | error error =>
    rw [compile, found] at compiled
    contradiction
  | ok element =>
    refine ⟨element, rfl, ?_⟩
    rw [compile_eq_outcome found (document.walk_ends element), Walk.outcome] at compiled
    split at compiled
    · next done =>
      cases compiled
      exact ⟨by simpa [Walk.absorb] using done, rfl⟩
    · contradiction

theorem made_of_compile (compiled : document.compile = .ok compilation)
    (below : TransGen Field.Holds compilation.field field) :
    field.Made (.ofDocument document) document.nodes := by
  obtain ⟨element, found, done, filled⟩ := field_of_compile compiled
  rw [filled] at below
  have inside : element ∈ document.nodes := mem_preorder_of_rootElement found
  induction below with
  | single holds =>
    exact Field.made_of_members rfl (Rule.fits_fill document.closes_nodes _ (.elementDecl _) _
      inside (nameContains_of_rootElement found) done) holds
  | tail _ holds made => exact made.item document.closes_nodes holds

end Document

namespace Listener

def protocols : Node :=
  { name := "restriction", attributes := [("base", "string")]
    children := [
      { name := "enumeration", attributes := [("value", "http")] },
      { name := "enumeration", attributes := [("value", "https")] }] }

def portType : Node :=
  { name := "simpleType", attributes := [("name", "Port")], children := [protocols] }

def port : Node :=
  { name := "element"
    attributes := [("name", "port"), ("type", "Port"), ("maxOccurs", "unbounded")] }

def ports : Node := { name := "sequence", children := [port] }

def id : Node :=
  { name := "attribute", attributes := [("name", "id"), ("use", "required"), ("type", "string")] }

def content : Node := { name := "complexType", children := [ports, id] }

def element : Node :=
  { name := "element", attributes := [("name", "listener")], children := [content] }

def document : Document := ⟨{ name := "schema", children := [element, portType] }⟩

def protocolField : Field :=
  { Field.textValue with kind := some .select, enumeration := some ["http", "https"] }

def portField : Field :=
  { name := some "port", kind := some .list, required := some .optional
    items := some [protocolField], extra := [("maxOccurs", "unbounded")] }

def idField : Field :=
  { name := some "id", kind := some (.native .string), required := some (.use "required")
    extra := [(Field.xmlRoleKey, "attribute")] }

def compilation : Compilation :=
  { field := { name := some "listener", items := some [portField, idField] }
    targetNamespace := none
    diagnostics := [] }

theorem holds_port : compilation.field.Holds portField :=
  show portField ∈ [portField, idField] from List.mem_cons_self

theorem holds_protocol : portField.Holds protocolField :=
  show protocolField ∈ [protocolField] from List.mem_cons_self

theorem document_compile : document.compile = .ok compilation := by
  have known : Catalogue.ofDocument document = { definitions := [id, portType] } := by
    rw [Catalogue.ofDocument, Node.descendants_eq_preorder]
    rfl
  have readProtocols (opened : List String) :
      Rule.restriction.fill { definitions := [id, portType] } opened protocols =
        { edits := [.kind (.native .string), .enumeration "http", .kind .select,
            .enumeration "https", .kind .select] } := by
    rw [Rule.fill_eq]
    rfl
  have readPortType (opened : List String) :
      Rule.simpleType.fill { definitions := [id, portType] } opened portType =
        { edits := [.kind (.native .string), .enumeration "http", .kind .select,
            .enumeration "https", .kind .select] } := by
    rw [Rule.fill_eq, show Rule.simpleType.steps { definitions := [id, portType] } portType =
      [.visit .restriction protocols .direct] from rfl]
    simp only [Filling.gather_cons, Step.fill, readProtocols]
    rfl
  have readPort : (Rule.elementDecl true).fill { definitions := [id, portType] } [] port =
      { edits := [.items [protocolField], .extra "maxOccurs" "unbounded"] } := by
    rw [Rule.fill_eq, show (Rule.elementDecl true).steps { definitions := [id, portType] } port =
      [.define .simpleType portType (.item Field.textValue),
        .edit (.extra "maxOccurs" "unbounded")] from rfl]
    simp only [Filling.gather_cons, Step.fill, show portType.attr "name" = some "Port" from rfl,
      readPortType]
    rfl
  have readPorts : (Rule.group .sequence).fill { definitions := [id, portType] } [] ports =
      { edits := [.items [], .items [portField]] } := by
    rw [Rule.fill_eq, show (Rule.group .sequence).steps { definitions := [id, portType] } ports =
      [.edit (.items []), .visit (.elementDecl true) port
        (.item (port.declare (Group.sequence.blank port)))] from rfl]
    simp only [Filling.gather_cons, Step.fill, readPort]
    rfl
  have readId : Rule.attributeDecl.fill { definitions := [id, portType] } [] id =
      { edits := [.kind (.native .string)] } := by
    rw [Rule.fill_eq]
    rfl
  have readContent : Rule.complexType.fill { definitions := [id, portType] } [] content =
      { edits := [.items [], .items [portField], .items [idField]] } := by
    rw [Rule.fill_eq, show Rule.complexType.steps { definitions := [id, portType] } content =
      [.visit (.group .sequence) ports .whole,
        .visit .attributeDecl id (.item id.attributeField)] from rfl]
    simp only [Filling.gather_cons, Step.fill, readPorts, readId]
    rfl
  have readElement : (Rule.elementDecl false).fill { definitions := [id, portType] } [] element =
      { edits := [.items [], .items [], .items [portField], .items [idField]] } := by
    rw [Rule.fill_eq, show (Rule.elementDecl false).steps { definitions := [id, portType] }
      element = [.define .complexType content .listed] from rfl]
    simp only [Filling.gather_cons, Step.fill, show content.attr "name" = none from rfl,
      readContent]
    rfl
  have found : document.rootElement = .ok element := rfl
  rw [Document.compile_eq_outcome found (document.walk_ends element), known, readElement]
  rfl

end Listener

end SchemaForms
