import Mathlib.Data.List.Forall2
import SchemaForms.Proofs.FieldOrigin

set_option autoImplicit false

namespace SchemaForms

open Relation

def Node.declarations (node : Node) : List Node :=
  node.elements.filter fun child => child.nameContains "element"

/-- The members that reading a group gives while the types in `opened` are being read. -/
def Group.read? (sort : Group) (catalogue : Catalogue) (opened : List String) (node : Node) :
    Option (List Field) :=
  let filling := (Rule.group sort).fill catalogue opened node
  if filling.failure.isSome then none else some (({} : Field).applyAll filling.edits).members

structure Group.Settles (sort : Group) (child : Node) (member : Field) : Prop where
  named : ∃ name, child.attr "name" = some name ∧ member.name = some name
  required : member.required = some
    (match child.attr "minOccurs" with
    | some least => if least = "1" then .required else .optional
    | none => if sort = .sequence then .optional else .required)
  -- The first `minOccurs` tells whether a member is required, the last one is kept.
  minOccurs : member.minOccurs =
    match child.attributes.last? "minOccurs" with
    | some least => some least
    | none => if sort = .all then some "1" else none
  radio : sort = .choice → member.kind = some .radio
  repeated : sort = .sequence → ∀ most, child.attr "maxOccurs" = some most → most ≠ "1" →
    member.kind = some .list

theorem Catalogue.closes_univ (catalogue : Catalogue) : catalogue.Closes Set.univ where
  child _ _ _ _ := trivial
  resolved _ _ _ := trivial

namespace Group

variable {sort : Group} {catalogue : Catalogue} {opened : List String} {node child : Node}
  {members : List Field}

theorem isGrouped_of_kind {kind : Kind} (given : sort.kind child = some kind) :
    kind.isGrouped = true := by
  cases sort with
  | all => contradiction
  | sequence =>
    simp only [Group.kind] at given
    split at given <;> cases given
    rfl
  | choice =>
    cases given
    rfl

theorem member_kind {kind : Kind} (given : sort.kind child = some kind)
    (named : child.nameContains "element" = true)
    (done : ((Rule.elementDecl (sort.blank child).isGrouped).fill catalogue opened child).failure =
      none) : (sort.member catalogue opened child).kind = some kind := by
  have grouped : (sort.blank child).isGrouped = true := by
    simp [Field.isGrouped, given, isGrouped_of_kind given]
  have fits := Rule.fits_fill catalogue.closes_univ opened (.elementDecl _) child trivial named done
  rw [member, Field.applyAll_kind _ (by simp [Rule.grasp, grouped]) fits]
  simp [given]

theorem settles_member (named : child.nameContains "element" = true)
    (done : ((Rule.elementDecl (sort.blank child).isGrouped).fill catalogue opened child).failure =
      none) : sort.Settles child (sort.member catalogue opened child) where
  named := by
    cases own : child.attr "name" with
    | some name => exact ⟨name, rfl, by simp [member, Node.declare, own]⟩
    -- A declaration without a name is refused.
    | none =>
      have refused := Rule.fill_failure_eq_none_iff.mp done .refuse
        (by simp [Rule.steps, Node.hasAttr, own])
      simp [Step.fill] at refused
  required := by
    cases least : child.attr "minOccurs" <;> cases sort <;>
      simp [member, Node.declare, blank, least, Requiredness.ofMinOccurs, requiredness]
  minOccurs := by
    have alike := Pairs.last?_isSome child.attributes "minOccurs"
    cases last : child.attributes.last? "minOccurs" with
    | some least => simp [member, Node.declare, last]
    | none =>
      have absent : child.attr "minOccurs" = none := by simpa [Node.attr, last] using alike
      cases sort <;> simp [member, Node.declare, blank, last, absent, Group.minOccurs]
  radio choice := by
    subst choice
    exact member_kind rfl named done
  repeated sequence most many other := by
    subst sequence
    refine member_kind ?_ named done
    simp only [Group.kind, many]

theorem members_of_children {children : List Node}
    (done : ∀ child ∈ children, ∀ step ∈ Rule.groupChild sort child,
      (step.fill catalogue opened).failure = none) :
    (children.flatMap (Rule.groupChild sort)).flatMap
        (fun step => (step.fill catalogue opened).edits.flatMap Edit.fields) =
      ((children.filter fun child => !child.isText).filter
        fun child => child.nameContains "element").map (sort.member catalogue opened) := by
  induction children with
  | nil => rfl
  | cons child rest ih =>
    obtain ⟨first, done⟩ := List.forall_mem_cons.mp done
    rw [List.flatMap_cons, List.flatMap_append, ih done]
    cases text : child.isText with
    | true => simp [Rule.groupChild, text]
    | false =>
      cases named : child.nameContains "element" with
      | false => simp [Rule.groupChild, text, named, Step.fill, Filling.note]
      | true =>
        simp only [Rule.groupChild, text, named, List.forall_mem_singleton, Step.fill,
          Filling.place_failure, Bool.false_eq_true, if_false, if_true] at first
        simp [Rule.groupChild, text, named, Step.fill, Filling.place_item_edits _ first,
          Edit.fields, member]

theorem members_eq_map (read : sort.read? catalogue opened node = some members) :
    ((Rule.group sort).fill catalogue opened node).failure = none ∧
      members = node.declarations.map (sort.member catalogue opened) := by
  simp only [read?] at read
  split at read
  · contradiction
  · next going =>
    have done : ((Rule.group sort).fill catalogue opened node).failure = none := by
      simpa using going
    refine ⟨done, ?_⟩
    have steps := Rule.fill_failure_eq_none_iff.mp done
    have children := members_of_children fun child (below : child ∈ node.children) step among =>
      steps step (List.mem_cons_of_mem _ (List.mem_flatMap.mpr ⟨child, below, among⟩))
    calc members
      _ = (({} : Field).applyAll ((Rule.group sort).fill catalogue opened node).edits).members :=
        (Option.some.inj read).symm
      _ = ((Rule.group sort).steps catalogue node).flatMap
          (fun step => (step.fill catalogue opened).edits.flatMap Edit.fields) := by
        rw [Field.members_applyAll, Rule.fill_edits done, List.flatMap_assoc]
        rfl
      _ = (node.children.flatMap (Rule.groupChild sort)).flatMap
          (fun step => (step.fill catalogue opened).edits.flatMap Edit.fields) := rfl
      _ = node.declarations.map (sort.member catalogue opened) := children

theorem settles_members (read : sort.read? catalogue opened node = some members) :
    List.Forall₂ sort.Settles node.declarations members := by
  obtain ⟨done, rfl⟩ := members_eq_map read
  rw [List.forall₂_map_right_iff, List.forall₂_same]
  intro child declared
  obtain ⟨below, named⟩ := List.mem_filter.mp declared
  exact settles_member named (done_of_member done below named)

theorem read?_eq_some (done : ((Rule.group sort).fill catalogue opened node).failure = none) :
    sort.read? catalogue opened node =
      some (node.declarations.map (sort.member catalogue opened)) := by
  have read : sort.read? catalogue opened node = some (({} : Field).applyAll
      ((Rule.group sort).fill catalogue opened node).edits).members := by
    simp [read?, done]
  rw [read, (members_eq_map read).2]

theorem mem_zip_member (declared : child ∈ node.declarations) :
    (child, sort.member catalogue opened child) ∈
      node.declarations.zip (node.declarations.map (sort.member catalogue opened)) := by
  rw [← List.map_prod_left_eq_zip]
  exact List.mem_map_of_mem declared

end Group

theorem Session.read?_of_group {session : Session} {node : Node} {sort : Group}
    {members : List Field} (ok : (session.group node sort).2 = .ok members) :
    sort.read? session.catalogue [] node = some members := by
  cases failed : ((Rule.group sort).fill session.catalogue [] node).failure with
  | none =>
    simpa [Session.group, Session.read, Session.fill, Session.record, Group.read?, failed] using ok
  | some trail => simp [Session.group, Session.read, Session.fill, Session.record, failed] at ok

/-- The field is what reading a group of the document made of this declaration. -/
def Field.IsMember (document : Document) (sort : Group) (child : Node) (field : Field) : Prop :=
  ∃ group ∈ document.root.preorder, group.tag = sort.tag ∧
    ∃ opened members, sort.read? (.ofDocument document) opened group = some members ∧
      (child, field) ∈ group.declarations.zip members

theorem Field.Made.member_of_grouped {document : Document} {field : Field} {kind : Kind}
    (made : field.Made (.ofDocument document) document.nodes) (settled : field.kind = some kind)
    (grouped : kind.isGrouped = true) :
    ∃ sort child, field.IsMember document sort child ∧ sort.kind child = some kind := by
  cases made with
  | native type =>
    cases settled
    contradiction
  | value simple inside suits done =>
    have := kind_of_applyAll_grouped grouped
      (Rule.fits_fill document.closes_nodes _ _ _ inside suits done) settled
    simp [textValue] at this
  | attr inside tagged done =>
    have := kind_of_applyAll_grouped grouped
      (Rule.fits_fill document.closes_nodes _ .attributeDecl _ inside tagged done) settled
    simp [Node.attributeField, attributeValue] at this
  | @member opened sort group child inside tagged done below named =>
    have given := kind_of_applyAll_grouped grouped
      (Group.fits_member document.closes_nodes inside done below named) settled
    have declared : child ∈ group.declarations := List.mem_filter.mpr ⟨below, named⟩
    refine ⟨sort, child, ⟨group, inside, tagged, opened, _, Group.read?_eq_some done,
      Group.mem_zip_member declared⟩, ?_⟩
    simpa using given

theorem Document.grouped_is_member {document : Document} {compilation : Compilation}
    {field : Field} {kind : Kind} (compiled : document.compile = .ok compilation)
    (inside : ReflTransGen Field.Holds compilation.field field) (settled : field.kind = some kind)
    (grouped : kind.isGrouped = true) :
    ∃ sort child, field.IsMember document sort child ∧ sort.kind child = some kind := by
  rcases reflTransGen_iff_eq_or_transGen.mp inside with rfl | below
  -- No group gives the root its kind, and its own type cannot.
  · obtain ⟨element, found, done, filled⟩ := field_of_compile compiled
    rw [filled] at settled
    have := Field.kind_of_applyAll_grouped grouped
      (Rule.fits_fill document.closes_nodes _ (.elementDecl _) _
        (mem_preorder_of_rootElement found) (nameContains_of_rootElement found) done) settled
    simp [Node.declare] at this
  · exact (made_of_compile compiled below).member_of_grouped settled grouped

theorem Group.radio_of_kind {sort : Group} {child : Node} (given : sort.kind child = some .radio) :
    sort = .choice := by
  cases sort with
  | choice => rfl
  | all => contradiction
  | sequence =>
    simp only [Group.kind] at given
    split at given <;> contradiction

theorem Group.repeated_of_kind {sort : Group} {child : Node}
    (given : sort.kind child = some .list) :
    sort = .sequence ∧ ∃ most, child.attr "maxOccurs" = some most ∧ most ≠ "1" := by
  cases sort with
  | all => contradiction
  | choice => simp [Group.kind] at given
  | sequence =>
    refine ⟨rfl, ?_⟩
    simp only [Group.kind] at given
    split at given
    · contradiction
    · contradiction
    · next most other many => exact ⟨most, many, other⟩

theorem Group.settles_exactly_members :
    (∀ (sort : Group) (catalogue : Catalogue) (opened : List String) (node : Node)
      (members : List Field), sort.read? catalogue opened node = some members →
        List.Forall₂ sort.Settles node.declarations members) ∧
    (∀ (session : Session) (node : Node) (sort : Group) (members : List Field),
      (session.group node sort).2 = .ok members →
        List.Forall₂ sort.Settles node.declarations members) ∧
    ∀ (document : Document) (compilation : Compilation), document.compile = .ok compilation →
      ∀ field, ReflTransGen Field.Holds compilation.field field →
        (field.kind = some .radio → ∃ child, field.IsMember document .choice child) ∧
        (field.kind = some .list → ∃ child, field.IsMember document .sequence child ∧
          ∃ most, child.attr "maxOccurs" = some most ∧ most ≠ "1") := by
  refine ⟨fun _ _ _ _ _ => settles_members, fun session node sort members ok => ?_,
    fun document compilation compiled field inside => ⟨fun radio => ?_, fun list => ?_⟩⟩
  · exact settles_members (Session.read?_of_group ok)
  · obtain ⟨sort, child, member, given⟩ :=
      Document.grouped_is_member compiled inside radio rfl
    cases radio_of_kind given
    exact ⟨child, member⟩
  · obtain ⟨sort, child, member, given⟩ :=
      Document.grouped_is_member compiled inside list rfl
    obtain ⟨rfl, many⟩ := repeated_of_kind given
    exact ⟨child, member, many⟩

theorem Listener.port_is_member :
    document.compile = .ok compilation ∧ ReflTransGen Field.Holds compilation.field portField ∧
      ∃ child, portField.IsMember document .sequence child ∧
        ∃ most, child.attr "maxOccurs" = some most ∧ most ≠ "1" :=
  have inside : ReflTransGen Field.Holds compilation.field portField := .single holds_port
  ⟨document_compile, inside, (Group.settles_exactly_members.2.2 document compilation
    document_compile portField inside).2 rfl⟩

end SchemaForms
