import SchemaForms.Proofs.CatalogueIndex
import SchemaForms.Proofs.GroupMembers

set_option autoImplicit false

namespace SchemaForms

open Relation

def Kind.isScalar : Kind → Bool
  | .native _ | .base _ | .select => true
  | .multiSelect | .radio | .list => false

theorem Kind.ofBase_ne_select (name : String) : ofBase name ≠ .select := by
  unfold ofBase
  split <;> simp

structure Field.Consistent (field : Field) : Prop where
  enumerates : field.enumeration.isSome = true ↔ field.kind = some .select
  nonempty : field.enumeration ≠ some []
  itemless : ∀ kind, field.kind = some kind → kind.isScalar = true → field.items = none

structure Field.Untyped (field : Field) : Prop where
  kind : field.kind = none
  items : field.items = none
  enumeration : field.enumeration = none

def Edit.types : Edit → Bool
  | .items _ | .kind _ | .enumeration _ => true
  | .doc _ | .assertion _ | .extra _ _ => false

def Step.types : Step → Bool
  | .edit change => change.types
  | .visit _ _ _ | .define _ _ _ => true
  | .note _ | .refuse => false

/-- The edits are those of whole types, if they type the field at all. -/
def Field.Settled (edits : List Edit) : Prop :=
  ∀ field : Field, field.Untyped → (field.applyAll edits).Consistent

namespace Field

variable {field : Field} {edits first rest : List Edit}

theorem consistent_of_unenumerated (kind : field.kind ≠ some .select)
    (enumeration : field.enumeration = none)
    (itemless : ∀ kind, field.kind = some kind → kind.isScalar = true → field.items = none) :
    field.Consistent where
  enumerates := by simp [kind, enumeration]
  nonempty := by simp [enumeration]
  itemless := itemless

theorem consistent_of_grouped (grouped : field.isGrouped = true)
    (enumeration : field.enumeration = none) : field.Consistent := by
  cases given : field.kind with
  | none => simp [isGrouped, given] at grouped
  | some kind =>
    cases kind with
    | radio | list =>
      exact consistent_of_unenumerated (by simp [given]) enumeration
        (by simp [given, Kind.isScalar])
    | native | base | select | multiSelect =>
      simp [isGrouped, given, Kind.isGrouped] at grouped

theorem Untyped.consistent (untyped : field.Untyped) : field.Consistent :=
  consistent_of_unenumerated (by simp [untyped.kind]) untyped.enumeration (by simp [untyped.kind])

theorem applyAll_silent (field : Field) (silent : ∀ edit ∈ edits, edit.types = false) :
    (field.applyAll edits).kind = field.kind ∧ (field.applyAll edits).items = field.items ∧
      (field.applyAll edits).enumeration = field.enumeration := by
  induction edits generalizing field with
  | nil => exact ⟨rfl, rfl, rfl⟩
  | cons edit rest ih =>
    obtain ⟨first, silent⟩ := List.forall_mem_cons.mp silent
    have later := ih (field.apply edit) silent
    cases edit with
    | items | kind | enumeration => contradiction
    | doc | assertion | extra => exact later

theorem Untyped.applyAll (untyped : field.Untyped) (silent : ∀ edit ∈ edits, edit.types = false) :
    (field.applyAll edits).Untyped := by
  obtain ⟨kind, items, enumeration⟩ := field.applyAll_silent silent
  exact ⟨kind.trans untyped.kind, items.trans untyped.items,
    enumeration.trans untyped.enumeration⟩

theorem Consistent.applyAll (consistent : field.Consistent)
    (silent : ∀ edit ∈ edits, edit.types = false) : (field.applyAll edits).Consistent := by
  obtain ⟨kind, items, enumeration⟩ := field.applyAll_silent silent
  constructor
  · rw [kind, enumeration]
    exact consistent.enumerates
  · rw [enumeration]
    exact consistent.nonempty
  · rw [kind, items]
    exact consistent.itemless

theorem Settled.after (settled : Settled rest) (silent : ∀ edit ∈ first, edit.types = false) :
    Settled (first ++ rest) := by
  intro field untyped
  rw [applyAll_append]
  exact settled _ (untyped.applyAll silent)

theorem Settled.before (settled : Settled first) (silent : ∀ edit ∈ rest, edit.types = false) :
    Settled (first ++ rest) := by
  intro field untyped
  rw [applyAll_append]
  exact (settled field untyped).applyAll silent

theorem settled_flatMap {α : Type} {parts : List α} {edits : α → List Edit} {typing : α → Bool}
    (once : parts.countP typing ≤ 1)
    (settled : ∀ part ∈ parts, typing part = true → Settled (edits part))
    (silent : ∀ part ∈ parts, typing part = false → ∀ edit ∈ edits part, edit.types = false) :
    Settled (parts.flatMap edits) := by
  induction parts with
  | nil => exact fun field untyped => untyped.consistent
  | cons part rest ih =>
    obtain ⟨firstSettled, settled⟩ := List.forall_mem_cons.mp settled
    obtain ⟨firstSilent, silent⟩ := List.forall_mem_cons.mp silent
    rw [List.flatMap_cons]
    cases typed : typing part with
    | false =>
      rw [List.countP_cons_of_neg (by simp [typed])] at once
      exact (ih once settled silent).after (firstSilent typed)
    | true =>
      rw [List.countP_cons_of_pos typed] at once
      -- With the one part that types the field behind, those that follow leave its type alone.
      have spent : rest.countP typing = 0 := by omega
      refine (firstSettled typed).before ?_
      intro edit member
      obtain ⟨other, inside, made⟩ := List.mem_flatMap.mp member
      have untyped := List.countP_eq_zero.mp spent other inside
      exact silent other inside (by simpa using untyped) edit made

end Field

section Typing

variable {catalogue : Catalogue} {nodes : Set Node} {opened : List String} {node child : Node}
  {limit : Nat} {steps : List Step}

theorem Step.silent_fill {step : Step} (silent : step.types = false) :
    ∀ edit ∈ (step.fill catalogue opened).edits, edit.types = false := by
  cases step with
  | edit change => simpa [fill, types] using silent
  | note | refuse => simp [fill, Filling.note]
  | visit | define => contradiction

/-- The steps type a field at most `limit` times, and each time by a whole type. -/
structure Step.Typed (catalogue : Catalogue) (opened : List String) (limit : Nat)
    (steps : List Step) : Prop where
  count : steps.countP Step.types ≤ limit
  whole : ∀ step ∈ steps, step.types = true → (step.fill catalogue opened).failure = none →
    Field.Settled (step.fill catalogue opened).edits

namespace Step.Typed

theorem silent (silent : ∀ step ∈ steps, step.types = false) :
    Step.Typed catalogue opened limit steps where
  count := by
    have never : steps.countP Step.types = 0 :=
      List.countP_eq_zero.mpr fun step inside => by simp [silent step inside]
    omega
  whole step inside typed := by simp [silent step inside] at typed

theorem nil : Step.Typed catalogue opened limit [] := silent (by simp)

theorem note {cause : Cause} : Step.Typed catalogue opened limit [.note cause] :=
  silent (by simp [Step.types])

theorem docSteps (remark : Node) : Step.Typed catalogue opened limit (Rule.docSteps remark) :=
  silent (by simp [Rule.docSteps, Step.types, Edit.types])

theorem single {step : Step}
    (whole : (step.fill catalogue opened).failure = none →
      Field.Settled (step.fill catalogue opened).edits) :
    Step.Typed catalogue opened 1 [step] where
  count := List.countP_le_length
  whole := List.forall_mem_singleton.mpr fun _ => whole

theorem append {more : Nat} {rest : List Step} (typed : Step.Typed catalogue opened limit steps)
    (later : Step.Typed catalogue opened more rest) :
    Step.Typed catalogue opened (limit + more) (steps ++ rest) where
  count := by
    rw [List.countP_append]
    exact Nat.add_le_add typed.count later.count
  whole := List.forall_mem_append.mpr ⟨typed.whole, later.whole⟩

theorem flatMap {α : Type} {parts : List α} {reads : α → List Step} {typing : α → Bool}
    (typed : ∀ part ∈ parts,
      Step.Typed catalogue opened (typing part).toNat (reads part)) :
    Step.Typed catalogue opened (parts.countP typing) (parts.flatMap reads) := by
  induction parts with
  | nil => exact nil
  | cons part rest ih =>
    obtain ⟨first, typed⟩ := List.forall_mem_cons.mp typed
    have count : (part :: rest).countP typing = (typing part).toNat + rest.countP typing := by
      cases typed : typing part <;> simp [typed, Nat.add_comm]
    rw [List.flatMap_cons, count]
    exact first.append (ih typed)

theorem settled {rule : Rule}
    (typed : Step.Typed catalogue opened limit (rule.steps catalogue node)) (once : limit ≤ 1)
    (done : (rule.fill catalogue opened node).failure = none) :
    Field.Settled (rule.fill catalogue opened node).edits := by
  rw [Rule.fill_edits done]
  refine Field.settled_flatMap (typed.count.trans once) ?_ fun _ _ => Step.silent_fill
  intro step inside types
  exact typed.whole step inside types (Rule.fill_failure_eq_none_iff.mp done step inside)

end Step.Typed

theorem Rule.facetSteps_silent_or_enumeration (facet : Node) :
    (∀ step ∈ facetSteps facet, step.types = false) ∨
      ∃ value, facetSteps facet = [.edit (.enumeration value), .edit (.kind .select)] := by
  unfold facetSteps
  split
  · exact .inl (by simp)
  · exact .inl (by simp [docSteps, Step.types, Edit.types])
  · split
    · next value _ => exact .inr ⟨value, rfl⟩
    · exact .inl (by simp [Step.types])
  · split <;> exact .inl (by simp [Step.types, Edit.types])

variable (catalogue opened) in
theorem Field.Consistent.facet {field : Field} (consistent : field.Consistent)
    (itemless : field.items = none) (facet : Node) :
    let later := field.applyAll
      ((Rule.facetSteps facet).flatMap fun step => (step.fill catalogue opened).edits)
    later.Consistent ∧ later.items = none := by
  intro later
  rcases Rule.facetSteps_silent_or_enumeration facet with silent | ⟨value, listed⟩
  · have quiet : ∀ edit ∈ (Rule.facetSteps facet).flatMap
        (fun step => (step.fill catalogue opened).edits), edit.types = false := by
      intro edit member
      obtain ⟨step, inside, made⟩ := List.mem_flatMap.mp member
      exact Step.silent_fill (silent step inside) edit made
    exact ⟨consistent.applyAll quiet, (field.applyAll_silent quiet).2.1.trans itemless⟩
  · have outcome : later = { field with
        enumeration := some (field.enumeration.getD [] ++ [value]), kind := some .select } := by
      simp only [later, listed]
      rfl
    rw [outcome]
    exact ⟨⟨by simp, by simp, fun _ _ _ => itemless⟩, itemless⟩

theorem Field.Consistent.facets {field : Field} (consistent : field.Consistent)
    (itemless : field.items = none) (facets : List Node) :
    (field.applyAll ((facets.flatMap Rule.facetSteps).flatMap
      fun step => (step.fill catalogue opened).edits)).Consistent := by
  induction facets generalizing field with
  | nil => exact consistent
  | cons facet rest ih =>
    rw [List.flatMap_cons, List.flatMap_append, Field.applyAll_append]
    obtain ⟨consistent, itemless⟩ := consistent.facet catalogue opened itemless facet
    exact ih consistent itemless

theorem Rule.settled_restriction (done : (restriction.fill catalogue opened node).failure = none) :
    Field.Settled (restriction.fill catalogue opened node).edits := by
  intro field untyped
  rw [fill_edits done, steps, List.flatMap_cons, Field.applyAll_append]
  cases base : node.attr "base" with
  | none =>
    simp only [restrictionBase, base]
    exact untyped.consistent.facets untyped.items node.children
  | some name =>
    simp only [restrictionBase, base]
    refine Field.Consistent.facets (Field.consistent_of_unenumerated ?_ ?_ ?_) ?_ node.children
    · simp [Step.fill, Field.apply, Kind.ofBase_ne_select]
    · exact untyped.enumeration
    · exact fun _ _ _ => untyped.items
    · exact untyped.items

theorem Rule.settled_list (closes : catalogue.Closes nodes) (inside : node ∈ nodes)
    (tagged : node.tag = .list) (done : (list.fill catalogue opened node).failure = none) :
    Field.Settled (list.fill catalogue opened node).edits := by
  intro field untyped
  have kind : (field.applyAll (list.fill catalogue opened node).edits).kind =
      some .multiSelect := by
    rw [fill_edits done, steps, List.flatMap_append, Field.applyAll_append]
    rfl
  refine Field.consistent_of_unenumerated (by simp [kind]) ?_ (by simp [kind, Kind.isScalar])
  rw [Field.applyAll_enumeration field (by decide)
    (fits_fill closes opened .list node inside tagged done)]
  exact untyped.enumeration

def Node.isVariety (node : Node) : Bool := node.tag = .list || node.tag = .restriction

theorem Step.Typed.simpleChild (closes : catalogue.Closes nodes) (inside : child ∈ nodes) :
    Step.Typed catalogue opened child.isVariety.toNat (Rule.simpleChild child) := by
  unfold Rule.simpleChild
  split
  · next tagged =>
    rw [show child.isVariety = true by simp [Node.isVariety, tagged]]
    exact single fun done => Rule.settled_list closes inside tagged done
  · next tagged =>
    rw [show child.isVariety = true by simp [Node.isVariety, tagged]]
    exact single fun done => Rule.settled_restriction done
  · exact docSteps child
  · exact nil
  · exact note

theorem Rule.settled_simpleType (closes : catalogue.Closes nodes) (inside : node ∈ nodes)
    (once : node.children.countP Node.isVariety ≤ 1)
    (done : (simpleType.fill catalogue opened node).failure = none) :
    Field.Settled (simpleType.fill catalogue opened node).edits := by
  have typed : Step.Typed catalogue opened (node.children.countP Node.isVariety)
      (simpleType.steps catalogue node) :=
    .flatMap fun child below => .simpleChild closes (closes.child node inside child below)
  exact typed.settled once done

theorem Rule.settled_complexType (closes : catalogue.Closes nodes) (inside : node ∈ nodes)
    (done : (complexType.fill catalogue opened node).failure = none) :
    Field.Settled (.items [] :: (complexType.fill catalogue opened node).edits) := by
  intro field untyped
  have fits : ∀ edit ∈ .items [] :: (complexType.fill catalogue opened node).edits,
      edit.Fits catalogue nodes complexType :=
    List.forall_mem_cons.mpr
      ⟨by simp [Edit.Fits], fits_fill closes opened complexType node inside trivial done⟩
  have kind := (field.applyAll_kind (by decide) fits).trans untyped.kind
  have enumeration := (field.applyAll_enumeration (by decide) fits).trans untyped.enumeration
  exact Field.consistent_of_unenumerated (by rw [kind]; simp) enumeration (by rw [kind]; simp)

theorem Step.settled_define {visited : Rule} {definition : Node} {placement : Placement}
    (reads : ∀ later, (visited.fill catalogue later definition).failure = none →
      Field.Settled ((visited.fill catalogue later definition).place placement).edits)
    (done : ((Step.define visited definition placement).fill catalogue opened).failure = none) :
    Field.Settled ((Step.define visited definition placement).fill catalogue opened).edits := by
  have inner : (Step.define visited definition placement).Inner (fun _ _ _ => True) opened := by
    cases named : definition.attr "name" <;> simp [Inner, named]
  rcases inner.define catalogue with ⟨later, -, enters⟩ | ⟨name, met⟩
  · rw [enters, Filling.place_failure] at done
    rw [enters]
    exact reads later done
  · rw [met]
    exact fun field untyped => untyped.consistent

/-- How often a declaration is typed: by references and by types written inside it. -/
def Node.typings (node : Node) : Nat :=
  node.attributes.countP (fun pair => pair.1 = "type") + node.children.countP isType

section Declaration

variable (closes : catalogue.Closes nodes)
  (once : ∀ node ∈ nodes, node.children.countP Node.isVariety ≤ 1)

include closes once

theorem Step.Typed.simpleType (inside : child ∈ nodes) :
    Step.Typed catalogue opened 1 [.define .simpleType child .direct] :=
  single (Step.settled_define fun _ done =>
    Rule.settled_simpleType closes inside (once child inside) done)

omit once in
theorem Step.Typed.complexType (inside : child ∈ nodes) :
    Step.Typed catalogue opened 1 [.define .complexType child .listed] :=
  single (Step.settled_define fun _ done => Rule.settled_complexType closes inside done)

theorem Step.Typed.typeRole (text : String) :
    Step.Typed catalogue opened 1 ((Rule.typeRole false).steps catalogue text) := by
  unfold Rule.Role.steps
  split
  · refine single fun _ field untyped => ?_
    refine Field.consistent_of_unenumerated ?_ untyped.enumeration fun _ _ _ => untyped.items
    simp [Step.fill, Field.apply]
  · next definition found =>
    have inside := closes.resolved text definition found
    split
    · exact complexType closes inside
    · exact simpleType closes once inside
  · exact note

theorem Step.Typed.elementChild (inside : child ∈ nodes) :
    Step.Typed catalogue opened child.isType.toNat
      (Rule.elementChild false child) := by
  unfold Rule.elementChild
  split
  · exact docSteps child
  · exact nil
  · next tagged =>
    rw [show child.isType = true by simp [Node.isType, tagged]]
    exact complexType closes inside
  · next tagged =>
    rw [show child.isType = true by simp [Node.isType, tagged]]
    exact simpleType closes once inside
  · exact note

theorem Step.Typed.attributePair (pair : String × String) :
    Step.Typed catalogue opened (decide (pair.1 = "type")).toNat
      (Rule.attributePair catalogue pair) := by
  unfold Rule.attributePair
  split
  · exact nil
  · split
    · next type =>
      rw [show decide (pair.1 = "type") = true by simpa using type]
      exact typeRole closes once pair.2
    · exact silent (by simp [Step.types, Edit.types])

theorem Step.Typed.attributeChild (inside : child ∈ nodes) :
    Step.Typed catalogue opened child.isType.toNat (Rule.attributeChild child) := by
  unfold Rule.attributeChild
  split
  · exact docSteps child
  · next tagged =>
    rw [show child.isType = true by simp [Node.isType, tagged]]
    exact simpleType closes once inside
  · exact nil
  · exact note

theorem Rule.settled_attributeDecl (inside : node ∈ nodes) (typed : node.typings ≤ 1)
    (done : (attributeDecl.fill catalogue opened node).failure = none) :
    Field.Settled (attributeDecl.fill catalogue opened node).edits := by
  have steps : Step.Typed catalogue opened node.typings (attributeDecl.steps catalogue node) :=
    .append (.flatMap fun pair _ => .attributePair closes once pair)
      (.flatMap fun child below =>
        .attributeChild closes once (closes.child node inside child below))
  exact steps.settled typed done

omit closes once in
theorem Node.countP_attr_le (node : Node) :
    ((node.attr "type").toList.countP fun _ => true) ≤
      node.attributes.countP fun pair => pair.1 = "type" := by
  cases typed : node.attr "type" with
  | none => simp
  | some text =>
    have held : 0 < node.attributes.countP fun pair => pair.1 = "type" :=
      List.countP_pos_iff.mpr ⟨("type", text), mem_attributes_of_attr typed, by simp⟩
    simpa using held

theorem Rule.settled_elementDecl (inside : node ∈ nodes) (typed : node.typings ≤ 1)
    (done : ((elementDecl false).fill catalogue opened node).failure = none) :
    Field.Settled ((elementDecl false).fill catalogue opened node).edits := by
  have first := node.countP_attr_le
  have steps : Step.Typed catalogue opened
      (((node.attr "type").toList.countP fun _ => true) + 0 + node.children.countP Node.isType)
      ((elementDecl false).steps catalogue node) := by
    simp only [Rule.steps]
    split
    · refine .append (.append (.flatMap fun text _ => .typeRole closes once text) (.silent ?_))
        (.flatMap fun child below =>
          .elementChild closes once (closes.child node inside child below))
      refine List.forall_mem_flatMap.mpr fun pair _ => ?_
      unfold elementPair
      split <;> simp [Step.types, Edit.types]
    · exact .silent (by simp [Step.types])
  refine steps.settled ?_ done
  unfold Node.typings at typed
  omega

end Declaration

end Typing

structure Document.TypesOnce (document : Document) : Prop where
  declared : ∀ node ∈ document.root.preorder,
    node.nameContains "element" = true ∨ node.tag = .attribute → node.typings ≤ 1
  derived : ∀ node ∈ document.root.preorder, node.children.countP Node.isVariety ≤ 1

theorem Group.blank_untyped {sort : Group} {child : Node}
    (free : (sort.blank child).isGrouped = false) : (child.declare (sort.blank child)).Untyped where
  kind := by
    cases given : sort.kind child with
    | none => simp [given]
    | some kind => simp [Field.isGrouped, given, isGrouped_of_kind given] at free
  items := by simp
  enumeration := by simp

theorem Field.Made.consistent {document : Document} {field : Field}
    (made : field.Made (.ofDocument document) document.nodes) (once : document.TypesOnce) :
    field.Consistent := by
  have closes := document.closes_nodes
  have value : textValue.Untyped := ⟨rfl, rfl, rfl⟩
  cases made with
  | native type =>
    exact consistent_of_unenumerated (by simp) rfl fun _ _ _ => rfl
  | @value opened rule node simple inside suits done =>
    rcases simple with rfl | rfl
    · exact Rule.settled_simpleType closes inside (once.derived node inside) done _ value
    · exact Rule.settled_restriction done _ value
  | @attr opened node inside tagged done =>
    exact Rule.settled_attributeDecl closes once.derived inside
      (once.declared node inside (.inr tagged)) done _ ⟨rfl, rfl, rfl⟩
  | @member opened sort group child inside tagged done below named =>
    have insideChild := closes.child group inside child (List.mem_filter.mp below).1
    have childDone := Group.done_of_member done below named
    cases grouped : (sort.blank child).isGrouped with
    | true =>
      have free : (Rule.elementDecl (sort.blank child).isGrouped).grasp = 0 := by
        simp [Rule.grasp, grouped]
      have fits := Group.fits_member closes inside done below named
      have kind : (sort.member (.ofDocument document) opened child).kind =
          (sort.blank child).kind :=
        applyAll_kind _ (by omega) fits
      refine consistent_of_grouped (by rwa [isGrouped, kind]) ?_
      exact (applyAll_enumeration _ (by omega) fits).trans (by simp)
    | false =>
      rw [Group.member, grouped]
      rw [grouped] at childDone
      exact Rule.settled_elementDecl closes once.derived insideChild
        (once.declared child insideChild (.inl named)) childDone _ (Group.blank_untyped grouped)

theorem Document.consistent_of_compile {document : Document} {compilation : Compilation}
    {field : Field} (once : document.TypesOnce) (compiled : document.compile = .ok compilation)
    (inside : ReflTransGen Field.Holds compilation.field field) : field.Consistent := by
  rcases reflTransGen_iff_eq_or_transGen.mp inside with rfl | below
  · obtain ⟨element, found, done, filled⟩ := field_of_compile compiled
    have member := mem_preorder_of_rootElement found
    rw [filled]
    exact Rule.settled_elementDecl document.closes_nodes once.derived member
      (once.declared element member (.inl (nameContains_of_rootElement found))) done _
      ⟨rfl, rfl, rfl⟩
  · exact (made_of_compile compiled below).consistent once

theorem Document.kind_items_enumeration_consistent (document : Document)
    (once : document.TypesOnce) (compilation : Compilation)
    (compiled : document.compile = .ok compilation) (field : Field)
    (inside : ReflTransGen Field.Holds compilation.field field) :
    field.Consistent ∧
      (field.items.isSome = true →
        field.kind ∈ [none, some .list, some .radio, some .multiSelect]) := by
  have consistent := consistent_of_compile once compiled inside
  refine ⟨consistent, fun items => ?_⟩
  cases given : field.kind with
  | none => simp
  | some kind =>
    have scalar : kind.isScalar = false := by
      by_contra scalar
      simp [consistent.itemless kind given (by simpa using scalar)] at items
    cases kind with
    | list | radio | multiSelect => simp
    | native | base | select => contradiction

theorem Listener.protocol_consistent :
    document.TypesOnce ∧ document.compile = .ok compilation ∧
      ReflTransGen Field.Holds compilation.field protocolField ∧ protocolField.Consistent ∧
      (protocolField.items.isSome = true →
        protocolField.kind ∈ [none, some .list, some .radio, some .multiSelect]) := by
  have once : document.TypesOnce := by
    constructor <;> decide
  have inside : ReflTransGen Field.Holds compilation.field protocolField :=
    .tail (.single holds_port) holds_protocol
  exact ⟨once, document_compile, inside,
    document.kind_items_enumeration_consistent once compilation document_compile _ inside⟩

end SchemaForms
