import SchemaForms.Proofs.TypePairs

set_option autoImplicit false

namespace SchemaForms

open StateTransition

namespace Node

def value? (facet : Node) : Option String :=
  if facet.tag = .enumeration then facet.attr "value" else none

def remark? (facet : Node) : Option String :=
  if facet.tag = .remark then facet.doc? else none

def enumerated (node : Node) : List String := node.children.filterMap value?

def facetPairs (node : Node) : Pairs := node.children.filterMap facetPair?

def remarks (node : Node) : List String := node.children.filterMap remark?

def baseKind? (node : Node) : Option Kind :=
  (node.attr "base").map fun base => Kind.ofBase (Reference.ofText base).target

def facetFault? (facet : Node) : Option Cause :=
  match facet.tag with
  | .text | .remark => none
  | .enumeration => if facet.hasAttr "value" then none else some (.missingAttribute "value")
  | _ => if facet.hasAttr "value" then none else some (.unexpectedChild facet.name)

def restrictionFaults (node : Node) : List Cause :=
  (if node.hasAttr "base" then [] else [.missingAttribute "base"]) ++
    node.children.filterMap facetFault?

end Node

/-- What the restriction `node` makes of `field`. -/
structure Field.Restricted (node : Node) (field filled : Field) : Prop where
  enumeration : filled.enumeration =
    if node.enumerated = [] then field.enumeration
    else some (field.enumeration.getD [] ++ node.enumerated)
  -- The base counts only where nothing is enumerated.
  kind : filled.kind =
    if node.enumerated = [] then node.baseKind?.or field.kind else some .select
  extra : filled.extra = field.extra.setAll node.facetPairs
  latest : ∀ key, filled.extra.first? key =
    (node.facetPairs.last? key).or (field.extra.first? key)
  inPlace : field.extra.keys <+: filled.extra.keys
  doc : filled.doc =
    if node.remarks = [] then field.doc
    else some (field.doc.getD "" ++ String.join node.remarks)
  rest : filled.name = field.name ∧ filled.required = field.required ∧
    filled.minOccurs = field.minOccurs ∧ filled.items = field.items ∧
    filled.assertions = field.assertions

/-- The same facets in another order, with the values of the enumeration in the same one. -/
structure Node.Rearranges (other node : Node) : Prop where
  base : other.attr "base" = node.attr "base"
  facets : other.children.Perm node.children
  values : other.enumerated = node.enumerated

def Step.edit? : Step → Option Edit
  | .edit change => some change
  | .note _ | .refuse | .visit _ _ _ | .define _ _ _ => none

def Step.cause? : Step → Option Cause
  | .note cause => some cause
  | .edit _ | .refuse | .visit _ _ _ | .define _ _ _ => none

namespace Edit

def kind? : Edit → Option Kind
  | .kind given => some given
  | .items _ | .enumeration _ | .doc _ | .assertion _ | .extra _ _ => none

def value? : Edit → Option String
  | .enumeration value => some value
  | .items _ | .kind _ | .doc _ | .assertion _ | .extra _ _ => none

def text? : Edit → Option String
  | .doc text => some text
  | .items _ | .kind _ | .enumeration _ | .assertion _ | .extra _ _ => none

def isFacet : Edit → Bool
  | .kind _ | .enumeration _ | .doc _ | .extra _ _ => true
  | .items _ | .assertion _ => false

end Edit

namespace Field

variable (field : Field) (edits : List Edit)

theorem kind_applyAll :
    (field.applyAll edits).kind = (edits.filterMap Edit.kind?).getLast?.or field.kind := by
  induction edits generalizing field with
  | nil => rfl
  | cons edit rest ih =>
    rw [applyAll_cons, ih]
    cases edit with
    | kind given =>
      cases later : (rest.filterMap Edit.kind?).getLast? <;>
        simp [apply, Edit.kind?, List.getLast?_cons, later]
    | items | enumeration | doc | assertion | extra => rfl

theorem enumeration_applyAll :
    (field.applyAll edits).enumeration =
      if edits.filterMap Edit.value? = [] then field.enumeration
      else some (field.enumeration.getD [] ++ edits.filterMap Edit.value?) := by
  induction edits generalizing field with
  | nil => rfl
  | cons edit rest ih =>
    rw [applyAll_cons, ih]
    cases edit with
    | enumeration value =>
      by_cases last : rest.filterMap Edit.value? = [] <;> simp [apply, Edit.value?, last]
    | items | kind | doc | assertion | extra => rfl

theorem doc_applyAll :
    (field.applyAll edits).doc =
      if edits.filterMap Edit.text? = [] then field.doc
      else some (field.doc.getD "" ++ String.join (edits.filterMap Edit.text?)) := by
  induction edits generalizing field with
  | nil => rfl
  | cons edit rest ih =>
    rw [applyAll_cons, ih]
    cases edit with
    | doc text =>
      by_cases last : rest.filterMap Edit.text? = [] <;>
        simp [apply, Edit.text?, last, String.append_assoc]
    | items | kind | enumeration | assertion | extra => rfl

variable {edits}

theorem applyAll_facets (facets : ∀ edit ∈ edits, edit.isFacet = true) :
    (field.applyAll edits).items = field.items ∧
      (field.applyAll edits).assertions = field.assertions := by
  induction edits generalizing field with
  | nil => exact ⟨rfl, rfl⟩
  | cons edit rest ih =>
    obtain ⟨first, facets⟩ := List.forall_mem_cons.mp facets
    have later := ih (field.apply edit) facets
    cases edit with
    | kind | enumeration | doc | extra => exact later
    | items | assertion => contradiction

end Field

-- Such a step leads to no other node.
def Step.isFacet : Step → Bool
  | .edit change => change.isFacet
  | .note _ => true
  | .refuse | .visit _ _ _ | .define _ _ _ => false

theorem Filling.gather_facets {catalogue : Catalogue} {opened : List String} {steps : List Step}
    (facets : ∀ step ∈ steps, step.isFacet = true) :
    gather (Step.fill catalogue opened) steps =
      { edits := steps.filterMap Step.edit?
        notes := (steps.filterMap Step.cause?).map fun cause => ⟨[], cause⟩ } := by
  induction steps with
  | nil => rfl
  | cons step rest ih =>
    obtain ⟨first, facets⟩ := List.forall_mem_cons.mp facets
    rw [gather_cons, ih facets]
    cases step with
    | edit | note =>
      simp [Step.fill, Filling.note, append_of_success, List.filterMap_cons, Step.edit?,
        Step.cause?]
    | refuse | visit | define => contradiction

namespace Rule

variable {catalogue : Catalogue} {opened : List String} {node : Node}

theorem facets_restriction : ∀ step ∈ restriction.steps catalogue node, step.isFacet = true := by
  refine List.forall_mem_cons.mpr ⟨?_, List.forall_mem_flatMap.mpr fun facet _ => ?_⟩
  · simp only [restrictionBase]
    cases node.attr "base" <;> rfl
  · simp only [facetSteps, docSteps]
    cases facet.tag with
    | text => simp
    | remark => simp [Step.isFacet, Edit.isFacet]
    | enumeration => cases facet.attr "value" <;> simp [Step.isFacet, Edit.isFacet]
    | _ => cases facet.attr "value" <;> simp [Step.isFacet, Edit.isFacet]

theorem causes_facetSteps (facet : Node) :
    (facetSteps facet).filterMap Step.cause? = facet.facetFault?.toList := by
  rw [facetSteps, Node.facetFault?, Node.hasAttr]
  cases facet.tag with
  | text => rfl
  | remark => cases remarks : facet.doc? <;> simp [docSteps, remarks, Step.cause?]
  | enumeration => cases facet.attr "value" <;> rfl
  | _ => cases facet.attr "value" <;> rfl

theorem causes_restriction :
    (restriction.steps catalogue node).filterMap Step.cause? = node.restrictionFaults := by
  have base : [restrictionBase node].filterMap Step.cause? =
      if node.hasAttr "base" then [] else [.missingAttribute "base"] := by
    rw [restrictionBase, Node.hasAttr]
    cases node.attr "base" <;> rfl
  have facets : (node.children.flatMap facetSteps).filterMap Step.cause? =
      node.children.filterMap Node.facetFault? := by
    simp only [List.filterMap_flatMap, causes_facetSteps]
    rw [List.filterMap_eq_flatMap_toList]
  rw [Node.restrictionFaults, ← base, ← facets, ← List.filterMap_append]
  rfl

theorem fill_restriction :
    restriction.fill catalogue opened node =
      { edits := (restriction.steps catalogue node).filterMap Step.edit?
        notes := node.restrictionFaults.map fun cause => ⟨[node], cause⟩ } := by
  rw [fill_eq, Filling.gather_facets facets_restriction, causes_restriction]
  simp [Filling.under, Function.comp_def]

theorem edits_facetSteps (facet : Node) :
    (facetSteps facet).filterMap Step.edit? =
      facet.remark?.toList.map .doc ++
        (facet.value?.toList.flatMap fun value => [.enumeration value, .kind .select]) ++
          facet.facetPair?.toList.map fun pair => .extra pair.1 pair.2 := by
  simp only [facetSteps, Node.remark?, Node.value?, Node.facetPair?]
  cases facet.tag with
  | text => rfl
  | remark => cases remarks : facet.doc? <;> simp [docSteps, remarks, Step.edit?]
  | enumeration => cases facet.attr "value" <;> rfl
  | _ => cases facet.attr "value" <;> rfl

theorem facets_edits (catalogue : Catalogue) (node : Node) :
    ∀ edit ∈ (restriction.steps catalogue node).filterMap Step.edit?, edit.isFacet = true := by
  intro edit made
  obtain ⟨step, member, made⟩ := List.mem_filterMap.mp made
  have facet := facets_restriction step member
  cases step with
  | edit change =>
    cases made
    exact facet
  | note | refuse | visit | define => contradiction

variable {α : Type} {part : Edit → Option α}

theorem parts_restriction (facets : Node → List α)
    (read : ∀ facet, ((facetSteps facet).filterMap Step.edit?).filterMap part = facets facet) :
    ((restriction.steps catalogue node).filterMap Step.edit?).filterMap part =
      node.baseKind?.toList.filterMap (fun given => part (.kind given)) ++
        node.children.flatMap facets := by
  have base : [restrictionBase node].filterMap Step.edit? = node.baseKind?.toList.map .kind := by
    rw [restrictionBase, Node.baseKind?]
    cases node.attr "base" <;> rfl
  have split : (restriction.steps catalogue node).filterMap Step.edit? =
      node.baseKind?.toList.map .kind ++
        node.children.flatMap fun facet => (facetSteps facet).filterMap Step.edit? := by
    rw [← base, ← List.filterMap_flatMap, ← List.filterMap_append]
    rfl
  rw [split, List.filterMap_append, List.filterMap_map, List.filterMap_flatMap]
  simp only [read, Function.comp_def]

theorem values_restriction :
    ((restriction.steps catalogue node).filterMap Step.edit?).filterMap Edit.value? =
      node.enumerated := by
  rw [parts_restriction fun facet => facet.value?.toList]
  · simp [Edit.value?, Node.enumerated, List.filterMap_eq_flatMap_toList]
  · intro facet
    rw [edits_facetSteps]
    cases facet.value? <;>
      simp [List.filterMap_cons, List.filterMap_map, Function.comp_def, Edit.value?]

theorem texts_restriction :
    ((restriction.steps catalogue node).filterMap Step.edit?).filterMap Edit.text? =
      node.remarks := by
  rw [parts_restriction fun facet => facet.remark?.toList]
  · simp [Edit.text?, Node.remarks, List.filterMap_eq_flatMap_toList]
  · intro facet
    rw [edits_facetSteps]
    simp [List.filterMap_flatMap, List.filterMap_cons, List.filterMap_map, Function.comp_def,
      Edit.text?]

theorem kinds_restriction :
    ((restriction.steps catalogue node).filterMap Step.edit?).filterMap Edit.kind? =
      node.baseKind?.toList ++ node.enumerated.map fun _ => .select := by
  rw [parts_restriction fun facet => facet.value?.toList.map fun _ => .select]
  · rw [← List.map_flatMap, ← List.filterMap_eq_flatMap_toList, Node.enumerated]
    simp [Edit.kind?]
  · intro facet
    rw [edits_facetSteps]
    cases facet.value? <;>
      simp [List.filterMap_cons, List.filterMap_map, Function.comp_def, Edit.kind?]

end Rule

theorem Field.restricted_by_filling (field : Field) (catalogue : Catalogue) (opened : List String)
    (node : Node) :
    field.Restricted node (field.applyAll (Rule.restriction.fill catalogue opened node).edits) := by
  have done : (Rule.restriction.fill catalogue opened node).failure = none := by
    rw [Rule.fill_restriction]
  have extra := field.extra_applyAll (Rule.restriction.fill catalogue opened node).edits
  rw [← Filling.pairs, Rule.pairs_restriction done] at extra
  rw [Rule.fill_restriction] at extra ⊢
  obtain ⟨items, assertions⟩ := field.applyAll_facets (Rule.facets_edits catalogue node)
  exact
    { enumeration := by rw [enumeration_applyAll, Rule.values_restriction]
      kind := by
        rw [kind_applyAll, Rule.kinds_restriction]
        by_cases bare : node.enumerated = []
        · cases node.baseKind? <;> simp [bare]
        · simp [bare, List.getLast?_append, List.getLast?_replicate]
      extra
      latest := fun key => by rw [extra]; exact Pairs.first?_setAll _ _ key
      inPlace := by rw [extra]; exact Pairs.keys_prefix_setAll _ _
      doc := by rw [doc_applyAll, Rule.texts_restriction]
      rest := ⟨field.applyAll_name _, field.applyAll_required _, field.applyAll_minOccurs _, items,
        assertions⟩ }

theorem Node.Rearranges.faults {other node : Node} (moves : other.Rearranges node) :
    other.restrictionFaults.Perm node.restrictionFaults := by
  rw [Node.restrictionFaults, Node.hasAttr, moves.base]
  exact (moves.facets.filterMap Node.facetFault?).append_left _

def Session.withFaults (session : Session) (node : Node) : Session :=
  { session with
    diagnostics := session.diagnostics ++ node.restrictionFaults.map fun cause =>
      ⟨(session.path ++ [node]).render, cause⟩ }

theorem Session.record_restriction (session : Session) (opened : List String) (node : Node) :
    session.record (Rule.restriction.fill session.catalogue opened node) =
      (session.withFaults node, none) := by
  rw [Rule.fill_restriction]
  simp [record, withFaults, Function.comp_def]

theorem Draft.reaches_restriction (session : Session) (opened : List String) (node : Node)
    (field : Field) (around : List Field) (tasks : List Task) :
    Reaches next { session, opened, field, around, tasks := .read .restriction node :: tasks }
      { session := session.withFaults node
        opened
        field := field.applyAll (Rule.restriction.fill session.catalogue [] node).edits
        around, tasks } := by
  have reached := reaches_read { session, opened, field, around, tasks } rfl .restriction node
  rw [settle, session.record_restriction] at reached
  rw [Rule.fill_restriction] at reached ⊢
  exact reached

theorem Node.Rearranges.restricted {other node : Node} (moves : other.Rearranges node)
    {field filled refilled : Field} (restricted : field.Restricted node filled)
    (again : field.Restricted other refilled) :
    refilled.kind = filled.kind ∧ refilled.enumeration = filled.enumeration := by
  have base : other.baseKind? = node.baseKind? := by
    rw [Node.baseKind?, moves.base, Node.baseKind?]
  constructor
  · rw [restricted.kind, again.kind, moves.values, base]
  · rw [restricted.enumeration, again.enumeration, moves.values]

theorem Session.restriction_read_completely (session : Session) (node : Node) (field : Field) :
    ∃ filled, field.Restricted node filled ∧
      session.fill .restriction node field = (session.withFaults node, filled, none) ∧
      (∀ (opened : List String) (around : List Field) (tasks : List Task),
        Reaches Draft.next
          { session, opened, field, around, tasks := .read .restriction node :: tasks }
          { session := session.withFaults node, opened, field := filled, around, tasks }) ∧
      ∀ other : Node, other.Rearranges node →
        ∃ again refilled, session.fill .restriction other field = (again, refilled, none) ∧
          refilled.kind = filled.kind ∧ refilled.enumeration = filled.enumeration ∧
          again.diagnostics.length = (session.withFaults node).diagnostics.length := by
  have read (node : Node) : session.fill .restriction node field =
      (session.withFaults node,
        field.applyAll (Rule.restriction.fill session.catalogue [] node).edits, none) := by
    rw [fill, session.record_restriction]
  have restricted := field.restricted_by_filling session.catalogue []
  refine ⟨_, restricted node, read node, fun opened around tasks =>
    Draft.reaches_restriction session opened node field around tasks, fun other moves => ?_⟩
  obtain ⟨kind, enumeration⟩ := moves.restricted (restricted node) (restricted other)
  refine ⟨_, _, read other, kind, enumeration, ?_⟩
  simp [withFaults, moves.faults.length_eq]

namespace Scheme

def http : Node := { name := "enumeration", attributes := [("value", "http")] }

def pattern : Node := { name := "pattern", attributes := [("value", "[a-z]+")] }

def https : Node := { name := "enumeration", attributes := [("value", "https")] }

def bound : Node := { name := "maxLength" }

def restriction : Node :=
  { name := "restriction", attributes := [("base", "string")]
    children := [http, pattern, https, bound] }

def sorted : Node := { restriction with children := [http, https, pattern, bound] }

theorem sorted_read_alike :
    sorted.Rearranges restriction ∧
      ∃ after field, (Session.start .empty).fill .restriction sorted {} = (after, field, none) ∧
        field.kind = some .select ∧ field.enumeration = some ["http", "https"] ∧
        after.diagnostics.length = 1 := by
  have moves : sorted.Rearranges restriction := ⟨rfl, (List.Perm.swap pattern https _).cons _, rfl⟩
  obtain ⟨filled, restricted, _, _, alike⟩ :=
    (Session.start .empty).restriction_read_completely restriction {}
  obtain ⟨after, field, read, kind, enumeration, noted⟩ := alike sorted moves
  exact ⟨moves, after, field, read, kind.trans restricted.kind,
    enumeration.trans restricted.enumeration, noted⟩

end Scheme

end SchemaForms
