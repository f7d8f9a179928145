import SchemaForms.Proofs.Contribution
import SchemaForms.Proofs.ExtraPairs

set_option autoImplicit false

namespace SchemaForms

def Node.facetPair? (facet : Node) : Option (String × String) :=
  match facet.tag with
  | .text | .remark | .enumeration => none
  | _ => (facet.attr "value").map fun value => (facet.name, value)

namespace Catalogue

def itemPairs (catalogue : Catalogue) (list : Node) : Pairs :=
  match (list.attr "itemType").map catalogue.resolve with
  | some (.native type) => [("sub-type", type.name)]
  | _ => []

def simplePairs (catalogue : Catalogue) (definition : Node) : Pairs :=
  definition.children.flatMap fun child =>
    match child.tag with
    | .list => catalogue.itemPairs child
    | .restriction => child.children.filterMap Node.facetPair?
    | _ => []

def typePairs (catalogue : Catalogue) (text : String) : Pairs :=
  match catalogue.resolve text with
  | .defined definition =>
    if definition.isComplexType then [] else catalogue.simplePairs definition
  | .native _ | .undefined => []

/-- The text refers to a native type or to a simple type that is not being read. -/
def IsSimple (catalogue : Catalogue) (opened : List String) (text : String) : Prop :=
  match catalogue.resolve text with
  | .native _ => True
  | .defined definition =>
    definition.isComplexType = false ∧ ∀ name, definition.attr "name" = some name → name ∉ opened
  | .undefined => False

end Catalogue

namespace Filling

def pairs (filling : Filling) : Pairs := filling.edits.filterMap Edit.pair?

@[simp]
theorem pairs_note (cause : Cause) : (note cause).pairs = [] := rfl

@[simp]
theorem pairs_edit (change : Edit) : ({ edits := [change] } : Filling).pairs =
    change.pair?.toList := by
  cases change <;> rfl

theorem pairs_of_content {filling : Filling}
    (content : ∀ edit ∈ filling.edits, edit.isContent = true) : filling.pairs = [] := by
  refine List.filterMap_eq_nil_iff.mpr fun edit member => ?_
  have plain := content edit member
  cases edit with
  | items | doc | assertion => rfl
  | kind | enumeration | extra => contradiction

theorem pairs_place_item (filling : Filling) (field : Field) :
    (filling.place (.item field)).pairs = [] := by
  simp only [pairs, place]
  split <;> rfl

end Filling

@[simp]
theorem Step.pairs_edit (catalogue : Catalogue) (opened : List String) (change : Edit) :
    ((Step.edit change).fill catalogue opened).pairs = change.pair?.toList :=
  Filling.pairs_edit change

@[simp]
theorem Step.pairs_note (catalogue : Catalogue) (opened : List String) (cause : Cause) :
    ((Step.note cause).fill catalogue opened).pairs = [] := rfl

namespace Rule

variable {catalogue : Catalogue} {opened : List String} {rule : Rule} {node definition : Node}

theorem pairs_fill (done : (rule.fill catalogue opened node).failure = none) :
    (rule.fill catalogue opened node).pairs =
      (rule.steps catalogue node).flatMap fun step => (step.fill catalogue opened).pairs := by
  rw [Filling.pairs, fill_edits done, List.filterMap_flatMap]
  rfl

theorem pairs_define_item (visited : Rule) (field : Field) :
    ((Step.define visited definition (.item field)).fill catalogue opened).pairs = [] := by
  simp only [Step.fill]
  split
  · exact Filling.pairs_place_item _ field
  · split
    · exact Filling.pairs_place_item _ field
    · rfl

theorem pairs_define_complex :
    ((Step.define .complexType definition .listed).fill catalogue opened).pairs = [] := by
  have listed (later : List String) :
      ((complexType.fill catalogue later definition).place .listed).pairs = [] :=
    Filling.pairs_of_content (List.forall_mem_cons.mpr
      ⟨rfl, content_fill later .complexType definition rfl⟩)
  simp only [Step.fill]
  split
  · exact listed opened
  · split
    · exact listed _
    · rfl

theorem pairs_docSteps (remark : Node) :
    ((docSteps remark).flatMap fun step => (step.fill catalogue opened).pairs) = [] := by
  unfold docSteps
  cases remark.doc? <;> rfl

theorem pairs_list (done : (list.fill catalogue opened node).failure = none) :
    (list.fill catalogue opened node).pairs = catalogue.itemPairs node := by
  rw [pairs_fill done]
  simp only [steps, List.flatMap_append, Catalogue.itemPairs]
  cases typed : node.attr "itemType" with
  | none =>
    simp only [inlineItemSteps]
    split <;> simp [pairs_define_item, Edit.pair?]
  | some text =>
    cases found : catalogue.resolve text with
    | native type => simp [Role.steps, found, itemTypeRole, nativeItem, Edit.pair?]
    | defined item =>
      by_cases complex : item.isComplexType = true
      · simp [Role.steps, found, complex, itemTypeRole, pairs_define_complex, Edit.pair?]
      · simp [Role.steps, found, complex, itemTypeRole, pairs_define_item, Edit.pair?]
    | undefined => simp [Role.steps, found, Edit.pair?]

theorem pairs_facetSteps (facet : Node) :
    ((facetSteps facet).flatMap fun step => (step.fill catalogue opened).pairs) =
      facet.facetPair?.toList := by
  unfold facetSteps Node.facetPair?
  cases facet.tag with
  | text => rfl
  | remark => exact pairs_docSteps facet
  | enumeration => cases facet.attr "value" <;> rfl
  | _ => cases facet.attr "value" <;> rfl

theorem pairs_restriction (done : (restriction.fill catalogue opened node).failure = none) :
    (restriction.fill catalogue opened node).pairs =
      node.children.filterMap Node.facetPair? := by
  have base : ((restrictionBase node).fill catalogue opened).pairs = [] := by
    unfold restrictionBase
    split <;> rfl
  rw [pairs_fill done]
  simp only [steps, List.flatMap_cons, base, List.nil_append, List.flatMap_assoc, pairs_facetSteps]
  exact (List.filterMap_eq_flatMap_toList _ _).symm

theorem pairs_simpleType (done : (simpleType.fill catalogue opened definition).failure = none) :
    (simpleType.fill catalogue opened definition).pairs = catalogue.simplePairs definition := by
  have steps_done := fill_failure_eq_none_iff.mp done
  rw [pairs_fill done]
  simp only [steps, List.flatMap_assoc, Catalogue.simplePairs]
  refine List.flatMap_congr fun child below => ?_
  have inside (step : Step) (member : step ∈ simpleChild child) :
      (step.fill catalogue opened).failure = none :=
    steps_done step (List.mem_flatMap.mpr ⟨child, below, member⟩)
  cases tagged : child.tag with
  | list =>
    have read := inside (.visit .list child .direct) (by simp [simpleChild, tagged])
    simpa [simpleChild, tagged, Step.fill, Filling.place] using pairs_list read
  | restriction =>
    have read := inside (.visit .restriction child .direct) (by simp [simpleChild, tagged])
    simpa [simpleChild, tagged, Step.fill, Filling.place] using pairs_restriction read
  | remark => simp [simpleChild, tagged, pairs_docSteps]
  | _ => simp [simpleChild, tagged, Step.fill]

def typing (catalogue : Catalogue) (opened : List String) (grouped : Bool) (text : String) :
    Filling :=
  .gather (Step.fill catalogue opened) ((typeRole grouped).steps catalogue text)

theorem define_of_closed (catalogue : Catalogue)
    (closed : ∀ name, definition.attr "name" = some name → name ∉ opened) :
    ∃ later, ∀ placement,
      (Step.define .simpleType definition placement).fill catalogue opened =
        (simpleType.fill catalogue later definition).place placement := by
  cases named : definition.attr "name" with
  | none => exact ⟨opened, fun placement => by simp [Step.fill, named]⟩
  | some name =>
    exact ⟨name :: opened, fun placement =>
      Step.fill_define simpleType placement named (closed name named)⟩

theorem pairs_typing {text : String} (simple : catalogue.IsSimple opened text)
    (done : (typing catalogue opened false text).failure = none) :
    (typing catalogue opened false text).pairs = catalogue.typePairs text := by
  unfold Catalogue.IsSimple at simple
  unfold typing Role.steps at done ⊢
  unfold Catalogue.typePairs
  cases found : catalogue.resolve text with
  | native type => rfl
  | undefined => simp [found] at simple
  | defined definition =>
    simp only [found] at simple done
    obtain ⟨plain, closed⟩ := simple
    obtain ⟨later, reads⟩ := define_of_closed catalogue closed
    simp only [plain, typeRole, simplePlacement, Option.toList_some, List.map_cons, List.map_nil,
      gather_single, reads, Filling.place, Bool.false_eq_true, if_false] at done ⊢
    exact pairs_simpleType done

theorem pairs_typing_cases {text : String}
    (done : (typing catalogue opened false text).failure = none) :
    (typing catalogue opened false text).pairs = [] ∨
      (typing catalogue opened false text).pairs = catalogue.typePairs text := by
  by_cases simple : catalogue.IsSimple opened text
  · exact .inr (pairs_typing simple done)
  refine .inl ?_
  unfold Catalogue.IsSimple at simple
  unfold typing Role.steps
  cases found : catalogue.resolve text with
  | native type => simp [found] at simple
  | undefined => rfl
  | defined definition =>
    by_cases complex : definition.isComplexType = true
    · simp only [complex, if_true, gather_single]
      exact pairs_define_complex
    · obtain ⟨name, named, met⟩ : ∃ name, definition.attr "name" = some name ∧ name ∈ opened := by
        simpa [found, complex] using simple
      simp [complex, typeRole, simplePlacement, gather_single, Step.fill, named, met]

end Rule

end SchemaForms
