import SchemaForms.Rule

set_option autoImplicit false

namespace SchemaForms

def Group.tag : Group → Tag
  | .all => .all
  | .sequence => .sequence
  | .choice => .choice

namespace Node

theorem mem_attributes_of_attr {node : Node} {key value : String}
    (found : node.attr key = some value) : (key, value) ∈ node.attributes := by
  obtain ⟨pair, hit, rfl⟩ := Option.map_eq_some_iff.mp found
  have named : pair.1 = key := by simpa using List.find?_some hit
  subst named
  exact List.mem_of_find?_eq_some hit

theorem mem_elements_of_tag {node child : Node} (inside : child ∈ node.children)
    (tagged : child.tag ≠ .text) : child ∈ node.elements := by
  refine List.mem_filter.mpr ⟨inside, ?_⟩
  -- Only character data has the tag of character data.
  by_cases text : child.name = textName
  · exact absurd (show child.tag = .text by rw [tag, text]; rfl) tagged
  · simp [isText, text]

end Node

namespace Rule

/-- What a node is called when a rule sends it here. -/
def Suits : Rule → Node → Prop
  | .elementDecl _, node => node.nameContains "element" = true
  | .attributeDecl, node => node.tag = .attribute
  | .group sort, node => node.tag = sort.tag
  | .complexType, _ | .simpleType, _ => True
  | .list, node => node.tag = .list
  | .restriction, node => node.tag = .restriction
  | .simpleContent, node => node.tag = .simpleContent
  | .extension, node => node.tag = .extension
  | .complexContent, node => node.tag = .complexContent

def Cites : Rule → Node → String → Prop
  | .elementDecl _, node, text | .attributeDecl, node, text => ("type", text) ∈ node.attributes
  | .list, node, text => ("itemType", text) ∈ node.attributes
  | .extension, node, text => ("base", text) ∈ node.attributes
  -- An extension of complex content is read only after the base it names.
  | .complexContent, node, text =>
    ∃ child ∈ node.children, child.tag = .extension ∧ ("base", text) ∈ child.attributes
  | _, _, _ => False

def Lacks : Rule → Node → String → Prop
  | .list, node, key | .extension, node, key => node.attr key = none
  | .restriction, node, key =>
    node.attr key = none ∨
      ∃ child ∈ node.children, child.tag = .enumeration ∧ child.attr key = none
  | .complexContent, node, key =>
    ∃ child ∈ node.children, child.tag = .extension ∧ child.attr key = none
  | _, _, _ => False

def Opens (catalogue : Catalogue) (rule : Rule) (node definition : Node) : Prop :=
  (definition ∈ node.children ∧ (definition.tag = .complexType ∨ definition.tag = .simpleType)) ∨
    ∃ text, rule.Cites node text ∧ catalogue.resolve text = .defined definition

end Rule

def Cause.At (catalogue : Catalogue) (rule : Rule) (node : Node) : Cause → Prop
  | .undefinedType text => rule.Cites node text ∧ catalogue.resolve text = .undefined
  | .unexpectedChild name | .nonElementInGroup name | .unhandledComplexChild name =>
    ∃ child ∈ node.elements, child.name = name
  | .missingAttribute key => rule.Lacks node key
  -- No rule knows which types are open.
  | .recursiveType _ => False

def Step.From (catalogue : Catalogue) (rule : Rule) (node : Node) : Step → Prop
  | .edit _ => True
  | .note cause => cause.At catalogue rule node
  | .refuse => (∃ grouped, rule = .elementDecl grouped) ∧ node.attr "name" = none
  | .visit visited child _ =>
    child ∈ node.children ∧ visited.Suits child ∧
      ((∃ grouped, visited = .elementDecl grouped) → ∃ sort, rule = .group sort)
  | .define visited definition _ =>
    rule.Opens catalogue node definition ∧ (visited = .complexType ∨ visited = .simpleType)

namespace Rule

variable {catalogue : Catalogue} {rule : Rule} {node child : Node}

theorem from_docSteps (remark : Node) :
    ∀ step ∈ docSteps remark, step.From catalogue rule node := by
  simp [docSteps, Step.From]

theorem from_role (role : Role) {text : String} (cited : rule.Cites node text) :
    ∀ step ∈ role.steps catalogue text, step.From catalogue rule node := by
  intro step member
  unfold Role.steps at member
  split at member
  · obtain ⟨edit, _, rfl⟩ := List.mem_map.mp member
    trivial
  · next found =>
    split at member
    · cases List.mem_singleton.mp member
      exact ⟨.inr ⟨text, cited, found⟩, .inl rfl⟩
    · obtain ⟨placement, _, rfl⟩ := List.mem_map.mp member
      exact ⟨.inr ⟨text, cited, found⟩, .inr rfl⟩
  · next missing =>
    cases List.mem_singleton.mp member
    exact ⟨cited, missing⟩

theorem from_flatMap {α : Type} {reads : α → List Step} {parts : List α}
    (good : ∀ part ∈ parts, ∀ step ∈ reads part, step.From catalogue rule node) :
    ∀ step ∈ parts.flatMap reads, step.From catalogue rule node := by
  intro step member
  obtain ⟨part, inside, member⟩ := List.mem_flatMap.mp member
  exact good part inside step member

theorem from_append {first rest : List Step}
    (good : ∀ step ∈ first, step.From catalogue rule node)
    (more : ∀ step ∈ rest, step.From catalogue rule node) :
    ∀ step ∈ first ++ rest, step.From catalogue rule node :=
  fun step member => (List.mem_append.mp member).elim (good step) (more step)

theorem from_singleton {first : Step} (good : first.From catalogue rule node) :
    ∀ step ∈ [first], step.From catalogue rule node :=
  List.forall_mem_singleton.mpr good

theorem from_visit {visited : Rule} {placement : Placement} (inside : child ∈ node.children)
    (suits : visited.Suits child) (other : ∀ grouped, visited ≠ .elementDecl grouped) :
    ∀ step ∈ [Step.visit visited child placement], step.From catalogue rule node :=
  from_singleton ⟨inside, suits, fun ⟨grouped, declared⟩ => absurd declared (other grouped)⟩

theorem from_elementPair (pair : String × String) :
    ∀ step ∈ elementPair pair, step.From catalogue rule node := by
  unfold elementPair
  split <;> simp [Step.From]

theorem from_elementChild (grouped : Bool) (inside : child ∈ node.children) :
    ∀ step ∈ elementChild grouped child, step.From catalogue rule node := by
  unfold elementChild
  split
  · exact from_docSteps child
  · simp
  · next tagged => exact from_singleton ⟨.inl ⟨inside, .inl tagged⟩, .inl rfl⟩
  · next tagged => exact from_singleton ⟨.inl ⟨inside, .inr tagged⟩, .inr rfl⟩
  · next tagged _ _ =>
    exact from_singleton ⟨child, Node.mem_elements_of_tag inside tagged, rfl⟩

theorem from_attributePair {pair : String × String} (inside : pair ∈ node.attributes) :
    ∀ step ∈ attributePair catalogue pair, step.From catalogue .attributeDecl node := by
  unfold attributePair
  split
  · simp
  · split
    · next typed => exact from_role _ (show ("type", pair.2) ∈ node.attributes from typed ▸ inside)
    · simp [Step.From]

theorem from_attributeChild (inside : child ∈ node.children) :
    ∀ step ∈ attributeChild child, step.From catalogue rule node := by
  unfold attributeChild
  split
  · exact from_docSteps child
  · next tagged => exact from_singleton ⟨.inl ⟨inside, .inr tagged⟩, .inr rfl⟩
  · simp
  · next tagged =>
    exact from_singleton ⟨child, Node.mem_elements_of_tag inside tagged, rfl⟩

theorem from_groupChild (sort : Group) (inside : child ∈ node.children) :
    ∀ step ∈ groupChild sort child, step.From catalogue (.group sort) node := by
  unfold groupChild
  split
  · simp
  · next seen =>
    split
    · next named => exact from_singleton ⟨inside, named, fun _ => ⟨sort, rfl⟩⟩
    · exact from_singleton ⟨child, List.mem_filter.mpr ⟨inside, by simpa using seen⟩, rfl⟩

theorem from_complexChild (inside : child ∈ node.children) :
    ∀ step ∈ complexChild child, step.From catalogue rule node := by
  unfold complexChild
  split
  · next tagged => exact from_visit inside tagged (by simp)
  · next tagged => exact from_visit inside tagged (by simp)
  · next tagged => exact from_visit inside tagged (by simp)
  · exact from_docSteps child
  · next tagged => exact from_visit inside tagged (by simp)
  · next tagged => exact from_visit inside tagged (by simp)
  · next tagged => exact from_visit inside tagged (by simp)
  · simp [Step.From]
  · simp
  · exact from_singleton ⟨child, Node.mem_elements_of_tag inside ‹_›, rfl⟩

theorem from_simpleChild (inside : child ∈ node.children) :
    ∀ step ∈ simpleChild child, step.From catalogue rule node := by
  unfold simpleChild
  split
  · next tagged => exact from_visit inside tagged (by simp)
  · next tagged => exact from_visit inside tagged (by simp)
  · exact from_docSteps child
  · simp
  · exact from_singleton ⟨child, Node.mem_elements_of_tag inside ‹_›, rfl⟩

theorem from_inlineItemSteps (untyped : node.attr "itemType" = none) :
    ∀ step ∈ inlineItemSteps node, step.From catalogue .list node := by
  unfold inlineItemSteps
  split
  · next found =>
    have inside := (List.mem_filter.mp (List.mem_of_find?_eq_some found)).1
    have tagged := List.find?_some found
    exact from_singleton ⟨.inl ⟨inside, .inr (by simpa using tagged)⟩, .inr rfl⟩
  · exact from_singleton untyped

theorem from_restrictionBase : (restrictionBase node).From catalogue .restriction node := by
  unfold restrictionBase
  split
  · trivial
  · next missing => exact .inl missing

theorem from_facetSteps (inside : child ∈ node.children) :
    ∀ step ∈ facetSteps child, step.From catalogue .restriction node := by
  unfold facetSteps
  split
  · simp
  · exact from_docSteps child
  · next tagged =>
    split
    · simp [Step.From]
    · next missing => exact from_singleton (.inr ⟨child, inside, tagged, missing⟩)
  · next tagged _ _ =>
    split
    · simp [Step.From]
    · exact from_singleton ⟨child, Node.mem_elements_of_tag inside tagged, rfl⟩

theorem from_simpleContentChild (inside : child ∈ node.children) :
    ∀ step ∈ simpleContentChild child, step.From catalogue rule node := by
  unfold simpleContentChild
  split
  · next tagged => exact from_visit inside tagged (by simp)
  · next tagged => exact from_visit inside tagged (by simp)
  · next tagged => exact from_visit inside tagged (by simp)
  · exact from_docSteps child
  · simp
  · exact from_singleton ⟨child, Node.mem_elements_of_tag inside ‹_›, rfl⟩

theorem from_extensionChild (inside : child ∈ node.children) :
    ∀ step ∈ extensionChild child, step.From catalogue rule node := by
  unfold extensionChild
  split
  · next tagged => exact from_visit inside tagged (by simp)
  · exact from_docSteps child
  · simp [Step.From]
  · simp
  · exact from_singleton ⟨child, Node.mem_elements_of_tag inside ‹_›, rfl⟩

theorem from_complexContentChild (inside : child ∈ node.children) :
    ∀ step ∈ complexContentChild catalogue child, step.From catalogue .complexContent node := by
  unfold complexContentChild
  split
  · next tagged =>
    refine from_append ?_ (from_visit inside trivial (by simp))
    split
    · next based =>
      exact from_role _ ⟨child, inside, tagged, Node.mem_attributes_of_attr based⟩
    · next missing => exact from_singleton ⟨child, inside, tagged, missing⟩
  · exact from_visit inside trivial (by simp)
  · exact from_docSteps child
  · simp
  · exact from_singleton ⟨child, Node.mem_elements_of_tag inside ‹_›, rfl⟩

theorem from_steps (rule : Rule) :
    ∀ step ∈ rule.steps catalogue node, step.From catalogue rule node := by
  cases rule with
  | elementDecl grouped =>
    simp only [steps]
    split
    · refine from_append (from_append (from_flatMap fun text typed => ?_)
        (from_flatMap fun pair _ => from_elementPair pair))
        (from_flatMap fun _ inside => from_elementChild grouped inside)
      exact from_role _ (Node.mem_attributes_of_attr (Option.mem_toList.mp typed))
    · next unnamed => exact from_singleton ⟨⟨grouped, rfl⟩, by simpa [Node.hasAttr] using unnamed⟩
  | attributeDecl =>
    exact from_append (from_flatMap fun _ inside => from_attributePair inside)
      (from_flatMap fun _ inside => from_attributeChild inside)
  | group sort =>
    exact List.forall_mem_cons.mpr
      ⟨trivial, from_flatMap fun _ inside => from_groupChild sort inside⟩
  | complexType => exact from_flatMap fun _ inside => from_complexChild inside
  | simpleType => exact from_flatMap fun _ inside => from_simpleChild inside
  | list =>
    simp only [steps]
    refine from_append ?_ (from_singleton trivial)
    split
    · next typed => exact from_role _ (Node.mem_attributes_of_attr typed)
    · next untyped => exact from_inlineItemSteps untyped
  | restriction =>
    exact List.forall_mem_cons.mpr
      ⟨from_restrictionBase, from_flatMap fun _ inside => from_facetSteps inside⟩
  | simpleContent => exact from_flatMap fun _ inside => from_simpleContentChild inside
  | extension =>
    simp only [steps]
    refine from_append ?_ (from_flatMap fun _ inside => from_extensionChild inside)
    split
    · next based => exact from_role _ (Node.mem_attributes_of_attr based)
    · next missing => exact from_singleton missing
  | complexContent => exact from_flatMap fun _ inside => from_complexContentChild inside

variable {visited : Rule} {definition : Node}

theorem suits_of_type (type : visited = .complexType ∨ visited = .simpleType) :
    visited.Suits node := by
  rcases type with rfl | rfl <;> trivial

theorem Opens.below_of_unnamed (opens : rule.Opens catalogue node definition)
    (unnamed : definition.attr "name" = none) : definition ∈ node.children := by
  rcases opens with ⟨below, _⟩ | ⟨text, _, found⟩
  · exact below
  · have named := Catalogue.attr_isSome_of_resolve found
    simp [unnamed] at named

end Rule

end SchemaForms
