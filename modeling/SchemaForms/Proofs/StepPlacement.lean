import SchemaForms.Proofs.FillingParts

set_option autoImplicit false

namespace SchemaForms

/-- The edits that leave the kind, the enumeration and the pairs of a field as they are. -/
def Edit.isContent : Edit → Bool
  | .items _ | .doc _ | .assertion _ => true
  | .kind _ | .enumeration _ | .extra _ _ => false

/-- The rules for what complex types are made of. -/
def Rule.isContent : Rule → Bool
  | .group _ | .complexType | .simpleContent | .extension | .complexContent => true
  | .elementDecl _ | .attributeDecl | .simpleType | .list | .restriction => false

def Rule.Hands (rule visited : Rule) : Placement → Prop
  | .direct | .listed => rule.isContent = true → visited.isContent = true
  | .whole => ∃ sort, visited = .group sort
  | .item _ => True

def Step.Hands (rule : Rule) : Step → Prop
  | .edit change => rule.isContent = true → change.isContent = true
  | .note _ | .refuse => True
  | .visit visited _ placement | .define visited _ placement => rule.Hands visited placement

namespace Rule

variable {catalogue : Catalogue} {rule : Rule} {node : Node}

theorem hands_role {role : Role} {text : String}
    (native : ∀ type, ∀ edit ∈ role.native type, (Step.edit edit).Hands rule)
    (complex : rule.Hands .complexType role.complex)
    (simple : ∀ placement ∈ role.simple, rule.Hands .simpleType placement) :
    ∀ step ∈ role.steps catalogue text, step.Hands rule := by
  unfold Role.steps
  split
  · next type _ =>
    intro step member
    obtain ⟨edit, made, rfl⟩ := List.mem_map.mp member
    exact native type edit made
  · split
    · exact List.forall_mem_singleton.mpr complex
    · intro step member
      obtain ⟨placement, given, rfl⟩ := List.mem_map.mp member
      exact simple placement (Option.mem_toList.mp given)
  · exact List.forall_mem_singleton.mpr trivial

theorem hands_typeRole (grouped : Bool) (text : String) (plain : rule.isContent = false) :
    ∀ step ∈ (typeRole grouped).steps catalogue text, step.Hands rule := by
  refine hands_role ?_ ?_ ?_
  · simp [typeRole, Step.Hands, plain]
  · simp [typeRole, Hands, plain]
  · cases grouped <;> simp [typeRole, simplePlacement, Hands, plain]

theorem hands_elementPair (grouped : Bool) (pair : String × String) :
    ∀ step ∈ elementPair pair, step.Hands (.elementDecl grouped) := by
  unfold elementPair
  split <;> simp [Step.Hands, isContent]

theorem hands_elementChild (grouped : Bool) (child : Node) :
    ∀ step ∈ elementChild grouped child, step.Hands (.elementDecl grouped) := by
  unfold elementChild docSteps simplePlacement
  split <;> cases grouped <;> simp [Step.Hands, Hands, isContent]

theorem hands_attributePair (pair : String × String) :
    ∀ step ∈ attributePair catalogue pair, step.Hands .attributeDecl := by
  unfold attributePair
  split
  · simp
  · split
    · exact hands_typeRole false pair.2 rfl
    · simp [Step.Hands, isContent]

theorem hands_attributeChild (child : Node) :
    ∀ step ∈ attributeChild child, step.Hands .attributeDecl := by
  unfold attributeChild docSteps
  split <;> simp [Step.Hands, Hands, isContent]

theorem hands_groupChild (sort : Group) (child : Node) :
    ∀ step ∈ groupChild sort child, step.Hands (.group sort) := by
  unfold groupChild
  split
  · simp
  · split <;> simp [Step.Hands, Hands]

theorem hands_complexChild (child : Node) :
    ∀ step ∈ complexChild child, step.Hands .complexType := by
  unfold complexChild docSteps
  split <;> simp [Step.Hands, Hands, isContent, Edit.isContent]

theorem hands_simpleChild (child : Node) :
    ∀ step ∈ simpleChild child, step.Hands .simpleType := by
  unfold simpleChild docSteps
  split <;> simp [Step.Hands, Hands, isContent]

theorem hands_listItem :
    ∀ step ∈ (match node.attr "itemType" with
      | some text => itemTypeRole.steps catalogue text
      | none => inlineItemSteps node), step.Hands .list := by
  split
  · exact hands_role (by simp [itemTypeRole, Step.Hands, isContent])
      (by simp [itemTypeRole, Hands, isContent]) (by simp [itemTypeRole, Hands])
  · unfold inlineItemSteps
    split <;> simp [Step.Hands, Hands]

theorem hands_facetSteps (facet : Node) :
    ∀ step ∈ facetSteps facet, step.Hands .restriction := by
  unfold facetSteps docSteps
  split
  · simp
  · simp [Step.Hands, isContent]
  · split <;> simp [Step.Hands, isContent]
  · split <;> simp [Step.Hands, isContent]

theorem hands_simpleContentChild (child : Node) :
    ∀ step ∈ simpleContentChild child, step.Hands .simpleContent := by
  unfold simpleContentChild docSteps
  split <;> simp [Step.Hands, Hands, isContent, Edit.isContent]

theorem hands_extensionBase :
    ∀ step ∈ (match node.attr "base" with
      | some text => baseRole.steps catalogue text
      | none => [.note (.missingAttribute "base")]), step.Hands .extension := by
  split
  · exact hands_role (by simp [baseRole, nativeItem, Step.Hands, Edit.isContent])
      (by simp [baseRole, Hands, isContent]) (by simp [baseRole, Hands])
  · simp [Step.Hands]

theorem hands_extensionChild (child : Node) :
    ∀ step ∈ extensionChild child, step.Hands .extension := by
  unfold extensionChild docSteps
  split <;> simp [Step.Hands, Hands, Edit.isContent]

theorem hands_complexContentChild (child : Node) :
    ∀ step ∈ complexContentChild catalogue child, step.Hands .complexContent := by
  unfold complexContentChild docSteps
  split
  · refine List.forall_mem_append.mpr ⟨?_, by simp [Step.Hands, Hands, isContent]⟩
    split
    · exact hands_role (by simp [ancestorRole]) (by simp [ancestorRole, Hands, isContent])
        (by simp [ancestorRole])
    · simp [Step.Hands]
  · simp [Step.Hands, Hands, isContent]
  · simp [Step.Hands, Edit.isContent]
  · simp
  · simp [Step.Hands]

theorem hands_steps (rule : Rule) : ∀ step ∈ rule.steps catalogue node, step.Hands rule := by
  cases rule with
  | elementDecl grouped =>
    simp only [steps]
    split
    · refine List.forall_mem_append.mpr ⟨List.forall_mem_append.mpr ⟨?_, ?_⟩, ?_⟩
      · exact List.forall_mem_flatMap.mpr fun text _ => hands_typeRole grouped text rfl
      · exact List.forall_mem_flatMap.mpr fun pair _ => hands_elementPair grouped pair
      · exact List.forall_mem_flatMap.mpr fun child _ => hands_elementChild grouped child
    · exact List.forall_mem_singleton.mpr trivial
  | attributeDecl =>
    exact List.forall_mem_append.mpr
      ⟨List.forall_mem_flatMap.mpr fun pair _ => hands_attributePair pair,
        List.forall_mem_flatMap.mpr fun child _ => hands_attributeChild child⟩
  | group sort =>
    exact List.forall_mem_cons.mpr
      ⟨fun _ => rfl, List.forall_mem_flatMap.mpr fun child _ => hands_groupChild sort child⟩
  | complexType => exact List.forall_mem_flatMap.mpr fun child _ => hands_complexChild child
  | simpleType => exact List.forall_mem_flatMap.mpr fun child _ => hands_simpleChild child
  | list =>
    exact List.forall_mem_append.mpr
      ⟨hands_listItem, List.forall_mem_singleton.mpr (by simp [Step.Hands, isContent])⟩
  | restriction =>
    refine List.forall_mem_cons.mpr
      ⟨?_, List.forall_mem_flatMap.mpr fun facet _ => hands_facetSteps facet⟩
    unfold restrictionBase
    split <;> simp [Step.Hands, isContent]
  | simpleContent =>
    exact List.forall_mem_flatMap.mpr fun child _ => hands_simpleContentChild child
  | extension =>
    exact List.forall_mem_append.mpr
      ⟨hands_extensionBase, List.forall_mem_flatMap.mpr fun child _ => hands_extensionChild child⟩
  | complexContent =>
    exact List.forall_mem_flatMap.mpr fun child _ => hands_complexContentChild child

end Rule

end SchemaForms
