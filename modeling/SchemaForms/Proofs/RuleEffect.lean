import SchemaForms.Rule.Origin

set_option autoImplicit false

namespace SchemaForms

namespace Rule

def grasp : Rule → Nat
  | .elementDecl grouped => if grouped then 0 else 2
  | .attributeDecl | .simpleType | .restriction => 2
  | .list => 1
  | .group _ | .complexType | .simpleContent | .extension | .complexContent => 0

inductive Places (rule : Rule) (node : Node) : Rule → Node → Placement → Prop
  | inner {visited : Rule} {child : Node} {placement : Placement}
      (weaker : visited.grasp ≤ rule.grasp)
      (keeps : ∀ field, placement ≠ .item field) : Places rule node visited child placement
  | value {visited : Rule} {child : Node}
      (simple : visited = .simpleType ∨ visited = .restriction) :
      Places rule node visited child (.item Field.textValue)
  | attr {child : Node} :
      Places rule node .attributeDecl child (.item child.attributeField)
  | member {sort : Group} {child : Node} (grouped : rule = .group sort)
      (below : child ∈ node.elements) (named : child.nameContains "element" = true) :
      Places rule node (.elementDecl (sort.blank child).isGrouped) child
        (.item (child.declare (sort.blank child)))

end Rule

def Edit.Suits (rule : Rule) (node : Node) : Edit → Prop
  | .items fields =>
    ∀ field ∈ fields, ∃ type, field = { Field.textValue with kind := some (.native type) }
  | .kind given => 1 ≤ rule.grasp ∧ given.isGrouped = false
  | .enumeration _ => 2 ≤ rule.grasp
  | .doc _ | .assertion _ => True
  | .extra key _ =>
    key ∈ ["maxOccurs", "use", "default", "sub-type"] ∨
      (∃ value, (key, value) ∈ node.attributes) ∨ ∃ child ∈ node.children, child.name = key

def Step.Suits (rule : Rule) (node : Node) : Step → Prop
  | .edit change => change.Suits rule node
  | .note _ | .refuse => True
  | .visit visited child placement | .define visited child placement =>
    rule.Places node visited child placement

theorem Kind.ofBase_not_grouped (name : String) : (Kind.ofBase name).isGrouped = false := by
  unfold Kind.ofBase
  split <;> rfl

namespace Rule

variable {catalogue : Catalogue} {rule : Rule} {node child : Node}

theorem suits_docSteps (remark : Node) : ∀ step ∈ docSteps remark, step.Suits rule node := by
  simp [docSteps, Step.Suits, Edit.Suits]

theorem suits_nativeItem (type : NativeType) : (nativeItem type).Suits rule node := by
  simp [nativeItem, Edit.Suits]

theorem suits_role {role : Role} {text : String}
    (native : ∀ type, ∀ edit ∈ role.native type, edit.Suits rule node)
    (complex : ∀ definition, rule.Places node .complexType definition role.complex)
    (simple : ∀ placement ∈ role.simple, ∀ definition,
      rule.Places node .simpleType definition placement) :
    ∀ step ∈ role.steps catalogue text, step.Suits rule node := by
  unfold Role.steps
  split
  · next type _ =>
    intro step member
    obtain ⟨edit, made, rfl⟩ := List.mem_map.mp member
    exact native type edit made
  · next definition _ =>
    split
    · exact List.forall_mem_singleton.mpr (complex definition)
    · intro step member
      obtain ⟨placement, given, rfl⟩ := List.mem_map.mp member
      exact simple placement (Option.mem_toList.mp given) definition
  · exact List.forall_mem_singleton.mpr trivial

theorem places_simplePlacement (grouped : Bool) (definition : Node) :
    Places (.elementDecl grouped) node .simpleType definition (simplePlacement grouped) := by
  cases grouped with
  | true => exact .value (.inl rfl)
  | false => exact .inner (by decide) (by simp [simplePlacement])

theorem suits_typeRole (grouped : Bool) (text : String) :
    ∀ step ∈ (typeRole grouped).steps catalogue text, step.Suits (.elementDecl grouped) node := by
  refine suits_role (fun type => List.forall_mem_singleton.mpr ?_)
    (fun _ => .inner (Nat.zero_le _) (by simp [typeRole])) ?_
  · cases grouped with
    | true => exact suits_nativeItem type
    | false => exact ⟨by decide, rfl⟩
  · intro placement given definition
    cases given
    exact places_simplePlacement grouped definition

theorem suits_elementPair (grouped : Bool) (pair : String × String) :
    ∀ step ∈ elementPair pair, step.Suits (.elementDecl grouped) node := by
  unfold elementPair
  split
  · next kept =>
    refine List.forall_mem_singleton.mpr (.inl ?_)
    rcases kept with key | key | key <;> simp [key]
  · simp

theorem suits_elementChild (grouped : Bool) (child : Node) :
    ∀ step ∈ elementChild grouped child, step.Suits (.elementDecl grouped) node := by
  unfold elementChild
  split
  · exact suits_docSteps child
  · simp
  · exact List.forall_mem_singleton.mpr (.inner (Nat.zero_le _) (by simp))
  · exact List.forall_mem_singleton.mpr (places_simplePlacement grouped child)
  · exact List.forall_mem_singleton.mpr trivial

theorem suits_attributePair {pair : String × String} (inside : pair ∈ node.attributes) :
    ∀ step ∈ attributePair catalogue pair, step.Suits .attributeDecl node := by
  unfold attributePair
  split
  · simp
  · split
    -- An attribute takes its type as an element does that no group has given a kind.
    · refine suits_role (fun type => List.forall_mem_singleton.mpr ⟨by decide, rfl⟩)
        (fun _ => .inner (Nat.zero_le _) (by simp [typeRole])) ?_
      intro placement given definition
      cases given
      exact .inner (by decide) (by simp [simplePlacement])
    · exact List.forall_mem_singleton.mpr (.inr (.inl ⟨pair.2, inside⟩))

theorem suits_attributeChild (child : Node) :
    ∀ step ∈ attributeChild child, step.Suits .attributeDecl node := by
  unfold attributeChild
  split
  · exact suits_docSteps child
  · exact List.forall_mem_singleton.mpr (.inner (by decide) (by simp))
  · simp
  · exact List.forall_mem_singleton.mpr trivial

theorem suits_groupChild (sort : Group) (below : child ∈ node.children) :
    ∀ step ∈ groupChild sort child, step.Suits (.group sort) node := by
  unfold groupChild
  split
  · simp
  · next seen =>
    have element : child ∈ node.elements := List.mem_filter.mpr ⟨below, by simpa using seen⟩
    split
    · next named => exact List.forall_mem_singleton.mpr (.member rfl element named)
    · exact List.forall_mem_singleton.mpr trivial

theorem suits_complexChild (child : Node) :
    ∀ step ∈ complexChild child, step.Suits .complexType node := by
  unfold complexChild
  split
  · exact List.forall_mem_singleton.mpr (.inner (Nat.zero_le _) (by simp))
  · exact List.forall_mem_singleton.mpr (.inner (Nat.zero_le _) (by simp))
  · exact List.forall_mem_singleton.mpr (.inner (Nat.zero_le _) (by simp))
  · exact suits_docSteps child
  · exact List.forall_mem_singleton.mpr .attr
  · exact List.forall_mem_singleton.mpr (.inner (Nat.zero_le _) (by simp))
  · exact List.forall_mem_singleton.mpr (.inner (Nat.zero_le _) (by simp))
  · exact List.forall_mem_singleton.mpr trivial
  · simp
  · exact List.forall_mem_singleton.mpr trivial

theorem suits_simpleChild (child : Node) :
    ∀ step ∈ simpleChild child, step.Suits .simpleType node := by
  unfold simpleChild
  split
  · exact List.forall_mem_singleton.mpr (.inner (by decide) (by simp))
  · exact List.forall_mem_singleton.mpr (.inner (by decide) (by simp))
  · exact suits_docSteps child
  · simp
  · exact List.forall_mem_singleton.mpr trivial

theorem suits_listItem :
    ∀ step ∈ (match node.attr "itemType" with
      | some text => itemTypeRole.steps catalogue text
      | none => inlineItemSteps node), step.Suits .list node := by
  split
  · refine suits_role (fun type => ?_) (fun _ => .inner (Nat.zero_le _) (by simp [itemTypeRole])) ?_
    · exact List.forall_mem_cons.mpr
        ⟨suits_nativeItem type, List.forall_mem_singleton.mpr (.inl (by simp))⟩
    · intro placement given definition
      cases given
      exact .value (.inl rfl)
  · unfold inlineItemSteps
    split
    · exact List.forall_mem_singleton.mpr (.value (.inl rfl))
    · exact List.forall_mem_singleton.mpr trivial

theorem suits_restrictionBase : (restrictionBase node).Suits .restriction node := by
  unfold restrictionBase
  split
  · exact ⟨by decide, Kind.ofBase_not_grouped _⟩
  · trivial

theorem suits_facetSteps (below : child ∈ node.children) :
    ∀ step ∈ facetSteps child, step.Suits .restriction node := by
  unfold facetSteps
  split
  · simp
  · exact suits_docSteps child
  · split
    · exact List.forall_mem_cons.mpr ⟨Nat.le_refl 2, List.forall_mem_singleton.mpr ⟨by decide, rfl⟩⟩
    · exact List.forall_mem_singleton.mpr trivial
  · split
    · exact List.forall_mem_singleton.mpr (.inr (.inr ⟨child, below, rfl⟩))
    · exact List.forall_mem_singleton.mpr trivial

theorem suits_simpleContentChild (child : Node) :
    ∀ step ∈ simpleContentChild child, step.Suits .simpleContent node := by
  unfold simpleContentChild
  split
  · exact List.forall_mem_singleton.mpr (.inner (Nat.zero_le _) (by simp))
  · exact List.forall_mem_singleton.mpr (.value (.inr rfl))
  · exact List.forall_mem_singleton.mpr .attr
  · exact suits_docSteps child
  · simp
  · exact List.forall_mem_singleton.mpr trivial

theorem suits_extensionBase :
    ∀ step ∈ (match node.attr "base" with
      | some text => baseRole.steps catalogue text
      | none => [.note (.missingAttribute "base")]), step.Suits .extension node := by
  split
  · refine suits_role (fun type => List.forall_mem_singleton.mpr (suits_nativeItem type))
      (fun _ => .inner (Nat.zero_le _) (by simp [baseRole])) ?_
    intro placement given definition
    cases given
    exact .value (.inl rfl)
  · exact List.forall_mem_singleton.mpr trivial

theorem suits_extensionChild (child : Node) :
    ∀ step ∈ extensionChild child, step.Suits .extension node := by
  unfold extensionChild
  split
  · exact List.forall_mem_singleton.mpr .attr
  · exact suits_docSteps child
  · exact List.forall_mem_singleton.mpr trivial
  · simp
  · exact List.forall_mem_singleton.mpr trivial

theorem suits_complexContentChild (child : Node) :
    ∀ step ∈ complexContentChild catalogue child, step.Suits .complexContent node := by
  have whole (visited : Rule) (weaker : visited.grasp = 0) (content : Node) :
      Step.Suits .complexContent node (.visit visited content .direct) :=
    .inner (by simp [weaker]) (by simp)
  unfold complexContentChild
  split
  · refine List.forall_mem_append.mpr ⟨?_, List.forall_mem_singleton.mpr (whole _ rfl child)⟩
    split
    · exact suits_role (by simp [ancestorRole])
        (fun _ => .inner (Nat.zero_le _) (by simp [ancestorRole])) (by simp [ancestorRole])
    · exact List.forall_mem_singleton.mpr trivial
  · exact List.forall_mem_singleton.mpr (whole _ rfl child)
  · exact suits_docSteps child
  · simp
  · exact List.forall_mem_singleton.mpr trivial

theorem suits_steps (rule : Rule) :
    ∀ step ∈ rule.steps catalogue node, step.Suits rule node := by
  cases rule with
  | elementDecl grouped =>
    simp only [steps]
    split
    · refine List.forall_mem_append.mpr ⟨List.forall_mem_append.mpr ⟨?_, ?_⟩, ?_⟩
      · exact List.forall_mem_flatMap.mpr fun text _ => suits_typeRole grouped text
      · exact List.forall_mem_flatMap.mpr fun pair _ => suits_elementPair grouped pair
      · exact List.forall_mem_flatMap.mpr fun child _ => suits_elementChild grouped child
    · exact List.forall_mem_singleton.mpr trivial
  | attributeDecl =>
    exact List.forall_mem_append.mpr
      ⟨List.forall_mem_flatMap.mpr fun _ inside => suits_attributePair inside,
        List.forall_mem_flatMap.mpr fun child _ => suits_attributeChild child⟩
  | group sort =>
    refine List.forall_mem_cons.mpr ⟨by simp [Step.Suits, Edit.Suits], ?_⟩
    exact List.forall_mem_flatMap.mpr fun _ below => suits_groupChild sort below
  | complexType => exact List.forall_mem_flatMap.mpr fun child _ => suits_complexChild child
  | simpleType => exact List.forall_mem_flatMap.mpr fun child _ => suits_simpleChild child
  | list =>
    exact List.forall_mem_append.mpr
      ⟨suits_listItem, List.forall_mem_singleton.mpr ⟨by decide, rfl⟩⟩
  | restriction =>
    exact List.forall_mem_cons.mpr
      ⟨suits_restrictionBase, List.forall_mem_flatMap.mpr fun _ below => suits_facetSteps below⟩
  | simpleContent =>
    exact List.forall_mem_flatMap.mpr fun child _ => suits_simpleContentChild child
  | extension =>
    exact List.forall_mem_append.mpr
      ⟨suits_extensionBase, List.forall_mem_flatMap.mpr fun child _ => suits_extensionChild child⟩
  | complexContent =>
    exact List.forall_mem_flatMap.mpr fun child _ => suits_complexContentChild child

end Rule

end SchemaForms
