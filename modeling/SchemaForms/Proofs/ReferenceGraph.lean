import Mathlib.Logic.Relation
import SchemaForms.Proofs.CatalogueIndex
import SchemaForms.Proofs.FillingParts

set_option autoImplicit false

namespace SchemaForms

open Relation

namespace Node

/-- A reference somewhere in the tree of `node` resolves to `definition`. -/
def Mentions (catalogue : Catalogue) (node definition : Node) : Prop :=
  ∃ inner ∈ node.preorder, ∃ pair ∈ inner.attributes,
    (pair.1 = "type" ∨ pair.1 = "base" ∨ pair.1 = "itemType") ∧
      catalogue.resolve pair.2 = .defined definition

def Involves (catalogue : Catalogue) (node inner : Node) : Prop :=
  ∃ last, ReflTransGen (Mentions catalogue) node last ∧ inner ∈ last.preorder

section Graph

variable {catalogue : Catalogue} {node inner below definition : Node}

theorem involves_self (catalogue : Catalogue) (node : Node) : node.Involves catalogue node :=
  ⟨node, .refl, node.mem_preorder_self⟩

theorem Involves.child (involves : node.Involves catalogue inner)
    (member : below ∈ inner.children) : node.Involves catalogue below := by
  obtain ⟨last, path, inside⟩ := involves
  exact ⟨last, path, mem_preorder_of_mem_children inside member⟩

theorem Involves.path (involves : node.Involves catalogue inner)
    (mentions : inner.Mentions catalogue definition) :
    TransGen (Mentions catalogue) node definition := by
  obtain ⟨last, path, inside⟩ := involves
  obtain ⟨source, within, reference⟩ := mentions
  exact .tail' path ⟨source, mem_preorder_trans inside within, reference⟩

theorem involves_of_path (path : TransGen (Mentions catalogue) node definition) :
    node.Involves catalogue definition :=
  ⟨definition, path.to_reflTransGen, definition.mem_preorder_self⟩

end Graph

end Node

namespace Rule

variable {catalogue : Catalogue} {rule visited : Rule} {node definition : Node}
  {placement : Placement} {text : String}

theorem Cites.mentions (cited : rule.Cites node text)
    (found : catalogue.resolve text = .defined definition) :
    node.Mentions catalogue definition := by
  cases rule with
  | elementDecl | attributeDecl =>
    exact ⟨node, node.mem_preorder_self, _, cited, .inl rfl, found⟩
  | list => exact ⟨node, node.mem_preorder_self, _, cited, .inr (.inr rfl), found⟩
  | extension => exact ⟨node, node.mem_preorder_self, _, cited, .inr (.inl rfl), found⟩
  | complexContent =>
    obtain ⟨child, below, _, cited⟩ := cited
    exact ⟨child, Node.mem_preorder_of_mem_children node.mem_preorder_self below, _, cited,
      .inr (.inl rfl), found⟩
  | group | complexType | simpleType | restriction | simpleContent => exact cited.elim

def readsInline : Rule → Bool
  | .elementDecl _ | .attributeDecl | .list => true
  | .group _ | .complexType | .simpleType | .restriction | .simpleContent | .extension
  | .complexContent => false

theorem resolve_of_define_role {role : Role}
    (member : .define visited definition placement ∈ role.steps catalogue text) :
    catalogue.resolve text = .defined definition := by
  unfold Role.steps at member
  split at member
  · simp at member
  · next found =>
    split at member
    · cases List.mem_singleton.mp member
      exact found
    · obtain ⟨_, _, made⟩ := List.mem_map.mp member
      cases made
      exact found
  · simp at member

theorem define_not_mem_groupChild (sort : Group) (child : Node) :
    .define visited definition placement ∉ groupChild sort child := by
  unfold groupChild
  split
  · simp
  · split <;> simp

theorem define_not_mem_complexChild (child : Node) :
    .define visited definition placement ∉ complexChild child := by
  unfold complexChild docSteps
  split <;> simp

theorem define_not_mem_simpleChild (child : Node) :
    .define visited definition placement ∉ simpleChild child := by
  unfold simpleChild docSteps
  split <;> simp

theorem define_not_mem_facetSteps (facet : Node) :
    .define visited definition placement ∉ facetSteps facet := by
  unfold facetSteps docSteps
  split
  · simp
  · simp
  · split <;> simp
  · split <;> simp

theorem define_not_mem_simpleContentChild (child : Node) :
    .define visited definition placement ∉ simpleContentChild child := by
  unfold simpleContentChild docSteps
  split <;> simp

theorem define_not_mem_extensionChild (child : Node) :
    .define visited definition placement ∉ extensionChild child := by
  unfold extensionChild docSteps
  split <;> simp

theorem cited_of_define_complexContentChild {child : Node} (below : child ∈ node.children)
    (member : .define visited definition placement ∈ complexContentChild catalogue child) :
    ∃ text, Cites .complexContent node text ∧ catalogue.resolve text = .defined definition := by
  unfold complexContentChild docSteps at member
  split at member
  · next tagged =>
    rcases List.mem_append.mp member with member | member
    · split at member
      · next based =>
        exact ⟨_, ⟨child, below, tagged, Node.mem_attributes_of_attr based⟩,
          resolve_of_define_role member⟩
      · simp at member
    · simp at member
  all_goals simp at member

theorem cited_of_define (reference : rule.readsInline = false)
    (member : .define visited definition placement ∈ rule.steps catalogue node) :
    ∃ text, rule.Cites node text ∧ catalogue.resolve text = .defined definition := by
  cases rule with
  | elementDecl | attributeDecl | list => contradiction
  | group sort =>
    rcases List.mem_cons.mp member with first | member
    · contradiction
    · obtain ⟨child, _, member⟩ := List.mem_flatMap.mp member
      exact absurd member (define_not_mem_groupChild sort child)
  | complexType =>
    obtain ⟨child, _, member⟩ := List.mem_flatMap.mp member
    exact absurd member (define_not_mem_complexChild child)
  | simpleType =>
    obtain ⟨child, _, member⟩ := List.mem_flatMap.mp member
    exact absurd member (define_not_mem_simpleChild child)
  | restriction =>
    rcases List.mem_cons.mp member with first | member
    · unfold restrictionBase at first
      split at first <;> contradiction
    · obtain ⟨facet, _, member⟩ := List.mem_flatMap.mp member
      exact absurd member (define_not_mem_facetSteps facet)
  | simpleContent =>
    obtain ⟨child, _, member⟩ := List.mem_flatMap.mp member
    exact absurd member (define_not_mem_simpleContentChild child)
  | extension =>
    rcases List.mem_append.mp member with member | member
    · split at member
      · next based =>
        exact ⟨_, Node.mem_attributes_of_attr based, resolve_of_define_role member⟩
      · simp at member
    · obtain ⟨child, _, member⟩ := List.mem_flatMap.mp member
      exact absurd member (define_not_mem_extensionChild child)
  | complexContent =>
    obtain ⟨child, below, member⟩ := List.mem_flatMap.mp member
    exact cited_of_define_complexContentChild below member

end Rule

/-- If this is an element, an attribute or a list, then no type in it has a name of its own. -/
def Node.TypesUnnamed (node : Node) : Prop :=
  (node.nameContains "element" = true ∨ node.tag = .attribute ∨ node.tag = .list) →
    ∀ child ∈ node.children, child.isType = true → child.attr "name" = none

theorem Rule.cited_of_named {catalogue : Catalogue} {rule visited : Rule} {node definition : Node}
    {placement : Placement} {name : String} (unnamed : node.TypesUnnamed) (suits : rule.Suits node)
    (member : .define visited definition placement ∈ rule.steps catalogue node)
    (named : definition.attr "name" = some name) :
    ∃ text, rule.Cites node text ∧ catalogue.resolve text = .defined definition := by
  rcases (from_steps rule _ member).1 with ⟨below, typed⟩ | cited
  · have nameless (holds : node.nameContains "element" = true ∨ node.tag = .attribute ∨
        node.tag = .list) : False := by
      have := unnamed holds definition below (by simpa [Node.isType] using typed)
      simp [named] at this
    cases rule with
    | elementDecl => exact (nameless (.inl suits)).elim
    | attributeDecl => exact (nameless (.inr (.inl suits))).elim
    | list => exact (nameless (.inr (.inr suits))).elim
    | group | complexType | simpleType | restriction | simpleContent | extension
    | complexContent => exact cited_of_define rfl member
  · exact cited

def Document.InlineTypesUnnamed (document : Document) : Prop :=
  ∀ node ∈ document.root.preorder, node.TypesUnnamed

/-- The catalogue's definition of this name is mentioned from `element` on, and lies on a cycle. -/
def Document.Circular (document : Document) (element : Node) (name : String) : Prop :=
  ∃ definition, (Catalogue.ofDocument document).get? name = some definition ∧
    TransGen (Node.Mentions (.ofDocument document)) element definition ∧
    TransGen (Node.Mentions (.ofDocument document)) definition definition

/-- Where a reading stands that began at `element`: every open type involves the node. -/
structure Scope (document : Document) (element : Node) (opened : List String) (node : Node) :
    Prop where
  inside : node ∈ document.root.preorder
  reached : element.Involves (.ofDocument document) node
  openers : ∀ name ∈ opened, ∃ definition,
    (Catalogue.ofDocument document).get? name = some definition ∧
      TransGen (Node.Mentions (.ofDocument document)) element definition ∧
      definition.Involves (.ofDocument document) node

namespace Scope

variable {document : Document} {element node below definition : Node} {opened : List String}
  {name text : String}

theorem initial (inside : element ∈ document.root.preorder) :
    Scope document element [] element :=
  ⟨inside, element.involves_self _, by simp⟩

theorem child (scope : Scope document element opened node) (member : below ∈ node.children) :
    Scope document element opened below := by
  refine ⟨Node.mem_preorder_of_mem_children scope.inside member, scope.reached.child member, ?_⟩
  intro name opens
  obtain ⟨definition, held, path, involves⟩ := scope.openers name opens
  exact ⟨definition, held, path, involves.child member⟩

theorem enter (scope : Scope document element opened node)
    (mentions : node.Mentions (.ofDocument document) definition)
    (inside : definition ∈ document.root.preorder)
    (held : (Catalogue.ofDocument document).get? name = some definition) :
    Scope document element (name :: opened) definition := by
  have path := scope.reached.path mentions
  refine ⟨inside, Node.involves_of_path path, ?_⟩
  intro other opens
  rcases List.mem_cons.mp opens with rfl | opens
  · exact ⟨definition, held, path, definition.involves_self _⟩
  · obtain ⟨opener, known, way, involves⟩ := scope.openers other opens
    exact ⟨opener, known, way, Node.involves_of_path (involves.path mentions)⟩

theorem circular (scope : Scope document element opened node)
    (mentions : node.Mentions (.ofDocument document) definition)
    (held : (Catalogue.ofDocument document).get? name = some definition)
    (opens : name ∈ opened) : document.Circular element name := by
  obtain ⟨opener, known, path, involves⟩ := scope.openers name opens
  have same : opener = definition := Option.some.inj (known.symm.trans held)
  subst same
  exact ⟨opener, held, path, involves.path mentions⟩

end Scope

namespace Rule

variable {document : Document} {element node definition : Node} {rule visited : Rule}
  {placement : Placement} {name : String}

theorem mentions_of_define (unnamed : document.InlineTypesUnnamed)
    (inside : node ∈ document.root.preorder) (suits : rule.Suits node)
    (member : .define visited definition placement ∈ rule.steps (.ofDocument document) node)
    (named : definition.attr "name" = some name) :
    node.Mentions (.ofDocument document) definition ∧ definition ∈ document.root.preorder ∧
      (Catalogue.ofDocument document).get? name = some definition := by
  obtain ⟨text, cited, found⟩ := cited_of_named (unnamed node inside) suits member named
  have held := Catalogue.get?_of_resolve found
  have same : (Reference.ofText text).target = name :=
    Option.some.inj ((Catalogue.attr_of_get? held).symm.trans named)
  rw [same] at held
  exact ⟨cited.mentions found, Catalogue.mem_preorder_of_resolve found, held⟩

theorem circular_of_recursion (unnamed : document.InlineTypesUnnamed) (opened : List String)
    (rule : Rule) (node : Node) (scope : Scope document element opened node)
    (suits : rule.Suits node) :
    ∀ note ∈ (rule.fill (.ofDocument document) opened node).notes, ∀ name,
      note.cause = .recursiveType name → document.Circular element name := by
  revert opened rule node
  refine @fill_induction (.ofDocument document) _ ?_
  intro opened rule node inner scope suits note noted name recursive
  obtain ⟨step, member, first, made, cause⟩ := mem_fill_notes noted
  rw [← cause] at recursive
  have origin := from_steps rule step member
  have inner := inner step member
  cases step with
  | edit | refuse => simp [Step.fill] at made
  | note other =>
    cases List.mem_singleton.mp made
    cases recursive
    exact origin.elim
  | visit visited child placement =>
    rw [Step.fill, Filling.place_notes] at made
    exact inner (scope.child origin.1) origin.2.1 first made name recursive
  | define visited definition placement =>
    have fits : visited.Suits definition := suits_of_type origin.2
    cases named : definition.attr "name" with
    | none =>
      simp only [Step.Inner, named] at inner
      simp only [Step.fill, named, Filling.place_notes] at made
      exact inner (scope.child (origin.1.below_of_unnamed named)) fits first made name recursive
    | some taken =>
      obtain ⟨mentions, inside, held⟩ :=
        mentions_of_define unnamed scope.inside suits member named
      simp only [Step.Inner, named] at inner
      simp only [Step.fill, named] at made
      split at made
      · next closed =>
        rw [Filling.place_notes] at made
        exact inner closed (scope.enter mentions inside held) fits first made name recursive
      -- The guard speaks of a name that is open, so the reference closes a cycle.
      · next opens =>
        cases List.mem_singleton.mp made
        cases recursive
        exact scope.circular mentions held (Decidable.not_not.mp opens)

end Rule

end SchemaForms
