import Mathlib.Data.List.Chain
import SchemaForms.Proofs.CompilationWalk

set_option autoImplicit false

namespace SchemaForms

namespace Node

def Refers (node : Node) (text : String) : Prop :=
  match node.tag with
  | .list => ("itemType", text) ∈ node.attributes
  | .extension => ("base", text) ∈ node.attributes
  | .complexContent =>
    ∃ child ∈ node.children, child.tag = .extension ∧ ("base", text) ∈ child.attributes
  | _ => ("type", text) ∈ node.attributes

def Opens (catalogue : Catalogue) (node definition : Node) : Prop :=
  (definition ∈ node.children ∧ definition.isType = true) ∨
    ∃ text, node.Refers text ∧ catalogue.resolve text = .defined definition

def Leads (catalogue : Catalogue) (node next : Node) : Prop :=
  next ∈ node.children ∨ ∃ text, node.Refers text ∧ catalogue.resolve text = .defined next

theorem Opens.leads {catalogue : Catalogue} {node definition : Node}
    (opens : node.Opens catalogue definition) : node.Leads catalogue definition :=
  opens.imp (·.1) id

end Node

namespace Rule

variable {catalogue : Catalogue} {rule : Rule} {node definition : Node}

theorem Cites.refers {text : String} (cited : rule.Cites node text) (suits : rule.Suits node) :
    node.Refers text := by
  unfold Node.Refers
  cases rule with
  -- An element declaration is told by its name, so it has none of the tags with other references.
  | elementDecl grouped =>
    have other {tag : Tag} (apart : Text.occursIn "element".toList tag.name.toList = false) :
        node.tag ≠ tag := by
      intro tagged
      rw [← Node.name_eq_of_tag tagged] at apart
      exact Bool.false_ne_true (apart.symm.trans suits)
    split
    · exact absurd ‹_› (other (by decide))
    · exact absurd ‹_› (other (by decide))
    · exact absurd ‹_› (other (by decide))
    · exact cited
  | attributeDecl =>
    rw [show node.tag = .attribute from suits]
    exact cited
  | list =>
    rw [show node.tag = .list from suits]
    exact cited
  | extension =>
    rw [show node.tag = .extension from suits]
    exact cited
  | complexContent =>
    rw [show node.tag = .complexContent from suits]
    exact cited
  | group | complexType | simpleType | restriction | simpleContent => exact cited.elim

theorem Opens.opens (opens : rule.Opens catalogue node definition) (suits : rule.Suits node) :
    node.Opens catalogue definition := by
  rcases opens with ⟨below, tagged⟩ | ⟨text, cited, found⟩
  · exact .inl ⟨below, by simpa [Node.isType] using tagged⟩
  · exact .inr ⟨text, cited.refers suits, found⟩

end Rule

/-- Some type on the trail, entered from the node before it, has this name. -/
def Trail.Opened (catalogue : Catalogue) (trail : Trail) (name : String) : Prop :=
  ∃ before opener definition after, trail = before ++ opener :: definition :: after ∧
    opener.Opens catalogue definition ∧ definition.attr "name" = some name

theorem Trail.Opened.append {catalogue : Catalogue} {trail : Trail} {name : String}
    (opened : trail.Opened catalogue name) (more : Trail) :
    Trail.Opened catalogue (trail ++ more) name := by
  obtain ⟨before, opener, definition, after, rfl, opens, named⟩ := opened
  exact ⟨before, opener, definition, after ++ more, by simp, opens, named⟩

/-- A way from the schema over the root element, each node leading to the next. -/
structure Trail.From (document : Document) (element : Node) (trail : Trail) : Prop where
  starts : ∃ rest, trail = document.root :: element :: rest
  linked : trail.IsChain (Node.Leads (.ofDocument document))

theorem Trail.From.append {document : Document} {element node next : Node} {above : Trail}
    (way : Trail.From document element (above ++ [node]))
    (leads : node.Leads (.ofDocument document) next) :
    Trail.From document element (above ++ [node] ++ [next]) := by
  obtain ⟨rest, starts⟩ := way.starts
  refine ⟨⟨rest ++ [next], by rw [starts]; rfl⟩, way.linked.append (.singleton next) ?_⟩
  simpa using leads

structure Position (document : Document) (element : Node) (above : Trail) (node : Node)
    (opened : List String) : Prop where
  way : Trail.From document element (above ++ [node])
  inside : node ∈ document.root.preorder
  openers : ∀ name ∈ opened, Trail.Opened (.ofDocument document) (above ++ [node]) name
  nodup : opened.Nodup
  known : ∀ name ∈ opened, name ∈ (Catalogue.ofDocument document).names
  -- Each open type has added at most the levels of the tree to the way.
  short : above.length + node.height ≤ (opened.length + 1) * document.root.height

namespace Position

variable {document : Document} {element node below definition : Node} {above : Trail}
  {opened : List String} {name : String}

theorem initial (found : document.rootElement = .ok element) :
    Position document element [document.root] element [] := by
  have below : element ∈ document.root.children :=
    List.mem_of_find?_eq_some ((document.rootElement_eq_ok_iff element).mp found).2
  refine ⟨⟨⟨[], rfl⟩, ?_⟩, ?_, by simp, .nil, by simp, ?_⟩
  · have leads : document.root.Leads (.ofDocument document) element := .inl below
    simpa using leads
  · exact Node.mem_preorder_of_mem_children document.root.mem_preorder_self below
  · have := Node.height_lt_of_mem_children below
    simp only [List.length_singleton, List.length_nil]
    omega

theorem child (position : Position document element above node opened)
    (inside : below ∈ node.children) :
    Position document element (above ++ [node]) below opened := by
  refine ⟨position.way.append (.inl inside),
    Node.mem_preorder_of_mem_children position.inside inside,
    fun name member => (position.openers name member).append [below],
    position.nodup, position.known, ?_⟩
  have := Node.height_lt_of_mem_children inside
  have := position.short
  simp only [List.length_append, List.length_singleton]
  omega

theorem inside_of_opens (position : Position document element above node opened)
    (opens : node.Opens (.ofDocument document) definition) :
    definition ∈ document.root.preorder := by
  rcases opens with ⟨below, _⟩ | ⟨text, _, found⟩
  · exact Node.mem_preorder_of_mem_children position.inside below
  · exact Catalogue.mem_preorder_of_resolve found

theorem known_of_opens (position : Position document element above node opened)
    (opens : node.Opens (.ofDocument document) definition)
    (named : definition.attr "name" = some name) :
    name ∈ (Catalogue.ofDocument document).names := by
  rcases opens with ⟨below, typed⟩ | ⟨text, _, found⟩
  · refine Catalogue.mem_names_ofDocument
      (Node.mem_preorder_of_mem_children position.inside below) ?_
    simp [Node.defines, named, Node.not_element_of_isType typed]
  · exact Catalogue.mem_names_of_resolve found named

theorem enter (position : Position document element above node opened)
    (opens : node.Opens (.ofDocument document) definition)
    (named : definition.attr "name" = some name) (closed : name ∉ opened) :
    Position document element (above ++ [node]) definition (name :: opened) := by
  have inside := position.inside_of_opens opens
  refine ⟨position.way.append opens.leads, inside, ?_,
    List.nodup_cons.mpr ⟨closed, position.nodup⟩, ?_, ?_⟩
  · intro other member
    rcases List.mem_cons.mp member with rfl | member
    · exact ⟨above, node, definition, [], by simp, opens, named⟩
    · exact (position.openers other member).append [definition]
  · intro other member
    rcases List.mem_cons.mp member with rfl | member
    · exact position.known_of_opens opens named
    · exact position.known other member
  -- Entering starts anew at a node of the tree, which the opened name pays for.
  · have levels := Node.height_le_of_mem_preorder inside
    have reading := position.short
    have := Node.height_eq node
    simp only [List.length_append, List.length_cons, List.length_nil]
    rw [Nat.add_mul _ 1, Nat.one_mul]
    omega

theorem opened_length_le (position : Position document element above node opened) :
    opened.length ≤ (Catalogue.ofDocument document).size :=
  calc opened.length
    _ ≤ (Catalogue.ofDocument document).names.length :=
      (List.subperm_of_subset position.nodup position.known).length_le
    _ ≤ (Catalogue.ofDocument document).size := List.length_filterMap_le _ _

theorem depth_le (position : Position document element above node opened) :
    (above ++ [node]).length ≤
      ((Catalogue.ofDocument document).size + 1) * document.root.height := by
  have reading := position.short
  have positive := Node.height_eq node
  have limit : (opened.length + 1) * document.root.height ≤
      ((Catalogue.ofDocument document).size + 1) * document.root.height :=
    Nat.mul_le_mul_right _ (Nat.succ_le_succ position.opened_length_le)
  simp only [List.length_append, List.length_singleton]
  omega

end Position

end SchemaForms
