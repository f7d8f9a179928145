import SchemaForms.Pairs
import SchemaForms.Tag
import SchemaForms.Text.Search

set_option autoImplicit false

namespace SchemaForms

structure Node where
  name : String
  qualifier : Option String := none
  attributes : Pairs := []
  children : List Node := []
  text : Option String := none
deriving BEq, Repr, Inhabited

namespace Node

def ofTagName (tagName : String) : Node :=
  let (qualifier, name) := splitQualified tagName
  { name, qualifier }

def ofText (text : String) : Node :=
  { name := textName, text := some text }

def tag (node : Node) : Tag := Tag.ofName node.name

def isText (node : Node) : Bool := node.name = textName

def elements (node : Node) : List Node :=
  node.children.filter fun child => !child.isText

def attr (node : Node) (key : String) : Option String := node.attributes.first? key

def hasAttr (node : Node) (key : String) : Bool := (node.attr key).isSome

def qualifiedName (node : Node) : String :=
  match node.qualifier with
  | some qualifier => qualifier ++ ":" ++ node.name
  | none => node.name

def label (node : Node) : String :=
  "<" ++ node.qualifiedName ++
    (match node.attr "name" with
    | some name => " name=\"" ++ name ++ "\""
    | none => "") ++ ">"

def nameContains (node : Node) (word : String) : Bool :=
  Text.occursIn word.toList node.name.toList

mutual

def textContent : Node → String
  | ⟨_, _, _, children, text⟩ => text.getD "" ++ textContents children

def textContents : List Node → String
  | [] => ""
  | child :: rest => textContent child ++ textContents rest

end

mutual

def preorder : Node → List Node
  | ⟨name, qualifier, attributes, children, text⟩ =>
    ⟨name, qualifier, attributes, children, text⟩ :: preorders children

def preorders : List Node → List Node
  | [] => []
  | child :: rest => preorder child ++ preorders rest

end

mutual

def height : Node → Nat
  | ⟨_, _, _, children, _⟩ => 1 + heights children

def heights : List Node → Nat
  | [] => 0
  | child :: rest => max (height child) (heights rest)

end

theorem sizeOf_lt_of_mem_children {child node : Node} (member : child ∈ node.children) :
    sizeOf child < sizeOf node := by
  have smaller := List.sizeOf_lt_of_mem member
  cases node
  simp only [Node.mk.sizeOf_spec]
  simp only at smaller
  omega

theorem name_eq_of_tag {node : Node} {tag : Tag} (tagged : node.tag = tag) :
    node.name = tag.name := by
  rw [← tagged, Node.tag, Tag.name_ofName]

theorem isText_iff {node : Node} : node.isText = true ↔ node.tag = .text := by
  constructor
  · intro text
    have named : node.name = textName := by simpa [isText] using text
    rw [tag, named]
    rfl
  · intro tagged
    simp [isText, name_eq_of_tag tagged, Tag.name]

theorem textContent_eq (node : Node) :
    node.textContent = node.text.getD "" ++ textContents node.children := by
  cases node
  simp only [textContent]

theorem textContents_eq_join (children : List Node) :
    textContents children = String.join (children.map textContent) := by
  induction children with
  | nil => rfl
  | cons child rest ih => simp [textContents, ih]

theorem join_flatMap {α : Type} (parts : List α) (nodes : α → List Node) (text : Node → String)
    (spoken : α → String)
    (each : ∀ part ∈ parts, String.join ((nodes part).map text) = spoken part) :
    String.join ((parts.flatMap nodes).map text) = String.join (parts.map spoken) := by
  induction parts with
  | nil => rfl
  | cons part rest ih =>
    obtain ⟨here, later⟩ := List.forall_mem_cons.mp each
    simp [here, ih later]

theorem preorders_eq_flatMap (children : List Node) :
    preorders children = children.flatMap preorder := by
  induction children with
  | nil => simp [preorders]
  | cons child rest ih => simp [preorders, ih]

theorem preorder_eq (node : Node) : node.preorder = node :: node.children.flatMap preorder := by
  cases node
  simp only [preorder, preorders_eq_flatMap]

theorem mem_preorder_self (node : Node) : node ∈ node.preorder := by
  rw [preorder_eq]
  exact List.mem_cons_self

theorem mem_preorder_of_mem_children {root node child : Node} (inside : node ∈ root.preorder)
    (below : child ∈ node.children) : child ∈ root.preorder := by
  rw [preorder_eq] at inside ⊢
  refine List.mem_cons_of_mem _ (List.mem_flatMap.mpr ?_)
  rcases List.mem_cons.mp inside with rfl | inside
  · exact ⟨child, below, child.mem_preorder_self⟩
  · obtain ⟨top, member, inside⟩ := List.mem_flatMap.mp inside
    have := sizeOf_lt_of_mem_children member
    exact ⟨top, member, mem_preorder_of_mem_children inside below⟩
termination_by sizeOf root

theorem mem_preorder_trans {root node inner : Node} (inside : node ∈ root.preorder)
    (below : inner ∈ node.preorder) : inner ∈ root.preorder := by
  rw [preorder_eq] at below
  rcases List.mem_cons.mp below with rfl | below
  · exact inside
  · obtain ⟨top, member, below⟩ := List.mem_flatMap.mp below
    have := sizeOf_lt_of_mem_children member
    exact mem_preorder_trans (mem_preorder_of_mem_children inside member) below
termination_by sizeOf node

theorem height_eq (node : Node) : node.height = 1 + heights node.children := by
  cases node
  simp only [height]

theorem height_lt_of_mem_children {child node : Node} (member : child ∈ node.children) :
    child.height < node.height := by
  have tallest (children : List Node) (member : child ∈ children) :
      child.height ≤ heights children := by
    induction children with
    | nil => contradiction
    | cons other rest ih =>
      simp only [heights]
      rcases List.mem_cons.mp member with rfl | member
      · omega
      · have := ih member
        omega
  have := tallest node.children member
  rw [height_eq node]
  omega

theorem height_le_of_mem_preorder {root node : Node} (inside : node ∈ root.preorder) :
    node.height ≤ root.height := by
  rw [preorder_eq] at inside
  rcases List.mem_cons.mp inside with rfl | inside
  · exact Nat.le_refl _
  · obtain ⟨top, member, inside⟩ := List.mem_flatMap.mp inside
    have := sizeOf_lt_of_mem_children member
    have shorter := height_le_of_mem_preorder inside
    have := height_lt_of_mem_children member
    omega
termination_by sizeOf root

end Node

end SchemaForms
