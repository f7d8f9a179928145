import Mathlib.Data.List.Forall2
import SchemaForms.Node.OfXml

set_option autoImplicit false

namespace SchemaForms

inductive Outline
  | element (name : String) (attributes : Pairs) (children : List Outline)

structure Xml.Element where
  ancestors : List String
  name : String
  attributes : Pairs
  children : List Xml.Tree

namespace Xml.Tree

mutual

def outline : Tree → List Outline
  | .element _ name attributes children => [.element name attributes (outlines children)]
  | .text _ | .aside => []

def outlines : List Tree → List Outline
  | [] => []
  | tree :: rest => outline tree ++ outlines rest

end

mutual

def elements (ancestors : List String) : Tree → List Element
  | .element _ name attributes children =>
    ⟨ancestors, name, attributes, children⟩ :: elementsBelow (name :: ancestors) children
  | .text _ | .aside => []

def elementsBelow (ancestors : List String) : List Tree → List Element
  | [] => []
  | tree :: rest => elements ancestors tree ++ elementsBelow ancestors rest

end

mutual

def characterData : Tree → String
  | .element _ _ _ children => characterDataBelow children
  | .text data => data
  | .aside => ""

def characterDataBelow : List Tree → String
  | [] => ""
  | tree :: rest => characterData tree ++ characterDataBelow rest

end

def piece? : Tree → Option (Option String)
  | .element .. => some none
  | .text data => some (some data)
  | .aside => none

end Xml.Tree

namespace Xml.Element

def pieces (element : Element) : List (Option String) :=
  element.children.filterMap Tree.piece?

def KeepsTexts (element : Element) : Prop :=
  "documentation" ∈ element.ancestors ∨
    ∃ text, .text text ∈ element.children ∧ ∃ c ∈ text.toList, Text.isBlank c = false

/-- What `node` has of `element`. -/
structure ReadAs (element : Element) (node : Node) : Prop where
  name : node.name = element.name
  attributes : node.attributes = element.attributes
  kept : element.KeepsTexts → node.children.map Node.text = element.pieces
  dropped : ¬ element.KeepsTexts →
    node.children.map Node.text = element.pieces.filter Option.isNone
  texts : ∀ child ∈ node.children, ∀ text, child.text = some text → child = Node.ofText text
  documented : "documentation" ∈ element.ancestors →
    node.textContent = Tree.characterDataBelow element.children

end Xml.Element

mutual

def Node.outline : Node → List Outline
  | ⟨name, _, attributes, children, none⟩ => [.element name attributes (outlines children)]
  | ⟨_, _, _, _, some _⟩ => []

def Node.outlines : List Node → List Outline
  | [] => []
  | node :: rest => outline node ++ outlines rest

end

def Node.elementNodes (node : Node) : List Node :=
  node.preorder.filter fun inner => inner.text.isNone

structure Xml.Tree.KeptIn (tree : Tree) (root : Node) : Prop where
  outline : root.outline = tree.outline
  elements : List.Forall₂ Element.ReadAs (tree.elements []) root.elementNodes

namespace Xml.Tree

theorem induction {motive : Tree → Prop}
    (element : ∀ qualifier name attributes children, (∀ child ∈ children, motive child) →
      motive (.element qualifier name attributes children))
    (text : ∀ data, motive (.text data)) (aside : motive .aside) (tree : Tree) : motive tree := by
  cases tree with
  | element qualifier name attributes children =>
    apply element
    intro child member
    exact induction element text aside child
  | text data => exact text data
  | aside => exact aside
termination_by sizeOf tree
decreasing_by
  have := List.sizeOf_lt_of_mem member
  rw [Tree.element.sizeOf_spec]
  omega

theorem outlines_eq_flatMap (trees : List Tree) : outlines trees = trees.flatMap outline := by
  induction trees with
  | nil => simp [outlines]
  | cons tree rest ih => simp [outlines, ih]

theorem elementsBelow_eq_flatMap (ancestors : List String) (trees : List Tree) :
    elementsBelow ancestors trees = trees.flatMap (elements ancestors) := by
  induction trees with
  | nil => simp [elementsBelow]
  | cons tree rest ih => simp [elementsBelow, ih]

theorem characterDataBelow_eq_join (trees : List Tree) :
    characterDataBelow trees = String.join (trees.map characterData) := by
  induction trees with
  | nil => rfl
  | cons tree rest ih => simp [characterDataBelow, ih]

end Xml.Tree

namespace Node

theorem outlines_eq_flatMap (nodes : List Node) : outlines nodes = nodes.flatMap outline := by
  induction nodes with
  | nil => simp [outlines]
  | cons node rest ih => simp [outlines, ih]

@[simp]
theorem outline_ofText (text : String) : (ofText text).outline = [] := by
  simp [ofText, outline]

@[simp]
theorem elementNodes_ofText (text : String) : (ofText text).elementNodes = [] := by
  simp [elementNodes, preorder_eq, ofText]

@[simp]
theorem textContent_ofText (text : String) : (ofText text).textContent = text := by
  simp [textContent_eq, ofText, textContents]

def ofChild (documented keep : Bool) : Xml.Tree → List Node
  | .element qualifier name attributes children =>
    (ofTree documented (.element qualifier name attributes children)).toList
  | .text text => if keep then [ofText text] else []
  | .aside => []

theorem ofTrees_eq_flatMap (documented keep : Bool) (trees : List Xml.Tree) :
    ofTrees documented keep trees = trees.flatMap (ofChild documented keep) := by
  induction trees with
  | nil => simp [ofTrees]
  | cons tree rest ih => cases tree <;> cases keep <;> simp [ofTrees, ofTree, ofChild, ih]

def ofElement (documented : Bool) (qualifier : Option String) (name : String) (attributes : Pairs)
    (children : List Xml.Tree) : Node :=
  { name, qualifier, attributes
    children := children.flatMap (ofChild (documented || name = "documentation")
      (documented || children.any Xml.Tree.isContentful)) }

theorem ofTree_element (documented : Bool) (qualifier : Option String) (name : String)
    (attributes : Pairs) (children : List Xml.Tree) :
    ofTree documented (.element qualifier name attributes children) =
      some (ofElement documented qualifier name attributes children) := by
  simp [ofTree, ofTrees_eq_flatMap, ofElement]

@[simp]
theorem text_ofElement (documented : Bool) (qualifier : Option String) (name : String)
    (attributes : Pairs) (children : List Xml.Tree) :
    (ofElement documented qualifier name attributes children).text = none := rfl

theorem outline_of_element {node : Node} (element : node.text = none) :
    node.outline = [.element node.name node.attributes (node.children.flatMap outline)] := by
  obtain ⟨name, qualifier, attributes, children, text⟩ := node
  cases element
  rw [outline, outlines_eq_flatMap]

theorem elementNodes_of_element {node : Node} (element : node.text = none) :
    node.elementNodes = node :: node.children.flatMap elementNodes := by
  rw [elementNodes, preorder_eq, List.filter_cons_of_pos (by simp [element]), List.filter_flatMap]
  rfl

theorem outline_ofTree (documented : Bool) (tree : Xml.Tree) :
    (ofTree documented tree).toList.flatMap outline = tree.outline := by
  induction tree using Xml.Tree.induction generalizing documented with
  | text data | aside => simp [ofTree, Xml.Tree.outline]
  | element qualifier name attributes children ih =>
    have below (documented keep : Bool) :
        (children.flatMap (ofChild documented keep)).flatMap outline =
          children.flatMap Xml.Tree.outline := by
      rw [List.flatMap_assoc]
      apply List.flatMap_congr
      intro child member
      cases child with
      | element => exact ih _ member documented
      | text data => cases keep <;> simp [ofChild, Xml.Tree.outline]
      | aside => simp [ofChild, Xml.Tree.outline]
    rw [ofTree_element, Xml.Tree.outline, Xml.Tree.outlines_eq_flatMap]
    simp [outline_of_element, ofElement, below]

theorem textContent_ofTree (tree : Xml.Tree) :
    String.join ((ofChild true true tree).map textContent) = tree.characterData := by
  induction tree using Xml.Tree.induction with
  | text data => simp [ofChild, Xml.Tree.characterData]
  | aside => rfl
  | element qualifier name attributes children ih =>
    have below : String.join ((children.flatMap (ofChild true true)).map textContent) =
        String.join (children.map Xml.Tree.characterData) :=
      join_flatMap children _ _ _ ih
    simp [ofChild, ofTree_element, ofElement, textContent_eq, textContents_eq_join, below,
      Xml.Tree.characterData, Xml.Tree.characterDataBelow_eq_join]

section Children

variable (documented keep : Bool) (children : List Xml.Tree)

theorem map_text_children :
    (children.flatMap (ofChild documented keep)).map text =
      if keep then children.filterMap Xml.Tree.piece?
      else (children.filterMap Xml.Tree.piece?).filter Option.isNone := by
  induction children with
  | nil => cases keep <;> rfl
  | cons child rest ih =>
    rw [List.flatMap_cons, List.map_append, ih]
    cases child <;> cases keep <;>
      simp [ofChild, ofTree_element, Xml.Tree.piece?, ofText, List.filterMap_cons]

theorem text_children {child : Node} {text : String}
    (member : child ∈ children.flatMap (ofChild documented keep))
    (texts : child.text = some text) : child = ofText text := by
  obtain ⟨tree, _, made⟩ := List.mem_flatMap.mp member
  cases tree with
  | element qualifier name attributes below =>
    rw [ofChild, ofTree_element] at made
    rw [List.mem_singleton.mp made, text_ofElement] at texts
    contradiction
  | text data =>
    cases keep with
    | false => contradiction
    | true =>
      rw [List.mem_singleton.mp made] at texts ⊢
      rw [show data = text from Option.some.inj texts]
  | aside => contradiction

end Children

end Node

namespace Xml.Element

theorem keepsTexts_iff (element : Element) :
    (decide ("documentation" ∈ element.ancestors) ||
      element.children.any Tree.isContentful) = true ↔ element.KeepsTexts := by
  have blank (data : String) :
      Tree.isContentful (.text data) = true ↔ ∃ c ∈ data.toList, Text.isBlank c = false := by
    simp [Tree.isContentful, isBlankText]
  rw [Bool.or_eq_true, decide_eq_true_eq, List.any_eq_true, KeepsTexts]
  refine or_congr_right ⟨?_, ?_⟩
  · rintro ⟨child, member, contentful⟩
    cases child with
    | text data => exact ⟨data, member, (blank data).mp contentful⟩
    | element | aside => contradiction
  · rintro ⟨data, member, visible⟩
    exact ⟨.text data, member, (blank data).mpr visible⟩

theorem readAs_ofElement (element : Element) (qualifier : Option String) :
    element.ReadAs (Node.ofElement (decide ("documentation" ∈ element.ancestors)) qualifier
      element.name element.attributes element.children) where
  name := rfl
  attributes := rfl
  kept keeps := by
    rw [Node.ofElement, Node.map_text_children, (keepsTexts_iff element).mpr keeps, if_pos rfl,
      pieces]
  dropped drops := by
    have keep := Bool.eq_false_iff.mpr fun keep => drops ((keepsTexts_iff element).mp keep)
    rw [Node.ofElement, Node.map_text_children, keep, if_neg Bool.false_ne_true, pieces]
  texts child member text given := Node.text_children _ _ _ member given
  documented inside := by
    have children := Node.join_flatMap element.children (Node.ofChild true true) _ _
      fun child _ => Node.textContent_ofTree child
    simp [Node.ofElement, Node.textContent_eq, Node.textContents_eq_join, inside, children,
      Tree.characterDataBelow_eq_join]

theorem readAs_ofTree (ancestors : List String) (tree : Tree) :
    List.Forall₂ ReadAs (tree.elements ancestors)
      ((Node.ofTree (decide ("documentation" ∈ ancestors)) tree).toList.flatMap
        Node.elementNodes) := by
  induction tree using Tree.induction generalizing ancestors with
  | text data | aside => simp [Node.ofTree, Tree.elements]
  | element qualifier name attributes children ih =>
    have below (keep : Bool) : List.Forall₂ ReadAs
        (children.flatMap (Tree.elements (name :: ancestors)))
        ((children.flatMap (Node.ofChild
          (decide ("documentation" ∈ name :: ancestors)) keep)).flatMap Node.elementNodes) := by
      rw [List.flatMap_assoc]
      have paired : List.Forall₂ (fun child other => child ∈ children ∧ child = other)
          children children :=
        List.forall₂_same.mpr fun child member => ⟨member, rfl⟩
      refine List.rel_flatMap paired ?_
      rintro child other ⟨member, rfl⟩
      cases child with
      | element => exact ih _ member (name :: ancestors)
      | text data => cases keep <;> simp [Node.ofChild, Tree.elements]
      | aside => simp [Node.ofChild, Tree.elements]
    have nested : (decide ("documentation" ∈ ancestors) || decide (name = "documentation")) =
        decide ("documentation" ∈ name :: ancestors) := by
      rw [Bool.eq_iff_iff]
      simp [or_comm, eq_comm (a := name)]
    rw [Node.ofTree_element, Tree.elements, Tree.elementsBelow_eq_flatMap, Option.toList_some,
      List.flatMap_singleton, Node.elementNodes_of_element rfl]
    refine .cons (readAs_ofElement ⟨ancestors, name, attributes, children⟩ qualifier) ?_
    rw [Node.ofElement, nested]
    exact below _

end Xml.Element

namespace Xml.Tree

theorem keptIn_of_ofTree {tree : Tree} {root : Node} (read : Node.ofTree false tree = some root) :
    tree.KeptIn root where
  outline := by simpa [read] using Node.outline_ofTree false tree
  elements := by simpa [read] using Element.readAs_ofTree [] tree

theorem exists_ofTree {tree : Tree} (element : tree.isElement = true) :
    ∃ root, Node.ofTree false tree = some root := by
  cases tree with
  | element => exact ⟨_, Node.ofTree_element _ _ _ _ _⟩
  | text | aside => contradiction

theorem exists_of_bind_ok {α β : Type} {first : Except Fault α} {next : α → Except Fault β}
    {b : β} (done : first >>= next = .ok b) : ∃ a, first = .ok a ∧ next a = .ok b := by
  cases first with
  | error fault => contradiction
  | ok a => exact ⟨a, rfl, done⟩

theorem isElement_of_ofText {text : String} {tree : Tree} (read : ofText text = .ok tree) :
    tree.isElement = true := by
  obtain ⟨_, _, read⟩ := exists_of_bind_ok read
  obtain ⟨_, _, read⟩ := exists_of_bind_ok read
  obtain ⟨_, _, read⟩ := exists_of_bind_ok read
  obtain ⟨outermost, _, read⟩ := exists_of_bind_ok read
  cases found : outermost.find? isElement with
  | none =>
    rw [found] at read
    contradiction
  | some root =>
    rw [found] at read
    cases read
    exact List.find?_some found

end Xml.Tree

theorem Document.reading_keeps_content :
    (∀ tree : Xml.Tree, tree.isElement = true →
      ∃ root, Node.ofTree false tree = some root ∧ tree.KeptIn root) ∧
    ∀ text tree, Xml.Tree.ofText text = .ok tree →
      ∃ root, Document.ofText text = .ok ⟨root⟩ ∧ Node.ofTree false tree = some root ∧
        tree.KeptIn root := by
  have kept (tree : Xml.Tree) (element : tree.isElement = true) :
      ∃ root, Node.ofTree false tree = some root ∧ tree.KeptIn root := by
    obtain ⟨root, read⟩ := Xml.Tree.exists_ofTree element
    exact ⟨root, read, Xml.Tree.keptIn_of_ofTree read⟩
  refine ⟨kept, fun text tree delivered => ?_⟩
  obtain ⟨root, read, held⟩ := kept tree (Xml.Tree.isElement_of_ofText delivered)
  exact ⟨root, by simp [Document.ofText, delivered, read], read, held⟩

example :
    Node.ofTree false (.element none "p" []
      [.text " ", .element none "b" [] [.text " "], .aside, .text "x"]) =
      some { name := "p", children := [Node.ofText " ", { name := "b" }, Node.ofText "x"] } := rfl

end SchemaForms
