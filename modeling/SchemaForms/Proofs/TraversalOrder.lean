import Mathlib
import SchemaForms.Bindings

set_option autoImplicit false

namespace SchemaForms

/-- The traversal yields these nodes, one step after the other, and then ends. -/
inductive Traversal.Yields : Traversal → List Node → Prop
  | ended {traversal : Traversal} (done : traversal.next? = none) : Yields traversal []
  | next {traversal later : Traversal} {node : Node} {nodes : List Node}
      (step : traversal.next? = some (node, later)) (rest : Yields later nodes) :
      Yields traversal (node :: nodes)

namespace Node

/-- The node at a place, which tells by their numbers what children to go down through. -/
def at? (node : Node) : List Nat → Option Node
  | [] => some node
  | index :: place => node.children[index]?.bind fun child => child.at? place

mutual

def placed : Node → List (List Nat × Node)
  | ⟨name, qualifier, attributes, children, text⟩ =>
    ([], ⟨name, qualifier, attributes, children, text⟩) :: placedFrom 0 children

def placedFrom : Nat → List Node → List (List Nat × Node)
  | _, [] => []
  | index, child :: rest =>
    (placed child).map (fun inner => (index :: inner.1, inner.2)) ++ placedFrom (index + 1) rest

end

def Locates (node : Node) (location : String) : Prop :=
  node.name = "bindings" ∧ node.attr "schemaLocation" = some location

def location? (node : Node) : Option String :=
  if node.name = "bindings" then node.attr "schemaLocation" else none

end Node

namespace Traversal

theorem yields_toList (traversal : Traversal) : traversal.Yields traversal.toList := by
  fun_induction toList traversal with
  | case1 => exact .ended rfl
  | case2 node rest ih => exact .next rfl ih

theorem Yields.eq_toList {traversal : Traversal} {nodes : List Node}
    (yields : traversal.Yields nodes) : nodes = traversal.toList := by
  induction yields with
  | @ended traversal done =>
    obtain ⟨pending⟩ := traversal
    cases pending with
    | nil => rw [toList]
    | cons => contradiction
  | @next traversal later node nodes step _ ih =>
    obtain ⟨pending⟩ := traversal
    cases pending with
    | nil => contradiction
    | cons =>
      cases step
      rw [toList, ih]

theorem yields_iff (traversal : Traversal) (nodes : List Node) :
    traversal.Yields nodes ↔ nodes = traversal.toList := by
  constructor
  · exact Yields.eq_toList
  · rintro rfl
    exact traversal.yields_toList

end Traversal

namespace Node

theorem placedFrom_eq_flatMap (index : Nat) (children : List Node) :
    placedFrom index children = (children.zipIdx index).flatMap fun child =>
      child.1.placed.map fun inner => (child.2 :: inner.1, inner.2) := by
  induction children generalizing index with
  | nil => simp [placedFrom]
  | cons child rest ih => simp [placedFrom, ih]

theorem placed_eq (node : Node) :
    node.placed = ([], node) :: node.children.zipIdx.flatMap fun child =>
      child.1.placed.map fun inner => (child.2 :: inner.1, inner.2) := by
  cases node
  simp only [placed, placedFrom_eq_flatMap]

theorem mem_placed_iff (node inner : Node) (place : List Nat) :
    (place, inner) ∈ node.placed ↔ node.at? place = some inner := by
  induction place generalizing node with
  | nil =>
    rw [placed_eq]
    simp [at?, eq_comm]
  | cons index place ih =>
    have below : (index :: place, inner) ∈ node.placed ↔
        ∃ child, node.children[index]? = some child ∧ (place, inner) ∈ child.placed := by
      rw [placed_eq]
      simp [List.mk_mem_zipIdx_iff_getElem?]
    rw [below, at?, Option.bind_eq_some_iff]
    simp only [ih]

theorem map_placed (node : Node) : node.placed.map Prod.snd = node.preorder := by
  have each : ∀ child ∈ node.children.zipIdx,
      child.1.placed.map Prod.snd = child.1.preorder := fun child member =>
    have := sizeOf_lt_of_mem_children (List.fst_mem_of_mem_zipIdx member)
    child.1.map_placed
  have below : node.children.zipIdx.flatMap (fun child => child.1.placed.map Prod.snd) =
      node.children.flatMap preorder := by
    calc node.children.zipIdx.flatMap (fun child => child.1.placed.map Prod.snd)
      _ = node.children.zipIdx.flatMap fun child => child.1.preorder := List.flatMap_congr each
      _ = (node.children.zipIdx.map Prod.fst).flatMap preorder := by rw [List.flatMap_map]
      _ = node.children.flatMap preorder := by rw [List.zipIdx_map_fst]
  rw [placed_eq, preorder_eq, List.map_cons, List.map_flatMap, ← below]
  simp only [List.map_map, Function.comp_def]
termination_by sizeOf node

theorem placed_ascends (node : Node) :
    node.placed.Pairwise fun first later => List.Lex (· < ·) first.1 later.1 := by
  rw [placed_eq, List.pairwise_cons, List.pairwise_flatMap]
  refine ⟨?_, ?_, ?_⟩
  · intro inner member
    obtain ⟨child, _, member⟩ := List.mem_flatMap.mp member
    obtain ⟨_, _, rfl⟩ := List.mem_map.mp member
    exact .nil
  · intro child member
    have := sizeOf_lt_of_mem_children (List.fst_mem_of_mem_zipIdx member)
    rw [List.pairwise_map]
    exact child.1.placed_ascends.imp .cons
  · have numbered : node.children.zipIdx.Pairwise fun child other => child.2 < other.2 :=
      List.pairwise_iff_getElem.mpr (by simp)
    refine numbered.imp fun before first inside later beside => ?_
    obtain ⟨_, _, rfl⟩ := List.mem_map.mp inside
    obtain ⟨_, _, rfl⟩ := List.mem_map.mp beside
    exact .rel before
termination_by sizeOf node

theorem textContent_eq_join (node : Node) :
    node.textContent = String.join (node.preorder.map fun inner => inner.text.getD "") := by
  have below : String.join ((node.children.flatMap preorder).map fun inner => inner.text.getD "") =
      String.join (node.children.map textContent) :=
    join_flatMap _ _ _ _ fun child member =>
      have := sizeOf_lt_of_mem_children member
      child.textContent_eq_join.symm
  rw [textContent_eq, textContents_eq_join, preorder_eq, List.map_cons, String.join_cons, below]
termination_by sizeOf node

theorem location?_eq_some_iff (node : Node) (location : String) :
    node.location? = some location ↔ node.Locates location := by
  by_cases named : node.name = "bindings" <;> simp [location?, named, Locates]

theorem location?_eq_none_iff (node : Node) :
    node.location? = none ↔ ∀ location, ¬ node.Locates location := by
  simp only [Option.eq_none_iff_forall_ne_some, ne_eq, location?_eq_some_iff]

end Node

theorem schemaLocation_eq {text : String} {document : Document}
    (read : Document.ofText text = .ok document) :
    schemaLocation text =
      (document.root.preorder.findSome? Node.location?).elim (.error .noLocation) .ok := by
  have search : (document.root.preorder.filter fun node => node.name = "bindings").findSome?
      (fun node => node.attr "schemaLocation") =
        document.root.preorder.findSome? Node.location? := by
    rw [← List.head?_filterMap, ← List.head?_filterMap, List.filterMap_filter]
    simp only [decide_eq_true_eq]
    rfl
  simp only [schemaLocation, read, Node.descendants_eq_preorder, search]
  cases document.root.preorder.findSome? Node.location? <;> rfl

section Location

variable {text : String} {document : Document} (read : Document.ofText text = .ok document)

include read

theorem schemaLocation_eq_ok_iff (location : String) :
    schemaLocation text = .ok location ↔
      ∃ before node after, document.root.preorder = before ++ node :: after ∧
        node.Locates location ∧ ∀ earlier ∈ before, ∀ other, ¬ earlier.Locates other := by
  have found : schemaLocation text = .ok location ↔
      document.root.preorder.findSome? Node.location? = some location := by
    rw [schemaLocation_eq read]
    cases document.root.preorder.findSome? Node.location? <;> simp
  simp only [found, List.findSome?_eq_some_iff, Node.location?_eq_some_iff,
    Node.location?_eq_none_iff]

theorem schemaLocation_eq_error_iff (error : BindingsError) :
    schemaLocation text = .error error ↔
      error = .noLocation ∧
        ∀ node ∈ document.root.preorder, ∀ location, ¬ node.Locates location := by
  have missed : schemaLocation text = .error error ↔
      error = .noLocation ∧ document.root.preorder.findSome? Node.location? = none := by
    rw [schemaLocation_eq read]
    cases document.root.preorder.findSome? Node.location? <;> simp [eq_comm]
  simp only [missed, List.findSome?_eq_none_iff, Node.location?_eq_none_iff]

end Location

theorem Node.visited_in_order :
    (∀ (stack : List Node) (node : Node),
      Traversal.next? ⟨(stack ++ [node]).reverse⟩ =
        some (node, ⟨(stack ++ node.children.reverse).reverse⟩)) ∧
    (∀ root : Node,
      (∀ nodes, Traversal.Yields ⟨[root]⟩ nodes ↔ nodes = root.preorder) ∧
      root.descendants = root.preorder ∧
      root.preorder = root :: root.children.flatMap preorder ∧
      (∃ placed : List (List Nat × Node), placed.map Prod.snd = root.preorder ∧
        (∀ place node, (place, node) ∈ placed ↔ root.at? place = some node) ∧
        placed.Pairwise fun first later => List.Lex (· < ·) first.1 later.1) ∧
      root.textContent = String.join (root.descendants.map fun node => node.text.getD "")) ∧
    ∀ text document, Document.ofText text = .ok document →
      (∀ location, schemaLocation text = .ok location ↔
        ∃ before node after, document.root.preorder = before ++ node :: after ∧
          node.Locates location ∧ ∀ earlier ∈ before, ∀ other, ¬ earlier.Locates other) ∧
      ∀ error, schemaLocation text = .error error ↔
        error = .noLocation ∧
          ∀ node ∈ document.root.preorder, ∀ location, ¬ node.Locates location := by
  refine ⟨fun stack node => ?_, fun root => ⟨fun nodes => ?_, ?_, ?_, ?_, ?_⟩,
    fun text document read => ?_⟩
  · simp [Traversal.next?]
  · rw [Traversal.yields_iff, ← descendants_eq_preorder, descendants]
  · exact root.descendants_eq_preorder
  · exact root.preorder_eq
  · exact ⟨root.placed, root.map_placed, fun place node => root.mem_placed_iff node place,
      root.placed_ascends⟩
  · rw [descendants_eq_preorder, textContent_eq_join]
  · exact ⟨schemaLocation_eq_ok_iff read, schemaLocation_eq_error_iff read⟩

namespace Imports

def text : String :=
  "<bindings><bindings><bindings schemaLocation='i.xsd'/></bindings>" ++
    "<bindings schemaLocation='o.xsd'/></bindings>"

def inner : Node := { name := "bindings", attributes := [("schemaLocation", "i.xsd")] }

def group : Node := { name := "bindings", children := [inner] }

def outer : Node := { name := "bindings", attributes := [("schemaLocation", "o.xsd")] }

def root : Node := { name := "bindings", children := [group, outer] }

theorem inner_location_found :
    Document.ofText text = .ok ⟨root⟩ ∧ schemaLocation text = .ok "i.xsd" := by
  have read : Document.ofText text = .ok ⟨root⟩ := by cbv
  obtain ⟨located, _⟩ := Node.visited_in_order.2.2 text ⟨root⟩ read
  have order : root.preorder = [root, group] ++ inner :: [outer] := rfl
  have free : ∀ node ∈ [root, group], ∀ location, ¬ node.Locates location := by
    simp [Node.Locates, root, group, Node.attr, Pairs.first?]
  exact ⟨read, (located _).mpr ⟨_, _, _, order, ⟨rfl, rfl⟩, free⟩⟩

end Imports

end SchemaForms
