import SchemaForms.Node

set_option autoImplicit false

namespace SchemaForms

namespace Node

mutual

def count : Node → Nat
  | ⟨_, _, _, children, _⟩ => 1 + counts children

def counts : List Node → Nat
  | [] => 0
  | child :: rest => count child + counts rest

end

theorem count_eq (node : Node) : node.count = 1 + counts node.children := by
  cases node
  simp only [count]

theorem counts_append (first rest : List Node) :
    counts (first ++ rest) = counts first + counts rest := by
  induction first with
  | nil => simp [counts]
  | cons node more ih => simp [counts, ih, Nat.add_assoc]

end Node

structure Traversal where
  pending : List Node

namespace Traversal

def next? (traversal : Traversal) : Option (Node × Traversal) :=
  match traversal.pending with
  | [] => none
  | node :: rest => some (node, ⟨node.children ++ rest⟩)

def toList (traversal : Traversal) : List Node :=
  match traversal with
  | ⟨[]⟩ => []
  | ⟨node :: rest⟩ => node :: toList ⟨node.children ++ rest⟩
termination_by Node.counts traversal.pending
decreasing_by
  simp only [Node.counts_append, Node.counts, Node.count_eq]
  omega

end Traversal

def Node.descendants (node : Node) : List Node := Traversal.toList ⟨[node]⟩

theorem Traversal.toList_eq_flatMap (traversal : Traversal) :
    traversal.toList = traversal.pending.flatMap Node.preorder := by
  -- Entering a tree replaces it by its children, so each tree comes out with its own preorder.
  fun_induction toList traversal with
  | case1 => rfl
  | case2 node rest ih => simp [ih, Node.preorder_eq node]

theorem Node.descendants_eq_preorder (node : Node) : node.descendants = node.preorder := by
  simp [descendants, Traversal.toList_eq_flatMap]

end SchemaForms
