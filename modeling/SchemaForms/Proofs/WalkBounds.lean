import SchemaForms.Proofs.WalkInvariant

set_option autoImplicit false

namespace SchemaForms

open StateTransition

namespace Document

theorem walk_ends_within_bounds (document : Document) (element : Node)
    (found : document.rootElement = .ok element) :
    (∃ last ∈ eval (Walk.next (.ofDocument document)) (document.walk element),
      document.compile = last.outcome document element) ∧
    ∀ walk, Reaches (Walk.next (.ofDocument document)) (document.walk element) walk →
      walk.opened.Nodup ∧
        walk.path.length ≤ ((Catalogue.ofDocument document).size + 1) * document.root.height := by
  constructor
  · have ended := document.walk_ends element
    exact ⟨_, ended, compile_eq_outcome found ended⟩
  · intro walk reached
    have sound := Walk.Sound.of_reaches found reached
    exact ⟨sound.nodup, sound.depth_le⟩

def nested : Document :=
  let member : Node := { name := "element", attributes := [("name", "child"), ("type", "Tree")] }
  ⟨{ name := "schema"
     children := [
       { name := "element", attributes := [("name", "node"), ("type", "Tree")] },
       { name := "complexType", attributes := [("name", "Tree")]
         children := [{ name := "sequence", children := [member] }] }] }⟩

theorem nested_walk_ends :
    (∃ last ∈ eval (Walk.next (.ofDocument nested))
        (nested.walk { name := "element", attributes := [("name", "node"), ("type", "Tree")] }),
      nested.compile = last.outcome nested
        { name := "element", attributes := [("name", "node"), ("type", "Tree")] }) ∧
    ∀ walk, Reaches (Walk.next (.ofDocument nested))
        (nested.walk { name := "element", attributes := [("name", "node"), ("type", "Tree")] })
        walk →
      walk.opened.Nodup ∧ walk.path.length ≤ 8 := by
  have types : (Catalogue.ofDocument nested).size = 1 := by
    rw [Catalogue.ofDocument, Node.descendants_eq_preorder]
    rfl
  have bounds := nested.walk_ends_within_bounds _ rfl
  rw [types] at bounds
  exact bounds

end Document

end SchemaForms
