import SchemaForms.Proofs.WalkInvariant

set_option autoImplicit false

namespace SchemaForms

open StateTransition

/-- What a cause says of `node` at the end of `trail`. -/
def Cause.Holds (catalogue : Catalogue) (trail : Trail) (node : Node) : Cause → Prop
  | .undefinedType text => node.Refers text ∧ catalogue.resolve text = .undefined
  | .unexpectedChild name | .nonElementInGroup name | .unhandledComplexChild name =>
    ∃ child ∈ node.elements, child.name = name
  | .missingAttribute key =>
    node.attr key = none ∨
      (node.tag = .restriction ∧
        ∃ child ∈ node.children, child.tag = .enumeration ∧ child.attr key = none) ∨
      (node.tag = .complexContent ∧
        ∃ child ∈ node.children, child.tag = .extension ∧ child.attr key = none)
  | .recursiveType name =>
    trail.Opened catalogue name ∧
      ∃ definition, node.Opens catalogue definition ∧ definition.attr "name" = some name

theorem Cause.At.holds {catalogue : Catalogue} {rule : Rule} {node : Node} {cause : Cause}
    (holds : cause.At catalogue rule node) (suits : rule.Suits node) (trail : Trail) :
    cause.Holds catalogue trail node := by
  cases cause with
  | undefinedType text => exact ⟨holds.1.refers suits, holds.2⟩
  | unexpectedChild | nonElementInGroup | unhandledComplexChild => exact holds
  | missingAttribute key =>
    cases rule with
    | list | extension => exact .inl holds
    | restriction => exact holds.imp_right fun facet => .inl ⟨suits, facet⟩
    | complexContent => exact .inr (.inr ⟨suits, holds⟩)
    | elementDecl | attributeDecl | group | complexType | simpleType | simpleContent =>
      exact holds.elim
  | recursiveType => exact holds.elim

theorem Note.Sound.holds {document : Document} {element : Node} {note : Note}
    (sound : note.Sound document element) :
    ∃ above node, note.trail = above ++ [node] ∧
      Trail.From document element (above ++ [node]) ∧
      note.cause.Holds (.ofDocument document) (above ++ [node]) node := by
  obtain ⟨above, node, opened, rule, ends, position, suits, holds⟩ := sound
  refine ⟨above, node, ends, position.way, ?_⟩
  rcases holds with holds | ⟨name, definition, recursive, member, opens, named⟩
  · exact holds.holds suits _
  · rw [recursive]
    exact ⟨position.openers name member, definition, opens, named⟩

namespace Document

theorem compile_reports_truth (document : Document) (element : Node)
    (found : document.rootElement = .ok element) :
    (∀ compilation, document.compile = .ok compilation →
      ∀ diagnostic ∈ compilation.diagnostics,
        ∃ above node, diagnostic.path = Trail.render (above ++ [node]) ∧
          Trail.From document element (above ++ [node]) ∧
          diagnostic.cause.Holds (.ofDocument document) (above ++ [node]) node) ∧
    ∀ error, document.compile = .error error →
      ∃ above node reason, error = .malformed (Trail.render (above ++ [node])) reason ∧
        Trail.From document element (above ++ [node]) := by
  have ended := document.walk_ends element
  have sound := Walk.Sound.of_reaches found (mem_eval.mp ended).1
  -- The outcome holds the notes of the last walk or the trail of its refusal.
  rw [compile_eq_outcome found ended]
  unfold Walk.outcome
  split
  · refine ⟨fun compilation compiled diagnostic member => ?_, fun error failed => ?_⟩
    · cases compiled
      obtain ⟨note, noted, rfl⟩ := List.mem_map.mp member
      obtain ⟨above, node, ends, way, holds⟩ := (sound.noted note noted).holds
      exact ⟨above, node, by rw [Note.diagnostic, ends], way, holds⟩
    · contradiction
  · next trail refused =>
    refine ⟨fun compilation compiled => by contradiction, fun error failed => ?_⟩
    cases failed
    obtain ⟨above, node, opened, ends, position, _⟩ := (sound.refused trail refused).2
    exact ⟨above, node, _, by rw [ends], position.way⟩

def selfExtending : Document :=
  ⟨{ name := "schema"
     children := [
       { name := "element", attributes := [("name", "cfg"), ("type", "Loop")] },
       { name := "complexType", attributes := [("name", "Loop")]
         children := [
           { name := "complexContent"
             children := [{ name := "extension", attributes := [("base", "Loop")] }] }] }] }⟩

theorem selfExtending_reports_truth :
    selfExtending.rootElement =
        .ok { name := "element", attributes := [("name", "cfg"), ("type", "Loop")] } ∧
      ∀ compilation, selfExtending.compile = .ok compilation →
        ∀ diagnostic ∈ compilation.diagnostics,
          ∃ above node, diagnostic.path = Trail.render (above ++ [node]) ∧
            Trail.From selfExtending
              { name := "element", attributes := [("name", "cfg"), ("type", "Loop")] }
              (above ++ [node]) ∧
            diagnostic.cause.Holds (.ofDocument selfExtending) (above ++ [node]) node :=
  ⟨rfl, (compile_reports_truth selfExtending _ rfl).1⟩

end Document

end SchemaForms
