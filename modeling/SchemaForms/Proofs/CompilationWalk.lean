import SchemaForms.Compilation
import SchemaForms.Proofs.CatalogueIndex
import SchemaForms.Proofs.Walk

set_option autoImplicit false

namespace SchemaForms

open StateTransition

def Note.diagnostic (note : Note) : Diagnostic := ⟨note.trail.render, note.cause⟩

def Document.walk (document : Document) (element : Node) : Walk :=
  { path := [document.root], tasks := [.read (.elementDecl false) element] }

def Walk.outcome (document : Document) (element : Node) (walk : Walk) :
    Except SchemaError Compilation :=
  match walk.failure with
  | none =>
    .ok {
      field := (element.declare {}).applyAll walk.edits
      targetNamespace := document.targetNamespace
      diagnostics := walk.notes.map Note.diagnostic }
  | some path =>
    .error (.malformed path.render "element declaration has no name attribute")

def Filling.outcome (document : Document) (element : Node) (filling : Filling) :
    Except SchemaError Compilation :=
  match filling.failure with
  | none =>
    .ok {
      field := (element.declare {}).applyAll filling.edits
      targetNamespace := document.targetNamespace
      diagnostics := filling.notes.map fun note =>
        ⟨Trail.render (document.root :: note.trail), note.cause⟩ }
  | some trail =>
    .error (.malformed (Trail.render (document.root :: trail))
      "element declaration has no name attribute")

theorem Trail.render_eq_of_segments {first second : Trail}
    (alike : first.map Node.segment = second.map Node.segment) :
    first.render = second.render := by
  cases first with
  | nil =>
    have empty : second = [] := by simpa using alike.symm
    rw [empty]
  | cons node rest =>
    cases second with
    | nil => simp at alike
    | cons other more =>
      have slashed := congrArg (List.map fun segment => "/" ++ segment) alike
      simp only [List.map_map] at slashed
      exact congrArg String.join slashed

namespace Document

variable {document : Document} {element : Node} {walk last : Walk}

theorem mem_preorder_of_rootElement (found : document.rootElement = .ok element) :
    element ∈ document.root.preorder := by
  have below : element ∈ document.root.children :=
    List.mem_of_find?_eq_some ((document.rootElement_eq_ok_iff element).mp found).2
  exact Node.mem_preorder_of_mem_children document.root.mem_preorder_self below

theorem nameContains_of_rootElement (found : document.rootElement = .ok element) :
    element.nameContains "element" = true := by
  have tagged : element.tag = .element := by
    simpa using List.find?_some ((document.rootElement_eq_ok_iff element).mp found).2
  rw [Node.nameContains, Node.name_eq_of_tag tagged]
  decide

theorem rootElement_rel {first second : Document} {related : Node → Node → Prop}
    (named : first.root.name = second.root.name)
    (declared : Option.Rel related (first.root.children.find? fun child => child.tag = .element)
      (second.root.children.find? fun child => child.tag = .element)) :
    (∃ error, first.rootElement = .error error ∧ second.rootElement = .error error) ∨
    ∃ element other, first.rootElement = .ok element ∧ second.rootElement = .ok other ∧
      related element other := by
  unfold rootElement
  rw [← named]
  split
  · generalize first.root.children.find? _ = found at declared ⊢
    generalize second.root.children.find? _ = other at declared ⊢
    cases declared with
    | none => exact .inl ⟨_, rfl, rfl⟩
    | some alike => exact .inr ⟨_, _, rfl, rfl, alike⟩
  · exact .inl ⟨_, rfl, rfl⟩

theorem walk_ends (document : Document) (element : Node) :
    ({ path := [document.root], tasks := [] } : Walk).absorb
        ((Rule.elementDecl false).fill (.ofDocument document) [] element) ∈
      eval (Walk.next (.ofDocument document)) (document.walk element) := by
  refine mem_eval.mpr ⟨?_, rfl⟩
  exact Walk.reaches_read { path := [document.root], tasks := [] } rfl (.elementDecl false) element

theorem compile_eq_outcome (found : document.rootElement = .ok element)
    (ended : last ∈ eval (Walk.next (.ofDocument document)) (document.walk element)) :
    document.compile = last.outcome document element := by
  have same := Part.mem_unique ended (document.walk_ends element)
  subst same
  rw [compile, found]
  cases failed : ((Rule.elementDecl false).fill (.ofDocument document) [] element).failure <;>
    simp [bind, Except.bind, pure, Except.pure, Session.start, Session.root, Session.element,
      Session.read, Session.fill, Session.record, Field.isGrouped, Walk.outcome, Walk.absorb,
      failed, Note.diagnostic, Function.comp_def]

theorem compile_eq_outcome_fill (found : document.rootElement = .ok element) :
    document.compile =
      ((Rule.elementDecl false).fill (.ofDocument document) [] element).outcome
        document element := by
  rw [document.compile_eq_outcome found (document.walk_ends element)]
  cases failed : ((Rule.elementDecl false).fill (.ofDocument document) [] element).failure <;>
    simp [Walk.outcome, Filling.outcome, Walk.absorb, failed, Note.diagnostic, Function.comp_def]

theorem reaches_last (reached : Reaches (Walk.next (.ofDocument document))
      (document.walk element) walk)
    (ended : last ∈ eval (Walk.next (.ofDocument document)) (document.walk element)) :
    Reaches (Walk.next (.ofDocument document)) walk last := by
  rw [reaches_eval reached] at ended
  exact (mem_eval.mp ended).1

end Document

end SchemaForms
