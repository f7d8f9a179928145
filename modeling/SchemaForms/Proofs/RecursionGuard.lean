import SchemaForms.Proofs.CompilationWalk
import SchemaForms.Proofs.ReferenceGraph

set_option autoImplicit false

namespace SchemaForms

open Relation StateTransition

namespace Walk

/-- Carries out a step and enters every type, open or not. -/
def carryUnguarded (walk : Walk) : Step → Walk
  | .define rule definition placement =>
    match definition.attr "name" with
    | none => walk.nest [.read rule definition, .place placement]
    | some name =>
      { walk with opened := name :: walk.opened }.nest
        [.read rule definition, .close, .place placement]
  | step => walk.carry step

def performUnguarded (catalogue : Catalogue) (walk : Walk) : Task → Walk
  | .step step => if walk.failure.isSome then walk else walk.carryUnguarded step
  | task => walk.perform catalogue task

def nextUnguarded (catalogue : Catalogue) (walk : Walk) : Option Walk :=
  match walk.tasks with
  | [] => none
  | task :: tasks => some ({ walk with tasks }.performUnguarded catalogue task)

def Recursive (walk : Walk) : Prop := ∃ note ∈ walk.notes, ∃ name, note.cause = .recursiveType name

section Guard

variable {catalogue : Catalogue} {walk walk' later : Walk}

theorem carry_unguarded_or_recursive (walk : Walk) (step : Step) :
    walk.carryUnguarded step = walk.carry step ∨ (walk.carry step).Recursive := by
  cases step with
  | define rule definition placement =>
    cases named : definition.attr "name" with
    | none => simp [carryUnguarded, carry, named]
    | some name =>
      by_cases closed : name ∉ walk.opened
      · simp [carryUnguarded, carry, named, closed]
      · refine .inr ⟨⟨walk.path, .recursiveType name⟩, ?_, name, rfl⟩
        simp [carry, named, closed, remark]
  | edit | note | refuse | visit => exact .inl rfl

theorem next_unguarded_or_recursive (stepped : walk.next catalogue = some walk') :
    walk.nextUnguarded catalogue = some walk' ∨ walk'.Recursive := by
  cases left : walk.tasks with
  | nil => simp [next, left] at stepped
  | cons task tasks =>
    simp only [next, left, Option.some.injEq] at stepped
    subst stepped
    simp only [nextUnguarded, left]
    cases task with
    | step step =>
      simp only [performUnguarded, perform]
      split
      · exact .inl rfl
      · exact (carry_unguarded_or_recursive _ step).imp_left (congrArg some)
    | read | leave | close | place => exact .inl rfl

theorem notes_subset_carry (walk : Walk) (step : Step) : walk.notes ⊆ (walk.carry step).notes := by
  cases step with
  | edit | refuse | visit => exact fun _ noted => noted
  | note cause => exact List.subset_append_left _ _
  | define rule definition placement =>
    simp only [carry]
    split
    · exact fun _ noted => noted
    · split
      · exact fun _ noted => noted
      · exact List.subset_append_left _ _

theorem notes_subset_perform (walk : Walk) (task : Task) :
    walk.notes ⊆ (walk.perform catalogue task).notes := by
  cases task with
  | step step =>
    simp only [perform]
    split
    · exact fun _ noted => noted
    · exact notes_subset_carry walk step
  | read | leave =>
    simp only [perform]
    split <;> exact fun _ noted => noted
  | close => exact fun _ noted => noted
  | place placement =>
    simp only [perform, handOn]
    split <;> exact fun _ noted => noted

theorem Recursive.of_reaches (recursive : walk.Recursive)
    (reached : Reaches (next catalogue) walk later) : later.Recursive := by
  induction reached with
  | refl => exact recursive
  | @tail before after _ stepped ih =>
    obtain ⟨note, noted, name, cause⟩ := ih
    unfold next at stepped
    split at stepped
    · contradiction
    · next task tasks _ =>
      cases Option.some.inj stepped
      exact ⟨note, notes_subset_perform { before with tasks } task noted, name, cause⟩

theorem reaches_unguarded {first last : Walk} (reached : Reaches (next catalogue) first last)
    (free : ¬ last.Recursive) : Reaches (nextUnguarded catalogue) first last := by
  induction reached with
  | refl => exact .refl
  | tail _ stepped ih =>
    have earlier := ih fun recursive => free (recursive.of_reaches (.single stepped))
    exact earlier.tail ((next_unguarded_or_recursive stepped).resolve_right free)

theorem next_eq_none_iff : walk.next catalogue = none ↔ walk.nextUnguarded catalogue = none := by
  cases left : walk.tasks <;> simp [next, nextUnguarded, left]

theorem mem_eval_unguarded {first last : Walk} (ended : last ∈ eval (next catalogue) first)
    (free : ¬ last.Recursive) : last ∈ eval (nextUnguarded catalogue) first := by
  obtain ⟨reached, stopped⟩ := mem_eval.mp ended
  exact mem_eval.mpr ⟨reaches_unguarded reached free, next_eq_none_iff.mp stopped⟩

end Guard

end Walk

namespace Document

noncomputable def compileUnguarded (document : Document) :
    Part (Except SchemaError Compilation) :=
  match document.rootElement with
  | .error error => .some (.error error)
  | .ok element =>
    (eval (Walk.nextUnguarded (.ofDocument document)) (document.walk element)).map
      (Walk.outcome document element)

/-- The diagnostics of the reading that compiling makes, also where that fails in the end. -/
def recorded (document : Document) : List Diagnostic :=
  match document.rootElement with
  | .error _ => []
  | .ok element =>
    ((Session.start (.ofDocument document)).root document.root element).1.diagnostics

/-- No definition that is mentioned from the root element on leads back to itself. -/
def Acyclic (document : Document) : Prop :=
  ∀ element, document.rootElement = .ok element → ∀ definition,
    TransGen (Node.Mentions (.ofDocument document)) element definition →
      ¬ TransGen (Node.Mentions (.ofDocument document)) definition definition

section Compilation

variable {document : Document} {element : Node}

theorem recorded_eq_notes (found : document.rootElement = .ok element) :
    document.recorded =
      (({ path := [document.root], tasks := [] } : Walk).absorb
        ((Rule.elementDecl false).fill (.ofDocument document) [] element)).notes.map
          Note.diagnostic := by
  rw [recorded, found]
  cases failed : ((Rule.elementDecl false).fill (.ofDocument document) [] element).failure <;>
    simp [Session.start, Session.root, Session.element, Session.read, Session.fill,
      Session.record, Field.isGrouped, Walk.absorb, failed, Note.diagnostic, Function.comp_def]

theorem diagnostics_of_compile {compilation : Compilation}
    (compiled : document.compile = .ok compilation) :
    compilation.diagnostics = document.recorded := by
  cases found : document.rootElement with
  | error error =>
    rw [compile, found] at compiled
    contradiction
  | ok element =>
    rw [compile_eq_outcome found (document.walk_ends element), Walk.outcome] at compiled
    split at compiled
    · cases compiled
      exact (recorded_eq_notes found).symm
    · contradiction

theorem circular_of_recorded (unnamed : document.InlineTypesUnnamed)
    (found : document.rootElement = .ok element) {diagnostic : Diagnostic} {name : String}
    (member : diagnostic ∈ document.recorded) (recursive : diagnostic.cause = .recursiveType name) :
    document.Circular element name := by
  rw [recorded_eq_notes found] at member
  obtain ⟨note, noted, rfl⟩ := List.mem_map.mp member
  obtain ⟨inner, made, rfl⟩ := List.mem_map.mp noted
  exact Rule.circular_of_recursion unnamed [] (.elementDecl false) element
    (.initial (mem_preorder_of_rootElement found)) (nameContains_of_rootElement found)
    inner made name recursive

theorem acyclic_of_rank (rank : Node → Nat)
    (falls : ∀ node ∈ (Catalogue.ofDocument document).definitions, ∀ definition,
      node.Mentions (.ofDocument document) definition → rank definition < rank node) :
    document.Acyclic := by
  have known {node definition : Node}
      (path : TransGen (Node.Mentions (.ofDocument document)) node definition) :
      definition ∈ (Catalogue.ofDocument document).definitions := by
    cases path with
    | single mentions | tail _ mentions =>
      obtain ⟨_, _, _, _, _, found⟩ := mentions
      exact Catalogue.mem_of_get? (Catalogue.get?_of_resolve found)
  intro element _ definition path cycle
  have lower {last : Node}
      (path : TransGen (Node.Mentions (.ofDocument document)) definition last) :
      rank last < rank definition := by
    induction path with
    | single mentions => exact falls definition (known cycle) _ mentions
    | tail path mentions ih => exact (falls _ (known path) _ mentions).trans ih
  exact Nat.lt_irrefl _ (lower cycle)

end Compilation

theorem recursion_only_on_cycles (document : Document) (unnamed : document.InlineTypesUnnamed) :
    (∀ compilation, document.compile = .ok compilation →
      compilation.diagnostics = document.recorded) ∧
    (∀ diagnostic ∈ document.recorded, ∀ name, diagnostic.cause = .recursiveType name →
      ∃ definition, (Catalogue.ofDocument document).get? name = some definition ∧
        TransGen (Node.Mentions (.ofDocument document)) definition definition) ∧
    (document.Acyclic →
      (∀ diagnostic ∈ document.recorded, ∀ name, diagnostic.cause ≠ .recursiveType name) ∧
        document.compileUnguarded = .some document.compile) := by
  cases found : document.rootElement with
  | error error =>
    have compiled : document.compile = .error error := by
      rw [compile, found]
      rfl
    simp [recorded, compileUnguarded, found, compiled]
  | ok element =>
    refine ⟨fun _ => diagnostics_of_compile, ?_, fun acyclic => ?_⟩
    · intro diagnostic member name recursive
      obtain ⟨definition, held, _, cycle⟩ := circular_of_recorded unnamed found member recursive
      exact ⟨definition, held, cycle⟩
    · have free : ∀ diagnostic ∈ document.recorded, ∀ name,
          diagnostic.cause ≠ .recursiveType name := by
        intro diagnostic member name recursive
        obtain ⟨definition, _, path, cycle⟩ :=
          circular_of_recorded unnamed found member recursive
        exact acyclic element found definition path cycle
      refine ⟨free, ?_⟩
      have ended := document.walk_ends element
      have unguarded := Walk.mem_eval_unguarded ended (by
        rintro ⟨note, noted, name, recursive⟩
        refine free note.diagnostic ?_ name recursive
        rw [recorded_eq_notes found]
        exact List.mem_map_of_mem noted)
      rw [compile_eq_outcome found ended, compileUnguarded, found]
      exact Part.eq_some_iff.mpr (Part.mem_map _ unguarded)

def sharedAddress : Document :=
  let billing : Node :=
    { name := "element", attributes := [("name", "billing"), ("type", "Address")] }
  let shipping : Node :=
    { name := "element", attributes := [("name", "shipping"), ("type", "Address")] }
  let street : Node :=
    { name := "element", attributes := [("name", "street"), ("type", "string")] }
  ⟨{ name := "schema"
     children := [
       { name := "element", attributes := [("name", "order"), ("type", "Order")] },
       { name := "complexType", attributes := [("name", "Order")]
         children := [{ name := "all", children := [billing, shipping] }] },
       { name := "complexType", attributes := [("name", "Address")]
         children := [{ name := "sequence", children := [street] }] }] }⟩

def sharedTypes : Catalogue := { definitions := sharedAddress.root.children.tail }

theorem sharedAddress_unguarded :
    sharedAddress.InlineTypesUnnamed ∧ sharedAddress.Acyclic ∧
      sharedAddress.compileUnguarded = .some sharedAddress.compile := by
  have unnamed : sharedAddress.InlineTypesUnnamed := by
    unfold InlineTypesUnnamed Node.TypesUnnamed
    decide
  have acyclic : sharedAddress.Acyclic := by
    let rank (node : Node) : Nat := if node.attr "name" = some "Order" then 1 else 0
    refine acyclic_of_rank rank ?_
    have types : Catalogue.ofDocument sharedAddress = sharedTypes := by
      rw [Catalogue.ofDocument, Node.descendants_eq_preorder]
      rfl
    rw [types]
    have falls : ∀ node ∈ sharedTypes.definitions, ∀ inner ∈ node.preorder,
        ∀ pair ∈ inner.attributes, (pair.1 = "type" ∨ pair.1 = "base" ∨ pair.1 = "itemType") →
          ∀ definition ∈ sharedTypes.get? (Reference.ofText pair.2).target,
            rank definition < rank node := by
      decide
    rintro node member definition ⟨inner, inside, pair, held, key, found⟩
    exact falls node member inner inside pair held key definition (Catalogue.get?_of_resolve found)
  exact ⟨unnamed, acyclic, ((recursion_only_on_cycles sharedAddress unnamed).2.2 acyclic).2⟩

end Document

end SchemaForms
