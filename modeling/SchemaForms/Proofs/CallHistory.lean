import SchemaForms.Proofs.Contribution

set_option autoImplicit false

namespace SchemaForms

open StateTransition

inductive Call
  | root (schema element : Node)
  | element (node : Node) (field : Field)
  | attributeDecl (node : Node)
  | complexType (node : Node) (field : Field)
  | simpleType (node : Node) (field : Field)
  | group (node : Node) (sort : Group)

inductive Answer
  | field (result : Except SchemaError Field)
  | members (result : Except SchemaError (List Field))
  -- The field that was handed in, as far as it was filled.
  | filled (field : Field) (error : Option SchemaError)

namespace Session

def answer (session : Session) : Call → Session × Answer
  | .root schema element => (session.root schema element).map id .field
  | .element node field => (session.element node field).map id .field
  | .attributeDecl node => (session.attributeDecl node).map id .field
  | .complexType node field =>
    (session.complexType node field).map id fun (field, error) => .filled field error
  | .simpleType node field =>
    (session.simpleType node field).map id fun (field, error) => .filled field error
  | .group node sort => (session.group node sort).map id .members

def after (session : Session) (calls : List Call) : Session :=
  calls.foldl (fun session call => (session.answer call).1) session

end Session

namespace Call

def rule : Call → Rule
  | .root _ _ => .elementDecl false
  | .element _ field => .elementDecl field.isGrouped
  | .attributeDecl _ => .attributeDecl
  | .complexType _ _ => .complexType
  | .simpleType _ _ => .simpleType
  | .group _ sort => .group sort

def node : Call → Node
  | .root _ node | .element node _ | .attributeDecl node | .complexType node _
  | .simpleType node _ | .group node _ => node

def field : Call → Field
  | .root _ node => node.declare {}
  | .element node field => node.declare field
  | .attributeDecl node => node.attributeField
  | .complexType _ field | .simpleType _ field => field
  | .group _ _ => {}

def answer (field : Field) (error : Option SchemaError) : Call → Answer
  | .root _ _ | .element _ _ | .attributeDecl _ =>
    .field (match error with
      | none => .ok field
      | some error => .error error)
  | .complexType _ _ | .simpleType _ _ => .filled field error
  | .group _ _ =>
    .members (match error with
      | none => .ok field.members
      | some error => .error error)

end Call

def Session.enter (session : Session) : Call → Session
  | .root schema _ => { session with path := session.path ++ [schema] }
  | _ => session

def Session.leave (session : Session) : Call → Session
  | .root _ _ => { session with path := session.path.dropLast }
  | _ => session

/-- A walker between two calls, with the types that are open. -/
structure Walker where
  session : Session
  opened : List String := []

namespace Walker

def draft (walker : Walker) (call : Call) : Draft where
  session := walker.session.enter call
  opened := walker.opened
  field := call.field
  tasks := [.read call.rule call.node]

def finish (call : Call) (last : Draft) : Walker × Answer :=
  ({ session := last.session.leave call, opened := last.opened },
    call.answer last.field last.error)

noncomputable def answer (walker : Walker) (call : Call) : Part (Walker × Answer) :=
  (eval Draft.next (walker.draft call)).map (finish call)

noncomputable def after (walker : Walker) : List Call → Part Walker
  | [] => .some walker
  | call :: rest => (walker.answer call).bind fun (walker, _) => after walker rest

end Walker

namespace Session

def recorded (session : Session) (call : Call) : Session × Option SchemaError :=
  (session.enter call).record (call.rule.fill session.catalogue [] call.node)

theorem answer_eq_recorded (session : Session) (call : Call) :
    session.answer call =
      ((session.recorded call).1.leave call,
        call.answer (call.field.applyAll (call.rule.fill session.catalogue [] call.node).edits)
          (session.recorded call).2) := by
  have blank : ({} : Field).isGrouped = false := rfl
  unfold recorded
  generalize made : call.rule.fill session.catalogue [] call.node = filling
  cases call <;> simp only [Call.rule, Call.node] at made <;>
    cases failed : filling.failure <;>
    simp [enter, leave, Call.field, Call.answer, answer, root, element, attributeDecl,
      complexType, simpleType, group, read, fill, record, blank, made, failed]

@[simp]
theorem enter_catalogue (session : Session) (call : Call) :
    (session.enter call).catalogue = session.catalogue := by
  cases call <;> rfl

end Session

theorem Walker.answer_eq_recorded (walker : Walker) (call : Call) :
    let filling := call.rule.fill walker.session.catalogue walker.opened call.node
    let recorded := (walker.session.enter call).record filling
    walker.answer call =
      .some (⟨recorded.1.leave call, walker.opened⟩,
        call.answer (call.field.applyAll filling.edits) recorded.2) := by
  have reached := Draft.reaches_read { walker.draft call with tasks := [] } rfl call.rule call.node
  simp only [draft, Session.enter_catalogue] at reached
  exact Part.eq_some_iff.mpr (Part.mem_map (finish call) (mem_eval.mpr ⟨reached, rfl⟩))

theorem Walker.answer_complexType_iff {walker after : Walker} {node : Node}
    {field filled : Field} :
    let filling := Rule.complexType.fill walker.session.catalogue walker.opened node
    walker.answer (.complexType node field) = .some (after, .filled filled none) ↔
      filling.failure = none ∧ after = ⟨(walker.session.record filling).1, walker.opened⟩ ∧
        filled = field.applyAll filling.edits := by
  intro filling
  have answered : walker.answer (.complexType node field) =
      .some (⟨(walker.session.record filling).1, walker.opened⟩,
        .filled (field.applyAll filling.edits) (walker.session.record filling).2) :=
    walker.answer_eq_recorded (.complexType node field)
  rw [answered, Part.some_inj, Prod.mk.injEq, Answer.filled.injEq,
    Session.record_error_eq_none_iff]
  constructor
  · rintro ⟨rfl, rfl, done⟩
    exact ⟨done, rfl, rfl⟩
  · rintro ⟨done, rfl, rfl⟩
    exact ⟨rfl, rfl, done⟩

theorem Walker.answer_eq (session : Session) (call : Call) :
    (⟨session, []⟩ : Walker).answer call =
      .some (⟨(session.answer call).1, []⟩, (session.answer call).2) := by
  rw [session.answer_eq_recorded call]
  exact answer_eq_recorded ⟨session, []⟩ call

theorem Walker.after_eq (session : Session) (calls : List Call) :
    (⟨session, []⟩ : Walker).after calls = .some ⟨session.after calls, []⟩ := by
  induction calls generalizing session with
  | nil => rfl
  | cons call rest ih => simp [after, answer_eq, ih, Session.after]

/-- The text that the nodes of the trail put in front of the paths below them. -/
def Trail.leading (trail : Trail) : String :=
  String.join (trail.map fun node => "/" ++ node.segment)

theorem Trail.render_behind (left : Trail) {trail : Trail} (below : trail ≠ []) :
    Trail.render (left ++ trail) = left.leading ++ trail.render := by
  obtain ⟨node, rest, rfl⟩ := List.exists_cons_of_ne_nil below
  cases left with
  | nil => simp [leading, render]
  | cons first more => simp [leading, render, String.join_append, String.append_assoc]

section Behind

variable (left : Trail)

def Diagnostic.behind (diagnostic : Diagnostic) : Diagnostic :=
  { diagnostic with path := left.leading ++ diagnostic.path }

def SchemaError.behind : SchemaError → SchemaError
  | .malformed path reason => .malformed (left.leading ++ path) reason
  | error => error

def Answer.behind : Answer → Answer
  | .field result => .field (result.mapError (SchemaError.behind left))
  | .members result => .members (result.mapError (SchemaError.behind left))
  | .filled given error => .filled given (error.map (SchemaError.behind left))

def Session.behind (earlier : List Diagnostic) (session : Session) : Session :=
  { session with
    path := left ++ session.path
    diagnostics := earlier ++ session.diagnostics.map (Diagnostic.behind left) }

end Behind

def Answer.failed : Answer → Bool
  | .field (.ok _) | .members (.ok _) | .filled _ none => false
  | .field (.error _) | .members (.error _) | .filled _ (some _) => true

theorem Rule.trails_fill (catalogue : Catalogue) (opened : List String) (rule : Rule)
    (node : Node) :
    (∀ note ∈ (rule.fill catalogue opened node).notes, note.trail ≠ []) ∧
      ∀ trail, (rule.fill catalogue opened node).failure = some trail → trail ≠ [] := by
  rw [Rule.fill_eq]
  constructor
  · intro note noted
    obtain ⟨inner, _, rfl⟩ := List.mem_map.mp noted
    simp
  · intro trail failed
    obtain ⟨inner, _, rfl⟩ := Option.map_eq_some_iff.mp failed
    simp

namespace Session

variable {left : Trail} {earlier : List Diagnostic} {session : Session} {filling : Filling}

theorem eq_behind_start (session : Session) :
    session = (start session.catalogue).behind session.path session.diagnostics := by
  simp [start, behind]

theorem record_behind (session : Session) (noted : ∀ note ∈ filling.notes, note.trail ≠ [])
    (failed : ∀ trail, filling.failure = some trail → trail ≠ []) :
    (session.behind left earlier).record filling =
      ((session.record filling).1.behind left earlier,
        (session.record filling).2.map (SchemaError.behind left)) := by
  have notes : ∀ note ∈ filling.notes,
      ({ path := Trail.render (left ++ (session.path ++ note.trail)), cause := note.cause } :
        Diagnostic) =
      Diagnostic.behind left
        { path := (session.path ++ note.trail).render, cause := note.cause } := by
    intro note member
    have below : session.path ++ note.trail ≠ [] := by simp [noted note member]
    rw [Diagnostic.behind, Trail.render_behind left below]
  cases ended : filling.failure with
  | none => simpa [record, behind, ended] using notes
  | some trail =>
    have below : session.path ++ trail ≠ [] := by simp [failed trail ended]
    simpa [record, behind, SchemaError.behind, ended, Trail.render_behind left below] using notes

theorem enter_behind (session : Session) (call : Call) :
    (session.behind left earlier).enter call = (session.enter call).behind left earlier := by
  cases call <;> simp [behind, enter]

theorem recorded_behind (session : Session) (call : Call) :
    (session.behind left earlier).recorded call =
      ((session.recorded call).1.behind left earlier,
        (session.recorded call).2.map (SchemaError.behind left)) := by
  obtain ⟨noted, failed⟩ := Rule.trails_fill session.catalogue [] call.rule call.node
  rw [recorded, enter_behind]
  exact (session.enter call).record_behind noted failed

theorem record_path (session : Session) (filling : Filling) :
    (session.record filling).1.path = session.path ++ filling.failure.getD [] := by
  cases failed : filling.failure <;> simp [record, failed]

theorem leave_behind (session : Session) (call : Call) :
    ((session.recorded call).1.behind left earlier).leave call =
      ((session.recorded call).1.leave call).behind left earlier := by
  cases call with
  | root schema element =>
    have below : (session.recorded (.root schema element)).1.path ≠ [] := by
      simp [recorded, record_path, enter]
    simp [behind, leave, List.dropLast_append_of_ne_nil below]
  | element | attributeDecl | complexType | simpleType | group => rfl

theorem answer_behind (session : Session) (call : Call) :
    (session.behind left earlier).answer call =
      ((session.answer call).1.behind left earlier, (session.answer call).2.behind left) := by
  have put (field : Field) (error : Option SchemaError) :
      call.answer field (error.map (SchemaError.behind left)) =
        (call.answer field error).behind left := by
    cases call <;> cases error <;> rfl
  rw [answer_eq_recorded, answer_eq_recorded, recorded_behind, leave_behind, put]
  rfl

theorem answer_catalogue (session : Session) (call : Call) :
    (session.answer call).1.catalogue = session.catalogue := by
  rw [answer_eq_recorded]
  cases call <;> simp [leave, recorded]

theorem path_of_success {call : Call} (session : Session)
    (answered : (session.answer call).2.failed = false) :
    (session.answer call).1.path = session.path := by
  rw [answer_eq_recorded] at answered ⊢
  have done : (call.rule.fill session.catalogue [] call.node).failure = none := by
    rw [← Option.not_isSome_iff_eq_none, ← record_error_isSome (session.enter call)]
    change ¬ (session.recorded call).2.isSome = true
    generalize (session.recorded call).2 = error at answered
    cases error with
    | none => simp
    | some error => cases call <;> simp [Call.answer, Answer.failed] at answered
  cases call <;> simp [leave, recorded, enter, record_path, done]

theorem after_path (session : Session) (calls : List Call) :
    (session.after calls).path = session.path ++
      calls.flatMap fun call => ((start session.catalogue).answer call).1.path := by
  induction calls generalizing session with
  | nil => simp [after]
  | cons call rest ih =>
    have first : (session.answer call).1.path =
        session.path ++ ((start session.catalogue).answer call).1.path := by
      have answered := @answer_behind session.path session.diagnostics
        (start session.catalogue) call
      rw [← session.eq_behind_start] at answered
      rw [answered]
      rfl
    have later := ih (session.answer call).1
    rw [answer_catalogue, first] at later
    rw [List.flatMap_cons, ← List.append_assoc]
    exact later

theorem after_catalogue (session : Session) (calls : List Call) :
    (session.after calls).catalogue = session.catalogue := by
  induction calls generalizing session with
  | nil => rfl
  | cons call rest ih => exact (ih _).trans (session.answer_catalogue call)

end Session

theorem Walker.answers_without_history (catalogue : Catalogue) (earlier : List Call)
    (call : Call) :
    let fresh := Session.start catalogue
    let before := fresh.after earlier
    let left := earlier.flatMap fun call => (fresh.answer call).1.path
    (⟨fresh, []⟩ : Walker).after earlier = .some ⟨before, []⟩ ∧
    (⟨before, []⟩ : Walker).answer call =
      .some (⟨(before.answer call).1, []⟩, (before.answer call).2) ∧
    before.answer call =
      ({ catalogue
         path := left ++ (fresh.answer call).1.path
         diagnostics := before.diagnostics ++
           (fresh.answer call).1.diagnostics.map (Diagnostic.behind left) },
        (fresh.answer call).2.behind left) ∧
    ∀ call, (fresh.answer call).2.failed = false → (fresh.answer call).1.path = [] := by
  intro fresh before left
  refine ⟨after_eq fresh earlier, answer_eq before call, ?_,
    fun call answered => fresh.path_of_success answered⟩
  have same : before = fresh.behind left before.diagnostics := by
    have known : before.catalogue = catalogue := fresh.after_catalogue earlier
    have path : before.path = left := fresh.after_path earlier
    rw [before.eq_behind_start, known, path]
    simp [fresh, Session.behind, Session.start]
  have answered := @Session.answer_behind left before.diagnostics fresh call
  rw [← same] at answered
  rw [answered]
  simp [Session.behind, Session.answer_catalogue, fresh, Session.start]

namespace Broken

def listener : Node :=
  { name := "element", attributes := [("name", "listener"), ("type", "Listener")] }

def types : Catalogue := { definitions := [content] }

theorem answer_listener :
    (Session.start types).answer (.element listener {}) =
      ({ catalogue := types, path := [listener, content, members, unnamed] },
        .field (.error (.malformed
          "/element[@name='listener']/complexType[@name='Listener']/sequence/element"
          "element declaration has no name attribute"))) := by
  have read : (Rule.elementDecl false).fill types [] listener =
      { edits := [.items [], .items [{ id.attributeField with kind := some (.native .string) }]]
        failure := some [listener, content, members, unnamed] } := by
    rw [Rule.fill_eq, show (Rule.elementDecl false).steps types listener =
      [.define .complexType content .listed] from rfl]
    simp only [Filling.gather_cons, Step.fill, show content.attr "name" = some "Listener" from rfl,
      fill_content]
    rfl
  rw [Session.answer_eq_recorded, Session.recorded]
  simp only [Call.rule, Call.node, show ({} : Field).isGrouped = false from rfl,
    show (Session.start types).catalogue = types from rfl, read]
  rfl

theorem listener_fails_alike :
    ((Session.start types).after [.element listener {}]).answer (.element listener {}) =
      ({ catalogue := types
         path := [listener, content, members, unnamed, listener, content, members, unnamed] },
        .field (.error (.malformed
          ("/element[@name='listener']/complexType[@name='Listener']/sequence/element" ++
            "/element[@name='listener']/complexType[@name='Listener']/sequence/element")
          "element declaration has no name attribute"))) := by
  have alike := (Walker.answers_without_history types [.element listener {}]
    (.element listener {})).2.2.1
  simp only [List.flatMap_cons, List.flatMap_nil, List.append_nil, answer_listener] at alike
  rw [alike, Session.after, List.foldl_cons, List.foldl_nil, answer_listener]
  rfl

end Broken

end SchemaForms
