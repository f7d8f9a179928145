import SchemaForms.Proofs.CallHistory

set_option autoImplicit false

namespace SchemaForms

open StateTransition

/-- The calls that rules make of one another: readings, and the steps that readings consist of. -/
def Task.IsCall : Task → Prop
  | .read _ _ => True
  | .step taken => taken ≠ .refuse ∧ ∃ rule, taken.Hands rule
  | .leave | .close | .place _ => False

def Task.fill (catalogue : Catalogue) (opened : List String) : Task → Filling
  | .read rule node => rule.fill catalogue opened node
  | .step taken => taken.fill catalogue opened
  | .leave | .close | .place _ => {}

/-- Carrying out the task leads through the nodes of the trail to a declaration without a name. -/
inductive Task.Stops (catalogue : Catalogue) : List String → Task → Trail → Prop
  | refuse (opened : List String) : Stops catalogue opened (.step .refuse) []
  | visit {opened : List String} {rule : Rule} {child : Node} {placement : Placement}
    {trail : Trail} (inside : Stops catalogue opened (.read rule child) trail) :
    Stops catalogue opened (.step (.visit rule child placement)) trail
  | unnamed {opened : List String} {rule : Rule} {definition : Node} {placement : Placement}
    {trail : Trail} (unnamed : definition.attr "name" = none)
    (inside : Stops catalogue opened (.read rule definition) trail) :
    Stops catalogue opened (.step (.define rule definition placement)) trail
  | named {opened : List String} {rule : Rule} {definition : Node} {placement : Placement}
    {trail : Trail} {name : String} (named : definition.attr "name" = some name)
    (closed : name ∉ opened)
    (inside : Stops catalogue (name :: opened) (.read rule definition) trail) :
    Stops catalogue opened (.step (.define rule definition placement)) trail
  -- The steps before the one that leads there are carried out to their ends.
  | read {opened : List String} {rule : Rule} {node : Node} {trail : Trail}
    {before after : List Step} {step : Step}
    (steps : rule.steps catalogue node = before ++ step :: after)
    (ended : ∀ earlier ∈ before, (earlier.fill catalogue opened).failure = none)
    (inside : Stops catalogue opened (.step step) trail) :
    Stops catalogue opened (.read rule node) (node :: trail)

section Stops

variable {catalogue : Catalogue}

theorem Step.stops_of_failure {opened : List String} {step : Step} {trail : Trail}
    (inner : step.Inner (fun opened rule node => ∀ trail,
      (rule.fill catalogue opened node).failure = some trail →
        Task.Stops catalogue opened (.read rule node) trail) opened)
    (failed : (step.fill catalogue opened).failure = some trail) :
    Task.Stops catalogue opened (.step step) trail := by
  cases step with
  | edit | note => simp [Step.fill, Filling.note] at failed
  | refuse =>
    cases failed
    exact .refuse opened
  | visit rule child placement =>
    rw [Step.fill, Filling.place_failure] at failed
    exact .visit (inner trail failed)
  | define rule definition placement =>
    cases given : definition.attr "name" with
    | none =>
      simp only [Step.Inner, given] at inner
      simp only [Step.fill, given, Filling.place_failure] at failed
      exact .unnamed given (inner trail failed)
    | some name =>
      simp only [Step.Inner, given] at inner
      by_cases closed : name ∉ opened
      · simp only [Step.fill, given, if_pos closed, Filling.place_failure] at failed
        exact .named given closed (inner closed trail failed)
      · simp [Step.fill, given, closed, Filling.note] at failed

theorem Rule.stops_of_failure (opened : List String) (rule : Rule) (node : Node) :
    ∀ trail, (rule.fill catalogue opened node).failure = some trail →
      Task.Stops catalogue opened (.read rule node) trail := by
  revert opened rule node
  refine @Rule.fill_induction catalogue _ ?_
  intro opened rule node inner trail failed
  rw [fill_eq] at failed
  obtain ⟨below, stopped, rfl⟩ := Option.map_eq_some_iff.mp failed
  obtain ⟨before, step, after, steps, ended, stopped⟩ :=
    Filling.gather_failure_eq_some_iff.mp stopped
  exact .read steps ended (Step.stops_of_failure (inner step (by simp [steps])) stopped)

theorem Task.fill_failure_eq_some_iff {opened : List String} {task : Task} {trail : Trail} :
    (task.fill catalogue opened).failure = some trail ↔ task.Stops catalogue opened trail := by
  constructor
  · intro failed
    cases task with
    | read rule node => exact Rule.stops_of_failure opened rule node trail failed
    | step step => exact step.stops_of_failure (.of_forall Rule.stops_of_failure opened step) failed
    | leave | close | place => contradiction
  · intro stops
    induction stops with
    | refuse => rfl
    | visit _ ih => rwa [fill, Step.fill, Filling.place_failure]
    | unnamed given _ ih =>
      simp only [fill, Step.fill, given, Filling.place_failure]
      exact ih
    | named given closed _ ih =>
      simp only [fill, Step.fill, given, if_pos closed, Filling.place_failure]
      exact ih
    | read steps ended _ ih =>
      have failed := Filling.gather_failure_eq_some_iff.mpr ⟨_, _, _, steps, ended, ih⟩
      rw [fill, Rule.fill_eq]
      exact congrArg (Option.map _) failed

theorem Task.Stops.unnamed_last {opened : List String} {task : Task} {trail : Trail}
    (stops : task.Stops catalogue opened trail) (call : task ≠ .step .refuse) :
    ∃ above last, trail = above ++ [last] ∧ last.attr "name" = none := by
  induction stops with
  | refuse => exact absurd rfl call
  | visit _ ih | unnamed _ _ ih | named _ _ _ ih => exact ih nofun
  | @read opened rule node trail before after step steps _ inside ih =>
    by_cases refused : step = .refuse
    · subst refused
      cases inside
      have member : .refuse ∈ rule.steps catalogue node := by simp [steps]
      exact ⟨[], node, rfl, (Rule.from_steps rule .refuse member).2⟩
    · obtain ⟨above, last, rfl, unnamed⟩ := ih (by simpa using refused)
      exact ⟨node :: above, last, rfl, unnamed⟩

end Stops

theorem Session.diagnostics_prefix_record (session : Session) (filling : Filling) :
    session.diagnostics <+: (session.record filling).1.diagnostics := by
  cases failed : filling.failure <;> simp [record, failed]

namespace Draft

variable {first last : Draft}

structure Refuses (draft : Draft) : Prop where
  going : draft.error = none
  next : ∃ tasks, draft.tasks = .step .refuse :: tasks

@[simp]
theorem enter_error (draft : Draft) (rule : Rule) (node : Node) (placement : Placement) :
    (draft.enter rule node placement).error = draft.error := by
  cases placement <;> rfl

theorem handOn_error (draft : Draft) (placement : Placement) :
    (draft.handOn placement).error = draft.error ∧
      (draft.handOn placement).session.path = draft.session.path := by
  simp only [handOn]
  split <;> exact ⟨rfl, rfl⟩

theorem carry_error {draft : Draft} {step : Step} (refuses : step ≠ .refuse) :
    (draft.carry step).error = draft.error := by
  cases step with
  | refuse => contradiction
  | edit | note | visit => simp [carry, remark]
  | define rule definition placement =>
    simp only [carry]
    split
    · exact draft.enter_error rule definition placement
    · split <;> simp [remark]

theorem perform_error {draft : Draft} {task : Task} (refuses : task ≠ .step .refuse) :
    (draft.perform task).error = draft.error := by
  cases task with
  | step step =>
    simp only [perform]
    split
    · rfl
    · exact carry_error (by simpa using refuses)
  | read | leave =>
    simp only [perform]
    split <;> rfl
  | close => rfl
  | place placement => exact (draft.handOn_error placement).1

theorem perform_after_error {draft : Draft} (failed : draft.error.isSome = true) (task : Task) :
    (draft.perform task).error = draft.error ∧
      (draft.perform task).session.path = draft.session.path := by
  cases task with
  | step | read | leave => simp [perform, failed]
  | close => exact ⟨rfl, rfl⟩
  | place placement => exact draft.handOn_error placement

theorem error_of_next {draft after : Draft} (stepped : next draft = some after)
    {error : SchemaError} (failed : after.error = some error) :
    (draft.error = some error ∧ after.session.path = draft.session.path) ∨
      (draft.Refuses ∧ after.session.path = draft.session.path ∧
        error = .malformed draft.session.path.render
          "element declaration has no name attribute") := by
  simp only [next] at stepped
  split at stepped
  · contradiction
  next task tasks left =>
  cases Option.some.inj stepped
  by_cases earlier : draft.error.isSome = true
  · obtain ⟨same, path⟩ := perform_after_error (show { draft with tasks }.error.isSome = true from
      earlier) task
    exact .inl ⟨same.symm.trans failed, path⟩
  have going : draft.error = none := Option.not_isSome_iff_eq_none.mp earlier
  by_cases refuses : task = .step .refuse
  · subst refuses
    have refused : { draft with tasks }.perform (.step .refuse) =
        { draft with tasks }.carry .refuse := if_neg earlier
    rw [refused] at failed ⊢
    cases failed
    exact .inr ⟨⟨going, tasks, left⟩, rfl, rfl⟩
  · rw [perform_error refuses] at failed
    simp [going] at failed

theorem refuses_of_error (reached : Reaches next first last) (going : first.error = none)
    {error : SchemaError} (failed : last.error = some error) :
    ∃ met, Reaches next first met ∧ met.Refuses ∧ last.session.path = met.session.path ∧
      error = .malformed met.session.path.render "element declaration has no name attribute" := by
  induction reached with
  | refl => simp [going] at failed
  | @tail before after way stepped ih =>
    rcases error_of_next stepped failed with ⟨earlier, path⟩ | ⟨refuses, path, rfl⟩
    · obtain ⟨met, met_reached, refuses, left, rfl⟩ := ih earlier
      exact ⟨met, met_reached, refuses, path.trans left, rfl⟩
    · exact ⟨before, way, refuses, path, rfl⟩

theorem reaches_call (draft : Draft) (going : draft.error = none) {task : Task}
    (call : task.IsCall) :
    Reaches next { draft with tasks := task :: draft.tasks }
      (draft.settle (task.fill draft.session.catalogue draft.opened)) := by
  cases task with
  | read rule node => exact draft.reaches_read going rule node
  | step step =>
    obtain ⟨_, rule, hands⟩ := call
    exact draft.reaches_step going hands
  | leave | close | place => contradiction

/-- From the draft on the task stops at the end of the trail, and when the declaration there is
refused, the nodes of the trail are those that stand on the path besides. -/
structure Stops (draft : Draft) (task : Task) (trail : Trail) : Prop where
  nested : task.Stops draft.session.catalogue draft.opened trail
  refused : ∃ met, Reaches next draft met ∧ met.Refuses ∧
    met.session.path = draft.session.path ++ trail

/-- What a call leaves behind: the types that were open before, more diagnostics, and the path of
before or, after an error, the path to the declaration that was refused. -/
structure Balanced (first : Draft) (task : Task) (last : Draft) : Prop where
  opened : last.opened = first.opened
  diagnostics : first.session.diagnostics <+: last.session.diagnostics
  path : last.error = none → last.session.path = first.session.path
  refused : ∀ error, last.error = some error →
    ∃ above unnamed, first.Stops task (above ++ [unnamed]) ∧ unnamed.attr "name" = none ∧
      last.session.path = first.session.path ++ (above ++ [unnamed]) ∧
      error = .malformed last.session.path.render "element declaration has no name attribute"

theorem path_of_failure (draft : Draft) {filling : Filling} {trail : Trail}
    (failed : filling.failure = some trail) :
    (draft.settle filling).session.path = draft.session.path ++ trail := by
  rw [settle, Session.record_path, failed]
  rfl

theorem call_balanced (draft : Draft) (going : draft.error = none) {task : Task}
    (call : task.IsCall) :
    { draft with tasks := task :: draft.tasks }.Balanced task
      (draft.settle (task.fill draft.session.catalogue draft.opened)) where
  opened := rfl
  diagnostics := draft.session.diagnostics_prefix_record _
  path ended := by
    have done := (draft.session.record_error_eq_none_iff _).mp ended
    rw [settle, Session.record_path, done]
    simp
  refused error failed := by
    obtain ⟨met, way, refuses, left, rfl⟩ :=
      refuses_of_error (draft.reaches_call going call) going failed
    have stopped : (task.fill draft.session.catalogue draft.opened).failure.isSome = true := by
      rw [← draft.session.record_error_isSome]
      exact Option.isSome_of_eq_some failed
    obtain ⟨trail, stopped⟩ := Option.isSome_iff_exists.mp stopped
    have path := draft.path_of_failure stopped
    have nested := Task.fill_failure_eq_some_iff.mp stopped
    have read : task ≠ .step .refuse := by
      rintro rfl
      exact call.1 rfl
    obtain ⟨above, unnamed, rfl, nameless⟩ := nested.unnamed_last read
    refine ⟨above, unnamed, ⟨nested, met, way, refuses, ?_⟩, nameless, path, ?_⟩
    · rw [← left, path]
    · rw [left]

end Draft

def Answer.error? : Answer → Option SchemaError
  | .field (.ok _) | .members (.ok _) => none
  | .field (.error error) | .members (.error error) => some error
  | .filled _ error => error

namespace Call

def outer : Call → Trail
  | .root schema _ => [schema]
  | .element _ _ | .attributeDecl _ | .complexType _ _ | .simpleType _ _ | .group _ _ => []

def left : Call → Trail → Trail
  | .root _ _ => List.dropLast
  | .element _ _ | .attributeDecl _ | .complexType _ _ | .simpleType _ _ | .group _ _ => id

variable (call : Call)

theorem error?_answer (field : Field) (error : Option SchemaError) :
    (call.answer field error).error? = error := by
  cases call <;> cases error <;> rfl

theorem enter_path (session : Session) :
    (session.enter call).path = session.path ++ call.outer := by
  cases call <;> simp [Session.enter, outer]

theorem leave_path (session : Session) : (session.leave call).path = call.left session.path := by
  cases call <;> rfl

theorem enter_diagnostics (session : Session) :
    (session.enter call).diagnostics = session.diagnostics := by
  cases call <;> rfl

theorem leave_diagnostics (session : Session) :
    (session.leave call).diagnostics = session.diagnostics := by
  cases call <;> rfl

theorem left_outer (path : Trail) : call.left (path ++ call.outer) = path := by
  cases call <;> simp [left, outer]

end Call

/-- What a public call leaves behind, in the same way; the schema around a root declaration is on
the path during the call and is taken off at its end. -/
structure Walker.Balanced (before : Walker) (call : Call) (after : Walker) (answer : Answer) :
    Prop where
  opened : after.opened = before.opened
  diagnostics : before.session.diagnostics <+: after.session.diagnostics
  path : answer.error? = none → after.session.path = before.session.path
  refused : ∀ error, answer.error? = some error →
    ∃ above unnamed, (before.draft call).Stops (.read call.rule call.node) (above ++ [unnamed]) ∧
      unnamed.attr "name" = none ∧
      let path := before.session.path ++ call.outer ++ (above ++ [unnamed])
      after.session.path = call.left path ∧
        error = .malformed path.render "element declaration has no name attribute"

theorem Draft.Balanced.finish {walker : Walker} {call : Call} {last : Draft}
    (balanced : (walker.draft call).Balanced (.read call.rule call.node) last) :
    walker.Balanced call (Walker.finish call last).1 (Walker.finish call last).2 where
  opened := balanced.opened
  diagnostics := by
    rw [Walker.finish, call.leave_diagnostics, ← call.enter_diagnostics walker.session]
    exact balanced.diagnostics
  path ended := by
    rw [Walker.finish, call.error?_answer] at ended
    have path := balanced.path ended
    rw [Walker.draft, call.enter_path] at path
    rw [Walker.finish, call.leave_path, path, call.left_outer]
  refused error failed := by
    rw [Walker.finish, call.error?_answer] at failed
    obtain ⟨above, unnamed, stops, nameless, path, rfl⟩ := balanced.refused error failed
    have started : (walker.draft call).session.path = walker.session.path ++ call.outer :=
      call.enter_path walker.session
    rw [started] at path
    refine ⟨above, unnamed, stops, nameless, ?_, ?_⟩
    · rw [Walker.finish, call.leave_path, path]
    · rw [path]

theorem Walker.calls_balanced (walker : Walker) :
    (∀ call : Call, ∃ after answer, walker.answer call = .some (after, answer) ∧
      walker.Balanced call after answer) ∧
    ∀ (task : Task) (field : Field) (around : List Field) (tasks : List Task), task.IsCall →
      let first : Draft :=
        { session := walker.session, opened := walker.opened, field, around
          tasks := task :: tasks }
      ∃ last, Reaches Draft.next first last ∧ last.tasks = tasks ∧ last.around = around ∧
        first.Balanced task last := by
  constructor
  · intro call
    let draft : Draft := { walker.draft call with tasks := [] }
    have read : (Task.read call.rule call.node).IsCall := trivial
    have ended := mem_eval.mpr ⟨draft.reaches_call rfl read, rfl⟩
    exact ⟨_, _, Part.eq_some_iff.mpr (Part.mem_map (Walker.finish call) ended),
      (draft.call_balanced rfl read).finish⟩
  · intro task field around tasks call
    let draft : Draft :=
      { session := walker.session, opened := walker.opened, field, around, tasks }
    exact ⟨_, draft.reaches_call rfl call, rfl, rfl, draft.call_balanced rfl call⟩

namespace Broken

def entering : Draft where
  session := { catalogue := types, path := [listener] }
  opened := ["Server"]
  field := {}
  tasks := [.step (.define .complexType content .listed)]

theorem entering_stops :
    (Task.step (.define .complexType content .listed)).IsCall ∧
      ∃ last, Reaches Draft.next entering last ∧ last.opened = ["Server"] ∧
        last.session.path = [listener, content, members, unnamed] ∧
        entering.Stops (.step (.define .complexType content .listed))
          [content, members, unnamed] := by
  have call : (Task.step (.define .complexType content .listed)).IsCall :=
    ⟨nofun, .elementDecl false, nofun⟩
  let walker : Walker := ⟨entering.session, entering.opened⟩
  obtain ⟨last, reached, ended, around, balanced⟩ := (Walker.calls_balanced walker).2
    (.step (.define .complexType content .listed)) {} [] [] call
  -- The run has one end only, so this is the one that the reading settles in.
  have settled : last = { entering with tasks := [] }.settle
      ((Task.step (.define .complexType content .listed)).fill types ["Server"]) := by
    refine Part.mem_unique (mem_eval.mpr ⟨reached, by simp [Draft.next, ended]⟩)
      (mem_eval.mpr ⟨{ entering with tasks := [] }.reaches_call rfl call, rfl⟩)
  have read : (Task.step (.define .complexType content .listed)).fill types ["Server"] =
      (Rule.complexType.fill types ["Listener", "Server"] content).place .listed := rfl
  rw [read, fill_content] at settled
  have path : last.session.path = [listener, content, members, unnamed] := by
    rw [settled]
    rfl
  obtain ⟨above, refused, stops, _, left, _⟩ := balanced.refused _ (by rw [settled]; rfl)
  have trail : above ++ [refused] = [content, members, unnamed] := by
    have same : [listener] ++ (above ++ [refused]) = [listener] ++ [content, members, unnamed] :=
      left.symm.trans path
    exact List.append_cancel_left same
  exact ⟨call, last, reached, balanced.opened, path, trail ▸ stops⟩

end Broken

end SchemaForms
