import SchemaForms.Proofs.Machine
import SchemaForms.Session

set_option autoImplicit false

namespace SchemaForms

open StateTransition

structure Draft where
  session : Session
  opened : List String := []
  field : Field
  around : List Field := []
  error : Option SchemaError := none
  tasks : List Task

namespace Draft

def remark (draft : Draft) (cause : Cause) : Draft :=
  { draft with
    session.diagnostics := draft.session.diagnostics ++ [⟨draft.session.path.render, cause⟩] }

def enter (draft : Draft) (rule : Rule) (node : Node) : Placement → Draft
  | .direct => { draft with tasks := .read rule node :: draft.tasks }
  | .listed =>
    { draft with field := draft.field.apply (.items []), tasks := .read rule node :: draft.tasks }
  | .whole =>
    { draft with
      field := {}
      around := draft.field :: draft.around
      tasks := .read rule node :: .place .whole :: draft.tasks }
  | .item field =>
    { draft with
      field
      around := draft.field :: draft.around
      tasks := .read rule node :: .place (.item field) :: draft.tasks }

def carry (draft : Draft) : Step → Draft
  | .edit change => { draft with field := draft.field.apply change }
  | .note cause => draft.remark cause
  | .refuse =>
    { draft with
      error := some (.malformed draft.session.path.render
        "element declaration has no name attribute") }
  | .visit rule child placement => draft.enter rule child placement
  | .define rule definition placement =>
    match definition.attr "name" with
    | none => draft.enter rule definition placement
    | some name =>
      if name ∉ draft.opened then
        { draft with opened := name :: draft.opened, tasks := .close :: draft.tasks }.enter
          rule definition placement
      else draft.remark (.recursiveType name)

def handOn (draft : Draft) (placement : Placement) : Draft :=
  match draft.around with
  | [] => draft
  | outer :: around =>
    let fields := match placement with
      | .whole => draft.field.members
      | .direct | .listed | .item _ => [draft.field]
    { draft with
      field := if draft.error.isSome then outer else outer.apply (.items fields)
      around }

def perform (draft : Draft) : Task → Draft
  -- After an error types are closed all the same, but the path stays and no field is handed on.
  | .step step => if draft.error.isSome then draft else draft.carry step
  | .read rule node =>
    if draft.error.isSome then draft
    else
      { draft with
        session.path := draft.session.path ++ [node]
        tasks := (rule.steps draft.session.catalogue node).map .step ++ .leave :: draft.tasks }
  | .leave =>
    if draft.error.isSome then draft
    else { draft with session.path := draft.session.path.dropLast }
  | .close => { draft with opened := draft.opened.tail }
  | .place placement => draft.handOn placement

def next (draft : Draft) : Option Draft :=
  match draft.tasks with
  | [] => none
  | task :: tasks => some ({ draft with tasks }.perform task)

/-- The draft after a reading that gave `filling`. -/
def settle (draft : Draft) (filling : Filling) : Draft :=
  { draft with
    session := (draft.session.record filling).1
    field := draft.field.applyAll filling.edits
    error := (draft.session.record filling).2 }

end Draft

namespace Session

@[simp]
theorem record_catalogue (session : Session) (filling : Filling) :
    (session.record filling).1.catalogue = session.catalogue := by
  cases failed : filling.failure <;> simp [record, failed]

@[simp]
theorem record_error_isSome (session : Session) (filling : Filling) :
    (session.record filling).2.isSome = filling.failure.isSome := by
  cases failed : filling.failure <;> simp [record, failed]

theorem record_error_eq_none_iff (session : Session) (filling : Filling) :
    (session.record filling).2 = none ↔ filling.failure = none := by
  cases failed : filling.failure <;> simp [record, failed]

@[simp]
theorem record_place (session : Session) (filling : Filling) (placement : Placement) :
    session.record (filling.place placement) = session.record filling := by
  simp [record]

theorem record_append (session : Session) {first : Filling} (rest : Filling)
    (going : first.failure = none) :
    session.record (first ++ rest) = (session.record first).1.record rest := by
  rw [Filling.append_of_success rest going]
  cases failed : rest.failure <;> simp [record, going, failed]

end Session

theorem Field.applyAll_items (field : Field) {edits : List Edit} (some : edits ≠ [])
    (items : ∀ edit ∈ edits, ∃ fields, edit = .items fields) :
    field.applyAll edits = field.apply (.items (edits.flatMap Edit.fields)) := by
  induction edits generalizing field with
  | nil => exact absurd rfl some
  | cons edit rest ih =>
    obtain ⟨⟨fields, rfl⟩, others⟩ := List.forall_mem_cons.mp items
    cases rest with
    | nil => simp [Edit.fields]
    | cons next more =>
      rw [applyAll_cons, ih (field.apply (.items fields)) (by simp) others]
      simp [apply, members, Edit.fields]

namespace Group

variable {sort : Group} {catalogue : Catalogue} {opened : List String} {node : Node}

theorem fill_edits_items (done : ((Rule.group sort).fill catalogue opened node).failure = none) :
    ((Rule.group sort).fill catalogue opened node).edits ≠ [] ∧
      ∀ edit ∈ ((Rule.group sort).fill catalogue opened node).edits,
        ∃ fields, edit = .items fields := by
  rw [Rule.fill_edits done]
  refine ⟨by simp [Rule.steps, Step.fill], fun edit made => ?_⟩
  obtain ⟨step, member, made⟩ := List.mem_flatMap.mp made
  rcases List.mem_cons.mp member with rfl | member
  · exact ⟨[], by simpa [Step.fill] using made⟩
  · obtain ⟨child, _, member⟩ := List.mem_flatMap.mp member
    unfold Rule.groupChild at member
    split at member
    · simp at member
    · split at member
      · cases List.mem_singleton.mp member
        simp only [Step.fill, Filling.place] at made
        split at made
        · simp at made
        · exact ⟨_, List.mem_singleton.mp made⟩
      · cases List.mem_singleton.mp member
        simp [Step.fill, Filling.note] at made

end Group

namespace Draft

variable {catalogue : Catalogue} {opened : List String} {draft : Draft} {rule : Rule}
  {node : Node}

@[simp]
theorem settle_catalogue (draft : Draft) (filling : Filling) :
    (draft.settle filling).session.catalogue = draft.session.catalogue :=
  draft.session.record_catalogue filling

@[simp]
theorem settle_error_isSome (draft : Draft) (filling : Filling) :
    (draft.settle filling).error.isSome = filling.failure.isSome :=
  draft.session.record_error_isSome filling

theorem settle_empty (going : draft.error = none) : draft.settle {} = draft := by
  cases draft
  simp_all [settle, Session.record]

theorem settle_append {first : Filling} (rest : Filling) (going : first.failure = none) :
    draft.settle (first ++ rest) = (draft.settle first).settle rest := by
  simp only [settle, Session.record_append _ rest going]
  simp [Filling.append_of_success rest going]

theorem settle_place (filling : Filling) (placement : Placement) :
    draft.settle (filling.place placement) =
      { draft.settle filling with
        field := draft.field.applyAll (filling.place placement).edits } := by
  simp only [settle, Session.record_place]

def push (draft : Draft) (tasks : List Task) : Draft := { draft with tasks := tasks ++ draft.tasks }

theorem enter_eq_push (draft : Draft) (going : draft.error = none) {placement : Placement}
    (whole : placement = .whole → ∃ sort, rule = .group sort) (node : Node) :
    ∃ (inside : Draft) (tasks : List Task), inside.error = none ∧
      inside.session = draft.session ∧ inside.opened = draft.opened ∧
      draft.enter rule node placement = inside.push (.read rule node :: tasks) ∧
      Reaches next ((inside.settle (rule.fill catalogue opened node)).push tasks)
        (draft.settle ((rule.fill catalogue opened node).place placement)) := by
  rw [settle_place]
  cases placement with
  | direct => exact ⟨draft, [], going, rfl, rfl, rfl, .refl⟩
  | listed =>
    exact ⟨{ draft with field := draft.field.apply (.items []) }, [], going, rfl, rfl, rfl, .refl⟩
  | whole =>
    obtain ⟨sort, rfl⟩ := whole rfl
    refine ⟨{ draft with field := {}, around := draft.field :: draft.around }, [.place .whole],
      going, rfl, rfl, rfl, .single ?_⟩
    cases done : ((Rule.group sort).fill catalogue opened node).failure with
    | none =>
      obtain ⟨some, items⟩ := Group.fill_edits_items done
      -- Items that are handed on together stand where they would have been put one by one.
      have together : draft.field.apply (.items (({} : Field).applyAll
          ((Rule.group sort).fill catalogue opened node).edits).members) =
          draft.field.applyAll ((Rule.group sort).fill catalogue opened node).edits := by
        rw [Field.members_applyAll, Field.applyAll_items draft.field some items]
        rfl
      simp [push, next, perform, handOn, settle, done, Filling.place, together]
    | some trail => simp [push, next, perform, handOn, settle, done, Filling.place]
  | item field =>
    refine ⟨{ draft with field, around := draft.field :: draft.around }, [.place (.item field)],
      going, rfl, rfl, rfl, .single ?_⟩
    cases done : (rule.fill catalogue opened node).failure <;>
      simp [push, next, perform, handOn, settle, done, Filling.place]

theorem next_push_step (draft : Draft) (going : draft.error = none) (step : Step) :
    (draft.push [.step step]).next = some (draft.carry step) := by
  change some (if draft.error.isSome then draft else draft.carry step) = some (draft.carry step)
  rw [going]
  rfl

theorem next_done {step : Step} {filling : Filling} (going : draft.error = none)
    (done : step.course draft.opened = .done filling) :
    (draft.push [.step step]).next = some (draft.settle filling) := by
  have remarked (cause : Cause) : draft.remark cause = draft.settle (.note cause) := by
    simp [remark, settle, Session.record, Filling.note, going]
  rw [draft.next_push_step going]
  rcases Step.done_cases done with ⟨change, rfl, rfl⟩ | ⟨cause, rfl, rfl⟩ | ⟨rfl, rfl⟩ |
    ⟨rule, definition, placement, name, rfl, named, met, rfl⟩
  · simp [carry, settle, Session.record, going]
  · rw [carry, remarked]
  · simp [carry, settle, Session.record]
  · simp only [carry, named, if_neg (not_not_intro met), remarked]

theorem next_reading {step : Step} {later : List String} {visited : Rule} {placement : Placement}
    (going : draft.error = none)
    (reading : step.course draft.opened = .reading later visited node placement)
    (hands : rule.Hands visited placement) :
    ∃ (inside : Draft) (tasks : List Task), inside.error = none ∧
      inside.session = draft.session ∧ inside.opened = later ∧
      (draft.push [.step step]).next = some (inside.push (.read visited node :: tasks)) ∧
      Reaches next ((inside.settle (visited.fill catalogue later node)).push tasks)
        (draft.settle ((visited.fill catalogue later node).place placement)) := by
  have whole : placement = .whole → ∃ sort, visited = .group sort := by
    rintro rfl
    exact hands
  rw [draft.next_push_step going]
  rcases Step.reading_cases reading with ⟨rfl, rfl⟩ | ⟨rfl, named, rfl⟩ |
    ⟨name, rfl, named, closed, rfl⟩
  · obtain ⟨inside, tasks, still, same, already, entered, left⟩ :=
      draft.enter_eq_push going whole node
    exact ⟨inside, tasks, still, same, already, congrArg some entered, left⟩
  · obtain ⟨inside, tasks, still, same, already, entered, left⟩ :=
      draft.enter_eq_push going whole node
    refine ⟨inside, tasks, still, same, already, ?_, left⟩
    simp only [carry, named, entered]
  · obtain ⟨inside, tasks, still, same, already, entered, left⟩ :=
      enter_eq_push { draft with opened := name :: draft.opened, tasks := .close :: draft.tasks }
        going whole node
    refine ⟨inside, tasks, still, same, already, ?_, left.tail ?_⟩
    · simp only [carry, named, if_pos closed, entered]
    -- What is opened for the reading is closed after it, failed or not.
    · rfl

def machine (catalogue : Catalogue) : Machine Draft where
  catalogue
  next
  Going draft := draft.error = none ∧ draft.session.catalogue = catalogue
  opened := Draft.opened
  push
  settle
  opened_push _ _ := rfl
  going_push going _ := going
  push_nil _ := rfl
  push_push draft rest tasks := by simp [push]
  opened_settle _ _ := rfl
  going_settle going done := by simp [settle, Session.record, done, going.2]
  settle_push _ _ _ := rfl
  settle_empty going := settle_empty going.1
  settle_append _ _ rest done := settle_append rest done
  next_idle draft filling step tasks failed := by
    simp [push, next, perform, settle_error_isSome, failed]
  next_done going := next_done going.1
  next_reading := by
    rintro draft step later rule visited node placement ⟨going, same⟩ reading hands
    obtain ⟨inside, tasks, still, kept, already, entered, left⟩ :=
      next_reading going reading hands
    exact ⟨inside, tasks, ⟨still, by rw [kept, same]⟩, already, entered, left⟩
  next_read := by
    rintro draft rule node ⟨going, same⟩
    refine ⟨{ draft with session.path := draft.session.path ++ [node] }, ⟨going, same⟩, rfl, ?_,
      fun filling => ?_⟩
    · simp [push, next, perform, going, same]
    · cases failed : filling.failure <;>
        simp [push, next, perform, settle, Session.record, Filling.under, failed, Function.comp_def]

theorem reaches_read (draft : Draft) (going : draft.error = none) (rule : Rule) (node : Node) :
    Reaches next (draft.push [.read rule node])
      (draft.settle (rule.fill draft.session.catalogue draft.opened node)) :=
  (machine draft.session.catalogue).reaches_read draft.opened rule node draft ⟨going, rfl⟩ rfl

theorem reaches_step (draft : Draft) (going : draft.error = none) {step : Step}
    (hands : step.Hands rule) :
    Reaches next (draft.push [.step step])
      (draft.settle (step.fill draft.session.catalogue draft.opened)) :=
  let machine := machine draft.session.catalogue
  machine.reaches_step ⟨going, rfl⟩ hands (.of_forall machine.reaches_read draft.opened step)

end Draft

end SchemaForms
