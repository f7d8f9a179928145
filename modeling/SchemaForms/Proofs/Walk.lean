import SchemaForms.Proofs.Machine

set_option autoImplicit false

namespace SchemaForms

open StateTransition

structure Walk where
  path : Trail
  opened : List String := []
  edits : List Edit := []
  around : List (List Edit) := []
  notes : List Note := []
  failure : Option Trail := none
  tasks : List Task

namespace Walk

def remark (walk : Walk) (cause : Cause) : Walk :=
  { walk with notes := walk.notes ++ [⟨walk.path, cause⟩] }

def nest (walk : Walk) (tasks : List Task) : Walk :=
  { walk with
    edits := []
    around := walk.edits :: walk.around
    tasks := tasks ++ walk.tasks }

def carry (walk : Walk) : Step → Walk
  | .edit change => { walk with edits := walk.edits ++ [change] }
  | .note cause => walk.remark cause
  | .refuse => { walk with failure := some walk.path }
  | .visit rule child placement => walk.nest [.read rule child, .place placement]
  | .define rule definition placement =>
    match definition.attr "name" with
    | none => walk.nest [.read rule definition, .place placement]
    | some name =>
      if name ∉ walk.opened then
        { walk with opened := name :: walk.opened }.nest
          [.read rule definition, .close, .place placement]
      else walk.remark (.recursiveType name)

def handOn (walk : Walk) (placement : Placement) : Walk :=
  match walk.around with
  | [] => walk
  | outer :: around =>
    let inner : Filling := { edits := walk.edits, failure := walk.failure }
    { walk with edits := outer ++ (inner.place placement).edits, around }

def perform (catalogue : Catalogue) (walk : Walk) : Task → Walk
  -- After a failure types are closed and fields handed on, but the path stays as it is.
  | .step step => if walk.failure.isSome then walk else walk.carry step
  | .read rule node =>
    if walk.failure.isSome then walk
    else
      { walk with
        path := walk.path ++ [node]
        tasks := (rule.steps catalogue node).map .step ++ .leave :: walk.tasks }
  | .leave => if walk.failure.isSome then walk else { walk with path := walk.path.dropLast }
  | .close => { walk with opened := walk.opened.tail }
  | .place placement => walk.handOn placement

def next (catalogue : Catalogue) (walk : Walk) : Option Walk :=
  match walk.tasks with
  | [] => none
  | task :: tasks => some ({ walk with tasks }.perform catalogue task)

def absorb (walk : Walk) (filling : Filling) : Walk :=
  { walk with
    path := walk.path ++ filling.failure.getD []
    edits := walk.edits ++ filling.edits
    notes := walk.notes ++ filling.notes.map fun note =>
      { note with trail := walk.path ++ note.trail }
    failure := filling.failure.map (walk.path ++ ·) }

section Absorb

variable {walk : Walk} {first : Filling}

@[simp]
theorem absorb_opened (walk : Walk) (filling : Filling) :
    (walk.absorb filling).opened = walk.opened := rfl

@[simp]
theorem absorb_tasks (walk : Walk) (filling : Filling) :
    (walk.absorb filling).tasks = walk.tasks := rfl

@[simp]
theorem absorb_failure_isSome (walk : Walk) (filling : Filling) :
    (walk.absorb filling).failure.isSome = filling.failure.isSome := by
  simp [absorb]

theorem absorb_empty (going : walk.failure = none) : walk.absorb {} = walk := by
  cases walk
  simp_all [absorb]

theorem absorb_append (rest : Filling) (going : first.failure = none) :
    walk.absorb (first ++ rest) = (walk.absorb first).absorb rest := by
  simp [Filling.append_of_success rest going, absorb, going]

end Absorb

variable {catalogue : Catalogue} {walk : Walk}

def push (walk : Walk) (tasks : List Task) : Walk := { walk with tasks := tasks ++ walk.tasks }

theorem handOn_absorb (walk : Walk) (around : List Edit) (filling : Filling)
    (placement : Placement) :
    ({ walk with edits := [], around := around :: walk.around }.absorb filling).handOn placement =
      { walk with edits := around }.absorb (filling.place placement) := by
  have placed : (Filling.place
      { edits := filling.edits, failure := filling.failure.map (walk.path ++ ·) } placement).edits =
      (filling.place placement).edits := by
    apply Filling.place_edits placement
    · rfl
    · simp
  simp [handOn, absorb, placed]

theorem next_done {step : Step} {filling : Filling} (going : walk.failure = none)
    (done : step.course walk.opened = .done filling) :
    (walk.push [.step step]).next catalogue = some (walk.absorb filling) := by
  rcases Step.done_cases done with ⟨change, rfl, rfl⟩ | ⟨cause, rfl, rfl⟩ | ⟨rfl, rfl⟩ |
    ⟨rule, definition, placement, name, rfl, named, met, rfl⟩
  · simp [push, next, perform, carry, absorb, going]
  · simp [push, next, perform, carry, remark, Filling.note, absorb, going]
  · simp [push, next, perform, carry, absorb, going]
  · simp [push, next, perform, carry, remark, Filling.note, absorb, going, named, met]

theorem next_reading {step : Step} {later : List String} {visited : Rule} {node : Node}
    {placement : Placement} (going : walk.failure = none)
    (reading : step.course walk.opened = .reading later visited node placement) :
    ∃ (inside : Walk) (tasks : List Task), inside.failure = none ∧ inside.opened = later ∧
      (walk.push [.step step]).next catalogue = some (inside.push (.read visited node :: tasks)) ∧
      Reaches (next catalogue) ((inside.absorb (visited.fill catalogue later node)).push tasks)
        (walk.absorb ((visited.fill catalogue later node).place placement)) := by
  have left (filling : Filling) : Reaches (next catalogue)
      (({ walk with edits := [], around := walk.edits :: walk.around }.absorb filling).push
        [.place placement])
      (walk.absorb (filling.place placement)) :=
    .single (congrArg some (walk.handOn_absorb walk.edits filling placement))
  rcases Step.reading_cases reading with ⟨rfl, rfl⟩ | ⟨rfl, named, rfl⟩ |
    ⟨name, rfl, named, closed, rfl⟩
  · refine ⟨{ walk with edits := [], around := walk.edits :: walk.around }, [.place placement],
      going, rfl, ?_, left _⟩
    simp [push, next, perform, carry, nest, going]
  · refine ⟨{ walk with edits := [], around := walk.edits :: walk.around }, [.place placement],
      going, rfl, ?_, left _⟩
    simp [push, next, perform, carry, nest, going, named]
  · refine ⟨{ walk with
        opened := name :: walk.opened, edits := [], around := walk.edits :: walk.around },
      [.close, .place placement], going, rfl, ?_, .head rfl (left _)⟩
    simp [push, next, perform, carry, nest, going, named, closed]

def machine (catalogue : Catalogue) : Machine Walk where
  catalogue
  next := next catalogue
  Going walk := walk.failure = none
  opened := Walk.opened
  push
  settle := absorb
  opened_push _ _ := rfl
  going_push going _ := going
  push_nil _ := rfl
  push_push walk rest tasks := by simp [push]
  opened_settle _ _ := rfl
  going_settle _ done := by simp [absorb, done]
  settle_push _ _ _ := rfl
  settle_empty := absorb_empty
  settle_append _ _ rest done := absorb_append rest done
  next_idle walk filling step tasks failed := by
    simp [push, next, perform, absorb_failure_isSome, failed]
  next_done := next_done
  next_reading going reading _ := next_reading going reading
  next_read := by
    intro walk rule node going
    refine ⟨{ walk with path := walk.path ++ [node] }, going, rfl, ?_, fun filling => ?_⟩
    · simp [push, next, perform, going]
    · cases failed : filling.failure <;>
        simp [push, next, perform, absorb, Filling.under, failed, Function.comp_def]

theorem reaches_read (walk : Walk) (going : walk.failure = none) (rule : Rule) (node : Node) :
    Reaches (next catalogue) (walk.push [.read rule node])
      (walk.absorb (rule.fill catalogue walk.opened node)) :=
  (machine catalogue).reaches_read walk.opened rule node walk going rfl

end Walk

end SchemaForms
