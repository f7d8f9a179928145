import Mathlib.Computability.StateTransition
import SchemaForms.Proofs.StepPlacement

set_option autoImplicit false

namespace SchemaForms

open StateTransition

inductive Task
  | step (step : Step)
  | read (rule : Rule) (node : Node)
  -- The node read last is done.
  | leave
  -- The type opened last is done.
  | close
  -- The field being filled is done and goes into the one around it.
  | place (placement : Placement)

/-- What a step comes to when it is carried out: to a filling, or to the reading of a node. -/
inductive Step.Course
  | done (filling : Filling)
  | reading (opened : List String) (rule : Rule) (node : Node) (placement : Placement)

def Step.course (opened : List String) : Step → Step.Course
  | .edit change => .done { edits := [change] }
  | .note cause => .done (.note cause)
  | .refuse => .done { failure := some [] }
  | .visit rule child placement => .reading opened rule child placement
  | .define rule definition placement =>
    match definition.attr "name" with
    | none => .reading opened rule definition placement
    | some name =>
      if name ∉ opened then .reading (name :: opened) rule definition placement
      else .done (.note (.recursiveType name))

namespace Step

variable {catalogue : Catalogue} {opened later : List String} {rule visited : Rule} {node : Node}
  {placement : Placement} {step : Step}

theorem fill_eq_course (step : Step) :
    step.fill catalogue opened =
      match step.course opened with
      | .done filling => filling
      | .reading later visited node placement =>
        (visited.fill catalogue later node).place placement := by
  cases step with
  | edit | note | refuse | visit => rfl
  | define visited definition placement =>
    cases named : definition.attr "name" with
    | none => simp only [fill, course, named]
    | some name =>
      simp only [fill, course, named]
      split <;> rfl

theorem done_cases {filling : Filling} (done : step.course opened = .done filling) :
    (∃ change, step = .edit change ∧ filling = { edits := [change] }) ∨
      (∃ cause, step = .note cause ∧ filling = .note cause) ∨
      (step = .refuse ∧ filling = { failure := some [] }) ∨
      ∃ rule definition placement name, step = .define rule definition placement ∧
        definition.attr "name" = some name ∧ name ∈ opened ∧
        filling = .note (.recursiveType name) := by
  cases step with
  | edit change =>
    cases done
    exact .inl ⟨change, rfl, rfl⟩
  | note cause =>
    cases done
    exact .inr (.inl ⟨cause, rfl, rfl⟩)
  | refuse =>
    cases done
    exact .inr (.inr (.inl ⟨rfl, rfl⟩))
  | visit => cases done
  | define rule definition placement =>
    cases named : definition.attr "name" with
    | none => simp [course, named] at done
    | some name =>
      simp only [course, named] at done
      split at done
      · cases done
      · next met =>
        cases done
        exact .inr (.inr (.inr ⟨rule, definition, placement, name, rfl, named,
          Decidable.not_not.mp met, rfl⟩))

theorem reading_cases (reading : step.course opened = .reading later visited node placement) :
    (step = .visit visited node placement ∧ later = opened) ∨
      (step = .define visited node placement ∧ node.attr "name" = none ∧ later = opened) ∨
      ∃ name, step = .define visited node placement ∧ node.attr "name" = some name ∧
        name ∉ opened ∧ later = name :: opened := by
  cases step with
  | edit | note | refuse => cases reading
  | visit =>
    cases reading
    exact .inl ⟨rfl, rfl⟩
  | define rule definition target =>
    cases named : definition.attr "name" with
    | none =>
      simp only [course, named] at reading
      cases reading
      exact .inr (.inl ⟨rfl, named, rfl⟩)
    | some name =>
      simp only [course, named] at reading
      split at reading
      · next closed =>
        cases reading
        exact .inr (.inr ⟨name, rfl, named, closed, rfl⟩)
      · cases reading

theorem Inner.of_reading {motive : List String → Rule → Node → Prop}
    (inner : step.Inner motive opened)
    (reading : step.course opened = .reading later visited node placement) :
    motive later visited node := by
  rcases reading_cases reading with ⟨rfl, rfl⟩ | ⟨rfl, named, rfl⟩ | ⟨name, rfl, named, closed, rfl⟩
  · exact inner
  · simpa only [Step.Inner, named] using inner
  · simp only [Step.Inner, named] at inner
    exact inner closed

theorem Hands.of_reading (hands : step.Hands rule)
    (reading : step.course opened = .reading later visited node placement) :
    rule.Hands visited placement := by
  rcases reading_cases reading with ⟨rfl, _⟩ | ⟨rfl, _⟩ | ⟨_, rfl, _⟩ <;> exact hands

end Step

/-- A machine that has its tasks on a stack and carries out the steps of a reading one by one. -/
structure Machine (State : Type) where
  catalogue : Catalogue
  next : State → Option State
  -- No step has failed so far.
  Going : State → Prop
  opened : State → List String
  push : State → List Task → State
  -- The state that a reading with this filling has to end in.
  settle : State → Filling → State
  opened_push : ∀ state tasks, opened (push state tasks) = opened state
  going_push : ∀ {state}, Going state → ∀ tasks, Going (push state tasks)
  push_nil : ∀ state, push state [] = state
  push_push : ∀ state rest tasks, push (push state rest) tasks = push state (tasks ++ rest)
  opened_settle : ∀ state filling, opened (settle state filling) = opened state
  going_settle : ∀ {state filling}, Going state → filling.failure = none →
    Going (settle state filling)
  settle_push : ∀ state tasks filling, settle (push state tasks) filling =
    push (settle state filling) tasks
  settle_empty : ∀ {state}, Going state → settle state {} = state
  settle_append : ∀ state {first} rest, first.failure = none →
    settle state (first ++ rest) = settle (settle state first) rest
  -- Once a step has failed, those that are left have no effect.
  next_idle : ∀ state {filling : Filling} step tasks, filling.failure.isSome →
    next (push (settle state filling) (.step step :: tasks)) =
      some (push (settle state filling) tasks)
  next_done : ∀ {state step filling}, Going state → step.course (opened state) = .done filling →
    next (push state [.step step]) = some (settle state filling)
  -- A reading goes on inside, and what is left to do after it puts the filling in its place.
  next_reading : ∀ {state step later} {rule visited : Rule} {node placement}, Going state →
    step.course (opened state) = .reading later visited node placement →
    rule.Hands visited placement →
    ∃ inside tasks, Going inside ∧ opened inside = later ∧
      next (push state [.step step]) = some (push inside (.read visited node :: tasks)) ∧
      Reaches next (push (settle inside (visited.fill catalogue later node)) tasks)
        (settle state ((visited.fill catalogue later node).place placement))
  next_read : ∀ {state} rule node, Going state →
    ∃ inside, Going inside ∧ opened inside = opened state ∧
      next (push state [.read rule node]) =
        some (push inside ((rule.steps catalogue node).map .step ++ [.leave])) ∧
      ∀ filling, next (push (settle inside filling) [.leave]) =
        some (settle state (filling.under node))

namespace Machine

variable {State : Type} (machine : Machine State)

/-- Begun with reading `node`, the machine ends that reading with what `fill` says. -/
def Mirrors (opened : List String) (rule : Rule) (node : Node) : Prop :=
  ∀ state, machine.Going state → machine.opened state = opened →
    Reaches machine.next (machine.push state [.read rule node])
      (machine.settle state (rule.fill machine.catalogue opened node))

theorem reaches_idle (state : State) {filling : Filling} (failed : filling.failure.isSome = true)
    (steps : List Step) :
    Reaches machine.next (machine.push (machine.settle state filling) (steps.map .step))
      (machine.settle state filling) := by
  induction steps with
  | nil =>
    rw [List.map_nil, machine.push_nil]
    exact .refl
  | cons step rest ih =>
    exact .head (machine.next_idle state step (rest.map .step) failed) ih

theorem reaches_step {state : State} (going : machine.Going state) {rule : Rule} {step : Step}
    (hands : step.Hands rule) (inner : step.Inner machine.Mirrors (machine.opened state)) :
    Reaches machine.next (machine.push state [.step step])
      (machine.settle state (step.fill machine.catalogue (machine.opened state))) := by
  cases course : step.course (machine.opened state) with
  | done filling =>
    rw [Step.fill_eq_course, course]
    exact .single (machine.next_done going course)
  | reading later visited node placement =>
    rw [Step.fill_eq_course, course]
    obtain ⟨inside, tasks, still, already, entered, left⟩ :=
      machine.next_reading going course (hands.of_reading course)
    have reading := inner.of_reading course (machine.push inside tasks)
      (machine.going_push still tasks) ((machine.opened_push inside tasks).trans already)
    rw [machine.push_push, List.singleton_append, machine.settle_push] at reading
    exact .head entered (reading.trans left)

theorem reaches_steps {state : State} (going : machine.Going state) {rule : Rule}
    (steps : List Step) (hands : ∀ step ∈ steps, step.Hands rule)
    (inner : ∀ step ∈ steps, step.Inner machine.Mirrors (machine.opened state)) :
    Reaches machine.next (machine.push state (steps.map .step))
      (machine.settle state
        (.gather (Step.fill machine.catalogue (machine.opened state)) steps)) := by
  induction steps generalizing state with
  | nil =>
    rw [List.map_nil, machine.push_nil, Filling.gather_nil, machine.settle_empty going]
    exact .refl
  | cons step rest ih =>
    obtain ⟨one, more⟩ := List.forall_mem_cons.mp inner
    obtain ⟨handsOne, handsMore⟩ := List.forall_mem_cons.mp hands
    rw [Filling.gather_cons]
    have first := machine.reaches_step (machine.going_push going (rest.map .step)) handsOne
      (by rwa [machine.opened_push])
    rw [machine.push_push, List.singleton_append, machine.settle_push, machine.opened_push] at first
    refine first.trans ?_
    -- `gather` stops at the first failure; the machine runs idle through the steps after it.
    cases failed : (step.fill machine.catalogue (machine.opened state)).failure with
    | none =>
      have onwards := ih (machine.going_settle going failed) handsMore
        (by rwa [machine.opened_settle])
      rwa [machine.opened_settle, ← machine.settle_append state _ failed] at onwards
    | some trail =>
      rw [Filling.append_of_failure _ (by simp [failed])]
      exact machine.reaches_idle state (by simp [failed]) rest

theorem reaches_read (opened : List String) (rule : Rule) (node : Node) :
    machine.Mirrors opened rule node := by
  -- The induction is on how `fill` recurses: fewer names left to open, or a smaller node.
  revert opened rule node
  refine @Rule.fill_induction machine.catalogue _ ?_
  intro opened rule node inner state going same
  subst same
  rw [Rule.fill_eq]
  obtain ⟨inside, still, already, entered, left⟩ := machine.next_read rule node going
  have steps := machine.reaches_steps (machine.going_push still [.leave])
    (rule.steps machine.catalogue node) (Rule.hands_steps rule)
    (by rwa [machine.opened_push, already])
  rw [machine.push_push, machine.settle_push, machine.opened_push, already] at steps
  exact .head entered (steps.tail (left _))

theorem reaches_inner {state : State} (going : machine.Going state) {rule visited : Rule}
    {node child : Node} {before after : List Step} {step : Step} {later : List String}
    {placement : Placement}
    (steps : rule.steps machine.catalogue node = before ++ step :: after)
    (done : ∀ earlier ∈ before,
      (earlier.fill machine.catalogue (machine.opened state)).failure = none)
    (reading : step.course (machine.opened state) = .reading later visited child placement) :
    ∃ inside tasks, machine.Going inside ∧ machine.opened inside = later ∧
      Reaches machine.next (machine.push state [.read rule node])
        (machine.push inside (.read visited child :: tasks)) := by
  have hands : ∀ step ∈ rule.steps machine.catalogue node, step.Hands rule := rule.hands_steps
  rw [steps, List.forall_mem_append, List.forall_mem_cons] at hands
  obtain ⟨inside, still, already, entered, _⟩ := machine.next_read rule node going
  let rest := machine.push inside (after.map .step ++ [.leave])
  have going : machine.Going rest := machine.going_push still _
  have opened : machine.opened rest = machine.opened state :=
    (machine.opened_push inside _).trans already
  have first := machine.reaches_steps (machine.going_push going [.step step]) before hands.1
    fun earlier _ => .of_forall machine.reaches_read _ earlier
  rw [machine.settle_push, machine.opened_push, opened] at first
  have settled := machine.going_settle going (Filling.gather_failure_eq_none_iff.mpr done)
  obtain ⟨inner, tasks, goes, opens, begun, _⟩ := machine.next_reading settled
    (by rwa [machine.opened_settle, opened]) (hands.2.1.of_reading reading)
  refine ⟨inner, tasks, goes, opens, .head ?_ (first.tail begun)⟩
  rw [entered, steps, machine.push_push, machine.push_push]
  simp

end Machine

end SchemaForms
