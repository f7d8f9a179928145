import SchemaForms.Proofs.WalkPosition

set_option autoImplicit false

namespace SchemaForms

open StateTransition

/-- The declarations that a form has elements for: the root and the members of groups. -/
def Document.Declares (document : Document) (element node : Node) : Prop :=
  node = element ∨
    ∃ group ∈ document.root.preorder,
      (group.tag = .all ∨ group.tag = .sequence ∨ group.tag = .choice) ∧
        node ∈ group.elements ∧ node.nameContains "element" = true

/-- Compiling the document comes to read `node` as an element declaration. -/
def Document.Reads (document : Document) (node : Node) : Prop :=
  ∃ element walk grouped tasks, document.rootElement = .ok element ∧
    Reaches (Walk.next (.ofDocument document)) (document.walk element) walk ∧
    walk.failure = none ∧ walk.tasks = .read (.elementDecl grouped) node :: tasks

inductive Orderly (document : Document) (element : Node) :
    Trail → List String → List Task → Prop
  | done : Orderly document element [document.root] [] []
  | step {above : Trail} {node : Node} {opened : List String} {tasks : List Task} (rule : Rule)
      {step : Step} (suits : rule.Suits node)
      (position : Position document element above node opened)
      (came : (∃ grouped, rule = .elementDecl grouped) → document.Reads node)
      (fits : step ∈ rule.steps (.ofDocument document) node)
      (rest : Orderly document element (above ++ [node]) opened tasks) :
      Orderly document element (above ++ [node]) opened (.step step :: tasks)
  | read {above : Trail} {node : Node} {opened : List String} {tasks : List Task} {rule : Rule}
      (suits : rule.Suits node) (position : Position document element above node opened)
      (declared : (∃ grouped, rule = .elementDecl grouped) → document.Declares element node)
      (rest : Orderly document element above opened tasks) :
      Orderly document element above opened (.read rule node :: tasks)
  | leave {above : Trail} {node : Node} {opened : List String} {tasks : List Task}
      (position : Position document element above node opened)
      (rest : Orderly document element above opened tasks) :
      Orderly document element (above ++ [node]) opened (.leave :: tasks)
  | close {path : Trail} {opened : List String} {tasks : List Task} {name : String}
      (closed : name ∉ opened) (rest : Orderly document element path opened tasks) :
      Orderly document element path (name :: opened) (.close :: tasks)
  | place {path : Trail} {opened : List String} {tasks : List Task} {placement : Placement}
      (rest : Orderly document element path opened tasks) :
      Orderly document element path opened (.place placement :: tasks)

namespace Orderly

variable {document : Document} {element node : Node} {path above : Trail} {opened : List String}
  {tasks : List Task}

theorem nodup (orderly : Orderly document element path opened tasks) : opened.Nodup := by
  induction orderly with
  | done => exact .nil
  | step rule suits position => exact position.nodup
  | read suits position => exact position.nodup
  | leave position => exact position.nodup
  | close closed rest ih => exact List.nodup_cons.mpr ⟨closed, ih⟩
  | place rest ih => exact ih

theorem depth_le (orderly : Orderly document element path opened tasks) :
    path.length ≤ ((Catalogue.ofDocument document).size + 1) * document.root.height := by
  induction orderly with
  | done =>
    have levels : 1 ≤ document.root.height := by
      have := Node.height_eq document.root
      omega
    exact Nat.mul_le_mul (Nat.succ_le_succ (Nat.zero_le _)) levels
  | step rule suits position => exact position.depth_le
  | read suits position declared rest ih => exact ih
  | leave position => exact position.depth_le
  | close closed rest ih => exact ih
  | place rest ih => exact ih

theorem steps {rule : Rule} (suits : rule.Suits node)
    (position : Position document element above node opened)
    (came : (∃ grouped, rule = .elementDecl grouped) → document.Reads node)
    (rest : Orderly document element (above ++ [node]) opened tasks) (steps : List Step)
    (fits : ∀ step ∈ steps, step ∈ rule.steps (.ofDocument document) node) :
    Orderly document element (above ++ [node]) opened (steps.map .step ++ tasks) := by
  induction steps with
  | nil => exact rest
  | cons step more ih =>
    obtain ⟨first, fits⟩ := List.forall_mem_cons.mp fits
    exact .step rule suits position came first (ih fits)

end Orderly

/-- What is known of a note: where it was made, and what the node there holds. -/
def Note.Sound (document : Document) (element : Node) (note : Note) : Prop :=
  ∃ above node opened rule, note.trail = above ++ [node] ∧
    Position document element above node opened ∧ Rule.Suits rule node ∧
    (note.cause.At (.ofDocument document) rule node ∨
      ∃ name definition, note.cause = .recursiveType name ∧ name ∈ opened ∧
        node.Opens (.ofDocument document) definition ∧ definition.attr "name" = some name)

def Trail.Refused (document : Document) (element : Node) (trail : Trail) : Prop :=
  ∃ above node opened, trail = above ++ [node] ∧
    Position document element above node opened ∧ document.Reads node ∧
    node.attr "name" = none

structure Walk.Sound (document : Document) (element : Node) (walk : Walk) : Prop where
  -- After a failure the path stays where it was, but the tasks go on being taken off.
  orderly : ∃ path, Orderly document element path walk.opened walk.tasks ∧
    (walk.failure = none → path = walk.path)
  noted : ∀ note ∈ walk.notes, note.Sound document element
  refused : ∀ trail ∈ walk.failure, trail = walk.path ∧ trail.Refused document element

namespace Walk.Sound

variable {document : Document} {element : Node} {walk : Walk}

theorem nodup (sound : walk.Sound document element) : walk.opened.Nodup := by
  obtain ⟨path, orderly, _⟩ := sound.orderly
  exact orderly.nodup

theorem depth_le (sound : walk.Sound document element) :
    walk.path.length ≤ ((Catalogue.ofDocument document).size + 1) * document.root.height := by
  cases failed : walk.failure with
  | none =>
    obtain ⟨path, orderly, same⟩ := sound.orderly
    rw [← same failed]
    exact orderly.depth_le
  -- The path of a failed walk is where it was refused, not where the tasks have got to.
  | some trail =>
    obtain ⟨same, above, node, opened, place, position, _⟩ := sound.refused trail failed
    rw [← same, place]
    exact position.depth_le

theorem initial (found : document.rootElement = .ok element) :
    (document.walk element).Sound document element := by
  have tagged : element.tag = .element := by
    simpa using List.find?_some ((document.rootElement_eq_ok_iff element).mp found).2
  have named : element.nameContains "element" = true := by
    rw [Node.nameContains, Node.name_eq_of_tag tagged]
    decide
  refine ⟨⟨[document.root], ?_, fun _ => rfl⟩, by simp [Document.walk], by simp [Document.walk]⟩
  exact .read named (Position.initial found) (fun _ => .inl rfl) .done

end Walk.Sound

structure Walk.Stands (document : Document) (element : Node) (walk : Walk) (above : Trail)
    (node : Node) (rule : Rule) : Prop where
  going : walk.failure = none
  place : walk.path = above ++ [node]
  suits : rule.Suits node
  position : Position document element above node walk.opened
  came : (∃ grouped, rule = .elementDecl grouped) → document.Reads node
  rest : Orderly document element (above ++ [node]) walk.opened walk.tasks
  noted : ∀ note ∈ walk.notes, note.Sound document element

namespace Walk.Stands

variable {document : Document} {element node : Node} {walk : Walk} {above : Trail} {rule : Rule}

theorem remark (stands : walk.Stands document element above node rule) {cause : Cause}
    (holds : cause.At (.ofDocument document) rule node ∨
      ∃ name definition, cause = .recursiveType name ∧ name ∈ walk.opened ∧
        node.Opens (.ofDocument document) definition ∧ definition.attr "name" = some name) :
    (walk.remark cause).Sound document element := by
  refine ⟨⟨above ++ [node], stands.rest, fun _ => stands.place.symm⟩, ?_, ?_⟩
  · intro note member
    rcases List.mem_append.mp member with member | member
    · exact stands.noted note member
    · cases List.mem_singleton.mp member
      exact ⟨above, node, walk.opened, rule, stands.place, stands.position, stands.suits, holds⟩
  · simp [Walk.remark, stands.going]

theorem visit (stands : walk.Stands document element above node rule) {visited : Rule}
    {next : Node} (suits : visited.Suits next)
    (position : Position document element (above ++ [node]) next walk.opened)
    (declared : (∃ grouped, visited = .elementDecl grouped) → document.Declares element next)
    (placement : Placement) :
    (walk.nest [.read visited next, .place placement]).Sound document element := by
  refine ⟨⟨above ++ [node], ?_, fun _ => stands.place.symm⟩, stands.noted, ?_⟩
  · exact .read suits position declared (.place stands.rest)
  · simp [Walk.nest, stands.going]

theorem enter (stands : walk.Stands document element above node rule) {visited : Rule}
    {definition : Node} {name : String}
    (visitedType : visited = .complexType ∨ visited = .simpleType)
    (opens : node.Opens (.ofDocument document) definition)
    (named : definition.attr "name" = some name) (closed : name ∉ walk.opened)
    (placement : Placement) :
    ({ walk with opened := name :: walk.opened }.nest
      [.read visited definition, .close, .place placement]).Sound document element := by
  refine ⟨⟨above ++ [node], ?_, fun _ => stands.place.symm⟩, stands.noted, ?_⟩
  · refine .read ?_ (stands.position.enter opens named closed) ?_
      (.close closed (.place stands.rest))
    · exact Rule.suits_of_type visitedType
    · rcases visitedType with rfl | rfl <;> simp
  · simp [Walk.nest, stands.going]

theorem declares (stands : walk.Stands document element above node rule) {child : Node}
    {sort : Group} (member : rule = .group sort) (below : child ∈ node.children)
    (named : child.nameContains "element" = true) : document.Declares element child := by
  subst member
  have tagged : node.tag = sort.tag := stands.suits
  refine .inr ⟨node, stands.position.inside, ?_, List.mem_filter.mpr ⟨below, ?_⟩, named⟩
  · cases sort <;> simp [tagged, Group.tag]
  · cases text : child.isText with
    | false => rfl
    | true =>
      have noElement : ¬ Text.occursIn "element".toList textName.toList = true := by decide
      rw [Node.nameContains, show child.name = textName by simpa [Node.isText] using text] at named
      exact absurd named noElement

theorem carry (stands : walk.Stands document element above node rule) {step : Step}
    (fits : step ∈ rule.steps (.ofDocument document) node) :
    (walk.carry step).Sound document element := by
  have origin := Rule.from_steps rule step fits
  cases step with
  | edit change =>
    exact ⟨⟨above ++ [node], stands.rest, fun _ => stands.place.symm⟩, stands.noted,
      by simp [Walk.carry, stands.going]⟩
  | note cause => exact stands.remark (.inl origin)
  | refuse =>
    refine ⟨⟨above ++ [node], stands.rest, fun _ => stands.place.symm⟩, stands.noted, ?_⟩
    intro trail member
    cases Option.some.inj member
    exact ⟨rfl, above, node, walk.opened, stands.place, stands.position, stands.came origin.1,
      origin.2⟩
  | visit visited child placement =>
    obtain ⟨below, suits, grouped⟩ := origin
    refine stands.visit suits (stands.position.child below) (fun declared => ?_) placement
    obtain ⟨sort, member⟩ := grouped declared
    obtain ⟨_, rfl⟩ := declared
    exact stands.declares member below suits
  | define visited definition placement =>
    obtain ⟨opens, visitedType⟩ := origin
    cases named : definition.attr "name" with
    | none =>
      simp only [Walk.carry, named]
      refine stands.visit (Rule.suits_of_type visitedType)
        (stands.position.child (opens.below_of_unnamed named)) ?_ placement
      rcases visitedType with rfl | rfl <;> simp
    | some name =>
      have opens := opens.opens stands.suits
      simp only [Walk.carry, named]
      by_cases closed : name ∉ walk.opened
      · rw [if_pos closed]
        exact stands.enter visitedType opens named closed placement
      · rw [if_neg closed]
        exact stands.remark
          (.inr ⟨name, definition, rfl, Decidable.not_not.mp closed, opens, named⟩)

end Walk.Stands

namespace Walk.Sound

variable {document : Document} {element : Node} {walk walk' : Walk}

theorem perform {path : Trail} {task : Task}
    (orderly : Orderly document element path walk.opened (task :: walk.tasks))
    (same : walk.failure = none → path = walk.path)
    (noted : ∀ note ∈ walk.notes, note.Sound document element)
    (refused : ∀ trail ∈ walk.failure, trail = walk.path ∧ trail.Refused document element)
    (comes : ∀ grouped node, walk.failure = none → task = .read (.elementDecl grouped) node →
      document.Reads node) :
    (walk.perform (.ofDocument document) task).Sound document element := by
  -- The first task is what says where the walk stands; there is one case for each.
  generalize types : walk.opened = opened at orderly
  cases orderly with
  | step rule suits position came fits rest =>
    subst types
    cases failed : walk.failure with
    | some trail =>
      simp only [Walk.perform, failed, Option.isSome_some, if_true]
      exact ⟨⟨_, rest, same⟩, noted, refused⟩
    | none =>
      simp only [Walk.perform, failed, Option.isSome_none, Bool.false_eq_true, if_false]
      exact Stands.carry ⟨failed, (same failed).symm, suits, position, came, rest, noted⟩ fits
  | @read above node _ _ rule suits position declared rest =>
    subst types
    cases failed : walk.failure with
    | some trail =>
      simp only [Walk.perform, failed, Option.isSome_some, if_true]
      exact ⟨⟨_, rest, same⟩, noted, refused⟩
    | none =>
      simp only [Walk.perform, failed, Option.isSome_none, Bool.false_eq_true, if_false]
      refine ⟨⟨path ++ [node], ?_, fun _ => by simp [same failed]⟩, noted, by simp⟩
      refine .steps suits position ?_ (.leave position rest) _ fun _ member => member
      rintro ⟨grouped, rfl⟩
      exact comes grouped node failed rfl
  | @leave above node _ _ position rest =>
    subst types
    cases failed : walk.failure with
    | some trail =>
      simp only [Walk.perform, failed, Option.isSome_some, if_true]
      exact ⟨⟨above, rest, fun going => by simp [failed] at going⟩, noted, refused⟩
    | none =>
      simp only [Walk.perform, failed, Option.isSome_none, Bool.false_eq_true, if_false]
      refine ⟨⟨above, rest, fun _ => ?_⟩, noted, by simp⟩
      simp [← same failed]
  | close closed rest =>
    have onwards : Orderly document element path walk.opened.tail walk.tasks := by
      rw [types]
      exact rest
    exact ⟨⟨path, onwards, same⟩, noted, refused⟩
  | place rest =>
    subst types
    simp only [Walk.perform, Walk.handOn]
    split
    · exact ⟨⟨path, rest, same⟩, noted, refused⟩
    · exact ⟨⟨path, rest, same⟩, noted, refused⟩

theorem next (found : document.rootElement = .ok element)
    (reached : Reaches (Walk.next (.ofDocument document)) (document.walk element) walk)
    (sound : walk.Sound document element)
    (stepped : walk.next (.ofDocument document) = some walk') : walk'.Sound document element := by
  obtain ⟨⟨path, orderly, same⟩, noted, refused⟩ := sound
  unfold Walk.next at stepped
  split at stepped
  · contradiction
  · next task tasks left =>
    cases Option.some.inj stepped
    rw [left] at orderly
    -- A declaration that is read next is reached by this very walk.
    refine perform orderly same noted refused fun grouped node going declared => ?_
    subst declared
    exact ⟨element, walk, grouped, tasks, found, reached, going, left⟩

theorem of_reaches (found : document.rootElement = .ok element)
    (reached : Reaches (Walk.next (.ofDocument document)) (document.walk element) walk) :
    walk.Sound document element := by
  induction reached with
  | refl => exact .initial found
  | tail reached stepped ih => exact next found reached ih stepped

end Walk.Sound

end SchemaForms
