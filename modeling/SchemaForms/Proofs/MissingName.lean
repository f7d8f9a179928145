import SchemaForms.Proofs.WalkInvariant

set_option autoImplicit false

namespace SchemaForms

open StateTransition

namespace Walk

variable {catalogue : Catalogue} {walk later : Walk}

theorem perform_failure (walk : Walk) (task : Task) (failed : walk.failure.isSome = true) :
    (walk.perform catalogue task).failure.isSome = true := by
  cases task with
  | step | read | leave => simp [perform, failed]
  | close => exact failed
  | place placement =>
    simp only [perform, handOn]
    split <;> exact failed

theorem failure_of_reaches (reached : Reaches (next catalogue) walk later)
    (failed : walk.failure.isSome = true) : later.failure.isSome = true := by
  induction reached with
  | refl => exact failed
  | @tail before after _ stepped ih =>
    unfold next at stepped
    split at stepped
    · contradiction
    · next task tasks _ =>
      cases Option.some.inj stepped
      exact perform_failure { before with tasks } task ih

end Walk

theorem Trail.render_append {above : Trail} (node : Node) (inside : above ≠ []) :
    Trail.render (above ++ [node]) = Trail.render above ++ "/" ++ node.segment := by
  cases above with
  | nil => exact absurd rfl inside
  | cons first rest => simp [render, String.join_append, String.append_assoc]

theorem Rule.groupChild_eq_visit {child : Node} (sort : Group) (seen : child.isText = false)
    (declares : child.nameContains "element" = true) :
    groupChild sort child =
      [.visit (.elementDecl (sort.blank child).isGrouped) child
        (.item (child.declare (sort.blank child)))] := by
  simp [groupChild, seen, declares]

namespace Document

variable {document : Document} {element node : Node}

theorem declares_of_reads (reads : document.Reads node) :
    ∃ element, document.rootElement = .ok element ∧ document.Declares element node ∧
      node ∈ document.root.preorder ∧ node.nameContains "element" = true := by
  obtain ⟨element, walk, grouped, tasks, found, reached, going, reading⟩ := reads
  obtain ⟨path, orderly, _⟩ := (Walk.Sound.of_reaches found reached).orderly
  -- The task to read it was set with its own position, whatever the walk did in between.
  rw [reading] at orderly
  generalize walk.opened = opened at orderly
  cases orderly with
  | read suits position declared rest =>
    exact ⟨element, found, declared ⟨grouped, rfl⟩, position.inside, suits⟩

theorem compile_failure (found : document.rootElement = .ok element) {error : SchemaError}
    (failed : document.compile = .error error) :
    ∃ trail : Trail, trail.Refused document element ∧
      error = .malformed trail.render "element declaration has no name attribute" := by
  have ended := document.walk_ends element
  have sound := Walk.Sound.of_reaches found (mem_eval.mp ended).1
  rw [compile_eq_outcome found ended] at failed
  unfold Walk.outcome at failed
  split at failed
  · contradiction
  · next trail refused =>
    cases failed
    exact ⟨trail, (sound.refused trail refused).2, rfl⟩

/-- Compiling comes to read `node` by `rule`, with these types open and nothing refused so far. -/
def Enters (document : Document) (opened : List String) (rule : Rule) (node : Node) : Prop :=
  ∃ (element : Node) (walk : Walk), document.rootElement = .ok element ∧
    Reaches (Walk.next (.ofDocument document)) (document.walk element)
      (walk.push [.read rule node]) ∧
    walk.failure = none ∧ walk.opened = opened

theorem reads_iff_enters :
    document.Reads node ↔ ∃ opened grouped, document.Enters opened (.elementDecl grouped) node := by
  constructor
  · rintro ⟨element, walk, grouped, tasks, found, reached, going, reading⟩
    have same : walk = { walk with tasks }.push [.read (.elementDecl grouped) node] := by
      cases walk
      simp_all [Walk.push]
    rw [same] at reached
    exact ⟨walk.opened, grouped, element, { walk with tasks }, found, reached, going, rfl⟩
  · rintro ⟨opened, grouped, element, walk, found, reached, going, _⟩
    exact ⟨element, _, grouped, walk.tasks, found, reached, going, rfl⟩

theorem enters_rootElement (found : document.rootElement = .ok element) :
    document.Enters [] (.elementDecl false) element :=
  ⟨element, { path := [document.root], tasks := [] }, found, .refl, rfl, rfl⟩

section Enters

variable {opened later : List String} {rule visited : Rule} {child : Node} {sort : Group}

theorem compile_fails_of_enters (enters : document.Enters opened rule node)
    (failed : (rule.fill (.ofDocument document) opened node).failure.isSome = true) :
    ∃ error, document.compile = .error error := by
  obtain ⟨element, walk, found, reached, going, rfl⟩ := enters
  have onwards := reached.trans (walk.reaches_read going rule node)
  -- The walk has failed there and stays so to its end, which the compilation is taken from.
  have ended := document.walk_ends element
  have last := Walk.failure_of_reaches (reaches_last onwards ended)
    (by rwa [Walk.absorb_failure_isSome])
  obtain ⟨trail, refused⟩ := Option.isSome_iff_exists.mp last
  rw [compile_eq_outcome found ended, Walk.outcome, refused]
  exact ⟨_, rfl⟩

theorem compile_fails_of_reads (reads : document.Reads node) (unnamed : node.attr "name" = none) :
    ∃ error, document.compile = .error error := by
  obtain ⟨opened, grouped, enters⟩ := reads_iff_enters.mp reads
  refine compile_fails_of_enters enters ?_
  simp [Rule.fill_eq, Rule.steps, Node.hasAttr, unnamed, Rule.gather_single, Step.fill,
    Filling.under]

theorem Enters.inner (enters : document.Enters opened rule node) {before after : List Step}
    {step : Step} {placement : Placement}
    (steps : rule.steps (.ofDocument document) node = before ++ step :: after)
    (done : ∀ earlier ∈ before, (earlier.fill (.ofDocument document) opened).failure = none)
    (reading : step.course opened = .reading later visited child placement) :
    document.Enters later visited child := by
  obtain ⟨element, walk, found, reached, going, rfl⟩ := enters
  obtain ⟨inside, tasks, still, opens, onwards⟩ :=
    (Walk.machine (.ofDocument document)).reaches_inner going steps done reading
  exact ⟨element, inside.push tasks, found, reached.trans onwards, still, opens⟩

theorem Enters.inner_of_compile {compilation : Compilation}
    (compiled : document.compile = .ok compilation) (enters : document.Enters opened rule node)
    {step : Step} {placement : Placement} (inside : step ∈ rule.steps (.ofDocument document) node)
    (reading : step.course opened = .reading later visited child placement) :
    document.Enters later visited child := by
  have done : (rule.fill (.ofDocument document) opened node).failure = none := by
    by_contra failed
    obtain ⟨error, refused⟩ :=
      compile_fails_of_enters enters (Option.isSome_iff_ne_none.mpr failed)
    simp [compiled] at refused
  obtain ⟨before, after, steps⟩ := List.append_of_mem inside
  refine enters.inner steps (fun earlier passed => ?_) reading
  refine Rule.fill_failure_eq_none_iff.mp done earlier ?_
  rw [steps]
  exact List.mem_append_left _ passed

theorem Enters.reads_member {before after : List Node}
    (enters : document.Enters opened (.group sort) node)
    (children : node.children = before ++ child :: after)
    (done : ∀ sibling ∈ before, sibling.isText = false →
      sibling.nameContains "element" = true →
        ((Rule.elementDecl (sort.blank sibling).isGrouped).fill (.ofDocument document) opened
          sibling).failure = none)
    (seen : child.isText = false) (declares : child.nameContains "element" = true) :
    document.Reads child := by
  have steps : (Rule.group sort).steps (.ofDocument document) node =
      (.edit (.items []) :: before.flatMap (Rule.groupChild sort)) ++
        .visit (.elementDecl (sort.blank child).isGrouped) child
          (.item (child.declare (sort.blank child))) :: after.flatMap (Rule.groupChild sort) := by
    simp [Rule.steps, children, Rule.groupChild_eq_visit sort seen declares]
  refine reads_iff_enters.mpr ⟨opened, _, enters.inner steps ?_ rfl⟩
  refine List.forall_mem_cons.mpr ⟨rfl, List.forall_mem_flatMap.mpr fun sibling earlier => ?_⟩
  unfold Rule.groupChild
  split
  · simp
  · next seen =>
    split
    · next declares =>
      refine List.forall_mem_singleton.mpr ?_
      rw [Step.fill, Filling.place_failure]
      exact done sibling earlier (by simpa using seen) declares
    · exact List.forall_mem_singleton.mpr rfl

theorem Enters.reads_member_of_compile {compilation : Compilation}
    (compiled : document.compile = .ok compilation)
    (enters : document.Enters opened (.group sort) node) (inside : child ∈ node.children)
    (seen : child.isText = false) (declares : child.nameContains "element" = true) :
    document.Reads child := by
  have visits : .visit (.elementDecl (sort.blank child).isGrouped) child
      (.item (child.declare (sort.blank child))) ∈
        (Rule.group sort).steps (.ofDocument document) node :=
    List.mem_cons_of_mem _ (List.mem_flatMap.mpr
      ⟨child, inside, by simp [Rule.groupChild_eq_visit sort seen declares]⟩)
  exact reads_iff_enters.mpr ⟨opened, _, enters.inner_of_compile compiled visits rfl⟩

end Enters

theorem exists_rootElement (schema : document.root.name = "schema")
    (top : ∃ child ∈ document.root.children, child.name = "element") :
    ∃ element, document.rootElement = .ok element := by
  obtain ⟨child, below, named⟩ := top
  have tagged : (document.root.children.find? fun child => child.tag = .element).isSome := by
    refine List.find?_isSome.mpr ⟨child, below, ?_⟩
    simp [Node.tag, named, Tag.ofName]
  obtain ⟨element, first⟩ := Option.isSome_iff_exists.mp tagged
  exact ⟨element, (document.rootElement_eq_ok_iff element).mpr ⟨schema, first⟩⟩

theorem unnamed_of_compile_error (found : document.rootElement = .ok element)
    {error : SchemaError} (failed : document.compile = .error error) :
    ∃ above node, above ≠ [] ∧ document.Reads node ∧ node.attr "name" = none ∧
      error = .malformed (Trail.render above ++ "/" ++ node.name)
        "element declaration has no name attribute" := by
  obtain ⟨trail, ⟨above, node, opened, rfl, position, reads, unnamed⟩, rfl⟩ :=
    compile_failure found failed
  have inside : above ≠ [] := by
    rintro rfl
    obtain ⟨rest, starts⟩ := position.way.starts
    simp at starts
  refine ⟨above, node, inside, reads, unnamed, ?_⟩
  rw [Trail.render_append node inside, Node.segment, unnamed]

theorem compile_fails_iff_unnamed (document : Document) (schema : document.root.name = "schema")
    (top : ∃ child ∈ document.root.children, child.name = "element") :
    ((∃ error, document.compile = .error error) ↔
      ∃ node, document.Reads node ∧ node.attr "name" = none) ∧
    ((∀ node ∈ document.root.preorder, node.nameContains "element" = true →
        node.hasAttr "name" = true) →
      ∃ compilation, document.compile = .ok compilation) ∧
    (∀ error, document.compile = .error error →
      ∃ above node, above ≠ [] ∧ document.Reads node ∧ node.attr "name" = none ∧
        error = .malformed (Trail.render above ++ "/" ++ node.name)
          "element declaration has no name attribute") ∧
    ∀ node, document.Reads node →
      ∃ element, document.rootElement = .ok element ∧ document.Declares element node := by
  obtain ⟨element, found⟩ := exists_rootElement schema top
  refine ⟨⟨?_, fun ⟨node, reads, unnamed⟩ => compile_fails_of_reads reads unnamed⟩, ?_,
    fun error failed => unnamed_of_compile_error found failed, ?_⟩
  · rintro ⟨error, failed⟩
    obtain ⟨_, node, _, reads, unnamed, _⟩ := unnamed_of_compile_error found failed
    exact ⟨node, reads, unnamed⟩
  · intro named
    cases compiled : document.compile with
    | ok compilation => exact ⟨compilation, rfl⟩
    | error error =>
      obtain ⟨_, node, _, reads, unnamed, _⟩ := unnamed_of_compile_error found compiled
      obtain ⟨_, _, _, inside, called⟩ := declares_of_reads reads
      have := named node inside called
      simp [Node.hasAttr, unnamed] at this
  · intro node reads
    obtain ⟨element, found, declared, _⟩ := declares_of_reads reads
    exact ⟨element, found, declared⟩

def degraded : Document :=
  ⟨{ name := "schema"
     children := [
       { name := "element", attributes := [("name", "cfg"), ("type", "Cfg")] },
       { name := "complexType", attributes := [("name", "Cfg")]
         children := [
           { name := "sequence"
             children := [
               { name := "any" },
               { name := "element", attributes := [("name", "again"), ("type", "Cfg")] },
               { name := "element", attributes := [("name", "lost"), ("type", "Nowhere")] },
               { name := "element", attributes := [("name", "many")]
                 children := [{ name := "simpleType", children := [{ name := "list" }] }] }] },
           { name := "anyAttribute" }] }] }⟩

theorem degraded_compiles :
    degraded.root.name = "schema" ∧ (∃ child ∈ degraded.root.children, child.name = "element") ∧
      ∃ compilation, degraded.compile = .ok compilation :=
  have schema : degraded.root.name = "schema" := rfl
  have top : ∃ child ∈ degraded.root.children, child.name = "element" :=
    ⟨_, List.mem_cons_self, rfl⟩
  ⟨schema, top, (compile_fails_iff_unnamed degraded schema top).2.1 (by decide)⟩

end Document

end SchemaForms
