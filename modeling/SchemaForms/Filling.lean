import SchemaForms.Rule.Origin

set_option autoImplicit false

namespace SchemaForms

/-- A diagnostic with the nodes from the one being read down to the one concerned. -/
structure Note where
  trail : Trail
  cause : Cause

/-- What reading a node gives. After a failure the edits and notes made before it still stand. -/
structure Filling where
  edits : List Edit := []
  notes : List Note := []
  failure : Option Trail := none

namespace Filling

instance : Append Filling where
  append first rest :=
    match first.failure with
    | some _ => first
    | none =>
      { edits := first.edits ++ rest.edits
        notes := first.notes ++ rest.notes
        failure := rest.failure }

theorem append_eq (first rest : Filling) :
    first ++ rest =
      match first.failure with
      | some _ => first
      | none =>
        { edits := first.edits ++ rest.edits
          notes := first.notes ++ rest.notes
          failure := rest.failure } := rfl

theorem append_of_success {first : Filling} (rest : Filling) (done : first.failure = none) :
    first ++ rest =
      { edits := first.edits ++ rest.edits
        notes := first.notes ++ rest.notes
        failure := rest.failure } := by
  rw [append_eq, done]

theorem append_of_failure {first : Filling} (rest : Filling)
    (failed : first.failure.isSome = true) : first ++ rest = first := by
  obtain ⟨trail, failed⟩ := Option.isSome_iff_exists.mp failed
  rw [append_eq, failed]

-- One filling after the other, up to the first that fails.
def gather {α : Type} (fill : α → Filling) : List α → Filling
  | [] => {}
  | a :: rest =>
    let first := fill a
    match first.failure with
    | some _ => first
    | none => first ++ gather fill rest

def under (node : Node) (filling : Filling) : Filling :=
  { filling with
    notes := filling.notes.map fun note => { note with trail := node :: note.trail }
    failure := filling.failure.map (node :: ·) }

def place (filling : Filling) : Placement → Filling
  | .direct => filling
  | .listed => { filling with edits := .items [] :: filling.edits }
  | .whole => if filling.failure.isSome then { filling with edits := [] } else filling
  | .item field =>
    if filling.failure.isSome then { filling with edits := [] }
    else { filling with edits := [.items [field.applyAll filling.edits]] }

def note (cause : Cause) : Filling := { notes := [⟨[], cause⟩] }

@[simp]
theorem gather_nil {α : Type} (fill : α → Filling) : gather fill [] = {} := rfl

theorem gather_cons {α : Type} (fill : α → Filling) (a : α) (rest : List α) :
    gather fill (a :: rest) = fill a ++ gather fill rest := by
  cases failed : (fill a).failure with
  | none => simp [gather, failed]
  | some trail => simp [gather, failed, append_of_failure]

theorem gather_map {α β : Type} (fill : β → Filling) (f : α → β) (parts : List α) :
    gather fill (parts.map f) = gather (fun part => fill (f part)) parts := by
  induction parts with
  | nil => rfl
  | cons part rest ih => rw [List.map_cons, gather_cons, gather_cons, ih]

theorem gather_attach {α : Type} (fill : α → Filling) (parts : List α) :
    gather (fun part => fill part.1) parts.attach = gather fill parts := by
  rw [← gather_map fill Subtype.val, List.attach_map_subtype_val]

end Filling

namespace Rule

/-- Reads `node`, with the types in `opened` being read already. -/
def fill (catalogue : Catalogue) (opened : List String) (rule : Rule) (node : Node) : Filling :=
  Filling.under node <| (rule.steps catalogue node).attach |> Filling.gather fun ⟨step, member⟩ =>
    match step, member with
    | .edit edit, _ => { edits := [edit] }
    | .note cause, _ => .note cause
    | .refuse, _ => { failure := some [] }
    | .visit visited child placement, _inside =>
      (fill catalogue opened visited child).place placement
    | .define visited definition placement, _inside =>
      match _named : definition.attr "name" with
      | none => (fill catalogue opened visited definition).place placement
      | some name =>
        if _closed : name ∉ opened then
          (fill catalogue (name :: opened) visited definition).place placement
        else .note (.recursiveType name)
termination_by (catalogue.unopened opened, sizeOf node)
decreasing_by
  · exact .right _ (Node.sizeOf_lt_of_mem_children (from_steps rule _ _inside).1)
  · rcases (from_steps rule _ _inside).1 with ⟨inside, _⟩ | ⟨text, _, found⟩
    · exact .right _ (Node.sizeOf_lt_of_mem_children inside)
    · have := Catalogue.attr_isSome_of_resolve found
      simp [_named] at this
  · rcases (from_steps rule _ _inside).1 with ⟨inside, _⟩ | ⟨text, _, found⟩
    · rcases Nat.lt_or_eq_of_le (catalogue.unopened_cons_le opened name) with less | same
      · exact .left _ _ less
      · rw [same]
        exact .right _ (Node.sizeOf_lt_of_mem_children inside)
    · exact .left _ _
        (Catalogue.unopened_cons_lt (Catalogue.mem_names_of_resolve found _named) _closed)

end Rule

def Step.fill (catalogue : Catalogue) (opened : List String) : Step → Filling
  | .edit change => { edits := [change] }
  | .note cause => .note cause
  | .refuse => { failure := some [] }
  | .visit visited child placement => (visited.fill catalogue opened child).place placement
  | .define visited definition placement =>
    match definition.attr "name" with
    | none => (visited.fill catalogue opened definition).place placement
    | some name =>
      if name ∉ opened then
        (visited.fill catalogue (name :: opened) definition).place placement
      else .note (.recursiveType name)

theorem Rule.fill_eq (catalogue : Catalogue) (opened : List String) (rule : Rule) (node : Node) :
    rule.fill catalogue opened node =
      .under node (.gather (Step.fill catalogue opened) (rule.steps catalogue node)) := by
  rw [Rule.fill, ← Filling.gather_attach (Step.fill catalogue opened)]
  congr 2
  funext ⟨step, _⟩
  cases step with
  | define visited definition placement =>
    simp only [Step.fill]
    split <;> simp_all
  | _ => rfl

/-- What holds of the reading that a step leads to, if it leads to one. -/
def Step.Inner (motive : List String → Rule → Node → Prop) (opened : List String) : Step → Prop
  | .edit _ | .note _ | .refuse => True
  | .visit visited child _ => motive opened visited child
  | .define visited definition _ =>
    match definition.attr "name" with
    | none => motive opened visited definition
    | some name => name ∉ opened → motive (name :: opened) visited definition

-- The induction that `Rule.fill` recurses by: a reading after all readings that it leads to.
theorem Rule.fill_induction {catalogue : Catalogue} {motive : List String → Rule → Node → Prop}
    (reading : ∀ opened rule node,
      (∀ step ∈ rule.steps catalogue node, step.Inner motive opened) → motive opened rule node)
    (opened : List String) (rule : Rule) (node : Node) : motive opened rule node := by
  apply reading
  intro step member
  cases step with
  | edit | note | refuse => trivial
  | visit visited child placement =>
    exact fill_induction reading opened visited child
  | define visited definition placement =>
    cases named : definition.attr "name" with
    | none =>
      simpa only [Step.Inner, named] using fill_induction reading opened visited definition
    | some name =>
      simp only [Step.Inner, named]
      intro closed
      exact fill_induction reading (name :: opened) visited definition
termination_by (catalogue.unopened opened, sizeOf node)
decreasing_by
  · exact .right _ (Node.sizeOf_lt_of_mem_children (from_steps rule _ member).1)
  · rcases (from_steps rule _ member).1 with ⟨inside, _⟩ | ⟨text, _, found⟩
    · exact .right _ (Node.sizeOf_lt_of_mem_children inside)
    · have := Catalogue.attr_isSome_of_resolve found
      simp_all
  · rcases (from_steps rule _ member).1 with ⟨inside, _⟩ | ⟨text, _, found⟩
    · rcases Nat.lt_or_eq_of_le (catalogue.unopened_cons_le opened name) with less | same
      · exact .left _ _ less
      · rw [same]
        exact .right _ (Node.sizeOf_lt_of_mem_children inside)
    · exact .left _ _
        (Catalogue.unopened_cons_lt (Catalogue.mem_names_of_resolve found named) closed)

end SchemaForms
