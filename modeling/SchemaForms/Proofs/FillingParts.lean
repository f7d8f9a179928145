import SchemaForms.Filling

set_option autoImplicit false

namespace SchemaForms

namespace Filling

theorem append_failure_eq_none_iff (first rest : Filling) :
    (first ++ rest).failure = none ↔ first.failure = none ∧ rest.failure = none := by
  cases failed : first.failure with
  | none => simp [append_of_success rest failed]
  | some trail =>
    rw [append_of_failure rest (by simp [failed]), failed]
    simp

theorem append_assoc (first second third : Filling) :
    first ++ second ++ third = first ++ (second ++ third) := by
  cases failed : first.failure with
  | some trail => simp [append_eq, failed]
  | none => cases ended : second.failure <;> simp [append_eq, failed, ended]

theorem append_empty (filling : Filling) : filling ++ ({} : Filling) = filling := by
  obtain ⟨edits, notes, failure⟩ := filling
  cases failure <;> simp [append_eq]

theorem mem_append_notes {first rest : Filling} {note : Note}
    (member : note ∈ (first ++ rest).notes) : note ∈ first.notes ∨ note ∈ rest.notes := by
  cases failed : first.failure with
  | none =>
    rw [append_of_success rest failed] at member
    exact List.mem_append.mp member
  | some trail =>
    rw [append_of_failure rest (by simp [failed])] at member
    exact .inl member

theorem mem_append_edits {first rest : Filling} {edit : Edit}
    (member : edit ∈ (first ++ rest).edits) : edit ∈ first.edits ∨ edit ∈ rest.edits := by
  cases failed : first.failure with
  | none =>
    rw [append_of_success rest failed] at member
    exact List.mem_append.mp member
  | some trail =>
    rw [append_of_failure rest (by simp [failed])] at member
    exact .inl member

section Gather

variable {α : Type} {fill : α → Filling} {parts : List α}

theorem mem_gather_edits {edit : Edit} (member : edit ∈ (gather fill parts).edits) :
    ∃ part ∈ parts, edit ∈ (fill part).edits := by
  induction parts with
  | nil => simp at member
  | cons part rest ih =>
    rw [gather_cons] at member
    rcases mem_append_edits member with first | later
    · exact ⟨part, List.mem_cons_self, first⟩
    · obtain ⟨other, inside, made⟩ := ih later
      exact ⟨other, List.mem_cons_of_mem _ inside, made⟩

theorem mem_gather_notes {note : Note} (member : note ∈ (gather fill parts).notes) :
    ∃ part ∈ parts, note ∈ (fill part).notes := by
  induction parts with
  | nil => simp at member
  | cons part rest ih =>
    rw [gather_cons] at member
    rcases mem_append_notes member with first | later
    · exact ⟨part, List.mem_cons_self, first⟩
    · obtain ⟨other, inside, made⟩ := ih later
      exact ⟨other, List.mem_cons_of_mem _ inside, made⟩

theorem gather_failure_eq_none_iff :
    (gather fill parts).failure = none ↔ ∀ part ∈ parts, (fill part).failure = none := by
  induction parts with
  | nil => simp
  | cons part rest ih =>
    rw [gather_cons, append_failure_eq_none_iff, ih, List.forall_mem_cons]

theorem gather_append (first rest : List α) :
    gather fill (first ++ rest) = gather fill first ++ gather fill rest := by
  induction first with
  | nil => simp [append_of_success]
  | cons part more ih => rw [List.cons_append, gather_cons, gather_cons, ih, append_assoc]

theorem gather_failure_eq_some_iff {trail : Trail} :
    (gather fill parts).failure = some trail ↔
      ∃ before part after, parts = before ++ part :: after ∧
        (∀ earlier ∈ before, (fill earlier).failure = none) ∧ (fill part).failure = some trail := by
  constructor
  · intro failed
    induction parts with
    | nil => simp at failed
    | cons part rest ih =>
      rw [gather_cons] at failed
      cases first : (fill part).failure with
      | some way =>
        rw [append_of_failure _ (by simp [first]), first] at failed
        exact ⟨[], part, rest, rfl, by simp, first.trans failed⟩
      | none =>
        rw [append_of_success _ first] at failed
        obtain ⟨before, later, after, rfl, ended, stopped⟩ := ih failed
        exact ⟨part :: before, later, after, rfl, List.forall_mem_cons.mpr ⟨first, ended⟩, stopped⟩
  · rintro ⟨before, part, after, rfl, ended, stopped⟩
    have done := gather_failure_eq_none_iff.mpr ended
    rw [gather_append, append_of_success _ done, gather_cons,
      append_of_failure _ (by simp [stopped]), stopped]

theorem gather_congr {other : α → Filling} (agree : ∀ part ∈ parts, fill part = other part) :
    gather fill parts = gather other parts := by
  induction parts with
  | nil => rfl
  | cons part rest ih =>
    obtain ⟨here, later⟩ := List.forall_mem_cons.mp agree
    rw [gather_cons, gather_cons, here, ih later]

theorem gather_edits (done : (gather fill parts).failure = none) :
    (gather fill parts).edits = parts.flatMap fun part => (fill part).edits := by
  induction parts with
  | nil => rfl
  | cons part rest ih =>
    rw [gather_cons] at done ⊢
    obtain ⟨first, later⟩ := (append_failure_eq_none_iff _ _).mp done
    rw [append_of_success _ first, List.flatMap_cons, ← ih later]

end Gather

end Filling

@[simp]
theorem Filling.place_notes (filling : Filling) (placement : Placement) :
    (filling.place placement).notes = filling.notes := by
  cases placement <;> simp only [place] <;> split <;> rfl

@[simp]
theorem Filling.place_failure (filling : Filling) (placement : Placement) :
    (filling.place placement).failure = filling.failure := by
  cases placement <;> simp only [place] <;> split <;> rfl

theorem Filling.place_edits {one other : Filling} (placement : Placement)
    (same : one.edits = other.edits) (failed : one.failure.isSome = other.failure.isSome) :
    (one.place placement).edits = (other.place placement).edits := by
  cases placement <;> simp only [place, same, failed] <;> split <;> simp [same]

theorem Filling.mem_place_edits {filling : Filling} {placement : Placement} {edit : Edit}
    (keeps : ∀ field, placement ≠ .item field)
    (member : edit ∈ (filling.place placement).edits) :
    edit = .items [] ∨ edit ∈ filling.edits := by
  cases placement with
  | direct => exact .inr member
  | listed => exact List.mem_cons.mp member
  | whole =>
    simp only [place] at member
    split at member
    · simp at member
    · exact .inr member
  | item field => exact absurd rfl (keeps field)

theorem Filling.place_item_edits {filling : Filling} (field : Field)
    (done : filling.failure = none) :
    (filling.place (.item field)).edits = [.items [field.applyAll filling.edits]] := by
  simp [place, done]

section Reading

variable {catalogue : Catalogue} {opened : List String} {rule : Rule} {node : Node}

theorem Rule.mem_fill_notes {note : Note}
    (member : note ∈ (rule.fill catalogue opened node).notes) :
    ∃ step ∈ rule.steps catalogue node, ∃ inner ∈ (step.fill catalogue opened).notes,
      inner.cause = note.cause := by
  rw [Rule.fill_eq] at member
  obtain ⟨inner, made, rfl⟩ := List.mem_map.mp member
  obtain ⟨step, inside, made⟩ := Filling.mem_gather_notes made
  exact ⟨step, inside, inner, made, rfl⟩

theorem Rule.mem_fill_edits {edit : Edit}
    (member : edit ∈ (rule.fill catalogue opened node).edits) :
    ∃ step ∈ rule.steps catalogue node, edit ∈ (step.fill catalogue opened).edits := by
  rw [Rule.fill_eq] at member
  exact Filling.mem_gather_edits member

theorem Rule.fill_failure_eq_none_iff :
    (rule.fill catalogue opened node).failure = none ↔
      ∀ step ∈ rule.steps catalogue node, (step.fill catalogue opened).failure = none := by
  rw [Rule.fill_eq, ← Filling.gather_failure_eq_none_iff]
  simp [Filling.under]

theorem Rule.fill_edits (done : (rule.fill catalogue opened node).failure = none) :
    (rule.fill catalogue opened node).edits =
      (rule.steps catalogue node).flatMap fun step => (step.fill catalogue opened).edits := by
  have parts := Filling.gather_failure_eq_none_iff.mpr (Rule.fill_failure_eq_none_iff.mp done)
  rw [Rule.fill_eq]
  exact Filling.gather_edits parts

theorem Rule.gather_single (step : Step) :
    Filling.gather (Step.fill catalogue opened) [step] = step.fill catalogue opened := by
  rw [Filling.gather_cons, Filling.gather_nil, Filling.append_empty]

theorem Rule.gather_edits (edits : List Edit) (rest : List Step) :
    Filling.gather (Step.fill catalogue opened) (edits.map .edit ++ rest) =
      { edits } ++ Filling.gather (Step.fill catalogue opened) rest := by
  induction edits with
  | nil => simp [Filling.append_of_success]
  | cons edit more ih =>
    rw [List.map_cons, List.cons_append, Filling.gather_cons, ih]
    simp [Step.fill, Filling.append_of_success]

theorem Rule.gather_only_edits (edits : List Edit) :
    Filling.gather (Step.fill catalogue opened) (edits.map .edit) = { edits } := by
  have whole : Filling.gather (Step.fill catalogue opened) (edits.map .edit ++ []) =
      { edits } ++ ({} : Filling) := gather_edits edits []
  rwa [List.append_nil, Filling.append_empty] at whole

theorem Step.fill_define {definition : Node} {name : String} (visited : Rule)
    (placement : Placement) (named : definition.attr "name" = some name) (closed : name ∉ opened) :
    (Step.define visited definition placement).fill catalogue opened =
      (visited.fill catalogue (name :: opened) definition).place placement := by
  simp [Step.fill, named, closed]

theorem Step.Inner.define (catalogue : Catalogue) {motive : List String → Rule → Node → Prop}
    {visited : Rule} {definition : Node} {placement : Placement}
    (inner : (Step.define visited definition placement).Inner motive opened) :
    (∃ later, motive later visited definition ∧
      (Step.define visited definition placement).fill catalogue opened =
        (visited.fill catalogue later definition).place placement) ∨
    ∃ name, (Step.define visited definition placement).fill catalogue opened =
      .note (.recursiveType name) := by
  cases named : definition.attr "name" with
  | none =>
    simp only [Step.Inner, named] at inner
    exact .inl ⟨opened, inner, by simp [Step.fill, named]⟩
  | some name =>
    simp only [Step.Inner, named] at inner
    by_cases closed : name ∉ opened
    · exact .inl ⟨name :: opened, inner closed, Step.fill_define visited placement named closed⟩
    · exact .inr ⟨name, by simp [Step.fill, named, closed]⟩

theorem Step.Inner.of_forall {motive : List String → Rule → Node → Prop}
    (holds : ∀ opened rule node, motive opened rule node) (opened : List String) (step : Step) :
    step.Inner motive opened := by
  cases step with
  | edit | note | refuse => trivial
  | visit rule child => exact holds opened rule child
  | define rule definition =>
    cases named : definition.attr "name" <;> simp [Step.Inner, named, holds]

end Reading

end SchemaForms
