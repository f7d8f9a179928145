import SchemaForms.Proofs.CompilationWalk
import SchemaForms.Proofs.LikeSteps

set_option autoImplicit false

namespace SchemaForms

/-- The same refusal, or compilations with related fields and diagnostics. -/
inductive Compilation.Rel (fields : Field → Field → Prop)
    (told : List Diagnostic → List Diagnostic → Prop) :
    Except SchemaError Compilation → Except SchemaError Compilation → Prop
  | refused (error : SchemaError) : Compilation.Rel fields told (.error error) (.error error)
  | compiled (targetNamespace : Option String) {one other : Field}
    {first second : List Diagnostic} (alike : fields one other) (related : told first second) :
    Compilation.Rel fields told (.ok ⟨one, targetNamespace, first⟩)
      (.ok ⟨other, targetNamespace, second⟩)

abbrev SameForm : (List Diagnostic → List Diagnostic → Prop) →
    Except SchemaError Compilation → Except SchemaError Compilation → Prop :=
  Compilation.Rel (· = ·)

theorem Compilation.Rel.imp {fields : Field → Field → Prop}
    {told weaker : List Diagnostic → List Diagnostic → Prop}
    {first second : Except SchemaError Compilation}
    (same : Compilation.Rel fields told first second)
    (implies : ∀ first second, told first second → weaker first second) :
    Compilation.Rel fields weaker first second := by
  cases same with
  | refused error => exact .refused error
  | compiled namespaceName alike related =>
    exact .compiled namespaceName alike (implies _ _ related)

theorem Compilation.Rel.eq {first second : Except SchemaError Compilation}
    (same : SameForm (· = ·) first second) : first = second := by
  cases same with
  | refused => rfl
  | compiled namespaceName alike related => rw [alike, related]

/-- An attribute declaration gives one item, all other readings fill the field at hand. -/
def Rule.home : Rule → Node → Placement
  | .attributeDecl, node => .item node.attributeField
  | _, _ => .direct

theorem Rule.home_eq_direct {rule : Rule} (handed : rule ≠ .attributeDecl) (node : Node) :
    rule.home node = .direct := by
  cases rule with
  | attributeDecl => contradiction
  | _ => rfl

namespace Likeness

variable (likeness : Likeness)

structure SameNote (first second : Note) : Prop where
  trail : List.Forall₂ likeness.same first.trail second.trail
  cause : likeness.SameCause first.cause second.cause

-- Readings that end alike and say the same. Edits made before a failure are of no account.
structure Ends (edits : List Edit → List Edit → Prop) (first second : Filling) : Prop where
  notes : Enlarged likeness.SameNote (fun note => likeness.Reported note.cause)
    first.notes second.notes
  failure : Option.Rel (List.Forall₂ likeness.same) first.failure second.failure
  edits : first.failure = none → edits first.edits second.edits

abbrev SameFilling : Filling → Filling → Prop := likeness.Ends likeness.edits

structure SameDiagnostic (first second : Diagnostic) : Prop where
  path : first.path = second.path
  cause : likeness.SameCause first.cause second.cause

variable {likeness} {first second : Catalogue} {opened : List String}

theorem SameDiagnostic.eq {first second : Diagnostic} (same : likeness.SameDiagnostic first second)
    (spelled : ∀ text other, likeness.cites text other → text = other) : first = second := by
  obtain ⟨path, cause⟩ := first
  obtain ⟨_, counterpart⟩ := second
  obtain ⟨rfl, causes⟩ := same
  cases causes with
  | equal => rfl
  | undefinedType cited => rw [spelled _ _ cited]

namespace Ends

variable {related inner joined : List Edit → List Edit → Prop} {one other more rest : Filling}

theorem fails_iff (alike : likeness.Ends related one other) :
    one.failure.isSome = other.failure.isSome := by
  have ends := alike.failure
  generalize one.failure = failed at ends ⊢
  generalize other.failure = refused at ends ⊢
  cases ends <;> rfl

theorem append (alike : likeness.Ends related one other) (later : likeness.Ends inner more rest)
    (joins : ∀ {made changes added others : List Edit}, related made changes →
      inner added others → joined (made ++ added) (changes ++ others)) :
    likeness.Ends joined (one ++ more) (other ++ rest) := by
  have ends := alike.fails_iff
  cases failed : one.failure with
  | none =>
    have done : other.failure = none := by simpa [failed] using ends.symm
    rw [Filling.append_of_success _ failed, Filling.append_of_success _ done]
    exact ⟨alike.notes.append later.notes, later.failure,
      fun finished => joins (alike.edits failed) (later.edits finished)⟩
  | some trail =>
    have refused : other.failure.isSome = true := by simp [← ends, failed]
    rw [Filling.append_of_failure _ (by simp [failed]), Filling.append_of_failure _ refused]
    exact ⟨alike.notes, alike.failure, fun done => by simp [failed] at done⟩

theorem under {a b : Node} (nodes : likeness.same a b) (alike : likeness.Ends related one other) :
    likeness.Ends related (one.under a) (other.under b) where
  notes :=
    alike.notes.map (fun _ _ same => ⟨.cons nodes same.trail, same.cause⟩) fun _ added => added
  failure := by
    have ends := alike.failure
    unfold Filling.under
    generalize one.failure = failed at ends ⊢
    generalize other.failure = refused at ends ⊢
    cases ends with
    | none => exact .none
    | some same => exact .some (.cons nodes same)
  edits done := alike.edits (Option.map_eq_none_iff.mp done)

theorem place_item (field : Field) (alike : likeness.Ends related one other)
    (filled : one.failure = none →
      likeness.field (field.applyAll one.edits) (field.applyAll other.edits)) :
    likeness.SameFilling (one.place (.item field)) (other.place (.item field)) where
  notes := by simpa using alike.notes
  failure := by simpa using alike.failure
  edits done := by
    rw [Filling.place_failure] at done
    have also : other.failure = none := by simpa [done] using alike.fails_iff.symm
    rw [Filling.place_item_edits field done, Filling.place_item_edits field also]
    exact likeness.edits_item (filled done)

end Ends

namespace SameFilling

variable {one other more rest : Filling}

theorem of_edits {made changes : List Edit} (alike : likeness.edits made changes) :
    likeness.SameFilling { edits := made } { edits := changes } := ⟨.nil, .none, fun _ => alike⟩

theorem refusal : likeness.SameFilling { failure := some [] } { failure := some [] } :=
  ⟨.nil, .some .nil, fun done => by contradiction⟩

theorem note {cause spelled : Cause} (alike : likeness.SameCause cause spelled) :
    likeness.SameFilling (.note cause) (.note spelled) :=
  ⟨.single ⟨.nil, alike⟩, .none, fun _ => likeness.edits_refl []⟩

theorem append (alike : likeness.SameFilling one other) (later : likeness.SameFilling more rest) :
    likeness.SameFilling (one ++ more) (other ++ rest) :=
  Ends.append alike later likeness.edits_append

theorem extra {cause : Cause} (reported : likeness.Reported cause)
    (later : likeness.SameFilling more rest) :
    likeness.SameFilling more (.note cause ++ rest) :=
  ⟨.more reported later.notes, later.failure, later.edits⟩

theorem place (placement : Placement) (alike : likeness.SameFilling one other) :
    likeness.SameFilling (one.place placement) (other.place placement) := by
  cases placement with
  | direct => exact alike
  | listed => exact ⟨alike.notes, alike.failure, fun done =>
      likeness.edits_append (likeness.edits_refl [.items []]) (alike.edits done)⟩
  | whole =>
    simp only [Filling.place, alike.fails_iff]
    cases failed : other.failure.isSome with
    | false => exact alike
    | true =>
      refine ⟨alike.notes, alike.failure, fun done => ?_⟩
      rw [← alike.fails_iff, show one.failure = none from done] at failed
      contradiction
  | item field =>
    exact Ends.place_item field alike fun done => likeness.applyAll field (alike.edits done)

theorem gather {steps others : List Step} (alike : likeness.SameSteps steps others)
    (each : ∀ step ∈ steps, ∀ other, likeness.SameStep step other →
      likeness.SameFilling (step.fill first opened) (other.fill second opened)) :
    likeness.SameFilling (.gather (Step.fill first opened) steps)
      (.gather (Step.fill second opened) others) := by
  induction alike with
  | nil => exact of_edits (likeness.edits_refl [])
  | both alike _ ih =>
    obtain ⟨here, later⟩ := List.forall_mem_cons.mp each
    rw [Filling.gather_cons, Filling.gather_cons]
    exact (here _ alike).append (ih later)
  | more added _ ih =>
    obtain ⟨cause, reported, rfl⟩ := added
    rw [Filling.gather_cons]
    exact extra reported (ih each)
  | edits alike _ ih =>
    rw [Rule.gather_edits, Rule.gather_edits]
    exact (of_edits alike).append (ih (List.forall_mem_append.mp each).2)

end SameFilling

variable (likeness) in
/-- What a likeness has to show of its own: attribute declarations give alike items. -/
def Declares (first second : Catalogue) : Prop :=
  ∀ (opened : List String) (a b : Node), likeness.same a b → a.tag = .attribute →
    (∀ step ∈ Rule.attributeDecl.steps first a, ∀ other, likeness.SameStep step other →
      likeness.SameFilling (step.fill first opened) (other.fill second opened)) →
    likeness.SameFilling
      ((Rule.attributeDecl.fill first opened a).place (.item a.attributeField))
      ((Rule.attributeDecl.fill second opened b).place (.item b.attributeField))

theorem declares_of_pairs (catalogues : likeness.SameCatalogue first second)
    (pairs : ∀ a b, likeness.same a b →
      Pairs.Like likeness.cites a.name a.attributes b.attributes) :
    likeness.Declares first second := by
  intro opened a b alike tagged each
  have attributes := pairs a b alike
  rw [Node.name_eq_of_tag tagged] at attributes
  have steps := (attributes_like catalogues attributes).append
    (children_like attributeChild_like alike)
  rw [Rule.fill_eq, Rule.fill_eq, ← attributeField_eq alike]
  exact SameFilling.place _ (Ends.under alike (SameFilling.gather steps each))

theorem fill_like (catalogues : likeness.SameCatalogue first second)
    (declares : likeness.Declares first second) (opened : List String) (rule : Rule) (a b : Node)
    (suits : rule.Suits a) (alike : likeness.same a b) :
    likeness.SameFilling ((rule.fill first opened a).place (rule.home a))
      ((rule.fill second opened b).place (rule.home b)) := by
  revert b
  revert opened rule a
  refine @Rule.fill_induction first _ ?_
  intro opened rule a inner suits b alike
  have each : ∀ step ∈ rule.steps first a, ∀ other, likeness.SameStep step other →
      likeness.SameFilling (step.fill first opened) (other.fill second opened) := by
    intro step member other same
    have origin := Rule.from_steps rule step member
    have inner := inner step member
    cases same with
    | note alike => exact .note alike
    | refuse => exact .refusal
    | visit handed placement alike =>
      have read := inner origin.2.1 _ alike
      rw [Rule.home_eq_direct handed, Rule.home_eq_direct handed] at read
      exact SameFilling.place placement read
    | item alike => exact inner origin.2.1 _ alike
    | @define visited definition spelled placement alike =>
      have fits : visited.Suits definition := Rule.suits_of_type origin.2
      have handed : visited ≠ .attributeDecl := by rcases origin.2 with rfl | rfl <;> simp
      -- Alike types have one name, so that both are open or neither is.
      have named := attr_name_eq alike
      cases here : definition.attr "name" with
      | none =>
        simp only [Step.Inner, here] at inner
        have read := inner fits _ alike
        rw [Rule.home_eq_direct handed, Rule.home_eq_direct handed] at read
        simp only [Step.fill, here, ← named]
        exact SameFilling.place placement read
      | some name =>
        simp only [Step.Inner, here] at inner
        simp only [Step.fill, here, ← named]
        split
        · next closed =>
          have read := inner closed fits _ alike
          rw [Rule.home_eq_direct handed, Rule.home_eq_direct handed] at read
          exact SameFilling.place placement read
        · exact .note (.equal _)
  by_cases handed : rule = .attributeDecl
  · subst handed
    exact declares opened a b alike suits each
  · rw [Rule.home_eq_direct handed, Rule.home_eq_direct handed, Rule.fill_eq, Rule.fill_eq]
    exact Ends.under alike (SameFilling.gather (steps_like catalogues handed alike) each)

section Compilation

variable {first second : Document}

theorem rootElement_like (roots : likeness.same first.root second.root) :
    (∃ error, first.rootElement = .error error ∧ second.rootElement = .error error) ∨
    ∃ element other, first.rootElement = .ok element ∧ second.rootElement = .ok other ∧
      likeness.same element other := by
  refine Document.rootElement_rel (likeness.name roots) ?_
  refine (likeness.children roots).find? (fun _ _ alike => by rw [tag_eq alike]) fun _ added => ?_
  rcases (likeness.unread added).tagged with text | ⟨name, tagged⟩
  · simp [text]
  · simp [tagged]

theorem render_like {trail other : Trail} (alike : List.Forall₂ likeness.same trail other) :
    trail.render = other.render := by
  refine Trail.render_eq_of_segments ?_
  rw [← List.forall₂_eq_eq_eq, List.forall₂_map_left_iff, List.forall₂_map_right_iff]
  exact alike.imp fun _ _ same => segment_eq same

theorem outcome_like {element declared : Node} {one other : Filling}
    (roots : likeness.same first.root second.root) (alike : likeness.same element declared)
    (reading : likeness.SameFilling one other) :
    Compilation.Rel likeness.field
      (Enlarged likeness.SameDiagnostic fun added => likeness.Reported added.cause)
      (one.outcome first element) (other.outcome second declared) := by
  have namespaces : first.targetNamespace = second.targetNamespace :=
    attr_eq roots (by simp [Node.IsReference])
  have ends := reading.failure
  unfold Filling.outcome
  cases done : one.failure <;> cases finished : other.failure <;> rw [done, finished] at ends
  · simp only [← declare_eq alike, namespaces]
    refine .compiled _ (likeness.applyAll _ (reading.edits done))
      (reading.notes.map (fun _ _ same => ?_) fun _ added => added)
    exact ⟨render_like (.cons roots same.trail), same.cause⟩
  · cases ends
  · cases ends
  · cases ends with
    | some trails =>
      simp only [render_like (.cons roots trails)]
      exact .refused _

theorem compile_like (roots : likeness.same first.root second.root)
    (declares : likeness.Declares (.ofDocument first) (.ofDocument second)) :
    Compilation.Rel likeness.field
      (Enlarged likeness.SameDiagnostic fun added => likeness.Reported added.cause)
      first.compile second.compile := by
  rcases rootElement_like roots with ⟨error, here, there⟩ | ⟨element, other, here, there, alike⟩
  · simp only [Document.compile, here, there]
    exact .refused error
  · have named : element.nameContains "element" = true := Document.nameContains_of_rootElement here
    rw [Document.compile_eq_outcome_fill here, Document.compile_eq_outcome_fill there]
    exact outcome_like roots alike
      (fill_like (catalogue_like roots) declares [] (.elementDecl false) element other named alike)

end Compilation

end Likeness

end SchemaForms
