import SchemaForms.Proofs.Likeness

set_option autoImplicit false

namespace SchemaForms

namespace Likeness

variable (likeness : Likeness) {a b node : Node}

inductive SameCause : Cause → Cause → Prop
  | equal (cause : Cause) : SameCause cause cause
  | undefinedType {text other : String} (alike : likeness.cites text other) :
    SameCause (.undefinedType text) (.undefinedType other)

def Reported (cause : Cause) : Prop :=
  ∃ node, likeness.extra node ∧ node.isText = false ∧
    (cause = .unexpectedChild node.name ∨ cause = .nonElementInGroup node.name ∨
      cause = .unhandledComplexChild node.name)

inductive SameStep : Step → Step → Prop
  | note {cause other : Cause} (alike : likeness.SameCause cause other) :
    SameStep (.note cause) (.note other)
  | refuse : SameStep .refuse .refuse
  | visit {rule : Rule} (handed : rule ≠ .attributeDecl) {child other : Node}
    (placement : Placement) (alike : likeness.same child other) :
    SameStep (.visit rule child placement) (.visit rule other placement)
  -- An attribute declaration is read into a field of its own.
  | item {child other : Node} (alike : likeness.same child other) :
    SameStep (.visit .attributeDecl child (.item child.attributeField))
      (.visit .attributeDecl other (.item other.attributeField))
  | define (rule : Rule) {definition other : Node} (placement : Placement)
    (alike : likeness.same definition other) :
    SameStep (.define rule definition placement) (.define rule other placement)

def ExtraStep (step : Step) : Prop := ∃ cause, likeness.Reported cause ∧ step = .note cause

inductive SameSteps : List Step → List Step → Prop
  | nil : SameSteps [] []
  | both {step other : Step} {steps others : List Step} (alike : likeness.SameStep step other)
    (rest : SameSteps steps others) : SameSteps (step :: steps) (other :: others)
  | more {step : Step} {steps others : List Step} (added : likeness.ExtraStep step)
    (rest : SameSteps steps others) : SameSteps steps (step :: others)
  | edits {made changes : List Edit} {steps others : List Step}
    (alike : likeness.edits made changes) (rest : SameSteps steps others) :
    SameSteps (made.map .edit ++ steps) (changes.map .edit ++ others)

variable {likeness} {first second : Catalogue}

namespace SameSteps

variable {steps others more rest : List Step}

theorem single {step other : Step} (alike : likeness.SameStep step other) :
    likeness.SameSteps [step] [other] := .both alike .nil

theorem note (cause : Cause) : likeness.SameSteps [.note cause] [.note cause] :=
  single (.note (.equal cause))

theorem of_edits {made changes : List Edit} (alike : likeness.edits made changes) :
    likeness.SameSteps (made.map .edit) (changes.map .edit) := by
  have whole : likeness.SameSteps (made.map .edit ++ []) (changes.map .edit ++ []) :=
    .edits alike .nil
  rwa [List.append_nil, List.append_nil] at whole

theorem same_edits (edits : List Edit) :
    likeness.SameSteps (edits.map .edit) (edits.map .edit) := of_edits (likeness.edits_refl edits)

theorem of_extra (added : ∀ step ∈ others, likeness.ExtraStep step)
    (rest : likeness.SameSteps steps more) : likeness.SameSteps steps (others ++ more) := by
  induction others with
  | nil => exact rest
  | cons step others ih =>
    obtain ⟨here, later⟩ := List.forall_mem_cons.mp added
    exact .more here (ih later)

theorem append (alike : likeness.SameSteps steps others) (later : likeness.SameSteps more rest) :
    likeness.SameSteps (steps ++ more) (others ++ rest) := by
  induction alike with
  | nil => exact later
  | both alike _ ih => exact .both alike ih
  | more added _ ih => exact .more added ih
  | edits alike _ ih =>
    rw [List.append_assoc, List.append_assoc]
    exact .edits alike ih

end SameSteps

theorem docSteps_like (alike : likeness.same a b) (tagged : a.tag = .remark) :
    likeness.SameSteps (Rule.docSteps a) (Rule.docSteps b) := by
  unfold Rule.docSteps
  rw [likeness.doc alike tagged]
  cases b.doc? with
  | none => exact .nil
  | some text => exact .same_edits [_]

theorem role_like (catalogues : likeness.SameCatalogue first second) (role : Rule.Role)
    {text other : String} (cited : likeness.cites text other) :
    likeness.SameSteps (role.steps first text) (role.steps second other) := by
  unfold Rule.Role.steps Catalogue.resolve Catalogue.lookup
  rw [← likeness.target cited]
  cases NativeType.ofName? (Reference.ofText text).target with
  | some type => exact .same_edits _
  | none =>
    have held := catalogues (Reference.ofText text).target
    generalize first.get? _ = found at held ⊢
    generalize second.get? _ = other at held ⊢
    cases held with
    | none => exact .single (.note (.undefinedType cited))
    | @some definition others alike =>
      have complex : definition.isComplexType = others.isComplexType := nameContains_eq alike _
      simp only [complex]
      split
      · exact .single (.define _ _ alike)
      · cases role.simple with
        | none => exact .nil
        | some placement => exact .single (.define _ _ alike)

/-- The children of related nodes are read alike, and an additional one is at most reported. -/
structure ReadsAlike (reads other : Node → List Step) : Prop where
  same {child alternate : Node} :
    likeness.same child alternate → likeness.SameSteps (reads child) (other alternate)
  extra {child : Node} : likeness.extra child → ∀ step ∈ other child, likeness.ExtraStep step

theorem children_like {reads other : Node → List Step} (parts : likeness.ReadsAlike reads other)
    (alike : likeness.same a b) :
    likeness.SameSteps (a.children.flatMap reads) (b.children.flatMap other) := by
  have below := likeness.children alike
  generalize a.children = children at below ⊢
  generalize b.children = counterparts at below ⊢
  induction below with
  | nil => exact .nil
  | both alike _ ih => exact (parts.same alike).append ih
  | more added _ ih => exact .of_extra (parts.extra added) ih

theorem extra_of_unread {steps : List Step} {cause : Cause} (added : likeness.extra node)
    (silent : node.tag = .text → steps = [])
    (noted : ∀ name, node.tag = .other name → steps = [.note cause])
    (told : cause = .unexpectedChild node.name ∨ cause = .nonElementInGroup node.name ∨
      cause = .unhandledComplexChild node.name) :
    ∀ step ∈ steps, likeness.ExtraStep step := by
  intro step member
  rcases (likeness.unread added).tagged with text | ⟨name, tagged⟩
  · simp [silent text] at member
  · have seen : node.isText = false := by
      rw [← Bool.not_eq_true, Node.isText_iff, tagged]
      simp
    rw [noted name tagged] at member
    exact ⟨cause, ⟨node, added, seen, told⟩, List.mem_singleton.mp member⟩

theorem elementChild_like (grouped : Bool) :
    likeness.ReadsAlike (Rule.elementChild grouped) (Rule.elementChild grouped) where
  same alike := by
    unfold Rule.elementChild
    rw [← tag_eq alike, ← likeness.name alike]
    split
    · exact docSteps_like alike ‹_›
    · exact .nil
    · exact .single (.define _ _ alike)
    · exact .single (.define _ _ alike)
    · exact .note _
  extra added :=
    extra_of_unread added (fun text => by simp [Rule.elementChild, text])
      (fun name tagged => by simp [Rule.elementChild, tagged]) (.inl rfl)

theorem attributeChild_like : likeness.ReadsAlike Rule.attributeChild Rule.attributeChild where
  same alike := by
    unfold Rule.attributeChild
    rw [← tag_eq alike, ← likeness.name alike]
    split
    · exact docSteps_like alike ‹_›
    · exact .single (.define _ _ alike)
    · exact .nil
    · exact .note _
  extra added :=
    extra_of_unread added (fun text => by simp [Rule.attributeChild, text])
      (fun name tagged => by simp [Rule.attributeChild, tagged]) (.inl rfl)

theorem groupChild_like (sort : Group) :
    likeness.ReadsAlike (Rule.groupChild sort) (Rule.groupChild sort) where
  same alike := by
    unfold Rule.groupChild
    rw [← isText_eq alike, ← nameContains_eq alike, ← likeness.name alike]
    split
    · exact .nil
    · split
      · simp only [← blank_eq alike, ← declare_eq alike]
        exact .single (.visit (by simp) _ alike)
      · exact .note _
  extra added :=
    extra_of_unread added (fun text => by simp [Rule.groupChild, Node.isText_iff, text])
      (fun name tagged => by
        simp [Rule.groupChild, Node.isText_iff, tagged, (likeness.unread added).undeclared])
      (.inr (.inl rfl))

theorem complexChild_like : likeness.ReadsAlike Rule.complexChild Rule.complexChild where
  same alike := by
    unfold Rule.complexChild
    rw [← tag_eq alike, ← likeness.name alike]
    split
    · exact .single (.visit (by simp) _ alike)
    · exact .single (.visit (by simp) _ alike)
    · exact .single (.visit (by simp) _ alike)
    · exact docSteps_like alike ‹_›
    · exact .single (.item alike)
    · exact .single (.visit (by simp) _ alike)
    · exact .single (.visit (by simp) _ alike)
    · exact .of_edits (likeness.assertion alike ‹_›)
    · exact .nil
    · exact .note _
  extra added :=
    extra_of_unread added (fun text => by simp [Rule.complexChild, text])
      (fun name tagged => by simp [Rule.complexChild, tagged]) (.inr (.inr rfl))

theorem simpleChild_like : likeness.ReadsAlike Rule.simpleChild Rule.simpleChild where
  same alike := by
    unfold Rule.simpleChild
    rw [← tag_eq alike, ← likeness.name alike]
    split
    · exact .single (.visit (by simp) _ alike)
    · exact .single (.visit (by simp) _ alike)
    · exact docSteps_like alike ‹_›
    · exact .nil
    · exact .note _
  extra added :=
    extra_of_unread added (fun text => by simp [Rule.simpleChild, text])
      (fun name tagged => by simp [Rule.simpleChild, tagged]) (.inl rfl)

theorem facetSteps_like : likeness.ReadsAlike Rule.facetSteps Rule.facetSteps where
  same {facet alternate} alike := by
    have value : facet.attr "value" = alternate.attr "value" :=
      attr_eq alike (by simp [Node.IsReference])
    unfold Rule.facetSteps
    rw [← tag_eq alike, ← likeness.name alike, ← value]
    split
    · exact .nil
    · exact docSteps_like alike ‹_›
    · split
      · exact .same_edits [_, _]
      · exact .note _
    · split
      · exact .same_edits [_]
      · exact .note _
  extra added :=
    extra_of_unread added (fun text => by simp [Rule.facetSteps, text])
      (fun name tagged => by simp [Rule.facetSteps, tagged, (likeness.unread added).valueless])
      (.inl rfl)

theorem simpleContentChild_like :
    likeness.ReadsAlike Rule.simpleContentChild Rule.simpleContentChild where
  same alike := by
    unfold Rule.simpleContentChild
    rw [← tag_eq alike, ← likeness.name alike]
    split
    · exact .single (.visit (by simp) _ alike)
    · exact .single (.visit (by simp) _ alike)
    · exact .single (.item alike)
    · exact docSteps_like alike ‹_›
    · exact .nil
    · exact .note _
  extra added :=
    extra_of_unread added (fun text => by simp [Rule.simpleContentChild, text])
      (fun name tagged => by simp [Rule.simpleContentChild, tagged]) (.inl rfl)

theorem extensionChild_like : likeness.ReadsAlike Rule.extensionChild Rule.extensionChild where
  same alike := by
    unfold Rule.extensionChild
    rw [← tag_eq alike, ← likeness.name alike]
    split
    · exact .single (.item alike)
    · exact docSteps_like alike ‹_›
    · exact .of_edits (likeness.assertion alike ‹_›)
    · exact .nil
    · exact .note _
  extra added :=
    extra_of_unread added (fun text => by simp [Rule.extensionChild, text])
      (fun name tagged => by simp [Rule.extensionChild, tagged]) (.inl rfl)

theorem reference_like (catalogues : likeness.SameCatalogue first second) (role : Rule.Role)
    {steps other : List Step} (alike : likeness.same a b) (key : String)
    (untyped : likeness.SameSteps steps other) :
    likeness.SameSteps
      (match a.attr key with
        | some text => role.steps first text
        | none => steps)
      (match b.attr key with
        | some text => role.steps second text
        | none => other) := by
  have cited := attr_like alike key
  generalize a.attr key = text at cited ⊢
  generalize b.attr key = spelled at cited ⊢
  cases cited with
  | none => exact untyped
  | some cited => exact role_like catalogues role cited

theorem typeSteps_like (catalogues : likeness.SameCatalogue first second) (grouped : Bool)
    (alike : likeness.same a b) :
    likeness.SameSteps ((a.attr "type").toList.flatMap ((Rule.typeRole grouped).steps first))
      ((b.attr "type").toList.flatMap ((Rule.typeRole grouped).steps second)) := by
  have typed := reference_like catalogues (Rule.typeRole grouped) alike "type" .nil
  cases here : a.attr "type" <;> cases there : b.attr "type" <;>
    simpa [here, there] using typed

theorem complexContentChild_like (catalogues : likeness.SameCatalogue first second) :
    likeness.ReadsAlike (Rule.complexContentChild first) (Rule.complexContentChild second) where
  same alike := by
    unfold Rule.complexContentChild
    rw [← tag_eq alike, ← likeness.name alike]
    split
    · exact (reference_like catalogues _ alike "base" (.note _)).append
        (.single (.visit (by simp) _ alike))
    · exact .single (.visit (by simp) _ alike)
    · exact docSteps_like alike ‹_›
    · exact .nil
    · exact .note _
  extra added :=
    extra_of_unread added (fun text => by simp [Rule.complexContentChild, text])
      (fun name tagged => by simp [Rule.complexContentChild, tagged]) (.inr (.inr rfl))

theorem attributePair_like (catalogues : likeness.SameCatalogue first second)
    {pair other : String × String} (alike : Node.PairLike likeness.cites "attribute" pair other) :
    likeness.SameSteps (Rule.attributePair first pair) (Rule.attributePair second other) := by
  obtain ⟨key, value⟩ := pair
  obtain ⟨_, spelled⟩ := other
  obtain ⟨rfl, values⟩ := alike
  unfold Rule.attributePair
  split
  · exact .nil
  · split
    · refine role_like catalogues _ ?_
      rcases values with rfl | ⟨_, cited⟩
      · exact likeness.cites_refl _
      · exact cited
    · next untyped =>
      rcases values with rfl | ⟨refers, _⟩
      · exact .same_edits [_]
      · simp_all [Node.IsReference]

theorem attributes_like (catalogues : likeness.SameCatalogue first second) {pairs others : Pairs}
    (alike : Pairs.Like likeness.cites "attribute" pairs others) :
    likeness.SameSteps (pairs.flatMap (Rule.attributePair first))
      (others.flatMap (Rule.attributePair second)) := by
  induction alike with
  | nil => exact .nil
  | cons pair _ ih => exact (attributePair_like catalogues pair).append ih

theorem inlineItemSteps_like (alike : likeness.same a b) :
    likeness.SameSteps (Rule.inlineItemSteps a) (Rule.inlineItemSteps b) := by
  have inline : Option.Rel likeness.same
      (a.elements.find? fun child => child.tag = .simpleType)
      (b.elements.find? fun child => child.tag = .simpleType) := by
    unfold Node.elements
    rw [List.find?_filter, List.find?_filter]
    refine (likeness.children alike).find? (fun _ _ alike => ?_) fun _ added => ?_
    · rw [isText_eq alike, tag_eq alike]
    · rcases (likeness.unread added).tagged with text | ⟨name, tagged⟩
      · simp [text]
      · simp [tagged]
  unfold Rule.inlineItemSteps
  generalize a.elements.find? _ = found at inline ⊢
  generalize b.elements.find? _ = other at inline ⊢
  cases inline with
  | none => exact .note _
  | some alike => exact .single (.define _ _ alike)

theorem restrictionBase_like (alike : likeness.same a b) :
    likeness.SameSteps [Rule.restrictionBase a] [Rule.restrictionBase b] := by
  have cited := attr_like alike "base"
  unfold Rule.restrictionBase
  generalize a.attr "base" = text at cited ⊢
  generalize b.attr "base" = spelled at cited ⊢
  cases cited with
  | none => exact .note _
  | some cited =>
    simp only [likeness.target cited]
    exact .same_edits [_]

theorem steps_like (catalogues : likeness.SameCatalogue first second) {rule : Rule}
    (handed : rule ≠ .attributeDecl) (alike : likeness.same a b) :
    likeness.SameSteps (rule.steps first a) (rule.steps second b) := by
  cases rule with
  | attributeDecl => contradiction
  | elementDecl grouped =>
    have named : b.hasAttr "name" = a.hasAttr "name" := by
      rw [Node.hasAttr, Node.hasAttr, attr_name_eq alike]
    simp only [Rule.steps, named, Rule.flatMap_elementPair]
    cases a.hasAttr "name" with
    | false => exact .single .refuse
    | true =>
      exact ((typeSteps_like catalogues grouped alike).append
        (.of_edits (likeness.passed alike))).append
          (children_like (elementChild_like grouped) alike)
  | group sort =>
    exact (SameSteps.same_edits [.items []]).append (children_like (groupChild_like sort) alike)
  | complexType => exact children_like complexChild_like alike
  | simpleType => exact children_like simpleChild_like alike
  | list =>
    exact (reference_like catalogues _ alike "itemType" (inlineItemSteps_like alike)).append
      (.same_edits [_])
  | restriction => exact (restrictionBase_like alike).append (children_like facetSteps_like alike)
  | simpleContent => exact children_like simpleContentChild_like alike
  | extension =>
    exact (reference_like catalogues _ alike "base" (.note _)).append
      (children_like extensionChild_like alike)
  | complexContent => exact children_like (complexContentChild_like catalogues) alike

end Likeness

end SchemaForms
