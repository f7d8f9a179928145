import SchemaForms.Proofs.Likeness

set_option autoImplicit false

namespace SchemaForms

/-- Which text may stand for another, as the message of an assertion or as the value that a field
has under a key. -/
structure Leeway where
  message : Assertion → String → String → Prop
  pair : Field → String → String → String → Prop

def Leeway.strict : Leeway where
  message _ _ _ := False
  pair _ _ _ _ := False

structure Assertion.Resembles (leeway : Leeway) (first second : Assertion) : Prop where
  message : StandsFor (leeway.message first) first.message second.message
  formula : first.formula = second.formula

abbrev Pairs.Resemble (allowed : String → String → String → Prop) : Pairs → Pairs → Prop :=
  List.Forall₂ fun one other =>
    one.1 = other.1 ∧ (one.2 = other.2 ∨ allowed one.1 one.2 other.2)

/-- Equal up to the leeway and the order in which pairs of different keys stand, in the fields and
in all fields below them. -/
inductive Field.Resembles (leeway : Leeway) : Field → Field → Prop
  | mk {first second : Field}
    (rest : { first with items := none, assertions := [], extra := [] } =
      { second with items := none, assertions := [], extra := [] })
    (assertions : List.Forall₂ (Assertion.Resembles leeway) first.assertions second.assertions)
    (pairs : ∀ key, Pairs.Resemble (leeway.pair first) (first.extra.ofKey key)
      (second.extra.ofKey key))
    (items : Option.Rel (List.Forall₂ (Field.Resembles leeway)) first.items second.items) :
    Field.Resembles leeway first second

namespace Pairs

variable {pairs : Pairs} {key : String}

theorem mem_of_last? {value : String} (found : pairs.last? key = some value) :
    (key, value) ∈ pairs := by
  obtain ⟨pair, hit, rfl⟩ := Option.map_eq_some_iff.mp found
  have named : pair.1 = key := by simpa using List.find?_some hit
  subst named
  exact List.mem_reverse.mp (List.mem_of_find?_eq_some hit)

theorem set_set (first second : String) :
    (pairs.set key first).set key second = pairs.set key second := by
  induction pairs with
  | nil => simp [set]
  | cons pair rest ih =>
    obtain ⟨held, old⟩ := pair
    by_cases hit : held = key <;> simp [set, hit, ih]

theorem setAll_ofKey (added : Pairs) :
    pairs.setAll (added.ofKey key) = (added.last? key).elim pairs (pairs.set key) := by
  induction added generalizing pairs with
  | nil => rfl
  | cons pair rest ih =>
    rw [ofKey_cons, last?_cons]
    by_cases hit : pair.1 = key
    · subst hit
      have later : (pairs.set pair.1 pair.2).setAll (ofKey rest pair.1) = _ := ih
      simp only [if_true]
      refine (show _ = _ from later).trans ?_
      cases last? rest pair.1 <;> simp [set_set]
    · simp [hit, ih]

variable {allowed : String → String → String → Prop}

theorem resemble_refl (allowed : String → String → String → Prop) (pairs : Pairs) :
    Resemble allowed pairs pairs := List.forall₂_same.mpr fun _ _ => ⟨rfl, .inl rfl⟩

theorem resemble_set (pairs : Pairs) {value other : String}
    (given : value = other ∨ allowed key value other) :
    Resemble allowed (pairs.set key value) (pairs.set key other) := by
  induction pairs with
  | nil => exact .cons ⟨rfl, given⟩ .nil
  | cons pair rest ih =>
    obtain ⟨held, old⟩ := pair
    by_cases hit : held = key
    · simp only [Pairs.set, hit, if_true]
      exact .cons ⟨rfl, given⟩ (resemble_refl allowed rest)
    · simp only [Pairs.set, hit, if_false]
      exact .cons ⟨rfl, .inl rfl⟩ ih

theorem ofKey_setAll_resemble (pairs : Pairs) {added more : Pairs}
    (last : StandsFor (allowed key) (added.last? key) (more.last? key)) :
    Resemble allowed ((pairs.setAll added).ofKey key) ((pairs.setAll more).ofKey key) := by
  rw [ofKey_setAll, ofKey_setAll, setAll_ofKey, setAll_ofKey]
  generalize added.last? key = given at last ⊢
  generalize more.last? key = meant at last ⊢
  cases last with
  | none => exact resemble_refl allowed _
  | some alike => exact resemble_set _ alike

end Pairs

inductive Edit.Resembles (leeway : Leeway) : Edit → Edit → Prop
  | equal (edit : Edit) : Edit.Resembles leeway edit edit
  | items {fields others : List Field}
    (alike : List.Forall₂ (Field.Resembles leeway) fields others) :
    Edit.Resembles leeway (.items fields) (.items others)
  | assertion {made other : Assertion} (alike : made.Resembles leeway other) :
    Edit.Resembles leeway (.assertion made) (.assertion other)

/-- Edits with the same effect up to the leeway, the order of pairs and rival values of pairs. -/
structure Edits.Alike (leeway : Leeway) (rivals : String → String → String → Prop)
    (first second : List Edit) : Prop where
  rest : List.Forall₂ (Edit.Resembles leeway) (first.filter fun edit => edit.pair?.isNone)
    (second.filter fun edit => edit.pair?.isNone)
  pairs : ∀ key, StandsFor (rivals key) (Pairs.last? (first.filterMap Edit.pair?) key)
    (Pairs.last? (second.filterMap Edit.pair?) key)

namespace Edits

variable {leeway : Leeway} {rivals : String → String → String → Prop}

theorem alike_refl (leeway : Leeway) (edits : List Edit) : Alike leeway rivals edits edits :=
  ⟨List.forall₂_same.mpr fun edit _ => .equal edit, fun _ => StandsFor.refl _ _⟩

theorem Alike.imp {weaker : String → String → String → Prop} {first second : List Edit}
    (alike : Alike leeway rivals first second)
    (implies : ∀ key one other, rivals key one other → one = other ∨ weaker key one other) :
    Alike leeway weaker first second :=
  ⟨alike.rest, fun key => (alike.pairs key).imp (implies key)⟩

theorem alike_single {edit other : Edit} (alike : edit.Resembles leeway other) :
    Alike leeway rivals [edit] [other] := by
  cases alike with
  | equal => exact alike_refl leeway _
  | items fields => exact ⟨.cons (.items fields) .nil, fun _ => .none⟩
  | assertion made => exact ⟨.cons (.assertion made) .nil, fun _ => .none⟩

theorem Alike.append {first second more others : List Edit}
    (alike : Alike leeway rivals first second) (later : Alike leeway rivals more others) :
    Alike leeway rivals (first ++ more) (second ++ others) where
  rest := by
    rw [List.filter_append, List.filter_append]
    exact List.rel_append alike.rest later.rest
  pairs key := by
    rw [List.filterMap_append, List.filterMap_append, Pairs.last?_append, Pairs.last?_append]
    have last := later.pairs key
    generalize Pairs.last? (more.filterMap Edit.pair?) key = value at last ⊢
    generalize Pairs.last? (others.filterMap Edit.pair?) key = other at last ⊢
    cases last with
    | none => exact alike.pairs key
    | some same => exact .some same

def extras (pairs : Pairs) : List Edit := pairs.map fun pair => .extra pair.1 pair.2

@[simp]
theorem pairs_extras (pairs : Pairs) : (extras pairs).filterMap Edit.pair? = pairs := by
  induction pairs with
  | nil => rfl
  | cons pair rest ih => exact congrArg (pair :: ·) ih

@[simp]
theorem rest_extras (pairs : Pairs) :
    ((extras pairs).filter fun edit => edit.pair?.isNone) = [] :=
  List.filter_eq_nil_iff.mpr fun edit member => by
    obtain ⟨pair, _, rfl⟩ := List.mem_map.mp member
    simp [Edit.pair?]

theorem extras_alike (leeway : Leeway) {pairs moved : Pairs} (moves : pairs.Perm moved)
    (distinct : pairs.keys.Nodup) : Alike leeway rivals (extras pairs) (extras moved) where
  rest := by
    rw [rest_extras, rest_extras]
    exact .nil
  pairs key := by
    rw [pairs_extras, pairs_extras, Pairs.last?_perm moves distinct key]
    exact StandsFor.refl _ _

end Edits

namespace Field

variable {leeway : Leeway}

theorem resembles_refl (leeway : Leeway) (field : Field) : field.Resembles leeway field := by
  have assertions : List.Forall₂ (Assertion.Resembles leeway) field.assertions field.assertions :=
    List.forall₂_same.mpr fun _ _ => ⟨StandsFor.refl _ _, rfl⟩
  refine .mk rfl assertions (fun key => Pairs.resemble_refl _ _) ?_
  cases held : field.items with
  | none => exact .none
  | some items =>
    refine .some (List.forall₂_same.mpr fun item member => ?_)
    have : sizeOf item < sizeOf field := by
      have smaller := List.sizeOf_lt_of_mem member
      cases field
      cases held
      simp only [mk.sizeOf_spec, Option.some.sizeOf_spec]
      omega
    exact item.resembles_refl leeway
termination_by sizeOf field

structure Agrees (leeway : Leeway) (first second : Field) : Prop where
  rest : { first with items := none, assertions := [], extra := [] } =
    { second with items := none, assertions := [], extra := [] }
  assertions : List.Forall₂ (Assertion.Resembles leeway) first.assertions second.assertions
  items : Option.Rel (List.Forall₂ (Resembles leeway)) first.items second.items

namespace Agrees

variable {first second : Field} (agrees : first.Agrees leeway second)

include agrees

theorem members : List.Forall₂ (Resembles leeway) first.members second.members := by
  have items := agrees.items
  unfold Field.members
  generalize first.items = held at items ⊢
  generalize second.items = others at items ⊢
  cases items with
  | none => exact .nil
  | some alike => exact alike

theorem apply {edit other : Edit} (same : edit.Resembles leeway other) :
    (first.apply edit).Agrees leeway (second.apply other) := by
  have members := agrees.members
  obtain ⟨rest, assertions, items⟩ := agrees
  cases same with
  | items same => exact ⟨rest, assertions, .some (List.rel_append members same)⟩
  | assertion made => exact ⟨rest, List.rel_append assertions (.cons made .nil), items⟩
  | equal edit =>
    cases edit with
    | items fields =>
      have same := List.forall₂_same.mpr fun field (_ : field ∈ fields) =>
        field.resembles_refl leeway
      exact ⟨rest, assertions, .some (List.rel_append members same)⟩
    | assertion made =>
      have same : made.Resembles leeway made := ⟨StandsFor.refl _ _, rfl⟩
      exact ⟨rest, List.rel_append assertions (.cons same .nil), items⟩
    | kind given => exact ⟨congrArg (Field.apply · (.kind given)) rest, assertions, items⟩
    | enumeration value =>
      exact ⟨congrArg (Field.apply · (.enumeration value)) rest, assertions, items⟩
    | doc text => exact ⟨congrArg (Field.apply · (.doc text)) rest, assertions, items⟩
    | extra => exact ⟨rest, assertions, items⟩

theorem applyEach {edits others : List Edit}
    (same : List.Forall₂ (Edit.Resembles leeway) edits others) :
    (first.applyAll edits).Agrees leeway (second.applyAll others) := by
  induction same generalizing first second with
  | nil => exact agrees
  | cons edit _ ih => exact ih (agrees.apply edit)

end Agrees

theorem Resembles.agrees {first second : Field} (alike : first.Resembles leeway second) :
    first.Agrees leeway second := by
  obtain ⟨rest, assertions, _, items⟩ := alike
  exact ⟨rest, assertions, items⟩

theorem agrees_with_extra (field : Field) (pairs others : Pairs) :
    { field with extra := pairs }.Agrees leeway { field with extra := others } := by
  obtain ⟨_, assertions, items⟩ := (field.resembles_refl leeway).agrees
  exact ⟨rfl, assertions, items⟩

theorem resembles_applyAll (field : Field) {edits others : List Edit}
    (alike : Edits.Alike leeway (leeway.pair (field.applyAll edits)) edits others) :
    (field.applyAll edits).Resembles leeway (field.applyAll others) := by
  -- The pairs are set first, all of them; the other edits leave them alone.
  have pairsFirst (made : List Edit) :
      field.applyAll made =
        { field with extra := field.extra.setAll (made.filterMap Edit.pair?) }.applyAll
          (made.filter fun edit => edit.pair?.isNone) := by
    rw [← extra_applyAll, ← applyAll_with_extra]
    cases field.applyAll made
    rfl
  have agrees : (field.applyAll edits).Agrees leeway (field.applyAll others) := by
    rw [pairsFirst edits, pairsFirst others]
    exact (field.agrees_with_extra _ _).applyEach alike.rest
  refine .mk agrees.rest agrees.assertions (fun key => ?_) agrees.items
  have held := Pairs.ofKey_setAll_resemble field.extra (alike.pairs key)
  rwa [← extra_applyAll, ← extra_applyAll] at held

end Field

end SchemaForms
