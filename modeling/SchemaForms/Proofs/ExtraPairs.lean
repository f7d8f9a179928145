import Mathlib.Data.List.Nodup
import SchemaForms.Proofs.RuleEffect
import SchemaForms.Proofs.StepPlacement

set_option autoImplicit false

namespace SchemaForms

def Edit.pair? : Edit → Option (String × String)
  | .extra key value => some (key, value)
  | .items _ | .kind _ | .enumeration _ | .doc _ | .assertion _ => none

namespace Pairs

def keys (pairs : Pairs) : List String := pairs.map (·.1)

def setAll (pairs added : Pairs) : Pairs :=
  added.foldl (fun held pair => held.set pair.1 pair.2) pairs

def ofKey (pairs : Pairs) (key : String) : Pairs := pairs.filter fun pair => pair.1 = key

theorem ofKey_cons (key : String) (pair : String × String) (rest : Pairs) :
    ofKey (pair :: rest) key = if pair.1 = key then pair :: ofKey rest key else ofKey rest key := by
  simp [ofKey, List.filter_cons]

theorem ofKey_set (pairs : Pairs) (key value wanted : String) :
    (pairs.set key value).ofKey wanted =
      if key = wanted then (pairs.ofKey wanted).set key value else pairs.ofKey wanted := by
  induction pairs with
  | nil => by_cases same : key = wanted <;> simp [set, ofKey, same]
  | cons pair rest ih =>
    obtain ⟨held, old⟩ := pair
    by_cases taken : held = key
    · by_cases same : key = wanted <;> simp [set, ofKey_cons, taken, same]
    · by_cases same : key = wanted <;> by_cases hit : held = wanted <;>
        simp_all [set, ofKey_cons]

theorem ofKey_setAll (pairs added : Pairs) (wanted : String) :
    (pairs.setAll added).ofKey wanted = (pairs.ofKey wanted).setAll (added.ofKey wanted) := by
  induction added generalizing pairs with
  | nil => rfl
  | cons pair rest ih =>
    have later := ih (pairs.set pair.1 pair.2)
    rw [ofKey_set] at later
    rw [ofKey_cons]
    by_cases same : pair.1 = wanted <;> simpa [setAll, same] using later

theorem first?_setAll (held added : Pairs) (key : String) :
    (held.setAll added).first? key = (added.last? key).or (held.first? key) := by
  induction added generalizing held with
  | nil => rfl
  | cons pair rest ih =>
    have later : ((held.set pair.1 pair.2).setAll rest).first? key = _ := ih _
    rw [last?_cons]
    by_cases hit : pair.1 = key
    · subst hit
      rw [first?_set_self] at later
      simpa [setAll] using later
    · rw [first?_set_of_ne _ _ (Ne.symm hit)] at later
      simpa [setAll, hit] using later

theorem perm_of_ofKey {first second : Pairs} (same : ∀ key, first.ofKey key = second.ofKey key) :
    first.Perm second := by
  refine List.perm_iff_count.mpr fun pair => ?_
  have counted (pairs : Pairs) : (pairs.ofKey pair.1).count pair = pairs.count pair :=
    List.count_filter (by simp)
  rw [← counted first, ← counted second, same]

theorem first?_eq_some_iff {pairs : Pairs} {key value : String} (distinct : pairs.keys.Nodup) :
    pairs.first? key = some value ↔ (key, value) ∈ pairs := by
  induction pairs with
  | nil => simp [first?]
  | cons pair rest ih =>
    obtain ⟨held, old⟩ := pair
    obtain ⟨free, distinct⟩ := List.nodup_cons.mp distinct
    by_cases hit : held = key
    · subst hit
      have absent : (held, value) ∉ rest := fun member =>
        free (List.mem_map.mpr ⟨_, member, rfl⟩)
      simp [first?, absent, eq_comm]
    · have later := ih distinct
      simp only [first?] at later ⊢
      simp [hit, Ne.symm hit, later]

theorem first?_perm {first second : Pairs} (moves : first.Perm second)
    (distinct : first.keys.Nodup) (key : String) : first.first? key = second.first? key := by
  have unique : second.keys.Nodup := (moves.map _).nodup_iff.mp distinct
  ext value
  rw [first?_eq_some_iff distinct, first?_eq_some_iff unique, moves.mem_iff]

theorem last?_perm {first second : Pairs} (moves : first.Perm second)
    (distinct : first.keys.Nodup) (key : String) : first.last? key = second.last? key := by
  have reversed : (keys first.reverse).Nodup := by
    rw [keys, List.map_reverse]
    exact List.nodup_reverse.mpr distinct
  exact first?_perm ((List.reverse_perm _).trans (moves.trans (List.reverse_perm _).symm))
    reversed key

theorem keys_filter_nodup {pairs : Pairs} (distinct : pairs.keys.Nodup)
    (keeps : String × String → Bool) : (keys (pairs.filter keeps)).Nodup :=
  distinct.sublist (List.filter_sublist.map _)

theorem keys_set (pairs : Pairs) (key value : String) :
    (pairs.set key value).keys = if key ∈ pairs.keys then pairs.keys else pairs.keys ++ [key] := by
  induction pairs with
  | nil => simp [set, keys]
  | cons pair rest ih =>
    obtain ⟨held, old⟩ := pair
    by_cases taken : held = key
    · simp [set, keys, taken]
    · have other : key ≠ held := Ne.symm taken
      simp only [keys] at ih
      by_cases known : key ∈ rest.map (·.1) <;> simp_all [set, keys]

theorem keys_prefix_setAll (held added : Pairs) : held.keys <+: (held.setAll added).keys := by
  induction added generalizing held with
  | nil => exact List.prefix_rfl
  | cons pair rest ih =>
    have first : held.keys <+: (held.set pair.1 pair.2).keys := by
      rw [keys_set]
      by_cases known : pair.1 ∈ held.keys <;> simp [known]
    exact first.trans (ih _)

theorem keys_setAll_nodup {pairs : Pairs} (added : Pairs) (distinct : pairs.keys.Nodup) :
    (pairs.setAll added).keys.Nodup := by
  induction added generalizing pairs with
  | nil => exact distinct
  | cons pair rest ih =>
    refine ih ?_
    rw [keys_set]
    split
    · exact distinct
    · next free =>
      refine List.nodup_append.mpr ⟨distinct, List.nodup_singleton _, fun key held other => ?_⟩
      rintro here rfl
      exact free (List.mem_singleton.mp here ▸ held)

theorem mem_set {pairs : Pairs} {pair : String × String} {key value : String}
    (member : pair ∈ pairs.set key value) : pair ∈ pairs ∨ pair = (key, value) := by
  induction pairs with
  | nil => exact .inr (List.mem_singleton.mp member)
  | cons held rest ih =>
    obtain ⟨name, old⟩ := held
    by_cases taken : name = key
    · simp only [set, taken, if_true, List.mem_cons] at member
      exact member.symm.imp_left (List.mem_cons_of_mem _)
    · simp only [set, taken, if_false, List.mem_cons] at member
      rcases member with rfl | later
      · exact .inl List.mem_cons_self
      · exact (ih later).imp_left (List.mem_cons_of_mem _)

theorem mem_setAll {pairs added : Pairs} {pair : String × String}
    (member : pair ∈ pairs.setAll added) : pair ∈ pairs ∨ pair ∈ added := by
  induction added generalizing pairs with
  | nil => exact .inl member
  | cons first rest ih =>
    have split : pair ∈ pairs.set first.1 first.2 ∨ pair ∈ rest := ih member
    rcases split with earlier | later
    · exact (mem_set earlier).imp_right fun same => by simp [same]
    · exact .inr (List.mem_cons_of_mem _ later)

end Pairs

theorem Edit.mem_pairs {edits : List Edit} {key value : String} :
    (key, value) ∈ edits.filterMap Edit.pair? ↔ .extra key value ∈ edits := by
  rw [List.mem_filterMap]
  constructor
  · rintro ⟨edit, made, set⟩
    cases edit with
    | extra => cases set; exact made
    | items | kind | enumeration | doc | assertion => contradiction
  · exact fun made => ⟨_, made, rfl⟩

theorem Edit.mem_keys_pairs {edits : List Edit} {key : String} :
    key ∈ Pairs.keys (edits.filterMap Edit.pair?) ↔ ∃ value, .extra key value ∈ edits := by
  simp only [Pairs.keys, List.mem_map, Prod.exists, exists_and_right, exists_eq_right, mem_pairs]

namespace Field

theorem extra_applyAll (field : Field) (edits : List Edit) :
    (field.applyAll edits).extra = field.extra.setAll (edits.filterMap Edit.pair?) := by
  induction edits generalizing field with
  | nil => rfl
  | cons edit rest ih =>
    rw [applyAll_cons, ih]
    cases edit <;> rfl

theorem applyAll_with_extra (field : Field) (edits : List Edit) (extra : Pairs) :
    { field.applyAll edits with extra } =
      { field with extra }.applyAll (edits.filter fun edit => edit.pair?.isNone) := by
  induction edits generalizing field with
  | nil => rfl
  | cons edit rest ih =>
    rw [applyAll_cons, ih]
    cases edit <;> rfl

structure Reordered (first second : Field) : Prop where
  rest : { first with extra := [] } = { second with extra := [] }
  pairs : first.extra.Perm second.extra

theorem reordered_applyAll (field : Field) {first second : List Edit}
    (rest : (first.filter fun edit => edit.pair?.isNone) =
      second.filter fun edit => edit.pair?.isNone)
    (pairs : ∀ key, Pairs.ofKey (first.filterMap Edit.pair?) key =
      Pairs.ofKey (second.filterMap Edit.pair?) key) :
    (field.applyAll first).Reordered (field.applyAll second) where
  rest := by
    rw [applyAll_with_extra, applyAll_with_extra, rest]
  pairs := by
    rw [extra_applyAll, extra_applyAll]
    refine Pairs.perm_of_ofKey fun key => ?_
    rw [Pairs.ofKey_setAll, Pairs.ofKey_setAll, pairs key]

theorem reordered_append (field : Field) {edits pairs : List Edit}
    (only : ∀ edit ∈ pairs, edit.pair?.isSome = true)
    (apart : ∀ key value other, .extra key value ∈ edits → .extra key other ∉ pairs) :
    (field.applyAll (edits ++ pairs)).Reordered (field.applyAll (pairs ++ edits)) := by
  refine reordered_applyAll field ?_ fun key => ?_
  · have none : (pairs.filter fun edit => edit.pair?.isNone) = [] :=
      List.filter_eq_nil_iff.mpr fun edit member => by
        simpa [Option.isSome_iff_ne_none] using only edit member
    simp [none]
  · have absent (held : Pairs) (free : key ∉ held.keys) : held.ofKey key = [] :=
      List.filter_eq_nil_iff.mpr fun pair member hit =>
        free (List.mem_map.mpr ⟨pair, member, by simpa using hit⟩)
    rw [List.filterMap_append, List.filterMap_append, Pairs.ofKey, Pairs.ofKey,
      List.filter_append, List.filter_append]
    by_cases set : key ∈ Pairs.keys (edits.filterMap Edit.pair?)
    · obtain ⟨value, here⟩ := Edit.mem_keys_pairs.mp set
      have nothing := absent (pairs.filterMap Edit.pair?) fun again => by
        obtain ⟨other, there⟩ := Edit.mem_keys_pairs.mp again
        exact apart key value other here there
      rw [Pairs.ofKey] at nothing
      simp [nothing]
    · have nothing := absent _ set
      rw [Pairs.ofKey] at nothing
      simp [nothing]

end Field

namespace Rule

def Sets : Rule → Node → String → String → Prop
  | .elementDecl _, node, key, value =>
    key ∈ ["maxOccurs", "use", "default"] ∧ (key, value) ∈ node.attributes
  | .attributeDecl, node, key, value =>
    key ∉ ["name", "use", "type"] ∧ (key, value) ∈ node.attributes
  | .list, _, key, value => key = "sub-type" ∧ ∃ type : NativeType, value = type.name
  | .restriction, node, key, value =>
    ∃ facet ∈ node.children, facet.name = key ∧ facet.attr "value" = some value ∧
      facet.tag ∉ [.text, .remark, .enumeration]
  | .group _, _, _, _ | .complexType, _, _, _ | .simpleType, _, _, _ | .simpleContent, _, _, _
  | .extension, _, _, _ | .complexContent, _, _, _ => False

inductive Gathers (catalogue : Catalogue) : Rule → Node → String → String → Prop
  | own {rule : Rule} {node : Node} {key value : String} (sets : rule.Sets node key value) :
    Gathers catalogue rule node key value
  | visit {rule visited : Rule} {node child : Node} {placement : Placement} {key value : String}
    (member : .visit visited child placement ∈ rule.steps catalogue node)
    (keeps : ∀ field, placement ≠ .item field) (inner : Gathers catalogue visited child key value) :
    Gathers catalogue rule node key value
  | define {rule visited : Rule} {node definition : Node} {placement : Placement}
    {key value : String} (member : .define visited definition placement ∈ rule.steps catalogue node)
    (keeps : ∀ field, placement ≠ .item field)
    (inner : Gathers catalogue visited definition key value) :
    Gathers catalogue rule node key value

variable {catalogue : Catalogue} {rule : Rule} {node child : Node} {key value text : String}

def passed (attributes : Pairs) : List Edit :=
  (attributes.filter fun pair => pair.1 ∈ ["maxOccurs", "use", "default"]).map fun pair =>
    .extra pair.1 pair.2

theorem flatMap_elementPair (attributes : Pairs) :
    attributes.flatMap elementPair = (passed attributes).map .edit := by
  induction attributes with
  | nil => rfl
  | cons pair rest ih =>
    by_cases kept : pair.1 = "maxOccurs" ∨ pair.1 = "use" ∨ pair.1 = "default" <;>
      simp_all [passed, elementPair]

theorem extra_not_mem_docSteps (remark : Node) : .edit (.extra key value) ∉ docSteps remark := by
  simp [docSteps]

theorem extra_of_typeRole (grouped : Bool) :
    .edit (.extra key value) ∉ (typeRole grouped).steps catalogue text := by
  unfold Role.steps
  split
  · cases grouped <;> simp [typeRole, nativeItem]
  · split <;> simp
  · simp

theorem sets_elementPair {pair : String × String} (grouped : Bool) (inside : pair ∈ node.attributes)
    (member : .edit (.extra key value) ∈ elementPair pair) :
    Sets (.elementDecl grouped) node key value := by
  unfold elementPair at member
  split at member
  · next passed =>
    cases List.mem_singleton.mp member
    exact ⟨by simpa using passed, inside⟩
  · simp at member

theorem extra_not_mem_elementChild (grouped : Bool) (child : Node) :
    .edit (.extra key value) ∉ elementChild grouped child := by
  unfold elementChild docSteps
  split <;> simp

theorem sets_attributePair {pair : String × String} (inside : pair ∈ node.attributes)
    (member : .edit (.extra key value) ∈ attributePair catalogue pair) :
    Sets .attributeDecl node key value := by
  unfold attributePair at member
  split at member
  · simp at member
  · next settled =>
    split at member
    · exact absurd member (extra_of_typeRole false)
    · next untyped =>
      cases List.mem_singleton.mp member
      exact ⟨by simp_all, inside⟩

theorem extra_not_mem_attributeChild (child : Node) :
    .edit (.extra key value) ∉ attributeChild child := by
  unfold attributeChild docSteps
  split <;> simp

theorem extra_not_mem_simpleChild (child : Node) :
    .edit (.extra key value) ∉ simpleChild child := by
  unfold simpleChild docSteps
  split <;> simp

theorem sets_itemTypeRole (member : .edit (.extra key value) ∈ itemTypeRole.steps catalogue text) :
    Sets .list node key value := by
  unfold Role.steps at member
  split at member
  · next type _ =>
    have set : key = "sub-type" ∧ value = type.name := by
      simpa [itemTypeRole, nativeItem] using member
    exact ⟨set.1, type, set.2⟩
  · split at member <;> simp [itemTypeRole] at member
  · simp at member

theorem extra_not_mem_inlineItemSteps : .edit (.extra key value) ∉ inlineItemSteps node := by
  unfold inlineItemSteps
  split <;> simp

theorem sets_facetSteps (below : child ∈ node.children)
    (member : .edit (.extra key value) ∈ facetSteps child) : Sets .restriction node key value := by
  unfold facetSteps at member
  split at member
  · simp at member
  · exact absurd member (extra_not_mem_docSteps child)
  · split at member <;> simp at member
  · split at member
    · next given =>
      cases List.mem_singleton.mp member
      exact ⟨child, below, rfl, given, by simp_all⟩
    · simp at member

theorem sets_steps (rule : Rule) (member : .edit (.extra key value) ∈ rule.steps catalogue node) :
    rule.Sets node key value := by
  have hands := hands_steps rule _ member
  cases rule with
  | group | complexType | simpleContent | extension | complexContent =>
    exact absurd (hands rfl) (by simp [Edit.isContent])
  | elementDecl grouped =>
    simp only [steps] at member
    split at member
    · rcases List.mem_append.mp member with member | member
      · rcases List.mem_append.mp member with member | member
        · obtain ⟨_, _, member⟩ := List.mem_flatMap.mp member
          exact absurd member (extra_of_typeRole grouped)
        · obtain ⟨_, inside, member⟩ := List.mem_flatMap.mp member
          exact sets_elementPair grouped inside member
      · obtain ⟨child, _, member⟩ := List.mem_flatMap.mp member
        exact absurd member (extra_not_mem_elementChild grouped child)
    · simp at member
  | attributeDecl =>
    rcases List.mem_append.mp member with member | member
    · obtain ⟨_, inside, member⟩ := List.mem_flatMap.mp member
      exact sets_attributePair inside member
    · obtain ⟨child, _, member⟩ := List.mem_flatMap.mp member
      exact absurd member (extra_not_mem_attributeChild child)
  | simpleType =>
    obtain ⟨child, _, member⟩ := List.mem_flatMap.mp member
    exact absurd member (extra_not_mem_simpleChild child)
  | list =>
    rcases List.mem_append.mp member with member | member
    · split at member
      · exact sets_itemTypeRole member
      · exact absurd member extra_not_mem_inlineItemSteps
    · simp at member
  | restriction =>
    rcases List.mem_cons.mp member with member | member
    · unfold restrictionBase at member
      split at member <;> simp at member
    · obtain ⟨child, below, member⟩ := List.mem_flatMap.mp member
      exact sets_facetSteps below member

theorem extra_of_mem_place {filling : Filling} {placement : Placement}
    (member : .extra key value ∈ (filling.place placement).edits) :
    (∀ field, placement ≠ .item field) ∧ .extra key value ∈ filling.edits := by
  have keeps : ∀ field, placement ≠ .item field := by
    rintro field rfl
    simp only [Filling.place] at member
    split at member <;> simp at member
  exact ⟨keeps, (Filling.mem_place_edits keeps member).resolve_left (by simp)⟩

theorem gathers_of_mem_fill (opened : List String) (rule : Rule) (node : Node)
    (made : .extra key value ∈ (rule.fill catalogue opened node).edits) :
    rule.Gathers catalogue node key value := by
  revert opened rule node
  refine @fill_induction catalogue _ ?_
  intro opened rule node inner made
  obtain ⟨step, member, made⟩ := mem_fill_edits made
  have inner := inner step member
  cases step with
  | edit change =>
    cases List.mem_singleton.mp made
    exact .own (sets_steps rule member)
  | note | refuse => simp [Step.fill, Filling.note] at made
  | visit visited child placement =>
    obtain ⟨keeps, made⟩ := extra_of_mem_place made
    exact .visit member keeps (inner made)
  | define visited definition placement =>
    rcases inner.define catalogue with ⟨later, inner, reads⟩ | ⟨name, met⟩
    · rw [reads] at made
      obtain ⟨keeps, made⟩ := extra_of_mem_place made
      exact .define member keeps (inner made)
    · simp [met, Filling.note] at made

namespace Gathers

theorem not_content (gathers : rule.Gathers catalogue node key value) : rule.isContent = false := by
  have onward {rule visited : Rule} {placement : Placement} (hands : rule.Hands visited placement)
      (keeps : ∀ field, placement ≠ .item field) (plain : visited.isContent = false) :
      rule.isContent = false := by
    cases placement with
    | direct | listed => exact Bool.eq_false_iff.mpr fun content => by simp [hands content] at plain
    | whole =>
      obtain ⟨sort, rfl⟩ := hands
      contradiction
    | item field => exact absurd rfl (keeps field)
  induction gathers with
  | @own rule _ _ _ sets => cases rule <;> first | rfl | exact sets.elim
  | @visit rule _ _ _ _ _ _ member keeps _ ih => exact onward (hands_steps rule _ member) keeps ih
  | @define rule _ _ _ _ _ _ member keeps _ ih => exact onward (hands_steps rule _ member) keeps ih

end Gathers

end Rule

end SchemaForms
