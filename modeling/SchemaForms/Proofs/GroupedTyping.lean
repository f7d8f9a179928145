import SchemaForms.Proofs.InlineTypes
import SchemaForms.Proofs.TypePairs

set_option autoImplicit false

namespace SchemaForms

/-- No facet of the type is called like a key that the declaration's own field may have. -/
def Catalogue.FacetsApart (catalogue : Catalogue) (text : String) : Prop :=
  ∀ definition, catalogue.resolve text = .defined definition →
    ∀ child ∈ definition.children, child.tag = .restriction → ∀ facet ∈ child.children,
      facet.name ∉ [Field.xmlRoleKey, "maxOccurs", "use", "default"]

def Node.ChildrenTypeless (node : Node) : Prop :=
  ∀ child ∈ node.children, child.tag ≠ .complexType ∧ child.tag ≠ .simpleType

/-- What a type contributes is in `value`, the one item of the group's member `grouped`, while the
field `plain` outside of groups has it itself. -/
structure Field.Wraps (kind : Kind) (contributed : Pairs) (plain grouped value : Field) : Prop where
  kind : grouped.kind = some kind
  items : grouped.items = some [value]
  named : value.name = some "value" ∧ value.required = none ∧ value.minOccurs = none
  typed : value.kind = plain.kind ∧ value.items = plain.items ∧
    value.enumeration = plain.enumeration ∧ value.assertions = plain.assertions
  doc : Option.merge (· ++ ·) value.doc grouped.doc = plain.doc
  pairs : value.extra = (xmlRoleKey, "text") :: contributed
  extra : plain.extra = contributed ++ grouped.extra
  -- The pairs of the type and those of the declaration cannot be taken for each other.
  own : ∀ key ∈ Pairs.keys grouped.extra, key ∈ ["maxOccurs", "use", "default"]
  apart : ∀ key ∈ Pairs.keys contributed, key ∉ [xmlRoleKey, "maxOccurs", "use", "default"]
  untyped : grouped.enumeration = none ∧ grouped.assertions = []
  declared : grouped.name = plain.name ∧ grouped.required = plain.required ∧
    grouped.minOccurs = plain.minOccurs

def Edit.isRemark : Edit → Bool
  | .doc _ | .extra _ _ => true
  | .items _ | .kind _ | .enumeration _ | .assertion _ => false

namespace Pairs

theorem set_append_of_not_mem {held : Pairs} {key : String} (free : key ∉ held.keys)
    (pairs : Pairs) (value : String) :
    set (held ++ pairs) key value = held ++ pairs.set key value := by
  induction held with
  | nil => rfl
  | cons pair rest ih =>
    obtain ⟨other, free⟩ := not_or.mp (List.mem_cons.not.mp free)
    simp [set, Ne.symm other, ih free]

theorem setAll_append_of_disjoint {held added : Pairs} (apart : held.keys.Disjoint added.keys)
    (pairs : Pairs) : setAll (held ++ pairs) added = held ++ setAll pairs added := by
  induction added generalizing pairs with
  | nil => rfl
  | cons pair rest ih =>
    obtain ⟨free, apart⟩ := List.disjoint_cons_right.mp apart
    exact (congrArg (setAll · rest) (set_append_of_not_mem free pairs pair.2)).trans (ih apart _)

end Pairs

namespace Contribution

theorem pairs_ofEdits (edits : List Edit) :
    (ofEdits edits).pairs = edits.filterMap Edit.pair? := by
  induction edits with
  | nil => rfl
  | cons edit rest ih =>
    change edit.contribution.pairs ++ (ofEdits rest).pairs = _
    rw [ih]
    cases edit <;> rfl

theorem ofEdits_remarks {edits : List Edit} (remarks : ∀ edit ∈ edits, edit.isRemark = true) :
    ∃ doc, ofEdits edits = { doc, pairs := edits.filterMap Edit.pair? } := by
  suffices remarked : ∃ doc pairs, ofEdits edits = { doc, pairs } by
    obtain ⟨doc, pairs, gain⟩ := remarked
    have same := pairs_ofEdits edits
    rw [gain] at same
    exact ⟨doc, same ▸ gain⟩
  induction edits with
  | nil => exact ⟨none, [], rfl⟩
  | cons edit rest ih =>
    obtain ⟨first, remarks⟩ := List.forall_mem_cons.mp remarks
    obtain ⟨doc, pairs, later⟩ := ih remarks
    rw [ofEdits, later]
    cases edit with
    | doc | extra => exact ⟨_, _, rfl⟩
    | items | kind | enumeration | assertion => contradiction

end Contribution

theorem Catalogue.keys_typePairs {catalogue : Catalogue} {text : String}
    (apart : catalogue.FacetsApart text) :
    ∀ key ∈ Pairs.keys (catalogue.typePairs text),
      key ∉ [Field.xmlRoleKey, "maxOccurs", "use", "default"] := by
  intro key member
  obtain ⟨pair, contributed, rfl⟩ := List.mem_map.mp member
  unfold typePairs at contributed
  cases found : catalogue.resolve text with
  | native | undefined => simp [found] at contributed
  | defined definition =>
    by_cases complex : definition.isComplexType = true
    · simp [found, complex] at contributed
    simp only [found, complex] at contributed
    obtain ⟨child, below, given⟩ := List.mem_flatMap.mp contributed
    cases tagged : child.tag with
    | restriction =>
      simp only [tagged] at given
      obtain ⟨facet, inside, kept⟩ := List.mem_filterMap.mp given
      have named : pair.1 = facet.name := by
        unfold Node.facetPair? at kept
        split at kept
        · contradiction
        · contradiction
        · contradiction
        · obtain ⟨value, _, rfl⟩ := Option.map_eq_some_iff.mp kept
          rfl
      rw [named]
      exact apart definition found child below tagged facet inside
    | list =>
      simp only [tagged, itemPairs] at given
      split at given
      · cases List.mem_singleton.mp given
        simp [Field.xmlRoleKey]
      · contradiction
    | _ => simp [tagged] at given

namespace Rule

variable {catalogue : Catalogue} {opened : List String} {node : Node} {text : String}

def remarkSteps (node : Node) : List Step :=
  node.attributes.flatMap elementPair ++ node.children.flatMap (elementChild false)

theorem steps_of_typed (grouped : Bool) (given : node.hasAttr "name" = true)
    (typed : node.attr "type" = some text) (typeless : node.ChildrenTypeless) :
    (elementDecl grouped).steps catalogue node =
      (typeRole grouped).steps catalogue text ++ remarkSteps node := by
  have same : node.children.flatMap (elementChild grouped) =
      node.children.flatMap (elementChild false) := by
    refine List.flatMap_congr fun child below => ?_
    obtain ⟨complex, simple⟩ := typeless child below
    cases tagged : child.tag <;> simp_all [elementChild]
  simp [steps, given, typed, same, remarkSteps]

theorem mem_remarkSteps (typeless : node.ChildrenTypeless) :
    ∀ step ∈ remarkSteps node,
      (∃ edit, step = .edit edit ∧ edit.isRemark = true) ∨ ∃ cause, step = .note cause := by
  intro step member
  rcases List.mem_append.mp member with member | member
  · obtain ⟨pair, _, member⟩ := List.mem_flatMap.mp member
    unfold elementPair at member
    split at member
    · exact .inl ⟨_, List.mem_singleton.mp member, rfl⟩
    · contradiction
  · obtain ⟨child, below, member⟩ := List.mem_flatMap.mp member
    obtain ⟨complex, simple⟩ := typeless child below
    unfold elementChild docSteps at member
    split at member
    · obtain ⟨doc, _, rfl⟩ := List.mem_map.mp member
      exact .inl ⟨_, rfl, rfl⟩
    · contradiction
    · contradiction
    · contradiction
    · exact .inr ⟨_, List.mem_singleton.mp member⟩

def remarks (catalogue : Catalogue) (opened : List String) (node : Node) : Filling :=
  .gather (Step.fill catalogue opened) (remarkSteps node)

section Remarks

variable (typeless : node.ChildrenTypeless)

include typeless

theorem remarks_edits {edit : Edit} (member : edit ∈ (remarks catalogue opened node).edits) :
    .edit edit ∈ remarkSteps node ∧ edit.isRemark = true := by
  obtain ⟨step, inside, made⟩ := Filling.mem_gather_edits member
  rcases mem_remarkSteps typeless step inside with ⟨change, rfl, remark⟩ | ⟨cause, rfl⟩
  · cases List.mem_singleton.mp made
    exact ⟨inside, remark⟩
  · contradiction

theorem remarks_keys {key : String}
    (member : key ∈ Pairs.keys (remarks catalogue opened node).pairs) :
    key ∈ ["maxOccurs", "use", "default"] := by
  obtain ⟨value, made⟩ := Edit.mem_keys_pairs.mp member
  rcases List.mem_append.mp (remarks_edits typeless made).1 with here | below
  · obtain ⟨pair, inside, kept⟩ := List.mem_flatMap.mp here
    exact (sets_elementPair false inside kept).1
  · obtain ⟨child, _, kept⟩ := List.mem_flatMap.mp below
    exact absurd kept (extra_not_mem_elementChild false child)

end Remarks

theorem typing_grouped (simple : catalogue.IsSimple opened text) :
    typing catalogue opened true text =
      (typing catalogue opened false text).place (.item Field.textValue) := by
  unfold Catalogue.IsSimple at simple
  unfold typing Role.steps
  cases found : catalogue.resolve text with
  | native type => rfl
  | undefined => simp [found] at simple
  | defined definition =>
    simp only [found] at simple
    obtain ⟨plain, closed⟩ := simple
    obtain ⟨later, reads⟩ := define_of_closed catalogue closed
    simp [plain, typeRole, simplePlacement, gather_single, reads, Filling.place]

theorem fill_typed (grouped : Bool) (given : node.hasAttr "name" = true)
    (typed : node.attr "type" = some text) (typeless : node.ChildrenTypeless) :
    (elementDecl grouped).fill catalogue opened node =
      .under node (typing catalogue opened grouped text ++ remarks catalogue opened node) := by
  rw [fill_eq, steps_of_typed grouped given typed typeless, Filling.gather_append, typing, remarks]

theorem fill_unnamed (grouped : Bool) (unnamed : node.hasAttr "name" = false) :
    (elementDecl grouped).fill catalogue opened node = { failure := some [node] } := by
  rw [fill_eq]
  simp only [steps, unnamed]
  rfl

end Rule

namespace Field

variable {kind : Kind} {typing remarks : List Edit}

theorem wraps_applyAll (name : Option String) (required : Option Requiredness)
    (minOccurs : Option String) (remarked : ∀ edit ∈ remarks, edit.isRemark = true)
    (own : ∀ key ∈ Pairs.keys (remarks.filterMap Edit.pair?),
      key ∈ ["maxOccurs", "use", "default"])
    (apart : ∀ key ∈ Pairs.keys (typing.filterMap Edit.pair?),
      key ∉ [xmlRoleKey, "maxOccurs", "use", "default"]) :
    Wraps kind (Pairs.setAll [] (typing.filterMap Edit.pair?))
      (({ name, required, minOccurs } : Field).applyAll (typing ++ remarks))
      (({ name, kind := some kind, required, minOccurs } : Field).applyAll
        (.items [textValue.applyAll typing] :: remarks))
      (textValue.applyAll typing) := by
  have keys {added : Pairs} {key : String} (member : key ∈ (Pairs.setAll [] added).keys) :
      key ∈ added.keys := by
    obtain ⟨pair, held, rfl⟩ := List.mem_map.mp member
    exact List.mem_map_of_mem ((Pairs.mem_setAll held).resolve_left List.not_mem_nil)
  have role : (Pairs.keys [(xmlRoleKey, "text")]).Disjoint
      (Pairs.keys (typing.filterMap Edit.pair?)) :=
    List.singleton_disjoint.mpr fun member => apart xmlRoleKey member List.mem_cons_self
  have outside : (Pairs.setAll [] (typing.filterMap Edit.pair?)).keys.Disjoint
      (Pairs.keys (remarks.filterMap Edit.pair?)) := fun key typed declared =>
    apart key (keys typed) (List.mem_cons_of_mem _ (own key declared))
  obtain ⟨doc, remark⟩ := Contribution.ofEdits_remarks remarked
  have paired := Contribution.pairs_ofEdits typing
  rw [applyAll_append, applyAll_cons]
  simp only [← Contribution.addTo_ofEdits, remark]
  rw [← paired] at apart role outside ⊢
  generalize Contribution.ofEdits typing = gain at apart role outside ⊢
  exact {
    kind := rfl
    items := rfl
    named := ⟨rfl, rfl, rfl⟩
    typed := by simp [Contribution.addTo, textValue]
    doc := by simp [Contribution.addTo, textValue, apply]
    pairs := Pairs.setAll_append_of_disjoint role []
    extra := by
      have after := Pairs.setAll_append_of_disjoint outside []
      rwa [List.append_nil] at after
    own := fun key member => own key (keys member)
    apart := fun key member => apart key (keys member)
    untyped := ⟨rfl, rfl⟩
    declared := ⟨rfl, rfl, rfl⟩ }

end Field

theorem Session.record_congr (session : Session) {first second : Filling}
    (notes : first.notes = second.notes) (failure : first.failure = second.failure) :
    session.record first = session.record second := by
  simp only [record, notes, failure]

theorem Filling.place_append (filling rest : Filling) (placement : Placement) :
    (filling.place placement ++ rest).notes = (filling ++ rest).notes ∧
      (filling.place placement ++ rest).failure = (filling ++ rest).failure := by
  cases failed : filling.failure <;> simp [append_eq, failed]

section Reading

variable {catalogue : Catalogue} {opened : List String} {node : Node} {text : String}
  (typed : node.attr "type" = some text) (typeless : node.ChildrenTypeless)
  (simple : catalogue.IsSimple opened text)

include typed typeless simple

theorem Rule.grouped_reading :
    ((elementDecl true).fill catalogue opened node).notes =
        ((elementDecl false).fill catalogue opened node).notes ∧
      ((elementDecl true).fill catalogue opened node).failure =
        ((elementDecl false).fill catalogue opened node).failure := by
  cases given : node.hasAttr "name" with
  | false => simp [fill_unnamed _ given]
  | true =>
    obtain ⟨notes, failure⟩ := (typing catalogue opened false text).place_append
      (remarks catalogue opened node) (.item Field.textValue)
    rw [fill_typed true given typed typeless, fill_typed false given typed typeless,
      typing_grouped simple]
    exact ⟨by simpa [Filling.under] using congrArg _ notes,
      by simpa [Filling.under] using congrArg _ failure⟩

theorem Field.wraps_readings (apart : catalogue.FacetsApart text) (kind : Kind)
    (done : ((Rule.elementDecl false).fill catalogue opened node).failure = none)
    (name : Option String) (required : Option Requiredness) (minOccurs : Option String) :
    ∃ value, Wraps kind (Pairs.setAll [] (catalogue.typePairs text))
      (({ name, required, minOccurs } : Field).applyAll
        ((Rule.elementDecl false).fill catalogue opened node).edits)
      (({ name, kind := some kind, required, minOccurs } : Field).applyAll
        ((Rule.elementDecl true).fill catalogue opened node).edits)
      value := by
  cases given : node.hasAttr "name" with
  | false => simp [Rule.fill_unnamed _ given] at done
  | true =>
    rw [Rule.fill_typed false given typed typeless] at done ⊢
    rw [Rule.fill_typed true given typed typeless, Rule.typing_grouped simple]
    obtain ⟨read, -⟩ := (Filling.append_failure_eq_none_iff _ _).mp
      (Option.map_eq_none_iff.mp done)
    have placed : ((Rule.typing catalogue opened false text).place (.item textValue)).failure =
        none :=
      (Filling.place_failure _ _).trans read
    rw [Filling.append_of_success _ read, Filling.append_of_success _ placed,
      Filling.place_item_edits textValue read, ← Rule.pairs_typing simple read]
    refine ⟨_, wraps_applyAll name required minOccurs
      (fun edit made => (Rule.remarks_edits typeless made).2)
      (fun key member => Rule.remarks_keys typeless member) fun key member => ?_⟩
    exact catalogue.keys_typePairs apart key (Rule.pairs_typing simple read ▸ member)

end Reading

theorem Walker.grouped_typing_in_value (walker : Walker) (node : Node) (name : Option String)
    (required : Option Requiredness) (minOccurs : Option String) (kind : Kind) (text : String)
    (grouped : kind.isGrouped = true) (typed : node.attr "type" = some text)
    (typeless : node.ChildrenTypeless)
    (simple : walker.session.catalogue.IsSimple walker.opened text)
    (apart : walker.session.catalogue.FacetsApart text) :
    ∃ (after : Walker) (plain member : Except SchemaError Field),
      walker.answer (.element node { name, required, minOccurs }) = .some (after, .field plain) ∧
      walker.answer (.element node { name, kind := some kind, required, minOccurs }) =
        .some (after, .field member) ∧
      ((∃ error, plain = .error error ∧ member = .error error) ∨
        ∃ field wrapper value, plain = .ok field ∧ member = .ok wrapper ∧
          Field.Wraps kind (Pairs.setAll [] (walker.session.catalogue.typePairs text))
            field wrapper value) := by
  obtain ⟨notes, failure⟩ := Rule.grouped_reading typed typeless simple
  have plain := walker.answer_eq_recorded (.element node { name, required, minOccurs })
  have member := walker.answer_eq_recorded
    (.element node { name, kind := some kind, required, minOccurs })
  simp only [Call.rule, Call.node, Field.isGrouped, Option.any_some, Option.any_none, grouped,
    Session.enter, Session.leave] at plain member
  rw [Session.record_congr _ notes failure] at member
  cases ended : (walker.session.record
      ((Rule.elementDecl false).fill walker.session.catalogue walker.opened node)).2 with
  | some error =>
    rw [ended] at plain member
    exact ⟨_, _, _, plain, member, .inl ⟨error, rfl, rfl⟩⟩
  | none =>
    rw [ended] at plain member
    have done := walker.session.record_error_isSome
      ((Rule.elementDecl false).fill walker.session.catalogue walker.opened node)
    rw [ended, Option.isSome_none, eq_comm, Option.isSome_eq_false_iff, Option.isNone_iff_eq_none]
      at done
    obtain ⟨value, wraps⟩ := Field.wraps_readings typed typeless simple apart kind done
      (node.attr "name") required ((node.attributes.last? "minOccurs").or minOccurs)
    exact ⟨_, _, _, plain, member, .inr ⟨_, _, value, rfl, rfl, wraps⟩⟩

namespace Nested

theorem port_typed_in_value :
    Kind.isGrouped .radio = true ∧ port.attr "type" = some "t:Port" ∧ port.ChildrenTypeless ∧
      walker.session.catalogue.IsSimple walker.opened "t:Port" ∧
      walker.session.catalogue.FacetsApart "t:Port" ∧
      ∃ (after : Walker) (plain member : Except SchemaError Field),
        walker.answer (.element port {}) = .some (after, .field plain) ∧
        walker.answer (.element port { kind := some .radio }) = .some (after, .field member) ∧
        ((∃ error, plain = .error error ∧ member = .error error) ∨
          ∃ field wrapper value, plain = .ok field ∧ member = .ok wrapper ∧
            Field.Wraps .radio [("minInclusive", "1")] field wrapper value) := by
  have found : types.resolve "t:Port" = .defined portType := rfl
  have typeless : port.ChildrenTypeless := List.forall_mem_nil _
  have simple : walker.session.catalogue.IsSimple walker.opened "t:Port" := by
    refine ⟨rfl, fun name named => ?_⟩
    cases (show some "Port" = some name from named)
    decide
  have apart : walker.session.catalogue.FacetsApart "t:Port" := by
    intro definition same
    cases found.symm.trans same
    decide
  exact ⟨rfl, rfl, typeless, simple, apart,
    walker.grouped_typing_in_value port none none none .radio "t:Port" rfl rfl typeless simple
      apart⟩

end Nested

end SchemaForms
