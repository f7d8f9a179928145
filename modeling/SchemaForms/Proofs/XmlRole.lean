import SchemaForms.Proofs.GroupMembers

set_option autoImplicit false

namespace SchemaForms

open Relation

inductive XmlRole
  | element
  | attr
  | text
deriving DecidableEq, Repr

/-- What stands under `Field.xmlRoleKey` in a field of this role. -/
def XmlRole.mark : XmlRole → Option String
  | .element => none
  | .attr => some "attribute"
  | .text => some "text"

theorem XmlRole.mark_injective {role other : XmlRole} (same : role.mark = other.mark) :
    role = other := by
  cases role <;> cases other <;> simp_all [mark]

namespace Field

def Plays (field : Field) : XmlRole → Prop
  | .element =>
    field.name.isSome = true ∧
      (field.required = some .required ∨ field.required = some .optional) ∧
      field.extra.first? xmlRoleKey = none
  | .attr =>
    field.extra.first? xmlRoleKey = some "attribute" ∧
      (field.required = none ∨ ∃ use, field.required = some (.use use)) ∧ field.minOccurs = none
  | .text =>
    field.name = some "value" ∧ field.extra.first? xmlRoleKey = some "text" ∧
      field.required = none ∧ field.minOccurs = none

theorem Plays.mark {field : Field} {role : XmlRole} (plays : field.Plays role) :
    field.extra.first? xmlRoleKey = role.mark := by
  cases role with
  | element => exact plays.2.2
  | attr => exact plays.1
  | text => exact plays.2.1

theorem first?_textValue : textValue.extra.first? xmlRoleKey = some "text" := by decide

theorem first?_applyAll (field : Field) {key : String} {edits : List Edit}
    (unset : ∀ edit ∈ edits, ∀ value, edit ≠ .extra key value) :
    (field.applyAll edits).extra.first? key = field.extra.first? key := by
  induction edits generalizing field with
  | nil => rfl
  | cons edit rest ih =>
    obtain ⟨first, unset⟩ := List.forall_mem_cons.mp unset
    rw [applyAll_cons, ih _ unset]
    cases edit with
    | extra other value =>
      exact Pairs.first?_set_of_ne _ _ fun same => first value (by rw [same])
    | items | kind | enumeration | doc | assertion => rfl

end Field

def Document.FreeOf (document : Document) (key : String) : Prop :=
  ∀ node ∈ document.root.preorder, node.name ≠ key ∧ ∀ pair ∈ node.attributes, pair.1 ≠ key

theorem Edit.Fits.role_unset {document : Document} {rule : Rule} {edit : Edit}
    (fits : edit.Fits (.ofDocument document) document.nodes rule)
    (free : document.FreeOf Field.xmlRoleKey) :
    ∀ value, edit ≠ .extra Field.xmlRoleKey value := by
  rintro value rfl
  rcases fits with known | ⟨node, inside, named | ⟨written, held⟩⟩
  · simp [Field.xmlRoleKey] at known
  · exact (free node inside).1 named
  · exact (free node inside).2 _ held rfl

theorem Field.Made.plays {document : Document} {field : Field}
    (made : field.Made (.ofDocument document) document.nodes)
    (free : document.FreeOf Field.xmlRoleKey) : ∃ role, field.Plays role := by
  cases made with
  | native type => exact ⟨.text, rfl, first?_textValue, rfl, rfl⟩
  | value simple inside suits done =>
    have unset := fun edit made =>
      (Rule.fits_fill document.closes_nodes _ _ _ inside suits done edit made).role_unset free
    refine ⟨.text, by simp [textValue], ?_, by simp [textValue], by simp [textValue]⟩
    rw [first?_applyAll _ unset, first?_textValue]
  | @attr opened node inside tagged done =>
    have unset := fun edit made =>
      (Rule.fits_fill document.closes_nodes opened .attributeDecl node inside tagged done
        edit made).role_unset free
    refine ⟨.attr, ?_, ?_, by simp [Node.attributeField, attributeValue]⟩
    · rw [first?_applyAll _ unset]
      simp [Node.attributeField, attributeValue, Pairs.first?]
    · cases use : node.attributes.last? "use" with
      | none => exact .inl (by simp [Node.attributeField, use])
      | some text => exact .inr ⟨text, by simp [Node.attributeField, use]⟩
  | @member opened sort group child inside tagged done below named =>
    have childDone := Group.done_of_member done below named
    have unset := fun edit made =>
      (Group.fits_member document.closes_nodes inside done below named edit made).role_unset free
    have settles : sort.Settles child (sort.member (.ofDocument document) opened child) :=
      Group.settles_member named childDone
    refine ⟨.element, ?_, ?_, ?_⟩
    · obtain ⟨name, _, given⟩ := settles.named
      simp [given]
    · rw [settles.required]
      split <;> split <;> simp
    · rw [Group.member, first?_applyAll _ unset]
      simp [Pairs.first?]

theorem Document.field_plays_one_role (document : Document)
    (free : document.FreeOf Field.xmlRoleKey) (compilation : Compilation)
    (compiled : document.compile = .ok compilation) (field : Field)
    (below : TransGen Field.Holds compilation.field field) :
    (∃! role, field.Plays role) ∧ (field.name = none → field.Plays .attr) := by
  obtain ⟨role, plays⟩ := (made_of_compile compiled below).plays free
  refine ⟨⟨role, plays, fun other also => ?_⟩, fun unnamed => ?_⟩
  · exact XmlRole.mark_injective (also.mark.symm.trans plays.mark)
  · cases role with
    | element => simp [Field.Plays, unnamed] at plays
    | attr => exact plays
    | text => simp [Field.Plays, unnamed] at plays

theorem Listener.protocol_plays_one_role :
    document.FreeOf Field.xmlRoleKey ∧ document.compile = .ok compilation ∧
      TransGen Field.Holds compilation.field protocolField ∧
      (∃! role, protocolField.Plays role) ∧
      (protocolField.name = none → protocolField.Plays .attr) := by
  have free : document.FreeOf Field.xmlRoleKey := by
    unfold Document.FreeOf
    decide
  have below : TransGen Field.Holds compilation.field protocolField :=
    .tail (.single holds_port) holds_protocol
  exact ⟨free, document_compile, below,
    document.field_plays_one_role free compilation document_compile protocolField below⟩

end SchemaForms
