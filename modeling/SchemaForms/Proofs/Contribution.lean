import SchemaForms.Proofs.Draft

set_option autoImplicit false

namespace SchemaForms

open StateTransition

structure Contribution where
  kind : Option Kind := none
  items : Option (List Field) := none
  enumeration : Option (List String) := none
  doc : Option String := none
  assertions : List Assertion := []
  -- The pairs to be set, in this order.
  pairs : Pairs := []

namespace Contribution

def addTo (gain : Contribution) (field : Field) : Field :=
  { field with
    kind := gain.kind.or field.kind
    items := Option.merge (· ++ ·) field.items gain.items
    enumeration := Option.merge (· ++ ·) field.enumeration gain.enumeration
    doc := Option.merge (· ++ ·) field.doc gain.doc
    assertions := field.assertions ++ gain.assertions
    extra := gain.pairs.foldl (fun pairs pair => pairs.set pair.1 pair.2) field.extra }

instance : Append Contribution where
  append first rest :=
    { kind := rest.kind.or first.kind
      items := Option.merge (· ++ ·) first.items rest.items
      enumeration := Option.merge (· ++ ·) first.enumeration rest.enumeration
      doc := Option.merge (· ++ ·) first.doc rest.doc
      assertions := first.assertions ++ rest.assertions
      pairs := first.pairs ++ rest.pairs }

theorem addTo_append (first rest : Contribution) (field : Field) :
    (first ++ rest).addTo field = rest.addTo (first.addTo field) := by
  have merge_assoc {α : Type} [Append α] [Std.Associative (α := α) (· ++ ·)] (a b c : Option α) :
      Option.merge (· ++ ·) a (Option.merge (· ++ ·) b c) =
        Option.merge (· ++ ·) (Option.merge (· ++ ·) a b) c := by
    cases a <;> cases b <;> cases c <;> simp [Option.merge, Std.Associative.assoc]
  change addTo ⟨_, _, _, _, _, _⟩ field = _
  simp [addTo, merge_assoc, Option.or_assoc, List.foldl_append]

end Contribution

namespace Edit

def contribution : Edit → Contribution
  | .items fields => { items := some fields }
  | .kind given => { kind := some given }
  | .enumeration value => { enumeration := some [value] }
  | .doc text => { doc := some text }
  | .assertion made => { assertions := [made] }
  | .extra key value => { pairs := [(key, value)] }

theorem addTo_contribution (edit : Edit) (field : Field) :
    edit.contribution.addTo field = field.apply edit := by
  cases edit with
  | items fields =>
    cases held : field.items <;>
      simp [contribution, Contribution.addTo, Field.apply, Field.members, held]
  | enumeration value =>
    cases held : field.enumeration <;>
      simp [contribution, Contribution.addTo, Field.apply, held]
  | doc text =>
    cases held : field.doc <;> simp [contribution, Contribution.addTo, Field.apply, held]
  | kind | assertion | extra => simp [contribution, Contribution.addTo, Field.apply]

end Edit

namespace Contribution

def ofEdits : List Edit → Contribution
  | [] => {}
  | edit :: rest => edit.contribution ++ ofEdits rest

theorem addTo_ofEdits (edits : List Edit) (field : Field) :
    (ofEdits edits).addTo field = field.applyAll edits := by
  induction edits generalizing field with
  | nil =>
    cases field
    simp [ofEdits, addTo]
  | cons edit rest ih =>
    rw [ofEdits, addTo_append, Edit.addTo_contribution, ih, Field.applyAll_cons]

end Contribution

theorem Field.applyAll_content (field : Field) {edits : List Edit}
    (content : ∀ edit ∈ edits, edit.isContent = true) :
    (field.applyAll edits).kind = field.kind ∧
      (field.applyAll edits).enumeration = field.enumeration ∧
      (field.applyAll edits).extra = field.extra := by
  induction edits generalizing field with
  | nil => exact ⟨rfl, rfl, rfl⟩
  | cons edit rest ih =>
    obtain ⟨first, content⟩ := List.forall_mem_cons.mp content
    have later := ih (field.apply edit) content
    cases edit with
    | items | doc | assertion => exact later
    | kind | enumeration | extra => contradiction

namespace Rule

variable {catalogue : Catalogue} {opened : List String} {rule visited : Rule} {node : Node}

theorem Hands.content {filling : Filling} {placement : Placement}
    (hands : rule.Hands visited placement) (content : rule.isContent = true)
    (inner : visited.isContent = true → ∀ edit ∈ filling.edits, edit.isContent = true) :
    ∀ edit ∈ (filling.place placement).edits, edit.isContent = true := by
  intro edit member
  cases placement with
  | direct => exact inner (hands content) edit member
  | listed =>
    rcases List.mem_cons.mp member with rfl | member
    · rfl
    · exact inner (hands content) edit member
  | whole =>
    obtain ⟨sort, rfl⟩ := hands
    simp only [Filling.place] at member
    split at member
    · simp at member
    · exact inner rfl edit member
  -- Whatever was done to an item, to the field around it it is one more item.
  | item field =>
    simp only [Filling.place] at member
    split at member
    · simp at member
    · cases List.mem_singleton.mp member
      rfl

theorem content_fill (opened : List String) (rule : Rule) (node : Node)
    (content : rule.isContent = true) :
    ∀ edit ∈ (rule.fill catalogue opened node).edits, edit.isContent = true := by
  revert opened rule node
  refine @fill_induction catalogue _ ?_
  intro opened rule node inner content edit made
  obtain ⟨step, member, made⟩ := mem_fill_edits made
  have hands := hands_steps rule step member
  have inner := inner step member
  cases step with
  | edit change =>
    cases List.mem_singleton.mp made
    exact hands content
  | note | refuse => simp [Step.fill, Filling.note] at made
  | visit visited child placement => exact hands.content content inner edit made
  | define visited definition placement =>
    rcases inner.define catalogue with ⟨later, inner, reads⟩ | ⟨name, met⟩
    · rw [reads] at made
      exact hands.content content inner edit made
    · simp [met, Filling.note] at made

end Rule

theorem Session.filling_adds_same_contribution (session : Session) (opened : List String)
    (rule : Rule) (type : rule = .complexType ∨ rule = .simpleType) (node : Node) :
    ∃ (after : Session) (error : Option SchemaError) (gain : Contribution),
      (∀ (field : Field) (around : List Field) (tasks : List Task),
        Reaches Draft.next
          { session, opened, field, around, tasks := .read rule node :: tasks }
          { session := after, opened, field := gain.addTo field, around, error, tasks }) ∧
      (opened = [] → ∀ field, session.fill rule node field = (after, gain.addTo field, error)) ∧
      (∀ field, (gain.addTo field).name = field.name ∧
        (gain.addTo field).required = field.required ∧
        (gain.addTo field).minOccurs = field.minOccurs) ∧
      (rule = .complexType → ∀ field, (gain.addTo field).kind = field.kind ∧
        (gain.addTo field).enumeration = field.enumeration ∧
        (gain.addTo field).extra = field.extra) := by
  let filling := rule.fill session.catalogue opened node
  have filled (field : Field) : (Contribution.ofEdits filling.edits).addTo field =
      field.applyAll filling.edits := Contribution.addTo_ofEdits _ field
  refine ⟨(session.record filling).1, (session.record filling).2, .ofEdits filling.edits,
    fun field around tasks => ?_, fun none field => ?_, fun field => ⟨rfl, rfl, rfl⟩,
    fun complex field => ?_⟩
  · rw [filled]
    exact Draft.reaches_read { session, opened, field, around, tasks } rfl rule node
  · subst none
    rw [filled]
    rfl
  · rw [filled]
    subst complex
    exact field.applyAll_content (Rule.content_fill opened .complexType node rfl)

namespace Broken

def id : Node := { name := "attribute", attributes := [("name", "id"), ("type", "string")] }

def port : Node := { name := "element", attributes := [("name", "port")] }

def unnamed : Node := { name := "element" }

def members : Node := { name := "sequence", children := [port, unnamed] }

def content : Node :=
  { name := "complexType", attributes := [("name", "Listener")], children := [id, members] }

theorem fill_content (catalogue : Catalogue) (opened : List String) :
    Rule.complexType.fill catalogue opened content =
      { edits := [.items [{ id.attributeField with kind := some (.native .string) }]]
        failure := some [content, members, unnamed] } := by
  have readId : Rule.attributeDecl.fill catalogue opened id =
      { edits := [.kind (.native .string)] } := by
    rw [Rule.fill_eq]
    rfl
  have readPort : (Rule.elementDecl false).fill catalogue opened port = {} := by
    rw [Rule.fill_eq]
    rfl
  have readUnnamed : (Rule.elementDecl false).fill catalogue opened unnamed =
      { failure := some [unnamed] } := by
    rw [Rule.fill_eq]
    rfl
  have readMembers : (Rule.group .sequence).fill catalogue opened members =
      { edits := [.items [], .items [port.declare (Group.sequence.blank port)]]
        failure := some [members, unnamed] } := by
    rw [Rule.fill_eq, show (Rule.group .sequence).steps catalogue members =
      [.edit (.items []),
        .visit (.elementDecl false) port (.item (port.declare (Group.sequence.blank port))),
        .visit (.elementDecl false) unnamed
          (.item (unnamed.declare (Group.sequence.blank unnamed)))] from rfl]
    simp only [Filling.gather_cons, Step.fill, readPort, readUnnamed]
    rfl
  rw [Rule.fill_eq, show Rule.complexType.steps catalogue content =
    [.visit .attributeDecl id (.item id.attributeField),
      .visit (.group .sequence) members .whole] from rfl]
  simp only [Filling.gather_cons, Step.fill, readId, readMembers]
  rfl

theorem content_adds_same :
    (Rule.complexType = .complexType ∨ Rule.complexType = .simpleType) ∧
      ∃ gain : Contribution, ∀ field,
        (Session.start .empty).fill .complexType content field =
          ({ catalogue := .empty, path := [content, members, unnamed] }, gain.addTo field,
            some (.malformed "/complexType[@name='Listener']/sequence/element"
              "element declaration has no name attribute")) := by
  refine ⟨.inl rfl, ?_⟩
  obtain ⟨after, error, gain, _, filled, _⟩ :=
    (Session.start .empty).filling_adds_same_contribution [] .complexType (.inl rfl) content
  have failed := filled rfl {}
  rw [Session.fill, fill_content] at failed
  have ends : after = { catalogue := .empty, path := [content, members, unnamed] } :=
    (congrArg Prod.fst failed).symm
  have refused : error = some (.malformed "/complexType[@name='Listener']/sequence/element"
      "element declaration has no name attribute") :=
    (congrArg (·.2.2) failed).symm
  subst ends refused
  exact ⟨gain, filled rfl⟩

end Broken

end SchemaForms
