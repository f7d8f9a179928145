import SchemaForms.Proofs.CallHistory
import SchemaForms.Proofs.GroupMembers

set_option autoImplicit false

namespace SchemaForms

def Node.declared (child : Node) : List (Option String) :=
  match child.tag with
  | .all | .sequence | .choice => child.declarations.map fun declaration => declaration.attr "name"
  | .attribute => [child.attributes.last? "name"]
  | _ => []

def Step.items (catalogue : Catalogue) (opened : List String) (step : Step) : List Field :=
  (step.fill catalogue opened).edits.flatMap Edit.fields

namespace Rule

variable {catalogue : Catalogue} {opened : List String} {node child : Node} {sort : Group}

theorem names_group
    (done : ((Step.visit (group sort) child .whole).fill catalogue opened).failure = none) :
    ((Step.visit (group sort) child .whole).items catalogue opened).map Field.name =
      child.declarations.map fun declaration => declaration.attr "name" := by
  simp only [Step.fill, Filling.place_failure] at done
  have read := Group.read?_eq_some done
  simp only [Group.read?, done, Field.members_applyAll] at read
  have items : (Step.visit (group sort) child .whole).items catalogue opened =
      child.declarations.map (sort.member catalogue opened) := by
    simpa [Step.items, Step.fill, Filling.place, done, Field.members] using read
  rw [items, List.map_map]
  refine List.map_congr_left fun declaration _ => ?_
  simp [Group.member, Node.declare]

theorem names_attribute
    (done : ((Step.visit attributeDecl child (.item child.attributeField)).fill
      catalogue opened).failure = none) :
    ((Step.visit attributeDecl child (.item child.attributeField)).items
      catalogue opened).map Field.name = [child.attributes.last? "name"] := by
  simp only [Step.fill, Filling.place_failure] at done
  simp [Step.items, Step.fill, Filling.place_item_edits _ done, Edit.fields, Node.attributeField]

theorem items_docSteps (remark : Node) :
    (docSteps remark).flatMap (Step.items catalogue opened) = [] := by
  cases remarks : remark.doc? <;> simp [docSteps, remarks, Step.items, Step.fill, Edit.fields]

theorem names_complexChild (simple : child.tag ≠ .simpleContent)
    (complex : child.tag ≠ .complexContent)
    (done : ∀ step ∈ complexChild child, (step.fill catalogue opened).failure = none) :
    ((complexChild child).flatMap (Step.items catalogue opened)).map Field.name =
      child.declared := by
  have single (step : Step) : [step].flatMap (Step.items catalogue opened) =
      step.items catalogue opened := by simp
  by_cases tagged : child.tag = .attribute
  · simp only [complexChild, Node.declared, tagged, List.forall_mem_singleton, single] at done ⊢
    exact names_attribute done
  cases other : child.tag with
  | all | sequence | choice =>
    simp only [complexChild, Node.declared, other, List.forall_mem_singleton, single] at done ⊢
    exact names_group done
  | simpleContent | complexContent => contradiction
  | remark => simp [complexChild, Node.declared, other, items_docSteps]
  | _ =>
    simp_all [complexChild, Node.declared, Step.items, Step.fill, Filling.note, Edit.fields]

theorem names_complexType
    (plain : ∀ child ∈ node.children, child.tag ≠ .simpleContent ∧ child.tag ≠ .complexContent)
    (done : (complexType.fill catalogue opened node).failure = none) :
    ((complexType.fill catalogue opened node).edits.flatMap Edit.fields).map Field.name =
      node.children.flatMap Node.declared := by
  have steps := fill_failure_eq_none_iff.mp done
  have children : ∀ child ∈ node.children,
      ((complexChild child).flatMap (Step.items catalogue opened)).map Field.name =
        child.declared := by
    intro child below
    obtain ⟨simple, complex⟩ := plain child below
    exact names_complexChild simple complex fun step member =>
      steps step (List.mem_flatMap.mpr ⟨child, below, member⟩)
  calc ((complexType.fill catalogue opened node).edits.flatMap Edit.fields).map Field.name
    _ = ((node.children.flatMap complexChild).flatMap (Step.items catalogue opened)).map
        Field.name := by
      rw [fill_edits done, List.flatMap_assoc]
      rfl
    _ = node.children.flatMap fun child =>
        ((complexChild child).flatMap (Step.items catalogue opened)).map Field.name := by
      rw [List.flatMap_assoc, List.map_flatMap]
    _ = node.children.flatMap Node.declared := List.flatMap_congr children

end Rule

theorem Walker.appends_declared_items (walker after : Walker) (node : Node) (field filled : Field)
    (plain : ∀ child ∈ node.children, child.tag ≠ .simpleContent ∧ child.tag ≠ .complexContent)
    (read : walker.answer (.complexType node field) = .some (after, .filled filled none)) :
    ∃ items, filled.members = field.members ++ items ∧
      items.map Field.name = node.children.flatMap Node.declared := by
  obtain ⟨done, _, rfl⟩ := Walker.answer_complexType_iff.mp read
  exact ⟨_, field.members_applyAll _, Rule.names_complexType plain done⟩

namespace Account

def code : Node := { name := "attribute", attributes := [("name", "id"), ("name", "code")] }

def unnamed : Node := { name := "attribute" }

def email : Node := { name := "element", attributes := [("name", "email")] }

def contacts : Node := { name := "choice", children := [{ name := "any" }, email] }

def content : Node :=
  { name := "complexType"
    children := [code, { name := "annotation" }, contacts, { name := "anyAttribute" }, unnamed] }

theorem fill_content_failure (opened : List String) :
    (Rule.complexType.fill .empty opened content).failure = none := by
  have readEmail : ((Rule.elementDecl true).fill .empty opened email).failure = none := by
    rw [Rule.fill_eq]
    rfl
  have readContacts : ((Rule.group .choice).fill .empty opened contacts).failure = none := by
    rw [Rule.fill_failure_eq_none_iff, show (Rule.group .choice).steps .empty contacts =
      [.edit (.items []), .note (.nonElementInGroup "any"),
        .visit (.elementDecl true) email
          (.item (email.declare (Group.choice.blank email)))] from rfl]
    simp [Step.fill, Filling.note, readEmail]
  have readAttribute (node : Node) (member : node = code ∨ node = unnamed) :
      (Rule.attributeDecl.fill .empty opened node).failure = none := by
    rcases member with rfl | rfl <;> rw [Rule.fill_eq] <;> rfl
  rw [Rule.fill_failure_eq_none_iff, show Rule.complexType.steps .empty content =
    [.visit .attributeDecl code (.item code.attributeField),
      .visit (.group .choice) contacts .whole, .note (.unhandledComplexChild "anyAttribute"),
      .visit .attributeDecl unnamed (.item unnamed.attributeField)] from rfl]
  simp [Step.fill, Filling.note, readContacts, readAttribute]

theorem content_appends_declared :
    (∀ child ∈ content.children, child.tag ≠ .simpleContent ∧ child.tag ≠ .complexContent) ∧
      ∃ after filled,
        (⟨Session.start .empty, ["Owner"]⟩ : Walker).answer (.complexType content {}) =
          .some (after, .filled filled none) ∧
        filled.members.map Field.name = [some "code", some "email", none] := by
  have plain : ∀ child ∈ content.children,
      child.tag ≠ .simpleContent ∧ child.tag ≠ .complexContent := by decide
  obtain ⟨after, filled, read⟩ : ∃ after filled,
      (⟨Session.start .empty, ["Owner"]⟩ : Walker).answer (.complexType content {}) =
        .some (after, .filled filled none) :=
    ⟨_, _, Walker.answer_complexType_iff.mpr ⟨fill_content_failure ["Owner"], rfl, rfl⟩⟩
  obtain ⟨items, members, names⟩ :=
    Walker.appends_declared_items ⟨Session.start .empty, ["Owner"]⟩ after content {} filled plain
      read
  refine ⟨plain, after, filled, read, ?_⟩
  rw [members]
  exact names

end Account

end SchemaForms
