import SchemaForms.Proofs.DeclaredItems

set_option autoImplicit false

namespace SchemaForms

open StateTransition

/-- The type is nothing but an extension of `base`, and `body` is what the extension holds. -/
structure Node.Extends (catalogue : Catalogue) (type base body : Node) : Prop where
  content : ∃ content, type.elements = [content] ∧ content.tag = .complexContent ∧
    content.elements = [body]
  extension : body.tag = .extension
  resolved : ∃ text, body.attr "base" = some text ∧ catalogue.resolve text = .defined base

/-- Types of the catalogue, each an extension of the one before; indices beyond `depth` are free. -/
structure Lineage (catalogue : Catalogue) (depth : Nat) where
  name : Nat → String
  type : Nat → Node
  -- What the type adds; the first type adds all that it holds.
  body : Nat → Node
  known : ∀ i ≤ depth, catalogue.get? (name i) = some (type i)
  complex : ∀ i ≤ depth, (type i).isComplexType = true
  distinct : ∀ i ≤ depth, ∀ j ≤ depth, name i = name j → i = j
  root : body 0 = type 0
  derived : ∀ i < depth, (type (i + 1)).Extends catalogue (type i) (body (i + 1))

namespace Lineage

variable {catalogue : Catalogue} {depth : Nat}

/-- The types that are being read when what type `i` adds is read. -/
def opened (lineage : Lineage catalogue depth) (i : Nat) (opened : List String) : List String :=
  (List.range' i (depth + 1 - i)).map lineage.name ++ opened

def base (lineage : Lineage catalogue (depth + 1)) : Lineage catalogue depth where
  name := lineage.name
  type := lineage.type
  body := lineage.body
  known i _ := lineage.known i (by omega)
  complex i _ := lineage.complex i (by omega)
  distinct i _ j _ := lineage.distinct i (by omega) j (by omega)
  root := lineage.root
  derived i _ := lineage.derived i (by omega)

theorem opened_self (lineage : Lineage catalogue depth) (opened : List String) :
    lineage.opened depth opened = lineage.name depth :: opened := by
  simp [Lineage.opened]

theorem opened_base (lineage : Lineage catalogue (depth + 1)) (opened : List String) {i : Nat}
    (le : i ≤ depth) :
    lineage.base.opened i (lineage.name (depth + 1) :: opened) = lineage.opened i opened := by
  have longer : depth + 1 + 1 - i = depth + 1 - i + 1 := by omega
  have last : i + (depth + 1 - i) = depth + 1 := by omega
  simp [Lineage.opened, base, longer, List.range'_1_concat, last]

theorem attr_name (lineage : Lineage catalogue depth) {i : Nat} (le : i ≤ depth) :
    (lineage.type i).attr "name" = some (lineage.name i) :=
  Catalogue.attr_of_get? (lineage.known i le)

end Lineage

theorem Node.flatMap_elements {steps : Node → List Step} (node : Node)
    (texts : ∀ child, child.tag = .text → steps child = []) :
    node.children.flatMap steps = node.elements.flatMap steps := by
  rw [elements]
  induction node.children with
  | nil => rfl
  | cons child rest ih =>
    rw [List.flatMap_cons, ih]
    cases text : child.isText with
    | true => simp [text, texts child (isText_iff.mp text)]
    | false => simp [text]

namespace Node.Extends

variable {catalogue : Catalogue} {opened : List String} {base body type : Node}

theorem fill_eq (derived : type.Extends catalogue base body) (complex : base.isComplexType = true)
    {name : String} (named : base.attr "name" = some name) (closed : name ∉ opened) :
    ∃ content, Rule.complexType.fill catalogue opened type =
      ((Rule.complexType.fill catalogue (name :: opened) base ++
        Rule.complexType.fill catalogue opened body).under content).under type := by
  obtain ⟨content, only, tagged, held⟩ := derived.content
  obtain ⟨text, given, found⟩ := derived.resolved
  have outer : Rule.complexType.steps catalogue type =
      [.visit .complexContent content .direct] := by
    rw [Rule.steps, flatMap_elements type (by simp +contextual [Rule.complexChild]), only]
    simp [Rule.complexChild, tagged]
  have inner : Rule.complexContent.steps catalogue content =
      [.define .complexType base .direct, .visit .complexType body .direct] := by
    rw [Rule.steps, flatMap_elements content (by simp +contextual [Rule.complexContentChild]), held]
    simp [Rule.complexContentChild, derived.extension, given, Rule.Role.steps, found, complex,
      Rule.ancestorRole]
  have enters : (Step.define .complexType base .direct).fill catalogue opened =
      Rule.complexType.fill catalogue (name :: opened) base :=
    Step.fill_define .complexType .direct named closed
  refine ⟨content, ?_⟩
  rw [Rule.fill_eq, outer, Rule.gather_single, Step.fill, Filling.place, Rule.fill_eq _ _ _ content,
    inner, Filling.gather_cons, Rule.gather_single, enters]
  rfl

end Node.Extends

namespace Lineage

variable {catalogue : Catalogue} {depth : Nat}

def part (lineage : Lineage catalogue depth) (opened : List String) (i : Nat) : Filling :=
  Rule.complexType.fill catalogue (lineage.opened i opened) (lineage.body i)

theorem part_base (lineage : Lineage catalogue (depth + 1)) (opened : List String) {i : Nat}
    (le : i ≤ depth) :
    lineage.base.part (lineage.name (depth + 1) :: opened) i = lineage.part opened i := by
  rw [part, opened_base lineage opened le]
  rfl

theorem part_zero (lineage : Lineage catalogue 0) (opened : List String) :
    lineage.part opened 0 =
      Rule.complexType.fill catalogue (lineage.name 0 :: opened) (lineage.type 0) := by
  rw [part, opened_self, lineage.root]

theorem not_mem_opened (lineage : Lineage catalogue (depth + 1)) {opened : List String}
    (closed : ∀ i ≤ depth + 1, lineage.name i ∉ opened) :
    ∀ i ≤ depth, lineage.base.name i ∉ lineage.name (depth + 1) :: opened := by
  intro i le
  have other : lineage.name i ≠ lineage.name (depth + 1) := by
    intro same
    have := lineage.distinct i (by omega) (depth + 1) (by omega) same
    omega
  simp only [List.mem_cons, not_or]
  exact ⟨other, closed i (by omega)⟩

theorem fill_last (lineage : Lineage catalogue (depth + 1)) {opened : List String}
    (closed : ∀ i ≤ depth + 1, lineage.name i ∉ opened) :
    ∃ content, Rule.complexType.fill catalogue (lineage.name (depth + 1) :: opened)
        (lineage.type (depth + 1)) =
      ((Rule.complexType.fill catalogue
          (lineage.base.name depth :: lineage.name (depth + 1) :: opened)
          (lineage.base.type depth) ++
        lineage.part opened (depth + 1)).under content).under (lineage.type (depth + 1)) := by
  have derived := lineage.derived depth (by omega)
  have named := lineage.attr_name (show depth ≤ depth + 1 by omega)
  rw [part, opened_self]
  exact derived.fill_eq (lineage.complex depth (by omega)) named
    (lineage.not_mem_opened closed depth (Nat.le_refl depth))

theorem fill_failure_eq_none_iff (lineage : Lineage catalogue depth) (opened : List String)
    (closed : ∀ i ≤ depth, lineage.name i ∉ opened) :
    (Rule.complexType.fill catalogue (lineage.name depth :: opened)
        (lineage.type depth)).failure = none ↔
      ∀ i ≤ depth, (lineage.part opened i).failure = none := by
  induction depth generalizing opened with
  | zero => simp [part_zero]
  | succ depth ih =>
    obtain ⟨content, read⟩ := lineage.fill_last closed
    -- The base is read below the name of the type, which is one more that is open.
    have earlier := ih lineage.base _ (lineage.not_mem_opened closed)
    have split : (Rule.complexType.fill catalogue (lineage.name (depth + 1) :: opened)
          (lineage.type (depth + 1))).failure = none ↔
        (∀ i ≤ depth, (lineage.part opened i).failure = none) ∧
          (lineage.part opened (depth + 1)).failure = none := by
      rw [read]
      simp only [Filling.under, Option.map_eq_none_iff, Filling.append_failure_eq_none_iff, earlier]
      refine and_congr_left fun _ => forall₂_congr fun i le => ?_
      rw [part_base lineage opened le]
    rw [split]
    constructor
    · rintro ⟨parts, last⟩ i le
      rcases Nat.le_or_eq_of_le_succ le with before | rfl
      · exact parts i before
      · exact last
    · intro parts
      exact ⟨fun i le => parts i (by omega), parts (depth + 1) (Nat.le_refl _)⟩

theorem fill_edits (lineage : Lineage catalogue depth) (opened : List String)
    (closed : ∀ i ≤ depth, lineage.name i ∉ opened)
    (done : (Rule.complexType.fill catalogue (lineage.name depth :: opened)
      (lineage.type depth)).failure = none) :
    (Rule.complexType.fill catalogue (lineage.name depth :: opened) (lineage.type depth)).edits =
      (List.range (depth + 1)).flatMap fun i => (lineage.part opened i).edits := by
  induction depth generalizing opened with
  | zero => simp [part_zero]
  | succ depth ih =>
    obtain ⟨content, read⟩ := lineage.fill_last closed
    rw [read] at done ⊢
    simp only [Filling.under, Option.map_eq_none_iff, Filling.append_failure_eq_none_iff] at done
    have inherited := ih lineage.base _ (lineage.not_mem_opened closed) done.1
    have same : ((List.range (depth + 1)).flatMap fun i =>
        (lineage.base.part (lineage.name (depth + 1) :: opened) i).edits) =
        (List.range (depth + 1)).flatMap fun i => (lineage.part opened i).edits := by
      refine List.flatMap_congr fun i member => ?_
      have le : i ≤ depth := Nat.lt_succ_iff.mp (List.mem_range.mp member)
      rw [part_base lineage opened le]
    rw [List.range_succ, List.flatMap_append, ← same, ← inherited]
    simp [Filling.under, Filling.append_of_success _ done.1]

end Lineage

namespace Contribution

theorem foldl_addTo_ofEdits (edits : Nat → List Edit) (indices : List Nat) (field : Field) :
    indices.foldl (fun part i => (ofEdits (edits i)).addTo part) field =
      field.applyAll (indices.flatMap edits) := by
  induction indices generalizing field with
  | nil => rfl
  | cons i rest ih =>
    rw [List.foldl_cons, ih, List.flatMap_cons, Field.applyAll_append, addTo_ofEdits]

theorem members_addTo (gain : Contribution) (field : Field) :
    (gain.addTo field).members = field.members ++ gain.items.getD [] := by
  cases held : field.items <;> cases more : gain.items <;>
    simp [addTo, Field.members, held, more]

theorem doc_addTo (gain : Contribution) (field : Field) :
    (gain.addTo field).doc.getD "" = field.doc.getD "" ++ gain.doc.getD "" := by
  cases held : field.doc <;> cases more : gain.doc <;> simp [addTo, held, more]

theorem foldl_addTo (gain : Nat → Contribution) (indices : List Nat) (field : Field) :
    let filled := indices.foldl (fun part i => (gain i).addTo part) field
    filled.members = field.members ++ indices.flatMap (fun i => (gain i).items.getD []) ∧
      filled.assertions = field.assertions ++ indices.flatMap (fun i => (gain i).assertions) ∧
      filled.doc.getD "" =
        field.doc.getD "" ++ String.join (indices.map fun i => (gain i).doc.getD "") := by
  induction indices generalizing field with
  | nil => simp
  | cons i rest ih =>
    obtain ⟨members, assertions, doc⟩ := ih ((gain i).addTo field)
    refine ⟨?_, ?_, ?_⟩
    · rw [List.foldl_cons, members, members_addTo, List.flatMap_cons, List.append_assoc]
    · rw [List.foldl_cons, assertions, List.flatMap_cons, ← List.append_assoc]
      rfl
    · rw [List.foldl_cons, doc, doc_addTo, List.map_cons, String.join_cons, String.append_assoc]

end Contribution

theorem Draft.reaches_named (draft : Draft) (going : draft.error = none) {definition : Node}
    {name : String} (named : definition.attr "name" = some name) (closed : name ∉ draft.opened) :
    Reaches next
      { draft with tasks := .step (.define .complexType definition .direct) :: draft.tasks }
      (draft.settle
        (Rule.complexType.fill draft.session.catalogue (name :: draft.opened) definition)) := by
  have entered : (Step.define .complexType definition .direct).fill draft.session.catalogue
      draft.opened =
        Rule.complexType.fill draft.session.catalogue (name :: draft.opened) definition :=
    Step.fill_define .complexType .direct named closed
  have hands : (Step.define .complexType definition .direct).Hands .complexType := id
  rw [← entered]
  exact draft.reaches_step going hands

theorem Walker.inherits_base_first {catalogue : Catalogue} {depth : Nat}
    (lineage : Lineage catalogue depth) (session : Session) (same : session.catalogue = catalogue)
    (opened : List String) (closed : ∀ i ≤ depth, lineage.name i ∉ opened) (after : Walker)
    (field filled : Field)
    (read : (⟨session, lineage.name depth :: opened⟩ : Walker).answer
      (.complexType (lineage.type depth) field) = .some (after, .filled filled none)) :
    (∀ (around : List Field) (tasks : List Task),
      Reaches Draft.next
        { session, opened, field, around
          tasks := .step (.define .complexType (lineage.type depth) .direct) :: tasks }
        { session := after.session, opened, field := filled, around, tasks }) ∧
    ∃ gain : Nat → Contribution,
      (∀ i ≤ depth, ∀ other : Session, other.catalogue = catalogue → ∀ part, ∃ later,
        (⟨other, lineage.opened i opened⟩ : Walker).answer (.complexType (lineage.body i) part) =
          .some (later, .filled ((gain i).addTo part) none)) ∧
      filled = (List.range (depth + 1)).foldl (fun part i => (gain i).addTo part) field ∧
      filled.members = field.members ++
        (List.range (depth + 1)).flatMap (fun i => (gain i).items.getD []) ∧
      filled.assertions = field.assertions ++
        (List.range (depth + 1)).flatMap (fun i => (gain i).assertions) ∧
      filled.doc.getD "" = field.doc.getD "" ++
        String.join ((List.range (depth + 1)).map fun i => (gain i).doc.getD "") := by
  subst same
  obtain ⟨done, rfl, rfl⟩ := Walker.answer_complexType_iff.mp read
  refine ⟨fun around tasks => ?_, ?_⟩
  · have reached := Draft.reaches_named { session, opened, field, around, tasks } rfl
      (lineage.attr_name (Nat.le_refl depth)) (closed depth (Nat.le_refl depth))
    rw [Draft.settle, (session.record_error_eq_none_iff _).mpr done] at reached
    exact reached
  · have parts := (lineage.fill_failure_eq_none_iff opened closed).mp done
    have edits := lineage.fill_edits opened closed done
    let gain (i : Nat) : Contribution := .ofEdits (lineage.part opened i).edits
    have folded := Contribution.foldl_addTo_ofEdits (fun i => (lineage.part opened i).edits)
      (List.range (depth + 1)) field
    rw [edits, ← folded]
    refine ⟨gain, fun i le other known part => ?_, rfl, Contribution.foldl_addTo gain _ field⟩
    have alone : Rule.complexType.fill other.catalogue (lineage.opened i opened) (lineage.body i) =
        lineage.part opened i := by
      rw [known]
      rfl
    refine ⟨_, Walker.answer_complexType_iff.mpr ⟨?_, rfl, ?_⟩⟩
    · exact (congrArg Filling.failure alone).trans (parts i le)
    · have same := congrArg (fun filling => part.applyAll filling.edits) alone
      exact (Contribution.addTo_ofEdits _ part).trans same.symm

namespace Devices

def serial : Node := { name := "attribute", attributes := [("name", "serial")] }

def ports : Node := { name := "attribute", attributes := [("name", "ports")] }

def routes : Node := { name := "attribute", attributes := [("name", "routes")] }

def device : Node :=
  { name := "complexType", attributes := [("name", "Device")], children := [serial] }

def switchBody : Node :=
  { name := "extension", attributes := [("base", "Device")], children := [ports] }

def switch : Node :=
  { name := "complexType", attributes := [("name", "Switch")]
    children := [{ name := "complexContent", children := [switchBody] }] }

def routerBody : Node :=
  { name := "extension", attributes := [("base", "Switch")], children := [routes] }

def router : Node :=
  { name := "complexType", attributes := [("name", "Router")]
    children := [{ name := "complexContent", children := [routerBody] }] }

def catalogue : Catalogue := { definitions := [router, switch, device] }

def lineage : Lineage catalogue 2 where
  name
    | 0 => "Device"
    | 1 => "Switch"
    | _ => "Router"
  type
    | 0 => device
    | 1 => switch
    | _ => router
  body
    | 0 => device
    | 1 => switchBody
    | _ => routerBody
  known
    | 0, _ | 1, _ | 2, _ => rfl
  complex
    | 0, _ | 1, _ | 2, _ => rfl
  distinct := by decide
  root := rfl
  derived
    | 0, _ | 1, _ => ⟨⟨_, rfl, rfl, rfl⟩, rfl, _, rfl, rfl⟩

theorem read_part (opened : List String) : ∀ i ≤ 2, (lineage.part opened i).failure = none := by
  have alone (opened : List String) (body child : Node)
      (only : Rule.complexType.steps catalogue body =
        [.visit .attributeDecl child (.item child.attributeField)])
      (plain : Rule.attributeDecl.steps catalogue child = []) :
      (Rule.complexType.fill catalogue opened body).failure = none := by
    have read : Rule.attributeDecl.fill catalogue opened child = {} := by
      rw [Rule.fill_eq, plain]
      rfl
    rw [Rule.fill_failure_eq_none_iff, only]
    simp [Step.fill, read]
  intro i le
  match i, le with
  | 0, _ => exact alone _ device serial rfl rfl
  | 1, _ => exact alone _ switchBody ports rfl rfl
  | 2, _ => exact alone _ routerBody routes rfl rfl

theorem router_inherits :
    (∀ i ≤ 2, lineage.name i ∉ ["Rack"]) ∧ ∃ after filled,
      (⟨Session.start catalogue, ["Router", "Rack"]⟩ : Walker).answer (.complexType router {}) =
        .some (after, .filled filled none) ∧
      filled.members.map Field.name = [some "serial", some "ports", some "routes"] := by
  have closed : ∀ i ≤ 2, lineage.name i ∉ ["Rack"] := by decide
  have done := (lineage.fill_failure_eq_none_iff ["Rack"] closed).mpr (read_part ["Rack"])
  obtain ⟨after, filled, read⟩ : ∃ after filled,
      (⟨Session.start catalogue, ["Router", "Rack"]⟩ : Walker).answer (.complexType router {}) =
        .some (after, .filled filled none) :=
    ⟨_, _, Walker.answer_complexType_iff.mpr ⟨done, rfl, rfl⟩⟩
  obtain ⟨_, gain, parts, _, members, _⟩ := Walker.inherits_base_first lineage
    (Session.start catalogue) rfl ["Rack"] closed after {} filled read
  have names (i : Nat) (le : i ≤ 2) : ((gain i).items.getD []).map Field.name =
      (lineage.body i).children.flatMap Node.declared := by
    obtain ⟨later, part⟩ := parts i le (Session.start catalogue) rfl {}
    obtain ⟨success, _, same⟩ := Walker.answer_complexType_iff.mp part
    have items := congrArg Field.members same
    rw [Contribution.members_addTo, Field.members_applyAll] at items
    have plain : ∀ i ≤ 2, ∀ child ∈ (lineage.body i).children,
        child.tag ≠ .simpleContent ∧ child.tag ≠ .complexContent := by decide
    rw [List.append_cancel_left items]
    exact Rule.names_complexType (plain i le) success
  refine ⟨closed, after, filled, read, ?_⟩
  rw [members]
  simp only [List.range_succ, List.range_zero, List.nil_append, List.flatMap_append,
    List.map_append, List.flatMap_singleton, names 0 (by decide), names 1 (by decide),
    names 2 (by decide)]
  rfl

end Devices

end SchemaForms
