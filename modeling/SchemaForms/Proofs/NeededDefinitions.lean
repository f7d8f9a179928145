import Mathlib.Data.List.Perm.Basic
import SchemaForms.Proofs.CompilationWalk
import SchemaForms.Proofs.FillingParts

set_option autoImplicit false

namespace SchemaForms

def Node.referenceKeys : List String := ["type", "base", "itemType"]

def Node.references (node : Node) : List String :=
  node.preorder.flatMap fun inner =>
    (inner.attributes.filter fun pair => pair.1 ∈ referenceKeys).map fun pair =>
      (Reference.ofText pair.2).target

def Node.definedName? (node : Node) : Option String :=
  if node.nameContains "element" then none else node.attr "name"

namespace Document

def firstElement? (document : Document) : Option Node :=
  document.root.children.find? fun child => child.tag = .element

/-- A name that is referred to in the root element or in the definition of a needed name. -/
inductive Needs (document : Document) : String → Prop
  | declared {element : Node} {name : String} (declares : document.firstElement? = some element)
      (cited : name ∈ element.references) : Needs document name
  | defined {name other : String} {definition : Node} (needed : Needs document name)
      (held : (Catalogue.ofDocument document).get? name = some definition)
      (cited : other ∈ definition.references) : Needs document other

def definedNames (document : Document) : List String :=
  document.root.preorder.filterMap Node.definedName?

end Document

namespace Node

variable {node inner : Node}

theorem defines_iff {name : String} : node.defines name = true ↔ node.definedName? = some name := by
  cases element : node.nameContains "element" <;> simp [defines, definedName?, element]

theorem mem_references {key text : String} (inside : inner ∈ node.preorder)
    (cited : (key, text) ∈ inner.attributes) (refers : key ∈ referenceKeys) :
    (Reference.ofText text).target ∈ node.references := by
  refine List.mem_flatMap.mpr ⟨inner, inside, List.mem_map.mpr ⟨(key, text), ?_, rfl⟩⟩
  exact List.mem_filter.mpr ⟨cited, by simpa using refers⟩

theorem references_of_mem_preorder (inside : inner ∈ node.preorder) :
    ∀ name ∈ inner.references, name ∈ node.references := by
  intro name cited
  obtain ⟨lowest, below, cited⟩ := List.mem_flatMap.mp cited
  exact List.mem_flatMap.mpr ⟨lowest, mem_preorder_trans inside below, cited⟩

end Node

namespace Rule

variable {first second : Catalogue} {rule : Rule} {node : Node}

theorem Cites.mem_references {text : String} (cited : rule.Cites node text) :
    (Reference.ofText text).target ∈ node.references := by
  have here := node.mem_preorder_self
  cases rule with
  | elementDecl | attributeDecl | list | extension =>
    exact Node.mem_references here cited (by simp [Node.referenceKeys])
  | complexContent =>
    obtain ⟨child, below, -, based⟩ := cited
    exact Node.mem_references (Node.mem_preorder_of_mem_children here below) based
      (by simp [Node.referenceKeys])
  | group | complexType | simpleType | restriction | simpleContent => exact cited.elim

theorem Role.steps_congr {role : Role} {text : String}
    (agree : first.resolve text = second.resolve text) :
    role.steps first text = role.steps second text := by
  rw [steps, steps, agree]

theorem steps_congr
    (agree : ∀ text, rule.Cites node text → first.resolve text = second.resolve text) :
    rule.steps first node = rule.steps second node := by
  cases rule with
  | elementDecl grouped =>
    have typed : (node.attr "type").toList.flatMap ((typeRole grouped).steps first) =
        (node.attr "type").toList.flatMap ((typeRole grouped).steps second) :=
      List.flatMap_congr fun text found =>
        Role.steps_congr (agree text (Node.mem_attributes_of_attr (Option.mem_toList.mp found)))
    simp only [steps, typed]
  | attributeDecl =>
    have pairs : node.attributes.flatMap (attributePair first) =
        node.attributes.flatMap (attributePair second) := by
      refine List.flatMap_congr fun pair member => ?_
      unfold attributePair
      split
      · rfl
      · split
        · next typed =>
          have cited : ("type", pair.2) ∈ node.attributes := typed ▸ member
          exact Role.steps_congr (agree pair.2 cited)
        · rfl
    simp only [steps, pairs]
  | list =>
    simp only [steps]
    split
    · next text typed =>
      rw [Role.steps_congr (agree text (Node.mem_attributes_of_attr typed))]
    · rfl
  | extension =>
    simp only [steps]
    split
    · next text based =>
      rw [Role.steps_congr (agree text (Node.mem_attributes_of_attr based))]
    · rfl
  | complexContent =>
    refine List.flatMap_congr fun child below => ?_
    unfold complexContentChild
    split
    · next tagged =>
      split
      · next base based =>
        have cited : Cites .complexContent node base :=
          ⟨child, below, tagged, Node.mem_attributes_of_attr based⟩
        rw [Role.steps_congr (agree base cited)]
      · rfl
    all_goals rfl
  | group | complexType | simpleType | restriction | simpleContent => rfl

theorem fill_congr {needed : String → Prop}
    (agree : ∀ name, needed name → first.get? name = second.get? name)
    (closed : ∀ name definition, needed name → first.get? name = some definition →
      ∀ other ∈ definition.references, needed other)
    (opened : List String) (rule : Rule) (node : Node)
    (within : ∀ name ∈ node.references, needed name) :
    rule.fill first opened node = rule.fill second opened node := by
  revert opened rule node
  refine @fill_induction first _ ?_
  intro opened rule node inner within
  have resolved (text : String) (cited : rule.Cites node text) :
      first.resolve text = second.resolve text := by
    unfold Catalogue.resolve Catalogue.lookup
    rw [agree _ (within _ cited.mem_references)]
  have below (child : Node) (member : child ∈ node.children) :
      ∀ name ∈ child.references, needed name := fun name cited =>
    within name (Node.references_of_mem_preorder
      (Node.mem_preorder_of_mem_children node.mem_preorder_self member) name cited)
  rw [fill_eq, fill_eq, ← steps_congr resolved]
  congr 1
  refine Filling.gather_congr fun step member => ?_
  have origin := from_steps rule step member
  have inner := inner step member
  cases step with
  | edit | note | refuse => rfl
  | visit visited child placement =>
    simp only [Step.fill, inner (below child origin.1)]
  | define visited definition placement =>
    -- A definition is found under a needed name, and so it refers to needed names only.
    have inside : ∀ name ∈ definition.references, needed name := by
      rcases origin.1 with ⟨member, _⟩ | ⟨text, cited, found⟩
      · exact below definition member
      · exact closed _ definition (within _ cited.mem_references) (Catalogue.get?_of_resolve found)
    cases named : definition.attr "name" with
    | none =>
      simp only [Step.Inner, named] at inner
      simp only [Step.fill, named, inner inside]
    | some name =>
      simp only [Step.Inner, named] at inner
      simp only [Step.fill, named]
      split
      · next shut => rw [inner shut inside]
      · rfl

end Rule

namespace Document

variable {first second : Document}

theorem rootElement_congr (name : first.root.name = second.root.name)
    (declared : first.firstElement? = second.firstElement?) :
    first.rootElement = second.rootElement := by
  unfold firstElement? at declared
  unfold rootElement
  rw [name, declared]

theorem compile_congr (name : first.root.name = second.root.name)
    (attributes : first.root.attributes = second.root.attributes)
    (declared : first.firstElement? = second.firstElement?)
    (agree : ∀ name, first.Needs name →
      (Catalogue.ofDocument first).get? name = (Catalogue.ofDocument second).get? name) :
    first.compile = second.compile := by
  have roots := rootElement_congr name declared
  cases found : first.rootElement with
  | error reason => simp [compile, ← roots, found, bind, Except.bind]
  | ok element =>
    have declares : first.firstElement? = some element :=
      ((first.rootElement_eq_ok_iff element).mp found).2
    have readings := Rule.fill_congr agree
      (fun _ _ needed held _ cited => .defined needed held cited)
      [] (.elementDecl false) element (fun _ cited => .declared declares cited)
    have segment : first.root.segment = second.root.segment := by
      simp only [Node.segment, Node.attr, name, attributes]
    have rendered (trail : Trail) :
        Trail.render (first.root :: trail) = Trail.render (second.root :: trail) :=
      Trail.render_eq_of_segments (by simp [segment])
    rw [compile_eq_outcome_fill found, compile_eq_outcome_fill (roots.symm.trans found), readings]
    simp only [Filling.outcome, rendered, targetNamespace, Node.attr, attributes]

theorem find?_perm {nodes moved : List Node} (moves : nodes.Perm moved)
    (apart : (nodes.filterMap Node.definedName?).Nodup) (wanted : String) :
    nodes.find? (·.defines wanted) = moved.find? (·.defines wanted) := by
  induction moves with
  | nil => rfl
  | cons node rest ih =>
    have later : (_ : List String).Nodup :=
      apart.sublist ((List.sublist_cons_self node _).filterMap _)
    rw [List.find?_cons, List.find?_cons, ih later]
  | swap one other rest =>
    rw [List.find?_cons, List.find?_cons, List.find?_cons, List.find?_cons]
    -- Only the order of two definitions of one name could tell.
    cases here : one.defines wanted with
    | false => rfl
    | true =>
      cases there : other.defines wanted with
      | false => rfl
      | true =>
        have bears := one.defines_iff.mp here
        have also := other.defines_iff.mp there
        simp [bears, also] at apart
  | trans before _ ih more =>
    rw [ih apart, more ((before.filterMap _).nodup_iff.mp apart)]

theorem get?_perm (nameless : first.root.attr "name" = none)
    (attributes : first.root.attributes = second.root.attributes)
    (apart : first.definedNames.Nodup)
    (moves : first.root.children.Perm second.root.children) (wanted : String) :
    (Catalogue.ofDocument first).get? wanted = (Catalogue.ofDocument second).get? wanted := by
  have unnamed : second.root.attr "name" = none := by
    rwa [Node.attr, ← attributes]
  have below :
      ((first.root.children.flatMap Node.preorder).filterMap Node.definedName?).Nodup := by
    have root : first.root.definedName? = none := by simp [Node.definedName?, nameless]
    rwa [definedNames, Node.preorder_eq, List.filterMap_cons_none root] at apart
  rw [Catalogue.get?_ofDocument, Catalogue.get?_ofDocument, Node.preorder_eq, Node.preorder_eq,
    List.find?_cons_of_neg (by simp [Node.defines, nameless]),
    List.find?_cons_of_neg (by simp [Node.defines, unnamed])]
  exact find?_perm (moves.flatMap_right _) below wanted

theorem compile_eq_of_needed (first second : Document)
    (name : first.root.name = second.root.name)
    (attributes : first.root.attributes = second.root.attributes)
    (declared : first.firstElement? = second.firstElement?) :
    ((∀ wanted, first.Needs wanted →
        (Catalogue.ofDocument first).get? wanted = (Catalogue.ofDocument second).get? wanted) →
      first.compile = second.compile) ∧
    (first.root.attr "name" = none → first.definedNames.Nodup →
      first.root.children.Perm second.root.children → first.compile = second.compile) := by
  refine ⟨compile_congr name attributes declared, fun nameless apart moves => ?_⟩
  exact compile_congr name attributes declared fun wanted _ =>
    get?_perm nameless attributes apart moves wanted

end Document

namespace Gateway

def port : Node := { name := "element", attributes := [("name", "port"), ("type", "t:Port")] }

def portType : Node :=
  { name := "complexType"
    attributes := [("name", "Port")]
    children := [
      { name := "attribute", attributes := [("name", "level"), ("type", "t:Level")] },
      { name := "attribute", attributes := [("name", "zone"), ("type", "t:Zone")] }] }

def level : Node :=
  { name := "simpleType"
    attributes := [("name", "Level")]
    children := [{ name := "restriction", attributes := [("base", "t:Port")] }] }

def unused : Node :=
  { name := "complexType"
    attributes := [("name", "Unused")]
    children := [{ name := "attribute", attributes := [("name", "old"), ("type", "t:Old")] }] }

def document : Document := ⟨{ name := "schema", children := [port, portType, unused, level] }⟩

def emptied : Document :=
  ⟨{ name := "schema", children := [{ unused with children := [] }, level, port, portType] }⟩

def shuffled : Document := ⟨{ name := "schema", children := [unused, level, port, portType] }⟩

theorem needed_names {name : String} (needs : document.Needs name) :
    name = "Port" ∨ name = "Level" ∨ name = "Zone" := by
  induction needs with
  | declared declares cited =>
    cases declares
    exact .inl (List.mem_singleton.mp cited)
  | defined needed held cited ih =>
    rw [Catalogue.get?_ofDocument] at held
    rcases ih with rfl | rfl | rfl <;> cases held
    · have fromType : _ ∈ ["Level", "Zone"] := cited
      exact .inr (by simpa using fromType)
    · exact .inl (List.mem_singleton.mp cited)

theorem same_form :
    (∀ wanted, document.Needs wanted →
      (Catalogue.ofDocument document).get? wanted = (Catalogue.ofDocument emptied).get? wanted) ∧
    document.compile = emptied.compile ∧
    document.definedNames.Nodup ∧ document.root.children.Perm shuffled.root.children ∧
    document.compile = shuffled.compile := by
  have agree (wanted : String) (needs : document.Needs wanted) :
      (Catalogue.ofDocument document).get? wanted = (Catalogue.ofDocument emptied).get? wanted := by
    rw [Catalogue.get?_ofDocument, Catalogue.get?_ofDocument]
    rcases needed_names needs with rfl | rfl | rfl <;> rfl
  have apart : document.definedNames.Nodup := by decide
  have moves : document.root.children.Perm shuffled.root.children :=
    (List.perm_append_comm : ([port, portType] ++ [unused, level]).Perm _)
  exact ⟨agree, (document.compile_eq_of_needed emptied rfl rfl rfl).1 agree, apart, moves,
    (document.compile_eq_of_needed shuffled rfl rfl rfl).2 rfl apart moves⟩

end Gateway

end SchemaForms
