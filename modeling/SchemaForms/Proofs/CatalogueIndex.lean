import SchemaForms.Catalogue

set_option autoImplicit false

namespace SchemaForms

def Node.defines (node : Node) (name : String) : Bool :=
  !node.nameContains "element" && node.attr "name" = some name

def Node.isType (node : Node) : Bool := node.tag = .complexType || node.tag = .simpleType

theorem Node.not_element_of_isType {node : Node} (typed : node.isType = true) :
    node.nameContains "element" = false := by
  have tagged : node.tag = .complexType ∨ node.tag = .simpleType := by simpa [isType] using typed
  rcases tagged with tagged | tagged <;> rw [nameContains, name_eq_of_tag tagged] <;> decide

namespace Catalogue

theorem get?_add (catalogue : Catalogue) (node : Node) (name : String) :
    (catalogue.add node).get? name =
      (catalogue.get? name).or (if node.attr "name" = some name then some node else none) := by
  unfold add
  split
  · have single : [node].find? (fun definition => definition.attr "name" = some name) =
        if node.attr "name" = some name then some node else none := by
      by_cases own : node.attr "name" = some name <;> simp [own]
    rw [get?, List.find?_append, single, get?]
  · next known =>
    by_cases own : node.attr "name" = some name
    · have held : catalogue.get? name ≠ none := fun free =>
        known (adds_eq_true_iff.mpr ⟨name, own, free⟩)
      obtain ⟨definition, found⟩ := Option.ne_none_iff_exists'.mp held
      simp [found]
    · simp [own]

theorem get?_foldl_add (catalogue : Catalogue) (nodes : List Node) (name : String) :
    (nodes.foldl add catalogue).get? name =
      (catalogue.get? name).or (nodes.find? fun node => node.attr "name" = some name) := by
  induction nodes generalizing catalogue with
  | nil => simp
  | cons node rest ih =>
    rw [List.foldl_cons, ih, get?_add, Option.or_assoc]
    by_cases named : node.attr "name" = some name <;> simp [named]

theorem get?_ofDocument (document : Document) (name : String) :
    (ofDocument document).get? name = document.root.preorder.find? (·.defines name) := by
  rw [ofDocument, ofNodes, get?_foldl_add, Node.descendants_eq_preorder, List.find?_filter]
  simp [get?, empty, Node.defines]

theorem mem_names_ofDocument {document : Document} {node : Node} {name : String}
    (inside : node ∈ document.root.preorder) (defines : node.defines name = true) :
    name ∈ (ofDocument document).names := by
  rw [mem_names_iff, get?_ofDocument, List.find?_isSome]
  exact ⟨node, inside, defines⟩

theorem mem_preorder_of_resolve {document : Document} {text : String} {definition : Node}
    (found : (ofDocument document).resolve text = .defined definition) :
    definition ∈ document.root.preorder := by
  have held := get?_of_resolve found
  rw [get?_ofDocument] at held
  exact List.mem_of_find?_eq_some held

theorem resolve_of_get? {catalogue : Catalogue} {text : String} {definition : Node}
    (foreign : NativeType.ofName? (Reference.ofText text).target = none)
    (held : catalogue.get? (Reference.ofText text).target = some definition) :
    catalogue.resolve text = .defined definition := by
  simp [resolve, lookup, foreign, held]

def sharedName : Document :=
  ⟨{ name := "schema"
     children := [
       { name := "attribute", attributes := [("name", "mode"), ("type", "mode")] },
       { name := "simpleType", attributes := [("name", "mode")] }] }⟩

theorem attribute_precedes_type :
    ¬ ∀ (document : Document) (text : String) (definition : Node),
        NativeType.ofName? (Reference.ofText text).target = none →
        document.root.preorder.find? (fun node =>
          node.isType && node.attr "name" = some (Reference.ofText text).target) =
            some definition →
        (ofDocument document).resolve text = .defined definition := by
  intro first
  have held : (ofDocument sharedName).get? "mode" =
      some { name := "attribute", attributes := [("name", "mode"), ("type", "mode")] } := by
    rw [get?_ofDocument]
    rfl
  have typed := first sharedName "mode" { name := "simpleType", attributes := [("name", "mode")] }
    rfl rfl
  rw [resolve_of_get? rfl held] at typed
  simp at typed

theorem resolve_first_definition (document : Document) (text : String) (definition : Node)
    (before after : List Node) (foreign : NativeType.ofName? (Reference.ofText text).target = none)
    (order : document.root.preorder = before ++ definition :: after)
    (typed : definition.isType = true)
    (named : definition.attr "name" = some (Reference.ofText text).target)
    (first : ∀ node ∈ before, node.isType = true →
      node.attr "name" ≠ some (Reference.ofText text).target) :
    ((ofDocument document).resolve text = .defined definition ↔
      ∀ node ∈ before, node.attr "name" = some (Reference.ofText text).target →
        node.nameContains "element" = true) ∧
    ∃ earlier found later, before ++ [definition] = earlier ++ found :: later ∧
      (ofDocument document).resolve text = .defined found ∧
      found.defines (Reference.ofText text).target = true ∧
      ∀ node ∈ earlier, node.defines (Reference.ofText text).target = false := by
  have known : definition.defines (Reference.ofText text).target = true := by
    simp [Node.defines, named, Node.not_element_of_isType typed]
  have held := get?_ofDocument document (Reference.ofText text).target
  -- All that counts is whether a node before the type defines the name already.
  rw [order, List.find?_append] at held
  simp only [List.find?_cons, known] at held
  cases taken : before.find? (·.defines (Reference.ofText text).target) with
  | none =>
    rw [taken, Option.none_or] at held
    have free := List.find?_eq_none.mp taken
    have resolved := resolve_of_get? foreign held
    refine ⟨⟨fun _ node inside carries => ?_, fun _ => resolved⟩,
      before, definition, [], rfl, resolved, known,
      fun node inside => by simpa using free node inside⟩
    cases apart : node.nameContains "element" with
    | true => rfl
    | false => exact absurd (by simp [Node.defines, carries, apart]) (free node inside)
  | some found =>
    rw [taken, Option.some_or] at held
    have resolved := resolve_of_get? foreign held
    obtain ⟨defines, earlier, later, split, free⟩ := List.find?_eq_some_iff_append.mp taken
    have inside : found ∈ before := List.mem_of_find?_eq_some taken
    obtain ⟨apart, carries⟩ : found.nameContains "element" = false ∧
        found.attr "name" = some (Reference.ofText text).target := by
      simpa [Node.defines] using defines
    refine ⟨⟨fun same => ?_, fun elements => ?_⟩,
      earlier, found, later ++ [definition], by simp [split], resolved, defines,
      fun node member => by simpa using free node member⟩
    · rw [resolved] at same
      cases same
      exact absurd carries (first _ inside typed)
    · simp [elements found inside carries] at apart

theorem resolve_sharedName :
    ((ofDocument sharedName).resolve "mode" =
        .defined { name := "simpleType", attributes := [("name", "mode")] } ↔
      ∀ node ∈ sharedName.root :: sharedName.root.children.take 1,
        node.attr "name" = some "mode" → node.nameContains "element" = true) ∧
    ∃ earlier found later,
      sharedName.root :: sharedName.root.children = earlier ++ found :: later ∧
      (ofDocument sharedName).resolve "mode" = .defined found ∧
      found.defines "mode" = true ∧
      ∀ node ∈ earlier, node.defines "mode" = false :=
  resolve_first_definition sharedName "mode" _
    (sharedName.root :: sharedName.root.children.take 1) [] rfl rfl rfl rfl (by decide)

end Catalogue

end SchemaForms
