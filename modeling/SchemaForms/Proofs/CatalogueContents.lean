import Mathlib.Data.Set.Card
import SchemaForms.Proofs.CatalogueIndex

set_option autoImplicit false

namespace SchemaForms

namespace Text

def afterFirst (mark : Char) (text : List Char) : List Char :=
  if mark ∈ text then (text.dropWhile (· ≠ mark)).tail else text

theorem occursIn_iff (word text : List Char) : occursIn word text = true ↔ word <:+: text := by
  induction text with
  | nil => simp [occursIn]
  | cons c rest ih => simp [occursIn, ih, List.infix_cons_iff]

theorem cut_eq (mark : Char) (text : List Char) :
    cut mark text =
      if mark ∈ text then some (text.takeWhile (· ≠ mark), afterFirst mark text) else none := by
  induction text with
  | nil => rfl
  | cons c rest ih =>
    by_cases here : c = mark
    · simp [cut, afterFirst, here]
    · by_cases later : mark ∈ rest <;> simp [cut, afterFirst, ih, here, later, Ne.symm here]

end Text

theorem Reference.target_ofText (text : String) :
    (Reference.ofText text).target = String.ofList (Text.afterFirst ':' text.toList) := by
  by_cases qualified : ':' ∈ text.toList <;>
    simp [ofText, splitQualified, Text.cut_eq, Text.afterFirst, qualified]

theorem NativeType.ofName?_eq_some_iff (name : String) (type : NativeType) :
    ofName? name = some type ↔ type.name = name := by
  constructor
  · intro found
    unfold ofName? at found
    split at found <;> cases found <;> rfl
  · rintro rfl
    exact ofName?_name type

structure Node.Carries (node : Node) (name : String) : Prop where
  apart : ¬ "element".toList <:+: node.name.toList
  named : ∃ before after, node.attributes = before ++ ("name", name) :: after ∧
    ∀ pair ∈ before, pair.1 ≠ "name"

theorem Node.defines_iff_carries (node : Node) (name : String) :
    node.defines name = true ↔ node.Carries name := by
  have named := Pairs.first?_eq_some_iff_append node.attributes "name" name
  have apart : node.nameContains "element" = false ↔ ¬ "element".toList <:+: node.name.toList := by
    rw [← Text.occursIn_iff, Bool.not_eq_true, nameContains]
  rw [defines, Bool.and_eq_true, Bool.not_eq_true', apart, decide_eq_true_eq, attr, named]
  exact ⟨fun held => ⟨held.1, held.2⟩, fun held => ⟨held.apart, held.named⟩⟩

namespace Catalogue

theorem size_eq (catalogue : Catalogue) : catalogue.size = catalogue.names.length := by
  rw [size, names, List.length_filterMap_eq_countP]
  exact (List.countP_eq_length.mpr catalogue.named).symm

theorem size_eq_ncard (catalogue : Catalogue) :
    catalogue.size = {name | (catalogue.get? name).isSome = true}.ncard := by
  have held : {name | (catalogue.get? name).isSome = true} = ↑catalogue.names.toFinset := by
    ext name
    simp [← mem_names_iff]
  have distinct : catalogue.names.Nodup := catalogue.distinct
  rw [held, Set.ncard_coe_finset, List.toFinset_card_of_nodup distinct, size_eq]

section Resolve

variable (catalogue : Catalogue) (text : String)

theorem resolve_eq_native_iff (type : NativeType) :
    catalogue.resolve text = .native type ↔ type.name = (Reference.ofText text).target := by
  rw [← NativeType.ofName?_eq_some_iff, resolve, lookup]
  cases NativeType.ofName? (Reference.ofText text).target with
  | some known => simp
  | none => cases catalogue.get? (Reference.ofText text).target <;> simp

theorem resolve_of_foreign
    (foreign : ∀ type : NativeType, type.name ≠ (Reference.ofText text).target) :
    catalogue.resolve text =
      (catalogue.get? (Reference.ofText text).target).elim .undefined .defined := by
  cases known : NativeType.ofName? (Reference.ofText text).target with
  | some type => exact absurd ((NativeType.ofName?_eq_some_iff _ _).mp known) (foreign type)
  | none =>
    rw [resolve, lookup, known]
    cases catalogue.get? (Reference.ofText text).target <;> rfl

end Resolve

theorem holds_first_declarations (document : Document) :
    (∀ name definition, (ofDocument document).get? name = some definition ↔
      ∃ before after, document.root.preorder = before ++ definition :: after ∧
        definition.Carries name ∧ ∀ node ∈ before, ¬ node.Carries name) ∧
    (∀ name, (ofDocument document).get? name = none ↔
      ∀ node ∈ document.root.preorder, ¬ node.Carries name) ∧
    (ofDocument document).size =
      {name | ∃ node ∈ document.root.preorder, node.Carries name}.ncard ∧
    ∀ text,
      let target := String.ofList (Text.afterFirst ':' text.toList)
      (∀ type, (ofDocument document).resolve text = .native type ↔ type.name = target) ∧
      ((∀ type : NativeType, type.name ≠ target) →
        (ofDocument document).resolve text =
          ((ofDocument document).get? target).elim .undefined .defined) := by
  have held (name : String) := get?_ofDocument document name
  refine ⟨fun name definition => ?_, fun name => ?_, ?_, fun text => ?_⟩
  · simp only [held, List.find?_eq_some_iff_append, Node.defines_iff_carries, Bool.not_eq_true',
      ← Bool.not_eq_true]
    exact ⟨fun ⟨carries, before, after, order, free⟩ => ⟨before, after, order, carries, free⟩,
      fun ⟨before, after, order, carries, free⟩ => ⟨carries, before, after, order, free⟩⟩
  · simp only [held, List.find?_eq_none, Node.defines_iff_carries]
  · simp only [size_eq_ncard, held, List.find?_isSome, Node.defines_iff_carries]
  · intro target
    have reference : (Reference.ofText text).target = target := Reference.target_ofText text
    rw [← reference]
    exact ⟨resolve_eq_native_iff _ text, resolve_of_foreign _ text⟩

end Catalogue

end SchemaForms
