import SchemaForms.Proofs.LikeTexts
import SchemaForms.Proofs.Resemblance
import SchemaForms.Proofs.TypePairs

set_option autoImplicit false

namespace SchemaForms

/-- The second tree is the first with the attributes of each node in any order. -/
inductive Node.Shuffled : Node → Node → Prop
  | mk (name : String) (qualifier text : Option String) {attributes moved : Pairs}
    {children counterparts : List Node} (pairs : attributes.Perm moved)
    (below : List.Forall₂ Node.Shuffled children counterparts) :
    Node.Shuffled ⟨name, qualifier, attributes, children, text⟩
      ⟨name, qualifier, moved, counterparts, text⟩

/-- A text that an `assert` may have for its message, being that of an attribute named for it. -/
def Node.OffersMessage (node : Node) (text : String) : Prop :=
  node.tag = .assert ∧
    ∃ key, (key, text) ∈ node.attributes ∧ Text.occursIn "message".toList key.toList = true

/-- A value that the field of an attribute declaration may have under a key. -/
inductive Node.OffersPair (catalogue : Catalogue) (node : Node) (key : String) : String → Prop
  | own {value : String} (given : (key, value) ∈ node.attributes)
    (passed : key ∉ ["name", "use", "type"]) : Node.OffersPair catalogue node key value
  -- The pairs of its type are set where the `type` stands among the attributes.
  | typed {text value : String} (typed : node.attr "type" = some text)
    (last : (catalogue.typePairs text).last? key = some value) :
    Node.OffersPair catalogue node key value

/-- The field that is made of an attribute declaration, while these types are being read. -/
def Node.attributeItem (catalogue : Catalogue) (opened : List String) (node : Node) : Field :=
  node.attributeField.applyAll (Rule.attributeDecl.fill catalogue opened node).edits

structure Node.Orderless (catalogue : Catalogue) (leeway : Leeway) (node : Node) : Prop where
  distinct : (Pairs.keys node.attributes).Nodup
  messages : ∀ one other, node.OffersMessage one → node.OffersMessage other →
    one = other ∨ leeway.message node.assertion one other
  pairs : node.tag = .attribute → ∀ opened key one other, node.OffersPair catalogue key one →
    node.OffersPair catalogue key other →
      one = other ∨ leeway.pair (node.attributeItem catalogue opened) key one other

namespace Pairs

variable {first second : Pairs} {key value : String}

theorem find?_perm {allowed : String → String → Prop} (moves : first.Perm second)
    (holds : String × String → Bool)
    (one : ∀ pair ∈ first, ∀ other ∈ first, holds pair = true → holds other = true →
      pair.2 = other.2 ∨ allowed pair.2 other.2) :
    StandsFor allowed ((first.find? holds).map (·.2)) ((second.find? holds).map (·.2)) := by
  cases held : first.find? holds with
  | none =>
    have absent : second.find? holds = none :=
      List.find?_eq_none.mpr fun pair member =>
        List.find?_eq_none.mp held pair (moves.mem_iff.mpr member)
    rw [absent]
    exact .none
  | some pair =>
    have member := List.mem_of_find?_eq_some held
    have hit := List.find?_some held
    cases found : second.find? holds with
    | none => exact absurd hit (List.find?_eq_none.mp found pair (moves.mem_iff.mp member))
    | some other =>
      have inside := moves.mem_iff.mpr (List.mem_of_find?_eq_some found)
      exact .some (one pair member other inside hit (List.find?_some found))

end Pairs

namespace Node

namespace Shuffled

variable {a b : Node}

theorem same_name (moves : a.Shuffled b) : a.name = b.name := by cases moves; rfl

theorem same_text (moves : a.Shuffled b) : a.text = b.text := by cases moves; rfl

theorem attributes (moves : a.Shuffled b) : a.attributes.Perm b.attributes := by
  cases moves
  assumption

theorem children (moves : a.Shuffled b) : List.Forall₂ Shuffled a.children b.children := by
  cases moves
  assumption

theorem sameTexts : SameTexts Shuffled fun _ => False where
  name moves := moves.same_name
  text moves := moves.same_text
  children moves := .of_forall₂ moves.children
  silent added := added.elim
  unread added := added.elim
  unlisted added := added.elim

end Shuffled

structure Alike (catalogue : Catalogue) (leeway : Leeway) (a b : Node) : Prop where
  shuffled : a.Shuffled b
  orderless : ∀ inner ∈ a.preorder, inner.Orderless catalogue leeway

namespace Alike

variable {catalogue : Catalogue} {leeway : Leeway} {a b : Node} (alike : a.Alike catalogue leeway b)

include alike

theorem here : a.Orderless catalogue leeway := alike.orderless a a.mem_preorder_self

theorem children : List.Forall₂ (Alike catalogue leeway) a.children b.children := by
  have below : ∀ child ∈ a.children, ∀ inner ∈ child.preorder,
      inner.Orderless catalogue leeway := fun child member inner inside => alike.orderless inner
      (mem_preorder_trans (mem_preorder_of_mem_children a.mem_preorder_self member) inside)
  have paired := (List.forall₂_and_left _ _).mpr ⟨below, alike.shuffled.children⟩
  exact paired.imp fun _ _ ⟨orderless, moves⟩ => ⟨moves, orderless⟩

theorem attr (key : String) : a.attr key = b.attr key :=
  Pairs.first?_perm alike.shuffled.attributes alike.here.distinct key

theorem last? (key : String) : a.attributes.last? key = b.attributes.last? key :=
  Pairs.last?_perm alike.shuffled.attributes alike.here.distinct key

theorem assertion (tagged : a.tag = .assert) : a.assertion.Resembles leeway b.assertion where
  message := Pairs.find?_perm alike.shuffled.attributes
    (fun pair => Text.occursIn "message".toList pair.1.toList)
    fun _ first _ second named again =>
      alike.here.messages _ _ ⟨tagged, _, first, named⟩ ⟨tagged, _, second, again⟩
  formula := alike.attr "test"

end Alike

end Node

def Leeway.tolerance (leeway : Leeway) : Tolerance where
  field := Field.Resembles leeway
  edits := Edits.Alike leeway fun _ _ _ => False
  edits_refl := Edits.alike_refl leeway
  edits_append here there := here.append there
  edits_item alike := Edits.alike_single (.items (.cons alike .nil))
  applyAll start alike := start.resembles_applyAll (alike.imp fun _ _ _ => False.elim)

def Likeness.shuffling (catalogue : Catalogue) (leeway : Leeway) : Likeness where
  toTolerance := leeway.tolerance
  toCiting := .verbatim
  toAdditions := .none
  same := Node.Alike catalogue leeway
  name alike := alike.shuffled.same_name
  attr alike key := by
    rw [alike.attr key]
    exact StandsFor.refl _ _
  last?_eq alike _ := alike.last? _
  passed alike := Edits.extras_alike leeway (alike.shuffled.attributes.filter _)
    (Pairs.keys_filter_nodup alike.here.distinct _)
  assertion alike tagged := Edits.alike_single (.assertion (alike.assertion tagged))
  children alike := .of_forall₂ alike.children
  doc alike _ := Node.Shuffled.sameTexts.doc?_eq alike.shuffled

end SchemaForms
