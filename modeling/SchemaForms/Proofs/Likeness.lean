import Mathlib.Data.List.Forall2
import SchemaForms.Proofs.CatalogueIndex
import SchemaForms.Proofs.ExtraPairs

set_option autoImplicit false

namespace SchemaForms

/-- The second list is the first entry by entry, with additional entries anywhere in between. -/
inductive Enlarged {α β : Type} (same : α → β → Prop) (extra : β → Prop) :
    List α → List β → Prop
  | nil : Enlarged same extra [] []
  | both {a : α} {b : β} {first : List α} {second : List β} (alike : same a b)
      (rest : Enlarged same extra first second) : Enlarged same extra (a :: first) (b :: second)
  | more {b : β} {first : List α} {second : List β} (added : extra b)
      (rest : Enlarged same extra first second) : Enlarged same extra first (b :: second)

namespace Enlarged

variable {α β γ δ : Type} {same : α → β → Prop} {extra : β → Prop} {first : List α}
  {second : List β}

theorem single {a : α} {b : β} (alike : same a b) : Enlarged same extra [a] [b] := .both alike .nil

theorem of_extra (added : ∀ b ∈ second, extra b) : Enlarged same extra [] second := by
  induction second with
  | nil => exact .nil
  | cons b rest ih =>
    obtain ⟨here, later⟩ := List.forall_mem_cons.mp added
    exact .more here (ih later)

theorem of_forall₂ (alike : List.Forall₂ same first second) : Enlarged same extra first second := by
  induction alike with
  | nil => exact .nil
  | cons here _ ih => exact .both here ih

theorem forall₂ (enlarged : Enlarged same extra first second) (none : ∀ b, ¬extra b) :
    List.Forall₂ same first second := by
  induction enlarged with
  | nil => exact .nil
  | both alike _ ih => exact .cons alike ih
  | more added => exact absurd added (none _)

theorem append {more : List α} {others : List β} (enlarged : Enlarged same extra first second)
    (rest : Enlarged same extra more others) :
    Enlarged same extra (first ++ more) (second ++ others) := by
  induction enlarged with
  | nil => exact rest
  | both alike _ ih => exact .both alike ih
  | more added _ ih => exact .more added ih

theorem flatMap {same' : γ → δ → Prop} {extra' : δ → Prop} {f : α → List γ} {g : β → List δ}
    (enlarged : Enlarged same extra first second)
    (parts : ∀ a ∈ first, ∀ b, same a b → Enlarged same' extra' (f a) (g b))
    (additions : ∀ b, extra b → ∀ part ∈ g b, extra' part) :
    Enlarged same' extra' (first.flatMap f) (second.flatMap g) := by
  induction enlarged with
  | nil => exact .nil
  | both alike _ ih =>
    obtain ⟨here, later⟩ := List.forall_mem_cons.mp parts
    exact (here _ alike).append (ih later)
  | more added _ ih => exact (of_extra (additions _ added)).append (ih parts)

theorem map {same' : γ → δ → Prop} {extra' : δ → Prop} {f : α → γ} {g : β → δ}
    (enlarged : Enlarged same extra first second) (parts : ∀ a b, same a b → same' (f a) (g b))
    (additions : ∀ b, extra b → extra' (g b)) :
    Enlarged same' extra' (first.map f) (second.map g) := by
  induction enlarged with
  | nil => exact .nil
  | both alike _ ih => exact .both (parts _ _ alike) ih
  | more added _ ih => exact .more (additions _ added) ih

theorem imp {same' : α → β → Prop} {extra' : β → Prop} (enlarged : Enlarged same extra first second)
    (parts : ∀ a b, same a b → same' a b) (additions : ∀ b, extra b → extra' b) :
    Enlarged same' extra' first second := by
  induction enlarged with
  | nil => exact .nil
  | both alike _ ih => exact .both (parts _ _ alike) ih
  | more added _ ih => exact .more (additions _ added) ih

theorem find? {holds : α → Bool} {held : β → Bool} (enlarged : Enlarged same extra first second)
    (agree : ∀ a b, same a b → holds a = held b) (passed : ∀ b, extra b → held b = false) :
    Option.Rel same (first.find? holds) (second.find? held) := by
  induction enlarged with
  | nil => exact .none
  | @both a b _ _ alike _ ih =>
    rw [List.find?_cons, List.find?_cons, agree a b alike]
    split
    · exact .some alike
    · exact ih
  | @more b _ _ added _ ih =>
    rwa [List.find?_cons, passed b added]

end Enlarged

abbrev StandsFor (allowed : String → String → Prop) : Option String → Option String → Prop :=
  Option.Rel fun one other => one = other ∨ allowed one other

theorem StandsFor.refl (allowed : String → String → Prop) (text : Option String) :
    StandsFor allowed text text := by
  cases text with
  | none => exact .none
  | some value => exact .some (.inl rfl)

theorem StandsFor.imp {allowed weaker : String → String → Prop} {text other : Option String}
    (stands : StandsFor allowed text other)
    (implies : ∀ one other, allowed one other → one = other ∨ weaker one other) :
    StandsFor weaker text other := by
  cases stands with
  | none => exact .none
  | some same => exact .some (same.elim .inl (implies _ _))

theorem StandsFor.eq {allowed : String → String → Prop} {text other : Option String}
    (stands : StandsFor allowed text other) (none : ∀ one other, ¬allowed one other) :
    text = other := by
  cases stands with
  | none => rfl
  | some same => rw [same.resolve_right (none _ _)]

/-- Whether an attribute of this key, in a node of this name, is a type reference. -/
def Node.IsReference (name key : String) : Prop :=
  (key = "type" ∧ (name = "element" ∨ name = "attribute")) ∨
    (key = "base" ∧ (name = "restriction" ∨ name = "extension")) ∨
    (key = "itemType" ∧ name = "list")

/-- Attributes of a node of this name, equal but for how a type reference is written. -/
def Node.PairLike (cites : String → String → Prop) (name : String)
    (first second : String × String) : Prop :=
  first.1 = second.1 ∧ (first.2 = second.2 ∨ Node.IsReference name first.1 ∧ cites first.2 second.2)

abbrev Pairs.Like (cites : String → String → Prop) (name : String) : Pairs → Pairs → Prop :=
  List.Forall₂ (Node.PairLike cites name)

namespace Pairs.Like

variable {cites : String → String → Prop} {name key : String} {first second : Pairs}

theorem first? (pairs : Like cites name first second) (key : String) :
    StandsFor (fun text other => Node.IsReference name key ∧ cites text other)
      (first.first? key) (second.first? key) := by
  unfold Pairs.first?
  induction pairs with
  | nil => exact .none
  | @cons p q _ _ pair _ ih =>
    rw [List.find?_cons, List.find?_cons, ← pair.1]
    split
    · next hit =>
      have keyed : p.1 = key := by simpa using hit
      exact .some (keyed ▸ pair.2)
    · exact ih

theorem first?_eq (pairs : Like cites name first second) (plain : ¬Node.IsReference name key) :
    first.first? key = second.first? key := (pairs.first? key).eq fun _ _ cited => plain cited.1

theorem last?_eq (pairs : Like cites name first second) (plain : ¬Node.IsReference name key) :
    first.last? key = second.last? key :=
  Like.first?_eq (List.rel_reverse pairs) plain

theorem passed_eq (pairs : Like cites name first second) :
    Rule.passed first = Rule.passed second := by
  induction pairs with
  | nil => rfl
  | @cons p q rest others pair _ ih =>
    obtain ⟨key, value⟩ := p
    obtain ⟨_, spelled⟩ := q
    obtain ⟨rfl, values⟩ := pair
    by_cases passes : key = "maxOccurs" ∨ key = "use" ∨ key = "default"
    · have same : value = spelled := by
        refine values.resolve_right fun cited => ?_
        rcases passes with rfl | rfl | rfl <;> simp [Node.IsReference] at cited
      simp_all [Rule.passed]
    · simp_all [Rule.passed]

-- No attribute of an `assert` is a type reference, so that all of them are equal.
theorem assertion_eq {a b : Node} (pairs : Like cites a.name a.attributes b.attributes)
    (tagged : a.tag = .assert) : a.assertion = b.assertion := by
  have named : a.name = "assert" := Node.name_eq_of_tag tagged
  have equal : a.attributes = b.attributes := by
    rw [← List.forall₂_eq_eq_eq]
    refine pairs.imp fun p q pair => ?_
    rcases pair.2 with same | ⟨refers, _⟩
    · exact Prod.ext pair.1 same
    · simp [Node.IsReference, named] at refers
  simp only [Node.assertion, Node.attr, equal]

end Pairs.Like

/-- What counts as the same in two forms, and which edits come to it. -/
structure Tolerance where
  field : Field → Field → Prop
  edits : List Edit → List Edit → Prop
  edits_refl (made : List Edit) : edits made made
  edits_append {first second more others : List Edit} :
    edits first second → edits more others → edits (first ++ more) (second ++ others)
  edits_item {first second : Field} :
    field first second → edits [.items [first]] [.items [second]]
  applyAll {first second : List Edit} (start : Field) :
    edits first second → field (start.applyAll first) (start.applyAll second)

def Tolerance.none : Tolerance where
  field := (· = ·)
  edits := (· = ·)
  edits_refl _ := rfl
  edits_append here there := by rw [here, there]
  edits_item same := by rw [same]
  applyAll _ same := by rw [same]

/-- Which spellings of a type reference are alike. -/
structure Citing where
  cites : String → String → Prop
  cites_refl (text : String) : cites text text
  target {text other : String} :
    cites text other → (Reference.ofText text).target = (Reference.ofText other).target

def Citing.verbatim : Citing where
  cites := (· = ·)
  cites_refl _ := rfl
  target cited := by rw [cited]

/-- The node defines nothing, and no rule is for it. -/
structure Node.Unread (node : Node) : Prop where
  nameless : ∀ inner ∈ node.preorder, inner.attr "name" = none
  tagged : node.tag = .text ∨ ∃ name, node.tag = .other name
  undeclared : node.nameContains "element" = false
  valueless : node.attr "value" = none

/-- What may stand in the second document only. -/
structure Additions where
  extra : Node → Prop
  unread {node : Node} : extra node → node.Unread

def Additions.none : Additions where
  extra _ := False
  unread added := added.elim

def Additions.only {added : Node} (unread : added.Unread) : Additions where
  extra node := node = added
  unread := by rintro _ rfl; exact unread

structure Likeness extends Tolerance, Citing, Additions where
  same : Node → Node → Prop
  name {a b : Node} : same a b → a.name = b.name
  attr {a b : Node} : same a b → ∀ key,
    StandsFor (fun text other => Node.IsReference a.name key ∧ cites text other)
      (a.attr key) (b.attr key)
  last?_eq {a b : Node} {key : String} : same a b → ¬Node.IsReference a.name key →
    a.attributes.last? key = b.attributes.last? key
  passed {a b : Node} : same a b → edits (Rule.passed a.attributes) (Rule.passed b.attributes)
  assertion {a b : Node} : same a b → a.tag = .assert →
    edits [.assertion a.assertion] [.assertion b.assertion]
  children {a b : Node} : same a b → Enlarged same extra a.children b.children
  doc {a b : Node} : same a b → a.tag = .remark → a.doc? = b.doc?

namespace Likeness

variable (likeness : Likeness) {a b node : Node}

def SameCatalogue (first second : Catalogue) : Prop :=
  ∀ name, Option.Rel likeness.same (first.get? name) (second.get? name)

section Nodes

variable {likeness} {key : String}

theorem attr_like (alike : likeness.same a b) (key : String) :
    Option.Rel likeness.cites (a.attr key) (b.attr key) := by
  have values := likeness.attr alike key
  generalize a.attr key = text at values ⊢
  generalize b.attr key = other at values ⊢
  cases values with
  | none => exact .none
  | some alike =>
    rcases alike with rfl | cited
    · exact .some (likeness.cites_refl _)
    · exact .some cited.2

theorem attr_eq (alike : likeness.same a b) (plain : ¬Node.IsReference a.name key) :
    a.attr key = b.attr key := (likeness.attr alike key).eq fun _ _ cited => plain cited.1

theorem attr_name_eq (alike : likeness.same a b) : a.attr "name" = b.attr "name" :=
  attr_eq alike (by simp [Node.IsReference])

theorem tag_eq (alike : likeness.same a b) : a.tag = b.tag := by
  rw [Node.tag, Node.tag, likeness.name alike]

theorem isText_eq (alike : likeness.same a b) : a.isText = b.isText := by
  rw [Node.isText, Node.isText, likeness.name alike]

theorem nameContains_eq (alike : likeness.same a b) (word : String) :
    a.nameContains word = b.nameContains word := by
  rw [Node.nameContains, Node.nameContains, likeness.name alike]

theorem segment_eq (alike : likeness.same a b) : a.segment = b.segment := by
  rw [Node.segment, Node.segment, attr_name_eq alike, likeness.name alike]

theorem defines_eq (alike : likeness.same a b) (name : String) :
    a.defines name = b.defines name := by
  rw [Node.defines, Node.defines, nameContains_eq alike, attr_name_eq alike]

theorem declare_eq (alike : likeness.same a b) (field : Field) :
    a.declare field = b.declare field := by
  rw [Node.declare, Node.declare, attr_name_eq alike,
    likeness.last?_eq alike (by simp [Node.IsReference])]

theorem attributeField_eq (alike : likeness.same a b) : a.attributeField = b.attributeField := by
  rw [Node.attributeField, Node.attributeField,
    likeness.last?_eq alike (by simp [Node.IsReference]),
    likeness.last?_eq alike (by simp [Node.IsReference])]

theorem blank_eq (alike : likeness.same a b) (sort : Group) : sort.blank a = sort.blank b := by
  have least : a.attr "minOccurs" = b.attr "minOccurs" := attr_eq alike (by simp [Node.IsReference])
  have kind : sort.kind a = sort.kind b := by
    have most : a.attr "maxOccurs" = b.attr "maxOccurs" :=
      attr_eq alike (by simp [Node.IsReference])
    cases sort <;> simp only [Group.kind, most]
  rw [Group.blank, Group.blank, least, kind]

theorem preorder_like {a b : Node} (alike : likeness.same a b) :
    Enlarged likeness.same (fun node => node.attr "name" = none) a.preorder b.preorder := by
  rw [Node.preorder_eq, Node.preorder_eq]
  refine .both alike ((likeness.children alike).flatMap ?_ fun _ added =>
    (likeness.unread added).nameless)
  intro child member other alike
  have := Node.sizeOf_lt_of_mem_children member
  exact preorder_like alike
termination_by sizeOf a

theorem catalogue_like {first second : Document} (roots : likeness.same first.root second.root) :
    likeness.SameCatalogue (.ofDocument first) (.ofDocument second) := by
  intro name
  rw [Catalogue.get?_ofDocument, Catalogue.get?_ofDocument]
  exact (preorder_like roots).find? (fun _ _ alike => defines_eq alike name)
    fun node nameless => by simp [Node.defines, nameless]

end Nodes

end Likeness

end SchemaForms
