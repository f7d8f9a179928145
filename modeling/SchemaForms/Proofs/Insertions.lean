import Mathlib.Logic.Relation
import SchemaForms.Proofs.FieldOrigin
import SchemaForms.Proofs.LikeReadings
import SchemaForms.Proofs.LikeTexts

set_option autoImplicit false

namespace SchemaForms

open Relation

/-- The second tree is the first with `added` as one more child of some node. That node and those
above it are such that `passes` holds. -/
inductive Node.Gains (passes : Node → Prop) (added : Node) : Node → Node → Prop
  | here (node : Node) (before after : List Node) (passed : passes node)
    (split : node.children = before ++ after) :
    Gains passes added node { node with children := before ++ added :: after }
  | inside (node : Node) (before after : List Node) {child grown : Node} (passed : passes node)
    (split : node.children = before ++ child :: after) (inner : Gains passes added child grown) :
    Gains passes added node { node with children := before ++ grown :: after }

structure Node.IsPlainText (node : Node) : Prop where
  text : node.isText = true
  plain : node.attributes = []
  leaf : node.children = []

structure Node.Unknown (node : Node) : Prop where
  silent : node.textContent = ""
  nameless : ∀ inner ∈ node.preorder, inner.attr "name" = none
  valueless : node.attr "value" = none
  tagged : ∃ name, node.tag = .other name
  unlisted : node.name ∉ ["p", "ul", "li"]
  undeclared : node.nameContains "element" = false

def Document.GainsText (first second : Document) : Prop :=
  ∃ added : Node, added.IsPlainText ∧
    Node.Gains (fun node => node.tag ≠ .documentation) added first.root second.root

namespace Node

variable {passes : Node → Prop} {added a b : Node}

theorem Gains.passed (gains : Gains passes added a b) : passes a := by
  cases gains <;> assumption

section Grown

variable (grows : ReflGen (Gains passes added) a b)

include grows

theorem grown_heading : a.name = b.name ∧ a.attributes = b.attributes ∧ a.text = b.text := by
  cases grows with
  | refl => exact ⟨rfl, rfl, rfl⟩
  | single gains => cases gains <;> exact ⟨rfl, rfl, rfl⟩

theorem grown_children :
    Enlarged (ReflGen (Gains passes added)) (· = added) a.children b.children := by
  have unchanged (nodes : List Node) :
      Enlarged (ReflGen (Gains passes added)) (· = added) nodes nodes :=
    .of_forall₂ (List.forall₂_same.mpr fun _ _ => .refl)
  cases grows with
  | refl => exact unchanged _
  | single gains =>
    cases gains with
    | here _ before after passed split =>
      rw [split]
      exact (unchanged before).append (.more rfl (unchanged after))
    | inside _ before after passed split inner =>
      rw [split]
      exact (unchanged before).append (.both (.single inner) (unchanged after))

end Grown

namespace Unknown

variable {u : Node}

theorem unread (unknown : u.Unknown) : u.Unread :=
  ⟨unknown.nameless, .inr unknown.tagged, unknown.undeclared, unknown.valueless⟩

theorem sameTexts (unknown : u.Unknown) : SameTexts (ReflGen (Gains passes u)) (· = u) where
  name grows := (grown_heading grows).1
  text grows := (grown_heading grows).2.2
  children := grown_children
  silent := by rintro _ rfl; exact unknown.silent
  unread := by
    rintro _ rfl
    obtain ⟨name, tagged⟩ := unknown.tagged
    simp [tagged]
  unlisted := by rintro _ rfl; exact unknown.unlisted

end Unknown

namespace IsPlainText

theorem unread (plain : added.IsPlainText) : added.Unread where
  nameless inner inside := by
    rw [preorder_eq, plain.leaf] at inside
    cases List.mem_singleton.mp inside
    simp [attr, plain.plain, Pairs.first?]
  tagged := .inl (isText_iff.mp plain.text)
  undeclared := by
    have named : added.name = textName := by simpa [isText] using plain.text
    rw [nameContains, named]
    rfl
  valueless := by simp [attr, plain.plain, Pairs.first?]

theorem doc?_eq (plain : added.IsPlainText)
    (gains : Gains (fun node => node.tag ≠ .documentation) added a b) : a.doc? = b.doc? := by
  have documented : (a.elements.filter fun child => child.tag = .documentation) =
      b.elements.filter fun child => child.tag = .documentation := by
    cases gains with
    | here _ before after passed split =>
      simp [elements, split, plain.text]
    | @inside _ before after child grown passed split inner =>
      have other : child.tag ≠ .documentation := inner.passed
      have same : grown.tag = child.tag := by rw [tag, tag, (grown_heading (.single inner)).1]
      simp only [elements, List.filter_filter, split]
      simp [other, same]
  simp only [doc?, documented]

end IsPlainText

end Node

theorem Node.grown_pairs {passes : Node → Prop} {added a b : Node}
    (grows : ReflGen (Node.Gains passes added) a b) :
    Pairs.Like (· = ·) a.name a.attributes b.attributes := by
  rw [(Node.grown_heading grows).2.1]
  exact List.forall₂_same.mpr fun _ _ => ⟨rfl, .inl rfl⟩

def Likeness.insertion {passes : Node → Prop} {added : Node} (unread : added.Unread)
    (doc : ∀ a b, Node.Gains passes added a b → a.tag = .remark → a.doc? = b.doc?) : Likeness where
  toTolerance := .none
  toCiting := .verbatim
  toAdditions := .only unread
  same := ReflGen (Node.Gains passes added)
  name grows := (Node.grown_heading grows).1
  attr grows := (Node.grown_pairs grows).first?
  last?_eq grows := (Node.grown_pairs grows).last?_eq
  passed grows := (Node.grown_pairs grows).passed_eq
  assertion grows tagged := by rw [(Node.grown_pairs grows).assertion_eq tagged]; rfl
  children := Node.grown_children
  doc grows tagged := by cases grows with
    | refl => rfl
    | single gains => exact doc _ _ gains tagged

namespace Document

section Insertion

variable {passes : Node → Prop} {added : Node} {first second : Document}

theorem compile_insertion (unread : added.Unread)
    (doc : ∀ a b, Node.Gains passes added a b → a.tag = .remark → a.doc? = b.doc?)
    (gains : Node.Gains passes added first.root second.root) :
    SameForm (Enlarged (· = ·) fun diagnostic => added.isText = false ∧
        (diagnostic.cause = .unexpectedChild added.name ∨
          diagnostic.cause = .nonElementInGroup added.name ∨
          diagnostic.cause = .unhandledComplexChild added.name))
      first.compile second.compile := by
  have same : (Likeness.insertion unread doc).same first.root second.root := .single gains
  have declares := Likeness.declares_of_pairs (Likeness.catalogue_like same) fun _ _ alike =>
    Node.grown_pairs alike
  refine (Likeness.compile_like same declares).imp fun notes others enlarged => enlarged.imp ?_ ?_
  · exact fun _ _ same => same.eq fun _ _ => id
  · rintro diagnostic ⟨node, added, seen, told⟩
    rw [show node = _ from added] at seen told
    exact ⟨seen, told⟩

theorem compile_eq_of_gainsText (gains : first.GainsText second) :
    first.compile = second.compile := by
  obtain ⟨added, plain, gains⟩ := gains
  have same := compile_insertion plain.unread (fun _ _ gains _ => plain.doc?_eq gains) gains
  refine (same.imp fun notes others enlarged => ?_).eq
  rw [← List.forall₂_eq_eq_eq]
  exact enlarged.forall₂ fun _ ⟨seen, _⟩ => by simp [plain.text] at seen

end Insertion

theorem compile_eq_of_same_markup (first second : Document)
    (differ : EqvGen GainsText first second) : first.compile = second.compile := by
  induction differ with
  | rel _ _ gains => exact compile_eq_of_gainsText gains
  | refl => rfl
  | symm _ _ _ ih => exact ih.symm
  | trans _ _ _ _ _ ih more => exact ih.trans more

end Document

namespace Mixed

def port : Node := { name := "element", attributes := [("name", "port"), ("type", "string")] }

def documentation : Node :=
  { name := "documentation"
    children := [{ name := "p", children := [Node.ofText "Where to listen."] }] }

def remark (texts : List Node) : Node :=
  { name := "annotation", children := texts ++ [documentation] }

def members (texts : List Node) : Node := { name := "sequence", children := texts ++ [port] }

def listener (outer inner : List Node) : Node :=
  { name := "complexType"
    attributes := [("name", "Listener")]
    children := [remark outer, members inner] }

def document (outer inner : List Node) : Document :=
  ⟨{ name := "schema"
     children := [
       { name := "element", attributes := [("name", "listener"), ("type", "Listener")] },
       listener outer inner] }⟩

theorem same_markup :
    EqvGen Document.GainsText (document [Node.ofText "Ports"] []) (document [] [Node.ofText "\n"]) ∧
      (document [Node.ofText "Ports"] []).compile = (document [] [Node.ofText "\n"]).compile := by
  have annotated : (document [] []).GainsText (document [Node.ofText "Ports"] []) :=
    ⟨Node.ofText "Ports", ⟨rfl, rfl, rfl⟩, .inside _ [_] [] (by decide) rfl
      (.inside _ [] [_] (by decide) rfl (.here _ [] [_] (by decide) rfl))⟩
  have indented : (document [] []).GainsText (document [] [Node.ofText "\n"]) :=
    ⟨Node.ofText "\n", ⟨rfl, rfl, rfl⟩, .inside _ [_] [] (by decide) rfl
      (.inside _ [_] [] (by decide) rfl (.here _ [] [_] (by decide) rfl))⟩
  have differ := ((EqvGen.rel _ _ annotated).symm).trans _ _ _ (.rel _ _ indented)
  exact ⟨differ, Document.compile_eq_of_same_markup _ _ differ⟩

end Mixed

theorem Document.unknown_only_reported (u : Node) (unknown : u.Unknown) (first second : Document)
    (gains : Node.Gains (fun _ => True) u first.root second.root) :
    SameForm (Enlarged (· = ·) fun diagnostic =>
        diagnostic.cause = .unexpectedChild u.name ∨ diagnostic.cause = .nonElementInGroup u.name ∨
          diagnostic.cause = .unhandledComplexChild u.name)
      first.compile second.compile := by
  have documented : ∀ a b, Node.Gains (fun _ => True) u a b → a.tag = .remark → a.doc? = b.doc? :=
    fun _ _ gains _ => unknown.sameTexts.doc?_eq (.single gains)
  have same := compile_insertion unknown.unread documented gains
  refine same.imp fun notes others enlarged => enlarged.imp (fun _ _ same => same) ?_
  intro diagnostic reported
  exact reported.2

namespace Listener

def wildcard : Node :=
  { name := "any"
    attributes := [("processContents", "lax")]
    children := [{ name := "appinfo" }] }

def openDocument : Document :=
  ⟨{ name := "schema"
     children := [
       { element with children := [{ content with children :=
         [{ ports with children := [port, wildcard] }, id] }] },
       portType] }⟩

theorem wildcard_only_reported :
    wildcard.Unknown ∧ Node.Gains (fun _ => True) wildcard document.root openDocument.root ∧
      SameForm (Enlarged (· = ·) fun diagnostic =>
          diagnostic.cause = .unexpectedChild "any" ∨ diagnostic.cause = .nonElementInGroup "any" ∨
            diagnostic.cause = .unhandledComplexChild "any")
        document.compile openDocument.compile := by
  have unknown : wildcard.Unknown :=
    { silent := by decide
      nameless := by decide
      valueless := by decide
      tagged := ⟨"any", by decide⟩
      unlisted := by decide
      undeclared := by decide }
  have gains : Node.Gains (fun _ => True) wildcard document.root openDocument.root :=
    .inside _ [] [_] trivial rfl (.inside _ [] [] trivial rfl
      (.inside _ [] [_] trivial rfl (.here _ [_] [] trivial rfl)))
  exact ⟨unknown, gains,
    Document.unknown_only_reported wildcard unknown document openDocument gains⟩

end Listener

end SchemaForms
