import SchemaForms.Proofs.LikeReadings
import SchemaForms.Proofs.LikeTexts

set_option autoImplicit false

namespace SchemaForms

def Reference.SameTarget (text other : String) : Prop :=
  (Reference.ofText text).target = (Reference.ofText other).target

/-- Trees of one shape, with other qualifiers in front of names and type references. -/
inductive Node.Requalified : Node → Node → Prop
  | mk (name : String) (qualifier other : Option String) (text : Option String)
    {attributes respelled : Pairs} {children counterparts : List Node}
    (pairs : List.Forall₂ (Node.PairLike Reference.SameTarget name) attributes respelled)
    (below : List.Forall₂ Node.Requalified children counterparts) :
    Node.Requalified ⟨name, qualifier, attributes, children, text⟩
      ⟨name, other, respelled, counterparts, text⟩

def Diagnostic.Requalified (first second : Diagnostic) : Prop :=
  first.path = second.path ∧
    (first.cause = second.cause ∨
      ∃ text other, first.cause = .undefinedType text ∧ second.cause = .undefinedType other ∧
        Reference.SameTarget text other)

namespace Node

variable {a b : Node}

namespace Requalified

theorem same_name (alike : a.Requalified b) : a.name = b.name := by cases alike; rfl

theorem same_text (alike : a.Requalified b) : a.text = b.text := by cases alike; rfl

theorem attributes (alike : a.Requalified b) :
    List.Forall₂ (PairLike Reference.SameTarget a.name) a.attributes b.attributes := by
  cases alike
  assumption

theorem children (alike : a.Requalified b) :
    List.Forall₂ Requalified a.children b.children := by
  cases alike
  assumption

theorem sameTexts : SameTexts Requalified fun _ => False where
  name alike := alike.same_name
  text alike := alike.same_text
  children alike := .of_forall₂ alike.children
  silent added := added.elim
  unread added := added.elim
  unlisted added := added.elim

end Requalified

end Node

def Citing.qualified : Citing where
  cites := Reference.SameTarget
  cites_refl _ := rfl
  target cited := cited

def Likeness.requalification : Likeness where
  toTolerance := .none
  toCiting := .qualified
  toAdditions := .none
  same := Node.Requalified
  name alike := alike.same_name
  attr alike := Pairs.Like.first? alike.attributes
  last?_eq alike := Pairs.Like.last?_eq alike.attributes
  passed alike := Pairs.Like.passed_eq alike.attributes
  assertion alike tagged := by rw [Pairs.Like.assertion_eq alike.attributes tagged]; rfl
  children alike := .of_forall₂ alike.children
  doc alike _ := Node.Requalified.sameTexts.doc?_eq alike

theorem Diagnostic.requalified_of_same {first second : Diagnostic}
    (same : Likeness.requalification.SameDiagnostic first second) : first.Requalified second := by
  obtain ⟨path, cause⟩ := first
  obtain ⟨_, spelled⟩ := second
  obtain ⟨rfl, causes⟩ := same
  refine ⟨rfl, ?_⟩
  cases causes with
  | equal => exact .inl rfl
  | undefinedType cited => exact .inr ⟨_, _, rfl, rfl, cited⟩

theorem Document.compile_requalified (first second : Document)
    (alike : first.root.Requalified second.root) :
    SameForm (List.Forall₂ Diagnostic.Requalified) first.compile second.compile := by
  have same : Likeness.requalification.same first.root second.root := alike
  have declares := Likeness.declares_of_pairs (Likeness.catalogue_like same) fun _ _ alike =>
    Node.Requalified.attributes alike
  refine (Likeness.compile_like same declares).imp fun notes others enlarged => ?_
  have paired := enlarged.forall₂ fun _ ⟨_, added, _⟩ => added
  exact paired.imp fun _ _ same => Diagnostic.requalified_of_same same

namespace Prefixed

def declared (name : String) (qualifier : Option String) (key type : String) : Node :=
  { name, qualifier, attributes := [("name", key), ("type", type)] }

def portType (qualifier : Option String) (zone : String) : Node :=
  { name := "complexType"
    qualifier
    attributes := [("name", "Port")]
    children := [declared "attribute" qualifier "zone" zone] }

def document (qualifier : Option String) (port zone : String) : Document :=
  ⟨{ name := "schema"
     qualifier
     children := [declared "element" qualifier "port" port, portType qualifier zone] }⟩

theorem requalified_declared {name : String} (refers : Node.IsReference name "type")
    (qualifier other : Option String) (key : String) {type respelled : String}
    (same : Reference.SameTarget type respelled) :
    (declared name qualifier key type).Requalified (declared name other key respelled) :=
  .mk name qualifier other none (.cons ⟨rfl, .inl rfl⟩ (.cons ⟨rfl, .inr ⟨refers, same⟩⟩ .nil)) .nil

theorem requalified (qualifier other : Option String) {port port' zone zone' : String}
    (ports : Reference.SameTarget port port') (zones : Reference.SameTarget zone zone') :
    (document qualifier port zone).root.Requalified (document other port' zone').root := by
  have element := requalified_declared (.inl ⟨rfl, .inl rfl⟩) qualifier other "port" ports
  have inner := requalified_declared (.inl ⟨rfl, .inr rfl⟩) qualifier other "zone" zones
  have type : (portType qualifier zone).Requalified (portType other zone') :=
    .mk _ _ _ _ (.cons ⟨rfl, .inl rfl⟩ .nil) (.cons inner .nil)
  exact .mk _ _ _ _ .nil (.cons element (.cons type .nil))

theorem unprefixed_same_form :
    (document (some "xs") "gw:Port" "gw:Zone").root.Requalified
      (document none "Port" "other:Zone").root ∧
    SameForm (List.Forall₂ Diagnostic.Requalified)
      (document (some "xs") "gw:Port" "gw:Zone").compile
      (document none "Port" "other:Zone").compile := by
  have ports : Reference.SameTarget "gw:Port" "Port" := by rfl
  have zones : Reference.SameTarget "gw:Zone" "other:Zone" := by rfl
  exact ⟨requalified _ _ ports zones,
    Document.compile_requalified _ _ (requalified _ _ ports zones)⟩

end Prefixed

end SchemaForms
