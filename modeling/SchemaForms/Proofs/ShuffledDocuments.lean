import SchemaForms.Proofs.CompilationWalk
import SchemaForms.Proofs.ShuffledReadings

set_option autoImplicit false

namespace SchemaForms

abbrev Compilation.Resembles (leeway : Leeway) :
    Except SchemaError Compilation → Except SchemaError Compilation → Prop :=
  Compilation.Rel (Field.Resembles leeway) (· = ·)

namespace Document

variable {leeway : Leeway} {first second : Document}

theorem compile_resembles (alike : first.root.Alike (.ofDocument first) leeway second.root) :
    Compilation.Resembles leeway first.compile second.compile := by
  have same : (Likeness.shuffling (.ofDocument first) leeway).same first.root second.root := alike
  have declares := Likeness.declares_shuffled (Likeness.catalogue_like same)
  refine (Likeness.compile_like same declares).imp fun notes others enlarged => ?_
  rw [← List.forall₂_eq_eq_eq]
  exact (enlarged.forall₂ fun _ ⟨_, added, _⟩ => added).imp fun _ _ same => same.eq fun _ _ => id

/-- A text may stand for another only where one node offers both: as the message of the very
assertion it gives, or under a key of the very field that is made of it. -/
def contest (document : Document) : Leeway where
  message made one other :=
    ∃ node ∈ document.root.preorder, node.assertion = made ∧
      node.OffersMessage one ∧ node.OffersMessage other
  pair field key one other :=
    ∃ node ∈ document.root.preorder, node.tag = .attribute ∧
      (∃ opened, node.attributeItem (.ofDocument document) opened = field) ∧
      node.OffersPair (.ofDocument document) key one ∧
      node.OffersPair (.ofDocument document) key other

theorem compile_shuffled (distinct : ∀ node ∈ first.root.preorder, node.attributes.keys.Nodup)
    (moves : first.root.Shuffled second.root) :
    Compilation.Resembles first.contest first.compile second.compile := by
  refine compile_resembles ⟨moves, fun node inside => ⟨distinct node inside, ?_, ?_⟩⟩
  · exact fun one other offered also => .inr ⟨node, inside, rfl, offered, also⟩
  · exact fun tagged opened key one other offered also =>
      .inr ⟨node, inside, tagged, ⟨opened, rfl⟩, offered, also⟩

theorem compile_uncontested
    (distinct : ∀ node ∈ first.root.preorder, node.attributes.keys.Nodup)
    (messages : ∀ node ∈ first.root.preorder, ∀ one other, node.OffersMessage one →
      node.OffersMessage other → one = other)
    (pairs : ∀ node ∈ first.root.preorder, node.tag = .attribute → ∀ key one other,
      node.OffersPair (.ofDocument first) key one →
        node.OffersPair (.ofDocument first) key other → one = other)
    (moves : first.root.Shuffled second.root) :
    Compilation.Resembles .strict first.compile second.compile := by
  refine compile_resembles ⟨moves, fun node inside => ⟨distinct node inside, ?_, ?_⟩⟩
  · exact fun one other offered also => .inl (messages node inside one other offered also)
  · exact fun tagged _ key one other offered also =>
      .inl (pairs node inside tagged key one other offered also)

end Document

namespace Parcel

def digits : Node :=
  { name := "restriction", attributes := [("base", "string")]
    children := [{ name := "pattern", attributes := [("value", "[0-9]+")] }] }

def code : Node := { name := "simpleType", attributes := [("name", "Code")], children := [digits] }

def content (part : Node) : Node := { name := "complexType", children := [part] }

def element (part : Node) : Node :=
  { name := "element", attributes := [("name", "parcel")], children := [content part] }

def document (part : Node) : Document :=
  ⟨{ name := "schema", children := [element part, code] }⟩

def label (before after : Pairs) : Node :=
  { name := "attribute", attributes := (("name", "label") :: before) ++ ("type", "Code") :: after }

def rule (attributes : Pairs) : Node := { name := "assert", attributes }

def labelField (pattern : String) : Field :=
  { name := some "label", kind := some (.native .string)
    extra := [(Field.xmlRoleKey, "attribute"), ("pattern", pattern)] }

theorem document_shuffled {part other : Node} (moves : part.Shuffled other) :
    (document part).root.Shuffled (document other).root := by
  have digits : code.Shuffled code :=
    .mk _ _ _ (.refl _) (.cons (.mk _ _ _ (.refl _) (.cons (.mk _ _ _ (.refl _) .nil) .nil)) .nil)
  have element : (element part).Shuffled (element other) :=
    .mk _ _ _ (.refl _) (.cons (.mk _ _ _ (.refl _) (.cons moves .nil)) .nil)
  exact .mk _ _ _ (.refl _) (.cons element (.cons digits .nil))

def compilation (edits : List Edit) : Compilation :=
  { field := ({ name := some "parcel" } : Field).applyAll (.items [] :: edits)
    targetNamespace := none
    diagnostics := [] }

theorem compile_of_part {part : Node} {edits : List Edit}
    (read : Filling.gather (Step.fill (.ofDocument (document part)) [])
      (Rule.complexChild part) = { edits }) :
    (document part).compile = .ok (compilation edits) := by
  have readContent : Rule.complexType.fill (.ofDocument (document part)) [] (content part) =
      { edits } := by
    rw [Rule.fill_eq, show Rule.complexType.steps (.ofDocument (document part)) (content part) =
      Rule.complexChild part ++ [] from rfl, List.append_nil, read]
    rfl
  have readElement : (Rule.elementDecl false).fill (.ofDocument (document part)) []
      (element part) = { edits := .items [] :: edits } := by
    rw [Rule.fill_eq, show (Rule.elementDecl false).steps (.ofDocument (document part))
      (element part) = [.define .complexType (content part) .listed] from rfl, Rule.gather_single]
    simp only [Step.fill, show (content part).attr "name" = none from rfl, readContent]
    rfl
  have found : (document part).rootElement = .ok (element part) := rfl
  rw [Document.compile_eq_outcome_fill found, readElement]
  rfl

theorem read_code (catalogue : Catalogue) (opened : List String) :
    Rule.simpleType.fill catalogue opened code =
      { edits := [.kind (.native .string), .extra "pattern" "[0-9]+"] } := by
  have readDigits : Rule.restriction.fill catalogue opened digits =
      { edits := [.kind (.native .string), .extra "pattern" "[0-9]+"] } := by
    rw [Rule.fill_eq]
    rfl
  rw [Rule.fill_eq, show Rule.simpleType.steps catalogue code =
    [.visit .restriction digits .direct] from rfl, Rule.gather_single, Step.fill, readDigits]
  rfl

theorem typing_code {catalogue : Catalogue} (resolved : catalogue.resolve "Code" = .defined code) :
    Rule.typing catalogue [] false "Code" =
      { edits := [.kind (.native .string), .extra "pattern" "[0-9]+"] } := by
  have steps : (Rule.typeRole false).steps catalogue "Code" =
      [.define .simpleType code .direct] := by
    rw [Rule.Role.steps, resolved]
    rfl
  rw [Rule.typing, steps, Rule.gather_single]
  simp only [Step.fill, show code.attr "name" = some "Code" from rfl, read_code]
  rfl

theorem read_label {catalogue : Catalogue} (resolved : catalogue.resolve "Code" = .defined code)
    {before after : Pairs} (free : ∀ pair ∈ before, pair.1 ≠ "type")
    (rest : ∀ pair ∈ after, pair.1 ≠ "type") :
    Rule.attributeDecl.fill catalogue [] (label before after) =
      { edits := Edits.extras (Rule.kept before) ++
          ([.kind (.native .string), .extra "pattern" "[0-9]+"] ++
            Edits.extras (Rule.kept after)) } := by
  have named : ∀ pair ∈ ("name", "label") :: before, pair.1 ≠ "type" :=
    List.forall_mem_cons.mpr ⟨by decide, free⟩
  simp only [label, Rule.fill_eq, Rule.steps, List.flatMap_nil, List.append_nil,
    Rule.gather_typed named rest, typing_code resolved]
  rfl

theorem compile_label {before after : Pairs} (free : ∀ pair ∈ before, pair.1 ≠ "type")
    (rest : ∀ pair ∈ after, pair.1 ≠ "type")
    (typed : (document (label before after)).root.preorder.find? (·.defines "Code") = some code) :
    (document (label before after)).compile = .ok (compilation
      [.items [(label before after).attributeField.applyAll
        (Edits.extras (Rule.kept before) ++
          ([.kind (.native .string), .extra "pattern" "[0-9]+"] ++
            Edits.extras (Rule.kept after)))]]) := by
  have resolved : (Catalogue.ofDocument (document (label before after))).resolve "Code" =
      .defined code :=
    Catalogue.resolve_of_get? rfl ((Catalogue.get?_ofDocument _ _).trans typed)
  refine compile_of_part ?_
  rw [show Rule.complexChild (label before after) = [.visit .attributeDecl (label before after)
    (.item (label before after).attributeField)] from rfl, Rule.gather_single, Step.fill,
    read_label resolved free rest]
  rfl

theorem compile_rule (attributes : Pairs) :
    (document (rule attributes)).compile =
      .ok (compilation [.assertion (rule attributes).assertion]) :=
  compile_of_part rfl

def typedLast : Node := label [("pattern", "[a-z]+")] []

def typedFirst : Node := label [] [("pattern", "[a-z]+")]

def briefFirst : Node := rule [("message", "heavy"), ("longmessage", "too heavy")]

def briefLast : Node := rule [("longmessage", "too heavy"), ("message", "heavy")]

theorem compile_typedLast :
    (document typedLast).compile = .ok (compilation [.items [labelField "[0-9]+"]]) :=
  compile_label (by decide) (by decide) rfl

theorem compile_typedFirst :
    (document typedFirst).compile = .ok (compilation [.items [labelField "[a-z]+"]]) :=
  compile_label (by decide) (by decide) rfl

theorem typed_shuffled : (document typedLast).root.Shuffled (document typedFirst).root :=
  document_shuffled (.mk _ _ _ (.cons _ (.swap _ _ _)) .nil)

theorem brief_shuffled : (document briefFirst).root.Shuffled (document briefLast).root :=
  document_shuffled (.mk _ _ _ (.swap _ _ _) .nil)

theorem patterns_differ {first second : Field} (typed : first.members = [labelField "[0-9]+"])
    (own : second.members = [labelField "[a-z]+"]) :
    ¬ first.Resembles .strict second := by
  intro alike
  have labels := alike.agrees.members
  rw [typed, own] at labels
  obtain ⟨_, _, pairs, _⟩ := (List.forall₂_cons.mp labels).1
  have patterns : Pairs.Resemble (Leeway.strict.pair (labelField "[0-9]+"))
      [("pattern", "[0-9]+")] [("pattern", "[a-z]+")] := pairs "pattern"
  rcases (List.forall₂_cons.mp patterns).1.2 with same | allowed
  · simp at same
  · exact allowed

theorem messages_differ {first second : Field}
    (brief : first.assertions = [briefFirst.assertion])
    (long : second.assertions = [briefLast.assertion]) :
    ¬ first.Resembles .strict second := by
  rintro ⟨_, assertions, _, _⟩
  rw [brief, long] at assertions
  have messages : StandsFor (Leeway.strict.message briefFirst.assertion) (some "heavy")
      (some "too heavy") := (List.forall₂_cons.mp assertions).1.message
  have same := messages.eq fun _ _ => id
  simp at same

theorem order_decides :
    ((∀ node ∈ (document typedLast).root.preorder, node.attributes.keys.Nodup) ∧
      (document typedLast).root.Shuffled (document typedFirst).root ∧
      ∃ first second, (document typedLast).compile = .ok first ∧
        (document typedFirst).compile = .ok second ∧
        ¬ first.field.Resembles .strict second.field) ∧
    (∀ node ∈ (document briefFirst).root.preorder, node.attributes.keys.Nodup) ∧
      (document briefFirst).root.Shuffled (document briefLast).root ∧
      ∃ first second, (document briefFirst).compile = .ok first ∧
        (document briefLast).compile = .ok second ∧
        ¬ first.field.Resembles .strict second.field := by
  have patterns : ∃ first second, (document typedLast).compile = .ok first ∧
      (document typedFirst).compile = .ok second ∧
      ¬ first.field.Resembles .strict second.field :=
    ⟨_, _, compile_typedLast, compile_typedFirst, patterns_differ rfl rfl⟩
  have messages : ∃ first second, (document briefFirst).compile = .ok first ∧
      (document briefLast).compile = .ok second ∧
      ¬ first.field.Resembles .strict second.field :=
    ⟨_, _, compile_rule _, compile_rule _, messages_differ rfl rfl⟩
  exact ⟨⟨by decide, typed_shuffled, patterns⟩, by decide, brief_shuffled, messages⟩

theorem labels_shuffled :
    (∀ node ∈ (document typedLast).root.preorder, node.attributes.keys.Nodup) ∧
      (document typedLast).root.Shuffled (document typedFirst).root ∧
      Compilation.Resembles (document typedLast).contest (document typedLast).compile
        (document typedFirst).compile :=
  have distinct : ∀ node ∈ (document typedLast).root.preorder, node.attributes.keys.Nodup := by
    decide
  ⟨distinct, typed_shuffled, Document.compile_shuffled distinct typed_shuffled⟩

end Parcel

end SchemaForms
