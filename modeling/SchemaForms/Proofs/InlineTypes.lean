import SchemaForms.Proofs.CallHistory
import SchemaForms.Proofs.ExtraPairs
import SchemaForms.Proofs.ReferenceGraph

set_option autoImplicit false

namespace SchemaForms

open Relation

namespace Node

def without (node : Node) (key : String) : Node :=
  { node with attributes := node.attributes.filter fun pair => pair.1 ≠ key }

/-- The declaration with a copy of the definition among its children in place of a reference. -/
def inlining (declaration definition : Node) (before after : List Node) : Node :=
  { declaration.without "type" with children := before ++ definition.without "name" :: after }

/-- What makes a definition mean the same without its name. -/
structure StandsAlone (catalogue : Catalogue) (definition : Node) : Prop where
  apart : ∀ reached, TransGen (Mentions catalogue) definition reached →
    reached.attr "name" ≠ definition.attr "name"
  unnamed : ∀ inner, definition.Involves catalogue inner → inner.TypesUnnamed
  unmixed : ∀ inner ∈ definition.preorder, inner.tag = .restriction →
    ∀ facet ∈ inner.children, facet.name ∉ ["maxOccurs", "use", "default"]

end Node

/-- Two failures, or fields that are equal but for the order of their pairs. -/
inductive Answer.Alike : Answer → Answer → Prop
  | failed (first second : SchemaError) : Alike (.field (.error first)) (.field (.error second))
  | filled {first second : Field} (reordered : first.Reordered second) :
    Alike (.field (.ok first)) (.field (.ok second))

namespace Pairs

variable (pairs : Pairs) {key other : String}

theorem first?_without_self : first? (pairs.filter fun pair => pair.1 ≠ key) key = none := by
  simp [first?]

theorem first?_without_of_ne (ne : other ≠ key) :
    first? (pairs.filter fun pair => pair.1 ≠ key) other = pairs.first? other := by
  unfold first?
  rw [List.find?_filter]
  congr 2
  funext pair
  by_cases hit : pair.1 = other <;> simp [hit, ne]

end Pairs

namespace Node

variable {declaration definition : Node} {before after : List Node}

theorem attr_without_self (node : Node) (key : String) : (node.without key).attr key = none :=
  node.attributes.first?_without_self

theorem attr_without_of_ne (node : Node) {key other : String} (ne : other ≠ key) :
    (node.without key).attr other = node.attr other :=
  node.attributes.first?_without_of_ne ne

theorem inlining_attr_name :
    (declaration.inlining definition before after).attr "name" = declaration.attr "name" :=
  declaration.attr_without_of_ne (by decide)

theorem inlining_declare (field : Field) :
    (declaration.inlining definition before after).declare field = declaration.declare field := by
  have least : (declaration.inlining definition before after).attributes.last? "minOccurs" =
      declaration.attributes.last? "minOccurs" := by
    simp only [inlining, without, Pairs.last?, ← List.filter_reverse]
    exact Pairs.first?_without_of_ne _ (by decide)
  rw [declare, declare, inlining_attr_name, least]

end Node

namespace Filling

structure Matches (first second : Filling) : Prop where
  edits : first.edits = second.edits
  causes : first.notes.map (·.cause) = second.notes.map (·.cause)
  failure : first.failure.isSome = second.failure.isSome

variable {first second : Filling}

theorem matches_under (filling : Filling) (node other : Node) :
    (filling.under node).Matches (filling.under other) where
  edits := rfl
  causes := by simp [under, Function.comp_def]
  failure := by simp [under]

structure Alike (first second : Filling) : Prop where
  failure : first.failure.isSome = second.failure.isSome
  causes : first.notes.map (·.cause) = second.notes.map (·.cause)
  fields : first.failure = none →
    ∀ field : Field, (field.applyAll first.edits).Reordered (field.applyAll second.edits)

theorem Matches.alike {pairs : List Edit} (same : first.Matches second)
    (only : ∀ edit ∈ pairs, edit.pair?.isSome = true)
    (apart : ∀ key value other, .extra key value ∈ first.edits → .extra key other ∉ pairs)
    (node other : Node) :
    Alike ((first ++ { edits := pairs }).under node)
      (({ edits := pairs } ++ second).under other) := by
  have ends := same.failure
  rw [append_of_success second rfl]
  cases failed : first.failure with
  | none =>
    have done : second.failure = none := by simpa [failed] using ends
    rw [append_of_success _ failed]
    refine ⟨by simp [under, done], by simpa [under, Function.comp_def] using same.causes, ?_⟩
    intro _ field
    simpa [under, same.edits] using field.reordered_append only apart
  | some trail =>
    obtain ⟨way, refused⟩ := Option.isSome_iff_exists.mp (by simpa [failed] using ends.symm)
    rw [append_of_failure _ (by simp [failed])]
    exact ⟨by simp [under, failed, refused],
      by simpa [under, Function.comp_def] using same.causes, by simp [under, failed]⟩

theorem Matches.place (same : first.Matches second) (placement : Placement) :
    (first.place placement).Matches (second.place placement) where
  edits := by
    cases placement <;> simp only [Filling.place, same.edits, same.failure]
    all_goals split <;> first | rfl | exact same.edits
  causes := by simp [same.causes]
  failure := by simp [same.failure]

end Filling

namespace Rule

variable {catalogue : Catalogue} {definition : Node} {name : String}

theorem fill_of_unmet
    (apart : ∀ reached, TransGen (Node.Mentions catalogue) definition reached →
      reached.attr "name" ≠ some name)
    (unnamed : ∀ inner, definition.Involves catalogue inner → inner.TypesUnnamed)
    (opened : List String) (rule : Rule) (node : Node)
    (involved : definition.Involves catalogue node) (suits : rule.Suits node) :
    ∀ others, (∀ taken, taken ≠ name → (taken ∈ opened ↔ taken ∈ others)) →
      rule.fill catalogue opened node = rule.fill catalogue others node := by
  revert opened rule node
  refine @fill_induction catalogue _ ?_
  intro opened rule node inner involved suits others agree
  rw [fill_eq, fill_eq]
  congr 1
  refine Filling.gather_congr fun step member => ?_
  have origin := from_steps rule step member
  have inner := inner step member
  cases step with
  | edit | note | refuse => rfl
  | visit visited child placement =>
    simp only [Step.fill, inner (involved.child origin.1) origin.2.1 others agree]
  | define visited inside placement =>
    have fits : visited.Suits inside := suits_of_type origin.2
    cases named : inside.attr "name" with
    | none =>
      simp only [Step.Inner, named] at inner
      have within := involved.child (origin.1.below_of_unnamed named)
      simp only [Step.fill, named, inner within fits others agree]
    | some taken =>
      obtain ⟨text, cited, found⟩ := cited_of_named (unnamed node involved) suits member named
      have path := involved.path (cited.mentions found)
      have other : taken ≠ name := fun same => apart inside path (by rw [named, same])
      simp only [Step.Inner, named] at inner
      simp only [Step.fill, named, agree taken other]
      split
      · next shut =>
        rw [inner ((agree taken other).not.mpr shut) (Node.involves_of_path path) fits
          (taken :: others) fun more far => by simp [agree more far]]
      · rfl

/-- How the rule for elements enters a type, be it in the catalogue or in the element. -/
inductive Enters (grouped : Bool) : Rule → Placement → Prop
  | complex : Enters grouped .complexType .listed
  | simple : Enters grouped .simpleType (simplePlacement grouped)

theorem visit_not_mem_role {role : Role} {visited : Rule} {child : Node} {placement : Placement}
    {text : String} : .visit visited child placement ∉ role.steps catalogue text := by
  unfold Role.steps
  split
  · simp
  · split <;> simp
  · simp

theorem visit_not_mem_list {node child : Node} {visited : Rule} {placement : Placement} :
    .visit visited child placement ∉ Rule.list.steps catalogue node := by
  intro member
  rcases List.mem_append.mp member with member | member
  · split at member
    · exact visit_not_mem_role member
    · unfold inlineItemSteps at member
      split at member <;> simp at member
  · simp at member

theorem visit_of_simpleChild {child inner : Node} {visited : Rule} {placement : Placement}
    (member : .visit visited inner placement ∈ simpleChild child) :
    inner = child ∧ (visited = .list ∨ visited = .restriction ∧ child.tag = .restriction) := by
  unfold simpleChild docSteps at member
  split at member <;> simp_all

theorem visit_not_mem_restriction {node child : Node} {visited : Rule} {placement : Placement} :
    .visit visited child placement ∉ Rule.restriction.steps catalogue node := by
  intro member
  rcases List.mem_cons.mp member with first | member
  · unfold restrictionBase at first
    split at first <;> contradiction
  · obtain ⟨facet, _, member⟩ := List.mem_flatMap.mp member
    unfold facetSteps docSteps at member
    split at member
    · simp at member
    · simp at member
    · split at member <;> simp at member
    · split at member <;> simp at member

namespace Gathers

variable {node : Node} {key value : String}

theorem of_restriction (gathers : Rule.restriction.Gathers catalogue node key value) :
    Rule.restriction.Sets node key value := by
  cases gathers with
  | own sets => exact sets
  | visit member => exact absurd member visit_not_mem_restriction
  | define member =>
    obtain ⟨_, cited, _⟩ := cited_of_define rfl member
    exact cited.elim

theorem of_list (gathers : Rule.list.Gathers catalogue node key value) : key = "sub-type" := by
  cases gathers with
  | own sets => exact sets.1
  | visit member => exact absurd member visit_not_mem_list
  | define member keeps inner =>
    have plain := inner.not_content
    have places := suits_steps .list _ member
    rcases (from_steps .list _ member).2 with rfl | rfl
    · contradiction
    · cases places with
      | inner weaker => simp [grasp] at weaker
      | value => exact absurd rfl (keeps _)

theorem of_simpleType (gathers : Rule.simpleType.Gathers catalogue node key value) :
    key = "sub-type" ∨
      ∃ inner ∈ node.children,
        inner.tag = .restriction ∧ Rule.restriction.Sets inner key value := by
  cases gathers with
  | own sets => exact sets.elim
  | visit member keeps gathers =>
    obtain ⟨child, below, member⟩ := List.mem_flatMap.mp member
    obtain ⟨rfl, rfl | ⟨rfl, tagged⟩⟩ := visit_of_simpleChild member
    · exact .inl gathers.of_list
    · exact .inr ⟨_, below, tagged, gathers.of_restriction⟩
  | define member =>
    obtain ⟨child, _, member⟩ := List.mem_flatMap.mp member
    exact absurd member (define_not_mem_simpleChild child)

end Gathers

section Reading

variable {opened : List String} {grouped : Bool} {declaration : Node} {before after : List Node}
  {visited : Rule} {placement : Placement}

theorem passed_without (declaration : Node) :
    passed (declaration.without "type").attributes = passed declaration.attributes := by
  have same : ((declaration.attributes.filter fun pair => pair.1 ≠ "type").filter fun pair =>
        pair.1 ∈ ["maxOccurs", "use", "default"]) =
      declaration.attributes.filter fun pair => pair.1 ∈ ["maxOccurs", "use", "default"] := by
    rw [List.filter_filter]
    congr 1
    funext pair
    by_cases typed : pair.1 = "type" <;> simp [typed]
  simp only [passed, Node.without, same]

theorem flatMap_texts {texts : List Node} (plain : ∀ child ∈ texts, child.isText = true) :
    texts.flatMap (elementChild grouped) = [] := by
  refine List.flatMap_eq_nil_iff.mpr fun child member => ?_
  simp [elementChild, Node.isText_iff.mp (plain child member)]

theorem enters_of_tag (catalogue : Catalogue) (grouped : Bool)
    (sort : definition.tag = .complexType ∨ definition.tag = .simpleType) :
    ∃ visited placement, Enters grouped visited placement ∧
      (∀ text, catalogue.resolve text = .defined definition →
        (typeRole grouped).steps catalogue text = [.define visited definition placement]) ∧
      elementChild grouped (definition.without "name") =
        [.define visited (definition.without "name") placement] := by
  have same : (definition.without "name").tag = definition.tag := rfl
  rcases sort with tagged | tagged
  · have complex : definition.isComplexType = true := by
      rw [Node.isComplexType, Node.nameContains, Node.name_eq_of_tag tagged]
      decide
    refine ⟨.complexType, .listed, .complex, fun text found => ?_, ?_⟩
    · simp [Role.steps, found, complex, typeRole]
    · simp [elementChild, same, tagged]
  · have simple : definition.isComplexType = false := by
      rw [Node.isComplexType, Node.nameContains, Node.name_eq_of_tag tagged]
      decide
    refine ⟨.simpleType, simplePlacement grouped, .simple, fun text found => ?_, ?_⟩
    · simp [Role.steps, found, simple, typeRole]
    · simp [elementChild, same, tagged]

theorem fill_named {text : String} (given : declaration.hasAttr "name" = true)
    (plain : ∀ child ∈ declaration.children, child.isText = true)
    (typed : declaration.attr "type" = some text)
    (referred : (typeRole grouped).steps catalogue text =
      [.define visited definition placement]) :
    (elementDecl grouped).fill catalogue opened declaration =
      .under declaration ((Step.define visited definition placement).fill catalogue opened ++
        { edits := passed declaration.attributes }) := by
  have steps : (elementDecl grouped).steps catalogue declaration =
      .define visited definition placement ::
        ((passed declaration.attributes).map .edit ++ []) := by
    simp [Rule.steps, given, typed, referred, flatMap_elementPair, flatMap_texts plain]
  rw [fill_eq, steps, Filling.gather_cons, gather_edits]
  simp [Filling.append_of_success]

theorem fill_inlining (given : declaration.hasAttr "name" = true)
    (split : declaration.children = before ++ after)
    (plain : ∀ child ∈ declaration.children, child.isText = true)
    (held : elementChild grouped (definition.without "name") =
      [.define visited (definition.without "name") placement]) :
    (elementDecl grouped).fill catalogue opened (declaration.inlining definition before after) =
      .under (declaration.inlining definition before after)
        ({ edits := passed declaration.attributes } ++
          (Step.define visited (definition.without "name") placement).fill catalogue opened) := by
  have front : before.flatMap (elementChild grouped) = [] :=
    flatMap_texts fun child member => plain child (split ▸ List.mem_append_left after member)
  have back : after.flatMap (elementChild grouped) = [] :=
    flatMap_texts fun child member => plain child (split ▸ List.mem_append_right before member)
  have untyped : (declaration.inlining definition before after).attr "type" = none :=
    declaration.attr_without_self "type"
  have bears : (declaration.inlining definition before after).hasAttr "name" = true := by
    rw [Node.hasAttr, Node.inlining_attr_name]
    exact given
  have steps : (elementDecl grouped).steps catalogue
      (declaration.inlining definition before after) =
      (passed declaration.attributes).map .edit ++
        [.define visited (definition.without "name") placement] := by
    simp only [Rule.steps, bears, untyped, flatMap_elementPair]
    simp [Node.inlining, passed_without, front, back, held]
  rw [fill_eq, steps, gather_edits, Filling.gather_cons]
  cases failed : (Step.define visited (definition.without "name") placement).fill
    catalogue opened |>.failure <;> simp [Filling.append_eq, failed]

section Alone

variable (alone : definition.StandsAlone catalogue) (named : definition.attr "name" = some name)
  (closed : name ∉ opened) (enters : Enters grouped visited placement)

include alone named closed enters

theorem define_eq_place :
    (Step.define visited definition placement).fill catalogue opened =
      (visited.fill catalogue opened definition).place placement := by
  have fits : visited.Suits definition := by cases enters <;> trivial
  have same := fill_of_unmet (named ▸ alone.apart) alone.unnamed (name :: opened) visited
    definition (definition.involves_self catalogue) fits opened fun taken other => by simp [other]
  simp [Step.fill, named, closed, same]

theorem define_matches :
    ((Step.define visited definition placement).fill catalogue opened).Matches
      ((Step.define visited (definition.without "name") placement).fill catalogue opened) := by
  have steps : visited.steps catalogue (definition.without "name") =
      visited.steps catalogue definition := by cases enters <;> rfl
  have nameless : (definition.without "name").attr "name" = none :=
    definition.attr_without_self "name"
  rw [define_eq_place alone named closed enters]
  simp only [Step.fill, nameless, fill_eq, steps]
  exact (Filling.matches_under _ _ _).place placement

theorem define_keys_apart {key value : String}
    (made : .extra key value ∈
      ((Step.define visited definition placement).fill catalogue opened).edits) :
    key ∉ ["maxOccurs", "use", "default"] := by
  rw [define_eq_place alone named closed enters] at made
  have gathers := gathers_of_mem_fill opened visited definition (extra_of_mem_place made).2
  cases enters with
  | complex => exact absurd gathers.not_content (by decide)
  | simple =>
    rcases gathers.of_simpleType with rfl | ⟨inner, below, tagged, facet, inside, rfl, -⟩
    · decide
    · have within := Node.mem_preorder_of_mem_children definition.mem_preorder_self below
      exact alone.unmixed inner within tagged facet inside

end Alone

theorem element_readings_alike (grouped : Bool) {text : String}
    (split : declaration.children = before ++ after)
    (plain : ∀ child ∈ declaration.children, child.isText = true)
    (typed : declaration.attr "type" = some text)
    (found : catalogue.resolve text = .defined definition)
    (sort : definition.tag = .complexType ∨ definition.tag = .simpleType)
    (named : definition.attr "name" = some name) (closed : name ∉ opened)
    (alone : definition.StandsAlone catalogue) :
    Filling.Alike ((elementDecl grouped).fill catalogue opened declaration)
      ((elementDecl grouped).fill catalogue opened
        (declaration.inlining definition before after)) := by
  cases given : declaration.hasAttr "name" with
  | false =>
    have bears : (declaration.inlining definition before after).hasAttr "name" = false := by
      rw [Node.hasAttr, Node.inlining_attr_name]
      exact given
    rw [fill_eq, fill_eq]
    simp only [Rule.steps, given, bears]
    exact ⟨rfl, rfl, fun done => by simp [Filling.under, Filling.gather, Step.fill] at done⟩
  | true =>
    obtain ⟨visited, placement, enters, referred, held⟩ := enters_of_tag catalogue grouped sort
    rw [fill_named given plain typed (referred text found), fill_inlining given split plain held]
    refine (define_matches alone named closed enters).alike ?_ ?_ _ _
    · intro edit member
      obtain ⟨pair, _, rfl⟩ := List.mem_map.mp member
      rfl
    · intro key value other made member
      obtain ⟨pair, kept, same⟩ := List.mem_map.mp member
      cases same
      exact define_keys_apart alone named closed enters made
        (by simpa using (List.mem_filter.mp kept).2)

end Reading

end Rule

namespace Session

theorem record_diagnostics (session : Session) (filling : Filling) :
    (session.record filling).1.diagnostics = session.diagnostics ++ filling.notes.map fun note =>
      { path := (session.path ++ note.trail).render, cause := note.cause } := by
  cases failed : filling.failure <;> simp [record, failed]

end Session

theorem Filling.Alike.answers {first second : Filling} (alike : first.Alike second)
    (session : Session) (declaration other : Node) (filled field : Field) :
    Answer.Alike
      (Call.answer (filled.applyAll first.edits) (session.record first).2
        (.element declaration field))
      (Call.answer (filled.applyAll second.edits) (session.record second).2
        (.element other field)) := by
  have ends := alike.failure
  cases done : first.failure with
  | none =>
    have also : second.failure = none := by simpa [done] using ends
    simpa [Call.answer, Session.record, done, also] using .filled (alike.fields done filled)
  | some trail =>
    obtain ⟨way, refused⟩ := Option.isSome_iff_exists.mp (by simpa [done] using ends.symm)
    simpa [Call.answer, Session.record, done, refused] using .failed _ _

theorem Walker.inline_type_read_as_named (walker : Walker) (field : Field)
    (declaration definition : Node) (before after : List Node) (text name : String)
    (split : declaration.children = before ++ after)
    (plain : ∀ child ∈ declaration.children, child.isText = true)
    (typed : declaration.attr "type" = some text)
    (found : walker.session.catalogue.resolve text = .defined definition)
    (sort : definition.tag = .complexType ∨ definition.tag = .simpleType)
    (named : definition.attr "name" = some name) (closed : name ∉ walker.opened)
    (alone : definition.StandsAlone walker.session.catalogue) :
    ∃ (one other : Walker) (answer same : Answer) (noted again : List Diagnostic),
      walker.answer (.element declaration field) = .some (one, answer) ∧
      walker.answer (.element (declaration.inlining definition before after) field) =
        .some (other, same) ∧
      answer.Alike same ∧
      one.session.diagnostics = walker.session.diagnostics ++ noted ∧
      other.session.diagnostics = walker.session.diagnostics ++ again ∧
      noted.map (·.cause) = again.map (·.cause) := by
  have alike := Rule.element_readings_alike field.isGrouped split plain typed found sort named
    closed alone
  refine ⟨_, _, _, _, _, _, walker.answer_eq_recorded _, walker.answer_eq_recorded _, ?_,
    Session.record_diagnostics _ _, Session.record_diagnostics _ _, ?_⟩
  · simp only [Call.field, Node.inlining_declare]
    exact alike.answers walker.session declaration _ (declaration.declare field) field
  · rw [List.map_map, List.map_map]
    exact alike.causes

namespace Nested

def port : Node :=
  { name := "element"
    attributes := [("name", "port"), ("type", "t:Port"), ("maxOccurs", "unbounded")] }

def listenerType : Node :=
  { name := "complexType"
    attributes := [("name", "Listener")]
    children := [
      { name := "sequence", children := [port] },
      { name := "attribute", attributes := [("name", "zone"), ("type", "t:Zone")] }] }

def portType : Node :=
  { name := "simpleType"
    attributes := [("name", "Port")]
    children := [
      { name := "restriction"
        attributes := [("base", "int")]
        children := [{ name := "minInclusive", attributes := [("value", "1")] }] }] }

def types : Catalogue := { definitions := [portType, listenerType] }

def listener : Node :=
  { name := "element"
    attributes := [("name", "listener"), ("type", "t:Listener"), ("maxOccurs", "3")]
    children := [Node.ofText "One for each gateway."] }

def walker : Walker := { session := Session.start types, opened := ["Gateway"] }

theorem mentions_port {node reached : Node} (held : node ∈ types.definitions)
    (mentions : node.Mentions types reached) :
    reached ∈ types.definitions ∧ reached.attr "name" = some "Port" := by
  have known : ∀ node ∈ types.definitions, ∀ inner ∈ node.preorder, ∀ pair ∈ inner.attributes,
      (pair.1 = "type" ∨ pair.1 = "base" ∨ pair.1 = "itemType") →
        ∀ definition ∈ types.get? (Reference.ofText pair.2).target,
          definition.attr "name" = some "Port" := by decide
  obtain ⟨inner, inside, pair, written, key, found⟩ := mentions
  have looked := Catalogue.get?_of_resolve found
  exact ⟨Catalogue.mem_of_get? looked, known node held inner inside pair written key reached looked⟩

theorem reached_port {reached : Node} (path : TransGen (Node.Mentions types) listenerType reached) :
    reached ∈ types.definitions ∧ reached.attr "name" = some "Port" := by
  induction path with
  | single mentions => exact mentions_port (by simp [types]) mentions
  | tail _ mentions ih => exact mentions_port ih.1 mentions

theorem listenerType_standsAlone : listenerType.StandsAlone types where
  apart reached path := by
    rw [(reached_port path).2]
    decide
  unnamed inner involved := by
    have plain : ∀ node ∈ types.definitions, ∀ inner ∈ node.preorder, inner.TypesUnnamed := by
      unfold Node.TypesUnnamed
      decide
    obtain ⟨last, path, inside⟩ := involved
    rcases Relation.reflTransGen_iff_eq_or_transGen.mp path with rfl | path
    · exact plain _ (by simp [types]) inner inside
    · exact plain last (reached_port path).1 inner inside
  unmixed := by decide

theorem listener_read_alike :
    (∀ child ∈ listener.children, child.isText = true) ∧
    listener.attr "type" = some "t:Listener" ∧
    walker.session.catalogue.resolve "t:Listener" = .defined listenerType ∧
    (listenerType.tag = .complexType ∨ listenerType.tag = .simpleType) ∧
    listenerType.attr "name" = some "Listener" ∧ "Listener" ∉ walker.opened ∧
    listenerType.StandsAlone walker.session.catalogue ∧
    ∃ (one other : Walker) (answer same : Answer) (noted again : List Diagnostic),
      walker.answer (.element listener { kind := some .radio }) = .some (one, answer) ∧
      walker.answer (.element (listener.inlining listenerType listener.children [])
        { kind := some .radio }) = .some (other, same) ∧
      answer.Alike same ∧
      one.session.diagnostics = walker.session.diagnostics ++ noted ∧
      other.session.diagnostics = walker.session.diagnostics ++ again ∧
      noted.map (·.cause) = again.map (·.cause) := by
  have plain : ∀ child ∈ listener.children, child.isText = true := by decide
  have found : walker.session.catalogue.resolve "t:Listener" = .defined listenerType := rfl
  exact ⟨plain, rfl, found, .inl rfl, rfl, by decide, listenerType_standsAlone,
    walker.inline_type_read_as_named { kind := some .radio } listener listenerType
      listener.children [] "t:Listener" "Listener" (by simp) plain rfl found (.inl rfl) rfl
      (by decide) listenerType_standsAlone⟩

end Nested

end SchemaForms
