import SchemaForms.Proofs.ExtraPairs
import SchemaForms.Proofs.FieldOrigin

set_option autoImplicit false

namespace SchemaForms

open Relation

namespace Json

inductive KeysDistinct : Json → Prop
  | text (value : String) : KeysDistinct (.text value)
  | array {values : List Json} (inner : ∀ value ∈ values, KeysDistinct value) :
    KeysDistinct (.array values)
  | object {entries : List (String × Json)} (apart : (entries.map (·.1)).Nodup)
    (inner : ∀ entry ∈ entries, KeysDistinct entry.2) : KeysDistinct (.object entries)

theorem keysDistinct_array_iff {values : List Json} :
    KeysDistinct (.array values) ↔ ∀ value ∈ values, value.KeysDistinct := by
  refine ⟨fun distinct => ?_, .array⟩
  cases distinct with
  | array inner => exact inner

theorem keysDistinct_object_iff {entries : List (String × Json)} :
    KeysDistinct (.object entries) ↔
      (entries.map (·.1)).Nodup ∧ ∀ entry ∈ entries, entry.2.KeysDistinct := by
  refine ⟨fun distinct => ?_, fun ⟨apart, inner⟩ => .object apart inner⟩
  cases distinct with
  | object apart inner => exact ⟨apart, inner⟩

theorem hasKey_iff {key : String} {entries : List (String × Json)} :
    hasKey key entries = true ↔ key ∈ entries.map (·.1) := by
  simp [hasKey]

theorem lastOfEachValue_eq_self_iff {values : List Json} :
    lastOfEachValue values = values ↔ ∀ value ∈ values, value.lastOfEach = value := by
  induction values with
  | nil => simp [lastOfEachValue]
  | cons value rest ih => simp [lastOfEachValue, ih]

theorem length_lastOfEachEntry_le (entries : List (String × Json)) :
    (lastOfEachEntry entries).length ≤ entries.length := by
  induction entries with
  | nil => rfl
  | cons entry rest ih =>
    simp only [lastOfEachEntry]
    split
    · exact ih.trans (Nat.le_succ _)
    · exact Nat.succ_le_succ ih

theorem lastOfEachEntry_eq_self_iff {entries : List (String × Json)} :
    lastOfEachEntry entries = entries ↔
      (entries.map (·.1)).Nodup ∧ ∀ entry ∈ entries, entry.2.lastOfEach = entry.2 := by
  induction entries with
  | nil => simp [lastOfEachEntry]
  | cons entry rest ih =>
    obtain ⟨key, value⟩ := entry
    simp only [lastOfEachEntry, hasKey_iff, List.map_cons, List.nodup_cons, List.forall_mem_cons]
    split
    -- Where a key comes again an entry is dropped, so the lengths differ.
    · next again =>
      have shorter := length_lastOfEachEntry_le rest
      refine ⟨fun same => ?_, fun ⟨⟨fresh, _⟩, _⟩ => absurd again fresh⟩
      rw [same] at shorter
      simp at shorter
    · next fresh =>
      simp only [List.cons.injEq, Prod.mk.injEq, true_and, ih]
      exact ⟨fun ⟨own, apart, inner⟩ => ⟨⟨fresh, apart⟩, own, inner⟩,
        fun ⟨⟨_, apart⟩, own, inner⟩ => ⟨own, apart, inner⟩⟩

theorem lastOfEach_eq_self_iff (value : Json) : value.lastOfEach = value ↔ value.KeysDistinct := by
  cases value with
  | text value => exact ⟨fun _ => .text value, fun _ => rfl⟩
  | array values =>
    rw [lastOfEach, array.injEq, lastOfEachValue_eq_self_iff, keysDistinct_array_iff]
    exact forall₂_congr fun value member => lastOfEach_eq_self_iff value
  | object entries =>
    rw [lastOfEach, object.injEq, lastOfEachEntry_eq_self_iff, keysDistinct_object_iff]
    exact and_congr_right fun _ => forall₂_congr fun entry member => lastOfEach_eq_self_iff entry.2
termination_by sizeOf value
decreasing_by
  · have smaller := List.sizeOf_lt_of_mem member
    simp only [array.sizeOf_spec]
    omega
  · have smaller := List.sizeOf_lt_of_mem member
    obtain ⟨key, value⟩ := entry
    simp only [object.sizeOf_spec, Prod.mk.sizeOf_spec] at smaller ⊢
    omega

end Json

namespace Form

def keys : List String :=
  ["name", "type", "required", "minOccurs", "items", "enumeration", "doc", "assert"]

theorem keys_entry_sublist (key : String) (value : Option String) :
    ((entry key value).map (·.1)).Sublist [key] := by
  cases value <;> simp [entry]

theorem keysDistinct_entry {key : String} {value : Option String} :
    ∀ pair ∈ entry key value, pair.2.KeysDistinct := by
  intro pair member
  obtain ⟨text, _, rfl⟩ := List.mem_map.mp member
  exact .text text

theorem keysDistinct_texts (values : List String) : (texts values).KeysDistinct := by
  refine .array fun value member => ?_
  obtain ⟨text, _, rfl⟩ := List.mem_map.mp member
  exact .text text

theorem keysDistinct_assertion (given : Assertion) : (assertion given).KeysDistinct := by
  refine .object ?_ fun pair member => ?_
  · have own := (keys_entry_sublist "message" given.message).append
      (keys_entry_sublist "formula" given.formula)
    rw [List.map_append]
    exact own.nodup (by decide)
  · exact (List.mem_append.mp member).elim (keysDistinct_entry pair) (keysDistinct_entry pair)

theorem keysDistinct_heading (name : Option String) (kind : Option Kind)
    (required : Option Requiredness) (minOccurs : Option String) :
    ∀ entry ∈ heading name kind required minOccurs, entry.2.KeysDistinct := by
  simp only [heading, List.forall_mem_append]
  exact ⟨⟨⟨keysDistinct_entry, keysDistinct_entry⟩, keysDistinct_entry⟩, keysDistinct_entry⟩

theorem keysDistinct_details (enumeration : Option (List String)) (doc : Option String)
    (assertions : List Assertion) :
    ∀ entry ∈ details enumeration doc assertions [], entry.2.KeysDistinct := by
  simp only [details, List.forall_mem_append]
  refine ⟨⟨⟨?_, keysDistinct_entry⟩, ?_⟩, by simp⟩
  · intro entry member
    obtain ⟨values, _, rfl⟩ := List.mem_map.mp member
    exact keysDistinct_texts values
  · split
    · simp
    · refine List.forall_mem_singleton.mpr (.array fun value member => ?_)
      obtain ⟨given, _, rfl⟩ := List.mem_map.mp member
      exact keysDistinct_assertion given

end Form

namespace Field

def ownEntries (field : Field) : List (String × Json) :=
  Form.heading field.name field.kind field.required field.minOccurs ++
    field.items.toList.map (fun items => ("items", .array (forms items))) ++
    Form.details field.enumeration field.doc field.assertions []

def ownKeys (field : Field) : List String := field.ownEntries.map (·.1)

theorem forms_eq_map (items : List Field) : forms items = items.map form := by
  induction items with
  | nil => rfl
  | cons item rest ih => rw [forms, ih, List.map_cons]

theorem form_eq (field : Field) :
    field.form =
      .object (field.ownEntries ++ field.extra.map fun pair => (pair.1, .text pair.2)) := by
  obtain ⟨name, kind, required, minOccurs, items, enumeration, doc, assertions, extra⟩ := field
  cases items <;> simp [form, ownEntries, Form.details]

theorem ownKeys_sublist (field : Field) : field.ownKeys.Sublist Form.keys := by
  have heading := (((Form.keys_entry_sublist "name" field.name).append
    (Form.keys_entry_sublist "type" (field.kind.map Kind.text))).append
      (Form.keys_entry_sublist "required" (field.required.map Requiredness.text))).append
        (Form.keys_entry_sublist "minOccurs" field.minOccurs)
  have items : ((field.items.toList.map fun items => ("items", Json.array (forms items))).map
      (·.1)).Sublist ["items"] := by
    cases field.items <;> simp
  have enumeration : ((field.enumeration.toList.map fun values =>
      ("enumeration", Form.texts values)).map (·.1)).Sublist ["enumeration"] := by
    cases field.enumeration <;> simp
  have assertions : (List.map (·.1) (if field.assertions.isEmpty then [] else
      [("assert", Json.array (field.assertions.map Form.assertion))])).Sublist ["assert"] := by
    split <;> simp
  have whole := (heading.append items).append
    ((enumeration.append (Form.keys_entry_sublist "doc" field.doc)).append assertions)
  simpa [ownKeys, ownEntries, Form.heading, Form.details, Form.keys] using whole

theorem ownKeys_nodup (field : Field) : field.ownKeys.Nodup :=
  field.ownKeys_sublist.nodup (by decide)

theorem keysDistinct_ownEntries_iff (field : Field) :
    (∀ entry ∈ field.ownEntries, entry.2.KeysDistinct) ↔
      ∀ item, field.Holds item → item.form.KeysDistinct := by
  have heading := Form.keysDistinct_heading field.name field.kind field.required field.minOccurs
  have details := Form.keysDistinct_details field.enumeration field.doc field.assertions
  have items : (∀ entry ∈ field.items.toList.map fun items => ("items", Json.array (forms items)),
        entry.2.KeysDistinct) ↔ ∀ item, field.Holds item → item.form.KeysDistinct := by
    cases given : field.items <;>
      simp [Json.keysDistinct_array_iff, forms_eq_map, Holds, members, given]
  rw [ownEntries, List.forall_mem_append, List.forall_mem_append, and_iff_right heading,
    and_iff_left details, items]

theorem keysDistinct_form_iff (field : Field) :
    field.form.KeysDistinct ↔
      (field.ownKeys ++ field.extra.keys).Nodup ∧
        ∀ item, field.Holds item → item.form.KeysDistinct := by
  have pairs : ∀ entry ∈ field.extra.map fun pair => (pair.1, Json.text pair.2),
      entry.2.KeysDistinct := by
    intro entry member
    obtain ⟨pair, _, rfl⟩ := List.mem_map.mp member
    exact .text pair.2
  have keys : (field.ownEntries ++ field.extra.map fun pair => (pair.1, Json.text pair.2)).map
      (·.1) = field.ownKeys ++ field.extra.keys := by
    simp [ownKeys, Pairs.keys]
  rw [form_eq, Json.keysDistinct_object_iff, keys, List.forall_mem_append,
    keysDistinct_ownEntries_iff]
  exact and_congr_right fun _ => and_iff_left pairs

theorem sizeOf_lt_of_holds {field item : Field} (holds : field.Holds item) :
    sizeOf item < sizeOf field := by
  obtain ⟨name, kind, required, minOccurs, items, enumeration, doc, assertions, extra⟩ := field
  cases items with
  | none => simp [Holds, members] at holds
  | some items =>
    have smaller := List.sizeOf_lt_of_mem (show item ∈ items from holds)
    simp only [Field.mk.sizeOf_spec, Option.some.sizeOf_spec]
    omega

theorem keysDistinct_iff_of_tree (field : Field) :
    field.form.KeysDistinct ↔ ∀ inner, ReflTransGen Holds field inner →
      (inner.ownKeys ++ inner.extra.keys).Nodup := by
  rw [keysDistinct_form_iff]
  have below (item : Field) (holds : field.Holds item) := keysDistinct_iff_of_tree item
  constructor
  · rintro ⟨apart, items⟩ inner inside
    rcases ReflTransGen.cases_head inside with rfl | ⟨item, holds, inside⟩
    · exact apart
    · exact (below item holds).mp (items item holds) inner inside
  · intro apart
    refine ⟨apart field .refl, fun item holds => (below item holds).mpr fun inner inside => ?_⟩
    exact apart inner (.head holds inside)
termination_by sizeOf field
decreasing_by exact sizeOf_lt_of_holds holds

end Field

/-- An attribute declaration of the document has this pair among its attributes, or a restriction
has a facet of this name and value. -/
def Document.Copies (document : Document) (key value : String) : Prop :=
  ∃ node ∈ document.root.preorder,
    (node.tag = .attribute ∧ Rule.attributeDecl.Sets node key value) ∨
      (node.tag = .restriction ∧ Rule.restriction.Sets node key value)

structure Field.Carries (document : Document) (field : Field) : Prop where
  apart : field.extra.keys.Nodup
  copied : ∀ pair ∈ field.extra, pair.1 ∈ Form.keys → document.Copies pair.1 pair.2

section Origin

variable {document : Document} {rule : Rule} {node : Node} {key value : String}

theorem Rule.Gathers.copied (gathers : rule.Gathers (.ofDocument document) node key value)
    (inside : node ∈ document.nodes) (suits : rule.Suits node) (settled : key ∈ Form.keys) :
    document.Copies key value := by
  have closes := document.closes_nodes
  induction gathers with
  | @own rule node key value sets =>
    cases rule with
    | elementDecl =>
      have apart : ∀ kept ∈ ["maxOccurs", "use", "default"], kept ∉ Form.keys := by decide
      exact absurd settled (apart key sets.1)
    | attributeDecl => exact ⟨node, inside, .inl ⟨suits, sets⟩⟩
    | list =>
      have kept : key = "sub-type" := sets.1
      simp [kept, Form.keys] at settled
    | restriction => exact ⟨node, inside, .inr ⟨suits, sets⟩⟩
    | group | complexType | simpleType | simpleContent | extension | complexContent =>
      exact sets.elim
  | @visit rule visited node child placement key value member keeps inner ih =>
    have origin := from_steps rule _ member
    exact ih (closes.child node inside child origin.1) origin.2.1 settled
  | @define rule visited node definition placement key value member keeps inner ih =>
    have origin := from_steps rule _ member
    exact ih (closes.opened inside origin.1) (suits_of_type origin.2) settled

theorem Field.carries_applyAll {start : Field} (opened : List String) (rule : Rule)
    (marked : start.extra.keys.Sublist [xmlRoleKey]) (inside : node ∈ document.nodes)
    (suits : rule.Suits node) :
    (start.applyAll (rule.fill (.ofDocument document) opened node).edits).Carries document where
  apart := by
    rw [extra_applyAll]
    exact Pairs.keys_setAll_nodup _ (marked.nodup (List.nodup_singleton _))
  copied pair member settled := by
    rw [extra_applyAll] at member
    rcases Pairs.mem_setAll member with first | later
    · have mark := List.mem_singleton.mp (marked.subset (List.mem_map_of_mem first))
      rw [mark] at settled
      exact absurd settled (by decide)
    · have made := Edit.mem_pairs.mp later
      exact (Rule.gathers_of_mem_fill opened rule node made).copied inside suits settled

theorem Field.Made.carries {field : Field}
    (made : field.Made (.ofDocument document) document.nodes) : field.Carries document := by
  cases made with
  | native type =>
    refine ⟨List.nodup_singleton _, fun pair member settled => ?_⟩
    cases List.mem_singleton.mp member
    exact absurd settled (by decide)
  | value simple inside suits done => exact carries_applyAll _ _ (.refl _) inside suits
  | attr inside tagged done =>
    exact carries_applyAll _ .attributeDecl (.refl _) inside tagged
  | @member opened sort group child inside tagged done below named =>
    have insideChild := document.closes_nodes.child group inside child (List.mem_filter.mp below).1
    exact carries_applyAll _ (.elementDecl _) (by simp [Pairs.keys]) insideChild named

end Origin

namespace Document

variable {document : Document} {compilation : Compilation} {field : Field}

theorem carries_of_compile (compiled : document.compile = .ok compilation)
    (inside : ReflTransGen Field.Holds compilation.field field) : field.Carries document := by
  rcases reflTransGen_iff_eq_or_transGen.mp inside with rfl | below
  · obtain ⟨element, found, _, filled⟩ := field_of_compile compiled
    rw [filled]
    exact Field.carries_applyAll _ (.elementDecl false) (by simp [Pairs.keys])
      (mem_preorder_of_rootElement found) (nameContains_of_rootElement found)
  · exact (made_of_compile compiled below).carries

theorem keysDistinct_iff_of_compile (compiled : document.compile = .ok compilation) :
    compilation.field.form.KeysDistinct ↔
      ∀ field, ReflTransGen Field.Holds compilation.field field →
        ∀ key ∈ field.extra.keys, key ∉ field.ownKeys := by
  rw [Field.keysDistinct_iff_of_tree]
  refine forall₂_congr fun field inside => ?_
  have pairs := (carries_of_compile compiled inside).apart
  rw [List.nodup_append', and_iff_right field.ownKeys_nodup, and_iff_right pairs,
    List.disjoint_right]

theorem keys_repeat_only_in_copies (document : Document) (compilation : Compilation)
    (compiled : document.compile = .ok compilation) :
    (compilation.field.form.lastOfEach = compilation.field.form ↔
      compilation.field.form.KeysDistinct) ∧
    (compilation.field.form.KeysDistinct ↔
      ∀ field, ReflTransGen Field.Holds compilation.field field →
        ∀ key ∈ field.extra.keys, key ∉ field.ownKeys) ∧
    (∀ field, ReflTransGen Field.Holds compilation.field field →
      field.ownKeys.Nodup ∧ field.extra.keys.Nodup ∧
        ∀ pair ∈ field.extra, pair.1 ∈ Form.keys → document.Copies pair.1 pair.2) ∧
    ((∀ key ∈ Form.keys, ∀ value, ¬ document.Copies key value) →
      compilation.field.form.KeysDistinct ∧
        compilation.field.form.lastOfEach = compilation.field.form) := by
  have distinct := keysDistinct_iff_of_compile compiled
  have carries (field : Field) (inside : ReflTransGen Field.Holds compilation.field field) :=
    carries_of_compile compiled inside
  refine ⟨Json.lastOfEach_eq_self_iff _, distinct, fun field inside =>
    ⟨field.ownKeys_nodup, (carries field inside).apart, (carries field inside).copied⟩,
    fun free => ?_⟩
  have apart : compilation.field.form.KeysDistinct := by
    refine distinct.mpr fun field inside key member own => ?_
    obtain ⟨pair, held, rfl⟩ := List.mem_map.mp member
    have settled := field.ownKeys_sublist.subset own
    exact free pair.1 settled pair.2 ((carries field inside).copied pair held settled)
  exact ⟨apart, (Json.lastOfEach_eq_self_iff _).mpr apart⟩

end Document

theorem Listener.keys_never_repeat :
    document.compile = .ok compilation ∧ (∀ key ∈ Form.keys, ∀ value, ¬ document.Copies key value) ∧
      compilation.field.form.KeysDistinct ∧
      compilation.field.form.lastOfEach = compilation.field.form := by
  have free : ∀ key ∈ Form.keys, ∀ value, ¬ document.Copies key value := by
    have attributes : ∀ node ∈ document.root.preorder, node.tag = .attribute →
        ∀ pair ∈ node.attributes, pair.1 ∉ ["name", "use", "type"] → pair.1 ∉ Form.keys := by
      decide
    have facets : ∀ node ∈ document.root.preorder, node.tag = .restriction →
        ∀ facet ∈ node.children, facet.tag ∉ [.text, .remark, .enumeration] →
          facet.name ∉ Form.keys := by
      decide
    rintro key settled value ⟨node, inside, ⟨tagged, other, pair⟩ | ⟨tagged, facet, below, same⟩⟩
    · exact attributes node inside tagged _ pair other settled
    · obtain ⟨rfl, _, plain⟩ := same
      exact facets node inside tagged facet below plain settled
  exact ⟨document_compile, free,
    (document.keys_repeat_only_in_copies compilation document_compile).2.2.2 free⟩

namespace Panel

def zone : Node :=
  { name := "attribute"
    attributes := [("name", "zone"), ("use", "optional"), ("required", "yes")] }

def types : Catalogue := { definitions := [zone] }

def content : Node := { name := "complexType", children := [zone] }

def element : Node :=
  { name := "element", attributes := [("name", "panel")], children := [content] }

def document : Document := ⟨{ name := "schema", children := [element] }⟩

def zoneField : Field :=
  { name := some "zone", required := some (.use "optional")
    extra := [(Field.xmlRoleKey, "attribute"), ("required", "yes")] }

def compilation : Compilation :=
  { field := { name := some "panel", items := some [zoneField] }
    targetNamespace := none
    diagnostics := [] }

theorem document_compile : document.compile = .ok compilation := by
  have readZone : Rule.attributeDecl.fill types [] zone =
      { edits := [.extra "required" "yes"] } := by
    rw [Rule.fill_eq]
    rfl
  have readContent : Rule.complexType.fill types [] content =
      { edits := [.items [zoneField]] } := by
    rw [Rule.fill_eq, show Rule.complexType.steps types content =
      [.visit .attributeDecl zone (.item zone.attributeField)] from rfl]
    simp only [Filling.gather_cons, Step.fill, readZone]
    rfl
  have readElement : (Rule.elementDecl false).fill types [] element =
      { edits := [.items [], .items [zoneField]] } := by
    rw [Rule.fill_eq, show (Rule.elementDecl false).steps types element =
      [.define .complexType content .listed] from rfl]
    simp only [Filling.gather_cons, Step.fill, show content.attr "name" = none from rfl,
      readContent]
    rfl
  have known : Catalogue.ofDocument document = types := by
    rw [Catalogue.ofDocument, Node.descendants_eq_preorder]
    rfl
  have found : document.rootElement = .ok element := rfl
  rw [Document.compile_eq_outcome_fill found, known, readElement]
  rfl

theorem required_repeated :
    document.compile = .ok compilation ∧ ReflTransGen Field.Holds compilation.field zoneField ∧
      zoneField.form = .object [("name", .text "zone"), ("required", .text "optional"),
        ("xsd-type", .text "attribute"), ("required", .text "yes")] ∧
      zoneField.form.lastOfEach = .object [("name", .text "zone"), ("xsd-type", .text "attribute"),
        ("required", .text "yes")] ∧
      ¬ compilation.field.form.KeysDistinct ∧
      compilation.field.form.lastOfEach ≠ compilation.field.form := by
  have holds : compilation.field.Holds zoneField := List.mem_singleton_self zoneField
  have repeated : ¬ compilation.field.form.KeysDistinct := fun distinct =>
    (Document.keysDistinct_iff_of_compile document_compile).mp distinct zoneField (.single holds)
      "required" (by decide) (by decide)
  exact ⟨document_compile, .single holds, rfl, rfl, repeated,
    fun same => repeated ((Json.lastOfEach_eq_self_iff _).mp same)⟩

end Panel

end SchemaForms
