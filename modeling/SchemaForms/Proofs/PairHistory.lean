import Mathlib.Data.List.Induction
import SchemaForms.Proofs.ExtraPairs

set_option autoImplicit false

namespace SchemaForms

namespace Pairs

def EndsWith (pairs : Pairs) (key value : String) : Prop :=
  ∃ before after, pairs = before ++ (key, value) :: after ∧ ∀ pair ∈ after, pair.1 ≠ key

theorem eraseDups_of_nodup {keys : List String} (distinct : keys.Nodup) :
    keys.eraseDups = keys := by
  induction keys with
  | nil => rfl
  | cons key rest ih =>
    obtain ⟨free, distinct⟩ := List.nodup_cons.mp distinct
    have kept : rest.filter (fun other => !other == key) = rest :=
      List.filter_eq_self.mpr fun other member => by
        simp only [Bool.not_eq_true', beq_eq_false_iff_ne, ne_eq]
        rintro rfl
        exact free member
    rw [List.eraseDups_cons, kept, ih distinct]

theorem eraseDups_concat (keys : List String) (key : String) :
    (keys ++ [key]).eraseDups =
      if key ∈ keys then keys.eraseDups else keys.eraseDups ++ [key] := by
  by_cases known : key ∈ keys <;>
    simp [List.eraseDups_append, List.cons_removeAll, List.eraseDups_cons, known]

theorem keys_setAll {held : Pairs} (distinct : held.keys.Nodup) (added : Pairs) :
    (held.setAll added).keys = (held ++ added).keys.eraseDups := by
  induction added using List.reverseRecOn with
  | nil =>
    rw [List.append_nil, eraseDups_of_nodup distinct]
    rfl
  | append_singleton added pair ih =>
    have last : (held.setAll (added ++ [pair])).keys =
        ((held.setAll added).set pair.1 pair.2).keys := by
      rw [setAll, List.foldl_append]
      rfl
    have listed : keys (held ++ (added ++ [pair])) = keys (held ++ added) ++ [pair.1] := by
      simp [keys]
    rw [last, keys_set, ih, listed, eraseDups_concat]
    simp only [List.mem_eraseDups]

theorem last?_eq_some_iff (pairs : Pairs) (key value : String) :
    pairs.last? key = some value ↔ pairs.EndsWith key value := by
  rw [last?, first?_eq_some_iff_append]
  constructor
  · rintro ⟨after, before, split, free⟩
    refine ⟨before.reverse, after.reverse, ?_, ?_⟩
    · rw [← List.reverse_inj, split]
      simp
    · simpa using free
  · rintro ⟨before, after, rfl, free⟩
    exact ⟨after.reverse, before.reverse, by simp, by simpa using free⟩

theorem first?_eq_none_iff (pairs : Pairs) (key : String) :
    pairs.first? key = none ↔ key ∉ pairs.keys := by
  simp only [first?, Option.map_eq_none_iff, List.find?_eq_none, decide_eq_true_eq, keys,
    List.mem_map, not_exists, not_and]

theorem last?_of_nodup {pairs : Pairs} (distinct : pairs.keys.Nodup) (key : String) :
    pairs.last? key = pairs.first? key :=
  (first?_perm (List.reverse_perm pairs).symm distinct key).symm

end Pairs

namespace Field

inductive Origin
  | plain
  | named (name : String)
  | textValue
  | attributeValue

def Origin.field : Origin → Field
  | .plain => {}
  | .named name => .named name
  | .textValue => .textValue
  | .attributeValue => .attributeValue

/-- What can be done to a field: an edit, or new values for all the parts that can be had as such,
which the extra pairs cannot. -/
inductive Operation
  | edit (change : Edit)
  | assign (values : Field)

def Operation.pair? : Operation → Option (String × String)
  | .edit change => change.pair?
  | .assign _ => none

def perform (field : Field) : Operation → Field
  | .edit change => field.apply change
  | .assign values => { values with extra := field.extra }

def performAll (field : Field) (operations : List Operation) : Field :=
  operations.foldl perform field

theorem extra_perform (field : Field) (operation : Operation) :
    (field.perform operation).extra = field.extra.setAll operation.pair?.toList := by
  cases operation with
  | edit change => cases change <;> rfl
  | assign values => rfl

theorem extra_performAll (field : Field) (operations : List Operation) :
    (field.performAll operations).extra =
      field.extra.setAll (operations.filterMap Operation.pair?) := by
  induction operations generalizing field with
  | nil => rfl
  | cons operation rest ih =>
    have later : ((field.perform operation).performAll rest).extra = _ := ih _
    rw [extra_perform] at later
    cases set : operation.pair? <;> simpa [performAll, set, Pairs.setAll] using later

theorem perform_with_extra (field : Field) (operation : Operation) (extra : Pairs) :
    { field.perform operation with extra } =
      if operation.pair?.isNone then { field with extra }.perform operation
      else { field with extra } := by
  cases operation with
  | edit change => cases change <;> rfl
  | assign values => rfl

theorem performAll_with_extra (field : Field) (operations : List Operation) (extra : Pairs) :
    { field.performAll operations with extra } =
      { field with extra }.performAll
        (operations.filter fun operation => operation.pair?.isNone) := by
  induction operations generalizing field with
  | nil => rfl
  | cons operation rest ih =>
    have later : { (field.perform operation).performAll rest with extra } = _ := ih _
    rw [perform_with_extra] at later
    cases set : operation.pair? <;> simpa [performAll, set] using later

theorem Origin.distinct (origin : Origin) : origin.field.extra.keys.Nodup := by
  cases origin with
  | plain | named => exact List.nodup_nil
  | textValue | attributeValue => exact List.nodup_singleton _

theorem extra_pairs_in_first_order (origin : Origin) (operations : List Operation) :
    let field := origin.field.performAll operations
    let set := origin.field.extra ++ operations.filterMap Operation.pair?
    field.extra.keys = set.keys.eraseDups ∧ field.extra.keys.Nodup ∧
    (∀ key value, (key, value) ∈ field.extra ↔ set.EndsWith key value) ∧
    (∀ key value, field.extra.first? key = some value ↔ set.EndsWith key value) ∧
    (∀ key, field.extra.first? key = none ↔ key ∉ set.keys) ∧
    ∀ extra, { field with extra } =
      { origin.field with extra }.performAll
        (operations.filter fun operation => operation.pair?.isNone) := by
  intro field set
  have pairs : field.extra = _ := extra_performAll _ _
  have distinct : field.extra.keys.Nodup := by
    rw [pairs]
    exact Pairs.keys_setAll_nodup _ origin.distinct
  have keys : field.extra.keys = set.keys.eraseDups := by
    rw [pairs]
    exact Pairs.keys_setAll origin.distinct _
  have values (key value : String) :
      field.extra.first? key = some value ↔ set.EndsWith key value := by
    rw [← Pairs.last?_eq_some_iff, Pairs.last?_append, Pairs.last?_of_nodup origin.distinct, pairs,
      Pairs.first?_setAll]
  refine ⟨keys, distinct, fun key value => ?_, values, fun key => ?_,
    performAll_with_extra _ _⟩
  · rw [← Pairs.first?_eq_some_iff distinct, values]
  · rw [Pairs.first?_eq_none_iff, keys, List.mem_eraseDups]

example :
    (Origin.attributeValue.field.performAll
      [.edit (.extra "use" "x"), .assign {}, .edit (.extra "xsd-type" "text")]).extra =
        [("xsd-type", "text"), ("use", "x")] := by
  decide

end Field

end SchemaForms
