import SchemaForms.Document
import SchemaForms.NativeType
import SchemaForms.Node.Traversal

set_option autoImplicit false

namespace SchemaForms

structure Reference where
  qualifier : Option String
  target : String
deriving DecidableEq, Repr

def Reference.ofText (text : String) : Reference :=
  let (qualifier, target) := splitQualified text
  { qualifier, target }

inductive Resolution
  | native (type : NativeType)
  | defined (definition : Node)
  | undefined

structure Catalogue where
  definitions : List Node
  named : ∀ definition ∈ definitions, (definition.attr "name").isSome = true := by decide
  distinct : (definitions.filterMap fun definition => definition.attr "name").Nodup := by decide

namespace Catalogue

def get? (catalogue : Catalogue) (name : String) : Option Node :=
  catalogue.definitions.find? fun definition => definition.attr "name" = some name

def names (catalogue : Catalogue) : List String :=
  catalogue.definitions.filterMap fun definition => definition.attr "name"

def size (catalogue : Catalogue) : Nat := catalogue.definitions.length

def isEmpty (catalogue : Catalogue) : Bool := catalogue.definitions.isEmpty

theorem mem_names_iff (catalogue : Catalogue) (name : String) :
    name ∈ catalogue.names ↔ (catalogue.get? name).isSome = true := by
  simp [names, get?]

def adds (catalogue : Catalogue) (node : Node) : Bool :=
  (node.attr "name").any fun name => (catalogue.get? name).isNone

theorem adds_eq_true_iff {catalogue : Catalogue} {node : Node} :
    catalogue.adds node = true ↔
      ∃ name, node.attr "name" = some name ∧ catalogue.get? name = none := by
  cases own : node.attr "name" <;> simp [adds, own]

-- The first definition of a name counts, so a later one is left out.
def add (catalogue : Catalogue) (node : Node) : Catalogue :=
  if fresh : catalogue.adds node = true then
    { definitions := catalogue.definitions ++ [node]
      named := by
        obtain ⟨name, own, _⟩ := adds_eq_true_iff.mp fresh
        exact List.forall_mem_append.mpr ⟨catalogue.named, by simp [own]⟩
      distinct := by
        obtain ⟨name, own, free⟩ := adds_eq_true_iff.mp fresh
        have absent : name ∉ catalogue.names := by simp [mem_names_iff, free]
        have last : [node].filterMap (fun definition => definition.attr "name") = [name] := by
          simp [own]
        rw [List.filterMap_append, last]
        refine List.nodup_append.mpr ⟨catalogue.distinct, by simp, ?_⟩
        intro held member other here same
        exact absent (List.mem_singleton.mp here ▸ same ▸ member) }
  else catalogue

def empty : Catalogue := { definitions := [] }

def ofNodes (nodes : List Node) : Catalogue :=
  (nodes.filter fun node => !node.nameContains "element").foldl add empty

def ofDocument (document : Document) : Catalogue := ofNodes document.root.descendants

def lookup (catalogue : Catalogue) (target : String) : Resolution :=
  match NativeType.ofName? target with
  | some type => .native type
  | none =>
    match catalogue.get? target with
    | some definition => .defined definition
    | none => .undefined

def resolve (catalogue : Catalogue) (text : String) : Resolution :=
  catalogue.lookup (Reference.ofText text).target

/-- How many of the catalogue's names are not among `opened`. -/
def unopened (catalogue : Catalogue) (opened : List String) : Nat :=
  catalogue.names.countP fun name => name ∉ opened

theorem attr_of_get? {catalogue : Catalogue} {name : String} {definition : Node}
    (found : catalogue.get? name = some definition) : definition.attr "name" = some name := by
  simpa using List.find?_some found

theorem mem_of_get? {catalogue : Catalogue} {name : String} {definition : Node}
    (found : catalogue.get? name = some definition) : definition ∈ catalogue.definitions :=
  List.mem_of_find?_eq_some found

theorem get?_of_resolve {catalogue : Catalogue} {text : String} {definition : Node}
    (found : catalogue.resolve text = .defined definition) :
    catalogue.get? (Reference.ofText text).target = some definition := by
  unfold resolve lookup at found
  split at found
  · contradiction
  · split at found
    · next hit => cases found; exact hit
    · contradiction

theorem mem_names_of_resolve {catalogue : Catalogue} {text name : String} {definition : Node}
    (found : catalogue.resolve text = .defined definition)
    (named : definition.attr "name" = some name) : name ∈ catalogue.names :=
  List.mem_filterMap.mpr ⟨definition, mem_of_get? (get?_of_resolve found), named⟩

theorem attr_isSome_of_resolve {catalogue : Catalogue} {text : String} {definition : Node}
    (found : catalogue.resolve text = .defined definition) :
    (definition.attr "name").isSome := by
  rw [attr_of_get? (get?_of_resolve found)]
  rfl

theorem unopened_cons_le (catalogue : Catalogue) (opened : List String) (name : String) :
    catalogue.unopened (name :: opened) ≤ catalogue.unopened opened := by
  apply List.countP_mono_left
  intro other _ closed
  simp only [List.mem_cons, not_or, decide_eq_true_eq] at closed ⊢
  exact closed.2

theorem countP_not_mem_cons_lt {names opened : List String} {name : String}
    (member : name ∈ names) (closed : name ∉ opened) :
    (names.countP fun other => other ∉ name :: opened) <
      names.countP fun other => other ∉ opened := by
  induction names with
  | nil => contradiction
  | cons head rest ih =>
    have shorter : (rest.countP fun other => other ∉ name :: opened) ≤
        rest.countP fun other => other ∉ opened := by
      apply List.countP_mono_left
      intro other _ outside
      simp only [List.mem_cons, not_or, decide_eq_true_eq] at outside ⊢
      exact outside.2
    rw [List.countP_cons, List.countP_cons]
    by_cases same : head = name
    · subst same
      have taken : decide (head ∉ head :: opened) = false := by simp
      have free : decide (head ∉ opened) = true := by simp [closed]
      rw [taken, free]
      exact Nat.lt_succ_of_le shorter
    · have more := ih ((List.mem_cons.mp member).resolve_left (Ne.symm same))
      have alike : (decide (head ∉ name :: opened)) = decide (head ∉ opened) := by
        simp [same]
      rw [alike]
      exact Nat.add_lt_add_right more _

theorem unopened_cons_lt {catalogue : Catalogue} {opened : List String} {name : String}
    (member : name ∈ catalogue.names) (closed : name ∉ opened) :
    catalogue.unopened (name :: opened) < catalogue.unopened opened :=
  countP_not_mem_cons_lt member closed

end Catalogue

end SchemaForms
