import SchemaForms.Field
import SchemaForms.Node

set_option autoImplicit false

namespace SchemaForms

inductive Group
  | all
  | sequence
  | choice
deriving DecidableEq, Repr

namespace Group

def requiredness : Group → Requiredness
  | .all | .choice => .required
  | .sequence => .optional

def minOccurs : Group → Option String
  | .all => some "1"
  | .sequence | .choice => none

/-- The kind that a group gives to a member, whatever the member's own type. -/
def kind : Group → Node → Option Kind
  | .all, _ => none
  | .sequence, member =>
    match member.attr "maxOccurs" with
    | some "1" | none => none
    | some _ => some .list
  | .choice, _ => some .radio

def blank (group : Group) (member : Node) : Field :=
  match member.attr "minOccurs" with
  | some least =>
    { kind := group.kind member
      required := some (Requiredness.ofMinOccurs least)
      minOccurs := some least }
  | none =>
    { kind := group.kind member
      required := some group.requiredness
      minOccurs := group.minOccurs }

section Blank

variable (group : Group) (member : Node)

@[simp]
theorem blank_kind : (group.blank member).kind = group.kind member := by
  unfold blank
  split <;> rfl

@[simp]
theorem blank_items : (group.blank member).items = none := by
  unfold blank
  split <;> rfl

@[simp]
theorem blank_enumeration : (group.blank member).enumeration = none := by
  unfold blank
  split <;> rfl

@[simp]
theorem blank_extra : (group.blank member).extra = [] := by
  unfold blank
  split <;> rfl

end Blank

end Group

end SchemaForms
