import SchemaForms.Field

set_option autoImplicit false

namespace SchemaForms

inductive Edit
  -- Appends items; also the empty list makes the field have items.
  | items (fields : List Field)
  | kind (kind : Kind)
  | enumeration (value : String)
  | doc (text : String)
  | assertion (assertion : Assertion)
  | extra (key value : String)

namespace Field

def apply (field : Field) : Edit → Field
  | .items fields => { field with items := some (field.members ++ fields) }
  | .kind kind => { field with kind := some kind }
  | .enumeration value =>
    { field with enumeration := some (field.enumeration.getD [] ++ [value]) }
  | .doc text => { field with doc := some (field.doc.getD "" ++ text) }
  | .assertion assertion => { field with assertions := field.assertions ++ [assertion] }
  | .extra key value => { field with extra := field.extra.set key value }

def applyAll (field : Field) (edits : List Edit) : Field := edits.foldl apply field

@[simp]
theorem applyAll_nil (field : Field) : field.applyAll [] = field := rfl

@[simp]
theorem applyAll_cons (field : Field) (edit : Edit) (rest : List Edit) :
    field.applyAll (edit :: rest) = (field.apply edit).applyAll rest := rfl

@[simp]
theorem applyAll_append (field : Field) (first rest : List Edit) :
    field.applyAll (first ++ rest) = (field.applyAll first).applyAll rest :=
  List.foldl_append

@[simp]
theorem applyAll_name (field : Field) (edits : List Edit) :
    (field.applyAll edits).name = field.name := by
  induction edits generalizing field with
  | nil => rfl
  | cons edit rest ih =>
    rw [applyAll_cons, ih]
    cases edit <;> rfl

@[simp]
theorem applyAll_required (field : Field) (edits : List Edit) :
    (field.applyAll edits).required = field.required := by
  induction edits generalizing field with
  | nil => rfl
  | cons edit rest ih =>
    rw [applyAll_cons, ih]
    cases edit <;> rfl

@[simp]
theorem applyAll_minOccurs (field : Field) (edits : List Edit) :
    (field.applyAll edits).minOccurs = field.minOccurs := by
  induction edits generalizing field with
  | nil => rfl
  | cons edit rest ih =>
    rw [applyAll_cons, ih]
    cases edit <;> rfl

end Field

def Edit.fields : Edit → List Field
  | .items fields => fields
  | .kind _ | .enumeration _ | .doc _ | .assertion _ | .extra _ _ => []

theorem Field.members_applyAll (field : Field) (edits : List Edit) :
    (field.applyAll edits).members = field.members ++ edits.flatMap Edit.fields := by
  induction edits generalizing field with
  | nil => simp
  | cons edit rest ih =>
    rw [applyAll_cons, ih, List.flatMap_cons, ← List.append_assoc]
    congr 1
    cases edit <;> simp [apply, members, Edit.fields]

end SchemaForms
