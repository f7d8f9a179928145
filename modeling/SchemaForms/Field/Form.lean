import SchemaForms.Field
import SchemaForms.Json.Text

set_option autoImplicit false

namespace SchemaForms

namespace Form

def entry (key : String) (value : Option String) : List (String × Json) :=
  value.toList.map fun text => (key, .text text)

def texts (values : List String) : Json := .array (values.map .text)

def assertion (assertion : Assertion) : Json :=
  .object (entry "message" assertion.message ++ entry "formula" assertion.formula)

def heading (name : Option String) (kind : Option Kind) (required : Option Requiredness)
    (minOccurs : Option String) : List (String × Json) :=
  entry "name" name ++ entry "type" (kind.map Kind.text) ++
    entry "required" (required.map Requiredness.text) ++ entry "minOccurs" minOccurs

def details (enumeration : Option (List String)) (doc : Option String)
    (assertions : List Assertion) (extra : Pairs) : List (String × Json) :=
  enumeration.toList.map (fun values => ("enumeration", texts values)) ++ entry "doc" doc ++
    (if assertions.isEmpty then [] else [("assert", .array (assertions.map assertion))]) ++
    extra.map fun (key, value) => (key, .text value)

end Form

mutual

def Field.form : Field → Json
  | ⟨name, kind, required, minOccurs, none, enumeration, doc, assertions, extra⟩ =>
    .object (Form.heading name kind required minOccurs ++
      Form.details enumeration doc assertions extra)
  | ⟨name, kind, required, minOccurs, some items, enumeration, doc, assertions, extra⟩ =>
    .object (Form.heading name kind required minOccurs ++ ("items", .array (Field.forms items)) ::
      Form.details enumeration doc assertions extra)

def Field.forms : List Field → List Json
  | [] => []
  | item :: rest => Field.form item :: Field.forms rest

end

def Field.render (layout : Json.Layout) (field : Field) : String := field.form.render layout

end SchemaForms
