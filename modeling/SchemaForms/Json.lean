set_option autoImplicit false

namespace SchemaForms

inductive Json
  | text (value : String)
  | array (values : List Json)
  | object (entries : List (String × Json))

namespace Json

def hasKey (key : String) (entries : List (String × Json)) : Bool :=
  entries.any fun entry => entry.1 = key

mutual

/-- The value in which every object keeps only the last entry of each key. -/
def lastOfEach : Json → Json
  | .text value => .text value
  | .array values => .array (lastOfEachValue values)
  | .object entries => .object (lastOfEachEntry entries)

def lastOfEachValue : List Json → List Json
  | [] => []
  | value :: rest => lastOfEach value :: lastOfEachValue rest

def lastOfEachEntry : List (String × Json) → List (String × Json)
  | [] => []
  | (key, value) :: rest =>
    if hasKey key rest then lastOfEachEntry rest
    else (key, lastOfEach value) :: lastOfEachEntry rest

end

end Json

end SchemaForms
