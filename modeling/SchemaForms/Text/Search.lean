set_option autoImplicit false

namespace SchemaForms.Text

def cut (mark : Char) : List Char → Option (List Char × List Char)
  | [] => none
  | c :: rest =>
    if c = mark then some ([], rest)
    else (cut mark rest).map fun (before, after) => (c :: before, after)

def parts (mark : Char) : List Char → List (List Char)
  | [] => [[]]
  | c :: rest =>
    if c = mark then [] :: parts mark rest
    else
      match parts mark rest with
      | part :: more => (c :: part) :: more
      | [] => [[c]]

def occursIn (word : List Char) : List Char → Bool
  | [] => word.isEmpty
  | c :: rest => word.isPrefixOf (c :: rest) || occursIn word rest

end SchemaForms.Text

namespace SchemaForms

def splitQualified (text : String) : Option String × String :=
  match Text.cut ':' text.toList with
  | some (before, after) => (some (String.ofList before), String.ofList after)
  | none => (none, text)

end SchemaForms
