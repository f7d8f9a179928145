import SchemaForms.Diagnostic
import SchemaForms.Styled

set_option autoImplicit false

namespace SchemaForms

inductive ColorMode
  | auto
  | always
  | never
deriving DecidableEq, Repr

namespace ColorMode

-- Any other word means `auto`, and letters count alike in both cases.
def ofText (text : String) : ColorMode :=
  match text.toLower with
  | "always" => .always
  | "never" => .never
  | _ => .auto

def isColored (mode : ColorMode) (terminal : Bool) : Bool :=
  match mode with
  | .auto => terminal
  | .always => true
  | .never => false

end ColorMode

namespace Report

def diagnostic (inked : Bool) (diagnostic : Diagnostic) : String :=
  Style.boldYellow.paint inked "warning" ++ " " ++
    Style.dimmed.paint inked ("[" ++ diagnostic.cause.label ++ "]") ++ " " ++
    diagnostic.cause.message ++ "\n  " ++
    Style.dimmed.paint inked "at" ++ " " ++ Style.grey.paint inked diagnostic.path

def summary (inked : Bool) : Nat → String
  | 0 => Style.green.paint inked "No diagnostics"
  | 1 => "1 diagnostic"
  | count => toString count ++ " diagnostics"

def render (inked : Bool) (diagnostics : List Diagnostic) : String :=
  String.join (diagnostics.map fun one => diagnostic inked one ++ "\n") ++
    summary inked diagnostics.length ++ "\n"

end Report

end SchemaForms
