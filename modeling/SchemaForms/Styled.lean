set_option autoImplicit false

namespace SchemaForms

inductive Style
  | boldYellow
  | dimmed
  | grey
  | green
deriving DecidableEq, Repr

namespace Style

def reset : List Char := ['\x1b', '[', '0', 'm']

def start : Style → List Char
  | .boldYellow => ['\x1b', '[', '1', ';', '3', '3', 'm']
  | .dimmed => ['\x1b', '[', '2', 'm']
  | .grey => ['\x1b', '[', '9', '0', 'm']
  | .green => ['\x1b', '[', '3', '2', 'm']

-- Turns the style on again wherever the text itself turns it off.
def resume (style : Style) : List Char → List Char
  | '\x1b' :: '[' :: '0' :: 'm' :: rest => reset ++ style.start ++ resume style rest
  | c :: rest => c :: resume style rest
  | [] => []

def paint (style : Style) (inked : Bool) (text : String) : String :=
  if inked then String.ofList (style.start ++ style.resume text.toList ++ reset) else text

end Style

end SchemaForms
