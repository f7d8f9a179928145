import SchemaForms.Help
import SchemaForms.Run

set_option autoImplicit false

namespace SchemaForms

structure Exit where
  code : Nat
  stdout : String := ""
  stderr : String := ""
deriving DecidableEq, Repr

def versionText : String := "repose-forms 0.1.0\n"

def Environment.forcesStyles (environment : Environment) : Bool :=
  (environment.first? "CLICOLOR_FORCE").any (· ≠ "0")

def indented (first later message : String) : String :=
  first ++ String.join ((Text.parts '\n' message.toList).map String.ofList |>.intersperse
    ("\n" ++ later))

def causesText : List String → String
  | [] => ""
  | [cause] => "\n\nCaused by:\n" ++ indented "    " "    " cause
  | causes => "\n\nCaused by:" ++ String.join (causes.zipIdx.map fun (cause, number) =>
      let digits := toString number
      "\n" ++ indented ("".pushn ' ' (5 - digits.length) ++ digits ++ ": ") "       " cause)

def errorText : List String → String
  | [] => ""
  | message :: causes => "Error: " ++ message ++ causesText causes ++ "\n"

def Refusal.exit (environment : Environment) : Refusal → Exit
  | .usage => { code := 2, stderr := Topic.program.text environment }
  | .help topic => { code := 0, stdout := topic.text environment }
  | .version => { code := 0, stdout := versionText }

def Exit.ofResult : Except CommandError Printed → Exit
  | .error error => { code := 1, stderr := errorText error.chain }
  | .ok printed => { code := 0, stdout := printed.stdout, stderr := printed.stderr }

variable {m : Type → Type} [Monad m]

def Invocation.exit (host : Host m) (invocation : Invocation) : m Exit :=
  return .ofResult (← invocation.run host)

def runProgram (host : Host m) (words : List String) : m Exit :=
  match Invocation.ofWords host.environment false words with
  | .error refusal => return refusal.exit host.environment
  | .ok invocation => invocation.exit host

end SchemaForms
