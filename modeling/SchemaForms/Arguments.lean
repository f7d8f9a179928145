import SchemaForms.Configuration

set_option autoImplicit false

namespace SchemaForms

structure OutputOptions where
  compact : Bool
  diagnostics : Bool
  color : String
deriving DecidableEq, Repr

structure FetchOptions where
  version : String
  filter : String
  schemaDirectory : Option String
  config : Option String
  settings : Settings
deriving DecidableEq, Repr

inductive Command
  | compile (file : String)
  | fetch (options : FetchOptions)
deriving DecidableEq, Repr

structure Invocation where
  verbose : Bool
  output : OutputOptions
  command : Command
deriving DecidableEq, Repr

inductive Topic
  | program
  | compile
  | fetch
  | help
deriving DecidableEq, Repr

inductive Refusal
  | usage
  | help (topic : Topic)
  | version
deriving DecidableEq, Repr

structure Grammar where
  topic : Topic
  flags : List String
  options : List (String × (String → Bool))
  operands : Nat

structure Words where
  flags : List String := []
  values : Pairs := []
  operands : List String := []

def unsigned? (text : String) : Option Nat :=
  let digits := match text.toList with
    | '+' :: rest => rest
    | all => all
  if !digits.isEmpty && digits.all Char.isDigit then
    let number := Toml.ofDigits 10 digits
    if number < 0x10000000000000000 then some number else none
  else none

def isPath (text : String) : Bool := !text.isEmpty

def isDashed (word : String) : Bool :=
  match word.toList with
  | '-' :: _ :: _ => true
  | _ => false

namespace Words

def addFlag (words : Words) (flag : String) : Except Refusal Words :=
  if words.flags.contains flag then .error .usage
  else .ok { words with flags := flag :: words.flags }

def addValue (grammar : Grammar) (words : Words) (name value : String) : Except Refusal Words :=
  match grammar.options.find? fun option => option.1 = name with
  | none => .error .usage
  | some option =>
    if (words.values.first? name).isSome || !option.2 value then .error .usage
    else .ok { words with values := (name, value) :: words.values }

def addOperand (grammar : Grammar) (words : Words) (operand : String) : Except Refusal Words :=
  if words.operands.length < grammar.operands && isPath operand then
    .ok { words with operands := words.operands ++ [operand] }
  else .error .usage

def addLetters (topic : Topic) (words : Words) : List Char → Except Refusal Words
  | [] => .ok words
  | 'v' :: rest => do addLetters topic (← words.addFlag "verbose") rest
  | 'h' :: _ => .error (.help topic)
  | _ => .error .usage

def gather (grammar : Grammar) (words : Words) : List String → Except Refusal Words
  | [] => .ok words
  | word :: rest =>
    match word.toList with
    | ['-', '-'] => rest.foldlM (addOperand grammar) words
    | '-' :: '-' :: name =>
      match Text.cut '=' name with
      | some (name, value) => do
        gather grammar
          (← words.addValue grammar (String.ofList name) (String.ofList value)) rest
      | none =>
        let name := String.ofList name
        if name = "help" then .error (.help grammar.topic)
        else if grammar.flags.contains name then do gather grammar (← words.addFlag name) rest
        else
          match rest with
          | [] => .error .usage
          | value :: rest =>
            if isDashed value then .error .usage
            else do gather grammar (← words.addValue grammar name value) rest
    | '-' :: c :: letters => do
      gather grammar (← words.addLetters grammar.topic (c :: letters)) rest
    | _ => do gather grammar (← words.addOperand grammar word) rest

def has (words : Words) (flag : String) : Bool := words.flags.contains flag

def value? (words : Words) (name : String) : Option String := words.values.first? name

def valueOr (words : Words) (environment : Environment) (name variableName : String)
    (accepts : String → Bool) : Except Refusal (Option String) :=
  match words.value? name with
  | some value => .ok value
  | none =>
    match environment.first? variableName with
    | none => .ok none
    | some value => if accepts value then .ok value else .error .usage

def output (words : Words) : OutputOptions where
  compact := words.has "compact"
  diagnostics := words.has "diagnostics"
  color := (words.value? "color").getD "auto"

end Words

def anyText (_ : String) : Bool := true

def isTimeout (text : String) : Bool := (unsigned? text).isSome

def commonFlags : List String := ["verbose", "compact", "diagnostics"]

def compileGrammar : Grammar where
  topic := .compile
  flags := commonFlags
  options := [("color", anyText)]
  operands := 1

def fetchGrammar : Grammar where
  topic := .fetch
  flags := commonFlags
  options := [("color", anyText), ("version", anyText), ("filter", anyText),
    ("schema-dir", isPath), ("config", isPath), ("endpoint", anyText), ("filters-uri", anyText),
    ("bindings-location", anyText), ("schema-location", anyText), ("timeout", isTimeout)]
  operands := 0

def Command.ofCompileWords (words : Words) : Except Refusal Command :=
  match words.operands with
  | [file] => .ok (.compile file)
  | _ => .error .usage

def Command.ofFetchWords (environment : Environment) (words : Words) :
    Except Refusal Command := do
  let some version := words.value? "version" | throw .usage
  let some filter := words.value? "filter" | throw .usage
  let option := words.valueOr environment
  let schemaDirectory ← option "schema-dir" "REPOSE_SCHEMA_DIR" isPath
  let endpoint ← option "endpoint" "REPOSE_BINDINGS_ENDPOINT" anyText
  let filtersUri ← option "filters-uri" "REPOSE_FILTERS_URI" anyText
  let bindingsLocation ← option "bindings-location" "REPOSE_BINDINGS_LOCATION" anyText
  let schemaLocation ← option "schema-location" "REPOSE_SCHEMA_LOCATION" anyText
  let timeout ← option "timeout" "REPOSE_FETCH_TIMEOUT" isTimeout
  return .fetch {
    version, filter, schemaDirectory
    config := words.value? "config"
    settings := {
      endpoint, filtersUri, bindingsLocation, schemaLocation
      timeoutSecs := timeout.bind unsigned? } }

namespace Invocation

def ofCommandWords (environment : Environment) (verbose : Bool) (command : String)
    (words : List String) : Except Refusal Invocation :=
  let finish (words : Words) (command : Command) : Invocation :=
    { verbose := verbose || words.has "verbose", output := words.output, command }
  match command with
  | "compile" => do
    let words ← Words.gather compileGrammar {} words
    return finish words (← Command.ofCompileWords words)
  | "fetch" => do
    let words ← Words.gather fetchGrammar {} words
    return finish words (← Command.ofFetchWords environment words)
  | "help" =>
    match words with
    | [] => .error (.help .program)
    | ["compile"] => .error (.help .compile)
    | ["fetch"] => .error (.help .fetch)
    | ["help"] => .error (.help .help)
    | _ => .error .usage
  | _ => .error .usage

def verboseOfLetters (verbose : Bool) : List Char → Except Refusal Bool
  | [] => .ok verbose
  | 'v' :: rest => if verbose then .error .usage else verboseOfLetters true rest
  | 'h' :: _ => .error (.help .program)
  | 'V' :: _ => .error .version
  | _ => .error .usage

def ofWords (environment : Environment) (verbose : Bool) : List String → Except Refusal Invocation
  | [] => .error .usage
  | "--help" :: _ => .error (.help .program)
  | "--version" :: _ => .error .version
  | "--verbose" :: rest => if verbose then .error .usage else ofWords environment true rest
  | word :: rest =>
    match word.toList with
    | '-' :: '-' :: _ => .error .usage
    | '-' :: c :: letters => do
      ofWords environment (← verboseOfLetters verbose (c :: letters)) rest
    | _ => ofCommandWords environment verbose word rest

def logFilter (verbose diagnostics : Bool) : String :=
  if verbose then "debug" else if diagnostics then "warn,repose_xsd=error" else "warn"

end Invocation

end SchemaForms
