import SchemaForms.Program

set_option autoImplicit false

open SchemaForms

def readFile (path : String) : IO (Except ReadError String) := do
  try
    let bytes ← IO.FS.readBinFile path
    match String.fromUTF8? bytes with
    | some text => return .ok text
    | none => return .error .notText
  catch error =>
    match error with
    | .noFileOrDirectory .. => return .error .notFound
    | .inappropriateType .. => return .error .isDirectory
    | other => return .error (.other (toString other))

def variableNames : List String :=
  ["REPOSE_SCHEMA_DIR", "REPOSE_BINDINGS_ENDPOINT", "REPOSE_FILTERS_URI",
    "REPOSE_BINDINGS_LOCATION", "REPOSE_SCHEMA_LOCATION", "REPOSE_FETCH_TIMEOUT",
    "XDG_CONFIG_HOME", "HOME", "CLICOLOR_FORCE"]

def readEnvironment : IO Environment := do
  let values ← variableNames.mapM fun name => return (name, ← IO.getEnv name)
  return values.filterMap fun (name, value) => value.map fun value => (name, value)

def main (words : List String) : IO UInt32 := do
  let environment ← readEnvironment
  let host : Host IO := {
    read := readFile
    client := fun _ => return .error "no connection"
    environment
    styles := environment.forcesStyles }
  let exit ← runProgram host words
  (← IO.getStdout).putStr exit.stdout
  (← IO.getStderr).putStr exit.stderr
  return UInt32.ofNat exit.code
