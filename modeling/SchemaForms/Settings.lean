import SchemaForms.Toml.Document

set_option autoImplicit false

namespace SchemaForms

structure Settings where
  endpoint : Option String := none
  filtersUri : Option String := none
  bindingsLocation : Option String := none
  schemaLocation : Option String := none
  timeoutSecs : Option Nat := none
deriving DecidableEq, Repr

structure ServiceSettings where
  endpoint : String
  filtersUri : String
  bindingsLocation : String
  schemaLocation : String
  timeoutSecs : Nat
deriving DecidableEq, Repr

inductive MissingSetting
  | endpoint
  | filtersUri
  | bindingsLocation
  | schemaLocation
deriving DecidableEq, Repr

def MissingSetting.message : MissingSetting → String
  | .endpoint =>
    "Bindings endpoint not configured (set REPOSE_BINDINGS_ENDPOINT or bindings.endpoint)"
  | .filtersUri => "Filters URI not configured (set REPOSE_FILTERS_URI or bindings.filters-uri)"
  | .bindingsLocation => "Bindings location not configured " ++
    "(set REPOSE_BINDINGS_LOCATION or bindings.bindings-location)"
  | .schemaLocation => "Schema location not configured " ++
    "(set REPOSE_SCHEMA_LOCATION or bindings.schema-location)"

namespace Settings

def defaultTimeoutSecs : Nat := 30

def or (settings fallback : Settings) : Settings where
  endpoint := settings.endpoint.or fallback.endpoint
  filtersUri := settings.filtersUri.or fallback.filtersUri
  bindingsLocation := settings.bindingsLocation.or fallback.bindingsLocation
  schemaLocation := settings.schemaLocation.or fallback.schemaLocation
  timeoutSecs := settings.timeoutSecs.or fallback.timeoutSecs

def resolve (settings : Settings) : Except MissingSetting ServiceSettings := do
  let some endpoint := settings.endpoint | throw .endpoint
  let some filtersUri := settings.filtersUri | throw .filtersUri
  let some bindingsLocation := settings.bindingsLocation | throw .bindingsLocation
  let some schemaLocation := settings.schemaLocation | throw .schemaLocation
  return {
    endpoint, filtersUri, bindingsLocation, schemaLocation
    timeoutSecs := settings.timeoutSecs.getD defaultTimeoutSecs }

def text : Toml.Value → Except String String
  | .string text => .ok text
  | _ => .error "expected a string"

def seconds : Toml.Value → Except String Nat
  | .integer number =>
    if 0 ≤ number then .ok number.toNat else .error "expected a number of seconds"
  | _ => .error "expected a number of seconds"

-- The settings are keys of a table or, without their names, the first five values of an array. A
-- date counts as a table with none of the keys.
def ofToml : Toml.Value → Except String Settings
  | .table _ entries => return {
      endpoint := ← (Toml.Entries.find? entries "endpoint").mapM text
      filtersUri := ← (Toml.Entries.find? entries "filters-uri").mapM text
      bindingsLocation := ← (Toml.Entries.find? entries "bindings-location").mapM text
      schemaLocation := ← (Toml.Entries.find? entries "schema-location").mapM text
      timeoutSecs := ← (Toml.Entries.find? entries "timeout-secs").mapM seconds }
  | .array (endpoint :: filtersUri :: bindingsLocation :: schemaLocation :: timeout :: _) =>
    return {
      endpoint := some (← text endpoint)
      filtersUri := some (← text filtersUri)
      bindingsLocation := some (← text bindingsLocation)
      schemaLocation := some (← text schemaLocation)
      timeoutSecs := some (← seconds timeout) }
  | .date => return {}
  | _ => throw "expected the settings of the bindings service"

def ofConfigText (text : String) : Except String Settings :=
  match Toml.Entries.ofText text with
  | .error fault => .error fault.message
  | .ok entries =>
    match entries.find? "bindings" with
    | some value => ofToml value
    | none => .ok {}

end Settings

end SchemaForms
