import SchemaForms.Arguments
import SchemaForms.Bindings
import SchemaForms.Compilation
import SchemaForms.Report

set_option autoImplicit false

namespace SchemaForms

structure Host (m : Type → Type) where
  read : Reader m
  client : ServiceSettings.Client m
  environment : Environment
  terminal : Bool := false
  styles : Bool := false

structure Printed where
  stdout : String := ""
  stderr : String := ""
deriving DecidableEq, Repr

inductive FetchError
  | directory (error : SchemaError)
  | config (error : ConfigError)
  | setting (missing : MissingSetting)
  | service (error : ServiceError)
deriving DecidableEq, Repr

def FetchError.chain : FetchError → List String
  | .directory error => error.chain
  | .config error => error.chain
  | .setting missing => [missing.message]
  | .service error => error.chain

inductive CommandError
  | read (file : String) (error : SchemaError)
  | compile (file : String) (error : SchemaError)
  | fetch (filter version : String) (error : FetchError)
  | compileFetched (filter : String) (error : SchemaError)
deriving DecidableEq, Repr

def CommandError.chain : CommandError → List String
  | .read file error => ("Failed to read schema " ++ Text.quoted file) :: error.chain
  | .compile file error => ("Failed to compile schema " ++ Text.quoted file) :: error.chain
  | .fetch filter version error =>
    ("Failed to fetch schema for filter '" ++ filter ++ "' " ++ version) :: error.chain
  | .compileFetched filter error =>
    ("Failed to compile schema for filter '" ++ filter ++ "'") :: error.chain

def OutputOptions.layout (output : OutputOptions) : Json.Layout :=
  if output.compact then .compact else .pretty

def OutputOptions.print (output : OutputOptions) (terminal styles : Bool)
    (compilation : Compilation) : Printed where
  stdout := compilation.field.render output.layout ++ "\n"
  stderr :=
    if output.diagnostics then
      let colored := (ColorMode.ofText output.color).isColored terminal
      Report.render (colored && styles) compilation.diagnostics
    else ""

section

variable {m : Type → Type} [Monad m]

def Host.print (host : Host m) (output : OutputOptions) (compilation : Compilation) : Printed :=
  output.print host.terminal host.styles compilation

def compileFile (host : Host m) (output : OutputOptions) (file : String) :
    m (Except CommandError Printed) := do
  match ← Document.ofFile host.read file with
  | .error error => return .error (.read file error)
  | .ok document =>
    match document.compile with
    | .error error => return .error (.compile file error)
    | .ok compilation => return .ok (host.print output compilation)

def fetchFromService (host : Host m) (options : FetchOptions) :
    m (Except FetchError String) := do
  match ← Settings.load host.read host.environment options.config with
  | .error error => return .error (.config error)
  | .ok settings =>
    match (options.settings.or settings).resolve with
    | .error missing => return .error (.setting missing)
    | .ok service =>
      return (← service.fetch host.client options.version options.filter).mapError .service

def fetchSchema (host : Host m) (options : FetchOptions) : m (Except FetchError String) := do
  match options.schemaDirectory with
  | some directory =>
    return (← fetchFromDirectory host.read directory options.version options.filter).mapError
      .directory
  | none => fetchFromService host options

def compileFetched (host : Host m) (output : OutputOptions) (options : FetchOptions) :
    m (Except CommandError Printed) := do
  match ← fetchSchema host options with
  | .error error => return .error (.fetch options.filter options.version error)
  | .ok text =>
    match (do (← Document.ofText text).compile) with
    | .error error => return .error (.compileFetched options.filter error)
    | .ok compilation => return .ok (host.print output compilation)

def Invocation.run (host : Host m) (invocation : Invocation) :
    m (Except CommandError Printed) :=
  match invocation.command with
  | .compile file => compileFile host invocation.output file
  | .fetch options => compileFetched host invocation.output options

end

end SchemaForms
