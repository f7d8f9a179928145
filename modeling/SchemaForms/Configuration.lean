import SchemaForms.SchemaSource
import SchemaForms.Settings
import SchemaForms.Text.Characters

set_option autoImplicit false

namespace SchemaForms

-- Environment variables; the first of a name counts.
abbrev Environment := Pairs

inductive ConfigError
  | unreadable (path : String) (error : ReadError)
  | malformed (path : String) (reason : String)
deriving DecidableEq, Repr

def ConfigError.chain : ConfigError → List String
  | .unreadable path error =>
    ["Failed to read config file: " ++ Text.quoted path, error.message]
  | .malformed path reason => ["Failed to parse config file: " ++ Text.quoted path, reason]

def Environment.configDirectory? (environment : Environment) : Option String :=
  match (environment.first? "XDG_CONFIG_HOME").filter Path.isAbsolute with
  | some directory => some directory
  | none =>
    ((environment.first? "HOME").filter fun home => !home.isEmpty).map (Path.join · ".config")

def Environment.configPath? (environment : Environment) : Option String :=
  environment.configDirectory?.map fun directory =>
    Path.join (Path.join directory "repose-forms") "config.toml"

namespace Settings

def ofConfig (path : String) : Except ReadError String → Except ConfigError Settings
  | .error error => .error (.unreadable path error)
  | .ok text => (ofConfigText text).mapError (.malformed path)

variable {m : Type → Type} [Monad m]

def load (read : Reader m) (environment : Environment) (given : Option String) :
    m (Except ConfigError Settings) := do
  match given, environment.configPath? with
  | some path, _ => return ofConfig path (← read path)
  | none, none => return .ok {}
  | none, some path =>
    match ← read path with
    | .error error => return if error.showsPresence then .error (.unreadable path error) else .ok {}
    | result => return ofConfig path result

end Settings

end SchemaForms
