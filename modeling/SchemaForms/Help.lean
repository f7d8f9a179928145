import SchemaForms.Arguments

set_option autoImplicit false

namespace SchemaForms

structure HelpEntry where
  term : String
  explanation : String

namespace HelpEntry

def beside (entries : List HelpEntry) : String :=
  let longest := (entries.map fun entry => entry.term.length).foldl max 0
  String.join (entries.map fun entry =>
    "  " ++ entry.term.pushn ' ' (longest + 2 - entry.term.length) ++ entry.explanation ++ "\n")

def below (entries : List HelpEntry) : String :=
  String.join (entries.map fun entry =>
    "  " ++ entry.term ++ "\n          " ++ entry.explanation ++ "\n")

def verbose : HelpEntry := ⟨"-v, --verbose", "Log at debug level (RUST_LOG takes precedence)"⟩

def compact : HelpEntry := ⟨"    --compact", "Print the descriptor on a single line"⟩

def diagnostics : HelpEntry := ⟨"    --diagnostics", "Print compile diagnostics to stderr"⟩

def color : HelpEntry :=
  ⟨"    --color <COLOR>",
    "Color output for diagnostics: auto (default), always, or never [default: auto]"⟩

def help : HelpEntry := ⟨"-h, --help", "Print help"⟩

def version : HelpEntry := ⟨"-V, --version", "Print version"⟩

def ofVariable (environment : Environment) (term explanation variableName : String) : HelpEntry :=
  let value := (environment.first? variableName).getD ""
  ⟨term, explanation ++ " [env: " ++ variableName ++ "=" ++ value ++ "]"⟩

def programOptions : List HelpEntry := [verbose, help, version]

def compileOptions : List HelpEntry := [compact, verbose, diagnostics, color, help]

def fetchOptions (environment : Environment) : List HelpEntry :=
  let option := ofVariable environment
  [verbose,
    ⟨"    --version <VERSION>", "Gateway release, e.g. 9.1.0.0"⟩,
    ⟨"    --filter <FILTER>", "Filter name, e.g. add-header"⟩,
    option "    --schema-dir <SCHEMA_DIR>"
      "Read `<DIR>/<version>/<filter>.xsd` instead of calling the bindings service"
      "REPOSE_SCHEMA_DIR",
    ⟨"    --config <CONFIG>", "Config file (defaults to the per-user config.toml)"⟩,
    option "    --endpoint <ENDPOINT>" "Bindings service base URL" "REPOSE_BINDINGS_ENDPOINT",
    option "    --filters-uri <FILTERS_URI>" "Path between the version and the filter name"
      "REPOSE_FILTERS_URI",
    option "    --bindings-location <BINDINGS_LOCATION>"
      "Path from the filter to its bindings document" "REPOSE_BINDINGS_LOCATION",
    option "    --schema-location <SCHEMA_LOCATION>"
      "Path from the filter to its schema directory" "REPOSE_SCHEMA_LOCATION",
    option "    --timeout <TIMEOUT>" "Per-request timeout in seconds (default 30)"
      "REPOSE_FETCH_TIMEOUT",
    compact, diagnostics, color, help]

end HelpEntry

namespace Topic

def about : Topic → String
  | .program => "Compile Repose filter configuration schemas into form descriptors"
  | .compile => "Compile a local XSD file"
  | .fetch => "Fetch a filter's XSD from the bindings service and compile it"
  | .help => "Print this message or the help of the given subcommand(s)"

def usage : Topic → String
  | .program => "repose-forms [OPTIONS] <COMMAND>"
  | .compile => "repose-forms compile [OPTIONS] <FILE>"
  | .fetch => "repose-forms fetch [OPTIONS] --version <VERSION> --filter <FILTER>"
  | .help => "repose-forms help [COMMAND]..."

def commands : List HelpEntry :=
  [⟨"compile", about .compile⟩, ⟨"fetch", about .fetch⟩, ⟨"help", about .help⟩]

def parts (environment : Environment) : Topic → List (String × String)
  | .program =>
    [("Commands", HelpEntry.beside commands),
      ("Options", HelpEntry.beside HelpEntry.programOptions)]
  | .compile =>
    [("Arguments", HelpEntry.beside [⟨"<FILE>", "Path to the filter's XSD"⟩]),
      ("Options", HelpEntry.beside HelpEntry.compileOptions)]
  | .fetch => [("Options", HelpEntry.below (HelpEntry.fetchOptions environment))]
  | .help =>
    [("Arguments", HelpEntry.beside [⟨"[COMMAND]...", "Print help for the subcommand(s)"⟩])]

def text (environment : Environment) (topic : Topic) : String :=
  topic.about ++ "\n\nUsage: " ++ topic.usage ++ "\n" ++
    String.join ((topic.parts environment).map fun (title, body) =>
      "\n" ++ title ++ ":\n" ++ body)

end Topic

end SchemaForms
