import SchemaForms.Program

set_option autoImplicit false

namespace SchemaForms

def Host.compilation? (host : Host Id) (path : String) : Option Compilation :=
  match (host.read path).run with
  | .ok text => (do (← Document.ofText text).compile).toOption
  | .error _ => none

section Commands

variable (host : Host Id) (output : OutputOptions)

theorem compileFile_toOption (path : String) :
    (compileFile host output path).run.toOption =
      (host.compilation? path).map (host.print output) := by
  simp only [compileFile, Document.ofFile, Host.compilation?, Id.run_bind]
  cases (host.read path).run with
  | error error => rfl
  | ok text =>
    cases parsed : Document.ofText text with
    | error error =>
      simp only [parsed]
      rfl
    | ok document =>
      simp only [parsed, Id.run_pure, bind, Except.bind]
      cases document.compile <;> rfl

theorem compileFetched_toOption {options : FetchOptions} {directory : String}
    (given : options.schemaDirectory = some directory) :
    (compileFetched host output options).run.toOption =
      (host.compilation? (schemaPath directory options.version options.filter)).map
        (host.print output) := by
  simp only [compileFetched, fetchSchema, given, fetchFromDirectory, Host.compilation?,
    Id.run_bind, Id.run_pure]
  cases (host.read (schemaPath directory options.version options.filter)).run with
  | error error => cases error <;> rfl
  | ok text =>
    have read : Except.mapError FetchError.directory (.ok text) = .ok text := rfl
    simp only [read, Id.run_pure]
    cases (do (← Document.ofText text).compile) <;> rfl

end Commands

namespace Exit

variable {result : Except CommandError Printed} {printed : Printed}

theorem ofResult_of_some (done : result.toOption = some printed) :
    ofResult result = { code := 0, stdout := printed.stdout, stderr := printed.stderr } := by
  cases result with
  | error error => contradiction
  | ok held =>
    cases done
    rfl

theorem ofResult_of_none (failed : result.toOption = none) :
    (ofResult result).code = 1 ∧ (ofResult result).stdout = "" := by
  cases result with
  | error error => exact ⟨rfl, rfl⟩
  | ok held => contradiction

end Exit

theorem compileFetched_congr {host other : Host Id} {options others : FetchOptions}
    {directory : String} (output : OutputOptions)
    (given : options.schemaDirectory = some directory)
    (same : others = { options with config := others.config, settings := others.settings })
    (read : other.read (schemaPath directory options.version options.filter) =
      host.read (schemaPath directory options.version options.filter))
    (look : other.print output = host.print output) :
    compileFetched other output others = compileFetched host output options := by
  rw [same]
  simp only [compileFetched, fetchSchema, given, fetchFromDirectory, read, look]

theorem Host.exits_alike (host : Host Id) (verbose : Bool) (output : OutputOptions)
    {options : FetchOptions} {directory : String}
    (given : options.schemaDirectory = some directory) :
    let path := schemaPath directory options.version options.filter
    let compiled := ((⟨verbose, output, .compile path⟩ : Invocation).exit host).run
    let fetched := ((⟨verbose, output, .fetch options⟩ : Invocation).exit host).run
    (∃ compilation, host.compilation? path = some compilation ∧
      compiled =
        { code := 0
          stdout := (host.print output compilation).stdout
          stderr := (host.print output compilation).stderr } ∧
      fetched = compiled) ∨
    (compiled.code = 1 ∧ compiled.stdout = "" ∧ fetched.code = 1 ∧ fetched.stdout = "") := by
  intro path compiled fetched
  have file := compileFile_toOption host output path
  have directory := compileFetched_toOption host output given
  change _ = (host.compilation? path).map _ at directory
  cases held : host.compilation? path with
  | some compilation =>
    rw [held] at file directory
    have printed : compiled = _ := Exit.ofResult_of_some file
    have same : fetched = _ := Exit.ofResult_of_some directory
    exact .inl ⟨compilation, rfl, printed, same.trans printed.symm⟩
  | none =>
    rw [held] at file directory
    have refused : compiled.code = 1 ∧ compiled.stdout = "" := Exit.ofResult_of_none file
    exact .inr ⟨refused.1, refused.2, Exit.ofResult_of_none directory⟩

theorem Host.directory_fetch_prints_compiled_file (host : Host Id) (verbose : Bool)
    (output : OutputOptions) (options : FetchOptions) (directory : String) :
    let path := schemaPath directory options.version options.filter
    let compiled := ((⟨verbose, output, .compile path⟩ : Invocation).exit host).run
    let fetched (host : Host Id) (config : Option String) (settings : Settings) :=
      ((⟨verbose, output,
          .fetch { options with schemaDirectory := some directory, config, settings }⟩ :
        Invocation).exit host).run
    (∀ config settings, (fetched host config settings).code = 0 ↔ compiled.code = 0) ∧
    (∀ config settings, compiled.code = 0 →
      fetched host config settings = compiled ∧
      ∃ compilation, host.compilation? path = some compilation ∧
        compiled.stdout = compilation.field.render output.layout ++ "\n" ∧
        compiled.stderr =
          if output.diagnostics then
            let inked := (ColorMode.ofText output.color).isColored host.terminal && host.styles
            String.join (compilation.diagnostics.map fun diagnostic =>
              Report.diagnostic inked diagnostic ++ "\n") ++
              Report.summary inked compilation.diagnostics.length ++ "\n"
          else "") ∧
    (∀ config settings, compiled.code ≠ 0 →
      compiled.stdout = "" ∧ (fetched host config settings).stdout = "") ∧
    ∀ other : Host Id, other.read path = host.read path → other.terminal = host.terminal →
      other.styles = host.styles → ∀ config settings,
        fetched other config settings = fetched host options.config options.settings := by
  intro path compiled fetched
  have alike (config : Option String) (settings : Settings) :=
    have given : ({ options with schemaDirectory := some directory, config, settings } :
        FetchOptions).schemaDirectory = some directory := rfl
    host.exits_alike verbose output given
  refine ⟨fun config settings => ?_, fun config settings ended => ?_,
    fun config settings ended => ?_, fun other read terminal styles config settings => ?_⟩
  · rcases alike config settings with ⟨_, _, _, same⟩ | ⟨code, _, failed, _⟩
    · exact iff_of_eq (congrArg (fun exit => exit.code = 0) same)
    · exact iff_of_false (by simp [fetched, failed]) (by simp [compiled, path, code])
  · rcases alike config settings with ⟨compilation, held, printed, same⟩ | ⟨code, _⟩
    · exact ⟨same, compilation, held, congrArg Exit.stdout printed, congrArg Exit.stderr printed⟩
    · exact absurd (ended.symm.trans code) (by decide)
  · rcases alike config settings with ⟨_, _, printed, _⟩ | ⟨_, silent, _, still⟩
    · exact absurd (congrArg Exit.code printed) ended
    · exact ⟨silent, still⟩
  · have look : other.print output = host.print output := by
      funext compilation
      simp only [Host.print, terminal, styles]
    exact congrArg (fun run : Id _ => Exit.ofResult run.run)
      (compileFetched_congr output rfl rfl read look)

end SchemaForms
