import GlobalStyles.Command.Arguments
import GlobalStyles.Config.Load
import GlobalStyles.Config.Variation
import GlobalStyles.Registry.Reader
import GlobalStyles.Stylesheet.Export

/-!
# Running a command

What a command prints and how it ends, as a function of the files it can read. Files are read in the
order base, user, registry, and the first problem ends the run.
-/

namespace GlobalStyles

/-- How a run ends. -/
structure Outcome where
  exitCode : UInt8
  stdout : String
  /-- The diagnostics, which go to the error output. -/
  warnings : List String
  /-- The problem that ended the run. -/
  error : Option String
  deriving DecidableEq

/-- A problem that ends a run. -/
inductive CommandError where
  | noConfiguration
  | unreadable (file : String)
  | invalidConfiguration (file : String)
  | invalidRegistry (file : String)
  | unmergeable
  | noVariation
  deriving DecidableEq

/-- The wording of a problem. -/
def CommandError.message : CommandError → String
  | noConfiguration => "either --config or both --base and --user are required"
  | unreadable file => "failed to read " ++ file
  | invalidConfiguration file => "invalid configuration " ++ file
  | invalidRegistry file => "invalid selector registry " ++ file
  | unmergeable => "failed to merge configuration layers"
  | noVariation => "failed to apply style variation"

namespace Invocation

/-- The files that are read, in order. -/
def files (invocation : Invocation) : List String :=
  (match invocation.source with
    | .merged file => [file]
    | .layers base user => [base, user]
    | .missing => []) ++ invocation.registry.toList

/-- The text of a file. -/
def read (files : String → Option String) (file : String) : Except CommandError String :=
  match files file with
  | some text => .ok text
  | none => .error (.unreadable file)

/-- The tree of a file. -/
def readTree (files : String → Option String) (file : String) : Except CommandError Json := do
  (Config.load (← read files file)).mapError fun _ ↦ .invalidConfiguration file

/-- The configuration, merged. -/
def merged (files : String → Option String) : ConfigSource → Except CommandError Json
  | .merged file => readTree files file
  | .layers base user => do
    let base ← readTree files base
    let user ← readTree files user
    (Config.merge base user).mapError fun _ ↦ .unmergeable
  | .missing => .error .noConfiguration

/-- The configuration, with its variation applied. -/
def tree (invocation : Invocation) (files : String → Option String) : Except CommandError Json := do
  let tree ← merged files invocation.source
  match invocation.variation with
  | none => return tree
  | some name => (Config.applyVariation tree name).mapError fun _ ↦ .noVariation

/-- The registry, which is empty when no file is given. -/
def registryOf (invocation : Invocation) (files : String → Option String) :
    Except CommandError Registry :=
  match invocation.registry with
  | none => .ok []
  | some file => do
    match Registry.parse? (← read files file) with
    | some registry => .ok registry
    | none => .error (.invalidRegistry file)

/-- The bundle that is asked for. -/
def bundle (invocation : Invocation) (files : String → Option String) :
    Except CommandError Bundle := do
  let tree ← invocation.tree files
  let registry ← invocation.registryOf files
  return compile tree registry invocation.options

end Invocation

/-- The text of a bundle in a form. -/
def OutputFormat.text (format : OutputFormat) (bundle : Bundle) : String :=
  match format with
  | css => bundle.stylesheet
  | json => bundle.toJson.pretty

namespace Command

/-- The name and version of the program. -/
def versionText : String := "gloss 0.1.0\n"

/-- What there is to know about the options. -/
def helpText : String :=
  "Gloss: compile layered global styles to CSS\n\nOptions:\n" ++
    String.join (options.map fun (name, wants) ↦
      "  --" ++ name ++
        (match wants with
          | .file => " <FILE>"
          | .text => " <TEXT>"
          | .format => " <css|json>"
          | _ => "") ++ "\n")

/-- The outcome of a command. -/
def outcome (command : Command) (files : String → Option String) : Outcome :=
  match command with
  | .version => ⟨0, versionText, [], none⟩
  | .help => ⟨0, helpText, [], none⟩
  | .compile invocation =>
    match invocation.bundle files with
    | .error e => ⟨1, "", [], some e.message⟩
    | .ok bundle =>
      ⟨0, invocation.format.text bundle ++ "\n", bundle.diagnostics.map Diagnostic.message, none⟩

/-- The outcome of a list of arguments. Arguments that ask for nothing end the run with 2. -/
def run (arguments : List String) (files : String → Option String) : Outcome :=
  match ofArguments? arguments with
  | none => ⟨2, "", [], none⟩
  | some command => command.outcome files

end Command

end GlobalStyles
