import GlobalStyles.Json.Entries
import GlobalStyles.Stylesheet.Options

/-!
# Command-line arguments

A command line is a list of options. Those with a value take it after an equals sign or from the
next argument, which must not look like an option; those without one may be shortened where they
have a letter. No option may be given twice, and there are no other arguments.

A configuration comes in one file or in two layers, never both, and a layer never alone. Asking for
help or for the version ends the reading at once.
-/

namespace GlobalStyles

/-- In which form a bundle is printed. -/
inductive OutputFormat where
  /-- The stylesheets. -/
  | css
  /-- The whole bundle. -/
  | json
  deriving DecidableEq

/-- The files that hold the configuration. -/
inductive ConfigSource where
  | merged (file : String)
  | layers (base user : String)
  | missing
  deriving DecidableEq

/-- A compilation that was asked for. -/
structure Invocation where
  source : ConfigSource
  registry : Option String
  variation : Option String
  format : OutputFormat
  options : CompileOptions
  deriving DecidableEq

/-- What a command line asks for. -/
inductive Command where
  | compile (invocation : Invocation)
  | version
  | help
  deriving DecidableEq

namespace Command

/-! ### Options -/

/-- What an option wants after its name. -/
inductive Wants where
  | nothing
  /-- The name of a file, which is not empty. -/
  | file
  | text
  /-- The name of an output format. -/
  | format
  /-- Nothing, and the reading ends. -/
  | ending (command : Command)

/-- The options by name. -/
def options : Entries Wants :=
  [("config", .file), ("base", .file), ("user", .file), ("registry", .file), ("variation", .text),
    ("namespace", .text), ("format", .format), ("no-block-gap", .nothing), ("no-layout", .nothing),
    ("no-variations", .nothing), ("skip-filters", .nothing), ("verbose", .nothing),
    ("help", .ending .help), ("version", .ending .version)]

/-- The name of the option with a letter. -/
def longName? : Char → Option String
  | 'v' => some "verbose"
  | 'h' => some "help"
  | 'V' => some "version"
  | _ => none

/-- The output format of a name. -/
def format? : String → Option OutputFormat
  | "css" => some .css
  | "json" => some .json
  | _ => none

/-! ### Reading -/

/-- The options that were given, each with its value, which is empty where an option has none. -/
abbrev Given := Entries String

/-- How the reading of arguments goes on: it is refused, it ends with a command, or it continues. -/
inductive Progress where
  | refused
  | ended (command : Command)
  | given (options : Given)

/-- Add an option that was not given yet. -/
def Given.add (given : Given) (name value : String) : Progress :=
  if (Entries.get? given name).isSome then .refused else .given (Entries.put given name value)

/-- Whether a value is what an option wants. -/
def Wants.accepts : Wants → String → Bool
  | .file, value => value != ""
  | .text, _ => true
  | .format, value => (format? value).isSome
  | _, _ => false

/-- Add an option that wants nothing. -/
def addSwitch (given : Given) (name : String) : Progress :=
  match Entries.get? options name with
  | some .nothing => given.add name ""
  | some (.ending command) => .ended command
  | _ => .refused

/-- Add an option with its value. -/
def addValue (given : Given) (name value : String) : Progress :=
  match Entries.get? options name with
  | some wants => if wants.accepts value then given.add name value else .refused
  | none => .refused

/-- Add the options of some letters. -/
def addLetters (given : Given) : List Char → Progress
  | [] => .given given
  | c :: rest =>
    match longName? c with
    | none => .refused
    | some name =>
      match addSwitch given name with
      | .given given => addLetters given rest
      | other => other

/-- Whether an option takes a value. -/
def takesValue (name : String) : Bool :=
  match Entries.get? options name with
  | some .file => true
  | some .text => true
  | some .format => true
  | _ => false

/-- Whether an argument looks like an option. A hyphen alone does not. -/
def looksLikeOption (argument : String) : Bool :=
  match argument.toList with
  | '-' :: _ :: _ => true
  | _ => false

/-- The options of a list of arguments. -/
def readFrom (given : Given) : List String → Progress
  | [] => .given given
  | argument :: rest =>
    match argument.toList with
    | ['-', '-'] => if rest.isEmpty then .given given else .refused
    | '-' :: '-' :: long =>
      match long.splitOn '=' with
      | [name] =>
        let name := String.ofList name
        if takesValue name then
          match rest with
          | [] => .refused
          | value :: rest =>
            if looksLikeOption value then .refused
            else
              match addValue given name value with
              | .given given => readFrom given rest
              | other => other
        else
          match addSwitch given name with
          | .given given => readFrom given rest
          | other => other
      | name :: value =>
        match addValue given (String.ofList name) (String.ofList (['='].intercalate value)) with
        | .given given => readFrom given rest
        | other => other
      | [] => .refused
    | '-' :: c :: letters =>
      match addLetters given (c :: letters) with
      | .given given => readFrom given rest
      | other => other
    | _ => .refused

/-! ### Commands -/

/-- Where the configuration comes from, unless the options contradict each other. -/
def source? (given : Given) : Option ConfigSource :=
  match Entries.get? given "config", Entries.get? given "base", Entries.get? given "user" with
  | some file, none, none => some (.merged file)
  | none, some base, some user => some (.layers base user)
  | none, none, none => some .missing
  | _, _, _ => none

/-- Whether an option was given. -/
def Given.has (given : Given) (name : String) : Bool :=
  (Entries.get? given name).isSome

/-- The compilation that options ask for. -/
def invocation? (given : Given) : Option Invocation :=
  (source? given).map fun source ↦
    { source := source
      registry := Entries.get? given "registry"
      variation := Entries.get? given "variation"
      format := ((Entries.get? given "format").bind format?).getD .css
      options :=
        { space := (Entries.get? given "namespace").getD CompileOptions.defaultSpace
          blockGap := if given.has "no-block-gap" then some false else none
          disableLayout := given.has "no-layout"
          variationStyles := !given.has "no-variations"
          skipFilters := given.has "skip-filters" } }

/-- What a list of arguments asks for. -/
def ofArguments? (arguments : List String) : Option Command :=
  match readFrom [] arguments with
  | .refused => none
  | .ended command => some command
  | .given given => (invocation? given).map .compile

end Command

end GlobalStyles
