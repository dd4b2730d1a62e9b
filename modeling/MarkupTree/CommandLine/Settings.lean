import MarkupTree.CommandLine.Scan

/-!
# Settings of the command line

What the arguments of the program ask for. The program has one command, which renders a document;
help, the version and errors in the arguments end a run before it begins.
-/

namespace MarkupTree.CommandLine

/-- What a run of the program leaves behind. -/
structure Run where
  /-- The exit status. -/
  status : Nat
  /-- The text on standard output. -/
  output : String
  /-- The text on standard error. -/
  errors : String
deriving DecidableEq

/-- The notations that a document can be written in. -/
inductive Dialect where
  /-- The standard notation: attributes in the second slot. -/
  | esxml
  /-- SXML: attributes in an optional list. -/
  | sxml
deriving DecidableEq

/-- The name of a notation. -/
def Dialect.name : Dialect → String
  | .esxml => "esxml"
  | .sxml => "sxml"

/-- The notation of a given name. -/
def Dialect.ofName? (name : String) : Option Dialect :=
  [esxml, sxml].find? (·.name = name)

@[simp] theorem Dialect.ofName?_name (d : Dialect) : Dialect.ofName? d.name = some d := by
  cases d <;> decide

/-- What to render. -/
structure RenderSettings where
  /-- The notation of the document. -/
  dialect : Dialect
  /-- The path of the document, or `-` for standard input. -/
  source : String
deriving DecidableEq

/-- What the arguments ask for. -/
structure Settings where
  /-- Whether log lines are wanted. -/
  verbose : Bool
  /-- What to render, if the command is given. -/
  render : Option RenderSettings
deriving DecidableEq

/-! ## The program -/

/-- The options of the program. -/
inductive MainFlag where
  /-- Shows the help. -/
  | help
  /-- Shows the version. -/
  | version
  /-- Asks for log lines. -/
  | verbose
deriving DecidableEq

/-- What the program accepts. -/
def mainGrammar : Grammar MainFlag where
  program := "esxml_py"
  usage := "usage: esxml_py [-h] [--version] [--verbose] \x7brender\x7d ..."
  flags := [⟨.help, ["-h", "--help"], false⟩, ⟨.version, ["--version"], false⟩,
    ⟨.verbose, ["--verbose", "-v"], false⟩]
  operands := .command

/-- The help of the program, below its usage line. -/
def mainHelp : String :=
  "\n\nRender esxml trees to markup\n" ++
  "\npositional arguments:\n" ++
  "  \x7brender\x7d       Commands\n" ++
  "    render       Render a JSON-encoded tree\n" ++
  "\noptions:\n" ++
  "  -h, --help     show this help message and exit\n" ++
  "  --version      show program's version number and exit\n" ++
  "  --verbose, -v  Enable verbose logging\n"

/-- The version line of the program. -/
def versionLine : String := "esxml_py 1.0.0\n"

/-- The name of the command that renders a document. -/
def renderCommand : String := "render"

/-! ## The command -/

/-- The options of the command. -/
inductive RenderFlag where
  /-- Shows the help. -/
  | help
  /-- Names the notation. -/
  | format
deriving DecidableEq

/-- What the command accepts. -/
def renderGrammar : Grammar RenderFlag where
  program := "esxml_py render"
  usage := "usage: esxml_py render [-h] [--format \x7besxml,sxml\x7d] [file]"
  flags := [⟨.help, ["-h", "--help"], false⟩, ⟨.format, ["--format", "-f"], true⟩]
  operands := .optional

/-- The help of the command, below its usage line. -/
def renderHelp : String :=
  "\n\npositional arguments:\n" ++
  "  file                  JSON file to render (default: stdin)\n" ++
  "\noptions:\n" ++
  "  -h, --help            show this help message and exit\n" ++
  "  --format \x7besxml,sxml\x7d, -f \x7besxml,sxml\x7d\n" ++
  "                        Tree notation of the input (default: esxml)\n"

/-! ## Ends of a run before it begins -/

/-- A run that only shows something. -/
def shown (text : String) : Run := ⟨0, text, ""⟩

/-- A run that ends with an error in the arguments of a command. -/
def misused {ι : Type} (g : Grammar ι) (message : String) : Run :=
  ⟨2, "", g.usage ++ "\n" ++ g.program ++ ": error: " ++ message ++ "\n"⟩

/-- The wording of a choice that there is not. -/
def invalidChoice (label choice : String) (choices : List String) : String :=
  "argument " ++ label ++ ": invalid choice: " ++ Text.quoted choice ++ " (choose from " ++
    ", ".intercalate (choices.map Text.quoted) ++ ")"

/-- Takes the arguments of a command apart and goes through what they ask for, from a beginning on.
Yields the outcome and the arguments left over. -/
def Grammar.interpret {ι σ : Type} (g : Grammar ι) (step : σ → Event ι → Except Run σ) (initial : σ)
    (arguments : List String) : Except Run (σ × List String) := do
  let scan ← (g.read arguments).mapError (misused g)
  let final ← scan.events.foldlM step initial
  match scan.failure with
  | some message => .error (misused g message)
  | none => return (final, scan.extras)

/-! ## Reading the arguments -/

/-- What an option or operand of the command does to its settings. The last one of each counts. -/
def renderStep (settings : RenderSettings) : Event RenderFlag → Except Run RenderSettings
  | .flag flag value =>
    match flag.id with
    | .help => .error (shown (renderGrammar.usage ++ renderHelp))
    | .format =>
      let choice := value.getD ""
      match Dialect.ofName? choice with
      | some dialect => .ok { settings with dialect }
      | none => .error (misused renderGrammar
          (invalidChoice flag.label choice [Dialect.esxml.name, Dialect.sxml.name]))
  | .operands (source :: _) => .ok { settings with source }
  | .operands [] => .ok settings

/-- The settings of the command without any argument: the standard notation, from standard input. -/
def RenderSettings.initial : RenderSettings := ⟨.esxml, "-"⟩

/-- The settings that the arguments of the command ask for, and the arguments left over. -/
def readRender (arguments : List String) : Except Run (RenderSettings × List String) :=
  renderGrammar.interpret renderStep .initial arguments

/-- What an option of the program, or the command, does to the settings. The arguments that the
command leaves over are kept. -/
def mainStep : Settings × List String → Event MainFlag → Except Run (Settings × List String)
  | (settings, extras), .flag flag _ =>
    match flag.id with
    | .help => .error (shown (mainGrammar.usage ++ mainHelp))
    | .version => .error (shown versionLine)
    | .verbose => .ok ({ settings with verbose := true }, extras)
  | (settings, extras), .operands (command :: arguments) =>
    if command = renderCommand then do
      let (render, others) ← readRender arguments
      return ({ settings with render := some render }, extras ++ others)
    else .error (misused mainGrammar (invalidChoice "command" command [renderCommand]))
  | state, .operands [] => .ok state

/-- The settings that the arguments of the program ask for, or the run that they come to without
any. -/
def readSettings (arguments : List String) : Except Run Settings := do
  let ((settings, commandExtras), extras) ←
    mainGrammar.interpret mainStep (⟨false, none⟩, []) arguments
  match extras ++ commandExtras with
  | [] => return settings
  | extras => .error (misused mainGrammar ("unrecognized arguments: " ++ " ".intercalate extras))

end MarkupTree.CommandLine
