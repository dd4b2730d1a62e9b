import MarkupTree.CommandLine.Folder
import MarkupTree.CommandLine.Settings
import MarkupTree.Json.Decode
import MarkupTree.Json.Notation
import MarkupTree.Text.Newlines
import MarkupTree.Text.Utf8

/-!
# Rendering documents

The command of the program: a document is loaded, read as a tree and written as markup. A run prints
the markup, or else one error message and nothing on standard output; log lines about what happened
on the way come first on standard error if they are wanted.
-/

namespace MarkupTree.CommandLine

/-! ## Loading -/

/-- Why a document cannot be loaded. -/
inductive LoadError where
  /-- The file cannot be opened. -/
  | unopened (cause : OpenError)
  /-- The file is no UTF-8. -/
  | undecoded (cause : Text.Utf8.DecodeError)
  /-- The text is no JSON. -/
  | malformed (text : List Char) (cause : Json.DecodeError)

/-- The message of a document that cannot be loaded from a source. -/
def LoadError.message (source : String) : LoadError → String
  | .unopened .notFound => "File not found: " ++ source
  | .unopened (.refused number reason) =>
    "Cannot read " ++ source ++ ": [Errno " ++ toString number ++ "] " ++ reason ++ ": " ++
      Text.quoted source
  | .undecoded cause => "Cannot read " ++ source ++ ": " ++ cause.message
  | .malformed text cause => "Invalid JSON in " ++ source ++ ": " ++ cause.message text

/-- Decodes a document. Half of a surrogate pair is taken for the given character. -/
def parseDocument (half : Nat → Char) (bytes : List UInt8) : Except LoadError Json := do
  let characters ← (Text.Utf8.decode bytes).mapError .undecoded
  let text := Text.normalizeNewlines characters
  (Json.decodeWithin (.taking half) text).mapError (.malformed text)

/-- Loads a document from the file that was asked for, if it could be opened. -/
def loadDocumentWith (half : Nat → Char) (input : Except OpenError (List UInt8)) :
    Except LoadError Json := do
  let bytes ← input.mapError .unopened
  parseDocument half bytes

/-- Loads a document whose strings are texts: half of a surrogate pair is replaced. -/
def loadDocument (input : Except OpenError (List UInt8)) : Except LoadError Json :=
  loadDocumentWith Json.replaceHalf input

/-! ## Log lines -/

/-- An entry of the log. -/
inductive LogEntry where
  /-- An attribute without value takes its name. -/
  | unvalued (name : Value)
  /-- The tree is not well formed. -/
  | rejected (cause : InvalidNode)
  /-- Markup of the given length was written. -/
  | rendered (length : Nat) (source : String)

/-- The part of the program that a log entry comes from. -/
def LogEntry.origin : LogEntry → String
  | .unvalued _ => "esxml_py.sxml"
  | .rejected _ => "esxml_py.reader"
  | .rendered .. => "esxml_py.__main__"

/-- The wording of a log entry. -/
def LogEntry.message : LogEntry → String
  | .unvalued name => "Attribute " ++ name.display ++ " has no value, using its name"
  | .rejected cause => "Rejected esxml node at " ++ cause.path.text ++ ": " ++ cause.reason.text
  | .rendered length source => "Rendered " ++ toString length ++ " characters from " ++ source

/-- A log entry as a line. -/
def LogEntry.line (stamp : String) (entry : LogEntry) : String :=
  stamp ++ " - " ++ entry.origin ++ " - DEBUG - " ++ entry.message ++ "\n"

/-- Log entries as lines, one after the other. -/
def logText (stamp : String) : List LogEntry → String
  | [] => ""
  | entry :: entries => entry.line stamp ++ logText stamp entries

/-! ## Rendering -/

/-- What rendering a document comes to: the log, and the markup or the message of an error. -/
structure Outcome where
  /-- The log, first entry to last. -/
  log : List LogEntry
  /-- The markup, or what went wrong. -/
  result : Except String String

/-- The tree that a document spells in a notation, with the attributes that have no value. -/
def readTree (dialect : Dialect) (document : Value) : Except NameError (Traced Value) :=
  match dialect with
  | .esxml => document.symbolize.map pure
  | .sxml => .ok (Sxml.convert document.symbolizeSxml)

/-- Writes a tree as markup. -/
def renderTree (source : String) (tree : Traced Value) : Outcome :=
  let notices := tree.notices.map .unvalued
  match tree.result with
  | .error e => ⟨notices, .error e.message⟩
  | .ok value =>
    match value.read with
    | .error e => ⟨notices ++ [.rejected e], .error e.message⟩
    | .ok node =>
      let markup := node.markup
      ⟨notices ++ [.rendered markup.length source], .ok markup⟩

/-- Renders what was loaded. A name that cannot be a symbol would end the run out of turn. -/
def renderDocument (settings : RenderSettings) (document : Except LoadError Json) :
    Except NameError Outcome :=
  match document with
  | .error e => .ok ⟨[], .error (e.message settings.source)⟩
  | .ok json => (readTree settings.dialect json.toValue).map (renderTree settings.source)

/-- The run that an outcome comes to. -/
def Outcome.toRun (stamp : String) (verbose : Bool) (outcome : Outcome) : Run :=
  let log := if verbose then logText stamp outcome.log else ""
  match outcome.result with
  | .ok markup => ⟨0, markup ++ "\n", log⟩
  | .error message => ⟨1, "", log ++ "Error: " ++ message ++ "\n"⟩

/-! ## Runs -/

/-- The path that stands for standard input. -/
def standardInput : String := "-"

/-- The run of given settings, when the document to render has been loaded. Without a command the
help is shown, and the status says that nothing was done. -/
def Settings.runOn (settings : Settings) (stamp : String) (document : Except LoadError Json) :
    Except NameError Run :=
  match settings.render with
  | none => .ok ⟨1, mainGrammar.usage ++ mainHelp, ""⟩
  | some render => (renderDocument render document).map (·.toRun stamp settings.verbose)

/-- The run of given settings, when the document to render is at hand. -/
def Settings.run (settings : Settings) (stamp : String) (input : Except OpenError (List UInt8)) :
    Except NameError Run :=
  settings.runOn stamp (loadDocument input)

/-- The document that settings ask for: from standard input, or from a folder. -/
def Settings.input (settings : Settings) (stdin : List UInt8) (folder : Folder) :
    Except OpenError (List UInt8) :=
  match settings.render with
  | none => .ok []
  | some render => if render.source = standardInput then .ok stdin else folder.read render.source

/-- A run of the program on its arguments, in a folder. Log lines begin with the given stamp. -/
def run (arguments : List String) (stdin : List UInt8) (folder : Folder) (stamp : String) :
    Except NameError Run :=
  match readSettings arguments with
  | .error run => .ok run
  | .ok settings => settings.run stamp (settings.input stdin folder)

end MarkupTree.CommandLine
