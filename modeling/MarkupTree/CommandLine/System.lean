import MarkupTree.CommandLine.Render

/-!
# Runs on a system

A run can end out of turn: the system may not read integers of very many digits, and standard output
may not take every text. Neither is an error of the document that the program reports; the run is
aborted, after whatever has been logged by then.

Half of a surrogate pair is no character, but a document can have it in its strings. The program
treats it as it treats any character, so one stands for it in a run; which one depends on the
system, and messages show that character. The output may refuse to print it.
-/

namespace MarkupTree.CommandLine

/-! ## Systems -/

/-- What a run depends on besides the program and its input. -/
structure System where
  /-- The number of digits of the longest integer that is read, if there is a limit. -/
  digitLimit : Option Nat
  /-- The character that stands for half of a surrogate pair. -/
  half : Nat → Char
  /-- Whether standard output takes a text. -/
  prints : String → Bool

/-- The usual system for documents whose strings are texts: there is a limit to integers, and the
output takes every text. -/
def System.standard : System := ⟨some 4300, Json.replaceHalf, fun _ => true⟩

/-- A character for private use, one for each half of a surrogate pair. -/
def privateHalf (unit : Nat) : Char := Char.ofNat (0x100000 + unit)

/-- Whether a character stands for half of a surrogate pair. -/
def isPrivateHalf (c : Char) : Bool := 0x10d800 ≤ c.toNat && c.toNat < 0x10e000

/-- The usual system for documents with halves of surrogate pairs: the output takes none of them. -/
def System.refusingHalves : System :=
  ⟨some 4300, privateHalf, fun text => text.toList.all fun c => !isPrivateHalf c⟩

/-! ## Endings -/

/-- Why a run is aborted. -/
inductive Abort where
  /-- There is an integer of too many digits in the document. -/
  | longInteger (digits : Nat)
  /-- Standard output does not take the markup. -/
  | unprintable

/-- The wording of the reason for which a run is aborted. -/
def Abort.message : Abort → String
  | .longInteger digits => "An integer of " ++ toString digits ++ " digits is too long"
  | .unprintable => "The output cannot be printed"

/-- How a run ends. -/
inductive Ending where
  /-- The run comes to its end. -/
  | finished (run : Run)
  /-- The run is aborted, with a status of one and no output, once something is printed on standard
  error. -/
  | aborted (cause : Abort) (errors : String)

/-! ## Runs -/

/-- The text of a document, if its bytes are there and are a text. -/
def documentText? (input : Except OpenError (List UInt8)) : Option (List Char) :=
  match input.toOption.map Text.Utf8.decode with
  | some (.ok characters) => some (Text.normalizeNewlines characters)
  | _ => none

/-- The number of digits of the first integer that is too long, which interrupts the loading of a
document. -/
def System.longInteger? (system : System) (input : Except OpenError (List UInt8)) : Option Nat := do
  Json.longInteger? system.digitLimit (← documentText? input)

/-- Loads a document that has no integer that is too long. -/
def System.loadDocument (system : System) (input : Except OpenError (List UInt8)) :
    Except LoadError Json :=
  loadDocumentWith system.half input

/-- The usual system for the document that is at hand. -/
def System.usual (input : Except OpenError (List UInt8)) : System :=
  if (documentText? input).any Json.hasHalf then .refusingHalves else .standard

/-- Prints what a run leaves behind. -/
def System.print (system : System) (run : Run) : Ending :=
  if run.output = "" ∨ system.prints run.output then .finished run
  else .aborted .unprintable run.errors

/-- The run of given settings on a system, when the document to render is at hand. -/
def Settings.execute (settings : Settings) (system : System) (stamp : String)
    (input : Except OpenError (List UInt8)) : Except NameError Ending :=
  match system.longInteger? input with
  | some digits => .ok (.aborted (.longInteger digits) "")
  | none => (settings.runOn stamp (system.loadDocument input)).map system.print

/-- A run of the program on a system. -/
def execute (system : System) (arguments : List String) (stdin : List UInt8) (folder : Folder)
    (stamp : String) : Except NameError Ending :=
  match readSettings arguments with
  | .error run => .ok (system.print run)
  | .ok settings => settings.execute system stamp (settings.input stdin folder)

end MarkupTree.CommandLine
