/-!
# Grammars of commands

What a command accepts: options with their spellings, and operands. How arguments are taken apart by
a grammar is said in `MarkupTree.CommandLine.Token` and `MarkupTree.CommandLine.Scan`.
-/

namespace MarkupTree.CommandLine

/-- An option of a command. -/
structure Flag (ι : Type) where
  /-- Which option it is. -/
  id : ι
  /-- Its spellings in order. -/
  spellings : List String
  /-- Whether it takes a value. -/
  takesValue : Bool

/-- The name of an option in messages: all its spellings. -/
def Flag.label {ι : Type} (flag : Flag ι) : String := "/".intercalate flag.spellings

/-- Which operands a command takes. -/
inductive Operands where
  /-- None. -/
  | none
  /-- The name of a command, and with it all that follows. -/
  | command
  /-- One operand, which may be left out. -/
  | optional
deriving DecidableEq

/-- What a command accepts, and how its usage is shown. -/
structure Grammar (ι : Type) where
  /-- The name of the command in messages. -/
  program : String
  /-- The usage line. -/
  usage : String
  /-- The options in order. -/
  flags : List (Flag ι)
  /-- The operands. -/
  operands : Operands

variable {ι : Type}

/-- All spellings of options in order. -/
def Grammar.spellings (g : Grammar ι) : List (String × Flag ι) :=
  g.flags.flatMap fun flag => flag.spellings.map fun spelling => (spelling, flag)

/-- The option of a given spelling. -/
def Grammar.spelled? (g : Grammar ι) (spelling : String) : Option (Flag ι) :=
  g.spellings.lookup spelling

end MarkupTree.CommandLine
