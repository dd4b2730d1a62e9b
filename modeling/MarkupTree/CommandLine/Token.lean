import MarkupTree.CommandLine.Grammar
import MarkupTree.Text.Digit

/-!
# Arguments one by one

What each argument of a command is by itself: an operand, an option of the command, an option that
the command does not have, or the mark `--` after which all arguments are operands. A long option
may be written by the beginning of its spelling if no other option begins so.
-/

namespace MarkupTree.CommandLine

variable {ι : Type}

/-- A value written in the same argument as its option, after an equals sign or right behind it. -/
structure Attached where
  /-- Whether an equals sign stands between them. -/
  afterEquals : Bool
  /-- The value. -/
  value : List Char

/-- What an argument is. -/
inductive Token (ι : Type) where
  /-- An operand. -/
  | plain (text : String)
  /-- The mark after which all arguments are operands. -/
  | separator
  /-- An option that the command does not have. -/
  | unknown (text : String)
  /-- An option of the command, with its spelling in full. -/
  | flag (text : String) (flag : Flag ι) (spelling : String) (attached : Option Attached)

/-- The argument that a token was. -/
def Token.text : Token ι → String
  | .plain text => text
  | .separator => "--"
  | .unknown text => text
  | .flag text .. => text

/-- An argument split at its first equals sign. -/
def splitEquals (cs : List Char) : List Char × Option Attached :=
  match cs.dropWhile (· ≠ '=') with
  | [] => (cs, none)
  | _ :: value => (cs.takeWhile (· ≠ '='), some ⟨true, value⟩)

/-- Whether an argument looks like a negative number: digits, or a point and digits after some. -/
def isNegativeNumber (cs : List Char) : Bool :=
  -- A line feed at the very end is passed over.
  let cs := if cs.getLast? = some '\n' then cs.dropLast else cs
  match cs with
  | '-' :: number =>
    match number.dropWhile Text.isDecimalDigit with
    | [] => !number.isEmpty
    | '.' :: fraction => !fraction.isEmpty && fraction.all Text.isDecimalDigit
    | _ => false
  | _ => false

/-- The options that an argument may mean: of the long ones those that begin with it, up to an
equals sign; or a short one that begins it. -/
def Grammar.candidates (g : Grammar ι) (cs : List Char) :
    List (String × Flag ι × Option Attached) :=
  if ['-', '-'].isPrefixOf cs then
    let (beginning, attached) := splitEquals cs
    g.spellings.filterMap fun (spelling, flag) =>
      if beginning.isPrefixOf spelling.toList then some (spelling, flag, attached) else none
  else
    g.spellings.filterMap fun (spelling, flag) =>
      if spelling.toList = cs.take 2 then some (spelling, flag, some ⟨false, cs.drop 2⟩)
      else if cs.isPrefixOf spelling.toList then some (spelling, flag, none)
      else none

/-- Classifies an argument. More than one option that it may mean is an error. -/
def Grammar.classify (g : Grammar ι) (argument : String) : Except String (Token ι) :=
  let cs := argument.toList
  if cs.head? ≠ some '-' then .ok (.plain argument)
  else
    match g.spelled? argument with
    | some flag => .ok (.flag argument flag argument none)
    | none =>
      if cs.length = 1 then .ok (.plain argument)
      else
        let (beginning, attached) := splitEquals cs
        match attached, g.spelled? (String.ofList beginning) with
        | some value, some flag =>
          .ok (.flag argument flag (String.ofList beginning) (some value))
        | _, _ =>
          match g.candidates cs with
          | [] =>
            if isNegativeNumber cs || ' ' ∈ cs then .ok (.plain argument)
            else .ok (.unknown argument)
          | [(spelling, flag, attached)] => .ok (.flag argument flag spelling attached)
          | several =>
            .error ("ambiguous option: " ++ argument ++ " could match " ++
              ", ".intercalate (several.map Prod.fst))

/-- Classifies all arguments; those after `--` are operands. -/
def Grammar.tokens (g : Grammar ι) : List String → Except String (List (Token ι))
  | [] => .ok []
  | argument :: rest =>
    if argument = "--" then .ok (.separator :: rest.map .plain)
    else do
      let first ← g.classify argument
      let others ← g.tokens rest
      return first :: others

end MarkupTree.CommandLine
