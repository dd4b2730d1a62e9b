import MarkupTree.CommandLine.Token
import MarkupTree.Text.Quoted

/-!
# Arguments in a row

What the arguments of a command ask for, read from left to right. Several short options may be
written together, a value may follow its option in the same argument or in the next one, and what
nobody takes is left over.
-/

namespace MarkupTree.CommandLine

variable {ι : Type}

/-- Something that the arguments ask for. -/
inductive Event (ι : Type) where
  /-- An option, with its value if it takes one. -/
  | flag (flag : Flag ι) (value : Option String)
  /-- Operands. -/
  | operands (arguments : List String)

/-- What was read: the events in order, the arguments left over, and the error that ended the
reading. -/
structure Scan (ι : Type) where
  /-- What the arguments ask for, first to last. -/
  events : List (Event ι)
  /-- The arguments that nobody took. -/
  extras : List String
  /-- The error after the events, if there is one. -/
  failure : Option String

namespace Scan

/-- Nothing was read. -/
def empty : Scan ι := ⟨[], [], none⟩

/-- Puts events and left-over arguments before what was read. -/
def after (events : List (Event ι)) (extras : List String) (s : Scan ι) : Scan ι :=
  { s with events := events ++ s.events, extras := extras ++ s.extras }

/-- Ends with an error about an option. -/
def failed (flag : Flag ι) (message : String) : Scan ι :=
  ⟨[], [], some ("argument " ++ flag.label ++ ": " ++ message)⟩

end Scan

/-- What the options written in one argument come to. -/
inductive Bundle (ι : Type) where
  /-- Options, and what is left over of the argument. -/
  | complete (flags : List (Flag ι × Option String)) (extras : List String)
  /-- Options, the last of which takes its value from the next argument. -/
  | open (flags : List (Flag ι × Option String)) (last : Flag ι)
  /-- An error about an option. -/
  | failed (flag : Flag ι) (message : String)

namespace Bundle

/-- Puts an option without value before the others. -/
def cons (flag : Flag ι) : Bundle ι → Bundle ι
  | .complete flags extras => .complete ((flag, none) :: flags) extras
  | .open flags last => .open ((flag, none) :: flags) last
  | .failed flag message => .failed flag message

/-- An option that nothing is attached to. -/
def single (flag : Flag ι) : Bundle ι :=
  if flag.takesValue then .open [] flag else .complete [(flag, none)] []

end Bundle

/-- Whether a spelling is a short one. -/
def isShort (spelling : String) : Bool := spelling.toList[1]? != some '-'

/-- Options written together: what is attached to an option that takes no value begins with the next
short option. -/
def Grammar.bundle (g : Grammar ι) (flag : Flag ι) (short afterEquals : Bool) : List Char → Bundle ι
  | [] =>
    if flag.takesValue then .complete [(flag, some "")] []
    else .failed flag ("ignored explicit argument " ++ Text.quoted "")
  | c :: rest =>
    let value := String.ofList (c :: rest)
    if flag.takesValue then .complete [(flag, some value)] []
    else if !short || afterEquals || c = '-' then
      .failed flag ("ignored explicit argument " ++ Text.quoted value)
    else
      match g.spelled? (String.ofList ['-', c]), rest with
      | none, _ => .complete [(flag, none)] ["-" ++ value]
      | some next, [] => (Bundle.single next).cons flag
      | some next, '=' :: rest => (g.bundle next true true rest).cons flag
      | some next, d :: rest => (g.bundle next true false (d :: rest)).cons flag

/-- The options that a token stands for. -/
def Grammar.bundleOf (g : Grammar ι) (flag : Flag ι) (spelling : String) :
    Option Attached → Bundle ι
  | none => Bundle.single flag
  | some attached => g.bundle flag (isShort spelling) attached.afterEquals attached.value

/-- Options as events. -/
def flagEvents (flags : List (Flag ι × Option String)) : List (Event ι) :=
  flags.map fun (flag, value) => .flag flag value

/-- Reads tokens from left to right. A command takes all that follows, an optional operand the first
that comes; the mark `--` goes with it. -/
def Grammar.scan (g : Grammar ι) : Operands → List (Token ι) → Scan ι
  | _, [] => .empty
  | wanted, .unknown text :: rest => (g.scan wanted rest).after [] [text]
  | wanted, .flag _ flag spelling attached :: rest =>
    match g.bundleOf flag spelling attached with
    | .complete flags extras => (g.scan wanted rest).after (flagEvents flags) extras
    | .failed flag message => .failed flag message
    | .open flags last =>
      match rest with
      | .plain value :: rest =>
        (g.scan wanted rest).after (flagEvents flags ++ [.flag last (some value)]) []
      | _ => .failed last "expected one argument"
  | .command, .plain text :: rest => ⟨[.operands (text :: rest.map Token.text)], [], none⟩
  | .command, .separator :: first :: rest =>
    ⟨[.operands ("--" :: first.text :: rest.map Token.text)], [], none⟩
  | .optional, .separator :: .plain text :: rest =>
    (g.scan .none rest).after [.operands [text]] []
  | .optional, .separator :: rest => (g.scan .none rest).after [.operands []] []
  | .optional, .plain text :: .separator :: rest =>
    (g.scan .none rest).after [.operands [text]] []
  | .optional, .plain text :: rest => (g.scan .none rest).after [.operands [text]] []
  | wanted, token :: rest => (g.scan wanted rest).after [] [token.text]

/-- Takes arguments apart. -/
def Grammar.read (g : Grammar ι) (arguments : List String) : Except String (Scan ι) := do
  let tokens ← g.tokens arguments
  return g.scan g.operands tokens

end MarkupTree.CommandLine
