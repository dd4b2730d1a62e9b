import MarkupTree.Proofs.CanonicalSpelling
import MarkupTree.Proofs.SchemaGrammar

/-!
# Reading and writing records

The program reads a value as a record, with all checks of the library in place, and writes what it
has read, finding out the class of every record that it comes upon. So there are several ways to
fail (`Record.Failure`). The main result is `toMarkup_eq_ok_or_eq_invalidNode`: with a library that
does what is documented only one of them ever comes about, the report of a value that is no node; it
is the report that `Value.read` makes, unless the system refuses to show the value in it.
-/

namespace MarkupTree

/-- Every value is shown by a system that has no limit. -/
@[simp] theorem Value.shown_none (v : Value) : v.Shown none := nofun

namespace Record

open Schema

variable {lib : Library}

/-! ## Making records -/

section Make

variable (h : lib.Documented)

include h

end Make

/-! ## Reading yields the records of nodes -/

/-- What reading a value as a node comes to, with the record in the place of the node. -/
def outcome (limit : Option Nat) (m : Except InvalidNode Node) : Except Failure Datum :=
  (m.map Datum.ofNode).mapError (report limit)

section Read

variable (hlib : lib.Documented)

include hlib

end Read

/-! ## From a value to its markup -/

end Record

end MarkupTree
