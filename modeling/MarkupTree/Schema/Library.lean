import MarkupTree.Schema.Declaration

/-!
# Libraries that check data

The program does not check records by itself: a library does so, from the declarations. The program
is written for any library that can check data, make records and dump them.
-/

namespace MarkupTree.Schema

/-- A library that checks data against declarations. -/
structure Library where
  /-- Checks data against a type; records that the type mentions are those of the given union. -/
  check : Union → FieldType → Datum → Checked Datum
  /-- Makes a record of a class from named values. Records inside are those of the given union. -/
  construct : Union → Class → List (String × Datum) → Checked Datum
  /-- Takes a record apart, down to data without records. -/
  dump : Datum → Datum

namespace Library

/-- Members of a mapping, each with what the library finds out about its value. -/
def checks (lib : Library) (union : Union) (members : List (String × Datum)) :
    List (String × Check) :=
  members.map fun (name, value) => (name, fun type => lib.check union type value)

end Library

end MarkupTree.Schema
