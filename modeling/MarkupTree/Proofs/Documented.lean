import Mathlib.Data.List.Forall2
import MarkupTree.Schema.Library

/-!
# What is documented of a library

The program relies on what is documented of the library that checks its records, and on nothing else
(`Library.DocumentedOn`): data is accepted as the declared types say, without conversions; the
defects of a record are collected in the order of its fields; and a union is told apart by its
discriminator.
-/

namespace MarkupTree.Schema.Library

/-- What is documented of a library, as far as it goes through with a check. The scope says which
data that is. It is all data if the library has no limits; a library that guards itself against
data that is nested too deeply has the data in its scope that is nested less deeply than that. -/
structure DocumentedOn (lib : Library) (scope : Datum → Prop) : Prop where
  /-- With a list or a tuple its items are in the scope. -/
  item {d items item} : scope d → d.items? = some items → item ∈ items → scope item
  /-- With a mapping the values of its members are in the scope. -/
  member {members member} : scope (.mapping members) → member ∈ members → scope member.2
  /-- With a record the values of its fields are in the scope. -/
  field {className fields field} : scope (.record className fields) → field ∈ fields →
    scope field.2
  /-- Nothing but the string itself is accepted for a literal. -/
  literal {union s d result} : scope d →
    (lib.check union (.literal s) d = .ok result ↔ d = .text s ∧ result = d)
  /-- Nothing but a string is accepted for a string, and only if it is long enough. -/
  string {union least d result} : scope d →
    (lib.check union (.string least) d = .ok result ↔
      (∃ s, d = .text s ∧ least ≤ s.length) ∧ result = d)
  /-- A list or a tuple is accepted for a list if each of its items is, and the result is the list
  of the results. Nothing else is, but for records, of which nothing is said. -/
  list {union item d result} : scope d → d.isRecord = false →
    (lib.check union (.list item) d = .ok result ↔ ∃ items results, d.items? = some items ∧
      List.Forall₂ (fun d r => lib.check union item d = .ok r) items results ∧
      result = .list results)
  /-- A list or a tuple of two items is accepted for a pair if both of them are, and the result is
  the tuple of the results. Nothing else is, but for records, of which nothing is said. -/
  pair {union first second d result} : scope d → d.isRecord = false →
    (lib.check union (.pair first second) d = .ok result ↔ ∃ a b r s, d.items? = some [a, b] ∧
      lib.check union first a = .ok r ∧ lib.check union second b = .ok s ∧
      result = .tuple [r, s])
  /-- A record is made from named values by checking the declared fields in order, with a default
  for what is left out if there is one, and then forbidding all other names. -/
  construct {union cls members} : scope (.mapping members) →
    lib.construct union cls members = cls.outcome (lib.checks union members)
  /-- A mapping with the tag of a class in the discriminator is checked as a record of that class;
  its defects are located behind the tag. -/
  union_mapping {union members tag cls} : scope (.mapping members) →
    Json.member? union.discriminator members = some (.text tag) → union.member? tag = some cls →
    lib.check union .union (.mapping members) =
      (cls.outcome (lib.checks union members)).under (.field tag)
  /-- Nothing but such mappings is accepted for a union, but for records. -/
  union_ok {union d result} : scope d → d.isRecord = false →
    lib.check union .union d = .ok result → ∃ members tag cls, d = .mapping members ∧
      Json.member? union.discriminator members = some (.text tag) ∧ union.member? tag = some cls
  /-- A record of one of the classes is accepted as it is. -/
  union_record {union fields tag cls} : scope (.record cls.name fields) →
    Json.member? union.discriminator fields = some (.text tag) → union.member? tag = some cls →
    lib.check union .union (.record cls.name fields) = .ok (.record cls.name fields)
  /-- A string is dumped as it is. -/
  dump_text {s} : lib.dump (.text s) = .text s
  /-- A list is dumped item by item. -/
  dump_list {items} : scope (.list items) → lib.dump (.list items) = .list (items.map lib.dump)
  /-- A tuple is dumped item by item, and stays a tuple. -/
  dump_tuple {items} : scope (.tuple items) → lib.dump (.tuple items) = .tuple (items.map lib.dump)
  /-- A record is dumped as the mapping of its fields. -/
  dump_record {className fields} : scope (.record className fields) →
    lib.dump (.record className fields) =
      .mapping (fields.map fun (name, value) => (name, lib.dump value))

/-- What is documented of a library, without regard to limits that it may have. -/
abbrev Documented (lib : Library) : Prop := lib.DocumentedOn fun _ => True

end MarkupTree.Schema.Library
