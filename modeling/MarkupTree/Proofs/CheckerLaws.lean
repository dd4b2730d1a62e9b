import MarkupTree.Proofs.SchemaChecks
import MarkupTree.Schema.Checker

/-!
# The checker does what is documented

The checker that the program comes with has no limits, and does on all data what is documented of a
library (`checker_documented`).
-/

namespace MarkupTree.Schema

namespace Checker

variable {union : Union} {d result : Datum}

/-- Refused data makes nothing. -/
@[simp] theorem refuse_ne_ok (type : FieldType) (result : Datum) : refuse type ≠ .ok result := nofun

/-! ## Strings -/

/-- Nothing but the string itself passes for a literal. -/
theorem check_literal_eq_ok_iff {s : String} :
    check union d (.literal s) = .ok result ↔ d = .text s ∧ result = d := by
  cases d with
  | text t =>
    rw [check, textOutcome, Datum.text.injEq]
    by_cases h : t = s <;> simp [h, eq_comm (b := result)]
  | _ => simp [check, sequenceOutcome, mappingOutcome, recordOutcome]

/-- Nothing but a string passes for a string. -/
theorem check_string_eq_ok_iff {least : Nat} :
    check union d (.string least) = .ok result ↔
      (∃ s, d = .text s ∧ least ≤ s.length) ∧ result = d := by
  cases d with
  | text t =>
    rw [check, textOutcome]
    by_cases h : least ≤ t.length <;> simp [h, eq_comm (b := result)]
  | _ => simp [check, sequenceOutcome, mappingOutcome, recordOutcome]

/-! ## Lists and pairs -/

/-- The check of a list or a tuple begins with the checks of its items. -/
theorem check_of_items? {items : List Datum} (h : d.items? = some items) (type : FieldType) :
    check union d type = sequenceOutcome (items.map (check union)) type := by
  cases d with
  | list | tuple =>
    cases h
    rw [check, checkAll_eq_map]
  | _ => cases h

/-- Other data than lists, tuples and records passes neither for a list nor for a pair. -/
theorem check_of_items?_eq_none (h : d.items? = none) (hrecord : d.isRecord = false)
    {type : FieldType} (htype : (∃ item, type = .list item) ∨ ∃ a b, type = .pair a b) :
    check union d type ≠ .ok result := by
  rcases htype with ⟨_, rfl⟩ | ⟨_, _, rfl⟩ <;> cases d <;>
    simp_all [check, textOutcome, mappingOutcome, Datum.items?, Datum.isRecord]

/-- A list passes when its items do. -/
theorem check_list_eq_ok_iff {item : FieldType} (hrecord : d.isRecord = false) :
    check union d (.list item) = .ok result ↔ ∃ items results, d.items? = some items ∧
      List.Forall₂ (fun d r => check union d item = .ok r) items results ∧
      result = .list results := by
  cases hitems : d.items? with
  | none => simp [check_of_items?_eq_none hitems hrecord (.inl ⟨item, rfl⟩)]
  | some items =>
    rw [check_of_items? hitems, sequenceOutcome, map_eq_ok_iff]
    simp only [Checked.items_eq_ok_iff, List.forall₂_map_left_iff]
    constructor
    · rintro ⟨results, hresults, rfl⟩
      exact ⟨items, results, rfl, hresults, rfl⟩
    · rintro ⟨_, results, ⟨⟩, hresults, rfl⟩
      exact ⟨results, hresults, rfl⟩

/-- An item passes when it is there and does. -/
theorem itemOutcome_eq_ok_iff {items : List Check} {i : Nat} {type : FieldType} :
    itemOutcome items i type = .ok result ↔
      ∃ check, items[i]? = some check ∧ check type = .ok result := by
  rw [itemOutcome, Checked.under_eq_ok_iff]
  cases items[i]? <;> simp

/-- A pair passes when it has two items and both do. -/
theorem check_pair_eq_ok_iff {first second : FieldType} (hrecord : d.isRecord = false) :
    check union d (.pair first second) = .ok result ↔ ∃ a b r s, d.items? = some [a, b] ∧
      check union a first = .ok r ∧ check union b second = .ok s ∧ result = .tuple [r, s] := by
  cases hitems : d.items? with
  | none => simp [check_of_items?_eq_none hitems hrecord (.inr ⟨first, second, rfl⟩)]
  | some items =>
    rw [check_of_items? hitems, sequenceOutcome]
    -- An item that is absent is a defect by itself, and so is a third one.
    rcases items with _ | ⟨a, _ | ⟨b, _ | ⟨c, rest⟩⟩⟩
    · simp [Checked.all_pair_eq_ok_iff, itemOutcome_eq_ok_iff, map_eq_ok_iff]
    · simp [Checked.all_pair_eq_ok_iff, itemOutcome_eq_ok_iff, map_eq_ok_iff]
    · rw [if_neg (by simp), map_eq_ok_iff]
      simp only [Checked.all_pair_eq_ok_iff, itemOutcome_eq_ok_iff]
      constructor
      · rintro ⟨_, ⟨r, s, ⟨_, ⟨⟩, hr⟩, ⟨_, ⟨⟩, hs⟩, rfl⟩, rfl⟩
        exact ⟨a, b, r, s, rfl, hr, hs, rfl⟩
      · rintro ⟨_, _, r, s, ⟨⟩, hr, hs, rfl⟩
        exact ⟨_, ⟨r, s, ⟨_, rfl, hr⟩, ⟨_, rfl, hs⟩, rfl⟩, rfl⟩
    · simp

/-! ## Unions -/

/-- What is dispatched has the tag of one of the classes. -/
theorem dispatch_eq_ok_iff {discriminator : Option Datum} {tag : String} {cls : Class} :
    union.dispatch discriminator = .ok (tag, cls) ↔
      discriminator = some (.text tag) ∧ union.member? tag = some cls := by
  fun_cases Union.dispatch union discriminator with
  | case1 => simp
  | case2 tag' cls' htag => grind
  | case3 tag' htag => grind [Checked.defect]
  | case4 d hd => grind [Checked.defect]

/-- A mapping passes for a union as a record of the class that its tag says. -/
theorem check_union_of_dispatch {members : List (String × Datum)} {tag : String} {cls : Class}
    (hdispatch : union.dispatch (Json.member? union.discriminator members) = .ok (tag, cls)) :
    check union (.mapping members) .union =
      (cls.outcome (checkMembers union members)).under (.field tag) := by
  rw [check, mappingOutcome, hdispatch]
  rfl

/-- Nothing but a mapping with a tag passes for a union, but for records. -/
theorem exists_dispatch_of_check_union (hrecord : d.isRecord = false)
    (h : check union d .union = .ok result) : ∃ members tag cls, d = .mapping members ∧
      union.dispatch (Json.member? union.discriminator members) = .ok (tag, cls) := by
  cases d with
  | mapping members =>
    rw [check, mappingOutcome, bind_eq_ok_iff] at h
    obtain ⟨⟨tag, cls⟩, hdispatch, -⟩ := h
    exact ⟨members, tag, cls, rfl, hdispatch⟩
  | record => cases hrecord
  | _ => cases h

/-- A record of one of the classes passes for a union as it is. -/
theorem check_union_record {fields : List (String × Datum)} {tag : String} {cls : Class}
    (hdispatch : union.dispatch (Json.member? union.discriminator fields) = .ok (tag, cls)) :
    check union (.record cls.name fields) .union = .ok (.record cls.name fields) := by
  rw [check, recordOutcome, hdispatch]
  exact if_pos rfl

end Checker

/-- The checker does what is documented, on all data. -/
theorem checker_documented : checker.Documented where
  item _ _ _ := trivial
  member _ _ := trivial
  field _ _ := trivial
  literal _ := Checker.check_literal_eq_ok_iff
  string _ := Checker.check_string_eq_ok_iff
  list _ hrecord := Checker.check_list_eq_ok_iff hrecord
  pair _ hrecord := Checker.check_pair_eq_ok_iff hrecord
  construct {union cls members} _ := by
    show cls.outcome (Checker.checkMembers union members) = _
    rw [Checker.checkMembers_eq_map]
    rfl
  union_mapping {union members tag cls} _ htag hcls := by
    have hdispatch := Checker.dispatch_eq_ok_iff.mpr ⟨htag, hcls⟩
    have hcheck := Checker.check_union_of_dispatch hdispatch
    rw [Checker.checkMembers_eq_map] at hcheck
    exact hcheck
  union_ok _ hrecord h := by
    obtain ⟨members, tag, cls, rfl, hdispatch⟩ := Checker.exists_dispatch_of_check_union hrecord h
    exact ⟨members, tag, cls, rfl, Checker.dispatch_eq_ok_iff.mp hdispatch⟩
  union_record _ htag hcls :=
    Checker.check_union_record (Checker.dispatch_eq_ok_iff.mpr ⟨htag, hcls⟩)
  dump_text := rfl
  dump_list {items} _ := by
    show Checker.dump (.list items) = _
    rw [Checker.dump, Checker.dumpAll_eq_map]
    rfl
  dump_tuple {items} _ := by
    show Checker.dump (.tuple items) = _
    rw [Checker.dump, Checker.dumpAll_eq_map]
    rfl
  dump_record {className fields} _ := by
    show Checker.dump (.record className fields) = _
    rw [Checker.dump, Checker.dumpMembers_eq_map]
    rfl

end MarkupTree.Schema
