import MarkupTree.Proofs.Documented
import MarkupTree.Proofs.FirstFailure

/-!
# What the checks of a class accept

A record of a class is made when every declared field holds something acceptable and there is no
other name (`Class.outcome_eq_ok_iff`). A field looks at the first member with its name, or takes
its default (`Library.Holds`).
-/

namespace MarkupTree

namespace Json

variable {α β : Type}

/-! ## Members of an object -/

/-- The first member of an object is looked at before the others. -/
theorem member?_cons (name name' : String) (value : α) (members : List (String × α)) :
    member? name ((name', value) :: members) =
      if name = name' then some value else member? name members := by
  by_cases h : name = name'
  · subst h
    rw [if_pos rfl, member?, List.lookup_cons_self]
  · have hbeq : (name == name') = false := beq_false_of_ne h
    rw [if_neg h, member?, List.lookup_cons, hbeq]
    rfl

/-- Members are found by name whatever is done to their values. -/
theorem member?_map (f : α → β) (name : String) (members : List (String × α)) :
    member? name (members.map fun member => (member.1, f member.2)) =
      (member? name members).map f := by
  induction members with
  | nil => rfl
  | cons member members ih =>
    rw [List.map_cons, member?_cons, member?_cons, ih]
    split <;> rfl

/-- What is found by name is the value of a member. -/
theorem exists_mem_of_member? {name : String} {members : List (String × α)} {value : α}
    (h : member? name members = some value) : ∃ member ∈ members, member.2 = value := by
  induction members with
  | nil => cases h
  | cons member members ih =>
    rw [member?_cons] at h
    split at h
    · exact ⟨member, List.mem_cons_self, Option.some.inj h⟩
    · obtain ⟨other, hmem, rfl⟩ := ih h
      exact ⟨other, List.mem_cons_of_mem _ hmem, rfl⟩

end Json

namespace Schema

/-! ## Checks that succeed -/

namespace Checked

variable {α β : Type}

/-- A check seen from further out succeeds exactly when it does. -/
theorem under_eq_ok_iff {step : Step} {c : Checked α} {a : α} : c.under step = .ok a ↔ c = .ok a :=
  mapError_eq_ok_iff

/-- A check in front of others succeeds with them exactly when both do. -/
theorem cons_eq_ok_iff {c : Checked α} {cs : Checked (List α)} {as : List α} :
    ((both c cs).map fun (a, as) => a :: as) = .ok as ↔
      ∃ a as', c = .ok a ∧ cs = .ok as' ∧ as = a :: as' := by
  rw [map_eq_ok_iff]
  constructor
  · rintro ⟨⟨a, as'⟩, h, rfl⟩
    obtain ⟨hfirst, hrest⟩ := both_eq_ok_iff.mp h
    exact ⟨a, as', hfirst, hrest, rfl⟩
  · rintro ⟨a, as', hfirst, hrest, rfl⟩
    exact ⟨(a, as'), both_eq_ok_iff.mpr ⟨hfirst, hrest⟩, rfl⟩

/-- Checks succeed together exactly when each of them does. -/
theorem all_map_eq_ok_iff {f : β → Checked α} {bs : List β} {as : List α} :
    all (bs.map f) = .ok as ↔ List.Forall₂ (fun b a => f b = .ok a) bs as := by
  induction bs generalizing as with
  | nil =>
    rw [List.map_nil, all, List.forall₂_nil_left_iff]
    exact ⟨fun h => (Except.ok.inj h).symm, fun h => by rw [h]⟩
  | cons b bs ih =>
    rw [List.map_cons, all, cons_eq_ok_iff, List.forall₂_cons_left_iff]
    simp only [ih]

/-- Two checks succeed together exactly when both do. -/
theorem all_pair_eq_ok_iff {c d : Checked α} {as : List α} :
    all [c, d] = .ok as ↔ ∃ a b, c = .ok a ∧ d = .ok b ∧ as = [a, b] := by
  simp only [all, cons_eq_ok_iff]
  constructor
  · rintro ⟨a, _, ha, ⟨b, _, hb, ⟨⟩, rfl⟩, rfl⟩
    exact ⟨a, b, ha, hb, rfl⟩
  · rintro ⟨a, b, ha, hb, rfl⟩
    exact ⟨a, _, ha, ⟨b, _, hb, rfl, rfl⟩, rfl⟩

/-- A check of all items succeeds exactly when it does so on every item, wherever it stands. -/
theorem items_eq_ok_iff {check : β → Checked α} {i : Nat} {bs : List β} {as : List α} :
    items check i bs = .ok as ↔ List.Forall₂ (fun b a => check b = .ok a) bs as := by
  -- The position grows along the list, but only defects mention it.
  induction bs generalizing i as with
  | nil =>
    rw [items, List.forall₂_nil_left_iff]
    exact ⟨fun h => (Except.ok.inj h).symm, fun h => by rw [h]⟩
  | cons b bs ih =>
    rw [items, cons_eq_ok_iff, List.forall₂_cons_left_iff]
    simp only [under_eq_ok_iff, ih]

/-- A check that finds a defect makes nothing. -/
@[simp] theorem defect_ne_ok (kind : DefectKind) (a : α) : defect kind ≠ .ok a := nofun

end Checked

/-! ## Names -/

/-- No member has another name than the given ones. -/
def OnlyFields {α : Type} (names : List String) (members : List (String × α)) : Prop :=
  ∀ member ∈ members, member.1 ∈ names

/-- The defects of an object with other members than the given fields. -/
def extraDefects {α : Type} (names : List String) (members : List (String × α)) : List Defect :=
  (members.filter fun member => member.1 ∉ names).map fun member =>
    ⟨.extraForbidden, [.field member.1]⟩

/-- Other names are the only thing that is found fault with. -/
theorem refuseOthers_eq {α : Type} (names : List String) (members : List (String × α)) :
    refuseOthers names members =
      if extraDefects names members = [] then .ok ()
      else .error (extraDefects names members) := by
  unfold refuseOthers
  split
  · next h =>
    have hnil : extraDefects names members = [] := List.map_eq_nil_iff.mpr h
    rw [if_pos hnil]
  · next h =>
    have hne : extraDefects names members ≠ [] := fun hnil => h (List.map_eq_nil_iff.mp hnil)
    rw [if_neg hne]
    rfl

/-- Members pass when they have no other names than the given ones. -/
theorem refuseOthers_eq_ok_iff {α : Type} {names : List String} {members : List (String × α)} :
    refuseOthers names members = .ok () ↔ OnlyFields names members := by
  have hnil : extraDefects names members = [] ↔ OnlyFields names members := by
    simp [extraDefects, OnlyFields, List.filter_eq_nil_iff]
  rw [refuseOthers_eq, ← hnil]
  split
  · next h => simp [h]
  · next h => simp [h]

/-! ## Fields -/

namespace Library

variable (lib : Library) (union : Union)

/-- A field takes a value from members: the library makes it of the member with the name of the
field, or there is none and the value is the default. -/
def Holds (members : List (String × Datum)) (field : Field) (value : Datum) : Prop :=
  (∃ d, Json.member? field.name members = some d ∧ lib.check union field.type d = .ok value) ∨
    Json.member? field.name members = none ∧ field.default? = some value

variable {lib union}

/-- The checks of members are found by name as their values are. -/
theorem member?_checks (name : String) (members : List (String × Datum)) :
    Json.member? name (lib.checks union members) =
      (Json.member? name members).map fun d type => lib.check union type d :=
  Json.member?_map (fun d type => lib.check union type d) name members

/-- A field passes with its name and what it holds. -/
theorem outcome_checks_eq_ok_iff {members : List (String × Datum)} {field : Field}
    {pair : String × Datum} :
    field.outcome (lib.checks union members) = .ok pair ↔
      pair.1 = field.name ∧ lib.Holds union members field pair.2 := by
  obtain ⟨name, value⟩ := pair
  rw [Field.outcome, map_eq_ok_iff, member?_checks]
  simp only [Checked.under_eq_ok_iff, Prod.mk.injEq, Holds]
  cases hmember : Json.member? field.name members with
  | none => cases field.default? <;> simp [Checked.defect, eq_comm, and_comm]
  | some d => simp [eq_comm, and_comm]

variable (lib union) in
/-- Fields hold values one by one, each under its own name. -/
def HoldAll (members : List (String × Datum)) : List Field → List (String × Datum) → Prop :=
  List.Forall₂ fun field pair => pair.1 = field.name ∧ lib.Holds union members field pair.2

/-- No fields hold nothing. -/
theorem holdAll_nil_iff {members pairs : List (String × Datum)} :
    lib.HoldAll union members [] pairs ↔ pairs = [] :=
  List.forall₂_nil_left_iff

/-- The first field holds the first value. -/
theorem holdAll_cons_iff {members pairs : List (String × Datum)} {field : Field}
    {fields : List Field} :
    lib.HoldAll union members (field :: fields) pairs ↔ ∃ value rest,
      lib.Holds union members field value ∧ lib.HoldAll union members fields rest ∧
      pairs = (field.name, value) :: rest := by
  rw [HoldAll, List.forall₂_cons_left_iff]
  constructor
  · rintro ⟨⟨_, value⟩, rest, ⟨rfl, hvalue⟩, hrest, rfl⟩
    exact ⟨value, rest, hvalue, hrest, rfl⟩
  · rintro ⟨value, rest, hvalue, hrest, rfl⟩
    exact ⟨(field.name, value), rest, ⟨rfl, hvalue⟩, hrest, rfl⟩

/-- The checks of members have the names of the members. -/
theorem onlyFields_checks_iff {names : List String} {members : List (String × Datum)} :
    OnlyFields names (lib.checks union members) ↔ OnlyFields names members := by
  simp only [OnlyFields, checks, List.forall_mem_map]

/-- A record is made of members exactly when each declared field holds something and there are no
other names. -/
theorem class_outcome_eq_ok_iff {cls : Class} {members : List (String × Datum)} {result : Datum} :
    cls.outcome (lib.checks union members) = .ok result ↔ ∃ fields,
      lib.HoldAll union members cls.fields fields ∧
      OnlyFields (cls.fields.map Field.name) members ∧ result = .record cls.name fields := by
  rw [Class.outcome, map_eq_ok_iff]
  constructor
  · rintro ⟨⟨fields, _⟩, h, rfl⟩
    obtain ⟨hfields, hothers⟩ := Checked.both_eq_ok_iff.mp h
    rw [Checked.all_map_eq_ok_iff] at hfields
    refine ⟨fields, ?_, onlyFields_checks_iff.mp (refuseOthers_eq_ok_iff.mp hothers), rfl⟩
    exact hfields.imp fun _ _ hfield => outcome_checks_eq_ok_iff.mp hfield
  · rintro ⟨fields, hfields, hothers, rfl⟩
    refine ⟨(fields, ()), Checked.both_eq_ok_iff.mpr ⟨?_, ?_⟩, rfl⟩
    · rw [Checked.all_map_eq_ok_iff]
      exact hfields.imp fun _ _ hfield => outcome_checks_eq_ok_iff.mpr hfield
    · exact refuseOthers_eq_ok_iff.mpr (onlyFields_checks_iff.mpr hothers)

end Library

end Schema

end MarkupTree
