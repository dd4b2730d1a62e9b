import MarkupTree.Proofs.CheckerLaws
import MarkupTree.Proofs.DeclaredNodes

/-!
# Nodes of a known kind

There are two ways from the fields of a node to the node. Its kind can be known, and may be left out
then (`Library.construct`), or a mapping tells it (`Library.check`, for the union of the nodes).
`check_withKind_iff_construct` says that nothing else tells them apart: both make the same record,
or both find the same defects, and a defect in a mapping is found one step further in, behind the
kind.
-/

namespace MarkupTree

namespace Json

/-! ## Putting in a member -/

section InsertMember

variable {α : Type} (members : List (String × α)) (name : String) (value : α)

/-- A member that is put in is found. -/
theorem member?_insertMember_self :
    member? name (insertMember members name value) = some value := by
  induction members with
  | nil => rw [insertMember, member?_cons, if_pos rfl]
  | cons member members ih =>
    obtain ⟨name', value'⟩ := member
    rw [insertMember]
    by_cases h : name' = name
    · rw [if_pos h, member?_cons, if_pos h.symm]
    · rw [if_neg h, member?_cons, if_neg (Ne.symm h), ih]

/-- Putting in a member changes no other field. -/
theorem member?_insertMember_of_ne {other : String} (h : other ≠ name) :
    member? other (insertMember members name value) = member? other members := by
  induction members with
  | nil => rw [insertMember, member?_cons, if_neg h]
  | cons member members ih =>
    obtain ⟨name', value'⟩ := member
    rw [insertMember]
    by_cases hname : name' = name
    · rw [if_pos hname, member?_cons, member?_cons, if_neg (hname ▸ h), if_neg (hname ▸ h)]
    · rw [if_neg hname, member?_cons, member?_cons, ih]

/-- Putting in a member makes no difference to a selection by names that leaves its name out. -/
theorem filter_insertMember (p : String → Bool) (h : p name = false) :
    (insertMember members name value).filter (fun member => p member.1) =
      members.filter fun member => p member.1 := by
  induction members with
  | nil => rw [insertMember, List.filter_cons, if_neg (by simp [h])]
  | cons member members ih =>
    obtain ⟨name', value'⟩ := member
    rw [insertMember]
    by_cases hname : name' = name
    · rw [if_pos hname, List.filter_cons_of_neg, List.filter_cons_of_neg] <;> simp [hname, h]
    · rw [if_neg hname, List.filter_cons, List.filter_cons, ih]

end InsertMember

end Json

namespace Schema

/-- The fields of an object with the kind of the node put in. -/
def withKind (kind : NodeKind) (members : List (String × Datum)) : List (String × Datum) :=
  Json.insertMember members "kind" (.text kind.name)

/-! ## What the kind makes no difference to -/

section WithKind

variable (kind : NodeKind) (members : List (String × Datum))

/-- The kind that is put in is found. -/
theorem member?_kind_withKind :
    Json.member? "kind" (withKind kind members) = some (.text kind.name) :=
  Json.member?_insertMember_self members "kind" _

/-- The kind is a field of every node, so it is not among those that are refused. -/
theorem extraDefects_withKind {names : List String} (h : "kind" ∈ names) :
    extraDefects names (withKind kind members) = extraDefects names members := by
  have hkind : decide ("kind" ∉ names) = false := by simp [h]
  rw [extraDefects, extraDefects, withKind,
    Json.filter_insertMember members "kind" _ (fun name => decide (name ∉ names)) hkind]

end WithKind

/-- The defects of other names depend on the names of the members alone. -/
theorem extraDefects_checks (lib : Library) (union : Union) (names : List String)
    (members : List (String × Datum)) :
    extraDefects names (lib.checks union members) = extraDefects names members := by
  simp only [extraDefects, Library.checks, List.filter_map, List.map_map]
  rfl

/-- The kind is the first field of every class of nodes, and no other field has its name. -/
theorem name_ne_kind_of_mem_contents {kind : NodeKind} {field : Field}
    (h : field ∈ kind.contents) : field.name ≠ "kind" := by
  cases kind with
  | element =>
    simp only [NodeKind.contents, List.mem_cons, List.not_mem_nil, or_false] at h
    rcases h with rfl | rfl | rfl <;> decide
  | _ =>
    simp only [NodeKind.contents, List.mem_cons, List.not_mem_nil, or_false] at h
    subst h
    decide

section Outcome

variable {lib : Library} {scope : Datum → Prop} (h : lib.DocumentedOn scope) {kind : NodeKind}
  {members : List (String × Datum)}

/-- A field of another name is checked as if no kind were put in. -/
theorem outcome_withKind_of_ne {field : Field} (hne : field.name ≠ "kind") :
    field.outcome (lib.checks nodes (withKind kind members)) =
      field.outcome (lib.checks nodes members) := by
  rw [Field.outcome, Field.outcome, Library.member?_checks, Library.member?_checks, withKind,
    Json.member?_insertMember_of_ne members "kind" _ hne]

include h

/-- A kind that is left out is the default, and one that is there is accepted for what it is; so the
field of the kind comes out the same. -/
theorem outcome_kind {members : List (String × Datum)} (hscope : scope (.mapping members))
    (hkind : KindFits kind members) :
    Field.outcome ⟨"kind", .literal kind.name, some (.text kind.name)⟩
      (lib.checks nodes members) = .ok ("kind", .text kind.name) :=
  Library.outcome_checks_eq_ok_iff.mpr ⟨rfl, (h.holds_kind_iff hscope).mpr ⟨hkind, rfl⟩⟩

/-- A kind that is left out or right is the same to all checks as one that is put in. -/
theorem class_outcome_withKind (hscope : scope (.mapping members))
    (hscope' : scope (.mapping (withKind kind members))) (hkind : KindFits kind members) :
    kind.declaration.outcome (lib.checks nodes (withKind kind members)) =
      kind.declaration.outcome (lib.checks nodes members) := by
  -- The kind is checked by itself, and every other check is about another field.
  have hput := outcome_kind h hscope' (.inr (member?_kind_withKind kind members))
  have hfirst := hput.trans (outcome_kind h hscope hkind).symm
  have hcontents : kind.contents.map (·.outcome (lib.checks nodes (withKind kind members))) =
      kind.contents.map (·.outcome (lib.checks nodes members)) :=
    List.map_congr_left fun field hfield =>
      outcome_withKind_of_ne (name_ne_kind_of_mem_contents hfield)
  have hextra : refuseOthers (kind.declaration.fields.map Field.name)
        (lib.checks nodes (withKind kind members)) =
      refuseOthers (kind.declaration.fields.map Field.name) (lib.checks nodes members) := by
    have hmem : "kind" ∈ kind.declaration.fields.map Field.name := by
      simp [NodeKind.declaration]
    rw [refuseOthers_eq, refuseOthers_eq, extraDefects_checks, extraDefects_checks,
      extraDefects_withKind kind members hmem]
  rw [Class.outcome, Class.outcome, hextra]
  simp only [NodeKind.declaration, List.map_cons, hfirst, hcontents]

end Outcome

/-! ## Defects one step further in -/

/-- A defect is the same as another one, but found behind one more step. -/
def Defect.FoundBehind (step : Step) (d e : Defect) : Prop :=
  e.kind = d.kind ∧ e.location = step :: d.location

/-- A defect is found behind a step when it is the other one seen from there. -/
theorem Defect.foundBehind_iff {step : Step} {d e : Defect} :
    d.FoundBehind step e ↔ d.under step = e := by
  obtain ⟨kind, location⟩ := e
  simp [FoundBehind, under, eq_comm]

/-- A check that is seen from further out finds the same defects, one by one. -/
theorem Checked.under_eq_error_iff {α : Type} {step : Step} {c : Checked α} {es : List Defect} :
    c.under step = .error es ↔
      ∃ ds, c = .error ds ∧ List.Forall₂ (Defect.FoundBehind step) ds es := by
  have hbehind : Defect.FoundBehind step = fun d e => d.under step = e := by
    funext d e
    exact propext Defect.foundBehind_iff
  rw [under, mapError_eq_error_iff, hbehind]
  refine exists_congr fun ds => and_congr_right fun _ => ?_
  -- A list that is mapped to another one agrees with it place by place.
  rw [← List.forall₂_map_left_iff, List.forall₂_eq_eq_eq]

/-! ## Both ways agree -/

/-- Let a library do what is documented on the data in a scope, all data if it has no limits, and
let the kind among members be left out or be the given one, whatever else the members are. They make
a record of the class of that kind exactly when the mapping with the kind put in is accepted as the
same record. Otherwise there are as many defects in the members as in the mapping, of the same kinds
and in the same order, and each of those in the mapping is found behind the kind. -/
theorem check_withKind_iff_construct {lib : Library} {scope : Datum → Prop}
    (h : lib.DocumentedOn scope) (kind : NodeKind) {members : List (String × Datum)}
    (hkind : Json.member? "kind" members = none ∨
      Json.member? "kind" members = some (.text kind.name))
    (hscope : scope (.mapping members)) (hscope' : scope (.mapping (withKind kind members))) :
    (∀ result, lib.check nodes .union (.mapping (withKind kind members)) = .ok result ↔
      lib.construct nodes kind.declaration members = .ok result) ∧
    ∀ es, lib.check nodes .union (.mapping (withKind kind members)) = .error es ↔
      ∃ ds, lib.construct nodes kind.declaration members = .error ds ∧
        List.Forall₂ (Defect.FoundBehind (.field kind.name)) ds es := by
  rw [h.union_mapping hscope' (member?_kind_withKind kind members) (member?_nodes_name kind),
    h.construct hscope, class_outcome_withKind h hscope hscope' hkind]
  exact ⟨fun _ => Checked.under_eq_ok_iff, fun _ => Checked.under_eq_error_iff⟩

/-- All fields are wrong here, and there is one too many: the defects of the fields come in the
order of the fields, those of the children among them. -/
theorem check_withKind_of_many_defects :
    let members : List (String × Datum) :=
      [("id", .bool true), ("attributes", .list [.list [.text "a"], .null]),
        ("children", .list [.mapping [("kind", .text "text"), ("x", .null)], .int 1])]
    let es : List Defect :=
      [⟨.missing, [.field "element", .field "tag"]⟩,
        ⟨.missing, [.field "element", .field "attributes", .index 0, .index 1]⟩,
        ⟨.tupleType, [.field "element", .field "attributes", .index 1]⟩,
        ⟨.missing, [.field "element", .field "children", .index 0, .field "text", .field "text"]⟩,
        ⟨.extraForbidden,
          [.field "element", .field "children", .index 0, .field "text", .field "x"]⟩,
        ⟨.attributesType, [.field "element", .field "children", .index 1]⟩,
        ⟨.extraForbidden, [.field "element", .field "id"]⟩]
    checker.Documented ∧ Json.member? "kind" members = none ∧
      checker.check nodes .union (.mapping (withKind .element members)) = .error es ∧
      ∃ ds, checker.construct nodes NodeKind.element.declaration members = .error ds ∧
        List.Forall₂ (Defect.FoundBehind (.field "element")) ds es := by
  intro members es
  have hkind : Json.member? "kind" members = none := rfl
  have hcheck : checker.check nodes .union (.mapping (withKind .element members)) = .error es := rfl
  have hboth :=
    check_withKind_iff_construct checker_documented .element (.inl hkind) trivial trivial
  exact ⟨checker_documented, hkind, hcheck, (hboth.2 es).mp hcheck⟩

end Schema

end MarkupTree
