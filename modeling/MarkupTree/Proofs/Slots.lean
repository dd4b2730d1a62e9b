import MarkupTree.InvalidNode
import MarkupTree.Proofs.FirstFailure

/-!
# Slots of a value

Induction over the slots of sequences, and the value at the end of a path. A path leads from slot to
slot; it leads nowhere as soon as a slot is missing or the value has no slots. A step that is taken
on one slot after the other reports its first failure under the index of the slot (`mapSlots`).
-/

namespace MarkupTree.Value

/-- Induction over the slots of sequences. What stands inside a mapping has no slot of its own. -/
@[elab_as_elim]
theorem slotInduction {P : Value → Prop}
    (sequence : ∀ kind items, (∀ v ∈ items, P v) → P (.sequence kind items))
    (atom : ∀ v : Value, v.items? = none → P v) : ∀ v, P v
  | .sequence kind items => sequence kind items fun v _ => slotInduction sequence atom v
  | .text s => atom (.text s) rfl
  | .null => atom .null rfl
  | .bool b => atom (.bool b) rfl
  | .int i => atom (.int i) rfl
  | .float x => atom (.float x) rfl
  | .mapping entries => atom (.mapping entries) rfl
  | .symbol s => atom (.symbol s) rfl
  | .node n => atom (.node n) rfl

/-- The value in one slot of a sequence. -/
def slot? (v : Value) : Int → Option Value
  | .ofNat i => v.items?.bind fun items => items[i]?
  | .negSucc _ => none

/-- The value that a path leads to. -/
def at? (v : Value) : Path → Option Value
  | [] => some v
  | i :: path => (v.slot? i).bind fun w => w.at? path

@[simp] theorem slot?_sequence (kind : SequenceKind) (items : List Value) (i : Nat) :
    (Value.sequence kind items).slot? i = items[i]? := rfl

theorem at?_cons (v : Value) (i : Int) (path : Path) :
    v.at? (i :: path) = (v.slot? i).bind fun w => w.at? path := rfl

theorem at?_cons_of_slot? {v w : Value} {i : Int} (h : v.slot? i = some w) (path : Path) :
    v.at? (i :: path) = w.at? path := by
  rw [at?_cons, h, Option.bind_some]

/-- A path is followed in two parts. -/
theorem at?_append (v : Value) (p q : Path) :
    v.at? (p ++ q) = (v.at? p).bind fun w => w.at? q := by
  induction p generalizing v with
  | nil => rfl
  | cons i p ih =>
    rw [List.cons_append, at?_cons, at?_cons, Option.bind_assoc]
    simp only [ih]

/-- The slots from 2 on hold what follows the first two items. -/
theorem slot?_child (kind : SequenceKind) (head slot : Value) (children : List Value) (i : Nat) :
    (Value.sequence kind (head :: slot :: children)).slot? ((2 + i : Nat) : Int) =
      children[i]? := by
  rw [slot?_sequence, Nat.add_comm]
  rfl

/-! ## The values on the way of a path -/

/-- A property of every value that a path goes through, and of the index with which it goes on. -/
def AlongPath (P : Value → Int → Prop) (v : Value) (path : Path) : Prop :=
  ∀ p i q, path = p ++ i :: q → ∃ w, v.at? p = some w ∧ P w i

theorem alongPath_nil (P : Value → Int → Prop) (v : Value) : AlongPath P v [] := by
  intro p i q h
  simp at h

theorem AlongPath.head {P : Value → Int → Prop} {v : Value} {i : Int} {path : Path}
    (h : AlongPath P v (i :: path)) : P v i := by
  obtain ⟨w, hw, hP⟩ := h [] i path rfl
  cases hw
  exact hP

theorem alongPath_cons_iff {P : Value → Int → Prop} {v w : Value} {i : Int}
    (h : v.slot? i = some w) (path : Path) :
    AlongPath P v (i :: path) ↔ P v i ∧ AlongPath P w path := by
  constructor
  · intro halong
    refine ⟨halong.head, fun p j q hpath => ?_⟩
    obtain ⟨w', hw', hP⟩ := halong (i :: p) j q (by rw [hpath]; rfl)
    rw [at?_cons_of_slot? h] at hw'
    exact ⟨w', hw', hP⟩
  · rintro ⟨hP, halong⟩ p j q hpath
    -- The path goes through the value itself, or through one inside the slot.
    cases p with
    | nil =>
      obtain ⟨rfl, -⟩ := List.cons.inj hpath
      exact ⟨v, rfl, hP⟩
    | cons k p =>
      obtain ⟨rfl, hrest⟩ := List.cons.inj hpath
      rw [at?_cons_of_slot? h]
      exact halong p j q hrest

/-- A path of one index has no index but that one. -/
theorem eq_of_singleton_eq_append {i j : Int} {p q : Path} (h : [i] = p ++ j :: q) :
    p = [] ∧ j = i := by
  rcases List.append_eq_singleton_iff.mp h.symm with ⟨rfl, hj⟩ | ⟨_, hq⟩
  · exact ⟨rfl, (List.cons.inj hj).1⟩
  · exact absurd hq (List.cons_ne_nil j q)

/-! ## One step for each slot -/

variable {α : Type}

/-- Takes a step on the values in the slots from `i` on, from left to right. -/
def mapSlots (f : Value → Except InvalidNode α) (i : Nat) :
    List Value → Except InvalidNode (List α)
  | [] => .ok []
  | v :: vs => do
    let first ← (f v).mapError (·.under i)
    let others ← mapSlots f (i + 1) vs
    return first :: others

variable {f : Value → Except InvalidNode α} {i : Nat} {vs : List Value}

/-- The step succeeds on all slots when it does so on every value, wherever the values stand. -/
theorem mapSlots_eq_ok_iff {as : List α} :
    mapSlots f i vs = .ok as ↔ List.Forall₂ (fun v a => f v = .ok a) vs as := by
  induction vs generalizing i as with
  | nil =>
    rw [mapSlots, List.forall₂_nil_left_iff]
    exact ⟨fun h => (Except.ok.inj h).symm, fun h => by rw [h]⟩
  | cons v vs ih =>
    rw [mapSlots, bind_eq_ok_iff, List.forall₂_cons_left_iff]
    constructor
    · rintro ⟨a, ha, h⟩
      obtain ⟨as', has', h⟩ := bind_eq_ok_iff.mp h
      exact ⟨a, as', mapError_eq_ok_iff.mp ha, ih.mp has', (Except.ok.inj h).symm⟩
    · rintro ⟨a, as', ha, has', rfl⟩
      refine ⟨a, mapError_eq_ok_iff.mpr ha, ?_⟩
      exact bind_eq_ok_iff.mpr ⟨as', ih.mpr has', rfl⟩

/-- The first value on which the step fails is reported, under the index of its slot. -/
theorem mapSlots_eq_error_iff {e : InvalidNode} :
    mapSlots f i vs = .error e ↔
      ∃ before v after e₀, vs = before ++ v :: after ∧ (∀ u ∈ before, ∃ a, f u = .ok a) ∧
        f v = .error e₀ ∧ e = e₀.under ((i + before.length : Nat) : Int) := by
  induction vs generalizing i with
  | nil =>
    rw [mapSlots]
    exact ⟨nofun, fun ⟨before, v, after, _, h, _⟩ => by simp at h⟩
  | cons v vs ih =>
    rw [mapSlots, bind_eq_error_iff]
    constructor
    -- The index of a later value is counted from the slot after the first one.
    · rintro (h | ⟨a, ha, h⟩)
      · obtain ⟨e₀, he₀, rfl⟩ := mapError_eq_error_iff.mp h
        exact ⟨[], v, vs, e₀, rfl, by simp, he₀, rfl⟩
      · rcases bind_eq_error_iff.mp h with h | ⟨_, _, h⟩
        · obtain ⟨before, u, after, e₀, rfl, hbefore, he₀, rfl⟩ := ih.mp h
          refine ⟨v :: before, u, after, e₀, rfl, ?_, he₀, ?_⟩
          · exact List.forall_mem_cons.mpr ⟨⟨a, mapError_eq_ok_iff.mp ha⟩, hbefore⟩
          · rw [List.length_cons, Nat.add_assoc, Nat.add_comm 1]
        · cases h
    · rintro ⟨before, u, after, e₀, h, hbefore, he₀, rfl⟩
      cases before with
      | nil =>
        obtain ⟨rfl, rfl⟩ := List.cons.inj h
        exact .inl (mapError_eq_error_iff.mpr ⟨e₀, he₀, rfl⟩)
      | cons u' before =>
        obtain ⟨rfl, rfl⟩ := List.cons.inj h
        obtain ⟨⟨a, ha⟩, hbefore⟩ := List.forall_mem_cons.mp hbefore
        refine .inr ⟨a, mapError_eq_ok_iff.mpr ha, bind_eq_error_iff.mpr (.inl ?_)⟩
        refine ih.mpr ⟨before, u, after, e₀, rfl, hbefore, he₀, ?_⟩
        rw [List.length_cons, Nat.add_assoc, Nat.add_comm 1]

end MarkupTree.Value
