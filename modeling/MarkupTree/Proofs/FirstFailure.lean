import Mathlib.Data.List.Forall2

/-!
# Steps that may fail, one after the other

How a composed computation in `Except` comes to its result or to its error. A chain of steps
succeeds when all of them do, and fails with the error of the first step that fails: for a list this
is `mapM_eq_ok_iff` and `mapM_eq_error_iff`.
-/

namespace MarkupTree

variable {ε ε' ε'' α β γ : Type}

/-- Two steps succeed when both do. -/
theorem bind_eq_ok_iff {m : Except ε α} {f : α → Except ε β} {b : β} :
    m >>= f = .ok b ↔ ∃ a, m = .ok a ∧ f a = .ok b := by
  cases m <;> simp [bind, Except.bind]

/-- Two steps fail with the first one that fails. -/
theorem bind_eq_error_iff {m : Except ε α} {f : α → Except ε β} {e : ε} :
    m >>= f = .error e ↔ m = .error e ∨ ∃ a, m = .ok a ∧ f a = .error e := by
  cases m <;> simp [bind, Except.bind]

theorem mapError_eq_ok_iff {m : Except ε α} {f : ε → ε'} {a : α} :
    m.mapError f = .ok a ↔ m = .ok a := by
  cases m <;> simp [Except.mapError]

theorem mapError_eq_error_iff {m : Except ε α} {f : ε → ε'} {e : ε'} :
    m.mapError f = .error e ↔ ∃ e₀, m = .error e₀ ∧ f e₀ = e := by
  cases m <;> simp [Except.mapError]

theorem map_eq_ok_iff {m : Except ε α} {f : α → β} {b : β} :
    m.map f = .ok b ↔ ∃ a, m = .ok a ∧ f a = b := by
  cases m <;> simp [Except.map]

theorem map_eq_error_iff {m : Except ε α} {f : α → β} {e : ε} :
    m.map f = .error e ↔ m = .error e := by
  cases m <;> simp [Except.map]

/-! ## Changing the error -/

theorem mapError_mapError (m : Except ε α) (f : ε → ε') (g : ε' → ε'') :
    (m.mapError f).mapError g = m.mapError fun e => g (f e) := by
  cases m <;> rfl

/-- Errors can be changed in each step or at the end. -/
theorem mapError_bind (m : Except ε α) (f : α → Except ε β) (g : ε → ε') :
    (m >>= f).mapError g = m.mapError g >>= fun a => (f a).mapError g := by
  cases m <;> rfl

/-- Errors can be changed for each item or at the end. -/
theorem mapError_mapM (as : List α) (f : α → Except ε β) (g : ε → ε') :
    (as.mapM f).mapError g = as.mapM fun a => (f a).mapError g := by
  induction as with
  | nil => rfl
  | cons a as ih =>
    rw [List.mapM_cons, List.mapM_cons, mapError_bind, ← ih]
    simp only [mapError_bind]
    rfl

/-! ## Outcomes described apart -/

section Total

variable {m : Except ε α} {p : α → Prop} {q : ε → Prop}

/-- A computation has one outcome. So where it is known which results and which errors make up the
outcomes, and there is always one of them, a result is an outcome only if it is described. -/
theorem eq_ok_iff_of_total (hok : ∀ a, p a → m = .ok a) (herror : ∀ e, q e → m = .error e)
    (htotal : (∃ a, p a) ∨ ∃ e, q e) {a : α} : m = .ok a ↔ p a := by
  constructor
  · intro h
    rcases htotal with ⟨a', ha'⟩ | ⟨e, he⟩
    · have heq : Except.ok a = .ok a' := h.symm.trans (hok a' ha')
      rwa [Except.ok.inj heq]
    · have heq : Except.ok a = .error e := h.symm.trans (herror e he)
      cases heq
  · exact hok a

theorem eq_error_iff_of_total (hok : ∀ a, p a → m = .ok a) (herror : ∀ e, q e → m = .error e)
    (htotal : (∃ a, p a) ∨ ∃ e, q e) {e : ε} : m = .error e ↔ q e := by
  constructor
  · intro h
    rcases htotal with ⟨a, ha⟩ | ⟨e', he'⟩
    · have heq : Except.error e = .ok a := h.symm.trans (hok a ha)
      cases heq
    · have heq : Except.error e = .error e' := h.symm.trans (herror e' he')
      rwa [Except.error.inj heq]
  · exact herror e

end Total

/-! ## Lists -/

/-- A step over a list succeeds exactly when it does so on every item. -/
theorem mapM_eq_ok_iff {f : α → Except ε β} {as : List α} {bs : List β} :
    as.mapM f = .ok bs ↔ List.Forall₂ (fun a b => f a = .ok b) as bs := by
  induction as generalizing bs with
  | nil =>
    rw [List.mapM_nil, List.forall₂_nil_left_iff]
    exact ⟨fun h => (Except.ok.inj h).symm, fun h => by rw [h]; rfl⟩
  | cons a as ih =>
    rw [List.mapM_cons, bind_eq_ok_iff, List.forall₂_cons_left_iff]
    constructor
    · rintro ⟨b, hb, h⟩
      obtain ⟨bs', hbs', h⟩ := bind_eq_ok_iff.mp h
      exact ⟨b, bs', hb, ih.mp hbs', (Except.ok.inj h).symm⟩
    · rintro ⟨b, bs', hb, hbs', rfl⟩
      exact ⟨b, hb, bind_eq_ok_iff.mpr ⟨bs', ih.mpr hbs', rfl⟩⟩

/-- What a step makes of the items of a mapped list is known item by item. -/
theorem mapM_map_eq_ok_map {f : β → Except ε γ} {g : α → β} {k : α → γ} {as : List α}
    (h : ∀ a ∈ as, f (g a) = .ok (k a)) : (as.map g).mapM f = .ok (as.map k) := by
  rw [mapM_eq_ok_iff, List.forall₂_map_left_iff, List.forall₂_map_right_iff, List.forall₂_same]
  exact h

/-- A step that takes a mapping back on every item takes it back on the list. -/
theorem mapM_map_eq_ok_self {f : β → Except ε α} {g : α → β} {as : List α}
    (h : ∀ a ∈ as, f (g a) = .ok a) : (as.map g).mapM f = .ok as := by
  rw [mapM_eq_ok_iff, List.forall₂_map_left_iff, List.forall₂_same]
  exact h

/-- A step over a list fails with the error of the first item on which it fails. -/
theorem mapM_eq_error_iff {f : α → Except ε β} {as : List α} {e : ε} :
    as.mapM f = .error e ↔
      ∃ before a after, as = before ++ a :: after ∧ (∀ x ∈ before, ∃ y, f x = .ok y) ∧
        f a = .error e := by
  induction as with
  | nil =>
    rw [List.mapM_nil]
    exact ⟨nofun, fun ⟨before, a, after, h, _⟩ => by simp at h⟩
  | cons a as ih =>
    rw [List.mapM_cons, bind_eq_error_iff]
    constructor
    -- Either the first item fails, or it succeeds and the fault is that of the other items.
    · rintro (h | ⟨b, hb, h⟩)
      · exact ⟨[], a, as, rfl, by simp, h⟩
      · rcases bind_eq_error_iff.mp h with h | ⟨_, _, h⟩
        · obtain ⟨before, x, after, rfl, hbefore, hx⟩ := ih.mp h
          exact ⟨a :: before, x, after, rfl, List.forall_mem_cons.mpr ⟨⟨b, hb⟩, hbefore⟩, hx⟩
        · cases h
    · rintro ⟨before, x, after, h, hbefore, hx⟩
      -- The failing item is the first one when nothing stands before it.
      cases before with
      | nil =>
        obtain ⟨rfl, rfl⟩ := List.cons.inj h
        exact .inl hx
      | cons y before =>
        obtain ⟨rfl, rfl⟩ := List.cons.inj h
        obtain ⟨⟨b, hb⟩, hbefore⟩ := List.forall_mem_cons.mp hbefore
        have hrest := ih.mpr ⟨before, x, after, rfl, hbefore, hx⟩
        exact .inr ⟨b, hb, bind_eq_error_iff.mpr (.inl hrest)⟩

/-- A list has a counterpart item by item exactly when each of its items has one. -/
theorem exists_forall₂_iff {R : α → β → Prop} {as : List α} :
    (∃ bs, List.Forall₂ R as bs) ↔ ∀ a ∈ as, ∃ b, R a b := by
  induction as with
  | nil => exact ⟨fun _ => by simp, fun _ => ⟨[], .nil⟩⟩
  | cons a as ih =>
    rw [List.forall_mem_cons, ← ih]
    constructor
    · rintro ⟨bs, h⟩
      obtain ⟨b, bs', hb, hbs', -⟩ := List.forall₂_cons_left_iff.mp h
      exact ⟨⟨b, hb⟩, bs', hbs'⟩
    · rintro ⟨⟨b, hb⟩, bs, hbs⟩
      exact ⟨b :: bs, .cons hb hbs⟩

/-- Two lists correspond through a third one when their items do so one by one. -/
theorem forall₂_comp_iff {R : α → β → Prop} {S : β → γ → Prop} {as : List α} {cs : List γ} :
    List.Forall₂ (fun a c => ∃ b, R a b ∧ S b c) as cs ↔
      ∃ bs, List.Forall₂ R as bs ∧ List.Forall₂ S bs cs := by
  constructor
  · intro h
    induction h with
    | nil => exact ⟨[], .nil, .nil⟩
    | cons hac _ ih =>
      obtain ⟨b, hab, hbc⟩ := hac
      obtain ⟨bs, habs, hbcs⟩ := ih
      exact ⟨b :: bs, .cons hab habs, .cons hbc hbcs⟩
  · rintro ⟨bs, habs, hbcs⟩
    induction habs generalizing cs with
    | nil => cases hbcs; exact .nil
    | cons hab _ ih =>
      cases hbcs with
      | cons hbc hbcs => exact .cons ⟨_, hab, hbc⟩ (ih hbcs)

/-- Opposite items may be compared in another way where that follows for the items of the lists. -/
theorem forall₂_imp_of_mem {R S : α → β → Prop} {as : List α} {bs : List β}
    (h : List.Forall₂ R as bs) (hRS : ∀ a ∈ as, ∀ b ∈ bs, R a b → S a b) :
    List.Forall₂ S as bs := by
  induction h with
  | nil => exact .nil
  | cons hab _ ih =>
    refine .cons (hRS _ List.mem_cons_self _ List.mem_cons_self hab) (ih fun a ha b hb => ?_)
    exact hRS a (List.mem_cons_of_mem _ ha) b (List.mem_cons_of_mem _ hb)

/-- Items at the same place are related. -/
theorem exists_getElem?_of_forall₂ {R : α → β → Prop} {as : List α} {bs : List β}
    (h : List.Forall₂ R as bs) {i : Nat} {b : β} (hb : bs[i]? = some b) :
    ∃ a, as[i]? = some a ∧ R a b := by
  induction h generalizing i with
  | nil => cases hb
  | @cons a b' as bs hab _ ih =>
    cases i with
    | zero => cases hb; exact ⟨a, rfl, hab⟩
    | succ i => exact ih hb

/-- What stands opposite to an item of the right list. -/
theorem exists_mem_of_forall₂_right {R : α → β → Prop} {as : List α} {bs : List β}
    (h : List.Forall₂ R as bs) {b : β} (hb : b ∈ bs) : ∃ a ∈ as, R a b := by
  induction h with
  | nil => cases hb
  | @cons a b' as bs hab _ ih =>
    rcases List.mem_cons.mp hb with rfl | hb
    · exact ⟨a, List.mem_cons_self, hab⟩
    · obtain ⟨a', ha', hR⟩ := ih hb
      exact ⟨a', List.mem_cons_of_mem a ha', hR⟩

end MarkupTree
