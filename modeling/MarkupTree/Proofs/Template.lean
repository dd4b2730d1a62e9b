/-!
# Templates

A template is a text with holes: literal texts with a hole between each two of them. Filling the
holes keeps to the order of the literals, so where the filled-in texts hold none of the characters
that one looks for, those characters are the ones of the literals (`filter_render`).
-/

namespace MarkupTree

/-- Literal texts with holes between them. -/
inductive Template where
  /-- The literal after the last hole. -/
  | last (literal : String)
  /-- A literal, the hole after it, and the rest of the template. -/
  | hole (literal : String) (rest : Template)

namespace Template

/-- The number of holes. -/
def holes : Template → Nat
  | .last _ => 0
  | .hole _ rest => rest.holes + 1

/-- The literals, one more than there are holes. -/
def literals : Template → List String
  | .last literal => [literal]
  | .hole literal rest => literal :: rest.literals

/-- The text of a template with texts put into its holes, in order. -/
def render : Template → (texts : List String) → String
  | .last literal, _ => literal
  | .hole literal rest, [] => literal ++ rest.render []
  | .hole literal rest, x :: xs => literal ++ x ++ rest.render xs

/-- Puts a text in front of the first literal. -/
def prepend (s : String) : Template → Template
  | .last literal => .last (s ++ literal)
  | .hole literal rest => .hole (s ++ literal) rest

/-- One template after the other: the literals that meet become one. -/
protected def append : Template → Template → Template
  | .last literal, t => t.prepend literal
  | .hole literal rest, t => .hole literal (rest.append t)

instance : Append Template := ⟨Template.append⟩

/-- The literal of a template without holes goes in front of the other template. -/
@[simp] theorem last_append (literal : String) (t : Template) :
    .last literal ++ t = t.prepend literal := rfl

/-- The first hole of a template stays the first one. -/
@[simp] theorem hole_append (literal : String) (rest t : Template) :
    .hole literal rest ++ t = .hole literal (rest ++ t) := rfl

/-- There is a literal in front of each hole and one behind the last. -/
theorem length_literals (t : Template) : t.literals.length = t.holes + 1 := by
  induction t with
  | last literal => rfl
  | hole literal rest ih => rw [literals, List.length_cons, ih, holes]

/-- A text in front of a template makes no hole. -/
@[simp] theorem holes_prepend (s : String) (t : Template) : (t.prepend s).holes = t.holes := by
  cases t <;> rfl

/-- One template after the other has the holes of both. -/
@[simp] theorem holes_append (t u : Template) : (t ++ u).holes = t.holes + u.holes := by
  induction t with
  | last literal => simp [holes]
  | hole literal rest ih =>
    rw [hole_append, holes, holes, ih]
    omega

/-- A text in front of a template stands in front of what is filled in. -/
@[simp] theorem render_prepend (s : String) (t : Template) (xs : List String) :
    (t.prepend s).render xs = s ++ t.render xs := by
  cases t with
  | last literal => rfl
  | hole literal rest => cases xs <;> simp [prepend, render, String.append_assoc]

/-- A text behind a template stands behind what is filled in. -/
@[simp] theorem render_append_last (t : Template) (s : String) (xs : List String) :
    (t ++ .last s).render xs = t.render xs ++ s := by
  induction t generalizing xs with
  | last literal => rfl
  | hole literal rest ih => cases xs <;> simp only [hole_append, render, ih, String.append_assoc]

/-- Two templates in a row are filled one after the other. -/
theorem render_append {t : Template} {xs : List String} (h : xs.length = t.holes) (u : Template)
    (ys : List String) : (t ++ u).render (xs ++ ys) = t.render xs ++ u.render ys := by
  induction t generalizing xs with
  | last literal =>
    obtain rfl := List.length_eq_zero_iff.mp h
    rw [last_append, render_prepend, render, List.nil_append]
  | hole literal rest ih =>
    cases xs with
    | nil => cases h
    | cons x xs =>
      have hrest : xs.length = rest.holes := Nat.succ.inj h
      rw [hole_append, List.cons_append, render, render, ih hrest]
      simp only [String.append_assoc]

/-- Characters that none of the filled-in texts holds are those of the literals. -/
theorem filter_render {p : Char → Bool} {t : Template} {xs : List String}
    (hxs : ∀ x ∈ xs, ∀ c ∈ x.toList, ¬ p c) :
    (t.render xs).toList.filter p = t.literals.flatMap fun s => s.toList.filter p := by
  induction t generalizing xs with
  | last literal => rw [render, literals, List.flatMap_singleton]
  | hole literal rest ih =>
    rw [literals, List.flatMap_cons]
    cases xs with
    | nil => rw [render, String.toList_append, List.filter_append, ih hxs]
    | cons x xs =>
      -- The text in the first hole adds nothing.
      obtain ⟨hx, hxs⟩ := List.forall_mem_cons.mp hxs
      have hnone : x.toList.filter p = [] := List.filter_eq_nil_iff.mpr hx
      rw [render, String.toList_append, String.toList_append, List.filter_append,
        List.filter_append, hnone, List.append_nil, ih hxs]

end Template

end MarkupTree
