import MarkupTree.Proofs.LineBreaks
import MarkupTree.Proofs.UniqueReading
import Std.Data.String.ToInt

/-!
# The path in a message

A message begins with the path of its report. Each index of the path ends where its bracket is
closed, and the path ends where no further bracket is opened, so it can be told from whatever
follows it (`Path.indices_append_inj`). The brackets, digits and colons that a reason or a value
brings into a message cannot make it look like a report about another place
(`InvalidNode.message_eq_message_iff`).
-/

namespace MarkupTree

namespace Path

/-! ## Indices in brackets -/

theorem toList_indices_nil : (indices []).toList = [] := String.toList_empty

theorem toList_indices_cons (i : Int) (p : Path) :
    (indices (i :: p)).toList = '[' :: ((toString i).toList ++ ']' :: (indices p).toList) := by
  simp [indices]

/-- Where there are indices, a bracket is opened first. -/
theorem mem_head?_indices_cons_append (i : Int) (p : Path) (x : List Char) :
    '[' ∈ ((indices (i :: p)).toList ++ x).head? := by
  rw [toList_indices_cons]
  rfl

/-- An index is read up to the bracket that closes it. -/
theorem index_append_inj {i j : Int} {x y : List Char}
    (h : (toString i).toList ++ ']' :: x = (toString j).toList ++ ']' :: y) : i = j ∧ x = y := by
  have hinside : ∀ k : Int, ∀ c ∈ (toString k).toList, c ≠ ']' := by
    rintro k c hc rfl
    exact absurd (Text.isDigit_or_eq_hyphen_of_mem_toString hc) (by decide)
  obtain ⟨hdigits, hrest⟩ := eq_of_append_eq_append (hinside i) (hinside j) (by simp) (by simp) h
  exact ⟨Int.repr_injective (String.toList_inj.mp hdigits), (List.cons.inj hrest).2⟩

/-- The indices of a path are uniquely read in front of anything that opens no bracket. -/
theorem indices_append_inj {p q : Path} {x y : List Char} (hx : ∀ c ∈ x.head?, c ≠ '[')
    (hy : ∀ c ∈ y.head?, c ≠ '[') (h : (indices p).toList ++ x = (indices q).toList ++ y) :
    p = q ∧ x = y := by
  induction p generalizing q with
  | nil =>
    rw [toList_indices_nil, List.nil_append] at h
    cases q with
    | nil => exact ⟨rfl, h⟩
    | cons j q =>
      -- The second path goes on where the first one is followed by `x`.
      have hbracket : '[' ∈ x.head? := h ▸ mem_head?_indices_cons_append j q y
      exact absurd rfl (hx '[' hbracket)
  | cons i p ih =>
    cases q with
    | nil =>
      rw [toList_indices_nil, List.nil_append] at h
      have hbracket : '[' ∈ y.head? := h ▸ mem_head?_indices_cons_append i p x
      exact absurd rfl (hy '[' hbracket)
    | cons j q =>
      -- Both go on with an index, and what stands behind the two is compared by induction.
      rw [toList_indices_cons, toList_indices_cons] at h
      simp only [List.cons_append, List.append_assoc, List.cons.injEq, true_and] at h
      obtain ⟨rfl, hrest⟩ := index_append_inj h
      obtain ⟨rfl, hxy⟩ := ih hrest
      exact ⟨rfl, hxy⟩

/-- A path with a colon behind it is told from any text that follows. -/
theorem text_append_colon_inj {p q : Path} {s t : String}
    (h : p.text ++ (": " ++ s) = q.text ++ (": " ++ t)) : p = q ∧ s = t := by
  rw [text, text, String.append_assoc, String.append_assoc] at h
  have hindices : indices p ++ (": " ++ s) = indices q ++ (": " ++ t) :=
    (String.append_right_inj "root").mp h
  have hchars : (indices p).toList ++ (": " ++ s).toList =
      (indices q).toList ++ (": " ++ t).toList := by
    rw [← String.toList_append, hindices, String.toList_append]
  obtain ⟨hpath, hrest⟩ := indices_append_inj (by simp) (by simp) hchars
  exact ⟨hpath, (String.append_right_inj ": ").mp (String.toList_inj.mp hrest)⟩

end Path

namespace InvalidNode

/-! ## Messages -/

/-- What a message says behind the path: why, and about what. -/
def details (e : InvalidNode) : String := e.reason.text ++ (": " ++ e.node.display)

theorem message_eq_append (e : InvalidNode) :
    e.message = "Invalid esxml node at " ++ (e.path.text ++ (": " ++ e.details)) := by
  change "Invalid esxml node at " ++ e.path.text ++ ": " ++ e.reason.text ++ ": " ++
    e.node.display = _
  simp only [details, String.append_assoc]

/-- A message identifies the path of its report, whatever the reasons and the values are: messages
are the same exactly when the paths are and the same text follows them. -/
theorem message_eq_message_iff (e₁ e₂ : InvalidNode) :
    e₁.message = e₂.message ↔ e₁.path = e₂.path ∧ e₁.details = e₂.details := by
  rw [message_eq_append, message_eq_append]
  constructor
  · intro h
    exact Path.text_append_colon_inj ((String.append_right_inj _).mp h)
  · rintro ⟨hpath, hdetails⟩
    rw [hpath, hdetails]

/-- An index that the reason brings along stands behind the colon. -/
example : (Fault.atPath ⟨.other "[1]: -3", .null⟩ [2]).message =
    "Invalid esxml node at root[2]: [1]: -3: None" := by decide

end InvalidNode

end MarkupTree
