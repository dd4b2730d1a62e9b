import MarkupTree.Proofs.NodeTree
import MarkupTree.Proofs.ReadingSteps

/-!
# Values in context

What becomes of a value that is put into a slot somewhere inside another value. A `Frame` is an
element with one of its children taken out, and a path leads through one frame after the other.
Reading does not carry anything from the outside to the inside, so `toMarkup_replaceAt` holds
whatever the value is:

* an accepted value contributes its own markup, between two texts that depend on the frames only;
* a rejected value is reported as it is by itself, with the path of the slot put in front, and then
  the children behind the slot do not matter.
-/

namespace MarkupTree.Value

/-! ## Replacing a slot -/

/-- Puts a value into an existing slot of a sequence. -/
def replaceSlot : Value → (i : Int) → (w : Value) → Value
  | .sequence kind items, .ofNat i, w => .sequence kind (items.set i w)
  | v, _, _ => v

/-- Puts a value into the slot that a path leads to, if there is one. -/
def replaceAt (v : Value) : Path → (w : Value) → Value
  | [], w => w
  | i :: path, w =>
    match v.slot? i with
    | some child => v.replaceSlot i (child.replaceAt path w)
    | none => v

theorem replaceAt_cons_of_slot? {v child : Value} {i : Int} (h : v.slot? i = some child)
    (path : Path) (w : Value) :
    v.replaceAt (i :: path) w = v.replaceSlot i (child.replaceAt path w) := by
  rw [replaceAt, h]

/-! ## One level -/

/-- An element with one of its children taken out. -/
structure Frame where
  /-- Whether the element is a list or a tuple. -/
  kind : SequenceKind
  /-- The head of the element. -/
  tag : Symbol
  /-- The head is no marker, so the children are looked at. -/
  not_isMarker : ¬ tag.IsMarker
  /-- The attribute slot. -/
  slot : Value
  /-- The children before the one that is taken out. -/
  before : List Value
  /-- The children after it. -/
  after : List Value

namespace Frame

/-- The element with a child put in. -/
def plug (f : Frame) (w : Value) : Value :=
  .sequence f.kind (.symbol f.tag :: f.slot :: (f.before ++ w :: f.after))

/-- The index of the slot of the child. -/
def index (f : Frame) : Int := ((2 + f.before.length : Nat) : Int)

/-- What is read before the child is accepted. -/
structure AcceptsBefore (f : Frame) : Prop where
  /-- The attribute slot is accepted. -/
  attributes : ∃ attributes, f.slot.readAttributes = .ok attributes
  /-- The children before are accepted. -/
  before : ∀ c ∈ f.before, ∃ n, c.read = .ok n

/-- Everything around the child is accepted. -/
structure Accepts (f : Frame) : Prop extends f.AcceptsBefore where
  /-- The children after are accepted. -/
  after : ∀ c ∈ f.after, ∃ n, c.read = .ok n

variable (f : Frame)

/-- The child that was taken out is found where it is put back. -/
theorem slot?_plug (w : Value) : (f.plug w).slot? f.index = some w := by
  have hchild : (f.before ++ w :: f.after)[f.before.length]? = some w := by simp
  exact (slot?_child f.kind (.symbol f.tag) f.slot _ f.before.length).trans hchild

/-- Replacing the child is putting another one in its place. -/
theorem replaceSlot_plug (w w' : Value) : (f.plug w).replaceSlot f.index w' = f.plug w' := by
  have hset : (f.before ++ w :: f.after).set f.before.length w' = f.before ++ w' :: f.after := by
    simp
  have hindex : 2 + f.before.length = f.before.length + 1 + 1 := Nat.add_comm 2 _
  change Value.sequence f.kind (List.set _ (2 + f.before.length) w') = _
  rw [hindex, List.set_cons_succ, List.set_cons_succ, hset]
  rfl

theorem replaceAt_plug (child : Value) (path : Path) (w : Value) :
    (f.plug child).replaceAt (f.index :: path) w = f.plug (child.replaceAt path w) := by
  rw [replaceAt_cons_of_slot? (f.slot?_plug child), replaceSlot_plug]

variable {f}

/-- A rejected child is reported under its index, whatever comes after it. -/
theorem AcceptsBefore.read_plug (h : f.AcceptsBefore) {w : Value} {e : InvalidNode}
    (hw : w.read = .error e) : (f.plug w).read = .error (e.under f.index) := by
  obtain ⟨attributes, hattributes⟩ := h.attributes
  have hholds := readAttributes_eq_ok_iff.mp hattributes
  exact read_of_rejectedWith (.child f.kind f.after f.not_isMarker hholds h.before hw)

/-- An accepted child is written between what is written for the rest of the element. -/
theorem Accepts.exists_markup_plug (h : f.Accepts) :
    ∃ pre post, ∀ w n, w.read = .ok n →
      ∃ m, (f.plug w).read = .ok m ∧ m.markup = pre ++ n.markup ++ post := by
  obtain ⟨attributes, hattributes⟩ := h.attributes
  obtain ⟨before, hbefore⟩ := exists_forall₂_iff.mpr h.before
  obtain ⟨after, hafter⟩ := exists_forall₂_iff.mpr h.after
  have hholds := readAttributes_eq_ok_iff.mp hattributes
  refine ⟨"<" ++ f.tag.name ++ Markup.attributesText (attributesByName attributes) ++ ">" ++
    Node.markupAll before, Node.markupAll after ++ "</" ++ f.tag.name ++ ">", fun w n hn => ?_⟩
  have hchildren : List.Forall₂ (fun child node => child.read = .ok node)
      (f.before ++ w :: f.after) (before ++ n :: after) :=
    List.rel_append hbefore (.cons hn hafter)
  refine ⟨_, read_of_readsAs (.element f.kind f.not_isMarker hholds hchildren), ?_⟩
  rw [Node.markup_element_of_ne_nil _ _ (by simp), Node.markupAll_append, Node.markupAll_cons]
  simp only [String.append_assoc]

end Frame

/-! ## All levels -/

/-- A step of a path into the child that is taken out of a frame. -/
def EntersFrame (P : Frame → Prop) (v : Value) (i : Int) : Prop :=
  ∃ (f : Frame) (child : Value), v = f.plug child ∧ i = f.index ∧ P f

theorem Frame.alongPath_plug {P : Frame → Prop} {f : Frame} (hf : P f) {child : Value}
    {path : Path} (h : AlongPath (EntersFrame P) child path) :
    AlongPath (EntersFrame P) (f.plug child) (f.index :: path) :=
  (alongPath_cons_iff (f.slot?_plug child) path).mpr ⟨⟨f, child, rfl, rfl, hf⟩, h⟩

/-- A report about a value, as it comes out when the value stands at the end of a path. -/
theorem read_replaceAt_eq_error {v : Value} {path : Path}
    (h : AlongPath (EntersFrame Frame.AcceptsBefore) v path) {w : Value} {e : InvalidNode}
    (hw : w.read = .error e) :
    (v.replaceAt path w).read = .error { e with path := path ++ e.path } := by
  induction path generalizing v with
  | nil => exact hw
  | cons i path ih =>
    obtain ⟨f, child, rfl, rfl, hf⟩ := h.head
    have hchild := ((alongPath_cons_iff (f.slot?_plug child) path).mp h).2
    rw [f.replaceAt_plug, hf.read_plug (ih hchild)]
    rfl

theorem exists_markup_replaceAt {v : Value} {path : Path}
    (h : AlongPath (EntersFrame Frame.Accepts) v path) :
    ∃ pre post, ∀ w n, w.read = .ok n →
      ∃ m, (v.replaceAt path w).read = .ok m ∧ m.markup = pre ++ n.markup ++ post := by
  induction path generalizing v with
  | nil => exact ⟨"", "", fun w n hn => ⟨n, hn, by simp⟩⟩
  | cons i path ih =>
    obtain ⟨f, child, rfl, rfl, hf⟩ := h.head
    have hchild := ((alongPath_cons_iff (f.slot?_plug child) path).mp h).2
    -- The texts of the inner frames come inside those of the outer one.
    obtain ⟨pre, post, hinner⟩ := ih hchild
    obtain ⟨pre', post', houter⟩ := hf.exists_markup_plug
    refine ⟨pre' ++ pre, post ++ post', fun w n hn => ?_⟩
    obtain ⟨m, hm, hmarkup⟩ := hinner w n hn
    obtain ⟨m', hm', hmarkup'⟩ := houter _ m hm
    refine ⟨m', by rw [f.replaceAt_plug, hm'], ?_⟩
    rw [hmarkup', hmarkup]
    simp only [String.append_assoc]

/-- A value in a slot is written, or reported, as it is by itself. -/
theorem toMarkup_replaceAt (v : Value) (path : Path) :
    (AlongPath (EntersFrame Frame.Accepts) v path →
      ∃ pre post, ∀ w s, w.toMarkup = .ok s →
        (v.replaceAt path w).toMarkup = .ok (pre ++ s ++ post)) ∧
    (AlongPath (EntersFrame Frame.AcceptsBefore) v path →
      ∀ w e, w.toMarkup = .error e →
        (v.replaceAt path w).toMarkup = .error { e with path := path ++ e.path }) := by
  constructor
  · intro h
    obtain ⟨pre, post, hmarkup⟩ := exists_markup_replaceAt h
    refine ⟨pre, post, fun w s hs => ?_⟩
    obtain ⟨n, hn, rfl⟩ := map_eq_ok_iff.mp hs
    obtain ⟨m, hm, hm'⟩ := hmarkup w n hn
    exact map_eq_ok_iff.mpr ⟨m, hm, hm'⟩
  · intro h w e he
    have hread := read_replaceAt_eq_error h (map_eq_error_iff.mp he)
    exact map_eq_error_iff.mpr hread

/-- The second child of an item in a list. When all is well around it there are two texts to stand
around its markup; when the child after it is a number it is still the one that is reported. -/
theorem toMarkup_replaceAt_of_nested_item :
    let item (next : Value) : Frame := ⟨.tuple, ⟨"li", by decide⟩, by decide,
      .list [.tuple [.symbol ⟨"id", by decide⟩, .text "x"]], [.text "a"], [next]⟩
    let list : Frame := ⟨.list, ⟨"ul", by decide⟩, by decide, .null, [], [.text "&"]⟩
    let v (next : Value) : Value := list.plug ((item next).plug (.text "old"))
    let w : Value := .list [.symbol ⟨"b", by decide⟩]
    AlongPath (EntersFrame Frame.Accepts) (v (.text "b")) [2, 3] ∧
    (∃ pre post, ∀ w s, w.toMarkup = .ok s →
      ((v (.text "b")).replaceAt [2, 3] w).toMarkup = .ok (pre ++ s ++ post)) ∧
    AlongPath (EntersFrame Frame.AcceptsBefore) (v (.int 1)) [2, 3] ∧
    w.toMarkup = .error (Fault.atPath ⟨.tooShort, w⟩ []) ∧
    ((v (.int 1)).replaceAt [2, 3] w).toMarkup = .error (Fault.atPath ⟨.tooShort, w⟩ [2, 3]) := by
  intro item list v w
  have hitem (next : Value) : (item next).AcceptsBefore :=
    ⟨⟨_, rfl⟩, by simp only [item, List.forall_mem_singleton]; exact ⟨_, read_text "a"⟩⟩
  have hlist : list.Accepts :=
    ⟨⟨⟨_, rfl⟩, by simp [list]⟩,
      by simp only [list, List.forall_mem_singleton]; exact ⟨_, read_text "&"⟩⟩
  have hitem' : (item (.text "b")).Accepts :=
    ⟨hitem (.text "b"), by simp only [item, List.forall_mem_singleton]; exact ⟨_, read_text "b"⟩⟩
  have haccepts : AlongPath (EntersFrame Frame.Accepts) (v (.text "b")) [2, 3] :=
    Frame.alongPath_plug hlist (Frame.alongPath_plug hitem' (alongPath_nil _ _))
  have hbefore : AlongPath (EntersFrame Frame.AcceptsBefore) (v (.int 1)) [2, 3] :=
    Frame.alongPath_plug hlist.toAcceptsBefore
      (Frame.alongPath_plug (hitem (.int 1)) (alongPath_nil _ _))
  exact ⟨haccepts, (toMarkup_replaceAt _ _).1 haccepts, hbefore, rfl,
    (toMarkup_replaceAt _ _).2 hbefore w _ rfl⟩

end MarkupTree.Value
