import MarkupTree.Proofs.ReadingSteps
import Mathlib.Logic.Relation

/-!
# Respellings

A value can be spelled in several ways that reading does not tell apart: lists and tuples, the
spellings of an empty attribute slot, a mapping or the list of its pairs, and whatever stands in the
slots of raw text and comments that are never looked at. `Respells` is one such change, at any
depth. What reading makes of a value, up to the offending value of a report, is its `verdict`; one
change does not alter it (`Respells.verdict_eq`), so neither do any number of them.
-/

namespace MarkupTree

/-- What a report says of a fault apart from the offending value: why and where. -/
def InvalidNode.diagnosis (e : InvalidNode) : Reason × Path := (e.reason, e.path)

namespace Value

/-! ## Respellings -/

/-- The spellings of an attribute slot without attributes. -/
inductive EmptySlot : Value → Prop
  /-- The absent value. -/
  | null : EmptySlot .null
  /-- An empty list or tuple. -/
  | sequence (kind) : EmptySlot (.sequence kind [])
  /-- An empty mapping. -/
  | mapping : EmptySlot (.mapping [])

/-- One change in the spelling of an attribute slot. -/
inductive RespellsSlot : Value → Value → Prop
  /-- The same entries, as a list or as a tuple. -/
  | sequence (kind kind' entries) :
      RespellsSlot (.sequence kind entries) (.sequence kind' entries)
  /-- An entry with the same items, as a list or as a tuple. -/
  | entry (kind before kind₁ kind₂ items after) :
      RespellsSlot (.sequence kind (before ++ .sequence kind₁ items :: after))
        (.sequence kind (before ++ .sequence kind₂ items :: after))
  /-- Another way to write no attributes. -/
  | empty {slot slot'} (h : EmptySlot slot) (h' : EmptySlot slot') : RespellsSlot slot slot'
  /-- The list of the pairs of a mapping. -/
  | mapping (entries) :
      RespellsSlot (.mapping entries)
        (.list (entries.map fun (name, value) => .tuple [name, value]))

/-- One change in the spelling of a value that is read as a node. The changes inside a sequence are
allowed whatever its head is. -/
inductive Respells : Value → Value → Prop
  /-- The same items, as a list or as a tuple. -/
  | sequence (kind kind' items) : Respells (.sequence kind items) (.sequence kind' items)
  /-- A change in the attribute slot. -/
  | attributes (kind head children) {slot slot'} (h : RespellsSlot slot slot') :
      Respells (.sequence kind (head :: slot :: children))
        (.sequence kind (head :: slot' :: children))
  /-- Another placeholder in a comment. -/
  | placeholder (kind second second' rest) :
      Respells (.sequence kind (.symbol .comment :: second :: rest))
        (.sequence kind (.symbol .comment :: second' :: rest))
  /-- Other slots after the payload of raw text. -/
  | afterRaw (kind payload rest rest') :
      Respells (.sequence kind (.symbol .rawString :: payload :: rest))
        (.sequence kind (.symbol .rawString :: payload :: rest'))
  /-- Other slots after the payload of a comment. -/
  | afterComment (kind second payload rest rest') :
      Respells (.sequence kind (.symbol .comment :: second :: payload :: rest))
        (.sequence kind (.symbol .comment :: second :: payload :: rest'))
  /-- A change in a child. -/
  | child (kind head slot before after) {child child'} (h : Respells child child') :
      Respells (.sequence kind (head :: slot :: (before ++ child :: after)))
        (.sequence kind (head :: slot :: (before ++ child' :: after)))

/-! ## Verdicts -/

/-- What reading makes of an attribute slot, up to the offending value. -/
def slotVerdict (slot : Value) : Except Reason (List (Symbol × String)) :=
  slot.readAttributes.mapError (·.reason)

/-- What reading makes of a value, up to the offending value. -/
def verdict (v : Value) : Except (Reason × Path) Node := v.read.mapError InvalidNode.diagnosis

/-- What reading makes of the children from slot `i` on, up to the offending value. -/
def childrenVerdict (i : Nat) (children : List Value) : Except (Reason × Path) (List Node) :=
  (readChildren i children).mapError InvalidNode.diagnosis

theorem childrenVerdict_cons (i : Nat) (v : Value) (vs : List Value) :
    childrenVerdict i (v :: vs) = do
      let child ← v.verdict.mapError fun (reason, path) => (reason, (i : Int) :: path)
      let children ← childrenVerdict (i + 1) vs
      return child :: children := by
  rw [childrenVerdict, readChildren_cons, mapError_bind]
  simp only [mapError_bind, mapError_mapError, verdict, childrenVerdict]
  rfl

/-- Only the verdict on a child counts for the verdict on the children. -/
theorem childrenVerdict_append_congr {child child' : Value} (h : child.verdict = child'.verdict)
    (i : Nat) (before after : List Value) :
    childrenVerdict i (before ++ child :: after) =
      childrenVerdict i (before ++ child' :: after) := by
  induction before generalizing i with
  | nil => rw [List.nil_append, List.nil_append, childrenVerdict_cons, childrenVerdict_cons, h]
  | cons v before ih =>
    rw [List.cons_append, List.cons_append, childrenVerdict_cons, childrenVerdict_cons, ih]

theorem verdict_element (kind : SequenceKind) {head : Value} {tag : Symbol}
    (h : head.asHead = .tag tag) (slot : Value) (children : List Value) :
    (Value.sequence kind (head :: slot :: children)).verdict = do
      let attributes ← slot.slotVerdict.mapError fun reason => (reason, [1])
      let children ← childrenVerdict 2 children
      return .element tag.name (attributesByName attributes) children := by
  rw [verdict, read_element kind h, mapError_bind, slotVerdict, mapError_mapError,
    mapError_mapError]
  simp only [mapError_bind, childrenVerdict]
  rfl

/-- The verdict on a sequence depends on its head and on what the head makes reading look at. -/
theorem verdict_sequence_congr {head second second' : Value} {rest rest' : List Value}
    (kind kind' : SequenceKind)
    (hraw : head.asHead = .raw → rawPayload? second = rawPayload? second')
    (hcomment : head.asHead = .comment → commentPayload? rest = commentPayload? rest')
    (helement : ∀ tag, head.asHead = .tag tag →
      second.slotVerdict = second'.slotVerdict ∧
        childrenVerdict 2 rest = childrenVerdict 2 rest') :
    (Value.sequence kind (head :: second :: rest)).verdict =
      (Value.sequence kind' (head :: second' :: rest')).verdict := by
  cases hhead : head.asHead with
  | raw =>
    rw [verdict, verdict, read, read, hhead]
    simp only [hraw hhead]
    cases rawPayload? second' <;> rfl
  | comment =>
    rw [verdict, verdict, read, read, hhead]
    simp only [hcomment hhead]
    cases commentPayload? rest' <;> rfl
  | tag tag =>
    obtain ⟨hslot, hchildren⟩ := helement tag hhead
    rw [verdict_element kind hhead, verdict_element kind' hhead, hslot, hchildren]
  | other =>
    rw [verdict, verdict, read, read, hhead]
    rfl

/-! ## One change -/

theorem EmptySlot.slotVerdict_eq {slot : Value} (h : EmptySlot slot) :
    slot.slotVerdict = .ok [] := by
  cases h <;> rfl

/-- An entry is a pair, or none, whether it is a list or a tuple. -/
theorem mapError_readPair_sequence (kind kind' : SequenceKind) (items : List Value) :
    (readPair (.sequence kind items)).mapError Fault.reason =
      (readPair (.sequence kind' items)).mapError Fault.reason := by
  rcases items with _ | ⟨_, _ | ⟨_, _ | ⟨_, _⟩⟩⟩ <;> rfl

/-- The verdict on a sequence of entries comes from the verdicts on each of them. -/
theorem slotVerdict_sequence (kind : SequenceKind) (entries : List Value) :
    (Value.sequence kind entries).slotVerdict =
      (entries.mapM fun entry => (readPair entry).mapError Fault.reason) >>= fun pairs =>
        pairs.mapM fun pair => (readAttribute pair).mapError Fault.reason := by
  rw [slotVerdict, readAttributes, mapError_bind, attributePairs, mapError_mapM]
  simp only [mapError_mapM]

/-- A change in an attribute slot does not alter what is made of it. -/
theorem RespellsSlot.slotVerdict_eq {slot slot' : Value} (h : RespellsSlot slot slot') :
    slot.slotVerdict = slot'.slotVerdict := by
  cases h with
  | sequence kind kind' entries => rfl
  | entry kind before kind₁ kind₂ items after =>
    rw [slotVerdict_sequence, slotVerdict_sequence, List.mapM_append, List.mapM_append,
      List.mapM_cons, List.mapM_cons, mapError_readPair_sequence kind₁ kind₂]
  | empty h h' => rw [h.slotVerdict_eq, h'.slotVerdict_eq]
  | mapping entries =>
    have hpairs : (entries.map fun (name, value) => Value.tuple [name, value]).mapM readPair =
        .ok entries :=
      mapM_map_eq_ok_self fun _ _ => rfl
    rw [slotVerdict, slotVerdict, readAttributes, readAttributes, attributePairs, attributePairs,
      hpairs]

/-- A text has no other spelling, so a payload stays what it is. -/
theorem RespellsSlot.rawPayload?_eq {slot slot' : Value} (h : RespellsSlot slot slot') :
    rawPayload? slot = rawPayload? slot' := by
  cases h with
  | empty h h' => cases h <;> cases h' <;> rfl
  | _ => rfl

theorem Respells.rawPayload?_eq {v w : Value} (h : Respells v w) :
    rawPayload? v = rawPayload? w := by
  cases h <;> rfl

/-- A change at any depth does not alter the verdict. -/
theorem Respells.verdict_eq {v w : Value} (h : Respells v w) : v.verdict = w.verdict := by
  induction h with
  | sequence kind kind' items =>
    match items with
    | [] | [_] =>
      rw [verdict, verdict, read_of_length_lt_two kind (by simp),
        read_of_length_lt_two kind' (by simp)]
      rfl
    | head :: second :: rest =>
      exact verdict_sequence_congr kind kind' (fun _ => rfl) (fun _ => rfl) fun _ _ => ⟨rfl, rfl⟩
  | attributes kind head children h =>
    exact verdict_sequence_congr kind kind (fun _ => h.rawPayload?_eq) (fun _ => rfl)
      fun _ _ => ⟨h.slotVerdict_eq, rfl⟩
  | placeholder kind second second' rest =>
    exact verdict_sequence_congr kind kind nofun (fun _ => rfl) nofun
  | afterRaw kind payload rest rest' =>
    exact verdict_sequence_congr kind kind (fun _ => rfl) nofun nofun
  | afterComment kind second payload rest rest' =>
    refine verdict_sequence_congr kind kind nofun (fun _ => ?_) nofun
    rw [commentPayload?_eq_bind, commentPayload?_eq_bind]
    rfl
  | child kind head slot before after h ih =>
    refine verdict_sequence_congr kind kind (fun _ => rfl) (fun _ => ?_)
      fun _ _ => ⟨rfl, childrenVerdict_append_congr ih 2 before after⟩
    rw [commentPayload?_eq_bind, commentPayload?_eq_bind]
    cases before with
    | nil => exact h.rawPayload?_eq
    | cons v before => rfl

/-! ## Any number of changes -/

theorem verdict_eq_of_reflTransGen {v w : Value} (h : Relation.ReflTransGen Respells v w) :
    v.verdict = w.verdict := by
  induction h with
  | refl => rfl
  | tail _ hstep ih => exact ih.trans hstep.verdict_eq

theorem verdict_eq_ok_iff {v : Value} {n : Node} : v.verdict = .ok n ↔ v.read = .ok n :=
  mapError_eq_ok_iff

theorem verdict_eq_error_iff {v : Value} {reason : Reason} {path : Path} :
    v.verdict = .error (reason, path) ↔ ∃ x, v.read = .error (Fault.atPath ⟨reason, x⟩ path) := by
  rw [verdict, mapError_eq_error_iff]
  constructor
  · rintro ⟨e, he, hdiagnosis⟩
    obtain ⟨rfl, rfl⟩ := Prod.mk.inj hdiagnosis
    exact ⟨e.node, he⟩
  · rintro ⟨x, hx⟩
    exact ⟨_, hx, rfl⟩

/-- Two values that differ by any number of respellings are read as the same node, or they are both
rejected, for the same reason and at the same place. -/
theorem read_iff_of_reflTransGen_respells {v w : Value}
    (h : Relation.ReflTransGen Respells v w) :
    (∀ n, v.read = .ok n ↔ w.read = .ok n) ∧
    ∀ reason path, (∃ x, v.read = .error (Fault.atPath ⟨reason, x⟩ path)) ↔
      ∃ x, w.read = .error (Fault.atPath ⟨reason, x⟩ path) := by
  have hverdict := verdict_eq_of_reflTransGen h
  refine ⟨fun n => ?_, fun reason path => ?_⟩
  · rw [← verdict_eq_ok_iff, hverdict, verdict_eq_ok_iff]
  · rw [← verdict_eq_error_iff, hverdict, verdict_eq_error_iff]

/-- All kinds of changes in one value. Its last child stands behind all of them: with a text there
both spellings are read as one node, and a number there is reported in both at the same place. -/
theorem read_iff_of_respelled_paragraph :
    let p : Value := .symbol ⟨"p", by decide⟩
    let em : Value := .symbol ⟨"em", by decide⟩
    let id : Value := .symbol ⟨"id", by decide⟩
    let v (last : Value) : Value := .list [p, .mapping [(id, .text "a")],
      .list [em, .null, .list [.symbol .comment, .null, .text "c"],
        .list [.symbol .rawString, .text "<br>", .int 1], last]]
    let w (last : Value) : Value := .tuple [p, .list [.list [id, .text "a"]],
      .tuple [em, .mapping [], .list [.symbol .comment, .int 2, .text "c", .null],
        .list [.symbol .rawString, .text "<br>"], last]]
    let n : Node := .element "p" [("id", "a")]
      [.element "em" [] [.comment "c", .raw "<br>", .text "b"]]
    (∀ last, Relation.ReflTransGen Respells (v last) (w last)) ∧
    (v (.text "b")).read = .ok n ∧ (w (.text "b")).read = .ok n ∧
    (v (.int 3)).read = .error (Fault.atPath ⟨.notNode, .int 3⟩ [2, 4]) ∧
    ∃ x, (w (.int 3)).read = .error (Fault.atPath ⟨.notNode, x⟩ [2, 4]) := by
  intro p em id v w n
  have hsteps (last : Value) : Relation.ReflTransGen Respells (v last) (w last) := by
    -- From the outside to the inside: the paragraph, its attributes, then the items of its child.
    refine .head (.sequence .list .tuple _) ?_
    refine .head (.attributes .tuple p _ (.mapping _)) ?_
    refine .head (.attributes .tuple p _ (.entry .list [] .tuple .list _ [])) ?_
    refine .head (.child .tuple p _ [] [] (.sequence .list .tuple _)) ?_
    refine .head (.child .tuple p _ [] [] (.attributes .tuple em _ (.empty .null .mapping))) ?_
    refine .head (.child .tuple p _ [] [] (.child .tuple em _ [] _
      (.placeholder .list .null (.int 2) _))) ?_
    refine .head (.child .tuple p _ [] [] (.child .tuple em _ [] _
      (.afterComment .list (.int 2) (.text "c") [] [.null]))) ?_
    exact .single (.child .tuple p _ [] [] (.child .tuple em _ [_] _
      (.afterRaw .list (.text "<br>") [.int 1] [])))
  have hok : (v (.text "b")).read = .ok n := rfl
  have herror : (v (.int 3)).read = .error (Fault.atPath ⟨.notNode, .int 3⟩ [2, 4]) := rfl
  refine ⟨hsteps, hok, ?_, herror, ?_⟩
  · exact ((read_iff_of_reflTransGen_respells (hsteps _)).1 n).mp hok
  · exact ((read_iff_of_reflTransGen_respells (hsteps _)).2 _ _).mp ⟨_, herror⟩

end Value

end MarkupTree
