import MarkupTree.InvalidNode

/-!
# Conversions that leave a trace

A conversion that may fail and that notes things on its way. What was noted before a failure is
kept.
-/

namespace MarkupTree

/-- The outcome of a conversion, with the values noted on the way, first to last. -/
structure Traced (α : Type) where
  /-- The values that were noted. -/
  notices : List Value
  /-- The result, or the report that ended the conversion. -/
  result : Except InvalidNode α

namespace Traced

variable {α β : Type}

/-- A result, with nothing noted. -/
def done (a : α) : Traced α := ⟨[], .ok a⟩

/-- A failure, with nothing noted. -/
def failed (e : InvalidNode) : Traced α := ⟨[], .error e⟩

/-- Notes a value. -/
def note (v : Value) : Traced Unit := ⟨[v], .ok ()⟩

/-- Goes on with a result; a failure ends the conversion. -/
def andThen (m : Traced α) (f : α → Traced β) : Traced β :=
  match m.result with
  | .ok a => ⟨m.notices ++ (f a).notices, (f a).result⟩
  | .error e => ⟨m.notices, .error e⟩

instance : Monad Traced where
  pure := done
  bind := andThen

/-- The same conversion, with its reports changed. -/
def mapError (f : InvalidNode → InvalidNode) (m : Traced α) : Traced α :=
  ⟨m.notices, m.result.mapError f⟩

/-! ## What the operations do to the result and to the notices -/

@[simp] theorem result_pure (a : α) : (pure a : Traced α).result = .ok a := rfl

@[simp] theorem notices_pure (a : α) : (pure a : Traced α).notices = [] := rfl

@[simp] theorem result_failed (e : InvalidNode) : (failed e : Traced α).result = .error e := rfl

@[simp] theorem result_note (v : Value) : (note v).result = .ok () := rfl

@[simp] theorem result_bind (m : Traced α) (f : α → Traced β) :
    (m >>= f).result = m.result.bind fun a => (f a).result := by
  rcases m with ⟨notices, _ | _⟩ <;> rfl

@[simp] theorem result_mapError (f : InvalidNode → InvalidNode) (m : Traced α) :
    (m.mapError f).result = m.result.mapError f := rfl

@[simp] theorem notices_mapError (f : InvalidNode → InvalidNode) (m : Traced α) :
    (m.mapError f).notices = m.notices := rfl

/-- After a step that succeeds the next one notes more. -/
theorem notices_bind_of_ok {m : Traced α} {a : α} (h : m.result = .ok a) (f : α → Traced β) :
    (m >>= f).notices = m.notices ++ (f a).notices := by
  rcases m with ⟨notices, _ | _⟩
  · cases h
  · cases h; rfl

/-- After a step that fails nothing more is noted. -/
theorem notices_bind_of_error {m : Traced α} {e : InvalidNode} (h : m.result = .error e)
    (f : α → Traced β) : (m >>= f).notices = m.notices := by
  rcases m with ⟨notices, _ | _⟩
  · rfl
  · cases h

end Traced

end MarkupTree
