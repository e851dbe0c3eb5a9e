import WideColumn.Trace.Event

/-!
# Results with notes

A computation that may fail and that notes events on its way. The notes up to a failure are kept.

* `WideColumn.Traced`: the events of a computation, in order, and its result;
* `WideColumn.Traced.result_bind`: the result of a sequence of computations is that of their
  results, so that whoever asks for results only can forget the notes.
-/

namespace WideColumn

/-- What a computation notes, and how it ends. -/
structure Traced (ε α : Type) where
  /-- The events, in order. -/
  events : List Event
  /-- The value or the error at the end. -/
  result : Except ε α

namespace Traced

variable {ε ε' α β : Type}

/-- A computation that notes nothing. -/
def ofExcept (r : Except ε α) : Traced ε α := ⟨[], r⟩

/-- A computation that fails at once. -/
def fail (e : ε) : Traced ε α := ⟨[], .error e⟩

/-- A computation that notes one event. -/
def note (e : Event) : Traced ε Unit := ⟨[e], .ok ()⟩

/-- A computation with more notes in front of its own. -/
def after (events : List Event) (x : Traced ε α) : Traced ε α :=
  ⟨events ++ x.events, x.result⟩

/-- One computation after another one, if that one does not fail. -/
def andThen (x : Traced ε α) (f : α → Traced ε β) : Traced ε β :=
  match x.result with
  | .error e => ⟨x.events, .error e⟩
  | .ok a => (f a).after x.events

instance : Monad (Traced ε) where
  pure a := ⟨[], .ok a⟩
  bind := andThen

/-- The same computation with another form of its errors. -/
def mapError (f : ε → ε') (x : Traced ε α) : Traced ε' α :=
  ⟨x.events, x.result.mapError f⟩

@[simp] theorem result_pure (a : α) : (pure a : Traced ε α).result = .ok a := rfl

@[simp] theorem result_fail (e : ε) : (fail e : Traced ε α).result = .error e := rfl

@[simp] theorem result_note (e : Event) : (note e : Traced ε Unit).result = .ok () := rfl

@[simp] theorem result_ofExcept (r : Except ε α) : (ofExcept r).result = r := rfl

@[simp] theorem result_after (events : List Event) (x : Traced ε α) :
    (x.after events).result = x.result := rfl

@[simp] theorem result_mapError (f : ε → ε') (x : Traced ε α) :
    (x.mapError f).result = x.result.mapError f := rfl

/-- Results do not depend on notes. -/
@[simp] theorem result_bind (x : Traced ε α) (f : α → Traced ε β) :
    (x >>= f).result = x.result.bind fun a => (f a).result := by
  change (andThen x f).result = _
  unfold andThen
  cases x.result <;> rfl

end Traced

end WideColumn
