import WideColumn.Trace.Traced

/-!
# Taking computations apart

A computation that may fail is made of steps, and if it succeeds then so did each of them. These
equivalences turn a successful computation into its intermediate results, one step at a time, so
that no proof about a codec has to unfold how errors are passed on. Of a computation that fails two
things are needed: it fails with the error of a step after steps that succeeded, and this whatever
the errors are called. Where it is known what is in the way of a computation, and that it succeeds if
nothing is, both outcomes are known.
-/

namespace Except

variable {ε ε' α β : Type}

@[simp] theorem pure_eq_ok (a : α) : (pure a : Except ε α) = .ok a := rfl

/-- The steps of a computation that succeeds. -/
@[simp] theorem bind_eq_ok_iff {x : Except ε α} {f : α → Except ε β} {b : β} :
    (x >>= f) = .ok b ↔ ∃ a, x = .ok a ∧ f a = .ok b := by
  cases x with
  | error e => exact iff_of_false nofun (by rintro ⟨a, h, -⟩; exact absurd h nofun)
  | ok a =>
    refine ⟨fun h => ⟨a, rfl, h⟩, ?_⟩
    rintro ⟨c, hc, h⟩
    cases hc
    exact h

/-- The step at which a computation fails: the first one, or one after it. -/
theorem bind_eq_error_iff {x : Except ε α} {f : α → Except ε β} {e : ε} :
    (x >>= f) = .error e ↔ x = .error e ∨ ∃ a, x = .ok a ∧ f a = .error e := by
  cases x with
  | error e' =>
    refine ⟨fun h => Or.inl (congrArg Except.error (Except.error.inj h)), ?_⟩
    rintro (h | ⟨a, h, -⟩)
    · exact congrArg Except.error (Except.error.inj h)
    · cases h
  | ok a =>
    refine ⟨fun h => Or.inr ⟨a, rfl, h⟩, ?_⟩
    rintro (h | ⟨c, hc, h⟩)
    · cases h
    · cases hc
      exact h

section Obstacle

variable {x : Except ε α} {obstacle : Option β} {error : β → ε}

/-- A computation that fails where something is in its way, and else gives a result, gives one
exactly if nothing is. -/
theorem exists_eq_ok_iff_of_obstacle (hfail : ∀ b, obstacle = some b → x = .error (error b))
    (hok : obstacle = none → ∃ a, x = .ok a) : (∃ a, x = .ok a) ↔ obstacle = none := by
  refine ⟨?_, hok⟩
  rintro ⟨a, rfl⟩
  cases hobstacle : obstacle with
  | none => rfl
  | some b => cases hfail b hobstacle

/-- Its error is that of what is in its way, and no other. -/
theorem eq_error_iff_of_obstacle (hfail : ∀ b, obstacle = some b → x = .error (error b))
    (hok : obstacle = none → ∃ a, x = .ok a) {e : ε} :
    x = .error e ↔ ∃ b, obstacle = some b ∧ error b = e := by
  cases hobstacle : obstacle with
  | none =>
    obtain ⟨a, rfl⟩ := hok hobstacle
    exact iff_of_false nofun (by rintro ⟨b, hb, -⟩; cases hb)
  | some b =>
    rw [hfail b hobstacle, Except.error.injEq]
    constructor
    · exact fun he => ⟨b, rfl, he⟩
    · rintro ⟨b', hb', he⟩
      rwa [Option.some.inj hb']

end Obstacle

/-- The result under a function that is applied to it. -/
@[simp] theorem map_eq_ok_iff {x : Except ε α} {f : α → β} {b : β} :
    x.map f = .ok b ↔ ∃ a, x = .ok a ∧ f a = b := by
  cases x with
  | error e => exact iff_of_false nofun (by rintro ⟨a, h, -⟩; exact absurd h nofun)
  | ok a => simp [Except.map]

/-- Renaming errors changes no result. -/
@[simp] theorem mapError_eq_ok_iff {x : Except ε α} {rename : ε → ε'} {a : α} :
    x.mapError rename = .ok a ↔ x = .ok a := by
  cases x with
  | error e => exact iff_of_false (fun h => by cases h) (fun h => by cases h)
  | ok b =>
    constructor
    · intro h
      cases h
      rfl
    · intro h
      cases h
      rfl

/-- An error that has been renamed was one before. -/
@[simp] theorem mapError_eq_error_iff {x : Except ε α} {rename : ε → ε'} {e' : ε'} :
    x.mapError rename = .error e' ↔ ∃ e, x = .error e ∧ rename e = e' := by
  cases x with
  | error e =>
    constructor
    · intro h
      cases h
      exact ⟨e, rfl, rfl⟩
    · rintro ⟨e, h, rfl⟩
      cases h
      rfl
  | ok b => exact iff_of_false (fun h => by cases h) (by rintro ⟨e, h, -⟩; cases h)

/-- Errors can be renamed in each step of a computation. -/
theorem mapError_bind (rename : ε → ε') (x : Except ε α) (f : α → Except ε β) :
    (x >>= f).mapError rename = x.mapError rename >>= fun a => (f a).mapError rename := by
  cases x <;> rfl

end Except

namespace WideColumn.Traced

variable {ε α β : Type}

/-- The steps of a computation with notes that succeeds. -/
theorem result_bind_eq_ok_iff {x : Traced ε α} {f : α → Traced ε β} {b : β} :
    (x >>= f).result = .ok b ↔ ∃ a, x.result = .ok a ∧ (f a).result = .ok b := by
  rw [result_bind]
  exact Except.bind_eq_ok_iff

/-- The step at which it fails. -/
theorem result_bind_eq_error_iff {x : Traced ε α} {f : α → Traced ε β} {e : ε} :
    (x >>= f).result = .error e ↔
      x.result = .error e ∨ ∃ a, x.result = .ok a ∧ (f a).result = .error e := by
  rw [result_bind]
  exact Except.bind_eq_error_iff

/-- Its last step, where it gives a result that has been made up. -/
theorem result_pure_eq_ok_iff {a b : α} : (pure a : Traced ε α).result = .ok b ↔ a = b := by
  rw [result_pure, Except.ok.injEq]

end WideColumn.Traced
