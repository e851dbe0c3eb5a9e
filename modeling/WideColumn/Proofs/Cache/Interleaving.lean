import Mathlib
import WideColumn.Proofs.Cache.Entries
import WideColumn.Samples.Accounts

/-!
# Requests in any order

A request looks its key up, builds a descriptor if nothing is there, and publishes it. Between these
steps, and while it is building, other requests take steps of their own, those among them that its
build has made. Here all requests of a program, however many there are and for whatever keys, share
one cache, and each step of a run belongs to some request; nothing is said about whose turn it is, or
about what comes of a build.

What a request goes by may be out of date: it builds because a lookup in the past has found nothing.
Nevertheless all requests for a key get one descriptor. The reason is that an entry is never changed
and never removed (`WideColumn.Cache.Step.get?_of_some`): then all that has to be known of a request
that has its descriptor is that it was kept at that moment, and of the requests that are on their
way nothing has to be known at all (`WideColumn.Cache.Accounted.step`).

* `WideColumn.Cache.Phase`, `WideColumn.Cache.State`: how far the requests are;
* `WideColumn.Cache.Step`, `WideColumn.Cache.Runs`: the steps of the requests;
* `WideColumn.Cache.exists_runs_request`: a request that is served at once, with all that its build
  asks for, is such a run;
* `WideColumn.Cache.agreement_of_runs`: **the requests agree on the descriptor of a key**.
-/

namespace WideColumn

namespace Cache

variable {ρ ε : Type}

/-! ### States -/

/-- How a request has come by its descriptor. -/
inductive Outcome where
  /-- It was there when the request looked. -/
  | found
  /-- The request has built it. -/
  | published
  /-- It was there by the time the request had built one. -/
  | outrun
  deriving DecidableEq, Repr

/-- How far a request is. -/
inductive Phase (ε : Type) where
  /-- It has not looked yet. -/
  | waiting
  /-- It has found nothing, and its build goes on. -/
  | building
  /-- Its build has succeeded. -/
  | built (d : Descriptor)
  /-- It has returned a descriptor. -/
  | answered (outcome : Outcome) (d : Descriptor)
  /-- It has returned the error of its build. -/
  | failed (e : ε)

/-- **The state of a program**: the cache, and how far each request is. -/
structure State (ρ ε : Type) where
  cache : Cache
  phase : ρ → Phase ε

/-- The state before any request has looked. -/
def State.start (c : Cache) : State ρ ε :=
  ⟨c, fun _ => .waiting⟩

variable [DecidableEq ρ]

/-- The state after a step of one request. -/
def State.advance (s : State ρ ε) (i : ρ) (phase : Phase ε) (c : Cache) : State ρ ε :=
  ⟨c, Function.update s.phase i phase⟩

variable {key : ρ → CacheKey} {i j : ρ} {s t u : State ρ ε} {c : Cache} {k : CacheKey}
  {d : Descriptor} {e : ε} {o : Outcome}

@[simp] theorem State.cache_advance (s : State ρ ε) (i : ρ) (phase : Phase ε) (c : Cache) :
    (s.advance i phase c).cache = c := rfl

@[simp] theorem State.phase_advance_self (s : State ρ ε) (i : ρ) (phase : Phase ε) (c : Cache) :
    (s.advance i phase c).phase i = phase :=
  Function.update_self ..

theorem State.phase_advance_of_ne (s : State ρ ε) (h : j ≠ i) (phase : Phase ε) (c : Cache) :
    (s.advance i phase c).phase j = s.phase j :=
  Function.update_of_ne h ..

/-- Only the last step of a request counts for how far it is. -/
theorem State.advance_advance (s : State ρ ε) (i : ρ) (phase phase' : Phase ε) (c c' : Cache) :
    (s.advance i phase c).advance i phase' c' = s.advance i phase' c' := by
  rw [advance, advance, advance, Function.update_idem]

/-! ### Steps -/

/-- **A step of the request** `i`, where `key` tells what the requests ask for. A request is building
from its lookup until its build ends, in whatever way; the steps that others take meanwhile are
theirs. -/
inductive Step (key : ρ → CacheKey) (i : ρ) (s : State ρ ε) : State ρ ε → Prop
  /-- It looks, and its descriptor is there. -/
  | find {d : Descriptor} {c : Cache} (hi : s.phase i = .waiting)
      (h : s.cache.lookUp (key i) = (some d, c)) : Step key i s (s.advance i (.answered .found d) c)
  /-- It looks, and nothing is there. -/
  | miss {c : Cache} (hi : s.phase i = .waiting) (h : s.cache.lookUp (key i) = (none, c)) :
      Step key i s (s.advance i .building c)
  /-- Its build ends with a descriptor. -/
  | build (d : Descriptor) (hi : s.phase i = .building) :
      Step key i s (s.advance i (.built d) s.cache)
  /-- Its build ends with an error. -/
  | fail (e : ε) (hi : s.phase i = .building) : Step key i s (s.advance i (.failed e) s.cache)
  /-- It publishes what it has built. -/
  | publish {built d : Descriptor} {kind : MappingKind} {className : String} {c : Cache}
      (hi : s.phase i = .built built)
      (h : s.cache.publish (key i) built = (d, .published kind className, c)) :
      Step key i s (s.advance i (.answered .published d) c)
  /-- It comes too late, and takes what is there. -/
  | discard {built d : Descriptor} {kind : MappingKind} {className : String} {c : Cache}
      (hi : s.phase i = .built built)
      (h : s.cache.publish (key i) built = (d, .discarded kind className, c)) :
      Step key i s (s.advance i (.answered .outrun d) c)

/-- **Runs**: any number of steps, each of any request. -/
def Runs (key : ρ → CacheKey) : State ρ ε → State ρ ε → Prop :=
  Relation.ReflTransGen fun s t => ∃ i, Step key i s t

/-- What every step preserves, every run does. -/
theorem Runs.preserves {P : State ρ ε → Prop} (hP : ∀ i s t, Step key i s t → P s → P t)
    (h : Runs key s t) (hs : P s) : P t := by
  induction h with
  | refl => exact hs
  | tail _ hstep ih =>
    obtain ⟨i, hi⟩ := hstep
    exact hP i _ _ hi ih

namespace Step

/-- A step of one request leaves the others where they are. -/
theorem phase_of_ne (h : Step key i s t) (hj : j ≠ i) : t.phase j = s.phase j := by
  cases h <;> exact s.phase_advance_of_ne hj _ _

/-- **What a step does to what is kept**: nothing, unless it publishes a descriptor for a key that
has none. -/
theorem get?_eq (h : Step key i s t) : (∀ k, t.cache.get? k = s.cache.get? k) ∨
    ∃ d, t.phase i = .answered .published d ∧ s.cache.get? (key i) = none ∧
      ∀ k, t.cache.get? k = if k = key i then some d else s.cache.get? k := by
  cases h with
  | find _ h => exact .inl (of_lookUp_eq_some h).2
  | miss _ h =>
    refine .inl fun k => ?_
    rw [State.cache_advance, (of_lookUp_eq_none h).2]
  | build | fail => exact .inl fun k => rfl
  | publish _ h =>
    obtain ⟨hnone, -, hget⟩ := of_publish_eq_published h
    exact .inr ⟨_, State.phase_advance_self .., hnone, hget⟩
  | discard _ h => exact .inl (of_publish_eq_discarded h).2

/-- **An entry is never changed and never removed.** -/
theorem get?_of_some (h : Step key i s t) (hk : s.cache.get? k = some d) :
    t.cache.get? k = some d := by
  rcases h.get?_eq with hsame | ⟨d', -, hnone, hget⟩
  · rw [hsame, hk]
  · -- the key that gets its descriptor had none, so it is another one
    have hne : k ≠ key i := by
      rintro rfl
      rw [hnone] at hk
      cases hk
    rw [hget, if_neg hne, hk]

/-- **What is kept has been published.** -/
theorem get?_of_get? (h : Step key i s t) (hk : t.cache.get? k = some d) :
    s.cache.get? k = some d ∨ (key i = k ∧ t.phase i = .answered .published d) := by
  rcases h.get?_eq with hsame | ⟨d', hphase, -, hget⟩
  · rw [hsame] at hk
    exact .inl hk
  · rw [hget] at hk
    split_ifs at hk with hkey
    · obtain rfl := Option.some.inj hk
      exact .inr ⟨hkey.symm, hphase⟩
    · exact .inl hk

/-- A request that has its descriptor has no more to do. -/
theorem phase_of_answered (h : Step key i s t) (hj : s.phase j = .answered o d) :
    t.phase j = .answered o d := by
  have hne : j ≠ i := by
    rintro rfl
    cases h with
    | find hi | miss hi | build _ hi | fail _ hi | publish hi | discard hi =>
      rw [hi] at hj
      cases hj
  rw [h.phase_of_ne hne, hj]

/-- **What a request returns is kept.** -/
theorem get?_of_answered (h : Step key i s t) (hi : t.phase i = .answered o d) :
    t.cache.get? (key i) = some d := by
  cases h with
  | miss | build | fail =>
    rw [State.phase_advance_self] at hi
    cases hi
  | find _ h =>
    rw [State.phase_advance_self] at hi
    cases hi
    rw [State.cache_advance, (of_lookUp_eq_some h).2, (of_lookUp_eq_some h).1]
  | publish _ h =>
    rw [State.phase_advance_self] at hi
    cases hi
    rw [State.cache_advance, (of_publish_eq_published h).2.2, if_pos rfl]
  | discard _ h =>
    -- not what the request has built, but what it has found in its place
    rw [State.phase_advance_self] at hi
    cases hi
    rw [State.cache_advance, (of_publish_eq_discarded h).2, (of_publish_eq_discarded h).1]

/-- A request whose key is there when it looks gets what is there, and does not build. -/
theorem found_of_waiting (h : Step key i s t) (hi : s.phase i = .waiting)
    (hk : s.cache.get? (key i) = some d) : t.phase i = .answered .found d := by
  cases h with
  | find _ h =>
    rw [(of_lookUp_eq_some h).1] at hk
    rw [State.phase_advance_self, Option.some.inj hk]
  | miss _ h =>
    rw [(of_lookUp_eq_none h).1] at hk
    cases hk
  | build _ hi' | fail _ hi' | publish hi' | discard hi' =>
    rw [hi] at hi'
    cases hi'

/-- **Only the step in which a request gets its descriptor can change the cache.** -/
theorem answered_or_cache_eq (h : Step key i s t) :
    (∃ o d, t.phase i = .answered o d) ∨ t.cache = s.cache := by
  cases h with
  | find | publish | discard => exact .inl ⟨_, _, State.phase_advance_self ..⟩
  | miss _ h => exact .inr (of_lookUp_eq_none h).2
  | build | fail => exact .inr rfl

end Step

/-! ### Runs -/

/-- What is known of every state of a run from the cache `c`: every descriptor that a request has
returned is kept, and every one that is kept has been returned by the request that has published it,
unless it was there from the beginning. -/
structure Accounted (key : ρ → CacheKey) (c : Cache) (s : State ρ ε) : Prop where
  returned : ∀ i o d, s.phase i = .answered o d → s.cache.get? (key i) = some d
  published : ∀ k d, s.cache.get? k = some d →
    c.get? k = some d ∨ ∃ i, key i = k ∧ s.phase i = .answered .published d

omit [DecidableEq ρ] in
/-- At the beginning there is nothing to account for. -/
theorem accounted_start (key : ρ → CacheKey) (c : Cache) :
    Accounted key c (State.start c : State ρ ε) where
  returned i o d h := by cases h
  published k d h := .inl h

/-- **Every step keeps the accounts.** -/
theorem Accounted.step (hs : Accounted key c s) (h : Step key i s t) : Accounted key c t where
  returned j o d hj := by
    -- the descriptor of another request was kept before, and that of `i` has just been taken there
    rcases eq_or_ne j i with rfl | hne
    · exact h.get?_of_answered hj
    · rw [h.phase_of_ne hne] at hj
      exact h.get?_of_some (hs.returned j o d hj)
  published k d hk := by
    rcases h.get?_of_get? hk with hk | ⟨hkey, hi⟩
    · refine (hs.published k d hk).imp_right ?_
      rintro ⟨j, hkey, hj⟩
      exact ⟨j, hkey, h.phase_of_answered hj⟩
    · exact .inr ⟨i, hkey, hi⟩

namespace Runs

theorem accounted (h : Runs key s t) (hs : Accounted key c s) : Accounted key c t :=
  h.preserves (fun _ _ _ hstep hs => hs.step hstep) hs

theorem get?_of_some (h : Runs key s t) (hk : s.cache.get? k = some d) : t.cache.get? k = some d :=
  h.preserves (fun _ _ _ hstep hk => hstep.get?_of_some hk) hk

theorem phase_of_answered (h : Runs key s t) (hi : s.phase i = .answered o d) :
    t.phase i = .answered o d :=
  h.preserves (fun _ _ _ hstep hi => hstep.phase_of_answered hi) hi

/-- **A request that looks late does not build**: once its key is there, it is waiting until it finds
it. -/
theorem waiting_or_found (h : Runs key s t) (hi : s.phase i = .waiting)
    (hk : s.cache.get? (key i) = some d) :
    t.phase i = .waiting ∨ t.phase i = .answered .found d := by
  have hboth : (t.phase i = .waiting ∨ t.phase i = .answered .found d) ∧
      t.cache.get? (key i) = some d := by
    -- that the key is there has to be carried along, as it decides what the lookup finds
    refine h.preserves (P := fun u => (u.phase i = .waiting ∨ u.phase i = .answered .found d) ∧
      u.cache.get? (key i) = some d) ?_ ⟨.inl hi, hk⟩
    rintro j u v hstep ⟨hu, hk⟩
    refine ⟨?_, hstep.get?_of_some hk⟩
    rcases hu with hu | hu
    · rcases eq_or_ne i j with rfl | hne
      · exact .inr (hstep.found_of_waiting hu hk)
      · exact .inl (by rw [hstep.phase_of_ne hne, hu])
    · exact .inr (hstep.phase_of_answered hu)
  exact hboth.1

end Runs

/-! ### Requests that are served at once -/

/-- What a request does once its build has succeeded. -/
theorem exists_runs_publish (hi : s.phase i = .building) (built : Descriptor) :
    ∃ o, Runs key s (s.advance i (.answered o (s.cache.publish (key i) built).1)
      (s.cache.publish (key i) built).2.2) := by
  have hself : (s.advance i (.built built) s.cache).phase i = .built built :=
    State.phase_advance_self ..
  have hrun : ∀ {o : Outcome} {d : Descriptor} {c : Cache},
      Step key i (s.advance i (.built built) s.cache)
        ((s.advance i (.built built) s.cache).advance i (.answered o d) c) →
      Runs key s (s.advance i (.answered o d) c) := by
    intro o d c hlast
    rw [State.advance_advance] at hlast
    exact .tail (.single ⟨i, .build built hi⟩) ⟨i, hlast⟩
  cases hkey : s.cache.get? (key i) with
  | some d =>
    rw [publish_of_some hkey]
    exact ⟨.outrun, hrun (.discard hself (publish_of_some hkey))⟩
  | none =>
    rw [publish_of_none hkey]
    exact ⟨.published, hrun (.publish hself (publish_of_none hkey))⟩

/-- **A request that is served at once is a run**, if its build is one: the steps that the requests
take which its build makes come between its own. Of the other requests it moves none but those. -/
theorem exists_runs_request {build : Cache → Traced ε Descriptor × Cache} {phase : ρ → Phase ε}
    (hi : s.phase i = .waiting)
    (hbuild : s.cache.get? (key i) = none → phase i = .building ∧
      Runs key (s.advance i .building s.cache) ⟨(build s.cache).2, phase⟩) :
    ∃ t, Runs key s t ∧ t.cache = (s.cache.request (key i) build).2 ∧
      (∀ d, (s.cache.request (key i) build).1.result = .ok d → ∃ o, t.phase i = .answered o d) ∧
      (∀ e, (s.cache.request (key i) build).1.result = .error e → t.phase i = .failed e) ∧
      ∀ j ≠ i, t.phase j = s.phase j ∨ t.phase j = phase j := by
  cases hkey : s.cache.get? (key i) with
  | some d =>
    rw [request_of_some hkey]
    refine ⟨s.advance i (.answered .found d) (s.cache.lookUp (key i)).2,
      .single ⟨i, .find hi (by rw [lookUp_of_some hkey])⟩, rfl, ?_, nofun, ?_⟩
    · rintro d' ⟨⟩
      exact ⟨.found, State.phase_advance_self ..⟩
    · exact fun j hj => .inl (State.phase_advance_of_ne s hj ..)
  | none =>
    obtain ⟨hphase, hruns⟩ := hbuild hkey
    have hmiss : Step key i s (s.advance i .building s.cache) := .miss hi (lookUp_of_none hkey)
    have hstart : Runs key s ⟨(build s.cache).2, phase⟩ := .trans (.single ⟨i, hmiss⟩) hruns
    cases hresult : build s.cache with
    | mk x c =>
      rw [hresult] at hstart
      obtain ⟨events, e | d⟩ := x
      · rw [request_of_error hkey hresult]
        refine ⟨_, hstart.tail ⟨i, .fail e hphase⟩, rfl, nofun, ?_, ?_⟩
        · rintro e' ⟨⟩
          exact State.phase_advance_self ..
        · exact fun j hj => .inr (State.phase_advance_of_ne _ hj ..)
      · rw [request_of_ok hkey hresult]
        let mid : State ρ ε := ⟨c, phase⟩
        obtain ⟨o, hpublish⟩ : ∃ o, Runs key mid (mid.advance i
            (.answered o (c.publish (key i) d).1) (c.publish (key i) d).2.2) :=
          exists_runs_publish hphase d
        refine ⟨_, hstart.trans hpublish, rfl, ?_, nofun, ?_⟩
        · rintro d' ⟨⟩
          exact ⟨o, State.phase_advance_self ..⟩
        · exact fun j hj => .inr (State.phase_advance_of_ne _ hj ..)

/-! ### Agreement -/

/-- **The requests of a run agree**: what can be said of a run that starts with the cache `c`, before
any request has looked, and goes through `s` to `t`. -/
structure Agreement (key : ρ → CacheKey) (c : Cache) (s t : State ρ ε) : Prop where
  /-- A descriptor that is kept stays, unchanged. -/
  kept : ∀ k d, s.cache.get? k = some d → t.cache.get? k = some d
  /-- A request that has returned a descriptor has returned the one that is kept for its key. -/
  returned : ∀ i o d, t.phase i = .answered o d → t.cache.get? (key i) = some d
  /-- A request that has not looked before its key is there never builds. -/
  spared : ∀ i d, s.phase i = .waiting → s.cache.get? (key i) = some d →
    t.phase i = .waiting ∨ t.phase i = .answered .found d
  /-- A descriptor is only kept if the request that has built it has published it. -/
  published : ∀ k d, t.cache.get? k = some d →
    c.get? k = some d ∨ ∃ i, key i = k ∧ t.phase i = .answered .published d
  /-- A request that fails has left the cache as it was, in each of its steps. -/
  failed : ∀ i u e, Step key i s u → Runs key u t → t.phase i = .failed e → u.cache = s.cache

/-- **The requests for a key agree on one descriptor**, in whatever order they take their steps. -/
theorem agreement_of_runs (hs : Runs key (.start c) s) (ht : Runs key s t) :
    Agreement key c s t where
  kept k d hk := ht.get?_of_some hk
  returned := (ht.accounted (hs.accounted (accounted_start key c))).returned
  spared i d hi hk := ht.waiting_or_found hi hk
  published := (ht.accounted (hs.accounted (accounted_start key c))).published
  failed i u e hstep hu hi := by
    refine hstep.answered_or_cache_eq.resolve_left ?_
    rintro ⟨o, d, hd⟩
    rw [hu.phase_of_answered hd] at hi
    cases hi

/-- Three requests for the table of accounts, and one for another class. -/
def raceKey (i : Fin 4) : CacheKey :=
  if i = 3 then ⟨.declaration 7, .table⟩ else ⟨.declaration 1, .table⟩

/-- The build of one request makes another one for the same key, which publishes its own descriptor.
The first one is outrun, a third one finds what is there, and a fourth one fails. -/
theorem agreement_of_runs_race : ∃ s t : State (Fin 4) String,
    Runs raceKey (.start .empty) s ∧ s.phase 2 = .waiting ∧ Runs raceKey s t ∧
      t.phase 0 = .answered .outrun Samples.accountMapper.descriptor ∧
      t.phase 1 = .answered .published Samples.accountMapper.descriptor ∧
      t.phase 2 = .answered .found Samples.accountMapper.descriptor ∧
      t.phase 3 = .failed "no keyspace" ∧ Agreement raceKey .empty s t := by
  let d := Samples.accountMapper.descriptor
  let c : Cache := (Cache.empty.publish (raceKey 1) d).2.2
  let c' : Cache := { c with stats.discarded := 1 }
  -- both requests have looked before either of them publishes
  let s : State (Fin 4) String :=
    ((((State.start .empty).advance 0 .building .empty).advance 1 .building .empty).advance 1
      (.built d) .empty).advance 1 (.answered .published d) c
  have hs : Runs raceKey (.start .empty) s :=
    .tail (.tail (.tail (.single ⟨0, .miss rfl rfl⟩) ⟨1, .miss rfl rfl⟩) ⟨1, .build d rfl⟩)
      ⟨1, .publish rfl rfl⟩
  let t : State (Fin 4) String :=
    ((((s.advance 0 (.built { d with className := "Late" }) c).advance 0 (.answered .outrun d)
      c').advance 3 .building c').advance 3 (.failed "no keyspace") c').advance 2
      (.answered .found d) { c' with stats.hits := 1 }
  have ht : Runs raceKey s t :=
    .tail (.tail (.tail (.tail (.single ⟨0, .build _ rfl⟩) ⟨0, .discard rfl rfl⟩)
      ⟨3, .miss rfl rfl⟩) ⟨3, .fail _ rfl⟩) ⟨2, .find rfl rfl⟩
  exact ⟨s, t, hs, rfl, ht, rfl, rfl, rfl, rfl, agreement_of_runs hs ht⟩

end Cache

end WideColumn
