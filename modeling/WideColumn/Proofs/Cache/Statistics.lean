import Mathlib
import WideColumn.Proofs.Cache.Interleaving

/-!
# What the counters tell

A request is counted once it has come by its descriptor, and this is a step of its own: between
finding a descriptor, or publishing one, and counting this, other requests take steps, so that for a
while the counters fall behind. The requests that are counted in the end are those that have
returned a descriptor, each of them once, and the requests that have published theirs are counted as
often as there are entries.

All of this follows from what a single move of a request does to the entries and to the counters
(`WideColumn.Cache.Move.size_eq`, `WideColumn.Cache.Move.counter_eq`), whatever the other requests
have done before. A request that fails does nothing to either, and the others would go the same way
without it.

* `WideColumn.Cache.Stage`, `WideColumn.Cache.Progress`: how far the requests are;
* `WideColumn.Cache.Move`, `WideColumn.Cache.Moves`: what a request does, and runs of many requests;
* `WideColumn.Cache.Runs.moves`: steps that look up or publish and count at once are moves, one
  after the other;
* `WideColumn.Cache.Tallied.move`: **every move keeps the books**;
* `WideColumn.Cache.Moves.without`: **a request that has not come by a descriptor can be left out**;
* `WideColumn.Cache.balanced_of_moves`: **the counters account for every request**.
-/

namespace WideColumn

/-- A count is that of all requests, up to the greatest one. -/
theorem CacheStats.increment_min (n : Nat) : increment (min n limit) = min (n + 1) limit := by
  rw [increment]
  split_ifs <;> omega

namespace Cache

variable {ρ ε : Type}

/-! ### Counting -/

/-- The counter of the requests that have come by their descriptors in one of the ways. -/
def counter (c : Cache) : Outcome → Nat
  | .found => c.stats.hits
  | .published => c.stats.misses
  | .outrun => c.stats.discarded

/-- **One more request is counted**, and what is kept stays as it is. -/
def count (c : Cache) : Outcome → Cache
  | .found => { c with stats.hits := CacheStats.increment c.stats.hits }
  | .published => { c with stats.misses := CacheStats.increment c.stats.misses }
  | .outrun => { c with stats.discarded := CacheStats.increment c.stats.discarded }

/-- **A descriptor is kept**, and the counters stay as they are. -/
def put (c : Cache) (k : CacheKey) (d : Descriptor) : Cache :=
  { c with entries := c.entries ++ [(k, d)] }

variable {c c' : Cache} {k : CacheKey} {d : Descriptor} {o : Outcome}

@[simp] theorem size_count (c : Cache) (o : Outcome) : (c.count o).size = c.size := by
  cases o <;> rfl

@[simp] theorem size_put (c : Cache) (k : CacheKey) (d : Descriptor) :
    (c.put k d).size = c.size + 1 :=
  List.length_append

@[simp] theorem counter_put (c : Cache) (k : CacheKey) (d : Descriptor) (o : Outcome) :
    (c.put k d).counter o = c.counter o := by
  cases o <;> rfl

theorem counter_count (c : Cache) (o o' : Outcome) :
    (c.count o).counter o' =
      if o = o' then CacheStats.increment (c.counter o') else c.counter o' := by
  cases o <;> cases o' <;> rfl

/-- Looking up is finding a descriptor and counting this. -/
theorem lookUp_eq_count (h : c.get? k = some d) : c.lookUp k = (some d, c.count .found) :=
  lookUp_of_some h

/-- Publishing is keeping a descriptor, unless there is one, and counting this. -/
theorem publish_eq_count (h : c.get? k = none) : c.publish k d =
    (d, .published k.kind d.className, (c.put k d).count .published) :=
  publish_of_none h

/-! ### How far the requests are -/

/-- How far a request is, where it is counted in a step of its own. -/
inductive Stage (ε : Type) where
  /-- It has not looked yet. -/
  | waiting
  /-- It has found nothing, and its build goes on. -/
  | building
  /-- Its build has succeeded. -/
  | built (d : Descriptor)
  /-- It has come by a descriptor, and has not been counted yet. -/
  | counting (outcome : Outcome) (d : Descriptor)
  /-- It has returned a descriptor. -/
  | answered (outcome : Outcome) (d : Descriptor)
  /-- It has returned the error of its build. -/
  | failed (e : ε)

namespace Stage

/-- The request is on its way. -/
def inFlight : Stage ε → Bool
  | building | built _ | counting _ _ => true
  | waiting | answered _ _ | failed _ => false

/-- The request has returned a descriptor that it has come by in the given way. -/
def hasAnswered (o : Outcome) : Stage ε → Bool
  | answered o' _ => o' = o
  | _ => false

/-- The request has published a descriptor. -/
def hasPublished : Stage ε → Bool
  | counting o _ | answered o _ => o = .published
  | _ => false

/-- The request has come by a descriptor. -/
def served : Stage ε → Bool
  | counting _ _ | answered _ _ => true
  | waiting | building | built _ | failed _ => false

theorem hasAnswered_iff {x : Stage ε} : x.hasAnswered o ↔ ∃ d, x = .answered o d := by
  cases x <;> simp [hasAnswered, eq_comm]

/-- Who has published a descriptor and is not on the way any more has returned it. -/
theorem hasPublished_eq_hasAnswered {x : Stage ε} (h : x.inFlight = false) :
    x.hasPublished = x.hasAnswered .published := by
  cases x with
  | building | built | counting => cases h
  | waiting | answered | failed => rfl

end Stage

/-- **The state of a program**: the cache, and how far each request is. -/
structure Progress (ρ ε : Type) where
  cache : Cache
  stage : ρ → Stage ε

namespace Progress

/-- The state before any request has looked. -/
def start (c : Cache) : Progress ρ ε :=
  ⟨c, fun _ => .waiting⟩

/-- No request is on its way. -/
def AtRest (s : Progress ρ ε) : Prop :=
  ∀ i, (s.stage i).inFlight = false

/-- The number of requests that are as far as told. -/
noncomputable def number (s : Progress ρ ε) (p : Stage ε → Bool) : Nat :=
  {i | p (s.stage i)}.ncard

variable [DecidableEq ρ]

/-- The state after a move of one request. -/
def advance (s : Progress ρ ε) (i : ρ) (x : Stage ε) (c : Cache) : Progress ρ ε :=
  ⟨c, Function.update s.stage i x⟩

variable {s : Progress ρ ε} {i j : ρ} {x : Stage ε}

@[simp] theorem cache_advance (s : Progress ρ ε) (i : ρ) (x : Stage ε) (c : Cache) :
    (s.advance i x c).cache = c := rfl

@[simp] theorem stage_advance_self (s : Progress ρ ε) (i : ρ) (x : Stage ε) (c : Cache) :
    (s.advance i x c).stage i = x :=
  Function.update_self ..

theorem stage_advance_of_ne (s : Progress ρ ε) (h : j ≠ i) (x : Stage ε) (c : Cache) :
    (s.advance i x c).stage j = s.stage j :=
  Function.update_of_ne h ..

theorem advance_advance (s : Progress ρ ε) (i : ρ) (x y : Stage ε) (c c' : Cache) :
    (s.advance i x c).advance i y c' = s.advance i y c' := by
  rw [advance, advance, advance, Function.update_idem]

theorem advance_comm (s : Progress ρ ε) (h : i ≠ j) (x y : Stage ε) (c c' : Cache) :
    (s.advance i x c).advance j y c' = (s.advance j y c).advance i x c' := by
  rw [advance, advance, advance, advance, Function.update_comm h]

/-- **A number changes by one request at most**, by the one that moves. -/
theorem number_advance (s : Progress ρ ε) (i : ρ) (x : Stage ε) (c : Cache)
    {p : Stage ε → Bool} (hfin : {j | p (s.stage j)}.Finite) :
    (s.advance i x c).number p + (p (s.stage i)).toNat = s.number p + (p x).toNat := by
  have hother : ∀ j ≠ i, p ((s.advance i x c).stage j) = p (s.stage j) := fun j hj =>
    congrArg p (stage_advance_of_ne s hj x c)
  -- the request joins those that are counted, or leaves them, or was where it is now
  cases hx : p x with
  | true =>
    have hinsert : {j | p ((s.advance i x c).stage j)} = insert i {j | p (s.stage j)} := by
      ext j
      by_cases hj : j = i <;> simp [hj, hx, hother]
    rw [number, number, hinsert]
    cases hi : p (s.stage i) with
    | true => rw [Set.insert_eq_of_mem (Set.mem_ofPred_eq ▸ hi)]
    | false =>
      rw [Set.ncard_insert_of_notMem (by simp [hi]) hfin]
      rfl
  | false =>
    have hdiff : {j | p ((s.advance i x c).stage j)} = {j | p (s.stage j)} \ {i} := by
      ext j
      by_cases hj : j = i <;> simp [hj, hx, hother]
    rw [number, number, hdiff]
    cases hi : p (s.stage i) with
    | true => exact Set.ncard_sdiff_singleton_add_one hi hfin
    | false => rw [Set.sdiff_singleton_eq_self (by simp [hi])]

end Progress

/-! ### What a request does -/

/-- **A move of a request** for the key `k`: how far it is before and after, and the cache before
and after. It is counted in a move of its own. -/
inductive Move (k : CacheKey) : Stage ε → Cache → Stage ε → Cache → Prop
  /-- It looks, and its descriptor is there. -/
  | find {c : Cache} {d : Descriptor} (h : c.get? k = some d) :
      Move k .waiting c (.counting .found d) c
  /-- It looks, and nothing is there. -/
  | miss {c : Cache} (h : c.get? k = none) : Move k .waiting c .building c
  /-- Its build ends with a descriptor. -/
  | build {c : Cache} (d : Descriptor) : Move k .building c (.built d) c
  /-- Its build ends with an error. -/
  | fail {c : Cache} (e : ε) : Move k .building c (.failed e) c
  /-- Nothing is there still, and what it has built is kept. -/
  | publish {c : Cache} {d : Descriptor} (h : c.get? k = none) :
      Move k (.built d) c (.counting .published d) (c.put k d)
  /-- It comes too late, and takes what is there. -/
  | discard {c : Cache} {built d : Descriptor} (h : c.get? k = some d) :
      Move k (.built built) c (.counting .outrun d) c
  /-- It is counted, and returns. -/
  | count {c : Cache} (o : Outcome) (d : Descriptor) :
      Move k (.counting o d) c (.answered o d) (c.count o)

namespace Move

variable {x y : Stage ε}

/-- **What a move does to a counter**: it counts the request if this is the one that returns. -/
theorem counter_eq (h : Move k x c y c') (o : Outcome) :
    c'.counter o =
      if y.hasAnswered o then CacheStats.increment (c.counter o) else c.counter o := by
  cases h with
  | count o' d =>
    rw [counter_count, Stage.hasAnswered]
    simp only [decide_eq_true_eq]
  | publish => exact counter_put ..
  | find | miss | build | fail | discard => rfl

/-- A request that has returned makes no more moves. -/
theorem hasAnswered_left (h : Move k x c y c') (o : Outcome) : x.hasAnswered o = false := by
  cases h <;> rfl

/-- **What a move does to the entries**: there is one more if this is the request that publishes. -/
theorem size_eq (h : Move k x c y c') :
    c'.size + x.hasPublished.toNat = c.size + y.hasPublished.toNat := by
  cases h with
  | publish => exact size_put ..
  | count o d => rw [size_count, Stage.hasPublished, Stage.hasPublished]
  | find | miss | build | fail | discard => rfl

/-- **Only a request that has come by a descriptor changes the cache.** -/
theorem cache_eq (h : Move k x c y c') (hy : y.served = false) : c' = c := by
  cases h with
  | publish | count => cases hy
  | find | miss | build | fail | discard => rfl

/-- Who has come by a descriptor has so for good. -/
theorem served (h : Move k x c y c') (hx : x.served) : y.served := by
  cases h with
  | count => rfl
  | find | miss | build | fail | publish | discard => cases hx

end Move

variable [DecidableEq ρ] {key : ρ → CacheKey} {s t u : Progress ρ ε} {i j : ρ}

/-- **A move of the request** `i`, where `key` tells what the requests ask for. -/
def Progress.Moved (key : ρ → CacheKey) (i : ρ) (s t : Progress ρ ε) : Prop :=
  ∃ x c, Move (key i) (s.stage i) s.cache x c ∧ t = s.advance i x c

/-- **Runs**: any number of moves, each of any request. -/
def Moves (key : ρ → CacheKey) : Progress ρ ε → Progress ρ ε → Prop :=
  Relation.ReflTransGen fun s t => ∃ i, s.Moved key i t

/-- What every move preserves, every run does. -/
theorem Moves.preserves {P : Progress ρ ε → Prop}
    (hP : ∀ i s t, s.Moved key i t → P s → P t) (h : Moves key s t) (hs : P s) : P t := by
  induction h with
  | refl => exact hs
  | tail _ hmove ih =>
    obtain ⟨i, hi⟩ := hmove
    exact hP i _ _ hi ih

/-! ### The books -/

/-- What is known of every state of a run: which counts there are, and how many entries. -/
structure Tallied (s : Progress ρ ε) : Prop where
  /-- Only finitely many requests have looked. -/
  finite : {i | s.stage i ≠ .waiting}.Finite
  /-- Every request that has returned a descriptor has been counted, up to the greatest count. -/
  counted : ∀ o, s.cache.counter o = min (s.number (Stage.hasAnswered o)) CacheStats.limit
  /-- There are as many entries as requests that have published theirs. -/
  kept : s.cache.size = s.number Stage.hasPublished

omit [DecidableEq ρ] in
theorem tallied_start : Tallied (.start .empty : Progress ρ ε) where
  finite := by simp [Progress.start]
  counted o := by
    have hnone : (Progress.start .empty : Progress ρ ε).number (Stage.hasAnswered o) = 0 := by
      simp [Progress.number, Progress.start, Stage.hasAnswered]
    rw [hnone, Nat.zero_min]
    cases o <;> rfl
  kept := by
    have hnone : (Progress.start .empty : Progress ρ ε).number Stage.hasPublished = 0 := by
      simp [Progress.number, Progress.start, Stage.hasPublished]
    rw [hnone]
    rfl

omit [DecidableEq ρ] in
/-- Only finitely many requests are anywhere but at the beginning. -/
theorem Tallied.finite_of_not_waiting (hs : Tallied s) {p : Stage ε → Bool}
    (hp : p .waiting = false) : {i | p (s.stage i)}.Finite := by
  refine hs.finite.subset fun i hi hwaiting => ?_
  rw [Set.mem_ofPred_eq, hwaiting, hp] at hi
  cases hi

/-- **Every move keeps the books.** -/
theorem Tallied.move (hs : Tallied s) (h : s.Moved key i t) : Tallied t := by
  obtain ⟨x, c, hmove, rfl⟩ := h
  -- a counter grows in the same move as the number of its requests, and so do the entries
  refine ⟨?_, fun o => ?_, ?_⟩
  · refine (hs.finite.insert i).subset fun j hj => ?_
    by_cases hji : j = i
    · exact Or.inl hji
    · rw [Set.mem_ofPred_eq, s.stage_advance_of_ne hji] at hj
      exact Or.inr hj
  · have hnumber := s.number_advance i x c
      (hs.finite_of_not_waiting (p := Stage.hasAnswered o) rfl)
    rw [hmove.hasAnswered_left o, Bool.toNat_false, Nat.add_zero] at hnumber
    rw [hnumber, Progress.cache_advance, hmove.counter_eq o, hs.counted o]
    cases x.hasAnswered o with
    | true => exact CacheStats.increment_min _
    | false => rfl
  · have hnumber := s.number_advance i x c
      (hs.finite_of_not_waiting (p := Stage.hasPublished) rfl)
    have hsize := hmove.size_eq
    have hkept := hs.kept
    rw [Progress.cache_advance]
    omega

theorem Moves.tallied (h : Moves key s t) (hs : Tallied s) : Tallied t :=
  h.preserves (fun _ _ _ hmove hs => hs.move hmove) hs

/-! ### Steps that look up or publish and count at once -/

/-- How far a request is that is counted at once. -/
def Phase.stage : Phase ε → Stage ε
  | waiting => .waiting
  | building => .building
  | built d => .built d
  | answered o d => .answered o d
  | failed e => .failed e

/-- How far all requests are, if they are counted at once. -/
def State.progress (s : State ρ ε) : Progress ρ ε :=
  ⟨s.cache, fun i => (s.phase i).stage⟩

theorem State.progress_advance (s : State ρ ε) (i : ρ) (phase : Phase ε) (c : Cache) :
    (s.advance i phase c).progress = s.progress.advance i phase.stage c :=
  congrArg (Progress.mk c) (Function.comp_update Phase.stage s.phase i phase)

/-- The move of a request is told by how far it is. -/
theorem State.moved {s : State ρ ε} {phase : Phase ε} {x : Stage ε} (hi : s.phase i = phase)
    (h : Move (key i) phase.stage s.cache x c) :
    s.progress.Moved key i (s.progress.advance i x c) := by
  subst hi
  exact ⟨x, c, h, rfl⟩

/-- A step that counts nothing is a move. -/
theorem State.moves_of_move {s : State ρ ε} {phase phase' : Phase ε} (hi : s.phase i = phase)
    (h : Move (key i) phase.stage s.cache phase'.stage c) :
    Moves key s.progress (s.advance i phase' c).progress := by
  rw [progress_advance]
  exact .single ⟨i, State.moved hi h⟩

/-- A step that counts a request is the move by which the request comes by a descriptor, and the one
that counts it. -/
theorem State.moves_of_move_counting {s : State ρ ε} {phase : Phase ε} (hi : s.phase i = phase)
    (h : Move (key i) phase.stage s.cache (.counting o d) c) :
    Moves key s.progress (s.advance i (.answered o d) (c.count o)).progress := by
  let mid : Progress ρ ε := s.progress.advance i (.counting o d) c
  have hmid : Moves key s.progress mid := .single ⟨i, State.moved hi h⟩
  have hcount : Move (key i) (mid.stage i) mid.cache (.answered o d) (c.count o) := by
    rw [Progress.stage_advance_self, Progress.cache_advance]
    exact .count o d
  rw [progress_advance, ← Progress.advance_advance _ i (.counting o d) _ c]
  exact hmid.tail ⟨i, _, _, hcount, rfl⟩

/-- **A step that looks up or publishes, and counts this at once**, is a run of moves. -/
theorem Step.moves {s t : State ρ ε} (h : Step key i s t) : Moves key s.progress t.progress := by
  cases h with
  | find hi h =>
    obtain ⟨hsome, -⟩ := of_lookUp_eq_some h
    rw [lookUp_eq_count hsome] at h
    cases h
    exact State.moves_of_move_counting hi (.find hsome)
  | miss hi h =>
    obtain ⟨hnone, rfl⟩ := of_lookUp_eq_none h
    exact State.moves_of_move hi (.miss hnone)
  | build d hi => exact State.moves_of_move hi (.build d)
  | fail e hi => exact State.moves_of_move hi (.fail e)
  | publish hi h =>
    obtain ⟨hnone, -⟩ := of_publish_eq_published h
    rw [publish_eq_count hnone] at h
    cases h
    exact State.moves_of_move_counting hi (.publish hnone)
  | discard hi h =>
    obtain ⟨hsome, -⟩ := of_publish_eq_discarded h
    rw [publish_of_some hsome] at h
    cases h
    exact State.moves_of_move_counting hi (.discard hsome)

/-- **Runs of such steps are runs of moves**, and with them all requests that are served at once. -/
theorem Runs.moves {s t : State ρ ε} (h : Runs key s t) : Moves key s.progress t.progress := by
  refine h.preserves (P := fun u => Moves key s.progress u.progress) ?_ .refl
  exact fun _ _ _ hstep hmoves => hmoves.trans hstep.moves

/-! ### Requests that fail -/

/-- Who has come by a descriptor has so for good. -/
theorem Progress.Moved.served (h : s.Moved key j t) (hi : (s.stage i).served) :
    (t.stage i).served := by
  obtain ⟨x, c, hmove, rfl⟩ := h
  by_cases hij : i = j
  · subst hij
    rw [stage_advance_self]
    exact hmove.served hi
  · rwa [stage_advance_of_ne s hij]

/-- **A request that has not come by a descriptor can be left out**: the others can go the same way
without it, and the cache is the same in the end. -/
theorem Moves.without (h : Moves key (.start c) s) (hi : (s.stage i).served = false) :
    Moves key (.start c) (s.advance i .waiting s.cache) := by
  induction h with
  | refl =>
    have hstart : (Progress.start c).advance i .waiting c = (Progress.start c : Progress ρ ε) :=
      congrArg (Progress.mk c) (Function.update_eq_self ..)
    change Moves key _ ((Progress.start c).advance i .waiting c)
    rw [hstart]
    exact .refl
  | @tail s t _ hmove ih =>
    obtain ⟨j, x, c', hmove, rfl⟩ := hmove
    by_cases hij : i = j
    · -- a move of the request itself has done nothing to the cache
      subst hij
      rw [Progress.stage_advance_self] at hi
      have hbefore : (s.stage i).served = false := by
        by_contra hserved
        rw [hmove.served (by simpa using hserved)] at hi
        cases hi
      rw [Progress.cache_advance, Progress.advance_advance, hmove.cache_eq hi]
      exact ih hbefore
    · -- a move of another one sees the same cache and can be made without the request
      rw [s.stage_advance_of_ne hij] at hi
      rw [Progress.cache_advance, s.advance_comm (Ne.symm hij)]
      refine (ih hi).tail ⟨j, x, c', ?_, rfl⟩
      rwa [s.stage_advance_of_ne (Ne.symm hij), Progress.cache_advance]

/-- **A request has left no trace.** -/
structure Traceless (key : ρ → CacheKey) (c : Cache) (s : Progress ρ ε) (i : ρ) : Prop where
  /-- None of its moves has changed what is kept or a counter. -/
  untouched : ∀ u v, Moves key (.start c) u → u.Moved key i v → Moves key v s → v.cache = u.cache
  /-- The others could have gone the same way without it, and the cache would be the same. -/
  dispensable : Moves key (.start c) (s.advance i .waiting s.cache)

theorem Moves.traceless (h : Moves key (.start c) s) (hi : (s.stage i).served = false) :
    Traceless key c s i where
  untouched := by
    rintro u v - ⟨x, c', hmove, rfl⟩ hrun
    refine hmove.cache_eq ?_
    -- had it come by a descriptor in this move, it would still have one
    by_contra hserved
    have hs : (s.stage i).served := by
      refine hrun.preserves (fun _ _ _ hmoved hi => hmoved.served hi) ?_
      rw [Progress.stage_advance_self]
      simpa using hserved
    rw [hi] at hs
    cases hs
  dispensable := h.without hi

/-! ### The balance -/

/-- **The counters account for every request.** -/
structure Balanced (s : Progress ρ ε) : Prop where
  /-- Only finitely many requests have returned a descriptor. -/
  finite : {i | ∃ o d, s.stage i = .answered o d}.Finite
  /-- There are as many misses as entries. -/
  misses : s.cache.stats.misses = s.cache.size
  /-- The counters add up to the number of requests that have returned a descriptor. -/
  total : s.cache.stats.hits + s.cache.stats.misses + s.cache.stats.discarded =
    {i | ∃ o d, s.stage i = .answered o d}.ncard
  /-- Those are discarded whose descriptor came too late. -/
  discarded : s.cache.stats.discarded = {i | ∃ d, s.stage i = .answered .outrun d}.ncard

omit [DecidableEq ρ] in
theorem Progress.number_hasAnswered (s : Progress ρ ε) (o : Outcome) :
    s.number (Stage.hasAnswered o) = {i | ∃ d, s.stage i = .answered o d}.ncard := by
  simp only [number, Stage.hasAnswered_iff]

omit [DecidableEq ρ] in
/-- The requests that have returned a descriptor, by the way in which they have come by it. -/
theorem Tallied.ncard_answered (hs : Tallied s) :
    {i | ∃ o d, s.stage i = .answered o d}.ncard = s.number (Stage.hasAnswered .found) +
      s.number (Stage.hasAnswered .published) + s.number (Stage.hasAnswered .outrun) := by
  have hsplit : {i | ∃ o d, s.stage i = .answered o d} =
      {i | (s.stage i).hasAnswered .found} ∪ {i | (s.stage i).hasAnswered .published} ∪
        {i | (s.stage i).hasAnswered .outrun} := by
    ext i
    simp only [Set.mem_ofPred_eq, Set.mem_union, Stage.hasAnswered_iff]
    constructor
    · rintro ⟨o, d, h⟩
      cases o with
      | found => exact Or.inl (Or.inl ⟨d, h⟩)
      | published => exact Or.inl (Or.inr ⟨d, h⟩)
      | outrun => exact Or.inr ⟨d, h⟩
    · rintro ((⟨d, h⟩ | ⟨d, h⟩) | ⟨d, h⟩)
      · exact ⟨_, d, h⟩
      · exact ⟨_, d, h⟩
      · exact ⟨_, d, h⟩
  have hfin : ∀ o, {i | (s.stage i).hasAnswered o}.Finite := fun o =>
    hs.finite_of_not_waiting rfl
  have hdisjoint : ∀ {o o'}, o ≠ o' →
      Disjoint {i | (s.stage i).hasAnswered o} {i | (s.stage i).hasAnswered o'} := by
    intro o o' hne
    refine Set.disjoint_left.mpr fun i hi hi' => ?_
    rw [Set.mem_ofPred_eq, Stage.hasAnswered_iff] at hi hi'
    obtain ⟨d, hd⟩ := hi
    obtain ⟨d', hd'⟩ := hi'
    rw [hd] at hd'
    exact hne (Stage.answered.inj hd').1
  rw [hsplit, Set.ncard_union_eq (Set.disjoint_union_left.mpr
      ⟨hdisjoint (by decide), hdisjoint (by decide)⟩) ((hfin _).union (hfin _)) (hfin _),
    Set.ncard_union_eq (hdisjoint (by decide)) (hfin _) (hfin _)]
  rfl

omit [DecidableEq ρ] in
/-- **Books that are kept are balanced** once no request is on its way, unless a counter has reached
its end. -/
theorem Tallied.balanced (hs : Tallied s) (hrest : s.AtRest)
    (hlimit : ∀ o, s.cache.counter o < CacheStats.limit) : Balanced s := by
  have hcounter : ∀ o, s.cache.counter o = s.number (Stage.hasAnswered o) := by
    intro o
    have hcounted := hs.counted o
    have hbelow := hlimit o
    omega
  have hpublished : s.number Stage.hasPublished = s.number (Stage.hasAnswered .published) :=
    congrArg Set.ncard (Set.ext fun i => by
      rw [Set.mem_ofPred_eq, Set.mem_ofPred_eq, Stage.hasPublished_eq_hasAnswered (hrest i)])
  have hfound := hcounter .found
  have hmisses := hcounter .published
  have hdiscarded := hcounter .outrun
  refine ⟨?_, ?_, ?_, ?_⟩
  · refine hs.finite.subset ?_
    rintro i ⟨o, d, hi⟩ hwaiting
    rw [hi] at hwaiting
    cases hwaiting
  · rw [hs.kept, hpublished, ← hmisses]
    rfl
  · rw [hs.ncard_answered, ← hfound, ← hmisses, ← hdiscarded]
    rfl
  · rw [← Progress.number_hasAnswered, ← hdiscarded]
    rfl

/-- The same holds of requests that look up or publish and count at once, such as those that are
served at once. -/
theorem Runs.balanced {s : State ρ ε} (h : Runs key (.start .empty) s)
    (hrest : s.progress.AtRest) (hlimit : ∀ o, s.cache.counter o < CacheStats.limit) :
    Balanced s.progress :=
  (h.moves.tallied tallied_start).balanced hrest hlimit

/-- **The counters account for every request**, in whatever order the requests make their moves:
when none is on its way and no counter has reached its end, there are as many misses as entries, the
counters add up to the number of requests that have returned a descriptor, and those are discarded
whose descriptor came too late. A request whose build has failed has left no trace at all. -/
theorem balanced_of_moves (h : Moves key (.start .empty) s) :
    (s.AtRest → (∀ o, s.cache.counter o < CacheStats.limit) → Balanced s) ∧
      ∀ i e, s.stage i = .failed e → Traceless key .empty s i :=
  ⟨(h.tallied tallied_start).balanced, fun _ _ hi => h.traceless (by rw [hi]; rfl)⟩

/-- The build of one request makes another one for the same key, which publishes its own descriptor
and is counted last: after a third one, which has found this descriptor, and after the first one,
which is outrun. A fourth one fails. -/
theorem balanced_of_moves_race : ∃ s : Progress (Fin 4) String,
    Moves raceKey (.start .empty) s ∧ s.AtRest ∧
      (∀ o, s.cache.counter o < CacheStats.limit) ∧ s.stage 3 = .failed "no keyspace" ∧
      s.cache.stats = ⟨1, 1, 1⟩ ∧ s.cache.size = 1 ∧ Balanced s ∧
      Traceless raceKey .empty s 3 := by
  let d := Samples.accountMapper.descriptor
  let c : Cache := Cache.empty.put (raceKey 1) d
  -- the descriptor is there, and nobody has been counted yet
  let s : Progress (Fin 4) String :=
    (((((Progress.start .empty).advance 0 .building .empty).advance 1 .building .empty).advance 1
      (.built d) .empty).advance 1 (.counting .published d) c).advance 2 (.counting .found d) c
  have hs : Moves raceKey (.start .empty) s :=
    .tail (.tail (.tail (.tail (.single ⟨0, _, _, .miss rfl, rfl⟩) ⟨1, _, _, .miss rfl, rfl⟩)
      ⟨1, _, _, .build d, rfl⟩) ⟨1, _, _, .publish rfl, rfl⟩) ⟨2, _, _, .find rfl, rfl⟩
  let t : Progress (Fin 4) String :=
    (((s.advance 0 (.built { d with className := "Late" }) c).advance 0 (.counting .outrun d)
      c).advance 3 .building c).advance 3 (.failed "no keyspace") c
  have ht : Moves raceKey s t :=
    .tail (.tail (.tail (.single ⟨0, _, _, .build _, rfl⟩) ⟨0, _, _, .discard rfl, rfl⟩)
      ⟨3, _, _, .miss rfl, rfl⟩) ⟨3, _, _, .fail _, rfl⟩
  let u : Progress (Fin 4) String :=
    ((t.advance 2 (.answered .found d) (c.count .found)).advance 0 (.answered .outrun d)
      ((c.count .found).count .outrun)).advance 1 (.answered .published d)
      (((c.count .found).count .outrun).count .published)
  have hu : Moves raceKey t u :=
    .tail (.tail (.single ⟨2, _, _, .count .found d, rfl⟩) ⟨0, _, _, .count .outrun d, rfl⟩)
      ⟨1, _, _, .count .published d, rfl⟩
  have hrest : u.AtRest := by
    intro i
    fin_cases i <;> rfl
  have hlimit : ∀ o, u.cache.counter o < CacheStats.limit := by
    intro o
    cases o <;> decide
  obtain ⟨hbalanced, hfailed⟩ := balanced_of_moves ((hs.trans ht).trans hu)
  exact ⟨u, (hs.trans ht).trans hu, hrest, hlimit, rfl, rfl, rfl, hbalanced hrest hlimit,
    hfailed 3 _ rfl⟩

end Cache

end WideColumn
