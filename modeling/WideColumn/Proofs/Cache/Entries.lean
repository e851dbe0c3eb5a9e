import Mathlib
import WideColumn.Mapping.Cache
import WideColumn.Proofs.Outcome

/-!
# What a cache keeps

A cache is seen through its keys: `WideColumn.Cache.get?` tells which descriptor is kept for a key,
and the counters beside the entries decide nothing. In this view the two steps of a request are
simple. Looking up changes nothing, and publishing gives the key a descriptor that it keeps; so an
entry that is there stays there.

* `WideColumn.Cache.get?_lookUp`, `WideColumn.Cache.get?_publish`: **what the two steps do**;
* `WideColumn.Cache.of_publish_eq_published`, `WideColumn.Cache.of_publish_eq_discarded`: what the note
  of a step tells;
* `WideColumn.Cache.request_of_some`, `WideColumn.Cache.request_of_error`,
  `WideColumn.Cache.request_of_ok`: the ways in which a request goes;
* `WideColumn.Cache.get?_requestBuilt`: what is kept after a request that is not interrupted.
-/

namespace WideColumn

namespace Cache

variable {ε : Type} {c c' : Cache} {key other : CacheKey} {d built : Descriptor}
  {build : Cache → Traced ε Descriptor × Cache}

@[simp] theorem get?_empty (key : CacheKey) : empty.get? key = none := rfl

/-! ### Looking up -/

theorem lookUp_of_some (h : c.get? key = some d) :
    c.lookUp key = (some d, { c with stats.hits := CacheStats.increment c.stats.hits }) := by
  rw [lookUp, h]

theorem lookUp_of_none (h : c.get? key = none) : c.lookUp key = (none, c) := by
  rw [lookUp, h]

/-- What is found is what is kept. -/
@[simp] theorem fst_lookUp (c : Cache) (key : CacheKey) : (c.lookUp key).1 = c.get? key := by
  cases h : c.get? key with
  | some d => rw [lookUp_of_some h]
  | none => rw [lookUp_of_none h]

/-- **Looking up changes nothing** of what is kept. -/
@[simp] theorem get?_lookUp (c : Cache) (key other : CacheKey) :
    (c.lookUp key).2.get? other = c.get? other := by
  cases h : c.get? key with
  | some d =>
    rw [lookUp_of_some h]
    rfl
  | none => rw [lookUp_of_none h]

/-- What a lookup tells that has found something. -/
theorem of_lookUp_eq_some (h : c.lookUp key = (some d, c')) :
    c.get? key = some d ∧ ∀ k, c'.get? k = c.get? k := by
  refine ⟨by rw [← fst_lookUp, h], fun k => ?_⟩
  rw [← get?_lookUp c key k, h]

/-- What a lookup tells that has found nothing. -/
theorem of_lookUp_eq_none (h : c.lookUp key = (none, c')) : c.get? key = none ∧ c' = c := by
  have hnone : c.get? key = none := by rw [← fst_lookUp, h]
  rw [lookUp_of_none hnone] at h
  exact ⟨hnone, (congrArg Prod.snd h).symm⟩

/-! ### Publishing -/

theorem publish_of_some (h : c.get? key = some d) : c.publish key built =
    (d, .discarded key.kind built.className,
      { c with stats.discarded := CacheStats.increment c.stats.discarded }) := by
  rw [publish, h]

theorem publish_of_none (h : c.get? key = none) : c.publish key built =
    (built, .published key.kind built.className,
      { entries := c.entries ++ [(key, built)]
        stats := { c.stats with misses := CacheStats.increment c.stats.misses } }) := by
  rw [publish, h]

/-- A request gets what was kept already, and only otherwise what has been built. -/
theorem fst_publish (c : Cache) (key : CacheKey) (built : Descriptor) :
    (c.publish key built).1 = (c.get? key).getD built := by
  cases h : c.get? key with
  | some d => rw [publish_of_some h, Option.getD_some]
  | none => rw [publish_of_none h, Option.getD_none]

/-- **Publishing gives the key a descriptor**, the one that the request gets, and changes nothing
else. -/
theorem get?_publish (c : Cache) (key other : CacheKey) (built : Descriptor) :
    (c.publish key built).2.2.get? other =
      if other = key then some (c.publish key built).1 else c.get? other := by
  cases h : c.get? key with
  | some d =>
    rw [publish_of_some h]
    change c.get? other = _
    split_ifs with hkey
    · rw [hkey, h]
    · rfl
  | none =>
    rw [publish_of_none h]
    change (c.entries ++ [(key, built)]).lookup other = if other = key then some built else _
    rw [List.lookup_append, List.lookup_cons, List.lookup_nil]
    change (c.get? other).or _ = _
    split_ifs with hkey
    · rw [hkey, h, Option.none_or, beq_self_eq_true]
    · rw [beq_false_of_ne hkey, Option.or_none]

/-- What it tells that a descriptor has been published: it is now kept. -/
theorem of_publish_eq_published {kind : MappingKind} {className : String}
    (h : c.publish key built = (d, .published kind className, c')) :
    c.get? key = none ∧ d = built ∧ ∀ k, c'.get? k = if k = key then some d else c.get? k := by
  cases hkey : c.get? key with
  | some e =>
    rw [publish_of_some hkey] at h
    cases h
  | none =>
    have hd := fst_publish c key built
    rw [h, hkey, Option.getD_none] at hd
    refine ⟨rfl, hd, fun k => ?_⟩
    have hk := get?_publish c key k built
    rwa [h] at hk

/-- What it tells that a descriptor has been thrown away: another one was kept. -/
theorem of_publish_eq_discarded {kind : MappingKind} {className : String}
    (h : c.publish key built = (d, .discarded kind className, c')) :
    c.get? key = some d ∧ ∀ k, c'.get? k = c.get? k := by
  cases hkey : c.get? key with
  | some e =>
    rw [publish_of_some hkey] at h
    cases h
    exact ⟨rfl, fun k => rfl⟩
  | none =>
    rw [publish_of_none hkey] at h
    cases h

/-! ### Requests -/

/-- A request finds its descriptor. -/
theorem request_of_some (h : c.get? key = some d) :
    c.request key build = (pure d, (c.lookUp key).2) := by
  rw [request, lookUp_of_some h]

/-- A request has to build its descriptor, and the build fails. -/
theorem request_of_error {events : List Event} {e : ε} (h : c.get? key = none)
    (hbuild : build c = (⟨events, .error e⟩, c')) :
    c.request key build = (⟨events, .error e⟩, c') := by
  simp only [request, lookUp_of_none h, hbuild]

/-- A request has to build its descriptor, and publishes it. -/
theorem request_of_ok {events : List Event} (h : c.get? key = none)
    (hbuild : build c = (⟨events, .ok built⟩, c')) : c.request key build =
      (⟨events ++ [(c'.publish key built).2.1], .ok (c'.publish key built).1⟩,
        (c'.publish key built).2.2) := by
  simp only [request, lookUp_of_none h, hbuild]

variable {decl : ClassDecl} {kind : MappingKind} {config : Config}

/-- **What a request that is not interrupted gives**: what is kept, or else what it builds. -/
theorem result_requestBuilt : (c.requestBuilt key decl kind config).1.result =
    match c.get? key with
    | some d => .ok d
    | none => (Descriptor.build decl kind config).result := by
  cases h : c.get? key with
  | some d =>
    rw [requestBuilt, request_of_some h]
    rfl
  | none =>
    cases hbuild : Descriptor.build decl kind config with
    | mk events result =>
      cases result with
      | error e => rw [requestBuilt, request_of_error h (congrArg (·, c) hbuild)]
      | ok d =>
        rw [requestBuilt, request_of_ok h (congrArg (·, c) hbuild), fst_publish, h,
          Option.getD_none]

/-- **What is kept after it**: its result, if it has not failed. -/
theorem get?_requestBuilt : (c.requestBuilt key decl kind config).2.get? other =
    if other = key then (c.requestBuilt key decl kind config).1.result.toOption
    else c.get? other := by
  cases h : c.get? key with
  | some d =>
    rw [requestBuilt, request_of_some h, get?_lookUp]
    split_ifs with hkey
    · rw [hkey, h]
      rfl
    · rfl
  | none =>
    cases hbuild : Descriptor.build decl kind config with
    | mk events result =>
      cases result with
      | error e =>
        rw [requestBuilt, request_of_error h (congrArg (·, c) hbuild)]
        split_ifs with hkey
        · rw [hkey, h]
          rfl
        · rfl
      | ok d =>
        rw [requestBuilt, request_of_ok h (congrArg (·, c) hbuild)]
        exact get?_publish c key other d

end Cache

end WideColumn
