import Mathlib
import WideColumn.Proofs.Registry.ServerType

/-!
# Codecs are found kind by kind

A program sets up a registry step by step, and the last step on a kind decides whether it has a
codec and which. This may be the codec of another kind, or of a collection. So the codec of a column
type is not always one for columns of this type: it has the shape of the type, and in the place of
each kind it has what is registered for the kind. Its column type and its application type have this
shape as well.

There is no codec if one of the kinds has none. The parts of a type are gone through from left to
right, the key of a map before its value, and the first kind without a codec is the one that is
reported.

* `WideColumn.ColumnType.fold`: something in the shape of a column type;
* `WideColumn.Registry.lastStep?`: the last change to a kind;
* `WideColumn.Registry.codec?_foldl_apply`: **the last change to a kind decides**;
* `WideColumn.Registry.result_resolve_of_find?`: the kind that is reported;
* `WideColumn.Registry.result_resolve_of_codecs`: the codec that is found;
* `WideColumn.Registry.resolve_follows_leaves`: **codecs are found kind by kind**.
-/

namespace WideColumn

/-! ### The shape of a column type -/

namespace ColumnType

variable {α β : Type}

/-- **Something in the shape of a type**: given for each kind, and made for each collection from
what its parts have come to. -/
def fold (scalar : ScalarKind → α) (list set : α → α) (map : α → α → α) : ColumnType → α
  | .scalar k => scalar k
  | .list e => list (e.fold scalar list set map)
  | .set e => set (e.fold scalar list set map)
  | .map k v => map (k.fold scalar list set map) (v.fold scalar list set map)

/-- What respects the ways to make collections can be applied to the kinds already. -/
theorem apply_fold {scalar : ScalarKind → α} {list set : α → α} {map : α → α → α}
    {list' set' : β → β} {map' : β → β → β} (h : α → β) (hlist : ∀ a, h (list a) = list' (h a))
    (hset : ∀ a, h (set a) = set' (h a)) (hmap : ∀ a b, h (map a b) = map' (h a) (h b))
    (t : ColumnType) :
    h (t.fold scalar list set map) = t.fold (fun k => h (scalar k)) list' set' map' := by
  induction t with
  | scalar k => rfl
  | list e ih => rw [fold, fold, hlist, ih]
  | set e ih => rw [fold, fold, hset, ih]
  | map k v ihk ihv => rw [fold, fold, hmap, ihk, ihv]

theorem columnType_fold (f : ScalarKind → Codec) (t : ColumnType) :
    (t.fold f .list .set .map).columnType =
      t.fold (fun k => (f k).columnType) .list .set .map :=
  apply_fold Codec.columnType (fun _ => rfl) (fun _ => rfl) (fun _ _ => rfl) t

theorem appType_fold (f : ScalarKind → Codec) (t : ColumnType) :
    (t.fold f .list .set .map).appType = t.fold (fun k => (f k).appType) .list .set .map :=
  apply_fold Codec.appType (fun _ => rfl) (fun _ => rfl) (fun _ _ => rfl) t

end ColumnType

namespace Registry

/-! ### The last change to a kind -/

/-- **The last change to a kind** among some changes, if there is one. -/
def lastStep? (steps : List Step) (k : ScalarKind) : Option Step :=
  steps.reverse.find? (·.kind == k)

theorem lastStep?_concat (steps : List Step) (s : Step) (k : ScalarKind) :
    lastStep? (steps ++ [s]) k = if k = s.kind then some s else lastStep? steps k := by
  rw [lastStep?, List.reverse_concat, List.find?_cons]
  split_ifs with hk
  · rw [hk, beq_self_eq_true]
  · rw [beq_false_of_ne (Ne.symm hk)]
    rfl

/-- **The last change to a kind decides** which codec it has after all of them. A kind that is not
changed keeps the codec it had. -/
theorem codec?_foldl_apply (base : Registry) (steps : List Step) (k : ScalarKind) :
    (steps.foldl apply base).codec? k =
      (lastStep? steps k).elim (base.codec? k) Step.outcome := by
  induction steps using List.reverseRecOn with
  | nil => rfl
  | append_singleton steps s ih =>
    rw [List.foldl_concat, lastStep?_concat, apply]
    dsimp only
    split_ifs with hk
    · rfl
    · exact ih

/-! ### What is found for a column type -/

variable {r : Registry} {t : ColumnType}

/-- **The kind that is reported** is the first one without a codec. -/
theorem result_resolve_of_find? {k : ScalarKind}
    (h : t.leaves.find? (!r.isRegistered ·) = some k) :
    (r.resolve t).result = .error (.unregistered k) := by
  induction t with
  | scalar j =>
    obtain rfl := List.mem_singleton.mp (List.mem_of_find?_eq_some h)
    have hnone : r.codec? k = none := by
      have hk := List.find?_some h
      simpa [isRegistered] using hk
    rw [resolve, hnone]
    rfl
  | list e ih | set e ih =>
    rw [resolve, Traced.result_bind, ih h]
    rfl
  | map a b iha ihb =>
    rw [ColumnType.leaves, List.find?_append, Option.or_eq_some_iff] at h
    rw [resolve, Traced.result_bind]
    rcases h with ha | ⟨ha, hb⟩
    · rw [iha ha]
      rfl
    · -- the key has a codec, so the value is looked at
      have hkey : ∀ j ∈ a.leaves, r.isRegistered j := by
        simpa using List.find?_eq_none.mp ha
      obtain ⟨c, hc⟩ := exists_result_resolve_iff.mpr hkey
      rw [hc, Except.bind, Traced.result_bind, ihb hb]
      rfl

/-- **The codec that is found** has the codecs of the kinds in their places. -/
theorem result_resolve_of_codecs {f : ScalarKind → Codec}
    (h : ∀ k ∈ t.leaves, r.codec? k = some (f k)) :
    (r.resolve t).result = .ok (t.fold f .list .set .map) := by
  induction t with
  | scalar k =>
    rw [resolve, h k (List.mem_singleton_self k)]
    rfl
  | list e ih | set e ih =>
    rw [resolve, Traced.result_bind, ih h]
    rfl
  | map a b iha ihb =>
    obtain ⟨ha, hb⟩ := List.forall_mem_append.mp h
    rw [resolve, Traced.result_bind, iha ha, Except.bind, Traced.result_bind, ihb hb]
    rfl

example : ((standard.apply (.bind .int (.list (.scalar .text)))).resolve
    (.set (.scalar .int))).result = .ok (.set (.list (.scalar .text))) := rfl

/-- If each kind of a type has a codec, there is a choice of these codecs. -/
theorem exists_codecs (h : ∀ k ∈ t.leaves, r.isRegistered k) :
    ∃ f : ScalarKind → Codec, ∀ k ∈ t.leaves, r.codec? k = some (f k) := by
  refine ⟨fun k => (r.codec? k).getD (.scalar k), fun k hk => ?_⟩
  obtain ⟨c, hc⟩ := Option.isSome_iff_exists.mp (h k hk)
  simp only [hc, Option.getD_some]

theorem result_resolve_eq_ok_iff {c : Codec} :
    (r.resolve t).result = .ok c ↔
      ∃ f : ScalarKind → Codec, (∀ k ∈ t.leaves, r.codec? k = some (f k)) ∧
        t.fold f .list .set .map = c := by
  constructor
  · intro h
    obtain ⟨f, hf⟩ := exists_codecs (exists_result_resolve_iff.mp ⟨c, h⟩)
    exact ⟨f, hf, Except.ok.inj ((result_resolve_of_codecs hf).symm.trans h)⟩
  · rintro ⟨f, hf, rfl⟩
    exact result_resolve_of_codecs hf

theorem result_resolve_eq_error_iff {e : TypeError} :
    (r.resolve t).result = .error e ↔
      ∃ k, t.leaves.find? (!r.isRegistered ·) = some k ∧ .unregistered k = e := by
  refine Except.eq_error_iff_of_obstacle (fun _ => result_resolve_of_find?) fun h => ?_
  rw [exists_result_resolve_iff]
  simpa using List.find?_eq_none.mp h

/-- **Codecs are found kind by kind**, whatever the steps by which a registry has been set up: the
last step on a kind decides on its codec. A column type has a codec exactly if all its kinds have,
and else the first kind from the left that has none is reported. The codec has those of the kinds in
their places, and so have its column type and its application type. In the standard registry these
are the type itself and that of its values. -/
theorem resolve_follows_leaves (base : Registry) (steps : List Step) :
    ∃ r, (ofSteps base steps : Traced TypeError Registry).result = .ok r ∧
      (∀ k, r.codec? k = (lastStep? steps k).elim (base.codec? k) Step.outcome) ∧
      (∀ t : ColumnType,
        ((∃ c, (r.resolve t).result = .ok c) ↔ ∀ k ∈ t.leaves, r.isRegistered k) ∧
        (∀ e, (r.resolve t).result = .error e ↔
          ∃ k, t.leaves.find? (!r.isRegistered ·) = some k ∧ .unregistered k = e) ∧
        ∀ c, (r.resolve t).result = .ok c ↔
          ∃ f : ScalarKind → Codec, (∀ k ∈ t.leaves, r.codec? k = some (f k)) ∧
            t.fold f .list .set .map = c ∧
            c.columnType = t.fold (fun k => (f k).columnType) .list .set .map ∧
            c.appType = t.fold (fun k => (f k).appType) .list .set .map) ∧
      ∀ t : ColumnType, ∃ c,
        (standard.resolve t).result = .ok c ∧ c.columnType = t ∧ c.appType = t.appType := by
  refine ⟨steps.foldl apply base, rfl, codec?_foldl_apply base steps, fun t => ⟨?_, ?_, ?_⟩, ?_⟩
  · exact exists_result_resolve_iff
  · exact fun e => result_resolve_eq_error_iff
  · intro c
    rw [result_resolve_eq_ok_iff]
    refine exists_congr fun f => and_congr_right fun _ => ⟨?_, And.left⟩
    rintro rfl
    exact ⟨rfl, t.columnType_fold f, t.appType_fold f⟩
  · intro t
    exact ⟨t.codec, result_resolve_standard t, t.columnType_codec, t.appType_codec⟩

end Registry

end WideColumn
