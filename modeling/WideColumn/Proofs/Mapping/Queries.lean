import Mathlib
import WideColumn.Proofs.Mapping.Acceptance
import WideColumn.Proofs.Mapping.Hierarchy
import WideColumn.Proofs.Pairing
import WideColumn.Samples.Interfaces

/-!
# The queries of an accessor

The methods of an accessor are declared anywhere in its hierarchy, and a method may be declared more
than once. The declarations are gone through in the order of the hierarchy with a record of the
methods that have been seen, so the first declaration of a method is the one that counts. What the
others say is never looked at, however wrong it is.

* `WideColumn.Query.firsts`: the declarations that count, one for each method;
* `WideColumn.Query.IsComplete`, `WideColumn.Query.fault`: a declaration that can be used, and what
  is wrong with one that cannot;
* `WideColumn.Descriptor.resolveQueries_eq`: **the record of what has been seen leaves exactly the
  declarations that count**;
* `WideColumn.Descriptor.result_build_of_isAccessor`: **what an accessor is mapped to**, and the
  error if it cannot be mapped.
-/

namespace WideColumn

namespace Query

/-! ### The declarations that count -/

/-- **The methods that are declared**, each of them once, in the order in which they come first. -/
def methods (qs : List Query) : List String :=
  (qs.map (·.method)).eraseDups

/-- **The declaration of a method that counts**: the first one. -/
def first? (qs : List Query) (method : String) : Option Query :=
  qs.find? (·.method == method)

/-- **The declarations that count**, in the order of the methods. -/
def firsts (qs : List Query) : List Query :=
  (methods qs).filterMap (first? qs)

variable {q : Query} {qs : List Query} {className : String}

theorem mem_methods_iff {method : String} : method ∈ methods qs ↔ ∃ q ∈ qs, q.method = method := by
  rw [methods, List.mem_eraseDups, List.mem_map]

theorem methods_cons (q : Query) (qs : List Query) :
    methods (q :: qs) = q.method :: methods (qs.filter (·.method ≠ q.method)) := by
  rw [methods, methods, List.map_cons, List.eraseDups_cons, List.filter_map]
  refine congrArg (fun qs' : List Query => _ :: (qs'.map (·.method)).eraseDups)
    (List.filter_congr fun q' _ => ?_)
  simp [← Bool.beq_eq_decide_eq]

theorem first?_cons_of_ne {method : String} (h : method ≠ q.method) :
    first? (q :: qs) method = first? (qs.filter (·.method ≠ q.method)) method := by
  rw [first?, first?, List.find?_cons_of_neg (by simpa using h.symm), List.find?_filter]
  congr 1
  funext q'
  by_cases hq : q'.method = method <;> simp [hq, h]

/-- A declaration hides those of the same method that come after it. -/
theorem firsts_cons (q : Query) (qs : List Query) :
    firsts (q :: qs) = q :: firsts (qs.filter (·.method ≠ q.method)) := by
  have hfirst : first? (q :: qs) q.method = some q := List.find?_cons_of_pos (beq_self_eq_true _)
  rw [firsts, methods_cons, List.filterMap_cons_some hfirst, firsts]
  congr 1
  -- for another method it makes no difference whether the declarations of this one are there
  refine List.filterMap_congr fun method hmethod => first?_cons_of_ne ?_
  obtain ⟨q', hq', rfl⟩ := mem_methods_iff.mp hmethod
  simpa using (List.mem_filter.mp hq').2

/-- What holds of no declarations, and of a list of declarations if it holds of those of other
methods behind the first one, holds of all lists of declarations. -/
@[elab_as_elim]
theorem methods_induction {motive : List Query → Prop} (nil : motive [])
    (cons : ∀ q qs, motive (qs.filter (·.method ≠ q.method)) → motive (q :: qs)) :
    ∀ qs, motive qs
  | [] => nil
  | q :: qs => cons q qs (methods_induction nil cons (qs.filter (·.method ≠ q.method)))
termination_by qs => qs.length
decreasing_by exact Nat.lt_succ_of_le (List.length_filter_le ..)

/-- There is one declaration that counts for each method. -/
theorem map_method_firsts (qs : List Query) : (firsts qs).map (·.method) = methods qs := by
  induction qs using methods_induction with
  | nil => rfl
  | cons q qs ih => rw [firsts_cons, List.map_cons, methods_cons, ih]

theorem nodup_methods (qs : List Query) : (methods qs).Nodup := by
  induction qs using methods_induction with
  | nil => exact List.nodup_nil
  | cons q qs ih =>
    rw [methods_cons, List.nodup_cons]
    refine ⟨fun hmem => ?_, ih⟩
    obtain ⟨q', hq', hsame⟩ := mem_methods_iff.mp hmem
    exact absurd hsame (by simpa using (List.mem_filter.mp hq').2)

/-! ### Declarations that can be used -/

/-- **A declaration that can be used**: there is a query, and all of the parameters have names or
none of them. -/
structure IsComplete (q : Query) : Prop where
  text : q.text.isSome
  params : (∀ p ∈ q.params, p.name.isSome) ∨ ∀ p ∈ q.params, p.name.isNone

/-- **What is wrong with a declaration that cannot be used.** -/
def fault (className : String) (q : Query) : MappingError :=
  if q.text.isNone then .missingQuery className q.method
  else .inconsistentParamNames className q.method

/-- **What is declared is what there is in the end.** -/
structure Becomes (q : Query) (r : QueryDescriptor) : Prop where
  method : r.method = q.method
  text : q.text = some r.text
  params : r.params = q.params

end Query

/-- **The parameters go by name if there are any and all of them have names**, where all of them
have names or none has: the first one tells for all. -/
theorem QueryDescriptor.hasNamedParams_iff {r : QueryDescriptor}
    (h : (∀ p ∈ r.params, p.name.isSome) ∨ ∀ p ∈ r.params, p.name.isNone) :
    r.hasNamedParams ↔ r.params ≠ [] ∧ ∀ p ∈ r.params, p.name.isSome := by
  rw [hasNamedParams]
  cases hparams : r.params with
  | nil => simp
  | cons p ps =>
    rw [hparams] at h
    have hfirst : p ∈ p :: ps := List.mem_cons_self
    rcases h with hnamed | hunnamed
    · exact iff_of_true (hnamed p hfirst) ⟨List.cons_ne_nil p ps, hnamed⟩
    · have hp : ¬p.name.isSome := by simpa using hunnamed p hfirst
      exact iff_of_false hp fun h => hp (h.2 p hfirst)

/-- **An accessor**: an interface that asks for this mapping and for no other one. -/
structure ClassDecl.IsAccessor (d : ClassDecl) : Prop where
  interface : d.shape = .interface
  asked : ∃ m ∈ d.markers, m.kind = .accessor
  alone : ∀ m ∈ d.markers, m.kind = .accessor

/-- **The methods of a class with their queries**, those of the closest declarations first. -/
def ClassDecl.declaredQueries (d : ClassDecl) : List Query :=
  d.declarations.flatMap (·.queries)

namespace Descriptor

variable {d : ClassDecl} {config : Config} {className : String} {q : Query} {qs : List Query}

/-! ### The single steps -/

theorem isComplete_iff : q.IsComplete ↔
    ∃ text, q.text = some text ∧
      (q.params.all (·.name.isSome) || q.params.all (·.name.isNone)) = true := by
  rw [exists_and_right, ← Option.isSome_iff_exists, Bool.or_eq_true, List.all_eq_true,
    List.all_eq_true]
  exact ⟨fun h => ⟨h.text, h.params⟩, fun h => ⟨h.1, h.2⟩⟩

/-- A declaration is taken as it is, if it can be used. -/
theorem resolveQuery_of_isComplete (className : String) (h : q.IsComplete) :
    ∃ r, resolveQuery className q = .ok r ∧ q.Becomes r := by
  obtain ⟨text, htext, hparams⟩ := isComplete_iff.mp h
  refine ⟨⟨q.method, text, q.params⟩, ?_, rfl, htext, rfl⟩
  rw [resolveQuery, htext]
  exact if_pos hparams

/-- It is refused for what is wrong with it, if it cannot be used. -/
theorem resolveQuery_of_not_isComplete (className : String) (h : ¬q.IsComplete) :
    resolveQuery className q = .error (q.fault className) := by
  rw [isComplete_iff] at h
  rw [resolveQuery, Query.fault]
  cases htext : q.text with
  | none => rfl
  | some text => exact if_neg fun hparams => h ⟨text, htext, hparams⟩

theorem resolveQuery_eq_ok_iff {r : QueryDescriptor} :
    resolveQuery className q = .ok r ↔ q.IsComplete ∧ q.Becomes r := by
  by_cases hcomplete : q.IsComplete
  · obtain ⟨r', hr', hbecomes⟩ := resolveQuery_of_isComplete className hcomplete
    rw [hr', Except.ok.injEq, and_iff_right hcomplete]
    refine ⟨fun h => h ▸ hbecomes, fun h => ?_⟩
    have htext := Option.some.inj (hbecomes.text.symm.trans h.text)
    cases r
    cases r'
    cases hbecomes
    cases h
    simp_all
  · rw [resolveQuery_of_not_isComplete className hcomplete]
    exact iff_of_false nofun fun h => hcomplete h.1

theorem exists_resolveQuery_iff (className : String) :
    (∃ r, resolveQuery className q = .ok r) ↔ q.IsComplete := by
  simp only [resolveQuery_eq_ok_iff, exists_and_left, and_iff_left_iff_imp]
  intro h
  obtain ⟨r, -, hr⟩ := resolveQuery_of_isComplete className h
  exact ⟨r, hr⟩

theorem resolveQuery_eq_error_iff {e : MappingError} :
    resolveQuery className q = .error e ↔ ¬q.IsComplete ∧ q.fault className = e := by
  by_cases hcomplete : q.IsComplete
  · obtain ⟨r, hr, -⟩ := resolveQuery_of_isComplete className hcomplete
    rw [hr]
    exact iff_of_false nofun fun h => h.1 hcomplete
  · rw [resolveQuery_of_not_isComplete className hcomplete, Except.error.injEq,
      and_iff_right hcomplete]

/-- **The record of the methods that have been seen** leaves exactly the declarations that count. -/
theorem resolveQueries_eq (className : String) (seen : List String) (qs : List Query) :
    resolveQueries className seen qs =
      (Query.firsts (qs.filter (·.method ∉ seen))).mapM (resolveQuery className) := by
  -- the record grows on the way, so this has to be said of every record
  induction qs generalizing seen with
  | nil => rfl
  | cons q qs ih =>
    rw [resolveQueries]
    by_cases hseen : q.method ∈ seen
    · rw [if_pos hseen, ih, List.filter_cons_of_neg (by simpa using hseen)]
    · rw [if_neg hseen, List.filter_cons_of_pos (by simpa using hseen), Query.firsts_cons,
        List.mapM_cons, ih, List.filter_filter]
      simp [not_or]

/-! ### The mapping -/

/-- The outcome of an accessor is that of its queries. -/
theorem result_build_eq_of_isAccessor (h : d.IsAccessor) (config : Config) :
    (build d .accessor config).result =
      (Query.firsts d.declaredQueries).mapM (resolveQuery d.name) >>= fun queries =>
        .ok ⟨d.name, .accessor, none, none, [], [], [], [], queries⟩ := by
  have hvalid : validateKind d .accessor = .ok () :=
    (validateKind_eq_ok_iff_of_shape fun _ => h.interface).mpr ⟨h.asked, h.alone⟩
  have hdeclared : (d.levels.flatMap fun l => l.decl.queries) = d.declaredQueries := by
    rw [ClassDecl.declaredQueries, ClassDecl.declarations, List.flatMap_map]
  have hunseen : d.declaredQueries.filter (·.method ∉ []) = d.declaredQueries := by simp
  rw [build, Traced.result_bind, Traced.result_ofExcept, hvalid]
  change (buildAccessor d).result = _
  rw [buildAccessor, Traced.result_bind, Traced.result_ofExcept, hdeclared, resolveQueries_eq,
    hunseen]
  rfl

/-- **What an accessor is mapped to.** It is mapped if and only if the first declaration of each of
its methods can be used. Then it has one query for each method, in the order of the first
declarations, and each of them is what this declaration says. Otherwise the error is that of the
first method whose first declaration cannot be used. -/
theorem result_build_of_isAccessor (h : d.IsAccessor) (config : Config) :
    ((∃ desc, (build d .accessor config).result = .ok desc) ↔
      ∀ q ∈ Query.firsts d.declaredQueries, q.IsComplete) ∧
    (∀ desc, (build d .accessor config).result = .ok desc →
      desc.queries.map (·.method) = Query.methods d.declaredQueries ∧
      (desc.queries.map (·.method)).Nodup ∧
      List.Forall₂ Query.Becomes (Query.firsts d.declaredQueries) desc.queries ∧
      ∀ r ∈ desc.queries,
        r.hasNamedParams ↔ r.params ≠ [] ∧ ∀ p ∈ r.params, p.name.isSome) ∧
    ∀ e, (build d .accessor config).result = .error e ↔
      ∃ before q after, Query.firsts d.declaredQueries = before ++ q :: after ∧
        (∀ q' ∈ before, q'.IsComplete) ∧ ¬q.IsComplete ∧ q.fault d.name = e := by
  rw [result_build_eq_of_isAccessor h config]
  refine ⟨?_, ?_, ?_⟩
  · simp only [← exists_resolveQuery_iff d.name, ← List.exists_mapM_iff,
      Except.bind_eq_ok_iff, Except.ok.injEq]
    constructor
    · rintro ⟨_, queries, hqueries, -⟩
      exact ⟨queries, hqueries⟩
    · rintro ⟨queries, hqueries⟩
      exact ⟨_, queries, hqueries, rfl⟩
  · intro desc hdesc
    obtain ⟨queries, hqueries, hsame⟩ := Except.bind_eq_ok_iff.mp hdesc
    cases hsame
    have hall := List.mapM_eq_ok_iff.mp hqueries
    simp only [resolveQuery_eq_ok_iff] at hall
    have hbecomes := hall.imp fun _ _ hq => hq.2
    have hmethods : queries.map (·.method) = Query.methods d.declaredQueries := by
      rw [← Query.map_method_firsts, ← List.forall₂_eq_eq_eq, List.forall₂_map_left_iff,
        List.forall₂_map_right_iff]
      exact hbecomes.flip.imp fun _ _ hr => hr.method
    refine ⟨hmethods, hmethods ▸ Query.nodup_methods _, hbecomes, fun r hr => ?_⟩
    obtain ⟨q, -, hcomplete, hr⟩ := hall.exists_mem_left hr
    exact QueryDescriptor.hasNamedParams_iff (hr.params ▸ hcomplete.params)
  · intro e
    simp only [Except.bind_eq_error_iff, reduceCtorEq, and_false, exists_false, or_false,
      List.mapM_eq_error_iff, exists_resolveQuery_iff, resolveQuery_eq_error_iff]

/-- A method that is declared without a query can be declared again with one, and then it has this
query. The other way round, the accessor cannot be mapped. -/
theorem result_build_readings :
    (∃ desc, (build (Samples.readings (some "SELECT * FROM readings WHERE id = :id")) .accessor
        {}).result = .ok desc ∧
      desc.queries.map (fun r => (r.method, r.hasNamedParams)) =
        [("find", true), ("count", false)]) ∧
    (build (Samples.readings none) .accessor {}).result =
      .error (.missingQuery "Readings" "find") := by
  have haccessor : ∀ query, (Samples.readings query).IsAccessor := fun query =>
    ⟨rfl, ⟨.accessor, List.mem_singleton_self _, rfl⟩, fun m hm => by
      rw [List.mem_singleton.mp hm]; rfl⟩
  have hfirsts : ∀ query, Query.firsts (Samples.readings query).declaredQueries =
      [⟨"find", query, [⟨some "id", .primitive .int32⟩]⟩,
        ⟨"count", some "SELECT count(*) FROM readings", []⟩] := by
    intro query
    cbv
  constructor
  · obtain ⟨hmapped, hqueries, -⟩ := result_build_of_isAccessor
      (haccessor (some "SELECT * FROM readings WHERE id = :id")) {}
    rw [hfirsts] at hmapped hqueries
    obtain ⟨desc, hdesc⟩ := hmapped.mpr (List.forall_mem_cons.mpr
      ⟨⟨rfl, Or.inl (by simp)⟩, List.forall_mem_singleton.mpr ⟨rfl, Or.inl (by simp)⟩⟩)
    obtain ⟨-, -, hbecomes, -⟩ := hqueries desc hdesc
    obtain ⟨find, others, hfind, hothers, heq⟩ := List.forall₂_cons_left_iff.mp hbecomes
    obtain ⟨count, none, hcount, hnone, rfl⟩ := List.forall₂_cons_left_iff.mp hothers
    obtain rfl := List.forall₂_nil_left_iff.mp hnone
    refine ⟨desc, hdesc, ?_⟩
    simp [heq, hfind.method, hcount.method, QueryDescriptor.hasNamedParams, hfind.params,
      hcount.params]
  · obtain ⟨-, -, herror⟩ := result_build_of_isAccessor (haccessor none) {}
    rw [hfirsts] at herror
    refine (herror _).mpr ⟨[], _, _, rfl, List.forall_mem_nil _, fun hcomplete => ?_, rfl⟩
    exact absurd hcomplete.text (by decide)

end Descriptor

end WideColumn
