import Mathlib
import WideColumn.Mapping.Manager
import WideColumn.Proofs.Cache.Entries
import WideColumn.Samples.Layers

/-!
# Keeping descriptors makes no difference

A manager keeps the descriptors it has built, under the identity of the class and the kind of
mapping, and it keeps no failures. Whoever asks for a descriptor cannot tell: as long as no two
declarations share an identity, each request gets what a build would give that is run for it alone.

The reason is an invariant of the cache: whatever it keeps is the fresh build of some request for
this key (`WideColumn.Manager.KeepsFresh`). It needs no assumption about identities. So even where
two declarations share one, and a request may be given the descriptor of another declaration, this
declaration has the identity that was asked for; the name of the class plays no part.

* `WideColumn.Manager.Request`, `WideColumn.Manager.results`: requests, and what becomes of a
  sequence of them;
* `WideColumn.Manager.fresh`: what the build of a request gives;
* `WideColumn.Manager.KeepsFresh.answer`: **a request keeps the invariant**;
* `WideColumn.Manager.results_eq_map_fresh`: **every request gets what its own build gives**.
-/

namespace WideColumn

namespace Manager

variable {σ : Type}

/-! ### Requests -/

/-- What a manager can be asked for. -/
inductive Request where
  /-- The descriptor of a declaration. -/
  | declared (decl : ClassDecl) (kind : MappingKind)
  /-- The descriptor of an entity type. -/
  | mapped (type : MappedType) (kind : MappingKind)

namespace Request

/-- The declaration whose descriptor is asked for. -/
def decl : Request → ClassDecl
  | declared d _ => d
  | mapped t _ => t.decl

/-- The kind of mapping that is asked for. -/
def kind : Request → MappingKind
  | declared _ k => k
  | mapped _ k => k

/-- The identity of the declaration: that of an entity type is its own. -/
def id : Request → ClassId
  | declared d _ => d.id
  | mapped t _ => .entityType t.type.name

/-- What the descriptor is kept under. -/
def key (r : Request) : CacheKey :=
  ⟨r.id, r.kind⟩

/-- Requests go by identities if those tell the declarations apart. -/
def AreCoherent (rs : List Request) : Prop :=
  ∀ r ∈ rs, ∀ r' ∈ rs, r.id = r'.id → r.decl = r'.decl

end Request

variable (m : Manager σ)

/-- What a request gets, and what is kept after it. -/
def answer (c : Cache) : Request → Traced MappingError Descriptor × Cache
  | .declared d kind => m.descriptor d kind c
  | .mapped t kind => m.descriptorFor t kind c

/-- **What the requests of a sequence get**, one after the other. -/
def results (c : Cache) : List Request → List (Except MappingError Descriptor)
  | [] => []
  | r :: rs => (m.answer c r).1.result :: results (m.answer c r).2 rs

/-- **What the build of a request gives** that is run for it alone. -/
def fresh (r : Request) : Except MappingError Descriptor :=
  (Descriptor.build r.decl r.kind m.config).result

/-! ### What is kept -/

variable {m} {rs asked : List Request} {r : Request} {c : Cache} {d : Descriptor}

/-- A request is served by the cache, in whatever way it names its declaration. -/
theorem answer_eq (c : Cache) (r : Request) :
    m.answer c r = c.requestBuilt r.key r.decl r.kind m.config := by
  cases r <;> rfl

/-- **Whatever is kept is the fresh build of a request** for this key. -/
def KeepsFresh (m : Manager σ) (asked : List Request) (c : Cache) : Prop :=
  ∀ k d, c.get? k = some d → ∃ r ∈ asked, r.key = k ∧ m.fresh r = .ok d

theorem keepsFresh_empty (m : Manager σ) (asked : List Request) : KeepsFresh m asked .empty := by
  intro k d hk
  rw [Cache.get?_empty] at hk
  cases hk

/-- What a request gets is kept already, or else its own build gives it. -/
theorem result_answer (c : Cache) (r : Request) : (m.answer c r).1.result =
    match c.get? r.key with
    | some d => .ok d
    | none => m.fresh r := by
  rw [answer_eq, Cache.result_requestBuilt]
  rfl

/-- **A request is only given what has been built for its key.** -/
theorem KeepsFresh.exists_fresh (hc : KeepsFresh m asked c) (hr : r ∈ asked)
    (h : (m.answer c r).1.result = .ok d) : ∃ r' ∈ asked, r'.key = r.key ∧ m.fresh r' = .ok d := by
  rw [result_answer] at h
  cases hkey : c.get? r.key with
  | some d' =>
    rw [hkey] at h
    cases h
    exact hc _ _ hkey
  | none =>
    rw [hkey] at h
    exact ⟨r, hr, rfl, h⟩

/-- **A request keeps the invariant**: what it adds to the cache is what it has been given. -/
theorem KeepsFresh.answer (hc : KeepsFresh m asked c) (hr : r ∈ asked) :
    KeepsFresh m asked (m.answer c r).2 := by
  intro k d hk
  rw [answer_eq, Cache.get?_requestBuilt, ← answer_eq] at hk
  split_ifs at hk with hkey
  · subst hkey
    refine hc.exists_fresh hr ?_
    cases hresult : (m.answer c r).1.result with
    | error e =>
      rw [hresult] at hk
      cases hk
    | ok d' =>
      rw [hresult] at hk
      rw [Option.some.inj hk]
  · exact hc k d hk

/-- A build depends on nothing but the declaration and the kind. -/
theorem fresh_eq_of_key_eq (hcoherent : Request.AreCoherent asked) {r' : Request} (hr : r ∈ asked)
    (hr' : r' ∈ asked) (hkey : r'.key = r.key) : m.fresh r' = m.fresh r := by
  have hdecl : r'.decl = r.decl := hcoherent r' hr' r hr (congrArg CacheKey.id hkey)
  have hkind : r'.kind = r.kind := congrArg CacheKey.kind hkey
  rw [fresh, fresh, hdecl, hkind]

/-- **A request gets what its own build gives**, if identities tell the declarations apart. -/
theorem KeepsFresh.result_answer_eq (hc : KeepsFresh m asked c)
    (hcoherent : Request.AreCoherent asked) (hr : r ∈ asked) :
    (m.answer c r).1.result = m.fresh r := by
  rw [result_answer]
  cases hkey : c.get? r.key with
  | some d =>
    obtain ⟨r', hr', hkey', hfresh⟩ := hc _ _ hkey
    rw [← fresh_eq_of_key_eq hcoherent hr hr' hkey', hfresh]
  | none => rfl

/-! ### Sequences of requests -/

theorem KeepsFresh.results_eq (hc : KeepsFresh m asked c) (hcoherent : Request.AreCoherent asked)
    (hrs : ∀ r ∈ rs, r ∈ asked) : m.results c rs = rs.map m.fresh := by
  induction rs generalizing c with
  | nil => rfl
  | cons r rs ih =>
    obtain ⟨hr, hrs⟩ := List.forall_mem_cons.mp hrs
    rw [results, List.map_cons, hc.result_answer_eq hcoherent hr, ih (hc.answer hr) hrs]

theorem KeepsFresh.forall₂_results (hc : KeepsFresh m asked c) (hrs : ∀ r ∈ rs, r ∈ asked) :
    List.Forall₂ (fun r result => ∀ d, result = .ok d →
      ∃ r' ∈ asked, r'.key = r.key ∧ m.fresh r' = .ok d) rs (m.results c rs) := by
  induction rs generalizing c with
  | nil => exact .nil
  | cons r rs ih =>
    obtain ⟨hr, hrs⟩ := List.forall_mem_cons.mp hrs
    exact .cons (fun d h => hc.exists_fresh hr h) (ih (hc.answer hr) hrs)

/-- **Keeping descriptors makes no difference**: whatever has been asked for before, and with
whatever result, each request of a sequence gets what its own build gives, a descriptor or an error.
For this no two declarations may share an identity; but in any case a descriptor that a request is
given has been built for a declaration of the same identity, and for the same kind of mapping. -/
theorem results_eq_map_fresh (m : Manager σ) (rs : List Request) :
    (Request.AreCoherent rs → m.results .empty rs = rs.map m.fresh) ∧
      List.Forall₂ (fun r result => ∀ d, result = .ok d →
        ∃ r' ∈ rs, r'.id = r.id ∧ r'.kind = r.kind ∧ m.fresh r' = .ok d)
        rs (m.results .empty rs) := by
  have hempty : KeepsFresh m rs .empty := keepsFresh_empty m rs
  refine ⟨fun hcoherent => hempty.results_eq hcoherent fun _ h => h, ?_⟩
  refine (hempty.forall₂_results fun _ h => h).imp ?_
  rintro r result h d hd
  obtain ⟨r', hr', hkey, hfresh⟩ := h d hd
  exact ⟨r', hr', congrArg CacheKey.id hkey, congrArg CacheKey.kind hkey, hfresh⟩

/-- A manager without a session. -/
def offline : Manager Unit :=
  ⟨.standard, {}, none⟩

/-- A class of numbered entries. All such classes have one name. -/
def entries (serial : Nat) (entityType : Option String) (table : String) : ClassDecl where
  serial := serial
  entityType := entityType
  name := "Entry"
  shape := .concrete
  markers := [.table { keyspace := some "crm", name := some table }]
  superclass := none
  embeddedIn := none
  interfaces := []
  members := [.bound "id" .field ⟨"Entry", "id"⟩ Samples.int32 [.partitionKey 0]]
  queries := []

/-- Entries are no user-defined type, however often this is tried. -/
def entryRequests : List Request :=
  [.declared (entries 1 (some "Entry") "entries") .udt,
    .declared (entries 1 (some "Entry") "entries") .table,
    .declared (entries 2 none "ledger") .table,
    .declared (entries 1 (some "Entry") "entries") .udt,
    .mapped ⟨⟨⟨"Entry", [("id", Samples.int32)]⟩, []⟩, entries 1 (some "Entry") "entries"⟩ .table]

/-- Two classes of one name, a request that fails twice, and one that is repeated in another form. -/
theorem results_eq_map_fresh_entries : Request.AreCoherent entryRequests ∧
    offline.results .empty entryRequests = entryRequests.map offline.fresh ∧
    (entryRequests.map offline.fresh).map (fun result => result.toOption.bind (·.name)) =
      [none, some "entries", some "ledger", none, some "entries"] := by
  have hcoherent : Request.AreCoherent entryRequests := by
    simp [Request.AreCoherent, entryRequests, Request.id, Request.decl, ClassDecl.id, entries]
  exact ⟨hcoherent, (results_eq_map_fresh offline entryRequests).1 hcoherent, by cbv⟩

end Manager

end WideColumn
