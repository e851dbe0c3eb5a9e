import Mathlib
import WideColumn.Proofs.Registry.ServerType

/-!
# Which server types are taken for column types

A registry undoes the step from a column type to its server type, but it undoes more than that.
Wrappers are removed first, and an older class of the server is read as the one that replaced it.
Both are meant. What is not meant is that the classes of scalar kinds may carry parameters: the
number of parameters is checked for the classes of the three collections only, so
`Int32Type(UTF8Type)` is taken for `int` as if it were `Int32Type`.

So a server type that is accepted need not represent a column type. It does once these parameters
are dropped, and then nothing else is accepted: the main statement is an equivalence.

* `WideColumn.ServerType.current`: a type with every class under its current name;
* `WideColumn.ServerType.bare`: a type without the parameters of scalar classes;
* `WideColumn.Registry.denotes_iff`: what a server type without wrappers stands for;
* `WideColumn.Registry.columnType_eq_ok_iff`: **which server types are taken for a column type**;
* `WideColumn.Registry.not_forall_current_eq`: some of them do not represent it.
-/

namespace WideColumn

namespace ServerType

/-! ### Current names -/

/-- The current name of a class. Only one class has had another name. -/
def currentName (c : String) : String :=
  if c = Registry.legacyTimestampClass then ScalarKind.timestamp.serverClass else c

mutual

/-- **The same type with every class under its current name.** -/
def current : ServerType → ServerType
  | node c ps => node (currentName c) (currentAll ps)

/-- The parameters of a type with every class under its current name. -/
def currentAll : List ServerType → List ServerType
  | [] => []
  | p :: ps => p.current :: currentAll ps

end

/-- The class of a collection has no other name. -/
theorem currentName_eq_collection_iff {c : String} {kind : CollectionKind} :
    currentName c = kind.serverClass ↔ c = kind.serverClass := by
  rw [currentName]
  split_ifs with hc
  · refine iff_of_false (Registry.serverClass_ne_collection .timestamp kind) ?_
    rw [hc]
    cases kind <;> decide
  · rfl

/-! ### Parameters of scalar classes -/

/-- Whether a class is that of a scalar kind. -/
def isScalarClass (c : String) : Bool :=
  ScalarKind.all.any fun k => k.serverClass == c

mutual

/-- **The same type without the parameters of scalar classes**, at every level. -/
def bare : ServerType → ServerType
  | node c ps => node c (if isScalarClass c then [] else bareAll ps)

/-- The parameters of a type without those of scalar classes in them. -/
def bareAll : List ServerType → List ServerType
  | [] => []
  | p :: ps => p.bare :: bareAll ps

end

theorem isScalarClass_serverClass (k : ScalarKind) : isScalarClass k.serverClass = true :=
  List.any_eq_true.mpr ⟨k, k.mem_all, beq_self_eq_true _⟩

theorem isScalarClass_collection (kind : CollectionKind) :
    isScalarClass kind.serverClass = false := by
  cases kind <;> decide

/-- A type of a scalar class has only its name left. -/
theorem bare_scalar (k : ScalarKind) (ps : List ServerType) :
    (node k.serverClass ps).bare = node k.serverClass [] := by
  rw [bare, if_pos (isScalarClass_serverClass k)]

/-- A type of the class of a collection keeps its parameters. -/
theorem bare_collection (kind : CollectionKind) (ps : List ServerType) :
    (node kind.serverClass ps).bare = node kind.serverClass (bareAll ps) := by
  rw [bare, isScalarClass_collection]
  rfl

/-! ### Types under their current names, without parameters of scalar classes -/

variable {m : ServerType}

/-- The types that come down to a scalar class: those of this class, and those of a class that has
had another name. -/
theorem bare_current_eq_scalar_iff {k : ScalarKind} :
    m.current.bare = node k.serverClass [] ↔
      currentName m.className = k.serverClass := by
  cases m with
  | node c ps =>
    rw [current, className_node]
    constructor
    · intro h
      rw [bare] at h
      exact (node.inj h).1
    · intro h
      rw [h, bare_scalar]

/-- The types that come down to a collection with given parameters: those of its class with
parameters that come down to these. -/
theorem bare_current_eq_collection_iff {kind : CollectionKind} {qs : List ServerType} :
    m.current.bare = node kind.serverClass qs ↔
      ∃ ps, m = node kind.serverClass ps ∧ bareAll (currentAll ps) = qs := by
  cases m with
  | node c ps =>
    rw [current]
    constructor
    · intro h
      have hc : currentName c = kind.serverClass := by
        rw [bare] at h
        exact (node.inj h).1
      rw [hc, bare_collection] at h
      rw [currentName_eq_collection_iff.mp hc]
      exact ⟨ps, rfl, (node.inj h).2⟩
    · rintro ⟨ps', h, hqs⟩
      obtain ⟨hc, rfl⟩ := node.inj h
      rw [currentName_eq_collection_iff.mpr hc, bare_collection, hqs]

/-- One parameter comes from one parameter. -/
theorem bareAll_currentAll_eq_singleton_iff {ps : List ServerType} {q : ServerType} :
    bareAll (currentAll ps) = [q] ↔ ∃ p, ps = [p] ∧ p.current.bare = q := by
  rcases ps with _ | ⟨p, _ | ⟨p', ps⟩⟩ <;> simp [currentAll, bareAll]

/-- Two parameters come from two parameters. -/
theorem bareAll_currentAll_eq_pair_iff {ps : List ServerType} {q q' : ServerType} :
    bareAll (currentAll ps) = [q, q'] ↔
      ∃ p p', ps = [p, p'] ∧ p.current.bare = q ∧ p'.current.bare = q' := by
  rcases ps with _ | ⟨p, _ | ⟨p', _ | ⟨p'', ps⟩⟩⟩ <;> simp [currentAll, bareAll]

end ServerType

namespace Registry

open ServerType

variable {r : Registry} {m : ServerType} {t : ColumnType}

/-! ### Kinds and current names -/

/-- A class stands for a kind that has a codec only if its current name is the class of this
kind. -/
theorem currentName_of_kindOfClass? {c : String} {k : ScalarKind}
    (h : r.kindOfClass? c = some k) : currentName c = k.serverClass := by
  rw [kindOfClass?] at h
  rw [currentName]
  split_ifs at h ⊢ with _ ht
  · rw [← Option.some.inj h]
  · have hfound := List.find?_some h
    exact (eq_of_beq (Bool.and_eq_true_iff.mp hfound).2).symm

/-- Timestamps are the only kind with their class. -/
theorem kindOfClass?_timestamp :
    r.kindOfClass? ScalarKind.timestamp.serverClass = r.kindOfClass? legacyTimestampClass := by
  rw [kindOfClass?, if_neg (serverClass_ne_legacyTimestampClass _), kindOfClass?, if_pos rfl]
  have hclass : ∀ k : ScalarKind, k.serverClass = ScalarKind.timestamp.serverClass →
      k = .timestamp := by
    intro k
    cases k <;> decide
  split_ifs with ht
  · obtain ⟨j, hj, -⟩ := exists_kindOfClass?_serverClass ht
    rw [kindOfClass?, if_neg (serverClass_ne_legacyTimestampClass _)] at hj
    have hfound := List.find?_some hj
    rw [hj, hclass j (eq_of_beq (Bool.and_eq_true_iff.mp hfound).2)]
  · refine List.find?_eq_none.mpr fun k _ hk => ht ?_
    obtain ⟨hregistered, hk⟩ := Bool.and_eq_true_iff.mp hk
    rwa [← hclass k (eq_of_beq hk)]

/-- What a class stands for is a matter of its current name. -/
theorem kindOfClass?_currentName (c : String) :
    r.kindOfClass? (currentName c) = r.kindOfClass? c := by
  rw [currentName]
  split_ifs with hc
  · rw [hc, kindOfClass?_timestamp]
  · rfl

/-! ### What server types stand for -/

/-- A class whose current name is that of a kind is not the class of a collection. -/
theorem ne_collection_of_currentName {c : String} {k : ScalarKind}
    (h : currentName c = k.serverClass) (kind : CollectionKind) : c ≠ kind.serverClass := by
  intro hc
  rw [currentName_eq_collection_iff.mpr hc] at h
  exact serverClass_ne_collection k kind h.symm

theorem denotes_scalar_iff {k : ScalarKind} :
    r.Denotes m (.scalar k) ↔
      m.current.bare = .node k.serverClass [] ∧ r.kindOfClass? k.serverClass = some k := by
  rw [bare_current_eq_scalar_iff]
  constructor
  · intro h
    cases h with
    | kind ps _ hk =>
      have hname := currentName_of_kindOfClass? hk
      exact ⟨hname, by rw [← hname, kindOfClass?_currentName, hk]⟩
  · rintro ⟨hname, hk⟩
    cases m with
    | node c ps =>
      rw [className_node] at hname
      rw [← hname, kindOfClass?_currentName] at hk
      exact .kind ps (ne_collection_of_currentName hname) hk

theorem denotes_list_iff {e : ColumnType} :
    r.Denotes m (.list e) ↔ ∃ p, m = .node CollectionKind.list.serverClass [p] ∧ r.Denotes p e := by
  constructor
  · intro h
    cases h with
    | list helement => exact ⟨_, rfl, helement⟩
  · rintro ⟨p, rfl, helement⟩
    exact .list helement

theorem denotes_set_iff {e : ColumnType} :
    r.Denotes m (.set e) ↔ ∃ p, m = .node CollectionKind.set.serverClass [p] ∧ r.Denotes p e := by
  constructor
  · intro h
    cases h with
    | set helement => exact ⟨_, rfl, helement⟩
  · rintro ⟨p, rfl, helement⟩
    exact .set helement

theorem denotes_map_iff {k v : ColumnType} :
    r.Denotes m (.map k v) ↔ ∃ p p', m = .node CollectionKind.map.serverClass [p, p'] ∧
      r.Denotes p k ∧ r.Denotes p' v := by
  constructor
  · intro h
    cases h with
    | map hkey hvalue => exact ⟨_, _, rfl, hkey, hvalue⟩
  · rintro ⟨p, p', rfl, hkey, hvalue⟩
    exact .map hkey hvalue

/-- The types that come down to a collection with one parameter that is the server type of a column
type. -/
theorem bare_current_eq_singleton_iff {kind : CollectionKind} {e : ColumnType} :
    m.current.bare = .node kind.serverClass [e.serverType] ↔
      ∃ p, m = .node kind.serverClass [p] ∧ p.current.bare = e.serverType := by
  rw [bare_current_eq_collection_iff]
  constructor
  · rintro ⟨ps, rfl, hps⟩
    obtain ⟨p, rfl, hp⟩ := bareAll_currentAll_eq_singleton_iff.mp hps
    exact ⟨p, rfl, hp⟩
  · rintro ⟨p, rfl, hp⟩
    exact ⟨[p], rfl, bareAll_currentAll_eq_singleton_iff.mpr ⟨p, rfl, hp⟩⟩

/-- **What a server type without wrappers stands for**: the column type that it comes down to, if
the registry knows the classes of its kinds by these kinds. -/
theorem denotes_iff :
    r.Denotes m t ↔
      m.current.bare = t.serverType ∧ ∀ k ∈ t.leaves, r.kindOfClass? k.serverClass = some k := by
  induction t generalizing m with
  | scalar k =>
    rw [denotes_scalar_iff, ColumnType.serverType, ColumnType.leaves, List.forall_mem_singleton]
  | list e ih =>
    rw [denotes_list_iff, ColumnType.serverType, ColumnType.leaves, bare_current_eq_singleton_iff]
    simp only [ih, ← and_assoc, exists_and_right]
  | set e ih =>
    rw [denotes_set_iff, ColumnType.serverType, ColumnType.leaves, bare_current_eq_singleton_iff]
    simp only [ih, ← and_assoc, exists_and_right]
  | map k v ihk ihv =>
    rw [denotes_map_iff, ColumnType.serverType, ColumnType.leaves, bare_current_eq_collection_iff,
      List.forall_mem_append]
    constructor
    · rintro ⟨p, p', rfl, hkey, hvalue⟩
      obtain ⟨hp, hkinds⟩ := ihk.mp hkey
      obtain ⟨hp', hkinds'⟩ := ihv.mp hvalue
      exact ⟨⟨_, rfl, bareAll_currentAll_eq_pair_iff.mpr ⟨p, p', rfl, hp, hp'⟩⟩, hkinds, hkinds'⟩
    · rintro ⟨⟨ps, rfl, hps⟩, hkinds, hkinds'⟩
      obtain ⟨p, p', rfl, hp, hp'⟩ := bareAll_currentAll_eq_pair_iff.mp hps
      exact ⟨p, p', rfl, ihk.mpr ⟨hp, hkinds⟩, ihv.mpr ⟨hp', hkinds'⟩⟩

/-! ### Every registry -/

/-- **Which server types are taken for a column type**, by any registry: those that become its
server type once wrappers are removed, classes have their current names and the parameters of scalar
classes are dropped, provided that the registry knows the classes of its kinds by these kinds. -/
theorem columnType_eq_ok_iff :
    r.columnType m = .ok t ↔
      m.unwrapped.current.bare = t.serverType ∧
        ∀ k ∈ t.leaves, r.kindOfClass? k.serverClass = some k := by
  rw [columnType, columnTypeUnwrapped_eq_ok_iff, denotes_iff]

/-- **Not every server type that is taken for a column type represents it.** A scalar class with a
parameter is no server type of any column type. -/
theorem not_forall_current_eq : ¬∀ (r : Registry) (m : ServerType) (t : ColumnType),
    r.columnType m = .ok t → m.unwrapped.current = t.serverType := by
  intro hall
  have h := hall standard (.node "Int32Type" [.node "UTF8Type" []]) (.scalar .int) rfl
  have hparams := congrArg ServerType.params h
  exact absurd hparams nofun

end Registry

end WideColumn
