import Mathlib
import WideColumn.Mapping.Property
import WideColumn.Proofs.Outcome

/-!
# Which drafts make properties

The rules for a property are checked one after the other and the first one that is broken is
reported. Whether any is broken does not depend on this order: the markers have to agree
(`WideColumn.Draft.MarkersAgree`) and a codec that a marker asks for has to fit
(`WideColumn.Draft.CodecFits`), unless the settings do not ask for that. What the property then is
can be read off the draft.

* `WideColumn.PropertyMarker.columnName?`, `WideColumn.PropertyMarker.expression?`,
  `WideColumn.PropertyMarker.position?`: what markers say;
* `WideColumn.Draft.validate_eq_ok_iff`: the rules for markers, as one condition;
* `WideColumn.Property.result_ofDraft_eq_ok_iff`: **which drafts make properties, and which ones**;
* `WideColumn.Property.get_eq_ok_iff`, `WideColumn.Property.set_eq_ok_iff`: access to a property;
* `WideColumn.Draft.MarkersAgree.role_udt`: user-defined types have no keys and nothing computed.
-/

namespace WideColumn

/-! ### What markers say -/

namespace PropertyMarker

/-- The name that a marker gives to a column or field. -/
def columnName? : PropertyMarker → Option ColumnName
  | column name => some name
  | field name => some name
  | _ => none

/-- The expression that a marker gives. -/
def expression? : PropertyMarker → Option String
  | computed e => some e
  | _ => none

/-- The position in a part of the key that a marker gives. -/
def position? : PropertyMarker → Option Int32
  | partitionKey n => some n
  | clusteringColumn n => some n
  | _ => none

end PropertyMarker

namespace Draft

variable {d : Draft} {kind : MappingKind}

/-! ### Markers that there are -/

variable {mk : MarkerKind}

theorem kind_of_marker? {m : PropertyMarker} (h : d.marker? mk = some m) : m.kind = mk :=
  eq_of_beq (List.find?_some h :)

theorem has_iff : d.has mk ↔ ∃ m ∈ d.markers, m.kind = mk := by
  rw [has, marker?, List.find?_isSome]
  simp only [beq_iff_eq]

/-- **There is a marker of a kind** if the one that counts says something, as all markers of this kind
do. -/
theorem exists_marker?_bind_iff {α : Type} {f : PropertyMarker → Option α}
    (h : ∀ m : PropertyMarker, m.kind = mk → (f m).isSome) :
    (∃ a, (d.marker? mk).bind f = some a) ↔ d.has mk := by
  rw [has]
  cases hm : d.marker? mk with
  | none => simp
  | some m => simpa [Option.isSome_iff_exists] using h m (kind_of_marker? hm)

/-- What is found by its kind is of this kind, if anything is found. -/
theorem marker?_eq_none_or (d : Draft) (mk : MarkerKind) :
    d.marker? mk = none ∨ ∃ m : PropertyMarker, m.kind = mk ∧ d.marker? mk = some m := by
  cases hm : d.marker? mk with
  | none => exact .inl rfl
  | some m => exact .inr ⟨m, kind_of_marker? hm, rfl⟩

theorem column?_eq (d : Draft) : d.column? = (d.marker? .column).bind (·.columnName?) := by
  rw [column?]
  rcases d.marker?_eq_none_or .column with hm | ⟨m, hkind, hm⟩ <;> rw [hm]
  · rfl
  · cases m <;> first | rfl | cases hkind

theorem field?_eq (d : Draft) : d.field? = (d.marker? .field).bind (·.columnName?) := by
  rw [field?]
  rcases d.marker?_eq_none_or .field with hm | ⟨m, hkind, hm⟩ <;> rw [hm]
  · rfl
  · cases m <;> first | rfl | cases hkind

theorem computed?_eq (d : Draft) : d.computed? = (d.marker? .computed).bind (·.expression?) := by
  rw [computed?]
  cases d.marker? .computed with
  | none => rfl
  | some m => cases m <;> rfl

theorem partitionKey?_eq (d : Draft) :
    d.partitionKey? = (d.marker? .partitionKey).bind (·.position?) := by
  rw [partitionKey?]
  rcases d.marker?_eq_none_or .partitionKey with hm | ⟨m, hkind, hm⟩ <;> rw [hm]
  · rfl
  · cases m <;> first | rfl | cases hkind

theorem clusteringColumn?_eq (d : Draft) :
    d.clusteringColumn? = (d.marker? .clusteringColumn).bind (·.position?) := by
  rw [clusteringColumn?]
  rcases d.marker?_eq_none_or .clusteringColumn with hm | ⟨m, hkind, hm⟩ <;> rw [hm]
  · rfl
  · cases m <;> first | rfl | cases hkind

/-- A marker for computed properties holds an expression. -/
theorem has_computed_iff : d.has .computed ↔ ∃ e, d.computed? = some e := by
  rw [computed?_eq, exists_marker?_bind_iff]
  intro m h
  cases m <;> first | rfl | cases h

/-- A marker for a key holds a position. -/
theorem exists_partitionKey?_iff : (∃ n, d.partitionKey? = some n) ↔ d.has .partitionKey := by
  rw [partitionKey?_eq, exists_marker?_bind_iff]
  intro m h
  cases m <;> first | rfl | cases h

theorem exists_clusteringColumn?_iff :
    (∃ n, d.clusteringColumn? = some n) ↔ d.has .clusteringColumn := by
  rw [clusteringColumn?_eq, exists_marker?_bind_iff]
  intro m h
  cases m <;> first | rfl | cases h

/-! ### Rules -/

/-- **The rules for the markers of a property.** -/
structure MarkersAgree (d : Draft) (kind : MappingKind) : Prop where
  /-- Each of them may be there in the mapping. -/
  allowed : ∀ m ∈ d.markers, m.isAllowed kind
  /-- A property is not in both parts of a key. -/
  key : ¬(d.has .partitionKey ∧ d.has .clusteringColumn)
  /-- What is computed has no column and is not in the key. -/
  computed : ¬(d.has .computed ∧
    (d.has .column ∨ d.has .partitionKey ∨ d.has .clusteringColumn))
  /-- What is computed is computed from something. -/
  expression : d.computed? ≠ some ""

/-- **The checks of the markers pass if all rules are kept.** -/
theorem validate_eq_ok_iff : d.validate kind = .ok () ↔ d.MarkersAgree kind := by
  rw [validate]
  -- the cases are the checks, in the order in which they are made
  cases hillegal : d.markers.find? fun m => !m.isAllowed kind with
  | some m =>
    refine iff_of_false nofun fun h => ?_
    have hm := List.find?_some hillegal
    rw [h.allowed m (List.mem_of_find?_eq_some hillegal)] at hm
    exact absurd hm nofun
  | none =>
    have hallowed : ∀ m ∈ d.markers, m.isAllowed kind := by
      simpa using hillegal
    by_cases hkey : d.has .partitionKey ∧ d.has .clusteringColumn
    · rw [if_pos (by simpa using hkey)]
      exact iff_of_false nofun fun h => h.key hkey
    · rw [if_neg (by simpa using hkey)]
      cases hexpression : d.computed? with
      | none =>
        have hcomputed : ¬d.has .computed := by
          rw [has_computed_iff, hexpression]
          exact fun h => h.elim nofun
        exact iff_of_true rfl ⟨hallowed, hkey, fun h => hcomputed h.1, by rw [hexpression]; nofun⟩
      | some e =>
        have hcomputed : d.has .computed := has_computed_iff.mpr ⟨e, hexpression⟩
        have hfirst : d.firstOf [.column, .partitionKey, .clusteringColumn] = none ↔
            ∀ mk ∈ [.column, .partitionKey, .clusteringColumn], ¬d.has mk := List.find?_eq_none
        cases hother : d.firstOf [.column, .partitionKey, .clusteringColumn] with
        | some other =>
          refine iff_of_false nofun fun h => h.computed ⟨hcomputed, ?_⟩
          by_contra hnone
          rw [hfirst.mpr (by simpa [not_or] using hnone)] at hother
          cases hother
        | none =>
          have hno : ¬(d.has .column ∨ d.has .partitionKey ∨ d.has .clusteringColumn) := by
            simpa [not_or] using hfirst.mp hother
          dsimp only
          by_cases hempty : e = ""
          · rw [if_pos hempty]
            exact iff_of_false nofun fun h => h.expression (by rw [hexpression, hempty])
          · rw [if_neg hempty]
            exact iff_of_true rfl ⟨hallowed, hkey, fun h => hno h.2, by
              rw [hexpression]
              exact fun h => hempty (Option.some.inj h)⟩

/-! ### Roles -/

/-- What plays a part in a key has the marker for it. -/
theorem has_of_isPartitionKey (h : d.role.isPartitionKey) : d.has .partitionKey := by
  rw [role] at h
  split_ifs at h
  · cases h
  · split at h
    · exact exists_partitionKey?_iff.mp ⟨_, ‹d.partitionKey? = some _›⟩
    all_goals cases h

theorem has_of_isClusteringColumn (h : d.role.isClusteringColumn) : d.has .clusteringColumn := by
  rw [role] at h
  split_ifs at h
  · cases h
  · split at h
    · cases h
    · exact exists_clusteringColumn?_iff.mp ⟨_, ‹d.clusteringColumn? = some _›⟩
    all_goals cases h

/-- What is computed has the marker for it. -/
theorem has_of_isComputed (h : d.role.isComputed) : d.has .computed := by
  rw [role] at h
  split_ifs at h
  · cases h
  · split at h
    · cases h
    · cases h
    · exact has_computed_iff.mpr ⟨_, ‹d.computed? = some _›⟩
    · cases h

/-- **A user-defined type has no key and nothing computed**, as the markers for that may not be
there. -/
theorem MarkersAgree.role_udt (h : d.MarkersAgree .udt) :
    ¬d.role.isPartitionKey ∧ ¬d.role.isClusteringColumn ∧ ¬d.role.isComputed := by
  have hnone : ∀ mk, (∀ m : PropertyMarker, m.kind = mk → m.isAllowed .udt = false) →
      ¬d.has mk := by
    intro mk hmk hhas
    obtain ⟨m, hm, hkind⟩ := has_iff.mp hhas
    exact absurd (h.allowed m hm) (by rw [hmk m hkind]; nofun)
  refine ⟨fun hrole => hnone .partitionKey ?_ (has_of_isPartitionKey hrole),
    fun hrole => hnone .clusteringColumn ?_ (has_of_isClusteringColumn hrole),
    fun hrole => hnone .computed ?_ (has_of_isComputed hrole)⟩ <;>
  · intro m hm
    cases m <;> first | contradiction | rfl

/-! ### The codec -/

/-- **The rule for the codec of a property**: its values are of a narrower or a wider type than
those of the property. -/
def CodecFits (d : Draft) : Prop :=
  ∀ c, d.codec? = some c → c.appType.isSubtype d.appType ∨ d.appType.isSubtype c.appType

/-- A codec that a marker asks for is bound exactly if it fits or need not fit. -/
theorem result_boundCodec_eq_ok_iff {className : String} {config : Config} {c : Option Codec} :
    (d.boundCodec className config).result = .ok c ↔
      (config.validateCodecs → d.CodecFits) ∧ d.codec? = c := by
  rw [boundCodec, CodecFits]
  cases hcodec : d.codec? with
  | none => simp
  | some codec =>
    have hrefused : (config.validateCodecs && !codec.appType.isRelated d.appType) = true ↔
        ¬(config.validateCodecs →
          codec.appType.isSubtype d.appType ∨ d.appType.isSubtype codec.appType) := by
      simp [AppType.isRelated]
    simp only [Option.some.injEq, forall_eq']
    split_ifs with hrefuse
    · exact iff_of_false nofun fun h => hrefused.mp hrefuse h.1
    · have hfits := not_not.mp (mt hrefused.mpr hrefuse)
      simpa [Except.bind] using fun _ => hfits

end Draft

namespace PropertyRole

/-- **Only keys have positions.** -/
theorem position_of_not_key {r : PropertyRole} (hpartition : ¬r.isPartitionKey)
    (hclustering : ¬r.isClusteringColumn) : r.position = -1 := by
  cases r with
  | partitionKey n => exact absurd rfl hpartition
  | clusteringColumn n => exact absurd rfl hclustering
  | _ => rfl

end PropertyRole

namespace Property

/-- **The property that a draft describes**, in a class of a name. -/
def described (className : String) (d : Draft) : Property where
  name := d.property
  columnName := d.columnName
  appType := d.appType
  role := d.role
  customCodec := d.codec?
  frozen := d.frozenness
  reader := d.reader
  writer := d.writer
  className := className

/-- **Which drafts make properties, and which ones.** -/
theorem result_ofDraft_eq_ok_iff {className : String} {kind : MappingKind} {config : Config}
    {d : Draft} {p : Property} :
    (ofDraft className kind config d).result = .ok p ↔
      (d.MarkersAgree kind ∧ (config.validateCodecs → d.CodecFits)) ∧
        described className d = p := by
  have hsteps : (ofDraft className kind config d).result = .ok p ↔
      d.validate kind = .ok () ∧ ∃ c, (d.boundCodec className config).result = .ok c ∧
        { described className d with customCodec := c } = p := by
    rw [ofDraft, Traced.result_bind_eq_ok_iff, Unique.exists_iff, Traced.result_ofExcept]
    simp only [Traced.result_bind_eq_ok_iff, Traced.result_pure_eq_ok_iff, described]
  rw [hsteps, Draft.validate_eq_ok_iff]
  simp only [Draft.result_boundCodec_eq_ok_iff, and_assoc, exists_and_left, exists_eq_left']
  rfl

/-! ### Access -/

variable {p : Property} {e e' : Entity} {v : Value}

/-- A property has the value that is read through its route. -/
theorem get_eq_ok_iff : p.get e = .ok v ↔ ∃ r, p.reader = some r ∧ r.read e = .ok v := by
  rw [get]
  cases p.reader with
  | none => simp
  | some r => simp only [Except.mapError_eq_ok_iff, Option.some.injEq, exists_eq_left']

/-- A property is set by writing through its route. -/
theorem set_eq_ok_iff : p.set e v = .ok e' ↔ ∃ r, p.writer = some r ∧ r.write e v = .ok e' := by
  rw [set]
  cases p.writer with
  | none => simp
  | some r => simp only [Except.mapError_eq_ok_iff, Option.some.injEq, exists_eq_left']

end Property

end WideColumn
