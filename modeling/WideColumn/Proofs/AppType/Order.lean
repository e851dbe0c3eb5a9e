import Mathlib
import WideColumn.Registry

/-!
# The order of application types

Whether a value of one type can stand where one of another is expected is decided by a test for
equality, two rows for the type of all values and that of all numbers, and a comparison of parts,
tried in this order. The rows overlap: two types may be equal, compared by their parts and below the
type of all values at once. That the test still decides an order is seen from rules that do not
overlap in what is above (`WideColumn.AppType.Fits`): for each type there is one rule that says what
is below it.

For a registry it follows which types go with a kind. Those whose values can be handed to the codec
of the kind are the types below one type, those that its values fit are the types above the same
one, and so only this type itself is among both.

* `WideColumn.AppType.Fits`: the rules;
* `WideColumn.AppType.isSubtype_iff_fits`: **the test decides what the rules say**;
* `WideColumn.AppType.Fits.trans`, `WideColumn.AppType.Fits.antisymm`: the rules make an order;
* `WideColumn.AppType.isSubtype_orders`: **application types are ordered**, and what follows for the
  kinds of a registry.
-/

namespace WideColumn

namespace AppType

/-! ### Rules -/

/-- **A value of the first type can stand where one of the second is expected**: one rule for each
type that may be expected. -/
inductive Fits : AppType → AppType → Prop
  | any (a : AppType) : Fits a any
  | number {a : AppType} (numeric : a.isNumeric = true) : Fits a number
  | primitive (p : Primitive) : Fits (primitive p) (primitive p)
  | list {a b : AppType} (element : Fits a b) : Fits (list a) (list b)
  | set {a b : AppType} (element : Fits a b) : Fits (set a) (set b)
  | map {k v k' v' : AppType} (key : Fits k k') (value : Fits v v') : Fits (map k v) (map k' v')
  | udt (name : String) : Fits (udt name) (udt name)
  | foreign (name : String) : Fits (foreign name) (foreign name)

variable {a b c k v k' v' : AppType}

namespace Fits

protected theorem refl (a : AppType) : Fits a a := by
  induction a with
  | any => exact .any _
  | number => exact .number rfl
  | primitive p => exact .primitive p
  | list e ih => exact .list ih
  | set e ih => exact .set ih
  | map k v ihk ihv => exact .map ihk ihv
  | udt name => exact .udt name
  | foreign name => exact .foreign name

/-- What fits numbers has numbers as values. -/
theorem isNumeric (h : Fits a b) (hb : b.isNumeric = true) : a.isNumeric = true := by
  cases h with
  | number ha => exact ha
  | primitive p => exact hb
  | _ => cases hb

protected theorem trans (hab : Fits a b) (hbc : Fits b c) : Fits a c := by
  induction hbc generalizing a with
  | any => exact .any a
  | number hb => exact .number (hab.isNumeric hb)
  | primitive | udt | foreign => exact hab
  | list _ ih =>
    cases hab with
    | list ha => exact .list (ih ha)
  | set _ ih =>
    cases hab with
    | set ha => exact .set (ih ha)
  | map _ _ ihk ihv =>
    cases hab with
    | map hk hv => exact .map (ihk hk) (ihv hv)

protected theorem antisymm (hab : Fits a b) (hba : Fits b a) : a = b := by
  induction hab with
  | any =>
    cases hba with
    | any => rfl
    | number h => cases h
  | number ha =>
    cases hba with
    | any => cases ha
    | number => rfl
  | primitive | udt | foreign => rfl
  | list _ ih =>
    cases hba with
    | list hb => rw [ih hb]
  | set _ ih =>
    cases hba with
    | set hb => rw [ih hb]
  | map _ _ ihk ihv =>
    cases hba with
    | map hk hv => rw [ihk hk, ihv hv]

end Fits

/-! ### The test -/

theorem Fits.isSubtype (h : Fits a b) : a.isSubtype b = true := by
  induction h with
  | any | primitive | udt | foreign => simp [AppType.isSubtype]
  | number ha => simp [AppType.isSubtype, ha]
  | list _ ih | set _ ih => simp [AppType.isSubtype, ih]
  | map _ _ ihk ihv => simp [AppType.isSubtype, ihk, ihv]

theorem fits_of_isSubtype {a b : AppType} (h : a.isSubtype b = true) : Fits a b := by
  by_cases heq : a = b
  · exact heq ▸ .refl a
  · -- only the rows behind the test for equality are left, and what is expected selects one of them
    rw [isSubtype.eq_def] at h
    change (a == b || _) = true at h
    rw [beq_false_of_ne heq, Bool.false_or] at h
    cases b with
    | any => exact .any a
    | number => exact .number h
    | list b =>
      cases a with
      | list a => exact .list (fits_of_isSubtype h)
      | _ => cases h
    | set b =>
      cases a with
      | set a => exact .set (fits_of_isSubtype h)
      | _ => cases h
    | map k' v' =>
      cases a with
      | map k v =>
        obtain ⟨hk, hv⟩ := Bool.and_eq_true_iff.mp h
        exact .map (fits_of_isSubtype hk) (fits_of_isSubtype hv)
      | _ => cases h
    | primitive | udt | foreign => cases a <;> cases h

/-- **The test decides what the rules say.** -/
theorem isSubtype_iff_fits : a.isSubtype b = true ↔ Fits a b :=
  ⟨fits_of_isSubtype, Fits.isSubtype⟩

/-! ### The order -/

instance : PartialOrder AppType where
  le a b := a.isSubtype b = true
  le_refl a := (Fits.refl a).isSubtype
  le_trans _ _ _ hab hbc := ((fits_of_isSubtype hab).trans (fits_of_isSubtype hbc)).isSubtype
  le_antisymm _ _ hab hba := (fits_of_isSubtype hab).antisymm (fits_of_isSubtype hba)

theorem le_iff_isSubtype : a ≤ b ↔ a.isSubtype b = true :=
  Iff.rfl

theorem le_iff_fits : a ≤ b ↔ Fits a b :=
  isSubtype_iff_fits

instance : OrderTop AppType where
  top := any
  le_top a := le_iff_fits.mpr (.any a)

theorem list_le_list_iff : list a ≤ list b ↔ a ≤ b := by
  rw [le_iff_fits, le_iff_fits]
  refine ⟨fun h => ?_, .list⟩
  cases h with
  | list element => exact element

theorem set_le_set_iff : set a ≤ set b ↔ a ≤ b := by
  rw [le_iff_fits, le_iff_fits]
  refine ⟨fun h => ?_, .set⟩
  cases h with
  | set element => exact element

theorem map_le_map_iff : map k v ≤ map k' v' ↔ k ≤ k' ∧ v ≤ v' := by
  rw [le_iff_fits, le_iff_fits, le_iff_fits]
  refine ⟨fun h => ?_, fun ⟨hk, hv⟩ => .map hk hv⟩
  cases h with
  | map key value => exact ⟨key, value⟩

end AppType

/-! ### The types that go with a kind -/

namespace Registry

variable {r : Registry} {kind : ScalarKind} {a : AppType}

theorem appType_eq_elim (r : Registry) (kind : ScalarKind) :
    r.appType kind = (r.codec? kind).elim kind.appType Codec.appType := by
  rw [appType]
  cases r.codec? kind <;> rfl

theorem acceptsFrom_iff_le : r.acceptsFrom kind a = true ↔ a ≤ r.appType kind :=
  Iff.rfl

theorem yieldsTo_iff_le : r.yieldsTo kind a = true ↔ r.appType kind ≤ a :=
  Iff.rfl

end Registry

namespace AppType

/-- **Application types are ordered**: the relation of the rules, which is what the test decides, is
a partial order, in which the type of all values is the greatest and collections are ordered by
their parts. So, whatever codecs a registry has, what can be handed to the codec of a kind includes
the subtypes of each type, what its values fit includes the supertypes, and both hold of one type
only, that of the codec or, where there is none, that of the kind. -/
theorem isSubtype_orders :
    (∀ a b : AppType, a.isSubtype b ↔ Fits a b) ∧
      (∀ a : AppType, a.isSubtype a) ∧
      (∀ a b : AppType, a.isSubtype b → b.isSubtype a → a = b) ∧
      (∀ a b c : AppType, a.isSubtype b → b.isSubtype c → a.isSubtype c) ∧
      (∀ a : AppType, a.isSubtype any) ∧
      (∀ a b : AppType, (list a).isSubtype (list b) ↔ a.isSubtype b) ∧
      (∀ a b : AppType, (set a).isSubtype (set b) ↔ a.isSubtype b) ∧
      (∀ k v k' v' : AppType,
        (map k v).isSubtype (map k' v') ↔ k.isSubtype k' ∧ v.isSubtype v') ∧
      ∀ (r : Registry) (kind : ScalarKind),
        (∀ a b : AppType, a.isSubtype b → r.acceptsFrom kind b → r.acceptsFrom kind a) ∧
        (∀ a b : AppType, a.isSubtype b → r.yieldsTo kind a → r.yieldsTo kind b) ∧
        ∀ a : AppType, r.acceptsFrom kind a ∧ r.yieldsTo kind a ↔
          a = (r.codec? kind).elim kind.appType Codec.appType := by
  simp only [← le_iff_isSubtype, Registry.acceptsFrom_iff_le, Registry.yieldsTo_iff_le,
    ← Registry.appType_eq_elim]
  refine ⟨fun a b => le_iff_fits, le_refl, fun a b => le_antisymm, fun a b c => le_trans,
    fun a => le_top, fun a b => list_le_list_iff, fun a b => set_le_set_iff,
    fun k v k' v' => map_le_map_iff, fun r kind => ⟨?_, ?_, fun a => le_antisymm_iff.symm⟩⟩
  · intro a b hab hb
    exact hab.trans hb
  · intro a b hab ha
    exact ha.trans hab

/-- Three maps, each below the next by another rule for its keys and for its values; and a kind with
the codec of maps of the first type. -/
theorem isSubtype_orders_maps :
    (map (.primitive .int32) (list (.primitive .int64))).isSubtype (map any any) = true ∧
      Registry.yieldsTo
        (Registry.standard.apply (.bind .text (.map (.scalar .int) (.list (.scalar .bigint)))))
        .text (map number (list number)) = true := by
  obtain ⟨-, -, -, htrans, -, -, -, -, hkinds⟩ := isSubtype_orders
  obtain ⟨-, hup, hboth⟩ := hkinds
    (Registry.standard.apply (.bind .text (.map (.scalar .int) (.list (.scalar .bigint))))) .text
  have hown := ((hboth (map (.primitive .int32) (list (.primitive .int64)))).mpr rfl).2
  have hnumbers : (map (.primitive .int32) (list (.primitive .int64))).isSubtype
      (map number (list number)) = true := by decide
  exact ⟨htrans _ _ _ hnumbers (by decide), hup _ _ hnumbers hown⟩

end AppType

end WideColumn
