import Mathlib
import WideColumn.Value.Basic

/-!
# What is in a value

The parts of a list or set are its elements, those of a map its keys and its values; the parts of a
part are in the value as well.

* `WideColumn.Value.parts`: the parts of a value;
* `WideColumn.Value.Inside`: the first value is in the second, at any depth;
* `WideColumn.Value.Occurs`: the first value is in the second, or is the second.
-/

namespace WideColumn

namespace Value

/-- The elements of a collection, and the keys and values of a map. -/
def parts : Value → List Value
  | list vs => vs
  | set vs => vs
  | map es => es.flatMap fun e => [e.1, e.2]
  | _ => []

/-- **The first value is somewhere in the second, or is the second.** -/
def Occurs : Value → Value → Prop :=
  Relation.ReflTransGen fun w v => w ∈ v.parts

/-- **The first value is somewhere in the second**, at any depth. -/
def Inside : Value → Value → Prop :=
  Relation.TransGen fun w v => w ∈ v.parts

variable {u v w : Value} {vs : List Value} {es : List (Value × Value)}

theorem Occurs.refl (v : Value) : Occurs v v :=
  Relation.ReflTransGen.refl

theorem ne_of_not_occurs (h : ¬Occurs w v) : v ≠ w := by
  rintro rfl
  exact h (Occurs.refl v)

theorem Occurs.of_mem_parts (hw : Occurs w v) (hv : v ∈ u.parts) : Occurs w u :=
  hw.tail hv

theorem occurs_iff : Occurs w v ↔ w = v ∨ Inside w v := by
  rw [Occurs, Relation.reflTransGen_iff_eq_or_transGen, eq_comm]
  rfl

/-- What is inside is one of the parts or is inside one of them. -/
theorem inside_iff : Inside w v ↔ ∃ u ∈ v.parts, Occurs w u := by
  rw [Inside, Relation.TransGen.tail'_iff]
  exact exists_congr fun u => and_comm

/-- Nothing is inside a value that has no parts. -/
theorem not_inside_of_parts_eq_nil (h : v.parts = []) : ¬Inside w v := by
  rw [inside_iff, h]
  rintro ⟨u, hu, -⟩
  exact absurd hu List.not_mem_nil

theorem fst_mem_parts {e : Value × Value} (he : e ∈ es) : e.1 ∈ (map es).parts :=
  List.mem_flatMap.mpr ⟨e, he, List.mem_cons_self ..⟩

theorem snd_mem_parts {e : Value × Value} (he : e ∈ es) : e.2 ∈ (map es).parts :=
  List.mem_flatMap.mpr ⟨e, he, List.mem_cons_of_mem _ (List.mem_cons_self ..)⟩

theorem inside_list : Inside w (list vs) ↔ ∃ v ∈ vs, Occurs w v :=
  inside_iff

theorem inside_set : Inside w (set vs) ↔ ∃ v ∈ vs, Occurs w v :=
  inside_iff

theorem inside_map : Inside w (map es) ↔ ∃ e ∈ es, Occurs w e.1 ∨ Occurs w e.2 := by
  rw [inside_iff]
  constructor
  · rintro ⟨v, hv, hw⟩
    obtain ⟨e, he, hv⟩ := List.mem_flatMap.mp hv
    rcases List.mem_pair.mp hv with rfl | rfl
    · exact ⟨e, he, Or.inl hw⟩
    · exact ⟨e, he, Or.inr hw⟩
  · rintro ⟨e, he, hw | hw⟩
    · exact ⟨e.1, fst_mem_parts he, hw⟩
    · exact ⟨e.2, snd_mem_parts he, hw⟩

end Value

end WideColumn
