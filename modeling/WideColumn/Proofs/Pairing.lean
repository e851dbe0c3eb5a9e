import Mathlib
import WideColumn.Proofs.Outcome

/-!
# Lists that are related place by place

A collection is a list of values and its bytes are a list of parts, and each value is related to the
part in its place. What holds at every place holds of the lists; these are the ways in which that is
used.

* `List.Forall₂.imp_of_mem`: another relation, for what stands in the lists;
* `List.Forall₂.exists_mem_iff`: something is met in one list exactly if it is in the other;
* `List.Forall₂.exists_list`: what there is for every place can be gathered into a list;
* `List.Forall₂.forall_mem_left`, `List.Forall₂.forall_mem_right`: what follows at every place holds
  throughout;
* `List.Forall₂.exists_mem_left`: what stands in one list has a partner in the other;
* `List.Forall₂.eq_iff_map_eq`: lists that are made place by place are equal if what they are made
  from is;
* `List.exists_forall₂_iff`: the same place by place, for a list that is given on one side only;
* `List.mapM_eq_ok_iff`, `List.exists_mapM_iff`, `List.mapM_eq_error_iff`: a computation that is
  done at every place.
-/

namespace List

variable {α β γ : Type}

namespace Forall₂

theorem imp_of_mem {R S : α → β → Prop} {as : List α} {bs : List β} (h : Forall₂ R as bs)
    (hRS : ∀ a ∈ as, ∀ b ∈ bs, R a b → S a b) : Forall₂ S as bs := by
  induction h with
  | nil => exact .nil
  | cons hab _ ih =>
    refine .cons (hRS _ (mem_cons_self ..) _ (mem_cons_self ..) hab) (ih fun a ha b hb => ?_)
    exact hRS a (mem_cons_of_mem _ ha) b (mem_cons_of_mem _ hb)

theorem exists_mem_iff {R : α → β → Prop} {P : α → Prop} {Q : β → Prop} {as : List α}
    {bs : List β} (h : Forall₂ R as bs) (hPQ : ∀ a b, R a b → (P a ↔ Q b)) :
    (∃ a ∈ as, P a) ↔ ∃ b ∈ bs, Q b := by
  induction h with
  | nil => simp
  | cons hab _ ih => simp [hPQ _ _ hab, ih]

/-- **Something at every place makes a list.** -/
theorem exists_list {S : γ → β → Prop} {T : α → γ → Prop} {as : List α} {bs : List β}
    (h : Forall₂ (fun a b => ∃ c, S c b ∧ T a c) as bs) :
    ∃ cs, Forall₂ S cs bs ∧ Forall₂ T as cs := by
  induction h with
  | nil => exact ⟨[], .nil, .nil⟩
  | cons hab _ ih =>
    obtain ⟨c, hS, hT⟩ := hab
    obtain ⟨cs, hSs, hTs⟩ := ih
    exact ⟨c :: cs, .cons hS hSs, .cons hT hTs⟩

theorem forall_mem_left {R : α → β → Prop} {P : α → Prop} {as : List α} {bs : List β}
    (h : Forall₂ R as bs) (hP : ∀ a b, R a b → P a) : ∀ a ∈ as, P a := by
  induction h with
  | nil => exact fun a ha => absurd ha not_mem_nil
  | cons hab _ ih => exact forall_mem_cons.mpr ⟨hP _ _ hab, ih⟩

theorem forall_mem_right {R : α → β → Prop} {P : β → Prop} {as : List α} {bs : List β}
    (h : Forall₂ R as bs) (hP : ∀ a b, R a b → P b) : ∀ b ∈ bs, P b := by
  induction h with
  | nil => exact fun b hb => absurd hb not_mem_nil
  | cons hab _ ih => exact forall_mem_cons.mpr ⟨hP _ _ hab, ih⟩

/-- What stands in the second list has a partner in the first. -/
theorem exists_mem_left {R : α → β → Prop} {as : List α} {bs : List β} (h : Forall₂ R as bs)
    {b : β} (hb : b ∈ bs) : ∃ a ∈ as, R a b :=
  (h.imp_of_mem fun a ha _ _ hab => ⟨a, ha, hab⟩ :
    Forall₂ (fun _ b => ∃ a ∈ as, R a b) as bs).forall_mem_right (fun _ _ h => h) b hb

/-- **Lists that are made place by place** are equal exactly if `f` gives the same for what they are
made from, if this is so at every place. -/
theorem eq_iff_map_eq {R : β → α → Prop} {f : α → γ} {bs bs' : List β} {as as' : List α}
    (h : Forall₂ R bs as) (h' : Forall₂ R bs' as')
    (hf : ∀ a b a' b', R b a → R b' a' → (b = b' ↔ f a = f a')) :
    bs = bs' ↔ as.map f = as'.map f := by
  induction h generalizing bs' as' with
  | nil => cases h' <;> simp
  | cons hab _ ih =>
    cases h' with
    | nil => simp
    | cons hab' h' => simp [hf _ _ _ _ hab hab', ih h']

end Forall₂

/-- **Something at every place makes a list**, of which nothing more is known. -/
theorem exists_forall₂_iff {R : α → β → Prop} {bs : List β} :
    (∃ as, Forall₂ R as bs) ↔ ∀ b ∈ bs, ∃ a, R a b := by
  induction bs with
  | nil => exact iff_of_true ⟨[], .nil⟩ fun b hb => absurd hb not_mem_nil
  | cons b bs ih =>
    rw [forall_mem_cons, ← ih]
    constructor
    · rintro ⟨as, has⟩
      cases has with
      | cons hab has => exact ⟨⟨_, hab⟩, _, has⟩
    · rintro ⟨⟨a, hab⟩, as, has⟩
      exact ⟨a :: as, .cons hab has⟩

/-- **A computation that is done at every place** gives its results place by place. -/
theorem mapM_eq_ok_iff {ε : Type} {f : α → Except ε β} {as : List α} {bs : List β} :
    as.mapM f = .ok bs ↔ Forall₂ (fun a b => f a = .ok b) as bs := by
  induction as generalizing bs with
  | nil =>
    rw [mapM_nil, Except.pure_eq_ok, Except.ok.injEq, forall₂_nil_left_iff, eq_comm]
  | cons a as ih =>
    simp only [mapM_cons, Except.bind_eq_ok_iff, Except.pure_eq_ok, Except.ok.injEq, ih,
      forall₂_cons_left_iff]
    constructor
    · rintro ⟨b, hb, bs, hbs, rfl⟩
      exact ⟨b, bs, hb, hbs, rfl⟩
    · rintro ⟨b, bs, hb, hbs, rfl⟩
      exact ⟨b, hb, bs, hbs, rfl⟩

/-- It succeeds if it does at every place. -/
theorem exists_mapM_iff {ε : Type} {f : α → Except ε β} {as : List α} :
    (∃ bs, as.mapM f = .ok bs) ↔ ∀ a ∈ as, ∃ b, f a = .ok b := by
  simp only [mapM_eq_ok_iff, ← exists_forall₂_iff]
  exact exists_congr fun bs => ⟨Forall₂.flip, Forall₂.flip⟩

/-- It fails at the first place where it cannot be done. -/
theorem mapM_eq_error_iff {ε : Type} {f : α → Except ε β} {as : List α} {e : ε} :
    as.mapM f = .error e ↔ ∃ before a after, as = before ++ a :: after ∧
      (∀ a' ∈ before, ∃ b, f a' = .ok b) ∧ f a = .error e := by
  induction as with
  | nil => exact iff_of_false nofun (by simp)
  | cons first as ih =>
    simp only [mapM_cons, Except.bind_eq_error_iff, Except.pure_eq_ok, reduceCtorEq, and_false,
      exists_false, or_false, ih]
    constructor
    · rintro (h | ⟨b, hb, before, a, after, rfl, hbefore, h⟩)
      · exact ⟨[], first, as, rfl, by simp, h⟩
      · exact ⟨first :: before, a, after, rfl, forall_mem_cons.mpr ⟨⟨b, hb⟩, hbefore⟩, h⟩
    · rintro ⟨before, a, after, hsplit, hbefore, h⟩
      cases before with
      | nil =>
        obtain ⟨rfl, -⟩ := cons.inj hsplit
        exact Or.inl h
      | cons other before =>
        obtain ⟨rfl, rfl⟩ := cons.inj hsplit
        obtain ⟨⟨b, hb⟩, hbefore⟩ := forall_mem_cons.mp hbefore
        exact Or.inr ⟨b, hb, before, a, after, rfl, hbefore, h⟩

end List
