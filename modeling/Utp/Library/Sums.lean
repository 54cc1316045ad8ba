import Mathlib.Algebra.GroupWithZero.Nat
import Mathlib.Algebra.BigOperators.Group.Finset.Basic
import Mathlib.Algebra.Order.BigOperators.Group.Finset

/-! Sums over the numbers below a bound that a property singles out. -/
namespace Sums

/-- A property that holds of at most one number adds its term once. -/
theorem sum_ite_of_unique {n : Nat} {p : Nat → Prop} [DecidablePred p] (c : Nat)
    (h : ∀ i < n, ∀ j < n, p i → p j → i = j) [Decidable (∃ i < n, p i)] :
    (∑ i ∈ Finset.range n, if p i then c else 0) = if ∃ i < n, p i then c else 0 := by
  split_ifs with hAny
  · obtain ⟨i, hi, hp⟩ := hAny
    rw [Finset.sum_eq_single i, if_pos hp]
    · intro j hj hNe
      exact if_neg fun hq => hNe (h j (Finset.mem_range.1 hj) i hi hq hp)
    · intro hOut
      exact absurd (Finset.mem_range.2 hi) hOut
  · refine Finset.sum_eq_zero fun i hi => if_neg fun hp => ?_
    exact hAny ⟨i, Finset.mem_range.1 hi, hp⟩

/-- Adding up fewer terms gives the same sum exactly when those left out are zero. -/
theorem sum_ite_eq_iff {n : Nat} {p q : Nat → Prop} [DecidablePred p] [DecidablePred q] (f : Nat → Nat)
    (hLess : ∀ i < n, f i ≠ 0 → q i → p i) :
    ((∑ i ∈ Finset.range n, if p i then f i else 0) = ∑ i ∈ Finset.range n, if q i then f i else 0) ↔
      ∀ i < n, p i → ¬q i → f i = 0 := by
  have hLe : ∀ i ∈ Finset.range n, (if q i then f i else 0) ≤ if p i then f i else 0 := by
    intro i hi
    split_ifs with hq hp
    · exact le_rfl
    · by_contra hPos
      exact hp (hLess i (Finset.mem_range.1 hi) (by omega) hq)
    · exact Nat.zero_le _
    · exact le_rfl
  rw [eq_comm, Finset.sum_eq_sum_iff_of_le hLe]
  refine forall_congr' fun i => ?_
  rw [Finset.mem_range]
  refine imp_congr_right fun hi => ?_
  by_cases hq : q i
  · by_cases hZero : f i = 0
    · simp [hZero]
    · simp [hq, hLess i hi hZero hq]
  · by_cases hp : p i
    · simp [hp, hq, eq_comm]
    · simp [hp, hq]

/-- The sum over the elements that a partial function keeps. -/
theorem sum_filterMap {α β : Type*} (f : α → Option β) (g : β → Nat) (l : List α) :
    ((l.filterMap f).map g).sum = (l.map fun x => ((f x).map g).getD 0).sum := by
  induction l with
  | nil => rfl
  | cons x l ih =>
      cases hf : f x with
      | none => simp [hf, ih]
      | some y => simp [hf, ih]

end Sums
