import Utp.Socket.Types

/-! Facts about the circular buffer of the source that the queue and the reorder
buffer share. -/
namespace Utp

namespace SizableCircularBuffer

variable {α : Type}

theorem size_eq (b : SizableCircularBuffer α) : b.size = b.toCellRing.size := by
  have h := b.toCellRing.size_pos
  unfold size mask
  omega

@[simp] theorem size_put (b : SizableCircularBuffer α) (i : Int) (v : Option α) :
    (b.put i v).size = b.size := by
  rw [size_eq, size_eq]
  exact CellRing.size_write _ _ _

@[simp] theorem mask_put (b : SizableCircularBuffer α) (i : Int) (v : Option α) :
    (b.put i v).mask = b.mask :=
  Nat.succ_injective (size_put b i v)

@[simp] theorem size_calloc16 : (calloc16 : SizableCircularBuffer α).size = 16 := by
  rw [size_eq]
  exact CellRing.size_empty 16 (by decide)

@[simp] theorem get_calloc16 (i : Int) : (calloc16 : SizableCircularBuffer α).get i = none :=
  CellRing.read_empty 16 (by decide) i

theorem get_congr (b : SizableCircularBuffer α) {i j : Int} (h : (b.size : Int) ∣ i - j) :
    b.get i = b.get j := by
  rw [size_eq] at h
  exact CellRing.read_congr _ h

/-- Writing through two addresses of the same slot is the same. -/
theorem put_congr (b : SizableCircularBuffer α) {i j : Int} (v : Option α)
    (h : (b.size : Int) ∣ i - j) : b.put i v = b.put j v := by
  rw [size_eq] at h
  have hSlot := (b.toCellRing.slot_eq_iff i j).mpr h
  simp only [put, CellRing.write, hSlot]

theorem get_put (b : SizableCircularBuffer α) (start : Int) {i j : Nat} (v : Option α)
    (hi : i < b.size) (hj : j < b.size) :
    (b.put (start + i) v).get (start + j) = if i = j then v else b.get (start + j) := by
  rw [size_eq] at hi hj
  exact CellRing.read_write_offset _ _ _ hi hj

theorem get_put_dvd (b : SizableCircularBuffer α) (i j : Int) (v : Option α) :
    (b.put i v).get j = if (b.size : Int) ∣ i - j then v else b.get j := by
  rw [size_eq]
  exact CellRing.read_write _ _ _ _

/-- Storing a value keeps every occupied slot occupied. -/
theorem isSome_get_put (b : SizableCircularBuffer α) (i : Int) (x : α) {j : Int}
    (h : (b.get j).isSome = true) : ((b.put i (some x)).get j).isSome = true := by
  rw [get_put_dvd]
  split_ifs
  · rfl
  · exact h

/-- The offset of an address from `start`, modulo the size. -/
theorem exists_offset (b : SizableCircularBuffer α) (start i : Int) :
    ∃ j < b.size, (b.size : Int) ∣ i - (start + j) := by
  have hPos : 0 < b.size := by
    unfold size
    omega
  have hNonneg : 0 ≤ (i - start) % (b.size : Int) := Int.emod_nonneg _ (by omega)
  have hLt : (i - start) % (b.size : Int) < b.size := Int.emod_lt_of_pos _ (by omega)
  refine ⟨((i - start) % b.size).toNat, by omega, ?_⟩
  rw [Int.toNat_of_nonneg hNonneg, ← sub_sub]
  exact Int.dvd_self_sub_emod

theorem lt_growSize {index fuel size : Nat} (hPos : 0 < size) (hFuel : index ≤ size + fuel) :
    index < growSize index fuel size := by
  induction fuel generalizing size with
  | zero =>
      rw [growSize]
      omega
  | succ fuel ih =>
      rw [growSize]
      split_ifs with h
      · exact ih (by omega) (by omega)
      · omega

theorem growSize_le {index fuel size : Nat} (hSize : size ≤ index) :
    growSize index fuel size ≤ 2 * index := by
  induction fuel generalizing size with
  | zero =>
      rw [growSize]
      omega
  | succ fuel ih =>
      rw [growSize]
      split_ifs with h
      · exact ih (by omega)
      · omega

theorem lt_growSize_self {index fuel size : Nat} (hPos : 0 < size) :
    size < growSize index fuel size := by
  induction fuel generalizing size with
  | zero =>
      rw [growSize]
      omega
  | succ fuel ih =>
      rw [growSize]
      split_ifs with h
      · exact lt_trans (by omega) (ih (by omega))
      · omega

theorem le_size_ensureSize (b : SizableCircularBuffer α) (item : Int) (index : Nat) :
    b.size ≤ (b.ensureSize item index).size := by
  unfold ensureSize
  split_ifs with h
  · rw [size_eq, size_eq]
    exact (lt_growSize_self b.toCellRing.size_pos).le.trans_eq (CellRing.size_rehome ..).symm
  · exact le_rfl

theorem lt_size_ensureSize (b : SizableCircularBuffer α) (item : Int) (index : Nat) :
    index < (b.ensureSize item index).size := by
  unfold ensureSize
  split_ifs with h
  · rw [size_eq]
    have hPos := b.toCellRing.size_pos
    exact (lt_growSize hPos (by omega)).trans_eq (CellRing.size_rehome ..).symm
  · unfold size
    omega

theorem size_ensureSize_le (b : SizableCircularBuffer α) (item : Int) (index : Nat) :
    (b.ensureSize item index).size ≤ max b.size (2 * index) := by
  unfold ensureSize
  split_ifs with h
  · rw [size_eq]
    have hSize := b.size_eq
    unfold size at hSize
    exact (CellRing.size_rehome ..).le.trans
      ((growSize_le (by omega)).trans (le_max_right _ _))
  · exact le_max_left _ _

/-- Growing keeps the contents around the item that asked for it. -/
theorem get_ensureSize (b : SizableCircularBuffer α) (item : Int) (index : Nat) {j : Nat}
    (hj : j < (b.ensureSize item index).size) :
    (b.ensureSize item index).get (item - index + j) =
      if j < b.size then b.get (item - index + j) else none := by
  by_cases h : index > b.mask
  · have hGrown : b.ensureSize item index = b.grow item index := if_pos h
    have hSize : (b.grow item index).size = growSize index index b.toCellRing.size := by
      rw [size_eq]
      exact CellRing.size_rehome ..
    rw [hGrown, hSize] at hj
    rw [hGrown, size_eq]
    exact CellRing.read_rehome b.toCellRing (growSize_pos index index b) _
      (lt_growSize_self b.toCellRing.size_pos).le hj
  · have hSame : b.ensureSize item index = b := if_neg h
    rw [hSame] at hj ⊢
    rw [if_pos hj]

/-- A size up to 65536 divides the range of sequence numbers. -/
theorem size_dvd (b : SizableCircularBuffer α) (h : b.size ≤ 65536) : (b.size : Int) ∣ 65536 := by
  obtain ⟨k, hk⟩ := b.size_pow
  have hSize : b.size = 2 ^ k := b.size_eq.trans hk
  have hLe : k ≤ 16 := by
    rw [hSize] at h
    exact (Nat.pow_le_pow_iff_right (a := 2) (n := k) (m := 16) (by omega)).mp (by simpa using h)
  rw [hSize]
  exact_mod_cast (pow_dvd_pow 2 hLe : (2 ^ k : Nat) ∣ 2 ^ 16)

/-- A size below twice a power of two is at most that power. -/
theorem size_le_of_lt (b : SizableCircularBuffer α) {m : Nat} (h : b.size < 2 ^ (m + 1)) :
    b.size ≤ 2 ^ m := by
  obtain ⟨k, hk⟩ := b.size_pow
  have hSize : b.size = 2 ^ k := b.size_eq.trans hk
  rw [hSize] at h ⊢
  have hLt : k < m + 1 := (Nat.pow_lt_pow_iff_right (a := 2) (by omega)).mp h
  exact Nat.pow_le_pow_right (by omega) (by omega)

end SizableCircularBuffer

end Utp
