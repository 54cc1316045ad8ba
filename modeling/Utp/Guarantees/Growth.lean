import Utp.Socket.Buffer

/-! Growth of the circular buffer, in the 64-bit arithmetic of the source. -/
namespace Utp

open Wrapping

namespace SizableCircularBuffer

variable {α : Type}

/-- `elements[i & mask]` -/
def getWord (b : SizableCircularBuffer α) (i : Nat) : Option α := (b.cells[i &&& b.mask]?).join

/-- `do size *= 2; while (index >= size);` The loop has not ended when the fuel runs out. -/
def doubleLoop (index : Nat) : Nat → Nat → Option Nat
  | 0, _ => none
  | fuel + 1, size =>
      let size := u64 (size * 2 : Nat)
      if index ≥ size then doubleLoop index fuel size else some size

/-- The zeroed buffer of `n` slots after the copy loop of `grow`. -/
def growCells (b : SizableCircularBuffer α) (item index n : Nat) : List (Option α) :=
  (List.range b.size).foldl
    (fun (buf : List (Option α)) (i : Nat) =>
      buf.set (u64 (item - index + i) &&& (n - 1)) (b.getWord (u64 (item - index + i))))
    (List.replicate n none)

theorem mask_eq (b : SizableCircularBuffer α) : b.mask = b.toCellRing.size - 1 := rfl

/-- Masking an index picks the slot of the number. -/
theorem land_mask {k : Nat} (hk : k ≤ 64) (x : Int) : u64 x &&& (2 ^ k - 1) = (x % (2 ^ k : Nat)).toNat := by
  rw [Nat.and_two_pow_sub_one_eq_mod]
  have hDvd : ((2 ^ k : Nat) : Int) ∣ 18446744073709551616 := by
    exact_mod_cast (pow_dvd_pow 2 hk : (2 ^ k : Nat) ∣ 2 ^ 64)
  have hWrap : ((u64 x : Nat) : Int) % (2 ^ k : Nat) = x % (2 ^ k : Nat) := by
    have hValue : ((u64 x : Nat) : Int) = x % 18446744073709551616 := by
      unfold u64
      omega
    rw [hValue]
    exact Int.emod_emod_of_dvd x hDvd
  rw [← hWrap]
  omega

theorem land_mask_u16 {k : Nat} (hk : k ≤ 16) (x : Int) : u16 x &&& (2 ^ k - 1) = (x % (2 ^ k : Nat)).toNat := by
  rw [Nat.and_two_pow_sub_one_eq_mod]
  have hDvd : ((2 ^ k : Nat) : Int) ∣ 65536 := by
    exact_mod_cast (pow_dvd_pow 2 hk : (2 ^ k : Nat) ∣ 2 ^ 16)
  have hWrap : ((u16 x : Nat) : Int) % (2 ^ k : Nat) = x % (2 ^ k : Nat) := by
    rw [← Int.emod_emod_of_dvd _ hDvd, u16_emod, Int.emod_emod_of_dvd _ hDvd]
  rw [← hWrap]
  omega

theorem exists_pow (b : SizableCircularBuffer α) (hSize : b.size ≤ 65536) : ∃ k ≤ 16, b.toCellRing.size = 2 ^ k := by
  obtain ⟨k, hk⟩ := b.size_pow
  have hPow : b.toCellRing.size = 2 ^ k := hk
  refine ⟨k, ?_, hPow⟩
  have hLe : 2 ^ k ≤ 2 ^ 16 := by
    rw [← hPow, ← b.size_eq]
    exact hSize
  exact (Nat.pow_le_pow_iff_right (by decide)).1 hLe

/-- A masked index reads the slot of its number. -/
theorem getWord_u64 (b : SizableCircularBuffer α) (hSize : b.size ≤ 65536) (x : Int) :
    b.getWord (u64 x) = b.get x := by
  obtain ⟨k, hk, hPow⟩ := b.exists_pow hSize
  unfold getWord get CellRing.read CellRing.slot
  rw [mask_eq, hPow, land_mask (hk.trans (by decide))]

theorem getWord_u16 (b : SizableCircularBuffer α) (hSize : b.size ≤ 65536) (x : Int) :
    b.getWord (u16 x) = b.get x := by
  have hLt := u16_lt x
  have hWord : u64 (u16 x : Nat) = u16 x := by
    have hSame : ((u64 (u16 x : Nat) : Nat) : Int) = (u16 x : Nat) := u64_of_nonneg (by omega) (by omega)
    omega
  rw [← hWord, b.getWord_u64 hSize]
  refine b.get_congr ((b.size_dvd hSize).trans ?_)
  have hEmod := u16_emod x
  omega

/-- The doublings end at the least size above the index. -/
theorem doubleLoop_eq {index fuel size : Nat} (hPos : 0 < size) (hFuel : index ≤ size + fuel) (hIndex : index ≤ 1024)
    (hSize : size ≤ 1024) : doubleLoop index (fuel + 1) size = some (growSize index fuel size) := by
  have hDouble : u64 (size * 2 : Nat) = size * 2 := by
    have hSame : ((u64 (size * 2 : Nat) : Nat) : Int) = (size * 2 : Nat) := u64_of_nonneg (by omega) (by omega)
    omega
  induction fuel generalizing size with
  | zero =>
      rw [doubleLoop, growSize]
      rw [hDouble, if_neg (by omega)]
  | succ fuel ih =>
      rw [doubleLoop, growSize]
      rw [hDouble]
      split_ifs with hMore
      · refine ih (by omega) (by omega) (by omega) ?_
        have hSame : ((u64 (size * 2 * 2 : Nat) : Nat) : Int) = (size * 2 * 2 : Nat) := u64_of_nonneg (by omega) (by omega)
        omega
      · rfl

/-- One doubling is the least one. -/
theorem double_le {index size k : Nat} (hSize : size ≤ index) (hk : index < size * 2 ^ k) : size * 2 ≤ size * 2 ^ k := by
  cases k with
  | zero => omega
  | succ k =>
      rw [pow_succ, ← mul_assoc]
      exact Nat.mul_le_mul_right 2 (Nat.le_mul_of_pos_right _ (Nat.two_pow_pos k))

theorem growSize_least {index fuel size : Nat} (hPos : 0 < size) (hFuel : index ≤ size + fuel) (hSize : size ≤ index) :
    (∃ k, growSize index fuel size = size * 2 ^ k) ∧ ∀ k, index < size * 2 ^ k → growSize index fuel size ≤ size * 2 ^ k := by
  induction fuel generalizing size with
  | zero => exact ⟨⟨1, by rw [growSize, pow_one]⟩, fun k hk => double_le hSize hk⟩
  | succ fuel ih =>
      rw [growSize]
      split_ifs with hMore
      · have hNext : 0 < size * 2 := by omega
        obtain ⟨⟨k, hk⟩, hLeast⟩ := ih hNext (by omega) hMore
        refine ⟨⟨k + 1, by rw [hk, pow_succ', mul_assoc]⟩, fun k hk => ?_⟩
        cases k with
        | zero => omega
        | succ k =>
            rw [pow_succ', ← mul_assoc] at hk ⊢
            exact hLeast k hk
      · exact ⟨⟨1, by rw [pow_one]⟩, fun k hk => double_le hSize hk⟩

theorem cells_copy (r target : CellRing α) (start : Int) (count : Nat) : (r.copy start target count).cells =
    (List.range count).foldl
      (fun (buf : List (Option α)) (i : Nat) => buf.set (target.slot (start + i)) (r.read (start + i))) target.cells := by
  induction count with
  | zero => rfl
  | succ count ih =>
      have hSlot : (r.copy start target count).slot (start + count) = target.slot (start + count) := by
        unfold CellRing.slot
        rw [CellRing.size_copy]
      rw [List.range_succ, List.foldl_append, ← ih]
      change (r.copy start target count).cells.set ((r.copy start target count).slot (start + count)) _ = _
      rw [hSlot]
      rfl

/-- The copy loop of the source is that of the model. -/
theorem cells_grow (b : SizableCircularBuffer α) (item index : Nat) (hSize : b.size ≤ 65536)
    (hNew : (b.grow item index).size ≤ 65536) :
    (b.grow item index).cells = b.growCells item index (b.grow item index).size := by
  obtain ⟨k, hk, hPow⟩ := (b.grow item index).exists_pow hNew
  have hTarget : (b.grow item index).size = growSize index index b.toCellRing.size := by
    rw [size_eq]
    exact CellRing.size_rehome ..
  have hSlots : growSize index index b.toCellRing.size = 2 ^ k := by
    rw [← hTarget, size_eq, hPow]
  have hCells : (b.grow item index).cells = _ := cells_copy b.toCellRing
    (CellRing.empty (growSize index index b.toCellRing.size) (growSize_pos index index b)) (item - index) b.toCellRing.size
  rw [hCells, hTarget]
  unfold growCells
  rw [b.size_eq]
  refine List.foldl_ext _ _ _ fun buf i _ => ?_
  unfold CellRing.slot
  rw [CellRing.size_empty, hSlots, land_mask (hk.trans (by decide)), b.getWord_u64 hSize]
  rfl

theorem size_grow (b : SizableCircularBuffer α) (item : Int) (index : Nat) :
    (b.grow item index).size = growSize index index b.size := by
  rw [size_eq, b.size_eq]
  exact CellRing.size_rehome ..

/-- What `grow` makes of a buffer: the loop over the sizes ends, with the least size that is above the
index; the elements from `item - index` on keep their numbers, and the other slots are empty. -/
structure Grown (b b' : SizableCircularBuffer α) (item index : Nat) : Prop where
  ended : ∃ fuel, doubleLoop index fuel b.size = some b'.size
  multiple : ∃ k, b'.size = b.size * 2 ^ k
  fits : index < b'.size
  least : ∀ k, index < b.size * 2 ^ k → b'.size ≤ b.size * 2 ^ k
  copied : b'.cells = b.growCells item index b'.size
  kept : ∀ j < b.size, b'.getWord (u16 (item - index + j)) = b.getWord (u16 (item - index + j))
  vacant : ∀ t < b'.size, (∀ j < b.size, u16 (item - index + j) &&& b'.mask ≠ t) → b'.getWord t = none

end SizableCircularBuffer

open SizableCircularBuffer

/-- Growing a buffer for an index past its end moves every element to the slot of its number. -/
theorem growth_preserves_contents {α : Type} (b : SizableCircularBuffer α) (item index : Nat) (hMask : b.mask < index)
    (hIndex : index ≤ 1024) : Grown b (b.grow item index) item index := by
  have hPos : 0 < b.size := Nat.succ_pos _
  have hSize : b.size ≤ index := hMask
  have hNew := b.size_grow item index
  have hLimit : (b.grow item index).size ≤ 2048 := by
    rw [hNew]
    exact (growSize_le hSize).trans (by omega)
  have hFits : index < (b.grow item index).size := by
    rw [hNew]
    exact lt_growSize hPos (by omega)
  obtain ⟨hMultiple, hLeast⟩ := growSize_least hPos (by omega : index ≤ b.size + index) hSize
  have hEnsure : b.ensureSize item index = b.grow item index := if_pos hMask
  have hGet : ∀ j < (b.grow item index).size, (b.grow item index).get (item - index + j) =
      if j < b.size then b.get (item - index + j) else none := by
    intro j hj
    rw [← hEnsure] at hj ⊢
    exact b.get_ensureSize item index hj
  refine ⟨⟨index + 1, ?_⟩, ?_, hFits, ?_, b.cells_grow item index (by omega) (by omega), ?_, ?_⟩
  · rw [hNew]
    exact doubleLoop_eq hPos (by omega) hIndex (by omega)
  · rw [hNew]
    exact hMultiple
  · rw [hNew]
    exact hLeast
  · intro j hj
    rw [getWord_u16 _ (by omega), getWord_u16 _ (by omega), hGet j (by omega), if_pos hj]
  · intro t ht hOther
    obtain ⟨j, hj, hDvd⟩ := (b.grow item index).exists_offset (item - index) t
    have hWord : (b.grow item index).getWord t = (b.grow item index).get t := by
      rw [← getWord_u16 _ (by omega) (t : Int), u16_of_lt (by omega)]
    rw [hWord, get_congr _ hDvd, hGet j hj, if_neg]
    intro hOld
    refine hOther j hOld ?_
    obtain ⟨k, hk, hPow⟩ := (b.grow item index).exists_pow (by omega)
    have hSlots : (b.grow item index).size = 2 ^ k := (b.grow item index).size_eq.trans hPow
    have hSlot : (t : Int) % (2 ^ k : Nat) = (item - index + j) % (2 ^ k : Nat) := by
      rw [← hSlots]
      exact Int.emod_eq_emod_iff_emod_sub_eq_zero.2 (Int.emod_eq_zero_of_dvd hDvd)
    rw [mask_eq, hPow, land_mask_u16 hk, ← hSlot, ← hSlots, Int.emod_eq_of_lt (by omega) (by omega)]
    exact Int.toNat_natCast t

/-- A full buffer of sixteen slots grows to 32 when the seventeenth packet, number 5, is queued
behind numbers that start before the wrap. -/
theorem growth_preserves_contents_full : ∃ b : SizableCircularBuffer Nat, b.size = 16 ∧
    (∀ j : Nat, j < 16 → b.getWord (u16 (5 - 16 + (j : Int))) = some j) ∧ (b.grow 5 16).size = 32 ∧
      ∀ j : Nat, j < 16 → (b.grow 5 16).getWord (u16 (5 - 16 + (j : Int))) = some j := by
  let b : SizableCircularBuffer Nat := (List.range 16).foldl
    (fun (b : SizableCircularBuffer Nat) (j : Nat) => b.put (5 - 16 + (j : Int)) (some j)) calloc16
  have hSize : b.size = 16 := by decide +kernel
  have hFull : ∀ j : Nat, j < 16 → b.getWord (u16 (5 - 16 + (j : Int))) = some j := by decide +kernel
  have hGrown := growth_preserves_contents b 5 16 (by decide +kernel) (by decide)
  have hNew : (b.grow 5 16).size = 32 := by decide +kernel
  refine ⟨b, hSize, hFull, hNew, fun j hj => ?_⟩
  rw [← hFull j hj]
  exact hGrown.kept j (by omega)

end Utp
