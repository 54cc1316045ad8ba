import Mathlib.Algebra.BigOperators.Intervals
import Mathlib.Algebra.Order.BigOperators.Group.Finset
import Mathlib.Data.Int.ModEq
import Mathlib.Tactic.Linarith
import Mathlib.Tactic.Ring

/-! Rings of optional cells addressed by arbitrary integers. An index is reduced
modulo the number of cells, so a ring is read as a window of consecutive
addresses starting anywhere; all facts below are relative to such a start. -/

structure CellRing (α : Type) where
  cells : List (Option α)
  pos : 0 < cells.length

namespace CellRing

variable {α : Type}

def size (r : CellRing α) : Nat := r.cells.length

def slot (r : CellRing α) (i : Int) : Nat := (i % r.size).toNat

def read (r : CellRing α) (i : Int) : Option α := (r.cells[r.slot i]?).join

def write (r : CellRing α) (i : Int) (v : Option α) : CellRing α where
  cells := r.cells.set (r.slot i) v
  pos := by simpa using r.pos

def empty (n : Nat) (h : 0 < n) : CellRing α := ⟨List.replicate n none, by simpa using h⟩

/-- Copy the cells at the first `count` addresses from `start` into `target`. -/
def copy (r : CellRing α) (start : Int) (target : CellRing α) : Nat → CellRing α
  | 0 => target
  | count + 1 => (copy r start target count).write (start + count) (r.read (start + count))

/-- A ring of `n` cells with the contents of `r` around `start`. -/
def rehome (r : CellRing α) (n : Nat) (h : 0 < n) (start : Int) : CellRing α :=
  r.copy start (empty n h) r.size

/-- The number of occupied cells. -/
def count (r : CellRing α) : Nat := r.cells.countP Option.isSome

/-- There is at least one cell. -/
theorem size_pos (r : CellRing α) : 0 < r.size := r.pos

/-- Every index has its cell. -/
theorem slot_lt (r : CellRing α) (i : Int) : r.slot i < r.size := by
  have h := r.size_pos
  have hNonneg : 0 ≤ i % (r.size : Int) := Int.emod_nonneg _ (by omega)
  have hLt : i % (r.size : Int) < r.size := Int.emod_lt_of_pos _ (by omega)
  unfold slot
  omega

@[simp] theorem size_write (r : CellRing α) (i : Int) (v : Option α) :
    (r.write i v).size = r.size := by
  simp [size, write]

@[simp] theorem size_empty (n : Nat) (h : 0 < n) : (empty n h : CellRing α).size = n := by
  simp [size, empty]

@[simp] theorem size_copy (r target : CellRing α) (start : Int) (count : Nat) :
    (r.copy start target count).size = target.size := by
  induction count with
  | zero => rfl
  | succ count ih => simp [copy, ih]

@[simp] theorem size_rehome (r : CellRing α) (n : Nat) (h : 0 < n) (start : Int) :
    (r.rehome n h start).size = n := by
  simp [rehome]

@[simp] theorem read_empty (n : Nat) (h : 0 < n) (i : Int) : (empty n h : CellRing α).read i = none := by
  simp only [read, empty, List.getElem?_replicate]
  split_ifs <;> rfl

/-- Two addresses share a cell exactly when the size divides their distance. -/
theorem slot_eq_iff (r : CellRing α) (i j : Int) : r.slot i = r.slot j ↔ (r.size : Int) ∣ i - j := by
  have h := r.size_pos
  have hi : 0 ≤ i % (r.size : Int) := Int.emod_nonneg _ (by omega)
  have hj : 0 ≤ j % (r.size : Int) := Int.emod_nonneg _ (by omega)
  unfold slot
  rw [show i - j = -(j - i) by ring, Int.dvd_neg, ← Int.modEq_iff_dvd, Int.ModEq]
  omega

/-- Indices that differ by a multiple of the size share a cell. -/
theorem read_congr (r : CellRing α) {i j : Int} (h : (r.size : Int) ∣ i - j) :
    r.read i = r.read j := by
  rw [read, read, (r.slot_eq_iff i j).mpr h]

/-- A write is seen at the indices of its cell, and nowhere else. -/
theorem read_write (r : CellRing α) (i j : Int) (v : Option α) :
    (r.write i v).read j = if (r.size : Int) ∣ i - j then v else r.read j := by
  have hi := r.slot_lt i
  have hSlot : (r.write i v).slot j = r.slot j := by simp [slot]
  unfold size at hi
  rw [read, hSlot, write]
  simp only [List.getElem?_set, ← r.slot_eq_iff]
  split_ifs
  · rfl
  · rfl

/-- Distinct offsets below the size never share a cell. -/
theorem not_dvd_offset {n a b : Nat} (start : Int) (ha : a < n) (hb : b < n) (h : a ≠ b) :
    ¬(n : Int) ∣ start + a - (start + b) := by
  rintro ⟨k, hk⟩
  rcases lt_trichotomy k 0 with hNeg | hZero | hPos
  · nlinarith
  · subst hZero
    omega
  · nlinarith

/-- Within one turn of the ring the indices do not share cells. -/
theorem read_write_offset (r : CellRing α) (start : Int) {a b : Nat} (v : Option α)
    (ha : a < r.size) (hb : b < r.size) :
    (r.write (start + a) v).read (start + b) = if a = b then v else r.read (start + b) := by
  rw [read_write]
  by_cases h : a = b
  · subst h
    simp
  · rw [if_neg (not_dvd_offset start ha hb h), if_neg h]

/-- By induction on the cells that are copied. -/
theorem read_copy (r target : CellRing α) (start : Int) (count : Nat) (hCount : count ≤ target.size)
    {j : Nat} (hj : j < target.size) :
    (r.copy start target count).read (start + j) =
      if j < count then r.read (start + j) else target.read (start + j) := by
  induction count with
  | zero => simp [copy]
  | succ count ih =>
      rw [copy, read_write_offset _ _ _ (by simp; omega) (by simpa using hj), ih (by omega)]
      by_cases hEq : count = j
      · subst hEq
        simp
      · rw [if_neg hEq]
        by_cases hLt : j < count
        · rw [if_pos hLt, if_pos (by omega)]
        · rw [if_neg hLt, if_neg (by omega)]

/-- Growing keeps every cell of the window that starts at `start` and leaves the
new cells empty. -/
theorem read_rehome (r : CellRing α) {n : Nat} (h : 0 < n) (start : Int) (hGrow : r.size ≤ n)
    {j : Nat} (hj : j < n) :
    (r.rehome n h start).read (start + j) = if j < r.size then r.read (start + j) else none := by
  rw [rehome, read_copy r _ start r.size (by simpa using hGrow) (by simpa using hj), read_empty]

/-- The sum of `f` over the `n` addresses from `start`. -/
def sum (r : CellRing α) (f : Option α → Nat) (start : Int) (n : Nat) : Nat :=
  ∑ j ∈ Finset.range n, f (r.read (start + j))

/-- The last cell of a range. -/
theorem sum_succ (r : CellRing α) (f : Option α → Nat) (start : Int) (n : Nat) :
    r.sum f start (n + 1) = r.sum f start n + f (r.read (start + n)) := by
  simp [sum, Finset.sum_range_succ]

/-- The first cell of a range. -/
theorem sum_succ_head (r : CellRing α) (f : Option α → Nat) (start : Int) (n : Nat) :
    r.sum f start (n + 1) = f (r.read start) + r.sum f (start + 1) n := by
  rw [sum, Finset.sum_range_succ', sum, add_comm]
  simp [add_comm, add_left_comm]

/-- A sum depends on the cells that are read. -/
theorem sum_congr {r s : CellRing α} {f : Option α → Nat} {start start' : Int} {n : Nat}
    (h : ∀ j < n, s.read (start' + j) = r.read (start + j)) : s.sum f start' n = r.sum f start n := by
  apply Finset.sum_congr rfl
  intro j hj
  rw [h j (Finset.mem_range.mp hj)]

/-- A longer window sums to the same if the additional cells contribute nothing. -/
theorem sum_extend {r s : CellRing α} {f : Option α → Nat} {start start' : Int} {n m : Nat}
    (hLe : n ≤ m) (hSame : ∀ j < n, f (s.read (start' + j)) = f (r.read (start + j)))
    (hZero : ∀ j, n ≤ j → j < m → f (s.read (start' + j)) = 0) :
    s.sum f start' m = r.sum f start n := by
  have hShort : s.sum f start' m = s.sum f start' n := by
    symm
    apply Finset.sum_subset (Finset.range_mono hLe)
    intro j hIn hOut
    exact hZero j (by simpa using hOut) (by simpa using hIn)
  rw [hShort]
  apply Finset.sum_congr rfl
  intro j hj
  exact hSame j (Finset.mem_range.mp hj)

/-- Replacing one cell of the window exchanges its contribution to the sum. -/
theorem sum_write (r : CellRing α) (f : Option α → Nat) (start : Int) {n a : Nat} (v : Option α)
    (ha : a < n) (hn : n ≤ r.size) :
    (r.write (start + a) v).sum f start n + f (r.read (start + a)) = r.sum f start n + f v := by
  induction n with
  | zero => omega
  | succ n ih =>
      rw [sum_succ, sum_succ, read_write_offset r start v (by omega) (by omega)]
      by_cases hEq : a = n
      · subst hEq
        have hRest : (r.write (start + a) v).sum f start a = r.sum f start a := by
          apply sum_congr
          intro j hj
          rw [read_write_offset r start v (by omega) (by omega), if_neg (by omega)]
        rw [hRest, if_pos rfl]
        omega
      · rw [if_neg hEq]
        have := ih (by omega) (by omega)
        omega

/-- One cell is at most the sum. -/
theorem le_sum (r : CellRing α) (f : Option α → Nat) (start : Int) {n a : Nat} (ha : a < n) :
    f (r.read (start + a)) ≤ r.sum f start n :=
  Finset.single_le_sum (f := fun j : Nat => f (r.read (start + j))) (fun _ _ => Nat.zero_le _)
    (Finset.mem_range.mpr ha)

/-- The sum over a whole turn does not depend on where the turn starts. -/
theorem sum_turn (r : CellRing α) (f : Option α → Nat) (start : Int) :
    r.sum f (start + 1) r.size = r.sum f start r.size := by
  have hHead := r.sum_succ_head f start r.size
  have hTail := r.sum_succ f start r.size
  have hSame : r.read (start + r.size) = r.read start := r.read_congr (by simp)
  rw [hSame] at hTail
  omega

/-- The sum over a whole turn does not depend on where it starts. -/
theorem sum_start (r : CellRing α) (f : Option α → Nat) (start start' : Int) :
    r.sum f start r.size = r.sum f start' r.size := by
  have hZero : ∀ x : Int, r.sum f x r.size = r.sum f 0 r.size := by
    intro x
    induction x using Int.induction_on with
    | zero => rfl
    | succ i ih => rw [sum_turn, ih]
    | pred i ih =>
        have hTurn := r.sum_turn f (-(i : Int) - 1)
        rw [sub_add_cancel] at hTurn
        rw [← hTurn, ih]
  rw [hZero, hZero start']

/-- The occupied cells are counted by going once around the ring. -/
theorem count_eq_sum (r : CellRing α) (start : Int) :
    r.count = r.sum (fun v => v.isSome.toNat) start r.size := by
  have hCells : ∀ l : List (Option α), l.countP Option.isSome =
      ∑ j ∈ Finset.range l.length, ((l[j]?).join).isSome.toNat := by
    intro l
    induction l with
    | nil => rfl
    | cons v l ih =>
        rw [List.length_cons, Finset.sum_range_succ', List.countP_cons, ih]
        cases v <;> simp
  rw [r.sum_start _ start 0, count, hCells]
  apply Finset.sum_congr rfl
  intro j hj
  have hSlot : r.slot (0 + j) = j := by
    have hLt : j < r.size := Finset.mem_range.mp hj
    rw [slot, zero_add, Int.emod_eq_of_lt (by omega) (by omega)]
    rfl
  rw [read, hSlot]

end CellRing
