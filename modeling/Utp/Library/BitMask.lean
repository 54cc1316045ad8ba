import Mathlib.Data.Nat.Bitwise

/-! Sets of small numbers as bit masks, and the bytes of a mask. -/
namespace BitMask

/-- The mask of the numbers below `n` that satisfy `p`. -/
def ofPred (p : Nat → Bool) (n : Nat) : Nat :=
  (List.range n).foldl (fun (m i : Nat) => if p i then m ||| (1 <<< i) else m) 0

theorem ofPred_succ (p : Nat → Bool) (n : Nat) :
    ofPred p (n + 1) = if p n then ofPred p n ||| (1 <<< n) else ofPred p n := by
  simp [ofPred, List.range_succ]

theorem testBit_ofPred (p : Nat → Bool) (n i : Nat) :
    (ofPred p n).testBit i = (decide (i < n) && p i) := by
  induction n with
  | zero => simp [ofPred]
  | succ n ih =>
      have hOne : (1 <<< n : Nat).testBit i = decide (n = i) := by
        rw [Nat.one_shiftLeft]
        exact Nat.testBit_two_pow
      rw [ofPred_succ]
      by_cases hLast : n = i
      · subst hLast
        cases hp : p n <;> simp [hp, hOne, ih]
      · have hLess : (i < n + 1) = (i < n) := by
          apply propext
          omega
        cases hp : p n <;> simp [hOne, hLast, ih, hLess]

/-- The `k`-th byte of a mask has the bits from `8 * k` on. -/
theorem testBit_byte (m k : Nat) {i : Nat} (hi : i < 8) :
    (UInt8.ofNat (m >>> (8 * k))).toNat.testBit i = m.testBit (8 * k + i) := by
  have hByte : (UInt8.ofNat (m >>> (8 * k))).toNat = (m >>> (8 * k)) % 2 ^ 8 := by
    simp
  rw [hByte, Nat.testBit_mod_two_pow, Nat.testBit_shiftRight]
  simp [hi]

end BitMask
