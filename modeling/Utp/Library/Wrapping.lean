import Mathlib.Data.Int.ModEq
import Mathlib.Tactic.Ring

/-! Fixed-width machine integers as residues. A C expression is evaluated over
the integers and reduced once, where the source stores or masks it. -/
namespace Wrapping

/-- The value stored by an assignment to a 16-bit unsigned variable. -/
def u16 (x : Int) : Nat := (x % 65536).toNat

/-- The value stored by an assignment to a 32-bit unsigned variable. -/
def u32 (x : Int) : Nat := (x % 4294967296).toNat

/-- The value stored by an assignment to a 64-bit unsigned variable. -/
def u64 (x : Int) : Nat := (x % 18446744073709551616).toNat

/-- The difference of two 64-bit unsigned values, which wraps below zero. -/
def sub64 (a b : Nat) : Nat := if b ≤ a then a - b else a + 18446744073709551616 - b

/-- The value of a cast to a 32-bit signed integer. -/
def i32 (x : Int) : Int := Int.bmod x 4294967296

/-- The value of a cast to a 64-bit signed integer. -/
def i64 (x : Int) : Int := Int.bmod x 18446744073709551616

theorem u16_lt (x : Int) : u16 x < 65536 := by
  unfold u16
  omega

theorem u32_lt (x : Int) : u32 x < 4294967296 := by
  unfold u32
  omega

theorem u64_lt (x : Int) : u64 x < 18446744073709551616 := by
  unfold u64
  omega

@[simp] theorem u16_of_lt {n : Nat} (h : n < 65536) : u16 n = n := by
  unfold u16
  omega

theorem u32_of_lt {n : Nat} (h : n < 4294967296) : u32 n = n := by
  unfold u32
  omega

@[simp] theorem u16_zero : u16 0 = 0 := u16_of_lt (n := 0) (by decide)

/-- Two integers have the same 16-bit value exactly when they differ by a
multiple of the modulus. -/
theorem u16_eq_iff (x y : Int) : u16 x = u16 y ↔ (65536 : Int) ∣ x - y := by
  unfold u16
  omega

theorem u16_emod (x : Int) : ((u16 x : Nat) : Int) % 65536 = x % 65536 := by
  unfold u16
  omega

/-- A wrapped value may be replaced by its representative inside a wrapped sum. -/
@[simp] theorem u16_add_u16 (x y : Int) : u16 (u16 x + y) = u16 (x + y) := by
  unfold u16
  omega

@[simp] theorem u16_u16 (x : Int) : u16 (u16 x) = u16 x := by
  unfold u16
  omega

theorem u32_pred {n : Nat} (hPos : 0 < n) (hLt : n < 4294967296) : u32 (n - 1) = n - 1 := by
  unfold u32
  omega

theorem u64_of_nonneg {x : Int} (hLow : 0 ≤ x) (hHigh : x < 18446744073709551616) : u64 x = x := by
  unfold u64
  omega

/-- A 32-bit signed cast leaves small values alone. -/
theorem i32_of_lt {x : Int} (hLow : -2147483648 ≤ x) (hHigh : x < 2147483648) : i32 x = x := by
  unfold i32
  rw [Int.bmod_eq_of_le] <;> omega

-- residues are reasoned about through the lemmas above, never by unfolding
attribute [irreducible] u16 u32 u64 sub64 i32

end Wrapping
