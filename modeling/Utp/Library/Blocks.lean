import Mathlib.Data.List.Basic

/-! Chains of typed blocks. A block holds the type of its successor, its own
length and that many bytes; the type of the first one is known from elsewhere. -/
namespace Blocks

structure Block where
  next : UInt8
  body : List UInt8

def Block.bytes (b : Block) : List UInt8 := b.next :: UInt8.ofNat b.body.length :: b.body

/-- The chains whose first block has the given type. They end with the first block
that has no successor. -/
inductive Chain (valid : Nat → List UInt8 → Prop) : Nat → List Block → Prop where
  | last (type : Nat) (b : Block) (hLength : b.body.length < 256) (hValid : valid type b.body)
      (hEnd : b.next = 0) : Chain valid type [b]
  | cons (type : Nat) (b : Block) (blocks : List Block) (hLength : b.body.length < 256)
      (hValid : valid type b.body) (hMore : b.next ≠ 0)
      (hRest : Chain valid b.next.toNat blocks) : Chain valid type (b :: blocks)

def bytes (blocks : List Block) : List UInt8 := blocks.flatMap Block.bytes

/-- A block with its type and the offset of its body. -/
structure Placed where
  type : Nat
  off : Nat
  body : List UInt8

/-- The blocks of a chain that starts at an offset. -/
def placed : Nat → Nat → List Block → List Placed
  | _, _, [] => []
  | off, type, b :: blocks =>
      ⟨type, off + 2, b.body⟩ :: placed (off + 2 + b.body.length) b.next.toNat blocks

def lastOf (type : Nat) (blocks : List Placed) : Option Placed :=
  blocks.reverse.find? fun x => x.type == type

theorem length_bytes_cons (b : Block) (blocks : List Block) :
    (bytes (b :: blocks)).length = 2 + b.body.length + (bytes blocks).length := by
  simp only [bytes, List.flatMap_cons, Block.bytes, List.length_append, List.length_cons]
  omega

theorem lastOf_cons (type : Nat) (x : Placed) (blocks : List Placed) :
    lastOf type (x :: blocks) = (lastOf type blocks).or (if x.type = type then some x else none) := by
  unfold lastOf
  rw [List.reverse_cons, List.find?_append]
  by_cases hType : x.type = type
  · simp [hType]
  · simp [hType]

variable {β : Type} (f : Placed → β)

/-- What a pass over the blocks keeps of the last one of a type. -/
theorem map_lastOf_cons_or (type : Nat) (x : Placed) (blocks : List Placed) (z : Option β) :
    ((lastOf type (x :: blocks)).map f).or z =
      ((lastOf type blocks).map f).or (if x.type = type then some (f x) else z) := by
  rw [lastOf_cons]
  cases lastOf type blocks with
  | some y => rfl
  | none => split_ifs <;> rfl

theorem map_lastOf_cons_getD (type : Nat) (x : Placed) (blocks : List Placed) (z : β) :
    ((lastOf type (x :: blocks)).map f).getD z =
      ((lastOf type blocks).map f).getD (if x.type = type then f x else z) := by
  rw [lastOf_cons]
  cases lastOf type blocks with
  | some y => rfl
  | none => split_ifs <;> rfl

end Blocks
