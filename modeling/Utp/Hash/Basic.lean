import Utp.Library.Wrapping
import Mathlib.Logic.Function.Basic

/-! The hash table that holds the sockets. The buckets and the free list are
lists of element indices, threaded through one link at the end of each element. -/
namespace Utp

open Wrapping

/-- `LIBUTP_HASH_UNUSED`, the index that ends a list. -/
def hashUnused : Nat := 4294967295

/-- The functions a table is created with. -/
structure HashKeys (κ : Type) where
  hashCompute : κ → Nat
  hashEqual : κ → κ → Bool
  equivalence : Equivalence fun a b => hashEqual a b = true
  respects : ∀ a b, hashEqual a b = true → hashCompute a = hashCompute b

/-- An element: the key, the data of the caller and the link. Memory that was
never written holds no key and no data. -/
structure HashElement (κ ν : Type) where
  key : Option κ
  data : Option ν
  link : Nat

/-- A `utp_hash_t` with the elements behind it. Elements are found at their byte
offset from `bep`, and `room` is the number of bytes the block has there. -/
structure UtpHash (κ ν : Type) where
  keys : HashKeys κ
  N : Nat
  E : Nat
  count : Nat
  allocated : Nat
  used : Nat
  free : Nat
  inits : Nat → Nat
  memory : Nat → HashElement κ ν
  room : Nat

/-- `BASE_SIZE`: the members of the table and the heads of the buckets. -/
def hashBaseSize (buckets : Nat) : Nat := 48 + 4 * (buckets + 1)

/-- A created table, or nothing when an assertion fails or the size leaves an
`int`. The element size is stored in one byte. -/
def utpHashCreate {κ ν : Type} (keys : HashKeys κ) (N totalSize initial : Nat) : Option (UtpHash κ ν) :=
  if N % 2 = 1 ∧ totalSize % 4 = 0 ∧ hashBaseSize N + totalSize * initial < 2147483648 then
    some {
      keys := keys
      N := N
      E := totalSize % 256
      count := 0
      allocated := initial
      used := 0
      free := hashUnused
      inits := fun _ => hashUnused
      memory := fun _ => ⟨none, none, 0⟩
      room := totalSize * initial }
  else none

namespace UtpHash

variable {κ ν : Type}

def utpHashMkidx (key : κ) (h : UtpHash κ ν) : Nat := h.keys.hashCompute key % h.N

/-- The distance of an element from `bep`, a product of 32 bits. -/
def offset (i : Nat) (h : UtpHash κ ν) : Nat := u32 (i * h.E)

def elemp (i : Nat) (h : UtpHash κ ν) : HashElement κ ν := h.memory (h.offset i)

def link (h : UtpHash κ ν) (i : Nat) : Nat := (h.elemp i).link

/-- An access to an element is undefined when it leaves the block. -/
def element (i : Nat) (h : UtpHash κ ν) : Option (HashElement κ ν) :=
  if h.offset i + h.E ≤ h.room then some (h.elemp i) else none

def setElement (i : Nat) (e : HashElement κ ν) (h : UtpHash κ ν) : UtpHash κ ν :=
  { h with memory := Function.update h.memory (h.offset i) e }

/-- The walk along a chain. The result is the element found, or nothing when the
walk reads outside the block or does not end. -/
def lookupFrom (key : κ) : Nat → Nat → UtpHash κ ν → Option (Option Nat)
  | 0, _, _ => none
  | fuel + 1, cur, h =>
      if cur = hashUnused then some none
      else
        match h.element cur with
        | none => none
        | some e =>
            match e.key with
            | none => none
            | some key2 => if h.keys.hashEqual key key2 then some (some cur) else lookupFrom key fuel e.link h

def utpHashLookup (key : κ) (h : UtpHash κ ν) : Option (Option Nat) :=
  h.lookupFrom key (h.used + 1) (h.inits (h.utpHashMkidx key))

/-- The number of elements that a full table grows to. -/
def grown (all : Nat) : Option Nat :=
  if all ≤ hashUnused / 2 then some (all * 2)
  else if all ≠ hashUnused then some hashUnused
  else none

/-- `ALLOCATION_SIZE` multiplies in 32 bits. -/
def reallocate (all : Nat) (h : UtpHash κ ν) : UtpHash κ ν :=
  { h with
    allocated := all
    room := u32 (h.E * all) }

/-- Link an element into its bucket and copy the key into it. -/
def insertElement (key : κ) (elem : Nat) (h : UtpHash κ ν) : Option (Option Nat × UtpHash κ ν) :=
  match h.element elem with
  | none => none
  | some e =>
      let idx := h.utpHashMkidx key
      some (some elem, {
        h.setElement elem { e with key := some key, link := h.inits idx } with
        inits := Function.update h.inits idx elem
        count := h.count + 1 })

/-- Take the element after the last one in use. -/
def takeUnused (key : κ) (h : UtpHash κ ν) : Option (Option Nat × UtpHash κ ν) :=
  insertElement key h.used { h with used := u32 (h.used + 1) }

/-- The new element, no element when the table cannot grow, or nothing when an
access leaves the block. `granted` tells whether `realloc` finds the memory. -/
def utpHashAdd (key : κ) (granted : Bool) (h : UtpHash κ ν) : Option (Option Nat × UtpHash κ ν) :=
  if h.free = hashUnused then
    if h.used = h.allocated then
      match grown h.allocated with
      | none => some (none, h)
      | some all => if granted then (h.reallocate all).takeUnused key else some (none, h)
    else h.takeUnused key
  else
    match h.element h.free with
    | none => none
    | some e => insertElement key h.free { h with free := e.link }

/-- The caller writes its data through the pointer that was returned. -/
def store (i : Nat) (value : ν) (h : UtpHash κ ν) : UtpHash κ ν :=
  h.setElement i { h.elemp i with data := some value }

/-- What the pointer `curp` of a deletion points to. -/
inductive Slot
  | bucket (idx : Nat)
  | link (elem : Nat)

def readSlot (curp : Slot) (h : UtpHash κ ν) : Option Nat :=
  match curp with
  | .bucket idx => some (h.inits idx)
  | .link elem => (h.element elem).map HashElement.link

def writeSlot (curp : Slot) (x : Nat) (h : UtpHash κ ν) : UtpHash κ ν :=
  match curp with
  | .bucket idx => { h with inits := Function.update h.inits idx x }
  | .link elem => h.setElement elem { h.elemp elem with link := x }

/-- Unlink an element and put it in front of the free list. -/
def release (curp : Slot) (cur : Nat) (h : UtpHash κ ν) : UtpHash κ ν :=
  { (h.writeSlot curp (h.link cur)).writeSlot (.link cur) h.free with
    free := cur
    count := h.count - 1 }

def delFrom (key : κ) : Nat → Slot → UtpHash κ ν → Option (Option Nat × UtpHash κ ν)
  | 0, _, _ => none
  | fuel + 1, curp, h =>
      match h.readSlot curp with
      | none => none
      | some cur =>
          if cur = hashUnused then some (none, h)
          else
            match h.element cur with
            | none => none
            | some e =>
                match e.key with
                | none => none
                | some key2 =>
                    if h.keys.hashEqual key key2 then some (some cur, h.release curp cur)
                    else delFrom key fuel (.link cur) h

def utpHashDel (key : κ) (h : UtpHash κ ν) : Option (Option Nat × UtpHash κ ν) :=
  h.delFrom key (h.used + 1) (.bucket (h.utpHashMkidx key))

end UtpHash

structure HashIterator where
  bucket : Nat
  elem : Nat

/-- The iterator that a pass starts with. -/
def hashIterator : HashIterator := ⟨4294967295, 4294967295⟩

namespace UtpHash

variable {κ ν : Type}

/-- The first bucket with an element among the `n` buckets from `buck`. -/
def findBucket (h : UtpHash κ ν) : Nat → Nat → Option Nat
  | 0, _ => none
  | n + 1, buck => if h.inits buck ≠ hashUnused then some buck else findBucket h n (buck + 1)

/-- Return the element the iterator is at, and save the link behind it. -/
def visit (iter : HashIterator) (h : UtpHash κ ν) : Option (Option Nat × HashIterator) :=
  (h.element iter.elem).map fun e => (some iter.elem, ⟨iter.bucket, e.link⟩)

def utpHashIterate (iter : HashIterator) (h : UtpHash κ ν) : Option (Option Nat × HashIterator) :=
  if iter.elem = hashUnused then
    let buck := u32 (iter.bucket + 1)
    match h.findBucket (h.N - buck) buck with
    | none => some (none, iter)
    | some buck => h.visit ⟨buck, h.inits buck⟩
  else h.visit iter

/-- Delete the key of an element, as the destructor of a socket does. -/
def delElement (i : Nat) (h : UtpHash κ ν) : Option (UtpHash κ ν) :=
  match (h.elemp i).key with
  | none => none
  | some key => (h.utpHashDel key).map Prod.snd

/-- The loop of `utp_check_timeouts` and `UTP_FreeAll`. The caller looks at each
element and may delete it before it asks for the next one. -/
def iteratePass (drop : Nat → Bool) : Nat → HashIterator → UtpHash κ ν → Option (List Nat × UtpHash κ ν)
  | 0, _, _ => none
  | fuel + 1, iter, h =>
      match h.utpHashIterate iter with
      | none => none
      | some (none, _) => some ([], h)
      | some (some i, iter) =>
          match if drop i then h.delElement i else some h with
          | none => none
          | some h => (iteratePass drop fuel iter h).map fun (visited, h) => (i :: visited, h)

end UtpHash

end Utp
