import Utp.Library.LinkedIndex
import Utp.Hash.Basic

/-! The hash table as a finite map: its lists share the elements without
overlapping, and every operation does to the lists what it should do to the map. -/
namespace Utp

open Wrapping LinkedIndex

variable {κ ν : Type}

/-- The map with one more key. Keys are compared as the table compares them. -/
def HashKeys.insertKey (keys : HashKeys κ) (key : κ) (value : ν) (m : κ → Option ν) : κ → Option ν :=
  fun k => if keys.hashEqual key k then some value else m k

def HashKeys.eraseKey (keys : HashKeys κ) (key : κ) (m : κ → Option ν) : κ → Option ν :=
  fun k => if keys.hashEqual key k then none else m k

/-- Keys that are equal are equal to the same keys. -/
theorem HashKeys.equal_congr (keys : HashKeys κ) {key a b : κ} (hEqual : keys.hashEqual a b = true) :
    keys.hashEqual key a = keys.hashEqual key b := by
  rw [Bool.eq_iff_iff]
  constructor
  · intro hLeft
    exact keys.equivalence.trans hLeft hEqual
  · intro hRight
    exact keys.equivalence.trans hRight (keys.equivalence.symm hEqual)

namespace UtpHash

variable {h : UtpHash κ ν} {m : κ → Option ν} {key : κ} {value : ν} {i j : Nat}

/-- The block has room for all its elements, and no offset in it wraps. -/
structure Roomy (h : UtpHash κ ν) : Prop where
  buckets : 0 < h.N
  bucketsLt : h.N < 4294967295
  size : 4 ≤ h.E
  room : h.room = h.E * h.allocated
  small : h.E * h.allocated < 4294967296
  used : h.used ≤ h.allocated
  pos : 0 < h.allocated

/-- An element takes at least four bytes. -/
theorem Roomy.allocated_lt (hRoomy : h.Roomy) : h.allocated < 1073741824 := by
  have hMul := Nat.mul_le_mul_right h.allocated hRoomy.size
  have hSmall := hRoomy.small
  omega

/-- The bucket of a key is one of the buckets. -/
theorem Roomy.mkidx_lt (hRoomy : h.Roomy) (key : κ) : h.utpHashMkidx key < h.N :=
  Nat.mod_lt _ hRoomy.buckets

/-- An element that is allocated ends within the memory. -/
theorem span_le (hi : i < h.allocated) : i * h.E + h.E ≤ h.E * h.allocated := by
  have hMul := Nat.mul_le_mul_right h.E (Nat.succ_le_of_lt hi)
  rw [Nat.succ_mul, Nat.mul_comm h.allocated] at hMul
  exact hMul

/-- So its offset does not wrap. -/
theorem Roomy.offset_eq (hRoomy : h.Roomy) (hi : i < h.allocated) : h.offset i = i * h.E := by
  have hSpan := span_le hi
  have hSmall := hRoomy.small
  rw [offset, ← Nat.cast_mul, u32_of_lt (by omega)]

/-- And the pointer to it is valid. -/
theorem Roomy.element_eq (hRoomy : h.Roomy) (hi : i < h.allocated) : h.element i = some (h.elemp i) := by
  have hSpan := span_le hi
  rw [element, hRoomy.offset_eq hi, hRoomy.room, if_pos hSpan]

/-- Elements do not overlap. -/
theorem Roomy.elemp_setElement (hRoomy : h.Roomy) (hi : i < h.allocated) (hj : j < h.allocated)
    (e : HashElement κ ν) : (h.setElement i e).elemp j = if j = i then e else h.elemp j := by
  show Function.update h.memory (h.offset i) e (h.offset j) = _
  by_cases hEq : j = i
  · rw [if_pos hEq, hEq, Function.update_self]
  · have hApart : h.offset j ≠ h.offset i := by
      rw [hRoomy.offset_eq hi, hRoomy.offset_eq hj]
      intro hMul
      exact hEq (Nat.eq_of_mul_eq_mul_right (by have := hRoomy.size; omega) hMul)
    rw [if_neg hEq, Function.update_of_ne hApart]
    rfl

/-- The bucket chains and the free list end, and together they meet every index
below `used` exactly once. -/
structure Threaded (h : UtpHash κ ν) (chains : Nat → List Nat) (freed : List Nat) : Prop where
  chained : ∀ b < h.N, IsChain h.link hashUnused (h.inits b) (chains b)
  free : IsChain h.link hashUnused h.free freed
  cover : (gather chains h.N ++ freed).Perm (List.range h.used)
  count : h.count = (gather chains h.N).length

/-- The chained elements hold the entries of a map, each in the bucket of its key. -/
structure Denotes (h : UtpHash κ ν) (chains : Nat → List Nat) (m : κ → Option ν) : Prop where
  keyed : ∀ b < h.N, ∀ i ∈ chains b, ∃ key value, (h.elemp i).key = some key ∧
    (h.elemp i).data = some value ∧ h.utpHashMkidx key = b ∧ m key = some value
  found : ∀ key value, m key = some value → ∃ i ∈ chains (h.utpHashMkidx key),
    ∃ key2, (h.elemp i).key = some key2 ∧ h.keys.hashEqual key key2 = true
  apart : ∀ b < h.N, ∀ i ∈ chains b, ∀ j ∈ chains b, ∀ a c, (h.elemp i).key = some a →
    (h.elemp j).key = some c → h.keys.hashEqual a c = true → i = j
  respects : ∀ a c, h.keys.hashEqual a c = true → m a = m c

/-- A table with its lists, and the map it stands for. -/
structure Sound (h : UtpHash κ ν) (chains : Nat → List Nat) (freed : List Nat) (m : κ → Option ν) : Prop where
  roomy : h.Roomy
  threaded : h.Threaded chains freed
  denotes : h.Denotes chains m

variable {chains : Nat → List Nat} {freed : List Nat}

/-- An element is in one chain, or on the free list, and once. -/
theorem Threaded.nodup (hThreaded : h.Threaded chains freed) : (gather chains h.N ++ freed).Nodup :=
  hThreaded.cover.nodup_iff.2 List.nodup_range

/-- It has been used. -/
theorem Threaded.lt_used (hThreaded : h.Threaded chains freed) (hMem : i ∈ gather chains h.N ++ freed) :
    i < h.used :=
  List.mem_range.1 (hThreaded.cover.mem_iff.1 hMem)

/-- The elements of a chain have been used. -/
theorem Threaded.chain_lt (hThreaded : h.Threaded chains freed) {b : Nat} (hb : b < h.N) (hMem : i ∈ chains b) :
    i < h.used :=
  hThreaded.lt_used (List.mem_append_left freed (mem_gather.2 ⟨b, hb, hMem⟩))

theorem Threaded.chain_nodup (hThreaded : h.Threaded chains freed) {b : Nat} (hb : b < h.N) :
    (chains b).Nodup :=
  gather_nodup hThreaded.nodup.of_append_left hb

/-- A chain is no longer than the elements in use. -/
theorem Threaded.chain_length (hThreaded : h.Threaded chains freed) {b : Nat} (hb : b < h.N) :
    (chains b).length ≤ h.used := by
  have hSub : (chains b).Subset (List.range h.used) := by
    intro i hMem
    exact List.mem_range.2 (hThreaded.chain_lt hb hMem)
  simpa using (List.subperm_of_subset (hThreaded.chain_nodup hb) hSub).length_le

/-- The key of an element is the one that is looked for. -/
def Holds (key : κ) (i : Nat) (h : UtpHash κ ν) : Prop :=
  ∃ key2, (h.elemp i).key = some key2 ∧ h.keys.hashEqual key key2 = true

/-- The elements of a list can be read and hold keys. -/
def Readable (h : UtpHash κ ν) (l : List Nat) : Prop :=
  ∀ i ∈ l, h.element i = some (h.elemp i) ∧ ∃ key, (h.elemp i).key = some key

/-- The elements of a chain can be read. -/
theorem Sound.readable (hSound : h.Sound chains freed m) {b : Nat} (hb : b < h.N) : h.Readable (chains b) := by
  intro i hMem
  obtain ⟨key, -, hKey, -⟩ := hSound.denotes.keyed b hb i hMem
  have hUsed := hSound.roomy.used
  have hLt := hSound.threaded.chain_lt hb hMem
  exact ⟨hSound.roomy.element_eq (by omega), key, hKey⟩

/-- The map has a key exactly when its bucket does, and the element has the data. -/
theorem Sound.holds (hSound : h.Sound chains freed m) (hMem : i ∈ chains (h.utpHashMkidx key))
    (hHolds : h.Holds key i) : (h.elemp i).data = m key ∧ (m key).isSome := by
  obtain ⟨key2, hKey2, hEqual⟩ := hHolds
  obtain ⟨a, value, hKey, hData, -, hMap⟩ :=
    hSound.denotes.keyed _ (hSound.roomy.mkidx_lt key) i hMem
  obtain rfl : key2 = a := Option.some.inj (hKey2.symm.trans hKey)
  rw [hSound.denotes.respects key key2 hEqual, hMap, hData]
  exact ⟨rfl, rfl⟩

/-- A key that is in no element of its chain is not in the map. -/
theorem Sound.absent (hSound : h.Sound chains freed m)
    (hNone : ∀ i ∈ chains (h.utpHashMkidx key), ¬h.Holds key i) : m key = none := by
  cases hMap : m key with
  | none => rfl
  | some value =>
      obtain ⟨i, hMem, hHolds⟩ := hSound.denotes.found key value hMap
      exact absurd hHolds (hNone i hMem)

/-- The walk of a lookup along one chain. -/
theorem lookupFrom_spec {fuel start : Nat} {l : List Nat} (hChain : IsChain h.link hashUnused start l)
    (hRead : h.Readable l) (hFuel : l.length < fuel) :
    (h.lookupFrom key fuel start = some none ∧ ∀ i ∈ l, ¬h.Holds key i) ∨
      ∃ i ∈ l, h.lookupFrom key fuel start = some (some i) ∧ h.Holds key i := by
  induction l generalizing start fuel with
  | nil =>
      obtain ⟨fuel, rfl⟩ : ∃ n, fuel = n + 1 := ⟨fuel - 1, by simp at hFuel; omega⟩
      refine Or.inl ⟨?_, by simp⟩
      rw [lookupFrom, if_pos (show start = hashUnused from hChain)]
  | cons j l ih =>
      obtain ⟨fuel, rfl⟩ : ∃ n, fuel = n + 1 := ⟨fuel - 1, by simp at hFuel; omega⟩
      obtain ⟨rfl, hStop, hRest⟩ := hChain
      obtain ⟨hElement, key2, hKey⟩ := hRead start List.mem_cons_self
      have hStep : h.lookupFrom key (fuel + 1) start =
          if h.keys.hashEqual key key2 then some (some start) else h.lookupFrom key fuel (h.link start) := by
        rw [lookupFrom, if_neg hStop, hElement]
        simp only [hKey]
        rfl
      by_cases hEqual : h.keys.hashEqual key key2 = true
      · rw [if_pos hEqual] at hStep
        exact Or.inr ⟨start, List.mem_cons_self, hStep, key2, hKey, hEqual⟩
      · rw [if_neg hEqual] at hStep
        rw [hStep]
        rcases ih hRest (fun i hMem => hRead i (List.mem_cons_of_mem start hMem)) (by simpa using hFuel) with
          ⟨hNone, hAll⟩ | ⟨i, hMem, hFound⟩
        · refine Or.inl ⟨hNone, ?_⟩
          rintro i (_ | ⟨_, hMem⟩)
          · rintro ⟨key3, hKey3, hEqual3⟩
            rw [hKey] at hKey3
            exact hEqual (Option.some.inj hKey3 ▸ hEqual3)
          · exact hAll i hMem
        · exact Or.inr ⟨i, List.mem_cons_of_mem start hMem, hFound⟩

/-- A lookup finds a key exactly when the map has it. -/
theorem Sound.lookup (hSound : h.Sound chains freed m) (key : κ) :
    ∃ found, h.utpHashLookup key = some found ∧ found.isSome = (m key).isSome ∧
      ∀ i, found = some i → (h.elemp i).data = m key := by
  have hb := hSound.roomy.mkidx_lt key
  have hFuel : (chains (h.utpHashMkidx key)).length < h.used + 1 :=
    Nat.lt_succ_of_le (hSound.threaded.chain_length hb)
  rcases lookupFrom_spec (hSound.threaded.chained _ hb) (hSound.readable hb) hFuel with
    ⟨hNone, hAll⟩ | ⟨i, hMem, hFound, hHolds⟩
  · refine ⟨none, hNone, ?_, by simp⟩
    rw [hSound.absent hAll]
    rfl
  · obtain ⟨hData, hSome⟩ := hSound.holds hMem hHolds
    refine ⟨some i, hFound, hSome.symm, ?_⟩
    rintro j ⟨rfl⟩
    exact hData

/-- The table after an element was linked into the bucket of its key. -/
def inserted (key : κ) (elem : Nat) (h : UtpHash κ ν) : UtpHash κ ν :=
  { h.setElement elem { h.elemp elem with key := some key, link := h.inits (h.utpHashMkidx key) } with
    inits := Function.update h.inits (h.utpHashMkidx key) elem
    count := h.count + 1 }

/-- An index that is in no list yet. -/
structure Loose (i : Nat) (h : UtpHash κ ν) (chains : Nat → List Nat) (freed : List Nat) : Prop where
  chained : ∀ b < h.N, IsChain h.link hashUnused (h.inits b) (chains b)
  free : IsChain h.link hashUnused h.free freed
  cover : (i :: (gather chains h.N ++ freed)).Perm (List.range h.used)
  count : h.count = (gather chains h.N).length

/-- The loose element has been used, and so have the others. -/
theorem Loose.lt_used (hLoose : Loose i h chains freed) (hMem : j ∈ i :: (gather chains h.N ++ freed)) :
    j < h.used :=
  List.mem_range.1 (hLoose.cover.mem_iff.1 hMem)

/-- It is in no chain and not on the free list. -/
theorem Loose.notMem (hLoose : Loose i h chains freed) : i ∉ gather chains h.N ++ freed :=
  (List.nodup_cons.1 (hLoose.cover.nodup_iff.2 List.nodup_range)).1

theorem Loose.chain_ne (hLoose : Loose i h chains freed) {b : Nat} (hb : b < h.N) (hMem : j ∈ chains b) :
    j < h.used ∧ j ≠ i := by
  have hIn : j ∈ gather chains h.N ++ freed := List.mem_append_left freed (mem_gather.2 ⟨b, hb, hMem⟩)
  refine ⟨hLoose.lt_used (List.mem_cons_of_mem i hIn), ?_⟩
  rintro rfl
  exact hLoose.notMem hIn

theorem Loose.free_ne (hLoose : Loose i h chains freed) (hMem : j ∈ freed) : j < h.used ∧ j ≠ i := by
  have hIn : j ∈ gather chains h.N ++ freed := List.mem_append_right (gather chains h.N) hMem
  refine ⟨hLoose.lt_used (List.mem_cons_of_mem i hIn), ?_⟩
  rintro rfl
  exact hLoose.notMem hIn

/-- What an added element holds once the caller has written its data. -/
theorem elemp_entered (hRoomy : h.Roomy) (hi : i < h.allocated) (hj : j < h.allocated) :
    ((h.inserted key i).store i value).elemp j =
      if j = i then ⟨some key, some value, h.inits (h.utpHashMkidx key)⟩ else h.elemp j := by
  have hInserted : (h.inserted key i).Roomy := ⟨hRoomy.buckets, hRoomy.bucketsLt, hRoomy.size, hRoomy.room,
    hRoomy.small, hRoomy.used, hRoomy.pos⟩
  have hFirst : ∀ k < h.allocated, (h.inserted key i).elemp k =
      if k = i then { h.elemp i with key := some key, link := h.inits (h.utpHashMkidx key) } else h.elemp k :=
    fun k hk => hRoomy.elemp_setElement hi hk _
  rw [store, hInserted.elemp_setElement hi hj, hFirst i hi, if_pos rfl, hFirst j hj]
  by_cases hEq : j = i
  · rw [if_pos hEq, if_pos hEq]
  · rw [if_neg hEq, if_neg hEq, if_neg hEq]

/-- The bucket of the new element starts with it; no other list changes. -/
theorem Loose.threaded (hRoomy : h.Roomy) (hLoose : Loose i h chains freed) :
    ((h.inserted key i).store i value).Threaded
      (Function.update chains (h.utpHashMkidx key) (i :: chains (h.utpHashMkidx key))) freed := by
  have hb := hRoomy.mkidx_lt key
  have hUsed := hRoomy.used
  have hi : i < h.used := hLoose.lt_used List.mem_cons_self
  have hLink : ∀ j < h.used, ((h.inserted key i).store i value).link j =
      Function.update h.link i (h.inits (h.utpHashMkidx key)) j := by
    intro j hj
    rw [link, elemp_entered hRoomy (by omega) (by omega), Function.update_apply]
    by_cases hEq : j = i
    · rw [if_pos hEq, if_pos hEq]
    · rw [if_neg hEq, if_neg hEq]
      rfl
  have hOther : ∀ {start : Nat} {l : List Nat}, (∀ j ∈ l, j < h.used ∧ j ≠ i) →
      IsChain h.link hashUnused start l →
      IsChain ((h.inserted key i).store i value).link hashUnused start l := by
    intro start l hAll hChain
    refine hChain.congr fun j hMem => ?_
    rw [hLink j (hAll j hMem).1, Function.update_of_ne (hAll j hMem).2]
  refine ⟨fun c hc => ?_, hOther (fun j hMem => hLoose.free_ne hMem) hLoose.free, ?_, ?_⟩
  · show IsChain _ hashUnused (Function.update h.inits (h.utpHashMkidx key) i c) _
    by_cases hEq : c = h.utpHashMkidx key
    · subst hEq
      rw [Function.update_self, Function.update_self]
      have hNot : i ∉ chains (h.utpHashMkidx key) := fun hMem => (hLoose.chain_ne hb hMem).2 rfl
      have hStop : i ≠ hashUnused := by
        have := hRoomy.allocated_lt
        unfold hashUnused
        omega
      refine ((hLoose.chained _ hb).push hNot hStop).congr fun j hMem => hLink j ?_
      rcases List.mem_cons.1 hMem with rfl | hIn
      · exact hi
      · exact (hLoose.chain_ne hb hIn).1
    · rw [Function.update_of_ne hEq, Function.update_of_ne hEq]
      exact hOther (fun j hMem => hLoose.chain_ne hc hMem) (hLoose.chained c hc)
  · exact ((gather_push hb).append_right freed).trans hLoose.cover
  · show h.count + 1 = (gather _ h.N).length
    rw [(gather_push hb).length_eq, List.length_cons, hLoose.count]

/-- The map gets the new key; its element is told apart by being in no list. -/
theorem Loose.denotes (hRoomy : h.Roomy) (hLoose : Loose i h chains freed) (hDenotes : h.Denotes chains m)
    (hNew : m key = none) :
    ((h.inserted key i).store i value).Denotes
      (Function.update chains (h.utpHashMkidx key) (i :: chains (h.utpHashMkidx key)))
      (h.keys.insertKey key value m) := by
  have hb := hRoomy.mkidx_lt key
  have hUsed := hRoomy.used
  have hi : i < h.used := hLoose.lt_used List.mem_cons_self
  have hSelf : ((h.inserted key i).store i value).elemp i =
      ⟨some key, some value, h.inits (h.utpHashMkidx key)⟩ := by
    rw [elemp_entered hRoomy (by omega) (by omega), if_pos rfl]
  have hSame : ∀ {b : Nat}, b < h.N → ∀ j ∈ chains b,
      ((h.inserted key i).store i value).elemp j = h.elemp j := by
    intro b hb j hMem
    obtain ⟨hj, hNe⟩ := hLoose.chain_ne hb hMem
    rw [elemp_entered hRoomy (by omega) (by omega), if_neg hNe]
  have hMember : ∀ {b j : Nat}, j ∈ Function.update chains (h.utpHashMkidx key) (i :: chains (h.utpHashMkidx key)) b →
      (j = i ∧ b = h.utpHashMkidx key) ∨ j ∈ chains b := by
    intro b j hMem
    by_cases hEq : b = h.utpHashMkidx key
    · subst hEq
      rw [Function.update_self] at hMem
      exact (List.mem_cons.1 hMem).imp (fun hEq => ⟨hEq, rfl⟩) id
    · rw [Function.update_of_ne hEq] at hMem
      exact Or.inr hMem
  have hFresh : ∀ {b j : Nat}, b < h.N → j ∈ chains b → ∀ a, (h.elemp j).key = some a →
      h.keys.hashEqual key a ≠ true := by
    intro b j hb hMem a hKey hEqual
    obtain ⟨a', value', hKey', -, -, hMap⟩ := hDenotes.keyed b hb j hMem
    obtain rfl : a = a' := Option.some.inj (hKey.symm.trans hKey')
    rw [← hDenotes.respects key a hEqual, hNew] at hMap
    exact absurd hMap (by simp)
  refine ⟨fun b hb j hMem => ?_, fun k v hMap => ?_, fun b hb j hj k hk a c ha hc hEqual => ?_, fun a c hEqual => ?_⟩
  · rcases hMember hMem with ⟨rfl, rfl⟩ | hOld
    · refine ⟨key, value, by rw [hSelf], by rw [hSelf], rfl, ?_⟩
      rw [HashKeys.insertKey, if_pos (h.keys.equivalence.refl key)]
    · obtain ⟨a, v, hKey, hData, hIdx, hMap⟩ := hDenotes.keyed b hb j hOld
      rw [hSame hb j hOld]
      refine ⟨a, v, hKey, hData, hIdx, ?_⟩
      rw [HashKeys.insertKey, if_neg (hFresh hb hOld a hKey), hMap]
  · show ∃ j ∈ Function.update chains (h.utpHashMkidx key) (i :: chains (h.utpHashMkidx key)) (h.utpHashMkidx k), _
    by_cases hEqual : h.keys.hashEqual key k = true
    · have hIdx : h.utpHashMkidx k = h.utpHashMkidx key := by
        rw [utpHashMkidx, utpHashMkidx, h.keys.respects key k hEqual]
      rw [hIdx, Function.update_self]
      refine ⟨i, List.mem_cons_self, key, by rw [hSelf], h.keys.equivalence.symm hEqual⟩
    · rw [HashKeys.insertKey, if_neg hEqual] at hMap
      obtain ⟨j, hMem, key2, hKey2, hEqual2⟩ := hDenotes.found k v hMap
      refine ⟨j, ?_, key2, by rw [hSame (hRoomy.mkidx_lt k) j hMem, hKey2], hEqual2⟩
      by_cases hIdx : h.utpHashMkidx k = h.utpHashMkidx key
      · rw [hIdx] at hMem ⊢
        rw [Function.update_self]
        exact List.mem_cons_of_mem i hMem
      · rw [Function.update_of_ne hIdx]
        exact hMem
  · rcases hMember hj with ⟨rfl, rfl⟩ | hOldJ
    · rcases hMember hk with ⟨rfl, -⟩ | hOldK
      · rfl
      · rw [hSame hb k hOldK] at hc
        rw [hSelf] at ha
        obtain rfl : key = a := Option.some.inj ha
        exact absurd hEqual (hFresh hb hOldK c hc)
    · rcases hMember hk with ⟨rfl, rfl⟩ | hOldK
      · rw [hSame hb j hOldJ] at ha
        rw [hSelf] at hc
        obtain rfl : key = c := Option.some.inj hc
        exact absurd (h.keys.equivalence.symm hEqual) (hFresh hb hOldJ a ha)
      · rw [hSame hb j hOldJ] at ha
        rw [hSame hb k hOldK] at hc
        exact hDenotes.apart b hb j hOldJ k hOldK a c ha hc hEqual
  · show h.keys.insertKey key value m a = h.keys.insertKey key value m c
    rw [HashKeys.insertKey, HashKeys.insertKey, h.keys.equal_congr hEqual, hDenotes.respects a c hEqual]

/-- The element becomes the head of its chain. -/
theorem insertElement_eq (hElement : h.element i = some (h.elemp i)) :
    h.insertElement key i = some (some i, h.inserted key i) := by
  rw [insertElement, hElement]
  rfl

/-- A growth has to keep the size of the block below `2 ^ 32`. -/
def GrowthFits (h : UtpHash κ ν) : Prop :=
  h.free = hashUnused → h.used = h.allocated → h.E * (h.allocated * 2) < 4294967296

/-- The added element was in no list, and the entries of the others stay. -/
structure Added (key : κ) (m : κ → Option ν) (h : UtpHash κ ν) (i : Nat) (h' : UtpHash κ ν) : Prop where
  keys : h'.keys = h.keys
  sound : ∀ value, ∃ chains freed, (h'.store i value).Sound chains freed (h.keys.insertKey key value m)
  others : ∀ j < h.used, j ≠ i → h'.elemp j = h.elemp j

/-- With it the table stands for the map with one entry more. -/
theorem Loose.added (hRoomy : h.Roomy) (hLoose : Loose i h chains freed) (hDenotes : h.Denotes chains m)
    (hNew : m key = none) : h.insertElement key i = some (some i, h.inserted key i) ∧
      Added key m h i (h.inserted key i) := by
  have hUsed := hRoomy.used
  have hi : i < h.used := hLoose.lt_used List.mem_cons_self
  refine ⟨insertElement_eq (hRoomy.element_eq (by omega)), rfl, fun value => ?_, fun j hj hNe => ?_⟩
  · exact ⟨_, freed, ⟨hRoomy.buckets, hRoomy.bucketsLt, hRoomy.size, hRoomy.room, hRoomy.small, hRoomy.used,
      hRoomy.pos⟩, hLoose.threaded hRoomy, hLoose.denotes hRoomy hDenotes hNew⟩
  · have hElemp := hRoomy.elemp_setElement (i := i) (j := j) (by omega) (by omega)
      { h.elemp i with key := some key, link := h.inits (h.utpHashMkidx key) }
    rw [if_neg hNe] at hElemp
    exact hElemp

/-- The element after the last one in use is in no list. -/
theorem Sound.takeUnused (hSound : h.Sound chains freed m) (hNew : m key = none) {all room : Nat}
    (hRoom : room = h.E * all) (hSmall : h.E * all < 4294967296) (hLt : h.used < all) :
    ∃ i h', UtpHash.takeUnused key { h with allocated := all, room := room } = some (some i, h') ∧
      Added key m h i h' := by
  have hRoomy : Roomy { h with allocated := all, room := room, used := h.used + 1 } :=
    ⟨hSound.roomy.buckets, hSound.roomy.bucketsLt, hSound.roomy.size, hRoom, hSmall, hLt, Nat.zero_lt_of_lt hLt⟩
  have hCover : (h.used :: (gather chains h.N ++ freed)).Perm (List.range (h.used + 1)) := by
    rw [List.range_succ]
    exact (hSound.threaded.cover.cons h.used).trans (List.perm_append_singleton h.used _).symm
  have hLoose : Loose h.used { h with allocated := all, room := room, used := h.used + 1 } chains freed :=
    ⟨hSound.threaded.chained, hSound.threaded.free, hCover, hSound.threaded.count⟩
  have hDenotes : Denotes { h with allocated := all, room := room, used := h.used + 1 } chains m :=
    ⟨hSound.denotes.keyed, hSound.denotes.found, hSound.denotes.apart, hSound.denotes.respects⟩
  obtain ⟨hInsert, hKeys, hNext, hOthers⟩ := hLoose.added hRoomy hDenotes hNew
  have hWrap : u32 ((h.used : Int) + 1) = h.used + 1 := by
    have hAll := hRoomy.allocated_lt
    change all < 1073741824 at hAll
    unfold u32
    omega
  refine ⟨h.used, _, ?_, hKeys, hNext, fun j hj hNe => hOthers j (Nat.lt_succ_of_lt hj) hNe⟩
  rw [← hInsert, UtpHash.takeUnused]
  simp only [hWrap]

/-- An add of a new key succeeds, and it adds just that key. -/
theorem Sound.add (hSound : h.Sound chains freed m) (hNew : m key = none) (hFits : h.GrowthFits) :
    ∃ i h', h.utpHashAdd key true = some (some i, h') ∧ Added key m h i h' := by
  have hUsed := hSound.roomy.used
  by_cases hFree : h.free = hashUnused
  · by_cases hFull : h.used = h.allocated
    · have hSmall := hFits hFree hFull
      have hPos := hSound.roomy.pos
      have hHalf : h.allocated ≤ hashUnused / 2 := by
        have hAll := hSound.roomy.allocated_lt
        unfold hashUnused
        omega
      have hWrap : u32 ((h.E : Int) * (h.allocated * 2 : Nat)) = h.E * (h.allocated * 2) := by
        rw [← Nat.cast_mul, u32_of_lt hSmall]
      have hAdd : h.utpHashAdd key true = (h.reallocate (h.allocated * 2)).takeUnused key := by
        rw [utpHashAdd, if_pos hFree, if_pos hFull, grown, if_pos hHalf]
        rfl
      rw [hAdd]
      exact hSound.takeUnused hNew hWrap hSmall (by omega)
    · have hAdd : h.utpHashAdd key true = h.takeUnused key := by
        rw [utpHashAdd, if_pos hFree, if_neg hFull]
      rw [hAdd]
      exact hSound.takeUnused hNew hSound.roomy.room hSound.roomy.small (by omega)
  · obtain ⟨rest, rfl⟩ : ∃ rest, freed = h.free :: rest := by
      cases freed with
      | nil => exact absurd hSound.threaded.free hFree
      | cons j rest => exact ⟨rest, by rw [hSound.threaded.free.1]⟩
    have hLt : h.free < h.used :=
      hSound.threaded.lt_used (List.mem_append_right (gather chains h.N) List.mem_cons_self)
    have hRoomy : Roomy { h with free := h.link h.free } := ⟨hSound.roomy.buckets, hSound.roomy.bucketsLt,
      hSound.roomy.size, hSound.roomy.room, hSound.roomy.small, hSound.roomy.used, hSound.roomy.pos⟩
    have hLoose : Loose h.free { h with free := h.link h.free } chains rest :=
      ⟨hSound.threaded.chained, hSound.threaded.free.2.2, List.perm_middle.symm.trans hSound.threaded.cover,
        hSound.threaded.count⟩
    have hDenotes : Denotes { h with free := h.link h.free } chains m :=
      ⟨hSound.denotes.keyed, hSound.denotes.found, hSound.denotes.apart, hSound.denotes.respects⟩
    obtain ⟨hInsert, hKeys, hNext, hOthers⟩ := hLoose.added hRoomy hDenotes hNew
    refine ⟨h.free, _, ?_, hKeys, hNext, hOthers⟩
    rw [utpHashAdd, if_neg hFree, hSound.roomy.element_eq (by omega)]
    exact hInsert

end UtpHash

end Utp
