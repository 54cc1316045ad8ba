import Utp.Hash.Refinement

/-! Deletion from the hash table: the slot that pointed to the element is linked
past it, and the element becomes the head of the free list. -/
namespace Utp

open Wrapping LinkedIndex

variable {κ ν : Type}

namespace UtpHash

variable {h : UtpHash κ ν} {m : κ → Option ν} {key : κ} {i j b : Nat} {chains : Nat → List Nat}
  {freed front back : List Nat}

/-- Where the pointer of a deletion stands after it has passed some elements. -/
def slotAfter (curp : Slot) : List Nat → Slot
  | [] => curp
  | j :: front => slotAfter (.link j) front

theorem slotAfter_concat (curp : Slot) (front : List Nat) (j : Nat) :
    slotAfter curp (front ++ [j]) = .link j := by
  induction front generalizing curp with
  | nil => rfl
  | cons k front ih => exact ih (.link k)

/-- The walk of a deletion along the rest of a chain. -/
theorem delFrom_spec {fuel start : Nat} {curp : Slot} {l : List Nat} (hSlot : h.readSlot curp = some start)
    (hChain : IsChain h.link hashUnused start l) (hRead : h.Readable l) (hFuel : l.length < fuel) :
    (h.delFrom key fuel curp = some (none, h) ∧ ∀ i ∈ l, ¬h.Holds key i) ∨
      ∃ front i back, l = front ++ i :: back ∧ h.Holds key i ∧
        h.delFrom key fuel curp = some (some i, h.release (slotAfter curp front) i) := by
  induction l generalizing start fuel curp with
  | nil =>
      obtain ⟨fuel, rfl⟩ : ∃ n, fuel = n + 1 := ⟨fuel - 1, by simp at hFuel; omega⟩
      refine Or.inl ⟨?_, by simp⟩
      rw [delFrom, hSlot]
      simp only [if_pos (show start = hashUnused from hChain)]
  | cons j l ih =>
      obtain ⟨fuel, rfl⟩ : ∃ n, fuel = n + 1 := ⟨fuel - 1, by simp at hFuel; omega⟩
      obtain ⟨rfl, hStop, hRest⟩ := hChain
      obtain ⟨hElement, key2, hKey⟩ := hRead start List.mem_cons_self
      have hStep : h.delFrom key (fuel + 1) curp =
          if h.keys.hashEqual key key2 then some (some start, h.release curp start)
          else h.delFrom key fuel (.link start) := by
        rw [delFrom, hSlot]
        simp only [if_neg hStop, hElement, hKey]
      by_cases hEqual : h.keys.hashEqual key key2 = true
      · rw [if_pos hEqual] at hStep
        exact Or.inr ⟨[], start, l, rfl, ⟨key2, hKey, hEqual⟩, hStep⟩
      · rw [if_neg hEqual] at hStep
        rw [hStep]
        have hNext : h.readSlot (.link start) = some (h.link start) := by
          rw [readSlot, hElement]
          rfl
        rcases ih hNext hRest (fun i hMem => hRead i (List.mem_cons_of_mem start hMem)) (by simpa using hFuel) with
          ⟨hNone, hAll⟩ | ⟨front, i, back, rfl, hHolds, hFound⟩
        · refine Or.inl ⟨hNone, ?_⟩
          rintro i (_ | ⟨_, hMem⟩)
          · rintro ⟨key3, hKey3, hEqual3⟩
            rw [hKey] at hKey3
            exact hEqual (Option.some.inj hKey3 ▸ hEqual3)
          · exact hAll i hMem
        · exact Or.inr ⟨start :: front, i, back, rfl, hHolds, hFound⟩

/-- The links after a deletion: past the element, and from it to the free list. -/
structure Unlinked (b i : Nat) (front back : List Nat) (h h' : UtpHash κ ν) : Prop where
  keys : h'.keys = h.keys
  buckets : h'.N = h.N
  used : h'.used = h.used
  free : h'.free = i
  count : h'.count = h.count - 1
  entry : ∀ j < h.allocated, (h'.elemp j).key = (h.elemp j).key ∧ (h'.elemp j).data = (h.elemp j).data
  self : h'.link i = h.free
  other : ∀ j < h.allocated, j ≠ i → j ∉ front → h'.link j = h.link j
  chain : IsChain h'.link hashUnused (h'.inits b) (front ++ back)
  inits : ∀ c ≠ b, h'.inits c = h.inits c

theorem Roomy.elemp_writeLink (hRoomy : h.Roomy) (hi : i < h.allocated) (hj : j < h.allocated) (x : Nat) :
    (h.writeSlot (.link i) x).elemp j = if j = i then { h.elemp i with link := x } else h.elemp j :=
  hRoomy.elemp_setElement hi hj _

theorem Roomy.link_writeLink (hRoomy : h.Roomy) (hi : i < h.allocated) (hj : j < h.allocated) (x : Nat) :
    (h.writeSlot (.link i) x).link j = Function.update h.link i x j := by
  rw [link, hRoomy.elemp_writeLink hi hj, Function.update_apply]
  by_cases hEq : j = i
  · rw [if_pos hEq, if_pos hEq]
  · rw [if_neg hEq, if_neg hEq]
    rfl

theorem Roomy.entry_writeLink (hRoomy : h.Roomy) (hi : i < h.allocated) (hj : j < h.allocated) (x : Nat) :
    ((h.writeSlot (.link i) x).elemp j).key = (h.elemp j).key ∧
      ((h.writeSlot (.link i) x).elemp j).data = (h.elemp j).data := by
  rw [hRoomy.elemp_writeLink hi hj]
  by_cases hEq : j = i
  · rw [if_pos hEq, hEq]
    exact ⟨rfl, rfl⟩
  · rw [if_neg hEq]
    exact ⟨rfl, rfl⟩

theorem Roomy.writeSlot (hRoomy : h.Roomy) (curp : Slot) (x : Nat) : (h.writeSlot curp x).Roomy := by
  cases curp <;>
    exact ⟨hRoomy.buckets, hRoomy.bucketsLt, hRoomy.size, hRoomy.room, hRoomy.small, hRoomy.used, hRoomy.pos⟩

theorem Roomy.release (hRoomy : h.Roomy) (curp : Slot) (cur : Nat) : (h.release curp cur).Roomy := by
  obtain ⟨hBuckets, hLt, hSize, hRoom, hSmall, hUsed, hPos⟩ := (hRoomy.writeSlot curp (h.link cur)).writeSlot
    (.link cur) h.free
  exact ⟨hBuckets, hLt, hSize, hRoom, hSmall, hUsed, hPos⟩

theorem Sound.unlinked (hSound : h.Sound chains freed m) (hb : b < h.N) (hSplit : chains b = front ++ i :: back) :
    Unlinked b i front back h (h.release (slotAfter (.bucket b) front) i) := by
  have hRoomy := hSound.roomy
  have hUsed := hRoomy.used
  have hLt : ∀ j ∈ front ++ i :: back, j < h.allocated := fun j hMem =>
    (hSound.threaded.chain_lt hb (hSplit ▸ hMem)).trans_le hUsed
  have hi : i < h.allocated := hLt i (by simp)
  have hNodup : (front ++ i :: back).Nodup := hSplit ▸ hSound.threaded.chain_nodup hb
  have hNot : i ∉ front ++ back := (List.nodup_cons.1 (List.nodup_middle.1 hNodup)).1
  have hChain : IsChain h.link hashUnused (h.inits b) (front ++ i :: back) := hSplit ▸ hSound.threaded.chained b hb
  rcases List.eq_nil_or_concat front with rfl | ⟨before, p, rfl⟩
  · have hHead := hRoomy.writeSlot (.bucket b) (h.link i)
    have hLink : ∀ j < h.allocated, (h.release (.bucket b) i).link j = Function.update h.link i h.free j :=
      fun j hj => hHead.link_writeLink hi hj h.free
    refine ⟨rfl, rfl, rfl, rfl, rfl, fun j hj => hHead.entry_writeLink hi hj h.free, ?_, fun j hj hNe _ => ?_, ?_,
      fun c hc => ?_⟩
    · exact (hLink i hi).trans (Function.update_self i h.free h.link)
    · exact (hLink j hj).trans (Function.update_of_ne hNe h.free h.link)
    · show IsChain _ hashUnused (Function.update h.inits b (h.link i) b) back
      rw [Function.update_self]
      refine (hChain.suffix.update hNot h.free).congr fun j hMem => hLink j (hLt j ?_)
      simp [hMem]
    · show Function.update h.inits b (h.link i) c = h.inits c
      rw [Function.update_of_ne hc]
  · rw [List.concat_eq_append] at *
    rw [slotAfter_concat]
    have hp : p < h.allocated := hLt p (by simp)
    have hPast := hRoomy.writeSlot (.link p) (h.link i)
    have hLink : ∀ j < h.allocated, (h.release (.link p) i).link j =
        Function.update (Function.update h.link p (h.link i)) i h.free j := by
      intro j hj
      refine (hPast.link_writeLink hi hj h.free).trans ?_
      rw [Function.update_apply, Function.update_apply, hRoomy.link_writeLink hp hj]
    refine ⟨rfl, rfl, rfl, rfl, rfl, fun j hj => ?_, ?_, fun j hj hNe hFront => ?_, ?_, fun c _ => rfl⟩
    · have hFirst := hRoomy.entry_writeLink hp hj (h.link i)
      have hSecond := hPast.entry_writeLink hi hj h.free
      exact ⟨hSecond.1.trans hFirst.1, hSecond.2.trans hFirst.2⟩
    · rw [hLink i hi, Function.update_self]
    · rw [hLink j hj, Function.update_of_ne hNe, Function.update_of_ne]
      rintro rfl
      exact hFront (by simp)
    · have hJoin : before ++ [p] ++ i :: back = before ++ p :: i :: back := by simp
      have hMid : before ++ [p] ++ back = before ++ p :: back := by simp
      rw [hJoin] at hChain hNodup
      rw [hMid] at hNot ⊢
      refine ((hChain.unlink hNodup).update hNot h.free).congr fun j hMem => hLink j (hLt j ?_)
      simp only [List.append_assoc, List.cons_append, List.nil_append, List.mem_append, List.mem_cons] at hMem ⊢
      tauto

/-- The chains without the released element. -/
theorem Sound.mem_released (hSound : h.Sound chains freed m) (hb : b < h.N) (hSplit : chains b = front ++ i :: back)
    {c : Nat} (hc : c < h.N) : j ∈ Function.update chains b (front ++ back) c ↔ j ∈ chains c ∧ j ≠ i := by
  have hNodup := hSound.threaded.nodup
  by_cases hEq : c = b
  · subst hEq
    have hOnce : i ∉ front ++ back := by
      have hChain := hSound.threaded.chain_nodup hb
      rw [hSplit] at hChain
      exact (List.nodup_cons.1 (List.nodup_middle.1 hChain)).1
    rw [Function.update_self, hSplit]
    constructor
    · intro hMem
      refine ⟨?_, fun hEq => hOnce (hEq ▸ hMem)⟩
      simp only [List.mem_append, List.mem_cons] at hMem ⊢
      tauto
    · rintro ⟨hMem, hNe⟩
      simp only [List.mem_append, List.mem_cons] at hMem ⊢
      tauto
  · rw [Function.update_of_ne hEq]
    refine ⟨fun hMem => ⟨hMem, ?_⟩, And.left⟩
    rintro rfl
    refine hEq (gather_unique hNodup.of_append_left hc hb hMem ?_)
    rw [hSplit]
    simp

/-- The entries of the map without the key of the released element. -/
theorem Sound.denotes_released (hSound : h.Sound chains freed m)
    (hSplit : chains (h.utpHashMkidx key) = front ++ i :: back) (hHolds : h.Holds key i) {h' : UtpHash κ ν}
    (hUnlinked : Unlinked (h.utpHashMkidx key) i front back h h') :
    h'.Denotes (Function.update chains (h.utpHashMkidx key) (front ++ back)) (h.keys.eraseKey key m) := by
  have hb := hSound.roomy.mkidx_lt key
  have hDenotes := hSound.denotes
  obtain ⟨keyI, hKeyI, hEqualI⟩ := hHolds
  have hMemI : i ∈ chains (h.utpHashMkidx key) := by
    rw [hSplit]
    simp
  have hEntry : ∀ {c j : Nat}, c < h.N → j ∈ chains c → (h'.elemp j).key = (h.elemp j).key ∧
      (h'.elemp j).data = (h.elemp j).data :=
    fun hc hMem => hUnlinked.entry _ ((hSound.threaded.chain_lt hc hMem).trans_le hSound.roomy.used)
  have hIdx : ∀ k, h'.utpHashMkidx k = h.utpHashMkidx k := by
    intro k
    rw [utpHashMkidx, utpHashMkidx, hUnlinked.keys, hUnlinked.buckets]
  have hOnly : ∀ {j : Nat} {a : κ}, j ∈ chains (h.utpHashMkidx a) → (h.elemp j).key = some a →
      h.keys.hashEqual key a = true → j = i := by
    intro j a hMem hKey hEqual
    have hSame : h.utpHashMkidx a = h.utpHashMkidx key := by
      rw [utpHashMkidx, utpHashMkidx, h.keys.respects key a hEqual]
    rw [hSame] at hMem
    exact hDenotes.apart _ hb j hMem i hMemI a keyI hKey hKeyI
      (h.keys.equivalence.trans (h.keys.equivalence.symm hEqual) hEqualI)
  refine ⟨fun c hc j hMem => ?_, fun k v hMap => ?_, fun c hc j hj k hk a d ha hd hEqual => ?_, fun a c hEqual => ?_⟩
  · rw [hUnlinked.buckets] at hc
    obtain ⟨hOld, hNe⟩ := (hSound.mem_released hb hSplit hc).1 hMem
    obtain ⟨a, v, hKey, hData, hAt, hMap⟩ := hDenotes.keyed c hc j hOld
    refine ⟨a, v, (hEntry hc hOld).1.trans hKey, (hEntry hc hOld).2.trans hData, (hIdx a).trans hAt, ?_⟩
    have hDiffer : ¬h.keys.hashEqual key a = true := by
      intro hEqual
      subst hAt
      exact hNe (hOnly hOld hKey hEqual)
    rw [HashKeys.eraseKey, if_neg hDiffer, hMap]
  · have hDiffer : ¬h.keys.hashEqual key k = true := by
      intro hEqual
      rw [HashKeys.eraseKey, if_pos hEqual] at hMap
      exact absurd hMap (by simp)
    rw [HashKeys.eraseKey, if_neg hDiffer] at hMap
    obtain ⟨j, hOld, key2, hKey2, hEqual2⟩ := hDenotes.found k v hMap
    have hk := hSound.roomy.mkidx_lt k
    rw [hIdx, hUnlinked.keys]
    refine ⟨j, (hSound.mem_released hb hSplit hk).2 ⟨hOld, ?_⟩, key2, (hEntry hk hOld).1.trans hKey2, hEqual2⟩
    rintro rfl
    obtain rfl : key2 = keyI := Option.some.inj (hKey2.symm.trans hKeyI)
    exact hDiffer (h.keys.equivalence.trans hEqualI (h.keys.equivalence.symm hEqual2))
  · rw [hUnlinked.buckets] at hc
    rw [hUnlinked.keys] at hEqual
    obtain ⟨hOldJ, -⟩ := (hSound.mem_released hb hSplit hc).1 hj
    obtain ⟨hOldK, -⟩ := (hSound.mem_released hb hSplit hc).1 hk
    rw [(hEntry hc hOldJ).1] at ha
    rw [(hEntry hc hOldK).1] at hd
    exact hDenotes.apart c hc j hOldJ k hOldK a d ha hd hEqual
  · rw [hUnlinked.keys] at hEqual
    rw [HashKeys.eraseKey, HashKeys.eraseKey, h.keys.equal_congr hEqual, hDenotes.respects a c hEqual]

/-- The chain loses the element, the free list gets it, and the map loses the key. -/
theorem Sound.released (hSound : h.Sound chains freed m) (hSplit : chains (h.utpHashMkidx key) = front ++ i :: back)
    (hHolds : h.Holds key i) :
    (h.release (slotAfter (.bucket (h.utpHashMkidx key)) front) i).Sound
      (Function.update chains (h.utpHashMkidx key) (front ++ back)) (i :: freed) (h.keys.eraseKey key m) := by
  have hb := hSound.roomy.mkidx_lt key
  have hUnlinked := hSound.unlinked hb hSplit
  have hRoomy' := hSound.roomy.release (slotAfter (.bucket (h.utpHashMkidx key)) front) i
  generalize h.release (slotAfter (.bucket (h.utpHashMkidx key)) front) i = h' at hUnlinked hRoomy'
  have hUsed := hSound.roomy.used
  have hPerm : (chains (h.utpHashMkidx key)).Perm (i :: (front ++ back)) := by
    rw [hSplit]
    exact List.perm_middle
  have hGather := gather_update hb hPerm
  have hNodup := hSound.threaded.nodup
  have hMem : i ∈ chains (h.utpHashMkidx key) := by
    rw [hSplit]
    simp
  have hIn : i ∈ gather chains h.N := mem_gather.2 ⟨_, hb, hMem⟩
  have hApart : ∀ {c j : Nat}, c < h.N → c ≠ h.utpHashMkidx key → j ∈ chains c → j ≠ i ∧ j ∉ front := by
    intro c j hc hNe hj
    have hOther : j ∉ chains (h.utpHashMkidx key) :=
      fun hBoth => hNe (gather_unique hNodup.of_append_left hc hb hj hBoth)
    rw [hSplit] at hOther
    simp only [List.mem_append, List.mem_cons, not_or] at hOther
    exact ⟨hOther.2.1, hOther.1⟩
  have hFreed : ∀ j ∈ freed, j ≠ i ∧ j ∉ front := by
    intro j hj
    have hOther : j ∉ chains (h.utpHashMkidx key) := fun hBoth =>
      List.disjoint_of_nodup_append hNodup (mem_gather.2 ⟨_, hb, hBoth⟩) hj
    rw [hSplit] at hOther
    simp only [List.mem_append, List.mem_cons, not_or] at hOther
    exact ⟨hOther.2.1, hOther.1⟩
  refine ⟨hRoomy', ⟨fun c hc => ?_, ?_, ?_, ?_⟩, ?_⟩
  · rw [hUnlinked.buckets] at hc
    by_cases hEq : c = h.utpHashMkidx key
    · subst hEq
      rw [Function.update_self]
      exact hUnlinked.chain
    · rw [Function.update_of_ne hEq, hUnlinked.inits c hEq]
      refine (hSound.threaded.chained c hc).congr fun j hj => ?_
      obtain ⟨hNe, hFront⟩ := hApart hc hEq hj
      exact hUnlinked.other j ((hSound.threaded.chain_lt hc hj).trans_le hUsed) hNe hFront
  · rw [hUnlinked.free]
    refine ⟨rfl, ?_, ?_⟩
    · have hLt := hSound.threaded.chain_lt hb hMem
      have hAll := hSound.roomy.allocated_lt
      unfold hashUnused
      omega
    · rw [hUnlinked.self]
      refine hSound.threaded.free.congr fun j hj => ?_
      obtain ⟨hNe, hFront⟩ := hFreed j hj
      have hLt := hSound.threaded.lt_used (List.mem_append_right (gather chains h.N) hj)
      exact hUnlinked.other j (hLt.trans_le hUsed) hNe hFront
  · rw [hUnlinked.buckets, hUnlinked.used]
    exact (List.perm_middle.trans (hGather.append_right freed).symm).trans hSound.threaded.cover
  · rw [hUnlinked.count, hUnlinked.buckets, hSound.threaded.count, hGather.length_eq, List.length_cons]
    omega
  · exact hSound.denotes_released hSplit hHolds hUnlinked

/-- A deletion finds a key exactly when the map has it, and removes just that key. -/
theorem Sound.del (hSound : h.Sound chains freed m) (key : κ) :
    (h.utpHashDel key = some (none, h) ∧ m key = none) ∨
      ∃ front i back, chains (h.utpHashMkidx key) = front ++ i :: back ∧ h.Holds key i ∧ (m key).isSome ∧
        h.utpHashDel key = some (some i, h.release (slotAfter (.bucket (h.utpHashMkidx key)) front) i) := by
  have hb := hSound.roomy.mkidx_lt key
  have hFuel : (chains (h.utpHashMkidx key)).length < h.used + 1 :=
    Nat.lt_succ_of_le (hSound.threaded.chain_length hb)
  have hSlot : h.readSlot (.bucket (h.utpHashMkidx key)) = some (h.inits (h.utpHashMkidx key)) := rfl
  rcases delFrom_spec hSlot (hSound.threaded.chained _ hb) (hSound.readable hb) hFuel with
    ⟨hNone, hAll⟩ | ⟨front, i, back, hSplit, hHolds, hFound⟩
  · exact Or.inl ⟨hNone, hSound.absent hAll⟩
  · have hMem : i ∈ chains (h.utpHashMkidx key) := by
      rw [hSplit]
      simp
    exact Or.inr ⟨front, i, back, hSplit, hHolds, (hSound.holds hMem hHolds).2, hFound⟩

end UtpHash

end Utp
