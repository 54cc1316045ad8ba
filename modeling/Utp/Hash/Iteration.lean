import Utp.Hash.Deletion

/-! A pass over the hash table that deletes elements as it goes. The iterator
holds the link behind the element it returned last. -/
namespace Utp

open Wrapping LinkedIndex

variable {κ ν : Type}

namespace UtpHash

variable {h : UtpHash κ ν} {m : κ → Option ν} {key : κ} {i : Nat} {iter : HashIterator}
  {chains : Nat → List Nat} {freed rest : List Nat}

/-- The elements of the `n` buckets from `buck`. -/
def later (chains : Nat → List Nat) (buck n : Nat) : List Nat := (List.range' buck n).flatMap chains

/-- The rest of the bucket the iterator is in. All buckets behind it come after. -/
structure Ahead (h : UtpHash κ ν) (chains : Nat → List Nat) (iter : HashIterator) (rest : List Nat) : Prop where
  chain : IsChain h.link hashUnused iter.elem rest
  inside : rest ≠ [] → iter.bucket < h.N ∧ rest <:+ chains iter.bucket

/-- The elements that the iterator has not returned. -/
def ahead (h : UtpHash κ ν) (chains : Nat → List Nat) (iter : HashIterator) (rest : List Nat) : List Nat :=
  rest ++ later chains (u32 (iter.bucket + 1)) (h.N - u32 (iter.bucket + 1))

/-- The search for a bucket skips the empty ones. -/
theorem findBucket_spec (hChained : ∀ b < h.N, IsChain h.link hashUnused (h.inits b) (chains b)) {n buck : Nat}
    (hEnd : buck + n ≤ h.N) :
    (h.findBucket n buck = none ∧ later chains buck n = []) ∨
      ∃ c i l, h.findBucket n buck = some c ∧ c < buck + n ∧ chains c = i :: l ∧
        later chains buck n = i :: (l ++ later chains (c + 1) (buck + n - (c + 1))) := by
  induction n generalizing buck with
  | zero => exact Or.inl ⟨rfl, rfl⟩
  | succ n ih =>
      have hHead : later chains buck (n + 1) = chains buck ++ later chains (buck + 1) n := by
        simp [later, List.range'_succ]
      have hChain := hChained buck (by omega)
      rw [hHead, findBucket]
      cases hList : chains buck with
      | nil =>
          rw [hList] at hChain
          rw [if_neg (not_not.2 (show h.inits buck = hashUnused from hChain))]
          have hShift : buck + 1 + n = buck + (n + 1) := by omega
          have hRest : buck + 1 + n ≤ h.N := by omega
          rcases ih hRest with hNone | ⟨c, i, l, hFind, hLt, hSome, hLater⟩
          · exact Or.inl hNone
          · rw [hShift] at hLt hLater
            exact Or.inr ⟨c, i, l, hFind, hLt, hSome, hLater⟩
      | cons i l =>
          rw [hList] at hChain
          obtain ⟨hStart, hStop, -⟩ := hChain
          rw [if_pos (hStart ▸ hStop)]
          refine Or.inr ⟨buck, i, l, rfl, by omega, hList, ?_⟩
          rw [show buck + (n + 1) - (buck + 1) = n by omega]
          rfl

/-- The iterator returns the next element, or the pass is over. -/
theorem Sound.iterate (hSound : h.Sound chains freed m) (hAhead : h.Ahead chains iter rest) :
    (h.ahead chains iter rest = [] ∧ h.utpHashIterate iter = some (none, iter)) ∨
      ∃ i next l front, h.ahead chains iter rest = i :: h.ahead chains next l ∧
        h.utpHashIterate iter = some (some i, next) ∧ h.Ahead chains next l ∧ next.bucket < h.N ∧
        chains next.bucket = front ++ i :: l := by
  have hRoomy := hSound.roomy
  have hVisit : ∀ b < h.N, ∀ j ∈ chains b, h.visit ⟨b, j⟩ = some (some j, ⟨b, h.link j⟩) := by
    intro b hb j hMem
    have hLt := hSound.threaded.chain_lt hb hMem
    have hUsed := hRoomy.used
    show (h.element j).map _ = _
    rw [hRoomy.element_eq (by omega)]
    rfl
  cases rest with
  | nil =>
      have hStop : iter.elem = hashUnused := hAhead.chain
      rw [utpHashIterate, if_pos hStop, ahead, List.nil_append]
      generalize u32 ((iter.bucket : Int) + 1) = buck
      by_cases hEnd : buck ≤ h.N
      · have hSum : buck + (h.N - buck) = h.N := by omega
        rcases findBucket_spec hSound.threaded.chained hSum.le with ⟨hNone, hLater⟩ | ⟨c, i, l, hFind, hLt, hList, hLater⟩
        · refine Or.inl ⟨hLater, ?_⟩
          simp only [hNone]
        · rw [hSum] at hLt hLater
          have hChain := hSound.threaded.chained c hLt
          rw [hList] at hChain
          have hNext : u32 ((c : Int) + 1) = c + 1 := by
            have hBound := hRoomy.bucketsLt
            unfold u32
            omega
          refine Or.inr ⟨i, ⟨c, h.link i⟩, l, [], ?_, ?_, ⟨hChain.2.2, fun _ => ⟨hLt, ?_⟩⟩, hLt, hList⟩
          · rw [hLater, ahead, hNext]
          · simp only [hFind]
            rw [hChain.1]
            exact hVisit c hLt i (by simp [hList])
          · rw [hList]
            exact List.suffix_cons i l
      · have hNone : h.N - buck = 0 := by omega
        refine Or.inl ⟨?_, ?_⟩
        · rw [hNone]
          rfl
        · simp only [hNone, findBucket]
  | cons i l =>
      obtain ⟨hElem, hStop, hRest⟩ := hAhead.chain
      obtain ⟨hb, front, hFront⟩ := hAhead.inside (by simp)
      refine Or.inr ⟨i, ⟨iter.bucket, h.link i⟩, l, front, rfl, ?_, ⟨hRest, fun _ => ⟨hb, ?_⟩⟩, hb, hFront.symm⟩
      · rw [utpHashIterate, if_neg (by rw [hElem]; exact hStop)]
        have hMem : i ∈ chains iter.bucket := by
          rw [← hFront]
          simp
        obtain ⟨b, e⟩ := iter
        obtain rfl : e = i := hElem
        exact hVisit b hb e hMem
      · rw [← hFront]
        exact ⟨front ++ [i], by simp⟩

/-- Deleting the element just returned leaves the rest of its chain alone. -/
theorem Sound.delElement (hSound : h.Sound chains freed m) (hAhead : h.Ahead chains iter rest)
    (hb : iter.bucket < h.N) {front : List Nat} (hSplit : chains iter.bucket = front ++ i :: rest) :
    ∃ key h' freed', (h.elemp i).key = some key ∧ h.utpHashDel key = some (some i, h') ∧
      h'.keys = h.keys ∧ h'.N = h.N ∧ (∀ j < h.used, (h'.elemp j).key = (h.elemp j).key) ∧
      h'.Sound (Function.update chains iter.bucket (front ++ rest)) freed' (h.keys.eraseKey key m) ∧
      h'.Ahead (Function.update chains iter.bucket (front ++ rest)) iter rest := by
  have hMem : i ∈ chains iter.bucket := by
    rw [hSplit]
    simp
  obtain ⟨key, value, hKey, -, hIdx, hMap⟩ := hSound.denotes.keyed _ hb i hMem
  have hUsed := hSound.roomy.used
  rcases hSound.del key with ⟨-, hNone⟩ | ⟨front', i', back, hSplit', hHolds, -, hDel⟩
  · rw [hNone] at hMap
    exact absurd hMap (by simp)
  · have hSame : i' = i := by
      obtain ⟨key2, hKey2, hEqual⟩ := hHolds
      refine hSound.denotes.apart _ (hSound.roomy.mkidx_lt key) i' ?_ i (hIdx ▸ hMem) key2 key hKey2 hKey
        (h.keys.equivalence.symm hEqual)
      rw [hSplit']
      simp
    subst hSame
    have hNodup := hSound.threaded.chain_nodup hb
    rw [hSplit] at hNodup
    have hOnce := (List.nodup_cons.1 (List.nodup_middle.1 hNodup)).1
    have hParts : front = front' ∧ i' = i' ∧ rest = back := by
      rw [← List.append_cons_inj_of_notMem (fun hIn => hOnce (List.mem_append_left rest hIn))
        (fun hIn => hOnce (List.mem_append_right front hIn)), ← hSplit, ← hSplit', hIdx]
    obtain ⟨rfl, -, rfl⟩ := hParts
    have hUnlinked := hSound.unlinked (hSound.roomy.mkidx_lt key) hSplit'
    have hNext := hSound.released hSplit' hHolds
    rw [hIdx] at hUnlinked hNext hDel
    refine ⟨key, _, _, hKey, hDel, hUnlinked.keys, hUnlinked.buckets,
      fun j hj => (hUnlinked.entry j (by omega)).1, hNext, ?_, fun _ => ⟨?_, ?_⟩⟩
    · refine hAhead.chain.congr fun j hj => hUnlinked.other j ?_ ?_ ?_
      · refine (hSound.threaded.chain_lt hb ?_).trans_le hUsed
        rw [hSplit]
        simp [hj]
      · rintro rfl
        exact hOnce (List.mem_append_right front hj)
      · intro hFront
        exact List.disjoint_of_nodup_append hNodup hFront (List.mem_cons_of_mem i' hj)
    · rw [hUnlinked.buckets]
      exact hb
    · rw [Function.update_self]
      exact List.suffix_append front rest

/-- What a pass leaves of a map: the entries it did not drop. -/
def Kept (h : UtpHash κ ν) (drop : Nat → Bool) (visited : List Nat) (m m' : κ → Option ν) : Prop :=
  ∀ k, ((∃ i ∈ visited, drop i = true ∧ h.Holds k i) → m' k = none) ∧
    ((¬∃ i ∈ visited, drop i = true ∧ h.Holds k i) → m' k = m k)

theorem Sound.ahead_lt (hSound : h.Sound chains freed m) (hAhead : h.Ahead chains iter rest)
    (hMem : i ∈ h.ahead chains iter rest) : i < h.used := by
  rcases List.mem_append.1 hMem with hRest | hLater
  · obtain ⟨hb, hSuffix⟩ := hAhead.inside (List.ne_nil_of_mem hRest)
    exact hSound.threaded.chain_lt hb (hSuffix.subset hRest)
  · obtain ⟨c, hc, hIn⟩ := List.mem_flatMap.1 hLater
    exact hSound.threaded.chain_lt (by rw [List.mem_range'_1] at hc; omega) hIn

/-- The buckets behind the iterator do not see a change of its own bucket. -/
theorem ahead_update {h' : UtpHash κ ν} (hRoomy : h.Roomy) (hBuckets : h'.N = h.N) (hb : iter.bucket < h.N)
    (l : List Nat) : h'.ahead (Function.update chains iter.bucket l) iter rest = h.ahead chains iter rest := by
  have hNext : u32 ((iter.bucket : Int) + 1) = iter.bucket + 1 := by
    have hBound := hRoomy.bucketsLt
    unfold u32
    omega
  rw [ahead, ahead, hBuckets, hNext]
  refine congrArg (rest ++ ·) (List.flatMap_congr fun c hc => ?_)
  rw [List.mem_range'_1] at hc
  rw [Function.update_of_ne (by omega)]

theorem Kept.skip {drop : Nat → Bool} {visited : List Nat} {m' : κ → Option ν} (hSkip : drop i ≠ true)
    (hKept : h.Kept drop visited m m') : h.Kept drop (i :: visited) m m' := by
  intro k
  have hSame : (∃ j ∈ i :: visited, drop j = true ∧ h.Holds k j) ↔ ∃ j ∈ visited, drop j = true ∧ h.Holds k j := by
    simp [hSkip]
  rw [hSame]
  exact hKept k

theorem Kept.dropped {drop : Nat → Bool} {visited : List Nat} {h' : UtpHash κ ν} {m' : κ → Option ν}
    (hDrop : drop i = true) (hKey : (h.elemp i).key = some key) (hKeys : h'.keys = h.keys)
    (hEntry : ∀ j ∈ visited, (h'.elemp j).key = (h.elemp j).key)
    (hKept : h'.Kept drop visited (h.keys.eraseKey key m) m') : h.Kept drop (i :: visited) m m' := by
  have hSame : ∀ k, ∀ j ∈ visited, h'.Holds k j ↔ h.Holds k j := by
    intro k j hMem
    rw [Holds, Holds, hEntry j hMem, hKeys]
  intro k
  obtain ⟨hGone, hStays⟩ := hKept k
  have hErased : (∃ j ∈ visited, drop j = true ∧ h.Holds k j) → m' k = none := by
    rintro ⟨j, hMem, hDropJ, hHolds⟩
    exact hGone ⟨j, hMem, hDropJ, (hSame k j hMem).2 hHolds⟩
  have hLeft : (¬∃ j ∈ visited, drop j = true ∧ h.Holds k j) → m' k = h.keys.eraseKey key m k := by
    intro hNot
    refine hStays ?_
    rintro ⟨j, hMem, hDropJ, hHolds⟩
    exact hNot ⟨j, hMem, hDropJ, (hSame k j hMem).1 hHolds⟩
  constructor
  · intro hAny
    by_cases hLater : ∃ j ∈ visited, drop j = true ∧ h.Holds k j
    · exact hErased hLater
    · have hSelf : h.keys.hashEqual key k = true := by
        obtain ⟨j, hMem, hDropJ, hHolds⟩ := hAny
        rcases List.mem_cons.1 hMem with rfl | hIn
        · obtain ⟨key2, hKey2, hEqual⟩ := hHolds
          obtain rfl : key2 = key := Option.some.inj (hKey2.symm.trans hKey)
          exact h.keys.equivalence.symm hEqual
        · exact absurd ⟨j, hIn, hDropJ, hHolds⟩ hLater
      rw [hLeft hLater, HashKeys.eraseKey, if_pos hSelf]
  · intro hNone
    have hOther : ¬h.keys.hashEqual key k = true := fun hEqual =>
      hNone ⟨i, List.mem_cons_self, hDrop, key, hKey, h.keys.equivalence.symm hEqual⟩
    have hUntouched : ¬∃ j ∈ visited, drop j = true ∧ h.Holds k j := by
      rintro ⟨j, hMem, hRest⟩
      exact hNone ⟨j, List.mem_cons_of_mem i hMem, hRest⟩
    rw [hLeft hUntouched, HashKeys.eraseKey, if_neg hOther]

/-- A pass returns what was ahead of the iterator, whatever it deletes on the way. -/
theorem Sound.pass {P : UtpHash κ ν → (κ → Option ν) → Prop}
    (hClosed : ∀ {h m key found h'}, P h m → h.utpHashDel key = some (found, h') → P h' (h.keys.eraseKey key m))
    (hSound : h.Sound chains freed m) (hAhead : h.Ahead chains iter rest) (drop : Nat → Bool) {fuel : Nat}
    (hFuel : (h.ahead chains iter rest).length < fuel) (hP : P h m) :
    ∃ h' m', h.iteratePass drop fuel iter = some (h.ahead chains iter rest, h') ∧ P h' m' ∧
      h.Kept drop (h.ahead chains iter rest) m m' := by
  induction fuel generalizing h chains freed m iter rest with
  | zero => omega
  | succ fuel ih =>
      rcases hSound.iterate hAhead with ⟨hDone, hStep⟩ | ⟨i, next, l, front, hNext, hStep, hAhead', hb, hSplit⟩
      · refine ⟨h, m, ?_, hP, fun k => ⟨by simp [hDone], fun _ => rfl⟩⟩
        rw [iteratePass, hStep, hDone]
      · rw [hNext] at hFuel ⊢
        have hLess : (h.ahead chains next l).length < fuel := by simpa using hFuel
        rw [iteratePass, hStep]
        by_cases hDrop : drop i = true
        · obtain ⟨key, h', freed', hKey, hDel, hKeys, hBuckets, hEntry, hSound', hAheadDel⟩ :=
            hSound.delElement hAhead' hb hSplit
          have hRest : h'.ahead (Function.update chains next.bucket (front ++ l)) next l = h.ahead chains next l :=
            ahead_update hSound.roomy hBuckets hb (front ++ l)
          obtain ⟨hEnd, mEnd, hPass, hPEnd, hKept⟩ := ih hSound' hAheadDel (by rw [hRest]; exact hLess)
            (hClosed hP hDel)
          rw [hRest] at hPass hKept
          refine ⟨hEnd, mEnd, ?_, hPEnd, hKept.dropped hDrop hKey hKeys fun j hMem => hEntry j ?_⟩
          · have hOne : h.delElement i = some h' := by
              rw [UtpHash.delElement, hKey]
              simp only [hDel, Option.map_some]
            simp only [if_pos hDrop, hOne, hPass, Option.map_some]
          · exact hSound.ahead_lt hAhead' hMem
        · obtain ⟨hEnd, mEnd, hPass, hPEnd, hKept⟩ := ih hSound hAhead' hLess hP
          refine ⟨hEnd, mEnd, ?_, hPEnd, hKept.skip hDrop⟩
          simp only [if_neg hDrop, hPass, Option.map_some]

end UtpHash

end Utp
