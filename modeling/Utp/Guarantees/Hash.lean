import Utp.Hash.Iteration

/-! The hash table refines a finite map over every sequence of operations, as
long as no growth takes the size of its block past 32 bits. -/
namespace Utp

open Wrapping LinkedIndex UtpHash

variable {κ ν : Type} {h h₀ : UtpHash κ ν} {m : κ → Option ν}

/-- The tables that a created one leads to, each with the map it stands for. A
key is added only when the map does not have it, in a table that `Fits`. -/
inductive HashRun (Fits : UtpHash κ ν → Prop) (h₀ : UtpHash κ ν) : UtpHash κ ν → (κ → Option ν) → Prop
  | create : HashRun Fits h₀ h₀ fun _ => none
  | add {h h' m key granted i} (value : ν) : HashRun Fits h₀ h m → m key = none → Fits h →
      h.utpHashAdd key granted = some (some i, h') →
      HashRun Fits h₀ (h'.store i value) (h.keys.insertKey key value m)
  | refused {h h' m key granted} : HashRun Fits h₀ h m → m key = none → Fits h →
      h.utpHashAdd key granted = some (none, h') → HashRun Fits h₀ h' m
  | del {h h' m key found} : HashRun Fits h₀ h m → h.utpHashDel key = some (found, h') →
      HashRun Fits h₀ h' (h.keys.eraseKey key m)

/-- What the table owes to the map. Its lists meet every index below `used` once;
every operation returns, and finds a key exactly when the map has it; a growth
moves no entry; and a pass that deletes what it was given returns every chained
element once and ends in the table of a run again. -/
structure HashGuarantee (Fits : UtpHash κ ν → Prop) (h₀ h : UtpHash κ ν) (m : κ → Option ν) : Prop where
  lists : ∃ chains freed, h.Threaded chains freed ∧ ∀ drop, ∃ h' m',
    h.iteratePass drop (h.count + 1) hashIterator = some (gather chains h.N, h') ∧
      HashRun Fits h₀ h' m' ∧ h.Kept drop (gather chains h.N) m m'
  lookup : ∀ key, ∃ found, h.utpHashLookup key = some found ∧ found.isSome = (m key).isSome ∧
    ∀ i, found = some i → (h.elemp i).data = m key
  del : ∀ key, ∃ found h', h.utpHashDel key = some (found, h') ∧ found.isSome = (m key).isSome ∧
    HashRun Fits h₀ h' (h.keys.eraseKey key m)
  add : ∀ key value, m key = none → Fits h → ∃ i h', h.utpHashAdd key true = some (some i, h') ∧
    (∀ j < h.used, j ≠ i → h'.elemp j = h.elemp j) ∧
      HashRun Fits h₀ (h'.store i value) (h.keys.insertKey key value m)

/-- A new table is empty. -/
theorem sound_utpHashCreate {keys : HashKeys κ} {N totalSize initial : Nat}
    (hCreate : utpHashCreate keys N totalSize initial = some h₀) (hLink : 4 ≤ totalSize) (hByte : totalSize < 256)
    (hInitial : 1 ≤ initial) : h₀.Sound (fun _ => []) [] fun _ => none := by
  unfold utpHashCreate at hCreate
  split at hCreate
  next hAsserts =>
      obtain ⟨hOdd, -, hSize⟩ := hAsserts
      obtain rfl := Option.some.inj hCreate
      unfold hashBaseSize at hSize
      have hEmpty : ∀ n, gather (fun _ => []) n = [] := by
        intro n
        simp [gather]
      refine ⟨⟨?_, ?_, ?_, ?_, ?_, Nat.zero_le _, hInitial⟩, ⟨fun _ _ => rfl, rfl, ?_, ?_⟩, ⟨?_, ?_, ?_, fun _ _ _ => rfl⟩⟩
      · show 0 < N
        omega
      · show N < 4294967295
        omega
      · show 4 ≤ totalSize % 256
        omega
      · show totalSize * initial = totalSize % 256 * initial
        rw [Nat.mod_eq_of_lt hByte]
      · show totalSize % 256 * initial < 4294967296
        rw [Nat.mod_eq_of_lt hByte]
        omega
      · rw [hEmpty]
        exact List.Perm.refl _
      · rw [hEmpty]
        rfl
      · intro b _ i hMem
        exact absurd hMem (by simp)
      · intro key value hMap
        exact absurd hMap (by simp)
      · intro b _ i hMem
        exact absurd hMem (by simp)
  next => exact absurd hCreate (by simp)

/-- An add without memory changes nothing, unless it needs none. -/
theorem utpHashAdd_refused (key : κ) (granted : Bool) (h : UtpHash κ ν) :
    h.utpHashAdd key granted = h.utpHashAdd key true ∨ h.utpHashAdd key granted = some (none, h) := by
  cases granted with
  | true => exact Or.inl rfl
  | false =>
      unfold utpHashAdd
      split
      · split
        · split
          · exact Or.inl rfl
          · exact Or.inr rfl
        · exact Or.inl rfl
      · exact Or.inl rfl

/-- A deletion leads to the map without the key. -/
theorem UtpHash.Sound.del_sound {chains : Nat → List Nat} {freed : List Nat} (hSound : h.Sound chains freed m)
    {key : κ} {found : Option Nat} {h' : UtpHash κ ν} (hDel : h.utpHashDel key = some (found, h')) :
    ∃ chains freed, h'.Sound chains freed (h.keys.eraseKey key m) := by
  rcases hSound.del key with ⟨hNone, hMap⟩ | ⟨front, i, back, hSplit, hHolds, -, hFound⟩
  · obtain ⟨-, rfl⟩ := Prod.mk.inj (Option.some.inj (hNone.symm.trans hDel))
    have hSame : h.keys.eraseKey key m = m := by
      funext k
      rw [HashKeys.eraseKey]
      split
      next hEqual => rw [← hSound.denotes.respects key k hEqual, hMap]
      next => rfl
    rw [hSame]
    exact ⟨chains, freed, hSound⟩
  · obtain ⟨-, rfl⟩ := Prod.mk.inj (Option.some.inj (hFound.symm.trans hDel))
    exact ⟨_, _, hSound.released hSplit hHolds⟩

/-- Every table of a run keeps its lists and stands for its map. -/
theorem HashRun.sound (hFirst : h₀.Sound (fun _ => []) [] fun _ => none) (hRun : HashRun GrowthFits h₀ h m) :
    ∃ chains freed, h.Sound chains freed m := by
  induction hRun with
  | create => exact ⟨_, _, hFirst⟩
  | add value _ hNew hFits hAdd ih =>
      obtain ⟨chains, freed, hSound⟩ := ih
      obtain ⟨i, h', hTrue, -, hNext, -⟩ := hSound.add hNew hFits
      rcases utpHashAdd_refused _ _ _ with hSame | hNone
      · rw [hAdd, hTrue] at hSame
        obtain ⟨hi, rfl⟩ := Prod.mk.inj (Option.some.inj hSame)
        obtain rfl := Option.some.inj hi
        exact hNext value
      · rw [hAdd] at hNone
        exact absurd hNone (by simp)
  | refused _ hNew hFits hAdd ih =>
      obtain ⟨chains, freed, hSound⟩ := ih
      obtain ⟨i, h', hTrue, -⟩ := hSound.add hNew hFits
      rcases utpHashAdd_refused _ _ _ with hSame | hNone
      · rw [hAdd, hTrue] at hSame
        exact absurd hSame (by simp)
      · obtain ⟨-, rfl⟩ := Prod.mk.inj (Option.some.inj (hAdd.symm.trans hNone))
        exact ⟨chains, freed, hSound⟩
  | del _ hDel ih =>
      obtain ⟨chains, freed, hSound⟩ := ih
      exact hSound.del_sound hDel

/-- The hash table refines a finite map in every run whose growths fit 32 bits. -/
theorem hash_refines_map {keys : HashKeys κ} {N totalSize initial : Nat}
    (hCreate : utpHashCreate keys N totalSize initial = some h₀) (hLink : 4 ≤ totalSize) (hByte : totalSize < 256)
    (hInitial : 1 ≤ initial) (hRun : HashRun GrowthFits h₀ h m) : HashGuarantee GrowthFits h₀ h m := by
  obtain ⟨chains, freed, hSound⟩ := hRun.sound (sound_utpHashCreate hCreate hLink hByte hInitial)
  refine ⟨⟨chains, freed, hSound.threaded, fun drop => ?_⟩, hSound.lookup, fun key => ?_, fun key value hNew hFits => ?_⟩
  · have hAhead : h.Ahead chains hashIterator [] := ⟨rfl, fun hNot => absurd rfl hNot⟩
    have hAll : h.ahead chains hashIterator [] = gather chains h.N := by
      have hZero : u32 ((hashIterator.bucket : Int) + 1) = 0 := by
        unfold u32 hashIterator
        rfl
      rw [ahead, hZero, later, gather, Nat.sub_zero, List.range_eq_range', List.nil_append]
    have hFuel : (h.ahead chains hashIterator []).length < h.count + 1 := by
      rw [hAll, hSound.threaded.count]
      omega
    have hPass := hSound.pass HashRun.del hAhead drop hFuel hRun
    rwa [hAll] at hPass
  · rcases hSound.del key with ⟨hNone, hMap⟩ | ⟨front, i, back, -, -, hSome, hFound⟩
    · exact ⟨none, h, hNone, by rw [hMap]; rfl, hRun.del hNone⟩
    · exact ⟨some i, _, hFound, hSome.symm, hRun.del hFound⟩
  · obtain ⟨i, h', hAdd, -, -, hOthers⟩ := hSound.add hNew hFits
    exact ⟨i, h', hAdd, hOthers, hRun.add value hNew hFits hAdd⟩

/-- Keys that are numbers. -/
def numberKeys : HashKeys Nat where
  hashCompute := fun key => key % 4294967296
  hashEqual := fun a b => a == b
  equivalence := ⟨fun a => by simp, fun h => by simp_all, fun h₁ h₂ => by simp_all⟩
  respects := fun a b hEqual => by simp_all

/-- The table of sockets: 79 buckets, elements of 40 bytes and room for 15. -/
def socketTable : UtpHash Nat Nat where
  keys := numberKeys
  N := 79
  E := 40
  count := 0
  allocated := 15
  used := 0
  free := hashUnused
  inits := fun _ => hashUnused
  memory := fun _ => ⟨none, none, 0⟩
  room := 600

theorem utpHashCreate_socketTable : utpHashCreate numberKeys 79 40 15 = some socketTable := rfl

/-- The table of sockets with its first socket. -/
theorem hash_refines_map_after_add : ∃ h, HashRun GrowthFits socketTable h (numberKeys.insertKey 7 70 fun _ => none) ∧
    HashGuarantee GrowthFits socketTable h (numberKeys.insertKey 7 70 fun _ => none) := by
  have hFits : GrowthFits socketTable := fun _ hFull => absurd hFull (by decide)
  have hFirst := hash_refines_map utpHashCreate_socketTable (by decide) (by decide) (by decide) .create
  obtain ⟨i, h', -, -, hRun⟩ := hFirst.add 7 70 rfl hFits
  exact ⟨_, hRun, hash_refines_map utpHashCreate_socketTable (by decide) (by decide) (by decide) hRun⟩

/-- A table of sockets that has been filled up to some number. -/
structure Filled (n : Nat) (h : UtpHash Nat Nat) : Prop where
  keys : h.keys = numberKeys
  size : h.E = 40
  used : h.used = n
  count : h.count = n
  free : h.free = hashUnused
  room : h.room = 40 * h.allocated
  doubled : ∃ k ≤ 22, h.allocated = 15 * 2 ^ k
  fits : n ≤ h.allocated

theorem Filled.takeUnused {n all : Nat} {h : UtpHash Nat Nat} (hFilled : Filled n h) (key value : Nat)
    (hAll : n < all) (hDoubled : ∃ k ≤ 22, all = 15 * 2 ^ k) :
    ∃ h', UtpHash.takeUnused key { h with allocated := all, room := 40 * all } = some (some n, h') ∧
      Filled (n + 1) (h'.store n value) := by
  have hBound : all ≤ 62914560 := by
    obtain ⟨k, hk, rfl⟩ := hDoubled
    have hPow : 2 ^ k ≤ 2 ^ 22 := Nat.pow_le_pow_right (by decide) hk
    omega
  have hWrap : u32 ((n : Int) + 1) = n + 1 := by
    unfold u32
    omega
  have hOffset : u32 ((n : Int) * (h.E : Int)) + h.E ≤ 40 * all := by
    have hSize := hFilled.size
    have hLt : n * h.E < 4294967296 := by
      rw [hSize]
      omega
    rw [← Nat.cast_mul, u32_of_lt hLt, hSize]
    omega
  have hElement : element n { h with allocated := all, room := 40 * all, used := n + 1 } =
      some (elemp n { h with allocated := all, room := 40 * all, used := n + 1 }) := by
    rw [element, offset]
    exact if_pos hOffset
  refine ⟨UtpHash.inserted key n { h with allocated := all, room := 40 * all, used := n + 1 }, ?_,
    ⟨hFilled.keys, hFilled.size, rfl, congrArg (· + 1) hFilled.count, hFilled.free, rfl, hDoubled, hAll⟩⟩
  rw [UtpHash.takeUnused]
  simp only [hFilled.used, hWrap]
  exact insertElement_eq hElement

/-- The table doubles up to `15 * 2 ^ 22` elements. -/
theorem Filled.add {n : Nat} {h : UtpHash Nat Nat} (hFilled : Filled n h) (key value : Nat) (hn : n < 62914560) :
    ∃ h', h.utpHashAdd key true = some (some n, h') ∧ Filled (n + 1) (h'.store n value) := by
  obtain ⟨k, hk, hAll⟩ := hFilled.doubled
  have hFits := hFilled.fits
  by_cases hFull : h.used = h.allocated
  · have hUsed := hFilled.used
    have hNext : k + 1 ≤ 22 := by
      by_contra hNot
      obtain rfl : k = 22 := by omega
      omega
    have hPow : 2 ^ k ≤ 2 ^ 21 := Nat.pow_le_pow_right (by decide) (by omega)
    have hTwice : h.allocated * 2 = 15 * 2 ^ (k + 1) := by
      rw [hAll, pow_succ]
      ring
    have hHalf : h.allocated ≤ hashUnused / 2 := by
      unfold hashUnused
      omega
    have hRoom : u32 ((h.E : Int) * (h.allocated * 2 : Nat)) = 40 * (h.allocated * 2) := by
      rw [← Nat.cast_mul, hFilled.size, u32_of_lt (by omega)]
    have hAdd : h.utpHashAdd key true =
        UtpHash.takeUnused key { h with allocated := h.allocated * 2, room := 40 * (h.allocated * 2) } := by
      rw [utpHashAdd, if_pos hFilled.free, if_pos hFull, grown, if_pos hHalf, ← hRoom]
      rfl
    have hLt : n < h.allocated * 2 := by
      have hPos := Nat.two_pow_pos k
      omega
    rw [hAdd]
    exact hFilled.takeUnused key value hLt ⟨k + 1, hNext, hTwice⟩
  · have hSame : { h with allocated := h.allocated, room := 40 * h.allocated } = h := by
      rw [← hFilled.room]
    have hAdd : h.utpHashAdd key true = h.takeUnused key := by
      rw [utpHashAdd, if_pos hFilled.free, if_neg hFull]
    have hLt : n < h.allocated := by
      have hUsed := hFilled.used
      omega
    rw [hAdd, ← hSame]
    exact hFilled.takeUnused key value hLt ⟨k, hk, hAll⟩

/-- Adding the numbers in order fills the table. -/
theorem exists_filled (n : Nat) (hn : n ≤ 62914560) : ∃ h m, HashRun (fun _ => True) socketTable h m ∧ Filled n h ∧
    ∀ key, n ≤ key → m key = none := by
  induction n with
  | zero =>
      refine ⟨socketTable, _, .create, ?_, fun _ _ => rfl⟩
      exact ⟨rfl, rfl, rfl, rfl, rfl, rfl, ⟨0, by omega, rfl⟩, Nat.zero_le _⟩
  | succ n ih =>
      obtain ⟨h, m, hRun, hFilled, hNone⟩ := ih (by omega)
      obtain ⟨h', hAdd, hNext⟩ := hFilled.add n 0 (by omega)
      refine ⟨_, _, hRun.add 0 (hNone n le_rfl) trivial hAdd, hNext, fun key hKey => ?_⟩
      have hOther : ¬h.keys.hashEqual n key = true := by
        rw [hFilled.keys]
        show ¬(n == key) = true
        rw [beq_iff_eq]
        omega
      rw [HashKeys.insertKey, if_neg hOther]
      exact hNone key (by omega)

/-- The growth of a full table to `15 * 2 ^ 23` elements asks `realloc` for less
than the block has already, and the new element is outside of it. -/
theorem hash_growth_leaves_block : ∃ h m, utpHashCreate numberKeys 79 40 15 = some socketTable ∧
    HashRun (fun _ => True) socketTable h m ∧ h.count + 1 < hashUnused ∧ m 62914560 = none ∧
    h.utpHashAdd 62914560 true = none ∧ ¬HashGuarantee (fun _ => True) socketTable h m := by
  obtain ⟨h, m, hRun, hFilled, hNone⟩ := exists_filled 62914560 le_rfl
  obtain ⟨k, hk, hAll⟩ := hFilled.doubled
  have hFits := hFilled.fits
  have hFull : h.allocated = 62914560 := by
    have hPow : 2 ^ k ≤ 2 ^ 22 := Nat.pow_le_pow_right (by decide) hk
    omega
  have hAdd : h.utpHashAdd 62914560 true = none := by
    have hHalf : h.allocated ≤ hashUnused / 2 := by
      unfold hashUnused
      omega
    have hRoom : u32 ((h.E : Int) * (h.allocated * 2 : Nat)) = 738197504 := by
      rw [hFilled.size, hFull]
      unfold u32
      decide
    have hOffset : u32 (((62914560 : Nat) : Int) * (h.E : Int)) = 2516582400 := by
      rw [hFilled.size]
      unfold u32
      decide
    have hOutside : ∀ used, element 62914560 { h with allocated := h.allocated * 2, room := 738197504, used := used } =
        none := by
      intro used
      refine if_neg ?_
      show ¬u32 (((62914560 : Nat) : Int) * (h.E : Int)) + h.E ≤ 738197504
      rw [hOffset, hFilled.size]
      decide
    have hFullUse : h.used = h.allocated := hFilled.used.trans hFull.symm
    rw [utpHashAdd, if_pos hFilled.free, if_pos hFullUse, grown, if_pos hHalf]
    simp only [if_true, UtpHash.takeUnused, reallocate, hRoom, hFilled.used, insertElement, hOutside]
  refine ⟨h, m, rfl, hRun, ?_, hNone _ le_rfl, hAdd, fun hGuarantee => ?_⟩
  · rw [hFilled.count]
    decide
  · obtain ⟨i, h', hSome, -⟩ := hGuarantee.add 62914560 0 (hNone _ le_rfl) trivial
    rw [hAdd] at hSome
    exact absurd hSome (by simp)

end Utp
