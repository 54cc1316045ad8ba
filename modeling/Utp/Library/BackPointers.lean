import Mathlib.Data.List.Basic
import Mathlib.Logic.Function.Basic

/-! Lists whose members know their own position. Removal moves the last member
into the gap, so that it costs no search. -/
namespace BackPointers

variable {α : Type}

/-- Every member of `items` is found at its position, and everything else has
position `-1`. -/
structure Linked (items : List α) (pos : α → Int) : Prop where
  position : ∀ (a : α) (i : Nat), items[i]? = some a ↔ pos a = i
  low : ∀ a, -1 ≤ pos a

/-- The list after `a` has been removed. -/
def without (items : List α) (pos : α → Int) (a : α) : List α :=
  (items.set (pos a).toNat (items.getLastD a)).dropLast

/-- The positions after `a` has been removed. -/
def unlink [DecidableEq α] (items : List α) (pos : α → Int) (a : α) : α → Int :=
  Function.update (Function.update pos (items.getLastD a) (pos a)) a (-1)

namespace Linked

variable {items : List α} {pos : α → Int}

theorem mem_iff (h : Linked items pos) (a : α) : a ∈ items ↔ 0 ≤ pos a := by
  rw [List.mem_iff_getElem?]
  constructor
  · rintro ⟨i, hi⟩
    have hPos := (h.position a i).1 hi
    omega
  · intro hPos
    exact ⟨(pos a).toNat, (h.position a _).2 (by omega)⟩

/-- Append a member that is not in the list yet. -/
theorem push [DecidableEq α] (h : Linked items pos) {a : α} (hNew : pos a = -1) :
    Linked (items ++ [a]) (Function.update pos a items.length) := by
  have hAbsent : a ∉ items := fun hMem => by
    have hPos := (h.mem_iff a).1 hMem
    omega
  constructor
  · intro b i
    by_cases hSame : b = a
    · subst hSame
      rw [Function.update_self]
      constructor
      · intro hGet
        have hLt := (List.getElem?_eq_some_iff.1 hGet).1
        rw [List.length_append, List.length_singleton] at hLt
        by_cases hOld : i < items.length
        · rw [List.getElem?_append_left hOld] at hGet
          exact absurd (List.mem_of_getElem? hGet) hAbsent
        · omega
      · intro hEq
        have hIndex : i = items.length := by omega
        rw [hIndex]
        simp
    · rw [Function.update_of_ne hSame, ← h.position b i]
      constructor
      · intro hGet
        by_cases hOld : i < items.length
        · rwa [List.getElem?_append_left hOld] at hGet
        · rw [List.getElem?_append_right (Nat.le_of_not_lt hOld)] at hGet
          have hMem := List.mem_of_getElem? hGet
          exact absurd (List.mem_singleton.1 hMem) hSame
      · intro hGet
        have hOld := (List.getElem?_eq_some_iff.1 hGet).1
        rwa [List.getElem?_append_left hOld]
  · intro b
    by_cases hSame : b = a
    · subst hSame
      rw [Function.update_self]
      omega
    · rw [Function.update_of_ne hSame]
      exact h.low b

/-- Remove a member; the last one takes its place. -/
theorem remove [DecidableEq α] (h : Linked items pos) {a : α} (hMem : 0 ≤ pos a) :
    Linked (without items pos a) (unlink items pos a) := by
  obtain ⟨k, hk⟩ : ∃ k : Nat, pos a = k := ⟨(pos a).toNat, by omega⟩
  have hGet := (h.position a k).2 hk
  have hLt : k < items.length := (List.getElem?_eq_some_iff.1 hGet).1
  obtain ⟨last, hLast⟩ : ∃ last, items[items.length - 1]? = some last :=
    ⟨_, List.getElem?_eq_getElem (by omega)⟩
  have hLastD : items.getLastD a = last := by
    rw [List.getLastD_eq_getLast?, List.getLast?_eq_getElem?, hLast]
    rfl
  have hLastPos := (h.position last _).1 hLast
  have hRead : ∀ (b : α) (i : Nat), (without items pos a)[i]? = some b ↔
      i < items.length - 1 ∧ (if i = k then last = b else items[i]? = some b) := by
    intro b i
    unfold without
    rw [hLastD, hk, Int.toNat_natCast, List.getElem?_dropLast, List.length_set, List.getElem?_set]
    by_cases hBound : i < items.length - 1
    · by_cases hIndex : k = i
      · subst hIndex
        simp [hBound, hLt]
      · simp [hBound, hIndex, Ne.symm hIndex]
    · simp [hBound]
  constructor
  · intro b i
    rw [hRead]
    unfold unlink
    rw [hLastD, hk]
    by_cases hSelf : b = a
    · subst hSelf
      rw [Function.update_self]
      constructor
      · rintro ⟨hBound, hAt⟩
        split_ifs at hAt with hIndex
        · subst hAt
          omega
        · have hPos := (h.position b i).1 hAt
          omega
      · intro hNeg
        omega
    · rw [Function.update_of_ne hSelf]
      by_cases hIsLast : b = last
      · subst hIsLast
        rw [Function.update_self]
        constructor
        · rintro ⟨hBound, hAt⟩
          split_ifs at hAt with hIndex
          · omega
          · have hPos := (h.position b i).1 hAt
            omega
        · intro hEq
          have hIndex : i = k := by omega
          have hNotEnd : k ≠ items.length - 1 := by
            rintro rfl
            rw [hLast] at hGet
            exact hSelf (Option.some.inj hGet)
          exact ⟨by omega, by rw [if_pos hIndex]⟩
      · rw [Function.update_of_ne hIsLast, ← h.position b i]
        constructor
        · rintro ⟨hBound, hAt⟩
          split_ifs at hAt with hIndex
          · exact absurd hAt.symm hIsLast
          · exact hAt
        · intro hAt
          have hIndex : i ≠ k := by
            rintro rfl
            rw [hGet] at hAt
            exact hSelf (Option.some.inj hAt).symm
          have hInner : i ≠ items.length - 1 := by
            rintro rfl
            rw [hLast] at hAt
            exact hIsLast (Option.some.inj hAt).symm
          have hBound := (List.getElem?_eq_some_iff.1 hAt).1
          exact ⟨by omega, by rw [if_neg hIndex]; exact hAt⟩
  · intro b
    unfold unlink
    rw [hLastD, hk]
    by_cases hSelf : b = a
    · subst hSelf
      have hHere := Function.update_self b (-1) (Function.update pos last (k : Int))
      omega
    · rw [Function.update_of_ne hSelf]
      by_cases hIsLast : b = last
      · subst hIsLast
        rw [Function.update_self]
        omega
      · rw [Function.update_of_ne hIsLast]
        exact h.low b

/-- Nothing new is in the list after a removal. -/
theorem mem_of_mem_without (h : Linked items pos) {a b : α} (hMem : 0 ≤ pos a)
    (hLeft : b ∈ without items pos a) : b ∈ items := by
  have hOld : a ∈ items := (h.mem_iff a).2 hMem
  have hNonempty : items ≠ [] := List.ne_nil_of_mem hOld
  rcases List.mem_or_eq_of_mem_set (List.dropLast_sublist _ |>.subset hLeft) with hKept | hLast
  · exact hKept
  · rw [hLast, List.getLastD_eq_getLast?, List.getLast?_eq_some_getLast hNonempty]
    exact List.getLast_mem hNonempty

theorem nodup (h : Linked items pos) : items.Nodup := by
  rw [List.Nodup, List.pairwise_iff_getElem]
  intro i j hi hj hLt hSame
  have hFirst := (h.position _ _).1 (List.getElem?_eq_getElem hi)
  have hSecond := (h.position _ _).1 (List.getElem?_eq_getElem hj)
  rw [hSame] at hFirst
  omega

theorem length_without (items : List α) (pos : α → Int) (a : α) :
    (without items pos a).length = items.length - 1 := by
  simp [without]

/-- A removal takes out one member. -/
theorem mem_without_iff [DecidableEq α] (h : Linked items pos) {a : α} (hMem : 0 ≤ pos a) (b : α) :
    b ∈ without items pos a ↔ b ∈ items ∧ b ≠ a := by
  have hOld : a ∈ items := (h.mem_iff a).2 hMem
  have hNonempty : items ≠ [] := List.ne_nil_of_mem hOld
  rw [(h.remove hMem).mem_iff b, h.mem_iff b]
  unfold unlink
  by_cases hSelf : b = a
  · subst hSelf
    simp
  · rw [Function.update_of_ne hSelf]
    by_cases hLast : b = items.getLastD a
    · have hIn : b ∈ items := by
        rw [hLast, List.getLastD_eq_getLast?, List.getLast?_eq_some_getLast hNonempty]
        exact List.getLast_mem hNonempty
      have hAt : Function.update pos (items.getLastD a) (pos a) b = pos a := by
        rw [← hLast, Function.update_self]
      rw [hAt]
      exact ⟨fun _ => ⟨(h.mem_iff b).1 hIn, hSelf⟩, fun _ => hMem⟩
    · rw [Function.update_of_ne hLast]
      exact ⟨fun hIn => ⟨hIn, hSelf⟩, fun hIn => hIn.1⟩

theorem not_mem_without [DecidableEq α] (h : Linked items pos) {a : α} (hMem : 0 ≤ pos a) :
    a ∉ without items pos a := by
  rw [(h.remove hMem).mem_iff a]
  unfold unlink
  rw [Function.update_self]
  decide

end Linked

end BackPointers
