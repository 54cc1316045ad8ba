import Mathlib.Order.Bounds.Basic
import Mathlib.Order.Monotone.Basic
import Mathlib.Data.List.Basic

/-! A fixed number of slots and the least value in them, kept up to date as the
slots are lowered, replaced and moved. -/
namespace LeastSlot

variable {α β : Type} [LinearOrder α] [LinearOrder β] {slots : List α} {least : α}

/-- The least value of the slots. -/
def Least (slots : List α) (least : α) : Prop := IsLeast {x | x ∈ slots} least

/-- Walk over the slots and keep the smaller value. -/
def lower (seed : α) (slots : List α) : α :=
  slots.foldl (fun least x => if x < least then x else least) seed

theorem Least.map {f : α → β} (hMono : Monotone f) (h : Least slots least) : Least (slots.map f) (f least) := by
  refine ⟨List.mem_map_of_mem h.1, fun y hMem => ?_⟩
  obtain ⟨x, hIn, rfl⟩ := List.mem_map.1 hMem
  exact hMono (h.2 hIn)

theorem Least.const {x : α} (hSlots : slots ≠ []) : Least (slots.map fun _ => x) x := by
  obtain ⟨head, hHead⟩ := List.exists_mem_of_ne_nil slots hSlots
  refine ⟨List.mem_map.2 ⟨head, hHead, rfl⟩, fun y hMem => ?_⟩
  obtain ⟨-, -, rfl⟩ := List.mem_map.1 hMem
  exact le_rfl

/-- One slot and the least value are both lowered to a new value. -/
theorem Least.lowered (h : Least slots least) {i : Nat} {old x : α} (hOld : slots[i]? = some old) :
    Least (if x < old then slots.set i x else slots) (if x < least then x else least) := by
  have hLe : least ≤ old := h.2 (List.mem_of_getElem? hOld)
  obtain ⟨hLt, hGet⟩ := List.getElem?_eq_some_iff.1 hOld
  by_cases hSlot : x < old
  · rw [if_pos hSlot]
    have hNew : x ∈ slots.set i x := List.mem_set hLt x
    have hBound : ∀ y ∈ slots.set i x, x ≤ y ∨ least ≤ y := by
      intro y hMem
      rcases List.mem_or_eq_of_mem_set hMem with hKept | rfl
      · exact Or.inr (h.2 hKept)
      · exact Or.inl le_rfl
    by_cases hLeast : x < least
    · rw [if_pos hLeast]
      exact ⟨hNew, fun y hMem => (hBound y hMem).elim id fun hy => hLeast.le.trans hy⟩
    · rw [if_neg hLeast]
      refine ⟨?_, fun y hMem => (hBound y hMem).elim (fun hy => (not_lt.1 hLeast).trans hy) id⟩
      obtain ⟨j, hj⟩ := List.mem_iff_getElem?.1 h.1
      have hOther : i ≠ j := by
        rintro rfl
        rw [hOld] at hj
        exact hLeast (Option.some.inj hj ▸ hSlot)
      exact List.mem_of_getElem? ((List.getElem?_set_ne hOther).trans hj)
  · rw [if_neg hSlot, if_neg (not_lt.2 (hLe.trans (not_lt.1 hSlot)))]
    exact h

theorem lower_le (seed : α) (slots : List α) : lower seed slots ≤ seed ∧ (∀ x ∈ slots, lower seed slots ≤ x) ∧
    (lower seed slots = seed ∨ lower seed slots ∈ slots) := by
  induction slots generalizing seed with
  | nil => exact ⟨le_rfl, nofun, Or.inl rfl⟩
  | cons x slots ih =>
      obtain ⟨hSeed, hAll, hFrom⟩ := ih (if x < seed then x else seed)
      have hNext : lower seed (x :: slots) = lower (if x < seed then x else seed) slots := rfl
      rw [hNext]
      by_cases hLt : x < seed
      · rw [if_pos hLt] at hSeed hAll hFrom ⊢
        refine ⟨hSeed.trans hLt.le, ?_, ?_⟩
        · rintro y (_ | ⟨_, hMem⟩)
          · exact hSeed
          · exact hAll y hMem
        · rcases hFrom with hEq | hMem
          · exact Or.inr (List.mem_cons.2 (Or.inl hEq))
          · exact Or.inr (List.mem_cons_of_mem x hMem)
      · rw [if_neg hLt] at hSeed hAll hFrom ⊢
        refine ⟨hSeed, ?_, ?_⟩
        · rintro y (_ | ⟨_, hMem⟩)
          · exact hSeed.trans (not_lt.1 hLt)
          · exact hAll y hMem
        · exact hFrom.imp id (List.mem_cons_of_mem x)

/-- The walk is seeded with one of the slots. -/
theorem least_lower {seed : α} (hSeed : seed ∈ slots) : Least slots (lower seed slots) := by
  obtain ⟨-, hAll, hFrom⟩ := lower_le seed slots
  refine ⟨?_, hAll⟩
  rcases hFrom with hEq | hMem
  · rw [hEq]
    exact hSeed
  · exact hMem

end LeastSlot
