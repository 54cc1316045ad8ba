import Mathlib.Data.List.Basic
import Mathlib.Data.List.Perm.Basic

/-! Removing elements from an unordered list by moving the last one into their place. -/
namespace Sweep

variable {α : Type*}

/-- Go through the list from `i` on and drop elements. The element that takes the place of one that
is dropped is looked at next. The fuel bounds the number of turns. -/
def sweep (drop : α → Bool) : Nat → Nat → List α → List α
  | 0, _, xs => xs
  | fuel + 1, i, xs =>
      match xs[i]? with
      | none => xs
      | some x =>
          if drop x then sweep drop fuel i (xs.set i (xs.getLastD x)).dropLast else sweep drop fuel (i + 1) xs

/-- Moving the last element up removes one element and keeps all others. -/
theorem moveUp_eq (left right : List α) (x : α) : ∃ rest, rest.Perm right ∧
    ((left ++ x :: right).set left.length ((left ++ x :: right).getLastD x)).dropLast = left ++ rest := by
  rcases List.eq_nil_or_concat' right with rfl | ⟨front, last, rfl⟩
  · exact ⟨[], .nil, by simp⟩
  · refine ⟨last :: front, (List.perm_append_singleton last front).symm, ?_⟩
    have hLast : (left ++ x :: (front ++ [last])).getLastD x = last := by
      rw [List.getLastD_eq_getLast?, ← List.cons_append, ← List.append_assoc, List.getLast?_concat]
      rfl
    rw [hLast, List.set_append_right _ _ (Nat.le_refl _), Nat.sub_self, List.set_cons_zero, ← List.cons_append,
      ← List.append_assoc, List.dropLast_concat]

theorem sweep_append (drop : α → Bool) (fuel : Nat) (left right : List α) (hFuel : right.length ≤ fuel) :
    (sweep drop fuel left.length (left ++ right)).Perm (left ++ right.filter fun x => !drop x) := by
  induction fuel generalizing left right with
  | zero =>
      obtain rfl : right = [] := List.eq_nil_of_length_eq_zero (by omega)
      exact .refl _
  | succ fuel ih =>
      cases right with
      | nil => simp [sweep]
      | cons x right =>
          have hAt : (left ++ x :: right)[left.length]? = some x := by simp
          have hShort : right.length ≤ fuel := Nat.le_of_succ_le_succ hFuel
          rw [sweep, hAt]
          dsimp only
          by_cases hDrop : drop x = true
          · obtain ⟨rest, hPerm, hMoved⟩ := moveUp_eq left right x
            rw [if_pos hDrop, hMoved, List.filter_cons_of_neg (by simp [hDrop])]
            exact (ih left rest (hPerm.length_eq ▸ hShort)).trans ((hPerm.filter _).append_left left)
          · have hNext := ih (left ++ [x]) right hShort
            rw [List.length_append, List.length_singleton, List.append_assoc, List.append_assoc] at hNext
            rw [if_neg hDrop, List.filter_cons_of_pos (by simp [hDrop])]
            exact hNext

/-- A sweep of the whole list leaves the elements that are not dropped, in some order. -/
theorem sweep_perm (drop : α → Bool) (xs : List α) :
    (sweep drop xs.length 0 xs).Perm (xs.filter fun x => !drop x) :=
  sweep_append drop xs.length [] xs (Nat.le_refl _)

end Sweep
