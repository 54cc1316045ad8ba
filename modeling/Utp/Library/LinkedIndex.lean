import Mathlib.Data.List.Basic
import Mathlib.Data.List.Nodup
import Mathlib.Data.List.Pairwise
import Mathlib.Data.List.Perm.Basic
import Mathlib.Logic.Function.Basic

/-! Singly linked lists threaded through one array of links, where one index is
reserved to end a list, and families of such lists that share the array. -/
namespace LinkedIndex

variable {stop start i : Nat} {next links : Nat → Nat} {l front back : List Nat}

/-- The indices met from `start` by following the links up to the end. -/
def IsChain (next : Nat → Nat) (stop : Nat) : Nat → List Nat → Prop
  | start, [] => start = stop
  | start, i :: rest => start = i ∧ i ≠ stop ∧ IsChain next stop (next i) rest

/-- Only the links of its own indices matter to a list. -/
theorem IsChain.congr (h : IsChain next stop start l) (hEq : ∀ i ∈ l, links i = next i) :
    IsChain links stop start l := by
  induction l generalizing start with
  | nil => exact h
  | cons i rest ih =>
      obtain ⟨hStart, hStop, hRest⟩ := h
      refine ⟨hStart, hStop, ?_⟩
      rw [hEq i List.mem_cons_self]
      exact ih hRest fun j hMem => hEq j (List.mem_cons_of_mem i hMem)

theorem IsChain.update (h : IsChain next stop start l) (hNot : i ∉ l) (x : Nat) :
    IsChain (Function.update next i x) stop start l :=
  h.congr fun _ hMem => Function.update_of_ne (ne_of_mem_of_not_mem hMem hNot) x next

/-- A free index is linked in front of a list. -/
theorem IsChain.push (h : IsChain next stop start l) (hNot : i ∉ l) (hStop : i ≠ stop) :
    IsChain (Function.update next i start) stop i (i :: l) := by
  refine ⟨rfl, hStop, ?_⟩
  rw [Function.update_self]
  exact h.update hNot start

/-- The rest of a list is a list of its own. -/
theorem IsChain.suffix (h : IsChain next stop start (front ++ i :: back)) :
    IsChain next stop (next i) back := by
  induction front generalizing start with
  | nil => exact h.2.2
  | cons j front ih => exact ih h.2.2

/-- The index before another one is linked past it. -/
theorem IsChain.unlink {j : Nat} (h : IsChain next stop start (front ++ j :: i :: back))
    (hNodup : (front ++ j :: i :: back).Nodup) :
    IsChain (Function.update next j (next i)) stop start (front ++ j :: back) := by
  induction front generalizing start with
  | nil =>
      obtain ⟨hStart, hStop, -, -, hRest⟩ := h
      have hNot : j ∉ i :: back := (List.nodup_cons.1 hNodup).1
      refine ⟨hStart, hStop, ?_⟩
      rw [Function.update_self]
      exact hRest.update (fun hMem => hNot (List.mem_cons_of_mem i hMem)) (next i)
  | cons k front ih =>
      obtain ⟨hStart, hStop, hRest⟩ := h
      obtain ⟨hNot, hTail⟩ := List.nodup_cons.1 hNodup
      refine ⟨hStart, hStop, ?_⟩
      rw [Function.update_of_ne (fun hEq => hNot (by simp [hEq]))]
      exact ih hRest hTail

/-- All the indices of the first `n` lists of a family. -/
def gather (lists : Nat → List Nat) (n : Nat) : List Nat := (List.range n).flatMap lists

theorem mem_gather {lists : Nat → List Nat} {n : Nat} : i ∈ gather lists n ↔ ∃ b < n, i ∈ lists b := by
  simp [gather]

theorem gather_congr {lists lists' : Nat → List Nat} {n : Nat} (h : ∀ b < n, lists b = lists' b) :
    gather lists n = gather lists' n := by
  refine List.flatMap_congr fun b hMem => h b ?_
  simpa using hMem

theorem gather_nodup {lists : Nat → List Nat} {n b : Nat} (hNodup : (gather lists n).Nodup) (hb : b < n) :
    (lists b).Nodup :=
  (List.nodup_flatMap.1 hNodup).1 b (List.mem_range.2 hb)

/-- An index of one list is in no other one. -/
theorem gather_unique {lists : Nat → List Nat} {n b c : Nat} (hNodup : (gather lists n).Nodup) (hb : b < n)
    (hc : c < n) (hi : i ∈ lists b) (hj : i ∈ lists c) : b = c := by
  by_contra hNe
  have hPair := (List.nodup_flatMap.1 hNodup).2
  have hSym : Std.Symm (Function.onFun List.Disjoint lists) := ⟨fun _ _ hDisjoint _ hLeft hRight => hDisjoint hRight hLeft⟩
  exact hPair.forall (List.mem_range.2 hb) (List.mem_range.2 hc) hNe hi hj

/-- One list of a family loses an index. -/
theorem gather_update {lists : Nat → List Nat} {n b : Nat} (hb : b < n) {short : List Nat}
    (hSplit : (lists b).Perm (i :: short)) :
    (gather lists n).Perm (i :: gather (Function.update lists b short) n) := by
  induction n with
  | zero => omega
  | succ n ih =>
      have hUnfold : ∀ f : Nat → List Nat, gather f (n + 1) = gather f n ++ f n := by
        intro f
        simp [gather, List.range_succ]
      rw [hUnfold, hUnfold]
      by_cases hLast : b = n
      · subst hLast
        have hOthers : gather (Function.update lists b short) b = gather lists b := by
          refine gather_congr fun c hc => ?_
          rw [Function.update_of_ne (by omega)]
        rw [Function.update_self, hOthers]
        exact (hSplit.append_left (gather lists b)).trans List.perm_middle
      · rw [Function.update_of_ne (Ne.symm hLast)]
        exact (ih (by omega)).append_right (lists n)

/-- One list of a family gets an index in front. -/
theorem gather_push {lists : Nat → List Nat} {n b : Nat} (hb : b < n) :
    (gather (Function.update lists b (i :: lists b)) n).Perm (i :: gather lists n) := by
  have hSplit : (Function.update lists b (i :: lists b) b).Perm (i :: lists b) := by
    rw [Function.update_self]
  have hPerm := gather_update hb hSplit
  rwa [Function.update_idem, Function.update_eq_self] at hPerm

end LinkedIndex
