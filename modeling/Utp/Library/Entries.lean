import Mathlib.Data.List.Basic
import Mathlib.Data.List.Induction

/-! Conditions on the entries of a record, each with what was recorded before it. -/
variable {ε α : Type}

/-- An entry of two records in a row is one of the first or one of the second. -/
theorem split_append {first second pre post : List ε} {e : ε} (h : first ++ second = pre ++ e :: post) :
    (∃ mid, pre = first ++ mid ∧ second = mid ++ e :: post) ∨
      ∃ rest, first = pre ++ e :: rest ∧ post = rest ++ second := by
  rcases List.append_eq_append_iff.1 h with ⟨mid, hPre, hSecond⟩ | ⟨rest, hFirst, hRest⟩
  · exact Or.inl ⟨mid, hPre, hSecond⟩
  · cases rest with
    | nil => exact Or.inl ⟨[], by rw [hFirst, List.append_nil, List.append_nil], hRest.symm⟩
    | cons e' rest =>
        rw [List.cons_append] at hRest
        obtain ⟨rfl, hPost⟩ := List.cons.inj hRest
        exact Or.inr ⟨rest, hFirst, hPost⟩

/-- Every entry that `select` picks meets a condition on what stands before it. -/
def EachEntry (select : ε → Option α) (P : List ε → α → Prop) (log : List ε) : Prop :=
  ∀ pre e post a, log = pre ++ e :: post → select e = some a → P pre a

namespace EachEntry

variable {select : ε → Option α} {P Q : List ε → α → Prop} {log : List ε}

theorem nil : EachEntry select P [] := by
  intro pre e post a hSplit
  simp at hSplit

theorem append_iff {e : ε} : EachEntry select P (log ++ [e]) ↔
    EachEntry select P log ∧ ∀ a, select e = some a → P log a := by
  constructor
  · intro h
    refine ⟨fun pre e' post a hSplit => ?_, fun a => ?_⟩
    · exact h pre e' (post ++ [e]) a (by simp [hSplit])
    · exact h log e [] a rfl
  · rintro ⟨hOld, hNew⟩ pre e' post a hSplit
    rcases List.eq_nil_or_concat post with rfl | ⟨post, last, rfl⟩
    · obtain ⟨rfl, hLast⟩ := List.append_inj' hSplit rfl
      rw [← (List.cons.inj hLast).1]
      exact hNew a
    · rw [List.concat_eq_append, ← List.cons_append, ← List.append_assoc] at hSplit
      exact hOld pre e' post a (List.append_inj' hSplit rfl).1

/-- Entries that are not picked do not matter. -/
theorem append_other {events : List ε} (hNone : ∀ e ∈ events, select e = none) :
    EachEntry select P (log ++ events) ↔ EachEntry select P log := by
  induction events using List.reverseRecOn with
  | nil => rw [List.append_nil]
  | append_singleton events e ih =>
      have hLast : select e = none := hNone e (List.mem_append_right _ (List.mem_singleton_self e))
      rw [← List.append_assoc, append_iff, ih fun e' he' => hNone e' (List.mem_append_left _ he')]
      simp [hLast]

theorem congr (h : EachEntry select (fun pre a => P pre a ↔ Q pre a) log) :
    EachEntry select P log ↔ EachEntry select Q log :=
  ⟨fun hP pre e post a hSplit hPick => (h pre e post a hSplit hPick).1 (hP pre e post a hSplit hPick),
    fun hQ pre e post a hSplit hPick => (h pre e post a hSplit hPick).2 (hQ pre e post a hSplit hPick)⟩

/-- A record may be thinned if neither the entries that are picked nor the condition are
affected. -/
theorem filter_iff {keep : ε → Bool} (hKeep : ∀ e, keep e = false → select e = none)
    (hSame : ∀ pre a, P (pre.filter keep) a ↔ P pre a) :
    EachEntry select P (log.filter keep) ↔ EachEntry select P log := by
  induction log using List.reverseRecOn with
  | nil => exact Iff.rfl
  | append_singleton log e ih =>
      rw [List.filter_append]
      cases hKept : keep e with
      | true =>
          have hLast : [e].filter keep = [e] := by simp [hKept]
          rw [hLast, append_iff, append_iff, ih]
          simp only [hSame]
      | false =>
          have hGone : [e].filter keep = [] := by simp [hKept]
          have hOther : ∀ e' ∈ [e], select e' = none := by
            intro e' he'
            rw [List.mem_singleton.1 he', hKeep e hKept]
          rw [hGone, List.append_nil, append_other hOther, ih]

/-- The condition as a test. -/
def check (select : ε → Option α) (ok : List ε → α → Bool) (log : List ε) : Bool :=
  (List.range log.length).all fun k =>
    match log.drop k with
    | [] => true
    | e :: _ => (select e).all (ok (log.take k))

theorem check_iff {ok : List ε → α → Bool} :
    check select ok log = true ↔ EachEntry select (fun pre a => ok pre a = true) log := by
  unfold check
  rw [List.all_eq_true]
  constructor
  · rintro h pre e post a rfl hPick
    have hHere := h pre.length (List.mem_range.2 (by simp))
    rw [List.drop_left, List.take_left] at hHere
    simpa [hPick] using hHere
  · intro h k _
    cases hDrop : log.drop k with
    | nil => rfl
    | cons e post =>
        change (select e).all (ok (log.take k)) = true
        cases hPick : select e with
        | none => rfl
        | some a =>
            refine h _ e post a ?_ hPick
            rw [← hDrop, List.take_append_drop]

end EachEntry
