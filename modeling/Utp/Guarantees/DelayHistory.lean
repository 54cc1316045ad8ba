import Utp.Socket.State
import Utp.Library.LeastSlot
import Mathlib.Data.List.GetD

/-! The delay history is a sliding minimum. It is compared with a history that
keeps integers, which do not wrap. -/
namespace Utp

open Wrapping LeastSlot

/-- A delay history over the integers. -/
structure IntHist where
  delayBase : Int
  curDelayHist : List Int
  curDelayIdx : Nat
  delayBaseHist : List Int
  delayBaseIdx : Nat
  delayBaseTime : Nat
  delayBaseInitialized : Bool

/-- What is done to a history. -/
inductive HistOp where
  | clear (currentMs : Nat)
  | addSample (sample : Int) (currentMs : Nat)
  | shift (offset : Int)

namespace IntHist

def clear (currentMs : Nat) : IntHist where
  delayBase := 0
  curDelayHist := List.replicate curDelaySize 0
  curDelayIdx := 0
  delayBaseHist := List.replicate delayBaseHistory 0
  delayBaseIdx := 0
  delayBaseTime := currentMs
  delayBaseInitialized := false

def shift (offset : Int) (w : IntHist) : IntHist :=
  { w with
    delayBaseHist := w.delayBaseHist.map fun base => base + offset
    delayBase := w.delayBase + offset }

def fillHistory (sample : Int) (w : IntHist) : IntHist :=
  if w.delayBaseInitialized then w
  else
    { w with
      delayBaseHist := w.delayBaseHist.map fun _ => sample
      delayBase := sample
      delayBaseInitialized := true }

/-- A new slot is opened once a minute. -/
def stepBase (sample : Int) (currentMs : Nat) (w : IntHist) : IntHist :=
  if u64 (currentMs - w.delayBaseTime) > 60 * 1000 then
    let idx := (w.delayBaseIdx + 1) % delayBaseHistory
    let hist := w.delayBaseHist.set idx sample
    { w with
      delayBaseTime := currentMs
      delayBaseIdx := idx
      delayBaseHist := hist
      delayBase := lower (hist.getD 0 0) hist }
  else w

/-- A sample that has been recorded; the slot of this minute and the base are lowered to it. -/
def record (sample : Int) (w : IntHist) : IntHist :=
  let hist := if sample < w.delayBaseHist.getD w.delayBaseIdx 0
    then w.delayBaseHist.set w.delayBaseIdx sample else w.delayBaseHist
  let base := if sample < w.delayBase then sample else w.delayBase
  { w with
    delayBaseHist := hist
    delayBase := base
    curDelayHist := w.curDelayHist.set w.curDelayIdx (sample - base)
    curDelayIdx := (w.curDelayIdx + 1) % curDelaySize }

def addSample (sample : Int) (currentMs : Nat) (w : IntHist) : IntHist :=
  ((w.fillHistory sample).record sample).stepBase sample currentMs

def perform (op : HistOp) (w : IntHist) : IntHist :=
  match op with
  | .clear currentMs => clear currentMs
  | .addSample sample currentMs => w.addSample sample currentMs
  | .shift offset => w.shift offset

/-- The history as it is stored, modulo 2^32. -/
def stored (w : IntHist) : DelayHist where
  delayBase := u32 w.delayBase
  curDelayHist := w.curDelayHist.map u32
  curDelayIdx := w.curDelayIdx
  delayBaseHist := w.delayBaseHist.map u32
  delayBaseIdx := w.delayBaseIdx
  delayBaseTime := w.delayBaseTime
  delayBaseInitialized := w.delayBaseInitialized

/-- The values that a sample meets lie in an interval of length less than 2^31. The slots mean
nothing before the first sample. -/
def Near (sample : Int) (w : IntHist) : Prop :=
  w.delayBaseInitialized = true → ∃ low : Int,
    ∀ x ∈ sample :: w.delayBase :: w.delayBaseHist, low ≤ x ∧ x < low + 2147483648

def Admits (op : HistOp) (w : IntHist) : Prop :=
  match op with
  | .addSample sample _ => w.Near sample
  | _ => True

/-- The slots are in place, the base is the least of them, and no delay is negative. -/
structure Sound (w : IntHist) : Prop where
  slots : w.delayBaseHist.length = delayBaseHistory
  idx : w.delayBaseIdx < delayBaseHistory
  recent : w.curDelayHist.length = curDelaySize
  recentIdx : w.curDelayIdx < curDelaySize
  least : w.delayBaseInitialized = true → Least w.delayBaseHist w.delayBase
  delays : ∀ delay ∈ w.curDelayHist, 0 ≤ delay ∧ delay < 2147483648

end IntHist

namespace DelayHist

/-- The same operation on the stored history. -/
def perform (op : HistOp) (h : DelayHist) : DelayHist :=
  match op with
  | .clear currentMs => clear currentMs
  | .addSample sample currentMs => h.addSample (u32 sample) currentMs
  | .shift offset => h.shift (u32 offset)

end DelayHist

/-- Numbers that are close compare as integers do. -/
theorem wrappingCompareLess_u32 {x y : Int} (hLow : -2147483648 < x - y) (hHigh : x - y < 2147483648) :
    wrappingCompareLess (u32 x) (u32 y) timestampMask = decide (x < y) := by
  have hMask : ((timestampMask : Nat) : Int) + 1 = 4294967296 := rfl
  unfold wrappingCompareLess u32
  dsimp only
  rw [hMask]
  refine decide_eq_decide.2 ?_
  omega

theorem u32_zero : u32 0 = 0 := by
  unfold u32
  rfl

namespace IntHist

variable {w : IntHist} {sample low : Int}

theorem sound_clear (currentMs : Nat) : (clear currentMs).Sound := by
  refine ⟨List.length_replicate .., Nat.zero_lt_succ _, List.length_replicate .., Nat.zero_lt_succ _, nofun, fun delay hMem => ?_⟩
  rw [List.eq_of_mem_replicate hMem]
  decide

theorem Sound.shifted (h : w.Sound) (offset : Int) : (w.shift offset).Sound := by
  refine ⟨(List.length_map ..).trans h.slots, h.idx, h.recent, h.recentIdx, fun hInit => ?_, h.delays⟩
  have hMono : Monotone fun base : Int => base + offset := fun x y hLe => by
    change x + offset ≤ y + offset
    omega
  exact (h.least hInit).map hMono

theorem Sound.filled (h : w.Sound) (sample : Int) : (w.fillHistory sample).Sound ∧
    (w.fillHistory sample).delayBaseInitialized = true := by
  unfold fillHistory
  split_ifs with hInit
  · exact ⟨h, hInit⟩
  · refine ⟨⟨(List.length_map ..).trans h.slots, h.idx, h.recent, h.recentIdx, fun _ => ?_, h.delays⟩, rfl⟩
    refine Least.const fun hNil => ?_
    have hLength := h.slots
    rw [hNil] at hLength
    cases hLength

/-- The values that meet the first sample are that sample. -/
theorem Near.filled (hNear : w.Near sample) : ∃ low : Int,
    ∀ x ∈ sample :: (w.fillHistory sample).delayBase :: (w.fillHistory sample).delayBaseHist,
      low ≤ x ∧ x < low + 2147483648 := by
  unfold fillHistory
  split_ifs with hInit
  · exact hNear hInit
  · refine ⟨sample, fun x hMem => ?_⟩
    have hSame : x = sample := by
      simp only [List.mem_cons, List.mem_map] at hMem
      rcases hMem with hEq | hEq | ⟨-, -, hEq⟩
      · exact hEq
      · exact hEq
      · exact hEq.symm
    omega

theorem getElem_idx (h : w.Sound) : w.delayBaseHist[w.delayBaseIdx]? = some (w.delayBaseHist.getD w.delayBaseIdx 0) := by
  have hLt : w.delayBaseIdx < w.delayBaseHist.length := by
    rw [h.slots]
    exact h.idx
  rw [List.getD_eq_getElem _ _ hLt]
  exact List.getElem?_eq_getElem hLt

/-- The recorded delay is the sample less the base. -/
theorem Sound.recorded (h : w.Sound) (hInit : w.delayBaseInitialized = true)
    (hNear : ∀ x ∈ sample :: w.delayBase :: w.delayBaseHist, low ≤ x ∧ x < low + 2147483648) :
    (w.record sample).Sound := by
  have hSample := hNear sample List.mem_cons_self
  have hBase := hNear w.delayBase (List.mem_cons_of_mem _ List.mem_cons_self)
  refine ⟨?_, h.idx, (List.length_set ..).trans h.recent, Nat.mod_lt _ (by decide),
    fun _ => (h.least hInit).lowered (getElem_idx h), fun delay hMem => ?_⟩
  · unfold record
    dsimp only
    split_ifs
    · exact (List.length_set ..).trans h.slots
    · exact h.slots
  · rcases List.mem_or_eq_of_mem_set hMem with hOld | rfl
    · exact h.delays delay hOld
    · split_ifs with hLt <;> omega

theorem Sound.stepped (h : w.Sound) (sample : Int) (currentMs : Nat) : (w.stepBase sample currentMs).Sound := by
  unfold stepBase
  dsimp only
  split_ifs
  · have hLength : (w.delayBaseHist.set ((w.delayBaseIdx + 1) % delayBaseHistory) sample).length =
        delayBaseHistory := (List.length_set ..).trans h.slots
    refine ⟨hLength, Nat.mod_lt _ (by decide), h.recent, h.recentIdx, fun _ => least_lower ?_, h.delays⟩
    rw [List.getD_eq_getElem _ _ (by rw [hLength]; decide)]
    exact List.getElem_mem _
  · exact h

/-- Every operation keeps the history sound. -/
theorem Sound.performed (h : w.Sound) {op : HistOp} (hAdmits : w.Admits op) : (w.perform op).Sound := by
  cases op with
  | clear currentMs => exact sound_clear currentMs
  | shift offset => exact h.shifted offset
  | addSample sample currentMs =>
      obtain ⟨low, hNear⟩ := Near.filled hAdmits
      obtain ⟨hFilled, hInit⟩ := h.filled sample
      exact (hFilled.recorded hInit hNear).stepped sample currentMs

theorem stored_clear (currentMs : Nat) : (clear currentMs).stored = DelayHist.clear currentMs := by
  simp [stored, clear, DelayHist.clear, u32_zero]

theorem stored_shift (w : IntHist) (offset : Int) : w.stored.shift (u32 offset) = (w.shift offset).stored := by
  have hAdd : ∀ x : Int, u32 (u32 x + u32 offset) = u32 (x + offset) := fun x => by
    unfold u32
    omega
  unfold stored DelayHist.shift shift
  simp only [List.bind_eq_flatMap, List.pure_def, List.flatMap_map, List.map_map, Function.comp_def, hAdd,
    ← List.map_eq_flatMap]

theorem stored_fillHistory (w : IntHist) (sample : Int) :
    w.stored.fillHistory (u32 sample) = (w.fillHistory sample).stored := by
  unfold DelayHist.fillHistory fillHistory
  change (if w.delayBaseInitialized = true then _ else _) = _
  split_ifs
  · rfl
  · unfold stored
    simp only [List.map_map, Function.comp_def]

/-- The walk over the stored slots finds the slot that the walk over the integers finds. -/
theorem foldl_stored {seed : Int} (slots : List Int)
    (hNear : ∀ x ∈ seed :: slots, low ≤ x ∧ x < low + 2147483648) :
    (slots.map u32).foldl (fun (base entry : Nat) =>
        if wrappingCompareLess entry base timestampMask then entry else base) (u32 seed) =
      u32 (lower seed slots) := by
  induction slots generalizing seed with
  | nil => rfl
  | cons x slots ih =>
      have hSeed := hNear seed List.mem_cons_self
      have hx := hNear x (List.mem_cons_of_mem _ List.mem_cons_self)
      have hLess : wrappingCompareLess (u32 x) (u32 seed) timestampMask = decide (x < seed) :=
        wrappingCompareLess_u32 (by omega) (by omega)
      have hNext : lower seed (x :: slots) = lower (if x < seed then x else seed) slots := rfl
      rw [List.map_cons, List.foldl_cons, hLess, hNext]
      have hStep : (if decide (x < seed) = true then u32 x else u32 seed) =
          u32 (if x < seed then x else seed) := by
        split_ifs <;> simp_all
      rw [hStep]
      refine ih fun y hMem => ?_
      rcases List.mem_cons.1 hMem with rfl | hIn
      · split_ifs
        · exact hx
        · exact hSeed
      · exact hNear y (List.mem_cons_of_mem _ (List.mem_cons_of_mem _ hIn))

/-- What `add_sample` does before it looks at the clock. -/
theorem stored_record (h : w.Sound)
    (hNear : ∀ x ∈ sample :: w.delayBase :: w.delayBaseHist, low ≤ x ∧ x < low + 2147483648) :
    (w.record sample).stored =
      { w.stored with
        delayBaseHist := if wrappingCompareLess (u32 sample) (w.stored.delayBaseHist.getD w.delayBaseIdx 0)
          timestampMask then w.stored.delayBaseHist.set w.delayBaseIdx (u32 sample) else w.stored.delayBaseHist
        delayBase := if wrappingCompareLess (u32 sample) w.stored.delayBase timestampMask
          then u32 sample else w.stored.delayBase
        curDelayHist := w.stored.curDelayHist.set w.curDelayIdx
          (u32 (u32 sample - (if wrappingCompareLess (u32 sample) w.stored.delayBase timestampMask
            then u32 sample else w.stored.delayBase : Nat)))
        curDelayIdx := (w.curDelayIdx + 1) % curDelaySize } := by
  have hSample := hNear sample List.mem_cons_self
  have hBase := hNear w.delayBase (List.mem_cons_of_mem _ List.mem_cons_self)
  have hSlot := hNear _ (List.mem_cons_of_mem _ (List.mem_cons_of_mem _ (List.mem_of_getElem? (getElem_idx h))))
  have hGet : w.stored.delayBaseHist.getD w.delayBaseIdx 0 = u32 (w.delayBaseHist.getD w.delayBaseIdx 0) := by
    rw [← u32_zero]
    exact List.getD_map ..
  have hBaseLess : wrappingCompareLess (u32 sample) (u32 w.delayBase) timestampMask =
      decide (sample < w.delayBase) := wrappingCompareLess_u32 (by omega) (by omega)
  have hSlotLess : wrappingCompareLess (u32 sample) (u32 (w.delayBaseHist.getD w.delayBaseIdx 0)) timestampMask =
      decide (sample < w.delayBaseHist.getD w.delayBaseIdx 0) := wrappingCompareLess_u32 (by omega) (by omega)
  have hSub : ∀ x : Int, u32 (u32 sample - u32 x) = u32 (sample - x) := fun x => by
    unfold u32
    omega
  have hNewBase : (if decide (sample < w.delayBase) = true then u32 sample else u32 w.delayBase) =
      u32 (if sample < w.delayBase then sample else w.delayBase) := by
    split_ifs <;> simp_all
  have hNewHist : (if decide (sample < w.delayBaseHist.getD w.delayBaseIdx 0) = true
        then (w.delayBaseHist.map u32).set w.delayBaseIdx (u32 sample) else w.delayBaseHist.map u32) =
      (if sample < w.delayBaseHist.getD w.delayBaseIdx 0
        then w.delayBaseHist.set w.delayBaseIdx sample else w.delayBaseHist).map u32 := by
    rw [apply_ite (List.map u32), List.map_set]
    exact if_congr decide_eq_true_iff rfl rfl
  rw [hGet, hSlotLess]
  unfold stored record
  dsimp only
  rw [hBaseLess, hNewBase, hNewHist, hSub, List.map_set]

theorem near_of_record (hNear : ∀ x ∈ sample :: w.delayBase :: w.delayBaseHist, low ≤ x ∧ x < low + 2147483648) :
    ∀ x ∈ sample :: (w.record sample).delayBaseHist, low ≤ x ∧ x < low + 2147483648 := by
  intro x hMem
  rcases List.mem_cons.1 hMem with rfl | hIn
  · exact hNear x List.mem_cons_self
  · have hOld : x ∈ w.delayBaseHist ∨ x = sample := by
      unfold record at hIn
      dsimp only at hIn
      split_ifs at hIn
      · exact List.mem_or_eq_of_mem_set hIn
      · exact Or.inl hIn
    rcases hOld with hKept | rfl
    · exact hNear x (List.mem_cons_of_mem _ (List.mem_cons_of_mem _ hKept))
    · exact hNear x List.mem_cons_self

/-- The base is recomputed over the stored slots as over the integers. -/
theorem stored_stepBase (h : w.Sound) (currentMs : Nat)
    (hNear : ∀ x ∈ sample :: w.delayBaseHist, low ≤ x ∧ x < low + 2147483648) :
    w.stored.stepBase (u32 sample) currentMs = (w.stepBase sample currentMs).stored := by
  unfold DelayHist.stepBase stepBase
  dsimp only
  change (if u64 (currentMs - w.delayBaseTime) > 60 * 1000 then _ else _) = _
  split_ifs
  · have hHist : w.stored.delayBaseHist.set ((w.delayBaseIdx + 1) % delayBaseHistory) (u32 sample) =
        (w.delayBaseHist.set ((w.delayBaseIdx + 1) % delayBaseHistory) sample).map u32 := List.map_set.symm
    have hLength : (w.delayBaseHist.set ((w.delayBaseIdx + 1) % delayBaseHistory) sample).length =
        delayBaseHistory := (List.length_set ..).trans h.slots
    have hIn : ∀ x ∈ w.delayBaseHist.set ((w.delayBaseIdx + 1) % delayBaseHistory) sample,
        low ≤ x ∧ x < low + 2147483648 := by
      intro x hMem
      rcases List.mem_or_eq_of_mem_set hMem with hOld | rfl
      · exact hNear x (List.mem_cons_of_mem _ hOld)
      · exact hNear x List.mem_cons_self
    change ({ w.stored with
      delayBaseTime := currentMs
      delayBaseIdx := (w.delayBaseIdx + 1) % delayBaseHistory
      delayBaseHist := w.stored.delayBaseHist.set ((w.delayBaseIdx + 1) % delayBaseHistory) (u32 sample)
      delayBase := (w.stored.delayBaseHist.set ((w.delayBaseIdx + 1) % delayBaseHistory) (u32 sample)).foldl
        (fun (base entry : Nat) => if wrappingCompareLess entry base timestampMask then entry else base)
        ((w.stored.delayBaseHist.set ((w.delayBaseIdx + 1) % delayBaseHistory) (u32 sample)).getD 0 0) } : DelayHist) = _
    rw [hHist]
    generalize w.delayBaseHist.set ((w.delayBaseIdx + 1) % delayBaseHistory) sample = slots at hLength hIn
    have hFirst : 0 < slots.length := by
      rw [hLength]
      decide
    have hZero : (slots.map u32).getD 0 0 = u32 (slots.getD 0 0) := by
      nth_rewrite 2 [← u32_zero]
      exact List.getD_map ..
    have hSeed : slots.getD 0 0 ∈ slots := by
      rw [List.getD_eq_getElem _ _ hFirst]
      exact List.getElem_mem _
    rw [hZero, foldl_stored slots]
    · rfl
    · intro x hMem
      rcases List.mem_cons.1 hMem with rfl | hOther
      · exact hIn _ hSeed
      · exact hIn x hOther
  · rfl

/-- One operation on the stored history is the operation on the integers. -/
theorem stored_perform (h : w.Sound) {op : HistOp} (hAdmits : w.Admits op) :
    w.stored.perform op = (w.perform op).stored := by
  cases op with
  | clear currentMs => exact (stored_clear currentMs).symm
  | shift offset => exact stored_shift w offset
  | addSample sample currentMs =>
      obtain ⟨low, hNear⟩ := Near.filled hAdmits
      obtain ⟨hFilled, hInit⟩ := h.filled sample
      have hRecord := stored_record hFilled hNear
      have hStep := stored_stepBase (hFilled.recorded hInit hNear) currentMs (near_of_record hNear)
      change w.stored.addSample (u32 sample) currentMs = _
      unfold DelayHist.addSample
      rw [stored_fillHistory]
      rw [hRecord] at hStep
      exact hStep

/-- Carry out a list of operations in a run whose samples all are near the history. -/
inductive Run : IntHist → List HistOp → IntHist → Prop where
  | nil (w : IntHist) : Run w [] w
  | cons {w w' : IntHist} {ops : List HistOp} (op : HistOp) (hAdmits : w.Admits op)
      (hRest : Run (w.perform op) ops w') : Run w (op :: ops) w'

end IntHist

/-- The stored history is the history over the integers modulo 2^32, its base is the least of its
slots, and the delays are those of the integers. -/
structure SlidingMinimum (h : DelayHist) (w : IntHist) : Prop where
  base : h.delayBase = u32 w.delayBase
  slots : h.delayBaseHist = w.delayBaseHist.map u32
  delays : h.curDelayHist = w.curDelayHist.map u32
  count : w.delayBaseHist.length = delayBaseHistory
  least : w.delayBaseInitialized = true → IsLeast {x | x ∈ w.delayBaseHist} w.delayBase
  small : ∀ delay ∈ w.curDelayHist, 0 ≤ delay ∧ delay < 2147483648

/-- The base at the moment when the delay of a sample is recorded. -/
def IntHist.baseAt (sample : Int) (w : IntHist) : Int :=
  if w.delayBaseInitialized then min w.delayBase sample else sample

theorem IntHist.Run.stored {w w' : IntHist} {ops : List HistOp} (hRun : IntHist.Run w ops w') (h : w.Sound) :
    w'.Sound ∧ ops.foldl (fun h op => h.perform op) w.stored = w'.stored := by
  induction hRun with
  | nil w => exact ⟨h, rfl⟩
  | cons op hAdmits hRest ih =>
      obtain ⟨hEnd, hSame⟩ := ih (h.performed hAdmits)
      refine ⟨hEnd, ?_⟩
      rw [List.foldl_cons, IntHist.stored_perform h hAdmits]
      exact hSame

/-- The delay that is recorded for a sample. -/
theorem IntHist.recorded_addSample {w : IntHist} (h : w.Sound) (sample : Int) (currentMs : Nat) :
    (w.addSample sample currentMs).curDelayHist[w.curDelayIdx]? = some (sample - w.baseAt sample) := by
  have hStep : (w.addSample sample currentMs).curDelayHist =
      ((w.fillHistory sample).record sample).curDelayHist := by
    unfold addSample stepBase
    dsimp only
    split_ifs <;> rfl
  have hLt : w.curDelayIdx < w.curDelayHist.length := by
    rw [h.recent]
    exact h.recentIdx
  rw [hStep]
  unfold fillHistory baseAt
  split_ifs with hInit
  · refine (List.getElem?_set_self hLt).trans (congrArg (fun base => some (sample - base)) ?_)
    show (if sample < w.delayBase then sample else w.delayBase) = min w.delayBase sample
    omega
  · refine (List.getElem?_set_self hLt).trans (congrArg (fun base => some (sample - base)) ?_)
    change (if sample < sample then sample else sample) = sample
    exact ite_self sample

/-- In every run whose samples stay near the history, the stored history is a sliding minimum;
and the delay that is recorded for a further such sample is the sample less the base. -/
theorem delay_hist_sliding_minimum (currentMs : Nat) (ops : List HistOp) (w : IntHist)
    (hRun : IntHist.Run (IntHist.clear currentMs) ops w) :
    SlidingMinimum (ops.foldl (fun h op => h.perform op) (DelayHist.clear currentMs)) w ∧
      ∀ sample now, w.Near sample → 0 ≤ sample - w.baseAt sample ∧ sample - w.baseAt sample < 2147483648 ∧
        ((ops.foldl (fun h op => h.perform op) (DelayHist.clear currentMs)).addSample (u32 sample)
          now).curDelayHist[w.curDelayIdx]? = some (sample - w.baseAt sample).toNat := by
  obtain ⟨hSound, hStored⟩ := hRun.stored (IntHist.sound_clear currentMs)
  rw [IntHist.stored_clear] at hStored
  rw [hStored]
  refine ⟨⟨rfl, rfl, rfl, hSound.slots, hSound.least, hSound.delays⟩, fun sample now hNear => ?_⟩
  have hAdmits : w.Admits (.addSample sample now) := hNear
  have hNext := hSound.performed hAdmits
  have hGet := IntHist.recorded_addSample hSound sample now
  obtain ⟨hLow, hHigh⟩ := hNext.delays _ (List.mem_of_getElem? hGet)
  refine ⟨hLow, hHigh, ?_⟩
  have hSame := IntHist.stored_perform hSound hAdmits
  change w.stored.addSample (u32 sample) now = (w.addSample sample now).stored at hSame
  rw [hSame]
  change ((w.addSample sample now).curDelayHist.map u32)[w.curDelayIdx]? = _
  rw [List.getElem?_map, hGet]
  refine congrArg some ?_
  unfold u32
  omega

/-- Two samples around the wrap of the stored numbers. -/
theorem delay_hist_sliding_minimum_wrapped : SlidingMinimum
    (((DelayHist.clear 0).addSample 1 0).addSample 4294967295 0)
    (((IntHist.clear 0).addSample 4294967297 0).addSample 4294967295 0) := by
  have hRun : IntHist.Run (IntHist.clear 0) [.addSample 4294967297 0, .addSample 4294967295 0]
      (((IntHist.clear 0).addSample 4294967297 0).addSample 4294967295 0) := by
    refine .cons _ nofun (.cons _ (fun _ => ⟨4294967295, ?_⟩) (.nil _))
    decide +kernel
  have hFirst : u32 4294967297 = 1 := by unfold u32; rfl
  have hSecond : u32 4294967295 = 4294967295 := by unfold u32; rfl
  have hBoth := (delay_hist_sliding_minimum 0 _ _ hRun).1
  simp only [List.foldl_cons, List.foldl_nil, DelayHist.perform, hFirst, hSecond] at hBoth
  exact hBoth

end Utp
