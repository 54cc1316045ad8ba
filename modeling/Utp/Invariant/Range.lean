import Utp.Transition.Search
import Utp.Invariant.Fate

/-! The invariant of the MTU search: its range stays within the MTU of the interface,
every verdict makes it smaller, and truthful verdicts keep the path MTU inside. -/
namespace Utp

open Wrapping

namespace MtuState

/-- The range of the search lies between `low` and `high`, the size in use lies in the
range, and so does an outstanding probe. -/
structure Sound (low high : Nat) (m : MtuState) : Prop where
  low_le : low ≤ m.floor
  floor_le : m.floor ≤ m.last
  last_le : m.last ≤ m.ceiling
  le_high : m.ceiling ≤ high
  probe : m.probeSeq ≠ 0 → m.floor < m.probeSize ∧ m.probeSize ≤ m.ceiling

variable {low high : Nat} {m : MtuState}

theorem Sound.floor_le_ceiling (h : m.Sound low high) : m.floor ≤ m.ceiling :=
  h.floor_le.trans h.last_le

/-- The floor is reduced only when it is above the ceiling. -/
theorem reduceFloor_of_le (h : m.floor ≤ m.ceiling) : m.reduceFloor = m := by
  unfold reduceFloor
  rw [if_neg (Nat.not_lt.2 h)]

/-- The repair of the range keeps it within the old bounds. -/
theorem reduceFloor_spec (m : MtuState) : m.reduceFloor.floor ≤ m.reduceFloor.ceiling ∧
    m.reduceFloor.ceiling = max m.floor m.ceiling ∧ min m.floor 576 ≤ m.reduceFloor.floor ∧
    m.reduceFloor.floor ≤ m.floor := by
  have hMin : mtuFloorMin = 576 := rfl
  unfold reduceFloor
  split_ifs with hAbove hHigh
  · simp only
    omega
  · simp only
    omega
  · omega

/-- The search goes on in the repaired range, or ends at its floor. -/
theorem searchUpdate_cases (currentMs : Nat) (m : MtuState) :
    (m.searchUpdate currentMs).probeSeq = 0 ∧ (m.searchUpdate currentMs).probeSize = 0 ∧
      (m.searchUpdate currentMs).floor = m.reduceFloor.floor ∧
      ((16 < m.reduceFloor.ceiling - m.reduceFloor.floor ∧
          (m.searchUpdate currentMs).ceiling = m.reduceFloor.ceiling ∧
          (m.searchUpdate currentMs).last = (m.reduceFloor.floor + m.reduceFloor.ceiling) / 2) ∨
        (m.reduceFloor.ceiling - m.reduceFloor.floor ≤ 16 ∧
          (m.searchUpdate currentMs).ceiling = m.reduceFloor.floor ∧
          (m.searchUpdate currentMs).last = m.reduceFloor.floor)) := by
  unfold searchUpdate
  dsimp only
  split_ifs with hNarrow
  · exact ⟨rfl, rfl, rfl, Or.inr ⟨hNarrow, rfl, rfl⟩⟩
  · exact ⟨rfl, rfl, rfl, Or.inl ⟨Nat.not_le.1 hNarrow, rfl, rfl⟩⟩

/-- A step of the search from any range gives a sound one. -/
theorem sound_searchUpdate (currentMs : Nat) (hLow : low ≤ m.floor) (hMin : low ≤ 576)
    (hFloor : m.floor ≤ high) (hHigh : m.ceiling ≤ high) : (m.searchUpdate currentMs).Sound low high := by
  obtain ⟨hProbe, -, hNew, hEnd⟩ := searchUpdate_cases currentMs m
  obtain ⟨hOrder, hCeiling, hAbove, hBelow⟩ := reduceFloor_spec m
  have hTop : m.reduceFloor.ceiling ≤ high := by omega
  constructor
  · omega
  · omega
  · omega
  · omega
  · exact fun hOut => absurd hProbe hOut

theorem searchFailures_eq_nil (currentMs : Nat) (m : MtuState) : m.searchFailures currentMs = [] := by
  obtain ⟨-, -, hNew, hEnd⟩ := searchUpdate_cases currentMs m
  obtain ⟨hOrder, -, -, -⟩ := reduceFloor_spec m
  have hLast : m.reduceFloor.ceiling - m.reduceFloor.floor > 16 ∨
      (m.searchUpdate currentMs).floor ≤ (m.searchUpdate currentMs).ceiling := by omega
  unfold searchFailures failure
  simp [hOrder, hLast]

end MtuState

/-- The packet size is what the search has last, less the header. -/
theorem Conn.getPacketSize_of_sound {low high : Nat} {s : Conn} (h : s.mtu.Sound low high)
    (hLow : 20 ≤ low) (hHigh : high < 65536) : s.getPacketSize + 20 = s.mtu.last := by
  have hFloor := h.low_le.trans h.floor_le
  have hCeiling := h.last_le.trans h.le_high
  have hSize : (u64 (s.mtu.last - 20) : Int) = s.mtu.last - 20 := u64_of_nonneg (by omega) (by omega)
  unfold Conn.getPacketSize
  rw [if_pos (by omega)]
  dsimp only
  omega

/-- Every assertion held, and every verdict made the range smaller. -/
def Event.settles : Event → Bool
  | .mtu .passed before after => after.ceiling - after.floor < before.ceiling - before.floor
  | .mtu .lost before after => after.ceiling - after.floor < before.ceiling - before.floor
  | .assertFailed _ => false
  | _ => true

/-- What a step of a sound search comes to: a sound search, with steps on record that
make the range smaller. -/
structure Advances (low high : Nat) (x x' : Search) : Prop where
  sound : x'.mtu.Sound low high
  notes : ∃ events, x'.notes = x.notes ++ events ∧ ∀ e ∈ events, e.settles = true

namespace Advances

variable {low high : Nat} {x x' : Search}

/-- The search goes on from a range that lies within the bounds. -/
theorem update {step : MtuStep} {moved : MtuState} (hMin : low ≤ 576) (currentMs : Nat)
    (hLow : low ≤ moved.floor) (hFloor : moved.floor ≤ high) (hHigh : moved.ceiling ≤ high)
    (hSettles : (Event.mtu step x.mtu (moved.searchUpdate currentMs)).settles = true) :
    Advances low high x (x.update step moved currentMs) := by
  refine ⟨MtuState.sound_searchUpdate currentMs hLow hMin hFloor hHigh, _, rfl, fun e he => ?_⟩
  rw [MtuState.searchFailures_eq_nil, List.nil_append, List.mem_singleton] at he
  rw [he]
  exact hSettles

/-- A range that is moved inwards gets smaller. -/
theorem shrinks {m moved : MtuState} (currentMs : Nat) (hOrder : moved.floor ≤ moved.ceiling)
    (hLess : moved.ceiling - moved.floor < m.ceiling - m.floor) :
    (moved.searchUpdate currentMs).ceiling - (moved.searchUpdate currentMs).floor <
      m.ceiling - m.floor := by
  obtain ⟨-, -, hNew, hEnd⟩ := MtuState.searchUpdate_cases currentMs moved
  rw [MtuState.reduceFloor_of_le hOrder] at hNew hEnd
  omega

/-- A lost probe was above the floor, so the ceiling stays there too. -/
theorem lost (h : x.mtu.Sound low high) (hMin : low ≤ 576) (hHigh : high < 4294967296)
    (hProbe : x.mtu.probeSeq ≠ 0) (currentMs : Nat) : Advances low high x (x.lost currentMs) := by
  obtain ⟨hAbove, hBelow⟩ := h.probe hProbe
  have hLow := h.low_le
  have hTop := h.le_high
  have hSize : u32 (x.mtu.probeSize - 1) = x.mtu.probeSize - 1 := u32_pred (by omega) (by omega)
  refine update hMin currentMs hLow (by dsimp only; omega) (by dsimp only; omega) ?_
  exact decide_eq_true (shrinks currentMs (by dsimp only; omega) (by dsimp only; omega))

/-- A probe that passed was below the ceiling. -/
theorem passed (h : x.mtu.Sound low high) (hMin : low ≤ 576) (hProbe : x.mtu.probeSeq ≠ 0)
    (currentMs : Nat) : Advances low high x (x.passed currentMs) := by
  obtain ⟨hAbove, hBelow⟩ := h.probe hProbe
  have hLow := h.low_le
  have hTop := h.le_high
  refine update hMin currentMs (by dsimp only; omega) (by dsimp only; omega) hTop ?_
  exact decide_eq_true (shrinks currentMs (by dsimp only; omega) (by dsimp only; omega))

/-- The range after an ICMP message is bounded by the old one. -/
theorem constrained_spec (nextHopMtu : Nat) {m : MtuState} (hOrder : m.floor ≤ m.ceiling) :
    (Search.constrained nextHopMtu m).floor = m.floor ∧
      (Search.constrained nextHopMtu m).ceiling ≤ m.ceiling := by
  unfold Search.constrained
  split_ifs
  · exact ⟨rfl, Nat.min_le_right ..⟩
  · refine ⟨rfl, ?_⟩
    dsimp only
    omega

theorem fragmentation (h : x.mtu.Sound low high) (hMin : low ≤ 576) (nextHopMtu currentMs : Nat) :
    Advances low high x (x.fragmentation nextHopMtu currentMs) := by
  have hOrder := h.floor_le_ceiling
  have hLow := h.low_le
  have hTop := h.le_high
  obtain ⟨hFloor, hCeiling⟩ := constrained_spec nextHopMtu hOrder
  have hSound : ((Search.constrained nextHopMtu x.mtu).searchUpdate currentMs).Sound low high :=
    MtuState.sound_searchUpdate currentMs (by omega) hMin (by omega) (by omega)
  refine ⟨?_, _, rfl, fun e he => ?_⟩
  · change (Search.fragmented nextHopMtu currentMs x.mtu).Sound low high
    unfold Search.fragmented
    dsimp only
    split_ifs
    · exact ⟨hSound.low_le, hSound.floor_le_ceiling, Nat.le_refl _, hSound.le_high, hSound.probe⟩
    · exact hSound
  · rw [MtuState.searchFailures_eq_nil, List.nil_append, List.mem_singleton] at he
    rw [he]
    rfl

theorem probe (h : x.mtu.Sound low high) (seqNr transmissions probeSeq : Nat) {size : Nat}
    (hFloor : x.mtu.floor < size) (hCeiling : size ≤ x.mtu.ceiling) :
    Advances low high x (x.probe seqNr transmissions probeSeq size) := by
  refine ⟨⟨h.low_le, h.floor_le, h.last_le, h.le_high, fun _ => ⟨hFloor, hCeiling⟩⟩, _, rfl, ?_⟩
  intro e he
  simp [failure, hFloor.le, hCeiling] at he
  rw [he]
  rfl

/-- The bounds of the range are kept by every step that does not start the search over. -/
theorem of_seeking (h : x.mtu.Sound low high) (hMin : low ≤ 576) (hHigh : high < 4294967296)
    (hStep : Seeking x x') : Advances low high x x' := by
  have hNone : ∃ events, x.notes = x.notes ++ events ∧ ∀ e ∈ events, e.settles = true :=
    ⟨[], by simp, nofun⟩
  cases hStep with
  | lost currentMs hProbe => exact lost h hMin hHigh hProbe currentMs
  | passed currentMs hProbe => exact passed h hMin hProbe currentMs
  | cleared =>
      exact ⟨⟨h.low_le, h.floor_le, h.last_le, h.le_high, fun hOut => absurd rfl hOut⟩, hNone⟩
  | fragmentation nextHopMtu currentMs => exact fragmentation h hMin nextHopMtu currentMs
  | probe seqNr transmissions probeSeq size hFloor hCeiling =>
      exact probe h seqNr transmissions probeSeq hFloor hCeiling
  | adopt =>
      exact ⟨⟨h.low_le, h.floor_le_ceiling, Nat.le_refl _, h.le_high, h.probe⟩, hNone⟩

end Advances

/-- An ICMP message about a next hop of `m` bytes brings the range below `m` if the floor
is there already, or is so low that the repaired range ends at its new floor. -/
def MtuState.yields (m : Nat) (mtu : MtuState) : Bool :=
  mtu.floor ≤ m || mtu.floor ≤ 608 && (576 + mtu.floor) / 2 ≤ m

/-- The floor halves its distance from 576 if it has passed the ceiling. -/
theorem MtuState.reduceFloor_floor (m : MtuState) : m.reduceFloor.floor =
    if m.floor > m.ceiling ∧ m.floor > 576 then (576 + m.floor) / 2 else m.floor := by
  by_cases hPassed : m.floor > m.ceiling
  · by_cases hHigh : m.floor > 576
    · simp [reduceFloor, hPassed, hHigh]
    · simp [reduceFloor, hPassed, hHigh]
  · simp [reduceFloor, hPassed]

/-- The range after an ICMP message about a sane next hop. -/
theorem Search.fragmented_spec {m : Nat} (hLow : 576 ≤ m) (hHigh : m < 0x2000) (currentMs : Nat)
    (mtu : MtuState) :
    (fragmented m currentMs mtu).last = (fragmented m currentMs mtu).ceiling ∧
      ((fragmented m currentMs mtu).ceiling ≤ m ↔ mtu.yields m = true) ∧
      min 576 mtu.floor ≤ (fragmented m currentMs mtu).floor ∧
      (fragmented m currentMs mtu).floor ≤ (fragmented m currentMs mtu).ceiling ∧
      (fragmented m currentMs mtu).probeSeq = 0 := by
  have hSane : (m ≥ 576 && m < 0x2000) = true := by simp [hLow, hHigh]
  unfold fragmented constrained MtuState.yields
  simp only [hSane, if_true, Bool.or_eq_true, Bool.and_eq_true, decide_eq_true_eq]
  have hMoved : ({ mtu with ceiling := min m mtu.ceiling } : MtuState).floor = mtu.floor ∧
      ({ mtu with ceiling := min m mtu.ceiling } : MtuState).ceiling = min m mtu.ceiling := ⟨rfl, rfl⟩
  generalize ({ mtu with ceiling := min m mtu.ceiling } : MtuState) = moved at *
  obtain ⟨hProbe, -, hFloor, hEnd⟩ := MtuState.searchUpdate_cases currentMs moved
  obtain ⟨hOrder, hCeiling, hAbove, -⟩ := moved.reduceFloor_spec
  have hRepaired := moved.reduceFloor_floor
  refine ⟨trivial, ?_, ?_, ?_, hProbe⟩
  · split_ifs at hRepaired <;> omega
  · omega
  · omega

/-- The search is sound, and so is its record. -/
structure SearchOk (low high : Nat) (x : Search) : Prop where
  sound : x.mtu.Sound low high
  notes : ∀ e ∈ x.notes, e.settles = true

/-- An advance keeps the search and its record sound. -/
theorem SearchOk.advance {low high : Nat} {x x' : Search} (h : SearchOk low high x)
    (hNext : Advances low high x x') : SearchOk low high x' := by
  obtain ⟨hSound, events, hNotes, hNew⟩ := hNext
  refine ⟨hSound, fun e he => ?_⟩
  rw [hNotes] at he
  rcases List.mem_append.1 he with hOld | hLater
  · exact h.notes e hOld
  · exact hNew e hLater

/-- Every reading of the MTU of the interface that was made for a socket gave `mtu`. -/
def ReadsMtu (mtu : Nat) (log : List Event) : Prop :=
  ∀ before after, .mtu .reset before after ∈ log → after.ceiling = mtu

/-- A verdict that is right on a path that passes the packets of at most `p` bytes. A
message about the next hop is no verdict. -/
def Event.truthful (p : Nat) : Event → Bool
  | .mtu .passed before _ => before.probeSize ≤ p
  | .mtu .lost before _ => p < before.probeSize
  | .mtu (.fragmentation _) _ _ => false
  | _ => true

def Event.isReset : Event → Bool
  | .mtu .reset _ _ => true
  | _ => false

/-- The search was started, and every verdict since then was truthful. -/
def tracking (p : Nat) (log : List Event) : Bool :=
  log.foldl (fun ok e => e.isReset || ok && e.truthful p) false

/-- The search brackets `p`, or has ended just below it. -/
def MtuState.Located (p : Nat) (m : MtuState) : Prop :=
  m.floor ≤ p ∧ (p ≤ m.ceiling ∨ m.floor = m.ceiling ∧ p ≤ m.floor + 16)

/-- What holds of the search of a socket that always reads the same MTU. -/
structure SearchSound (mtu : Nat) (x : Search) : Prop where
  lt : mtu < 65536
  ok : SearchOk (min 576 mtu) mtu x
  located : ∀ p, 576 ≤ p → p ≤ mtu → tracking p x.notes = true → x.mtu.Located p

/-- A search is tracked from its last reset on, while every verdict is true. -/
theorem tracking_snoc (p : Nat) (log : List Event) (e : Event) :
    tracking p (log ++ [e]) = (e.isReset || tracking p log && e.truthful p) := by
  simp [tracking]

namespace SearchSound

variable {mtu p : Nat} {x x' : Search}

/-- A verdict that is right keeps the path MTU in the range. -/
theorem located_update {moved : MtuState} (currentMs : Nat) (hLow : moved.floor ≤ p)
    (hHigh : p ≤ moved.ceiling) : (moved.searchUpdate currentMs).Located p := by
  obtain ⟨-, -, hNew, hEnd⟩ := MtuState.searchUpdate_cases currentMs moved
  rw [MtuState.reduceFloor_of_le (hLow.trans hHigh)] at hNew hEnd
  unfold MtuState.Located
  omega

/-- While a probe is outstanding the search has not ended. -/
theorem bracket (h : SearchSound mtu x) (hProbe : x.mtu.probeSeq ≠ 0) (hLow : 576 ≤ p)
    (hHigh : p ≤ mtu) (hTrack : tracking p x.notes = true) :
    x.mtu.floor ≤ p ∧ p ≤ x.mtu.ceiling := by
  obtain ⟨hAbove, hBelow⟩ := h.ok.sound.probe hProbe
  obtain ⟨hFloor, hCeiling | ⟨hSame, -⟩⟩ := h.located p hLow hHigh hTrack
  · exact ⟨hFloor, hCeiling⟩
  · omega

theorem seeking (h : SearchSound mtu x) (hStep : Seeking x x') : SearchSound mtu x' := by
  refine ⟨h.lt, h.ok.advance (.of_seeking h.ok.sound (Nat.min_le_left ..)
    (h.lt.trans (by decide)) hStep), ?_⟩
  intro p hLow hHigh hTrack
  cases hStep with
  | lost currentMs hProbe =>
      obtain ⟨hAbove, hBelow⟩ := h.ok.sound.probe hProbe
      have hTop := h.ok.sound.le_high
      have hLt := h.lt
      have hSize : u32 (x.mtu.probeSize - 1) = x.mtu.probeSize - 1 := u32_pred (by omega) (by omega)
      unfold Search.lost Search.update at hTrack
      rw [MtuState.searchFailures_eq_nil, List.nil_append, tracking_snoc] at hTrack
      simp only [Event.isReset, Event.truthful, Bool.false_or, Bool.and_eq_true,
        decide_eq_true_eq] at hTrack
      obtain ⟨hFloor, -⟩ := h.bracket hProbe hLow hHigh hTrack.1
      exact located_update currentMs hFloor (by dsimp only; omega)
  | passed currentMs hProbe =>
      unfold Search.passed Search.update at hTrack
      rw [MtuState.searchFailures_eq_nil, List.nil_append, tracking_snoc] at hTrack
      simp only [Event.isReset, Event.truthful, Bool.false_or, Bool.and_eq_true,
        decide_eq_true_eq] at hTrack
      obtain ⟨-, hCeiling⟩ := h.bracket hProbe hLow hHigh hTrack.1
      exact located_update currentMs hTrack.2 hCeiling
  | cleared => exact h.located p hLow hHigh hTrack
  | fragmentation nextHopMtu currentMs =>
      unfold Search.fragmentation at hTrack
      rw [MtuState.searchFailures_eq_nil, List.nil_append, tracking_snoc] at hTrack
      simp [Event.isReset, Event.truthful] at hTrack
  | probe seqNr transmissions probeSeq size hFloor hCeiling =>
      refine h.located p hLow hHigh ?_
      unfold Search.probe failure at hTrack
      simp only [hFloor.le, hCeiling, decide_true, if_true, List.nil_append] at hTrack
      rw [tracking_snoc] at hTrack
      simpa [Event.isReset, Event.truthful] using hTrack
  | adopt => exact h.located p hLow hHigh hTrack

/-- Starting the search over. -/
theorem reset_notes (udpMtu currentMs : Nat) (x : Search) : (x.reset udpMtu currentMs).notes =
    x.notes ++ [.mtu .reset x.mtu (x.mtu.reset udpMtu currentMs)] := by
  have hOrder : (x.mtu.reset udpMtu currentMs).floor ≤ (x.mtu.reset udpMtu currentMs).ceiling := by
    unfold MtuState.reset
    dsimp only
    split_ifs <;> omega
  unfold Search.reset failure
  simp [hOrder]

/-- The floor of a new search is the smallest size that every network passes, or the MTU if that is less.
-/
theorem reset_floor (udpMtu currentMs : Nat) (m : MtuState) :
    (m.reset udpMtu currentMs).floor = min 576 udpMtu := by
  have hMin : mtuFloorMin = 576 := rfl
  unfold MtuState.reset
  dsimp only
  split_ifs <;> omega

theorem reset (h : SearchSound mtu x) (currentMs : Nat) : SearchSound mtu (x.reset mtu currentMs) := by
  have hFloor := reset_floor mtu currentMs x.mtu
  have hSound := h.ok.sound
  refine ⟨h.lt, h.ok.advance ⟨?_, _, reset_notes mtu currentMs x, ?_⟩, ?_⟩
  · refine ⟨hFloor.ge, hFloor.le.trans (hSound.low_le.trans hSound.floor_le),
      hSound.last_le.trans hSound.le_high, Nat.le_refl _, fun hProbe => ?_⟩
    obtain ⟨hAbove, hBelow⟩ := hSound.probe hProbe
    exact ⟨hFloor.le.trans_lt (hSound.low_le.trans_lt hAbove), hBelow.trans hSound.le_high⟩
  · intro e he
    rw [List.mem_singleton.1 he]
    rfl
  · intro p hLow hHigh _
    exact ⟨hFloor.le.trans (by omega), Or.inl hHigh⟩

/-- A search that has just been started, whatever went before. -/
theorem start {udpMtu currentMs : Nat} (hLt : udpMtu < 65536) (hClear : x.mtu.probeSeq = 0)
    (hNotes : x.notes = []) : SearchSound udpMtu (x.reset udpMtu currentMs).adopt := by
  have hFloor := reset_floor udpMtu currentMs x.mtu
  refine ⟨hLt, ⟨⟨hFloor.ge, ?_, Nat.le_refl _, Nat.le_refl _, fun hProbe => absurd hClear hProbe⟩, ?_⟩, ?_⟩
  · exact hFloor.le.trans (Nat.min_le_right ..)
  · intro e he
    change e ∈ (x.reset udpMtu currentMs).notes at he
    rw [reset_notes, hNotes, List.nil_append, List.mem_singleton] at he
    rw [he]
    rfl
  · intro p hLow hHigh _
    exact ⟨hFloor.le.trans (by omega), Or.inl hHigh⟩

end SearchSound

/-- A step of the search adds to its notes. -/
theorem SearchStep.notes {x x' : Search} (h : SearchStep x x') : x.notes <+: x'.notes := by
  cases h with
  | seeking hSeek =>
      cases hSeek with
      | cleared => exact List.prefix_refl _
      | adopt => exact List.prefix_refl _
      | _ => exact List.prefix_append ..
  | reset udpMtu currentMs hMtu => exact List.prefix_append ..

theorem SearchStep.sound {mtu : Nat} {x x' : Search} (hStep : SearchStep x x')
    (h : ReadsMtu mtu x.notes → SearchSound mtu x) (hReads : ReadsMtu mtu x'.notes) :
    SearchSound mtu x' := by
  have hOld := h fun before after hMem => hReads before after (hStep.notes.subset hMem)
  cases hStep with
  | seeking hSeek => exact hOld.seeking hSeek
  | reset udpMtu currentMs hMtu =>
      have hLast : Event.mtu .reset x.mtu (x.mtu.reset udpMtu currentMs) ∈
          (x.reset udpMtu currentMs).notes := by
        rw [SearchSound.reset_notes]
        exact List.mem_append_right _ (List.mem_singleton_self _)
      cases hReads _ _ hLast
      exact hOld.reset currentMs

/-- By induction on the steps. -/
theorem SearchRun.sound {mtu : Nat} {x x' : Search} (hRun : SearchRun x x')
    (h : ReadsMtu mtu x.notes → SearchSound mtu x) : ReadsMtu mtu x'.notes → SearchSound mtu x' := by
  induction hRun with
  | refl => exact h
  | tail _ hStep ih => exact hStep.sound ih

/-- As long as it is not started over, a search keeps its bounds. -/
theorem SearchRun.bounds (low high : Nat) {x x' : Search} (hRun : SearchRun x x') (hMin : low ≤ 576)
    (hHigh : high < 4294967296) : ∃ events, x'.notes = x.notes ++ events ∧
      ((∀ e ∈ events, e.isReset = false) → x.mtu.Sound low high → x'.mtu.Sound low high) := by
  induction hRun with
  | refl => exact ⟨[], by simp, fun _ hSound => hSound⟩
  | tail _ hStep ih =>
      obtain ⟨events, hNotes, hSound⟩ := ih
      obtain ⟨more, hMore⟩ := hStep.notes
      refine ⟨events ++ more, by rw [← hMore, hNotes, List.append_assoc], fun hNone hStart => ?_⟩
      have hBefore := hSound (fun e he => hNone e (List.mem_append_left _ he)) hStart
      cases hStep with
      | seeking hSeek => exact (Advances.of_seeking hBefore hMin hHigh hSeek).sound
      | reset udpMtu currentMs hMtu =>
          rw [SearchSound.reset_notes] at hMore
          have hReset := hNone _ (List.mem_append_right _ (List.append_cancel_left hMore ▸ List.mem_singleton_self _))
          exact nomatch hReset

/-- The search of a socket whose readings all gave the same MTU is sound. -/
theorem preserved_search (env : Env) (mtu : Nat) :
    Preserved env fun s => ReadsMtu mtu s.search.notes → SearchSound mtu s.search := by
  refine .of_trans ?_ ?_ ?_
  · intro s addr connSeed connIdRecv connIdSend hPristine hLog hReads
    obtain ⟨udpMtu, currentMs, hLt, hStart⟩ :=
      Conn.search_initializeSocket env addr connSeed connIdRecv connIdSend s
    have hEmpty : s.search.notes = [] := by
      change (traceOf s.log).search = []
      rw [hLog]
      rfl
    have hClear : s.search.mtu.probeSeq = 0 := by
      obtain ⟨targetDelay, optSndbuf, optRcvbuf, ssthresh, hNew⟩ := hPristine
      change s.toSocket.mtu.probeSeq = 0
      rw [hNew]
      rfl
    rw [hStart] at hReads ⊢
    have hLast : Event.mtu .reset s.search.mtu (s.search.mtu.reset udpMtu currentMs) ∈
        (s.search.reset udpMtu currentMs).adopt.notes := by
      change _ ∈ (s.search.reset udpMtu currentMs).notes
      rw [SearchSound.reset_notes]
      exact List.mem_append_right _ (List.mem_singleton_self _)
    cases hReads _ _ hLast
    exact SearchSound.start hLt hClear hEmpty
  · intro cause s s' hCore hLive hInv hStep
    exact SearchRun.sound hStep.search hInv
  · intro s currentMs tick hInv
    exact hInv

/-- Every reading of the MTU of the interface gave something. -/
def ReadsSome (log : List Event) : Prop :=
  ∀ before after, .mtu .reset before after ∈ log → 0 < after.ceiling

/-- Every reading of the MTU of the interface gave at least `low`. -/
def ReadsAtLeast (low : Nat) (log : List Event) : Prop :=
  ∀ before after, .mtu .reset before after ∈ log → low ≤ after.ceiling

/-- There is a size in use. -/
structure MtuState.Nonzero (m : MtuState) : Prop where
  floor : 0 < m.floor
  floor_lt : m.floor < 65536
  ceiling : 0 < m.ceiling
  ceiling_lt : m.ceiling < 65536
  last : 0 < m.last
  probe : m.probeSeq ≠ 0 → 1 < m.probeSize ∧ m.probeSize < 65536

/-- Every size of the search is at least `low`, and fits in 16 bits. -/
structure MtuState.AtLeast (low : Nat) (m : MtuState) : Prop where
  floor : low ≤ m.floor
  floor_lt : m.floor < 65536
  ceiling : low ≤ m.ceiling
  ceiling_lt : m.ceiling < 65536
  last : low ≤ m.last
  last_lt : m.last < 65536
  probe : m.probeSeq ≠ 0 → low < m.probeSize ∧ m.probeSize < 65536

namespace MtuState.AtLeast

variable {low : Nat} {m : MtuState}

theorem searchUpdate (currentMs : Nat) (hLow : low ≤ 576) (hFloor : low ≤ m.floor) (hFloorLt : m.floor < 65536)
    (hCeiling : low ≤ m.ceiling) (hCeilingLt : m.ceiling < 65536) : (m.searchUpdate currentMs).AtLeast low := by
  obtain ⟨hProbe, -, hNew, hEnd⟩ := searchUpdate_cases currentMs m
  obtain ⟨hOrder, hTop, hAbove, hBelow⟩ := reduceFloor_spec m
  constructor
  · omega
  · omega
  · omega
  · omega
  · omega
  · omega
  · exact fun hOut => absurd hProbe hOut

theorem reset {udpMtu currentMs : Nat} (hLow : low ≤ 576) (hMtu : low ≤ udpMtu) (hLt : udpMtu < 65536)
    (h : m.AtLeast low) : (m.reset udpMtu currentMs).AtLeast low := by
  have hFloor := SearchSound.reset_floor udpMtu currentMs m
  exact ⟨by omega, by omega, hMtu, hLt, h.last, h.last_lt, h.probe⟩

theorem seeking {x x' : Search} (hLow : low ≤ 576) (h : x.mtu.AtLeast low) (hStep : Seeking x x') :
    x'.mtu.AtLeast low := by
  have hFloor := h.floor
  have hFloorLt := h.floor_lt
  have hCeiling := h.ceiling
  have hCeilingLt := h.ceiling_lt
  cases hStep with
  | lost currentMs hProbe =>
      obtain ⟨hSize, hSizeLt⟩ := h.probe hProbe
      have hPred : u32 (x.mtu.probeSize - 1) = x.mtu.probeSize - 1 := u32_pred (by omega) (by omega)
      exact searchUpdate currentMs hLow hFloor hFloorLt (by dsimp only; omega) (by dsimp only; omega)
  | passed currentMs hProbe =>
      obtain ⟨hSize, hSizeLt⟩ := h.probe hProbe
      exact searchUpdate currentMs hLow hSize.le hSizeLt hCeiling hCeilingLt
  | cleared => exact ⟨hFloor, hFloorLt, hCeiling, hCeilingLt, h.last, h.last_lt, fun hOut => absurd rfl hOut⟩
  | fragmentation nextHopMtu currentMs =>
      have hNext : ((Search.constrained nextHopMtu x.mtu).searchUpdate currentMs).AtLeast low := by
        unfold Search.constrained
        split_ifs with hSane
        · have hNear : 576 ≤ nextHopMtu := by simp at hSane; omega
          exact searchUpdate currentMs hLow hFloor hFloorLt (by dsimp only; omega) (by dsimp only; omega)
        · exact searchUpdate currentMs hLow hFloor hFloorLt (by dsimp only; omega) (by dsimp only; omega)
      change (Search.fragmented nextHopMtu currentMs x.mtu).AtLeast low
      unfold Search.fragmented
      dsimp only
      split_ifs
      · exact ⟨hNext.floor, hNext.floor_lt, hNext.ceiling, hNext.ceiling_lt, hNext.ceiling, hNext.ceiling_lt, hNext.probe⟩
      · exact hNext
  | probe seqNr transmissions probeSeq size hAbove hBelow =>
      refine ⟨hFloor, hFloorLt, hCeiling, hCeilingLt, h.last, h.last_lt, fun _ => ⟨?_, ?_⟩⟩
      · exact lt_of_le_of_lt hFloor hAbove
      · exact lt_of_le_of_lt hBelow hCeilingLt
  | adopt => exact ⟨hFloor, hFloorLt, hCeiling, hCeilingLt, hCeiling, hCeilingLt, h.probe⟩

end MtuState.AtLeast

theorem SearchStep.atLeast {low : Nat} {x x' : Search} (hLow : low ≤ 576) (hStep : SearchStep x x')
    (h : ReadsAtLeast low x.notes → x.mtu.AtLeast low) (hReads : ReadsAtLeast low x'.notes) : x'.mtu.AtLeast low := by
  have hOld := h fun before after hMem => hReads before after (hStep.notes.subset hMem)
  cases hStep with
  | seeking hSeek => exact hOld.seeking hLow hSeek
  | reset udpMtu currentMs hMtu =>
      have hLast : Event.mtu .reset x.mtu (x.mtu.reset udpMtu currentMs) ∈ (x.reset udpMtu currentMs).notes := by
        rw [SearchSound.reset_notes]
        exact List.mem_append_right _ (List.mem_singleton_self _)
      exact hOld.reset hLow (hReads _ _ hLast) hMtu

/-- By induction on the steps. -/
theorem SearchRun.atLeast {low : Nat} {x x' : Search} (hLow : low ≤ 576) (hRun : SearchRun x x')
    (h : ReadsAtLeast low x.notes → x.mtu.AtLeast low) : ReadsAtLeast low x'.notes → x'.mtu.AtLeast low := by
  induction hRun with
  | refl => exact h
  | tail _ hStep ih => exact hStep.atLeast hLow ih

/-- The sizes of a socket stay above what is read for it, as far as 576. -/
theorem preserved_atLeast (env : Env) {low : Nat} (hLow : low ≤ 576) :
    Preserved env fun s => ReadsAtLeast low s.search.notes → s.search.mtu.AtLeast low := by
  refine .of_trans ?_ ?_ ?_
  · intro s addr connSeed connIdRecv connIdSend hPristine hLog hReads
    obtain ⟨udpMtu, currentMs, hLt, hStart⟩ :=
      Conn.search_initializeSocket env addr connSeed connIdRecv connIdSend s
    have hClear : s.search.mtu.probeSeq = 0 := by
      obtain ⟨targetDelay, optSndbuf, optRcvbuf, ssthresh, hNew⟩ := hPristine
      change s.toSocket.mtu.probeSeq = 0
      rw [hNew]
      rfl
    rw [hStart] at hReads ⊢
    have hLast : Event.mtu .reset s.search.mtu (s.search.mtu.reset udpMtu currentMs) ∈
        (s.search.reset udpMtu currentMs).adopt.notes := by
      change _ ∈ (s.search.reset udpMtu currentMs).notes
      rw [SearchSound.reset_notes]
      exact List.mem_append_right _ (List.mem_singleton_self _)
    have hOver : low ≤ udpMtu := hReads _ _ hLast
    have hFloor := SearchSound.reset_floor udpMtu currentMs s.search.mtu
    refine ⟨?_, ?_, hOver, hLt, hOver, hLt, fun hProbe => absurd hClear hProbe⟩
    · exact le_of_le_of_eq (by omega) hFloor.symm
    · exact lt_of_eq_of_lt hFloor (by omega)
  · intro cause s s' hCore hLive hInv hStep
    exact SearchRun.atLeast hLow hStep.search hInv
  · intro s currentMs tick hInv
    exact hInv

/-- A socket has a packet size once every MTU that was read for it is one. -/
theorem nonzero_of_reachable {env : Env} {c : Context} (hReach : c.Reachable env) {p : Nat} {sock : Socket}
    (hSock : c.Holds p sock) (hReads : ReadsSome (c.enter p sock).search.notes) : sock.mtu.Nonzero := by
  have h : sock.mtu.AtLeast 1 := (preserved_atLeast env (by decide)).reachable hReach p sock hSock hReads
  exact ⟨h.floor, h.floor_lt, h.ceiling, h.ceiling_lt, h.last, h.probe⟩

end Utp
