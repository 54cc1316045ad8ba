import Utp.Socket.Buffer

/-! The shape of the outgoing queue: a window of consecutive sequence numbers laid
out in the circular buffer, with the bytes in flight counted on the side. -/
namespace Utp

open Wrapping

/-- The payload that a slot contributes to `cur_window`. -/
def inFlight : Option OutgoingPacket → Nat
  | none => 0
  | some pkt => if pkt.transmissions > 0 && !pkt.needResend then pkt.payload else 0

/-- A queued packet with the given sequence number. -/
structure PacketOk (seq : Nat) (pkt : OutgoingPacket) : Prop where
  seqNr : pkt.header.seqNr = seq
  payload : pkt.payload = pkt.body.length
  length : pkt.length = 20 + pkt.payload
  fresh : pkt.transmissions = 0 → pkt.needResend = false

/-- The window `[seqNr - count, seqNr)` in the buffer `buf`, of which `window`
bytes are in flight. -/
structure QueueShape (seqNr count window : Nat) (buf : SizableCircularBuffer OutgoingPacket) :
    Prop where
  seqNr_lt : seqNr < 65536
  size_ge : 16 ≤ buf.size
  size_le : buf.size ≤ 1024
  count_le : count ≤ buf.size
  vacant : ∀ j, count ≤ j → j < buf.size → buf.get (seqNr - count + j) = none
  packet : ∀ j < count, ∀ pkt, buf.get (seqNr - count + j) = some pkt →
    PacketOk (u16 (seqNr - count + j)) pkt
  window_eq : window = buf.toCellRing.sum inFlight (seqNr - count) buf.size

namespace QueueShape

variable {seqNr count window : Nat} {buf : SizableCircularBuffer OutgoingPacket}

theorem count_le_limit (h : QueueShape seqNr count window buf) : count ≤ 1024 :=
  h.count_le.trans h.size_le

/-- Addresses that agree as sequence numbers name the same slot. -/
theorem dvd_of_seq (h : QueueShape seqNr count window buf) {x y : Int}
    (hSeq : (65536 : Int) ∣ x - y) : (buf.size : Int) ∣ x - y :=
  (buf.size_dvd (h.size_le.trans (by decide))).trans hSeq

theorem get_u16 (h : QueueShape seqNr count window buf) (x : Int) : buf.get (u16 x) = buf.get x := by
  apply buf.get_congr
  apply h.dvd_of_seq
  have := u16_emod x
  omega

/-- An occupied slot belongs to a sequence number of the window. -/
theorem offset_of_get (h : QueueShape seqNr count window buf) {v : Int} {pkt : OutgoingPacket}
    (hGet : buf.get v = some pkt) :
    ∃ j < count, (buf.size : Int) ∣ v - (seqNr - count + j) := by
  obtain ⟨j, hj, hDvd⟩ := buf.exists_offset (seqNr - count) v
  refine ⟨j, ?_, hDvd⟩
  by_contra hOut
  rw [buf.get_congr hDvd, h.vacant j (by omega) hj] at hGet
  cases hGet

theorem packet_of_get (h : QueueShape seqNr count window buf) {v : Int} {pkt : OutgoingPacket}
    (hGet : buf.get v = some pkt) : ∃ seq, PacketOk seq pkt := by
  obtain ⟨j, hj, hDvd⟩ := h.offset_of_get hGet
  rw [buf.get_congr hDvd] at hGet
  exact ⟨_, h.packet j hj pkt hGet⟩

/-- A number that both selective-ack routines consider is in the window, past its
oldest packet. -/
theorem inner_offset (h : QueueShape seqNr count window buf) {v : Int} (hCount : 0 < count)
    (hInner : u16 (seqNr - v - 1) < u16 (count - 1)) :
    ∃ j, 0 < j ∧ j < count ∧ (65536 : Int) ∣ v - (seqNr - count + j) := by
  have hLimit := h.count_le_limit
  have hPred : u16 (count - 1) = count - 1 := by
    unfold u16
    omega
  have hEmod := u16_emod (seqNr - v - 1)
  refine ⟨count - 1 - u16 (seqNr - v - 1), by omega, by omega, ?_⟩
  have hSub : ((count - 1 - u16 (seqNr - v - 1) : Nat) : Int) =
      count - 1 - (u16 (seqNr - v - 1) : Nat) := by omega
  rw [hSub]
  omega

/-- Such a number does not share the slot of the oldest packet. -/
theorem inner_slot (h : QueueShape seqNr count window buf) {v : Int} (hCount : 0 < count)
    (hInner : u16 (seqNr - v - 1) < u16 (count - 1)) :
    ¬(buf.size : Int) ∣ v - (seqNr - count) := by
  obtain ⟨j, hPos, hLt, hSeq⟩ := h.inner_offset hCount hInner
  have hLe := h.count_le
  intro hDvd
  have hOffset : (buf.size : Int) ∣ (seqNr - count) + (0 : Nat) - ((seqNr - count) + (j : Nat)) := by
    have hDiff := Int.dvd_sub (h.dvd_of_seq hSeq) hDvd
    have hEq : (v - (seqNr - count + j)) - (v - (seqNr - count)) =
        ((seqNr : Int) - count) + (0 : Nat) - ((seqNr - count) + (j : Nat)) := by push_cast; ring
    rwa [hEq] at hDiff
  exact CellRing.not_dvd_offset _ (by omega) (by omega) (by omega) hOffset

theorem inFlight_le (h : QueueShape seqNr count window buf) {v : Int} {pkt : OutgoingPacket}
    (hGet : buf.get v = some pkt) : inFlight (some pkt) ≤ window := by
  obtain ⟨j, hj, hDvd⟩ := h.offset_of_get hGet
  rw [buf.get_congr hDvd] at hGet
  rw [h.window_eq, ← hGet]
  exact CellRing.le_sum _ _ _ (hj.trans_le h.count_le)

/-- What is in flight is bounded by the size of a packet. -/
theorem window_le (h : QueueShape seqNr count window buf) {most : Nat}
    (hEach : ∀ v pkt, buf.get v = some pkt → pkt.payload ≤ most) : window ≤ 1024 * most := by
  have hCell : ∀ j ∈ Finset.range buf.size, inFlight (buf.get (seqNr - count + j)) ≤ most := by
    intro j _
    cases hGet : buf.get (seqNr - count + j) with
    | none => exact Nat.zero_le most
    | some pkt =>
        have hPayload := hEach _ pkt hGet
        simp only [inFlight]
        split_ifs
        · exact hPayload
        · exact Nat.zero_le most
  have hSum : ∑ j ∈ Finset.range buf.size, inFlight (buf.get (seqNr - count + j)) ≤ buf.size * most := by
    simpa using Finset.sum_le_card_nsmul _ _ _ hCell
  calc window = ∑ j ∈ Finset.range buf.size, inFlight (buf.get (seqNr - count + j)) := h.window_eq
    _ ≤ buf.size * most := hSum
    _ ≤ 1024 * most := Nat.mul_le_mul_right most h.size_le

/-- Nothing is in flight when nothing is queued. -/
theorem window_eq_zero (h : QueueShape seqNr 0 window buf) : window = 0 := by
  rw [h.window_eq]
  apply Finset.sum_eq_zero
  intro j hj
  exact congrArg inFlight (h.vacant j (Nat.zero_le _) (Finset.mem_range.mp hj))

/-- An empty queue may be renumbered. -/
theorem renumber (h : QueueShape seqNr 0 window buf) {seqNr' : Nat} (hLt : seqNr' < 65536) :
    QueueShape seqNr' 0 window buf := by
  have hNone : ∀ v, buf.get v = none := by
    intro v
    cases hGet : buf.get v with
    | none => rfl
    | some pkt =>
        obtain ⟨j, hj, _⟩ := h.offset_of_get hGet
        omega
  refine ⟨hLt, h.size_ge, h.size_le, h.count_le, ?_, ?_, ?_⟩
  · intro j _ _
    exact hNone _
  · intro j hj
    omega
  · rw [h.window_eq_zero]
    symm
    apply Finset.sum_eq_zero
    intro j _
    exact congrArg inFlight (hNone _)

/-- Replace or remove a queued packet; the bytes in flight follow. -/
theorem update (h : QueueShape seqNr count window buf) {v : Int} {pkt : OutgoingPacket}
    (new : Option OutgoingPacket) (window' : Nat) (hGet : buf.get v = some pkt)
    (hNew : ∀ pkt', new = some pkt' → ∀ seq, PacketOk seq pkt → PacketOk seq pkt')
    (hWindow : window' + inFlight (some pkt) = window + inFlight new) :
    QueueShape seqNr count window' (buf.put v new) := by
  obtain ⟨j, hj, hDvd⟩ := h.offset_of_get hGet
  have hCount := h.count_le
  rw [buf.get_congr hDvd] at hGet
  rw [buf.put_congr new hDvd]
  have hRead : ∀ i < buf.size, (buf.put (seqNr - count + j) new).get (seqNr - count + i) =
      if j = i then new else buf.get (seqNr - count + i) := by
    intro i hi
    exact buf.get_put _ new (by omega) hi
  have hSum := CellRing.sum_write buf.toCellRing inFlight (seqNr - count) (n := buf.size) new
    (hj.trans_le hCount) buf.size_eq.le
  refine ⟨h.seqNr_lt, ?_, ?_, ?_, ?_, ?_, ?_⟩
  · simpa using h.size_ge
  · simpa using h.size_le
  · simpa using hCount
  · intro i hLow hHigh
    rw [buf.size_put] at hHigh
    rw [hRead i hHigh, if_neg (by omega)]
    exact h.vacant i hLow hHigh
  · intro i hi pkt' hPkt
    rw [hRead i (by omega)] at hPkt
    by_cases hEq : j = i
    · subst hEq
      rw [if_pos rfl] at hPkt
      exact hNew pkt' hPkt _ (h.packet j hj pkt hGet)
    · rw [if_neg hEq] at hPkt
      exact h.packet i hi pkt' hPkt
  · have hPkt : buf.toCellRing.read (seqNr - count + j) = some pkt := hGet
    rw [hPkt, ← h.window_eq] at hSum
    rw [buf.size_put]
    change window' = (buf.toCellRing.write (seqNr - count + j) new).sum inFlight _ _
    omega

/-- Drop an empty slot at the front of the window. -/
theorem pop (h : QueueShape seqNr count window buf) (hCount : 0 < count)
    (hNone : buf.get (seqNr - count) = none) :
    QueueShape seqNr (u16 (count - 1)) window buf := by
  have hLimit := h.count_le_limit
  have hLe := h.count_le
  have hPred : u16 (count - 1) = count - 1 := by
    unfold u16
    omega
  have hStart : ((seqNr : Int) - (count - 1 : Nat)) = seqNr - count + 1 := by omega
  rw [hPred]
  refine ⟨h.seqNr_lt, h.size_ge, h.size_le, by omega, ?_, ?_, ?_⟩
  · intro j hLow hHigh
    rw [hStart, add_assoc]
    by_cases hLast : j + 1 < buf.size
    · have hVacant := h.vacant (j + 1) (by omega) hLast
      push_cast at hVacant
      rwa [add_comm (1 : Int)]
    · rw [← hNone]
      apply buf.get_congr
      have hEq : (j : Int) + 1 = buf.size := by omega
      rw [add_comm (1 : Int), hEq]
      simp
  · intro j hj pkt hPkt
    have hPacket := h.packet (j + 1) (by omega) pkt
    rw [hStart, add_assoc, add_comm (1 : Int)] at hPkt ⊢
    push_cast at hPacket
    exact hPacket hPkt
  · rw [hStart, h.window_eq, buf.size_eq]
    exact (CellRing.sum_turn _ _ _).symm

theorem append_turn (seqNr : Nat) {count : Nat} (hCount : count < 1024) :
    (65536 : Int) ∣ (u16 (seqNr + 1) : Int) - u16 (count + 1) - (seqNr - count) := by
  have hSeq := u16_emod (seqNr + 1)
  have hSucc : u16 (count + 1) = count + 1 := by
    unfold u16
    omega
  rw [hSucc]
  push_cast
  omega

theorem size_append_le (h : QueueShape seqNr count window buf) (hCount : count < 1024) :
    (buf.ensureSize seqNr count).size ≤ 1024 := by
  apply SizableCircularBuffer.size_le_of_lt (m := 10)
  have hMax := buf.size_ensureSize_le seqNr count
  have hSize := h.size_le
  omega

/-- The window after a packet was queued: the old one, and the new packet at its end.
The start of the window moves by a full turn of the sequence numbers or not at all. -/
theorem append_get (h : QueueShape seqNr count window buf) (pkt : OutgoingPacket)
    (hCount : count < 1024) {i : Nat} (hi : i < (buf.ensureSize seqNr count).size) :
    ((buf.ensureSize seqNr count).put seqNr (some pkt)).get
        ((u16 (seqNr + 1) : Int) - u16 (count + 1) + i) =
      if count = i then some pkt else if i < buf.size then buf.get (seqNr - count + i) else none := by
  have hRoom := buf.lt_size_ensureSize seqNr count
  have hBound := h.size_append_le hCount
  have hSlot : (((buf.ensureSize seqNr count).put seqNr (some pkt)).size : Int) ∣
      (u16 (seqNr + 1) : Int) - u16 (count + 1) + i - ((seqNr : Int) - count + i) := by
    rw [SizableCircularBuffer.size_put]
    apply (SizableCircularBuffer.size_dvd _ (hBound.trans (by decide))).trans
    rw [add_sub_add_right_eq_sub]
    exact append_turn seqNr hCount
  have hItem : (seqNr : Int) = seqNr - count + count := by omega
  rw [SizableCircularBuffer.get_congr _ hSlot]
  nth_rewrite 2 [hItem]
  rw [SizableCircularBuffer.get_put _ _ _ hRoom hi, buf.get_ensureSize _ _ hi]

/-- Queue a packet that has not been sent yet. -/
theorem append (h : QueueShape seqNr count window buf) (pkt : OutgoingPacket)
    (hCount : count < 1024) (hPacket : PacketOk seqNr pkt) (hUnsent : pkt.transmissions = 0) :
    QueueShape (u16 (seqNr + 1)) (u16 (count + 1)) window
      ((buf.ensureSize seqNr count).put seqNr (some pkt)) := by
  have hLe := h.count_le
  have hSeq := h.seqNr_lt
  have hGrow := buf.le_size_ensureSize seqNr count
  have hRoom := buf.lt_size_ensureSize seqNr count
  have hSucc : u16 (count + 1) = count + 1 := by
    unfold u16
    omega
  have hRead := fun i hi => h.append_get pkt hCount (i := i) hi
  refine ⟨u16_lt _, ?_, ?_, ?_, ?_, ?_, ?_⟩
  · have := h.size_ge
    simp only [SizableCircularBuffer.size_put]
    omega
  · simpa using h.size_append_le hCount
  · simp only [SizableCircularBuffer.size_put]
    omega
  · intro j hLow hHigh
    rw [SizableCircularBuffer.size_put] at hHigh
    rw [hRead j hHigh, if_neg (by omega)]
    split_ifs with hj
    · exact h.vacant j (by omega) hj
    · rfl
  · intro j hj pkt' hPkt
    rw [hRead j (by omega)] at hPkt
    have hNumber : u16 ((u16 (seqNr + 1) : Int) - u16 (count + 1) + j) = u16 (seqNr - count + j) := by
      rw [u16_eq_iff, add_sub_add_right_eq_sub]
      exact append_turn seqNr hCount
    rw [hNumber]
    by_cases hEq : count = j
    · subst hEq
      rw [if_pos rfl] at hPkt
      cases hPkt
      have hSame : u16 ((seqNr : Int) - count + count) = seqNr := by
        unfold u16
        omega
      rw [hSame]
      exact hPacket
    · rw [if_neg hEq, if_pos (by omega)] at hPkt
      exact h.packet j (by omega) pkt' hPkt
  · have hZero : inFlight (some pkt) = 0 := by simp [inFlight, hUnsent]
    rw [h.window_eq, SizableCircularBuffer.size_put]
    symm
    apply CellRing.sum_extend hGrow
    · intro j hj
      refine (congrArg inFlight (hRead j (by omega))).trans ?_
      by_cases hEq : count = j
      · subst hEq
        rw [if_pos rfl, hZero]
        exact (congrArg inFlight (h.vacant count le_rfl hj)).symm
      · rw [if_neg hEq, if_pos hj]
        rfl
    · intro j hLow hHigh
      refine (congrArg inFlight (hRead j hHigh)).trans ?_
      split_ifs
      · exact hZero
      · omega
      · rfl

end QueueShape

end Utp
