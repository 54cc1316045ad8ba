import Utp.Invariant.Mask
import Utp.Invariant.Sizes
import Mathlib.Algebra.Ring.Divisibility.Basic

/-! What an ack takes out of the queue. -/
namespace Utp

open Wrapping

namespace Conn

/-- The packet in the slot of `x` has been sent. -/
def Sent (x : Int) (s : Conn) : Prop := ∃ pkt, s.snd.outbuf.get x = some pkt ∧ pkt.transmissions ≠ 0

/-- The packet in the slot of `x` has not been sent yet. -/
def Unsent (x : Int) (s : Conn) : Prop := ∃ pkt, s.snd.outbuf.get x = some pkt ∧ pkt.transmissions = 0

/-- The address of the `i`-th oldest packet. -/
def address (i : Nat) (s : Conn) : Int := s.snd.seqNr - s.snd.curWindowPackets + i

/-- The slots of the queue are apart. -/
structure Fits (s : Conn) : Prop where
  count_le : s.snd.curWindowPackets ≤ s.snd.outbuf.size
  size_le : s.snd.outbuf.size ≤ 1024
  size_dvd : (s.snd.outbuf.size : Int) ∣ 65536

/-- Two places of the window have two slots. -/
theorem Fits.apart {s : Conn} (h : Fits s) {i j : Nat} (hi : i < s.snd.curWindowPackets)
    (hj : j < s.snd.curWindowPackets) (hNe : i ≠ j) : ¬(s.snd.outbuf.size : Int) ∣ s.address i - s.address j := by
  have hLe := h.count_le
  exact CellRing.not_dvd_offset _ (by omega) (by omega) hNe

/-- A number and its 16 bits have the same slot. -/
theorem Fits.get_u16 {s : Conn} (h : Fits s) (x : Int) : s.snd.outbuf.get (u16 x) = s.snd.outbuf.get x := by
  apply s.snd.outbuf.get_congr
  refine h.size_dvd.trans ?_
  have := u16_emod x
  omega

/-- The numbers that the selective-ack routines look at are those of the packets behind the
oldest one. -/
theorem inside_iff {s : Conn} (hLimit : s.snd.curWindowPackets ≤ 1024) (hPos : 0 < s.snd.curWindowPackets) (v : Int) :
    s.outsideWindow v = false ↔ ∃ i < s.snd.curWindowPackets, 0 < i ∧ u16 v = u16 (s.address i) := by
  have hPred : u16 (s.snd.curWindowPackets - 1) = s.snd.curWindowPackets - 1 := by
    have hEmod := u16_emod (s.snd.curWindowPackets - 1)
    have hLt := u16_lt (s.snd.curWindowPackets - 1)
    omega
  have hEmod := u16_emod (s.snd.seqNr - v - 1)
  have hLt := u16_lt (s.snd.seqNr - v - 1)
  unfold outsideWindow address
  simp only [hPred, u16_eq_iff, ge_iff_le, decide_eq_false_iff_not, not_le]
  constructor
  · intro hInner
    exact ⟨s.snd.curWindowPackets - 1 - u16 (s.snd.seqNr - v - 1), by omega, by omega, by omega⟩
  · rintro ⟨i, hi, hFirst, hNumber⟩
    omega

/-- Two packets of the queue have different numbers. -/
theorem address_inj {s : Conn} (hLimit : s.snd.curWindowPackets ≤ 1024) {i j : Nat} (hi : i < s.snd.curWindowPackets)
    (hj : j < s.snd.curWindowPackets) (h : u16 (s.address i) = u16 (s.address j)) : i = j := by
  unfold address at h
  rw [u16_eq_iff] at h
  omega

/-- The slots of the `k` oldest packets are empty, and the others are as they were. -/
structure Trimmed (k : Nat) (s t : Conn) : Prop where
  le : k ≤ s.snd.curWindowPackets
  seqNr : t.snd.seqNr = s.snd.seqNr
  count : t.snd.curWindowPackets = s.snd.curWindowPackets - k
  size : t.snd.outbuf.size = s.snd.outbuf.size
  cleared : ∀ x, ∀ i < k, (s.snd.outbuf.size : Int) ∣ x - s.address i → t.snd.outbuf.get x = none
  kept : ∀ x, (∀ i < k, ¬(s.snd.outbuf.size : Int) ∣ x - s.address i) →
    t.snd.outbuf.get x = s.snd.outbuf.get x

namespace Trimmed

variable {k m : Nat} {s t u : Conn}

theorem of_snd (hSeq : t.snd.seqNr = s.snd.seqNr) (hCount : t.snd.curWindowPackets = s.snd.curWindowPackets)
    (hBuf : t.snd.outbuf = s.snd.outbuf) : Trimmed 0 s t :=
  ⟨Nat.zero_le _, hSeq, hCount, by rw [hBuf], fun _ _ hi => absurd hi (Nat.not_lt_zero _), fun _ _ => by rw [hBuf]⟩

theorem refl (s : Conn) : Trimmed 0 s s := .of_snd rfl rfl rfl

/-- A window that is trimmed still fits. -/
theorem fits (h : Trimmed k s t) (hFits : Fits s) : Fits t := by
  obtain ⟨hLe, hSize, hDvd⟩ := hFits
  have hCount := h.count
  rw [← h.size] at hLe hSize hDvd
  exact ⟨by omega, hSize, hDvd⟩

/-- The places are counted from the new front. -/
theorem address (h : Trimmed k s t) (i : Nat) : t.address i = s.address (k + i) := by
  have hLe := h.le
  unfold Conn.address
  rw [h.seqNr, h.count]
  omega

theorem trans (hFirst : Trimmed k s t) (hSecond : Trimmed m t u) : Trimmed (k + m) s u := by
  have hLe := hFirst.le
  have hCount := hFirst.count
  have hNext := hSecond.le
  have hCleared := hSecond.cleared
  have hKept := hSecond.kept
  simp only [hFirst.address, hFirst.size] at hCleared hKept
  refine ⟨by omega, hSecond.seqNr.trans hFirst.seqNr, by rw [hSecond.count, hCount]; omega,
    hSecond.size.trans hFirst.size, fun x i hi hSlot => ?_, fun x hOff => ?_⟩
  · by_cases hLater : ∃ j < m, (s.snd.outbuf.size : Int) ∣ x - s.address (k + j)
    · obtain ⟨j, hj, hAt⟩ := hLater
      exact hCleared x j hj hAt
    · have hOld : i < k := by
        by_contra hOut
        exact hLater ⟨i - k, by omega, by rwa [Nat.add_sub_cancel' (Nat.le_of_not_lt hOut)]⟩
      rw [hKept x fun j hj hAt => hLater ⟨j, hj, hAt⟩]
      exact hFirst.cleared x i hOld hSlot
  · rw [hKept x fun j hj => hOff (k + j) (by omega)]
    exact hFirst.kept x fun i hi => hOff i (by omega)

/-- What is left in the places of the queue. -/
theorem get (h : Trimmed k s t) (hFits : Fits s) {i : Nat} (hi : i < s.snd.curWindowPackets) :
    t.snd.outbuf.get (s.address i) = if i < k then none else s.snd.outbuf.get (s.address i) := by
  have hLe := h.le
  split_ifs with hGone
  · exact h.cleared _ i hGone (by simp)
  · exact h.kept _ fun j hj => hFits.apart hi (by omega) (by omega)

end Trimmed

variable (env : Env)

/-- One packet less, if its slot is empty. -/
theorem trimmed_decWindowPackets {s t : Conn} (hCount : 0 < s.snd.curWindowPackets)
    (hLimit : s.snd.curWindowPackets ≤ 1024) (hSeq : t.snd.seqNr = s.snd.seqNr)
    (hSame : t.snd.curWindowPackets = s.snd.curWindowPackets) (hSize : t.snd.outbuf.size = s.snd.outbuf.size)
    (hGet : ∀ x, t.snd.outbuf.get x =
      if (s.snd.outbuf.size : Int) ∣ s.address 0 - x then none else s.snd.outbuf.get x) :
    Trimmed 1 s t.decWindowPackets := by
  have hFirst : ∀ x, (s.snd.outbuf.size : Int) ∣ x - s.address 0 ↔ (s.snd.outbuf.size : Int) ∣ s.address 0 - x :=
    fun x => dvd_sub_comm
  have hPred : t.decWindowPackets.snd.curWindowPackets = s.snd.curWindowPackets - 1 := by
    have hEmod := u16_emod (t.snd.curWindowPackets - 1)
    have hLt := u16_lt (t.snd.curWindowPackets - 1)
    change u16 (t.snd.curWindowPackets - 1) = _
    omega
  refine ⟨hCount, hSeq, hPred, hSize, fun x i hi hSlot => ?_, fun x hOff => ?_⟩
  · obtain rfl : i = 0 := by omega
    exact (hGet x).trans (if_pos ((hFirst x).1 hSlot))
  · exact (hGet x).trans (if_neg fun hSlot => hOff 0 Nat.one_pos ((hFirst x).2 hSlot))

/-- The cumulative ack stops at the first packet that has not been sent. -/
theorem trimmed_ackLoop (acks : Nat) {s : Conn} (h : Fits s) (hAcks : acks ≤ s.snd.curWindowPackets) :
    ∃ k ≤ acks, Trimmed k s (s.ackLoop env acks) ∧ (∀ i < k, ¬s.Unsent (s.address i)) ∧
      (k < acks → s.Unsent (s.address k)) := by
  induction acks generalizing s with
  | zero => exact ⟨0, le_rfl, .refl s, nofun, nofun⟩
  | succ acks ih =>
      have hLimit : s.snd.curWindowPackets ≤ 1024 := h.count_le.trans h.size_le
      have hFront : (s.snd.seqNr - s.snd.curWindowPackets : Int) = s.address 0 := by
        simp [Conn.address]
      have hRest : ∀ t : Conn, Trimmed 1 s t.decWindowPackets → ¬s.Unsent (s.address 0) →
          ∃ k ≤ acks + 1, Trimmed k s (t.decWindowPackets.ackLoop env acks) ∧
            (∀ i < k, ¬s.Unsent (s.address i)) ∧ (k < acks + 1 → s.Unsent (s.address k)) := by
        intro t hTrim hSent
        obtain ⟨k, hk, hMore, hBefore, hStop⟩ := ih (hTrim.fits h) (by rw [hTrim.count]; omega)
        have hSame : ∀ i < acks, t.decWindowPackets.Unsent (t.decWindowPackets.address i) ↔
            s.Unsent (s.address (i + 1)) := by
          intro i hi
          unfold Unsent
          rw [hTrim.address, Nat.add_comm 1 i, hTrim.get h (by omega), if_neg (by omega)]
        refine ⟨k + 1, by omega, Nat.add_comm 1 k ▸ hTrim.trans hMore, fun i hi => ?_, fun hLess => ?_⟩
        · cases i with
          | zero => exact hSent
          | succ i => exact fun hUnsent => hBefore i (by omega) ((hSame i (by omega)).2 hUnsent)
        · exact (hSame k (by omega)).1 (hStop (by omega))
      unfold ackLoop
      dsimp only
      rw [hFront]
      cases hGet : s.snd.outbuf.get (u16 (s.address 0)) with
      | none =>
          rw [ackPacket_none env hGet, if_neg (show ¬(1 : Nat) = 2 by decide)]
          rw [h.get_u16] at hGet
          refine hRest s (trimmed_decWindowPackets (by omega) hLimit rfl rfl rfl fun x => ?_) ?_
          · split_ifs with hSlot
            · rw [← s.snd.outbuf.get_congr hSlot, hGet]
            · rfl
          · rintro ⟨pkt, hAt, -⟩
            cases hGet.symm.trans hAt
      | some pkt =>
          rw [ackPacket_some env hGet]
          by_cases hUnsent : pkt.transmissions = 0
          · rw [if_pos hUnsent, if_pos rfl]
            rw [h.get_u16] at hGet
            exact ⟨0, Nat.zero_le _, .refl s, nofun, fun _ => ⟨pkt, hGet, hUnsent⟩⟩
          · rw [if_neg hUnsent, if_neg (show ¬(0 : Nat) = 2 by decide)]
            have hView := view_removePacket env (u16 (s.address 0)) pkt s
            rw [h.get_u16] at hGet
            have hBuf : (s.removePacket env (u16 (s.address 0)) pkt).snd.outbuf =
                s.snd.outbuf.put (u16 (s.address 0)) none := congrArg View.outbuf hView
            have hWrap : (s.snd.outbuf.size : Int) ∣ (u16 (s.address 0) : Nat) - s.address 0 := by
              refine h.size_dvd.trans ?_
              have := u16_emod (s.address 0)
              omega
            refine hRest _ (trimmed_decWindowPackets (by omega) hLimit (congrArg View.seqNr hView)
              (congrArg View.curWindowPackets hView) ?_ fun x => ?_) ?_
            · rw [hBuf]
              simp
            · rw [hBuf, s.snd.outbuf.put_congr none hWrap, SizableCircularBuffer.get_put_dvd]
            · rintro ⟨pkt', hAt, hNever⟩
              cases hGet.symm.trans hAt
              exact hUnsent hNever

/-- Dropping goes on to the first packet that is still in the queue. -/
theorem trimmed_dropAcked (fuel : Nat) {s : Conn} (h : Fits s) (hFuel : s.snd.curWindowPackets ≤ fuel) :
    ∃ k, Trimmed k s (s.dropAcked fuel) ∧ (∀ i < k, s.snd.outbuf.get (s.address i) = none) ∧
      (k < s.snd.curWindowPackets → s.snd.outbuf.get (s.address k) ≠ none) := by
  induction fuel generalizing s with
  | zero => exact ⟨0, .refl s, nofun, fun hPos => by omega⟩
  | succ fuel ih =>
      have hFront : (s.snd.seqNr - s.snd.curWindowPackets : Int) = s.address 0 := by
        simp [Conn.address]
      unfold dropAcked
      rw [hFront]
      split_ifs with hDrop
      · obtain ⟨hPos, hNone⟩ : 0 < s.snd.curWindowPackets ∧ s.snd.outbuf.get (s.address 0) = none := by
          simpa using hDrop
        have hTrim : Trimmed 1 s s.decWindowPackets := by
          refine trimmed_decWindowPackets hPos (h.count_le.trans h.size_le) rfl rfl rfl fun x => ?_
          split_ifs with hSlot
          · rw [← s.snd.outbuf.get_congr hSlot, hNone]
          · rfl
        have hCount := hTrim.count
        obtain ⟨k, hMore, hBefore, hStop⟩ := ih (hTrim.fits h) (by omega)
        have hBuf : s.decWindowPackets.snd.outbuf = s.snd.outbuf := rfl
        simp only [hTrim.address, hBuf, Nat.add_comm 1] at hBefore hStop
        refine ⟨k + 1, Nat.add_comm 1 k ▸ hTrim.trans hMore, fun i hi => ?_, fun hLess => ?_⟩
        · cases i with
          | zero => exact hNone
          | succ i => exact hBefore i (by omega)
        · exact hStop (by omega)
      · refine ⟨0, .refl s, nofun, fun hPos hNone => hDrop ?_⟩
        simp [hPos, hNone]

/-- Packets are sent, but none enters or leaves the queue. Of the oldest one it may be the
first transmission. -/
structure Repeats (s t : Conn) : Prop where
  seqNr : t.snd.seqNr = s.snd.seqNr
  count : t.snd.curWindowPackets = s.snd.curWindowPackets
  size : t.snd.outbuf.size = s.snd.outbuf.size
  none_iff : ∀ x, t.snd.outbuf.get x = none ↔ s.snd.outbuf.get x = none
  sent_iff : ∀ i, 0 < i → i < s.snd.curWindowPackets → (t.Sent (s.address i) ↔ s.Sent (s.address i))

/-- A queue that stays repeats nothing. -/
theorem Repeats.of_snd {s t : Conn} (hSeq : t.snd.seqNr = s.snd.seqNr)
    (hCount : t.snd.curWindowPackets = s.snd.curWindowPackets) (hBuf : t.snd.outbuf = s.snd.outbuf) : Repeats s t := by
  refine ⟨hSeq, hCount, by rw [hBuf], fun x => by rw [hBuf], fun i _ _ => ?_⟩
  unfold Sent
  rw [hBuf]

/-- The places of the window stay. -/
theorem Repeats.address {s t : Conn} (h : Repeats s t) (i : Nat) : t.address i = s.address i := by
  unfold Conn.address
  rw [h.seqNr, h.count]

theorem Repeats.trans {s t u : Conn} (hFirst : Repeats s t) (hSecond : Repeats t u) : Repeats s u := by
  refine ⟨hSecond.seqNr.trans hFirst.seqNr, hSecond.count.trans hFirst.count, hSecond.size.trans hFirst.size,
    fun x => (hSecond.none_iff x).trans (hFirst.none_iff x), fun i hPos hi => ?_⟩
  have hSent := hSecond.sent_iff i hPos (by rw [hFirst.count]; exact hi)
  rw [hFirst.address] at hSent
  exact hSent.trans (hFirst.sent_iff i hPos hi)

/-- Sending a packet that has been sent, or the only one. -/
theorem repeats_sendPacket {v : Int} {s : Conn} (h : s.Sent v ∨ s.snd.curWindowPackets ≤ 1) :
    Repeats s (s.sendPacket env v) := by
  cases hGet : s.snd.outbuf.get v with
  | none =>
      rw [sendPacket_none env hGet]
      exact .of_snd rfl rfl rfl
  | some pkt =>
      have hView := view_sendPacket env hGet
      rw [view_chargeWindow] at hView
      have hBuf : (s.sendPacket env v).snd.outbuf = _ := congrArg View.outbuf hView
      refine ⟨congrArg View.seqNr hView, congrArg View.curWindowPackets hView, by rw [hBuf]; simp, fun x => ?_,
        fun i hPos hi => ?_⟩
      · rw [← Option.isNone_iff_eq_none, ← Option.isNone_iff_eq_none, isNone_sendPacket]
      · rcases h with ⟨pkt', hAt, hSent⟩ | hOne
        · cases hGet.symm.trans hAt
          unfold Sent
          rw [hBuf, SizableCircularBuffer.get_put_dvd]
          split_ifs with hSlot
          · rw [← s.snd.outbuf.get_congr hSlot, hGet]
            exact iff_of_true ⟨_, rfl, Nat.succ_ne_zero _⟩ ⟨pkt, rfl, hSent⟩
          · rfl
        · omega

/-- The packet that was held back is sent at its place. -/
theorem repeats_flushNagle (s : Conn) : Repeats s (s.flushNagle env) := by
  unfold flushNagle
  split_ifs with hOne
  · split
    · exact .of_snd (by rw [snd_check]) (by rw [snd_check]) (by rw [snd_check])
    · split_ifs
      · exact repeats_sendPacket env (Or.inr hOne.le)
      · exact .of_snd rfl rfl rfl
  · exact .of_snd rfl rfl rfl

/-- A packet that is sent again was in the window. -/
theorem repeats_fastTimeoutRetry (s : Conn) : Repeats s (s.fastTimeoutRetry env) := by
  unfold fastTimeoutRetry
  dsimp only
  split_ifs
  · exact .of_snd rfl rfl rfl
  · split
    · exact .of_snd rfl rfl rfl
    · rename_i pkt hGet
      split_ifs with hSent
      · have hMoved : Repeats s { s with snd.fastResendSeqNr := u16 (s.snd.fastResendSeqNr + 1) } :=
          .of_snd rfl rfl rfl
        exact hMoved.trans (repeats_sendPacket env (Or.inl ⟨pkt, hGet, Nat.ne_of_gt hSent⟩))
      · exact .of_snd rfl rfl rfl
  · exact .of_snd rfl rfl rfl

/-- Where the queue starts once `acks` packets have been acked: past them, at the first packet
that is left, or else at one of them that has not been sent. -/
inductive FrontAfter (acks : Nat) (s : Conn) (front : Nat) : Prop where
  | passed (hAcks : acks ≤ front) (hSent : ∀ i < acks, ¬s.Unsent (s.address i))
      (hGone : ∀ i, acks ≤ i → i < front → s.snd.outbuf.get (s.address i) = none)
      (hLeft : front < s.snd.curWindowPackets → s.snd.outbuf.get (s.address front) ≠ none)
  | stopped (hAcks : front < acks) (hSent : ∀ i < front, ¬s.Unsent (s.address i))
      (hUnsent : s.Unsent (s.address front))

theorem FrontAfter.of_snd {acks front : Nat} {s t : Conn} (hSeq : t.snd.seqNr = s.snd.seqNr)
    (hCount : t.snd.curWindowPackets = s.snd.curWindowPackets) (hBuf : t.snd.outbuf = s.snd.outbuf)
    (h : FrontAfter acks t front) : FrontAfter acks s front := by
  have hAddress : ∀ i, t.address i = s.address i := fun i => by
    unfold address
    rw [hSeq, hCount]
  cases h with
  | passed hAcks hSent hGone hLeft =>
      simp only [Unsent, hAddress, hBuf, hCount] at hSent hGone hLeft
      exact .passed hAcks hSent hGone hLeft
  | stopped hAcks hSent hUnsent =>
      simp only [Unsent, hAddress, hBuf] at hSent hUnsent
      exact .stopped hAcks hSent hUnsent

/-- What the cumulative part of an ack takes out of the queue. -/
theorem trimmed_dropAcks (acks : Nat) {s : Conn} (h : Fits s) (hAcks : acks ≤ s.snd.curWindowPackets) :
    ∃ front, FrontAfter acks s front ∧ Trimmed front s
      ((s.ackLoop env acks).dropAcked (s.ackLoop env acks).snd.curWindowPackets) := by
  obtain ⟨k, hk, hTrim, hSent, hStop⟩ := trimmed_ackLoop env acks h hAcks
  obtain ⟨m, hMore, hNone, hLeft⟩ := trimmed_dropAcked _ (hTrim.fits h) le_rfl
  have hCount := hTrim.count
  have hLe := hMore.le
  have hSame : ∀ i, k + i < s.snd.curWindowPackets → (s.ackLoop env acks).snd.outbuf.get
      ((s.ackLoop env acks).address i) = s.snd.outbuf.get (s.address (k + i)) := by
    intro i hi
    rw [hTrim.address, hTrim.get h hi, if_neg (by omega)]
  refine ⟨k + m, ?_, hTrim.trans hMore⟩
  by_cases hAll : k < acks
  · obtain ⟨pkt, hGet, hUnsent⟩ := hStop hAll
    have hHere : m = 0 := by
      by_contra hPos
      have hGone := hNone 0 (Nat.pos_of_ne_zero hPos)
      rw [hSame 0 (by omega), Nat.add_zero, hGet] at hGone
      cases hGone
    subst hHere
    exact .stopped hAll hSent ⟨pkt, hGet, hUnsent⟩
  · obtain rfl : k = acks := by omega
    refine .passed (Nat.le_add_right k m) hSent (fun i hLow hHigh => ?_) fun hIn => ?_
    · have hGone := hNone (i - k) (by omega)
      rwa [hSame (i - k) (by omega), Nat.add_sub_cancel' hLow] at hGone
    · rw [← hSame m hIn]
      exact hLeft (by omega)

/-- Every sound state fits. -/
theorem fits_of_core {s : Conn} (h : Core s) : Fits s := by
  have hQueue : QueueShape s.snd.seqNr s.snd.curWindowPackets s.snd.curWindow s.snd.outbuf := h.view.queue
  exact ⟨hQueue.count_le, hQueue.size_le, s.snd.outbuf.size_dvd (hQueue.size_le.trans (by decide))⟩

/-- One of the first `n` bits of the mask is set for the number `x`. -/
def Marked (d : Datagram) (mask : SackMask) (n : Nat) (x : Int) : Prop :=
  ∃ bits < n, mask.bit d bits = true ∧ u16 (d.header.ackNr + 2 + bits) = u16 x

/-- The queue is as it was before, unless the answer to our SYN completes the connection. -/
theorem snd_complete {header : PacketFormatV1} {s : Conn} (h : ¬(header.type = stState ∧ s.state = .synSent)) :
    (s.complete env header).snd = s.snd := by
  have hWindow : (s.updateWindowUser header).snd = s.snd ∧ (s.updateWindowUser header).state = s.state := by
    unfold updateWindowUser
    dsimp only
    split_ifs <;> exact ⟨rfl, rfl⟩
  have hState : ¬(decide (header.type = stState) && decide (((s.updateWindowUser header).completeIncoming header).state =
      .synSent)) = true := by
    intro hBoth
    have hParts := (Bool.and_eq_true _ _).mp hBoth
    refine h ⟨of_decide_eq_true hParts.1, ?_⟩
    rw [← hWindow.2]
    have hSent := of_decide_eq_true hParts.2
    unfold completeIncoming at hSent
    split_ifs at hSent
    · cases hSent
    · exact hSent
  have hSame : ((s.updateWindowUser header).completeIncoming header).snd = s.snd :=
    (snd_completeIncoming header _).trans hWindow.1
  unfold complete completeOutgoing
  rw [if_neg hState]
  dsimp only
  split_ifs <;> exact hSame

/-- The cumulative part of an ack, and the packets that are sent before the mask is looked at. -/
theorem trimmed_processAcks {header : PacketFormatV1} {s : Conn} (h : Core s)
    (hUp : ¬(header.type = stState ∧ s.state = .synSent)) :
    ∃ front t, FrontAfter (s.acksOf header) s front ∧ Trimmed front s t ∧
      Repeats t (s.processAcks env header (s.acksOf header)) := by
  have hStart : ((s.complete env header).updateFastResend header).snd.seqNr = s.snd.seqNr ∧
      ((s.complete env header).updateFastResend header).snd.curWindowPackets = s.snd.curWindowPackets ∧
      ((s.complete env header).updateFastResend header).snd.outbuf = s.snd.outbuf := by
    rw [← snd_complete env hUp]
    unfold updateFastResend
    split_ifs <;> exact ⟨rfl, rfl, rfl⟩
  rw [processAcks_eq]
  generalize (s.complete env header).updateFastResend header = u at hStart ⊢
  obtain ⟨hSeq, hCount, hBuf⟩ := hStart
  have hSame : Trimmed 0 s u := .of_snd hSeq hCount hBuf
  obtain ⟨front, hFront, hTrim⟩ := trimmed_dropAcks env (s.acksOf header) (hSame.fits (fits_of_core h))
    (by rw [hCount]; exact (acksOf_spec header s).1)
  dsimp only
  generalize (u.ackLoop env (s.acksOf header)).dropAcked (u.ackLoop env (s.acksOf header)).snd.curWindowPackets = t
    at hTrim ⊢
  have hChecked : Repeats t (t.check 2279 t.frontQueued) :=
    .of_snd (by rw [snd_check]) (by rw [snd_check]) (by rw [snd_check])
  exact ⟨front, t, hFront.of_snd hSeq hCount hBuf, Nat.zero_add front ▸ hSame.trans hTrim,
    (hChecked.trans (repeats_flushNagle env _)).trans (repeats_fastTimeoutRetry env _)⟩

/-- Sending does not grow the buffer. -/
theorem size_sendPacket (v : Int) (s : Conn) : (s.sendPacket env v).snd.outbuf.size = s.snd.outbuf.size := by
  cases hGet : s.snd.outbuf.get v with
  | none => rw [sendPacket_none env hGet]
  | some pkt =>
      have hView := view_sendPacket env hGet
      rw [view_chargeWindow] at hView
      have hBuf : (s.sendPacket env v).snd.outbuf = _ := congrArg View.outbuf hView
      rw [hBuf]
      simp

/-- By induction on the stack. -/
theorem size_resendLoop (resends : List Int) (i : Nat) (s : Conn) :
    (s.resendLoop env resends i).2.snd.outbuf.size = s.snd.outbuf.size := by
  induction resends generalizing i s with
  | nil => rfl
  | cons v rest ih =>
      have hSent := size_sendPacket env v s
      unfold resendLoop
      split
      · exact ih i s
      · dsimp only
        split_ifs
        · exact hSent
        · rw [ih]
          exact hSent

/-- A selective ack does not resize the buffer. -/
theorem size_selectiveAck (d : Datagram) (mask : SackMask) (base : Int) {s : Conn}
    (hSize : (s.snd.outbuf.size : Int) ∣ 65536) :
    (s.selectiveAck env d mask base).snd.outbuf.size = s.snd.outbuf.size := by
  have hSweep := sweeps_selectiveAckFrom env d mask base (mask.extLen * 8) ⟨0, []⟩ hSize
  unfold selectiveAck
  by_cases hZero : s.snd.curWindowPackets = 0
  · rw [if_pos hZero]
  rw [if_neg hZero]
  dsimp only
  generalize s.selectiveAckFrom env d mask base (mask.extLen * 8) ⟨0, []⟩ = r at hSweep ⊢
  generalize (if r.2.shouldResend (base - 1) r.1 then
    r.1.resends ++ [((u16 (base - 1) : Nat) : Int)] else r.1.resends) = resends
  rw [← hSweep.size, ← size_resendLoop env resends.reverse 0 r.2]
  split_ifs
  · rw [outbuf_maybeDecayWin]
  · rfl

/-- A packet with a place in the queue has left it: it is before the new front, or behind it
and a bit of the mask is set for it. -/
def Taken (d : Datagram) (selack : Option SackMask) (front i : Nat) (s : Conn) : Prop :=
  i < front ∨ front < i ∧ s.Sent (s.address i) ∧
    ∃ mask, selack = some mask ∧ Marked d mask (mask.extLen * 8) (s.address i)

/-- The mask takes packets out of the queue that the cumulative ack has left. -/
theorem taken_selectiveAck {d : Datagram} {mask : SackMask} {front i : Nat} {s t u : Conn} (h : Core u)
    (hFits : Fits s) (hTrim : Trimmed front s t) (hRepeats : Repeats t u) (hi : i < s.snd.curWindowPackets) :
    (u.selectiveAck env d mask (d.header.ackNr + 2)).snd.outbuf.get (s.address i) = none ↔
      s.snd.outbuf.get (s.address i) = none ∨ s.Taken d (some mask) front i := by
  have hLe := hTrim.le
  have hQueue : QueueShape u.snd.seqNr u.snd.curWindowPackets u.snd.curWindow u.snd.outbuf := h.view.queue
  have hCount : u.snd.curWindowPackets = s.snd.curWindowPackets - front := hRepeats.count.trans hTrim.count
  have hLeft : u.snd.outbuf.get (s.address i) = none ↔ s.snd.outbuf.get (s.address i) = none ∨ i < front := by
    rw [hRepeats.none_iff, hTrim.get hFits hi]
    split_ifs with hGone
    · exact iff_of_true rfl (Or.inr hGone)
    · simp [hGone]
  by_cases hBefore : i < front
  · have hNone := hLeft.2 (Or.inr hBefore)
    refine iff_of_true ?_ (Or.inr (Or.inl hBefore))
    by_cases hZero : u.snd.curWindowPackets = 0
    · unfold selectiveAck
      rw [if_pos hZero, hNone]
    · exact (isNone_selectiveAck env d mask _ (fits_of_core h).size_dvd (Nat.pos_of_ne_zero hZero) _).2 (Or.inl hNone)
  have hAddress : u.address (i - front) = s.address i := by
    rw [hRepeats.address, hTrim.address, Nat.add_sub_cancel' (Nat.le_of_not_lt hBefore)]
  have hSent : front < i → (u.Sent (s.address i) ↔ s.Sent (s.address i)) := by
    intro hBehind
    have hSame := hRepeats.sent_iff (i - front) (by omega) (by rw [hTrim.count]; omega)
    rw [hTrim.address, Nat.add_sub_cancel' hBehind.le] at hSame
    rw [hSame]
    unfold Sent
    rw [hTrim.get hFits hi, if_neg hBefore]
  rw [isNone_selectiveAck env d mask _ (fits_of_core h).size_dvd (by omega), hLeft, or_assoc]
  refine or_congr_right ?_
  unfold Taken
  refine or_congr_right ?_
  have hHits : ∀ bits, u.Hits d mask (d.header.ackNr + 2) bits (s.address i) ↔ mask.bit d bits = true ∧ front < i ∧
      u16 (d.header.ackNr + 2 + bits) = u16 (s.address i) := by
    intro bits
    have hIff := hQueue.hits_iff d mask (d.header.ackNr + 2) (i := bits) (j := i - front) (by omega)
    change u.Hits _ _ _ _ (u.address (i - front)) ↔ _ ∧ _ ∧ _ = u16 (u.address (i - front)) at hIff
    rw [hAddress] at hIff
    rw [hIff, Nat.sub_pos_iff_lt]
  constructor
  · rintro ⟨⟨bits, hBits, hHit⟩, hSome⟩
    obtain ⟨hBit, hBehind, hNumber⟩ := (hHits bits).1 hHit
    exact ⟨hBehind, (hSent hBehind).1 hSome, mask, rfl, bits, hBits, hBit, hNumber⟩
  · rintro ⟨hBehind, hSome, m, hMask, bits, hBits, hBit, hNumber⟩
    cases hMask
    exact ⟨⟨bits, hBits, (hHits bits).2 ⟨hBit, hBehind, hNumber⟩⟩, (hSent hBehind).2 hSome⟩

/-- What an ack takes out of the queue. -/
theorem taken_receiveAcks (d : Datagram) (selack : Option SackMask) (time : Nat) {s : Conn} (h : Core s)
    (hUp : ¬(d.header.type = stState ∧ s.state = .synSent)) :
    ∃ front, FrontAfter (s.acksOf d.header) s front ∧
      ((s.receiveAcks env d d.header selack time).snd.outbuf.size : Int) ∣ 65536 ∧
      ∀ i < s.snd.curWindowPackets,
        ((s.receiveAcks env d d.header selack time).snd.outbuf.get (s.address i) = none ↔
          s.snd.outbuf.get (s.address i) = none ∨ s.Taken d selack front i) := by
  let r : Received := ⟨d, 0, selack⟩
  have hMeasured : QuietPath env (.packet r) s _ := (path_countDuplicateAck env (.packet r) d.header s).trans
    (path_measureAcks env (.packet r) d d.header selack (s.acksOf d.header) _)
  unfold receiveAcks
  dsimp only
  generalize (s.countDuplicateAck env d.header).measureAcks env d d.header selack (s.acksOf d.header) = a
    at hMeasured ⊢
  have hControl : QuietPath env (.packet r) s _ :=
    hMeasured.trans (path_controlWindow env (.packet r) d.header time a.1 a.2)
  generalize a.2.controlWindow d.header time a.1 = w at hControl ⊢
  have hView := hControl.view h.view.bounds.ackNr_lt
  have hSeq : w.snd.seqNr = s.snd.seqNr := congrArg View.seqNr hView
  have hCount : w.snd.curWindowPackets = s.snd.curWindowPackets := congrArg View.curWindowPackets hView
  have hBuf : w.snd.outbuf = s.snd.outbuf := congrArg View.outbuf hView
  have hState : w.state = s.state := congrArg View.state hView
  have hAcks : w.acksOf d.header = s.acksOf d.header := acksOf_congr _ hSeq hCount
  have hCore : Core w := h.sendPath hControl.path
  have hDone : AcksDone env (.packet r) w _ := spec_processAcks env (.packet r) hCore rfl
  rw [← hState] at hUp
  obtain ⟨front, t, hFront, hTrim, hRepeats⟩ := trimmed_processAcks env hCore hUp
  rw [if_pos (by rw [hCount]; exact (acksOf_spec d.header s).1), ← hAcks]
  generalize w.processAcks env d.header (w.acksOf d.header) = x at hDone hRepeats ⊢
  have hLoose : Trimmed front s t := Nat.zero_add front ▸ (Trimmed.of_snd hSeq hCount hBuf).trans hTrim
  have hAfter := hCore.sendPath hDone.path
  have hSize := (fits_of_core hAfter).size_dvd
  refine ⟨front, hFront.of_snd hSeq hCount hBuf, ?_, fun i hi => ?_⟩
  · cases selack with
    | none => exact hSize
    | some mask =>
        dsimp only
        rw [size_selectiveAck env d mask _ hSize]
        exact hSize
  cases selack with
  | none =>
      dsimp only
      rw [hRepeats.none_iff, hLoose.get (fits_of_core h) hi]
      split_ifs with hGone
      · exact iff_of_true rfl (Or.inr (Or.inl hGone))
      · refine (or_iff_left ?_).symm
        rintro (hBefore | ⟨-, -, mask, hMask, -⟩)
        · exact hGone hBefore
        · cases hMask
  | some mask => exact taken_selectiveAck env hAfter (fits_of_core h) hLoose hRepeats hi

end Conn

/-- A socket that waits for the answer to its SYN has no payload in its queue. -/
def Greets (s : Conn) : Prop := s.state = .synSent → ∀ j pkt, s.packetAt j = some pkt → pkt.length = 20

/-- A socket that has only shed packets has no other first packet. -/
theorem Greets.sheds {s s' : Conn} (h : Greets s) (hState : s'.state = s.state) (hSheds : Conn.Sheds s s') :
    Greets s' := by
  intro hSent j pkt' hAt
  obtain ⟨pkt, hOld, hKin⟩ := hSheds.packets j pkt' hAt
  rw [hKin.length]
  exact h (hState.symm.trans hSent) j pkt hOld

/-- Nothing is added to the queue of a socket that is not connected. -/
theorem Core.sheds_queueing {env : Env} {cause : Cause} {s s' : Conn} (h : Core s) (hQueue : Queueing env cause s s')
    (hDown : s.state.open = false) : Conn.Sheds s s' := by
  have hUp : s.state ≠ .connected := by
    rintro hUp
    rw [hUp] at hDown
    cases hDown
  cases hQueue with
  | append bytes hState => exact absurd hState hUp
  | appendFin hState => cases hDown.symm.trans hState
  | fill pkt bytes hState => exact absurd hState hUp
  | send v => exact Conn.sheds_sendPacket env v s
  | acked _ r hCause hRun hFront => exact AckStep.sheds_run hRun h.view.toLooseOk
  | sacked r mask bits => exact (Conn.sheds_ackPacket env _ s).trans (Conn.sheds_of_snd rfl rfl rfl)
  | lost i => exact Conn.sheds_losePacket i s
  | advance r =>
      unfold Conn.updateFastResend
      split_ifs <;> exact Conn.sheds_of_snd rfl rfl rfl
  | retried => exact Conn.sheds_of_snd rfl rfl rfl
  | resent v => exact Conn.sheds_of_snd rfl rfl rfl

/-- So a socket that waits for the answer to its SYN has no other packet, over all its transitions. -/
theorem preserved_greets (env : Env) : Preserved env Greets := by
  refine .of_trans ?_ ?_ fun s currentMs tick h => h
  · intro s addr connSeed connIdRecv connIdSend _ _ hSent
    have hView := Conn.view_initializeSocket env addr connSeed connIdRecv connIdSend s
    cases (congrArg View.state hView).symm.trans hSent
  · intro cause s s' hCore hLive h hTrans
    cases hTrans with
    | setup hSetup =>
        intro hSent
        cases hSetup with
        | initialise addr connSeed connIdRecv connIdSend hState =>
            have hView := Conn.view_initializeSocket env addr connSeed connIdRecv connIdSend s
            cases (congrArg View.state hView).symm.trans hSent
        | dial hState hCount hPointer =>
            have hStart : (s.startConnect env).snd.curWindowPackets = 0 := hCount
            obtain ⟨hNew, hOld⟩ : (s.startConnect env).queueSyn.packetAt 0 = some (s.startConnect env).synPacket ∧
                ∀ j, (s.startConnect env).queueSyn.packetAt (j + 1) = (s.startConnect env).packetAt j :=
              (hCore.startConnect hState hCount).packetAt_enqueued (by omega) rfl rfl rfl
            intro j pkt hAt
            cases j with
            | zero =>
                cases Option.some.inj (hNew.symm.trans hAt)
                rfl
            | succ j =>
                rw [hOld, Conn.packetAt_of_empty hStart] at hAt
                cases hAt
        | accept d hCause hState hCount => cases hSent
    | sending hSend =>
        cases hSend with
        | quiet hQuiet =>
            have hView := hQuiet.view hCore.view.bounds.ackNr_lt
            exact h.sheds (congrArg View.state hView) (Conn.sheds_of_view hView)
        | queueing hQueue =>
            have hState : s'.state = s.state := congrArg Backdrop.state hQueue.backdrop
            intro hSent
            have hDown : s.state.open = false := by
              rw [← hState, hSent]
              rfl
            exact h.sheds hState (hCore.sheds_queueing hQueue hDown) hSent
        | moving hMove =>
            have hSnd := hMove.snd
            have hSheds : Conn.Sheds s s' := Conn.sheds_of_snd (by rw [hSnd]) (by rw [hSnd]) (by rw [hSnd])
            intro hSent
            cases hMove.story with
            | none hTrace hState => exact h.sheds hState hSheds hSent
            | closing hTrace hState hClose => exact h.sheds hState hSheds hSent
            | full hTrace hBefore hState => cases hState.symm.trans hSent
            | closed hTrace hBefore hState => cases hState.symm.trans hSent
            | failed dst code hTrace hDst hState =>
                rcases hDst with rfl | rfl
                · cases hState.symm.trans hSent
                · cases hState.symm.trans hSent
            | up e hTrace hBefore hState hEvent => cases hState.symm.trans hSent
    | receiving hReceive =>
        have hFore := hReceive.foreground
        have hSnd : s'.snd = s.snd := congrArg Foreground.snd hFore
        exact h.sheds (congrArg Foreground.state hFore)
          (Conn.sheds_of_snd (by rw [hSnd]) (by rw [hSnd]) (by rw [hSnd]))

end Utp
