import Utp.Invariant.Acked
import Utp.Library.Sums
import Utp.Guarantees.Stream

/-! The bytes that an ack is counted for, and the packets that it takes out of the queue. -/
namespace Utp

open Wrapping

namespace Conn

/-- The number of bytes that `utp_process_incoming` feeds to the congestion controller. -/
def ackedBytes (env : Env) (d : Datagram) (selack : Option SackMask) (s : Conn) : Nat :=
  ((s.countDuplicateAck env d.header).measureAcks env d d.header selack (s.acksOf d.header)).1.ackedBytes

/-- The payload of the packets of the queue of `s` that are not in the buffer of `t`. -/
def removedBytes (s t : Conn) : Nat :=
  ∑ i ∈ Finset.range s.snd.curWindowPackets,
    if (t.snd.outbuf.get (s.snd.windowSeq i)).isNone then
      ((s.snd.outbuf.get (s.snd.windowSeq i)).map (·.payload)).getD 0
    else 0

/-- The payload of a packet that has been sent. -/
def sentPayload (x : Int) (s : Conn) : Nat := ((s.snd.sentAt x).map (·.payload)).getD 0

/-- An ack is counted for a packet. -/
def CountedFor (d : Datagram) (selack : Option SackMask) (i : Nat) (s : Conn) : Prop :=
  i < s.acksOf d.header ∨
    0 < i ∧ ∃ mask, selack = some mask ∧ Marked d mask (mask.extLen * 8 + 1) (s.address i)

/-- Why an ack may be counted for the `i`-th oldest packet and leave it in the queue. -/
inductive Overcounted (d : Datagram) (selack : Option SackMask) (i : Nat) (s : Conn) : Prop where
  /-- The ack covers it, but also a packet before it that has not been sent. -/
  | behindUnsent (j : Nat) (hBefore : j < i) (hAcked : i < s.acksOf d.header) (pkt : OutgoingPacket)
      (hGet : s.snd.outbuf.get (s.snd.windowSeq j) = some pkt) (hUnsent : pkt.transmissions = 0)
  /-- The bit that follows the mask in memory is set for it. -/
  | pastMask (mask : SackMask) (hMask : selack = some mask) (hPos : 0 < i)
      (hBit : mask.bit d (mask.extLen * 8) = true)
      (hNumber : u16 (d.header.ackNr + 2 + (mask.extLen * 8 : Nat)) = s.snd.windowSeq i)
  /-- A bit is set for it, and the cumulative ack makes it the oldest packet. -/
  | becomesOldest (mask : SackMask) (hMask : selack = some mask) (bits : Nat) (hBits : bits < mask.extLen * 8)
      (hBit : mask.bit d bits = true) (hNumber : u16 (d.header.ackNr + 2 + bits) = s.snd.windowSeq i)
      (hAcks : 0 < s.acksOf d.header)
      (hSent : ∀ j < s.acksOf d.header, ∀ pkt, s.snd.outbuf.get (s.snd.windowSeq j) = some pkt →
        pkt.transmissions ≠ 0)
      (hGone : ∀ j, s.acksOf d.header ≤ j → j < i → s.snd.outbuf.get (s.snd.windowSeq j) = none)

theorem Fits.windowSeq {s : Conn} (h : Fits s) (i : Nat) :
    s.snd.outbuf.get (s.snd.windowSeq i) = s.snd.outbuf.get (s.address i) :=
  h.get_u16 (s.address i)

theorem sentPayload_of_get {x : Int} {s : Conn} {pkt : OutgoingPacket} (hGet : s.snd.outbuf.get x = some pkt) :
    s.sentPayload x = if pkt.transmissions = 0 then 0 else pkt.payload := by
  unfold sentPayload SendState.sentAt
  rw [hGet]
  split_ifs with hUnsent
  · rw [Option.filter_some_neg (by simpa using hUnsent)]
    rfl
  · rw [Option.filter_some_pos (by simpa using hUnsent)]
    rfl

theorem sentPayload_of_none {x : Int} {s : Conn} (hGet : s.snd.outbuf.get x = none) : s.sentPayload x = 0 := by
  unfold sentPayload SendState.sentAt
  rw [hGet]
  rfl

/-- The bytes of a list of packets are added to those counted before. -/
theorem ackedBytes_foldl (now : Nat) (l : List OutgoingPacket) (a : AckedBytes) :
    (l.foldl (AckedBytes.count now) a).ackedBytes = a.ackedBytes + (l.map (·.payload)).sum := by
  induction l generalizing a with
  | nil => simp
  | cons pkt l ih =>
      rw [List.foldl_cons, ih]
      simp [AckedBytes.count, Nat.add_assoc]

theorem Fits.sentPayload_congr {s : Conn} (h : Fits s) {x y : Int} (hNumber : u16 x = u16 y) :
    s.sentPayload x = s.sentPayload y := by
  have hSame : s.snd.outbuf.get x = s.snd.outbuf.get y := by
    rw [← h.get_u16 x, ← h.get_u16 y, hNumber]
  unfold sentPayload SendState.sentAt
  rw [hSame]

/-- A bit of the mask is set for the `i`-th oldest packet, which is not the oldest. -/
def BitFor (d : Datagram) (mask : SackMask) (bits i : Nat) (s : Conn) : Prop :=
  0 < i ∧ mask.bit d bits = true ∧ u16 (d.header.ackNr + 2 + bits) = u16 (s.address i)

open Classical in
/-- A bit is counted for the packet it stands for. -/
theorem payload_sackCountedAt (d : Datagram) (mask : SackMask) (bits : Nat) {s : Conn} (h : Fits s)
    (hPos : 0 < s.snd.curWindowPackets) :
    ((s.sackCountedAt d mask (u16 (d.header.ackNr + 2)) bits).map (·.payload)).getD 0 =
      ∑ i ∈ Finset.range s.snd.curWindowPackets,
        if s.BitFor d mask bits i then s.sentPayload (s.address i) else 0 := by
  have hLimit : s.snd.curWindowPackets ≤ 1024 := h.count_le.trans h.size_le
  have hNumber : u16 ((u16 (d.header.ackNr + 2) : Nat) + bits) = u16 (d.header.ackNr + 2 + bits) := by
    have := u16_emod (d.header.ackNr + 2)
    rw [u16_eq_iff]
    omega
  have hInside := inside_iff hLimit hPos ((u16 (d.header.ackNr + 2) : Nat) + bits)
  rw [hNumber] at hInside
  have hTerm : ∀ i ∈ Finset.range s.snd.curWindowPackets,
      (if s.BitFor d mask bits i then s.sentPayload (s.address i) else 0) =
        if s.BitFor d mask bits i then s.sentPayload ((u16 (d.header.ackNr + 2) : Nat) + bits) else 0 := by
    intro i _
    split_ifs with hBit
    · exact h.sentPayload_congr (hBit.2.2.symm.trans hNumber.symm)
    · rfl
  rw [Finset.sum_congr rfl hTerm, Sums.sum_ite_of_unique]
  · have hBits : (∃ i < s.snd.curWindowPackets, s.BitFor d mask bits i) ↔
        s.outsideWindow ((u16 (d.header.ackNr + 2) : Nat) + bits) = false ∧ mask.bit d bits = true := by
      rw [hInside]
      constructor
      · rintro ⟨i, hi, hFirst, hBit, hAt⟩
        exact ⟨⟨i, hi, hFirst, hAt⟩, hBit⟩
      · rintro ⟨⟨i, hi, hFirst, hAt⟩, hBit⟩
        exact ⟨i, hi, hFirst, hBit, hAt⟩
    unfold sackCountedAt
    rw [if_congr hBits rfl rfl]
    cases s.outsideWindow ((u16 (d.header.ackNr + 2) : Nat) + bits) <;> cases mask.bit d bits <;> simp [sentPayload]
  · intro i hi j hj hFirst hSecond
    exact address_inj hLimit hi hj (hFirst.2.2.symm.trans hSecond.2.2)

open Classical in
/-- The bytes that the mask is counted for, packet by packet. -/
theorem sum_sackCountedBy (d : Datagram) {mask : SackMask} (hLength : mask.extLen < 256) {s : Conn} (h : Fits s) :
    ((s.sackCountedBy d (some mask)).map (·.payload)).sum = ∑ i ∈ Finset.range s.snd.curWindowPackets,
      if 0 < i ∧ Marked d mask (mask.extLen * 8 + 1) (s.address i) then s.sentPayload (s.address i) else 0 := by
  unfold sackCountedBy
  by_cases hZero : s.snd.curWindowPackets = 0
  · simp [hZero]
  have hPacket : ∀ i, (∑ bits ∈ Finset.range (mask.extLen * 8 + 1),
      if s.BitFor d mask bits i then s.sentPayload (s.address i) else 0) =
      if 0 < i ∧ Marked d mask (mask.extLen * 8 + 1) (s.address i) then s.sentPayload (s.address i) else 0 := by
    intro i
    rw [Sums.sum_ite_of_unique]
    · refine if_congr ?_ rfl rfl
      constructor
      · rintro ⟨bits, hBits, hPos, hBit, hAt⟩
        exact ⟨hPos, bits, hBits, hBit, hAt⟩
      · rintro ⟨hPos, bits, hBits, hBit, hAt⟩
        exact ⟨bits, hBits, hPos, hBit, hAt⟩
    · intro b hb b' hb' hFirst hSecond
      have hSame := hFirst.2.2.trans hSecond.2.2.symm
      rw [u16_eq_iff] at hSame
      omega
  dsimp only
  rw [if_neg hZero]
  unfold sackCounted
  rw [Sums.sum_filterMap, List.map_reverse, List.sum_reverse]
  change (∑ bits ∈ Finset.range (mask.extLen * 8 + 1), _) = _
  rw [Finset.sum_congr rfl fun bits _ => payload_sackCountedAt d mask bits h (Nat.pos_of_ne_zero hZero),
    Finset.sum_comm]
  exact Finset.sum_congr rfl fun i _ => hPacket i

/-- The mask starts two numbers past the last one that the cumulative ack covers. -/
theorem not_marked_of_acked {d : Datagram} {mask : SackMask} (hLength : mask.extLen < 256) {s : Conn}
    (hLimit : s.snd.curWindowPackets ≤ 1024) {i : Nat} (hAcked : i < s.acksOf d.header) :
    ¬Marked d mask (mask.extLen * 8 + 1) (s.address i) := by
  rintro ⟨bits, hBits, -, hAt⟩
  obtain ⟨hAcks, hNumber⟩ := acksOf_spec d.header s
  have hDvd := hNumber (by omega)
  rw [u16_eq_iff] at hAt
  unfold address at hAt
  omega

open Classical in
/-- The bytes that an ack is counted for, packet by packet. -/
theorem ackedBytes_eq (env : Env) (d : Datagram) {selack : Option SackMask}
    (hMask : ∀ mask, selack = some mask → mask.extLen < 256) {s : Conn} (h : Fits s) :
    s.ackedBytes env d selack = ∑ i ∈ Finset.range s.snd.curWindowPackets,
      if s.CountedFor d selack i then s.sentPayload (s.address i) else 0 := by
  have hLimit : s.snd.curWindowPackets ≤ 1024 := h.count_le.trans h.size_le
  obtain ⟨hAcks, hNumber⟩ := acksOf_spec d.header s
  obtain ⟨hSeq, hCount, hBuf, -⟩ := snd_countDuplicateAck env d.header s
  have hSame : Trimmed 0 s (s.countDuplicateAck env d.header) := .of_snd hSeq hCount hBuf
  have hAddress : ∀ i, (s.countDuplicateAck env d.header).address i = s.address i := fun i =>
    (hSame.address i).trans (by rw [Nat.zero_add])
  have hPayload : ∀ x, (s.countDuplicateAck env d.header).sentPayload x = s.sentPayload x := by
    intro x
    unfold sentPayload SendState.sentAt
    rw [hBuf]
  have hFits := hSame.fits h
  unfold ackedBytes
  rw [(measureAcks_eq env d selack _ _).1, ackedBytes_foldl, ackedBytes_foldl, Nat.zero_add]
  generalize s.countDuplicateAck env d.header = t at *
  have hCumulative : ((t.snd.counted (s.acksOf d.header) 0).map (·.payload)).sum =
      ∑ i ∈ Finset.range s.snd.curWindowPackets,
        if i < s.acksOf d.header then s.sentPayload (s.address i) else 0 := by
    have hTerm : ∀ i, ((t.snd.sentAt (u16 (t.address i))).map (·.payload)).getD 0 = s.sentPayload (s.address i) := by
      intro i
      rw [← hPayload, ← hAddress i]
      exact hFits.sentPayload_congr (u16_eq_iff _ _ |>.2 (by have := u16_emod (t.address i); omega))
    have hRange : (Finset.range s.snd.curWindowPackets).filter (· < s.acksOf d.header) =
        Finset.range (s.acksOf d.header) := by
      ext i
      simp only [Finset.mem_filter, Finset.mem_range]
      omega
    unfold SendState.counted
    rw [Sums.sum_filterMap, ← List.range_eq_range', ← Finset.sum_filter, hRange]
    change (∑ i ∈ Finset.range (s.acksOf d.header), _) = _
    exact Finset.sum_congr rfl fun i _ => hTerm i
  rw [hCumulative]
  cases selack with
  | none => simp [sackCountedBy, CountedFor]
  | some mask =>
      have hLength := hMask mask rfl
      rw [sum_sackCountedBy d hLength hFits, hCount, ← Finset.sum_add_distrib]
      refine Finset.sum_congr rfl fun i hi => ?_
      rw [hAddress, hPayload]
      by_cases hAcked : i < s.acksOf d.header
      · have hFor : s.CountedFor d (some mask) i := Or.inl hAcked
        have hApart := not_marked_of_acked hLength hLimit hAcked
        rw [if_pos hAcked, if_neg fun hBoth => hApart hBoth.2, if_pos hFor, Nat.add_zero]
      · rw [if_neg hAcked, Nat.zero_add]
        refine if_congr ?_ rfl rfl
        unfold CountedFor
        simp [hAcked]

/-- The packets that an ack takes out of the queue have been sent. -/
theorem FrontAfter.sent {acks front i : Nat} {s : Conn} (h : FrontAfter acks s front) (hi : i < front)
    {pkt : OutgoingPacket} (hGet : s.snd.outbuf.get (s.address i) = some pkt) : pkt.transmissions ≠ 0 := by
  cases h with
  | passed hAcks hSent hGone hLeft =>
      by_cases hAcked : i < acks
      · exact fun hUnsent => hSent i hAcked ⟨pkt, hGet, hUnsent⟩
      · cases (hGone i (Nat.le_of_not_lt hAcked) hi).symm.trans hGet
  | stopped hAcks hSent hUnsent => exact fun hNever => hSent i hi ⟨pkt, hGet, hNever⟩

open Classical in
/-- The bytes that leave the queue, packet by packet. -/
theorem removedBytes_eq {d : Datagram} {selack : Option SackMask} {front : Nat} {s t : Conn} (h : Fits s)
    (hSize : (t.snd.outbuf.size : Int) ∣ 65536) (hFront : FrontAfter (s.acksOf d.header) s front)
    (hTaken : ∀ i < s.snd.curWindowPackets, (t.snd.outbuf.get (s.address i) = none ↔
      s.snd.outbuf.get (s.address i) = none ∨ s.Taken d selack front i)) :
    removedBytes s t = ∑ i ∈ Finset.range s.snd.curWindowPackets,
      if s.Taken d selack front i then s.sentPayload (s.address i) else 0 := by
  refine Finset.sum_congr rfl fun i hi => ?_
  have hNumber : t.snd.outbuf.get (s.snd.windowSeq i) = t.snd.outbuf.get (s.address i) := by
    apply t.snd.outbuf.get_congr
    refine hSize.trans ?_
    have := u16_emod (s.address i)
    change (65536 : Int) ∣ (u16 (s.address i) : Nat) - s.address i
    omega
  rw [h.windowSeq, hNumber]
  have hIff := hTaken i (Finset.mem_range.1 hi)
  cases hGet : s.snd.outbuf.get (s.address i) with
  | none => simp [sentPayload_of_none hGet]
  | some pkt =>
      rw [hGet] at hIff
      simp only [reduceCtorEq, false_or] at hIff
      rw [sentPayload_of_get hGet]
      by_cases hGone : s.Taken d selack front i
      · have hSent : pkt.transmissions ≠ 0 := by
          rcases hGone with hBefore | ⟨-, ⟨pkt', hAt, hSent⟩, -⟩
          · exact hFront.sent hBefore hGet
          · cases hGet.symm.trans hAt
            exact hSent
        rw [hIff.2 hGone]
        simp [hGone, hSent]
      · have hSome : (t.snd.outbuf.get (s.address i)).isNone = false := by
          rw [Option.isNone_eq_false_iff, Option.isSome_iff_ne_none]
          exact fun hNone => hGone (hIff.1 hNone)
        simp [hGone, hSome]

/-- What leaves the queue is counted. -/
theorem CountedFor.of_taken {d : Datagram} {selack : Option SackMask} {front i : Nat} {s : Conn}
    (hFront : FrontAfter (s.acksOf d.header) s front) (hTaken : s.Taken d selack front i)
    (hSent : s.Sent (s.address i)) : s.CountedFor d selack i := by
  rcases hTaken with hBefore | ⟨hBehind, -, mask, hMask, bits, hBits, hBit, hNumber⟩
  · refine Or.inl ?_
    cases hFront with
    | passed hAcks hAll hGone hLeft =>
        by_contra hOut
        obtain ⟨pkt, hGet, -⟩ := hSent
        cases (hGone i (Nat.le_of_not_lt hOut) hBefore).symm.trans hGet
    | stopped hAcks hAll hUnsent => exact hBefore.trans hAcks
  · exact Or.inr ⟨by omega, mask, hMask, bits, by omega, hBit, hNumber⟩

/-- Where the queue starts afterwards, seen from a packet that has been sent and that the mask
is about. -/
theorem FrontAfter.le_of_marked {d : Datagram} {mask : SackMask} {front i : Nat} {s : Conn}
    (h : FrontAfter (s.acksOf d.header) s front) (hLength : mask.extLen < 256)
    (hLimit : s.snd.curWindowPackets ≤ 1024) (hSent : s.Sent (s.address i))
    (hMarked : Marked d mask (mask.extLen * 8 + 1) (s.address i)) : front ≤ i := by
  by_contra hBefore
  have hPast : ¬i < s.acksOf d.header := fun hAcked => not_marked_of_acked hLength hLimit hAcked hMarked
  cases h with
  | passed hAcks hAll hGone hLeft =>
      obtain ⟨pkt, hGet, -⟩ := hSent
      cases (hGone i (Nat.le_of_not_lt hPast) (Nat.lt_of_not_le hBefore)).symm.trans hGet
  | stopped hAcks hAll hUnsent => omega

theorem not_unsent {x : Int} {s : Conn} (h : s.Sent x) : ¬s.Unsent x := by
  rintro ⟨pkt, hGet, hNever⟩
  obtain ⟨pkt', hAt, hSent⟩ := h
  cases hGet.symm.trans hAt
  exact hSent hNever

/-- The packets that are counted and stay. -/
theorem overcounted_iff {d : Datagram} {selack : Option SackMask} {front i : Nat} {s : Conn} (h : Fits s)
    (hQueued : 0 < s.snd.curWindowPackets → s.snd.outbuf.get (s.address 0) ≠ none)
    (hMask : ∀ mask, selack = some mask → mask.extLen < 256)
    (hFront : FrontAfter (s.acksOf d.header) s front) (hi : i < s.snd.curWindowPackets)
    (hSent : s.Sent (s.address i)) :
    s.CountedFor d selack i ∧ ¬s.Taken d selack front i ↔ s.Overcounted d selack i := by
  have hLimit : s.snd.curWindowPackets ≤ 1024 := h.count_le.trans h.size_le
  constructor
  · rintro ⟨hCounted, hStays⟩
    rcases hCounted with hAcked | ⟨hPos, mask, hSome, bits, hBits, hBit, hNumber⟩
    · cases hFront with
      | passed hAcks hAll hGone hLeft => exact absurd (Or.inl (by omega)) hStays
      | stopped hAcks hAll hUnsent =>
          have hOther : front ≠ i := by
            rintro rfl
            exact not_unsent hSent hUnsent
          have hPast : ¬i < front := fun hBefore => hStays (Or.inl hBefore)
          obtain ⟨pkt, hGet, hNever⟩ := hUnsent
          exact .behindUnsent front (by omega) hAcked pkt ((h.windowSeq front).trans hGet) hNever
    · rcases Nat.lt_succ_iff_lt_or_eq.1 hBits with hInside | rfl
      · have hPast := hFront.le_of_marked (hMask mask hSome) hLimit hSent ⟨bits, hBits, hBit, hNumber⟩
        obtain rfl : front = i := by
          by_contra hNe
          exact hStays (Or.inr ⟨by omega, hSent, mask, hSome, bits, hInside, hBit, hNumber⟩)
        cases hFront with
        | passed hAcks hAll hGone hLeft =>
            refine .becomesOldest mask hSome bits hInside hBit hNumber ?_ ?_ ?_
            · by_contra hNone
              exact hQueued (by omega) (hGone 0 (by omega) hPos)
            · intro j hj pkt hGet hNever
              rw [h.windowSeq] at hGet
              exact hAll j hj ⟨pkt, hGet, hNever⟩
            · intro j hLow hHigh
              rw [h.windowSeq]
              exact hGone j hLow hHigh
        | stopped hAcks hAll hUnsent => exact absurd hUnsent (not_unsent hSent)
      · exact .pastMask mask hSome hPos hBit hNumber
  · intro hOver
    cases hOver with
    | behindUnsent j hBefore hAcked pkt hGet hUnsent =>
        rw [h.windowSeq] at hGet
        refine ⟨Or.inl hAcked, ?_⟩
        rintro (hGone | ⟨-, -, mask, hSome, bits, hBits, hBit, hNumber⟩)
        · exact hFront.sent (hBefore.trans hGone) hGet hUnsent
        · exact not_marked_of_acked (hMask mask hSome) hLimit hAcked ⟨bits, by omega, hBit, hNumber⟩
    | pastMask mask hSome hPos hBit hNumber =>
        have hMarked : Marked d mask (mask.extLen * 8 + 1) (s.address i) :=
          ⟨mask.extLen * 8, Nat.lt_succ_self _, hBit, hNumber⟩
        have hLength := hMask mask hSome
        have hPast := hFront.le_of_marked hLength hLimit hSent hMarked
        refine ⟨Or.inr ⟨hPos, mask, hSome, hMarked⟩, ?_⟩
        rintro (hGone | ⟨-, -, mask', hSame, bits, hBits, -, hOther⟩)
        · omega
        · cases hSome.symm.trans hSame
          have hTwice := hNumber.trans hOther.symm
          rw [u16_eq_iff] at hTwice
          omega
    | becomesOldest mask hSome bits hBits hBit hNumber hAcks hAll hGone =>
        have hMarked : Marked d mask (mask.extLen * 8 + 1) (s.address i) := ⟨bits, by omega, hBit, hNumber⟩
        have hPast : ¬i < s.acksOf d.header := fun hAcked =>
          not_marked_of_acked (hMask mask hSome) hLimit hAcked hMarked
        have hLow := hFront.le_of_marked (hMask mask hSome) hLimit hSent hMarked
        refine ⟨Or.inr ⟨by omega, mask, hSome, hMarked⟩, ?_⟩
        rintro (hBefore | ⟨hBehind, -⟩)
        · omega
        · cases hFront with
          | passed hLate hEach hNone hLeft =>
              refine hLeft (by omega) ?_
              rw [← h.windowSeq]
              exact hGone front hLate hBehind
          | stopped hEarly hEach hUnsent =>
              obtain ⟨pkt, hGet, hNever⟩ := hUnsent
              rw [← h.windowSeq] at hGet
              exact hAll front hEarly pkt hGet hNever

end Conn

/-- The queue at the acknowledgments holds no payload if the answer to a SYN is awaited there. -/
theorem payload_of_greets {s : Conn} (h : Core s) (hGreets : Greets s) (hState : s.state = .synSent) {i : Nat}
    (hi : i < s.snd.curWindowPackets) {pkt : OutgoingPacket} (hGet : s.snd.outbuf.get (s.address i) = some pkt) :
    pkt.payload = 0 := by
  have hPlace : s.packetAt (s.snd.curWindowPackets - 1 - i) = some pkt := by
    have hAddress : (s.snd.seqNr : Int) - 1 - (s.snd.curWindowPackets - 1 - i : Nat) = s.address i := by
      unfold Conn.address
      omega
    unfold Conn.packetAt
    rw [if_pos (by omega), hAddress, hGet]
  have hLength := (h.packet_ok hPlace).length
  rw [hGreets hState _ pkt hPlace] at hLength
  omega

/-- Counting an ack and taking packets out of the queue for it agree, unless a packet with
payload is counted and left there. -/
theorem acked_bytes_are_removed (env : Env) (c : Context) (hReach : c.Reachable env) (p : Nat) (sock : Socket)
    (hSock : c.sockets p = some sock) (d : Datagram) (a : AckPoint)
    (hPoint : (c.enter p sock).ackPoint env d = some a) :
    a.state.ackedBytes env d a.selack =
        a.state.removedBytes (a.state.receiveAcks env d d.header a.selack a.time) ↔
      ∀ i < a.state.snd.curWindowPackets, ∀ pkt, a.state.snd.outbuf.get (a.state.snd.windowSeq i) = some pkt →
        pkt.transmissions ≠ 0 → pkt.payload ≠ 0 → ¬a.state.Overcounted d a.selack i := by
  classical
  have hStart := hReach.ok.core p sock hSock
  obtain ⟨ackNr, hView⟩ := Conn.view_ackPoint hPoint hStart.view.bounds.ackNr_lt
  have hCore : Core a.state := hStart.path (Conn.path_ackPoint hPoint)
  have hMask : ∀ mask, a.selack = some mask → mask.extLen < 256 := by
    intro mask hSome
    obtain ⟨-, -, -, -, t, hParse, -⟩ := Conn.ackPoint_cases hPoint
    rw [hSome] at hParse
    exact Conn.extLen_skipExtensions (congrArg Prod.fst hParse)
  have hGreets : Greets a.state := by
    have hBefore : Greets (c.enter p sock) := by
      by_cases hNew : sock.state = .uninitialized
      · exact fun hSent => nomatch hNew.symm.trans hSent
      · exact (preserved_greets env).reachable hReach p sock ⟨hSock, hNew⟩
    exact hBefore.sheds (congrArg View.state hView) (Conn.sheds_of_snd (congrArg View.seqNr hView)
      (congrArg View.curWindowPackets hView) (congrArg View.outbuf hView))
  have hFits := Conn.fits_of_core hCore
  have hPayload : ∀ i, a.state.sentPayload (a.state.address i) ≠ 0 ↔ ∃ pkt,
      a.state.snd.outbuf.get (a.state.snd.windowSeq i) = some pkt ∧ pkt.transmissions ≠ 0 ∧ pkt.payload ≠ 0 := by
    intro i
    rw [hFits.windowSeq]
    cases hGet : a.state.snd.outbuf.get (a.state.address i) with
    | none => simp [Conn.sentPayload_of_none hGet]
    | some pkt => simp [Conn.sentPayload_of_get hGet]
  have hQueued : 0 < a.state.snd.curWindowPackets → a.state.snd.outbuf.get (a.state.address 0) ≠ none := by
    intro hPos hNone
    have hFront : (a.state.snd.outbuf.get (a.state.snd.seqNr - a.state.snd.curWindowPackets)).isSome = true :=
      hCore.view.front hPos
    rw [← Int.add_zero (a.state.snd.seqNr - a.state.snd.curWindowPackets : Int)] at hFront
    change (a.state.snd.outbuf.get (a.state.address 0)).isSome = true at hFront
    rw [hNone] at hFront
    cases hFront
  by_cases hUp : d.header.type = stState ∧ a.state.state = .synSent
  · have hNone : ∀ i < a.state.snd.curWindowPackets, ∀ pkt,
        a.state.snd.outbuf.get (a.state.snd.windowSeq i) = some pkt → pkt.payload = 0 := by
      intro i hi pkt hGet
      rw [hFits.windowSeq] at hGet
      exact payload_of_greets hCore hGreets hUp.2 hi hGet
    refine iff_of_true ?_ fun i hi pkt hGet _ hSome => absurd (hNone i hi pkt hGet) hSome
    rw [Conn.ackedBytes_eq env d hMask hFits]
    refine Finset.sum_congr rfl fun i hi => ?_
    have hZero : a.state.sentPayload (a.state.address i) = 0 := by
      by_contra hPos
      obtain ⟨pkt, hGet, -, hSome⟩ := (hPayload i).1 hPos
      exact hSome (hNone i (Finset.mem_range.1 hi) pkt hGet)
    rw [hZero, ite_self]
    cases hGet : a.state.snd.outbuf.get (a.state.snd.windowSeq i) with
    | none => simp
    | some pkt => simp [hNone i (Finset.mem_range.1 hi) pkt hGet]
  · obtain ⟨front, hFront, hSize, hTaken⟩ := Conn.taken_receiveAcks env d a.selack a.time hCore hUp
    rw [Conn.ackedBytes_eq env d hMask hFits, Conn.removedBytes_eq hFits hSize hFront hTaken, Sums.sum_ite_eq_iff]
    · refine forall₂_congr fun i hi => ?_
      constructor
      · intro hZero pkt hGet hSent hSome hOver
        have hPos := (hPayload i).2 ⟨pkt, hGet, hSent, hSome⟩
        rw [hFits.windowSeq] at hGet
        obtain ⟨hCounted, hStays⟩ :=
          (Conn.overcounted_iff hFits hQueued hMask hFront hi ⟨pkt, hGet, hSent⟩).2 hOver
        exact hPos (hZero hCounted hStays)
      · intro hNever hCounted hStays
        by_contra hPos
        obtain ⟨pkt, hGet, hSent, hSome⟩ := (hPayload i).1 hPos
        refine hNever pkt hGet hSent hSome ?_
        rw [hFits.windowSeq] at hGet
        exact (Conn.overcounted_iff hFits hQueued hMask hFront hi ⟨pkt, hGet, hSent⟩).1 ⟨hCounted, hStays⟩
    · intro i hi hSome hGone
      obtain ⟨pkt, hGet, hSent, -⟩ := (hPayload i).1 hSome
      rw [hFits.windowSeq] at hGet
      exact .of_taken hFront hGone ⟨pkt, hGet, hSent⟩

/-- Two bytes are sent between two empty packets. -/
def threePacketOps : List Op :=
  [.createSocket, .connect 0 somePeer 1, .processUdp (somePacket stState 7 77 7 []) somePeer, .writev 0 [[]],
    .writev 0 [[5, 6]], .writev 0 [[]]]

/-- An ack with extension headers, from a peer that reports a delay. -/
def extendedAck (ackNr : Nat) (tail : List UInt8) : Datagram :=
  Datagram.ofList (Wire.bytes ⟨⟨stState, 1, 1, 7, 0, 5, 65536, 77, ackNr⟩, tail⟩) fun _ => 0

/-- The bytes are acked, by an ack that has an empty mask behind it. -/
theorem acked_bytes_are_removed_once : ∃ (c : Context) (sock : Socket) (a : AckPoint),
    c.Reachable steadyEnv ∧ c.sockets 0 = some sock ∧
      (c.enter 0 sock).ackPoint steadyEnv (extendedAck 9 [0, 1, 0]) = some a ∧
      a.state.ackedBytes steadyEnv (extendedAck 9 [0, 1, 0]) a.selack = 2 ∧
      a.state.removedBytes (a.state.receiveAcks steadyEnv (extendedAck 9 [0, 1, 0])
        (extendedAck 9 [0, 1, 0]).header a.selack a.time) = 2 := by
  have hRun : ((utpInit true true).run steadyEnv threePacketOps).any (fun c => (c.sockets 0).any fun sock =>
      ((c.enter 0 sock).ackPoint steadyEnv (extendedAck 9 [0, 1, 0])).any fun a =>
        a.selack.all (fun mask => mask.extLen == 1 &&
          (List.range 9).all fun bits => !mask.bit (extendedAck 9 [0, 1, 0]) bits) &&
        a.state.acksOf (extendedAck 9 [0, 1, 0]).header == 2 &&
        (a.state.snd.outbuf.get (a.state.snd.windowSeq 0)).all (fun pkt => pkt.transmissions != 0) &&
        a.state.ackedBytes steadyEnv (extendedAck 9 [0, 1, 0]) a.selack == 2) = true := by
    decide +kernel
  obtain ⟨c, hReach, hOk⟩ := Context.Reachable.exists_of_run hRun
  obtain ⟨sock, hSock, hFound⟩ := (Option.any_eq_true _ _).1 hOk
  obtain ⟨a, hPoint, hState⟩ := (Option.any_eq_true _ _).1 hFound
  simp only [Bool.and_eq_true, beq_iff_eq] at hState
  obtain ⟨⟨⟨hMask, hAcks⟩, hFirst⟩, hBytes⟩ := hState
  have hClear : ∀ mask, a.selack = some mask →
      mask.extLen = 1 ∧ ∀ bits < 9, mask.bit (extendedAck 9 [0, 1, 0]) bits = false := by
    intro mask hSome
    rw [hSome] at hMask
    simpa using hMask
  refine ⟨c, sock, a, hReach, hSock, hPoint, hBytes, ?_⟩
  rw [← hBytes]
  refine ((acked_bytes_are_removed steadyEnv c hReach 0 sock hSock _ a hPoint).2 ?_).symm
  intro i hi pkt hGet hSent hPayload hOver
  cases hOver with
  | behindUnsent j hBefore hAcked pkt' hAt hUnsent =>
      obtain rfl : j = 0 := by omega
      rw [hAt] at hFirst
      simp [hUnsent] at hFirst
  | pastMask mask hSome hPos hBit hNumber =>
      obtain ⟨hLength, hBits⟩ := hClear mask hSome
      rw [hLength, hBits _ (by decide)] at hBit
      cases hBit
  | becomesOldest mask hSome bits hInside hBit =>
      obtain ⟨hLength, hBits⟩ := hClear mask hSome
      rw [hBits bits (by omega)] at hBit
      cases hBit

/-- The mask of an ack has no bytes, but the byte that follows is taken for one of it: the two
bytes are counted as acked, and their packet stays in the queue. -/
theorem acked_bytes_past_mask : ∃ (c : Context) (sock : Socket) (a : AckPoint),
    c.Reachable steadyEnv ∧ c.sockets 0 = some sock ∧
      (c.enter 0 sock).ackPoint steadyEnv (extendedAck 7 [0, 0, 1]) = some a ∧
      Conn.actualDelay (extendedAck 7 [0, 0, 1]).header ≠ 0 ∧
      a.state.ackedBytes steadyEnv (extendedAck 7 [0, 0, 1]) a.selack = 2 ∧
      a.state.removedBytes (a.state.receiveAcks steadyEnv (extendedAck 7 [0, 0, 1])
        (extendedAck 7 [0, 0, 1]).header a.selack a.time) = 0 := by
  classical
  have hRun : ((utpInit true true).run steadyEnv threePacketOps).any (fun c => (c.sockets 0).any fun sock =>
      ((c.enter 0 sock).ackPoint steadyEnv (extendedAck 7 [0, 0, 1])).any fun a =>
        a.selack.all (fun mask => mask.extLen == 0) && a.state.state == .connected &&
          a.state.acksOf (extendedAck 7 [0, 0, 1]).header == 0 &&
          (a.state.snd.outbuf.get (a.state.address 0)).isSome &&
          a.state.ackedBytes steadyEnv (extendedAck 7 [0, 0, 1]) a.selack == 2) = true := by
    decide +kernel
  obtain ⟨c, hReach, hOk⟩ := Context.Reachable.exists_of_run hRun
  obtain ⟨sock, hSock, hFound⟩ := (Option.any_eq_true _ _).1 hOk
  obtain ⟨a, hPoint, hState⟩ := (Option.any_eq_true _ _).1 hFound
  simp only [Bool.and_eq_true, beq_iff_eq] at hState
  obtain ⟨⟨⟨⟨hMask, hUp⟩, hAcks⟩, hQueued⟩, hBytes⟩ := hState
  refine ⟨c, sock, a, hReach, hSock, hPoint, by decide +kernel, hBytes, ?_⟩
  have hCore : Core a.state := (hReach.ok.core 0 sock hSock).path (Conn.path_ackPoint hPoint)
  obtain ⟨front, hFront, hSize, hTaken⟩ := Conn.taken_receiveAcks steadyEnv (extendedAck 7 [0, 0, 1]) a.selack a.time
    hCore fun hBoth => nomatch hUp.symm.trans hBoth.2
  rw [Conn.removedBytes_eq (Conn.fits_of_core hCore) hSize hFront hTaken]
  refine Finset.sum_eq_zero fun i _ => if_neg ?_
  rw [hAcks] at hFront
  rintro (hBefore | ⟨-, -, mask, hSome, bits, hBits, -⟩)
  · cases hFront with
    | passed hPast hSent hGone hLeft =>
        rw [hGone 0 (Nat.zero_le _) (by omega)] at hQueued
        cases hQueued
    | stopped hEarly => exact absurd hEarly (Nat.not_lt_zero _)
  · rw [hSome] at hMask
    have hEmpty : mask.extLen = 0 := by simpa using hMask
    omega

end Utp
