import Utp.Invariant.Resends
import Utp.Guarantees.AckedBytes
import Mathlib.Data.List.Sort

/-! The packets that a selective ack makes the sender transmit again. -/
namespace Utp

open Wrapping

/-- The bit of a mask for a number, if the mask has one. -/
def SackMask.bitOf (d : Datagram) (base v : Int) (mask : SackMask) : Option Bool :=
  if u16 (v - base) < mask.extLen * 8 then some (mask.bit d (u16 (v - base))) else none

namespace Conn

variable (d : Datagram) (mask : SackMask) (base : Int)

/-- The number of packets behind the `i`-th oldest one for which a bit is set. -/
def ackedBehind (i : Nat) (s : Conn) : Nat :=
  ((Finset.range s.snd.curWindowPackets).filter fun j =>
    i < j ∧ mask.bitOf d base (s.snd.windowSeq j) = some true).card

/-- The `i`-th oldest packet is considered lost: it has been sent, it is the one before the base
or else has a bit that is clear and is not the oldest, three packets behind it have arrived, and
it has not been fast-resent before. -/
def lost (i : Nat) (s : Conn) : Bool :=
  (s.snd.sentAt (s.snd.windowSeq i)).isSome &&
    (s.snd.windowSeq i == u16 (base - 1) || i != 0 && mask.bitOf d base (s.snd.windowSeq i) == some false) &&
    s.ackedBehind d mask base i ≥ 3 && u16 (s.snd.windowSeq i - s.snd.fastResendSeqNr) ≤ 1024

/-- The numbers of the packets that are considered lost, in the order of the window. -/
def lostPackets (s : Conn) : List Nat :=
  ((List.range s.snd.curWindowPackets).filter fun i => s.lost d mask base i).map s.snd.windowSeq

theorem bitOf_eq_some (hLength : mask.extLen < 256) {v : Int} {x : Bool} :
    mask.bitOf d base v = some x ↔ ∃ b < mask.extLen * 8, u16 v = u16 (base + b) ∧ mask.bit d b = x := by
  have hEmod := u16_emod (v - base)
  have hLt := u16_lt (v - base)
  unfold SackMask.bitOf
  simp only [u16_eq_iff]
  split_ifs with hIn
  · rw [Option.some_inj]
    constructor
    · exact fun hBit => ⟨u16 (v - base), hIn, by omega, hBit⟩
    · rintro ⟨b, hb, hAt, hBit⟩
      obtain rfl : u16 (v - base) = b := by omega
      exact hBit
  · refine iff_of_false nofun ?_
    rintro ⟨b, hb, hAt, -⟩
    omega

/-- The place of a number in the queue. -/
theorem u16_eq_address_iff {v : Int} {i : Nat} {s : Conn} (hi : i < 65536) :
    u16 v = u16 (s.address i) ↔ u16 (v - s.address 0) = i := by
  have hEmod := u16_emod (v - s.address 0)
  have hLt := u16_lt (v - s.address 0)
  rw [u16_eq_iff]
  unfold address at *
  omega

/-- A bit is counted if it is set for a packet behind the oldest one. -/
theorem countedBit_iff {s : Conn} (hLimit : s.snd.curWindowPackets ≤ 1024) (hPos : 0 < s.snd.curWindowPackets)
    (b : Nat) : s.countedBit d mask base b = true ↔
      mask.bit d b = true ∧ ∃ j < s.snd.curWindowPackets, 0 < j ∧ u16 (base + b) = u16 (s.address j) := by
  unfold countedBit
  rw [Bool.and_eq_true, Bool.not_eq_true', inside_iff hLimit hPos]

theorem u16_windowSeq (j : Nat) (s : Conn) : u16 (s.snd.windowSeq j) = u16 (s.address j) := by
  have hEmod := u16_emod (s.address j)
  rw [u16_eq_iff]
  change (65536 : Int) ∣ (u16 (s.address j) : Nat) - s.address j
  omega

/-- The bits that are counted from the bit `k` on are those of the packets behind a place, if
the numbers are in the same order. -/
theorem countBetween_eq {s : Conn} (hLimit : s.snd.curWindowPackets ≤ 1024) (hPos : 0 < s.snd.curWindowPackets)
    (hLength : mask.extLen < 256) {i k : Nat} (hOrder : ∀ b j : Nat, b < mask.extLen * 8 → 0 < j →
      j < s.snd.curWindowPackets → u16 (base + b) = u16 (s.address j) → (k ≤ b ↔ i < j)) :
    s.countBetween d mask base k (mask.extLen * 8) = s.ackedBehind d mask base i := by
  have hPlace : ∀ b j : Nat, j < s.snd.curWindowPackets → b < mask.extLen * 8 →
      u16 (base + b) = u16 (s.address j) → u16 (base + b - s.address 0) = j ∧ u16 (s.address j - base) = b := by
    intro b j hj hb hSame
    have hEmod := u16_emod (s.address j - base)
    have hLt := u16_lt (s.address j - base)
    refine ⟨(u16_eq_address_iff (by omega)).1 hSame, ?_⟩
    rw [u16_eq_iff] at hSame
    omega
  have hBit : ∀ b < mask.extLen * 8, s.countedBit d mask base b = true → ∃ j < s.snd.curWindowPackets, 0 < j ∧
      u16 (base + b) = u16 (s.address j) ∧ mask.bitOf d base (s.snd.windowSeq j) = some true := by
    intro b hb hCounted
    obtain ⟨hSet, j, hj, hFirst, hSame⟩ := (countedBit_iff d mask base hLimit hPos b).1 hCounted
    exact ⟨j, hj, hFirst, hSame,
      (bitOf_eq_some d mask base hLength).2 ⟨b, hb, (u16_windowSeq j s).trans hSame.symm, hSet⟩⟩
  have hPacket : ∀ j < s.snd.curWindowPackets, i < j → mask.bitOf d base (s.snd.windowSeq j) = some true →
      ∃ b < mask.extLen * 8, u16 (base + b) = u16 (s.address j) ∧ s.countedBit d mask base b = true := by
    intro j hj hBehind hSome
    obtain ⟨b, hb, hSame, hSet⟩ := (bitOf_eq_some d mask base hLength).1 hSome
    rw [u16_windowSeq] at hSame
    exact ⟨b, hb, hSame.symm, (countedBit_iff d mask base hLimit hPos b).2 ⟨hSet, j, hj, by omega, hSame.symm⟩⟩
  unfold countBetween ackedBehind
  rw [← List.toFinset_card_of_nodup (List.nodup_range.filter _), List.toFinset_filter, List.toFinset_range]
  refine Finset.card_nbij' (fun b => u16 (base + b - s.address 0)) (fun j => u16 (s.address j - base)) ?_ ?_ ?_ ?_
  · intro b hb
    simp only [Finset.coe_filter, Finset.mem_range, Set.mem_ofPred_eq, Bool.and_eq_true, decide_eq_true_eq] at hb ⊢
    obtain ⟨j, hj, hFirst, hSame, hSome⟩ := hBit b hb.1 hb.2.2
    rw [(hPlace b j hj hb.1 hSame).1]
    exact ⟨hj, (hOrder b j hb.1 hFirst hj hSame).1 hb.2.1, hSome⟩
  · intro j hj
    simp only [Finset.coe_filter, Finset.mem_range, Set.mem_ofPred_eq, Bool.and_eq_true, decide_eq_true_eq] at hj ⊢
    obtain ⟨b, hb, hSame, hCounted⟩ := hPacket j hj.1 hj.2.1 hj.2.2
    rw [(hPlace b j hj.1 hb hSame).2]
    exact ⟨hb, (hOrder b j hb (by omega) hj.1 hSame).2 hj.2.1, hCounted⟩
  · intro b hb
    simp only [Finset.coe_filter, Finset.mem_range, Set.mem_ofPred_eq, Bool.and_eq_true, decide_eq_true_eq] at hb
    obtain ⟨j, hj, -, hSame, -⟩ := hBit b hb.1 hb.2.2
    obtain ⟨hAtPlace, hAtBit⟩ := hPlace b j hj hb.1 hSame
    simp only [hAtPlace, hAtBit]
  · intro j hj
    simp only [Finset.coe_filter, Finset.mem_range, Set.mem_ofPred_eq] at hj
    obtain ⟨b, hb, hSame, -⟩ := hPacket j hj.1 hj.2.1 hj.2.2
    obtain ⟨hAtPlace, hAtBit⟩ := hPlace b j hj.1 hb hSame
    simp only [hAtPlace, hAtBit]

/-- The bits that are counted from a number on are those of the packets behind it. -/
theorem countBetween_of_address {s : Conn} (hLimit : s.snd.curWindowPackets ≤ 1024) (hLength : mask.extLen < 256)
    {i k : Nat} (hi : i < s.snd.curWindowPackets) (hk : k ≤ mask.extLen * 8)
    (hAt : u16 (base - 1 + k) = u16 (s.address i)) :
    s.countBetween d mask base k (mask.extLen * 8) = s.ackedBehind d mask base i := by
  refine countBetween_eq d mask base hLimit (by omega) hLength fun b j hb hFirst hj hSame => ?_
  rw [u16_eq_iff] at hSame hAt
  unfold address at hSame hAt
  omega

/-- A packet is put on the stack if it is considered lost. -/
theorem pushes_iff {s : Conn} (h : Fits s) (hLength : mask.extLen < 256) {i k : Nat} (hi : i < s.snd.curWindowPackets)
    (hFirst : 0 < i) (hk : k ≤ mask.extLen * 8) (hAt : u16 (base - 1 + k) = u16 (s.address i)) :
    s.pushes d mask base (k - 1) (0 + s.countBetween d mask base k (mask.extLen * 8)) = true ↔
      s.lost d mask base i = true := by
  have hLimit : s.snd.curWindowPackets ≤ 1024 := h.count_le.trans h.size_le
  have hAddress : base + (k - 1 : Int) = base - 1 + k := by ring
  have hSeq : s.snd.windowSeq i = u16 (base - 1 + k) := hAt.symm
  have hInside : s.outsideWindow (base - 1 + k) = false :=
    (inside_iff hLimit (by omega) _).2 ⟨i, hi, hFirst, hAt⟩
  have hSent : s.snd.sentAt (s.snd.windowSeq i) = s.snd.sentAt (base - 1 + k) := by
    unfold SendState.sentAt
    rw [hSeq, h.get_u16]
  have hFast : u16 (s.snd.windowSeq i - s.snd.fastResendSeqNr) = u16 (base - 1 + k - s.snd.fastResendSeqNr) := by
    have hEmod := u16_emod (base - 1 + k)
    rw [u16_eq_iff, hSeq]
    omega
  have hBit : (s.snd.windowSeq i = u16 (base - 1) ∨ mask.bitOf d base (s.snd.windowSeq i) = some false) ↔
      (decide ((k : Int) - 1 ≥ 0) && mask.bit d ((k : Int) - 1).toNat) = false := by
    cases k with
    | zero =>
        refine iff_of_true (Or.inl ?_) (by simp)
        rw [hSeq]
        simp
    | succ b =>
        have hIndex : ((b + 1 : Nat) : Int) - 1 = b := by omega
        rw [hIndex, Int.toNat_natCast, bitOf_eq_some d mask base hLength]
        constructor
        · rintro (hBefore | ⟨b', hb', hSame, hClear⟩)
          · rw [hSeq, u16_eq_iff] at hBefore
            omega
          · obtain rfl : b' = b := by
              rw [u16_windowSeq, ← hAt, u16_eq_iff] at hSame
              omega
            simp [hClear]
        · intro hClear
          refine Or.inr ⟨b, by omega, ?_, by simpa using hClear⟩
          rw [u16_windowSeq, ← hAt]
          congr 1
          push_cast
          ring
  unfold pushes lost shouldResend
  rw [hAddress, hInside, hSent, hFast, Nat.zero_add, countBetween_of_address d mask base hLimit hLength hi hk hAt]
  simp only [Bool.and_eq_true, Bool.or_eq_true, Bool.not_eq_true', Bool.not_false, beq_iff_eq, bne_iff_ne, ne_eq,
    decide_eq_true_eq, true_and]
  rw [← hBit]
  have hOther : ¬i = 0 := by omega
  simp only [hOther, not_false_eq_true, true_and]
  constructor
  · rintro ⟨⟨hNumber, hSome⟩, hNear, hCount⟩
    exact ⟨⟨⟨hSome, hNumber⟩, hCount⟩, hNear⟩
  · rintro ⟨⟨⟨hSome, hNumber⟩, hCount⟩, hNear⟩
    exact ⟨⟨hNumber, hSome⟩, hNear, hCount⟩

/-- The packets on the stack, in the order of the window, are those behind the oldest one that
are considered lost. -/
theorem pushed_eq {s : Conn} (h : Fits s) (hPos : 0 < s.snd.curWindowPackets) (hLength : mask.extLen < 256) :
    (s.pushed d mask base (mask.extLen * 8) 0).map u16 =
      ((List.range' 1 (s.snd.curWindowPackets - 1)).filter fun i => s.lost d mask base i).map s.snd.windowSeq := by
  have hLimit : s.snd.curWindowPackets ≤ 1024 := h.count_le.trans h.size_le
  have hPlace : ∀ k ≤ mask.extLen * 8,
      s.pushes d mask base (k - 1) (0 + s.countBetween d mask base k (mask.extLen * 8)) = true →
        ∃ i < s.snd.curWindowPackets, 0 < i ∧ u16 (base - 1 + k) = u16 (s.address i) ∧
          u16 (base - 1 + k - s.address 0) = i := by
    intro k hk hPush
    unfold pushes at hPush
    simp only [Bool.and_eq_true, Bool.not_eq_true'] at hPush
    have hAddress : base + (k - 1 : Int) = base - 1 + k := by ring
    have hInside := hPush.1.1.1
    rw [hAddress, inside_iff hLimit hPos] at hInside
    obtain ⟨i, hi, hFirst, hAt⟩ := hInside
    exact ⟨i, hi, hFirst, hAt, (u16_eq_address_iff (by omega)).1 hAt⟩
  have hPlaces : ((List.range (mask.extLen * 8 + 1)).filter fun (k : Nat) =>
      s.pushes d mask base (k - 1) (0 + s.countBetween d mask base k (mask.extLen * 8))).map
        (fun (k : Nat) => u16 (base - 1 + k - s.address 0)) =
      (List.range' 1 (s.snd.curWindowPackets - 1)).filter fun i => s.lost d mask base i := by
    refine List.Pairwise.eq_of_mem_iff (r := (· < ·)) ?_ ?_ ?_
    · rw [List.pairwise_map]
      refine (List.pairwise_lt_range.filter _).imp_of_mem fun {k k'} hk hk' hLess => ?_
      obtain ⟨hRange, hPush⟩ := List.mem_filter.1 hk
      obtain ⟨hRange', hPush'⟩ := List.mem_filter.1 hk'
      rw [List.mem_range] at hRange hRange'
      obtain ⟨i, hi, -, hAt, hIndex⟩ := hPlace k (by omega) hPush
      obtain ⟨i', hi', -, hAt', hIndex'⟩ := hPlace k' (by omega) hPush'
      rw [hIndex, hIndex']
      rw [u16_eq_iff] at hAt hAt'
      unfold address at hAt hAt'
      omega
    · exact List.Pairwise.filter _ List.pairwise_lt_range'
    · intro i
      simp only [List.mem_map, List.mem_filter, List.mem_range, List.mem_range'_1]
      constructor
      · rintro ⟨k, ⟨hRange, hPush⟩, rfl⟩
        obtain ⟨i, hi, hFirst, hAt, hIndex⟩ := hPlace k (by omega) hPush
        rw [hIndex]
        exact ⟨by omega, (pushes_iff d mask base h hLength hi hFirst (by omega) hAt).1 hPush⟩
      · rintro ⟨hRange, hLost⟩
        obtain ⟨k, hk, hAt⟩ : ∃ k ≤ mask.extLen * 8, u16 (base - 1 + k) = u16 (s.address i) := by
          have hNumber := hLost
          unfold lost at hNumber
          simp only [Bool.and_eq_true, Bool.or_eq_true, beq_iff_eq, bne_iff_ne] at hNumber
          rcases hNumber.1.1.2 with hBefore | ⟨-, hClear⟩
          · refine ⟨0, Nat.zero_le _, ?_⟩
            have hZero : base - 1 + ((0 : Nat) : Int) = base - 1 := by simp
            rw [hZero]
            exact hBefore.symm
          · obtain ⟨b, hb, hSame, -⟩ := (bitOf_eq_some d mask base hLength).1 hClear
            refine ⟨b + 1, by omega, ?_⟩
            have hNext : base - 1 + ((b + 1 : Nat) : Int) = base + b := by
              push_cast
              ring
            rw [hNext, ← hSame, u16_windowSeq]
        refine ⟨k, ⟨by omega, ?_⟩, (u16_eq_address_iff (by omega)).1 hAt⟩
        exact (pushes_iff d mask base h hLength (by omega) (by omega) hk hAt).2 hLost
  rw [← hPlaces, List.map_map]
  unfold pushed
  rw [List.map_map]
  refine List.map_congr_left fun k hk => ?_
  obtain ⟨hRange, hPush⟩ := List.mem_filter.1 hk
  rw [List.mem_range] at hRange
  obtain ⟨i, hi, -, hAt, hIndex⟩ := hPlace k (by omega) hPush
  change u16 (base - 1 + k) = s.snd.windowSeq (u16 (base - 1 + k - s.address 0))
  rw [hIndex, hAt]
  rfl

/-- The oldest packet is the first that may be considered lost. -/
theorem lostPackets_eq {s : Conn} (h : Fits s) (hPos : 0 < s.snd.curWindowPackets) (hLength : mask.extLen < 256) :
    s.lostPackets d mask base = (if s.lost d mask base 0 then some (s.snd.windowSeq 0) else none).toList ++
      (s.pushed d mask base (mask.extLen * 8) 0).map u16 := by
  have hRange : List.range s.snd.curWindowPackets = 0 :: List.range' 1 (s.snd.curWindowPackets - 1) := by
    obtain ⟨m, hm⟩ : ∃ m, s.snd.curWindowPackets = m + 1 := ⟨_, (Nat.sub_add_cancel hPos).symm⟩
    rw [hm, List.range_eq_range', List.range'_succ, Nat.add_sub_cancel]
  rw [pushed_eq d mask base h hPos hLength]
  unfold lostPackets
  rw [hRange, List.filter_cons]
  split_ifs <;> rfl

/-- One more packet at the front is noticed. -/
theorem take_cons_ne {rest : List Nat} (hNodup : rest.Nodup) (x : Nat) : (x :: rest).take 4 ≠ rest.take 4 := by
  intro hSame
  cases rest with
  | nil => cases hSame
  | cons y rest =>
      cases rest with
      | nil => simp at hSame
      | cons z rest =>
          simp only [List.take_succ_cons, List.cons.injEq] at hSame
          obtain ⟨-, rfl, -⟩ := hSame
          simp at hNodup

/-- What is sent is what is lost only if both start with the same packet. -/
theorem take_append_inj {first second : Option Nat} {rest : List Nat} (hNodup : rest.Nodup) :
    (first.toList ++ rest).take 4 = (second.toList ++ rest).take 4 ↔ first = second := by
  refine ⟨fun hSame => ?_, fun hSame => by rw [hSame]⟩
  cases first with
  | none =>
      cases second with
      | none => rfl
      | some y => exact absurd hSame.symm (take_cons_ne hNodup y)
  | some x =>
      cases second with
      | none => exact absurd hSame (take_cons_ne hNodup x)
      | some y =>
          simp only [Option.toList_some, List.singleton_append, List.take_succ_cons, List.cons.injEq] at hSame
          rw [hSame.1]

/-- No number is twice on the stack. -/
theorem nodup_pushed {s : Conn} (h : Fits s) (hPos : 0 < s.snd.curWindowPackets) (hLength : mask.extLen < 256) :
    ((s.pushed d mask base (mask.extLen * 8) 0).map u16).Nodup := by
  rw [pushed_eq d mask base h hPos hLength]
  refine List.Nodup.map_on ?_ (List.Nodup.filter _ List.nodup_range')
  intro i hi j hj hSame
  have hIn := (List.mem_range'_1.1 (List.mem_filter.1 hi).1).2
  have hIn' := (List.mem_range'_1.1 (List.mem_filter.1 hj).1).2
  exact address_inj (h.count_le.trans h.size_le) (by omega) (by omega) hSame

theorem countBetween_all {s : Conn} (hLimit : s.snd.curWindowPackets ≤ 1024) (hPos : 0 < s.snd.curWindowPackets)
    (hLength : mask.extLen < 256) :
    s.countBetween d mask base 0 (mask.extLen * 8) = s.ackedBehind d mask base 0 :=
  countBetween_eq d mask base hLimit hPos hLength fun b _ _ hFirst _ _ => iff_of_true (Nat.zero_le b) hFirst

variable (env : Env)

/-- What the bit loop leaves of a packet: it is gone if it was sent, is not the oldest one, and
has a bit that is set. -/
theorem numberAt_selectiveAckFrom {s : Conn} (h : Core s) (hPos : 0 < s.snd.curWindowPackets)
    (hLength : mask.extLen < 256) (scan : EackScan) {x : Int} {pkt : OutgoingPacket}
    (hGet : s.snd.outbuf.get x = some pkt) :
    (s.selectiveAckFrom env d mask base (mask.extLen * 8) scan).2.numberAt x =
      if pkt.transmissions ≠ 0 ∧ pkt.header.seqNr ≠ s.snd.windowSeq 0 ∧
        mask.bitOf d base pkt.header.seqNr = some true then none else some pkt.header.seqNr := by
  have hFits := fits_of_core h
  have hLimit : s.snd.curWindowPackets ≤ 1024 := hFits.count_le.trans hFits.size_le
  have hQueue : QueueShape s.snd.seqNr s.snd.curWindowPackets s.snd.curWindow s.snd.outbuf := h.view.queue
  have hSweep := sweeps_selectiveAckFrom env d mask base (mask.extLen * 8) scan hFits.size_dvd
  obtain ⟨i, hi, hSlot⟩ := hQueue.offset_of_get hGet
  have hSeq : pkt.header.seqNr = s.snd.windowSeq i := by
    rw [s.snd.outbuf.get_congr hSlot] at hGet
    exact (hQueue.packet i hi pkt hGet).seqNr
  have hHit : (∃ b < mask.extLen * 8, s.Hits d mask base b x) ↔
      pkt.header.seqNr ≠ s.snd.windowSeq 0 ∧ mask.bitOf d base pkt.header.seqNr = some true := by
    rw [hSeq, bitOf_eq_some d mask base hLength, u16_windowSeq]
    constructor
    · rintro ⟨b, hb, hSet, hInside, hHere⟩
      obtain ⟨j, hj, hFirst, hAt⟩ := (inside_iff hLimit hPos _).1 hInside
      have hSame : j = i := by
        by_contra hOther
        refine hFits.apart hj hi hOther ?_
        rw [u16_eq_iff] at hAt
        have hEq : s.address j - s.address i = (base + b - x) + (x - s.address i) - (base + b - s.address j) := by ring
        rw [hEq]
        exact Int.dvd_sub (Int.dvd_add hHere hSlot) (hFits.size_dvd.trans hAt)
      subst hSame
      refine ⟨fun hOldest => ?_, b, hb, hAt.symm, hSet⟩
      have hZero := address_inj hLimit hj hPos hOldest
      omega
    · rintro ⟨hOther, b, hb, hAt, hSet⟩
      have hFirst : 0 < i := by
        refine Nat.pos_of_ne_zero fun hZero => hOther ?_
        rw [hZero]
      refine ⟨b, hb, hSet, (inside_iff hLimit hPos _).2 ⟨i, hi, hFirst, hAt.symm⟩, ?_⟩
      rw [u16_eq_iff] at hAt
      have hEq : base + b - x = -(s.address i - (base + b)) - (x - s.address i) := by ring
      rw [hEq]
      exact Int.dvd_sub (Int.dvd_neg.2 (hFits.size_dvd.trans hAt)) hSlot
  unfold numberAt
  split_ifs with hGone
  · rw [hSweep.left x (hHit.2 hGone.2) ⟨pkt, hGet, hGone.1⟩]
    rfl
  · rw [hSweep.kept x, hGet]
    · rfl
    · rintro ⟨hHere, pkt', hGet', hSent⟩
      obtain rfl : pkt = pkt' := Option.some.inj (hGet.symm.trans hGet')
      exact hGone ⟨hSent, hHit.1 hHere⟩

/-- The number before the base may be put on the stack after the loop: if a packet has its slot and
is due, then it has been sent, and it is the oldest one or else the mask acks it. -/
def ResendsSafe (s : Conn) : Prop :=
  ∀ pkt, s.snd.outbuf.get (base - 1) = some pkt → u16 (base - 1 - s.snd.fastResendSeqNr) ≤ 1024 →
    s.ackedBehind d mask base 0 ≥ 3 → pkt.transmissions ≠ 0 ∧
      (u16 (base - 1) = s.snd.windowSeq 0 ∨ pkt.header.seqNr ≠ s.snd.windowSeq 0 ∧
        mask.bitOf d base pkt.header.seqNr = some true)

/-- The push after the loop adds the oldest packet if it is considered lost, and nothing else. -/
theorem lastPushed_eq_iff {s : Conn} (h : Core s) (hPos : 0 < s.snd.curWindowPackets) (hLength : mask.extLen < 256) :
    s.lastPushed env d mask base (mask.extLen * 8) =
        (if s.lost d mask base 0 then some (s.snd.windowSeq 0) else none) ↔ s.ResendsSafe d mask base := by
  have hFits := fits_of_core h
  have hLimit : s.snd.curWindowPackets ≤ 1024 := hFits.count_le.trans hFits.size_le
  have hQueue : QueueShape s.snd.seqNr s.snd.curWindowPackets s.snd.curWindow s.snd.outbuf := h.view.queue
  have hOldest : s.lost d mask base 0 = true ↔ s.snd.windowSeq 0 = u16 (base - 1) ∧
      (s.snd.sentAt (base - 1)).isSome = true ∧ u16 (base - 1 - s.snd.fastResendSeqNr) ≤ 1024 ∧
        s.ackedBehind d mask base 0 ≥ 3 := by
    unfold lost
    simp only [Bool.and_eq_true, Bool.or_eq_true, beq_iff_eq, bne_self_eq_false, Bool.false_and, Bool.false_eq_true,
      or_false, decide_eq_true_eq, and_assoc]
    by_cases hAt : s.snd.windowSeq 0 = u16 (base - 1)
    · have hSent : s.snd.sentAt (s.snd.windowSeq 0) = s.snd.sentAt (base - 1) := by
        unfold SendState.sentAt
        rw [hAt, hFits.get_u16]
      have hFast : u16 (s.snd.windowSeq 0 - s.snd.fastResendSeqNr) = u16 (base - 1 - s.snd.fastResendSeqNr) := by
        have hEmod := u16_emod (base - 1)
        rw [u16_eq_iff, hAt]
        omega
      rw [hSent, hFast]
      simp only [hAt, true_and]
      exact and_congr_right fun _ => and_comm
    · simp only [hAt, false_and, and_false]
  have hShould : s.shouldResend (base - 1) ⟨s.countBetween d mask base 0 (mask.extLen * 8), []⟩ = true ↔
      u16 (base - 1 - s.snd.fastResendSeqNr) ≤ 1024 ∧ s.ackedBehind d mask base 0 ≥ 3 := by
    unfold shouldResend
    rw [countBetween_all d mask base hLimit hPos hLength, Bool.and_eq_true, decide_eq_true_eq, decide_eq_true_eq]
  unfold lastPushed ResendsSafe
  by_cases hDue : u16 (base - 1 - s.snd.fastResendSeqNr) ≤ 1024 ∧ s.ackedBehind d mask base 0 ≥ 3
  · rw [if_pos (hShould.2 hDue)]
    cases hGet : s.snd.outbuf.get (base - 1) with
    | none =>
        have hGone : (s.selectiveAckFrom env d mask base (mask.extLen * 8) ⟨0, []⟩).2.numberAt (base - 1) = none := by
          have hSweep := sweeps_selectiveAckFrom env d mask base (mask.extLen * 8) ⟨0, []⟩ hFits.size_dvd
          rw [numberAt, hSweep.kept _ (fun hBoth => by simp [hGet] at hBoth), hGet]
          rfl
        have hNever : ¬s.lost d mask base 0 = true := by
          rw [hOldest, SendState.sentAt, hGet]
          simp
        rw [hGone, if_neg hNever]
        simp
    | some pkt =>
        have hSent : (s.snd.sentAt (base - 1)).isSome = true ↔ pkt.transmissions ≠ 0 := by
          rw [SendState.sentAt, hGet]
          by_cases hZero : pkt.transmissions = 0 <;> simp [hZero]
        rw [numberAt_selectiveAckFrom d mask base env h hPos hLength _ hGet]
        simp only [Option.some.injEq, forall_eq', hDue.1, hDue.2, true_imp_iff]
        by_cases hAt : s.snd.windowSeq 0 = u16 (base - 1)
        · have hSeq : pkt.header.seqNr = s.snd.windowSeq 0 := by
            refine (hQueue.packet 0 hPos pkt ?_).seqNr
            rw [← hGet, ← hFits.get_u16 (base - 1), ← hAt]
            exact (hFits.get_u16 (s.address 0)).symm
          rw [if_neg (fun hBoth => hBoth.2.1 hSeq), hSeq]
          by_cases hZero : pkt.transmissions = 0
          · rw [if_neg (fun hLost => hSent.1 (hOldest.1 hLost).2.1 hZero)]
            exact iff_of_false (Option.some_ne_none _) fun hBoth => hBoth.1 hZero
          · rw [if_pos (hOldest.2 ⟨hAt, hSent.2 hZero, hDue⟩)]
            exact iff_of_true rfl ⟨hZero, Or.inl hAt.symm⟩
        · rw [if_neg (fun hLost => hAt (hOldest.1 hLost).1)]
          have hOther : ¬u16 (base - 1) = s.snd.windowSeq 0 := fun hSame => hAt hSame.symm
          simp only [hOther, false_or]
          constructor
          · intro hNone
            by_contra hKept
            rw [if_neg hKept] at hNone
            cases hNone
          · intro hGone
            rw [if_pos hGone]
  · rw [if_neg (fun hAgain => hDue (hShould.1 hAgain))]
    have hNever : ¬s.lost d mask base 0 = true := fun hLost => hDue (hOldest.1 hLost).2.2
    rw [if_neg hNever]
    exact iff_of_true rfl fun _ _ hNear hCount => absurd ⟨hNear, hCount⟩ hDue

/-- The bit loop of `selective_ack` after its first `k` turns. -/
def scanned (s : Conn) : Nat → EackScan × Conn
  | 0 => (⟨0, []⟩, s)
  | k + 1 => (scanned s k).2.selectiveAckAt env d mask base (mask.extLen * 8 - 1 - k) (scanned s k).1

theorem selectiveAckFrom_scanned (s : Conn) {k : Nat} (hk : k ≤ mask.extLen * 8) :
    (s.scanned d mask base env k).2.selectiveAckFrom env d mask base (mask.extLen * 8 - k) (s.scanned d mask base env k).1 =
      s.selectiveAckFrom env d mask base (mask.extLen * 8) ⟨0, []⟩ := by
  induction k with
  | zero => rfl
  | succ k ih =>
      rw [← ih (by omega)]
      obtain ⟨m, hm⟩ : ∃ m, mask.extLen * 8 - k = m + 1 := ⟨mask.extLen * 8 - k - 1, by omega⟩
      have hBits : (mask.extLen * 8 - 1 - k : Int) = m := by omega
      have hLess : mask.extLen * 8 - (k + 1) = m := by omega
      rw [hm, hLess, selectiveAckFrom, scanned, hBits]

/-- The loop has taken all its turns after the one for the number before the base. -/
theorem scanned_all (s : Conn) : s.scanned d mask base env (mask.extLen * 8 + 1) =
    s.selectiveAckFrom env d mask base (mask.extLen * 8) ⟨0, []⟩ := by
  rw [← selectiveAckFrom_scanned d mask base env s le_rfl, Nat.sub_self, selectiveAckFrom, scanned]
  congr 1
  push_cast
  omega

/-- The stack is never more than two entries short of full. -/
theorem length_scanned (s : Conn) (k : Nat) : (s.scanned d mask base env k).1.resends.length ≤ 126 := by
  induction k with
  | zero => exact Nat.zero_le _
  | succ k ih =>
      have hStack : Stacked (s.scanned d mask base env k).1.resends (s.scanned d mask base env k).1 :=
        ⟨List.suffix_rfl, Or.inl rfl, ih⟩
      rw [scanned, fst_selectiveAckAt]
      exact (turn_spec d mask base _ _ hStack).2.short

/-- The index at which the next number is put on the stack, which loses its lower half if it is
full. -/
def EackScan.pushIndex (scan : EackScan) : Nat :=
  if scan.resends.length ≥ maxEack - 2 then scan.resends.length - maxEack / 2 else scan.resends.length

/-- Without a window there is nothing to resend. -/
theorem lostPackets_of_empty {s : Conn} (hEmpty : s.snd.curWindowPackets = 0) : s.lostPackets d mask base = [] := by
  unfold lostPackets
  rw [hEmpty]
  rfl

end Conn

/-- A selective ack resends the first four packets that are considered lost, each one once, and
uses the entries of the stack only. -/
structure ResendsExact (env : Env) (d : Datagram) (mask : SackMask) (base : Int) (s : Conn) : Prop where
  sent : ∃ ws, (s.selectiveAck env d mask base).trace.wires = s.trace.wires ++ ws ∧
    ws.map (·.header.seqNr) = (s.lostPackets d mask base).take 4
  /-- The turns that are counted are those of the loop over the bits. -/
  turns : s.scanned d mask base env (mask.extLen * 8 + 1) = s.selectiveAckFrom env d mask base (mask.extLen * 8) ⟨0, []⟩
  pushed : ∀ k ≤ mask.extLen * 8, (s.scanned d mask base env k).1.pushIndex < maxEack
  last : (s.scanned d mask base env (mask.extLen * 8 + 1)).1.resends.length < maxEack

/-- In every state in which a selective ack can be processed, it resends exactly what is lost if
and only if the number before the base, which is looked up without a check, is safe. -/
theorem selective_resends_exact (env : Env) (c : Context) (hReach : c.Reachable env) (p : Nat) (sock : Socket)
    (hSock : c.sockets p = some sock) (cause : Cause) (s : Conn) (hPath : Path env cause (c.enter p sock) s)
    (d : Datagram) (mask : SackMask) (hLength : mask.extLen ≤ 255) (base : Int) :
    ResendsExact env d mask base s ↔ s.ResendsSafe d mask base := by
  have hCore : Core s := (hReach.ok.core p sock hSock).path hPath
  have hFits := Conn.fits_of_core hCore
  have hBytes : mask.extLen < 256 := by omega
  have hTurns := Conn.scanned_all d mask base env s
  have hPushed : ∀ k, (s.scanned d mask base env k).1.pushIndex < maxEack := by
    intro k
    have hShort := Conn.length_scanned d mask base env s k
    unfold Conn.EackScan.pushIndex
    dsimp only [maxEack]
    split_ifs <;> omega
  have hLast : (s.scanned d mask base env (mask.extLen * 8 + 1)).1.resends.length < maxEack :=
    (Conn.length_scanned d mask base env s _).trans_lt (by decide)
  by_cases hEmpty : s.snd.curWindowPackets = 0
  · have hNone : s.selectiveAck env d mask base = s := by
      unfold Conn.selectiveAck
      rw [if_pos hEmpty]
    refine iff_of_true ⟨⟨[], ?_, ?_⟩, hTurns, fun k _ => hPushed k, hLast⟩ fun pkt _ _ hCount => ?_
    · rw [hNone, List.append_nil]
    · rw [Conn.lostPackets_of_empty d mask base hEmpty]
      rfl
    · unfold Conn.ackedBehind at hCount
      rw [hEmpty] at hCount
      cases hCount
  · have hPos : 0 < s.snd.curWindowPackets := Nat.pos_of_ne_zero hEmpty
    obtain ⟨ws, hWires, hNumbers⟩ := Conn.wires_selectiveAck env d mask base hCore hPos hBytes
    rw [← Conn.lastPushed_eq_iff d mask base env hCore hPos hBytes,
      ← Conn.take_append_inj (Conn.nodup_pushed d mask base hFits hPos hBytes), ← hNumbers,
      ← Conn.lostPackets_eq d mask base hFits hPos hBytes]
    constructor
    · rintro ⟨⟨ws', hWires', hLost⟩, -, -, -⟩
      obtain rfl : ws' = ws := List.append_cancel_left (hWires'.symm.trans hWires)
      exact hLost
    · exact fun hLost => ⟨⟨ws, hWires, hLost⟩, hTurns, fun k _ => hPushed k, hLast⟩

/-- Five empty packets are queued; the last one waits. -/
def fivePacketOps : List Op :=
  [.createSocket, .connect 0 somePeer 1, .processUdp (somePacket stState 7 77 7 []) somePeer, .writev 0 [[]],
    .writev 0 [[]], .writev 0 [[]], .writev 0 [[]], .writev 0 [[]]]

/-- Of the packets 8 to 12, the last three are acked, and the first two are sent again. -/
theorem selective_resends_two : ∃ (c : Context) (sock : Socket) (a : AckPoint) (mask : SackMask),
    c.Reachable steadyEnv ∧ c.sockets 0 = some sock ∧
      (c.enter 0 sock).ackPoint steadyEnv (extendedAck 7 [0, 1, 14]) = some a ∧ a.selack = some mask ∧
      ∃ ws, (a.state.selectiveAck steadyEnv (extendedAck 7 [0, 1, 14]) mask 9).trace.wires = a.state.trace.wires ++ ws ∧
        ws.map (·.header.seqNr) = [8, 9] := by
  have hRun : ((utpInit true true).run steadyEnv fivePacketOps).any (fun c => (c.sockets 0).any fun sock =>
      ((c.enter 0 sock).ackPoint steadyEnv (extendedAck 7 [0, 1, 14])).any fun a => a.selack.any fun mask =>
        mask.extLen == 1 && (a.state.snd.outbuf.get 8).all (fun pkt => pkt.transmissions != 0) &&
        a.state.snd.windowSeq 0 == 8 &&
        a.state.lostPackets (extendedAck 7 [0, 1, 14]) mask 9 == [8, 9]) = true := by
    decide +kernel
  obtain ⟨c, hReach, hOk⟩ := Context.Reachable.exists_of_run hRun
  obtain ⟨sock, hSock, hFound⟩ := (Option.any_eq_true _ _).1 hOk
  obtain ⟨a, hPoint, hMasked⟩ := (Option.any_eq_true _ _).1 hFound
  obtain ⟨mask, hMask, hState⟩ := (Option.any_eq_true _ _).1 hMasked
  simp only [Bool.and_eq_true, beq_iff_eq] at hState
  obtain ⟨⟨⟨hLength, hSent⟩, hOldest⟩, hLost⟩ := hState
  refine ⟨c, sock, a, mask, hReach, hSock, hPoint, hMask, ?_⟩
  have hExact := (selective_resends_exact steadyEnv c hReach 0 sock hSock _ a.state (Conn.path_ackPoint hPoint)
    (extendedAck 7 [0, 1, 14]) mask (by omega) 9).2 (by
      intro pkt hGet _ _
      have hFront : a.state.snd.outbuf.get 8 = some pkt := hGet
      rw [hFront] at hSent
      refine ⟨by simpa using hSent, Or.inl ?_⟩
      rw [hOldest]
      decide +kernel)
  rw [← show (List.take 4 [8, 9]) = [8, 9] from rfl, ← hLost]
  exact hExact.sent

/-- Packet 8 is sent and acked, and the packets 9 to 12 wait. -/
def waitingOps : List Op :=
  [.createSocket, .connect 0 somePeer 1, .processUdp (somePacket stState 7 77 7 []) somePeer, .writev 0 [[1]],
    .writev 0 [[2]], .writev 0 [[]], .writev 0 [[]], .writev 0 [[]],
    .processUdp (somePacket stState 7 77 8 []) somePeer]

/-- No packet has been lost, but packet 9, which is looked up as the number before the base, is
sent: it waits, and the selective ack is for the three packets behind it. -/
theorem selective_resends_unsent : ∃ (c : Context) (sock : Socket) (a : AckPoint) (mask : SackMask),
    c.Reachable steadyEnv ∧ c.sockets 0 = some sock ∧
      (c.enter 0 sock).ackPoint steadyEnv (extendedAck 8 [0, 1, 7]) = some a ∧ a.selack = some mask ∧
      a.state.lostPackets (extendedAck 8 [0, 1, 7]) mask 10 = [] ∧
      ¬ResendsExact steadyEnv (extendedAck 8 [0, 1, 7]) mask 10 a.state := by
  have hRun : ((utpInit true true).run steadyEnv waitingOps).any (fun c => (c.sockets 0).any fun sock =>
      ((c.enter 0 sock).ackPoint steadyEnv (extendedAck 8 [0, 1, 7])).any fun a => a.selack.any fun mask =>
        a.state.lostPackets (extendedAck 8 [0, 1, 7]) mask 10 == [] &&
          (a.state.selectiveAck steadyEnv (extendedAck 8 [0, 1, 7]) mask 10).trace.wires.length ==
            a.state.trace.wires.length + 1) = true := by
    decide +kernel
  obtain ⟨c, hReach, hOk⟩ := Context.Reachable.exists_of_run hRun
  obtain ⟨sock, hSock, hFound⟩ := (Option.any_eq_true _ _).1 hOk
  obtain ⟨a, hPoint, hMasked⟩ := (Option.any_eq_true _ _).1 hFound
  obtain ⟨mask, hMask, hState⟩ := (Option.any_eq_true _ _).1 hMasked
  simp only [Bool.and_eq_true, beq_iff_eq] at hState
  obtain ⟨hLost, hMore⟩ := hState
  refine ⟨c, sock, a, mask, hReach, hSock, hPoint, hMask, hLost, fun hExact => ?_⟩
  obtain ⟨ws, hWires, hNumbers⟩ := hExact.sent
  rw [hLost, List.take_nil, List.map_eq_nil_iff] at hNumbers
  rw [hWires, hNumbers, List.append_nil] at hMore
  omega

end Utp
