import Utp.Transition.Acks
import Utp.Invariant.Core

/-! The packets of the outgoing queue, counted from the newest one. -/
namespace Utp

open Wrapping

/-- What sending, losing and resending leave alone in a packet. -/
structure OutgoingPacket.Kin (pkt pkt' : OutgoingPacket) : Prop where
  length : pkt'.length = pkt.length
  seqNr : pkt'.header.seqNr = pkt.header.seqNr
  type : pkt'.header.type = pkt.header.type
  windowsize : pkt'.header.windowsize = pkt.header.windowsize
  sent : pkt.transmissions ≠ 0 → pkt'.transmissions ≠ 0

namespace OutgoingPacket.Kin

variable {pkt pkt' pkt'' : OutgoingPacket}

theorem refl (pkt : OutgoingPacket) : pkt.Kin pkt := ⟨rfl, rfl, rfl, rfl, id⟩

theorem trans (hFirst : pkt.Kin pkt') (hSecond : pkt'.Kin pkt'') : pkt.Kin pkt'' :=
  ⟨hSecond.length.trans hFirst.length, hSecond.seqNr.trans hFirst.seqNr, hSecond.type.trans hFirst.type,
    hSecond.windowsize.trans hFirst.windowsize, fun hSent => hSecond.sent (hFirst.sent hSent)⟩

end OutgoingPacket.Kin

namespace Conn

/-- The `j`-th newest packet of the queue. -/
def packetAt (j : Nat) (s : Conn) : Option OutgoingPacket :=
  if j < s.snd.curWindowPackets then s.snd.outbuf.get (s.snd.seqNr - 1 - j) else none

/-- Packets leave the queue, but those that stay keep their place and their kind. -/
structure Sheds (s s' : Conn) : Prop where
  packets : ∀ j pkt', s'.packetAt j = some pkt' → ∃ pkt, s.packetAt j = some pkt ∧ pkt.Kin pkt'
  window : 0 < s'.snd.curWindowPackets → 0 < s.snd.curWindowPackets ∧ s'.snd.seqNr = s.snd.seqNr

theorem Sheds.refl (s : Conn) : Sheds s s := ⟨fun _ pkt hAt => ⟨pkt, hAt, .refl pkt⟩, fun hPos => ⟨hPos, rfl⟩⟩

theorem Sheds.trans {s t u : Conn} (hFirst : Sheds s t) (hSecond : Sheds t u) : Sheds s u := by
  refine ⟨fun j pkt'' hAt => ?_, fun hPos => ?_⟩
  · obtain ⟨pkt', hMid, hLast⟩ := hSecond.packets j pkt'' hAt
    obtain ⟨pkt, hOld, hKin⟩ := hFirst.packets j pkt' hMid
    exact ⟨pkt, hOld, hKin.trans hLast⟩
  · obtain ⟨hMid, hLast⟩ := hSecond.window hPos
    obtain ⟨hOld, hSeq⟩ := hFirst.window hMid
    exact ⟨hOld, hLast.trans hSeq⟩

/-- A queue that stays sheds nothing. -/
theorem sheds_of_snd {s s' : Conn} (hSeq : s'.snd.seqNr = s.snd.seqNr)
    (hCount : s'.snd.curWindowPackets = s.snd.curWindowPackets)
    (hBuf : s'.snd.outbuf = s.snd.outbuf) : Sheds s s' := by
  refine ⟨fun j pkt hAt => ?_, fun hPos => ⟨hCount ▸ hPos, hSeq⟩⟩
  unfold packetAt at hAt
  rw [hSeq, hCount, hBuf] at hAt
  exact ⟨pkt, hAt, .refl pkt⟩

theorem sheds_of_view {s s' : Conn} (h : s'.view = s.view) : Sheds s s' :=
  sheds_of_snd (congrArg View.seqNr h) (congrArg View.curWindowPackets h) (congrArg View.outbuf h)

/-- An empty window has no packet. -/
theorem packetAt_of_empty {s : Conn} (hCount : s.snd.curWindowPackets = 0) (j : Nat) :
    s.packetAt j = none := by
  unfold packetAt
  rw [hCount, if_neg (Nat.not_lt_zero j)]

/-- So it has shed them all. -/
theorem sheds_of_empty {s s' : Conn} (hCount : s'.snd.curWindowPackets = 0) : Sheds s s' := by
  refine ⟨fun j pkt hAt => ?_, fun hPos => absurd hCount hPos.ne'⟩
  rw [packetAt_of_empty hCount] at hAt
  cases hAt

/-- A packet is stored back as one of its kind, or taken out. -/
theorem sheds_put {s s' : Conn} {v : Int} {pkt : OutgoingPacket} {new : Option OutgoingPacket}
    (hGet : s.snd.outbuf.get v = some pkt) (hNew : ∀ pkt', new = some pkt' → pkt.Kin pkt')
    (hSeq : s'.snd.seqNr = s.snd.seqNr)
    (hCount : s'.snd.curWindowPackets = s.snd.curWindowPackets)
    (hBuf : s'.snd.outbuf = s.snd.outbuf.put v new) : Sheds s s' := by
  refine ⟨fun j pkt' hAt => ?_, fun hPos => ⟨hCount ▸ hPos, hSeq⟩⟩
  unfold packetAt at hAt ⊢
  rw [hSeq, hCount, hBuf, SizableCircularBuffer.get_put_dvd] at hAt
  by_cases hIn : j < s.snd.curWindowPackets
  · rw [if_pos hIn] at hAt ⊢
    by_cases hSlot : (s.snd.outbuf.size : Int) ∣ v - (s.snd.seqNr - 1 - j)
    · rw [if_pos hSlot] at hAt
      rw [← s.snd.outbuf.get_congr hSlot]
      exact ⟨pkt, hGet, hNew pkt' hAt⟩
    · rw [if_neg hSlot] at hAt
      exact ⟨pkt', hAt, .refl pkt'⟩
  · rw [if_neg hIn] at hAt
    cases hAt

/-- A smaller count sheds the oldest one. -/
theorem sheds_decWindowPackets {s : Conn} (hCount : 0 < s.snd.curWindowPackets)
    (hLimit : s.snd.curWindowPackets ≤ 1024) : Sheds s s.decWindowPackets := by
  refine ⟨fun j pkt hAt => ?_, fun _ => ⟨hCount, rfl⟩⟩
  have hPred : u16 (s.snd.curWindowPackets - 1) = s.snd.curWindowPackets - 1 := by
    have hEmod := u16_emod (s.snd.curWindowPackets - 1)
    have hLt := u16_lt (s.snd.curWindowPackets - 1)
    omega
  have hLess : s.decWindowPackets.snd.curWindowPackets = s.snd.curWindowPackets - 1 := hPred
  unfold packetAt at hAt ⊢
  rw [hLess] at hAt
  by_cases hIn : j < s.snd.curWindowPackets - 1
  · rw [if_pos hIn] at hAt
    rw [if_pos (by omega)]
    exact ⟨pkt, hAt, .refl pkt⟩
  · rw [if_neg hIn] at hAt
    cases hAt

variable (env : Env)

/-- An ack sheds the packet that it acks. -/
theorem sheds_ackPacket (seq : Int) (s : Conn) : Sheds s (s.ackPacket env seq).2 := by
  cases hGet : s.snd.outbuf.get (u16 seq) with
  | none =>
      rw [ackPacket_none env hGet]
      exact .refl s
  | some pkt =>
      rw [ackPacket_some env hGet]
      split_ifs
      · exact .refl s
      · have hView := view_removePacket env (u16 seq) pkt s
        refine sheds_put hGet ?_ (congrArg View.seqNr hView) (congrArg View.curWindowPackets hView)
          (congrArg View.outbuf hView)
        exact nofun

/-- A packet that is sent is akin to itself. -/
theorem sheds_sendPacket (v : Int) (s : Conn) : Sheds s (s.sendPacket env v) := by
  cases hGet : s.snd.outbuf.get v with
  | none =>
      rw [sendPacket_none env hGet]
      exact .refl s
  | some pkt =>
      have hView := view_sendPacket env hGet
      rw [view_chargeWindow] at hView
      refine sheds_put hGet ?_ (congrArg View.seqNr hView) (congrArg View.curWindowPackets hView)
        (congrArg View.outbuf hView)
      intro pkt' hSent
      cases hSent
      exact ⟨rfl, rfl, rfl, rfl, fun _ => Nat.succ_ne_zero _⟩

/-- So is one that counts as lost. -/
theorem sheds_losePacket (i : Nat) (s : Conn) : Sheds s (s.losePacket i) := by
  rcases losePacket_cases i s with hSame | ⟨pkt, hGet, -, -, hLost⟩
  · rw [hSame]
    exact .refl s
  · rw [hLost]
    have hView := view_check 1243 (s.snd.curWindow ≥ pkt.payload) { s with
      snd.outbuf := s.snd.outbuf.put (s.snd.seqNr - i - 1) (some { pkt with needResend := true })
      snd.curWindow := sub64 s.snd.curWindow pkt.payload }
    refine sheds_put hGet ?_ (congrArg View.seqNr hView) (congrArg View.curWindowPackets hView)
      (congrArg View.outbuf hView)
    intro pkt' hSame
    cases hSame
    exact ⟨rfl, rfl, rfl, rfl, id⟩

end Conn

variable {env : Env} {cause : Cause} {s s' : Conn}

theorem AckStep.sheds {header : PacketFormatV1} (h : AckStep env header s s')
    (hLimit : s.snd.curWindowPackets ≤ 1024) : Conn.Sheds s s' := by
  cases h with
  | acked hCount hAcked hSent =>
      have hNumbers := (Conn.numbers_ackPacket env (s.snd.seqNr - s.snd.curWindowPackets) s).2
      exact (Conn.sheds_ackPacket env _ s).trans
        (Conn.sheds_decWindowPackets (by omega) (by omega))
  | dropped hCount hNone => exact Conn.sheds_decWindowPackets hCount hLimit

/-- By induction on the acks. -/
theorem AckStep.sheds_run {header : PacketFormatV1}
    (h : Relation.ReflTransGen (AckStep env header) s s') (hLoose : LooseOk s.view) :
    Conn.Sheds s s' := by
  induction h with
  | refl => exact .refl s
  | tail hPrior hStep ih =>
      have hLimit := (AckStep.loose_run hPrior hLoose).1.queue.count_le_limit
      exact ih.trans (hStep.sheds hLimit)

/-- Two places of the queue are two slots of the buffer. -/
theorem QueueShape.apart {seqNr count window : Nat} {buf : SizableCircularBuffer OutgoingPacket}
    (h : QueueShape seqNr count window buf) {i j : Nat} (hi : i < count) (hj : j < count) (hNe : i ≠ j) :
    ¬(buf.size : Int) ∣ (seqNr : Int) - 1 - i - (seqNr - 1 - j) := by
  have hLe := h.count_le
  have hShift : (seqNr : Int) - 1 - i - (seqNr - 1 - j) =
      (seqNr - 1 - i - j : Int) + j - ((seqNr - 1 - i - j) + i) := by ring
  rw [hShift]
  exact CellRing.not_dvd_offset _ (by omega) (by omega) hNe.symm

namespace Conn

/-- Acking the oldest packet leaves the others alone. -/
theorem packetAt_ackFront (env : Env) {s : Conn} (h : LooseOk s.view) {j : Nat}
    (hIn : j + 1 < s.snd.curWindowPackets) :
    (s.ackPacket env (s.snd.seqNr - s.snd.curWindowPackets)).2.packetAt j = s.packetAt j := by
  have hQueue : QueueShape s.snd.seqNr s.snd.curWindowPackets s.snd.curWindow s.snd.outbuf := h.queue
  cases hGet : s.snd.outbuf.get (u16 (s.snd.seqNr - s.snd.curWindowPackets)) with
  | none => rw [ackPacket_none env hGet]
  | some pkt =>
      rw [ackPacket_some env hGet]
      split_ifs
      · rfl
      · have hView := view_removePacket env (u16 (s.snd.seqNr - s.snd.curWindowPackets)) pkt s
        generalize s.removePacket env (u16 (s.snd.seqNr - s.snd.curWindowPackets)) pkt = t at hView ⊢
        have hSeq : t.snd.seqNr = s.snd.seqNr := congrArg View.seqNr hView
        have hCount : t.snd.curWindowPackets = s.snd.curWindowPackets := congrArg View.curWindowPackets hView
        have hBuf : t.snd.outbuf = s.snd.outbuf.put _ none := congrArg View.outbuf hView
        unfold packetAt
        rw [hSeq, hCount, hBuf, if_pos (by omega), if_pos (by omega), SizableCircularBuffer.get_put_dvd, if_neg]
        intro hSlot
        refine hQueue.apart (i := s.snd.curWindowPackets - 1) (j := j) (by omega) (by omega) (by omega) ?_
        have hWrap : (s.snd.outbuf.size : Int) ∣ (s.snd.seqNr - s.snd.curWindowPackets : Int) -
            u16 (s.snd.seqNr - s.snd.curWindowPackets) := by
          apply hQueue.dvd_of_seq
          have := u16_emod (s.snd.seqNr - s.snd.curWindowPackets)
          omega
        have hSum := Int.dvd_add hWrap hSlot
        have hEq : (s.snd.seqNr - s.snd.curWindowPackets : Int) - u16 (s.snd.seqNr - s.snd.curWindowPackets) +
            (u16 (s.snd.seqNr - s.snd.curWindowPackets) - (s.snd.seqNr - 1 - j)) =
            s.snd.seqNr - 1 - (s.snd.curWindowPackets - 1 : Nat) - (s.snd.seqNr - 1 - j) := by omega
        rwa [hEq] at hSum

/-- The packets are counted from the newest one, so the others keep their places. -/
theorem packetAt_decWindowPackets {s : Conn} (hCount : 0 < s.snd.curWindowPackets)
    (hLimit : s.snd.curWindowPackets ≤ 1024) (j : Nat) :
    s.decWindowPackets.packetAt j = if j + 1 < s.snd.curWindowPackets then s.packetAt j else none := by
  have hLess : s.decWindowPackets.snd.curWindowPackets = s.snd.curWindowPackets - 1 := by
    have hEmod := u16_emod (s.snd.curWindowPackets - 1)
    have hLt := u16_lt (s.snd.curWindowPackets - 1)
    change u16 (s.snd.curWindowPackets - 1) = _
    omega
  unfold packetAt
  rw [hLess]
  by_cases hIn : j + 1 < s.snd.curWindowPackets
  · rw [if_pos hIn, if_pos (by omega), if_pos (by omega)]
    rfl
  · rw [if_neg hIn, if_neg (by omega)]

end Conn

/-- The packets after the one with the number that is acked stay. -/
theorem AckStep.spares {header : PacketFormatV1} (h : AckStep env header s s') (hLoose : LooseOk s.view) :
    s'.snd.seqNr = s.snd.seqNr ∧
      ∀ j < u16 (s.snd.seqNr - 1 - header.ackNr), s'.packetAt j = s.packetAt j := by
  have hLimit : s.snd.curWindowPackets ≤ 1024 := hLoose.queue.count_le_limit
  cases h with
  | acked hCount hAcked hSent =>
      obtain ⟨hAim, hPackets⟩ := Conn.numbers_ackPacket env (s.snd.seqNr - s.snd.curWindowPackets) s
      refine ⟨congrArg Aim.seqNr hAim, fun j hj => ?_⟩
      have hDist := u16_emod (s.snd.seqNr - 1 - header.ackNr)
      have hPast := u16_emod (header.ackNr - (s.snd.seqNr - s.snd.curWindowPackets))
      have hLt := u16_lt (s.snd.seqNr - 1 - header.ackNr)
      have hIn : j + 1 < s.snd.curWindowPackets := by omega
      rw [Conn.packetAt_decWindowPackets (by omega) (by omega), if_pos (by omega)]
      exact Conn.packetAt_ackFront env hLoose hIn
  | dropped hCount hNone =>
      refine ⟨rfl, fun j _ => ?_⟩
      rw [Conn.packetAt_decWindowPackets hCount hLimit]
      split_ifs with hIn
      · rfl
      · unfold Conn.packetAt
        split_ifs with hLast
        · have hFront : (s.snd.seqNr : Int) - 1 - j = s.snd.seqNr - s.snd.curWindowPackets := by omega
          rw [hFront, hNone]
        · rfl

/-- By induction on the acks: the packets that are newer than the acked number stay. -/
theorem AckStep.spares_run {header : PacketFormatV1}
    (h : Relation.ReflTransGen (AckStep env header) s s') (hLoose : LooseOk s.view) :
    s'.snd.seqNr = s.snd.seqNr ∧
      ∀ j < u16 (s.snd.seqNr - 1 - header.ackNr), s'.packetAt j = s.packetAt j := by
  induction h with
  | refl => exact ⟨rfl, fun _ _ => rfl⟩
  | tail hPrior hStep ih =>
      obtain ⟨hSeq, hSame⟩ := hStep.spares (AckStep.loose_run hPrior hLoose).1
      rw [ih.1] at hSeq hSame
      exact ⟨hSeq, fun j hj => (hSame j hj).trans (ih.2 j hj)⟩

namespace Core

/-- The packets after one more has been added at the end. -/
theorem packetAt_enqueued (h : Core s) {pkt : OutgoingPacket}
    (hCount : s.snd.curWindowPackets ≤ 1023)
    (hSeq : s'.snd.seqNr = u16 (s.snd.seqNr + 1))
    (hMore : s'.snd.curWindowPackets = u16 (s.snd.curWindowPackets + 1))
    (hBuf : s'.snd.outbuf = (s.snd.outbuf.ensureSize s.snd.seqNr s.snd.curWindowPackets).put
      s.snd.seqNr (some pkt)) :
    s'.packetAt 0 = some pkt ∧ ∀ j, s'.packetAt (j + 1) = s.packetAt j := by
  have hQueue : QueueShape s.snd.seqNr s.snd.curWindowPackets s.snd.curWindow s.snd.outbuf :=
    h.view.queue
  have hLe := hQueue.count_le
  have hRoom := s.snd.outbuf.lt_size_ensureSize s.snd.seqNr s.snd.curWindowPackets
  have hSucc : u16 ((s.snd.curWindowPackets : Int) + 1) = s.snd.curWindowPackets + 1 := by
    have hEmod := u16_emod (s.snd.curWindowPackets + 1)
    have hLt := u16_lt (s.snd.curWindowPackets + 1)
    omega
  have hAt : ∀ j ≤ s.snd.curWindowPackets, s'.snd.outbuf.get (s'.snd.seqNr - 1 - j) =
      if j = 0 then some pkt else s.snd.outbuf.get (s.snd.seqNr - j) := by
    intro j hj
    have hGet := hQueue.append_get pkt (by omega) (i := s.snd.curWindowPackets - j) (by omega)
    have hIndex : (s'.snd.seqNr : Int) - 1 - j = (u16 (s.snd.seqNr + 1) : Int) -
        u16 (s.snd.curWindowPackets + 1) + (s.snd.curWindowPackets - j : Nat) := by
      rw [hSeq]
      omega
    rw [hIndex, hBuf, hGet]
    by_cases hZero : j = 0
    · subst hZero
      rw [if_pos rfl, if_pos (by omega)]
    · rw [if_neg hZero, if_neg (by omega), if_pos (by omega)]
      congr 1
      omega
  unfold Conn.packetAt
  rw [hMore, hSucc]
  refine ⟨?_, fun j => ?_⟩
  · rw [if_pos (Nat.succ_pos _), hAt 0 (Nat.zero_le _)]
    rfl
  · by_cases hIn : j < s.snd.curWindowPackets
    · rw [if_pos (by omega), if_pos hIn, hAt (j + 1) hIn, if_neg (Nat.succ_ne_zero j)]
      congr 1
      push_cast
      ring
    · rw [if_neg (by omega), if_neg hIn]

/-- The packets after the newest one has been replaced. -/
theorem packetAt_filled (h : Core s) {pkt : OutgoingPacket} (hCount : 0 < s.snd.curWindowPackets)
    (hSeq : s'.snd.seqNr = s.snd.seqNr)
    (hSame : s'.snd.curWindowPackets = s.snd.curWindowPackets)
    (hBuf : s'.snd.outbuf = s.snd.outbuf.put (s.snd.seqNr - 1) (some pkt)) :
    s'.packetAt 0 = some pkt ∧ ∀ j, s'.packetAt (j + 1) = s.packetAt (j + 1) := by
  have hQueue : QueueShape s.snd.seqNr s.snd.curWindowPackets s.snd.curWindow s.snd.outbuf :=
    h.view.queue
  have hLe := hQueue.count_le
  unfold Conn.packetAt
  rw [hSame, hSeq, hBuf]
  refine ⟨?_, fun j => ?_⟩
  · rw [if_pos hCount, SizableCircularBuffer.get_put_dvd, if_pos (by simp)]
  · by_cases hIn : j + 1 < s.snd.curWindowPackets
    · have hApart : ¬(s.snd.outbuf.size : Int) ∣ (s.snd.seqNr : Int) - 1 - (s.snd.seqNr - 1 - (j + 1 : Nat)) := by
        intro hSlot
        have hShift : (s.snd.seqNr : Int) - 1 - (s.snd.seqNr - 1 - (j + 1 : Nat)) = (j + 1 : Nat) := by omega
        rw [hShift, Int.natCast_dvd_natCast] at hSlot
        have := Nat.le_of_dvd (Nat.succ_pos j) hSlot
        omega
      rw [if_pos hIn, if_pos hIn, SizableCircularBuffer.get_put_dvd, if_neg hApart]
    · rw [if_neg hIn, if_neg hIn]

/-- Every packet of the queue has the number of its place. -/
theorem packet_ok (h : Core s) {j : Nat} {pkt : OutgoingPacket} (hAt : s.packetAt j = some pkt) :
    PacketOk (u16 (s.snd.seqNr - 1 - j)) pkt := by
  have hQueue : QueueShape s.snd.seqNr s.snd.curWindowPackets s.snd.curWindow s.snd.outbuf :=
    h.view.queue
  unfold Conn.packetAt at hAt
  split_ifs at hAt with hIn
  have hIndex : (s.snd.seqNr : Int) - s.snd.curWindowPackets + (s.snd.curWindowPackets - 1 - j : Nat) =
      s.snd.seqNr - 1 - j := by omega
  rw [← hIndex] at hAt ⊢
  exact hQueue.packet _ (by omega) pkt hAt

/-- A packet that is found is in the window. -/
theorem lt_of_packetAt (h : Core s) {j : Nat} {pkt : OutgoingPacket} (hAt : s.packetAt j = some pkt) :
    j < s.snd.curWindowPackets ∧ s.snd.curWindowPackets ≤ 1024 := by
  unfold Conn.packetAt at hAt
  split_ifs at hAt with hIn
  exact ⟨hIn, QueueShape.count_le_limit h.view.queue⟩

/-- The packet with a number of the window stands where the number says. -/
theorem packetAt_of_dist (h : Core s) {v : Int}
    (hIn : u16 (s.snd.seqNr - 1 - v) < s.snd.curWindowPackets) :
    s.packetAt (u16 (s.snd.seqNr - 1 - v)) = s.snd.outbuf.get v := by
  have hQueue : QueueShape s.snd.seqNr s.snd.curWindowPackets s.snd.curWindow s.snd.outbuf :=
    h.view.queue
  unfold Conn.packetAt
  rw [if_pos hIn]
  apply s.snd.outbuf.get_congr
  apply hQueue.dvd_of_seq
  have := u16_emod (s.snd.seqNr - 1 - v)
  omega

/-- Packets at different places have different numbers. -/
theorem seqNr_ne (h : Core s) {i j : Nat} {pkt pkt' : OutgoingPacket} (hAt : s.packetAt i = some pkt)
    (hAt' : s.packetAt j = some pkt') (hNe : i ≠ j) : pkt.header.seqNr ≠ pkt'.header.seqNr := by
  obtain ⟨hLt, hLimit⟩ := h.lt_of_packetAt hAt
  obtain ⟨hLt', -⟩ := h.lt_of_packetAt hAt'
  have hEmod := u16_emod (s.snd.seqNr - 1 - i)
  have hEmod' := u16_emod (s.snd.seqNr - 1 - j)
  rw [(h.packet_ok hAt).seqNr, (h.packet_ok hAt').seqNr]
  omega

/-- Writing to the slot of a packet replaces that packet and no other. -/
theorem packetAt_put (h : Core s) {v : Int} {pkt : OutgoingPacket}
    (hGet : s.snd.outbuf.get v = some pkt) : ∃ i, s.packetAt i = some pkt ∧
      ∀ (s' : Conn) (new : Option OutgoingPacket), s'.snd.seqNr = s.snd.seqNr →
        s'.snd.curWindowPackets = s.snd.curWindowPackets → s'.snd.outbuf = s.snd.outbuf.put v new →
        ∀ j, s'.packetAt j = if j = i then new else s.packetAt j := by
  have hQueue : QueueShape s.snd.seqNr s.snd.curWindowPackets s.snd.curWindow s.snd.outbuf :=
    h.view.queue
  have hLe := hQueue.count_le
  obtain ⟨k, hk, hSlot⟩ := hQueue.offset_of_get hGet
  have hIndex : (s.snd.seqNr : Int) - 1 - (s.snd.curWindowPackets - 1 - k : Nat) =
      s.snd.seqNr - s.snd.curWindowPackets + k := by omega
  refine ⟨s.snd.curWindowPackets - 1 - k, ?_, fun s' new hSeq hCount hBuf j => ?_⟩
  · unfold Conn.packetAt
    rw [if_pos (by omega), hIndex, ← s.snd.outbuf.get_congr hSlot, hGet]
  · unfold Conn.packetAt
    rw [hSeq, hCount, hBuf, SizableCircularBuffer.get_put_dvd]
    by_cases hSame : j = s.snd.curWindowPackets - 1 - k
    · subst hSame
      rw [if_pos (by omega), if_pos rfl, if_pos (by rw [hIndex]; exact hSlot)]
    · rw [if_neg hSame]
      by_cases hIn : j < s.snd.curWindowPackets
      · rw [if_pos hIn, if_pos hIn, if_neg]
        intro hOther
        have hDiff : (s.snd.outbuf.size : Int) ∣ (s.snd.seqNr - s.snd.curWindowPackets) +
            (s.snd.curWindowPackets - 1 - j : Nat) - ((s.snd.seqNr - s.snd.curWindowPackets) + (k : Nat)) := by
          have hSub := Int.dvd_sub hSlot hOther
          have hEq : (v - (s.snd.seqNr - s.snd.curWindowPackets + k)) - (v - (s.snd.seqNr - 1 - j)) =
              (s.snd.seqNr - s.snd.curWindowPackets) + (s.snd.curWindowPackets - 1 - j : Nat) -
                ((s.snd.seqNr - s.snd.curWindowPackets) + (k : Nat)) := by omega
          rwa [hEq] at hSub
        exact CellRing.not_dvd_offset _ (by omega) (by omega) (by omega) hDiff
      · rw [if_neg hIn, if_neg hIn]

end Core

end Utp
