import Utp.Transition.AckPoint

/-! Which packets an ack is counted for, before any of them leaves the queue. -/
namespace Utp

open Wrapping

/-- Count one more packet. -/
def AckedBytes.count (now : Nat) (a : AckedBytes) (pkt : OutgoingPacket) : AckedBytes :=
  ⟨a.ackedBytes + pkt.payload, minRttOf pkt now a.minRtt⟩

/-- A packet of the queue that has been sent. -/
def SendState.sentAt (seq : Int) (q : SendState) : Option OutgoingPacket :=
  (q.outbuf.get seq).filter fun pkt => pkt.transmissions ≠ 0

/-- The packets of which a cumulative ack is counted, from the `i`-th oldest on. -/
def SendState.counted (count i : Nat) (q : SendState) : List OutgoingPacket :=
  (List.range' i count).filterMap fun (j : Nat) => q.sentAt (u16 (q.seqNr - q.curWindowPackets + j))

namespace Conn

variable (d : Datagram) (mask : SackMask) (base : Int)

/-- The packet of which a bit of the mask is counted. -/
def sackCountedAt (bits : Nat) (s : Conn) : Option OutgoingPacket :=
  if s.outsideWindow (base + bits) || !mask.bit d bits then none else s.snd.sentAt (base + bits)

/-- The packets of which a selective ack is counted, the newest first. -/
def sackCounted (n : Nat) (s : Conn) : List OutgoingPacket :=
  (List.range n).reverse.filterMap fun bits => s.sackCountedAt d mask base bits

@[simp] theorem snd_check (line : Nat) (ok : Bool) (s : Conn) : (s.check line ok).snd = s.snd := by
  cases ok <;> rfl

/-- The search is not the queue. -/
theorem snd_mtuSearchUpdate (env : Env) (s : Conn) : (s.mtuSearchUpdate env).snd = s.snd := by
  unfold mtuSearchUpdate
  dsimp only
  rw [snd_check, snd_check]
  rfl

/-- Counting an ack may end a probe, and takes no packet away. -/
theorem snd_probeAcked (env : Env) (seq : Nat) (s : Conn) : (s.probeAcked env seq).snd = s.snd := by
  unfold probeAcked
  split_ifs
  · exact snd_mtuSearchUpdate env _
  · rfl

/-- The search is no part of the backdrop. -/
theorem backdrop_mtuSearchUpdate (env : Env) (s : Conn) : (s.mtuSearchUpdate env).backdrop = s.backdrop := by
  unfold mtuSearchUpdate
  dsimp only
  rw [backdrop_check, backdrop_check]
  rfl

theorem backdrop_probeAcked (env : Env) (seq : Nat) (s : Conn) :
    (s.probeAcked env seq).backdrop = s.backdrop := by
  unfold probeAcked
  split_ifs
  · exact backdrop_mtuSearchUpdate env _
  · rfl

/-- The count of duplicates is none of the three. -/
theorem snd_countDuplicateAck (env : Env) (header : PacketFormatV1) (s : Conn) :
    (s.countDuplicateAck env header).snd.seqNr = s.snd.seqNr ∧
      (s.countDuplicateAck env header).snd.curWindowPackets = s.snd.curWindowPackets ∧
      (s.countDuplicateAck env header).snd.outbuf = s.snd.outbuf ∧
      (s.countDuplicateAck env header).backdrop = s.backdrop := by
  have hLost : ∀ t : Conn, (t.probeLost env).snd = t.snd ∧ (t.probeLost env).backdrop = t.backdrop := fun t =>
    ⟨snd_mtuSearchUpdate env _, backdrop_mtuSearchUpdate env _⟩
  unfold countDuplicateAck
  dsimp only
  split_ifs
  · rw [(hLost _).1, (hLost _).2]
    exact ⟨rfl, rfl, rfl, rfl⟩
  all_goals exact ⟨rfl, rfl, rfl, rfl⟩

/-- By induction on the numbers that are acked: the count is a fold over the packets found there. -/
theorem ackedBytesFrom_eq (env : Env) (now count i : Nat) (a : AckedBytes) (s : Conn) :
    (s.ackedBytesFrom env now count i a).1 = (s.snd.counted count i).foldl (AckedBytes.count now) a ∧
      (s.ackedBytesFrom env now count i a).2.snd = s.snd ∧
      (s.ackedBytesFrom env now count i a).2.backdrop = s.backdrop := by
  induction count generalizing i a s with
  | zero => exact ⟨rfl, rfl, rfl⟩
  | succ count ih =>
      have hList : s.snd.counted (count + 1) i = ((s.snd.sentAt (u16 (s.snd.seqNr - s.snd.curWindowPackets + i))).toList) ++
          s.snd.counted count (i + 1) := by
        unfold SendState.counted
        rw [List.range'_succ, List.filterMap_cons]
        cases s.snd.sentAt (u16 (s.snd.seqNr - s.snd.curWindowPackets + i)) <;> rfl
      rw [hList, List.foldl_append]
      unfold ackedBytesFrom
      dsimp only
      cases hGet : s.snd.outbuf.get (u16 (s.snd.seqNr - s.snd.curWindowPackets + i)) with
      | none =>
          have hNone : s.snd.sentAt (u16 (s.snd.seqNr - s.snd.curWindowPackets + i)) = none := by
            rw [SendState.sentAt, hGet]
            rfl
          rw [hNone]
          exact ih (i + 1) a s
      | some pkt =>
          dsimp only
          by_cases hUnsent : pkt.transmissions = 0
          · have hNone : s.snd.sentAt (u16 (s.snd.seqNr - s.snd.curWindowPackets + i)) = none := by
              rw [SendState.sentAt, hGet]
              exact Option.filter_some_neg (by simpa using hUnsent)
            rw [if_pos hUnsent, hNone]
            exact ih (i + 1) a s
          · have hSome : s.snd.sentAt (u16 (s.snd.seqNr - s.snd.curWindowPackets + i)) = some pkt := by
              rw [SendState.sentAt, hGet]
              exact Option.filter_some_pos (by simpa using hUnsent)
            rw [if_neg hUnsent, hSome]
            have hSnd := snd_probeAcked env (u16 (s.snd.seqNr - s.snd.curWindowPackets + i)) s
            obtain ⟨hAcked, hSame, hRest⟩ := ih (i + 1) (a.count now pkt)
              (s.probeAcked env (u16 (s.snd.seqNr - s.snd.curWindowPackets + i)))
            rw [hSnd] at hAcked hSame
            exact ⟨hAcked, hSame, hRest.trans (backdrop_probeAcked env _ s)⟩

/-- One turn of `selective_ack_bytes` counts at most one packet. -/
theorem selectiveAckBytesAt_eq (now bits : Nat) (a : AckedBytes) (s : Conn) :
    (s.selectiveAckBytesAt d mask base now bits a).1 =
        (s.sackCountedAt d mask base bits).toList.foldl (AckedBytes.count now) a ∧
      (s.selectiveAckBytesAt d mask base now bits a).2.snd = s.snd ∧
      (s.selectiveAckBytesAt d mask base now bits a).2.backdrop = s.backdrop := by
  unfold selectiveAckBytesAt sackCountedAt
  by_cases hOut : s.outsideWindow (base + bits) = true
  · rw [if_pos hOut, hOut]
    exact ⟨rfl, rfl, rfl⟩
  · rw [if_neg hOut, Bool.eq_false_iff.2 hOut, Bool.false_or]
    cases hGet : s.snd.outbuf.get (base + bits) with
    | none =>
        have hNone : s.snd.sentAt (base + bits) = none := by
          rw [SendState.sentAt, hGet]
          rfl
        rw [hNone, ite_self]
        exact ⟨rfl, rfl, rfl⟩
    | some pkt =>
        dsimp only
        by_cases hUnsent : pkt.transmissions = 0
        · have hNone : s.snd.sentAt (base + bits) = none := by
            rw [SendState.sentAt, hGet]
            exact Option.filter_some_neg (by simpa using hUnsent)
          rw [if_pos hUnsent, hNone, ite_self]
          exact ⟨rfl, rfl, rfl⟩
        · have hSome : s.snd.sentAt (base + bits) = some pkt := by
            rw [SendState.sentAt, hGet]
            exact Option.filter_some_pos (by simpa using hUnsent)
          rw [if_neg hUnsent, hSome, if_pos (Int.natCast_nonneg bits)]
          rw [Int.toNat_natCast]
          cases mask.bit d bits <;> exact ⟨rfl, rfl, rfl⟩

/-- A bit is counted by the queue alone. -/
theorem sackCountedAt_congr {s t : Conn} (h : t.snd = s.snd) (bits : Nat) :
    t.sackCountedAt d mask base bits = s.sackCountedAt d mask base bits := by
  unfold sackCountedAt outsideWindow
  rw [h]

/-- So is the mask. -/
theorem sackCounted_congr {s t : Conn} (h : t.snd = s.snd) (n : Nat) :
    t.sackCounted d mask base n = s.sackCounted d mask base n := by
  unfold sackCounted
  exact List.filterMap_congr fun bits _ => sackCountedAt_congr d mask base h bits

/-- By induction on the bits: the count is a fold over the packets that the mask acks. -/
theorem selectiveAckBytesFrom_eq (now n : Nat) (a : AckedBytes) (s : Conn) :
    (s.selectiveAckBytesFrom d mask base now n a).1 = (s.sackCounted d mask base n).foldl (AckedBytes.count now) a ∧
      (s.selectiveAckBytesFrom d mask base now n a).2.snd = s.snd ∧
      (s.selectiveAckBytesFrom d mask base now n a).2.backdrop = s.backdrop := by
  induction n generalizing a s with
  | zero =>
      have hSign : ¬(-1 : Int) ≥ 0 := by decide
      unfold selectiveAckBytesFrom selectiveAckBytesAt
      simp only [if_neg hSign, ite_self]
      split
      · exact ⟨rfl, rfl, rfl⟩
      · split <;> exact ⟨rfl, rfl, rfl⟩
  | succ n ih =>
      obtain ⟨hTurn, hSnd, hBackdrop⟩ := selectiveAckBytesAt_eq d mask base now n a s
      obtain ⟨hRest, hSame, hRestBackdrop⟩ := ih (s.selectiveAckBytesAt d mask base now n a).1
        (s.selectiveAckBytesAt d mask base now n a).2
      have hList : s.sackCounted d mask base (n + 1) =
          (s.sackCountedAt d mask base n).toList ++ s.sackCounted d mask base n := by
        unfold sackCounted
        rw [List.range_succ, List.reverse_append, List.reverse_singleton, List.singleton_append, List.filterMap_cons]
        cases s.sackCountedAt d mask base n <;> rfl
      unfold selectiveAckBytesFrom
      dsimp only
      rw [hList, List.foldl_append, ← hTurn, hRest, hSame, hSnd, sackCounted_congr d mask base hSnd]
      exact ⟨rfl, rfl, hRestBackdrop.trans hBackdrop⟩

/-- The packets of which the mask of a packet is counted; the bit just past the mask is one of
those that are examined. -/
def sackCountedBy (d : Datagram) (selack : Option SackMask) (s : Conn) : List OutgoingPacket :=
  match selack with
  | none => []
  | some mask =>
      if s.snd.curWindowPackets = 0 then []
      else s.sackCounted d mask (u16 (d.header.ackNr + 2)) (mask.extLen * 8 + 1)

/-- The clock is read once more before the mask is counted. -/
def maskTime (env : Env) (acks : Nat) (s : Conn) : Nat :=
  (s.called.ackedBytesFrom env (s.utpCallGetMicroseconds env) acks 0 ⟨0, int64Max⟩).2.utpCallGetMicroseconds env

/-- What is counted: the packets of the cumulative ack, then those of the mask, each with the time
of the clock at that moment. -/
theorem measureAcks_eq (env : Env) (d : Datagram) (selack : Option SackMask) (acks : Nat) (s : Conn) :
    (s.measureAcks env d d.header selack acks).1 =
        (s.sackCountedBy d selack).foldl (AckedBytes.count (s.maskTime env acks))
          ((s.snd.counted acks 0).foldl (AckedBytes.count (s.utpCallGetMicroseconds env)) ⟨0, int64Max⟩) ∧
      (s.measureAcks env d d.header selack acks).2.snd = s.snd ∧
      (s.measureAcks env d d.header selack acks).2.backdrop = s.backdrop := by
  obtain ⟨hAcked, hSnd, hBackdrop⟩ :=
    ackedBytesFrom_eq env (s.utpCallGetMicroseconds env) acks 0 ⟨0, int64Max⟩ s.called
  unfold measureAcks sackCountedBy maskTime
  dsimp only
  cases selack with
  | none => exact ⟨hAcked, hSnd, hBackdrop⟩
  | some mask =>
      dsimp only
      generalize s.called.ackedBytesFrom env (s.utpCallGetMicroseconds env) acks 0 ⟨0, int64Max⟩ = r
        at hAcked hSnd hBackdrop
      have hSame : r.2.snd = s.snd := hSnd
      unfold selectiveAckBytes
      rw [hSame]
      split_ifs
      · exact ⟨hAcked, hSame, hBackdrop⟩
      · obtain ⟨hBytes, hRest, hRestBackdrop⟩ := selectiveAckBytesFrom_eq d mask (u16 (d.header.ackNr + 2))
          (r.2.utpCallGetMicroseconds env) (mask.extLen * 8 + 1) r.1 r.2.called
        dsimp only
        rw [hBytes, hRest, hRestBackdrop, hAcked]
        have hCalled : r.2.called.snd = s.snd := hSame
        rw [sackCounted_congr d mask _ hCalled]
        exact ⟨rfl, hCalled, hBackdrop⟩

end Conn

end Utp
