import Utp.Transition.Write

/-! The processing of acknowledgments is a path of elementary transitions. -/
namespace Utp

open Wrapping

namespace Conn

variable (env : Env) (cause : Cause)

section Measuring

variable (header : PacketFormatV1)

/-- The third duplicate of an ack ends the search for a probe, which is lost if it is the packet that is
missing. -/
theorem path_countDuplicateAck (s : Conn) : QuietPath env cause s (s.countDuplicateAck env header) := by
  unfold countDuplicateAck
  split_ifs with hCount hDuplicate
  · dsimp only
    have hCounted : Quiet env cause s _ := .duplicateAck s
      ((s.snd.duplicateAck + 1) % 256)
    split_ifs with hThird hProbe
    · have hNonzero : s.mtu.probeSeq ≠ 0 := by
        have hParts := (Bool.and_eq_true _ _).mp hThird
        exact of_decide_eq_true hParts.2
      exact (Relation.ReflTransGen.single hCounted).tail (Quiet.probeLost _ hNonzero)
    · exact (Relation.ReflTransGen.single hCounted).tail (Quiet.clearProbe _)
    · exact .single hCounted
  · exact .single (Quiet.duplicateAck s 0)
  · exact .refl

/-- An acked probe moves the floor of the search up to its size. -/
theorem path_probeAcked (seq : Nat) (s : Conn) : QuietPath env cause s (s.probeAcked env seq) := by
  unfold probeAcked
  split_ifs with hProbe
  · have hParts := (Bool.and_eq_true _ _).mp hProbe
    exact .single (Quiet.probePassed s (of_decide_eq_true hParts.1))
  · exact .refl

/-- By induction on the numbers that are acked; the packets are looked at and not changed. -/
theorem path_ackedBytesFrom (now count i : Nat) (a : AckedBytes) (s : Conn) :
    QuietPath env cause s (s.ackedBytesFrom env now count i a).2 := by
  induction count generalizing i a s with
  | zero => exact .refl
  | succ count ih =>
      unfold ackedBytesFrom
      dsimp only
      split
      · exact ih _ _ s
      · split_ifs
        · exact ih _ _ s
        · exact (path_probeAcked env cause _ s).trans (ih _ _ _)

/-- One bit of the mask is read, when its number is in the window. -/
theorem path_selectiveAckBytesAt (d : Datagram) (mask : SackMask) (base : Int) (now : Nat)
    (bits : Int) (a : AckedBytes) (s : Conn) :
    QuietPath env cause s (s.selectiveAckBytesAt d mask base now bits a).2 := by
  have hRead : Quiet env cause s _ := .readMask s mask.off (bits.toNat / 8) mask.extLen
  unfold selectiveAckBytesAt
  split
  · exact .refl
  · split
    · exact .refl
    · split_ifs
      · exact .refl
      · exact .single hRead
      · exact .single hRead
      · exact .refl

/-- By induction on the bits. -/
theorem path_selectiveAckBytesFrom (d : Datagram) (mask : SackMask) (base : Int) (now n : Nat)
    (a : AckedBytes) (s : Conn) :
    QuietPath env cause s (s.selectiveAckBytesFrom d mask base now n a).2 := by
  induction n generalizing a s with
  | zero => exact path_selectiveAckBytesAt env cause d mask base now (-1) a s
  | succ n ih =>
      exact (path_selectiveAckBytesAt env cause d mask base now n a s).trans (ih _ _)

theorem path_selectiveAckBytes (d : Datagram) (mask : SackMask) (base : Int) (a : AckedBytes)
    (s : Conn) : QuietPath env cause s (s.selectiveAckBytes env d mask base a).2 := by
  unfold selectiveAckBytes
  split_ifs
  · exact .refl
  · exact (Relation.ReflTransGen.single (Quiet.called s)).trans
      (path_selectiveAckBytesFrom env cause d mask base _ _ a _)

/-- The delay samples and their history belong to the search of no number. -/
theorem path_measureDelay (time : Nat) (minRtt : Int) (s : Conn) :
    QuietPath env cause s (s.measureDelay header time minRtt) := by
  have hAverage : 2086 ∉ coveredLines ++ mtuLines := by decide
  have hRtt : 2160 ∉ coveredLines ++ mtuLines := by decide
  have hLast : ∀ t : Conn, QuietPath env cause t
      { t.check 2160 (minRtt ≥ 0) with
        delay := (t.check 2160 (minRtt ≥ 0)).delay.clampToRtt minRtt } := fun t =>
    (Relation.ReflTransGen.single (Quiet.check t 2160 _ hRtt)).tail (Quiet.delay _ _ (.clamped _ minRtt))
  have hTheirs : Quiet env cause s _ := .delay s
    (s.delay.noteTheirDelay header.tvUsec time s.currentMs) (.theirs _ _ _)
  unfold measureDelay
  dsimp only
  split_ifs with hSome hDue
  · refine Relation.ReflTransGen.trans ?_ (hLast _)
    refine Relation.ReflTransGen.tail ?_ (Quiet.delay _ _ (.averaged _ ?_))
    · refine Relation.ReflTransGen.tail ?_ (Quiet.check _ 2086 _ hAverage fun _ => ⟨Nat.succ_pos _, rfl⟩)
      exact (Relation.ReflTransGen.single hTheirs).tail (Quiet.delay _ _ (.noted _ _ hSome))
    · generalize averageInRange _ = ok
      cases ok <;> exact Nat.succ_pos _
  · refine Relation.ReflTransGen.trans ?_ (hLast _)
    exact (Relation.ReflTransGen.single hTheirs).tail (Quiet.delay _ _ (.noted _ _ hSome))
  · exact (Relation.ReflTransGen.single hTheirs).trans (hLast _)

/-- Slow start or the gain of the delay. -/
theorem path_growWindow (bytesAcked : Nat) (delay target : Int) (ledbat : Nat) (s : Conn) :
    QuietPath env cause s (s.growWindow bytesAcked delay target ledbat) := by
  unfold growWindow
  dsimp only
  split_ifs <;> exact .single (Quiet.window s _)

/-- The congestion control asserts only what it was called with. -/
theorem path_applyCcontrol (bytesAcked : Nat) (minRtt : Int) (s : Conn) :
    QuietPath env cause s (s.applyCcontrol bytesAcked minRtt) := by
  have hLines : 1645 ∉ coveredLines ++ mtuLines ∧ 1647 ∉ coveredLines ++ mtuLines ∧
      1648 ∉ coveredLines ++ mtuLines ∧ 1693 ∉ coveredLines ++ mtuLines ∧
      1704 ∉ coveredLines ++ mtuLines := by decide
  unfold applyCcontrol
  dsimp only
  refine Relation.ReflTransGen.tail ?_ (Quiet.window _ _)
  refine Relation.ReflTransGen.trans ?_ (path_growWindow env cause _ _ _ _ _)
  refine Relation.ReflTransGen.tail ?_ (Quiet.check _ 1704 _ hLines.2.2.2.2)
  refine Relation.ReflTransGen.tail ?_ (Quiet.check _ 1693 _ hLines.2.2.2.1)
  refine Relation.ReflTransGen.tail ?_ (Quiet.check _ 1648 _ hLines.2.2.1)
  refine Relation.ReflTransGen.tail ?_ (Quiet.check _ 1647 _ hLines.2.1)
  exact .single (Quiet.check _ 1645 _ hLines.1)

/-- The window of the peer is taken from every packet. -/
theorem path_updateWindowUser (s : Conn) : QuietPath env cause s (s.updateWindowUser header) := by
  unfold updateWindowUser
  dsimp only
  split_ifs
  · exact (Relation.ReflTransGen.single (Quiet.window s _)).tail (Quiet.window _ _)
  · exact .single (Quiet.window s _)

theorem path_maybeDecayWin (s : Conn) : QuietPath env cause s s.maybeDecayWin := by
  unfold maybeDecayWin
  split_ifs
  · exact .single (Quiet.window s _)
  · exact .refl

end Measuring

section Dropping

variable (header : PacketFormatV1)

/-- Acking a packet leaves the numbers of the window alone. -/
theorem numbers_ackPacket (seq : Int) (s : Conn) :
    (s.ackPacket env seq).2.aim = s.aim ∧
      (s.ackPacket env seq).2.snd.curWindowPackets = s.snd.curWindowPackets := by
  unfold ackPacket
  split
  · exact ⟨rfl, rfl⟩
  · split_ifs
    · exact ⟨rfl, rfl⟩
    · have hView := view_removePacket env (u16 seq) (by assumption) s
      exact ⟨congrArg View.aim hView, congrArg View.curWindowPackets hView⟩

/-- The return value 2 means that nothing was changed. -/
theorem ackPacket_unsent {seq : Int} {s : Conn} (h : (s.ackPacket env seq).1 = 2) :
    (s.ackPacket env seq).2 = s := by
  unfold ackPacket at h ⊢
  split
  · rfl
  · rename_i hGet
    rw [hGet] at h
    dsimp only at h ⊢
    split_ifs at h ⊢
    rfl

/-- The ack loop drops packets from the front, up to the acked number. -/
theorem run_ackLoop (acks : Nat) {s : Conn} (hLimit : s.snd.curWindowPackets ≤ 1024)
    (hAcks : acks ≤ s.snd.curWindowPackets)
    (hNumber : 0 < acks →
      (65536 : Int) ∣ header.ackNr - (s.snd.seqNr - s.snd.curWindowPackets + acks - 1)) :
    Relation.ReflTransGen (AckStep env header) s (s.ackLoop env acks) := by
  induction acks generalizing s with
  | zero => exact .refl
  | succ acks ih =>
      unfold ackLoop
      dsimp only
      split_ifs with hUnsent
      · rw [ackPacket_unsent env hUnsent]
      · have hDvd := hNumber (Nat.succ_pos acks)
        have hAcked : u16 (header.ackNr - (s.snd.seqNr - s.snd.curWindowPackets)) <
            s.snd.curWindowPackets := by
          have hEmod := u16_emod (header.ackNr - (s.snd.seqNr - s.snd.curWindowPackets))
          have hLt := u16_lt (header.ackNr - (s.snd.seqNr - s.snd.curWindowPackets))
          push_cast at hDvd
          omega
        have hStep : AckStep env header s _ := .acked s (by omega) hAcked hUnsent
        obtain ⟨hAim, hPackets⟩ := numbers_ackPacket env (s.snd.seqNr - s.snd.curWindowPackets) s
        have hSeq := congrArg Aim.seqNr hAim
        generalize (s.ackPacket env (s.snd.seqNr - s.snd.curWindowPackets)).2 = t at hStep hSeq hPackets ⊢
        have hPred : t.decWindowPackets.snd.curWindowPackets = s.snd.curWindowPackets - 1 := by
          change u16 (t.snd.curWindowPackets - 1) = _
          rw [hPackets]
          unfold u16
          omega
        have hSame : t.decWindowPackets.snd.seqNr = s.snd.seqNr := hSeq
        refine Relation.ReflTransGen.head hStep (ih ?_ ?_ ?_)
        · omega
        · omega
        · intro hPos
          rw [hPred, hSame]
          push_cast at hDvd
          omega

/-- The packets at the front that a mask has acked before leave no packet behind. -/
theorem run_dropAcked (fuel : Nat) (s : Conn) :
    Relation.ReflTransGen (AckStep env header) s (s.dropAcked fuel) := by
  induction fuel generalizing s with
  | zero => exact .refl
  | succ fuel ih =>
      unfold dropAcked
      split_ifs with hDrop
      · have hParts : 0 < s.snd.curWindowPackets ∧
            s.snd.outbuf.get (s.snd.seqNr - s.snd.curWindowPackets) = none := by simpa using hDrop
        exact Relation.ReflTransGen.head (AckStep.dropped s hParts.1 hParts.2) (ih _)
      · exact .refl

/-- Dropping stops at a packet that is still waiting to be acked. -/
theorem frontQueued_dropAcked (fuel : Nat) {s : Conn} (hFuel : s.snd.curWindowPackets ≤ fuel)
    (hLimit : s.snd.curWindowPackets ≤ 1024) : (s.dropAcked fuel).frontQueued = true := by
  induction fuel generalizing s with
  | zero =>
      have hZero : s.snd.curWindowPackets = 0 := by omega
      simp [dropAcked, frontQueued, hZero]
  | succ fuel ih =>
      unfold dropAcked
      split_ifs with hDrop
      · have hPos : 0 < s.snd.curWindowPackets := by
          have hParts := (Bool.and_eq_true _ _).mp hDrop
          exact of_decide_eq_true hParts.1
        have hPred : s.decWindowPackets.snd.curWindowPackets = s.snd.curWindowPackets - 1 := by
          change u16 (s.snd.curWindowPackets - 1) = _
          unfold u16
          omega
        exact ih (by omega) (by omega)
      · cases hGet : s.snd.outbuf.get (s.snd.seqNr - s.snd.curWindowPackets) with
        | none =>
            have hZero : s.snd.curWindowPackets = 0 := by simpa [hGet] using hDrop
            simp [frontQueued, hZero]
        | some pkt => simp [frontQueued, hGet]

/-- The number of the next packet and of the fast retransmission stay. -/
theorem numbers_dropAcked (fuel : Nat) (s : Conn) : (s.dropAcked fuel).aim = s.aim := by
  induction fuel generalizing s with
  | zero => rfl
  | succ fuel ih =>
      unfold dropAcked
      split_ifs
      · exact ih _
      · rfl

/-- Acks move neither of the two numbers. -/
theorem numbers_ackLoop (acks : Nat) (s : Conn) : (s.ackLoop env acks).aim = s.aim := by
  induction acks generalizing s with
  | zero => rfl
  | succ acks ih =>
      unfold ackLoop
      dsimp only
      split_ifs
      · exact (numbers_ackPacket env _ s).1
      · exact (ih _).trans (numbers_ackPacket env _ s).1

/-- The cumulative part of the ack takes packets off the queue until one that is
not acked is at its front. -/
theorem run_dropAcks (acks : Nat) {s : Conn} (h : Core s) (hAcks : acks ≤ s.snd.curWindowPackets)
    (hNumber : 0 < acks →
      (65536 : Int) ∣ header.ackNr - (s.snd.seqNr - s.snd.curWindowPackets + acks - 1)) :
    Relation.ReflTransGen (AckStep env header) s
        ((s.ackLoop env acks).dropAcked (s.ackLoop env acks).snd.curWindowPackets) ∧
      ((s.ackLoop env acks).dropAcked (s.ackLoop env acks).snd.curWindowPackets).frontQueued = true := by
  have hRun := run_ackLoop env header acks h.view.queue.count_le_limit hAcks hNumber
  have hLoose := (AckStep.loose_run hRun h.view.toLooseOk).1
  exact ⟨hRun.trans (run_dropAcked env header _ _),
    frontQueued_dropAcked _ le_rfl hLoose.queue.count_le_limit⟩

/-- The same as a path, for the packet that carries the acks. -/
theorem path_dropAcks {r : Received} (acks : Nat) {s : Conn} (h : Core s)
    (hCause : cause = .packet r) (hAcks : acks ≤ s.snd.curWindowPackets)
    (hNumber : 0 < acks →
      (65536 : Int) ∣ r.d.header.ackNr - (s.snd.seqNr - s.snd.curWindowPackets + acks - 1)) :
    SendPath env cause s
      ((s.ackLoop env acks).dropAcked (s.ackLoop env acks).snd.curWindowPackets) := by
  obtain ⟨hRun, hFront⟩ := run_dropAcks env r.d.header acks h hAcks hNumber
  exact (Queueing.acked s _ r hCause hRun hFront).path

end Dropping

/-- The window keeps its numbers, or has one more packet at its end. -/
def Numbers (s s' : Conn) : Prop :=
  (s'.aim = s.aim ∧ s'.snd.curWindowPackets = s.snd.curWindowPackets) ∨
    (s'.aim = { s.aim with seqNr := u16 (s.snd.seqNr + 1) } ∧
      s'.snd.curWindowPackets = s.snd.curWindowPackets + 1)

/-- A function that keeps the view queues nothing. -/
theorem Numbers.of_view {s s' : Conn} (h : s'.view = s.view) : Numbers s s' :=
  Or.inl ⟨congrArg View.aim h, congrArg View.curWindowPackets h⟩

/-- What comes before may be anything that keeps the numbers. -/
theorem Numbers.of_eq {s t u : Conn} (hAim : t.aim = s.aim)
    (hCount : t.snd.curWindowPackets = s.snd.curWindowPackets) (h : Numbers t u) : Numbers s u := by
  have hSeq : t.snd.seqNr = s.snd.seqNr := congrArg Aim.seqNr hAim
  unfold Numbers at h ⊢
  rwa [hAim, hSeq, hCount] at h

/-- The front of the window does not move. -/
theorem Numbers.front {s s' : Conn} (h : Numbers s s') :
    (65536 : Int) ∣ (s'.snd.seqNr - s'.snd.curWindowPackets : Int) -
      (s.snd.seqNr - s.snd.curWindowPackets) ∧
      s.snd.curWindowPackets ≤ s'.snd.curWindowPackets := by
  rcases h with ⟨hAim, hCount⟩ | ⟨hAim, hCount⟩
  · have hSeq : s'.snd.seqNr = s.snd.seqNr := congrArg Aim.seqNr hAim
    rw [hSeq, hCount]
    simp
  · have hSeq : s'.snd.seqNr = u16 (s.snd.seqNr + 1) := congrArg Aim.seqNr hAim
    have hEmod := u16_emod (s.snd.seqNr + 1)
    rw [hSeq, hCount]
    push_cast
    omega

/-- The queue has a limit, so that an ack near its front stays near. -/
theorem Numbers.near {s s' : Conn} {ackNr : Nat} (h : Numbers s s')
    (hBefore : s.snd.curWindowPackets ≤ 1024) (hAfter : s'.snd.curWindowPackets ≤ 1024)
    (hNear : u16 (s.snd.seqNr - (ackNr + 1)) ≤ s.snd.curWindowPackets + 3) :
    u16 (s'.snd.seqNr - (ackNr + 1)) ≤ 1027 := by
  rcases h with ⟨hAim, -⟩ | ⟨hAim, hCount⟩
  · have hSeq : s'.snd.seqNr = s.snd.seqNr := congrArg Aim.seqNr hAim
    rw [hSeq]
    omega
  · have hSeq : s'.snd.seqNr = u16 (s.snd.seqNr + 1) := congrArg Aim.seqNr hAim
    have hNext := u16_emod (s.snd.seqNr + 1)
    have hOld := u16_emod (s.snd.seqNr - (ackNr + 1))
    have hNew := u16_emod ((u16 (s.snd.seqNr + 1) : Nat) - (ackNr + 1))
    have hNewLt := u16_lt ((u16 (s.snd.seqNr + 1) : Nat) - (ackNr + 1))
    rw [hSeq]
    omega

/-- One more packet takes the pointer and the ack as far behind. -/
theorem Numbers.lag {s s' : Conn} {ackNr : Nat} (h : Numbers s s')
    (hNear : u16 (s.snd.seqNr - (ackNr + 1)) ≤ 1027)
    (hLag : u16 (s.snd.seqNr - s.snd.fastResendSeqNr) < 32768 + u16 (s.snd.seqNr - (ackNr + 1))) :
    u16 (s'.snd.seqNr - s'.snd.fastResendSeqNr) < 32768 + u16 (s'.snd.seqNr - (ackNr + 1)) := by
  rcases h with ⟨hAim, -⟩ | ⟨hAim, -⟩
  · have hSeq : s'.snd.seqNr = s.snd.seqNr := congrArg Aim.seqNr hAim
    have hPointer : s'.snd.fastResendSeqNr = s.snd.fastResendSeqNr :=
      congrArg Aim.fastResendSeqNr hAim
    rwa [hSeq, hPointer]
  · have hSeq : s'.snd.seqNr = u16 (s.snd.seqNr + 1) := congrArg Aim.seqNr hAim
    have hPointer : s'.snd.fastResendSeqNr = s.snd.fastResendSeqNr :=
      congrArg Aim.fastResendSeqNr hAim
    rw [hSeq, hPointer]
    have hNext := u16_emod (s.snd.seqNr + 1)
    have hOldLag := u16_emod (s.snd.seqNr - s.snd.fastResendSeqNr)
    have hOldDist := u16_emod (s.snd.seqNr - (ackNr + 1))
    have hNewLag := u16_emod ((u16 (s.snd.seqNr + 1) : Nat) - s.snd.fastResendSeqNr)
    have hNewDist := u16_emod ((u16 (s.snd.seqNr + 1) : Nat) - (ackNr + 1))
    have hOldLagLt := u16_lt (s.snd.seqNr - s.snd.fastResendSeqNr)
    have hNewLagLt := u16_lt ((u16 (s.snd.seqNr + 1) : Nat) - s.snd.fastResendSeqNr)
    have hNewDistLt := u16_lt ((u16 (s.snd.seqNr + 1) : Nat) - (ackNr + 1))
    omega

/-- A packet keeps its number when it is sent. -/
theorem numbers_sendPacket (v : Int) (s : Conn) :
    (s.sendPacket env v).aim = s.aim ∧
      (s.sendPacket env v).snd.curWindowPackets = s.snd.curWindowPackets := by
  cases hGet : s.snd.outbuf.get v with
  | none =>
      rw [sendPacket_none env hGet]
      exact ⟨rfl, rfl⟩
  | some pkt =>
      have hView := view_sendPacket env hGet
      rw [view_chargeWindow] at hView
      exact ⟨congrArg View.aim hView, congrArg View.curWindowPackets hView⟩

/-- Only the time at which the window was full is kept. -/
theorem view_noteFull (bytes : Int) (s : Conn) : (s.noteFull bytes).view = s.view := by
  unfold noteFull
  split_ifs <;> rfl

/-- By induction on the packets that are left. -/
theorem numbers_flushFrom (n : Nat) (s : Conn) :
    (s.flushFrom env n).aim = s.aim ∧
      (s.flushFrom env n).snd.curWindowPackets = s.snd.curWindowPackets := by
  induction n generalizing s with
  | zero => exact ⟨rfl, rfl⟩
  | succ n ih =>
      unfold flushFrom
      dsimp only
      split
      · exact ih s
      · split_ifs
        · exact ih s
        · have hView := view_noteFull (-1) s
          exact ⟨congrArg View.aim hView, congrArg View.curWindowPackets hView⟩
        · obtain ⟨hAim, hCount⟩ := numbers_sendPacket env
            (u16 (s.snd.seqNr - (n + 1 : Nat)) : Nat) s
          exact ⟨(ih _).1.trans hAim, (ih _).2.trans hCount⟩
        · exact ih s

/-- One packet is queued, under the next number. -/
theorem numbers_appendPacket (flags : Nat) (bytes : List UInt8) {s : Conn}
    (hCount : s.snd.curWindowPackets ≤ 1023) : Numbers s (s.appendPacket env flags bytes) := by
  obtain ⟨pkt, -, -, -, -, -, -, -, -, hView⟩ := view_appendPacket env flags bytes s
  refine Or.inr ⟨congrArg View.aim hView, (congrArg View.curWindowPackets hView).trans ?_⟩
  change u16 (s.snd.curWindowPackets + 1) = s.snd.curWindowPackets + 1
  unfold u16
  omega

theorem snd_noteFull (bytes : Int) (s : Conn) : (s.noteFull bytes).snd = s.snd := by
  unfold noteFull
  split_ifs <;> rfl

theorem snd_markFull (s : Conn) : s.markFull.snd = s.snd := by
  unfold markFull
  split_ifs
  · exact snd_noteFull (-1) s
  · rfl

theorem numbers_of_snd {s s' : Conn} (h : s'.snd = s.snd) : Numbers s s' := by
  refine Or.inl ⟨?_, by rw [h]⟩
  unfold aim
  rw [h]

/-- The timer of an empty queue is set before the first packet. -/
theorem numbers_startTimer (s : Conn) : s.startTimer.view = s.view := by
  unfold startTimer
  split_ifs
  · exact view_check _ _ _
  · rfl

/-- An empty write does nothing, finds the window full, or queues one packet and flushes. -/
theorem utpWrite_nil_cases (s : Conn) : (s.utpWrite env []).2 = s ∨
    (s.utpWrite env []).2 = ((s.updateCurrentMs env).noteFull 0).markFull ∨
    s.snd.curWindowPackets ≤ 1023 ∧
      (s.utpWrite env []).2 = ((s.updateCurrentMs env).startTimer.appendPacket env stData []).flushPackets env := by
  have hLoop : ∀ t : Conn, (t.writevLoop env t.getPacketSize 1 0 0 [[]]).2 = (t.noteFull 0).markFull ∨
      t.snd.curWindowPackets ≤ 1023 ∧ (t.writevLoop env t.getPacketSize 1 0 0 [[]]).2 =
        (t.startTimer.appendPacket env stData []).flushPackets env := by
    intro t
    unfold writevLoop
    simp only [Nat.zero_min, Nat.cast_zero, Nat.sub_self, if_true]
    split_ifs with hFull
    · exact Or.inl rfl
    · have hRoom : t.snd.curWindowPackets ≤ 1023 := (room_of_not_full hFull).le
      refine Or.inr ⟨hRoom, ?_⟩
      change (t.writeOutgoingPacket env 0 stData [[]]).2 = _
      rw [writeOutgoingPacket_empty env [[]] t (Or.inl rfl) hRoom]
  unfold utpWrite utpWritev
  split_ifs with hEmpty hState hFin
  · exact Or.inl rfl
  · exact Or.inl rfl
  · exact Or.inl rfl
  · exact Or.inr (hLoop (s.updateCurrentMs env))

/-- An empty write queues at most one packet. -/
theorem numbers_utpWrite_nil (s : Conn) : Numbers s (s.utpWrite env []).2 := by
  rcases utpWrite_nil_cases env s with hSame | hFull | ⟨hRoom, hSent⟩
  · rw [hSame]
    exact Or.inl ⟨rfl, rfl⟩
  · rw [hFull]
    exact numbers_of_snd ((snd_markFull _).trans (snd_noteFull 0 (s.updateCurrentMs env)))
  · rw [hSent]
    generalize ht : s.updateCurrentMs env = t
    have hTimer : t.startTimer.view = s.view := by
      rw [numbers_startTimer, ← ht]
      rfl
    have hCount : t.startTimer.snd.curWindowPackets = s.snd.curWindowPackets :=
      congrArg View.curWindowPackets hTimer
    have hAppend := numbers_appendPacket env stData [] (s := t.startTimer) (by omega)
    apply Numbers.of_eq (congrArg View.aim hTimer) hCount
    obtain ⟨hAimFlush, hCountFlush⟩ := numbers_flushFrom env
      (t.startTimer.appendPacket env stData []).snd.curWindowPackets
      (t.startTimer.appendPacket env stData [])
    unfold Numbers flushPackets
    rw [hAimFlush, hCountFlush]
    exact hAppend

section Completing

variable {r : Received}

/-- The program may write from the callback, which queues at most one packet. -/
theorem numbers_notifyConnect (s : Conn) : Numbers s (s.notifyConnect env) := by
  unfold notifyConnect
  split_ifs
  · exact Or.inl ⟨rfl, rfl⟩
  · exact numbers_utpWrite_nil env _

/-- The callback of a connection that was just made, with the empty write in it. -/
theorem path_notifyConnect {s : Conn} (h : Core s) (hCause : cause = .packet r)
    (hType : r.d.header.type = stState) (hState : s.state = .synSent) :
    SendPath env cause s ((s.setState .connected).notifyConnect env) := by
  have hMove := Moving.established s r hCause hType hState
  have hCore := h.moving hMove
  unfold notifyConnect
  by_cases hSet : s.onConnectSet = true
  · rw [if_pos hSet] at hMove
    rw [if_pos (show (s.setState .connected).onConnectSet = true from hSet)]
    exact hMove.path
  · rw [if_neg hSet] at hMove hCore
    rw [if_neg (show ¬(s.setState .connected).onConnectSet = true from hSet)]
    exact hMove.path.trans (path_utpWritev env cause [[]] hCore (Or.inr ⟨⟨_, hCause⟩, rfl⟩))

/-- The first packet of data completes an accepted connection. -/
theorem path_completeIncoming {s : Conn} (hCause : cause = .packet r) :
    SendPath env cause s (s.completeIncoming r.d.header) := by
  unfold completeIncoming
  split_ifs with hFirst
  · have hParts := (Bool.and_eq_true _ _).mp hFirst
    exact (Moving.admitted s r hCause (of_decide_eq_true hParts.1) (of_decide_eq_true hParts.2)).path
  · exact .refl

/-- The accepted end queues nothing when it is completed. -/
theorem snd_completeIncoming (header : PacketFormatV1) (s : Conn) :
    (s.completeIncoming header).snd = s.snd := by
  unfold completeIncoming
  split_ifs <;> rfl

/-- How many packets are acked depends on two numbers of the socket. -/
theorem acksOf_congr (header : PacketFormatV1) {s s' : Conn}
    (hSeq : s'.snd.seqNr = s.snd.seqNr)
    (hCount : s'.snd.curWindowPackets = s.snd.curWindowPackets) :
    s'.acksOf header = s.acksOf header := by
  unfold acksOf
  rw [hSeq, hCount]

/-- The answer to the SYN completes a dialled connection, and the ack of the FIN is noted. -/
theorem path_completeOutgoing {s : Conn} (h : Core s) (hCause : cause = .packet r) :
    SendPath env cause s (s.completeOutgoing env r.d.header (s.acksOf r.d.header)) := by
  unfold completeOutgoing
  split_ifs with hDialled hFin
  · have hParts := (Bool.and_eq_true _ _).mp hDialled
    exact path_notifyConnect env cause h hCause (of_decide_eq_true hParts.1)
      (of_decide_eq_true hParts.2)
  · have hParts := (Bool.and_eq_true _ _).mp hFin
    have hMove := Moving.finAcked s r hCause hParts.1 (of_decide_eq_true hParts.2)
    exact hMove.path
  · exact .refl

/-- At most the empty write of the callback is queued. -/
theorem numbers_completeOutgoing (header : PacketFormatV1) (acks : Nat) (s : Conn) :
    Numbers s (s.completeOutgoing env header acks) := by
  unfold completeOutgoing
  split_ifs
  · exact Numbers.of_eq rfl rfl (numbers_notifyConnect env (s.setState .connected))
  · dsimp only
    split_ifs <;> exact Or.inl ⟨rfl, rfl⟩
  · exact Or.inl ⟨rfl, rfl⟩

/-- Only the pointer of the fast retransmission is moved. -/
theorem numbers_updateFastResend (header : PacketFormatV1) (s : Conn) :
    (s.updateFastResend header).snd.seqNr = s.snd.seqNr ∧
      (s.updateFastResend header).snd.curWindowPackets = s.snd.curWindowPackets := by
  unfold updateFastResend
  split_ifs <;> exact ⟨rfl, rfl⟩

/-- A packet held back by Nagle is still in its slot. -/
theorem path_flushNagle {s : Conn} (h : Core s) : SendPath env cause s (s.flushNagle env) := by
  unfold flushNagle
  split_ifs with hOne
  · have hFront := h.view.front (by simp [hOne])
    simp only [view_outbuf, view_seqNr, view_curWindowPackets, hOne, Nat.cast_one] at hFront
    split
    · rename_i hNone
      rw [hNone] at hFront
      cases hFront
    · split_ifs
      · exact (Queueing.send s _).path
      · exact .refl
  · exact .refl

/-- After a timeout each ack lets one more packet be sent again. -/
theorem path_fastTimeoutRetry {s : Conn} (h : Core s) (hCause : cause = .packet r) :
    SendPath env cause s (s.fastTimeoutRetry env) := by
  unfold fastTimeoutRetry
  dsimp only
  split_ifs with hFast hPointer
  · exact (Quiet.leaveFastTimeout s).path
  · split
    · exact .refl
    · rename_i pkt hGet
      split_ifs
      · obtain ⟨j, hj, -⟩ := h.view.queue.offset_of_get hGet
        have hCount : 0 < s.snd.curWindowPackets := Nat.zero_lt_of_lt hj
        have hFront : s.snd.fastResendSeqNr = u16 (s.snd.seqNr - s.snd.curWindowPackets) :=
          (of_not_not hPointer).symm
        exact (Queueing.retried s r hCause hFront hCount).path.trans (Queueing.send _ _).path
      · exact .refl
  · exact .refl

/-- The packet that was held back is sent under its own number. -/
theorem numbers_flushNagle (s : Conn) : (s.flushNagle env).aim = s.aim := by
  unfold flushNagle
  split_ifs
  · split
    · rfl
    · split_ifs
      · exact (numbers_sendPacket env _ s).1
      · rfl
  · rfl

/-- The pointer moves past the packet that is retried, which is the oldest one. -/
theorem numbers_fastTimeoutRetry {s : Conn} (h : Core s) : (s.fastTimeoutRetry env).aim = s.aim ∨
    (s.fastTimeoutRetry env).aim =
      { s.aim with fastResendSeqNr := u16 (s.snd.fastResendSeqNr + 1) } ∧
    0 < s.snd.curWindowPackets ∧
    s.snd.fastResendSeqNr = u16 (s.snd.seqNr - s.snd.curWindowPackets) := by
  unfold fastTimeoutRetry
  dsimp only
  split_ifs with hFast hPointer
  · exact Or.inl rfl
  · split
    · exact Or.inl rfl
    · rename_i pkt hGet
      split_ifs
      · obtain ⟨j, hj, -⟩ := h.view.queue.offset_of_get hGet
        exact Or.inr ⟨(numbers_sendPacket env _ _).1, Nat.zero_lt_of_lt hj,
          (of_not_not hPointer).symm⟩
      · exact Or.inl rfl
  · exact Or.inl rfl

/-- The ack number lies `acks` packets past the front of the window. -/
theorem acksOf_spec (header : PacketFormatV1) (s : Conn) :
    s.acksOf header ≤ s.snd.curWindowPackets ∧ (0 < s.acksOf header →
      (65536 : Int) ∣ header.ackNr -
        (s.snd.seqNr - s.snd.curWindowPackets + s.acksOf header - 1)) := by
  have hEmod := u16_emod (header.ackNr - (s.snd.seqNr - 1 - s.snd.curWindowPackets))
  unfold acksOf
  dsimp only
  split_ifs with hOld
  · exact ⟨Nat.zero_le _, fun hPos => absurd hPos (lt_irrefl 0)⟩
  · refine ⟨Nat.le_of_not_lt hOld, fun _ => ?_⟩
    omega

/-- The assertion after the ack loop holds in every sound state. -/
theorem frontQueued_of_core {s : Conn} (h : Core s) : s.frontQueued = true := by
  unfold frontQueued
  by_cases hZero : s.snd.curWindowPackets = 0
  · simp [hZero]
  · have hFront : (s.snd.outbuf.get (s.snd.seqNr - s.snd.curWindowPackets)).isSome = true :=
      h.view.front (Nat.pos_of_ne_zero hZero)
    simp [hFront]

/-- The update moves a pointer that is less than half of the number space behind. -/
theorem tracks_updateFastResend {header : PacketFormatV1} {s : Conn}
    (h : u16 (s.snd.seqNr - s.snd.fastResendSeqNr) <
      32768 + u16 (s.snd.seqNr - (header.ackNr + 1))) :
    (s.updateFastResend header).aim.Tracks header.ackNr := by
  have hLag := u16_emod (s.snd.seqNr - s.snd.fastResendSeqNr)
  have hDist := u16_emod (s.snd.seqNr - (header.ackNr + 1))
  have hPast := u16_emod (s.snd.fastResendSeqNr - (header.ackNr + 1))
  have hLagLt := u16_lt (s.snd.seqNr - s.snd.fastResendSeqNr)
  have hDistLt := u16_lt (s.snd.seqNr - (header.ackNr + 1))
  have hPastLt := u16_lt (s.snd.fastResendSeqNr - (header.ackNr + 1))
  have hNext := u16_emod (header.ackNr + 1)
  unfold updateFastResend Aim.Tracks
  split_ifs with hLess
  · have hSame : u16 ((u16 (header.ackNr + 1) : Nat) - (header.ackNr + 1)) = 0 := by
      have hEmod := u16_emod ((u16 (header.ackNr + 1) : Nat) - (header.ackNr + 1))
      have hLt := u16_lt ((u16 (header.ackNr + 1) : Nat) - (header.ackNr + 1))
      omega
    change u16 ((u16 (header.ackNr + 1) : Nat) - (header.ackNr + 1)) ≤ _
    omega
  · change u16 (s.snd.fastResendSeqNr - (header.ackNr + 1)) ≤ u16 (s.snd.seqNr - (header.ackNr + 1))
    unfold wrappingCompareLess at hLess
    simp only [decide_eq_true_eq, ackNrMask] at hLess
    omega

/-- What the cumulative part of an ack does. -/
structure AcksDone (s s' : Conn) : Prop where
  path : SendPath env cause s s'
  seqNr : s'.snd.seqNr = s.snd.seqNr ∨ s'.snd.seqNr = u16 (s.snd.seqNr + 1)
  near : ∀ r, cause = .packet r →
    u16 (s.snd.seqNr - (r.d.header.ackNr + 1)) ≤ s.snd.curWindowPackets + 3 →
    u16 (s'.snd.seqNr - (r.d.header.ackNr + 1)) ≤ 1027
  tracks : ∀ r, cause = .packet r →
    u16 (s.snd.seqNr - (r.d.header.ackNr + 1)) ≤ s.snd.curWindowPackets + 3 →
    u16 (s.snd.seqNr - s.snd.fastResendSeqNr) < 32768 + u16 (s.snd.seqNr - (r.d.header.ackNr + 1)) →
    s'.aim.Tracks r.d.header.ackNr

/-- The connection is completed, or the FIN acked, before anything leaves the queue. -/
def complete (header : PacketFormatV1) (s : Conn) : Conn :=
  ((s.updateWindowUser header).completeIncoming header).completeOutgoing env header (s.acksOf header)

/-- The cumulative part of an ack: completing, dropping, and sending what this admits. -/
theorem processAcks_eq (header : PacketFormatV1) (s : Conn) :
    s.processAcks env header (s.acksOf header) =
      let t := ((s.complete env header).updateFastResend header).ackLoop env (s.acksOf header)
      let t := t.dropAcked t.snd.curWindowPackets
      ((t.check 2279 t.frontQueued).flushNagle env).fastTimeoutRetry env := rfl

/-- Completing a connection is a path, and queues at most one packet. -/
theorem spec_complete {s : Conn} (h : Core s) (hCause : cause = .packet r) :
    SendPath env cause s (s.complete env r.d.header) ∧ Numbers s (s.complete env r.d.header) := by
  have hWindow := (path_updateWindowUser env cause r.d.header s).path
  have hWindowView := (path_updateWindowUser env cause r.d.header s).view h.view.bounds.ackNr_lt
  have hIncoming := hWindow.trans (path_completeIncoming env cause
    (s := s.updateWindowUser r.d.header) hCause)
  have hSnd := snd_completeIncoming r.d.header (s.updateWindowUser r.d.header)
  unfold complete
  generalize (s.updateWindowUser r.d.header).completeIncoming r.d.header = t at hIncoming hSnd ⊢
  have hAim : t.aim = s.aim := by
    unfold aim
    rw [hSnd]
    exact aim_of_view hWindowView
  have hSeq : t.snd.seqNr = s.snd.seqNr := congrArg Aim.seqNr hAim
  have hCount : t.snd.curWindowPackets = s.snd.curWindowPackets := by
    rw [hSnd]
    exact count_of_view hWindowView
  rw [← acksOf_congr r.d.header hSeq hCount]
  exact ⟨hIncoming.trans (path_completeOutgoing env cause (h.sendPath hIncoming) hCause),
    Numbers.of_eq hAim hCount (numbers_completeOutgoing env r.d.header (t.acksOf r.d.header) t)⟩

/-- The packets that are acked stay at the front of the window. -/
theorem Numbers.acks {s u : Conn} (h : Numbers s u) (header : PacketFormatV1) :
    s.acksOf header ≤ u.snd.curWindowPackets ∧ (0 < s.acksOf header →
      (65536 : Int) ∣ header.ackNr -
        (u.snd.seqNr - u.snd.curWindowPackets + s.acksOf header - 1)) := by
  obtain ⟨hFront, hMore⟩ := h.front
  obtain ⟨hLe, hNumber⟩ := acksOf_spec header s
  refine ⟨by omega, fun hPos => ?_⟩
  have hOld := hNumber hPos
  omega

/-- The whole of the cumulative part. -/
theorem spec_processAcks {s : Conn} (h : Core s) (hCause : cause = .packet r) :
    AcksDone env cause s (s.processAcks env r.d.header (s.acksOf r.d.header)) := by
  obtain ⟨hOutgoing, hNumbers⟩ := spec_complete env cause h hCause
  rw [processAcks_eq]
  dsimp only
  generalize s.complete env r.d.header = u at *
  have hResend : SendPath env cause s _ := hOutgoing.trans (Queueing.advance u r hCause).path
  have hBefore : s.snd.curWindowPackets ≤ 1024 := h.view.queue.count_le_limit
  have hAfter : u.snd.curWindowPackets ≤ 1024 := (h.sendPath hOutgoing).view.queue.count_le_limit
  have hTracks : u16 (s.snd.seqNr - (r.d.header.ackNr + 1)) ≤ 1027 →
      u16 (s.snd.seqNr - s.snd.fastResendSeqNr) < 32768 + u16 (s.snd.seqNr - (r.d.header.ackNr + 1)) →
      (u.updateFastResend r.d.header).aim.Tracks r.d.header.ackNr :=
    fun hNear hLag => tracks_updateFastResend (hNumbers.lag hNear hLag)
  obtain ⟨hSeqPointer, hCountPointer⟩ := numbers_updateFastResend r.d.header u
  obtain ⟨hAcks, hNumber⟩ := hNumbers.acks r.d.header
  rw [← hSeqPointer, ← hCountPointer] at hNumber
  rw [← hCountPointer] at hAcks
  generalize u.updateFastResend r.d.header = w at *
  have hDrop := hResend.trans (path_dropAcks env cause (s.acksOf r.d.header) (h.sendPath hResend)
    hCause hAcks hNumber)
  have hAimDrop := (numbers_dropAcked ((w.ackLoop env (s.acksOf r.d.header)).snd.curWindowPackets)
    _).trans (numbers_ackLoop env (s.acksOf r.d.header) w)
  have hCore := h.sendPath hDrop
  have hNagle := hDrop.trans (path_flushNagle env cause hCore)
  have hRetry := hNagle.trans (path_fastTimeoutRetry env cause (h.sendPath hNagle) hCause)
  have hQueued := frontQueued_of_core hCore
  have hAimNagle := (numbers_flushNagle env _).trans hAimDrop
  have hAimRetry := numbers_fastTimeoutRetry env (h.sendPath hNagle)
  have hLimit := (h.sendPath hNagle).view.queue.count_le_limit
  rw [check_true 2279 _ hQueued]
  generalize ((w.ackLoop env (s.acksOf r.d.header)).dropAcked
    (w.ackLoop env (s.acksOf r.d.header)).snd.curWindowPackets).flushNagle env = x at *
  have hSeqRetry : (x.fastTimeoutRetry env).snd.seqNr = u.snd.seqNr := by
    have hSame : (x.fastTimeoutRetry env).aim.seqNr = x.aim.seqNr := by
      rcases hAimRetry with hSame | ⟨hSame, -⟩ <;> rw [hSame]
    exact hSame.trans ((congrArg Aim.seqNr hAimNagle).trans hSeqPointer)
  have hOnly : ∀ r', cause = .packet r' → r' = r := by
    intro r' hr
    rw [hCause] at hr
    exact (Cause.packet.inj hr).symm
  refine ⟨hRetry, ?_, ?_, ?_⟩
  · rw [hSeqRetry]
    rcases hNumbers with ⟨hSame, -⟩ | ⟨hSame, -⟩
    · exact Or.inl (congrArg Aim.seqNr hSame)
    · exact Or.inr (congrArg Aim.seqNr hSame)
  · intro r' hr hNear
    rw [hOnly r' hr] at hNear ⊢
    rw [hSeqRetry]
    exact hNumbers.near hBefore hAfter hNear
  · intro r' hr hNear hLag
    rw [hOnly r' hr] at hNear hLag ⊢
    have hOld : x.aim.Tracks r.d.header.ackNr := hAimNagle ▸ hTracks (by omega) hLag
    rcases hAimRetry with hSame | ⟨hSame, hPos, hAt⟩
    · rwa [hSame]
    · rw [hSame]
      exact hOld.retry hPos hLimit hAt

end Completing

end Conn

/-- A move of the state leaves the queue as it is. -/
theorem Moving.snd {cause : Cause} {s s' : Conn} (h : Moving cause s s') : s'.snd = s.snd := by
  cases h with
  | finAcked r hCause hFin hAcks => split_ifs <;> rfl
  | full hState hFull => exact Conn.snd_markFull s
  | icmpError =>
      unfold Conn.receiveIcmpError
      dsimp only
      split_ifs <;> rfl
  | _ => rfl

end Utp
