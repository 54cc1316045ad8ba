import Utp.Invariant.Probe
import Utp.Invariant.Fate

/-! The probe of the MTU search through whole runs. A packet that is processed first settles
the probe that it acks, and only then takes the acked packets out of the queue. -/
namespace Utp

open Wrapping

variable {env : Env} {cause : Cause} {s s' : Conn}

namespace Probing

theorem moving (h : Probing s) (hMove : Moving cause s s') : Probing s' :=
  h.same hMove.snd (congrArg Search.mtu hMove.search) (hMove.offer ▸ .refl)
    (.of_search hMove.grows hMove.search)

/-- Received data is no matter of the search. -/
theorem receiving (h : Probing s) (hReceive : Receiving env cause s s') : Probing s' := by
  have hForeground := hReceive.foreground
  exact h.same (congrArg Foreground.snd hForeground) (congrArg Foreground.mtu hForeground) hReceive.offer
    (.of_search hReceive.grows hReceive.search)

/-- A socket with an empty queue has no probe. -/
theorem probeSeq_of_empty (h : Probing s) (hCount : s.snd.curWindowPackets = 0) : s.mtu.probeSeq = 0 := by
  by_contra hOut
  obtain ⟨j, pkt, hAt, -⟩ := h.probe hOut
  rw [Conn.packetAt_of_empty hCount] at hAt
  cases hAt

/-- The queue is empty and stays so. -/
theorem restarted (h : Probing s) (hCount : s.snd.curWindowPackets = 0) (hEmpty : s'.snd.curWindowPackets = 0)
    (hMtu : s'.mtu = s.mtu) (hVerdict : NoVerdict s s') : Probing s' := by
  have hNone : s'.mtu.probeSeq = 0 := by
    rw [hMtu]
    exact h.probeSeq_of_empty hCount
  refine ⟨absurd hNone, absurd hNone, fun j pkt hAt => ?_, hVerdict.each h.verdicts⟩
  rw [Conn.packetAt_of_empty hEmpty] at hAt
  cases hAt

/-- The SYN takes the first number, for which there is no probe. -/
theorem setup (h : Probing s) (hCore : Core s) (hCore' : Core s') (hLive : s.Live)
    (hSetup : Setup env cause s s') : Probing s' := by
  cases hSetup with
  | initialise addr connSeed connIdRecv connIdSend hState => exact absurd hState hLive
  | dial hState hCount hPointer =>
      have hCore₀ : Core (s.startConnect env) := hCore.startConnect hState hCount
      have hEmpty : (s.startConnect env).snd.curWindowPackets = 0 := hCount
      obtain ⟨window, hLog⟩ := Conn.log_startConnect env s
      have hStart : Probing (s.startConnect env) := by
        refine h.restarted hCount hEmpty rfl ⟨_, hLog, ?_⟩
        simp [Event.verdict?]
      obtain ⟨hNew, hOld⟩ : (s.startConnect env).queueSyn.packetAt 0 = some (s.startConnect env).synPacket ∧
          ∀ j, (s.startConnect env).queueSyn.packetAt (j + 1) = (s.startConnect env).packetAt j :=
        hCore₀.packetAt_enqueued (by omega) rfl rfl rfl
      refine hStart.enqueued hCore' hNew hOld (show stSyn ≠ stState by decide) ?_ rfl (.emit _ rfl)
      exact maiden_append (s.startConnect env).log (.queued (s.startConnect env).snd.seqNr stSyn [])
  | accept d hCause hState hCount =>
      exact h.restarted hCount hCount rfl (.emit s rfl)

/-- Every sending transition that belongs to no packet. -/
theorem sending (h : Probing s) (hCore : Core s) (hCore' : Core s') (hCause : ∀ r, cause ≠ .packet r)
    (hSound : SoundProbes s'.log) (hSend : Sending env cause s s') : Probing s' := by
  cases hSend with
  | quiet hQuiet => exact h.quiet hCore hQuiet
  | moving hMove => exact h.moving hMove
  | queueing hQueue =>
      cases hQueue with
      | append bytes hState hFin hCount hLength =>
          exact h.appended hCore s.finSent hCore' hCount.le (by decide)
      | appendFin hState hFin => exact h.appended hCore true hCore' (hCore.view.room hFin) (by decide)
      | fill pkt bytes hState hFin hCount hGet hUnsent hLength => exact h.filled hCore bytes hCount hGet hUnsent
      | send v => exact h.sent hCore v hSound
      | acked _ r hPacket => exact absurd hPacket (hCause r)
      | sacked r mask bits hPacket => exact absurd hPacket (hCause r)
      | lost i hIndex => exact h.lost hCore i
      | advance r hPacket => exact absurd hPacket (hCause r)
      | retried r hPacket => exact absurd hPacket (hCause r)
      | resent r v hPacket => exact absurd hPacket (hCause r)

theorem trans (h : Probing s) (hCore : Core s) (hCore' : Core s') (hLive : s.Live)
    (hCause : ∀ r, cause ≠ .packet r) (hSound : SoundProbes s'.log) (hTrans : Trans env cause s s') :
    Probing s' := by
  cases hTrans with
  | setup hSetup => exact h.setup hCore hCore' hLive hSetup
  | receiving hReceive => exact h.receiving hReceive
  | sending hSend => exact h.sending hCore hCore' hCause hSound hSend

end Probing

/-- The probe is past everything that `ackNr` acks. -/
def Conn.ProbePast (ackNr : Nat) (s : Conn) : Prop :=
  s.mtu.probeSeq ≠ 0 → u16 (s.snd.seqNr - 1 - s.mtu.probeSeq) < u16 (s.snd.seqNr - 1 - ackNr)

/-- Whenever the probes were sound so far, the probe is attributed to the right packet. -/
structure Attributed (s : Conn) : Prop where
  core : Core s
  probing : SoundProbes s.log → Probing s

namespace Attributed

/-- What is left to show of a transition is that it keeps the probe, in a sound state and with sound
probes so far. -/
theorem step (h : Attributed s) (hStep : Trans env cause s s')
    (hNext : Probing s → Core s' → SoundProbes s'.log → Probing s') : Attributed s' := by
  have hCore := h.core.path (.single hStep)
  exact ⟨hCore, fun hSound => hNext (h.probing (hSound.before hStep.grows)) hCore hSound⟩

/-- The bookkeeping keeps it, the verdicts included. -/
theorem quiet (h : Attributed s) (hQuiet : Quiet env cause s s') : Attributed s' :=
  h.step (.sending (.quiet hQuiet)) fun hProbing _ _ => hProbing.quiet h.core hQuiet

theorem quietPath (h : Attributed s) (hPath : QuietPath env cause s s') : Attributed s' := by
  induction hPath with
  | refl => exact h
  | tail _ hStep ih => exact ih.quiet hStep

theorem moving (env : Env) (h : Attributed s) (hMove : Moving cause s s') : Attributed s' := by
  have hStep : Sending env cause s s' := .moving hMove
  exact h.step (.sending hStep) fun hProbing _ _ => hProbing.moving hMove

/-- By induction on the packets that are taken. -/
theorem takePath (h : Attributed s) (hPath : TakePath env cause s s') : Attributed s' := by
  induction hPath with
  | refl => exact h
  | tail _ hStep ih =>
      rcases hStep with hQuiet | hReceive
      · exact ih.quiet hQuiet
      · exact ih.step (.receiving hReceive) fun hProbing _ _ => hProbing.receiving hReceive

theorem sent (h : Attributed s) (v : Int) : Attributed (s.sendPacket env v) :=
  have hStep : Queueing env .call s (s.sendPacket env v) := .send s v
  h.step (.sending (.queueing hStep)) fun hProbing _ hSound => hProbing.sent h.core v hSound

/-- By induction on the path. A cause that is no packet cannot ack the probe. -/
theorem sendPath (h : Attributed s) (hPath : SendPath env cause s s') (hCause : ∀ r, cause ≠ .packet r) :
    Attributed s' := by
  induction hPath with
  | refl => exact h
  | tail hPrior hStep ih =>
      refine ih.step (.sending hStep) fun hProbing hCore hSound => ?_
      exact hProbing.sending ih.core hCore hCause hSound hStep

/-- A run that belongs to no packet. -/
theorem path (h : Attributed s) (hLive : s.Live) (hCause : ∀ r, cause ≠ .packet r)
    (hPath : Path env cause s s') : Attributed s' := by
  induction hPath with
  | refl => exact h
  | tail hPrior hStep ih =>
      refine ih.step hStep fun hProbing hCore hSound => ?_
      exact hProbing.trans ih.core hCore (Path.keeps hPrior h.core hLive).1 hCause hSound hStep

/-- The packets that a packet acks are taken out, if the probe is past them. -/
theorem ackRun (h : Attributed s) {r : Received}
    (hRun : Relation.ReflTransGen (AckStep env r.d.header) s s') (hFront : s'.frontQueued = true)
    (hPast : SoundProbes s.log → s.ProbePast r.d.header.ackNr) : Attributed s' := by
  have hStep : Queueing env (.packet r) s s' := .acked s s' r rfl hRun hFront
  have hSearch := AckStep.search_run hRun
  have hMtu : s'.mtu = s.mtu := congrArg Search.mtu hSearch
  have hLoose := h.core.view.toLooseOk
  refine h.step (.sending (.queueing hStep)) fun hProbing _ hSound => ?_
  refine hProbing.thinned (AckStep.sheds_run hRun hLoose).packets (fun hOut j pkt hAt hNumber => ?_)
    (.of_eq hMtu) (Conn.maiden_of_offer (AckStep.offer_run hRun))
    ((NoVerdict.of_search (AckStep.grows_run hRun) hSearch).each hProbing.verdicts)
  rw [(AckStep.spares_run hRun hLoose).2 j ?_]
  · exact hAt
  · rw [hMtu] at hOut
    have hFar := hPast (hSound.before (AckStep.grows_run hRun)) hOut
    obtain ⟨hIn, hLimit⟩ := h.core.lt_of_packetAt hAt
    have hOwn := (h.core.packet_ok hAt).seqNr
    have hEmod := u16_emod (s.snd.seqNr - 1 - j)
    have hDist := u16_emod (s.snd.seqNr - 1 - s.mtu.probeSeq)
    omega

end Attributed

namespace Conn

variable {ackNr : Nat}

namespace ProbePast

/-- The distance from the acked number to the probe depends on the next number and on the probe. -/
theorem keeps (h : s.ProbePast ackNr) (hSeq : s'.snd.seqNr = s.snd.seqNr) (hProbe : KeepsProbe s.mtu s'.mtu) :
    s'.ProbePast ackNr := by
  intro hOut
  rcases hProbe with hNone | ⟨hSame, -⟩
  · exact absurd hNone hOut
  · rw [hSame] at hOut ⊢
    rw [hSeq]
    exact h hOut

theorem quietPath (h : s.ProbePast ackNr) (hAck : s.rcv.ackNr < 65536) (hPath : QuietPath env cause s s') :
    s'.ProbePast ackNr := by
  induction hPath with
  | refl => exact h
  | tail hPrior hStep ih =>
      have hView := QuietPath.view hPrior hAck
      have hBound : (_ : Conn).rcv.ackNr < 65536 := lt_of_eq_of_lt (congrArg View.ackNr hView) hAck
      exact ih.keeps (congrArg View.seqNr (hStep.view hBound)) hStep.keepsProbe

/-- A new probe is the newest packet. -/
theorem sent (h : s.ProbePast ackNr) (hPos : 0 < u16 (s.snd.seqNr - 1 - ackNr)) (v : Int) :
    (s.sendPacket env v).ProbePast ackNr := by
  have hSeq : (s.sendPacket env v).snd.seqNr = s.snd.seqNr := congrArg Aim.seqNr (numbers_sendPacket env v s).1
  cases hGet : s.snd.outbuf.get v with
  | none => rwa [sendPacket_none env hGet]
  | some pkt =>
      rcases (probe_sendPacket env hGet).2 with hKept | ⟨-, -, hNew, -⟩
      · exact h.keeps hSeq hKept
      · intro _
        have hEmod := u16_emod (s.snd.seqNr - 1)
        have hDist := u16_emod (s.snd.seqNr - 1 - (u16 (s.snd.seqNr - 1) : Nat))
        have hLt := u16_lt (s.snd.seqNr - 1 - (u16 (s.snd.seqNr - 1) : Nat))
        rw [hSeq, hNew]
        omega

/-- By induction on the packets that are left: a flush may send a probe, and this is a new packet. -/
theorem flushed (h : s.ProbePast ackNr) (hPos : 0 < u16 (s.snd.seqNr - 1 - ackNr)) (n : Nat) :
    (s.flushFrom env n).ProbePast ackNr := by
  induction n generalizing s with
  | zero => exact h
  | succ n ih =>
      unfold flushFrom
      dsimp only
      split
      · exact ih h hPos
      · split_ifs
        · exact ih h hPos
        · refine h.keeps (congrArg SendState.seqNr (snd_noteFull _ s)) (.of_eq ?_)
          unfold noteFull
          split_ifs
          rfl
        · refine ih (h.sent hPos _) ?_
          rwa [show (s.sendPacket env _).snd.seqNr = s.snd.seqNr from
            congrArg Aim.seqNr (numbers_sendPacket env _ s).1]
        · exact ih h hPos

/-- One packet more: the numbers before it are one farther away. -/
theorem appended (env : Env) (h : s.ProbePast ackNr) (hNear : u16 (s.snd.seqNr - 1 - ackNr) < 65535) (flags : Nat)
    (bytes : List UInt8) : (s.appendPacket env flags bytes).ProbePast ackNr ∧
      0 < u16 ((s.appendPacket env flags bytes).snd.seqNr - 1 - ackNr) := by
  obtain ⟨pkt, -, -, -, -, -, -, -, -, hView⟩ := view_appendPacket env flags bytes s
  have hSeq : (s.appendPacket env flags bytes).snd.seqNr = u16 (s.snd.seqNr + 1) := congrArg View.seqNr hView
  have hSearch : (s.appendPacket env flags bytes).search = s.search := search_appendPacket flags bytes s
  have hMtu : (s.appendPacket env flags bytes).mtu = s.mtu := congrArg Search.mtu hSearch
  have hNext := u16_emod (s.snd.seqNr + 1)
  have hBefore := u16_emod (s.snd.seqNr - 1 - ackNr)
  have hAfter := u16_emod ((u16 (s.snd.seqNr + 1) : Nat) - 1 - ackNr)
  have hLt := u16_lt ((u16 (s.snd.seqNr + 1) : Nat) - 1 - ackNr)
  unfold ProbePast
  rw [hSeq, hMtu]
  refine ⟨fun hOut => ?_, by omega⟩
  have hPast := h hOut
  have hProbe := u16_emod (s.snd.seqNr - 1 - s.mtu.probeSeq)
  have hProbe' := u16_emod ((u16 (s.snd.seqNr + 1) : Nat) - 1 - s.mtu.probeSeq)
  have hProbeLt := u16_lt ((u16 (s.snd.seqNr + 1) : Nat) - 1 - s.mtu.probeSeq)
  omega

/-- The timer has no part in it. -/
theorem startTimer (h : s.ProbePast ackNr) : s.startTimer.ProbePast ackNr := by
  refine h.keeps (congrArg View.seqNr (numbers_startTimer s)) (.of_eq ?_)
  unfold Conn.startTimer
  split_ifs
  · exact mtu_check _ _ _
  · rfl

/-- The empty write of a callback queues one packet behind the probe. -/
theorem written (h : s.ProbePast ackNr) (hNear : u16 (s.snd.seqNr - 1 - ackNr) < 65535) :
    (s.utpWrite env []).2.ProbePast ackNr := by
  have hClock : (s.updateCurrentMs env).ProbePast ackNr := h
  rcases utpWrite_nil_cases env s with hSame | hFull | ⟨-, hSent⟩
  · rwa [hSame]
  · rw [hFull]
    refine hClock.keeps ?_ (.of_eq ?_)
    · exact congrArg SendState.seqNr ((snd_markFull _).trans (snd_noteFull 0 _))
    · unfold markFull noteFull
      split_ifs <;> rfl
  · rw [hSent]
    have hTimer := hClock.startTimer
    have hSeq : (s.updateCurrentMs env).startTimer.snd.seqNr = s.snd.seqNr :=
      congrArg View.seqNr (numbers_startTimer _)
    obtain ⟨hAppended, hPos⟩ := hTimer.appended env (by rw [hSeq]; exact hNear) stData []
    exact hAppended.flushed hPos _

theorem completeOutgoing (h : s.ProbePast ackNr) (hNear : u16 (s.snd.seqNr - 1 - ackNr) < 65535)
    (header : PacketFormatV1) (acks : Nat) : (s.completeOutgoing env header acks).ProbePast ackNr := by
  have hUp : ∀ e, ((s.setState .connected).emit e).ProbePast ackNr := fun _ => h
  unfold Conn.completeOutgoing notifyConnect
  split_ifs
  · exact hUp _
  · exact (hUp _).written hNear
  · dsimp only
    split_ifs <;> exact h
  · exact h

end ProbePast

/-- By induction on the path. -/
theorem keepsProbe_path (hPath : QuietPath env cause s s') : KeepsProbe s.mtu s'.mtu := by
  induction hPath with
  | refl => exact .of_eq rfl
  | tail _ hStep ih =>
      rcases hStep.keepsProbe with hNone | ⟨hSeq, hSize⟩
      · exact Or.inl hNone
      · rw [KeepsProbe, hSeq, hSize]
        exact ih

/-- The view does not have the search. -/
theorem view_probeAcked (env : Env) (seq : Nat) (s : Conn) : (s.probeAcked env seq).view = s.view := by
  unfold probeAcked
  split_ifs
  · exact view_probePassed env s
  · rfl

/-- One turn of the count, which may end the probe. -/
theorem ackedBytesFrom_succ (env : Env) (now count i : Nat) (a : AckedBytes) (s : Conn) : ∃ (a' : AckedBytes)
    (t : Conn), t.view = s.view ∧
      s.ackedBytesFrom env now (count + 1) i a = t.ackedBytesFrom env now count (i + 1) a' := by
  cases hGet : s.snd.outbuf.get (u16 (s.snd.seqNr - s.snd.curWindowPackets + i)) with
  | none => exact ⟨a, s, rfl, by simp [ackedBytesFrom, hGet]⟩
  | some pkt =>
      by_cases hUnsent : pkt.transmissions = 0
      · exact ⟨a, s, rfl, by simp [ackedBytesFrom, hGet, hUnsent]⟩
      · refine ⟨⟨a.ackedBytes + pkt.payload, minRttOf pkt now a.minRtt⟩,
          s.probeAcked env (u16 (s.snd.seqNr - s.snd.curWindowPackets + i)), view_probeAcked env _ s, ?_⟩
        simp [ackedBytesFrom, hGet, hUnsent]

/-- A probe that is still outstanding after the acked packets have been looked at is not
one of them, unless it was never sent. -/
theorem probe_ackedBytesFrom (env : Env) (now count i : Nat) (a : AckedBytes) (s : Conn)
    (hOut : (s.ackedBytesFrom env now count i a).2.mtu.probeSeq ≠ 0) {k : Nat} (hLow : i ≤ k)
    (hHigh : k < i + count)
    (hHere : u16 (s.snd.seqNr - s.snd.curWindowPackets + k) = (s.ackedBytesFrom env now count i a).2.mtu.probeSeq) :
    ∀ pkt, s.snd.outbuf.get (s.ackedBytesFrom env now count i a).2.mtu.probeSeq = some pkt →
      pkt.transmissions = 0 := by
  induction count generalizing i a s with
  | zero => omega
  | succ count ih =>
      by_cases hFirst : k = i
      · subst hFirst
        intro pkt hGet
        rw [← hHere] at hGet
        by_contra hSent
        unfold ackedBytesFrom at hOut hHere
        dsimp only at hOut hHere
        rw [hGet] at hHere hOut
        dsimp only at hHere hOut
        rw [if_neg hSent] at hHere hOut
        generalize hSeq : u16 (s.snd.seqNr - s.snd.curWindowPackets + k) = seq at hHere hOut
        have hKept := keepsProbe_path (path_ackedBytesFrom env .call now count (k + 1)
          ⟨a.ackedBytes + pkt.payload, minRttOf pkt now a.minRtt⟩ (s.probeAcked env seq))
        rcases hKept with hNone | ⟨hSame, -⟩
        · exact hOut hNone
        · rw [hSame] at hHere hOut
          unfold probeAcked at hHere hOut
          split_ifs at hHere hOut with hProbe
          · exact hOut ((congrArg MtuState.probeSeq (mtu_mtuSearchUpdate env _)).trans
              (MtuState.probeSeq_searchUpdate _ _))
          · exact hProbe (by simp [hHere, hOut])
      · obtain ⟨a', t, hView, hNext⟩ := ackedBytesFrom_succ env now count i a s
        rw [hNext] at hOut hHere ⊢
        have hSeq : t.snd.seqNr = s.snd.seqNr := congrArg View.seqNr hView
        have hCount : t.snd.curWindowPackets = s.snd.curWindowPackets := congrArg View.curWindowPackets hView
        have hBuf : t.snd.outbuf = s.snd.outbuf := congrArg View.outbuf hView
        rw [← hSeq, ← hCount] at hHere
        rw [← hBuf]
        exact ih (i + 1) a' t hOut (by omega) (by omega) hHere

/-- What a packet acks is settled before it leaves the queue. -/
theorem probePast_measureAcks (env : Env) (d : Datagram) (header : PacketFormatV1) (selack : Option SackMask)
    {s : Conn} (h : Probing s) (hCore : Core s)
    (hNear : u16 (s.snd.seqNr - (header.ackNr + 1)) ≤ s.snd.curWindowPackets + 3) :
    (s.measureAcks env d header selack (s.acksOf header)).2.ProbePast header.ackNr := by
  have hAck : s.rcv.ackNr < 65536 := hCore.view.bounds.ackNr_lt
  have hScan : QuietPath env .call s _ := Relation.ReflTransGen.head (Quiet.called s) (path_ackedBytesFrom env .call
    (s.utpCallGetMicroseconds env) (s.acksOf header) 0 ⟨0, int64Max⟩ s.called)
  have hFirst : (s.called.ackedBytesFrom env (s.utpCallGetMicroseconds env) (s.acksOf header) 0
      ⟨0, int64Max⟩).2.ProbePast header.ackNr := by
    have hUnsent := probe_ackedBytesFrom env (s.utpCallGetMicroseconds env) (s.acksOf header) 0
      ⟨0, int64Max⟩ s.called
    have hKept := keepsProbe_path hScan
    have hSeq := congrArg View.seqNr (hScan.view hAck)
    generalize (s.called.ackedBytesFrom env (s.utpCallGetMicroseconds env) (s.acksOf header) 0
      ⟨0, int64Max⟩).2 = t at hUnsent hKept hSeq ⊢
    intro hOut
    rcases hKept with hNone | ⟨hSame, -⟩
    · exact absurd hNone hOut
    rw [hSame] at hOut hUnsent ⊢
    rw [show t.snd.seqNr = s.snd.seqNr from hSeq]
    obtain ⟨j, pkt, hAt, hNumber, -, hSent⟩ := h.probe hOut
    obtain ⟨hIn, hLimit⟩ := hCore.lt_of_packetAt hAt
    have hOwn := (hCore.packet_ok hAt).seqNr.symm.trans hNumber
    have hGet : s.snd.outbuf.get s.mtu.probeSeq = some pkt := by
      have hSlot : s.snd.outbuf.get (u16 (s.snd.seqNr - 1 - j)) = s.snd.outbuf.get (s.snd.seqNr - 1 - j) :=
        hCore.view.queue.get_u16 _
      rw [← hOwn, hSlot, ← hAt]
      exact (if_pos hIn).symm
    have hBehind : s.acksOf header ≤ s.snd.curWindowPackets - 1 - j := by
      by_contra hAcked
      refine hSent (hUnsent hOut (k := s.snd.curWindowPackets - 1 - j) (Nat.zero_le _) (by omega) ?_ pkt hGet)
      rw [← hOwn, u16_eq_iff]
      change (65536 : Int) ∣ (s.snd.seqNr - s.snd.curWindowPackets + (s.snd.curWindowPackets - 1 - j : Nat)) -
        (s.snd.seqNr - 1 - j)
      omega
    have hPlace : u16 (s.snd.seqNr - 1 - s.mtu.probeSeq) = j := by
      have hDist := u16_emod (s.snd.seqNr - 1 - j)
      have hProbe := u16_emod (s.snd.seqNr - 1 - s.mtu.probeSeq)
      have hLt := u16_lt (s.snd.seqNr - 1 - s.mtu.probeSeq)
      omega
    have hShift : (s.snd.seqNr - 1 - header.ackNr : Int) = s.snd.seqNr - (header.ackNr + 1) := by ring
    have hAcks := u16_emod (header.ackNr - (s.snd.seqNr - 1 - s.snd.curWindowPackets))
    have hAcksLt := u16_lt (header.ackNr - (s.snd.seqNr - 1 - s.snd.curWindowPackets))
    have hFar := u16_emod (s.snd.seqNr - (header.ackNr + 1))
    rw [hPlace, hShift]
    unfold acksOf at hBehind
    dsimp only at hBehind
    split_ifs at hBehind <;> omega
  unfold measureAcks
  cases selack with
  | none => exact hFirst
  | some mask =>
      refine hFirst.quietPath ?_ (path_selectiveAckBytes env .call d mask _ _ _)
      exact lt_of_eq_of_lt (congrArg View.ackNr (hScan.view hAck)) hAck

end Conn

namespace Attributed

variable {r : Received}

/-- Only the retransmission pointer moves. -/
theorem pointed (h : Attributed s) (hStep : Queueing env cause s s') (hPackets : ∀ j, s'.packetAt j = s.packetAt j)
    (hMtu : s'.mtu = s.mtu) (hLog : s'.log = s.log) : Attributed s' :=
  h.step (.sending (.queueing hStep)) fun hProbing _ _ =>
    hProbing.keeps hPackets (.of_eq hMtu) (by rw [hLog]) (hLog ▸ hProbing.verdicts)

/-- The accepted end is completed by a packet of data. -/
theorem completeIncoming (env : Env) (h : Attributed s) (r : Received) :
    Attributed (s.completeIncoming r.d.header) := by
  unfold Conn.completeIncoming
  split_ifs with hFirst
  · have hParts := (Bool.and_eq_true _ _).mp hFirst
    have hMove : Moving (.packet r) s _ := .admitted s r rfl (of_decide_eq_true hParts.1) (of_decide_eq_true hParts.2)
    exact h.moving env hMove
  · exact h

theorem completeOutgoing (h : Attributed s) (r : Received) :
    Attributed (s.completeOutgoing env r.d.header (s.acksOf r.d.header)) := by
  unfold Conn.completeOutgoing
  split_ifs with hDialled hFin
  · have hParts := (Bool.and_eq_true _ _).mp hDialled
    have hMove : Moving (.packet r) s _ := .established s r rfl (of_decide_eq_true hParts.1) (of_decide_eq_true hParts.2)
    have hUp := h.moving env hMove
    unfold Conn.notifyConnect
    by_cases hSet : s.onConnectSet = true
    · rw [if_pos hSet] at hUp
      rw [if_pos (show (s.setState .connected).onConnectSet = true from hSet)]
      exact hUp
    · rw [if_neg hSet] at hUp
      rw [if_neg (show ¬(s.setState .connected).onConnectSet = true from hSet)]
      exact hUp.sendPath (Conn.path_utpWritev env .write [[]] hUp.core (.inl rfl)) nofun
  · have hParts := (Bool.and_eq_true _ _).mp hFin
    have hMove : Moving (.packet r) s _ := .finAcked s r rfl hParts.1 (of_decide_eq_true hParts.2)
    exact h.moving env hMove
  · exact h

/-- Completing a connection queues a packet at most. -/
theorem complete (h : Attributed s) (r : Received) : Attributed (s.complete env r.d.header) := by
  have hWindow := Conn.path_updateWindowUser env .call r.d.header s
  have hView := hWindow.view h.core.view.bounds.ackNr_lt
  have hAdmitted := (h.quietPath hWindow).completeIncoming env r
  have hSnd := Conn.snd_completeIncoming r.d.header (s.updateWindowUser r.d.header)
  unfold Conn.complete
  generalize (s.updateWindowUser r.d.header).completeIncoming r.d.header = t at hAdmitted hSnd ⊢
  have hSeq : t.snd.seqNr = s.snd.seqNr := (congrArg SendState.seqNr hSnd).trans (Conn.seqNr_of_view hView)
  have hCount : t.snd.curWindowPackets = s.snd.curWindowPackets :=
    (congrArg SendState.curWindowPackets hSnd).trans (Conn.count_of_view hView)
  rw [← Conn.acksOf_congr r.d.header hSeq hCount]
  exact hAdmitted.completeOutgoing r

/-- The pointer of the fast retransmission is no packet. -/
theorem updateFastResend (env : Env) (h : Attributed s) (r : Received) : Attributed (s.updateFastResend r.d.header) := by
  have hStep : Queueing env (.packet r) s _ := .advance s r rfl
  refine h.pointed hStep (fun j => ?_) ?_ ?_
  · unfold Conn.updateFastResend
    split_ifs <;> rfl
  · unfold Conn.updateFastResend
    split_ifs <;> rfl
  · unfold Conn.updateFastResend
    split_ifs <;> rfl

/-- A packet that is sent again is not a new probe. -/
theorem fastTimeoutRetry (h : Attributed s) (r : Received) : Attributed (s.fastTimeoutRetry env) := by
  unfold Conn.fastTimeoutRetry
  dsimp only
  split_ifs with hFast hPointer
  · have hLeave : Quiet env .call s _ := .leaveFastTimeout s
    exact h.quiet hLeave
  · split
    · exact h
    · rename_i pkt hGet
      split_ifs
      · obtain ⟨j, hj, -⟩ := h.core.view.queue.offset_of_get hGet
        have hStep : Queueing env (.packet r) s _ :=
          .retried s r rfl (of_not_not hPointer).symm (Nat.zero_lt_of_lt hj)
        exact (h.pointed hStep (fun _ => rfl) rfl rfl).sent _
      · exact h
  · exact h

/-- The cumulative part of an ack, once the probe has been settled. -/
theorem processAcks (h : Attributed s) (hPast : SoundProbes s.log → s.ProbePast r.d.header.ackNr)
    (hNear : u16 (s.snd.seqNr - 1 - r.d.header.ackNr) < 65535) :
    Attributed (s.processAcks env r.d.header (s.acksOf r.d.header)) := by
  obtain ⟨hPath, hNumbers⟩ := Conn.spec_complete env (.packet r) h.core rfl
  have hComplete : Attributed (s.complete env r.d.header) := h.complete r
  have hCompletePast : SoundProbes (s.complete env r.d.header).log →
      (s.complete env r.d.header).ProbePast r.d.header.ackNr := by
    intro hSound
    have hWindow := Conn.path_updateWindowUser env .call r.d.header s
    have hSeq : (s.updateWindowUser r.d.header).snd.seqNr = s.snd.seqNr :=
      Conn.seqNr_of_view (hWindow.view h.core.view.bounds.ackNr_lt)
    have hUser := (hPast (hSound.before (Path.grows hPath.path))).quietPath h.core.view.bounds.ackNr_lt hWindow
    have hSnd := Conn.snd_completeIncoming r.d.header (s.updateWindowUser r.d.header)
    have hMtu : ((s.updateWindowUser r.d.header).completeIncoming r.d.header).mtu =
        (s.updateWindowUser r.d.header).mtu := by
      unfold Conn.completeIncoming
      split_ifs <;> rfl
    have hAdmitted := hUser.keeps (congrArg SendState.seqNr hSnd) (.of_eq hMtu)
    refine hAdmitted.completeOutgoing ?_ _ _
    rw [hSnd, hSeq]
    exact hNear
  rw [Conn.processAcks_eq]
  dsimp only
  generalize s.complete env r.d.header = u at hPath hNumbers hComplete hCompletePast ⊢
  have hPointed := hComplete.updateFastResend env r
  obtain ⟨hSeqPointer, hCountPointer⟩ := Conn.numbers_updateFastResend r.d.header u
  obtain ⟨hAcks, hNumber⟩ := hNumbers.acks r.d.header
  rw [← hSeqPointer, ← hCountPointer] at hNumber
  rw [← hCountPointer] at hAcks
  have hPointedPast : SoundProbes (u.updateFastResend r.d.header).log →
      (u.updateFastResend r.d.header).ProbePast r.d.header.ackNr := by
    have hKept : (u.updateFastResend r.d.header).mtu = u.mtu ∧ (u.updateFastResend r.d.header).log = u.log := by
      unfold Conn.updateFastResend
      split_ifs <;> exact ⟨rfl, rfl⟩
    intro hSound
    rw [hKept.2] at hSound
    exact (hCompletePast hSound).keeps hSeqPointer (.of_eq hKept.1)
  generalize u.updateFastResend r.d.header = w at hPointed hPointedPast hAcks hNumber ⊢
  obtain ⟨hRun, hFront⟩ := Conn.run_dropAcks env r.d.header (s.acksOf r.d.header) hPointed.core hAcks hNumber
  have hDropped := hPointed.ackRun hRun hFront hPointedPast
  rw [Conn.check_true 2279 _ hFront]
  exact (hDropped.sendPath (Conn.path_flushNagle env .call hDropped.core) nofun).fastTimeoutRetry r

/-- A packet that a bit of a selective ack stands for is taken out. -/
theorem sacked (h : Attributed s) {v : Int} (hStep : Queueing env (.packet r) s
      ((s.ackPacket env v).2.emit (.sacked (u16 v) s.mtu.probeSeq)))
    (hCount : 0 < s.snd.curWindowPackets) (hWindow : s.outsideWindow v = false) :
    Attributed ((s.ackPacket env v).2.emit (.sacked (u16 v) s.mtu.probeSeq)) := by
  refine h.step (.sending (.queueing hStep)) fun hProbing _ hSound => ?_
  have hIn : u16 (s.snd.seqNr - 1 - v) < s.snd.curWindowPackets := by
    have hLimit : s.snd.curWindowPackets ≤ 1024 := h.core.view.queue.count_le_limit
    have hInner : u16 (s.snd.seqNr - v - 1) < u16 (s.snd.curWindowPackets - 1) := by
      simpa [Conn.outsideWindow] using hWindow
    have hPred := u16_emod (s.snd.curWindowPackets - 1)
    have hPredLt := u16_lt (s.snd.curWindowPackets - 1)
    have hShift : (s.snd.seqNr - 1 - v : Int) = s.snd.seqNr - v - 1 := by ring
    rw [hShift]
    omega
  have hOther : s.mtu.probeSeq ≠ 0 → u16 v ≠ s.mtu.probeSeq := by
    intro hOut hSame
    have hNoted : .sacked (u16 v) (u16 v) ∈ ((s.ackPacket env v).2.emit (.sacked (u16 v) s.mtu.probeSeq)).log := by
      rw [← hSame]
      exact List.mem_append_right _ List.mem_cons_self
    exact hOut (hSame ▸ hSound.unsacked _ hNoted)
  have hAcked : Probing (s.ackPacket env v).2 := hProbing.acked h.core hIn hOther
  have hOffer : ((s.ackPacket env v).2.emit (.sacked (u16 v) s.mtu.probeSeq)).offer =
      (s.ackPacket env v).2.offer := Conn.offer_emit _ rfl
  exact hAcked.same rfl rfl (hOffer ▸ .refl) (.emit _ rfl)

/-- One bit of the mask acks a packet of the window, and the count before has ended a probe of that
number. -/
theorem selectiveAckAt (h : Attributed s) {mask : SackMask} (bits : Int) (scan : Conn.EackScan)
    (hCount : 0 < s.snd.curWindowPackets) (hMask : r.selack = some mask) (hBits : bits < mask.extLen * 8) :
    Attributed (s.selectiveAckAt env r.d mask (r.d.header.ackNr + 2) bits scan).2 := by
  unfold Conn.selectiveAckAt
  dsimp only
  split
  · exact h
  · rename_i hInside
    have hWindow : s.outsideWindow (r.d.header.ackNr + 2 + bits) = false := eq_false_of_ne_true hInside
    have hRead : Attributed (if bits ≥ 0 then s.emit (mask.access bits.toNat) else s) := by
      split_ifs
      · have hQuiet : Quiet env .call s _ := .readMask s mask.off (bits.toNat / 8) mask.extLen
        exact h.quiet hQuiet
      · exact h
    have hSnd : (if bits ≥ 0 then s.emit (mask.access bits.toNat) else s).snd = s.snd := by
      split_ifs <;> rfl
    generalize (if bits ≥ 0 then s.emit (mask.access bits.toNat) else s) = t at hRead hSnd ⊢
    generalize hSet : (decide (bits ≥ 0) && mask.bit r.d bits.toNat) = bitSet
    generalize (if bitSet = true then { scan with count := scan.count + 1 } else scan) = counted
    split
    · exact hRead
    · rename_i pkt hGet
      split_ifs with hUnsent hBit hResend
      · exact hRead
      · have hParts : 0 ≤ bits ∧ mask.bit r.d bits.toNat = true := by
          rw [← hSet] at hBit
          simpa using hBit
        have hPos : 0 < t.snd.curWindowPackets := by
          rw [hSnd]
          exact hCount
        have hInner : t.outsideWindow (r.d.header.ackNr + 2 + bits) = false := by
          rw [Conn.outsideWindow_congr (congrArg SendState.seqNr hSnd) (congrArg SendState.curWindowPackets hSnd)]
          exact hWindow
        have hSlot : t.snd.outbuf.slot (r.d.header.ackNr + 2 + bits) ≠
            t.snd.outbuf.slot (t.snd.seqNr - t.snd.curWindowPackets) := by
          rw [Ne, CellRing.slot_eq_iff, ← SizableCircularBuffer.size_eq]
          apply hRead.core.view.queue.inner_slot hPos
          simpa [Conn.outsideWindow] using hInner
        rw [Conn.check_true 1553 t (decide_eq_true hSlot)]
        have hNumber : (r.d.header.ackNr + 2 + bits : Int) = r.d.header.ackNr + 2 + bits.toNat := by
          omega
        have hAt : t.snd.outbuf.get (u16 (r.d.header.ackNr + 2 + bits)) = some pkt :=
          (hRead.core.view.queue.get_u16 _).trans hGet
        rw [hNumber] at hInner hAt ⊢
        have hStatus : (t.ackPacket env (r.d.header.ackNr + 2 + bits.toNat)).1 ≠ 2 := by
          rw [Conn.ackPacket_some env hAt, if_neg hUnsent]
          exact Nat.zero_ne_add_one 1
        have hStep : Queueing env (.packet r) t _ :=
          .sacked t r mask bits.toNat rfl hMask (by omega) hParts.2 hInner hStatus
        exact hRead.sacked hStep hPos hInner
      · exact hRead
      · exact hRead

/-- The window keeps its numbers while the mask is read. -/
theorem selectiveAckFrom (h : Attributed s) {mask : SackMask} (n : Nat) (scan : Conn.EackScan)
    (hCount : 0 < s.snd.curWindowPackets) (hMask : r.selack = some mask) (hLength : mask.extLen < 256)
    (hBits : n ≤ mask.extLen * 8) :
    Attributed (s.selectiveAckFrom env r.d mask (r.d.header.ackNr + 2) n scan).2 := by
  induction n generalizing s scan with
  | zero => exact h.selectiveAckAt (-1) scan hCount hMask (by omega)
  | succ n ih =>
      have hAt : Conn.Scanned env (.packet r) (r.d.header.ackNr + 2) s
          (s.selectiveAckAt env r.d mask (r.d.header.ackNr + 2) n scan).2 scan _ :=
        Conn.scanned_selectiveAckAt scan h.core hCount rfl hMask hLength (by omega) (by omega)
      unfold Conn.selectiveAckFrom
      exact ih (h.selectiveAckAt n scan hCount hMask (by omega)) _ (hAt.count.symm ▸ hCount) (by omega)

/-- By induction on the stack of the packets to be sent again. -/
theorem resendLoop (h : Attributed s) {base : Int} (resends : List Int) (i : Nat)
    (hResends : ∀ v ∈ resends, Conn.Resendable base s v) (r : Received) :
    Attributed (s.resendLoop env resends i).2 := by
  induction resends generalizing i s with
  | nil => exact h
  | cons v rest ih =>
      have hRest : ∀ w ∈ rest, Conn.Resendable base s w := fun w hw => hResends w (List.mem_cons_of_mem v hw)
      unfold Conn.resendLoop
      split
      · exact ih h i hRest
      · have hSeq : (s.sendPacket env v).snd.seqNr = s.snd.seqNr :=
          congrArg Aim.seqNr (Conn.numbers_sendPacket env v s).1
        have hHead := hResends v List.mem_cons_self
        unfold Conn.Resendable at hHead hRest
        rw [← hSeq] at hHead
        have hStep : Queueing env (.packet r) (s.sendPacket env v) _ := .resent _ r v rfl hHead.1 hHead.2.1
        have hSent : Attributed (s.sendPacket env v) := h.sent v
        have hNoted := hSent.pointed hStep (fun _ => rfl) rfl rfl
        dsimp only
        split_ifs
        · exact hNoted
        · refine ih hNoted (i + 1) fun w hw => ?_
          unfold Conn.Resendable
          rw [show ({ s.sendPacket env v with snd.fastResendSeqNr := u16 (v + 1) } : Conn).snd.seqNr = s.snd.seqNr
            from hSeq]
          exact hRest w hw

/-- The mask, and what is sent again for it. -/
theorem selectiveAck (h : Attributed s) {mask : SackMask} (hMask : r.selack = some mask)
    (hLength : mask.extLen < 256) (hBehind : u16 (s.snd.seqNr - 1 - r.d.header.ackNr) ≤ 1028) :
    Attributed (s.selectiveAck env r.d mask (r.d.header.ackNr + 2)) := by
  unfold Conn.selectiveAck
  split_ifs with hZero
  · exact h
  · have hCount : 0 < s.snd.curWindowPackets := Nat.pos_of_ne_zero hZero
    have hScan : Conn.Scanned env (.packet r) (r.d.header.ackNr + 2) s
        (s.selectiveAckFrom env r.d mask (r.d.header.ackNr + 2) (mask.extLen * 8) ⟨0, []⟩).2 ⟨0, []⟩ _ :=
      Conn.scanned_selectiveAckFrom ⟨0, []⟩ h.core hCount rfl hMask hLength le_rfl
    have hResends := Conn.resendable_of_scanned h.core hCount hScan hBehind
    have hRead : Attributed (s.selectiveAckFrom env r.d mask (r.d.header.ackNr + 2) (mask.extLen * 8) ⟨0, []⟩).2 :=
      h.selectiveAckFrom (mask.extLen * 8) ⟨0, []⟩ hCount hMask hLength le_rfl
    dsimp only
    generalize s.selectiveAckFrom env r.d mask (r.d.header.ackNr + 2) (mask.extLen * 8) ⟨0, []⟩ = result
      at hResends hRead ⊢
    have hLoop : Attributed (result.2.resendLoop env _ 0).2 := hRead.resendLoop _ 0 hResends r
    generalize result.2.resendLoop env _ 0 = resent at hLoop ⊢
    have hDecayed : Attributed (if resent.1 > 0 then resent.2.maybeDecayWin else resent.2) := by
      split_ifs
      · exact hLoop.quietPath (Conn.path_maybeDecayWin env .call _)
      · exact hLoop
    have hQuiet : Quiet env .call _ _ := .duplicateAck
      (if resent.1 > 0 then resent.2.maybeDecayWin else resent.2) (result.1.count % 256)
    exact hDecayed.quiet hQuiet

/-- The cumulative part and then the mask. -/
theorem receiveAcks (h : Attributed s) (time : Nat)
    (hMask : ∀ mask, r.selack = some mask → mask.extLen < 256)
    (hBehind : u16 (s.snd.seqNr - (r.d.header.ackNr + 1)) ≤ s.snd.curWindowPackets + 3) :
    Attributed (s.receiveAcks env r.d r.d.header r.selack time) := by
  have hCounted := Conn.path_countDuplicateAck env .call r.d.header s
  have hCountedView := hCounted.view h.core.view.bounds.ackNr_lt
  have hFirst := h.quietPath hCounted
  unfold Conn.receiveAcks
  dsimp only
  generalize s.countDuplicateAck env r.d.header = t at hCountedView hFirst ⊢
  have hSeq : t.snd.seqNr = s.snd.seqNr := Conn.seqNr_of_view hCountedView
  have hCount : t.snd.curWindowPackets = s.snd.curWindowPackets := Conn.count_of_view hCountedView
  rw [← Conn.acksOf_congr r.d.header hSeq hCount]
  rw [← hSeq, ← hCount] at hBehind
  have hAckNr := hFirst.core.view.bounds.ackNr_lt
  have hMeasured := Conn.path_measureAcks env .call r.d r.d.header r.selack (t.acksOf r.d.header) t
  have hSettled : SoundProbes (t.measureAcks env r.d r.d.header r.selack (t.acksOf r.d.header)).2.log →
      (t.measureAcks env r.d r.d.header r.selack (t.acksOf r.d.header)).2.ProbePast r.d.header.ackNr := fun hSound =>
    Conn.probePast_measureAcks env r.d r.d.header r.selack
      (hFirst.probing (hSound.before (Path.grows hMeasured.path.path))) hFirst.core hBehind
  generalize t.measureAcks env r.d r.d.header r.selack (t.acksOf r.d.header) = a at hMeasured hSettled ⊢
  have hControl := Conn.path_controlWindow env .call r.d.header time a.1 a.2
  have hSecond := (hFirst.quietPath hMeasured).quietPath hControl
  have hMid : a.2.rcv.ackNr < 65536 := lt_of_eq_of_lt (congrArg View.ackNr (hMeasured.view hAckNr)) hAckNr
  have hView := (hControl.view hMid).trans (hMeasured.view hAckNr)
  have hPast : SoundProbes (a.2.controlWindow r.d.header time a.1).log →
      (a.2.controlWindow r.d.header time a.1).ProbePast r.d.header.ackNr := fun hSound =>
    (hSettled (hSound.before (Path.grows hControl.path.path))).quietPath hMid hControl
  generalize a.2.controlWindow r.d.header time a.1 = w at hSecond hView hPast ⊢
  have hSeqLast : w.snd.seqNr = t.snd.seqNr := Conn.seqNr_of_view hView
  have hCountLast : w.snd.curWindowPackets = t.snd.curWindowPackets := Conn.count_of_view hView
  rw [← Conn.acksOf_congr r.d.header hSeqLast hCountLast, if_pos (Conn.acksOf_spec r.d.header w).1]
  rw [← hSeqLast, ← hCountLast] at hBehind
  have hLimit : w.snd.curWindowPackets ≤ 1024 := hSecond.core.view.queue.count_le_limit
  have hShift : ∀ x : Conn, (x.snd.seqNr - 1 - r.d.header.ackNr : Int) = x.snd.seqNr - (r.d.header.ackNr + 1) :=
    fun _ => by ring
  have hThird : Attributed (w.processAcks env r.d.header (w.acksOf r.d.header)) :=
    hSecond.processAcks hPast (by rw [hShift]; omega)
  have hClose := (Conn.spec_processAcks env (.packet r) hSecond.core rfl).near r rfl hBehind
  generalize w.processAcks env r.d.header (w.acksOf r.d.header) = x at hThird hClose ⊢
  split
  · exact hThird
  · rename_i mask hSelack
    exact hThird.selectiveAck hSelack (hMask mask hSelack) (by rw [hShift]; omega)

/-- Acknowledgments and then data. -/
theorem processAccepted (h : Attributed s) (time : Nat)
    (hMask : ∀ mask, r.selack = some mask → mask.extLen < 256)
    (hBehind : u16 (s.snd.seqNr - (r.d.header.ackNr + 1)) ≤ s.snd.curWindowPackets + 3) :
    Attributed (s.processAccepted env r.d r.d.header r.data (s.seqOffset r.d.header) r.selack time) := by
  have hAcks : Attributed (s.receiveAcks env r.d r.d.header r.selack time) := h.receiveAcks time hMask hBehind
  have hPath := (Conn.spec_receiveAcks env (.packet r) time h.core rfl hMask hBehind).path
  have hWritable := hAcks.sendPath (Conn.path_makeWritable env .call _) nofun
  have hAck : (s.receiveAcks env r.d r.d.header r.selack time).makeWritable.rcv.ackNr = s.rcv.ackNr :=
    congrArg RecvView.ackNr (SendPath.recvView (hPath.trans (Conn.path_makeWritable env (.packet r) _))
      h.core.view.bounds.ackNr_lt)
  unfold Conn.processAccepted
  dsimp only
  rw [Conn.check_true 2328 _ (Conn.frontQueued_of_core hAcks.core)]
  generalize (s.receiveAcks env r.d r.d.header r.selack time).makeWritable = t at hWritable hAck ⊢
  have hOffset : s.seqOffset r.d.header = t.seqOffset r.d.header := by
    unfold Conn.seqOffset
    rw [hAck]
  rw [hOffset]
  exact hWritable.takePath (Conn.path_receiveData env (.packet r) hWritable.core rfl)

/-- A packet that is processed leaves the probe attributed. -/
theorem processed (h : Attributed s) {d : Datagram} (hType : d.header.type ≠ stSyn) :
    Attributed (s.utpProcessIncoming env d false) := by
  rcases Conn.parsed_utpProcessIncoming env d h.core.view.bounds.ackNr_lt with
    ⟨-, hQuiet⟩ | ⟨hAccept, r, u, time, hParsed, hPath, hEq⟩
  · exact h.quietPath hQuiet
  · have hView := (hPath .call).view h.core.view.bounds.ackNr_lt
    have hSeq : u.snd.seqNr = s.snd.seqNr := congrArg View.seqNr hView
    have hCount : u.snd.curWindowPackets = s.snd.curWindowPackets := congrArg View.curWindowPackets hView
    have hBehind : u16 (u.snd.seqNr - (r.d.header.ackNr + 1)) ≤ u.snd.curWindowPackets + 3 := by
      rw [hSeq, hCount, hParsed.1]
      exact Conn.behind_of_accepts hType h.core.view.queue.count_le_limit hAccept
    have hStart : Attributed (if u.state = .synSent then u.setAckNr (u16 (r.d.header.seqNr - 1)) else u) := by
      have hRead := h.quietPath (hPath .call)
      split_ifs with hSent
      · have hReceive : Receiving env (.packet r) u _ := .synAcked u r rfl hSent
        exact hRead.takePath (.single (Or.inr hReceive))
      · exact hRead
    have hSnd : (if u.state = .synSent then u.setAckNr (u16 (r.d.header.seqNr - 1)) else u).snd = u.snd := by
      split_ifs <;> rfl
    rw [hEq]
    unfold Conn.processBody
    dsimp only
    rw [if_neg (by decide)]
    generalize (if u.state = .synSent then u.setAckNr (u16 (r.d.header.seqNr - 1)) else u) = w at hStart hSnd ⊢
    have hQuiet : Quiet env .call w _ := .heard w
    have hHeard := hStart.quiet hQuiet
    split_ifs with hFar hLate
    · have hOther : r.d.header.type ≠ stState := by
        simp only [Bool.and_eq_true, decide_eq_true_eq] at hLate
        exact hLate.2
      have hSchedule : Quiet env (.packet r) { w with lastGotPacket := w.currentMs } _ :=
        .scheduleAck _ (Or.inr ⟨r, rfl, hOther⟩)
      exact hHeard.quiet hSchedule
    · exact hHeard
    · refine hHeard.processAccepted time (Conn.extLen_of_parsedAs hParsed) ?_
      change u16 (w.snd.seqNr - (r.d.header.ackNr + 1)) ≤ w.snd.curWindowPackets + 3
      rw [hSnd]
      exact hBehind

end Attributed

/-- Every run keeps the probe attributed, as long as the probes are sound. -/
theorem preserved_attributed (env : Env) :
    Preserved env fun s => SoundProbes s.log → Probing s where
  initialised s addr connSeed connIdRecv connIdSend hPristine hLog _ := by
    obtain ⟨targetDelay, optSndbuf, optRcvbuf, ssthresh, hEq⟩ := hPristine
    have hView := Conn.view_initializeSocket env addr connSeed connIdRecv connIdSend s
    obtain ⟨udpMtu, currentMs, -, hSearch⟩ := Conn.search_initializeSocket env addr connSeed connIdRecv connIdSend s
    have hEmpty : (s.initializeSocket env addr connSeed connIdRecv connIdSend).snd.curWindowPackets = 0 := by
      refine (congrArg View.curWindowPackets hView).trans ?_
      change s.toSocket.snd.curWindowPackets = 0
      rw [hEq]
      rfl
    have hNone : (s.initializeSocket env addr connSeed connIdRecv connIdSend).mtu.probeSeq = 0 := by
      refine (congrArg (fun x : Search => x.mtu.probeSeq) hSearch).trans ?_
      change s.toSocket.mtu.probeSeq = 0
      rw [hEq]
      rfl
    have hVerdict : NoVerdict s (s.initializeSocket env addr connSeed connIdRecv connIdSend) := by
      refine NoVerdict.trans (NoVerdict.emit s ?_) (Conn.noVerdict_mtuReset env _)
      rfl
    refine ⟨absurd hNone, absurd hNone, fun j pkt hAt => ?_, hVerdict.each (hLog ▸ EachEntry.nil)⟩
    rw [Conn.packetAt_of_empty hEmpty] at hAt
    cases hAt
  ran cause s s' hCore hLive hInv hRan := by
    have hNow : Attributed s := ⟨hCore, hInv⟩
    by_cases hPacket : ∃ r, cause = .packet r
    · obtain ⟨r, hr⟩ := hPacket
      obtain ⟨hType, hEq⟩ := hRan.packet r hr
      rw [hEq]
      exact (hNow.processed hType).probing
    · exact (hNow.path hLive (fun r hr => hPacket ⟨r, hr⟩) hRan.path).probing
  clock s currentMs tick hInv hSound := by
    exact (hInv hSound).same rfl rfl .refl (.of_log rfl)

end Utp
