import Utp.Transition.Effect

/-! What the transitions of one side of a socket leave to the other side. -/
namespace Utp

open Wrapping

/-- What the functions of the outgoing queue leave alone. -/
structure Backdrop where
  addr : PackedSockAddr
  connIdRecv : Nat
  connIdSend : Nat
  state : ConnState
  finSentAcked : Bool
  closeRequested : Bool
  rcv : RecvState
  win : WindowState
  delay : DelayState
  currentMs : Nat
  onConnectSet : Bool

/-- What the functions of the receiving side leave alone. -/
structure Foreground where
  addr : PackedSockAddr
  connIdRecv : Nat
  connIdSend : Nat
  state : ConnState
  finSent : Bool
  finSentAcked : Bool
  closeRequested : Bool
  snd : SendState
  mtu : MtuState
  win : WindowState
  delay : DelayState
  readShutdown : Bool
  currentMs : Nat
  onConnectSet : Bool

namespace Conn

variable (env : Env)

@[simps] def backdrop (s : Conn) : Backdrop where
  addr := s.addr
  connIdRecv := s.connIdRecv
  connIdSend := s.connIdSend
  state := s.state
  finSentAcked := s.finSentAcked
  closeRequested := s.closeRequested
  rcv := s.rcv
  win := s.win
  delay := s.delay
  currentMs := s.currentMs
  onConnectSet := s.onConnectSet

@[simps] def foreground (s : Conn) : Foreground where
  addr := s.addr
  connIdRecv := s.connIdRecv
  connIdSend := s.connIdSend
  state := s.state
  finSent := s.finSent
  finSentAcked := s.finSentAcked
  closeRequested := s.closeRequested
  snd := s.snd
  mtu := s.mtu
  win := s.win
  delay := s.delay
  readShutdown := s.rcv.readShutdown
  currentMs := s.currentMs
  onConnectSet := s.onConnectSet

/-- An assertion is recorded in the log, and the log is in no frame. -/
theorem backdrop_check (line : Nat) (ok : Bool) (s : Conn) :
    (s.check line ok).backdrop = s.backdrop := by
  cases ok <;> rfl

/-- Starting the search over is not seen by the receiving side, although the embedder is asked for the MTU
and the time. -/
theorem backdrop_mtuReset (s : Conn) : (s.mtuReset env).backdrop = s.backdrop :=
  backdrop_check _ _ _

theorem backdrop_startProbe (pkt : OutgoingPacket) (s : Conn) :
    (s.startProbe pkt).backdrop = s.backdrop := by
  change Conn.backdrop ((Conn.check _ _ _).check _ _) = _
  exact (backdrop_check _ _ _).trans (backdrop_check _ _ _)

theorem backdrop_chargeWindow (pkt : OutgoingPacket) (s : Conn) :
    (s.chargeWindow pkt).backdrop = s.backdrop := by
  unfold chargeWindow
  split_ifs <;> rfl

/-- What happens before a packet is sent, the reset of the search and the choice of the probe, is not seen
by the receiving side. -/
theorem backdrop_beforeTransmit (pkt : OutgoingPacket) (s : Conn) :
    (s.beforeTransmit env pkt).backdrop = s.backdrop := by
  have hCharged : (s.chargeWindow pkt).called.called.backdrop = s.backdrop :=
    backdrop_chargeWindow pkt s
  unfold beforeTransmit
  dsimp only
  split_ifs
  · exact (backdrop_startProbe _ _).trans ((backdrop_mtuReset env _).trans hCharged)
  · exact (backdrop_mtuReset env _).trans hCharged
  · exact (backdrop_startProbe _ _).trans hCharged
  · exact hCharged

/-- The copy of a packet that is sent is put back in the queue, and its bytes go on the wire. -/
theorem backdrop_transmit (v : Int) (pkt : OutgoingPacket) (timeSent flags : Nat) (s : Conn) :
    (s.transmit env v pkt timeSent flags).backdrop = s.backdrop := rfl

/-- The receive window that is advertised is computed from what was received, and stored beside it. -/
theorem backdrop_updateRcvWin (s : Conn) : (s.updateRcvWin env).backdrop = s.backdrop := rfl

/-- A packet is put behind the others. -/
theorem backdrop_enqueue (pkt : OutgoingPacket) (s : Conn) : (s.enqueue pkt).backdrop = s.backdrop := rfl

/-- Sending a packet stores its copy with the new time in the queue, and stores nothing else that the
receiving side reads. That `last_sent_packet` changes does not count, since no decision of the receiving
side depends on it. -/
theorem backdrop_sendPacket (v : Int) (s : Conn) : (s.sendPacket env v).backdrop = s.backdrop := by
  cases hGet : s.snd.outbuf.get v with
  | none => rw [sendPacket_none env hGet]
  | some pkt =>
      rw [sendPacket_some env hGet, backdrop_transmit]
      exact backdrop_beforeTransmit env pkt s

/-- A packet that is filled carries the receive window, but filling it does not change what is received.
-/
theorem backdrop_appendPacket (flags : Nat) (bytes : List UInt8) (s : Conn) :
    (s.appendPacket env flags bytes).backdrop = s.backdrop :=
  ((backdrop_enqueue _ _).trans (backdrop_updateRcvWin env _)).trans (backdrop_check _ _ s)

theorem backdrop_fillPacket (flags : Nat) (pkt : OutgoingPacket) (bytes : List UInt8) (s : Conn) :
    (s.fillPacket env flags pkt bytes).backdrop = s.backdrop := by
  unfold fillPacket
  exact (backdrop_updateRcvWin env _).trans ((backdrop_check _ _ _).trans (backdrop_check _ _ s))

/-- An acked packet leaves the queue and gives a round-trip sample; the state of the connection is not
looked at. -/
theorem backdrop_removePacket (seq : Int) (pkt : OutgoingPacket) (s : Conn) :
    (s.removePacket env seq pkt).backdrop = s.backdrop := by
  have hSample : ((s.putPacket seq none).sampleRtt env pkt).restartTimer.backdrop = s.backdrop := by
    unfold sampleRtt
    split_ifs <;> rfl
  refine Eq.trans ?_ hSample
  change (Conn.dischargeWindow _ _).backdrop = _
  unfold dischargeWindow
  split_ifs
  · rfl
  · exact backdrop_check _ _ _

/-- The three results of `ack_packet` have this in common: an unsent packet, a missing one and one that is
removed. -/
theorem backdrop_ackPacket (seq : Int) (s : Conn) :
    (s.ackPacket env seq).2.backdrop = s.backdrop := by
  unfold ackPacket
  split
  · rfl
  · split_ifs
    · rfl
    · exact backdrop_removePacket env _ _ s

theorem backdrop_losePacket (i : Nat) (s : Conn) : (s.losePacket i).backdrop = s.backdrop := by
  rcases losePacket_cases i s with hSame | ⟨pkt, -, -, -, hEq⟩
  · rw [hSame]
  · rw [hEq]
    exact backdrop_check _ _ _

/-- As for the backdrop, a failed assertion changes the log only. -/
theorem foreground_check (line : Nat) (ok : Bool) (s : Conn) :
    (s.check line ok).foreground = s.foreground := by
  cases ok <;> rfl

/-- An ack is built from the reorder buffer and the receive window, and consumes nothing of the queue.
This is why the receiving side may ack in the middle of a delivery. -/
theorem foreground_sendAck (synack : Bool) (s : Conn) :
    (s.sendAck env synack).foreground = s.foreground := by
  unfold sendAck
  dsimp only
  split_ifs
  · exact (foreground_check _ _ _).trans (foreground_check _ _ _)
  · rfl

/-- What is delivered leaves the socket as an event, and the queue stays as it is. -/
theorem foreground_deliver (body : List UInt8) (s : Conn) :
    (s.deliver body).foreground = s.foreground := by
  unfold deliver
  dsimp only
  split_ifs <;> rfl

/-- The end of the stream moves the deadline of the timer and sends an ack. Neither is in the foreground.
-/
theorem foreground_reachEof (s : Conn) : (s.reachEof env).foreground = s.foreground := by
  unfold reachEof
  split_ifs
  · exact foreground_sendAck env false _
  · rfl

theorem foreground_takeReordered (p : IncomingPacket) (s : Conn) :
    (s.takeReordered p).foreground = s.foreground :=
  (foreground_check _ _ _).trans (foreground_deliver _ _)

/-- The packet is dropped, or put in the reorder buffer, which may grow first. Its two assertions are
about that buffer. -/
theorem foreground_receiveOutOfOrder (seqNr offset : Nat) (body : List UInt8) (s : Conn) :
    (s.receiveOutOfOrder seqNr offset body).foreground = s.foreground := by
  unfold receiveOutOfOrder
  split_ifs
  · rfl
  · rfl
  · dsimp only
    split_ifs
    · rfl
    · exact (foreground_check _ _ _).trans (foreground_check _ _ _)

/-- By induction on the fuel: each turn delivers one packet that waits, or reaches the end. -/
theorem foreground_drainReordered (fuel : Nat) (s : Conn) :
    (s.drainReordered env fuel).foreground = s.foreground := by
  induction fuel generalizing s with
  | zero => rfl
  | succ fuel ih =>
      unfold drainReordered
      dsimp only
      split_ifs
      · exact foreground_reachEof env s
      · split
        · exact foreground_reachEof env s
        · exact (ih _).trans ((foreground_takeReordered _ _).trans (foreground_reachEof env s))

theorem foreground_noteFin (header : PacketFormatV1) (s : Conn) :
    (s.noteFin header).foreground = s.foreground := by
  unfold noteFin
  split_ifs <;> rfl

/-- The data part of a packet does not touch the sending side. -/
theorem foreground_receiveData (d : Datagram) (header : PacketFormatV1) (data offset : Nat)
    (s : Conn) : (s.receiveData env d header data offset).foreground = s.foreground := by
  have hFin : ((s.noteFin header).emit (.readBytes data (d.len - data))).foreground = s.foreground :=
    foreground_noteFin header s
  unfold receiveData
  dsimp only
  split_ifs
  · rfl
  · rfl
  · exact (foreground_drainReordered env _ _).trans ((foreground_deliver _ _).trans hFin)
  · exact (foreground_receiveOutOfOrder _ _ _ _).trans hFin

end Conn

/-- One packet less at the front leaves the receiving side as it is. -/
theorem AckStep.backdrop {env : Env} {header : PacketFormatV1} {s s' : Conn}
    (h : AckStep env header s s') : s'.backdrop = s.backdrop := by
  cases h with
  | acked hCount hAcked hSent => exact Conn.backdrop_ackPacket env _ s
  | dropped hCount hNone => rfl

/-- So does the whole run of them that one ack causes, by induction on the run. -/
theorem AckStep.backdrop_run {env : Env} {header : PacketFormatV1} {s s' : Conn}
    (h : Relation.ReflTransGen (AckStep env header) s s') : s'.backdrop = s.backdrop := by
  induction h with
  | refl => rfl
  | tail _ hStep ih => exact hStep.backdrop.trans ih

/-- No transition of the queue is seen by the receiving side. With `Receiving.foreground`, this lets an
invariant of one side skip the transitions of the other. -/
theorem Queueing.backdrop {env : Env} {cause : Cause} {s s' : Conn}
    (h : Queueing env cause s s') : s'.backdrop = s.backdrop := by
  cases h with
  | append bytes => exact Conn.backdrop_appendPacket env _ _ s
  | appendFin => exact Conn.backdrop_appendPacket env _ _ _
  | fill pkt bytes => exact Conn.backdrop_fillPacket env _ _ _ s
  | send v => exact Conn.backdrop_sendPacket env v s
  | acked _ r hCause hRun hFront => exact AckStep.backdrop_run hRun
  | sacked r mask bits => exact Conn.backdrop_ackPacket env _ s
  | lost i => exact Conn.backdrop_losePacket i s
  | advance r =>
      unfold Conn.updateFastResend
      split_ifs <;> rfl
  | retried => rfl
  | resent v => rfl

/-- One packet consumed leaves the sending side as it is. -/
theorem DrainStep.foreground {env : Env} {r : Received} {s s' : Conn}
    (h : DrainStep env r s s') : s'.foreground = s.foreground := by
  cases h with
  | inOrder hOpen hType hOffset hDone => exact Conn.foreground_deliver _ _
  | eof => exact Conn.foreground_reachEof env s
  | take p hOpen hCount hGet => exact Conn.foreground_takeReordered p s

theorem DrainStep.foreground_run {env : Env} {r : Received} {s s' : Conn}
    (h : Relation.ReflTransGen (DrainStep env r) s s') : s'.foreground = s.foreground := by
  induction h with
  | refl => rfl
  | tail _ hStep ih => exact hStep.foreground.trans ih

/-- No transition of the receiving side is seen by the queue, nor does one change the state of the
connection. -/
theorem Receiving.foreground {env : Env} {cause : Cause} {s s' : Conn}
    (h : Receiving env cause s s') : s'.foreground = s.foreground := by
  cases h with
  | synAcked r hCause hState => rfl
  | fin r hCause hOpen =>
      unfold Conn.noteFin
      split_ifs <;> rfl
  | drained _ r hCause hRun hDone => exact DrainStep.foreground_run hRun
  | outOfOrder r hCause hOpen hType hOffset =>
      exact Conn.foreground_receiveOutOfOrder _ _ _ s

end Utp
