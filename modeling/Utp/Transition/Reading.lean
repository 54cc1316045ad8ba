import Utp.Transition.Effect

/-! What the functions of a socket record. A kind of events that takes in the common ones is
kept by every function but the few that read the received packet, ask for an ack or offer a
new socket to the program; those state the events that they add to it. -/
namespace Utp

open Wrapping

/-- An event that any function may record. Reads of the received packet, the scheduling of an ack
and the call that offers a new socket to the program belong to a few functions only. -/
def Event.isCommon : Event → Bool
  | .readBytes _ _ | .readMask _ _ _ | .scheduleAck | .onAccept => false
  | _ => true

/-- The record has grown by events of one kind. -/
def Adds (P : Event → Prop) (s s' : Conn) : Prop := ∃ events, s'.log = s.log ++ events ∧ ∀ e ∈ events, P e

namespace Adds

variable {P : Event → Prop} {s t u : Conn}

/-- Nothing is added by a function that leaves the log as it is. -/
theorem of_log (h : t.log = s.log) : Adds P s t := ⟨[], by simp [h]⟩

theorem refl (s : Conn) : Adds P s s := of_log rfl

theorem trans (hFirst : Adds P s t) (hSecond : Adds P t u) : Adds P s u := by
  obtain ⟨first, hLog, hOk⟩ := hFirst
  obtain ⟨second, hLog', hOk'⟩ := hSecond
  refine ⟨first ++ second, by rw [hLog', hLog, List.append_assoc], fun e he => ?_⟩
  rcases List.mem_append.1 he with hHere | hThere
  · exact hOk e hHere
  · exact hOk' e hThere

/-- One event more. -/
theorem emit (s : Conn) {e : Event} (h : P e) : Adds P s (s.emit e) := by
  refine ⟨[e], rfl, fun e' he' => ?_⟩
  rw [List.mem_singleton.1 he']
  exact h

end Adds

namespace Conn

section

variable {P : Event → Prop} (hOther : ∀ e : Event, e.isCommon = true → P e) (env : Env)

include hOther

/-- Assertions that fail are common: the lemmas of this module do not depend on the invariants that rule
them out. -/
theorem adds_check (line : Nat) (ok : Bool) (s : Conn) : Adds P s (s.check line ok) := by
  cases ok with
  | true => exact .refl s
  | false => exact .emit s (hOther _ rfl)

theorem adds_setState (state : ConnState) (s : Conn) : Adds P s (s.setState state) := .emit s (hOther _ rfl)

theorem adds_noteMtu (step : MtuStep) (before : MtuState) (s : Conn) : Adds P s (s.noteMtu step before) :=
  .emit s (hOther _ rfl)

theorem adds_mtuReset (s : Conn) : Adds P s (s.mtuReset env) := by
  unfold mtuReset
  dsimp only
  refine .trans ?_ (adds_noteMtu hOther _ _ _)
  exact .trans (.of_log rfl) (adds_check hOther 1346 _ _)

/-- The steps of the search are common, with their assertion. -/
theorem adds_mtuSearchUpdate (s : Conn) : Adds P s (s.mtuSearchUpdate env) := by
  unfold mtuSearchUpdate
  dsimp only
  refine .trans ?_ (adds_check hOther 1331 _ _)
  exact .trans (.of_log rfl) (adds_check hOther 1314 _ _)

theorem adds_probeLost (s : Conn) : Adds P s (s.probeLost env) := by
  refine .trans ?_ (adds_noteMtu hOther .lost s.mtu _)
  exact .trans (.of_log rfl) (adds_mtuSearchUpdate hOther env _)

theorem adds_probePassed (s : Conn) : Adds P s (s.probePassed env) := by
  refine .trans ?_ (adds_noteMtu hOther .passed s.mtu _)
  exact .trans (.of_log rfl) (adds_mtuSearchUpdate hOther env _)

/-- A message about the next hop is a step of the search. -/
theorem adds_receiveIcmpFragmentation (nextHopMtu : Nat) (s : Conn) :
    Adds P s (s.receiveIcmpFragmentation env nextHopMtu) := by
  refine .trans ?_ (adds_noteMtu hOther (.fragmentation nextHopMtu) s.mtu _)
  split
  · refine .trans ?_ (.of_log rfl)
    exact .trans (.of_log rfl) (adds_mtuSearchUpdate hOther env _)
  · exact .trans (.of_log rfl) (adds_mtuSearchUpdate hOther env _)

/-- A connection is given up with an error, and a socket whose end was asked for with it. -/
theorem adds_abandon (code : ErrorCode) (s : Conn) : Adds P s (s.abandon.emit (.onError code)) :=
  (adds_setState hOther _ s).trans (.emit _ (hOther _ rfl))

/-- The error is passed on, and the state changes; in `CS_IDLE` nothing is added at all. -/
theorem adds_receiveIcmpError (s : Conn) : Adds P s s.receiveIcmpError := by
  unfold receiveIcmpError
  dsimp only
  split
  · exact .refl s
  · exact adds_abandon hOther _ s

theorem adds_sendData (header : PacketFormatV1) (tail : List UInt8) (flags : Nat) (s : Conn) :
    Adds P s (s.sendData env header tail flags) := by
  have hSent : Adds P s (s.emit (.sendto ⟨s.stamp env header, tail⟩ flags)) := .emit s (hOther _ rfl)
  exact hSent.trans (.of_log rfl)

theorem adds_updateRcvWin (s : Conn) : Adds P s (s.updateRcvWin env) := by
  have hNoted : Adds P s (s.noteWindow env) := .emit s (hOther _ rfl)
  exact hNoted.trans (.of_log rfl)

/-- An ack is a packet that is sent. It is not the event that asks for an ack. -/
theorem adds_sendAck (synack : Bool) (s : Conn) : Adds P s (s.sendAck env synack) := by
  unfold sendAck
  dsimp only
  refine (adds_updateRcvWin hOther env s).trans ?_
  generalize s.updateRcvWin env = t
  split_ifs
  · unfold sendEack
    dsimp only
    refine (adds_check hOther 802 (!synack) t).trans ?_
    exact (adds_check hOther 811 _ _).trans (adds_sendData hOther env _ _ 0 _)
  · exact adds_sendData hOther env _ [] 0 t

theorem adds_startProbe (pkt : OutgoingPacket) (s : Conn) : Adds P s (s.startProbe pkt) := by
  unfold startProbe
  dsimp only
  refine .trans ?_ (adds_noteMtu hOther _ _ _)
  refine .trans ?_ (adds_check hOther 926 _ _)
  exact .trans (.of_log rfl) (adds_check hOther 925 _ _)

theorem adds_transmit (v : Int) (pkt : OutgoingPacket) (timeSent flags : Nat) (s : Conn) :
    Adds P s (s.transmit env v pkt timeSent flags) := by
  have hNoted : Adds P s (s.noteWindow env) := .emit s (hOther _ rfl)
  unfold transmit
  dsimp only
  exact (hNoted.trans (.of_log rfl)).trans (adds_sendData hOther env _ _ flags _)

/-- The packet, and the step of the search if it is a probe. -/
theorem adds_sendPacket (v : Int) (s : Conn) : Adds P s (s.sendPacket env v) := by
  cases hGet : s.snd.outbuf.get v with
  | none =>
      rw [sendPacket_none env hGet]
      exact .refl s
  | some pkt =>
      have hCharged : (s.chargeWindow pkt).log = s.log := by
        unfold chargeWindow
        split_ifs <;> rfl
      have hReset : Adds P s (if (s.chargeWindow pkt).called.called.mtu.discoverTime < s.utpCallGetMilliseconds env then
          (s.chargeWindow pkt).called.called.mtuReset env else (s.chargeWindow pkt).called.called) := by
        split_ifs
        · exact .trans (.of_log hCharged) (adds_mtuReset hOther env _)
        · exact .of_log hCharged
      unfold sendPacket
      rw [hGet]
      dsimp only
      refine hReset.trans ?_
      split_ifs
      · exact (adds_startProbe hOther pkt _).trans (adds_transmit hOther env v pkt _ _ _)
      · exact adds_transmit hOther env v pkt _ _ _
      · exact (adds_startProbe hOther pkt _).trans (adds_transmit hOther env v pkt _ _ _)
      · exact adds_transmit hOther env v pkt _ _ _

omit hOther in
theorem adds_noteFull (bytes : Int) (s : Conn) : Adds P s (s.noteFull bytes) := by
  unfold noteFull
  split_ifs
  · exact .of_log rfl
  · exact .refl s

/-- By induction on the packets that are left. -/
theorem adds_flushFrom (n : Nat) (s : Conn) : Adds P s (s.flushFrom env n) := by
  induction n generalizing s with
  | zero => exact .refl s
  | succ n ih =>
      unfold flushFrom
      dsimp only
      split
      · exact ih s
      · split_ifs
        · exact ih s
        · exact adds_noteFull (-1) s
        · exact (adds_sendPacket hOther env _ s).trans (ih _)
        · exact ih s

theorem adds_fillPacket (flags : Nat) (pkt : OutgoingPacket) (bytes : List UInt8) (s : Conn) :
    Adds P s (s.fillPacket env flags pkt bytes) := by
  unfold fillPacket
  dsimp only
  refine .trans ?_ (.emit _ (hOther _ rfl))
  refine (adds_check hOther 1036 (!pkt.needResend) s).trans ?_
  refine (adds_check hOther 1049 (bytes.isEmpty || flags == stData) _).trans ?_
  exact (adds_updateRcvWin hOther env _).trans (.of_log rfl)

theorem adds_appendPacket (flags : Nat) (bytes : List UInt8) (s : Conn) : Adds P s (s.appendPacket env flags bytes) := by
  unfold appendPacket enqueue
  dsimp only
  refine .trans ?_ (.emit _ (hOther _ rfl))
  refine (adds_check hOther 1049 (bytes.isEmpty || flags == stData) s).trans ?_
  exact (adds_updateRcvWin hOther env _).trans (.of_log rfl)

/-- By induction on the fuel. Packets that are queued or extended are common. -/
theorem adds_writeLoop (flags packetSize fuel payload : Nat) (iov : List (List UInt8)) (s : Conn) :
    Adds P s (s.writeLoop env flags packetSize fuel payload iov).2 := by
  induction fuel generalizing payload iov s with
  | zero => exact .refl s
  | succ fuel ih =>
      unfold writeLoop
      dsimp only
      have hChecked := (adds_check hOther 1011 (s.snd.curWindowPackets < outgoingBufferMaxSize) s).trans
        (adds_check hOther 1012 (flags == stData || flags == stFin) _)
      refine hChecked.trans ?_
      generalize (s.check 1011 (s.snd.curWindowPackets < outgoingBufferMaxSize)).check 1012 (flags == stData || flags == stFin) = t
      split
      · have hFilled := fun ok pkt bytes => (adds_check hOther 1078 ok t).trans (adds_fillPacket hOther env flags pkt bytes _)
        split_ifs
        · exact (hFilled _ _ _).trans (ih _ _ _)
        · exact hFilled _ _ _
      · exact (adds_check hOther 1078 _ t).trans (adds_appendPacket hOther env flags _ _)

theorem adds_startTimer (s : Conn) : Adds P s s.startTimer := by
  unfold startTimer
  split_ifs
  · exact .trans (.of_log rfl) (adds_check hOther 1006 _ _)
  · exact .refl s

/-- All that `write_outgoing_packet` adds, for data and for the FIN. -/
theorem adds_writeOutgoingPacket (payload flags : Nat) (iov : List (List UInt8)) (s : Conn) :
    Adds P s (s.writeOutgoingPacket env payload flags iov).2 := by
  unfold writeOutgoingPacket
  dsimp only
  refine (adds_startTimer hOther s).trans ?_
  exact (adds_writeLoop hOther env flags _ _ payload iov _).trans (adds_flushFrom hOther env _ _)

theorem adds_markFull (s : Conn) : Adds P s s.markFull := by
  unfold markFull
  split_ifs
  · exact (adds_noteFull (-1) s).trans (adds_setState hOther .connectedFull _)
  · exact .refl s

/-- By induction on the fuel. -/
theorem adds_writevLoop (packetSize fuel bytes sent : Nat) (iov : List (List UInt8)) (s : Conn) :
    Adds P s (s.writevLoop env packetSize fuel bytes sent iov).2 := by
  induction fuel generalizing bytes sent iov s with
  | zero => exact .refl s
  | succ fuel ih =>
      unfold writevLoop
      dsimp only
      split_ifs
      · exact (adds_noteFull _ s).trans (adds_markFull hOther _)
      · exact adds_writeOutgoingPacket hOther env _ stData iov s
      · exact (adds_writeOutgoingPacket hOther env _ stData iov s).trans (ih _ _ _ _)

/-- A write adds the packets that it queues or extends, what is sent of them, and the change of the state
if the window is full. -/
theorem adds_utpWritev (iovecs : List (List UInt8)) (s : Conn) : Adds P s (s.utpWritev env iovecs).2 := by
  unfold utpWritev
  dsimp only
  split_ifs
  · exact .refl s
  · exact .refl s
  · exact .refl s
  · exact .trans (.of_log rfl) (adds_writevLoop hOther env _ _ _ 0 _ _)

theorem adds_closeConnected (s : Conn) : Adds P s (s.closeConnected env) := by
  unfold closeConnected sendFin
  dsimp only
  have hAsked : Adds P s ({ s with rcv.readShutdown := true, closeRequested := true }.emit .closeRequested) :=
    .trans (.of_log rfl) (.emit _ (hOther _ rfl))
  refine hAsked.trans ?_
  split_ifs
  · exact .trans (.of_log rfl) (adds_writeOutgoingPacket hOther env 0 stFin [] _)
  · exact adds_setState hOther .destroy _
  · exact .refl _

/-- Closing adds the request, the FIN and what is sent of the queue, or the change of the state. -/
theorem adds_utpClose (s : Conn) : Adds P s (s.utpClose env) := by
  unfold utpClose
  cases s.state with
  | connected | connectedFull => exact adds_closeConnected hOther env s
  | synSent => exact .trans (.of_log rfl) (adds_setState hOther .destroy (s.hurryTimeout env))
  | uninitialized | idle | synRecv | reset | destroy => exact adds_setState hOther .destroy s

/-- A new socket starts its search and goes to `CS_IDLE`. Nothing is sent. -/
theorem adds_initializeSocket (addr : PackedSockAddr) (connSeed connIdRecv connIdSend : Nat) (s : Conn) :
    Adds P s (s.initializeSocket env addr connSeed connIdRecv connIdSend) := by
  unfold initializeSocket initMtu
  dsimp only
  have hIdle := (adds_setState hOther .idle s).trans (.of_log rfl :
    Adds P (s.setState .idle) (((s.setState .idle).updateCurrentMs env).assignIds addr connSeed connIdRecv connIdSend).initClocks)
  exact (hIdle.trans (adds_mtuReset hOther env _)).trans (.of_log rfl)

/-- What a socket that is dialled records before its SYN is sent. -/
theorem adds_queueSyn (s : Conn) : Adds P s (s.startConnect env).queueSyn := by
  unfold queueSyn enqueue startConnect
  dsimp only
  refine .trans ?_ (.emit _ (hOther _ rfl))
  refine .trans (.trans ?_ (adds_updateRcvWin hOther env _)) (.of_log rfl)
  exact (adds_setState hOther .synSent s).trans (.of_log rfl)

/-- The socket waits in `CS_SYN_RECV`; that it is offered to the program is an event that is not common.
-/
theorem adds_startAccept (seqNr : Nat) (s : Conn) : Adds P s (s.startAccept env seqNr) := by
  unfold startAccept
  dsimp only
  exact .trans (.of_log rfl) (adds_setState hOther .synRecv _)

theorem adds_probeAcked (seq : Nat) (s : Conn) : Adds P s (s.probeAcked env seq) := by
  unfold probeAcked
  split_ifs
  · exact adds_probePassed hOther env s
  · exact .refl s

theorem adds_countDuplicateAck (header : PacketFormatV1) (s : Conn) : Adds P s (s.countDuplicateAck env header) := by
  unfold countDuplicateAck
  dsimp only
  split_ifs
  · exact .trans (.of_log rfl) (adds_probeLost hOther env _)
  all_goals exact .of_log rfl

/-- By induction on the number of packets that are left to count. Only a probe among them adds something.
-/
theorem adds_ackedBytesFrom (now count i : Nat) (a : AckedBytes) (s : Conn) :
    Adds P s (s.ackedBytesFrom env now count i a).2 := by
  induction count generalizing i a s with
  | zero => exact .refl s
  | succ count ih =>
      unfold ackedBytesFrom
      dsimp only
      split
      · exact ih _ _ s
      · split_ifs
        · exact ih _ _ s
        · exact (adds_probeAcked hOther env _ s).trans (ih _ _ _)

theorem adds_measureDelay (header : PacketFormatV1) (time : Nat) (minRtt : Int) (s : Conn) :
    Adds P s (s.measureDelay header time minRtt) := by
  unfold measureDelay
  dsimp only
  refine .trans (.trans ?_ (adds_check hOther 2160 (minRtt ≥ 0) _)) (.of_log rfl)
  split_ifs
  · refine .trans (.trans ?_ (adds_check hOther 2086 _ _)) (.of_log rfl)
    exact .of_log rfl
  all_goals exact .of_log rfl

/-- The congestion control adds nothing but its assertions. -/
theorem adds_applyCcontrol (bytesAcked : Nat) (minRtt : Int) (s : Conn) : Adds P s (s.applyCcontrol bytesAcked minRtt) := by
  have hGrown : ∀ (delay target : Int) (ledbat : Nat) (s : Conn),
      (s.growWindow bytesAcked delay target ledbat).clampWindow.log = s.log := by
    intro delay target ledbat s
    unfold growWindow clampWindow
    dsimp only
    split_ifs <;> rfl
  unfold applyCcontrol
  dsimp only
  refine .trans ?_ (.of_log (hGrown _ _ _ _))
  refine .trans ?_ (adds_check hOther 1704 _ _)
  refine .trans ?_ (adds_check hOther 1693 (bytesAcked > 0) _)
  refine .trans ?_ (adds_check hOther 1648 _ _)
  exact (adds_check hOther 1645 (minRtt ≥ 0) s).trans (adds_check hOther 1647 _ _)

theorem adds_controlWindow (header : PacketFormatV1) (time : Nat) (a : AckedBytes) (s : Conn) :
    Adds P s (s.controlWindow header time a) := by
  unfold controlWindow
  dsimp only
  have hMeasured := adds_measureDelay hOther header time a.minRtt s
  split_ifs
  · exact hMeasured.trans (adds_applyCcontrol hOther a.ackedBytes a.minRtt _)
  · exact hMeasured

theorem adds_removePacket (seq : Int) (pkt : OutgoingPacket) (s : Conn) : Adds P s (s.removePacket env seq pkt) := by
  unfold removePacket
  dsimp only
  refine .trans ?_ (.of_log rfl)
  refine .trans (.of_log (log_sampleRtt env pkt (s.putPacket seq none)) :
    Adds P s ((s.putPacket seq none).sampleRtt env pkt).restartTimer) ?_
  unfold dischargeWindow
  split_ifs
  · exact .refl _
  · exact .trans (.of_log rfl) (adds_check hOther 1419 _ _)

/-- In each of the three cases: not sent, missing, removed. -/
theorem adds_ackPacket (seq : Int) (s : Conn) : Adds P s (s.ackPacket env seq).2 := by
  unfold ackPacket
  split
  · exact .refl s
  · split_ifs
    · exact .refl s
    · exact adds_removePacket hOther env _ _ s

theorem adds_losePacket (i : Nat) (s : Conn) : Adds P s (s.losePacket i) := by
  rcases losePacket_cases i s with hSame | ⟨pkt, -, -, -, hLost⟩
  · rw [hSame]
    exact .refl s
  · rw [hLost]
    exact .trans (.of_log rfl) (adds_check hOther 1243 _ _)

/-- The program is told of the connection, and if it is told by a change of the state, an empty packet is
written. -/
theorem adds_notifyConnect (s : Conn) : Adds P s (s.notifyConnect env) := by
  unfold notifyConnect
  split_ifs
  · exact .emit s (hOther _ rfl)
  · exact .trans (.emit s (hOther _ rfl)) (adds_utpWritev hOther env [[]] _)

theorem adds_completeIncoming (header : PacketFormatV1) (s : Conn) : Adds P s (s.completeIncoming header) := by
  unfold completeIncoming
  split_ifs
  · exact (adds_setState hOther .connected s).trans (.emit _ (hOther _ rfl))
  · exact .refl s

theorem adds_completeOutgoing (header : PacketFormatV1) (acks : Nat) (s : Conn) :
    Adds P s (s.completeOutgoing env header acks) := by
  unfold completeOutgoing
  dsimp only
  split_ifs
  · exact (adds_setState hOther .connected s).trans (adds_notifyConnect hOther env _)
  · exact .trans (.of_log rfl) (adds_setState hOther .destroy _)
  · exact .of_log rfl
  · exact .refl s

/-- By induction on the number of acks. -/
theorem adds_ackLoop (acks : Nat) (s : Conn) : Adds P s (s.ackLoop env acks) := by
  induction acks generalizing s with
  | zero => exact .refl s
  | succ acks ih =>
      unfold ackLoop
      dsimp only
      have hAcked := adds_ackPacket hOther env (s.snd.seqNr - s.snd.curWindowPackets) s
      split_ifs
      · exact hAcked
      · exact (hAcked.trans (.of_log rfl)).trans (ih _)

omit hOther in
theorem adds_dropAcked (fuel : Nat) (s : Conn) : Adds P s (s.dropAcked fuel) := by
  induction fuel generalizing s with
  | zero => exact .refl s
  | succ fuel ih =>
      unfold dropAcked
      split_ifs
      · exact .trans (.of_log rfl) (ih _)
      · exact .refl s

theorem adds_flushNagle (s : Conn) : Adds P s (s.flushNagle env) := by
  unfold flushNagle
  split_ifs
  · split
    · exact adds_check hOther 2285 false s
    · split_ifs
      · exact adds_sendPacket hOther env _ s
      · exact .refl s
  · exact .refl s

theorem adds_fastTimeoutRetry (s : Conn) : Adds P s (s.fastTimeoutRetry env) := by
  unfold fastTimeoutRetry
  dsimp only
  split_ifs
  · exact .of_log rfl
  · split
    · exact .refl s
    · split_ifs
      · exact .trans (.of_log rfl) (adds_sendPacket hOther env _ _)
      · exact .refl s
  · exact .refl s

/-- What the acknowledgment number of a packet causes, from the packets that leave the queue to the retry
after a fast timeout. -/
theorem adds_processAcks (header : PacketFormatV1) (acks : Nat) (s : Conn) : Adds P s (s.processAcks env header acks) := by
  have hUser : ∀ s : Conn, Adds P s (s.updateWindowUser header) := by
    intro s
    unfold updateWindowUser
    dsimp only
    split_ifs <;> exact .of_log rfl
  have hFast : ∀ s : Conn, Adds P s (s.updateFastResend header) := by
    intro s
    unfold updateFastResend
    split_ifs <;> exact .of_log rfl
  unfold processAcks
  dsimp only
  refine .trans ?_ (adds_fastTimeoutRetry hOther env _)
  refine .trans ?_ (adds_flushNagle hOther env _)
  refine .trans ?_ (adds_check hOther 2279 _ _)
  refine .trans ?_ (adds_dropAcked _ _)
  refine .trans ?_ (adds_ackLoop hOther env acks _)
  refine .trans ?_ (hFast _)
  refine .trans ?_ (adds_completeOutgoing hOther env header acks _)
  exact (hUser s).trans (adds_completeIncoming hOther header _)

/-- By induction on the stack of the packets that are to be sent again. -/
theorem adds_resendLoop (resends : List Int) (i : Nat) (s : Conn) : Adds P s (s.resendLoop env resends i).2 := by
  induction resends generalizing i s with
  | nil => exact .refl s
  | cons v rest ih =>
      unfold resendLoop
      dsimp only
      split
      · exact ih i s
      · have hSent := (adds_sendPacket hOther env v s).trans
          (.of_log rfl : Adds P _ { s.sendPacket env v with snd.fastResendSeqNr := u16 (v + 1) })
        split_ifs
        · exact hSent
        · exact hSent.trans (ih _ _)

theorem adds_makeWritable (s : Conn) : Adds P s s.makeWritable := by
  unfold makeWritable
  split_ifs
  · exact adds_noteFull (-1) s
  · exact (adds_setState hOther .connected s).trans (.emit _ (hOther _ rfl))
  · exact .refl s

/-- A packet that is consumed is noted, and its bytes are passed on unless reading was shut down. -/
theorem adds_deliver (body : List UInt8) (s : Conn) : Adds P s (s.deliver body) := by
  unfold deliver
  dsimp only
  have hConsumed : Adds P s (s.emit (.consumed (u16 (s.rcv.ackNr + 1)) body)) := .emit s (hOther _ rfl)
  split_ifs
  · exact (hConsumed.trans (.emit _ (hOther _ rfl))).trans (.of_log rfl)
  · exact hConsumed.trans (.of_log rfl)

theorem adds_reachEof (s : Conn) : Adds P s (s.reachEof env) := by
  unfold reachEof
  dsimp only
  split_ifs
  · refine .trans (.trans ?_ (adds_sendAck hOther env false _)) (.of_log rfl)
    exact .trans (.of_log rfl) (.emit _ (hOther _ rfl))
  · exact .refl s

theorem adds_takeReordered (p : IncomingPacket) (s : Conn) : Adds P s (s.takeReordered p) := by
  unfold takeReordered
  refine .trans ?_ (.of_log rfl)
  refine .trans ?_ (adds_check hOther 2435 _ _)
  exact .trans (.of_log rfl) (adds_deliver hOther p.body s.clearNext)

/-- By induction on the fuel. -/
theorem adds_drainReordered (fuel : Nat) (s : Conn) : Adds P s (s.drainReordered env fuel) := by
  induction fuel generalizing s with
  | zero => exact .refl s
  | succ fuel ih =>
      unfold drainReordered
      dsimp only
      refine (adds_reachEof hOther env s).trans ?_
      generalize s.reachEof env = t
      split_ifs
      · exact .refl t
      · split
        · exact .refl t
        · exact (adds_takeReordered hOther _ t).trans (ih _)

/-- A packet that is the next one is delivered, with those that waited for it, and an ack is asked for.
That request is not common, so it is a hypothesis here. -/
theorem adds_receiveInOrder (hAck : P .scheduleAck) (seqNr : Nat) (body : List UInt8) (s : Conn) :
    Adds P s (s.receiveInOrder env seqNr body) := by
  unfold receiveInOrder
  dsimp only
  have hAccepted : Adds P s (s.emit (.accepted seqNr 0 body)) := .emit s (hOther _ rfl)
  refine (hAccepted.trans (adds_deliver hOther body _)).trans ?_
  exact (adds_drainReordered hOther env _ _).trans (.emit _ hAck)

/-- A packet that is not the next one is kept or dropped, and an ack may be asked for. -/
theorem adds_receiveOutOfOrder (hAck : P .scheduleAck) (seqNr offset : Nat) (body : List UInt8) (s : Conn) :
    Adds P s (s.receiveOutOfOrder seqNr offset body) := by
  have hGrown : Adds P s ((s.growInbuf seqNr offset).emit (.accepted seqNr offset body)) :=
    .trans (.of_log rfl) (.emit _ (hOther _ rfl))
  unfold receiveOutOfOrder
  dsimp only
  split_ifs
  · exact .refl s
  · exact .refl s
  · exact hGrown
  · refine hGrown.trans ?_
    generalize (s.growInbuf seqNr offset).emit (.accepted seqNr offset body) = t
    unfold storeReordered
    dsimp only
    refine .trans ?_ (.emit _ hAck)
    refine .trans ?_ (.of_log rfl)
    exact (adds_check hOther 2498 (t.rcv.inbuf.get seqNr).isNone t).trans (adds_check hOther 2499 _ _)

end

end Conn

end Utp
