import Utp.Transition.View

/-! What each elementary function does to the view and to the record of a socket. -/
namespace Utp

open Wrapping

/-- A failure of one of the covered assertions. -/
def Event.isFailure : Event → Bool
  | .assertFailed line => line ∈ coveredLines
  | _ => false

/-- The record has grown, and not by a failure of a covered assertion. -/
def Clean (s s' : Conn) : Prop :=
  ∃ events, s'.log = s.log ++ events ∧ ∀ e ∈ events, e.isFailure = false

namespace Clean

theorem refl (s : Conn) : Clean s s := ⟨[], by simp⟩

theorem of_log {s s' : Conn} (h : s'.log = s.log) : Clean s s' := ⟨[], by simp [h]⟩

theorem trans {s t u : Conn} (hFirst : Clean s t) (hSecond : Clean t u) : Clean s u := by
  obtain ⟨first, hLog, hOk⟩ := hFirst
  obtain ⟨second, hLog', hOk'⟩ := hSecond
  refine ⟨first ++ second, by rw [hLog', hLog, List.append_assoc], ?_⟩
  intro e he
  rcases List.mem_append.mp he with h | h
  · exact hOk e h
  · exact hOk' e h

/-- Every other event is harmless. -/
theorem emit (s : Conn) {e : Event} (h : e.isFailure = false) : Clean s (s.emit e) := by
  refine ⟨[e], rfl, ?_⟩
  intro e' he'
  rw [List.mem_singleton.mp he']
  exact h

/-- An assertion that is not among the covered lines, or that holds, adds no failure. -/
theorem check (s : Conn) {line : Nat} {ok : Bool} (h : line ∉ coveredLines ∨ ok = true) :
    Clean s (s.check line ok) := by
  cases ok with
  | true => exact refl s
  | false =>
      have hLine : line ∉ coveredLines := by simpa using h
      exact emit s (by simpa [Event.isFailure] using hLine)

/-- A record without failures stays so. -/
theorem no_failure {s s' : Conn} (h : Clean s s') (hLog : ∀ e ∈ s.log, e.isFailure = false) :
    ∀ e ∈ s'.log, e.isFailure = false := by
  obtain ⟨events, hEq, hOk⟩ := h
  intro e he
  rw [hEq] at he
  rcases List.mem_append.mp he with h | h
  · exact hLog e h
  · exact hOk e h

end Clean

namespace Conn

variable (env : Env)

theorem clean_noteMtu (step : MtuStep) (before : MtuState) (s : Conn) :
    Clean s (s.noteMtu step before) :=
  Clean.emit s rfl

/-- The assertion on the two limits of the search is not a covered one. -/
theorem clean_mtuSearchUpdate (s : Conn) : Clean s (s.mtuSearchUpdate env) := by
  have hLines : 1314 ∉ coveredLines ∧ 1331 ∉ coveredLines := by decide
  refine Clean.trans ?_ (Clean.check _ (Or.inl hLines.2))
  refine Clean.trans ?_ (Clean.check _ (Or.inl hLines.1))
  exact Clean.of_log rfl

theorem clean_probeLost (s : Conn) : Clean s (s.probeLost env) := by
  refine Clean.trans ?_ (clean_noteMtu _ _ _)
  exact Clean.trans (Clean.of_log rfl) (clean_mtuSearchUpdate env _)

theorem clean_probePassed (s : Conn) : Clean s (s.probePassed env) := by
  refine Clean.trans ?_ (clean_noteMtu _ _ _)
  exact Clean.trans (Clean.of_log rfl) (clean_mtuSearchUpdate env _)

/-- An ICMP message moves the search and nothing else. -/
theorem clean_receiveIcmpFragmentation (nextHopMtu : Nat) (s : Conn) :
    Clean s (s.receiveIcmpFragmentation env nextHopMtu) := by
  refine Clean.trans ?_ (clean_noteMtu _ _ _)
  split
  · refine Clean.trans ?_ (Clean.of_log rfl)
    exact Clean.trans (Clean.of_log rfl) (clean_mtuSearchUpdate env _)
  · exact Clean.trans (Clean.of_log rfl) (clean_mtuSearchUpdate env _)

/-- The new search has an assertion on its limits, which is not a covered one. -/
theorem clean_mtuReset (s : Conn) : Clean s (s.mtuReset env) := by
  have hLine : 1346 ∉ coveredLines := by decide
  refine Clean.trans ?_ (clean_noteMtu _ _ _)
  refine Clean.trans ?_ (Clean.check _ (Or.inl hLine))
  exact Clean.of_log rfl

/-- What is sent is recorded, with the wire and the flags. -/
theorem clean_sendData (header : PacketFormatV1) (tail : List UInt8) (flags : Nat) (s : Conn) :
    Clean s (s.sendData env header tail flags) := by
  refine ⟨[.sendto ⟨s.stamp env header, tail⟩ flags], rfl, ?_⟩
  intro e he
  rw [List.mem_singleton.mp he]
  rfl

theorem clean_noteWindow (s : Conn) : Clean s (s.noteWindow env) := Clean.emit s rfl

theorem clean_updateRcvWin (s : Conn) : Clean s (s.updateRcvWin env) :=
  (clean_noteWindow env s).trans (Clean.of_log rfl)

/-- What dialling records before the SYN is queued. -/
theorem log_startConnect (s : Conn) : ∃ window, (s.startConnect env).log =
    s.log ++ [.moved s.state .synSent s.rcv.ackNr, .window window] :=
  ⟨_, List.append_assoc ..⟩

/-- The state, the timer and the first number are set, and nothing is asserted. -/
theorem clean_startConnect (s : Conn) : Clean s (s.startConnect env) := by
  obtain ⟨window, hLog⟩ := log_startConnect env s
  refine ⟨_, hLog, ?_⟩
  simp [Event.isFailure]

/-- An ack asserts that the next expected packet is missing. -/
theorem clean_sendAck (synack : Bool) {s : Conn}
    (hMissing : s.rcv.reorderCount ≠ 0 → s.rcv.gotFinReached = false →
      s.rcv.inbuf.get (s.rcv.ackNr + 1) = none) : Clean s (s.sendAck env synack) := by
  have hUpdate := clean_updateRcvWin env s
  unfold sendAck
  dsimp only
  split
  · rename_i hReorder
    obtain ⟨hCount, hFin⟩ := (Bool.and_eq_true _ _).mp hReorder
    have hOpen : s.rcv.gotFinReached = false := (Bool.not_eq_true' _).mp hFin
    have hNone : ∀ ok, (((s.updateRcvWin env).check 802 ok).rcv.inbuf.get
        (((s.updateRcvWin env).check 802 ok).rcv.ackNr + 1)).isNone = true := by
      intro ok
      rw [Option.isNone_iff_eq_none, ← hMissing (of_decide_eq_true hCount) hOpen]
      cases ok <;> rfl
    have hFirst : Clean s ((s.updateRcvWin env).check 802 (!synack)) :=
      hUpdate.trans (Clean.check _ (Or.inl (by decide)))
    exact (hFirst.trans (Clean.check _ (Or.inr (hNone _)))).trans (clean_sendData env _ _ 0 _)
  · exact hUpdate.trans (clean_sendData env _ _ 0 _)

/-- The state of the queue right before a packet is handed to `sendto`. -/
def beforeTransmit (pkt : OutgoingPacket) (s : Conn) : Conn :=
  let curTime := s.utpCallGetMilliseconds env
  let s := ((s.chargeWindow pkt).called).called
  let s := if s.mtu.discoverTime < curTime then s.mtuReset env else s
  if s.useAsMtuProbe pkt then s.startProbe pkt else s

/-- The flags with which a packet is sent. -/
def transmitFlags (pkt : OutgoingPacket) (s : Conn) : Nat :=
  let curTime := s.utpCallGetMilliseconds env
  let s := ((s.chargeWindow pkt).called).called
  let s := if s.mtu.discoverTime < curTime then s.mtuReset env else s
  if s.useAsMtuProbe pkt then utpUdpDontfrag else 0

/-- A number that holds no packet is passed over. -/
theorem sendPacket_none {v : Int} {s : Conn} (h : s.snd.outbuf.get v = none) :
    s.sendPacket env v = s := by
  unfold sendPacket
  rw [h]

/-- Otherwise the packet is charged to the window, may become a probe, and is transmitted. -/
theorem sendPacket_some {v : Int} {pkt : OutgoingPacket} {s : Conn}
    (h : s.snd.outbuf.get v = some pkt) :
    s.sendPacket env v = (s.beforeTransmit env pkt).transmit env v pkt
      ((s.chargeWindow pkt).called.utpCallGetMicroseconds env) (s.transmitFlags env pkt) := by
  unfold sendPacket beforeTransmit transmitFlags
  rw [h]
  dsimp only
  split_ifs <;> rfl

/-- Only a packet that is not in flight is charged. -/
theorem view_chargeWindow (pkt : OutgoingPacket) (s : Conn) :
    (s.chargeWindow pkt).view = { s.view with
      curWindow := if pkt.transmissions = 0 || pkt.needResend then s.snd.curWindow + pkt.payload
        else s.snd.curWindow } := by
  unfold chargeWindow
  split_ifs <;> rfl

/-- The search for the MTU is no part of the view. -/
theorem view_startProbe (pkt : OutgoingPacket) (s : Conn) : (s.startProbe pkt).view = s.view := by
  simp only [startProbe, view_noteMtu, view_check]
  rfl

theorem view_beforeTransmit (pkt : OutgoingPacket) (s : Conn) :
    (s.beforeTransmit env pkt).view = (s.chargeWindow pkt).view := by
  unfold beforeTransmit
  dsimp only
  split_ifs <;> simp only [view_startProbe, view_mtuReset, view_called]

theorem clean_startProbe (pkt : OutgoingPacket) (s : Conn) : Clean s (s.startProbe pkt) := by
  have hFloor : 925 ∉ coveredLines := by decide
  have hCeiling : 926 ∉ coveredLines := by decide
  refine Clean.trans ?_ (clean_noteMtu _ _ _)
  refine Clean.trans ?_ (Clean.check _ (Or.inl hCeiling))
  refine Clean.trans ?_ (Clean.check _ (Or.inl hFloor))
  exact Clean.of_log rfl

/-- Charging the window asserts nothing. -/
theorem clean_chargeWindow (pkt : OutgoingPacket) (s : Conn) : Clean s (s.chargeWindow pkt) := by
  unfold chargeWindow
  split_ifs <;> exact Clean.of_log rfl

theorem clean_beforeTransmit (pkt : OutgoingPacket) (s : Conn) :
    Clean s (s.beforeTransmit env pkt) := by
  have hCharged : Clean s (s.chargeWindow pkt).called.called :=
    (clean_chargeWindow pkt s).trans (Clean.of_log rfl)
  unfold beforeTransmit
  dsimp only
  split_ifs
  · exact (hCharged.trans (clean_mtuReset env _)).trans (clean_startProbe pkt _)
  · exact hCharged.trans (clean_mtuReset env _)
  · exact hCharged.trans (clean_startProbe pkt _)
  · exact hCharged

/-- The packet is put back with its new count of transmissions. -/
theorem clean_transmit (v : Int) (pkt : OutgoingPacket) (timeSent flags : Nat) (s : Conn) :
    Clean s (s.transmit env v pkt timeSent flags) :=
  ((clean_noteWindow env s).trans (Clean.of_log rfl)).trans (clean_sendData env _ _ flags _)

/-- Sending a packet fails no assertion, whether or not it is there. -/
theorem clean_sendPacket (v : Int) (s : Conn) : Clean s (s.sendPacket env v) := by
  cases hGet : s.snd.outbuf.get v with
  | none =>
      rw [sendPacket_none env hGet]
      exact Clean.refl s
  | some pkt =>
      rw [sendPacket_some env hGet]
      exact (clean_beforeTransmit env pkt s).trans (clean_transmit env v pkt _ _ _)

/-- Sending a queued packet stores it back with its transmission recorded and
charges the window where it was not charged before. -/
theorem view_sendPacket {v : Int} {pkt : OutgoingPacket} {s : Conn}
    (h : s.snd.outbuf.get v = some pkt) :
    (s.sendPacket env v).view = { (s.chargeWindow pkt).view with
      outbuf := s.snd.outbuf.put v (some ((s.beforeTransmit env pkt).sentPacket env pkt
        ((s.chargeWindow pkt).called.utpCallGetMicroseconds env))) } := by
  rw [sendPacket_some env h]
  have hView := view_beforeTransmit env pkt s
  have hBuf : (s.beforeTransmit env pkt).snd.outbuf = s.snd.outbuf :=
    (congrArg View.outbuf hView).trans (congrArg View.outbuf (view_chargeWindow pkt s))
  unfold transmit
  dsimp only
  rw [view_sendData, ← hBuf, ← hView]
  rfl

/-- The estimate of the round trip is no part of the view. -/
theorem view_sampleRtt (pkt : OutgoingPacket) (s : Conn) : (s.sampleRtt env pkt).view = s.view := by
  unfold sampleRtt
  split_ifs <;> rfl

/-- A sample is taken without a record. -/
theorem log_sampleRtt (pkt : OutgoingPacket) (s : Conn) : (s.sampleRtt env pkt).log = s.log := by
  unfold sampleRtt
  split_ifs <;> rfl

/-- Only a packet that is in flight is taken from the window. -/
theorem view_dischargeWindow (pkt : OutgoingPacket) (s : Conn) :
    (s.dischargeWindow pkt).view = { s.view with
      curWindow := if pkt.needResend then s.snd.curWindow
        else sub64 s.snd.curWindow pkt.payload } := by
  unfold dischargeWindow
  split_ifs
  · rfl
  · exact view_check _ _ _

/-- Removing a packet frees its slot and takes it out of the window. -/
theorem view_removePacket (seq : Int) (pkt : OutgoingPacket) (s : Conn) :
    (s.removePacket env seq pkt).view = { s.view with
      outbuf := s.snd.outbuf.put seq none
      curWindow := if pkt.needResend then s.snd.curWindow
        else sub64 s.snd.curWindow pkt.payload } := by
  have hSample := view_sampleRtt env pkt (s.putPacket seq none)
  have hWindow : ((s.putPacket seq none).sampleRtt env pkt).restartTimer.snd.curWindow =
      s.snd.curWindow := congrArg View.curWindow hSample
  calc (s.removePacket env seq pkt).view
      = ((((s.putPacket seq none).sampleRtt env pkt).restartTimer).dischargeWindow pkt).view := rfl
    _ = { ((s.putPacket seq none).sampleRtt env pkt).view with
          curWindow := if pkt.needResend then s.snd.curWindow
            else sub64 s.snd.curWindow pkt.payload } := by
          rw [view_dischargeWindow, hWindow]
          rfl
    _ = _ := by
          rw [hSample]
          rfl

/-- The assertion is that the window holds the payload of a packet in flight, which is the hypothesis. -/
theorem clean_dischargeWindow {pkt : OutgoingPacket} {s : Conn}
    (hWindow : pkt.needResend = false → pkt.payload ≤ s.snd.curWindow) :
    Clean s (s.dischargeWindow pkt) := by
  unfold dischargeWindow
  split_ifs with hResend
  · exact Clean.refl _
  · have hLe := hWindow (by simpa using hResend)
    exact (Clean.of_log rfl).trans (Clean.check _ (Or.inr (by simpa using hLe)))

/-- An acked packet goes out of the buffer, and its payload out of the window. -/
theorem clean_removePacket (seq : Int) {pkt : OutgoingPacket} {s : Conn}
    (hWindow : pkt.needResend = false → pkt.payload ≤ s.snd.curWindow) :
    Clean s (s.removePacket env seq pkt) := by
  have hSample := view_sampleRtt env pkt (s.putPacket seq none)
  have hSame : ((s.putPacket seq none).sampleRtt env pkt).restartTimer.snd.curWindow =
      s.snd.curWindow := congrArg View.curWindow hSample
  have hLog : Clean s ((s.putPacket seq none).sampleRtt env pkt).restartTimer :=
    Clean.of_log (log_sampleRtt env pkt _)
  have hDischarge := clean_dischargeWindow (hSame ▸ hWindow)
  exact (hLog.trans hDischarge).trans (Clean.of_log rfl)

/-- There is nothing to ack: it was acked before. -/
theorem ackPacket_none {seq : Int} {s : Conn} (h : s.snd.outbuf.get (u16 seq) = none) :
    s.ackPacket env seq = (1, s) := by
  unfold ackPacket
  rw [h]

/-- A packet that was never sent is not taken away, and the return value says so. -/
theorem ackPacket_some {seq : Int} {pkt : OutgoingPacket} {s : Conn}
    (h : s.snd.outbuf.get (u16 seq) = some pkt) :
    s.ackPacket env seq =
      if pkt.transmissions = 0 then (2, s) else (0, s.removePacket env (u16 seq) pkt) := by
  unfold ackPacket
  rw [h]

/-- The last packet keeps its number while bytes are added to it. -/
theorem view_fillPacket (flags : Nat) (pkt : OutgoingPacket) (bytes : List UInt8) (s : Conn) :
    ∃ header : PacketFormatV1, header.windowsize = u32 (s.fillPacket env flags pkt bytes).lastRcvWin ∧
      header.seqNr = pkt.header.seqNr ∧ header.type = flags ∧ (s.fillPacket env flags pkt bytes).view = { s.view with
        outbuf := s.snd.outbuf.put (s.snd.seqNr - 1) (some { pkt with
          payload := pkt.payload + bytes.length
          length := 20 + (pkt.payload + bytes.length)
          body := pkt.body ++ bytes
          header := header }) } := by
  generalize hPrep : ((s.check 1036 (!pkt.needResend)).check 1049
    (bytes.isEmpty || flags == stData)).updateRcvWin env = prep
  have hView : prep.view = s.view := by
    rw [← hPrep]
    simp only [view_updateRcvWin, view_check]
  have hSeq : prep.snd.seqNr = s.snd.seqNr := congrArg View.seqNr hView
  have hBuf : prep.snd.outbuf = s.snd.outbuf := congrArg View.outbuf hView
  unfold fillPacket
  dsimp only
  refine ⟨prep.writeHeader flags pkt.header, hPrep ▸ rfl, rfl, rfl, ?_⟩
  rw [hPrep, view_emit, ← hView, ← hSeq, ← hBuf]
  rfl

/-- A new packet takes the next sequence number. -/
theorem view_appendPacket (flags : Nat) (bytes : List UInt8) (s : Conn) :
    ∃ pkt : OutgoingPacket, pkt.header.windowsize = u32 (s.appendPacket env flags bytes).lastRcvWin ∧
      pkt.header.seqNr = s.snd.seqNr ∧ pkt.header.type = flags ∧
      pkt.body = bytes ∧ pkt.payload = bytes.length ∧ pkt.length = 20 + bytes.length ∧
      pkt.transmissions = 0 ∧ pkt.needResend = false ∧
      (s.appendPacket env flags bytes).view = { s.view with
        outbuf := (s.snd.outbuf.ensureSize s.snd.seqNr s.snd.curWindowPackets).put s.snd.seqNr
          (some pkt)
        seqNr := u16 (s.snd.seqNr + 1)
        curWindowPackets := u16 (s.snd.curWindowPackets + 1) } := by
  generalize hPrep : (s.check 1049 (bytes.isEmpty || flags == stData)).updateRcvWin env = prep
  have hView : prep.view = s.view := by
    rw [← hPrep]
    simp only [view_updateRcvWin, view_check]
  have hSeq : prep.snd.seqNr = s.snd.seqNr := congrArg View.seqNr hView
  have hBuf : prep.snd.outbuf = s.snd.outbuf := congrArg View.outbuf hView
  have hCount : prep.snd.curWindowPackets = s.snd.curWindowPackets :=
    congrArg View.curWindowPackets hView
  unfold appendPacket
  dsimp only
  refine ⟨prep.newPacket flags bytes, hPrep ▸ rfl, hSeq, rfl, rfl, rfl, rfl, rfl, rfl, ?_⟩
  rw [hPrep, ← hView, ← hSeq, ← hBuf, ← hCount]
  rfl

/-- The buffer is grown as needed, and the packet is put in the next place. -/
theorem clean_enqueue (pkt : OutgoingPacket) (s : Conn) : Clean s (s.enqueue pkt) :=
  (Clean.of_log rfl).trans (Clean.emit _ rfl)

/-- That only data packets have a payload is asserted in a line that is not a covered one. -/
theorem clean_appendPacket (flags : Nat) (bytes : List UInt8) (s : Conn) :
    Clean s (s.appendPacket env flags bytes) := by
  have hLine : 1049 ∉ coveredLines := by decide
  exact ((Clean.check s (Or.inl hLine)).trans (clean_updateRcvWin env _)).trans (clean_enqueue _ _)

/-- The assertion is that the packet to be filled is not waiting to be sent again. -/
theorem clean_fillPacket (flags : Nat) {pkt : OutgoingPacket} (bytes : List UInt8) (s : Conn)
    (hResend : pkt.needResend = false) : Clean s (s.fillPacket env flags pkt bytes) := by
  have hLine : 1049 ∉ coveredLines := by decide
  have hFirst : Clean s (s.check 1036 (!pkt.needResend)) := Clean.check s (Or.inr (by simp [hResend]))
  have hSecond : Clean s ((s.check 1036 (!pkt.needResend)).check 1049
      (bytes.isEmpty || flags == stData)) := hFirst.trans (Clean.check _ (Or.inl hLine))
  have hThird := hSecond.trans (clean_updateRcvWin env _)
  exact (hThird.trans (Clean.of_log rfl)).trans (Clean.emit _ rfl)

/-- The packet that `losePacket` considers, and what it does with one in flight. -/
theorem losePacket_cases (i : Nat) (s : Conn) :
    s.losePacket i = s ∨ ∃ pkt, s.snd.outbuf.get (s.snd.seqNr - i - 1) = some pkt ∧
      pkt.transmissions ≠ 0 ∧ pkt.needResend = false ∧
      s.losePacket i = { s with
        snd.outbuf := s.snd.outbuf.put (s.snd.seqNr - i - 1) (some { pkt with needResend := true })
        snd.curWindow := sub64 s.snd.curWindow pkt.payload }.check 1243
          (s.snd.curWindow ≥ pkt.payload) := by
  unfold losePacket
  dsimp only
  split
  · exact Or.inl rfl
  · rename_i pkt hGet
    split
    · exact Or.inl rfl
    · rename_i hSent
      have hParts : pkt.transmissions ≠ 0 ∧ pkt.needResend = false := by simpa using hSent
      exact Or.inr ⟨pkt, hGet, hParts.1, hParts.2, rfl⟩

/-- Ids, address and the first size of the search are set. -/
theorem clean_initializeSocket (addr : PackedSockAddr) (connSeed connIdRecv connIdSend : Nat)
    (s : Conn) : Clean s (s.initializeSocket env addr connSeed connIdRecv connIdSend) := by
  have hIdle : Clean s (s.setState .idle) := Clean.emit s rfl
  have hReset := hIdle.trans (Clean.trans (Clean.of_log rfl) (clean_mtuReset env
    ((((s.setState .idle).updateCurrentMs env).assignIds addr connSeed connIdRecv
      connIdSend).initClocks)))
  exact hReset.trans (Clean.of_log rfl)

/-- The first size of the search comes from the callback, and the view has no part of it. -/
theorem view_initMtu (s : Conn) : (s.initMtu env).view = s.view := view_mtuReset env s

/-- The socket is idle, and its numbers are the initial ones. -/
theorem view_initializeSocket (addr : PackedSockAddr) (connSeed connIdRecv connIdSend : Nat)
    (s : Conn) : (s.initializeSocket env addr connSeed connIdRecv connIdSend).view = { s.view with
      state := .idle
      addr := addr
      connIdRecv := connIdRecv
      connIdSend := connIdSend } :=
  view_initMtu env _

end Conn

end Utp
