import Utp.Transition.Packet
import Utp.Transition.Trace

/-! The state in which the data part of a packet runs. What precedes it, the processing of
the acks, leaves the receiving side alone. -/
namespace Utp

open Wrapping

def Event.isAccepted : Event → Bool
  | .accepted _ _ _ => true
  | _ => false

/-- The packets that have reached the delivery code. -/
def acceptances (log : List Event) : List Event := log.filter Event.isAccepted

/-- Packets that reach the delivery code are events of the story, so the bookkeeping cannot hide or
reorder them. -/
theorem acceptances_story (s : Conn) : acceptances s.trace.story = acceptances s.log := by
  unfold acceptances Conn.trace traceOf
  rw [List.filter_filter]
  refine List.filter_congr fun e _ => ?_
  cases e <;> rfl

/-- The receiving side and the connection state are left alone, and no packet reaches the
delivery code. -/
structure Steady (s s' : Conn) : Prop where
  recv : s'.recvView = s.recvView
  state : s'.state = s.state
  accepted : acceptances s'.log = acceptances s.log

namespace Steady

variable {s t u : Conn}

/-- A socket is steady with itself. -/
theorem refl (s : Conn) : Steady s s := ⟨rfl, rfl, rfl⟩

theorem trans (hFirst : Steady s t) (hSecond : Steady t u) : Steady s u :=
  ⟨hSecond.recv.trans hFirst.recv, hSecond.state.trans hFirst.state,
    hSecond.accepted.trans hFirst.accepted⟩

/-- The story has all acceptances, so a function that adds nothing to it is steady if it leaves the
receiving side and the state alone. -/
theorem of_story (hRecv : t.recvView = s.recvView) (hState : t.state = s.state)
    (hStory : t.trace.story = s.trace.story) : Steady s t :=
  ⟨hRecv, hState, by rw [← acceptances_story, hStory, acceptances_story]⟩

/-- The functions of the queue are steady. -/
theorem of_backdrop (hBackdrop : t.backdrop = s.backdrop)
    (hStory : t.trace.story = s.trace.story) : Steady s t := by
  have hRcv : t.rcv = s.rcv := congrArg Backdrop.rcv hBackdrop
  refine of_story ?_ (congrArg Backdrop.state hBackdrop) hStory
  unfold Conn.recvView
  rw [hRcv]

/-- So is the bookkeeping. -/
theorem of_quiet {env : Env} {cause : Cause} (h : QuietPath env cause s t)
    (hAck : s.rcv.ackNr < 65536) : Steady s t := by
  induction h with
  | refl => exact refl s
  | tail _ hStep ih =>
      have hBound := lt_of_eq_of_lt (congrArg RecvView.ackNr ih.recv) hAck
      have hView := hStep.view hBound
      exact ih.trans (of_story (Conn.recvView_of_view hView) (congrArg View.state hView) hStep.story)

/-- The bound on `ack_nr` is one of the things that stay. -/
theorem ackNr_lt (h : Steady s t) (hAck : s.rcv.ackNr < 65536) : t.rcv.ackNr < 65536 :=
  lt_of_eq_of_lt (congrArg RecvView.ackNr h.recv) hAck

end Steady

namespace Conn

variable (env : Env)

theorem steady_check (line : Nat) (ok : Bool) (s : Conn) : Steady s (s.check line ok) := by
  cases ok with
  | true => exact .refl s
  | false => exact ⟨rfl, rfl, by simp [acceptances, check, emit, Event.isAccepted]⟩

theorem steady_emit {e : Event} (s : Conn) (hEvent : e.isAccepted = false) : Steady s (s.emit e) :=
  ⟨rfl, rfl, by simp [acceptances, emit, hEvent]⟩

/-- A packet that is sent adds a wire to the record, and no event of the story. -/
theorem steady_sendPacket (v : Int) (s : Conn) : Steady s (s.sendPacket env v) := by
  refine .of_backdrop (backdrop_sendPacket env v s) ?_
  cases hGet : s.snd.outbuf.get v with
  | none => rw [sendPacket_none env hGet]
  | some pkt =>
      obtain ⟨w, events, -, hSent⟩ := trace_sendPacket env hGet
      rw [hSent]
      rfl

/-- That a packet is acked is no event of the story. -/
theorem steady_ackPacket (seq : Int) (s : Conn) : Steady s (s.ackPacket env seq).2 :=
  .of_backdrop (backdrop_ackPacket env seq s) (congrArg Trace.story (trace_ackPacket env seq s))

/-- By induction on the number of acks. -/
theorem steady_ackLoop (acks : Nat) (s : Conn) : Steady s (s.ackLoop env acks) := by
  induction acks generalizing s with
  | zero => exact .refl s
  | succ acks ih =>
      have hAcked := steady_ackPacket env (s.snd.seqNr - s.snd.curWindowPackets) s
      unfold ackLoop
      dsimp only
      split_ifs
      · exact hAcked
      · refine Steady.trans ?_ (ih _)
        exact hAcked.trans ⟨rfl, rfl, rfl⟩

/-- By induction on the fuel: packets that were acked by a mask leave the front of the queue. -/
theorem steady_dropAcked (fuel : Nat) (s : Conn) : Steady s (s.dropAcked fuel) := by
  induction fuel generalizing s with
  | zero => exact .refl s
  | succ fuel ih =>
      unfold dropAcked
      split_ifs
      · refine Steady.trans ?_ (ih _)
        exact ⟨rfl, rfl, rfl⟩
      · exact .refl s

theorem steady_updateFastResend (header : PacketFormatV1) (s : Conn) :
    Steady s (s.updateFastResend header) := by
  unfold updateFastResend
  split_ifs <;> exact ⟨rfl, rfl, rfl⟩

theorem steady_flushNagle (s : Conn) : Steady s (s.flushNagle env) := by
  unfold flushNagle
  split_ifs
  · split
    · exact steady_check 2285 false s
    · split_ifs
      · exact steady_sendPacket env _ s
      · exact .refl s
  · exact .refl s

theorem steady_fastTimeoutRetry (s : Conn) : Steady s (s.fastTimeoutRetry env) := by
  unfold fastTimeoutRetry
  dsimp only
  split_ifs
  · exact ⟨rfl, rfl, rfl⟩
  · split
    · exact .refl s
    · split_ifs
      · refine Steady.trans ?_ (steady_sendPacket env _ _)
        exact ⟨rfl, rfl, rfl⟩
      · exact .refl s
  · exact .refl s

/-- One bit of the mask: its packet is acked, or put on the stack of those to be sent again. -/
theorem steady_selectiveAckAt (d : Datagram) (mask : SackMask) (base bits : Int) (scan : EackScan)
    (s : Conn) : Steady s (s.selectiveAckAt env d mask base bits scan).2 := by
  have hRead : Steady s (if bits ≥ 0 then s.emit (mask.access bits.toNat) else s) := by
    split_ifs
    · exact steady_emit s rfl
    · exact .refl s
  unfold selectiveAckAt
  dsimp only
  generalize (if bits ≥ 0 then s.emit (mask.access bits.toNat) else s) = t at hRead ⊢
  split_ifs
  all_goals first
    | exact .refl s
    | split
  all_goals first
    | exact hRead
    | split_ifs
  all_goals first
    | exact hRead
    | exact ((hRead.trans (steady_check 1553 _ _)).trans (steady_ackPacket env _ _)).trans
        (steady_emit _ rfl)

/-- By induction on the bits that are left. -/
theorem steady_selectiveAckFrom (d : Datagram) (mask : SackMask) (base : Int) (n : Nat)
    (scan : EackScan) (s : Conn) : Steady s (s.selectiveAckFrom env d mask base n scan).2 := by
  induction n generalizing scan s with
  | zero => exact steady_selectiveAckAt env d mask base (-1) scan s
  | succ n ih =>
      exact (steady_selectiveAckAt env d mask base n scan s).trans (ih _ _)

/-- By induction on the stack. -/
theorem steady_resendLoop (resends : List Int) (i : Nat) (s : Conn) :
    Steady s (s.resendLoop env resends i).2 := by
  induction resends generalizing i s with
  | nil => exact .refl s
  | cons v rest ih =>
      have hSent : Steady s { s.sendPacket env v with snd.fastResendSeqNr := u16 (v + 1) } :=
        (steady_sendPacket env v s).trans ⟨rfl, rfl, rfl⟩
      unfold resendLoop
      split
      · exact ih i s
      · dsimp only
        split_ifs
        · exact hSent
        · exact hSent.trans (ih _ _)

/-- The whole of `selective_ack`: the scan of the mask, the packets that are sent again, and the window
that is halved for a loss. -/
theorem steady_selectiveAck (d : Datagram) (mask : SackMask) (base : Int) {s : Conn}
    (hAck : s.rcv.ackNr < 65536) : Steady s (s.selectiveAck env d mask base) := by
  unfold selectiveAck
  split_ifs
  · exact .refl s
  · have hScan := steady_selectiveAckFrom env d mask base (mask.extLen * 8) ⟨0, []⟩ s
    generalize s.selectiveAckFrom env d mask base (mask.extLen * 8) ⟨0, []⟩ = r at hScan ⊢
    dsimp only
    generalize (if r.2.shouldResend (base - 1) r.1 then
      r.1.resends ++ [((u16 (base - 1) : Nat) : Int)] else r.1.resends) = resends
    have hSent := hScan.trans (steady_resendLoop env resends.reverse 0 r.2)
    generalize r.2.resendLoop env resends.reverse 0 = done at hSent ⊢
    split_ifs
    · have hDecay := Steady.of_quiet (path_maybeDecayWin env .call done.2) (hSent.ackNr_lt hAck)
      exact (hSent.trans hDecay).trans ⟨rfl, rfl, rfl⟩
    · exact hSent.trans ⟨rfl, rfl, rfl⟩

end Conn

/-- Bookkeeping does not ask for the socket to be closed. -/
theorem Quiet.closeRequested {env : Env} {cause : Cause} {s s' : Conn} (h : Quiet env cause s s') :
    s'.closeRequested = s.closeRequested := by
  have hUpdate : ∀ t : Conn, (t.mtuSearchUpdate env).closeRequested = t.closeRequested := fun t =>
    (congrArg Foreground.closeRequested (Conn.foreground_check _ _ _)).trans
      (congrArg Foreground.closeRequested (Conn.foreground_check _ _ _))
  cases h with
  | check line ok hLine => exact congrArg Foreground.closeRequested (Conn.foreground_check line ok s)
  | setsockopt opt val => cases opt <;> rfl
  | probeLost hProbe => exact hUpdate _
  | probePassed hProbe => exact hUpdate _
  | fragmentation nextHopMtu =>
      unfold Conn.receiveIcmpFragmentation
      change Socket.closeRequested (Conn.toSocket (if _ then _ else _)) = _
      split_ifs
      · exact hUpdate _
      · exact hUpdate _
  | startTimer =>
      unfold Conn.startTimer
      split_ifs
      · exact congrArg Foreground.closeRequested (Conn.foreground_check _ _ _)
      · rfl
  | ack hCause => exact congrArg Foreground.closeRequested (Conn.foreground_sendAck env false s)
  | synAck d hCause hEmpty => exact congrArg Foreground.closeRequested (Conn.foreground_sendAck env true s)
  | keepAlive hOpen hFin =>
      exact congrArg Foreground.closeRequested
        (Conn.foreground_sendAck env false (s.setAckNr (u16 (s.rcv.ackNr - 1))))
  | _ => rfl

/-- Nor does a run of the bookkeeping. -/
theorem QuietPath.closeRequested {env : Env} {cause : Cause} {s s' : Conn}
    (h : QuietPath env cause s s') : s'.closeRequested = s.closeRequested := by
  induction h with
  | refl => rfl
  | tail _ hStep ih => exact hStep.closeRequested.trans ih

namespace Conn

variable (env : Env)

/-- A connection that can take the data of a packet with this header: it is up, or comes up
with its first data packet, and the packet does not end it by acking our FIN. -/
def takesData (header : PacketFormatV1) (s : Conn) : Bool :=
  (s.state.open || s.state == .synRecv) &&
    !(s.finSent && s.closeRequested && s.snd.curWindowPackets == s.acksOf header)

/-- The acks of a packet have been processed and the connection is up. -/
structure Admits (s s' : Conn) : Prop where
  recv : s'.recvView = s.recvView
  isOpen : s'.state.open = true
  accepted : acceptances s'.log = acceptances s.log

/-- What comes after the state is right must not change it any more. -/
theorem Admits.steady {s t u : Conn} (h : Admits s t) (hSteady : Steady t u) : Admits s u :=
  ⟨hSteady.recv.trans h.recv, by rw [hSteady.state]; exact h.isOpen, hSteady.accepted.trans h.accepted⟩

/-- A data packet takes a socket in `CS_SYN_RECV` to `CS_CONNECTED`, before its data is looked at. The
exception in `takesData` is the packet that acks the FIN of a closed socket: it ends the connection, and
its data is lost. -/
theorem admits_complete {header : PacketFormatV1} {s : Conn} (hType : header.type = stData)
    (hTakes : s.takesData header = true) :
    Admits s ((s.completeIncoming header).completeOutgoing env header (s.acksOf header)) := by
  unfold takesData at hTakes
  obtain ⟨hState, hStays⟩ := Bool.and_eq_true_iff.1 hTakes
  have hUp : Admits s (s.completeIncoming header) := by
    unfold completeIncoming
    split_ifs with hFirst
    · refine ⟨rfl, rfl, ?_⟩
      simp [acceptances, emit, setState, Event.isAccepted]
    · refine ⟨rfl, ?_, rfl⟩
      have hOther : s.state ≠ .synRecv := by simpa [hType] using hFirst
      simpa [hOther] using hState
  have hFin : (s.completeIncoming header).finSent = s.finSent ∧
      (s.completeIncoming header).closeRequested = s.closeRequested ∧
      (s.completeIncoming header).snd = s.snd := by
    unfold completeIncoming
    split_ifs <;> exact ⟨rfl, rfl, rfl⟩
  obtain ⟨hSent, hClose, hSnd⟩ := hFin
  have hNotDialled : ¬((header.type = stState && (s.completeIncoming header).state = .synSent) = true) := by
    simp [hType]
  unfold completeOutgoing
  rw [if_neg hNotDialled, hSent, hSnd]
  split_ifs with hAcked
  · have hParts := Bool.and_eq_true_iff.1 hAcked
    have hOpen : (s.completeIncoming header).closeRequested = false := by
      rw [hClose]
      simpa [hParts.1, of_decide_eq_true hParts.2] using hStays
    dsimp only
    rw [if_neg (by simp [hOpen])]
    exact hUp.steady ⟨rfl, rfl, rfl⟩
  · exact hUp

/-- The acknowledgment number is worked off with the state already right. -/
theorem admits_processAcks {header : PacketFormatV1} {s : Conn} (hAck : s.rcv.ackNr < 65536)
    (hType : header.type = stData) (hTakes : s.takesData header = true) :
    Admits s (s.processAcks env header (s.acksOf header)) := by
  have hQuiet := path_updateWindowUser env .call header s
  have hWindow := Steady.of_quiet hQuiet hAck
  have hView := hQuiet.view hAck
  have hAcks : (s.updateWindowUser header).acksOf header = s.acksOf header :=
    acksOf_congr header (congrArg View.seqNr hView) (congrArg View.curWindowPackets hView)
  have hStill : (s.updateWindowUser header).takesData header = true := by
    have hParts : (s.updateWindowUser header).finSent = s.finSent ∧
        (s.updateWindowUser header).closeRequested = s.closeRequested ∧
        (s.updateWindowUser header).snd.curWindowPackets = s.snd.curWindowPackets := by
      unfold updateWindowUser
      dsimp only
      split_ifs <;> exact ⟨rfl, rfl, rfl⟩
    unfold takesData
    rw [hWindow.state, hParts.1, hParts.2.1, hParts.2.2, hAcks]
    exact hTakes
  have hDone := admits_complete env hType hStill
  rw [hAcks] at hDone
  have hStart : Admits s (((s.updateWindowUser header).completeIncoming header).completeOutgoing env header
      (s.acksOf header)) :=
    ⟨hDone.recv.trans hWindow.recv, hDone.isOpen, hDone.accepted.trans hWindow.accepted⟩
  unfold processAcks
  dsimp only
  generalize ((s.updateWindowUser header).completeIncoming header).completeOutgoing env header
    (s.acksOf header) = t at hStart ⊢
  have hAcked := hStart.steady ((steady_updateFastResend header t).trans
    (steady_ackLoop env (s.acksOf header) _))
  generalize (t.updateFastResend header).ackLoop env (s.acksOf header) = u at hAcked ⊢
  have hDropped := hAcked.steady (steady_dropAcked u.snd.curWindowPackets u)
  generalize u.dropAcked u.snd.curWindowPackets = w at hDropped ⊢
  have hChecked := hDropped.steady (steady_check 2279 w.frontQueued w)
  exact hChecked.steady ((steady_flushNagle env _).trans (steady_fastTimeoutRetry env _))

/-- Whether the data is taken depends on what the bookkeeping leaves alone. -/
theorem takesData_congr {header : PacketFormatV1} {s t : Conn} (hView : t.view = s.view)
    (hClose : t.closeRequested = s.closeRequested) : t.takesData header = s.takesData header := by
  have hState : t.state = s.state := congrArg View.state hView
  have hFin : t.finSent = s.finSent := congrArg View.finSent hView
  have hSeq : t.snd.seqNr = s.snd.seqNr := congrArg View.seqNr hView
  have hCount : t.snd.curWindowPackets = s.snd.curWindowPackets := congrArg View.curWindowPackets hView
  unfold takesData
  rw [hState, hFin, hClose, hCount, acksOf_congr header hSeq hCount]

/-- And so is the mask. -/
theorem admits_receiveAcks {d : Datagram} {header : PacketFormatV1} (selack : Option SackMask)
    (time : Nat) {s : Conn} (hAck : s.rcv.ackNr < 65536) (hType : header.type = stData)
    (hTakes : s.takesData header = true) : Admits s (s.receiveAcks env d header selack time) := by
  have hMeasured : QuietPath env .call s _ := (path_countDuplicateAck env .call header s).trans
    (path_measureAcks env .call d header selack (s.acksOf header) _)
  unfold receiveAcks
  dsimp only
  generalize (s.countDuplicateAck env header).measureAcks env d header selack (s.acksOf header) = a
    at hMeasured ⊢
  have hControl : QuietPath env .call s _ :=
    hMeasured.trans (path_controlWindow env .call header time a.1 a.2)
  generalize a.2.controlWindow header time a.1 = w at hControl ⊢
  have hSteady := Steady.of_quiet hControl hAck
  have hView := hControl.view hAck
  have hCount : w.snd.curWindowPackets = s.snd.curWindowPackets := congrArg View.curWindowPackets hView
  have hAcks : w.acksOf header = s.acksOf header := acksOf_congr header (congrArg View.seqNr hView) hCount
  have hLe : s.acksOf header ≤ w.snd.curWindowPackets := hCount.symm ▸ (acksOf_spec header s).1
  rw [if_pos hLe, ← hAcks]
  have hDone := admits_processAcks env (hSteady.ackNr_lt hAck) hType
    ((takesData_congr hView hControl.closeRequested).trans hTakes)
  have hStart : Admits s (w.processAcks env header (w.acksOf header)) :=
    ⟨hDone.recv.trans hSteady.recv, hDone.isOpen, hDone.accepted.trans hSteady.accepted⟩
  generalize w.processAcks env header (w.acksOf header) = x at hStart ⊢
  cases selack with
  | none => exact hStart
  | some mask =>
      refine hStart.steady (steady_selectiveAck env d mask _ ?_)
      exact lt_of_eq_of_lt (congrArg RecvView.ackNr hStart.recv) hAck

/-- A full connection that becomes writable again was up before, too. -/
theorem admits_makeWritable {s t : Conn} (h : Admits s t) : Admits s t.makeWritable := by
  unfold makeWritable noteFull
  split_ifs
  · exact h.steady ⟨rfl, rfl, rfl⟩
  · refine ⟨h.recv, rfl, Eq.trans ?_ h.accepted⟩
    simp [acceptances, emit, setState, Event.isAccepted]
  · exact h

/-- A data packet that is near the expected one, and whose connection takes data, gets to
the data part with the receiving side as it was. -/
theorem arrival_data {d : Datagram} {s : Conn} (hAck : s.rcv.ackNr < 65536)
    (hAccepts : s.accepts d = true) (hType : d.header.type = stData)
    (hTakes : s.takesData d.header = true) (hNear : s.seqOffset d.header < reorderBufferMaxSize) :
    ∃ data selack t, (s.skipExtensions d).1 = some (data, selack) ∧ Admits s t ∧
      s.utpProcessIncoming env d false =
        t.receiveData env d d.header data (s.seqOffset d.header) := by
  rcases parsed_utpProcessIncoming env d hAck with ⟨hReject, -⟩ | ⟨-, r, u, time, hParsed, hQuiet, hEq⟩
  · exact nomatch hReject.symm.trans hAccepts
  · obtain ⟨rfl, w, hParse⟩ := hParsed
    have hSteady := Steady.of_quiet (hQuiet .call) hAck
    have hView := (hQuiet .call).view hAck
    have hOther : u.state ≠ .synSent := by
      rw [hSteady.state]
      intro hSent
      simp [takesData, hSent, ConnState.open] at hTakes
    have hOffset : u.seqOffset r.d.header = s.seqOffset r.d.header := by
      unfold seqOffset
      rw [show u.rcv.ackNr = s.rcv.ackNr from congrArg RecvView.ackNr hSteady.recv]
    have hHeard : ({ u with lastGotPacket := u.currentMs } : Conn).seqOffset r.d.header =
        s.seqOffset r.d.header := hOffset
    have hDone := admits_receiveAcks env (d := r.d) r.selack time
      (s := { u with lastGotPacket := u.currentMs }) (hSteady.ackNr_lt hAck) hType
      ((takesData_congr hView (hQuiet .call).closeRequested).trans hTakes)
    have hBody : u.processBody env r.d r.d.header r.data r.selack time false =
        ({ u with lastGotPacket := u.currentMs } : Conn).processAccepted env r.d r.d.header r.data
          (s.seqOffset r.d.header) r.selack time := by
      unfold processBody
      dsimp only
      rw [if_neg hOther, if_neg (by decide), hHeard, if_neg (Nat.not_le.2 hNear)]
    rw [hEq, hBody]
    unfold processAccepted
    dsimp only
    generalize ({ u with lastGotPacket := u.currentMs } : Conn).receiveAcks env r.d r.d.header r.selack
      time = x at hDone ⊢
    have hStart : Admits s x := ⟨hDone.recv.trans hSteady.recv, hDone.isOpen,
      hDone.accepted.trans hSteady.accepted⟩
    exact ⟨r.data, r.selack, _, (skipExtensions_congr r.d s w).trans hParse,
      admits_makeWritable (hStart.steady (steady_check 2328 x.frontQueued x)), rfl⟩

end Conn

end Utp
