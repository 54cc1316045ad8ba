import Utp.Invariant.Ledger
import Utp.Invariant.Delivery

/-! A dialled socket that has not heard from its peer. It has nothing to ack, and sends nothing
but its SYN. -/
namespace Utp

open Wrapping

/-- The causes for which a socket that is not connected sends no ack: calls of the user or the
timer, and acks of the peer. -/
def Cause.calm : Cause → Prop
  | .call | .write | .asked | .timer => True
  | .packet r => r.d.header.type = stState
  | _ => False

/-- No ack is scheduled. -/
abbrev Unasked (s s' : Conn) : Prop := Adds (· ≠ .scheduleAck) s s'

variable {env : Env} {cause : Cause} {s s' : Conn}

theorem unasked_of_common (e : Event) (h : e.isCommon = true) : e ≠ .scheduleAck := by
  rintro rfl
  cases h

theorem Cause.calm.covered (h : cause.calm) : cause.Covered (· ≠ .scheduleAck) := by
  refine ⟨unasked_of_common, fun _ _ => nofun, fun _ _ _ => nofun, ?_, fun _ _ => nofun⟩
  rintro (rfl | ⟨r, rfl, hOther⟩)
  · cases h
  · exact absurd h hOther

/-- Bookkeeping for a calm cause neither schedules nor sends an ack. -/
theorem Quiet.unasked (h : Quiet env cause s s') (hCalm : cause.calm) (hOpen : s.state.open = false) :
    Unasked s s' ∧ s'.traffic = s.traffic := by
  refine ⟨h.adds hCalm.covered, ?_⟩
  have hGrows := h.grows
  cases h with
  | scheduleAck hCause => exact (trafficOf_append _ _).trans (List.append_nil _)
  | ack hCause => rcases hCause with rfl | rfl <;> cases hCalm
  | synAck d hCause hEmpty =>
      subst hCause
      cases hCalm
  | keepAlive hUp hFin =>
      rw [hUp] at hOpen
      cases hOpen
  | read off count => exact (trafficOf_append _ _).trans (List.append_nil _)
  | readMask mask index extLen => exact (trafficOf_append _ _).trans (List.append_nil _)
  | onAccept => exact (trafficOf_append _ _).trans (List.append_nil _)
  | check line ok hLine => exact Conn.traffic_of_seeks hGrows (Conn.seeks_check line ok s)
  | probeLost hProbe => exact Conn.traffic_of_seeks hGrows (Conn.seeks_probeLost env s)
  | probePassed hProbe => exact Conn.traffic_of_seeks hGrows (Conn.seeks_probePassed env s)
  | fragmentation nextHopMtu => exact Conn.traffic_of_seeks hGrows (Conn.seeks_receiveIcmpFragmentation env nextHopMtu s)
  | startTimer => exact Conn.traffic_of_trace hGrows (Conn.trace_startTimer s)
  | setsockopt opt val => cases opt <;> rfl
  | _ => rfl

/-- A connection comes up only when its peer is heard. -/
theorem Moving.answered (h : Moving cause s s') (hWas : s.state = .synSent) (hNow : s'.state = .connected) :
    ∃ r, cause = .packet r := by
  have hAbandon : s.abandon.state ≠ .connected := by
    change (if s.closeRequested then ConnState.destroy else .reset) ≠ .connected
    split_ifs <;> decide
  cases h with
  | established r hCause hType hState => exact ⟨r, hCause⟩
  | admitted r hCause hType hState => exact ⟨r, hCause⟩
  | finAcked r hCause hFin hAcks => exact ⟨r, hCause⟩
  | full hState hFull =>
      rw [hWas] at hState
      cases hState
  | writable hState hFull =>
      rw [hWas] at hState
      cases hState
  | expired hState => cases hNow
  | gaveUp hState => exact absurd hNow hAbandon
  | closing hOpen =>
      rw [hWas] at hOpen
      cases hOpen
  | closed hState => cases hNow
  | reset => exact absurd hNow hAbandon
  | icmpError =>
      unfold Conn.receiveIcmpError at hNow
      dsimp only at hNow
      rw [if_neg (by rw [hWas]; decide)] at hNow
      exact absurd hNow hAbandon

/-- A dialled socket that has not heard from its peer: all it has queued and sent is its SYN. -/
structure Greeting (s : Conn) : Prop where
  state : s.state = .synSent ∨ 6 ≤ s.state.rank
  entry : entryOf s.trace.story = none
  packets : packetsOf s.traffic = [(stSyn, [])]
  wires : ∀ w flags, .sendto w flags ∈ s.traffic → w.header.type = stSyn
  unasked : .scheduleAck ∉ s.log
  fin : s.rcv.gotFin = false

namespace Greeting

variable {start : Nat}

theorem not_open (h : Greeting s) : s.state.open = false := by
  rcases h.state with hState | hRank
  · rw [hState]
    rfl
  · revert hRank
    cases s.state <;> decide

/-- Nothing happens that would matter to the peer. -/
theorem aside (h : Greeting s) (hState : s'.state = .synSent ∨ 6 ≤ s'.state.rank)
    (hEntry : entryOf s'.trace.story = none) (hTraffic : s'.traffic = s.traffic) (hAdds : Unasked s s')
    (hRecv : s'.recvView = s.recvView) : Greeting s' := by
  refine ⟨hState, hEntry, hTraffic ▸ h.packets, hTraffic ▸ h.wires, ?_, (congrArg RecvView.gotFin hRecv).trans h.fin⟩
  obtain ⟨events, hLog, hNone⟩ := hAdds
  rw [hLog, List.mem_append]
  rintro (hOld | hNew)
  · exact h.unasked hOld
  · exact hNone _ hNew rfl

theorem queueing (h : Greeting s) (hBooked : Booked start s) (hCore : Core s) (hQueue : Queueing env cause s s') :
    Greeting s' := by
  have hState : s'.state = s.state := congrArg Backdrop.state hQueue.backdrop
  have hAdds : Unasked s s' := hQueue.adds unasked_of_common
  have hRecv : s'.recvView = s.recvView := (Sending.queueing hQueue).recvView hCore.view.bounds.ackNr_lt
  have hEntry : entryOf s'.trace.story = none := by
    rcases hQueue.story with hSame | ⟨e, hKind, hMore⟩
    · rw [hSame]
      exact h.entry
    · rw [hMore, entryOf_append, h.entry]
      cases e <;> first | rfl | cases hKind
  have hAside : s'.traffic = s.traffic → Greeting s' :=
    fun hTraffic => h.aside (hState ▸ h.state) hEntry hTraffic hAdds hRecv
  have hDown := h.not_open
  cases hQueue with
  | append bytes hUp hFin hCount hLength =>
      rw [hUp] at hDown
      cases hDown
  | appendFin hUp hFin =>
      rw [hUp] at hDown
      cases hDown
  | fill pkt bytes hUp hFin hCount hGet hUnsent hLength =>
      rw [hUp] at hDown
      cases hDown
  | send v =>
      cases hGet : s.snd.outbuf.get v with
      | none =>
          rw [Conn.sendPacket_none env hGet]
          exact h
      | some pkt =>
          obtain ⟨w, flags, hWire, hTraffic⟩ := Conn.traffic_sendPacket env hGet
          obtain ⟨i, hAt, -⟩ := hCore.packetAt_put hGet
          obtain ⟨-, -, hPacket⟩ := hBooked.queued i pkt hAt
          have hSyn : pkt.header.type = stSyn := by
            rw [h.packets] at hPacket
            have hOnly := List.mem_of_getElem? hPacket
            rw [List.mem_singleton] at hOnly
            exact congrArg Prod.fst hOnly
          refine ⟨hState ▸ h.state, hEntry, ?_, fun w' flags' hSent => ?_, ?_,
            (congrArg RecvView.gotFin hRecv).trans h.fin⟩
          · rw [hTraffic, packetsOf_other _ rfl]
            exact h.packets
          · rw [hTraffic, List.mem_append, List.mem_singleton] at hSent
            rcases hSent with hOld | hNew
            · exact h.wires w' flags' hOld
            · rw [(Event.sendto.inj hNew).1, hWire.type, hSyn]
          · obtain ⟨events, hLog, hNone⟩ := hAdds
            rw [hLog, List.mem_append]
            rintro (hOld | hNew)
            · exact h.unasked hOld
            · exact hNone _ hNew rfl
  | acked _ r hCause hRun hFront => exact hAside (AckStep.traffic_run hRun)
  | sacked r mask bits hCause hMask hBits hSet hWindow hSent =>
      exact hAside (Conn.traffic_sacked env _ _ _ s)
  | lost i => exact hAside (Conn.traffic_of_trace (Conn.grows_losePacket i s) (Conn.trace_losePacket i s))
  | advance r =>
      unfold Conn.updateFastResend at hAside ⊢
      split_ifs at hAside ⊢ <;> exact hAside rfl
  | retried => exact hAside rfl
  | resent v => exact hAside rfl

/-- The state of the connection only changes for good. -/
theorem moving (h : Greeting s) (hMove : Moving cause s s') (hHeard : ∀ r, cause = .packet r → s.state ≠ .synSent) :
    Greeting s' := by
  have hTold : ∀ told, s'.trace.story = s.trace.story ++ told → entryOf told = none →
      entryOf s'.trace.story = none := by
    intro told hStory hNone
    rw [hStory, entryOf_append, h.entry, hNone]
    rfl
  have hAside : (s'.state = .synSent ∨ 6 ≤ s'.state.rank) → entryOf s'.trace.story = none → Greeting s' :=
    fun hState hEntry => h.aside hState hEntry hMove.traffic (hMove.adds unasked_of_common) hMove.recvView
  cases hMove.story with
  | none hTrace hState => exact hAside (hState ▸ h.state) (by rw [hTrace]; exact h.entry)
  | closing hTrace hState hClose =>
      exact hAside (hState ▸ h.state) (hTold [_] (by rw [hTrace]; rfl) rfl)
  | full hTrace hBefore hState =>
      have hDown := h.not_open
      rw [hBefore] at hDown
      cases hDown
  | closed hTrace hBefore hState =>
      exact hAside (Or.inr (by rw [hState]; decide)) (hTold [_] (by rw [hTrace]; rfl) rfl)
  | failed dst code hTrace hDst hState =>
      refine hAside (Or.inr ?_) (hTold [.moved s.state dst s.rcv.ackNr, .onError code]
        (by rw [hTrace]; exact List.append_assoc _ _ _) ?_)
      · rw [hState]
        rcases hDst with rfl | rfl <;> decide
      · rcases hDst with rfl | rfl <;> rfl
  | up e hTrace hBefore hState hEvent =>
      have hWas := h.state
      rcases hBefore with hBefore | hBefore | hBefore
      · obtain ⟨r, hCause⟩ := hMove.answered hBefore hState
        exact absurd hBefore (hHeard r hCause)
      · rw [hBefore] at hWas
        exact absurd hWas (by decide)
      · rw [hBefore] at hWas
        exact absurd hWas (by decide)

/-- Nothing can be delivered yet. -/
theorem drain_run {r : Received} (h : Greeting s) (hRun : Relation.ReflTransGen (DrainStep env r) s s') :
    s' = s := by
  induction hRun with
  | refl => rfl
  | tail _ hStep ih =>
      subst ih
      have hDown := h.not_open
      cases hStep with
      | inOrder hOpen hType hOffset hDone =>
          rw [hOpen] at hDown
          cases hDown
      | eof =>
          unfold Conn.reachEof
          simp [h.fin]
      | take p hOpen hCount hGet =>
          rw [hOpen] at hDown
          cases hDown

theorem quiet (h : Greeting s) (hCore : Core s) (hCalm : cause.calm) (hQuiet : Quiet env cause s s') : Greeting s' := by
  have hView := hQuiet.view hCore.view.bounds.ackNr_lt
  obtain ⟨hAdds, hTraffic⟩ := hQuiet.unasked hCalm h.not_open
  have hState : s'.state = s.state := congrArg View.state hView
  exact h.aside (hState ▸ h.state) (by rw [hQuiet.story]; exact h.entry) hTraffic hAdds (Conn.recvView_of_view hView)

/-- Nothing changes as long as the peer is not heard. -/
theorem trans (h : Greeting s) (hBooked : Booked start s) (hCore : Core s) (hLive : s.Live) (hCalm : cause.calm)
    (hHeard : ∀ r, cause = .packet r → s.state ≠ .synSent) (hTrans : Trans env cause s s') : Greeting s' := by
  have hDown := h.not_open
  cases hTrans with
  | setup hSetup =>
      cases hSetup with
      | initialise addr connSeed connIdRecv connIdSend hNew => exact absurd hNew hLive
      | dial hState hCount hPointer => exact absurd hState hBooked.state
      | accept d hCause hState hCount => exact absurd hState hBooked.state
  | sending hSend =>
      cases hSend with
      | quiet hQuiet => exact h.quiet hCore hCalm hQuiet
      | queueing hQueue => exact h.queueing hBooked hCore hQueue
      | moving hMove => exact h.moving hMove hHeard
  | receiving hReceive =>
      cases hReceive with
      | synAcked r hCause hState => exact absurd hState (hHeard r hCause)
      | fin r hCause hOpen =>
          rw [hOpen] at hDown
          cases hDown
      | drained _ r hCause hRun hDone =>
          rw [h.drain_run hRun]
          exact h
      | outOfOrder r hCause hOpen hType hOffset =>
          rw [hOpen] at hDown
          cases hDown

end Greeting

end Utp
