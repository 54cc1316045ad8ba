import Utp.Transition.Search

/-! The receive window that a socket offers to its peer: what it remembers of it, and the
part of the record that is about packets being filled and sent. -/
namespace Utp

open Wrapping

/-- The events that matter to the receive window that the peer is told. -/
def Event.isOffer : Event → Bool
  | .sendto _ _ | .queued _ _ _ | .extended _ | .window _ => true
  | _ => false

/-- The window that the socket remembers, and the record of what was filled and sent. -/
@[ext] structure Offer where
  lastRcvWin : Nat
  notes : List Event

namespace Offer

def note (e : Event) (x : Offer) : Offer := { x with notes := x.notes ++ [e] }

/-- The window is looked at and remembered. -/
def refresh (window : Nat) (x : Offer) : Offer := ⟨window, x.notes ++ [.window window]⟩

end Offer

/-- An ack that states the receive window of the moment. -/
inductive AckOffer : Offer → Offer → Prop where
  | ack (x : Offer) (window : Nat) (w : Wire) (hType : w.header.type = stState)
      (hSize : w.header.windowsize = u32 window) : AckOffer x ((x.refresh window).note (.sendto w 0))

abbrev AckOffers : Offer → Offer → Prop := Relation.ReflTransGen AckOffer

namespace Conn

variable (env : Env)

def offer (s : Conn) : Offer := ⟨s.lastRcvWin, s.log.filter Event.isOffer⟩

/-- The offer is made of the window that was last advertised and of the events about it and the queue.
Other events do not change it. -/
theorem offer_emit {e : Event} (s : Conn) (hOther : e.isOffer = false) :
    (s.emit e).offer = s.offer := by
  simp [offer, emit, hOther]

/-- An event about the window or the queue is a note of the offer. -/
theorem offer_note {e : Event} (s : Conn) (hOffer : e.isOffer = true) :
    (s.emit e).offer = s.offer.note e := by
  simp [offer, Offer.note, emit, hOffer]

/-- No assertion is about the offer. -/
theorem offer_check (line : Nat) (ok : Bool) (s : Conn) : (s.check line ok).offer = s.offer := by
  cases ok with
  | true => rfl
  | false => exact offer_emit s rfl

/-- A move of the state is no event of the queue. -/
theorem offer_setState (state : ConnState) (s : Conn) : (s.setState state).offer = s.offer :=
  offer_emit (e := .moved s.state state s.rcv.ackNr) s rfl

/-- Neither is the search. -/
theorem offer_mtuSearchUpdate (s : Conn) : (s.mtuSearchUpdate env).offer = s.offer :=
  (offer_check _ _ _).trans (offer_check _ _ _)

theorem offer_mtuReset (s : Conn) : (s.mtuReset env).offer = s.offer :=
  (offer_emit _ rfl).trans (offer_check _ _ _)

theorem offer_probeLost (s : Conn) : (s.probeLost env).offer = s.offer :=
  (offer_emit _ rfl).trans (offer_mtuSearchUpdate env _)

theorem offer_probePassed (s : Conn) : (s.probePassed env).offer = s.offer :=
  (offer_emit _ rfl).trans (offer_mtuSearchUpdate env _)

/-- An ICMP message offers nothing. -/
theorem offer_receiveIcmpFragmentation (nextHopMtu : Nat) (s : Conn) :
    (s.receiveIcmpFragmentation env nextHopMtu).offer = s.offer := by
  refine (offer_emit _ rfl).trans ?_
  split_ifs
  · exact offer_mtuSearchUpdate env _
  · exact offer_mtuSearchUpdate env _

/-- The assertion of the timer is not recorded as an offer. -/
theorem offer_startTimer (s : Conn) : s.startTimer.offer = s.offer := by
  unfold startTimer
  split_ifs
  · exact offer_check _ _ _
  · rfl

/-- The window at the time of sending goes on record. -/
theorem offer_noteWindow (s : Conn) :
    (s.noteWindow env).offer = s.offer.note (.window (s.getRcvWindow env)) :=
  offer_note s rfl

/-- The window is computed anew, and becomes the one that was last advertised. -/
theorem offer_updateRcvWin (s : Conn) :
    (s.updateRcvWin env).offer = s.offer.refresh (s.getRcvWindow env) := by
  simp [offer, Offer.refresh, updateRcvWin, noteWindow, emit, called, Event.isOffer]

/-- Every packet that is sent is a note, with the window that its header carries. -/
theorem offer_sendData (header : PacketFormatV1) (tail : List UInt8) (flags : Nat) (s : Conn) :
    (s.sendData env header tail flags).offer = s.offer.note (.sendto ⟨s.stamp env header, tail⟩ flags) := by
  simp [offer, Offer.note, sendData, called, Event.isOffer]

/-- An ack states the window that is remembered for it. -/
theorem offer_sendAck (synack : Bool) (s : Conn) : ∃ w : Wire, w.header.type = stState ∧
    w.header.windowsize = u32 (s.getRcvWindow env) ∧
    (s.sendAck env synack).offer = (s.offer.refresh (s.getRcvWindow env)).note (.sendto w 0) := by
  have hChecked : ∀ ok ok', (((s.updateRcvWin env).check 802 ok).check 811 ok').offer =
      s.offer.refresh (s.getRcvWindow env) := fun ok ok' =>
    (offer_check _ _ _).trans ((offer_check _ _ _).trans (offer_updateRcvWin env s))
  unfold sendAck
  dsimp only
  split_ifs
  · have hLast : ∀ ok ok', (((s.updateRcvWin env).check 802 ok).check 811 ok').lastRcvWin =
        s.getRcvWindow env := fun ok ok' => congrArg Offer.lastRcvWin (hChecked ok ok')
    unfold sendEack
    dsimp only
    refine ⟨_, ?_, ?_, (offer_sendData env _ _ 0 _).trans (congrArg (Offer.note _) (hChecked _ _))⟩
    · rfl
    · exact congrArg (fun n : Nat => u32 n) (hLast _ _)
  · exact ⟨_, rfl, rfl, (offer_sendData env _ _ 0 _).trans
      (congrArg (Offer.note _) (offer_updateRcvWin env s))⟩

/-- The choice of a probe is not about the offer. -/
theorem offer_beforeTransmit (pkt : OutgoingPacket) (s : Conn) :
    (s.beforeTransmit env pkt).offer = s.offer := by
  have hCharged : (s.chargeWindow pkt).called.called.offer = s.offer := by
    unfold chargeWindow
    split_ifs <;> rfl
  have hProbe : ∀ t : Conn, (t.startProbe pkt).offer = t.offer := fun t =>
    (offer_emit _ rfl).trans ((offer_check _ _ _).trans (offer_check _ _ _))
  unfold beforeTransmit
  dsimp only
  split_ifs
  · rw [hProbe, offer_mtuReset, hCharged]
  · rw [offer_mtuReset, hCharged]
  · rw [hProbe, hCharged]
  · exact hCharged

/-- A queued packet states what its header says; the window is not remembered for it. -/
theorem offer_sendPacket {v : Int} {pkt : OutgoingPacket} {s : Conn}
    (hGet : s.snd.outbuf.get v = some pkt) : ∃ (window : Nat) (w : Wire),
      w.header.type = pkt.header.type ∧ w.header.seqNr = pkt.header.seqNr ∧
      w.header.windowsize = pkt.header.windowsize ∧ w.tail = pkt.body.take (pkt.length - 20) ∧
      (s.sendPacket env v).offer =
        (s.offer.note (.window window)).note (.sendto w (s.transmitFlags env pkt)) := by
  rw [sendPacket_some env hGet]
  have hSent : ∀ (t : Conn) timeSent flags, ∃ (window : Nat) (w : Wire),
      w.header.type = pkt.header.type ∧ w.header.seqNr = pkt.header.seqNr ∧
      w.header.windowsize = pkt.header.windowsize ∧ w.tail = pkt.body.take (pkt.length - 20) ∧
      (t.transmit env v pkt timeSent flags).offer =
        (t.offer.note (.window window)).note (.sendto w flags) := by
    intro t timeSent flags
    refine ⟨t.getRcvWindow env, _, ?_, ?_, ?_, ?_, (offer_sendData env _ _ flags _).trans
      (congrArg (Offer.note _) (offer_noteWindow env t))⟩
    · rfl
    · rfl
    · rfl
    · rfl
  obtain ⟨window, w, hType, hSeq, hSize, hTail, hOffer⟩ := hSent (s.beforeTransmit env pkt) _ _
  rw [offer_beforeTransmit] at hOffer
  exact ⟨window, w, hType, hSeq, hSize, hTail, hOffer⟩

/-- A packet that is queued is an event of the queue. -/
theorem offer_enqueue (pkt : OutgoingPacket) (s : Conn) :
    (s.enqueue pkt).offer = s.offer.note (.queued s.snd.seqNr pkt.header.type pkt.body) := by
  simp [offer, Offer.note, enqueue, emit, Event.isOffer]

/-- A packet is filled with the window of this moment, and is noted with it. What a later transmission of
it carries is this window, not that of the later moment. -/
theorem offer_appendPacket (flags : Nat) (bytes : List UInt8) (s : Conn) : ∃ window,
    (s.appendPacket env flags bytes).offer =
      (s.offer.refresh window).note (.queued s.snd.seqNr flags bytes) := by
  have hSeq : ((s.check 1049 (bytes.isEmpty || flags == stData)).updateRcvWin env).snd.seqNr =
      s.snd.seqNr := congrArg View.seqNr (view_check 1049 (bytes.isEmpty || flags == stData) s)
  unfold appendPacket
  dsimp only
  rw [offer_enqueue, offer_updateRcvWin, offer_check, hSeq]
  exact ⟨_, rfl⟩

/-- A packet that is extended takes over the window of the moment, too. -/
theorem offer_fillPacket (flags : Nat) (pkt : OutgoingPacket) (bytes : List UInt8) (s : Conn) :
    ∃ window, (s.fillPacket env flags pkt bytes).offer =
      (s.offer.refresh window).note (.extended bytes) := by
  have hPut : ∀ (v : Int) (new : Option OutgoingPacket) (t : Conn), (t.putPacket v new).offer = t.offer :=
    fun _ _ _ => rfl
  unfold fillPacket
  dsimp only
  rw [offer_note _ rfl, hPut, offer_updateRcvWin, offer_check, offer_check]
  exact ⟨_, rfl⟩

/-- That it is acked is none. -/
theorem offer_ackPacket (seq : Int) (s : Conn) : (s.ackPacket env seq).2.offer = s.offer := by
  cases hGet : s.snd.outbuf.get (u16 seq) with
  | none => rw [ackPacket_none env hGet]
  | some pkt =>
      have hSample : ((s.putPacket (u16 seq) none).sampleRtt env pkt).restartTimer.offer = s.offer := by
        unfold sampleRtt
        split_ifs <;> rfl
      rw [ackPacket_some env hGet]
      split_ifs
      · rfl
      · refine Eq.trans ?_ hSample
        change (dischargeWindow pkt _).offer = _
        unfold dischargeWindow
        split_ifs
        · rfl
        · exact offer_check _ _ _

/-- That it is lost is none. -/
theorem offer_losePacket (i : Nat) (s : Conn) : (s.losePacket i).offer = s.offer := by
  rcases losePacket_cases i s with hKept | ⟨pkt, -, -, -, hLost⟩
  · rw [hKept]
  · rw [hLost]
    exact offer_check _ _ _

/-- What is received is none. -/
theorem offer_deliver (body : List UInt8) (s : Conn) : (s.deliver body).offer = s.offer := by
  unfold deliver
  dsimp only
  split_ifs
  · exact (offer_emit _ rfl).trans (offer_emit s rfl)
  · exact offer_emit s rfl

/-- The window is measured anew when the connection starts. -/
theorem offer_startConnect (s : Conn) : ∃ window,
    (s.startConnect env).offer = s.offer.refresh window := by
  refine ⟨_, (offer_updateRcvWin env _).trans (congrArg (Offer.refresh _) ?_)⟩
  exact offer_setState .synSent s

theorem offer_initializeSocket (addr : PackedSockAddr) (connSeed connIdRecv connIdSend : Nat)
    (s : Conn) : (s.initializeSocket env addr connSeed connIdRecv connIdSend).offer = s.offer :=
  (offer_mtuReset env _).trans (offer_setState .idle s)

end Conn

variable {env : Env} {cause : Cause} {s s' : Conn}

/-- Bookkeeping offers a window only with an ack. -/
theorem Quiet.offer (h : Quiet env cause s s') : AckOffers s.offer s'.offer := by
  have hSame : s'.offer = s.offer → AckOffers s.offer s'.offer := by
    intro hEq
    rw [hEq]
  have hAck : ∀ (t : Conn) synack, AckOffers t.offer (t.sendAck env synack).offer := by
    intro t synack
    obtain ⟨w, hType, hSize, hOffer⟩ := Conn.offer_sendAck env synack t
    rw [hOffer]
    exact .single (.ack _ _ w hType hSize)
  cases h with
  | check line ok hLine => exact hSame (Conn.offer_check line ok s)
  | read off count => exact hSame (Conn.offer_emit s rfl)
  | readMask mask index extLen => exact hSame (Conn.offer_emit s rfl)
  | onAccept => exact hSame (Conn.offer_emit s rfl)
  | scheduleAck hCause => exact hSame (Conn.offer_emit s rfl)
  | setsockopt opt val => cases opt <;> exact hSame rfl
  | probeLost hProbe => exact hSame (Conn.offer_probeLost env s)
  | probePassed hProbe => exact hSame (Conn.offer_probePassed env s)
  | fragmentation nextHopMtu => exact hSame (Conn.offer_receiveIcmpFragmentation env nextHopMtu s)
  | startTimer => exact hSame (Conn.offer_startTimer s)
  | ack hCause => exact hAck s false
  | synAck d hCause hEmpty => exact hAck s true
  | keepAlive hOpen hFin => exact hAck (s.setAckNr (u16 (s.rcv.ackNr - 1))) false
  | _ => exact hSame rfl

/-- Packets that leave the queue are no notes, by induction on the run. -/
theorem AckStep.offer_run {header : PacketFormatV1}
    (h : Relation.ReflTransGen (AckStep env header) s s') : s'.offer = s.offer := by
  induction h with
  | refl => rfl
  | tail _ hStep ih =>
      refine Eq.trans ?_ ih
      cases hStep with
      | acked hCount hAcked hSent => exact Conn.offer_ackPacket env _ _
      | dropped hCount hNone => rfl

/-- So the moves of the state offer nothing. -/
theorem Moving.offer (h : Moving cause s s') : s'.offer = s.offer := by
  cases h with
  | established r hCause hType hState =>
      refine (Conn.offer_emit _ ?_).trans (Conn.offer_setState _ s)
      split_ifs <;> rfl
  | admitted r hCause hType hState => exact (Conn.offer_emit _ rfl).trans (Conn.offer_setState _ s)
  | finAcked r hCause hFin hAcks =>
      split_ifs
      · exact Conn.offer_setState .destroy { s with finSentAcked := true }
      · rfl
  | full hState hFull =>
      unfold Conn.markFull Conn.noteFull
      rw [if_pos hFull, if_pos hFull]
      exact Conn.offer_setState .connectedFull _
  | writable hState hFull => exact (Conn.offer_emit _ rfl).trans (Conn.offer_setState _ s)
  | expired hState => exact (Conn.offer_emit _ rfl).trans (Conn.offer_setState _ s)
  | gaveUp hState => exact (Conn.offer_emit _ rfl).trans (Conn.offer_setState _ s)
  | closing hOpen => exact Conn.offer_emit _ rfl
  | closed hState => exact Conn.offer_setState _ s
  | reset => exact (Conn.offer_emit _ rfl).trans (Conn.offer_setState _ s)
  | icmpError =>
      have hTorn : ∀ code, (s.abandon.emit (.onError code)).offer = s.offer := fun _ =>
        (Conn.offer_emit _ rfl).trans (Conn.offer_setState _ s)
      unfold Conn.receiveIcmpError
      dsimp only
      split_ifs
      · rfl
      · exact hTorn _
      · exact hTorn _

/-- At the end of the stream an ack is sent. -/
theorem DrainStep.offer {r : Received} (h : DrainStep env r s s') : AckOffers s.offer s'.offer := by
  cases h with
  | inOrder hOpen hType hOffset hDone =>
      rw [Conn.offer_deliver, Conn.offer_emit s rfl]
  | eof =>
      unfold Conn.reachEof
      split_ifs
      · obtain ⟨w, hType, hSize, hOffer⟩ := Conn.offer_sendAck env false
          ({ s with
            rcv.gotFinReached := true
            rtt.rtoTimeout := u64 (s.currentMs + (min (u32 (s.rtt.rto * 3)) 60 : Nat)) }.emit
              (.onStateChange .eof))
        rw [Conn.offer_emit _ rfl] at hOffer
        change AckOffers _ (Conn.sendAck env false _).offer
        rw [hOffer]
        exact .single (.ack _ _ w hType hSize)
      · exact .refl
  | take p hOpen hCount hGet =>
      have hTaken : (s.takeReordered p).offer = s.offer :=
        (Conn.offer_check _ _ _).trans (Conn.offer_deliver p.body s.clearNext)
      rw [hTaken]

/-- By induction on the packets that are delivered: an ack is sent at most at the end of the stream. -/
theorem DrainStep.offer_run {r : Received} (h : Relation.ReflTransGen (DrainStep env r) s s') :
    AckOffers s.offer s'.offer := by
  induction h with
  | refl => exact .refl
  | tail _ hStep ih => exact ih.trans hStep.offer

/-- Storing an early packet offers nothing. -/
theorem Conn.offer_receiveOutOfOrder (seqNr offset : Nat) (body : List UInt8) (s : Conn) :
    (s.receiveOutOfOrder seqNr offset body).offer = s.offer := by
  have hTold : ((s.growInbuf seqNr offset).emit (.accepted seqNr offset body)).offer = s.offer :=
    offer_emit (s.growInbuf seqNr offset) rfl
  have hStored : ∀ t : Conn, (t.storeReordered seqNr body).offer = t.offer := fun t =>
    (offer_emit _ rfl).trans ((offer_check _ _ _).trans (offer_check _ _ t))
  unfold receiveOutOfOrder
  dsimp only
  split_ifs
  · rfl
  · rfl
  · exact hTold
  · exact (hStored _).trans hTold

/-- Receiving offers a window only with the ack of the end of the stream. -/
theorem Receiving.offer (h : Receiving env cause s s') : AckOffers s.offer s'.offer := by
  cases h with
  | synAcked r hCause hState => exact .refl
  | fin r hCause hOpen =>
      unfold Conn.noteFin
      split_ifs <;> exact .refl
  | drained _ r hCause hRun hDone => exact DrainStep.offer_run hRun
  | outOfOrder r hCause hOpen hType hOffset => rw [Conn.offer_receiveOutOfOrder]

end Utp
