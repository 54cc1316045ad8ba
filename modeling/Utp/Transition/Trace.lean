import Utp.Invariant.Core

/-! The record of a socket, split into its story, the packets it has sent and its MTU
search. The story leaves out what does not matter to the stream: reads of the received
buffer, failed assertions, selective acks and requests for an ack. -/
namespace Utp

open Wrapping

namespace Event

def isMajor : Event → Bool
  | .sendto _ _ | .onAccept | .scheduleAck | .assertFailed _ | .readBytes _ _ | .readMask _ _ _ => false
  | .mtu _ _ _ | .sacked _ _ | .window _ => false
  | _ => true

def wire? : Event → Option Wire
  | .sendto packet _ => some packet
  | _ => none

/-- The steps of the MTU search and the failures of its assertions. -/
def isSearch : Event → Bool
  | .mtu _ _ _ => true
  | .assertFailed line => line ∈ mtuLines
  | _ => false

end Event

/-- The story of a socket, the packets it has handed to `sendto`, and its MTU search. -/
@[ext] structure Trace where
  story : List Event
  wires : List Wire
  search : List Event

def traceOf (log : List Event) : Trace where
  story := log.filter Event.isMajor
  wires := log.filterMap Event.wire?
  search := log.filter Event.isSearch

/-- An event of the story. -/
def Trace.tell (e : Event) (t : Trace) : Trace := { t with story := t.story ++ [e] }

def Trace.send (w : Wire) (t : Trace) : Trace := { t with wires := t.wires ++ [w] }

def Trace.seek (events : List Event) (t : Trace) : Trace := { t with search := t.search ++ events }

/-- Nothing but the MTU search has gone on. -/
def Trace.Seeks (t t' : Trace) : Prop := ∃ events, t' = t.seek events

namespace Trace.Seeks

variable {t t' t'' : Trace}

theorem refl (t : Trace) : t.Seeks t := ⟨[], by simp [Trace.seek]⟩

theorem trans (hFirst : t.Seeks t') (hSecond : t'.Seeks t'') : t.Seeks t'' := by
  obtain ⟨first, rfl⟩ := hFirst
  obtain ⟨second, rfl⟩ := hSecond
  exact ⟨first ++ second, by simp [Trace.seek]⟩

/-- The steps of the search are kept apart from the story, so a function that only seeks has told nothing.
-/
theorem story (h : t.Seeks t') : t'.story = t.story := by
  obtain ⟨events, rfl⟩ := h
  rfl

end Trace.Seeks

/-- An event of no kind that is kept is forgotten. -/
theorem traceOf_minor {e : Event} (log : List Event) (hMinor : e.isMajor = false)
    (hWire : e.wire? = none) (hSearch : e.isSearch = false) : traceOf (log ++ [e]) = traceOf log := by
  simp [traceOf, hMinor, hWire, hSearch]

/-- An event that the program or the peer can notice, or that moves data, is added to the story. -/
theorem traceOf_major {e : Event} (log : List Event) (hMajor : e.isMajor = true)
    (hWire : e.wire? = none) (hSearch : e.isSearch = false) :
    traceOf (log ++ [e]) = (traceOf log).tell e := by
  simp [traceOf, Trace.tell, hMajor, hWire, hSearch]

/-- A packet that is sent is added to the wires, in the order of sending. Its flags do not matter here. -/
theorem traceOf_sendto (log : List Event) (w : Wire) (flags : Nat) :
    traceOf (log ++ [.sendto w flags]) = (traceOf log).send w := by
  simp [traceOf, Trace.send, Event.isMajor, Event.wire?, Event.isSearch]

/-- A step of the search is added to its own part of the record. -/
theorem traceOf_search {e : Event} (log : List Event) (hMinor : e.isMajor = false)
    (hWire : e.wire? = none) (hSearch : e.isSearch = true) :
    traceOf (log ++ [e]) = (traceOf log).seek [e] := by
  simp [traceOf, Trace.seek, hMinor, hWire, hSearch]

namespace Conn

variable (env : Env)

def trace (s : Conn) : Trace := traceOf s.log

theorem trace_minor {e : Event} (s : Conn) (hMinor : e.isMajor = false) (hWire : e.wire? = none)
    (hSearch : e.isSearch = false) : (s.emit e).trace = s.trace :=
  traceOf_minor s.log hMinor hWire hSearch

theorem trace_major {e : Event} (s : Conn) (hMajor : e.isMajor = true) (hWire : e.wire? = none)
    (hSearch : e.isSearch = false) : (s.emit e).trace = s.trace.tell e :=
  traceOf_major s.log hMajor hWire hSearch

/-- Of the failed assertions only those about the range of the search are kept, since its invariant is the
one that needs them. -/
theorem trace_check {line : Nat} (hLine : line ∉ mtuLines) (ok : Bool) (s : Conn) :
    (s.check line ok).trace = s.trace := by
  cases ok with
  | true => rfl
  | false => exact trace_minor s rfl rfl (decide_eq_false hLine)

/-- Either way, an assertion tells nothing. -/
theorem seeks_check (line : Nat) (ok : Bool) (s : Conn) : s.trace.Seeks (s.check line ok).trace := by
  by_cases hLine : line ∈ mtuLines
  · cases ok with
    | true => exact .refl _
    | false => exact ⟨[.assertFailed line], traceOf_search s.log rfl rfl (decide_eq_true hLine)⟩
  · rw [trace_check hLine]
    exact .refl _

theorem seeks_noteMtu (step : MtuStep) (before : MtuState) (s : Conn) :
    s.trace.Seeks (s.noteMtu step before).trace :=
  ⟨[.mtu step before s.mtu], traceOf_search s.log rfl rfl rfl⟩

/-- Every change of the state is told, with the `ack_nr` at that moment. -/
theorem trace_setState (state : ConnState) (s : Conn) :
    (s.setState state).trace = s.trace.tell (.moved s.state state s.rcv.ackNr) :=
  trace_major s rfl rfl rfl

/-- The packet goes out with the header that `stamp` has completed. -/
theorem trace_sendData (header : PacketFormatV1) (tail : List UInt8) (flags : Nat) (s : Conn) :
    (s.sendData env header tail flags).trace = s.trace.send ⟨s.stamp env header, tail⟩ :=
  traceOf_sendto s.log _ flags

theorem seeks_mtuSearchUpdate (s : Conn) : s.trace.Seeks (s.mtuSearchUpdate env).trace := by
  refine Trace.Seeks.trans ?_ (seeks_check _ _ _)
  exact seeks_check _ _ _

/-- A verdict on a probe is a step of the search, and nothing else of the record. -/
theorem seeks_probeLost (s : Conn) : s.trace.Seeks (s.probeLost env).trace := by
  refine Trace.Seeks.trans ?_ (seeks_noteMtu _ _ _)
  exact seeks_mtuSearchUpdate env _

theorem seeks_probePassed (s : Conn) : s.trace.Seeks (s.probePassed env).trace := by
  refine Trace.Seeks.trans ?_ (seeks_noteMtu _ _ _)
  exact seeks_mtuSearchUpdate env _

/-- So is the message of a router, plausible or not. -/
theorem seeks_receiveIcmpFragmentation (nextHopMtu : Nat) (s : Conn) :
    s.trace.Seeks (s.receiveIcmpFragmentation env nextHopMtu).trace := by
  refine Trace.Seeks.trans ?_ (seeks_noteMtu _ _ _)
  split
  · exact seeks_mtuSearchUpdate env _
  · exact seeks_mtuSearchUpdate env _

theorem seeks_mtuReset (s : Conn) : s.trace.Seeks (s.mtuReset env).trace := by
  refine Trace.Seeks.trans ?_ (seeks_noteMtu _ _ _)
  exact seeks_check _ _ _

/-- The assertion that the window is empty is none that is kept. -/
theorem trace_startTimer (s : Conn) : s.startTimer.trace = s.trace := by
  unfold startTimer
  split_ifs
  · exact trace_check (by decide) _ _
  · rfl

/-- The packet with which the socket `s` acks what it has received. -/
structure AckWire (s : Conn) (w : Wire) : Prop where
  type : w.header.type = stState
  version : w.header.version = 1
  connid : w.header.connid = u16 s.connIdSend
  seqNr : w.header.seqNr = s.snd.seqNr
  ackNr : w.header.ackNr = s.rcv.ackNr
  selective : (w.header.ext = 1 ∧ w.tail = eackTail s.eackMask ∧ s.rcv.gotFinReached = false) ∨
    (w.header.ext = 0 ∧ w.tail = [])

theorem trace_noteWindow (s : Conn) : (s.noteWindow env).trace = s.trace := trace_minor s rfl rfl rfl

/-- The window is noted for the claims about what was advertised, and is not part of this record. -/
theorem trace_updateRcvWin (s : Conn) : (s.updateRcvWin env).trace = s.trace := trace_noteWindow env s

theorem trace_startConnect (s : Conn) : (s.startConnect env).trace =
    s.trace.tell (.moved s.state .synSent s.rcv.ackNr) :=
  (trace_updateRcvWin env _).trans (trace_setState .synSent s)

/-- One ack and nothing else, with a mask or without. What it says about the receiving side is in
`AckWire`. -/
theorem trace_sendAck (synack : Bool) (s : Conn) :
    ∃ w, s.AckWire w ∧ (s.sendAck env synack).trace = s.trace.send w := by
  unfold sendAck
  dsimp only
  split_ifs with hSelective
  · have hFin : s.rcv.gotFinReached = false := 
      (Bool.not_eq_true' _).mp (Bool.and_eq_true_iff.1 hSelective).2
    have hChecks : ∀ ok ok', (((s.updateRcvWin env).check 802 ok).check 811 ok').trace = s.trace :=
      fun ok ok' => (trace_check (by decide) _ _).trans
        ((trace_check (by decide) _ (s.updateRcvWin env)).trans (trace_updateRcvWin env s))
    have hParts : ∀ ok ok', (((s.updateRcvWin env).check 802 ok).check 811 ok').ackHeader =
          (s.updateRcvWin env).ackHeader ∧
        (((s.updateRcvWin env).check 802 ok).check 811 ok').eackMask = s.eackMask := by
      intro ok ok'
      cases ok <;> cases ok' <;> exact ⟨rfl, rfl⟩
    unfold sendEack
    dsimp only
    generalize (!synack) = ok
    generalize (((s.updateRcvWin env).check 802 ok).rcv.inbuf.get
      (((s.updateRcvWin env).check 802 ok).rcv.ackNr + 1)).isNone = ok'
    obtain ⟨hHeader, hMask⟩ := hParts ok ok'
    refine ⟨_, ?_, (trace_sendData env _ _ 0 _).trans (congrArg (Trace.send _) (hChecks ok ok'))⟩
    rw [hHeader, hMask]
    exact ⟨rfl, rfl, rfl, rfl, rfl, Or.inl ⟨rfl, rfl, hFin⟩⟩
  · exact ⟨_, ⟨rfl, rfl, rfl, rfl, rfl, Or.inr ⟨rfl, rfl⟩⟩,
      (trace_sendData env _ _ 0 _).trans (congrArg (Trace.send _) (trace_updateRcvWin env s))⟩

/-- A keepalive is an ack that is sent with `ack_nr` lowered by one. That is also what its wire says, so
the peer sees an old number. -/
theorem trace_sendKeepAlive (s : Conn) : ∃ w, (s.setAckNr (u16 (s.rcv.ackNr - 1))).AckWire w ∧
    (s.sendKeepAlive env).trace = s.trace.send w :=
  trace_sendAck env false (s.setAckNr (u16 (s.rcv.ackNr - 1)))

theorem seeks_startProbe (pkt : OutgoingPacket) (s : Conn) :
    s.trace.Seeks (s.startProbe pkt).trace := by
  refine Trace.Seeks.trans ?_ (seeks_noteMtu _ _ _)
  refine Trace.Seeks.trans ?_ (seeks_check _ _ _)
  exact seeks_check _ _ _

theorem trace_chargeWindow (pkt : OutgoingPacket) (s : Conn) :
    (s.chargeWindow pkt).trace = s.trace := by
  unfold chargeWindow
  split_ifs <;> rfl

/-- The reset of the search and the choice of a probe come before the packet in the record. -/
theorem seeks_beforeTransmit (pkt : OutgoingPacket) (s : Conn) :
    s.trace.Seeks (s.beforeTransmit env pkt).trace := by
  have hCharged : s.trace.Seeks (s.chargeWindow pkt).called.called.trace := by
    have hSame : (s.chargeWindow pkt).called.called.trace = s.trace := trace_chargeWindow pkt s
    rw [hSame]
    exact .refl _
  unfold beforeTransmit
  dsimp only
  split_ifs
  · exact (hCharged.trans (seeks_mtuReset env _)).trans (seeks_startProbe _ _)
  · exact hCharged.trans (seeks_mtuReset env _)
  · exact hCharged.trans (seeks_startProbe _ _)
  · exact hCharged

/-- What goes on the wire when the packet `pkt` of the queue is sent. -/
structure DataWire (s : Conn) (pkt : OutgoingPacket) (w : Wire) : Prop where
  type : w.header.type = pkt.header.type
  version : w.header.version = pkt.header.version
  ext : w.header.ext = pkt.header.ext
  connid : w.header.connid = pkt.header.connid
  seqNr : w.header.seqNr = pkt.header.seqNr
  ackNr : w.header.ackNr = s.rcv.ackNr
  tail : w.tail = pkt.body.take (pkt.length - 20)

/-- A packet of the queue goes out as it is stored, but for the fields that are stamped; and if it is a
probe, the record says so first. -/
theorem trace_sendPacket {v : Int} {pkt : OutgoingPacket} {s : Conn}
    (h : s.snd.outbuf.get v = some pkt) :
    ∃ w events, s.DataWire pkt w ∧ (s.sendPacket env v).trace = (s.trace.seek events).send w := by
  obtain ⟨events, hSeek⟩ := seeks_beforeTransmit env pkt s
  rw [sendPacket_some env h]
  have hAck : (s.beforeTransmit env pkt).rcv.ackNr = s.rcv.ackNr :=
    congrArg (fun b : Backdrop => b.rcv.ackNr) (backdrop_beforeTransmit env pkt s)
  have hNoted := (trace_noteWindow env (s.beforeTransmit env pkt)).trans hSeek
  refine ⟨_, events, ?_, (trace_sendData env _ _ _ _).trans (congrArg (Trace.send _) hNoted)⟩
  exact ⟨rfl, rfl, rfl, rfl, rfl, hAck, rfl⟩

/-- Acking a packet is not recorded here; it leaves the queue, or does not. -/
theorem trace_ackPacket (seq : Int) (s : Conn) : (s.ackPacket env seq).2.trace = s.trace := by
  cases hGet : s.snd.outbuf.get (u16 seq) with
  | none => rw [ackPacket_none env hGet]
  | some pkt =>
      rw [ackPacket_some env hGet]
      split_ifs
      · rfl
      · have hSample : ((s.putPacket (u16 seq) none).sampleRtt env pkt).restartTimer.trace = s.trace :=
          congrArg traceOf (log_sampleRtt env pkt (s.putPacket (u16 seq) none))
        refine Eq.trans ?_ hSample
        change (dischargeWindow pkt _).trace = _
        unfold dischargeWindow
        split_ifs
        · rfl
        · exact trace_check (by decide) _ _

theorem trace_losePacket (i : Nat) (s : Conn) : (s.losePacket i).trace = s.trace := by
  rcases losePacket_cases i s with hSame | ⟨pkt, -, -, -, hLost⟩
  · rw [hSame]
  · rw [hLost]
    exact trace_check (by decide) _ _

/-- What is queued is told with its number, type and bytes, from which the stream is read off. -/
theorem trace_enqueue (pkt : OutgoingPacket) (s : Conn) :
    (s.enqueue pkt).trace = s.trace.tell (.queued s.snd.seqNr pkt.header.type pkt.body) :=
  trace_major _ rfl rfl rfl

/-- A new packet, told once. -/
theorem trace_appendPacket (flags : Nat) (bytes : List UInt8) (s : Conn) :
    (s.appendPacket env flags bytes).trace = s.trace.tell (.queued s.snd.seqNr flags bytes) := by
  unfold appendPacket
  have hSeq : ((s.check 1049 (bytes.isEmpty || flags == stData)).updateRcvWin env).snd.seqNr =
      s.snd.seqNr := congrArg View.seqNr (view_check _ _ s)
  have hTrace : ((s.check 1049 (bytes.isEmpty || flags == stData)).updateRcvWin env).trace =
      s.trace := (trace_updateRcvWin env _).trans (trace_check (by decide) _ s)
  rw [trace_enqueue, hSeq, hTrace]
  rfl

/-- Bytes that are added to the newest packet are told as an extension of it. -/
theorem trace_fillPacket (flags : Nat) (pkt : OutgoingPacket) (bytes : List UInt8) (s : Conn) :
    (s.fillPacket env flags pkt bytes).trace = s.trace.tell (.extended bytes) := by
  refine (trace_major _ rfl rfl rfl).trans (congrArg (Trace.tell _) ?_)
  refine (trace_updateRcvWin env _).trans ?_
  exact (trace_check (by decide) _ _).trans (trace_check (by decide) _ s)

theorem story_initializeSocket (addr : PackedSockAddr) (connSeed connIdRecv connIdSend : Nat)
    (s : Conn) : (s.initializeSocket env addr connSeed connIdRecv connIdSend).trace.story =
      s.trace.story ++ [.moved s.state .idle s.rcv.ackNr] :=
  (seeks_mtuReset env _).story.trans (congrArg Trace.story (trace_setState .idle s))

/-- What delivering the payload of one packet adds to the story. -/
def deliveryStory (body : List UInt8) (s : Conn) : List Event :=
  .consumed (u16 (s.rcv.ackNr + 1)) body ::
    if !body.isEmpty && !s.rcv.readShutdown then [.onRead body] else []

/-- Delivery is told as consumption, then as what the program reads. -/
theorem trace_deliver (body : List UInt8) (s : Conn) :
    (s.deliver body).trace = { s.trace with story := s.trace.story ++ s.deliveryStory body } := by
  have hConsumed := trace_major (e := .consumed (u16 (s.rcv.ackNr + 1)) body) s rfl rfl rfl
  unfold deliver deliveryStory
  dsimp only
  change (if (!body.isEmpty && !s.rcv.readShutdown) = true then _ else _ : Conn).trace = _
  by_cases hRead : (!body.isEmpty && !s.rcv.readShutdown) = true
  · rw [if_pos hRead, if_pos hRead]
    refine (trace_major _ rfl rfl rfl).trans ?_
    rw [hConsumed]
    simp [Trace.tell]
  · rw [if_neg hRead, if_neg hRead]
    exact hConsumed

/-- A packet that has waited is delivered like one that has just arrived. -/
theorem trace_takeReordered (p : IncomingPacket) (s : Conn) : (s.takeReordered p).trace =
    { s.trace with story := s.trace.story ++ s.deliveryStory p.body } :=
  (trace_check (by decide) _ _).trans (trace_deliver p.body s.clearNext)

/-- Reaching the end of the stream is announced and acked. -/
theorem ackWire_reachEof (s : Conn) : s.reachEof env = s ∨
    ∃ w, ({ s with rcv.gotFinReached := true } : Conn).AckWire w ∧
      (s.reachEof env).trace = (s.trace.tell (.onStateChange .eof)).send w := by
  unfold reachEof
  split_ifs
  · obtain ⟨w, hWire, hSent⟩ := trace_sendAck env false (({ s with
      rcv.gotFinReached := true
      rtt.rtoTimeout := u64 (s.currentMs + (min (u32 (s.rtt.rto * 3)) 60 : Nat)) } : Conn).emit
        (.onStateChange .eof))
    have hTold : ∀ t : Conn, (t.emit (.onStateChange .eof)).trace = t.trace.tell (.onStateChange .eof) :=
      fun t => trace_major t rfl rfl rfl
    rw [hTold] at hSent
    exact Or.inr ⟨w, ⟨hWire.type, hWire.version, hWire.connid, hWire.seqNr, hWire.ackNr, hWire.selective⟩, hSent⟩
  · exact Or.inl rfl

/-- The end of the stream is told before the ack is sent. -/
theorem trace_reachEof (s : Conn) : s.reachEof env = s ∨
    ∃ w, (s.reachEof env).trace = (s.trace.tell (.onStateChange .eof)).send w := by
  rcases ackWire_reachEof env s with hSame | ⟨w, -, hTold⟩
  · exact Or.inl hSame
  · exact Or.inr ⟨w, hTold⟩

end Conn

variable {env : Env} {cause : Cause} {s s' : Conn}

/-- Bookkeeping sends at most one packet, an ack. -/
theorem Quiet.trace (h : Quiet env cause s s') : s.trace.Seeks s'.trace ∨
    ∃ w, s'.trace = s.trace.send w ∧ (s.AckWire w ∨
      (s.setAckNr (u16 (s.rcv.ackNr - 1))).AckWire w ∧ s.state.open = true) := by
  have hSame : s'.trace = s.trace → s.trace.Seeks s'.trace := by
    intro hEq
    rw [hEq]
    exact .refl _
  cases h with
  | read off count => exact Or.inl (hSame (Conn.trace_minor s rfl rfl rfl))
  | readMask mask index extLen => exact Or.inl (hSame (Conn.trace_minor s rfl rfl rfl))
  | onAccept => exact Or.inl (hSame (Conn.trace_minor s rfl rfl rfl))
  | check line ok hLine => exact Or.inl (Conn.seeks_check line ok s)
  | scheduleAck hCause => exact Or.inl (hSame (Conn.trace_minor s rfl rfl rfl))
  | setsockopt opt val => exact Or.inl (hSame (by cases opt <;> rfl))
  | probeLost hProbe => exact Or.inl (Conn.seeks_probeLost env s)
  | probePassed hProbe => exact Or.inl (Conn.seeks_probePassed env s)
  | fragmentation nextHopMtu => exact Or.inl (Conn.seeks_receiveIcmpFragmentation env nextHopMtu s)
  | startTimer => exact Or.inl (hSame (Conn.trace_startTimer s))
  | ack hCause =>
      obtain ⟨w, hWire, hSent⟩ := Conn.trace_sendAck env false s
      exact Or.inr ⟨w, hSent, Or.inl hWire⟩
  | synAck d hCause hEmpty =>
      obtain ⟨w, hWire, hSent⟩ := Conn.trace_sendAck env true s
      exact Or.inr ⟨w, hSent, Or.inl hWire⟩
  | keepAlive hOpen hFin =>
      obtain ⟨w, hWire, hSent⟩ := Conn.trace_sendKeepAlive env s
      exact Or.inr ⟨w, hSent, Or.inr ⟨hWire, hOpen⟩⟩
  | _ => exact Or.inl (hSame rfl)

/-- Bookkeeping tells nothing. -/
theorem Quiet.story (h : Quiet env cause s s') : s'.trace.story = s.trace.story := by
  rcases h.trace with hSeek | ⟨w, hSent, -⟩
  · exact hSeek.story
  · rw [hSent]
    rfl

/-- By induction on the run. -/
theorem AckStep.trace_run {header : PacketFormatV1}
    (h : Relation.ReflTransGen (AckStep env header) s s') : s'.trace = s.trace := by
  induction h with
  | refl => rfl
  | tail _ hStep ih =>
      refine Eq.trans ?_ ih
      cases hStep with
      | acked hCount hAcked hSent => exact Conn.trace_ackPacket env _ _
      | dropped hCount hNone => rfl

/-- Events that only concern the outgoing queue. -/
def Event.isQueueing : Event → Bool
  | .queued _ _ _ | .extended _ => true
  | _ => false

/-- A transition of the queue tells at most that a packet was queued or extended. -/
theorem Queueing.story (h : Queueing env cause s s') :
    s'.trace.story = s.trace.story ∨
      ∃ e, e.isQueueing = true ∧ s'.trace.story = s.trace.story ++ [e] := by
  cases h with
  | append bytes =>
      rw [Conn.trace_appendPacket]
      exact Or.inr ⟨_, rfl, rfl⟩
  | appendFin =>
      rw [Conn.trace_appendPacket]
      exact Or.inr ⟨_, rfl, rfl⟩
  | fill pkt bytes =>
      rw [Conn.trace_fillPacket]
      exact Or.inr ⟨_, rfl, rfl⟩
  | send v =>
      refine Or.inl ?_
      cases hGet : s.snd.outbuf.get v with
      | none => rw [Conn.sendPacket_none env hGet]
      | some pkt =>
          obtain ⟨w, events, -, hSent⟩ := Conn.trace_sendPacket env hGet
          rw [hSent]
          rfl
  | acked _ r hCause hRun hFront => exact Or.inl (congrArg Trace.story (AckStep.trace_run hRun))
  | sacked r mask bits =>
      exact Or.inl (congrArg Trace.story ((Conn.trace_minor _ rfl rfl rfl).trans
        (Conn.trace_ackPacket env _ s)))
  | lost i => exact Or.inl (congrArg Trace.story (Conn.trace_losePacket i s))
  | advance r =>
      unfold Conn.updateFastResend
      split_ifs <;> exact Or.inl rfl
  | retried => exact Or.inl rfl
  | resent v => exact Or.inl rfl

theorem DrainStep.story {r : Received} (h : DrainStep env r s s') :
    s.trace.story <+: s'.trace.story := by
  cases h with
  | inOrder hOpen hType hOffset hDone =>
      rw [Conn.trace_deliver, Conn.trace_major s rfl rfl rfl, Trace.tell, List.append_assoc]
      exact List.prefix_append ..
  | eof =>
      rcases Conn.trace_reachEof env s with hSame | ⟨w, hTold⟩
      · rw [hSame]
      · rw [hTold]
        exact List.prefix_append ..
  | take p hOpen hCount hGet =>
      rw [Conn.trace_takeReordered]
      exact List.prefix_append ..

/-- By induction on the packets that are delivered. -/
theorem DrainStep.story_run {r : Received} (h : Relation.ReflTransGen (DrainStep env r) s s') :
    s.trace.story <+: s'.trace.story := by
  induction h with
  | refl => exact List.prefix_refl _
  | tail _ hStep ih => exact ih.trans hStep.story

/-- A packet that arrives out of order is told if it is accepted. -/
theorem Conn.trace_receiveOutOfOrder (seqNr offset : Nat) (body : List UInt8) (s : Conn) :
    (s.receiveOutOfOrder seqNr offset body).trace = s.trace ∨
      (s.receiveOutOfOrder seqNr offset body).trace = s.trace.tell (.accepted seqNr offset body) := by
  have hTold : ((s.growInbuf seqNr offset).emit (.accepted seqNr offset body)).trace =
      s.trace.tell (.accepted seqNr offset body) := Conn.trace_major (s.growInbuf seqNr offset) rfl rfl rfl
  unfold Conn.receiveOutOfOrder
  dsimp only
  split_ifs
  · exact Or.inl rfl
  · exact Or.inl rfl
  · exact Or.inr hTold
  · have hStored : ∀ t : Conn, (t.storeReordered seqNr body).trace = t.trace := fun t =>
      (Conn.trace_minor _ rfl rfl rfl).trans ((Conn.trace_check (by decide) _ _).trans (Conn.trace_check (by decide) _ t))
    exact Or.inr ((hStored _).trans hTold)

/-- The receiving side only adds to the story. -/
theorem Receiving.story (h : Receiving env cause s s') : s.trace.story <+: s'.trace.story := by
  cases h with
  | synAcked r hCause hState => exact List.prefix_refl _
  | fin r hCause hOpen =>
      unfold Conn.noteFin
      split_ifs <;> exact List.prefix_refl _
  | drained _ r hCause hRun hDone => exact DrainStep.story_run hRun
  | outOfOrder r hCause hOpen hType hOffset =>
      rcases Conn.trace_receiveOutOfOrder r.d.header.seqNr (s.seqOffset r.d.header) (r.d.drop r.data) s with hSame | hTold
      · rw [hSame]
      · rw [hTold]
        exact List.prefix_append ..

/-- What a transition of the connection state adds to the story: a change of state
is followed at once by the notification that it fires. -/
inductive MoveStory (s s' : Conn) : Prop where
  | none (hTrace : s'.trace = s.trace) (hState : s'.state = s.state)
  | closing (hTrace : s'.trace = s.trace.tell .closeRequested) (hState : s'.state = s.state)
      (hClose : s'.closeRequested = true)
  | full (hTrace : s'.trace = s.trace.tell (.moved s.state .connectedFull s.rcv.ackNr))
      (hBefore : s.state = .connected) (hState : s'.state = .connectedFull)
  | closed (hTrace : s'.trace = s.trace.tell (.moved s.state .destroy s.rcv.ackNr))
      (hBefore : s.state.open = true → s.closeRequested = true) (hState : s'.state = .destroy)
  | failed (dst : ConnState) (code : ErrorCode)
      (hTrace : s'.trace = (s.trace.tell (.moved s.state dst s.rcv.ackNr)).tell (.onError code))
      (hDst : dst = .reset ∨ dst = .destroy) (hState : s'.state = dst)
  | up (e : Event) (hTrace : s'.trace = (s.trace.tell (.moved s.state .connected s.rcv.ackNr)).tell e)
      (hBefore : s.state = .synSent ∨ s.state = .synRecv ∨ s.state = .connectedFull)
      (hState : s'.state = .connected)
      (hEvent : e = .onConnect ∨ e = .onStateChange .connect ∨ e = .onStateChange .writable)

/-- Every transition of the state, told as one of few stories. The proofs about the state split on these
and not on the transitions, of which there are more. -/
theorem Moving.story (h : Moving cause s s') : MoveStory s s' := by
  have hTell : ∀ (t : Conn) (dst : ConnState) (e : Event), e.isMajor = true → e.wire? = none →
      e.isSearch = false → ((t.setState dst).emit e).trace = (t.trace.tell (.moved t.state dst t.rcv.ackNr)).tell e := by
    intro t dst e hMajor hWire hSearch
    rw [Conn.trace_major _ hMajor hWire hSearch, Conn.trace_setState]
  have hFailed : ∀ code, MoveStory s (s.abandon.emit (.onError code)) := by
    intro code
    refine .failed (if s.closeRequested then .destroy else .reset) code (hTell s _ _ rfl rfl rfl) ?_ rfl
    cases s.closeRequested
    · exact Or.inl rfl
    · exact Or.inr rfl
  cases h with
  | established r hCause hType hState =>
      cases hSet : s.onConnectSet with
      | true => exact .up .onConnect (hTell s _ _ rfl rfl rfl) (Or.inl hState) rfl (Or.inl rfl)
      | false =>
          exact .up (.onStateChange .connect) (hTell s _ _ rfl rfl rfl) (Or.inl hState) rfl
            (Or.inr (Or.inl rfl))
  | admitted r hCause hType hState =>
      exact .up (.onStateChange .writable) (hTell s _ _ rfl rfl rfl) (Or.inr (Or.inl hState)) rfl
        (Or.inr (Or.inr rfl))
  | finAcked r hCause hFin hAcks =>
      split_ifs with hClose
      · exact .closed (Conn.trace_setState .destroy _) (fun _ => hClose) rfl
      · exact .none rfl rfl
  | full hState hFull =>
      unfold Conn.markFull Conn.noteFull
      rw [if_pos hFull, if_pos hFull]
      exact .full (Conn.trace_setState .connectedFull _) hState rfl
  | writable hState hFull =>
      exact .up (.onStateChange .writable) (hTell s _ _ rfl rfl rfl) (Or.inr (Or.inr hState)) rfl
        (Or.inr (Or.inr rfl))
  | expired hState => exact .failed .destroy .etimedout (hTell s _ _ rfl rfl rfl) (Or.inr rfl) rfl
  | gaveUp hState => exact hFailed .etimedout
  | closing hOpen => exact .closing (Conn.trace_major _ rfl rfl rfl) rfl rfl
  | closed hState => exact .closed (Conn.trace_setState .destroy s) hState rfl
  | reset => exact hFailed _
  | icmpError =>
      unfold Conn.receiveIcmpError
      dsimp only
      split
      · exact .none rfl rfl
      · exact hFailed _

theorem MoveStory.grows (h : MoveStory s s') : s.trace.story <+: s'.trace.story := by
  cases h with
  | none hTrace hState => rw [hTrace]
  | closing hTrace hState hClose =>
      rw [hTrace]
      exact List.prefix_append ..
  | full hTrace hBefore hState =>
      rw [hTrace]
      exact List.prefix_append ..
  | closed hTrace hBefore hState =>
      rw [hTrace]
      exact List.prefix_append ..
  | failed dst code hTrace hDst hState =>
      rw [hTrace, Trace.tell, Trace.tell, List.append_assoc]
      exact List.prefix_append ..
  | up e hTrace hBefore hState hEvent =>
      rw [hTrace, Trace.tell, Trace.tell, List.append_assoc]
      exact List.prefix_append ..

/-- A socket that is set up tells its first states. -/
theorem Setup.story (h : Setup env cause s s') : s.trace.story <+: s'.trace.story := by
  cases h with
  | initialise addr connSeed connIdRecv connIdSend hState =>
      rw [Conn.story_initializeSocket]
      exact List.prefix_append ..
  | dial hState hCount hPointer =>
      unfold Conn.queueSyn
      rw [Conn.trace_enqueue, Conn.trace_startConnect, Trace.tell, Trace.tell, List.append_assoc]
      exact List.prefix_append ..
  | accept d hCause hState hCount =>
      have hStart : (s.startAccept env d.header.seqNr).trace =
          s.trace.tell (.moved s.state .synRecv d.header.seqNr) := Conn.trace_setState .synRecv _
      rw [hStart]
      exact List.prefix_append ..

/-- The story of a socket only grows. -/
theorem Trans.story (h : Trans env cause s s') : s.trace.story <+: s'.trace.story := by
  cases h with
  | setup hSetup => exact hSetup.story
  | sending hSend =>
      cases hSend with
      | quiet hQuiet => rw [hQuiet.story]
      | queueing hQueue =>
          rcases hQueue.story with hSame | ⟨e, -, hTold⟩
          · rw [hSame]
          · rw [hTold]
            exact List.prefix_append ..
      | moving hMove => exact hMove.story.grows
  | receiving hReceive => exact hReceive.story

/-- Nothing that was told is taken back. -/
theorem Path.story (h : Path env cause s s') : s.trace.story <+: s'.trace.story := by
  induction h with
  | refl => exact List.prefix_refl _
  | tail _ hStep ih => exact ih.trans hStep.story

end Utp
