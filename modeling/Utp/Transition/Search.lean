import Utp.Transition.Trace

/-! The MTU search of a socket as a transition system of its own, and what every
transition of the socket means for it. -/
namespace Utp

open Wrapping

/-- The range of the search and the record of its steps. -/
@[ext] structure Search where
  mtu : MtuState
  notes : List Event

/-- What an assertion adds to the record. -/
def failure (line : Nat) (ok : Bool) : List Event := if ok then [] else [.assertFailed line]

/-- The assertions that fail in one step of the binary search from `m`. -/
def MtuState.searchFailures (currentMs : Nat) (m : MtuState) : List Event :=
  failure 1314 (m.reduceFloor.floor ≤ m.reduceFloor.ceiling) ++
    failure 1331 (m.reduceFloor.ceiling - m.reduceFloor.floor > 16 ||
      (m.searchUpdate currentMs).floor ≤ (m.searchUpdate currentMs).ceiling)

namespace Search

/-- A step that was taken from the range `moved`. -/
def update (step : MtuStep) (moved : MtuState) (currentMs : Nat) (x : Search) : Search where
  mtu := moved.searchUpdate currentMs
  notes := x.notes ++ (moved.searchFailures currentMs ++
    [.mtu step x.mtu (moved.searchUpdate currentMs)])

def lost (currentMs : Nat) (x : Search) : Search :=
  x.update .lost { x.mtu with ceiling := u32 (x.mtu.probeSize - 1) } currentMs

def passed (currentMs : Nat) (x : Search) : Search :=
  x.update .passed { x.mtu with floor := x.mtu.probeSize } currentMs

/-- The range after an ICMP message, before the search goes on. -/
def constrained (nextHopMtu : Nat) (m : MtuState) : MtuState :=
  if nextHopMtu ≥ 576 && nextHopMtu < 0x2000 then { m with ceiling := min nextHopMtu m.ceiling }
  else { m with ceiling := (m.floor + m.ceiling) / 2 }

/-- The range after an ICMP message. A sane size is tried at once. -/
def fragmented (nextHopMtu currentMs : Nat) (m : MtuState) : MtuState :=
  let next := (constrained nextHopMtu m).searchUpdate currentMs
  if nextHopMtu ≥ 576 && nextHopMtu < 0x2000 then { next with last := next.ceiling } else next

def fragmentation (nextHopMtu currentMs : Nat) (x : Search) : Search where
  mtu := fragmented nextHopMtu currentMs x.mtu
  notes := x.notes ++ ((constrained nextHopMtu x.mtu).searchFailures currentMs ++
    [.mtu (.fragmentation nextHopMtu) x.mtu (fragmented nextHopMtu currentMs x.mtu)])

def probe (seqNr transmissions probeSeq size : Nat) (x : Search) : Search where
  mtu := { x.mtu with probeSeq := probeSeq, probeSize := size }
  notes := x.notes ++ (failure 925 (size ≥ x.mtu.floor) ++ (failure 926 (size ≤ x.mtu.ceiling) ++
    [.mtu (.probe seqNr transmissions probeSeq) x.mtu { x.mtu with probeSeq := probeSeq, probeSize := size }]))

def reset (udpMtu currentMs : Nat) (x : Search) : Search where
  mtu := x.mtu.reset udpMtu currentMs
  notes := x.notes ++ (failure 1346 ((x.mtu.reset udpMtu currentMs).floor ≤
      (x.mtu.reset udpMtu currentMs).ceiling) ++
    [.mtu .reset x.mtu (x.mtu.reset udpMtu currentMs)])

/-- The whole range is tried at once. -/
def adopt (x : Search) : Search := { x with mtu.last := x.mtu.ceiling }

end Search

/-- The steps of a search that is under way. -/
inductive Seeking : Search → Search → Prop where
  | lost (x : Search) (currentMs : Nat) (hProbe : x.mtu.probeSeq ≠ 0) : Seeking x (x.lost currentMs)
  | passed (x : Search) (currentMs : Nat) (hProbe : x.mtu.probeSeq ≠ 0) :
      Seeking x (x.passed currentMs)
  | cleared (x : Search) : Seeking x { x with mtu := x.mtu.clearProbe }
  | fragmentation (x : Search) (nextHopMtu currentMs : Nat) :
      Seeking x (x.fragmentation nextHopMtu currentMs)
  | probe (x : Search) (seqNr transmissions probeSeq size : Nat) (hFloor : x.mtu.floor < size)
      (hCeiling : size ≤ x.mtu.ceiling) : Seeking x (x.probe seqNr transmissions probeSeq size)
  | adopt (x : Search) : Seeking x x.adopt

/-- The steps of the search, with those that start it over. -/
inductive SearchStep : Search → Search → Prop where
  | seeking {x x' : Search} (h : Seeking x x') : SearchStep x x'
  | reset (x : Search) (udpMtu currentMs : Nat) (hMtu : udpMtu < 65536) :
      SearchStep x (x.reset udpMtu currentMs)

abbrev SearchRun : Search → Search → Prop := Relation.ReflTransGen SearchStep

theorem Seeking.run {x x' : Search} (h : Seeking x x') : SearchRun x x' := .single (.seeking h)

namespace Conn

variable (env : Env)

def search (s : Conn) : Search := ⟨s.mtu, s.trace.search⟩

/-- The notes of the search are the part of the log that is about it. -/
theorem search_notes (s : Conn) : s.search.notes = s.trace.search := rfl

/-- A function that touches neither the MTU fields nor their notes leaves the search alone. -/
theorem search_eq {s s' : Conn} (hMtu : s'.mtu = s.mtu) (hTrace : s'.trace.search = s.trace.search) :
    s'.search = s.search :=
  Search.ext hMtu hTrace

theorem search_emit {e : Event} (s : Conn) (hSearch : e.isSearch = false) :
    (s.emit e).search = s.search := by
  refine search_eq rfl ?_
  simp [trace, traceOf, emit, hSearch]

/-- A change of the state is a note of another kind. -/
theorem search_setState (state : ConnState) (s : Conn) : (s.setState state).search = s.search :=
  search_emit (e := .moved s.state state s.rcv.ackNr) s rfl

theorem mtu_check (line : Nat) (ok : Bool) (s : Conn) : (s.check line ok).mtu = s.mtu := by
  cases ok <;> rfl

/-- A failed assertion about the range is one of the notes. This makes its absence a fact about the
search, which the invariant of the range then gives. -/
theorem notes_check {line : Nat} (hLine : line ∈ mtuLines) (ok : Bool) (s : Conn) :
    (s.check line ok).trace.search = s.trace.search ++ failure line ok := by
  cases ok with
  | true => exact (List.append_nil _).symm
  | false =>
      have hSearch : (Event.assertFailed line).isSearch = true := decide_eq_true hLine
      exact congrArg Trace.search (traceOf_search s.log rfl rfl hSearch)

theorem notes_noteMtu (step : MtuStep) (before : MtuState) (s : Conn) :
    (s.noteMtu step before).trace.search = s.trace.search ++ [.mtu step before s.mtu] :=
  congrArg Trace.search (traceOf_search s.log rfl rfl rfl)

/-- The MTU fields after `mtu_search_update` depend on the fields before it and on the time, and on
nothing else of the socket. -/
theorem mtu_mtuSearchUpdate (s : Conn) : (s.mtuSearchUpdate env).mtu =
    s.mtu.searchUpdate (s.utpCallGetMilliseconds env) :=
  (mtu_check _ _ _).trans (mtu_check _ _ _)

/-- The update ends with the assertion that the floor is not above the ceiling. -/
theorem notes_mtuSearchUpdate (s : Conn) : (s.mtuSearchUpdate env).trace.search =
    s.trace.search ++ s.mtu.searchFailures (s.utpCallGetMilliseconds env) := by
  unfold mtuSearchUpdate MtuState.searchFailures
  dsimp only
  rw [notes_check (by decide), notes_check (by decide), List.append_assoc]
  rfl

/-- The verdict that a probe was lost, as the abstract search has it: the ceiling is lowered below the
probe. -/
theorem search_probeLost (s : Conn) :
    (s.probeLost env).search = s.search.lost (s.utpCallGetMilliseconds env) := by
  have hMtu : (s.probeLost env).mtu = _ := mtu_mtuSearchUpdate env _
  refine Search.ext hMtu ?_
  change (Conn.noteMtu _ _ _).trace.search = _
  rw [notes_noteMtu, notes_mtuSearchUpdate, mtu_mtuSearchUpdate, List.append_assoc]
  rfl

/-- The verdict that a probe has arrived: the floor is raised to its size. -/
theorem search_probePassed (s : Conn) :
    (s.probePassed env).search = s.search.passed (s.utpCallGetMilliseconds env) := by
  have hMtu : (s.probePassed env).mtu = _ := mtu_mtuSearchUpdate env _
  refine Search.ext hMtu ?_
  change (Conn.noteMtu _ _ _).trace.search = _
  rw [notes_noteMtu, notes_mtuSearchUpdate, mtu_mtuSearchUpdate, List.append_assoc]
  rfl

/-- A router has reported the size of its next hop. For a value out of the plausible range the ceiling
goes to the middle instead, and the abstract search branches on the value in the same way. -/
theorem search_receiveIcmpFragmentation (nextHopMtu : Nat) (s : Conn) :
    (s.receiveIcmpFragmentation env nextHopMtu).search =
      s.search.fragmentation nextHopMtu (s.utpCallGetMilliseconds env) := by
  have hMtu : (s.receiveIcmpFragmentation env nextHopMtu).mtu =
      Search.fragmented nextHopMtu (s.utpCallGetMilliseconds env) s.mtu := by
    unfold receiveIcmpFragmentation Search.fragmented Search.constrained
    change Socket.mtu (Conn.toSocket (if _ then _ else _)) = _
    split_ifs
    · exact congrArg (fun m : MtuState => { m with last := m.ceiling }) (mtu_mtuSearchUpdate env _)
    · exact mtu_mtuSearchUpdate env _
  refine Search.ext hMtu ((notes_noteMtu _ _ _).trans ?_)
  change _ ++ [Event.mtu _ _ (s.receiveIcmpFragmentation env nextHopMtu).mtu] = _
  rw [hMtu]
  unfold Search.fragmentation Search.constrained
  dsimp only
  rw [← List.append_assoc]
  refine congrArg (· ++ _) ?_
  split_ifs <;> exact notes_mtuSearchUpdate env _

/-- The callback for the MTU comes before the one for the time, so the time is read one call later. -/
theorem search_mtuReset (s : Conn) : (s.mtuReset env).search =
    s.search.reset (s.utpCallGetUdpMtu env) (s.called.utpCallGetMilliseconds env) := by
  have hMtu : (s.mtuReset env).mtu = _ := mtu_check _ _ _
  refine Search.ext hMtu ((notes_noteMtu _ _ _).trans ?_)
  change _ ++ [Event.mtu _ _ (s.mtuReset env).mtu] = _
  rw [hMtu, notes_check (by decide), List.append_assoc]
  rfl

/-- A packet that becomes the probe is noted with its own number and with the number that is recorded for
it, that of the newest packet. They differ when packets wait behind it. -/
theorem search_startProbe (pkt : OutgoingPacket) (s : Conn) :
    (s.startProbe pkt).search = s.search.probe pkt.header.seqNr pkt.transmissions
      (u16 (s.snd.seqNr - 1)) pkt.length := by
  have hMtu : (s.startProbe pkt).mtu = _ := (mtu_check _ _ _).trans (mtu_check _ _ _)
  refine Search.ext hMtu ((notes_noteMtu _ _ _).trans ?_)
  change _ ++ [Event.mtu _ _ (s.startProbe pkt).mtu] = _
  rw [hMtu, notes_check (by decide), notes_check (by decide), List.append_assoc, List.append_assoc]
  rfl

theorem search_chargeWindow (pkt : OutgoingPacket) (s : Conn) :
    (s.chargeWindow pkt).called.called.search = s.search := by
  unfold chargeWindow
  split_ifs <;> rfl

/-- The state in which it is decided whether the packet is a probe. -/
def beforeProbe (pkt : OutgoingPacket) (s : Conn) : Conn :=
  let curTime := s.utpCallGetMilliseconds env
  let s := (s.chargeWindow pkt).called.called
  if s.mtu.discoverTime < curTime then s.mtuReset env else s

/-- Before a packet is sent the search may be started over, when its time has come. -/
theorem run_beforeProbe (pkt : OutgoingPacket) (s : Conn) :
    SearchRun s.search (s.beforeProbe env pkt).search := by
  unfold beforeProbe
  dsimp only
  split_ifs
  · rw [search_mtuReset, search_chargeWindow]
    exact .single (.reset _ _ _ (u16_lt _))
  · rw [search_chargeWindow]

/-- Only a packet whose size is between the floor and the ceiling becomes a probe, so that the assertions
about its size hold. -/
theorem run_beforeTransmit (pkt : OutgoingPacket) (s : Conn) :
    SearchRun s.search (s.beforeTransmit env pkt).search := by
  refine (run_beforeProbe env pkt s).trans ?_
  change SearchRun _ (if (s.beforeProbe env pkt).useAsMtuProbe pkt then
    (s.beforeProbe env pkt).startProbe pkt else s.beforeProbe env pkt).search
  generalize s.beforeProbe env pkt = t
  split_ifs with hUse
  · rw [search_startProbe]
    simp only [useAsMtuProbe, Bool.and_eq_true, decide_eq_true_eq] at hUse
    obtain ⟨⟨⟨⟨⟨-, hFloor⟩, hCeiling⟩, -⟩, -⟩, -⟩ := hUse
    exact (Seeking.probe t.search _ _ _ _ hFloor hCeiling).run
  · exact .refl

/-- Sending one packet is at most a reset and a probe. -/
theorem run_sendPacket (v : Int) (s : Conn) : SearchRun s.search (s.sendPacket env v).search := by
  cases hGet : s.snd.outbuf.get v with
  | none => rw [sendPacket_none env hGet]
  | some pkt =>
      rw [sendPacket_some env hGet]
      have hSent : ∀ (t : Conn) v pkt timeSent flags, (t.transmit env v pkt timeSent flags).search =
          t.search := by
        intro t v pkt timeSent flags
        refine search_eq rfl ?_
        have hNoted : (t.noteWindow env).trace.search = t.trace.search :=
          congrArg Trace.search (trace_noteWindow env t)
        unfold transmit
        rw [trace_sendData]
        exact hNoted
      rw [hSent]
      exact run_beforeTransmit env pkt s

/-- A new socket starts its search with the MTU of the interface. -/
theorem search_initializeSocket (addr : PackedSockAddr) (connSeed connIdRecv connIdSend : Nat)
    (s : Conn) : ∃ udpMtu currentMs, udpMtu < 65536 ∧
      (s.initializeSocket env addr connSeed connIdRecv connIdSend).search =
        (s.search.reset udpMtu currentMs).adopt := by
  have hReset := search_mtuReset env ((((s.setState .idle).updateCurrentMs env).assignIds addr connSeed
    connIdRecv connIdSend).initClocks)
  have hIdle : ((((s.setState .idle).updateCurrentMs env).assignIds addr connSeed
      connIdRecv connIdSend).initClocks).search = s.search :=
    search_setState .idle s
  rw [hIdle] at hReset
  exact ⟨_, _, u16_lt _, congrArg Search.adopt hReset⟩

end Conn

variable {env : Env} {cause : Cause} {s s' : Conn}

/-- Of the bookkeeping, the verdicts and the message of a router move the search. -/
theorem Quiet.search (h : Quiet env cause s s') : SearchRun s.search s'.search := by
  have hSame : s'.search = s.search → SearchRun s.search s'.search := by
    intro hEq
    rw [hEq]
  have hSend : ∀ (t : Conn) synack, (t.sendAck env synack).search = t.search := by
    intro t synack
    obtain ⟨w, -, hSent⟩ := Conn.trace_sendAck env synack t
    refine Conn.search_eq (congrArg Foreground.mtu (Conn.foreground_sendAck env synack t)) ?_
    rw [hSent]
    rfl
  cases h with
  | check line ok hLine =>
      have hOther : line ∉ mtuLines := fun hMtu => hLine (List.mem_append_right _ hMtu)
      exact hSame (Conn.search_eq (Conn.mtu_check line ok s)
        (congrArg Trace.search (Conn.trace_check hOther ok s)))
  | read off count => exact hSame (Conn.search_emit s rfl)
  | readMask mask index extLen => exact hSame (Conn.search_emit s rfl)
  | onAccept => exact hSame (Conn.search_emit s rfl)
  | scheduleAck hCause => exact hSame (Conn.search_emit s rfl)
  | setsockopt opt val => cases opt <;> exact hSame rfl
  | probeLost hProbe =>
      rw [Conn.search_probeLost]
      exact (Seeking.lost s.search _ hProbe).run
  | probePassed hProbe =>
      rw [Conn.search_probePassed]
      exact (Seeking.passed s.search _ hProbe).run
  | clearProbe => exact (Seeking.cleared s.search).run
  | fragmentation nextHopMtu =>
      rw [Conn.search_receiveIcmpFragmentation]
      exact (Seeking.fragmentation s.search _ _).run
  | startTimer =>
      refine hSame (Conn.search_eq ?_ (congrArg Trace.search (Conn.trace_startTimer s)))
      unfold Conn.startTimer
      split_ifs
      · exact Conn.mtu_check _ _ _
      · rfl
  | ack hCause => exact hSame (hSend s false)
  | synAck d hCause hEmpty => exact hSame (hSend s true)
  | keepAlive hOpen hFin => exact hSame (hSend (s.setAckNr (u16 (s.rcv.ackNr - 1))) false)
  | _ => exact hSame rfl

theorem Conn.search_check {line : Nat} (hLine : line ∉ mtuLines) (ok : Bool) (s : Conn) :
    (s.check line ok).search = s.search :=
  search_eq (mtu_check line ok s) (congrArg Trace.search (trace_check hLine ok s))

theorem Conn.search_appendPacket (flags : Nat) (bytes : List UInt8) (s : Conn) :
    (s.appendPacket env flags bytes).search = s.search := by
  refine search_eq (mtu_check 1049 _ s) ?_
  rw [trace_appendPacket]
  rfl

theorem Conn.search_fillPacket (flags : Nat) (pkt : OutgoingPacket) (bytes : List UInt8) (s : Conn) :
    (s.fillPacket env flags pkt bytes).search = s.search := by
  refine search_eq ((mtu_check 1049 _ _).trans (mtu_check 1036 _ s)) ?_
  rw [trace_fillPacket]
  rfl

theorem Conn.search_ackPacket (seq : Int) (s : Conn) :
    (s.ackPacket env seq).2.search = s.search := by
  refine search_eq ?_ (congrArg Trace.search (trace_ackPacket env seq s))
  cases hGet : s.snd.outbuf.get (u16 seq) with
  | none => rw [ackPacket_none env hGet]
  | some pkt =>
      have hSample : ((s.putPacket (u16 seq) none).sampleRtt env pkt).restartTimer.mtu = s.mtu := by
        unfold sampleRtt
        split_ifs <;> rfl
      rw [ackPacket_some env hGet]
      split_ifs
      · rfl
      · refine Eq.trans ?_ hSample
        change (dischargeWindow pkt _).mtu = _
        unfold dischargeWindow
        split_ifs
        · rfl
        · exact mtu_check _ _ _

theorem AckStep.search_run {header : PacketFormatV1}
    (h : Relation.ReflTransGen (AckStep env header) s s') : s'.search = s.search := by
  induction h with
  | refl => rfl
  | tail _ hStep ih =>
      refine Eq.trans ?_ ih
      cases hStep with
      | acked hCount hAcked hSent => exact Conn.search_ackPacket _ _
      | dropped hCount hNone => rfl

/-- Of the queue, only sending moves the search. -/
theorem Queueing.search (h : Queueing env cause s s') : SearchRun s.search s'.search := by
  have hSame : s'.search = s.search → SearchRun s.search s'.search := by
    intro hEq
    rw [hEq]
  cases h with
  | append bytes => exact hSame (Conn.search_appendPacket _ _ s)
  | appendFin => exact hSame (Conn.search_appendPacket _ _ _)
  | fill pkt bytes => exact hSame (Conn.search_fillPacket _ pkt bytes s)
  | send v => exact Conn.run_sendPacket env v s
  | acked _ r hCause hRun hFront => exact hSame (AckStep.search_run hRun)
  | sacked r mask bits =>
      exact hSame ((Conn.search_emit _ rfl).trans (Conn.search_ackPacket _ s))
  | lost i =>
      refine hSame (Conn.search_eq ?_ (congrArg Trace.search (Conn.trace_losePacket i s)))
      rcases Conn.losePacket_cases i s with hKept | ⟨pkt, -, -, -, hLost⟩
      · rw [hKept]
      · rw [hLost]
        exact Conn.mtu_check _ _ _
  | advance r =>
      unfold Conn.updateFastResend
      split_ifs <;> exact .refl
  | retried => exact .refl
  | resent v => exact .refl

theorem MoveStory.search (h : MoveStory s s') : s'.trace.search = s.trace.search := by
  cases h with
  | none hTrace hState => rw [hTrace]
  | closing hTrace hState hClose => rw [hTrace]; rfl
  | full hTrace hBefore hState => rw [hTrace]; rfl
  | closed hTrace hBefore hState => rw [hTrace]; rfl
  | failed dst code hTrace hDst hState => rw [hTrace]; rfl
  | up e hTrace hBefore hState hEvent => rw [hTrace]; rfl

/-- A connection that comes up or ends leaves the search as it stands; a reset socket keeps its probe. -/
theorem Moving.search (h : Moving cause s s') : s'.search = s.search := by
  refine Conn.search_eq ?_ h.story.search
  cases h with
  | finAcked r hCause hFin hAcks => split_ifs <;> rfl
  | full hState hFull =>
      unfold Conn.markFull Conn.noteFull
      rw [if_pos hFull, if_pos hFull]
      rfl
  | icmpError =>
      unfold Conn.receiveIcmpError
      dsimp only
      split_ifs <;> rfl
  | _ => rfl

theorem DrainStep.search {r : Received} (h : DrainStep env r s s') :
    s'.trace.search = s.trace.search := by
  cases h with
  | inOrder hOpen hType hOffset hDone =>
      rw [Conn.trace_deliver, Conn.trace_major s rfl rfl rfl]
      rfl
  | eof =>
      rcases Conn.trace_reachEof env s with hKept | ⟨w, hTold⟩
      · rw [hKept]
      · rw [hTold]
        rfl
  | take p hOpen hCount hGet => rw [Conn.trace_takeReordered]

theorem DrainStep.search_run {r : Received} (h : Relation.ReflTransGen (DrainStep env r) s s') :
    s'.trace.search = s.trace.search := by
  induction h with
  | refl => rfl
  | tail _ hStep ih => exact hStep.search.trans ih

/-- What is received does not move the search. The acks inside a delivery are no probes. -/
theorem Receiving.search (h : Receiving env cause s s') : s'.search = s.search := by
  refine Conn.search_eq (congrArg Foreground.mtu h.foreground) ?_
  cases h with
  | synAcked r hCause hState => rfl
  | fin r hCause hOpen =>
      unfold Conn.noteFin
      split_ifs <;> rfl
  | drained _ r hCause hRun hDone => exact DrainStep.search_run hRun
  | outOfOrder r hCause hOpen hType hOffset =>
      generalize s.seqOffset r.d.header = offset
      generalize r.d.drop r.data = body
      unfold Conn.receiveOutOfOrder
      dsimp only
      split_ifs
      · rfl
      · rfl
      · exact congrArg Search.notes (Conn.search_emit (s.growInbuf r.d.header.seqNr offset) rfl)
      · have hStored : ∀ t : Conn, (t.storeReordered r.d.header.seqNr body).search = t.search := fun t =>
          (Conn.search_emit _ rfl).trans ((Conn.search_check (by decide) _ _).trans
            (Conn.search_check (by decide) _ t))
        rw [← Conn.search_notes, hStored]
        exact congrArg Search.notes (Conn.search_emit (s.growInbuf r.d.header.seqNr offset) rfl)

/-- The search starts with the socket, and `mtu_last` adopts its ceiling. -/
theorem Setup.search (h : Setup env cause s s') : SearchRun s.search s'.search := by
  cases h with
  | initialise addr connSeed connIdRecv connIdSend hState =>
      obtain ⟨udpMtu, currentMs, hMtu, hStart⟩ :=
        Conn.search_initializeSocket env addr connSeed connIdRecv connIdSend s
      rw [hStart]
      exact (Relation.ReflTransGen.single (.reset _ udpMtu currentMs hMtu)).tail (.seeking (.adopt _))
  | dial hState hCount hPointer =>
      have hQueued : ((s.startConnect env).queueSyn).search = (s.startConnect env).search :=
        Conn.search_emit _ rfl
      have hStart : (s.startConnect env).search = s.search := by
        refine Conn.search_eq rfl ?_
        rw [Conn.trace_startConnect]
        rfl
      rw [hQueued, hStart]
  | accept d hCause hState hCount =>
      have hStart : (s.startAccept env d.header.seqNr).search = s.search :=
        Conn.search_setState .synRecv _
      rw [hStart]

/-- Every transition of a socket is a run of its search. -/
theorem Trans.search (h : Trans env cause s s') : SearchRun s.search s'.search := by
  cases h with
  | setup hSetup => exact hSetup.search
  | sending hSend =>
      cases hSend with
      | quiet hQuiet => exact hQuiet.search
      | queueing hQueue => exact hQueue.search
      | moving hMove => rw [hMove.search]
  | receiving hReceive => rw [hReceive.search]

end Utp
