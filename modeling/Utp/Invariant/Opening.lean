import Utp.Invariant.Accord

/-! How a connection is opened: a socket is dialled and waits for its peer, and another one is
created for its SYN. -/
namespace Utp

open Wrapping

variable {env : Env} {cause : Cause} {s0 : Nat} {s s' : Conn}

/-- A socket that has been initialised, and nothing more. -/
structure Blank (s : Conn) : Prop where
  core : Core s
  idle : s.state = .idle
  count : s.snd.curWindowPackets = 0
  pointer : s.snd.fastResendSeqNr = 1
  finSent : s.finSent = false
  finSentAcked : s.finSentAcked = false
  traffic : s.traffic = []
  unasked : .scheduleAck ∉ s.log
  delivery : Delivery s
  labelled : Labelled True s
  concluded : Concluded s

theorem Conn.traffic_initializeSocket (env : Env) (addr : PackedSockAddr) (connSeed connIdRecv connIdSend : Nat) (s : Conn) :
    (s.initializeSocket env addr connSeed connIdRecv connIdSend).traffic = s.traffic := by
  have hMoved : Grows s (((s.setState .idle).updateCurrentMs env).assignIds addr connSeed connIdRecv connIdSend).initClocks :=
    Grows.emit _ s
  have hReset : Grows (((s.setState .idle).updateCurrentMs env).assignIds addr connSeed connIdRecv connIdSend).initClocks
      (s.initializeSocket env addr connSeed connIdRecv connIdSend) :=
    (Conn.clean_mtuReset env _).grows
  have hTraffic : (((s.setState .idle).updateCurrentMs env).assignIds addr connSeed connIdRecv connIdSend).initClocks.traffic =
      s.traffic := (trafficOf_append _ _).trans (List.append_nil _)
  exact (Conn.traffic_of_seeks hReset (Conn.seeks_mtuReset env _)).trans hTraffic

/-- A socket that was allocated and then initialised. -/
theorem Blank.initialised (hPristine : s.toSocket.Pristine) (hLog : s.log = []) (addr : PackedSockAddr)
    (connSeed connIdRecv connIdSend : Nat) : Blank (s.initializeSocket env addr connSeed connIdRecv connIdSend) := by
  have hView := Conn.view_initializeSocket env addr connSeed connIdRecv connIdSend s
  have hFresh : s.snd.curWindowPackets = 0 ∧ s.snd.fastResendSeqNr = 1 ∧ s.finSent = false ∧ s.finSentAcked = false := by
    obtain ⟨targetDelay, optSndbuf, optRcvbuf, ssthresh, hEq⟩ := hPristine
    have hSame := congrArg (fun sock : Socket =>
      (sock.snd.curWindowPackets, sock.snd.fastResendSeqNr, sock.finSent, sock.finSentAcked)) hEq
    simp only [utpCreateSocket, Prod.mk.injEq] at hSame
    exact hSame
  refine ⟨(preserved_core env).initialised s addr connSeed connIdRecv connIdSend hPristine hLog,
    congrArg View.state hView, (congrArg View.curWindowPackets hView).trans hFresh.1,
    (congrArg View.fastResendSeqNr hView).trans hFresh.2.1, (congrArg View.finSent hView).trans hFresh.2.2.1,
    (congrArg View.finSentAcked hView).trans hFresh.2.2.2, ?_, ?_,
    (preserved_delivery env).initialised s addr connSeed connIdRecv connIdSend hPristine hLog,
    .initialised env True hPristine hLog, .initialised hPristine hLog addr connSeed connIdRecv connIdSend⟩
  · rw [Conn.traffic_initializeSocket]
    unfold Conn.traffic
    rw [hLog]
    rfl
  · obtain ⟨events, hMore, hNone⟩ :=
      Conn.adds_initializeSocket unasked_of_common env addr connSeed connIdRecv connIdSend s
    rw [hMore, hLog, List.nil_append]
    exact fun hMem => hNone _ hMem rfl

theorem Blank.live (h : Blank s) : s.Live := h.idle.trans_ne (by decide)

/-- Checks change nothing. -/
theorem Blank.check (env : Env) (h : Blank s) (line : Nat) (ok : Bool) (hLine : line ∉ coveredLines ++ mtuLines)
    (hOther : line ≠ 2086) : Blank (s.check line ok) := by
  have hQuiet : Quiet env .call s (s.check line ok) := .check s line ok hLine fun hSame => absurd hSame hOther
  have hTrans : Trans env .call s (s.check line ok) := .sending (.quiet hQuiet)
  have hView := Conn.view_check line ok s
  have hDown : s.state.open = false := by
    rw [h.idle]
    rfl
  obtain ⟨hAdds, hTraffic⟩ := hQuiet.unasked trivial hDown
  refine ⟨h.core.trans hTrans, (congrArg View.state hView).trans h.idle,
    (congrArg View.curWindowPackets hView).trans h.count, (congrArg View.fastResendSeqNr hView).trans h.pointer,
    (congrArg View.finSent hView).trans h.finSent, (congrArg View.finSentAcked hView).trans h.finSentAcked,
    hTraffic.trans h.traffic, ?_, h.delivery.trans h.core h.live hTrans,
    h.labelled.trans h.core h.live (fun _ => trivial) hTrans, h.concluded.trans h.delivery h.core h.live hTrans⟩
  obtain ⟨events, hMore, hNone⟩ := hAdds
  rw [hMore, List.mem_append]
  rintro (hOld | hNew)
  · exact h.unasked hOld
  · exact hNone _ hNew rfl

/-- A dialled socket whose SYN is the packet number `s0`, before its peer is heard. -/
structure Hailing (s0 : Nat) (s : Conn) : Prop where
  start_lt : s0 < 65536
  side : Side s0 s
  greeting : Greeting s
  syn : s.settled[0]? = some (stSyn, [])
  finSentAcked : s.finSentAcked = false
  eof : s.rcv.gotFinReached = false

theorem Hailing.trans (h : Hailing s0 s) (hCalm : cause.calm) (hPacket : ∀ r, cause ≠ .packet r)
    (hTrans : Trans env cause s s') : Hailing s0 s' := by
  have hSide := h.side
  refine ⟨h.start_lt, hSide.trans hTrans, h.greeting.trans hSide.booked hSide.core hSide.live hCalm
    (fun r hCause => absurd hCause (hPacket r)) hTrans,
    getElem?_of_prefix (hTrans.settled hSide.core hSide.live hSide.booked.state) h.syn, ?_, ?_⟩
  · cases hTrans with
    | setup hSetup =>
        cases hSetup with
        | initialise addr connSeed connIdRecv connIdSend hNew => exact absurd hNew hSide.live
        | dial hState hCount hPointer => exact absurd hState hSide.booked.state
        | accept d hCause hState hCount => exact absurd hState hSide.booked.state
    | sending hSend =>
        cases hSend with
        | quiet hQuiet =>
            exact (congrArg View.finSentAcked (hQuiet.view hSide.core.view.bounds.ackNr_lt)).trans h.finSentAcked
        | queueing hQueue => exact (congrArg Backdrop.finSentAcked hQueue.backdrop).trans h.finSentAcked
        | moving hMove =>
            rcases hMove.finSentAcked with hSame | ⟨-, r, hCause, -⟩
            · exact hSame.trans h.finSentAcked
            · exact absurd hCause (hPacket r)
    | receiving hReceive => exact (congrArg Foreground.finSentAcked hReceive.foreground).trans h.finSentAcked
  · cases hTrans with
    | setup hSetup =>
        cases hSetup with
        | initialise addr connSeed connIdRecv connIdSend hNew => exact absurd hNew hSide.live
        | dial hState hCount hPointer => exact absurd hState hSide.booked.state
        | accept d hCause hState hCount => exact absurd hState hSide.booked.state
    | sending hSend =>
        exact (congrArg RecvView.gotFinReached (hSend.recvView hSide.core.view.bounds.ackNr_lt)).trans h.eof
    | receiving hReceive =>
        cases hReceive with
        | synAcked r hCause hState => exact absurd hCause (hPacket r)
        | fin r hCause hOpen => exact absurd hCause (hPacket r)
        | drained _ r hCause hRun hDone => exact absurd hCause (hPacket r)
        | outOfOrder r hCause hOpen hType hOffset => exact absurd hCause (hPacket r)

theorem Hailing.path (h : Hailing s0 s) (hCalm : cause.calm) (hPacket : ∀ r, cause ≠ .packet r)
    (hPath : Path env cause s s') : Hailing s0 s' := by
  induction hPath with
  | refl => exact h
  | tail _ hTrans ih => exact ih.trans hCalm hPacket hTrans

/-- A socket with its SYN in the queue. -/
theorem Blank.dial (h : Blank s) :
    Side (s.startConnect env).snd.seqNr (s.startConnect env).queueSyn ∧ Greeting (s.startConnect env).queueSyn ∧
      (s.startConnect env).queueSyn.packetAt 0 = some (s.startConnect env).synPacket := by
  have hTrans : Trans env .call s (s.startConnect env).queueSyn :=
    .setup (.dial s h.idle h.count h.pointer)
  have hCore := h.core.trans hTrans
  have hLive := (hTrans.keeps h.core h.live).1
  have hDelivery := h.delivery.trans h.core h.live hTrans
  have hState : (s.startConnect env).queueSyn.state = .synSent := rfl
  have hBefore : (s.startConnect env).traffic = [] := by
    have hMoved : (s.setState .synSent).traffic = s.traffic := (trafficOf_append _ _).trans (List.append_nil _)
    have hNoted : (s.startConnect env).traffic = (s.setState .synSent).traffic :=
      (trafficOf_append _ _).trans (List.append_nil _)
    rw [hNoted, hMoved, h.traffic]
  have hTraffic : (s.startConnect env).queueSyn.traffic =
      [.queued (s.startConnect env).snd.seqNr stSyn []] := by
    have hQueued := Conn.traffic_enqueue (s.startConnect env).synPacket (s.startConnect env)
    rw [hBefore] at hQueued
    exact hQueued
  have hZero : (s.startConnect env).snd.curWindowPackets = 0 := h.count
  have hStart : Booked (s.startConnect env).snd.seqNr (s.startConnect env) := by
    have hNumber : (s.startConnect env).snd.seqNr = u16 ((s.startConnect env).snd.seqNr + (0 : Nat)) := by
      rw [Nat.cast_zero, add_zero]
      exact (u16_u16 _).symm
    have hUp : (s.startConnect env).state = .synSent := rfl
    refine ⟨hUp.trans_ne (by decide), ?_, ?_, fun j pkt hAt => ?_, ?_⟩
    · rw [hBefore]
      exact hNumber
    · rw [hBefore]
      exact hZero.le
    · rw [Conn.packetAt_of_empty hZero] at hAt
      cases hAt
    · rw [hBefore]
      exact .nil
  have hFirst : Core (s.startConnect env) := h.core.startConnect h.idle h.count
  have hPlaces : (s.startConnect env).queueSyn.packetAt 0 = some (s.startConnect env).synPacket ∧
      ∀ j, (s.startConnect env).queueSyn.packetAt (j + 1) = (s.startConnect env).packetAt j :=
    hFirst.packetAt_enqueued (hZero.le.trans (Nat.zero_le _)) rfl rfl rfl
  have hBooked : Booked (s.startConnect env).snd.seqNr (s.startConnect env).queueSyn := by
    have hType : stSyn ≠ stState := by decide
    refine hStart.enqueued (hState.trans_ne (by decide)) (Conn.traffic_enqueue _ _) rfl ?_ hPlaces.1 hPlaces.2 rfl rfl
      hType rfl
    have hOne : (s.startConnect env).queueSyn.snd.curWindowPackets =
        u16 ((s.startConnect env).snd.curWindowPackets + 1) := rfl
    have hEmod := u16_emod ((s.startConnect env).snd.curWindowPackets + 1)
    have hLt := u16_lt ((s.startConnect env).snd.curWindowPackets + 1)
    omega
  have hPackets : packetsOf (s.startConnect env).queueSyn.traffic = [(stSyn, [])] := by
    rw [hTraffic]
    rfl
  have hClosed : Closed (s.startConnect env).queueSyn := by
    rcases hDelivery with hClosed | ⟨first, -, hRank, -⟩
    · exact hClosed
    · rw [hState] at hRank
      exact absurd hRank (by decide)
  have hEarly := hCore.view.early (by change ConnState.rank .synSent < 4; decide)
  refine ⟨⟨hCore, hLive, hDelivery, fun _ => hEarly.1, h.labelled.trans h.core h.live (fun _ => trivial) hTrans, hBooked,
    ⟨fun hSent => ?_, fun k bytes hAt => ?_⟩, h.concluded.trans h.delivery h.core h.live hTrans⟩, ⟨Or.inl hState, hClosed.1, hPackets, fun w flags hMem => ?_, ?_, hEarly.2.1⟩,
    hPlaces.1⟩
  · have hUnsent : (s.startConnect env).queueSyn.finSent = s.finSent := rfl
    rw [hUnsent, h.finSent] at hSent
    cases hSent
  · rw [hPackets] at hAt
    have hOnly := List.mem_of_getElem? hAt
    rw [List.mem_singleton] at hOnly
    cases hOnly
  · rw [hTraffic, List.mem_singleton] at hMem
    cases hMem
  · have hLog : (s.startConnect env).queueSyn.log = s.log ++ [.moved s.state .synSent s.rcv.ackNr] ++
        [.window (Conn.getRcvWindow env ((s.setState .synSent).updateCurrentMs env))] ++
        [.queued (s.startConnect env).snd.seqNr stSyn []] := rfl
    rw [hLog]
    simp [h.unasked]

/-- A socket whose SYN is on its way. -/
theorem Blank.hails (h : Blank s) (env : Env) : ∃ s0, Hailing s0 (s.connectSocket env) := by
  have hFirst : Blank (s.check 2780 (s.snd.curWindowPackets = 0)) := h.check env 2780 _ (by decide) (by decide)
  unfold Conn.connectSocket
  dsimp only
  generalize s.check 2780 (s.snd.curWindowPackets = 0) = t at hFirst ⊢
  have hSecond : Blank (t.check 2781 (t.snd.outbuf.get t.snd.seqNr).isNone) := hFirst.check env 2781 _ (by decide) (by decide)
  generalize t.check 2781 (t.snd.outbuf.get t.snd.seqNr).isNone = u at hSecond ⊢
  have hDial : Side (u.startConnect env).snd.seqNr (u.startConnect env).queueSyn ∧ Greeting (u.startConnect env).queueSyn ∧
      (u.startConnect env).queueSyn.packetAt 0 = some (u.startConnect env).synPacket := hSecond.dial
  have hStart : (u.startConnect env).snd.seqNr < 65536 := u16_lt _
  have hAcked : (u.startConnect env).queueSyn.finSentAcked = false := hSecond.finSentAcked
  have hState : (u.startConnect env).queueSyn.state = .synSent := rfl
  obtain ⟨hSide, hGreeting, hAt⟩ := hDial
  generalize (u.startConnect env).queueSyn = w at hSide hGreeting hAt hAcked hState ⊢
  have hGet : w.snd.outbuf.get (w.snd.seqNr - 1) = some (u.startConnect env).synPacket := by
    unfold Conn.packetAt at hAt
    split_ifs at hAt
    rwa [Nat.cast_zero, sub_zero] at hAt
  have hQueue : Queueing env .call w (w.sendPacket env (w.snd.seqNr - 1)) := .send w _
  have hTrans : Trans env .call w (w.sendPacket env (w.snd.seqNr - 1)) := .sending (.queueing hQueue)
  have hView := Conn.view_sendPacket env hGet
  rw [Conn.view_chargeWindow] at hView
  have hNext := hGreeting.queueing hSide.booked hSide.core hQueue
  have hLater := hSide.trans hTrans
  have hStill : (w.sendPacket env (w.snd.seqNr - 1)).state = .synSent := (congrArg View.state hView).trans hState
  refine ⟨_, hStart, hLater, hNext, ?_, (congrArg View.finSentAcked hView).trans hAcked, ?_⟩
  · obtain ⟨i, hPlace, hPut⟩ := hSide.core.packetAt_put hGet
    have hNow := hPut (w.sendPacket env (w.snd.seqNr - 1)) _ (congrArg View.seqNr hView)
      (congrArg View.curWindowPackets hView) (congrArg View.outbuf hView) 0
    have hZero : i = 0 := by
      by_contra hNe
      exact hSide.core.seqNr_ne hPlace hAt hNe rfl
    have hSent : (w.sendPacket env (w.snd.seqNr - 1)).holdsBack = false := by
      unfold Conn.holdsBack
      rw [hNow, if_pos hZero.symm]
      rfl
    unfold Conn.settled
    rw [hSent, if_neg Bool.false_ne_true, hNext.packets]
    rfl
  · refine (hLater.core.view.early ?_).2.2
    change (w.sendPacket env (w.snd.seqNr - 1)).state.rank < 4
    rw [hStill]
    decide

/-- A socket that was created for a SYN, before it acks the SYN. -/
theorem Blank.accept (h : Blank s) (env : Env) (d : Datagram) :
    Side (s.startAccept env d.header.seqNr).snd.seqNr (s.startAccept env d.header.seqNr) ∧
      (s.startAccept env d.header.seqNr).traffic = [] := by
  have hTrans : Trans env (.syn d) s (s.startAccept env d.header.seqNr) := .setup (.accept s d rfl h.idle h.count)
  have hTraffic : (s.startAccept env d.header.seqNr).traffic = [] :=
    (Conn.traffic_startAccept env d.header.seqNr s).trans h.traffic
  have hState : (s.startAccept env d.header.seqNr).state = .synRecv := rfl
  have hZero : (s.startAccept env d.header.seqNr).snd.curWindowPackets = 0 := h.count
  have hUnsent : (s.startAccept env d.header.seqNr).finSent = false := h.finSent
  have hNumber : (s.startAccept env d.header.seqNr).snd.seqNr =
      u16 ((s.startAccept env d.header.seqNr).snd.seqNr + (0 : Nat)) := by
    rw [Nat.cast_zero, add_zero]
    exact (u16_u16 _).symm
  have hCore := h.core.trans hTrans
  have hEarly := hCore.view.early (by change ConnState.rank .synRecv < 4; decide)
  have hBooked : Booked (s.startAccept env d.header.seqNr).snd.seqNr (s.startAccept env d.header.seqNr) := by
    refine ⟨hState.trans_ne (by decide), ?_, ?_, fun j pkt hAt => ?_, ?_⟩
    · rw [hTraffic]
      exact hNumber
    · rw [hTraffic]
      exact hZero.le
    · rw [Conn.packetAt_of_empty hZero] at hAt
      cases hAt
    · rw [hTraffic]
      exact .nil
  refine ⟨⟨hCore, hState.trans_ne (by decide), h.delivery.trans h.core h.live hTrans, fun _ => hEarly.1,
    h.labelled.trans h.core h.live (fun _ => trivial) hTrans, hBooked, ⟨fun hSent => ?_, fun k bytes hAt => ?_⟩,
    h.concluded.trans h.delivery h.core h.live hTrans⟩, hTraffic⟩
  · rw [hUnsent] at hSent
    cases hSent
  · rw [hTraffic] at hAt
    cases hAt

/-- A receiver that has got nothing. -/
theorem Fed.of_nothing {start base : Nat} {sender receiver : Conn} (hBase : base ≤ (packetsOf sender.traffic).length)
    (hOffers : offersOf receiver.traffic = []) (hConsumed : consumedOf receiver.traffic = [])
    (hFin : receiver.rcv.gotFin = false) (hEof : receiver.rcv.gotFinReached = false) :
    Fed start base sender receiver := by
  refine ⟨hBase, fun x hx => ?_, fun i x hAt => ?_, fun hGot => ?_, fun hReached => ?_⟩
  · rw [hOffers] at hx
    cases hx
  · rw [hConsumed] at hAt
    cases hAt
  · rw [hFin] at hGot
    cases hGot
  · rw [hEof] at hReached
    cases hReached

/-- A sender that has not queued more than what comes before the stream. -/
theorem Spent.of_nothing {base : Nat} {sender receiver : Conn} (hBase : (packetsOf sender.traffic).length ≤ base)
    (hAcked : sender.finSentAcked = false) : Spent base sender receiver := by
  refine ⟨fun k hk _ => Or.inl ?_, fun hSent => ?_⟩
  · omega
  · rw [hAcked] at hSent
    cases hSent

/-- The two sockets agree when the second one is created. -/
theorem Hailing.meets {t : Conn} (h : Hailing s0 s) (hBlank : Blank t) (env : Env) (d : Datagram) (hSeq : d.header.seqNr = s0) :
    Accord s0 (t.startAccept env d.header.seqNr).snd.seqNr s (t.startAccept env d.header.seqNr) := by
  obtain ⟨hSide, hTraffic⟩ := hBlank.accept env d
  have hState : (t.startAccept env d.header.seqNr).state = .synRecv := rfl
  have hAckNr : (t.startAccept env d.header.seqNr).rcv.ackNr = d.header.seqNr := rfl
  have hAcked : (t.startAccept env d.header.seqNr).finSentAcked = false := hBlank.finSentAcked
  have hEarly := hSide.core.view.early (by change ConnState.rank .synRecv < 4; decide)
  generalize t.startAccept env d.header.seqNr = u at hSide hTraffic hState hAckNr hAcked hEarly ⊢
  have hClosed : offersOf s.traffic = [] ∧ consumedOf s.traffic = [] := by
    rcases h.side.delivery with ⟨-, -, hConsumed, hOffers, -⟩ | ⟨first, hUp, -⟩
    · exact ⟨s.offers_eq.trans hOffers, (consumedOf_traffic s.log).trans ((consumedOf_story s.log).symm.trans hConsumed)⟩
    · rw [h.greeting.entry] at hUp
      cases hUp
  have hOne : (packetsOf s.traffic).length = 1 := by
    rw [h.greeting.packets]
    rfl
  have hNone : (packetsOf u.traffic).length = 0 := by
    rw [hTraffic]
    rfl
  have hStart := h.start_lt
  refine
    { dialler := h.side
      acceptor := hSide
      syn := h.syn
      heard := Or.inl h.greeting
      answered := ⟨?_, ?_⟩
      fedB := .of_nothing hOne.ge (by rw [hTraffic]; rfl) (by rw [hTraffic]; rfl) hEarly.2.1 hEarly.2.2
      fedA := .of_nothing (Nat.zero_le _) hClosed.1 hClosed.2 h.greeting.fin h.eof
      spentA := .of_nothing hOne.le h.finSentAcked
      spentB := .of_nothing hNone.le hAcked
      early := fun _ => hOne.le
      role := hState.trans_ne (by decide)
      woken := ?_ }
  · have hTaken : u.taken = 0 := by
      unfold Conn.taken
      rw [hTraffic]
      rfl
    have hEmod := u16_emod ((s0 + 1 : Nat) + (0 : Nat) - 1)
    have hLt := u16_lt ((s0 + 1 : Nat) + (0 : Nat) - 1)
    rw [hTaken, hAckNr, hSeq]
    omega
  · rw [hTraffic]
    exact .nil
  · rintro (hOpen | hSome)
    · rw [hState] at hOpen
      cases hOpen
    · rw [hTraffic] at hSome
      exact absurd rfl hSome

/-- The SYN of a dialled socket has the number that it says. -/
theorem Hailing.syn_seqNr (h : Hailing s0 s) {w : Wire} {flags : Nat} (hSent : .sendto w flags ∈ s.log)
    (beyond : Nat → UInt8) : w.header.type = stSyn ∧ (w.received beyond).header.seqNr = s0 := by
  have hMem : .sendto w flags ∈ s.traffic := List.mem_filter.2 ⟨hSent, rfl⟩
  have hType := h.greeting.wires w flags hMem
  obtain ⟨pre, post, hSplit⟩ := List.append_of_mem hMem
  have hStart := h.start_lt
  rcases h.side.booked.sends pre _ post w hSplit rfl with ⟨hState, -⟩ | ⟨-, k, hShips⟩
  · rw [hType] at hState
    exact absurd hState (by decide)
  · have hFew : (packetsOf pre).length ≤ 1 := by
      have hMore := packetsOf_length_le pre (.sendto w flags :: post)
      rwa [← hSplit, h.greeting.packets] at hMore
    have hZero : k = 0 := by
      have hLt := hShips.lt
      omega
    have hSeq : w.header.seqNr = s0 := by
      rw [hShips.seqNr, hZero, Nat.cast_zero, add_zero]
      exact u16_of_lt hStart
    exact ⟨hType, (w.header_seqNr beyond (by omega)).trans hSeq⟩

/-- The second socket has acked the SYN and was handed to the program. -/
theorem Hailing.accepted {t : Conn} (h : Hailing s0 s) (env : Env) (hPristine : t.toSocket.Pristine) (hLog : t.log = [])
    (d : Datagram) (hSeq : d.header.seqNr = s0) (addr : PackedSockAddr) :
    ∃ t0, Accord s0 t0 s (t.acceptSocket env d addr) := by
  have hBlank : Blank (t.initializeSocket env addr d.header.connid (d.header.connid + 1) d.header.connid) :=
    .initialised hPristine hLog addr _ _ _
  rw [Conn.acceptSocket_eq]
  generalize t.initializeSocket env addr d.header.connid (d.header.connid + 1) d.header.connid = u at hBlank ⊢
  have hMeets := h.meets hBlank env d hSeq
  have hState : (u.startAccept env d.header.seqNr).state = .synRecv := rfl
  have hEarly := hMeets.acceptor.core.view.early (by change ConnState.rank .synRecv < 4; decide)
  exact ⟨_, hMeets.right_path (fun r hCause => by cases hCause)
    (Conn.path_finishAccept env d hMeets.acceptor.core hState hEarly.1)⟩

end Utp
