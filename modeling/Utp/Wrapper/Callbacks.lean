import Utp.Guarantees.Link
import Utp.Invariant.Notices
import Utp.Invariant.Phase
import Utp.Invariant.Ticks

/-! What the program hears of each connection during one operation of the library. -/
namespace Utp

open Wrapping

namespace Conn

variable {env : Env} {cause : Cause} {s s' : Conn}

theorem story_quietPath (h : QuietPath env cause s s') : s'.trace.story = s.trace.story := by
  induction h with
  | refl => rfl
  | tail _ hStep ih => exact hStep.story.trans ih

theorem unoffered_of_common (e : Event) (h : e.isCommon = true) : e ≠ .onAccept := by
  rintro rfl
  cases h

/-- Only a SYN makes a socket offer itself to the program. -/
theorem covered_unoffered (h : ∀ d, cause ≠ .syn d) : cause.Covered (· ≠ .onAccept) :=
  ⟨unoffered_of_common, fun _ _ => nofun, fun _ _ _ => nofun, fun _ => nofun, fun d hCause => absurd hCause (h d)⟩

/-- A new socket has told nothing if its story says so, and if it was not offered to the program. -/
theorem private_of_story (hLog : s.log = []) (hAdds : Adds (· ≠ .onAccept) s s')
    (hStory : ∀ e ∈ s'.trace.story, e.isNotice = false) : ∀ e ∈ s'.log, e.isNotice = false ∧ e ≠ .onAccept := by
  obtain ⟨events, hMore, hNone⟩ := hAdds
  rw [hLog, List.nil_append] at hMore
  refine fun e he => ⟨?_, hNone e (hMore ▸ he)⟩
  by_cases hMajor : e.isMajor = true
  · exact hStory e (List.mem_filter.2 ⟨he, hMajor⟩)
  · cases e <;> first | rfl | exact absurd rfl hMajor

/-- What a new socket has become when it is offered to the program. -/
structure Offered (s w : Conn) : Prop where
  core : Core w
  live : w.Live
  tick : s.tick ≤ w.tick
  silent : ∀ e ∈ w.log, e.isNotice = false ∧ e ≠ .onAccept
  phase : w.state ≠ .destroy ∧ w.closeRequested = false ∧ w.rcv.readShutdown = false

theorem offered_acceptSocket (env : Env) (d : Datagram) (addr : PackedSockAddr) {s : Conn}
    (hNew : s.state = .uninitialized) (hPristine : s.toSocket.Pristine) (hLog : s.log = []) :
    ∃ w, Offered s w ∧ s.acceptSocket env d addr =
      if (env w.tick).backlogFull then (w.called.emit .onAccept).utpClose env else w.called.emit .onAccept := by
  have hCore : Core s := Core.of_pristine hPristine hLog
  obtain ⟨targetDelay, optSndbuf, optRcvbuf, ssthresh, hEq⟩ := hPristine
  have hCounts : s.snd.curWindowPackets = 0 ∧ s.rcv.reorderCount = 0 ∧ s.closeRequested = false ∧
      s.rcv.readShutdown = false := by
    rw [hEq]
    exact ⟨rfl, rfl, rfl, rfl⟩
  have hInit : Path env (.syn d) s (s.initializeSocket env addr d.header.connid (d.header.connid + 1) d.header.connid) :=
    .single (.setup (.initialise s addr _ _ _ hNew))
  have hView := view_initializeSocket env addr d.header.connid (d.header.connid + 1) d.header.connid s
  have hPhase := phase_initializeSocket env addr d.header.connid (d.header.connid + 1) d.header.connid s
  have hStory := story_initializeSocket env addr d.header.connid (d.header.connid + 1) d.header.connid s
  have hAdds := adds_initializeSocket unoffered_of_common env addr d.header.connid (d.header.connid + 1)
    d.header.connid s
  rw [acceptSocket_eq]
  unfold finishAccept
  dsimp only
  generalize s.initializeSocket env addr d.header.connid (d.header.connid + 1) d.header.connid = t
    at hInit hView hPhase hStory hAdds ⊢
  have hStart : Path env (.syn d) s (t.startAccept env d.header.seqNr) :=
    hInit.tail (.setup (.accept t d rfl (congrArg Phase.state hPhase) ((congrArg View.curWindowPackets hView).trans hCounts.1)))
  have hMoved : (t.startAccept env d.header.seqNr).trace = t.trace.tell (.moved t.state .synRecv d.header.seqNr) :=
    trace_setState .synRecv _
  have hAdds' := hAdds.trans (adds_startAccept unoffered_of_common env d.header.seqNr t)
  have hRequested : (t.startAccept env d.header.seqNr).closeRequested = false :=
    (congrArg Phase.closeRequested hPhase).trans hCounts.2.2.1
  have hShut : (t.startAccept env d.header.seqNr).rcv.readShutdown = false :=
    (congrArg Phase.readShutdown hPhase).trans hCounts.2.2.2
  have hRecv : (t.startAccept env d.header.seqNr).state = .synRecv := rfl
  have hNone : (t.startAccept env d.header.seqNr).rcv.reorderCount = 0 :=
    (congrArg View.reorderCount hView).trans hCounts.2.1
  generalize t.startAccept env d.header.seqNr = u at hStart hMoved hAdds' hRequested hShut hRecv hNone ⊢
  have hAck := (hCore.path hStart).view.bounds.ackNr_lt
  have hQuiet := path_processSyn env (.syn d) d hAck (hRecv.trans_ne (by decide))
  have hSilent := path_processSyn env .call d hAck (hRecv.trans_ne (by decide))
  have hPath := hStart.trans hQuiet.path.path
  have hSame := (phase_of_foreground (foreground_sendAck env true _)).trans (hSilent.phase nofun)
  have hCount := (congrArg View.reorderCount (hQuiet.view hAck)).trans hNone
  have hPath' := hPath.tail (.sending (.quiet (.synAck _ d rfl hCount)))
  obtain ⟨wire, -, hSent⟩ := trace_sendAck env true (u.utpProcessIncoming env d true)
  have hLive : u.Live := hRecv.trans_ne (by decide)
  have hOwn := (hAdds'.trans (hSilent.path.path.adds (covered_unoffered fun d hSame => by cases hSame))).trans
    (adds_sendAck unoffered_of_common env true _)
  refine ⟨_, ⟨hCore.path hPath', ?_, Path.tick_le hPath', private_of_story hLog hOwn ?_, ?_⟩, rfl⟩
  · have hLater := hQuiet.path.path.tail (.sending (.quiet (.synAck _ d rfl hCount)))
    exact (Path.keeps hLater (hCore.path hStart) hLive).1
  · have hTold : ((u.utpProcessIncoming env d true).sendAck env true).trace.story =
        [.moved s.state .idle s.rcv.ackNr, .moved t.state .synRecv d.header.seqNr] := by
      rw [hSent, Trace.send, story_quietPath hQuiet, hMoved, Trace.tell, hStory, trace, hLog]
      rfl
    rw [hTold]
    simp [Event.isNotice]
  · have hStill : ((u.utpProcessIncoming env d true).sendAck env true).state = .synRecv :=
      (congrArg Phase.state hSame).trans hRecv
    exact ⟨hStill.trans_ne (by decide), (congrArg Phase.closeRequested hSame).trans hRequested,
      (congrArg Phase.readShutdown hSame).trans hShut⟩

/-- The call of `UTP_ON_ACCEPT` changes nothing but the record. -/
theorem Offered.told {s w : Conn} (h : Offered s w) : Core (w.called.emit .onAccept) :=
  h.core.of_view rfl (.trans (.of_log rfl) (.emit w.called rfl))

/-- A socket that is offered to the program is known to it, also if it is closed at once. -/
theorem Offered.listens {s w : Conn} (h : Offered s w) (env : Env) (full : Bool) : Standing.unknown.listens
    (if full then (w.called.emit .onAccept).utpClose env else w.called.emit .onAccept).log = some .known := by
  have hLog : (w.called.emit .onAccept).log = w.log ++ .onAccept :: [] := rfl
  cases full with
  | false =>
      rw [if_neg Bool.false_ne_true, hLog]
      exact Standing.listens_offered h.silent (List.forall_mem_nil _)
  | true =>
      have hPath := path_utpClose env .asked h.told (.inl rfl)
      obtain ⟨events, hTells⟩ := Path.tells hPath.path h.told h.live
      obtain ⟨more, hMore, hOwn⟩ := hPath.path.adds (covered_unoffered fun d hSame => by cases hSame)
      obtain rfl : events = more := List.append_cancel_left (hTells.log.symm.trans hMore)
      have hSplit : (w.called.emit .onAccept).log ++ events = w.log ++ .onAccept :: events := by
        rw [hLog]
        exact List.append_assoc ..
      rw [if_pos rfl, hTells.log, hSplit]
      exact Standing.listens_offered h.silent fun e he => ⟨hTells.decent e he, hOwn e he⟩

/-- A socket that is dialled tells the program nothing yet. -/
theorem private_connectSocket (env : Env) {t s : Conn} (hLog : t.log = []) (hAdds : Adds (· ≠ .onAccept) t s)
    (hStory : ∀ e ∈ s.trace.story, e.isNotice = false) :
    (∀ e ∈ (s.connectSocket env).log, e.isNotice = false ∧ e ≠ .onAccept) ∧
      (s.connectSocket env).phase = ⟨.synSent, s.closeRequested, s.rcv.readShutdown⟩ := by
  have hChecks := fun first second => (adds_check unoffered_of_common 2780 first s).trans
    (adds_check unoffered_of_common 2781 second _)
  have hDialled : Adds (· ≠ .onAccept) s (s.connectSocket env) :=
    ((hChecks _ _).trans (adds_queueSyn unoffered_of_common env _)).trans (adds_sendPacket unoffered_of_common env _ _)
  refine ⟨private_of_story hLog (hAdds.trans hDialled) ?_, ?_⟩
  · unfold connectSocket
    have hChecked : ∀ first second, ((s.check 2780 first).check 2781 second).trace = s.trace := fun first second =>
      (trace_check (by decide) _ _).trans (trace_check (by decide) _ s)
    have hQueued : ∀ t : Conn, t.trace = s.trace → ∀ e ∈ (t.startConnect env).queueSyn.trace.story, e.isNotice = false := by
      intro t hSame
      unfold queueSyn
      rw [trace_enqueue, trace_startConnect, hSame]
      simpa [Trace.tell, Event.isNotice, or_imp, forall_and] using hStory
    have hNow := hQueued _ (hChecked (s.snd.curWindowPackets = 0)
      ((s.check 2780 (s.snd.curWindowPackets = 0)).snd.outbuf.get (s.check 2780 (s.snd.curWindowPackets = 0)).snd.seqNr).isNone)
    dsimp only
    generalize (((s.check 2780 (s.snd.curWindowPackets = 0)).check 2781 _).startConnect env).queueSyn = t at hNow ⊢
    have hSend : Queueing env .call t (t.sendPacket env (t.snd.seqNr - 1)) := .send t _
    rcases hSend.story with hSame | ⟨e, hEvent, hTold⟩
    · rw [hSame]
      exact hNow
    · rw [hTold]
      intro e' he'
      rcases List.mem_append.1 he' with hOld | hLast
      · exact hNow e' hOld
      · rw [List.mem_singleton.1 hLast]
        cases e <;> first | rfl | cases hEvent
  · have hChecked : ∀ first second, ((s.check 2780 first).check 2781 second).phase = s.phase := fun first second =>
      phase_of_backdrop ((backdrop_check 2781 second _).trans (backdrop_check 2780 first s))
    have hStart : ∀ t : Conn, t.phase = s.phase →
        (t.startConnect env).queueSyn.phase = ⟨.synSent, s.closeRequested, s.rcv.readShutdown⟩ := fun t hSame =>
      congrArg (fun f : Phase => Phase.mk .synSent f.closeRequested f.readShutdown) hSame
    exact (phase_of_backdrop (backdrop_sendPacket ..)).trans (hStart _ (hChecked _ _))

theorem private_dialled (env : Env) (addr : PackedSockAddr) (seed : Nat) {s : Conn} (hLog : s.log = []) :
    (∀ e ∈ ((s.initializeSocket env addr seed seed (seed + 1)).connectSocket env).log, e.isNotice = false ∧ e ≠ .onAccept) ∧
      ((s.initializeSocket env addr seed seed (seed + 1)).connectSocket env).phase =
        ⟨.synSent, s.closeRequested, s.rcv.readShutdown⟩ := by
  have hStory := story_initializeSocket env addr seed seed (seed + 1) s
  have hAdds := adds_initializeSocket unoffered_of_common env addr seed seed (seed + 1) s
  have hPhase := phase_initializeSocket env addr seed seed (seed + 1) s
  generalize s.initializeSocket env addr seed seed (seed + 1) = t at hStory hAdds hPhase ⊢
  have hBlank : s.trace.story = [] := by
    rw [trace, hLog]
    rfl
  rw [hBlank] at hStory
  obtain ⟨hPrivate, hNow⟩ := private_connectSocket env hLog hAdds (by simp [hStory, Event.isNotice])
  exact ⟨hPrivate, hNow.trans (congrArg (fun f : Phase => Phase.mk .synSent f.closeRequested f.readShutdown) hPhase)⟩

end Conn

namespace Context

variable {env : Env} {op : Op} {c c' : Context} {p : Nat} {sock : Socket}

theorem carries_tells (env : Env) (op : Op) (p : Nat) (start : Conn) :
    Carries env op p fun s => ∃ events, Tells events start s ∧ ∀ e ∈ events, e ≠ .onAccept := by
  refine ⟨fun s currentMs tick ⟨events, h, hOwn⟩ => ⟨events, ⟨h.log, h.decent, h.woken, h.connect, h.fin⟩, hOwn⟩, ?_⟩
  intro c sock cause s' hOk _ hSock hCause ⟨events, hTells, hOwn⟩ hRan
  obtain ⟨more, hMore⟩ := Path.tells hRan.path (hOk.core p sock hSock.1) hSock.2
  have hSyn : ∀ d, cause ≠ .syn d := by
    rintro d rfl
    exact hCause
  obtain ⟨added, hAdded, hNone⟩ := hRan.path.adds (Conn.covered_unoffered hSyn)
  obtain rfl : more = added := List.append_cancel_left (hMore.log.symm.trans hAdded)
  exact ⟨events ++ more, hTells.trans hMore, fun e he => (List.mem_append.1 he).elim (hOwn e) (hNone e)⟩

/-- What an operation makes a known connection tell. -/
structure News (events : List Event) (p : Nat) (sock : Socket) (c c' : Context) : Prop where
  log : c'.logs p = c.logs p ++ events
  heard : (Standing.known.listens events = some .gone ∧ c'.sockets p = none) ∨
    Standing.known.listens events = some .known ∧ ∃ sock', c'.Holds p sock' ∧ Tells events (c.enter p sock) (c'.enter p sock')

/-- In one operation a connection that the program knows tells nothing that the program cannot hear. -/
theorem news_known (hReach : c.Reachable env) (hSock : c.Holds p sock) (hStep : c.step env op = some c') :
    ∃ events, c.News events p sock c' := by
  have hOld := hReach.ok.allocated p sock hSock.1
  obtain ⟨s, ⟨-, hShown⟩, events, hTells, hOwn⟩ := (carries_tells env op p (c.enter p sock)).step hReach hStep
    ⟨c.enter p sock, ⟨hOld, Or.inr ⟨sock, hSock, rfl⟩⟩, [], .refl _, List.forall_mem_nil _⟩
  rcases hShown with ⟨hGone, hLog⟩ | ⟨sock', hSock', rfl⟩
  · have hSplit : c'.logs p = c.logs p ++ events ++ [.onStateChange .destroying] := by
      rw [hLog, hTells.log]
      rfl
    refine ⟨events ++ [.onStateChange .destroying], by rw [hSplit, List.append_assoc], Or.inl ⟨?_, hGone⟩⟩
    exact Standing.listens_end fun e he => ⟨hTells.decent e he, hOwn e he⟩
  · have hSplit : c'.logs p = c.logs p ++ events := hTells.log
    refine ⟨events, hSplit, Or.inr ⟨?_, sock', hSock', hTells⟩⟩
    exact Standing.listens_known fun e he => ⟨hTells.decent e he, hOwn e he⟩

/-- A connection that is gone tells nothing any more. -/
theorem news_gone (hReach : c.Reachable env) (hOld : p < c.allocated) (hGone : c.sockets p = none)
    (hStep : c.step env op = some c') : c'.logs p = c.logs p ∧ c'.sockets p = none := by
  obtain ⟨hNone, hLog, -⟩ := (turns_of_step hReach.ok hStep).gone hReach.ok hOld hGone
  exact ⟨hLog, hNone⟩

/-- A socket that a SYN has created. -/
structure Welcomed (env : Env) (c c' : Context) : Prop where
  listens : Standing.unknown.listens (c'.logs c.allocated) = some .known
  holds : ∃ sock tick, c'.Holds c.allocated sock ∧ c.tick ≤ tick ∧ tick < c'.tick ∧ ((env tick).backlogFull = false →
    sock.state ≠ .destroy ∧ sock.closeRequested = false ∧ sock.rcv.readShutdown = false)

theorem welcomed_accept (d : Datagram) (addr : PackedSockAddr) (c : Context) :
    (c.accept env d addr).allocated = c.allocated ∨
      (c.accept env d addr).allocated = c.allocated + 1 ∧ c.Welcomed env (c.accept env d addr) := by
  unfold accept
  dsimp only
  split_ifs
  · exact Or.inl rfl
  · exact Or.inl rfl
  · exact Or.inl rfl
  · exact Or.inl rfl
  · refine Or.inr ⟨allocated_runOn .., ?_⟩
    have hNow : c.called.create.sockets c.allocated = some (utpCreateSocket c.targetDelay c.optSndbuf c.optRcvbuf) :=
      Function.update_self ..
    have hThere : (c.called.create.addKey ⟨addr, d.header.connid + 1⟩ c.allocated).sockets c.allocated =
        some (utpCreateSocket c.targetDelay c.optSndbuf c.optRcvbuf) := hNow
    have hLog : c.called.create.logs c.allocated = [] := Function.update_self ..
    rw [runOn_of_some hThere]
    obtain ⟨w, hOffered, hEq⟩ := Conn.offered_acceptSocket env d addr
      (s := c.called.create.enter c.allocated (utpCreateSocket c.targetDelay c.optSndbuf c.optRcvbuf)) rfl
      ⟨_, _, _, _, rfl⟩ hLog
    have hSame : (c.called.create.addKey ⟨addr, d.header.connid + 1⟩ c.allocated).enter c.allocated
        (utpCreateSocket c.targetDelay c.optSndbuf c.optRcvbuf) =
      c.called.create.enter c.allocated (utpCreateSocket c.targetDelay c.optSndbuf c.optRcvbuf) := rfl
    have hClosed := (Conn.path_utpClose env .asked hOffered.told (.inl rfl)).path
    have hLive : (w.called.emit .onAccept).Live := hOffered.live
    have hTick : c.tick ≤ w.tick := (Nat.le_succ _).trans hOffered.tick
    rw [hSame, hEq]
    generalize c.called.create.addKey ⟨addr, d.header.connid + 1⟩ c.allocated = c₁
    obtain ⟨acks, ida, hLeave, -⟩ := leave_eq c.allocated (if (env w.tick).backlogFull = true then
      Conn.utpClose env (w.called.emit .onAccept) else w.called.emit .onAccept) c₁
    rw [hLeave]
    refine ⟨?_, _, w.tick, ⟨Function.update_self .., ?_⟩, hTick, ?_, fun hRoom => ?_⟩
    · refine (congrArg _ (Function.update_self ..)).trans ?_
      exact hOffered.listens env (env w.tick).backlogFull
    · split_ifs
      · exact (Path.keeps hClosed hOffered.told hLive).1
      · exact hLive
    · split_ifs
      · exact Path.tick_le hClosed
      · exact Nat.lt_succ_self _
    · rw [hRoom, if_neg Bool.false_ne_true]
      exact hOffered.phase

theorem allocated_reject (header : PacketFormatV1) (addr : PackedSockAddr) (c : Context) :
    (c.reject env header addr).allocated = c.allocated := by
  unfold reject
  dsimp only
  split
  · rfl
  · split_ifs <;> rfl

/-- Only a SYN, and `utp_create_socket`, create a socket. -/
theorem welcomed_processUdp (d : Datagram) (addr : PackedSockAddr) (c : Context) :
    (c.utpProcessUdp env d addr).2.allocated = c.allocated ∨
      (c.utpProcessUdp env d addr).2.allocated = c.allocated + 1 ∧ c.Welcomed env (c.utpProcessUdp env d addr).2 := by
  unfold utpProcessUdp
  dsimp only
  split_ifs
  · exact Or.inl rfl
  · exact Or.inl rfl
  · refine Or.inl ?_
    split
    · exact allocated_runOn ..
    · rfl
  · have hAccept : ((c.record addr (.readBytes 0 20)).accept env d addr).allocated = c.allocated ∨ _ :=
      welcomed_accept d addr (c.record addr (.readBytes 0 20))
    rcases hAccept with hSame | ⟨hMore, hWelcome⟩
    · exact Or.inl hSame
    · exact Or.inr ⟨hMore, hWelcome.listens, hWelcome.holds⟩
  · refine Or.inl ?_
    split
    · exact allocated_runOn ..
    · exact allocated_reject ..

theorem allocated_issueAcks (fuel : Nat) (c : Context) : (c.issueAcks env fuel).allocated = c.allocated := by
  induction fuel generalizing c with
  | zero => rfl
  | succ fuel ih =>
      unfold issueAcks
      split
      · rfl
      · exact (ih _).trans (allocated_runOn ..)

theorem allocated_checkSockets (order : List Nat) (c : Context) :
    (order.foldl (fun c p => c.checkSocket env p) c).allocated = c.allocated := by
  induction order generalizing c with
  | nil => rfl
  | cons p order ih =>
      refine (ih _).trans ?_
      unfold checkSocket
      dsimp only
      split
      · exact allocated_runOn ..
      · split_ifs
        · exact (sockets_delete ..).2.trans (allocated_runOn ..)
        · exact allocated_runOn ..

theorem allocated_connect {addr : PackedSockAddr} {draws : Nat} (hStep : c.step env (.connect p addr draws) = some c') :
    c'.allocated = c.allocated := by
  unfold step at hStep
  split_ifs at hStep
  obtain ⟨⟨seed, mid⟩, hDraw, hEq⟩ := Option.map_eq_some_iff.1 hStep
  obtain ⟨-, -, tick, rfl⟩ := drawSeed_spec hDraw
  rw [← hEq]
  exact allocated_runOn ..

/-- What an operation may create. -/
theorem allocated_step (hStep : c.step env op = some c') (hOp : op ≠ .createSocket) :
    c'.allocated = c.allocated ∨ c'.allocated = c.allocated + 1 ∧ c.Welcomed env c' := by
  have hWhole := hStep
  unfold step at hStep
  split_ifs at hStep
  cases op with
  | createSocket => exact absurd rfl hOp
  | setOption opt val =>
      cases hStep
      cases opt <;> exact Or.inl rfl
  | connect q addr draws => exact Or.inl (allocated_connect hWhole)
  | processUdp d addr =>
      cases hStep
      exact welcomed_processUdp d addr c
  | processIcmpFragmentation d addr nextHopMtu =>
      cases hStep
      unfold utpProcessIcmpFragmentation
      split
      · exact Or.inl rfl
      · exact Or.inl (allocated_runOn ..)
  | processIcmpError d addr =>
      cases hStep
      unfold utpProcessIcmpError
      split
      · exact Or.inl rfl
      · exact Or.inl (allocated_runOn ..)
  | issueDeferredAcks =>
      cases hStep
      exact Or.inl (allocated_issueAcks ..)
  | checkTimeouts order =>
      cases hStep
      unfold utpCheckTimeouts
      dsimp only
      split_ifs
      · exact Or.inl rfl
      · exact Or.inl (allocated_checkSockets order _)
  | _ =>
      cases hStep
      exact Or.inl (allocated_runOn ..)

/-- A socket that is dialled. -/
theorem news_dialled {addr : PackedSockAddr} {draws : Nat} (hReach : c.Reachable env)
    (hStep : c.step env (.connect p addr draws) = some c') : Standing.unknown.listens (c'.logs p) = some .unknown ∧
      ∃ sock, c'.Holds p sock ∧ sock.state = .synSent ∧ sock.closeRequested = false ∧ sock.rcv.readShutdown = false := by
  have hDraws : ∃ seed mid, c.drawSeed env addr draws = some (seed, mid) := by
    unfold step at hStep
    split_ifs at hStep
    obtain ⟨⟨seed, mid⟩, hDraw, -⟩ := Option.map_eq_some_iff.1 hStep
    exact ⟨seed, mid, hDraw⟩
  obtain ⟨seed, mid, hDraw⟩ := hDraws
  obtain ⟨start, fresh, hOk, hFresh, hNew, rfl⟩ := dialled_of_connect hReach.ok hDraw hStep
  obtain ⟨hPristine, hLog⟩ := hOk.pristine p fresh hFresh hNew
  have hPath : Path env .call _ (start.dialled env p fresh addr seed) := hOk.path_dialled hFresh hNew addr seed
  obtain ⟨sock, hHolds, hEnter, -⟩ := holds_enlisted ⟨addr, seed⟩ hOk hFresh hNew hPath
  have hClosed : (start.enter p fresh).closeRequested = false ∧ (start.enter p fresh).rcv.readShutdown = false := by
    obtain ⟨targetDelay, optSndbuf, optRcvbuf, ssthresh, rfl⟩ := hPristine
    exact ⟨rfl, rfl⟩
  have hBlank : (start.enter p fresh).log = [] := hLog
  obtain ⟨hPrivate, hPhase⟩ := Conn.private_dialled env addr seed hBlank
  rw [hClosed.1, hClosed.2] at hPhase
  have hSame : (((start.addKey ⟨addr, seed⟩ p).leave p (start.dialled env p fresh addr seed)).enter p sock).phase =
      ⟨.synSent, false, false⟩ := (congrArg Conn.phase hEnter).trans hPhase
  refine ⟨?_, sock, hHolds, congrArg Phase.state hSame, congrArg Phase.closeRequested hSame, congrArg Phase.readShutdown hSame⟩
  rw [logs_leave, Function.update_self]
  exact Standing.listens_unknown hPrivate

/-- The last callbacks, when the context is freed. -/
theorem news_destroy (order : List Nat) (hOk : c.Ok) (hLive : ∀ p sock, c.sockets p = some sock → c.Holds p sock) (p : Nat) :
    (c.utpDestroy order).sockets p = (if p ∈ order then none else c.sockets p) ∧
      (c.utpDestroy order).logs p =
        c.logs p ++ (if p ∈ order ∧ c.sockets p ≠ none then [.onStateChange .destroying] else []) ∧
          (c.utpDestroy order).allocated = c.allocated := by
  induction order generalizing c with
  | nil => simp [utpDestroy]
  | cons q order ih =>
      have hRest : (c.utpDestroy (q :: order)) = (c.delete q).utpDestroy order := rfl
      rw [hRest]
      cases hSock : c.sockets q with
      | none =>
          have hSame : c.delete q = c := by
            unfold delete
            rw [hSock]
          rw [hSame]
          obtain ⟨hSockets, hLogs, hAllocated⟩ := ih hOk hLive
          refine ⟨?_, ?_, hAllocated⟩
          · rw [hSockets]
            by_cases hHere : p = q
            · subst hHere
              simp [hSock]
            · simp [hHere]
          · rw [hLogs]
            by_cases hHere : p = q
            · subst hHere
              simp [hSock]
            · simp [hHere]
      | some sock =>
          have hHolds := hLive q sock hSock
          obtain ⟨acks, ida, hEq, -, -⟩ := hOk.delete_eq hHolds
          have hLive' : ∀ p sock, (c.delete q).sockets p = some sock → (c.delete q).Holds p sock := by
            intro p sock' hSock'
            refine ⟨hSock', ?_⟩
            rw [(sockets_delete q c).1] at hSock'
            by_cases hHere : p = q
            · rw [hHere, Function.update_self] at hSock'
              cases hSock'
            · rw [Function.update_of_ne hHere] at hSock'
              exact (hLive p sock' hSock').2
          obtain ⟨hSockets, hLogs, hAllocated⟩ := ih (hOk.delete hHolds) hLive'
          have hNow : (c.delete q).sockets = Function.update c.sockets q none := (sockets_delete q c).1
          have hLog : (c.delete q).logs = Function.update c.logs q (c.logs q ++ [.onStateChange .destroying]) := by rw [hEq]
          rw [hNow] at hSockets hLogs
          rw [hLog] at hLogs
          refine ⟨?_, ?_, hAllocated.trans (sockets_delete q c).2⟩
          · rw [hSockets]
            by_cases hHere : p = q
            · subst hHere
              simp
            · simp [hHere]
          · rw [hLogs]
            by_cases hHere : p = q
            · subst hHere
              simp [hSock]
            · simp [hHere]

end Context

end Utp
