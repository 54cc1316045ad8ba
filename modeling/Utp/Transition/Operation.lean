import Utp.Transition.Packet

/-! Every operation of the interface on one socket is a path of elementary transitions. -/
namespace Utp

open Wrapping

namespace Conn

variable (env : Env) (cause : Cause)

/-- A probe that timed out moves the ceiling of the search below its size. -/
theorem path_probeTimeout (s : Conn) : QuietPath env cause s (s.probeTimeout env) := by
  have hLost : QuietPath env cause s
      (if s.ignoreLoss then s.probeLost env else s) := by
    split_ifs with hIgnore
    · have hProbe : s.mtu.probeSeq ≠ 0 := by
        simp only [ignoreLoss, Bool.and_eq_true, bne_iff_ne] at hIgnore
        exact hIgnore.2
      exact .single (.probeLost s hProbe)
    · exact .refl
  exact hLost.tail (.clearProbe _)

/-- After a timeout the window is one packet, or two thirds of what it was when nothing is in flight. -/
theorem path_timeoutWindow (s : Conn) : QuietPath env cause s s.timeoutWindow := by
  unfold timeoutWindow
  dsimp only
  have hDup : Quiet env cause s _ := .duplicateAck s 0
  split_ifs
  · exact (Relation.ReflTransGen.single hDup).tail (.window _ _)
  · exact (Relation.ReflTransGen.single hDup).tail (.window _ _)

/-- A lost packet stays in the queue. -/
theorem curWindowPackets_losePacket (i : Nat) (s : Conn) :
    (s.losePacket i).snd.curWindowPackets = s.snd.curWindowPackets := by
  rcases losePacket_cases i s with hSame | ⟨pkt, -, -, -, hLost⟩
  · rw [hSame]
  · rw [hLost]
    exact congrArg View.curWindowPackets (view_check _ _ _)

/-- By induction on the packets that are left: each one in flight is marked to be sent again and taken
from the window. -/
theorem path_loseFrom (count i : Nat) {s : Conn} (h : i + count ≤ s.snd.curWindowPackets) :
    SendPath env cause s (s.loseFrom count i) := by
  induction count generalizing i s with
  | zero => exact .refl
  | succ count ih =>
      have hLost : Queueing env cause s _ := .lost s i (by omega)
      have hSame := curWindowPackets_losePacket i s
      exact hLost.path.trans (ih (i + 1) (by omega))

/-- The oldest packet is sent again at once. -/
theorem path_timeoutResend (s : Conn) : SendPath env cause s (s.timeoutResend env) := by
  unfold timeoutResend
  split_ifs
  · have hTimed : Quiet env cause s _ := .timedOut s
    exact .tail (.tail (.single (.quiet hTimed)) (.quiet (Quiet.check _ 1259 _ (by decide))))
      (.queueing (Queueing.send _ _))
  · exact .refl

/-- The states in which the timer of a socket runs. -/
def timed (st : ConnState) : Bool := st = .synSent || st = .synRecv || st.open

/-- The search never ends a connection. -/
theorem state_probeTimeout (s : Conn) : (s.probeTimeout env).state = s.state := by
  unfold probeTimeout
  dsimp only
  split_ifs
  · exact congrArg View.state (view_probeLost env s)
  · rfl

/-- The retransmission timeout: the connection is given up after too many, and otherwise everything in
flight counts as lost. -/
theorem path_onTimeout {s : Conn} (hState : timed s.state = true) :
    SendPath env .timer s (s.onTimeout env).2 := by
  have hProbe := path_probeTimeout env .timer s
  have hSame := state_probeTimeout env s
  unfold onTimeout
  dsimp only
  generalize s.probeTimeout env = t at hProbe hSame ⊢
  rw [← hSame] at hState
  generalize (if s.ignoreLoss then t.rtt.retransmitTimeout else u32 (t.rtt.retransmitTimeout * 2)) =
    timeout
  split_ifs with hRecv hGive hIgnore
  · exact hProbe.path.trans (Moving.expired t hRecv rfl).path
  · have hMove : t.state = .synSent ∨ t.state.open = true := by
      simp only [timed, Bool.or_eq_true, decide_eq_true_eq] at hState
      tauto
    exact hProbe.path.trans (Moving.gaveUp t hMove).path
  · have hBack := hProbe.path.trans (Quiet.backoff t timeout).path
    exact (hBack.trans (path_loseFrom env .timer _ 0 (Nat.zero_add _).le)).trans (path_timeoutResend env .timer _)
  · have hBack := (hProbe.tail (Quiet.backoff t timeout)).trans (path_timeoutWindow env .timer _)
    exact ((QuietPath.path hBack).trans (path_loseFrom env .timer _ 0 (Nat.zero_add _).le)).trans
      (path_timeoutResend env .timer _)

/-- By induction on the queue, every packet that the window admits is sent. -/
theorem path_flushPackets (s : Conn) : SendPath env cause s (s.flushPackets env) :=
  path_flushFrom env cause _ s

/-- The window of a peer that has advertised none is opened again when its timer has run out. -/
theorem path_resetZeroWindow (s : Conn) : QuietPath env cause s s.resetZeroWindow := by
  unfold resetZeroWindow
  split_ifs
  · exact .single (.window s _)
  · exact .refl

/-- Marking packets as lost does not end a connection. -/
theorem state_loseFrom (count i : Nat) (s : Conn) : (s.loseFrom count i).state = s.state := by
  induction count generalizing i s with
  | zero => rfl
  | succ count ih =>
      refine (ih (i + 1) (s.losePacket i)).trans ?_
      rcases losePacket_cases i s with hSame | ⟨pkt, -, -, -, hLost⟩
      · rw [hSame]
      · rw [hLost]
        exact congrArg View.state (view_check _ _ _)

/-- Neither does sending the oldest one again. -/
theorem state_timeoutResend (s : Conn) : (s.timeoutResend env).state = s.state := by
  unfold timeoutResend
  split_ifs
  · exact congrArg WriteFrame.state ((writeFrame_sendPacket env _ _).trans (writeFrame_check _ _ _))
  · rfl

/-- A connection that is not given up keeps its state. -/
theorem state_onTimeout {s : Conn} (hKept : (s.onTimeout env).1 = false) :
    (s.onTimeout env).2.state = s.state := by
  have hSame := state_probeTimeout env s
  unfold onTimeout at hKept ⊢
  dsimp only at hKept ⊢
  generalize s.probeTimeout env = t at hSame hKept ⊢
  generalize (if s.ignoreLoss then t.rtt.retransmitTimeout else u32 (t.rtt.retransmitTimeout * 2)) =
    timeout at hKept ⊢
  split_ifs at hKept ⊢
  · exact (state_timeoutResend env _).trans ((state_loseFrom _ _ _).trans hSame)
  · refine (state_timeoutResend env _).trans ((state_loseFrom _ _ _).trans ?_)
    unfold timeoutWindow
    dsimp only
    split_ifs
    · exact hSame
    · exact hSame

/-- The keepalive is an ack of the packet before the last one that was consumed. -/
theorem path_keepAliveIfIdle {s : Conn} (hState : timed s.state = true) :
    QuietPath env cause s (s.keepAliveIfIdle env) := by
  unfold keepAliveIfIdle
  split_ifs with hIdle
  · simp only [Bool.and_eq_true, decide_eq_true_eq, Bool.not_eq_true'] at hIdle
    have hOpen : s.state.open = true := by
      have hRank := hIdle.1.1
      cases hCase : s.state <;> simp_all [timed, ConnState.open, ConnState.rank]
    exact .single (.keepAlive s hOpen hIdle.1.2)
  · exact .refl

/-- A connection that was full is connected again. -/
theorem timed_makeWritable {s : Conn} (hState : timed s.state = true) :
    timed s.makeWritable.state = true := by
  unfold makeWritable
  split_ifs
  · unfold noteFull
    split_ifs
    exact hState
  · rfl
  · exact hState

/-- The timers in the order of the source: zero window, retransmission, writability, keepalive. -/
theorem path_runTimers {s : Conn} (hState : timed s.state = true) :
    SendPath env .timer s (s.runTimers env) := by
  have hZero := (path_resetZeroWindow env .timer s).path
  have hSame : s.resetZeroWindow.state = s.state := by
    unfold resetZeroWindow
    split_ifs <;> rfl
  rw [← hSame] at hState
  unfold runTimers
  dsimp only
  generalize s.resetZeroWindow = u at hZero hState ⊢
  have hTimeout : SendPath env .timer s (if u.rtoExpired then u.onTimeout env else (false, u)).2 := by
    split_ifs
    · exact hZero.trans (path_onTimeout env hState)
    · exact hZero
  have hKept : (if u.rtoExpired then u.onTimeout env else (false, u)).1 = false →
      timed (if u.rtoExpired then u.onTimeout env else (false, u)).2.state = true := by
    split_ifs
    · intro hFalse
      rw [state_onTimeout env hFalse]
      exact hState
    · exact fun _ => hState
  generalize (if u.rtoExpired then u.onTimeout env else (false, u)) = r at hTimeout hKept ⊢
  split_ifs with hGone
  · exact hTimeout
  · have hTimed := hKept (eq_false_of_ne_true hGone)
    exact (hTimeout.trans (path_makeWritable env .timer r.2)).trans
      (path_keepAliveIfIdle env .timer (timed_makeWritable hTimed)).path

/-- What is queued is flushed first, and the timers run in the states that wait for a peer. -/
theorem path_checkTimeouts {s : Conn} (h : Core s) : SendPath env .timer s (s.checkTimeouts env) := by
  unfold checkTimeouts
  dsimp only
  rw [check_true _ _ (frontQueued_of_core h)]
  have hFlush : SendPath env .timer s (if s.state ≠ .destroy then s.flushPackets env else s) := by
    split_ifs
    · exact path_flushPackets env .timer s
    · exact .refl
  generalize (if s.state ≠ .destroy then s.flushPackets env else s) = t at hFlush ⊢
  cases hCase : t.state with
  | synSent => exact hFlush.trans (path_runTimers env (by rw [hCase]; rfl))
  | synRecv => exact hFlush.trans (path_runTimers env (by rw [hCase]; rfl))
  | connected => exact hFlush.trans (path_runTimers env (by rw [hCase]; rfl))
  | connectedFull => exact hFlush.trans (path_runTimers env (by rw [hCase]; rfl))
  | uninitialized => exact hFlush
  | idle => exact hFlush
  | reset => exact hFlush
  | destroy => exact hFlush

/-- The FIN is queued once, behind all data. -/
theorem path_closeConnected {s : Conn} (h : Core s) (hOpen : s.state.open = true) :
    SendPath env .asked s (s.closeConnected env) := by
  have hRequest : SendPath env .asked s _ := (Moving.closing s hOpen rfl).path
  unfold closeConnected
  dsimp only
  split_ifs with hFin hAcked
  · exact hRequest.trans (path_sendFin env (h.sendPath hRequest) hOpen
      (Bool.not_eq_true' _ |>.mp hFin))
  · exact hRequest.trans (Moving.closed _ (fun _ => rfl) (Or.inl rfl)).path
  · exact hRequest

/-- A close. The one that the answer to a SYN makes finds a connection that is not up. -/
theorem path_utpClose {s : Conn} (h : Core s)
    (hAsked : cause = .asked ∨ (∃ d, cause = .syn d) ∧ s.state.open = false) : SendPath env cause s (s.utpClose env) := by
  have hClosed := hAsked.imp_right And.left
  have hUp : s.state.open = true → SendPath env cause s (s.closeConnected env) := by
    intro hOpen
    obtain rfl := hAsked.resolve_right fun hSyn => by rw [hSyn.2] at hOpen; cases hOpen
    exact path_closeConnected env h hOpen
  unfold utpClose
  cases hCase : s.state with
  | connected => exact hUp (by rw [hCase]; rfl)
  | connectedFull => exact hUp (by rw [hCase]; rfl)
  | synSent =>
      refine (Quiet.hurry s).path.trans (Moving.closed _ ?_ hClosed).path
      intro hOpen
      change s.state.open = true at hOpen
      rw [hCase] at hOpen
      exact nomatch hOpen
  | _ =>
      refine (Moving.closed s ?_ hClosed).path
      intro hOpen
      rw [hCase] at hOpen
      exact nomatch hOpen

/-- Shutting down the writing side queues the FIN, and does not ask for the socket to be closed. -/
theorem path_shutdownWrite {s : Conn} (h : Core s) : SendPath env .asked s (s.shutdownWrite env) := by
  have hFin : s.state.open = true → SendPath env .asked s (if !s.finSent then s.sendFin env else s) := by
    intro hOpen
    split_ifs with hSent
    · exact path_sendFin env h hOpen (Bool.not_eq_true' _ |>.mp hSent)
    · exact .refl
  unfold shutdownWrite
  cases hCase : s.state with
  | connected => exact hFin (by rw [hCase]; rfl)
  | connectedFull => exact hFin (by rw [hCase]; rfl)
  | synSent => exact (Quiet.hurry s).path
  | _ => exact .refl

/-- Reading is shut down by a flag only. -/
theorem path_utpShutdown (how : Shutdown) {s : Conn} (h : Core s) :
    SendPath env .asked s (s.utpShutdown env how) := by
  have hShut : QuietPath env .asked s (if how ≠ .wr then { s with rcv.readShutdown := true } else s) := by
    split_ifs
    · exact .single (.shutRead s rfl)
    · exact .refl
  unfold utpShutdown
  dsimp only
  generalize (if how ≠ .wr then ({ s with rcv.readShutdown := true } : Conn) else s) = t at hShut ⊢
  split_ifs
  · exact hShut.path.trans (path_shutdownWrite env (h.sendPath hShut.path))
  · exact hShut.path

/-- The ack that tells of a larger window. -/
theorem path_utpReadDrained (s : Conn) : QuietPath env .drained s (s.utpReadDrained env) := by
  have hCalled : QuietPath env .drained s s.called := .single (.called s)
  unfold utpReadDrained
  dsimp only
  split_ifs
  · exact hCalled.tail (.ack _ (Or.inr rfl))
  · exact (hCalled.tail (.clock _)).tail (.scheduleAck _ (Or.inl rfl))
  · exact hCalled

/-- Dialling: the SYN of an initialised socket is queued and sent. -/
theorem path_connectSocket {s : Conn} (hIdle : s.state = .idle)
    (hEmpty : s.snd.curWindowPackets = 0) (hPointer : s.snd.fastResendSeqNr = 1) :
    Path env cause s (s.connectSocket env) := by
  have hCheck : Quiet env cause s _ := .check s 2780 (s.snd.curWindowPackets = 0) (by decide)
  have hSame := view_check 2780 (s.snd.curWindowPackets = 0) s
  unfold connectSocket
  generalize s.check 2780 (s.snd.curWindowPackets = 0) = u at hCheck hSame ⊢
  have hCheckTwo : Path env cause s (u.check 2781 (u.snd.outbuf.get u.snd.seqNr).isNone) :=
    .tail (.single (.sending (.quiet hCheck))) (.sending (.quiet (.check u 2781 _ (by decide))))
  have hSameTwo := (view_check 2781 (u.snd.outbuf.get u.snd.seqNr).isNone u).trans hSame
  dsimp only
  generalize u.check 2781 (u.snd.outbuf.get u.snd.seqNr).isNone = w at hCheckTwo hSameTwo ⊢
  have hDial : Setup env cause w _ := .dial w
    ((congrArg View.state hSameTwo).trans hIdle)
    ((congrArg View.curWindowPackets hSameTwo).trans hEmpty)
    ((congrArg View.fastResendSeqNr hSameTwo).trans hPointer)
  exact (hCheckTwo.tail (.setup hDial)).tail (.sending (.queueing (.send _ _)))

/-- The header of the SYN for which a socket was created. -/
theorem path_processSyn (d : Datagram) {s : Conn} (hAck : s.rcv.ackNr < 65536)
    (hState : s.state ≠ .synSent) :
    QuietPath env cause s (s.utpProcessIncoming env d true) := by
  have hHead : QuietPath env cause s ((s.updateCurrentMs env).emit (.readBytes 0 20)) :=
    Relation.ReflTransGen.head (Quiet.clock s) (.single (Quiet.read _ 0 20))
  unfold utpProcessIncoming
  dsimp only
  generalize (s.updateCurrentMs env).emit (.readBytes 0 20) = t at hHead ⊢
  have hCalled : QuietPath env cause s t.called := hHead.tail (Quiet.called t)
  have hChecked : QuietPath env cause s (t.called.check 1836 (d.header.type ≠ stReset)) :=
    hCalled.tail (Quiet.check _ 1836 _ (by decide))
  generalize t.called.check 1836 (d.header.type ≠ stReset) = u at hChecked ⊢
  have hSkip : QuietPath env cause s (u.skipExtensions d).2 :=
    hChecked.trans (path_skipExtensions env cause d u)
  split
  · exact hHead
  split
  · exact hCalled
  split
  · exact hChecked
  generalize u.skipExtensions d = parsed at hSkip ⊢
  obtain ⟨result, w⟩ := parsed
  cases result with
  | none => exact hSkip
  | some found =>
      have hSame : w.state = s.state := congrArg View.state (hSkip.view hAck)
      change QuietPath env cause s (w.processBody env d d.header found.1 found.2 _ true)
      have hNot : ¬w.state = .synSent := hSame ▸ hState
      unfold processBody
      rw [if_neg hNot]
      exact hSkip.tail (.heard w)

/-- What `utp_process_udp` does with a socket that it has created. -/
def finishAccept (d : Datagram) (s : Conn) : Conn :=
  let s := (s.utpProcessIncoming env d true).sendAck env true
  if (env s.tick).backlogFull then (s.called.emit .onAccept).utpClose env else s.called.emit .onAccept

/-- The accepted socket is initialised, learns the number of its peer, and answers. -/
theorem acceptSocket_eq (d : Datagram) (addr : PackedSockAddr) (s : Conn) : s.acceptSocket env d addr =
    ((s.initializeSocket env addr d.header.connid (d.header.connid + 1) d.header.connid).startAccept env
      d.header.seqNr).finishAccept env d := rfl

/-- The program may close the socket from its callback, when its backlog is full. -/
theorem path_finishAccept (d : Datagram) {s : Conn} (h : Core s) (hRecv : s.state = .synRecv)
    (hNone : s.rcv.reorderCount = 0) : Path env (.syn d) s (s.finishAccept env d) := by
  have hBound := h.view.bounds.ackNr_lt
  have hSyn := path_processSyn env (.syn d) d hBound (by rw [hRecv]; exact nofun)
  have hSynCount : (s.utpProcessIncoming env d true).rcv.reorderCount = 0 :=
    (congrArg View.reorderCount (hSyn.view hBound)).trans hNone
  have hAcked : Path env (.syn d) s ((s.utpProcessIncoming env d true).sendAck env true) :=
    hSyn.path.path.tail (.sending (.quiet (.synAck _ d rfl hSynCount)))
  unfold finishAccept
  dsimp only
  have hState : ((s.utpProcessIncoming env d true).sendAck env true).state = s.state :=
    (congrArg Foreground.state (foreground_sendAck env true _)).trans (congrArg View.state (hSyn.view hBound))
  generalize (s.utpProcessIncoming env d true).sendAck env true = w at hAcked hState ⊢
  have hTold : Path env (.syn d) s (w.called.emit .onAccept) :=
    (hAcked.tail (.sending (.quiet (.called w)))).tail (.sending (.quiet (.onAccept _ d rfl)))
  split_ifs
  · have hShut : (w.called.emit .onAccept).state.open = false := by
      change w.state.open = false
      rw [hState, hRecv]
      rfl
    exact hTold.trans (path_utpClose env (.syn d) (h.path hTold) (.inr ⟨⟨d, rfl⟩, hShut⟩)).path
  · exact hTold

/-- Accepting is a path from the initialised socket on. -/
theorem path_acceptSocket (d : Datagram) (addr : PackedSockAddr) {s : Conn} (h : Core s)
    (hState : s.state = .uninitialized) (hCount : s.snd.curWindowPackets = 0)
    (hEmpty : s.rcv.reorderCount = 0) :
    Path env (.syn d)
      (s.initializeSocket env addr d.header.connid (d.header.connid + 1) d.header.connid)
      (s.acceptSocket env d addr) := by
  have hCore : Core (s.initializeSocket env addr d.header.connid (d.header.connid + 1)
      d.header.connid) := h.initialise addr _ _ _ hState
  have hView := view_initializeSocket env addr d.header.connid (d.header.connid + 1) d.header.connid s
  rw [acceptSocket_eq]
  generalize s.initializeSocket env addr d.header.connid (d.header.connid + 1) d.header.connid = t
    at hCore hView ⊢
  have hIdle : t.state = .idle := congrArg View.state hView
  have hZero : t.snd.curWindowPackets = 0 := (congrArg View.curWindowPackets hView).trans hCount
  have hReorder : t.rcv.reorderCount = 0 := (congrArg View.reorderCount hView).trans hEmpty
  have hStart : Path env (.syn d) t (t.startAccept env d.header.seqNr) :=
    .single (.setup (.accept t d rfl hIdle hZero))
  exact hStart.trans (path_finishAccept env d (hCore.path hStart) rfl hReorder)

end Conn

end Utp
