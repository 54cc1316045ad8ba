import Utp.Invariant.Calls
import Utp.Invariant.Timer
import Utp.Guarantees.Table

/-! A socket that waits for its peer has a timer that runs, unless it was created for a SYN and
has not heard from its peer since: the accept path arms no timer. -/
namespace Utp

open Wrapping

section

variable {env : Env} {s : Conn}

theorem Armed.initialised (hClock : SaneClock env) (hPristine : s.toSocket.Pristine) (addr : PackedSockAddr)
    (seed recvId sendId : Nat) : Armed (s.initializeSocket env addr seed recvId sendId) := by
  obtain ⟨targetDelay, optSndbuf, optRcvbuf, ssthresh, hNew⟩ := hPristine
  have hRtt : s.rtt.rto = 3000 ∧ s.rtt.retransmitTimeout = 0 ∧ s.rtt.rtoTimeout = 0 := by
    rw [hNew]
    exact ⟨rfl, rfl, rfl⟩
  have hCount : s.snd.curWindowPackets = 0 := by
    rw [hNew]
    rfl
  have hStart : Armed (((s.setState .idle).updateCurrentMs env).assignIds addr seed recvId sendId).initClocks := by
    refine ⟨⟨hClock.reading s.tick, ?_, ?_⟩, fun hWaits => ?_, fun _ => ⟨hRtt.2.2, hCount⟩⟩
    · exact hRtt.1.trans_lt (by decide)
    · exact hRtt.2.1.trans_lt (by decide)
    · rcases hWaits with hSent | ⟨hOpen, -⟩
      · cases hSent
      · cases hOpen
  exact hStart.of_timer (Conn.timer_mtuReset env _)

theorem Armed.connectSocket (hClock : SaneClock env) (h : Armed s) : Armed (s.connectSocket env) := by
  unfold Conn.connectSocket
  dsimp only
  have hChecked := (h.of_timer (Conn.timer_check 2780 (s.snd.curWindowPackets = 0) s)).toPaced.of_pulse
    (Conn.pulse_check 2781 ((s.check 2780 (s.snd.curWindowPackets = 0)).snd.outbuf.get
      (s.check 2780 (s.snd.curWindowPackets = 0)).snd.seqNr).isNone _)
  generalize (s.check 2780 (s.snd.curWindowPackets = 0)).check 2781 ((s.check 2780 (s.snd.curWindowPackets = 0)).snd.outbuf.get
      (s.check 2780 (s.snd.curWindowPackets = 0)).snd.seqNr).isNone = t at hChecked ⊢
  have hSet : 0 < u64 (3000 + u64 (env t.tick).milliseconds : Nat) := by
    have hRuns := (hClock.reading t.tick).deadline (x := 3000) (by decide)
    rwa [Nat.add_comm] 
  have hSent : Armed (t.startConnect env).queueSyn := by
    refine .of_running ⟨hClock.reading t.tick, hChecked.rto_lt, ?_⟩ hSet rfl
    exact (by decide : 3000 < 4294967296)
  exact hSent.of_timer (Conn.timer_sendPacket env _ _)

theorem Armed.acceptSocket (hClock : SaneClock env) (hPristine : s.toSocket.Pristine) (d : Datagram) (addr : PackedSockAddr) :
    Armed (s.acceptSocket env d addr) := by
  have hStart := Armed.initialised hClock hPristine addr d.header.connid (d.header.connid + 1) d.header.connid
  have hIdle : (s.initializeSocket env addr d.header.connid (d.header.connid + 1) d.header.connid).state = .idle :=
    congrArg View.state (Conn.view_initializeSocket env addr d.header.connid (d.header.connid + 1) d.header.connid s)
  rw [Conn.acceptSocket_eq]
  generalize s.initializeSocket env addr d.header.connid (d.header.connid + 1) d.header.connid = t at hStart hIdle ⊢
  have hEarly := hStart.early (by rw [hIdle]; rfl)
  have hRecv : Armed (t.startAccept env d.header.seqNr) := by
    refine ⟨⟨hStart.ticking, hStart.rto_lt, hStart.timeout_lt⟩, fun hWaits => ?_, fun _ => hEarly⟩
    rcases hWaits with hSent | ⟨hOpen, -⟩
    · cases hSent
    · cases hOpen
  have hAcked := (hRecv.utpProcessIncoming hClock d true).of_timer (Conn.timer_sendAck env true _)
  unfold Conn.finishAccept
  dsimp only
  generalize ((t.startAccept env d.header.seqNr).utpProcessIncoming env d true).sendAck env true = u at hAcked ⊢
  have hTold : Armed (u.called.emit .onAccept) := hAcked.of_timer rfl
  split_ifs
  · exact hTold.utpClose hClock
  · exact hTold

/-- The timer is armed, where it has to be, between any two functions. -/
theorem upheld_armed (hClock : SaneClock env) : Upheld env Armed := by
  refine ⟨?_, ?_, ?_, ?_, ?_⟩
  · intro s addr seed hPristine _
    exact (Armed.initialised hClock hPristine addr seed seed (seed + 1)).connectSocket hClock
  · intro s d addr hPristine _
    exact .acceptSocket hClock hPristine d addr
  · intro s s' _ _ h hCall
    cases hCall with
    | writev iovecs => exact (h.utpWritev hClock iovecs).1
    | readDrained => exact h.utpReadDrained hClock
    | setsockopt opt val => cases opt <;> exact h.of_timer rfl
    | shutdown how => exact h.utpShutdown hClock how
    | close => exact h.utpClose hClock
    | incoming d hSyn => exact h.utpProcessIncoming hClock d false
    | reset => exact h.receiveReset
    | fragmentation nextHopMtu => exact h.of_timer (Conn.timer_receiveIcmpFragmentation env nextHopMtu s)
    | icmpError => exact h.receiveIcmpError
    | ack => exact h.of_timer (Conn.timer_sendAck env false s)
    | timeouts => exact h.checkTimeouts env
  · intro s t tick h hOther
    exact h.clock hOther.ticking tick
  · intro s n tick h
    exact h.clock (hClock.reading n) tick

/-- A check of a socket that is being set up or is up gets to the guard of the timeout branch
with the timer as it was. -/
theorem Conn.checkTimeouts_guard (env : Env) (hTimed : s.state = .synSent ∨ s.state = .synRecv ∨ s.state.open = true) :
    ∃ t : Conn, t.timer = s.timer ∧ s.checkTimeouts env =
      (if (if t.rtoExpired then t.onTimeout env else (false, t)).1 then (if t.rtoExpired then t.onTimeout env else (false, t)).2
        else (if t.rtoExpired then t.onTimeout env else (false, t)).2.makeWritable.keepAliveIfIdle env) := by
  have hChecked : (s.check 1133 s.frontQueued).timer = s.timer := Conn.timer_check 1133 s.frontQueued s
  have hFlushed := (Conn.timer_flushPackets env (s.check 1133 s.frontQueued)).trans hChecked
  have hBusy : (s.check 1133 s.frontQueued).state ≠ .destroy := by
    rw [state_of_timer hChecked]
    intro hDone
    rw [hDone] at hTimed
    simp [ConnState.open] at hTimed
  unfold Conn.checkTimeouts
  dsimp only
  rw [if_pos hBusy]
  generalize (s.check 1133 s.frontQueued).flushPackets env = t at hFlushed ⊢
  have hReset : t.resetZeroWindow.timer = s.timer := by
    refine .trans ?_ hFlushed
    unfold Conn.resetZeroWindow
    split_ifs <;> rfl
  refine ⟨t.resetZeroWindow, hReset, ?_⟩
  rw [← state_of_timer hFlushed] at hTimed
  generalize hState : t.state = st at hTimed ⊢
  cases st with
  | synSent | synRecv | connectedFull | connected => rfl
  | uninitialized | idle | reset | destroy => simp [ConnState.open] at hTimed

/-- The guard of the timeout branch is met from the deadline on, for 24 days. -/
theorem Conn.rtoExpired_of_late (hRuns : 0 < s.rtt.rtoTimeout) (hLate : s.rtt.rtoTimeout ≤ s.currentMs)
    (hSoon : s.currentMs < s.rtt.rtoTimeout + 2147483648) : s.rtoExpired = true := by
  unfold Conn.rtoExpired
  rw [i32_of_lt (by omega) (by omega)]
  simp only [Bool.and_eq_true, decide_eq_true_eq]
  exact ⟨by omega, hRuns⟩

theorem Conn.not_rtoExpired (hStopped : s.rtt.rtoTimeout = 0) : s.rtoExpired = false := by
  unfold Conn.rtoExpired
  simp [hStopped]

/-- A half-open socket whose timer is stopped outlives every check. -/
theorem Conn.checkTimeouts_stopped (env : Env) (hState : s.state = .synRecv) (hStopped : s.rtt.rtoTimeout = 0) :
    (s.checkTimeouts env).state = .synRecv ∧ (s.checkTimeouts env).rtt.rtoTimeout = 0 := by
  obtain ⟨t, hTimer, hChecked⟩ := Conn.checkTimeouts_guard env (Or.inr (Or.inl hState))
  have hPulse : t.pulse = s.pulse := congrArg Timer.toPulse hTimer
  have hRtt : t.rtt = s.rtt := congrArg Pulse.rtt hPulse
  have hRecv : t.state = .synRecv := (state_of_timer hTimer).trans hState
  have hWritable : t.makeWritable = t := by
    unfold Conn.makeWritable
    rw [hRecv]
    rfl
  have hKept : (t.keepAliveIfIdle env).timer = t.timer := by
    unfold Conn.keepAliveIfIdle
    split_ifs
    · exact Conn.timer_sendKeepAlive env t
    · rfl
  have hKeptPulse : (t.keepAliveIfIdle env).pulse = t.pulse := congrArg Timer.toPulse hKept
  have hKeptRtt : (t.keepAliveIfIdle env).rtt = t.rtt := congrArg Pulse.rtt hKeptPulse
  rw [Conn.not_rtoExpired (by rw [hRtt]; exact hStopped)] at hChecked
  have hSame : s.checkTimeouts env = t.keepAliveIfIdle env := by
    rw [hChecked]
    simp [hWritable]
  rw [hSame, hKeptRtt, hRtt]
  exact ⟨(state_of_timer hKept).trans hRecv, hStopped⟩

end

/-- The socket has to hear from its peer. -/
def Waiting (s : Conn) : Prop :=
  s.state = .synSent ∨ s.state = .synRecv ∨ s.state.open = true ∧ 0 < s.snd.curWindowPackets

/-- The timer of a socket runs: a check that is made late enough takes the timeout branch, and
one that finds the socket half open destroys it. -/
structure TimesOut (env : Env) (s : Conn) : Prop where
  armed : 0 < s.rtt.rtoTimeout
  expires : ∀ currentMs tick, s.rtt.rtoTimeout ≤ currentMs → currentMs < s.rtt.rtoTimeout + 2147483648 →
    ∃ t : Conn, t.timer = ({ s with currentMs := currentMs, tick := tick } : Conn).timer ∧ t.rtoExpired = true ∧
      ({ s with currentMs := currentMs, tick := tick } : Conn).checkTimeouts env =
        if (t.onTimeout env).1 then (t.onTimeout env).2 else (t.onTimeout env).2.makeWritable.keepAliveIfIdle env
  halfOpen : s.state = .synRecv → ∃ currentMs tick,
    (({ s with currentMs := currentMs, tick := tick } : Conn).checkTimeouts env).state = .destroy

/-- A waiting socket has a timer that runs exactly when it is not half open. -/
theorem waiting_socket_times_out_iff (env : Env) (hClock : SaneClock env) (c : Context) (hReach : c.Reachable env) (p : Nat)
    (sock : Socket) (hSock : c.sockets p = some sock) (hWaiting : Waiting (c.enter p sock)) :
    TimesOut env (c.enter p sock) ↔ sock.state ≠ .synRecv := by
  have hLive : sock.state ≠ .uninitialized := by
    intro hBlank
    have hBlankHere : (c.enter p sock).state = .uninitialized := hBlank
    unfold Waiting at hWaiting
    rw [hBlankHere] at hWaiting
    simp [ConnState.open] at hWaiting
  have hArmed : Armed (c.enter p sock) := (upheld_armed hClock).reachable hReach p sock ⟨hSock, hLive⟩
  constructor
  · intro hTimes hRecv
    have hEarly := hArmed.early (by rw [show (c.enter p sock).state = .synRecv from hRecv]; rfl)
    have hRuns := hTimes.armed
    rw [hEarly.1] at hRuns
    exact lt_irrefl 0 hRuns
  · intro hOther
    have hRuns : 0 < (c.enter p sock).rtt.rtoTimeout := by
      apply hArmed.waits
      rcases hWaiting with hSent | hRecv | hOpen
      · exact Or.inl hSent
      · exact absurd hRecv hOther
      · exact Or.inr hOpen
    refine ⟨hRuns, fun currentMs tick hLate hSoon => ?_, fun hRecv => absurd hRecv hOther⟩
    have hTimed : (c.enter p sock).state = .synSent ∨ (c.enter p sock).state = .synRecv ∨
        (c.enter p sock).state.open = true := hWaiting.imp_right (Or.imp_right And.left)
    generalize c.enter p sock = s at hRuns hLate hSoon hTimed ⊢
    obtain ⟨t, hTimer, hChecked⟩ :=
      Conn.checkTimeouts_guard env (s := { s with currentMs := currentMs, tick := tick }) hTimed
    have hPulse : t.pulse = ({ s with currentMs := currentMs, tick := tick } : Conn).pulse := congrArg Timer.toPulse hTimer
    have hRtt : t.rtt = s.rtt := congrArg Pulse.rtt hPulse
    have hMs : t.currentMs = currentMs := congrArg Pulse.currentMs hPulse
    have hExpired : t.rtoExpired = true := by
      apply Conn.rtoExpired_of_late
      · rw [hRtt]
        exact hRuns
      · rw [hRtt, hMs]
        exact hLate
      · rw [hRtt, hMs]
        exact hSoon
    refine ⟨t, hTimer, hExpired, ?_⟩
    rw [hChecked, hExpired]
    rfl

theorem saneClock_steadyEnv : SaneClock steadyEnv := by
  intro n
  exact (by decide : 0 < 1000000 ∧ 1000000 < 18446744069414584320)

/-- A dialled socket is checked three seconds after its SYN. -/
theorem waiting_socket_times_out_dialled : ∃ (c : Context) (sock : Socket), c.Reachable steadyEnv ∧
    c.sockets 0 = some sock ∧ sock.state = .synSent ∧ TimesOut steadyEnv (c.enter 0 sock) := by
  have hRun : ((utpInit true false).run steadyEnv [.createSocket, .connect 0 somePeer 1]).any
      (fun c => (c.sockets 0).any fun sock => sock.state == .synSent) = true := by
    decide +kernel
  obtain ⟨c, hReach, hOk⟩ := Context.Reachable.exists_of_run hRun
  obtain ⟨sock, hSock, hState⟩ := (Option.any_eq_true _ _).1 hOk
  have hSent := beq_iff_eq.1 hState
  refine ⟨c, sock, hReach, hSock, hSent, ?_⟩
  apply (waiting_socket_times_out_iff steadyEnv saneClock_steadyEnv c hReach 0 sock hSock (Or.inl hSent)).2
  rw [hSent]
  decide

/-- A socket that was created for a SYN stays half open, however often and late it is checked. -/
theorem half_open_socket_stays : ∃ (c : Context) (sock : Socket), c.Reachable steadyEnv ∧ c.sockets 0 = some sock ∧
    Waiting (c.enter 0 sock) ∧ sock.rtt.rtoTimeout = 0 ∧ ¬TimesOut steadyEnv (c.enter 0 sock) ∧
    ∀ times : List (Nat × Nat), (times.foldl (fun s time =>
      ({ s with currentMs := time.1, tick := time.2 } : Conn).checkTimeouts steadyEnv) (c.enter 0 sock)).state = .synRecv := by
  have hRun : ((utpInit true false).run steadyEnv [.processUdp (somePacket stSyn 5 100 0 []) somePeer]).any
      (fun c => (c.sockets 0).any fun sock => sock.state == .synRecv && sock.rtt.rtoTimeout == 0) = true := by
    decide +kernel
  obtain ⟨c, hReach, hOk⟩ := Context.Reachable.exists_of_run hRun
  obtain ⟨sock, hSock, hBoth⟩ := (Option.any_eq_true _ _).1 hOk
  simp only [Bool.and_eq_true, beq_iff_eq] at hBoth
  obtain ⟨hRecv, hStopped⟩ := hBoth
  have hStays : ∀ (times : List (Nat × Nat)) (s : Conn), s.state = .synRecv → s.rtt.rtoTimeout = 0 →
      (times.foldl (fun s time => ({ s with currentMs := time.1, tick := time.2 } : Conn).checkTimeouts steadyEnv) s).state =
        .synRecv := by
    intro times
    induction times with
    | nil => exact fun s hState _ => hState
    | cons time times ih =>
        intro s hState hZero
        obtain ⟨hNext, hNextZero⟩ := Conn.checkTimeouts_stopped (s := { s with currentMs := time.1, tick := time.2 })
          steadyEnv hState hZero
        exact ih _ hNext hNextZero
  refine ⟨c, sock, hReach, hSock, Or.inr (Or.inl hRecv), hStopped, fun hTimes => ?_, fun times => hStays times _ hRecv hStopped⟩
  have hRuns : 0 < sock.rtt.rtoTimeout := hTimes.armed
  rw [hStopped] at hRuns
  exact lt_irrefl 0 hRuns

end Utp
