import Utp.Transition.Arrival

/-! The retransmission timer: which functions of a socket arm it. -/
namespace Utp

open Wrapping

/-- The connection state, the estimate of the round trip with the timer, and the clock. -/
structure Pulse where
  state : ConnState
  rtt : RttState
  currentMs : Nat

/-- What the timer depends on. -/
structure Timer extends Pulse where
  count : Nat

namespace Conn

variable (env : Env)

def pulse (s : Conn) : Pulse := ⟨s.state, s.rtt, s.currentMs⟩

def timer (s : Conn) : Timer := ⟨s.pulse, s.snd.curWindowPackets⟩

/-- Assertions do not move the timer. -/
theorem timer_check (line : Nat) (ok : Bool) (s : Conn) : (s.check line ok).timer = s.timer := by
  cases ok <;> rfl

/-- The search has a clock of its own, and does not look at the deadline. -/
theorem timer_mtuSearchUpdate (s : Conn) : (s.mtuSearchUpdate env).timer = s.timer := by
  unfold mtuSearchUpdate
  dsimp only
  rw [timer_check, timer_check]
  rfl

theorem timer_mtuReset (s : Conn) : (s.mtuReset env).timer = s.timer :=
  timer_check 1346 _ _

theorem timer_probeLost (s : Conn) : (s.probeLost env).timer = s.timer := timer_mtuSearchUpdate env _

theorem timer_probePassed (s : Conn) : (s.probePassed env).timer = s.timer := timer_mtuSearchUpdate env _

theorem timer_receiveIcmpFragmentation (nextHopMtu : Nat) (s : Conn) :
    (s.receiveIcmpFragmentation env nextHopMtu).timer = s.timer := by
  unfold receiveIcmpFragmentation
  change Conn.timer (if _ then _ else _) = _
  split_ifs
  · exact timer_mtuSearchUpdate env _
  · exact timer_mtuSearchUpdate env _

/-- An ack that is sent does not start the timer: nothing of it would have to be sent again. -/
theorem timer_sendAck (synack : Bool) (s : Conn) : (s.sendAck env synack).timer = s.timer := by
  unfold sendAck
  dsimp only
  split_ifs
  · exact (timer_check 811 _ _).trans (timer_check 802 _ _)
  · rfl

theorem timer_sendKeepAlive (s : Conn) : (s.sendKeepAlive env).timer = s.timer := timer_sendAck env false _

theorem timer_startProbe (pkt : OutgoingPacket) (s : Conn) : (s.startProbe pkt).timer = s.timer :=
  (timer_check 926 _ _).trans (timer_check 925 _ _)

/-- Nor does a packet. The timer runs from the moment the queue stops being empty, and is started by the
write. -/
theorem timer_sendPacket (v : Int) (s : Conn) : (s.sendPacket env v).timer = s.timer := by
  cases hGet : s.snd.outbuf.get v with
  | none => rw [sendPacket_none env hGet]
  | some pkt =>
      have hCharged : (s.chargeWindow pkt).called.called.timer = s.timer := by
        unfold chargeWindow
        split_ifs <;> rfl
      have hBefore : (s.beforeTransmit env pkt).timer = s.timer := by
        unfold beforeTransmit
        dsimp only
        split_ifs
        · exact (timer_startProbe _ _).trans ((timer_mtuReset env _).trans hCharged)
        · exact (timer_mtuReset env _).trans hCharged
        · exact (timer_startProbe _ _).trans hCharged
        · exact hCharged
      rw [sendPacket_some env hGet]
      exact hBefore

theorem timer_noteFull (bytes : Int) (s : Conn) : (s.noteFull bytes).timer = s.timer := by
  unfold noteFull
  split_ifs <;> rfl

/-- By induction on the packets that are left. -/
theorem timer_flushFrom (n : Nat) (s : Conn) : (s.flushFrom env n).timer = s.timer := by
  induction n generalizing s with
  | zero => rfl
  | succ n ih =>
      unfold flushFrom
      dsimp only
      split
      · exact ih s
      · split_ifs
        · exact ih s
        · exact timer_noteFull _ s
        · exact (ih _).trans (timer_sendPacket env _ s)
        · exact ih s

theorem timer_flushPackets (s : Conn) : (s.flushPackets env).timer = s.timer := timer_flushFrom env _ s

theorem timer_countDuplicateAck (header : PacketFormatV1) (s : Conn) :
    (s.countDuplicateAck env header).timer = s.timer := by
  unfold countDuplicateAck
  dsimp only
  split_ifs
  · exact timer_probeLost env _
  all_goals rfl

/-- By induction on the packets that are counted; a verdict on the probe is all that may happen on the
way. -/
theorem timer_ackedBytesFrom (now count i : Nat) (a : AckedBytes) (s : Conn) :
    (s.ackedBytesFrom env now count i a).2.timer = s.timer := by
  induction count generalizing i a s with
  | zero => rfl
  | succ count ih =>
      unfold ackedBytesFrom
      dsimp only
      split
      · exact ih _ _ s
      · split_ifs
        · exact ih _ _ s
        · refine (ih _ _ _).trans ?_
          unfold probeAcked
          split_ifs
          · exact timer_probePassed env s
          · rfl

/-- By induction on the bits that are left. -/
theorem timer_selectiveAckBytesFrom (d : Datagram) (mask : SackMask) (base : Int) (now n : Nat) (a : AckedBytes)
    (s : Conn) : (s.selectiveAckBytesFrom d mask base now n a).2.timer = s.timer := by
  have hAt : ∀ (bits : Int) (a : AckedBytes) (s : Conn),
      (s.selectiveAckBytesAt d mask base now bits a).2.timer = s.timer := by
    intro bits a s
    unfold selectiveAckBytesAt
    dsimp only
    split_ifs
    · rfl
    · split
      · rfl
      · split_ifs <;> rfl
    · split
      · rfl
      · split_ifs <;> rfl
    · split
      · rfl
      · split_ifs <;> rfl
  induction n generalizing a s with
  | zero => exact hAt (-1) a s
  | succ n ih => exact (ih _ _).trans (hAt n a s)

/-- What an ack covers is counted before anything leaves the queue. -/
theorem timer_measureAcks (d : Datagram) (header : PacketFormatV1) (selack : Option SackMask) (acks : Nat) (s : Conn) :
    (s.measureAcks env d header selack acks).2.timer = s.timer := by
  have hCounted : ∀ now, (s.called.ackedBytesFrom env now acks 0 ⟨0, int64Max⟩).2.timer = s.timer :=
    fun now => timer_ackedBytesFrom env now acks 0 _ s.called
  unfold measureAcks
  dsimp only
  cases selack with
  | none => exact hCounted _
  | some mask =>
      refine Eq.trans ?_ (hCounted (s.utpCallGetMicroseconds env))
      unfold selectiveAckBytes
      dsimp only
      split_ifs
      · rfl
      · exact timer_selectiveAckBytesFrom d mask _ _ _ _ _

/-- The congestion window is controlled without looking at the timer. -/
theorem timer_controlWindow (header : PacketFormatV1) (time : Nat) (a : AckedBytes) (s : Conn) :
    (s.controlWindow header time a).timer = s.timer := by
  have hDelay : (s.measureDelay header time a.minRtt).timer = s.timer := by
    unfold measureDelay
    dsimp only
    refine (timer_check 2160 _ _).trans ?_
    split_ifs
    · exact timer_check 2086 _ _
    all_goals rfl
  have hGrow : ∀ (bytes : Nat) (delay target : Int) (ledbat : Nat) (t : Conn),
      (t.growWindow bytes delay target ledbat).timer = t.timer := by
    intro bytes delay target ledbat t
    unfold growWindow
    dsimp only
    split_ifs <;> rfl
  unfold controlWindow
  dsimp only
  split_ifs
  · refine Eq.trans ?_ hDelay
    unfold applyCcontrol
    dsimp only
    refine (hGrow _ _ _ _ _).trans ?_
    rw [timer_check, timer_check, timer_check, timer_check, timer_check]
  · exact hDelay

theorem timer_updateWindowUser (header : PacketFormatV1) (s : Conn) :
    (s.updateWindowUser header).timer = s.timer := by
  unfold updateWindowUser
  dsimp only
  split_ifs <;> rfl

theorem timer_updateFastResend (header : PacketFormatV1) (s : Conn) :
    (s.updateFastResend header).timer = s.timer := by
  unfold updateFastResend
  split_ifs <;> rfl

theorem timer_flushNagle (s : Conn) : (s.flushNagle env).timer = s.timer := by
  unfold flushNagle
  split_ifs
  · split
    · rfl
    · split_ifs
      · exact timer_sendPacket env _ s
      · rfl
  · rfl

/-- After a timeout the next packet is sent without waiting for the timer, which stays as it is. -/
theorem timer_fastTimeoutRetry (s : Conn) : (s.fastTimeoutRetry env).timer = s.timer := by
  unfold fastTimeoutRetry
  dsimp only
  split_ifs
  · rfl
  · split
    · rfl
    · split_ifs
      · exact timer_sendPacket env _ _
      · rfl
  · rfl

/-- By induction on the stack. A packet that is sent again does not restart the timer. -/
theorem timer_resendLoop (resends : List Int) (i : Nat) (s : Conn) :
    (s.resendLoop env resends i).2.timer = s.timer := by
  induction resends generalizing i s with
  | nil => rfl
  | cons v rest ih =>
      unfold resendLoop
      split
      · exact ih i s
      · dsimp only
        split_ifs
        · exact timer_sendPacket env v s
        · exact (ih _ _).trans (timer_sendPacket env v s)

/-- Parsing does not move it either, also when the packet is thrown away. -/
theorem timer_skipExtensions (d : Datagram) (s : Conn) : (s.skipExtensions d).2.timer = s.timer := by
  have hLoop : ∀ (fuel data extension : Nat) (selack : Option SackMask) (s : Conn),
      (s.extensionLoop d fuel data extension selack).2.timer = s.timer := by
    intro fuel
    induction fuel with
    | zero => exact fun _ _ _ _ => rfl
    | succ fuel ih =>
        intro data extension selack s
        unfold extensionLoop
        dsimp only
        split_ifs <;> first | rfl | exact ih _ _ _ _
  unfold skipExtensions
  split_ifs
  · exact hLoop _ _ _ _ s
  · rfl

theorem pulse_check (line : Nat) (ok : Bool) (s : Conn) : (s.check line ok).pulse = s.pulse :=
  congrArg Timer.toPulse (timer_check line ok s)

/-- By induction on the fuel. The number of packets changes here, so only the pulse stays and not the
timer. -/
theorem pulse_writeLoop (flags packetSize fuel payload : Nat) (iov : List (List UInt8)) (s : Conn) :
    (s.writeLoop env flags packetSize fuel payload iov).2.pulse = s.pulse := by
  induction fuel generalizing payload iov s with
  | zero => rfl
  | succ fuel ih =>
      have hChecked : ((s.check 1011 (s.snd.curWindowPackets < outgoingBufferMaxSize)).check 1012
          (flags == stData || flags == stFin)).pulse = s.pulse := (pulse_check 1012 _ _).trans (pulse_check 1011 _ s)
      unfold writeLoop
      dsimp only
      generalize (s.check 1011 (s.snd.curWindowPackets < outgoingBufferMaxSize)).check 1012
        (flags == stData || flags == stFin) = t at hChecked ⊢
      rw [← hChecked]
      split
      · rename_i pkt hFill
        have hFilled : ∀ (ok : Bool) bytes, ((t.check 1078 ok).fillPacket env flags pkt bytes).pulse = t.pulse :=
          fun ok bytes => ((pulse_check 1049 _ _).trans (pulse_check 1036 _ _)).trans (pulse_check 1078 _ t)
        split_ifs
        · exact (ih _ _ _).trans (hFilled _ _)
        · exact hFilled _ _
      · exact (pulse_check 1049 _ _).trans (pulse_check 1078 _ t)

end Conn

/-- A reading of the clock that is not zero, and so early that no deadline wraps. -/
def Ticking (ms : Nat) : Prop := 0 < ms ∧ ms < 18446744069414584320

/-- The clock of the embedding program counts milliseconds from some moment in the past. -/
def SaneClock (env : Env) : Prop := ∀ n, Ticking (env n).milliseconds

/-- The clock that a socket reads is a sane one, at every reading. -/
theorem SaneClock.reading {env : Env} (h : SaneClock env) (n : Nat) : Ticking (u64 (env n).milliseconds) := by
  obtain ⟨hPos, hLt⟩ := h n
  have hSame : ((u64 (env n).milliseconds : Nat) : Int) = (env n).milliseconds :=
    u64_of_nonneg (by omega) (by omega)
  unfold Ticking
  omega

/-- A deadline is not 0, which would mean that no timer runs. The bound on the clock excludes the wrap of
the sum, which would come after 584 million years. -/
theorem Ticking.deadline {ms x : Nat} (h : Ticking ms) (hx : x < 4294967296) : 0 < u64 (ms + x) := by
  obtain ⟨hPos, hLt⟩ := h
  have hSame : ((u64 ((ms : Int) + x) : Nat) : Int) = ms + x := u64_of_nonneg (by omega) (by omega)
  omega

/-- No deadline that is set in this state wraps. -/
structure Paced (s : Conn) : Prop where
  ticking : Ticking s.currentMs
  rto_lt : s.rtt.rto < 4294967296
  timeout_lt : s.rtt.retransmitTimeout < 4294967296

/-- The states before the first packet is sent. -/
def ConnState.early (st : ConnState) : Bool := st = .idle || st = .synRecv

/-- The timer runs while the socket waits for an ack, and not before anything was sent. -/
structure Armed (s : Conn) : Prop extends Paced s where
  waits : s.state = .synSent ∨ s.state.open = true ∧ 0 < s.snd.curWindowPackets → 0 < s.rtt.rtoTimeout
  early : s.state.early = true → s.rtt.rtoTimeout = 0 ∧ s.snd.curWindowPackets = 0

theorem state_of_timer {s s' : Conn} (h : s'.timer = s.timer) : s'.state = s.state :=
  congrArg (fun t : Timer => t.state) h

/-- What the pulse says about the clock and the timeouts is kept with it. -/
theorem Paced.of_pulse {s s' : Conn} (h : Paced s) (hPulse : s'.pulse = s.pulse) : Paced s' := by
  have hRtt : s'.rtt = s.rtt := congrArg Pulse.rtt hPulse
  have hMs : s'.currentMs = s.currentMs := congrArg Pulse.currentMs hPulse
  exact ⟨hMs ▸ h.ticking, hRtt ▸ h.rto_lt, hRtt ▸ h.timeout_lt⟩

/-- And so is a timer that runs. -/
theorem running_of_pulse {s s' : Conn} (h : 0 < s.rtt.rtoTimeout) (hPulse : s'.pulse = s.pulse) :
    0 < s'.rtt.rtoTimeout := by
  have hRtt : s'.rtt = s.rtt := congrArg Pulse.rtt hPulse
  rw [hRtt]
  exact h

/-- A function that keeps the timer keeps it armed. -/
theorem Armed.of_timer {s s' : Conn} (h : Armed s) (hTimer : s'.timer = s.timer) : Armed s' := by
  have hPulse : s'.pulse = s.pulse := congrArg Timer.toPulse hTimer
  have hRtt : s'.rtt = s.rtt := congrArg Pulse.rtt hPulse
  have hState : s'.state = s.state := congrArg Pulse.state hPulse
  have hCount : s'.snd.curWindowPackets = s.snd.curWindowPackets := congrArg Timer.count hTimer
  refine ⟨h.toPaced.of_pulse hPulse, ?_, ?_⟩
  · rw [hState, hCount, hRtt]
    exact h.waits
  · rw [hState, hCount, hRtt]
    exact h.early

/-- A timer that runs is not stopped, whatever is queued. -/
theorem Armed.of_running {s : Conn} (h : Paced s) (hRuns : 0 < s.rtt.rtoTimeout) (hLate : s.state.early = false) :
    Armed s :=
  ⟨h, fun _ => hRuns, fun hEarly => nomatch hLate.symm.trans hEarly⟩

/-- The states in which no timer is needed. -/
def ConnState.over (st : ConnState) : Bool := st = .uninitialized || st = .reset || st = .destroy

/-- Nothing is asked of a connection that is over. -/
theorem Armed.of_over {s : Conn} (h : Paced s) (hOver : s.state.over = true) : Armed s := by
  refine ⟨h, fun hWaits => ?_, fun hEarly => ?_⟩
  · cases hState : s.state <;> simp_all [ConnState.over, ConnState.open]
  · cases hState : s.state <;> simp_all [ConnState.over, ConnState.early]

/-- A timer runs only after something was sent. -/
theorem Armed.late {s : Conn} (h : Armed s) (hRuns : 0 < s.rtt.rtoTimeout) : s.state.early = false := by
  refine Bool.eq_false_iff.2 fun hEarly => ?_
  have hStopped := (h.early hEarly).1
  omega

/-- A socket that has queued packets has a timer that runs, or it is over. -/
theorem Armed.running_or_over {s : Conn} (h : Armed s) (hCount : 0 < s.snd.curWindowPackets) :
    0 < s.rtt.rtoTimeout ∨ s.state.over = true := by
  have hLate : ¬s.state.early = true := fun hEarly => by
    have hEmpty := (h.early hEarly).2
    omega
  by_cases hOver : s.state.over = true
  · exact Or.inr hOver
  · refine Or.inl (h.waits ?_)
    cases hState : s.state <;> simp_all [ConnState.over, ConnState.open, ConnState.early]

/-- The timer is not stopped, and the state stays. -/
structure Winds (s t : Conn) : Prop where
  paced : Paced t
  running : 0 < s.rtt.rtoTimeout → 0 < t.rtt.rtoTimeout
  state : t.state = s.state

/-- Functions that may restart the timer, but do not stop it, compose. -/
theorem Winds.trans {s t u : Conn} (hFirst : Winds s t) (hSecond : Winds t u) : Winds s u :=
  ⟨hSecond.paced, fun hRuns => hSecond.running (hFirst.running hRuns), hSecond.state.trans hFirst.state⟩

/-- A function that keeps the pulse is one of them. -/
theorem Paced.winds {s t : Conn} (h : Paced s) (hPulse : t.pulse = s.pulse) : Winds s t :=
  ⟨h.of_pulse hPulse, fun hRuns => running_of_pulse hRuns hPulse, congrArg Pulse.state hPulse⟩

/-- What is done to a socket whose timer runs, or which is over, keeps it armed. -/
theorem Winds.armed {s t : Conn} (h : Winds s t) (hArmed : Armed s)
    (hRuns : 0 < s.rtt.rtoTimeout ∨ s.state.over = true) : Armed t := by
  rcases hRuns with hRuns | hOver
  · exact .of_running h.paced (h.running hRuns) (h.state ▸ hArmed.late hRuns)
  · exact .of_over h.paced (h.state ▸ hOver)

/-- A connection that is up is past its first states. -/
theorem ConnState.late_of_open {st : ConnState} (h : st.open = true) : st.early = false := by
  cases st <;> first | rfl | cases h

section

variable {env : Env} {s : Conn}

/-- Setting a deadline from the clock starts the timer. -/
theorem Paced.restart (h : Paced s) {x timeout : Nat} (hx : x < 4294967296) (hTimeout : timeout < 4294967296) :
    Paced { s with rtt.retransmitTimeout := timeout, rtt.rtoTimeout := u64 (s.currentMs + x) } ∧
      0 < u64 (s.currentMs + x) :=
  ⟨⟨h.ticking, h.rto_lt, hTimeout⟩, h.ticking.deadline hx⟩

/-- The timer runs when a packet is about to be queued. -/
theorem Armed.startTimer (h : Armed s) (hOpen : s.state.open = true) :
    Paced s.startTimer ∧ 0 < s.startTimer.rtt.rtoTimeout ∧ s.startTimer.state = s.state := by
  unfold Conn.startTimer
  split_ifs with hEmpty
  · obtain ⟨hPaced, hRuns⟩ := h.toPaced.restart h.rto_lt h.rto_lt
    have hPulse := Conn.pulse_check 1006 (s.snd.curWindow = 0)
      { s with rtt.retransmitTimeout := s.rtt.rto, rtt.rtoTimeout := u64 (s.currentMs + s.rtt.rto) }
    exact ⟨hPaced.of_pulse hPulse, running_of_pulse hRuns hPulse, congrArg Pulse.state hPulse⟩
  · exact ⟨h.toPaced, h.waits (Or.inr ⟨hOpen, by omega⟩), rfl⟩

/-- A packet that is queued into an empty queue starts the timer, and one that is queued behind others
finds it running. -/
theorem Armed.writeOutgoingPacket (env : Env) (h : Armed s) (hOpen : s.state.open = true) (payload flags : Nat)
    (iov : List (List UInt8)) : Armed (s.writeOutgoingPacket env payload flags iov).2 ∧
      Winds s (s.writeOutgoingPacket env payload flags iov).2 := by
  obtain ⟨hPaced, hRuns, hState⟩ := h.startTimer hOpen
  unfold Conn.writeOutgoingPacket
  dsimp only
  generalize s.startTimer = t at hPaced hRuns hState ⊢
  have hLoop := Conn.pulse_writeLoop env flags t.getPacketSize (payload + 1) payload iov t
  generalize t.writeLoop env flags t.getPacketSize (payload + 1) payload iov = r at hLoop ⊢
  have hPulse : (r.2.flushPackets env).pulse = t.pulse :=
    (congrArg Timer.toPulse (Conn.timer_flushPackets env r.2)).trans hLoop
  have hSame : (r.2.flushPackets env).state = s.state := (congrArg Pulse.state hPulse).trans hState
  have hStill := running_of_pulse hRuns hPulse
  refine ⟨.of_running (hPaced.of_pulse hPulse) hStill ?_, hPaced.of_pulse hPulse, fun _ => hStill, hSame⟩
  rw [hSame]
  exact ConnState.late_of_open hOpen

/-- The timer does not depend on whether the connection is full. -/
theorem Armed.setState (h : Armed s) (hOpen : s.state.open = true) {st : ConnState} (hNext : st.open = true) :
    Armed (s.setState st) := by
  refine ⟨⟨h.ticking, h.rto_lt, h.timeout_lt⟩, fun hWaits => ?_, fun hEarly => ?_⟩
  · rcases hWaits with hSent | ⟨-, hCount⟩
    · have hNot : st = .synSent := hSent
      rw [hNot] at hNext
      cases hNext
    · exact h.waits (Or.inr ⟨hOpen, hCount⟩)
  · exact nomatch (ConnState.late_of_open hNext).symm.trans hEarly

/-- By induction on the fuel: every packet of the write finds the timer running, but for the first. -/
theorem Armed.writevLoop (packetSize fuel bytes sent : Nat) (iov : List (List UInt8)) (h : Armed s)
    (hUp : s.state = .connected) : Armed (s.writevLoop env packetSize fuel bytes sent iov).2 ∧
      (0 < s.rtt.rtoTimeout → 0 < (s.writevLoop env packetSize fuel bytes sent iov).2.rtt.rtoTimeout) := by
  induction fuel generalizing bytes sent iov s with
  | zero => exact ⟨h, id⟩
  | succ fuel ih =>
      have hOpen : s.state.open = true := by rw [hUp]; rfl
      unfold Conn.writevLoop
      dsimp only
      split_ifs
      · have hTimer := Conn.timer_noteFull (min bytes packetSize : Nat) s
        have hNoted := h.of_timer hTimer
        have hSame := state_of_timer hTimer
        have hRuns := fun hPos => running_of_pulse (s := s) hPos (congrArg Timer.toPulse hTimer)
        generalize s.noteFull (min bytes packetSize : Nat) = t at hNoted hSame hRuns ⊢
        unfold Conn.markFull
        split_ifs
        · have hTimer' := Conn.timer_noteFull (-1) t
          refine ⟨(hNoted.of_timer hTimer').setState ?_ rfl, fun hPos => ?_⟩
          · rw [state_of_timer hTimer', hSame]
            exact hOpen
          · change 0 < (t.noteFull (-1)).rtt.rtoTimeout
            exact running_of_pulse (hRuns hPos) (congrArg Timer.toPulse hTimer')
        · exact ⟨hNoted, hRuns⟩
      · obtain ⟨hArmed, hWinds⟩ := h.writeOutgoingPacket env hOpen (min bytes packetSize) stData iov
        exact ⟨hArmed, hWinds.running⟩
      · obtain ⟨hArmed, hWinds⟩ := h.writeOutgoingPacket env hOpen (min bytes packetSize) stData iov
        obtain ⟨hDone, hRuns⟩ := ih (bytes - min bytes packetSize) (sent + min bytes packetSize) _ hArmed
          (hWinds.state.trans hUp)
        exact ⟨hDone, fun hPos => hRuns (hWinds.running hPos)⟩

/-- The clock may go on, as long as it is sane. -/
theorem Armed.clock (h : Armed s) {ms : Nat} (hTicks : Ticking ms) (tick : Nat) :
    Armed { s with currentMs := ms, tick := tick } :=
  ⟨⟨hTicks, h.rto_lt, h.timeout_lt⟩, h.waits, h.early⟩

/-- A write leaves the timer running when it has queued something. -/
theorem Armed.utpWritev (hClock : SaneClock env) (h : Armed s) (iovecs : List (List UInt8)) :
    Armed (s.utpWritev env iovecs).2 ∧ (0 < s.rtt.rtoTimeout → 0 < (s.utpWritev env iovecs).2.rtt.rtoTimeout) := by
  unfold Conn.utpWritev
  split_ifs with hEmpty hDown hFin
  · exact ⟨h, id⟩
  · exact ⟨h, id⟩
  · exact ⟨h, id⟩
  · exact Armed.writevLoop _ _ _ _ _ (h.clock (hClock.reading s.tick) _) (not_not.1 hDown)

/-- The new timeout is computed with 32 bits. -/
theorem RttState.sample_rto_lt (ertt currentMs : Nat) (r : RttState) : (r.sample ertt currentMs).rto < 4294967296 := by
  unfold RttState.sample
  dsimp only
  exact max_lt (u32_lt _) (by decide)

/-- A sample does not move the deadline; that is left to the function which has taken it. -/
theorem RttState.sample_keeps (ertt currentMs : Nat) (r : RttState) :
    (r.sample ertt currentMs).retransmitTimeout = r.retransmitTimeout ∧
      (r.sample ertt currentMs).rtoTimeout = r.rtoTimeout := by
  unfold RttState.sample
  dsimp only
  split_ifs <;> exact ⟨rfl, rfl⟩

/-- An ack restarts the timer, and changes neither the state nor the number of queued packets. -/
theorem Paced.ackPacket (env : Env) (h : Paced s) (seq : Int) : Winds s (s.ackPacket env seq).2 := by
  cases hGet : s.snd.outbuf.get (u16 seq) with
  | none =>
      rw [Conn.ackPacket_none env hGet]
      exact ⟨h, id, rfl⟩
  | some pkt =>
      rw [Conn.ackPacket_some env hGet]
      split_ifs
      · exact ⟨h, id, rfl⟩
      · have hSample : Paced ((s.putPacket (u16 seq) none).sampleRtt env pkt) ∧
            ((s.putPacket (u16 seq) none).sampleRtt env pkt).state = s.state := by
          unfold Conn.sampleRtt
          dsimp only
          split_ifs
          · refine ⟨⟨h.ticking, RttState.sample_rto_lt _ _ _, ?_⟩, rfl⟩
            change (RttState.sample _ _ _).retransmitTimeout < _
            rw [(RttState.sample_keeps _ _ _).1]
            exact h.timeout_lt
          · exact ⟨⟨h.ticking, h.rto_lt, h.timeout_lt⟩, rfl⟩
        unfold Conn.removePacket
        dsimp only
        generalize (s.putPacket (u16 seq) none).sampleRtt env pkt = t at hSample ⊢
        obtain ⟨hPaced, hState⟩ := hSample
        obtain ⟨hAgain, hRuns⟩ := hPaced.restart hPaced.rto_lt hPaced.rto_lt
        have hPulse : (t.restartTimer.dischargeWindow pkt).pulse = t.restartTimer.pulse := by
          unfold Conn.dischargeWindow
          split_ifs
          · rfl
          · exact Conn.pulse_check 1419 _ _
        have hRestarted : Paced t.restartTimer := hAgain
        have hDone := hRestarted.of_pulse hPulse
        refine ⟨⟨hDone.ticking, hDone.rto_lt, hDone.timeout_lt⟩, fun _ => running_of_pulse hRuns hPulse, ?_⟩
        exact (congrArg Pulse.state hPulse).trans hState

/-- By induction on the number of acks. -/
theorem Paced.ackLoop (env : Env) (acks : Nat) (h : Paced s) : Winds s (s.ackLoop env acks) := by
  induction acks generalizing s with
  | zero => exact h.winds rfl
  | succ acks ih =>
      have hAcked := h.ackPacket env (s.snd.seqNr - s.snd.curWindowPackets)
      unfold Conn.ackLoop
      dsimp only
      split_ifs
      · exact hAcked
      · have hLess : Winds s (s.ackPacket env (s.snd.seqNr - s.snd.curWindowPackets)).2.decWindowPackets :=
          hAcked.trans (hAcked.paced.winds rfl)
        exact hLess.trans (ih hLess.paced)

/-- Dropping packets that have been acked before never starts to wait. -/
theorem Armed.dropAcked (fuel : Nat) (h : Armed s) : Armed (s.dropAcked fuel) := by
  induction fuel generalizing s with
  | zero => exact h
  | succ fuel ih =>
      unfold Conn.dropAcked
      split_ifs with hMore
      · have hCount : 0 < s.snd.curWindowPackets := of_decide_eq_true (Bool.and_eq_true_iff.1 hMore).1
        exact ih (Winds.armed (h.toPaced.winds rfl) h (h.running_or_over hCount))
      · exact h

/-- A socket that was accepted has no packets when its first data arrives, so no timer has to run. -/
theorem Armed.completeIncoming (h : Armed s) (header : PacketFormatV1) : Armed (s.completeIncoming header) := by
  unfold Conn.completeIncoming
  split_ifs with hFirst
  · have hState : s.state = .synRecv := of_decide_eq_true (Bool.and_eq_true_iff.1 hFirst).2
    have hEmpty : s.snd.curWindowPackets = 0 := (h.early (by rw [hState]; rfl)).2
    refine ⟨⟨h.ticking, h.rto_lt, h.timeout_lt⟩, fun hWaits => ?_, fun hEarly => nomatch hEarly⟩
    rcases hWaits with hSent | ⟨-, hCount⟩
    · cases hSent
    · change 0 < s.snd.curWindowPackets at hCount
      omega
  · exact h

/-- The empty packet after the SYN-ACK is queued with the timer of the SYN still running. -/
theorem Armed.notifyConnect (hClock : SaneClock env) (h : Armed s) :
    Armed (s.notifyConnect env) ∧ (0 < s.rtt.rtoTimeout → 0 < (s.notifyConnect env).rtt.rtoTimeout) := by
  unfold Conn.notifyConnect Conn.utpWrite
  split_ifs
  · exact ⟨h.of_timer rfl, id⟩
  · have hTold : Armed (s.emit (.onStateChange .connect)) := h.of_timer rfl
    exact hTold.utpWritev hClock [[]]

/-- The completion of a connection, or the ack of our FIN. A packet that acks something leaves the
timer running. -/
theorem Armed.completeOutgoing (hClock : SaneClock env) (h : Armed s) (header : PacketFormatV1) (acks : Nat) :
    Armed (s.completeOutgoing env header acks) ∧ (0 < s.rtt.rtoTimeout ∨ s.state.over = true →
      0 < (s.completeOutgoing env header acks).rtt.rtoTimeout ∨
        (s.completeOutgoing env header acks).state.over = true) := by
  unfold Conn.completeOutgoing
  split_ifs with hDialled hFin
  · have hState : s.state = .synSent := of_decide_eq_true (Bool.and_eq_true_iff.1 hDialled).2
    have hRuns := h.waits (Or.inl hState)
    have hUp : Armed (s.setState .connected) := .of_running ⟨h.ticking, h.rto_lt, h.timeout_lt⟩ hRuns rfl
    obtain ⟨hDone, hStill⟩ := hUp.notifyConnect hClock
    exact ⟨hDone, fun _ => Or.inl (hStill hRuns)⟩
  · dsimp only
    split_ifs
    · have hOver : Paced ({ s with finSentAcked := true }.setState .destroy) := ⟨h.ticking, h.rto_lt, h.timeout_lt⟩
      exact ⟨.of_over hOver rfl, fun _ => Or.inr rfl⟩
    · exact ⟨h.of_timer rfl, id⟩
  · exact ⟨h, id⟩

/-- The acknowledgment number of a packet, from the acks to the retry. The hypothesis is the check that
was made when the packet arrived. -/
theorem Armed.processAcks (hClock : SaneClock env) (h : Armed s) (header : PacketFormatV1) {acks : Nat}
    (hAcks : acks ≤ s.snd.curWindowPackets) : Armed (s.processAcks env header acks) := by
  have hWindow := Conn.timer_updateWindowUser header s
  have hStart := (h.of_timer hWindow).completeIncoming header
  have hRuns : 0 < acks → 0 < ((s.updateWindowUser header).completeIncoming header).rtt.rtoTimeout ∨
      ((s.updateWindowUser header).completeIncoming header).state.over = true := by
    intro hPos
    refine hStart.running_or_over ?_
    have hCount : ((s.updateWindowUser header).completeIncoming header).snd.curWindowPackets =
        s.snd.curWindowPackets := by
      refine Eq.trans ?_ (congrArg Timer.count hWindow)
      unfold Conn.completeIncoming
      split_ifs <;> rfl
    omega
  unfold Conn.processAcks
  dsimp only
  generalize (s.updateWindowUser header).completeIncoming header = t at hStart hRuns ⊢
  obtain ⟨hDone, hStill⟩ := hStart.completeOutgoing hClock header acks
  generalize t.completeOutgoing env header acks = u at hDone hStill ⊢
  have hAcked : Armed ((u.updateFastResend header).ackLoop env acks) := by
    have hTimer := Conn.timer_updateFastResend header u
    have hAdvanced := hDone.of_timer hTimer
    cases acks with
    | zero => exact hAdvanced
    | succ acks =>
        refine (hAdvanced.toPaced.ackLoop env _).armed hAdvanced ?_
        rcases hStill (hRuns (Nat.succ_pos _)) with hPos | hOver
        · exact Or.inl (running_of_pulse hPos (congrArg Timer.toPulse hTimer))
        · exact Or.inr (by rw [state_of_timer hTimer]; exact hOver)
  generalize (u.updateFastResend header).ackLoop env acks = w at hAcked ⊢
  have hDropped := hAcked.dropAcked w.snd.curWindowPackets
  generalize w.dropAcked w.snd.curWindowPackets = x at hDropped ⊢
  have hChecked := hDropped.of_timer (Conn.timer_check 2279 x.frontQueued x)
  exact hChecked.of_timer ((Conn.timer_fastTimeoutRetry env _).trans (Conn.timer_flushNagle env _))

theorem Paced.selectiveAckAt (env : Env) (d : Datagram) (mask : SackMask) (base bits : Int) (scan : Conn.EackScan)
    (h : Paced s) : Winds s (s.selectiveAckAt env d mask base bits scan).2 := by
  have hRead : Winds s (if bits ≥ 0 then s.emit (mask.access bits.toNat) else s) := by
    split_ifs <;> exact h.winds rfl
  unfold Conn.selectiveAckAt
  dsimp only
  generalize (if bits ≥ 0 then s.emit (mask.access bits.toNat) else s) = t at hRead ⊢
  generalize (decide (bits ≥ 0) && mask.bit d bits.toNat) = bitSet
  generalize (if bitSet = true then { scan with count := scan.count + 1 } else scan) = counted
  have hAcked : ∀ ok e, Winds s (((t.check 1553 ok).ackPacket env (base + bits)).2.emit e) := by
    intro ok e
    have hChecked := hRead.trans (hRead.paced.winds (Conn.pulse_check 1553 ok t))
    have hTaken := hChecked.trans (hChecked.paced.ackPacket env (base + bits))
    exact hTaken.trans (hTaken.paced.winds rfl)
  split_ifs
  · exact h.winds rfl
  all_goals split
  all_goals first
    | exact hRead
    | split_ifs
  all_goals first
    | exact hRead
    | exact hAcked _ _

/-- By induction on the bits that are left. -/
theorem Paced.selectiveAckFrom (env : Env) (d : Datagram) (mask : SackMask) (base : Int) (n : Nat)
    (scan : Conn.EackScan) (h : Paced s) : Winds s (s.selectiveAckFrom env d mask base n scan).2 := by
  induction n generalizing scan s with
  | zero => exact h.selectiveAckAt env d mask base (-1) scan
  | succ n ih =>
      have hFirst := h.selectiveAckAt env d mask base n scan
      exact hFirst.trans (ih _ hFirst.paced)

/-- A mask acks packets inside the queue and does not empty it, so a running timer is still right. -/
theorem Armed.selectiveAck (env : Env) (h : Armed s) (d : Datagram) (mask : SackMask) (base : Int) :
    Armed (s.selectiveAck env d mask base) := by
  unfold Conn.selectiveAck
  split_ifs with hEmpty
  · exact h
  · have hScan := (h.toPaced.selectiveAckFrom env d mask base (mask.extLen * 8) ⟨0, []⟩).armed h
      (h.running_or_over (Nat.pos_of_ne_zero hEmpty))
    generalize s.selectiveAckFrom env d mask base (mask.extLen * 8) ⟨0, []⟩ = r at hScan ⊢
    dsimp only
    generalize (if r.2.shouldResend (base - 1) r.1 then
      r.1.resends ++ [((u16 (base - 1) : Nat) : Int)] else r.1.resends) = resends
    have hSent := hScan.of_timer (Conn.timer_resendLoop env resends.reverse 0 r.2)
    generalize r.2.resendLoop env resends.reverse 0 = done at hSent ⊢
    have hDecayed : Armed (if done.1 > 0 then done.2.maybeDecayWin else done.2) := by
      unfold Conn.maybeDecayWin
      split_ifs <;> exact hSent.of_timer rfl
    exact hDecayed.of_timer rfl

/-- All that a packet says about acks. -/
theorem Armed.receiveAcks (hClock : SaneClock env) (h : Armed s) (d : Datagram) (header : PacketFormatV1)
    (selack : Option SackMask) (time : Nat) : Armed (s.receiveAcks env d header selack time) := by
  have hMeasured : ((s.countDuplicateAck env header).measureAcks env d header selack (s.acksOf header)).2.timer =
      s.timer := (Conn.timer_measureAcks env d header selack _ _).trans (Conn.timer_countDuplicateAck env header s)
  unfold Conn.receiveAcks
  dsimp only
  generalize (s.countDuplicateAck env header).measureAcks env d header selack (s.acksOf header) = a at hMeasured ⊢
  have hControl := h.of_timer ((Conn.timer_controlWindow header time a.1 a.2).trans hMeasured)
  generalize a.2.controlWindow header time a.1 = w at hControl ⊢
  have hAcked : Armed (if s.acksOf header ≤ w.snd.curWindowPackets then w.processAcks env header (s.acksOf header)
      else w) := by
    split_ifs with hLe
    · exact hControl.processAcks hClock header hLe
    · exact hControl
  generalize (if s.acksOf header ≤ w.snd.curWindowPackets then w.processAcks env header (s.acksOf header) else w) = x
    at hAcked ⊢
  cases selack with
  | none => exact hAcked
  | some mask => exact hAcked.selectiveAck env d mask _

/-- A connection that is writable again keeps its timer. -/
theorem Armed.makeWritable (h : Armed s) : Armed s.makeWritable := by
  unfold Conn.makeWritable
  split_ifs with hState hFull
  · exact h.of_timer (Conn.timer_noteFull (-1) s)
  · have hUp : Armed (s.setState .connected) := h.setState (by rw [hState]; rfl) rfl
    exact hUp.of_timer rfl
  · exact h

/-- The end of the stream sets the deadline to at most 60 ms from now, which is also a running timer. -/
theorem Paced.reachEof (env : Env) (h : Paced s) : Winds s (s.reachEof env) := by
  unfold Conn.reachEof
  dsimp only
  split_ifs
  · have hSoon : min (u32 (s.rtt.rto * 3)) 60 < 4294967296 := (Nat.min_le_right _ _).trans_lt (by decide)
    have hPulse := congrArg Timer.toPulse (Conn.timer_sendAck env false (({ s with
      rcv.gotFinReached := true
      rtt.rtoTimeout := u64 (s.currentMs + (min (u32 (s.rtt.rto * 3)) 60 : Nat)) } : Conn).emit (.onStateChange .eof)))
    have hMid : Paced (({ s with
      rcv.gotFinReached := true
      rtt.rtoTimeout := u64 (s.currentMs + (min (u32 (s.rtt.rto * 3)) 60 : Nat)) } : Conn).emit (.onStateChange .eof)) :=
      ⟨h.ticking, h.rto_lt, h.timeout_lt⟩
    have hSent := hMid.winds hPulse
    refine ⟨⟨hSent.paced.ticking, hSent.paced.rto_lt, hSent.paced.timeout_lt⟩, fun _ => ?_, hSent.state⟩
    exact hSent.running (h.ticking.deadline hSoon)
  · exact h.winds rfl

/-- Delivery leaves the timer alone. -/
theorem Paced.deliver (h : Paced s) (body : List UInt8) : Winds s (s.deliver body) := by
  unfold Conn.deliver
  dsimp only
  split_ifs <;> exact h.winds rfl

theorem Paced.takeReordered (h : Paced s) (p : IncomingPacket) : Winds s (s.takeReordered p) := by
  have hCleared : Winds s s.clearNext := h.winds rfl
  have hTaken := hCleared.trans (hCleared.paced.deliver p.body)
  have hChecked := hTaken.trans (hTaken.paced.winds (Conn.pulse_check 2435 (s.rcv.reorderCount > 0) _))
  exact hChecked.trans (hChecked.paced.winds rfl)

/-- By induction on the fuel, with the end of the stream possibly reached in each turn. -/
theorem Paced.drainReordered (env : Env) (fuel : Nat) (h : Paced s) : Winds s (s.drainReordered env fuel) := by
  induction fuel generalizing s with
  | zero => exact h.winds rfl
  | succ fuel ih =>
      have hEof := h.reachEof env
      unfold Conn.drainReordered
      dsimp only
      split_ifs
      · exact hEof
      · split
        · exact hEof
        · rename_i p hGet
          have hTaken := hEof.trans (hEof.paced.takeReordered p)
          exact hTaken.trans (ih hTaken.paced)

/-- The receiving side of a connection that is up does not stop the timer. -/
theorem Winds.armed_of_open {t : Conn} (h : Winds s t) (hArmed : Armed s) (hOpen : s.state.open = true)
    (hCount : t.snd.curWindowPackets = s.snd.curWindowPackets) : Armed t := by
  refine ⟨h.paced, fun hWaits => ?_, fun hEarly => ?_⟩
  · rcases hWaits with hSent | ⟨-, hSome⟩
    · rw [h.state] at hSent
      rw [hSent] at hOpen
      cases hOpen
    · exact h.running (hArmed.waits (Or.inr ⟨hOpen, hCount ▸ hSome⟩))
  · rw [h.state, ConnState.late_of_open hOpen] at hEarly
    cases hEarly

theorem Paced.receiveOutOfOrder (h : Paced s) (seqNr offset : Nat) (body : List UInt8) :
    Winds s (s.receiveOutOfOrder seqNr offset body) := by
  have hPulse : (s.receiveOutOfOrder seqNr offset body).pulse = s.pulse := by
    unfold Conn.receiveOutOfOrder Conn.storeReordered
    dsimp only
    split_ifs
    · rfl
    · rfl
    · rfl
    · exact (Conn.pulse_check 2499 _ _).trans (Conn.pulse_check 2498 _ _)
  exact h.winds hPulse

theorem Paced.receiveInOrder (env : Env) (h : Paced s) (seqNr : Nat) (body : List UInt8) :
    Winds s (s.receiveInOrder env seqNr body) := by
  have hTold : Winds s (s.emit (.accepted seqNr 0 body)) := h.winds rfl
  have hDelivered := hTold.trans (hTold.paced.deliver body)
  unfold Conn.receiveInOrder
  dsimp only
  generalize (s.emit (.accepted seqNr 0 body)).deliver body = t at hDelivered ⊢
  have hDrained := hDelivered.trans (hDelivered.paced.drainReordered env (t.rcv.reorderCount + 1))
  exact hDrained.trans (hDrained.paced.winds rfl)

/-- A packet with data, in order or not. -/
theorem Armed.receiveData (env : Env) (h : Armed s) (d : Datagram) (header : PacketFormatV1) (data offset : Nat) :
    Armed (s.receiveData env d header data offset) := by
  have hCount : (s.receiveData env d header data offset).snd.curWindowPackets = s.snd.curWindowPackets :=
    congrArg (fun f : Foreground => f.snd.curWindowPackets) (Conn.foreground_receiveData env d header data offset s)
  have hNoted : Winds s ((s.noteFin header).emit (.readBytes data (d.len - data))) := by
    refine h.toPaced.winds ?_
    unfold Conn.noteFin
    split_ifs <;> rfl
  unfold Conn.receiveData at hCount ⊢
  split_ifs at hCount ⊢ with hType hDown hNext
  · exact h
  · exact h
  · exact (hNoted.trans (hNoted.paced.receiveInOrder env _ _)).armed_of_open h (Conn.open_of_not hDown) hCount
  · exact (hNoted.trans (hNoted.paced.receiveOutOfOrder _ _ _)).armed_of_open h (Conn.open_of_not hDown) hCount

/-- The part of `utp_process_incoming` after the extension headers. -/
theorem Armed.processBody (hClock : SaneClock env) (h : Armed s) (d : Datagram) (header : PacketFormatV1) (data : Nat)
    (selack : Option SackMask) (time : Nat) (syn : Bool) : Armed (s.processBody env d header data selack time syn) := by
  have hHeard : Armed ({ (if s.state = .synSent then s.setAckNr (u16 (header.seqNr - 1)) else s) with
      lastGotPacket := (if s.state = .synSent then s.setAckNr (u16 (header.seqNr - 1)) else s).currentMs }) := by
    refine h.of_timer ?_
    split_ifs <;> rfl
  unfold Conn.processBody
  dsimp only
  generalize ({ (if s.state = .synSent then s.setAckNr (u16 (header.seqNr - 1)) else s) with
      lastGotPacket := (if s.state = .synSent then s.setAckNr (u16 (header.seqNr - 1)) else s).currentMs } : Conn) = t
    at hHeard ⊢
  split_ifs
  · exact hHeard
  · exact hHeard.of_timer rfl
  · exact hHeard
  · have hAcks := hHeard.receiveAcks hClock d header selack time
    have hChecked := hAcks.of_timer (Conn.timer_check 2328 (t.receiveAcks env d header selack time).frontQueued _)
    exact hChecked.makeWritable.receiveData env d header data _

/-- A packet that arrives keeps the timer armed, whoever has sent it. -/
theorem Armed.utpProcessIncoming (hClock : SaneClock env) (h : Armed s) (d : Datagram) (syn : Bool) :
    Armed (s.utpProcessIncoming env d syn) := by
  have hStart : Armed ((s.updateCurrentMs env).emit (.readBytes 0 20)) :=
    (h.clock (hClock.reading s.tick) (s.tick + 1)).of_timer rfl
  unfold Conn.utpProcessIncoming
  dsimp only
  generalize (s.updateCurrentMs env).emit (.readBytes 0 20) = t at hStart ⊢
  have hCalled : Armed t.called := hStart.of_timer rfl
  have hChecked := hCalled.of_timer (Conn.timer_check 1836 (d.header.type ≠ stReset) t.called)
  have hSkipped := hChecked.of_timer (Conn.timer_skipExtensions d _)
  split_ifs
  · exact hStart
  · exact hCalled
  · exact hChecked
  · split
    · rename_i u hParse
      rw [hParse] at hSkipped
      exact hSkipped
    · rename_i data selack u hParse
      rw [hParse] at hSkipped
      exact hSkipped.processBody hClock d d.header data selack _ syn

/-- By induction on the packets that are marked as lost. -/
theorem Armed.loseFrom (count i : Nat) (h : Armed s) : Armed (s.loseFrom count i) := by
  induction count generalizing i s with
  | zero => exact h
  | succ count ih =>
      refine ih (i + 1) (h.of_timer ?_)
      unfold Conn.losePacket
      dsimp only
      split
      · rfl
      · split_ifs
        · rfl
        · exact Conn.timer_check 1243 _ _

/-- After a timeout everything is marked as lost, one packet is sent, and the timer was restarted before
that. -/
theorem Armed.timeoutResend (env : Env) (h : Armed s) : Armed (s.timeoutResend env) := by
  unfold Conn.timeoutResend
  dsimp only
  split_ifs
  · refine h.of_timer ((Conn.timer_sendPacket env _ _).trans ((Conn.timer_check 1259 _ _).trans ?_))
    rfl
  · exact h

/-- The timeout branch restarts the timer, or gives the connection up. -/
theorem Armed.onTimeout (env : Env) (h : Armed s) (hRuns : 0 < s.rtt.rtoTimeout) : Armed (s.onTimeout env).2 := by
  have hLate := h.late hRuns
  have hProbe : (s.probeTimeout env).timer = s.timer := by
    unfold Conn.probeTimeout
    dsimp only
    split_ifs
    · exact Conn.timer_probeLost env s
    · rfl
  have hStart := h.of_timer hProbe
  have hSame := state_of_timer hProbe
  unfold Conn.onTimeout
  dsimp only
  generalize s.ignoreLoss = ignore
  generalize s.probeTimeout env = t at hStart hSame ⊢
  have hOver : ∀ (st : ConnState) (e : Event), st.over = true → Armed ((t.setState st).emit e) := by
    intro st e hOver
    exact .of_over ⟨hStart.ticking, hStart.rto_lt, hStart.timeout_lt⟩ hOver
  by_cases hRecv : t.state = .synRecv
  · rw [if_pos hRecv]
    exact hOver .destroy _ rfl
  rw [if_neg hRecv]
  by_cases hGivesUp : t.givesUp = true
  · rw [if_pos hGivesUp]
    unfold Conn.abandon
    split_ifs
    · exact hOver .destroy _ rfl
    · exact hOver .reset _ rfl
  rw [if_neg hGivesUp]
  have hTimeout : (if ignore = true then t.rtt.retransmitTimeout else u32 (t.rtt.retransmitTimeout * 2)) < 4294967296 := by
    split_ifs
    · exact hStart.timeout_lt
    · exact u32_lt _
  generalize (if ignore = true then t.rtt.retransmitTimeout else u32 (t.rtt.retransmitTimeout * 2)) = timeout at hTimeout ⊢
  obtain ⟨hPaced, hStill⟩ := hStart.toPaced.restart hTimeout hTimeout
  have hRestarted : Armed { t with rtt.retransmitTimeout := timeout, rtt.rtoTimeout := u64 (t.currentMs + timeout) } :=
    .of_running hPaced hStill (by rw [← hLate, ← hSame])
  generalize ({ t with rtt.retransmitTimeout := timeout, rtt.rtoTimeout := u64 (t.currentMs + timeout) } : Conn) = u
    at hRestarted ⊢
  have hWindow : Armed (if ignore = true then u else u.timeoutWindow) := by
    have hShrunk : u.timeoutWindow.timer = u.timer := by
      unfold Conn.timeoutWindow
      dsimp only
      split_ifs <;> rfl
    split_ifs
    · exact hRestarted
    · exact hRestarted.of_timer hShrunk
  generalize (if ignore = true then u else u.timeoutWindow) = w at hWindow ⊢
  exact (hWindow.loseFrom _ 0).timeoutResend env

/-- A keepalive is an ack, and starts nothing. -/
theorem Armed.keepAliveIfIdle (env : Env) (h : Armed s) : Armed (s.keepAliveIfIdle env) := by
  unfold Conn.keepAliveIfIdle
  split_ifs
  · exact h.of_timer (Conn.timer_sendKeepAlive env s)
  · exact h

/-- The check of the timer: nothing is due, or the timeout is handled and the timer runs anew or is over.
-/
theorem Armed.checkTimeouts (env : Env) (h : Armed s) : Armed (s.checkTimeouts env) := by
  have hChecked := h.of_timer (Conn.timer_check 1133 s.frontQueued s)
  have hFlushed : Armed (if (s.check 1133 s.frontQueued).state ≠ .destroy then
      (s.check 1133 s.frontQueued).flushPackets env else s.check 1133 s.frontQueued) := by
    split_ifs
    · exact hChecked.of_timer (Conn.timer_flushPackets env _)
    · exact hChecked
  unfold Conn.checkTimeouts
  dsimp only
  generalize (if (s.check 1133 s.frontQueued).state ≠ .destroy then
      (s.check 1133 s.frontQueued).flushPackets env else s.check 1133 s.frontQueued) = t at hFlushed ⊢
  have hTimers : Armed (t.runTimers env) := by
    have hReset : Armed t.resetZeroWindow := by
      unfold Conn.resetZeroWindow
      split_ifs <;> exact hFlushed.of_timer rfl
    unfold Conn.runTimers
    dsimp only
    generalize t.resetZeroWindow = u at hReset ⊢
    by_cases hExpired : u.rtoExpired = true
    · rw [if_pos hExpired]
      have hRuns : 0 < u.rtt.rtoTimeout := of_decide_eq_true (Bool.and_eq_true_iff.1 hExpired).2
      have hDone := hReset.onTimeout env hRuns
      split_ifs
      · exact hDone
      · exact hDone.makeWritable.keepAliveIfIdle env
    · rw [if_neg hExpired]
      exact hReset.makeWritable.keepAliveIfIdle env
  cases t.state with
  | synSent | synRecv | connectedFull | connected => exact hTimers
  | uninitialized | idle | reset | destroy => exact hFlushed

/-- A socket that is closed while it dials shortens its deadline and keeps one. -/
theorem Armed.hurryTimeout (hClock : SaneClock env) (h : Armed s) (hSent : s.state = .synSent) : Armed (s.hurryTimeout env) := by
  have hSoon : min (u32 (s.rtt.rto * 2)) 60 < 4294967296 := (Nat.min_le_right _ _).trans_lt (by decide)
  refine .of_running ⟨h.ticking, h.rto_lt, h.timeout_lt⟩ ((hClock.reading s.tick).deadline hSoon) ?_
  change s.state.early = false
  rw [hSent]
  rfl

/-- The FIN is a packet like any other, and starts the timer if it is alone. -/
theorem Armed.sendFin (env : Env) (h : Armed s) (hOpen : s.state.open = true) : Armed (s.sendFin env) := by
  have hFin : Armed { s with finSent := true } := h.of_timer rfl
  exact (hFin.writeOutgoingPacket env hOpen 0 stFin []).1

/-- A connection that is over needs no timer. -/
theorem Armed.setState_over (h : Armed s) {st : ConnState} (hOver : st.over = true) : Armed (s.setState st) :=
  .of_over ⟨h.ticking, h.rto_lt, h.timeout_lt⟩ hOver

/-- Closing leaves a timer for the FIN, or nothing to wait for. -/
theorem Armed.utpClose (hClock : SaneClock env) (h : Armed s) : Armed (s.utpClose env) := by
  have hUp : s.state.open = true → Armed (s.closeConnected env) := by
    intro hOpen
    have hAsked : Armed ({ s with rcv.readShutdown := true, closeRequested := true }.emit .closeRequested) := h.of_timer rfl
    unfold Conn.closeConnected
    dsimp only
    split_ifs
    · exact hAsked.sendFin env hOpen
    · exact hAsked.setState_over rfl
    · exact hAsked
  unfold Conn.utpClose
  cases hState : s.state with
  | connected | connectedFull => exact hUp (by rw [hState]; rfl)
  | synSent => exact (h.hurryTimeout hClock hState).setState_over rfl
  | uninitialized | idle | synRecv | reset | destroy => exact h.setState_over rfl

/-- Shutting down the stream leaves a timer for the FIN; shutting down reading does not touch it. -/
theorem Armed.utpShutdown (hClock : SaneClock env) (h : Armed s) (how : Shutdown) : Armed (s.utpShutdown env how) := by
  have hWrite : ∀ t : Conn, Armed t → Armed (t.shutdownWrite env) := by
    intro t ht
    unfold Conn.shutdownWrite
    cases hState : t.state with
    | connected | connectedFull =>
        dsimp only
        split_ifs
        · exact ht.sendFin env (by rw [hState]; rfl)
        · exact ht
    | synSent => exact ht.hurryTimeout hClock hState
    | uninitialized | idle | synRecv | reset | destroy => exact ht
  have hRead : Armed (if how ≠ .wr then { s with rcv.readShutdown := true } else s) := by
    split_ifs <;> exact h.of_timer rfl
  unfold Conn.utpShutdown
  dsimp only
  split_ifs at hRead ⊢
  all_goals first
    | exact hWrite _ hRead
    | exact hRead

/-- A drained read buffer is told by an ack. -/
theorem Armed.utpReadDrained (hClock : SaneClock env) (h : Armed s) : Armed (s.utpReadDrained env) := by
  have hCalled : Armed s.called := h.of_timer rfl
  unfold Conn.utpReadDrained
  dsimp only
  split_ifs
  · exact hCalled.of_timer (Conn.timer_sendAck env false _)
  · exact (hCalled.clock (hClock.reading s.called.tick) (s.called.tick + 1)).of_timer rfl
  · exact hCalled

/-- A connection that was reset is over. -/
theorem Armed.receiveReset (h : Armed s) : Armed s.receiveReset := by
  have hOver : Armed s.abandon := by
    unfold Conn.abandon
    split_ifs <;> exact h.setState_over rfl
  exact hOver.of_timer rfl

/-- And so is one that an error message has ended; a socket that is idle ignores it and is not waiting. -/
theorem Armed.receiveIcmpError (h : Armed s) : Armed s.receiveIcmpError := by
  have hOver : Armed s.abandon := by
    unfold Conn.abandon
    split_ifs <;> exact h.setState_over rfl
  unfold Conn.receiveIcmpError
  dsimp only
  generalize (if s.state = .synSent then ErrorCode.econnrefused else .econnreset) = code
  split_ifs
  · exact h
  · exact hOver.of_timer rfl

end

end Utp
