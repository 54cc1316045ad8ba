import Utp.Guarantees.Table
import Utp.Transition.Arrival

/-! How far a socket is in its life, and what may bring it to its end. A socket whose close was not
requested is destroyed only by `utp_close`, by a SYN that finds the backlog full, and by the
timer of a half-open connection. -/
namespace Utp

open Wrapping

/-- How far a socket is in its life. -/
structure Phase where
  state : ConnState
  closeRequested : Bool
  readShutdown : Bool

namespace Conn

def phase (s : Conn) : Phase := ⟨s.state, s.closeRequested, s.rcv.readShutdown⟩

/-- The phase is part of what the queue leaves alone. -/
theorem phase_of_backdrop {s s' : Conn} (h : s'.backdrop = s.backdrop) : s'.phase = s.phase :=
  congrArg (fun b : Backdrop => Phase.mk b.state b.closeRequested b.rcv.readShutdown) h

/-- And of what the receiving side leaves alone. -/
theorem phase_of_foreground {s s' : Conn} (h : s'.foreground = s.foreground) : s'.phase = s.phase :=
  congrArg (fun f : Foreground => Phase.mk f.state f.closeRequested f.readShutdown) h

theorem phase_of_writeFrame {s s' : Conn} (h : s'.writeFrame = s.writeFrame) : s'.phase = s.phase :=
  congrArg (fun w : WriteFrame => Phase.mk w.state w.closeRequested w.rcv.readShutdown) h

/-- A new socket is idle, and no shutdown of it has been asked for. -/
theorem phase_initializeSocket (env : Env) (addr : PackedSockAddr) (connSeed connIdRecv connIdSend : Nat) (s : Conn) :
    (s.initializeSocket env addr connSeed connIdRecv connIdSend).phase = ⟨.idle, s.closeRequested, s.rcv.readShutdown⟩ :=
  phase_of_backdrop (backdrop_mtuReset env _)

end Conn

/-- The user is not asking for the end of the socket. -/
structure Unclosed (s s' : Conn) : Prop where
  requested : s'.closeRequested = s.closeRequested
  shut : s'.rcv.readShutdown = s.rcv.readShutdown

/-- A socket whose end was not asked for is not brought to it. -/
structure Spared (s s' : Conn) : Prop extends Unclosed s s' where
  state : s.closeRequested = false → s'.state = .destroy → s.state = .destroy

/-- Steps that do not ask for the end compose. -/
theorem Unclosed.trans {s t u : Conn} (hFirst : Unclosed s t) (hSecond : Unclosed t u) : Unclosed s u :=
  ⟨hSecond.requested.trans hFirst.requested, hSecond.shut.trans hFirst.shut⟩

namespace Spared

variable {s t u : Conn}

/-- Nothing happens to a socket whose phase stays. -/
theorem of_phase (h : t.phase = s.phase) : Spared s t :=
  ⟨⟨congrArg Phase.closeRequested h, congrArg Phase.readShutdown h⟩, fun _ hDone => (congrArg Phase.state h).symm.trans hDone⟩

theorem refl (s : Conn) : Spared s s := of_phase rfl

theorem trans (hFirst : Spared s t) (hSecond : Spared t u) : Spared s u :=
  ⟨hFirst.toUnclosed.trans hSecond.toUnclosed, fun hOpen hDone =>
    hFirst.state hOpen (hSecond.state (hFirst.requested.trans hOpen) hDone)⟩

/-- What comes after may leave the phase as it is. -/
theorem then_phase (h : Spared s t) (hPhase : u.phase = t.phase) : Spared s u := h.trans (of_phase hPhase)

end Spared

section

variable {env : Env} {cause : Cause} {s s' : Conn}

/-- Bookkeeping does not touch the life of a socket, unless the user shuts down reading. -/
theorem Quiet.phase (h : Quiet env cause s s') (hAsked : cause ≠ .asked) : s'.phase = s.phase := by
  have hSearched : ∀ t : Conn, (t.mtuSearchUpdate env).phase = t.phase := fun t =>
    Conn.phase_of_backdrop ((Conn.backdrop_check 1331 _ _).trans (Conn.backdrop_check 1314 _ _))
  cases h with
  | check line ok hLine => exact Conn.phase_of_backdrop (Conn.backdrop_check line ok s)
  | setsockopt opt val => cases opt <;> rfl
  | probeLost hProbe => exact hSearched _
  | probePassed hProbe => exact hSearched _
  | fragmentation nextHopMtu =>
      change (if _ then _ else _ : Conn).phase = _
      split_ifs
      · exact hSearched _
      · exact hSearched _
  | startTimer => exact Conn.phase_of_writeFrame (Conn.writeFrame_startTimer s)
  | shutRead hCause => exact absurd hCause hAsked
  | ack hCause => exact Conn.phase_of_foreground (Conn.foreground_sendAck env false s)
  | synAck d hCause hEmpty => exact Conn.phase_of_foreground (Conn.foreground_sendAck env true s)
  | keepAlive hOpen hFin => exact Conn.phase_of_foreground (Conn.foreground_sendAck env false _)
  | _ => rfl

/-- A run of the bookkeeping keeps the phase. -/
theorem QuietPath.phase (h : QuietPath env cause s s') (hAsked : cause ≠ .asked) : s'.phase = s.phase := by
  induction h with
  | refl => rfl
  | tail _ hStep ih => exact (hStep.phase hAsked).trans ih

/-- A connection that is given up is destroyed only when its program has closed it; otherwise it waits in
`CS_RESET` for that. -/
theorem Conn.spared_abandon (code : ErrorCode) (s : Conn) : Spared s (s.abandon.emit (.onError code)) := by
  refine ⟨⟨rfl, rfl⟩, fun hOpen hDone => ?_⟩
  change (if s.closeRequested then ConnState.destroy else .reset) = .destroy at hDone
  rw [hOpen] at hDone
  cases hDone

/-- A change of the connection state spares the socket, but for what the user asks for, for a SYN
and for the timer. -/
theorem Moving.spared (h : Moving cause s s') (hAsked : cause ≠ .asked) (hTimer : cause ≠ .timer)
    (hSyn : ∀ d, cause ≠ .syn d) : Spared s s' := by
  have hUp : ∀ (state : ConnState) (e : Event), state ≠ .destroy → Spared s ((s.setState state).emit e) :=
    fun state e hState => ⟨⟨rfl, rfl⟩, fun _ hDone => absurd hDone hState⟩
  cases h with
  | established r hCause hType hState => exact hUp .connected _ (by decide)
  | admitted r hCause hType hState => exact hUp .connected _ (by decide)
  | finAcked r hCause hFin hAcks =>
      split_ifs with hRequested
      · exact ⟨⟨rfl, rfl⟩, fun hOpen _ => absurd (hRequested.symm.trans hOpen) (by decide)⟩
      · exact .of_phase rfl
  | full hState hFull =>
      unfold Conn.markFull Conn.noteFull
      rw [if_pos hFull, if_pos hFull]
      exact ⟨⟨rfl, rfl⟩, nofun⟩
  | writable hState hFull => exact hUp .connected _ (by decide)
  | expired hState hCause => exact absurd hCause hTimer
  | gaveUp hState => exact Conn.spared_abandon _ s
  | closing hOpen hCause => exact absurd hCause hAsked
  | closed hState hCause =>
      rcases hCause with hCause | ⟨d, hCause⟩
      · exact absurd hCause hAsked
      · exact absurd hCause (hSyn d)
  | reset => exact Conn.spared_abandon _ s
  | icmpError =>
      unfold Conn.receiveIcmpError
      dsimp only
      split_ifs
      · exact .refl s
      · exact Conn.spared_abandon _ s
      · exact Conn.spared_abandon _ s

/-- No change of the connection state but the one that the user asks for is one for the user. -/
theorem Moving.unclosed (h : Moving cause s s') (hAsked : cause ≠ .asked) : Unclosed s s' := by
  cases h with
  | finAcked r hCause hFin hAcks => split_ifs <;> exact ⟨rfl, rfl⟩
  | full hState hFull =>
      unfold Conn.markFull Conn.noteFull
      rw [if_pos hFull, if_pos hFull]
      exact ⟨rfl, rfl⟩
  | closing hOpen hCause => exact absurd hCause hAsked
  | icmpError =>
      unfold Conn.receiveIcmpError
      dsimp only
      split_ifs <;> exact ⟨rfl, rfl⟩
  | _ => exact ⟨rfl, rfl⟩

/-- A transition that does not change the connection state leaves the life of the socket alone. -/
theorem Sending.phase (h : Sending env cause s s') (hAsked : cause ≠ .asked) :
    s'.phase = s.phase ∨ Moving cause s s' := by
  cases h with
  | quiet hQuiet => exact .inl (hQuiet.phase hAsked)
  | queueing hQueue => exact .inl (Conn.phase_of_backdrop hQueue.backdrop)
  | moving hMove => exact .inr hMove

/-- The functions that end a socket run for the user, for a SYN or for the timer. -/
theorem Trans.spared (h : Trans env cause s s') (hAsked : cause ≠ .asked) (hTimer : cause ≠ .timer)
    (hSyn : ∀ d, cause ≠ .syn d) : Spared s s' := by
  cases h with
  | setup hSetup =>
      cases hSetup with
      | initialise addr connSeed connIdRecv connIdSend hState =>
          have hPhase := Conn.phase_initializeSocket env addr connSeed connIdRecv connIdSend s
          refine ⟨⟨congrArg Phase.closeRequested hPhase, congrArg Phase.readShutdown hPhase⟩, fun _ hDone => ?_⟩
          cases (congrArg Phase.state hPhase).symm.trans hDone
      | dial hState hCount hPointer => exact ⟨⟨rfl, rfl⟩, fun _ hDone => by cases hDone⟩
      | accept d hCause => exact absurd hCause (hSyn d)
  | sending hSend =>
      rcases hSend.phase hAsked with hSame | hMove
      · exact .of_phase hSame
      · exact hMove.spared hAsked hTimer hSyn
  | receiving hReceive => exact .of_phase (Conn.phase_of_foreground hReceive.foreground)

/-- Nothing but a call, the timer or a failed accept destroys a socket that its program has not closed. By
induction on the run. -/
theorem Path.spared (h : Path env cause s s') (hAsked : cause ≠ .asked) (hTimer : cause ≠ .timer)
    (hSyn : ∀ d, cause ≠ .syn d) : Spared s s' := by
  induction h with
  | refl => exact .refl s
  | tail _ hStep ih => exact ih.trans (hStep.spared hAsked hTimer hSyn)

/-- Neither the timer nor a packet acts for the user. -/
theorem SendPath.unclosed (h : SendPath env cause s s') (hAsked : cause ≠ .asked) : Unclosed s s' := by
  induction h with
  | refl => exact (Spared.refl s).toUnclosed
  | tail _ hStep ih =>
      refine ih.trans ?_
      rcases hStep.phase hAsked with hSame | hMove
      · exact (Spared.of_phase hSame).toUnclosed
      · exact hMove.unclosed hAsked

end

/-- The user asks for a change in the life of the socket `p`. -/
def Op.asks (p : Nat) : Op → Prop
  | .connect q _ _ | .shutdown q _ | .close q => q = p
  | _ => False

namespace Context

variable {env : Env} {op : Op} {c c' c'' : Context} {p : Nat}

/-- The socket `p` is not brought to its end, unless it is deleted. -/
def Sparing (p : Nat) (c c' : Context) : Prop :=
  ∀ sock', c'.sockets p = some sock' → ∃ sock, c.sockets p = some sock ∧ Spared (c.enter p sock) (c'.enter p sock')

namespace Sparing

/-- An operation that leaves the table alone spares all sockets. -/
theorem of_sockets (h : c'.sockets p = c.sockets p) : Sparing p c c' :=
  fun sock' hSock' => ⟨sock', h.symm.trans hSock', .of_phase rfl⟩

theorem trans (hFirst : Sparing p c c') (hSecond : Sparing p c' c'') : Sparing p c c'' := by
  intro sock'' hSock''
  obtain ⟨sock', hSock', hLater⟩ := hSecond sock'' hSock''
  obtain ⟨sock, hSock, hEarlier⟩ := hFirst sock' hSock'
  exact ⟨sock, hSock, hEarlier.trans hLater⟩

/-- One function of one socket spares the others, and this one if it does so itself. -/
theorem runOn {q : Nat} {f : Conn → Conn}
    (hSpared : ∀ sock, c.sockets q = some sock → Spared (c.enter q sock) (f (c.enter q sock))) :
    Sparing p c (c.runOn q f) := by
  by_cases hSame : q = p
  · subst hSame
    intro sock' hSock'
    cases hSock : c.sockets q with
    | none =>
        have hNone : c.runOn q f = c := by
          unfold Context.runOn
          rw [hSock]
        rw [hNone, hSock] at hSock'
        cases hSock'
    | some sock =>
        rw [runOn_of_some hSock] at hSock' ⊢
        rw [sockets_leave, Function.update_self] at hSock'
        cases hSock'
        exact ⟨sock, rfl, (hSpared sock hSock).then_phase rfl⟩
  · exact .of_sockets (spares_runOn f (Ne.symm hSame)).1

/-- A socket is deleted only in `CS_DESTROY`, which is the case that sparing allows. -/
theorem delete (q : Nat) (c : Context) : Sparing p c (c.delete q) := by
  intro sock' hSock'
  rw [(sockets_delete q c).1] at hSock'
  by_cases hSame : p = q
  · subst hSame
    rw [Function.update_self] at hSock'
    cases hSock'
  · rw [Function.update_of_ne hSame] at hSock'
    exact ⟨sock', hSock', .of_phase rfl⟩

/-- A socket that the timer has brought to its end is deleted at once. -/
theorem checkSocket (q : Nat) (hOk : c.Ok) : Sparing p c (c.checkSocket env q) := by
  by_cases hSame : q = p
  · subst hSame
    intro sock' hSock'
    unfold Context.checkSocket at hSock' ⊢
    dsimp only at hSock' ⊢
    cases hSock : c.sockets q with
    | none =>
        have hNone : c.runOn q (fun s => s.checkTimeouts env) = c := by
          unfold Context.runOn
          rw [hSock]
        rw [hNone, hSock] at hSock'
        dsimp only at hSock'
        rw [hSock] at hSock'
        cases hSock'
    | some sock =>
        have hNow : (c.runOn q fun s => s.checkTimeouts env).sockets q =
            some ((c.enter q sock).checkTimeouts env).toSocket := by
          rw [runOn_of_some hSock, sockets_leave, Function.update_self]
        rw [hNow] at hSock' ⊢
        dsimp only at hSock' ⊢
        split_ifs at hSock' ⊢ with hDone
        · rw [(sockets_delete q _).1, Function.update_self] at hSock'
          cases hSock'
        · rw [hNow] at hSock'
          cases hSock'
          have hUnclosed := (Conn.path_checkTimeouts env (hOk.core q sock hSock)).unclosed nofun
          exact ⟨sock, rfl, ⟨⟨hUnclosed.requested, hUnclosed.shut⟩, fun _ hNow => absurd hNow hDone⟩⟩
  · unfold Context.checkSocket
    dsimp only
    have hRan : Sparing p c (c.runOn q fun s => s.checkTimeouts env) := .of_sockets (spares_runOn _ (Ne.symm hSame)).1
    split
    · exact hRan
    · split_ifs
      · exact hRan.trans (.delete q _)
      · exact hRan

/-- By induction on the order in which the table is walked. -/
theorem checkSockets (order : List Nat) (hOk : c.Ok) :
    Sparing p c (order.foldl (fun c p => c.checkSocket env p) c) := by
  induction order generalizing c with
  | nil => exact .of_sockets rfl
  | cons q order ih =>
      have hTurns : Turns env (.checkTimeouts order) c (c.checkSocket env q) := turns_checkSocket q ⟨order, rfl⟩ hOk
      exact (checkSocket q hOk).trans (ih (hTurns.ok hOk))

/-- By induction on the fuel of the drain. -/
theorem issueAcks (fuel : Nat) (c : Context) : Sparing p c (c.issueAcks env fuel) := by
  induction fuel generalizing c with
  | zero => exact .of_sockets rfl
  | succ fuel ih =>
      unfold Context.issueAcks
      split
      · exact .of_sockets rfl
      · have hAck : ∀ s : Conn, Spared s (s.sendAck env false) := fun s =>
          .of_phase (Conn.phase_of_foreground (Conn.foreground_sendAck env false s))
        exact (runOn fun sock _ => hAck (c.enter _ sock)).trans (ih _)

/-- A SYN creates a socket with a number of its own, and does not touch the old ones. -/
theorem accept (d : Datagram) (addr : PackedSockAddr) (hOld : p < c.allocated) : Sparing p c (c.accept env d addr) := by
  unfold Context.accept
  dsimp only
  split_ifs
  · exact .of_sockets rfl
  · exact .of_sockets rfl
  · exact .of_sockets rfl
  · exact .of_sockets rfl
  · refine .of_sockets ((spares_runOn _ hOld.ne).1.trans ?_)
    exact Function.update_of_ne hOld.ne ..

/-- A packet for nobody is answered, and no socket is touched. -/
theorem reject (header : PacketFormatV1) (addr : PackedSockAddr) (c : Context) : Sparing p c (c.reject env header addr) := by
  refine .of_sockets ?_
  unfold Context.reject
  dsimp only
  split
  · rfl
  · split_ifs <;> rfl

/-- A packet for a connection does not end it, unless its user has asked for that. -/
theorem utpProcessUdp (d : Datagram) (addr : PackedSockAddr) (hOk : c.Ok) (hOld : p < c.allocated) :
    Sparing p c (c.utpProcessUdp env d addr).2 := by
  have hRead : Sparing p c (c.record addr (.readBytes 0 20)) := .of_sockets rfl
  have hStill : p < (c.record addr (.readBytes 0 20)).allocated := hOld
  have hCore : ∀ q sock, (c.record addr (.readBytes 0 20)).sockets q = some sock →
      Core ((c.record addr (.readBytes 0 20)).enter q sock) := hOk.core
  unfold Context.utpProcessUdp
  dsimp only
  generalize c.record addr (.readBytes 0 20) = c₁ at hRead hStill hCore ⊢
  split_ifs with hLen hVersion hReset hSyn
  · exact .of_sockets rfl
  · exact hRead
  · split
    · exact hRead.trans (runOn fun sock _ => Conn.spared_abandon _ _)
    · exact hRead
  · exact hRead.trans (accept d addr hStill)
  · split
    · rename_i q hFound
      have hCache : Sparing p c₁ { c₁ with lastUtpSocket := some q } := .of_sockets rfl
      refine (hRead.trans hCache).trans (runOn fun sock hSock => ?_)
      rcases Conn.path_utpProcessIncoming env (hCore q sock hSock) hSyn with hQuiet | ⟨r, -, hPath⟩
      · exact .of_phase (hQuiet.phase nofun)
      · exact hPath.spared nofun nofun nofun
    · exact hRead.trans (reject d.header addr c₁)

/-- Nothing but the user, and the timer of a connection that is not up yet, ends a connection; and the
timer deletes it. -/
theorem step (hOk : c.Ok) (hStep : c.step env op = some c') (hNot : ¬op.asks p) (hOld : p < c.allocated) :
    Sparing p c c' := by
  unfold Context.step at hStep
  split_ifs at hStep
  cases op with
  | createSocket =>
      cases hStep
      exact .of_sockets (Function.update_of_ne hOld.ne ..)
  | setOption opt val =>
      cases hStep
      cases opt <;> exact .of_sockets rfl
  | connect q addr draws =>
      obtain ⟨⟨seed, mid⟩, hDraw, hEq⟩ := Option.map_eq_some_iff.1 hStep
      obtain ⟨-, -, tick, rfl⟩ := drawSeed_spec hDraw
      rw [← hEq]
      exact .of_sockets (spares_runOn _ (Ne.symm hNot)).1
  | writev q iovecs =>
      cases hStep
      exact runOn fun sock hSock =>
        (Conn.path_utpWritev env .write iovecs (hOk.core q sock hSock) (.inl rfl)).path.spared nofun nofun nofun
  | readDrained q =>
      cases hStep
      exact runOn fun sock _ => .of_phase ((Conn.path_utpReadDrained env _).phase nofun)
  | setsockopt q opt val =>
      cases hStep
      refine runOn fun sock _ => ?_
      cases opt <;> exact .of_phase rfl
  | shutdown q how =>
      cases hStep
      exact .of_sockets (spares_runOn _ (Ne.symm hNot)).1
  | close q =>
      cases hStep
      exact .of_sockets (spares_runOn _ (Ne.symm hNot)).1
  | processUdp d addr =>
      cases hStep
      exact utpProcessUdp d addr hOk hOld
  | processIcmpFragmentation d addr nextHopMtu =>
      cases hStep
      unfold utpProcessIcmpFragmentation
      split
      · exact .of_sockets rfl
      · exact runOn fun sock _ => .of_phase ((Quiet.fragmentation _ _ : Quiet env .call _ _).phase nofun)
  | processIcmpError d addr =>
      cases hStep
      unfold utpProcessIcmpError
      split
      · exact .of_sockets rfl
      · exact runOn fun sock _ => (Moving.icmpError _ : Moving .call _ _).spared nofun nofun nofun
  | issueDeferredAcks =>
      cases hStep
      exact issueAcks _ c
  | checkTimeouts order =>
      cases hStep
      unfold utpCheckTimeouts
      dsimp only
      split_ifs
      · exact .of_sockets rfl
      · have hAside : Turns env (.checkTimeouts order) c _ := turns_aside c (c.updateCurrentMs env).currentMs (c.tick + 1)
          (c.updateCurrentMs env).currentMs c.targetDelay c.optSndbuf c.optRcvbuf
          (purgeRstInfo (c.updateCurrentMs env).currentMs c.rstInfo.length 0 c.rstInfo) c.log
        refine Sparing.trans ?_ (checkSockets order (hAside.ok hOk))
        exact .of_sockets rfl

end Sparing

end Context

end Utp
