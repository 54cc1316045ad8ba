import Utp.Guarantees.Teardown
import Utp.Transition.Arrival

/-! A destroyed socket waits for its deletion; which messages can bring it back. -/
namespace Utp

open Wrapping

namespace Conn

variable (env : Env)

/-- The ack of our FIN does not change the state of a socket that is done. -/
theorem steady_complete (header : PacketFormatV1) {s : Conn} (hDone : s.state = .destroy) (acks : Nat) :
    Steady s ((s.completeIncoming header).completeOutgoing env header acks) := by
  have hIncoming : s.completeIncoming header = s := by
    unfold completeIncoming
    simp [hDone]
  have hOther : ¬(header.type = stState && s.state = .synSent) = true := by simp [hDone]
  rw [hIncoming]
  unfold completeOutgoing
  rw [if_neg hOther]
  dsimp only
  split_ifs
  · refine ⟨rfl, hDone.symm, ?_⟩
    simp [acceptances, setState, emit, Event.isAccepted]
  · exact ⟨rfl, rfl, rfl⟩
  · exact .refl s

theorem steady_processAcks {header : PacketFormatV1} {s : Conn} (hAck : s.rcv.ackNr < 65536)
    (hDone : s.state = .destroy) (acks : Nat) : Steady s (s.processAcks env header acks) := by
  have hWindow := Steady.of_quiet (path_updateWindowUser env .call header s) hAck
  have hStart := hWindow.trans (steady_complete env header (hWindow.state.trans hDone) acks)
  unfold processAcks
  dsimp only
  generalize ((s.updateWindowUser header).completeIncoming header).completeOutgoing env header acks = t at hStart ⊢
  have hAcked := hStart.trans ((steady_updateFastResend header t).trans (steady_ackLoop env acks _))
  generalize (t.updateFastResend header).ackLoop env acks = u at hAcked ⊢
  have hDropped := hAcked.trans (steady_dropAcked u.snd.curWindowPackets u)
  generalize u.dropAcked u.snd.curWindowPackets = w at hDropped ⊢
  have hChecked := hDropped.trans (steady_check 2279 w.frontQueued w)
  exact hChecked.trans ((steady_flushNagle env _).trans (steady_fastTimeoutRetry env _))

theorem steady_receiveAcks (d : Datagram) (header : PacketFormatV1) (selack : Option SackMask) (time : Nat)
    {s : Conn} (hAck : s.rcv.ackNr < 65536) (hDone : s.state = .destroy) :
    Steady s (s.receiveAcks env d header selack time) := by
  have hMeasured : QuietPath env .call s _ := (path_countDuplicateAck env .call header s).trans
    (path_measureAcks env .call d header selack (s.acksOf header) _)
  unfold receiveAcks
  dsimp only
  generalize (s.countDuplicateAck env header).measureAcks env d header selack (s.acksOf header) = a at hMeasured ⊢
  have hControl := Steady.of_quiet (hMeasured.trans (path_controlWindow env .call header time a.1 a.2)) hAck
  generalize a.2.controlWindow header time a.1 = w at hControl ⊢
  have hAcked : Steady s (if s.acksOf header ≤ w.snd.curWindowPackets then w.processAcks env header (s.acksOf header)
      else w) := by
    split_ifs
    · exact hControl.trans (steady_processAcks env (hControl.ackNr_lt hAck) (hControl.state.trans hDone) _)
    · exact hControl
  generalize (if s.acksOf header ≤ w.snd.curWindowPackets then w.processAcks env header (s.acksOf header) else w) = x
    at hAcked ⊢
  cases selack with
  | none => exact hAcked
  | some mask => exact hAcked.trans (steady_selectiveAck env d mask _ (hAcked.ackNr_lt hAck))

/-- A packet for a socket that is done does not change its state. -/
theorem steady_utpProcessIncoming (d : Datagram) {s : Conn} (hAck : s.rcv.ackNr < 65536) (hDone : s.state = .destroy) :
    Steady s (s.utpProcessIncoming env d false) := by
  rcases parsed_utpProcessIncoming env d hAck with ⟨-, hQuiet⟩ | ⟨-, r, u, time, -, hQuiet, hEq⟩
  · exact Steady.of_quiet hQuiet hAck
  · have hSteady := Steady.of_quiet (hQuiet .call) hAck
    have hOther : u.state ≠ .synSent := by
      rw [hSteady.state, hDone]
      nofun
    have hHeard : Steady s { u with lastGotPacket := u.currentMs } := hSteady.trans ⟨rfl, rfl, rfl⟩
    rw [hEq]
    unfold processBody
    dsimp only
    rw [if_neg hOther, if_neg (by decide)]
    generalize ({ u with lastGotPacket := u.currentMs } : Conn) = x at hHeard ⊢
    split_ifs
    · exact hHeard.trans (steady_emit x rfl)
    · exact hHeard
    · unfold processAccepted
      dsimp only
      have hAcked := hHeard.trans (steady_receiveAcks env r.d r.d.header r.selack time
        (hHeard.ackNr_lt hAck) (hHeard.state.trans hDone))
      generalize x.receiveAcks env r.d r.d.header r.selack time = y at hAcked ⊢
      have hChecked := hAcked.trans (steady_check 2328 y.frontQueued y)
      generalize y.check 2328 y.frontQueued = w at hChecked ⊢
      have hState : w.state = .destroy := hChecked.state.trans hDone
      have hWritable : w.makeWritable = w := by
        unfold makeWritable
        rw [if_neg (by rw [hState]; nofun)]
      have hData : w.receiveData env r.d r.d.header r.data (x.seqOffset r.d.header) = w := by
        unfold receiveData
        simp [hState]
      rw [hWritable, hData]
      exact hChecked

theorem checkTimeouts_of_destroy {s : Conn} (hDone : s.state = .destroy) :
    (s.checkTimeouts env).state = .destroy := by
  have hCheck : (s.check 1133 s.frontQueued).state = .destroy :=
    (congrArg View.state (view_check 1133 s.frontQueued s)).trans hDone
  unfold checkTimeouts
  dsimp only
  rw [if_neg (not_not.2 hCheck), hCheck]
  exact hCheck

end Conn

namespace Context

variable {env : Env} {c c' : Context} {p q : Nat} {sock : Socket}

/-- The socket `p` has been allocated, and is destroyed or deleted. -/
structure Gone (c : Context) (p : Nat) : Prop where
  allocated : p < c.allocated
  state : ∀ sock, c.sockets p = some sock → sock.state = .destroy

/-- The operation is a message that ends the connection of the socket `p`. -/
def tearsDown (op : Op) (p : Nat) (c : Context) : Prop :=
  match op with
  | .processUdp d addr => d.header.type = stReset ∧ c.parseIcmpPayload d addr = some p
  | .processIcmpError d addr => c.parseIcmpPayload d addr = some p
  | _ => False

/-- The user has closed the socket that such a message is for. -/
def Harmless (op : Op) (p : Nat) (c : Context) : Prop :=
  c.tearsDown op p → ∀ sock, c.sockets p = some sock → sock.closeRequested = true

theorem gone_of_sockets (h : c.Gone p) (hAllocated : c.allocated ≤ c'.allocated)
    (hSame : c'.sockets p = c.sockets p) : c'.Gone p :=
  ⟨h.allocated.trans_le hAllocated, fun sock hSock => h.state sock (hSame.symm.trans hSock)⟩

theorem Turns.allocated_le {op : Op} (hTurns : Turns env op c c') (hOk : c.Ok) : c.allocated ≤ c'.allocated := by
  induction hTurns with
  | refl => exact le_rfl
  | tail hTurns hTurn ih => exact ih.trans (hTurn.allocated_le (Turns.ok hTurns hOk))

/-- A function that keeps a destroyed socket so. -/
theorem Gone.runOn (h : c.Gone p) (q : Nat) {f : Conn → Conn}
    (hKeeps : ∀ sock, q = p → c.sockets p = some sock → sock.state = .destroy → (f (c.enter p sock)).state = .destroy) :
    (c.runOn q f).Gone p := by
  by_cases hSelf : q = p
  · subst hSelf
    cases hSock : c.sockets q with
    | none =>
        unfold Context.runOn
        rw [hSock]
        exact h
    | some sock =>
        refine ⟨(allocated_runOn q f c).symm ▸ h.allocated, fun sock' hSock' => ?_⟩
        rw [runOn_of_some hSock, sockets_leave, Function.update_self] at hSock'
        cases hSock'
        exact hKeeps sock rfl hSock (h.state sock hSock)
  · exact gone_of_sockets h (allocated_runOn q f c).ge (spares_runOn f (Ne.symm hSelf)).1

/-- The check of a socket leaves the others alone, and deletes the socket if it is done. -/
theorem Gone.checkSocket (env : Env) (h : c.Gone p) (q : Nat) :
    (c.checkSocket env q).Gone p ∧ (q = p → (c.checkSocket env q).sockets p = none) ∧
      (c.sockets p = none → (c.checkSocket env q).sockets p = none) := by
  have hRun : (c.runOn q fun s => s.checkTimeouts env).Gone p :=
    h.runOn q fun sock _ _ hState => Conn.checkTimeouts_of_destroy env hState
  have hNone : c.sockets p = none → (c.runOn q fun s => s.checkTimeouts env).sockets p = none := by
    intro hFree
    by_cases hSelf : q = p
    · subst hSelf
      unfold Context.runOn
      rw [hFree]
      exact hFree
    · exact (spares_runOn _ (Ne.symm hSelf)).1.trans hFree
  unfold Context.checkSocket
  dsimp only
  generalize c.runOn q (fun s => s.checkTimeouts env) = c₁ at hRun hNone ⊢
  obtain ⟨hSockets, hAllocated⟩ := sockets_delete q c₁
  have hDeleted : (c₁.delete q).Gone p := by
    refine ⟨hAllocated ▸ hRun.allocated, fun sock hSock => ?_⟩
    rw [hSockets] at hSock
    by_cases hSelf : p = q
    · subst hSelf
      rw [Function.update_self] at hSock
      cases hSock
    · rw [Function.update_of_ne hSelf] at hSock
      exact hRun.state sock hSock
  cases hSock : c₁.sockets q with
  | none =>
      refine ⟨hRun, ?_, hNone⟩
      rintro rfl
      exact hSock
  | some sock =>
      dsimp only
      split_ifs with hDone
      · refine ⟨hDeleted, ?_, fun hFree => ?_⟩
        · rintro rfl
          rw [hSockets, Function.update_self]
        · rw [hSockets]
          by_cases hSelf : p = q
          · rw [hSelf, Function.update_self]
          · rw [Function.update_of_ne hSelf]
            exact hNone hFree
      · refine ⟨hRun, ?_, hNone⟩
        rintro rfl
        exact absurd (hRun.state sock hSock) hDone

theorem Gone.checkSockets (env : Env) (h : c.Gone p) (order : List Nat) :
    (order.foldl (fun c p => c.checkSocket env p) c).Gone p ∧
      (p ∈ order ∨ c.sockets p = none → (order.foldl (fun c p => c.checkSocket env p) c).sockets p = none) := by
  induction order generalizing c with
  | nil => exact ⟨h, fun hNone => hNone.resolve_left (List.not_mem_nil)⟩
  | cons q order ih =>
      obtain ⟨hGone, hSelf, hNone⟩ := h.checkSocket env q
      obtain ⟨hRest, hDeleted⟩ := ih hGone
      refine ⟨hRest, fun hOr => hDeleted ?_⟩
      rcases hOr with hMem | hFree
      · rcases List.mem_cons.1 hMem with hHere | hLater
        · exact Or.inr (hSelf hHere.symm)
        · exact Or.inl hLater
      · exact Or.inr (hNone hFree)

/-- A datagram that ends no connection, or that of a socket that was closed by the user. -/
theorem Gone.utpProcessUdp (h : c.Gone p) (hOk : c.Ok) {d : Datagram} {addr : PackedSockAddr}
    (hHarmless : c.Harmless (.processUdp d addr) p) : (c.utpProcessUdp env d addr).2.Gone p := by
  have hTurns : Turns env (.processUdp d addr) c (c.utpProcessUdp env d addr).2 := turns_utpProcessUdp hOk rfl
  refine ⟨h.allocated.trans_le (hTurns.allocated_le hOk), ?_⟩
  unfold Context.utpProcessUdp
  by_cases hLen : d.len < 20
  · rw [if_pos hLen]
    exact h.state
  rw [if_neg hLen]
  dsimp only
  have hRecord : (c.record addr (.readBytes 0 20)).Gone p := ⟨h.allocated, h.state⟩
  by_cases hVersion : utpVersion d.header ≠ 1
  · rw [if_pos hVersion]
    exact h.state
  rw [if_neg hVersion]
  by_cases hReset : d.header.type = stReset
  · rw [if_pos hReset]
    have hFind : (c.record addr (.readBytes 0 20)).findForError addr d.header.connid = c.parseIcmpPayload d addr := by
      unfold parseIcmpPayload
      rw [if_neg hLen, if_neg hVersion]
      rfl
    rw [hFind]
    cases hFound : c.parseIcmpPayload d addr with
    | none => exact h.state
    | some q =>
        refine (hRecord.runOn q fun sock hSelf hSock _ => ?_).state
        have hClosed := hHarmless ⟨hReset, hSelf ▸ hFound⟩ sock hSock
        change (if sock.closeRequested then ConnState.destroy else .reset) = .destroy
        rw [hClosed, if_pos rfl]
  rw [if_neg hReset]
  by_cases hSyn : d.header.type = stSyn
  · rw [if_pos hSyn]
    intro sock hSock
    have hSpared : Spares (c.record addr (.readBytes 0 20)) ((c.record addr (.readBytes 0 20)).accept env d addr) p :=
      spares_accept (Nat.ne_of_lt h.allocated)
    exact h.state sock (hSpared.1.symm.trans hSock)
  rw [if_neg hSyn]
  split
  · rename_i q hFound
    refine (Gone.runOn (c := { c.record addr (.readBytes 0 20) with lastUtpSocket := some q }) ⟨h.allocated, h.state⟩ q
      fun sock _ hSock hState => ?_).state
    have hAck : (c.enter p sock).rcv.ackNr < 65536 := (hOk.core p sock hSock).view.bounds.ackNr_lt
    exact (Conn.steady_utpProcessIncoming env d hAck hState).state.trans hState
  · intro sock hSock
    have hSpared : Spares (c.record addr (.readBytes 0 20)) ((c.record addr (.readBytes 0 20)).reject env d.header addr)
      p := spares_reject d.header addr p
    exact h.state sock (hSpared.1.symm.trans hSock)

theorem Gone.issueAcks (fuel : Nat) (h : c.Gone p) : (c.issueAcks env fuel).Gone p := by
  induction fuel generalizing c with
  | zero => exact h
  | succ fuel ih =>
      unfold Context.issueAcks
      split
      · exact h
      · rename_i q rest hList
        refine ih (h.runOn q fun sock _ _ hState => ?_)
        exact (congrArg View.state (Conn.view_sendAck env false _)).trans hState

theorem Gone.utpCheckTimeouts (h : c.Gone p) (order : List Nat) : (c.utpCheckTimeouts env order).Gone p := by
  unfold Context.utpCheckTimeouts
  dsimp only
  split_ifs
  · exact ⟨h.allocated, h.state⟩
  · refine (Gone.checkSockets env ?_ order).1
    exact ⟨h.allocated, h.state⟩

/-- Every operation leaves a destroyed socket so, unless it is a message that ends the connection
of a socket that the user has not closed. -/
theorem Gone.step (h : c.Gone p) (hOk : c.Ok) {op : Op} (hStep : c.step env op = some c')
    (hHarmless : c.Harmless op p) : c'.Gone p := by
  have hOther : ∀ q ok, c.stateIs q ok = true → ok .destroy = false → q ≠ p := by
    rintro q ok hState hNot rfl
    obtain ⟨sock, hSock, hIs⟩ := stateIs_spec ok hState
    rw [h.state sock hSock, hNot] at hIs
    cases hIs
  unfold Context.step at hStep
  split_ifs at hStep with hAdmit
  cases op with
  | createSocket =>
      cases hStep
      exact gone_of_sockets h (Nat.le_succ _) (Function.update_of_ne (Nat.ne_of_lt h.allocated) ..)
  | setOption opt val =>
      cases hStep
      cases opt <;> exact ⟨h.allocated, h.state⟩
  | connect q addr draws =>
      have hElse := hOther q (· == .uninitialized) hAdmit rfl
      obtain ⟨⟨seed, mid⟩, hDraw, hEq⟩ := Option.map_eq_some_iff.1 hStep
      obtain ⟨-, -, tick, rfl⟩ := drawSeed_spec hDraw
      rw [← hEq]
      exact gone_of_sockets (c := ({ c with tick := tick } : Context).addKey ⟨addr, seed⟩ q) ⟨h.allocated, h.state⟩
        (allocated_runOn q _ _).ge (spares_runOn _ hElse.symm).1
  | writev q iovecs =>
      cases hStep
      refine h.runOn q fun sock _ _ hState => ?_
      have hDown : (c.enter p sock).state ≠ .connected := by
        rw [show (c.enter p sock).state = .destroy from hState]
        nofun
      unfold Conn.utpWritev
      rw [if_pos hDown]
      split_ifs <;> exact hState
  | readDrained q =>
      cases hStep
      refine h.runOn q fun sock _ hSock hState => ?_
      have hAck : (c.enter p sock).rcv.ackNr < 65536 := (hOk.core p sock hSock).view.bounds.ackNr_lt
      exact (Steady.of_quiet (Conn.path_utpReadDrained env _) hAck).state.trans hState
  | setsockopt q opt val =>
      cases hStep
      refine h.runOn q fun sock _ _ hState => ?_
      cases opt <;> exact hState
  | shutdown q how =>
      cases hStep
      have hElse := hOther q (fun st => st != .uninitialized && st != .destroy) hAdmit rfl
      exact gone_of_sockets h (allocated_runOn q _ c).ge (spares_runOn _ hElse.symm).1
  | close q =>
      cases hStep
      have hElse := hOther q (fun st => st != .uninitialized && st != .destroy) hAdmit rfl
      exact gone_of_sockets h (allocated_runOn q _ c).ge (spares_runOn _ hElse.symm).1
  | processUdp d addr =>
      cases hStep
      exact h.utpProcessUdp hOk hHarmless
  | processIcmpFragmentation d addr nextHopMtu =>
      cases hStep
      unfold utpProcessIcmpFragmentation
      split
      · exact h
      · rename_i q hFound
        refine h.runOn q fun sock _ _ hState => ?_
        exact (congrArg View.state (Conn.view_receiveIcmpFragmentation env _ _)).trans hState
  | processIcmpError d addr =>
      cases hStep
      unfold utpProcessIcmpError
      cases hFound : c.parseIcmpPayload d addr with
      | none => exact h
      | some q =>
          refine h.runOn q fun sock hSelf hSock hState => ?_
          have hClosed := hHarmless (hSelf ▸ hFound) sock hSock
          have hBusy : ¬(c.enter p sock).state = .idle := by
            rw [show (c.enter p sock).state = .destroy from hState]
            nofun
          unfold Conn.receiveIcmpError
          dsimp only
          rw [if_neg hBusy]
          change (if sock.closeRequested then ConnState.destroy else .reset) = .destroy
          rw [hClosed, if_pos rfl]
  | issueDeferredAcks =>
      cases hStep
      exact h.issueAcks _
  | checkTimeouts order =>
      cases hStep
      exact h.utpCheckTimeouts order

/-- A message that ends the connection of a socket which was not closed leaves it reset. -/
theorem reset_of_tearsDown {op : Op} (hTears : c.tearsDown op p) (hSock : c.sockets p = some sock)
    (hState : sock.state = .destroy) (hOpen : sock.closeRequested = false) (hStep : c.step env op = some c') :
    ∃ sock', c'.sockets p = some sock' ∧ sock'.state = .reset := by
  cases op with
  | processUdp d addr =>
      obtain ⟨hReset, hFound⟩ := hTears
      have hRead : 20 ≤ d.len ∧ utpVersion d.header = 1 := by
        unfold parseIcmpPayload at hFound
        split_ifs at hFound with hLen hVersion
        exact ⟨Nat.not_lt.1 hLen, not_not.1 hVersion⟩
      have hRun : c.step env (.processUdp d addr) = some (c.utpProcessUdp env d addr).2 := rfl
      rw [hRun, resolved_utpProcessUdp env addr c hRead.1 hRead.2 hReset, hFound] at hStep
      cases hStep
      have hHere : (c.record addr (.readBytes 0 20)).sockets p = some sock := hSock
      dsimp only
      refine ⟨_, by rw [runOn_of_some hHere, sockets_leave, Function.update_self], ?_⟩
      change (if sock.closeRequested then ConnState.destroy else .reset) = .reset
      rw [hOpen, if_neg Bool.false_ne_true]
  | processIcmpError d addr =>
      have hRun : c.step env (.processIcmpError d addr) = some (c.utpProcessIcmpError d addr).2 := rfl
      have hFound : c.parseIcmpPayload d addr = some p := hTears
      rw [hRun, utpProcessIcmpError, hFound] at hStep
      cases hStep
      dsimp only
      refine ⟨_, by rw [runOn_of_some hSock, sockets_leave, Function.update_self], ?_⟩
      have hBusy : ¬(c.enter p sock).state = .idle := by
        rw [show (c.enter p sock).state = .destroy from hState]
        nofun
      unfold Conn.receiveIcmpError
      dsimp only
      rw [if_neg hBusy]
      change (if sock.closeRequested then ConnState.destroy else .reset) = .reset
      rw [hOpen, if_neg Bool.false_ne_true]
  | _ => exact hTears.elim

/-- No operation of a run ends the connection of the socket `p`, unless the user has closed it. -/
def Undisturbed (env : Env) (p : Nat) : List Op → Context → Prop
  | [], _ => True
  | op :: ops, c => c.Harmless op p ∧ ∀ c', c.step env op = some c' → Undisturbed env p ops c'

theorem Gone.run (h : c.Gone p) (hReach : c.Reachable env) {ops : List Op} (hRun : c.run env ops = some c')
    (hCalm : c.Undisturbed env p ops) : c'.Gone p := by
  induction ops generalizing c with
  | nil => exact Option.some.inj hRun ▸ h
  | cons op ops ih =>
      obtain ⟨next, hStep, hRest⟩ := Option.bind_eq_some_iff.1 hRun
      exact ih (h.step hReach.ok hStep hCalm.1) (.next op hReach hStep) hRest (hCalm.2 next hStep)

/-- The 500 ms since the last check of the timeouts have passed. -/
def timeoutsDue (env : Env) (c : Context) : Prop :=
  timeoutCheckInterval ≤ u64 ((c.updateCurrentMs env).currentMs - c.lastCheck)

/-- The check of the timeouts deletes the sockets that are destroyed. -/
theorem Gone.deleted (h : c.Gone p) (hOk : c.Ok) {order : List Nat} (hStep : c.step env (.checkTimeouts order) = some c')
    (hDue : c.timeoutsDue env) : c'.sockets p = none := by
  unfold Context.step at hStep
  split_ifs at hStep with hAdmit
  cases hStep
  have hPerm : order.Perm (c.utpSockets.map Prod.snd) := List.isPerm_iff.1 hAdmit
  have hListed : p ∈ order ∨ c.sockets p = none := by
    cases hSock : c.sockets p with
    | none => exact Or.inr rfl
    | some sock =>
        have hHolds : c.Holds p sock := ⟨hSock, by rw [h.state sock hSock]; nofun⟩
        exact Or.inl (hPerm.mem_iff.2 (List.mem_map_of_mem (hOk.listed p sock hHolds)))
  have hPassed : ¬u64 ((c.updateCurrentMs env).currentMs - (c.updateCurrentMs env).lastCheck) < timeoutCheckInterval :=
    Nat.not_lt.2 hDue
  unfold Context.utpCheckTimeouts
  dsimp only
  rw [if_neg hPassed]
  refine (Gone.checkSockets env ?_ order).2 hListed
  exact ⟨h.allocated, h.state⟩

end Context

/-- A destroyed socket is destroyed or deleted after every operation but a reset or an ICMP error
that finds it before the user has asked for its end; without these it is deleted at the next check. -/
theorem destroyed_until_deleted (env : Env) (c : Context) (hReach : c.Reachable env) (p : Nat) (sock : Socket)
    (hSock : c.sockets p = some sock) (hState : sock.state = .destroy) :
    (∀ op c', c.step env op = some c' → (c'.Gone p ↔ (c.tearsDown op p → sock.closeRequested = true))) ∧
      ∀ ops c', c.run env ops = some c' → c.Undisturbed env p ops → c'.Gone p ∧
        ∀ order c'', c'.step env (.checkTimeouts order) = some c'' → c'.timeoutsDue env → c''.sockets p = none := by
  have hGone : c.Gone p := by
    refine ⟨hReach.ok.allocated p sock hSock, fun sock' hSock' => ?_⟩
    cases Option.some.inj (hSock.symm.trans hSock')
    exact hState
  constructor
  · intro op c' hStep
    constructor
    · intro hAfter hTears
      by_contra hOpen
      obtain ⟨sock', hSock', hReset⟩ :=
        Context.reset_of_tearsDown hTears hSock hState (Bool.eq_false_iff.2 hOpen) hStep
      exact nomatch hReset.symm.trans (hAfter.state sock' hSock')
    · intro hHarmless
      refine hGone.step hReach.ok hStep fun hTears sock' hSock' => ?_
      cases Option.some.inj (hSock.symm.trans hSock')
      exact hHarmless hTears
  · intro ops c' hRun hCalm
    have hAfter := hGone.run hReach hRun hCalm
    refine ⟨hAfter, fun order c'' hStep hDue => ?_⟩
    exact hAfter.deleted (hReach.run env hRun).ok hStep hDue

/-- A socket that is closed while it dials. -/
def closedOps : List Op := [.createSocket, .connect 0 somePeer 1, .close 0]

/-- The answer to the SYN comes too late, and the socket is deleted. -/
theorem destroyed_until_deleted_late : ∃ (c c' c'' : Context) (sock : Socket), c.Reachable steadyEnv ∧
    c.sockets 0 = some sock ∧ sock.state = .destroy ∧
      c.step steadyEnv (.processUdp (somePacket stState 7 77 7 []) somePeer) = some c' ∧
      c'.step steadyEnv (.checkTimeouts [0]) = some c'' ∧ c''.sockets 0 = none := by
  have hRun : ((utpInit true true).run steadyEnv closedOps).any (fun c =>
      (c.sockets 0).any (fun sock => sock.state == .destroy) &&
        (c.step steadyEnv (.processUdp (somePacket stState 7 77 7 []) somePeer)).any fun c' =>
          500 ≤ u64 ((c'.updateCurrentMs steadyEnv).currentMs - c'.lastCheck) &&
            (c'.step steadyEnv (.checkTimeouts [0])).isSome) = true := by
    decide +kernel
  obtain ⟨c, hReach, hOk⟩ := Context.Reachable.exists_of_run hRun
  obtain ⟨hThere, hLate⟩ := Bool.and_eq_true_iff.1 hOk
  obtain ⟨sock, hSock, hState⟩ := (Option.any_eq_true _ _).1 hThere
  obtain ⟨c', hStep, hNext⟩ := (Option.any_eq_true _ _).1 hLate
  obtain ⟨hDue, hSome⟩ := Bool.and_eq_true_iff.1 hNext
  obtain ⟨c'', hCheck⟩ := Option.isSome_iff_exists.1 hSome
  refine ⟨c, c', c'', sock, hReach, hSock, beq_iff_eq.1 hState, hStep, hCheck, ?_⟩
  have hPath : c.run steadyEnv [.processUdp (somePacket stState 7 77 7 []) somePeer] = some c' := by
    rw [Context.run, hStep]
    rfl
  have hCalm : c.Undisturbed steadyEnv 0 [.processUdp (somePacket stState 7 77 7 []) somePeer] :=
    ⟨fun hTears => absurd hTears.1 (by decide), fun _ _ => trivial⟩
  have hPassed := of_decide_eq_true hDue
  exact ((destroyed_until_deleted steadyEnv c hReach 0 sock hSock (beq_iff_eq.1 hState)).2 _ c' hPath hCalm).2 [0] c''
    hCheck hPassed

/-- A reset answers the SYN of a socket that was closed meanwhile. The socket is not destroyed any
more, and the next check does not delete it. -/
theorem destroyed_is_reset : ∃ (c c' c'' : Context) (sock sock'' : Socket), c.Reachable steadyEnv ∧
    c.sockets 0 = some sock ∧ sock.state = .destroy ∧
      c.step steadyEnv (.processUdp (somePacket stReset 7 0 0 []) somePeer) = some c' ∧ ¬c'.Gone 0 ∧
      c'.timeoutsDue steadyEnv ∧ c'.step steadyEnv (.checkTimeouts [0]) = some c'' ∧
      c''.sockets 0 = some sock'' ∧ sock''.state = .reset := by
  have hRun : ((utpInit true true).run steadyEnv closedOps).any (fun c =>
      (c.sockets 0).any (fun sock => sock.state == .destroy) &&
        (c.step steadyEnv (.processUdp (somePacket stReset 7 0 0 []) somePeer)).any fun c' =>
          (c'.sockets 0).any (fun sock => sock.state == .reset) &&
            500 ≤ u64 ((c'.updateCurrentMs steadyEnv).currentMs - c'.lastCheck) &&
            (c'.step steadyEnv (.checkTimeouts [0])).any fun c'' =>
              (c''.sockets 0).any fun sock => sock.state == .reset) = true := by
    decide +kernel
  obtain ⟨c, hReach, hOk⟩ := Context.Reachable.exists_of_run hRun
  obtain ⟨hThere, hRest⟩ := Bool.and_eq_true_iff.1 hOk
  obtain ⟨sock, hSock, hState⟩ := (Option.any_eq_true _ _).1 hThere
  obtain ⟨c', hStep, hNext⟩ := (Option.any_eq_true _ _).1 hRest
  obtain ⟨hBoth, hChecked⟩ := Bool.and_eq_true_iff.1 hNext
  obtain ⟨hReset, hDue⟩ := Bool.and_eq_true_iff.1 hBoth
  obtain ⟨sock', hSock', hState'⟩ := (Option.any_eq_true _ _).1 hReset
  obtain ⟨c'', hCheck, hStill⟩ := (Option.any_eq_true _ _).1 hChecked
  obtain ⟨sock'', hSock'', hState''⟩ := (Option.any_eq_true _ _).1 hStill
  have hPassed := of_decide_eq_true hDue
  refine ⟨c, c', c'', sock, sock'', hReach, hSock, beq_iff_eq.1 hState, hStep, fun hGone => ?_, hPassed, hCheck, hSock'',
    beq_iff_eq.1 hState''⟩
  exact nomatch (beq_iff_eq.1 hState').symm.trans (hGone.state sock' hSock')

end Utp
