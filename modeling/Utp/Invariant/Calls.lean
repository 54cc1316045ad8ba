import Utp.Invariant.Fate

/-! Invariants that hold between the calls of the functions of a socket, and not after every
elementary transition. -/
namespace Utp

open Wrapping

/-- One function of a socket that is in the table. -/
inductive Call (env : Env) (s : Conn) : Conn → Prop where
  | writev (iovecs : List (List UInt8)) : Call env s (s.utpWritev env iovecs).2
  | readDrained : Call env s (s.utpReadDrained env)
  | setsockopt (opt : SockOpt) (val : Int) : Call env s (s.utpSetsockopt opt val)
  | shutdown (how : Shutdown) : Call env s (s.utpShutdown env how)
  | close : Call env s (s.utpClose env)
  | incoming (d : Datagram) (hSyn : d.header.type ≠ stSyn) : Call env s (s.utpProcessIncoming env d false)
  | reset : Call env s s.receiveReset
  | fragmentation (nextHopMtu : Nat) : Call env s (s.receiveIcmpFragmentation env nextHopMtu)
  | icmpError : Call env s s.receiveIcmpError
  | ack : Call env s (s.sendAck env false)
  | timeouts : Call env s (s.checkTimeouts env)

/-- Every call is a path, for a cause of its own. -/
theorem Call.path {env : Env} {s s' : Conn} (h : Call env s s') (hCore : Core s) : ∃ cause, Path env cause s s' := by
  cases h with
  | writev iovecs => exact ⟨.write, (Conn.path_utpWritev env .write iovecs hCore (.inl rfl)).path⟩
  | readDrained => exact ⟨.drained, (Conn.path_utpReadDrained env s).path.path⟩
  | setsockopt opt val => exact ⟨.call, .single (.sending (.quiet (.setsockopt s opt val)))⟩
  | shutdown how => exact ⟨.asked, (Conn.path_utpShutdown env how hCore).path⟩
  | close => exact ⟨.asked, (Conn.path_utpClose env .asked hCore (.inl rfl)).path⟩
  | incoming d hSyn =>
      rcases Conn.path_utpProcessIncoming env hCore hSyn with hQuiet | ⟨r, -, hPath⟩
      · exact ⟨.call, hQuiet.path.path⟩
      · exact ⟨.packet r, hPath⟩
  | reset => exact ⟨.call, .single (.sending (.moving (.reset s)))⟩
  | fragmentation nextHopMtu => exact ⟨.call, .single (.sending (.quiet (.fragmentation s nextHopMtu)))⟩
  | icmpError => exact ⟨.call, .single (.sending (.moving (.icmpError s)))⟩
  | ack => exact ⟨.deferred, .single (.sending (.quiet (.ack s (Or.inl rfl))))⟩
  | timeouts => exact ⟨.timer, (Conn.path_checkTimeouts env hCore).path⟩

/-- A property of the initialised sockets that every function keeps. The clock of the context
is the one that was read last, be it for this socket or for another. -/
structure Upheld (env : Env) (I : Conn → Prop) : Prop where
  dialled : ∀ (s : Conn) (addr : PackedSockAddr) (seed : Nat), s.toSocket.Pristine → s.log = [] →
    I ((s.initializeSocket env addr seed seed (seed + 1)).connectSocket env)
  accepted : ∀ (s : Conn) (d : Datagram) (addr : PackedSockAddr), s.toSocket.Pristine → s.log = [] →
    I (s.acceptSocket env d addr)
  called : ∀ s s' : Conn, Core s → s.Live → I s → Call env s s' → I s'
  lent : ∀ (s t : Conn) (tick : Nat), I s → I t → I { s with currentMs := t.currentMs, tick := tick }
  read : ∀ (s : Conn) (n tick : Nat), I s → I { s with currentMs := u64 (env n).milliseconds, tick := tick }

namespace Context

variable {env : Env} {I : Conn → Prop} {c : Context} {p : Nat} {sock : Socket}

/-- The property holds of every initialised socket. -/
def All (I : Conn → Prop) (c : Context) : Prop := ∀ p sock, c.Holds p sock → I (c.enter p sock)

/-- The number of calls made so far is no matter of a socket. -/
theorem All.tick (h : Upheld env I) (hAll : c.All I) (tick : Nat) : ({ c with tick := tick } : Context).All I :=
  fun p sock hSock => h.lent _ _ tick (hAll p sock hSock) (hAll p sock hSock)

/-- Neither is the clock of the context, which a socket takes over when it is entered. -/
theorem All.read (h : Upheld env I) (hAll : c.All I) (n tick : Nat) :
    ({ c with currentMs := u64 (env n).milliseconds, tick := tick } : Context).All I :=
  fun p sock hSock => h.read _ n tick (hAll p sock hSock)

/-- A socket is written back. -/
theorem All.leave (h : Upheld env I) (hAll : c.All I) {s : Conn} (hConnect : s.onConnectSet = c.onConnectSet) (hInv : I s) :
    (c.leave p s).All I := by
  intro q sock' hSock'
  by_cases hSame : q = p
  · subst hSame
    obtain ⟨hGet, -⟩ := hSock'
    rw [sockets_leave, Function.update_self] at hGet
    cases hGet
    rw [enter_leave_self hConnect]
    exact hInv
  · obtain ⟨hGet, hLive⟩ := hSock'
    rw [sockets_leave] at hGet
    have hOld : c.Holds q sock' := ⟨(Function.update_of_ne hSame ..).symm.trans hGet, hLive⟩
    rw [enter_leave_other hSame]
    exact h.lent _ s s.tick (hAll q sock' hOld) hInv

/-- One call on one socket; the others are left alone. -/
theorem All.runOn (h : Upheld env I) (hOk : c.Ok) (hAll : c.All I) (hSock : c.Holds p sock) {f : Conn → Conn}
    (hCall : Call env (c.enter p sock) (f (c.enter p sock))) : (c.runOn p f).All I := by
  have hCore := hOk.core p sock hSock.1
  obtain ⟨cause, hPath⟩ := hCall.path hCore
  have hConnect : (f (c.enter p sock)).onConnectSet = c.onConnectSet :=
    congrArg Identity.onConnectSet (hPath.keeps hCore hSock.2).2
  rw [runOn_of_some hSock.1]
  exact hAll.leave h hConnect (h.called _ _ hCore hSock.2 (hAll p sock hSock) hCall)

/-- A socket that stays uninitialised is written back. -/
theorem All.leave_new (hAll : c.All I) {s : Conn} (hState : s.state = .uninitialized)
    (hMs : s.currentMs = c.currentMs) (hTick : s.tick = c.tick) : (c.leave p s).All I := by
  intro q sock' hSock'
  obtain ⟨hGet, hLive⟩ := hSock'
  rw [sockets_leave] at hGet
  by_cases hSame : q = p
  · subst hSame
    rw [Function.update_self] at hGet
    cases hGet
    exact absurd hState hLive
  · have hOld : c.Holds q sock' := ⟨(Function.update_of_ne hSame ..).symm.trans hGet, hLive⟩
    rw [enter_leave_other hSame, hMs, hTick]
    exact hAll q sock' hOld

/-- A socket enters the table. -/
theorem All.enlist (h : Upheld env I) (hOk : c.Ok) (hAll : c.All I) {key : UTPSocketKey} {addr : PackedSockAddr}
    {seed recvId sendId : Nat} {cause : Cause} {s : Conn} (hSock : c.sockets p = some sock)
    (hNew : sock.state = .uninitialized)
    (hPath : Path env cause ((c.enter p sock).initializeSocket env addr seed recvId sendId) s) (hInv : I s) :
    ((c.addKey key p).leave p s).All I := by
  have hKeyed : (c.addKey key p).All I := fun q sock' hSock' => hAll q sock' hSock'
  have hConnect : s.onConnectSet = c.onConnectSet := onConnectSet_enlisted hOk hSock hNew hPath
  exact hKeyed.leave h hConnect hInv

/-- A new socket is not initialised, so nothing is asked of it. -/
theorem All.create (hAll : c.All I) : c.create.All I := by
  intro q sock' hSock'
  obtain ⟨hGet, hLive⟩ := hSock'
  have hUpdate : c.create.sockets = Function.update c.sockets c.allocated
    (some (utpCreateSocket c.targetDelay c.optSndbuf c.optRcvbuf)) := rfl
  rw [hUpdate] at hGet
  by_cases hSame : q = c.allocated
  · rw [hSame, Function.update_self] at hGet
    cases hGet
    exact absurd rfl hLive
  · rw [Function.update_of_ne hSame] at hGet
    have hLog : c.create.logs q = c.logs q := Function.update_of_ne hSame ..
    have hEnter : c.create.enter q sock' = c.enter q sock' := by
      unfold Context.enter
      rw [hLog]
      rfl
    rw [hEnter]
    exact hAll q sock' ⟨hGet, hLive⟩

/-- What is gone has nothing to keep. -/
theorem All.delete (hAll : c.All I) (hOk : c.Ok) (hSock : c.Holds p sock) : (c.delete p).All I := by
  obtain ⟨acks, ida, hEq, -, -⟩ := hOk.delete_eq hSock
  rw [hEq]
  intro q sock' hSock'
  obtain ⟨hGet, hLive⟩ := hSock'
  have hOther : q ≠ p := by
    rintro rfl
    cases (Function.update_self ..).symm.trans hGet
  have hOld : c.sockets q = some sock' := (Function.update_of_ne hOther ..).symm.trans hGet
  have hLog : Function.update c.logs p (c.logs p ++ [.onStateChange .destroying]) q = c.logs q :=
    Function.update_of_ne hOther ..
  change I { c.enter q sock' with log := Function.update c.logs p (c.logs p ++ [.onStateChange .destroying]) q }
  rw [hLog]
  exact hAll q sock' ⟨hOld, hLive⟩

/-- The timers are a call, and a deletion is no call. -/
theorem All.checkSocket (h : Upheld env I) (hOk : c.Ok) (hAll : c.All I) (p : Nat) : (c.checkSocket env p).All I := by
  cases hSock : c.sockets p with
  | none =>
      have hSame : c.checkSocket env p = c := by
        unfold Context.checkSocket Context.runOn
        simp only [hSock]
      rw [hSame]
      exact hAll
  | some sock =>
      have hTurns : Turns env (.checkTimeouts [p]) c (c.runOn p fun s => s.checkTimeouts env) :=
        turns_call .timer hOk hSock ⟨[p], rfl⟩ nofun (fun s hCore => (Conn.path_checkTimeouts env hCore).path)
          (checkTimeouts_pristine hOk hSock)
      have hRan : (c.runOn p fun s => s.checkTimeouts env).All I := by
        by_cases hNew : sock.state = .uninitialized
        · rw [runOn_of_some hSock, checkTimeouts_pristine hOk hSock hNew]
          exact hAll.leave_new hNew rfl rfl
        · exact hAll.runOn h hOk ⟨hSock, hNew⟩ .timeouts
      have hOk' := hTurns.ok hOk
      unfold Context.checkSocket
      dsimp only
      generalize c.runOn p (fun s => s.checkTimeouts env) = c₁ at hRan hOk' ⊢
      split
      · exact hRan
      · rename_i sock' hSock'
        split_ifs with hDone
        · exact hRan.delete hOk' ⟨hSock', hDone.trans_ne (by decide)⟩
        · exact hRan

/-- By induction on the order in which the table is gone through. -/
theorem All.checkSockets (h : Upheld env I) (order : List Nat) (hOk : c.Ok) (hAll : c.All I) :
    (order.foldl (fun c p => c.checkSocket env p) c).All I := by
  induction order generalizing c with
  | nil => exact hAll
  | cons p order ih =>
      have hTurns : Turns env (.checkTimeouts order) c (c.checkSocket env p) := turns_checkSocket p ⟨order, rfl⟩ hOk
      exact ih (hTurns.ok hOk) (hAll.checkSocket h hOk p)

/-- By induction on the acks that are deferred. -/
theorem All.issueAcks (h : Upheld env I) (fuel : Nat) (hOk : c.Ok) (hAll : c.All I) : (c.issueAcks env fuel).All I := by
  induction fuel generalizing c with
  | zero => exact hAll
  | succ fuel ih =>
      have hTurns : Turns env .issueDeferredAcks c (c.issueAcks env 1) := turns_issueAcks 1 hOk
      unfold Context.issueAcks at hTurns ⊢
      split
      · exact hAll
      · rename_i p rest hList
        rw [hList] at hTurns
        have hMem : p ∈ c.ackSockets := by
          rw [hList]
          exact List.mem_cons_self ..
        obtain ⟨sock, hSock⟩ := hOk.acking p hMem
        exact ih (hTurns.ok hOk) (hAll.runOn h hOk hSock .ack)

/-- A reset is sent by the context. -/
theorem All.reject (h : Upheld env I) (hAll : c.All I) (header : PacketFormatV1) (addr : PackedSockAddr) :
    (c.reject env header addr).All I := by
  have hRead := hAll.read h c.tick (c.tick + 1)
  unfold Context.reject
  dsimp only
  split
  · exact hRead
  · split_ifs
    · exact hRead
    · exact hRead.tick h _

/-- An accepted socket is a call on a new one. -/
theorem All.accept (h : Upheld env I) (hOk : c.Ok) (hAll : c.All I) (d : Datagram) (addr : PackedSockAddr) :
    (c.accept env d addr).All I := by
  have hCalled : c.called.All I := hAll.tick h (c.tick + 1)
  unfold Context.accept
  dsimp only
  split_ifs
  · exact hAll
  · exact hAll
  · exact hAll
  · exact hCalled
  · have hNow : c.called.create.sockets c.allocated =
        some (utpCreateSocket c.targetDelay c.optSndbuf c.optRcvbuf) := Function.update_self ..
    have hRun : (c.called.create.addKey ⟨addr, d.header.connid + 1⟩ c.allocated).sockets c.allocated =
        some (utpCreateSocket c.targetDelay c.optSndbuf c.optRcvbuf) := hNow
    have hCreate : Turns env .createSocket c c.called.create := (turns_aside c c.currentMs (c.tick + 1) c.lastCheck
      c.targetDelay c.optSndbuf c.optRcvbuf c.rstInfo c.log).tail (.create _)
    have hOk' := hCreate.ok hOk
    obtain ⟨hPristine, hLog⟩ := hOk'.pristine c.allocated _ hNow rfl
    rw [runOn_of_some hRun]
    exact hCalled.create.enlist h hOk' hNow rfl (hOk'.path_accepted hNow rfl d addr) (h.accepted _ d addr hPristine hLog)

/-- A packet is a call on the socket that it belongs to. -/
theorem All.utpProcessUdp (h : Upheld env I) (hOk : c.Ok) (hAll : c.All I) (d : Datagram) (addr : PackedSockAddr) :
    (c.utpProcessUdp env d addr).2.All I := by
  have hRecord : Turns env (.processUdp d addr) c (c.record addr (.readBytes 0 20)) := turns_aside c c.currentMs c.tick
    c.lastCheck c.targetDelay c.optSndbuf c.optRcvbuf c.rstInfo _
  have hOk' := hRecord.ok hOk
  have hRecorded : (c.record addr (.readBytes 0 20)).All I := fun p sock hSock => hAll p sock hSock
  unfold Context.utpProcessUdp
  by_cases hLen : d.len < 20
  · rw [if_pos hLen]
    exact hAll
  rw [if_neg hLen]
  dsimp only
  generalize c.record addr (.readBytes 0 20) = c₁ at hOk' hRecorded ⊢
  by_cases hVersion : utpVersion d.header ≠ 1
  · rw [if_pos hVersion]
    exact hRecorded
  rw [if_neg hVersion]
  by_cases hReset : d.header.type = stReset
  · rw [if_pos hReset]
    cases hFind : c₁.findForError addr d.header.connid with
    | none => exact hRecorded
    | some p =>
        obtain ⟨sock, hSock, -⟩ := holds_of_findForError hOk' hFind
        exact hRecorded.runOn h hOk' hSock .reset
  rw [if_neg hReset]
  by_cases hSyn : d.header.type = stSyn
  · rw [if_pos hSyn]
    exact hRecorded.accept h hOk' d addr
  rw [if_neg hSyn]
  cases hFind : c₁.findConn addr d.header.connid with
  | none => exact hRecorded.reject h d.header addr
  | some p =>
      obtain ⟨sock, hSock, -⟩ := holds_of_findConn hOk' hFind
      have hCache : Turn env (.processUdp d addr) c₁ { c₁ with lastUtpSocket := some p } := .cache c₁ p sock hSock
      have hCached : ({ c₁ with lastUtpSocket := some p } : Context).All I := fun q sock' hSock' => hRecorded q sock' hSock'
      have hThere : ({ c₁ with lastUtpSocket := some p } : Context).Holds p sock := hSock
      exact hCached.runOn h (hCache.ok hOk') hThere (.incoming d hSyn)

/-- So one operation keeps what all calls keep. -/
theorem All.step (h : Upheld env I) {c' : Context} {op : Op} (hOk : c.Ok) (hAll : c.All I)
    (hStep : c.step env op = some c') : c'.All I := by
  unfold Context.step at hStep
  split_ifs at hStep with hAdmit
  cases op with
  | createSocket =>
      cases hStep
      exact hAll.create
  | setOption opt val =>
      cases hStep
      cases opt <;> exact fun p sock hSock => hAll p sock hSock
  | connect p addr draws =>
      obtain ⟨sock, hSock, hNew⟩ := stateIs_spec (· == .uninitialized) hAdmit
      have hConnect : c.utpConnect env p addr draws = some c' := hStep
      obtain ⟨⟨seed, mid⟩, hDraw, hEq⟩ := Option.map_eq_some_iff.1 hConnect
      obtain ⟨-, -, tick, rfl⟩ := drawSeed_spec hDraw
      have hAside : Turns env .createSocket c { c with tick := tick } :=
        turns_aside c c.currentMs tick c.lastCheck c.targetDelay c.optSndbuf c.optRcvbuf c.rstInfo c.log
      have hOk' := hAside.ok hOk
      have hThere : ({ c with tick := tick }.addKey ⟨addr, seed⟩ p).sockets p = some sock := hSock
      have hHere : ({ c with tick := tick } : Context).sockets p = some sock := hSock
      have hFresh := beq_iff_eq.1 hNew
      obtain ⟨hPristine, hLog⟩ := hOk'.pristine p sock hHere hFresh
      rw [← hEq]
      dsimp only
      rw [runOn_of_some hThere]
      exact (hAll.tick h tick).enlist h hOk' hHere hFresh (hOk'.path_dialled hHere hFresh addr seed)
        (h.dialled _ addr seed hPristine hLog)
  | writev p iovecs =>
      cases hStep
      obtain ⟨sock, hSock, -⟩ := stateIs_spec (fun _ => true) (Bool.and_eq_true_iff.1 hAdmit).1
      by_cases hNew : sock.state = .uninitialized
      · have hSame : ((c.enter p sock).utpWritev env iovecs).2 = c.enter p sock := by
          have hDown : (c.enter p sock).state ≠ .connected := by
            rw [show (c.enter p sock).state = .uninitialized from hNew]
            decide
          unfold Conn.utpWritev
          rw [if_pos hDown]
          split_ifs <;> rfl
        rw [runOn_of_some hSock, hSame]
        exact hAll.leave_new hNew rfl rfl
      · exact hAll.runOn h hOk ⟨hSock, hNew⟩ (.writev iovecs)
  | readDrained p =>
      cases hStep
      obtain ⟨sock, hSock, hState⟩ := stateIs_spec (· != .uninitialized) hAdmit
      exact hAll.runOn h hOk ⟨hSock, bne_iff_ne.1 hState⟩ .readDrained
  | setsockopt p opt val =>
      cases hStep
      obtain ⟨sock, hSock, -⟩ := stateIs_spec (fun _ => true) (Bool.and_eq_true_iff.1 hAdmit).1
      by_cases hNew : sock.state = .uninitialized
      · rw [runOn_of_some hSock]
        cases opt <;> exact hAll.leave_new hNew rfl rfl
      · exact hAll.runOn h hOk ⟨hSock, hNew⟩ (.setsockopt opt val)
  | shutdown p how =>
      cases hStep
      obtain ⟨sock, hSock, hState⟩ := stateIs_spec (fun st => st != .uninitialized && st != .destroy) hAdmit
      exact hAll.runOn h hOk ⟨hSock, bne_iff_ne.1 (Bool.and_eq_true_iff.1 hState).1⟩ (.shutdown how)
  | close p =>
      cases hStep
      obtain ⟨sock, hSock, hState⟩ := stateIs_spec (fun st => st != .uninitialized && st != .destroy) hAdmit
      exact hAll.runOn h hOk ⟨hSock, bne_iff_ne.1 (Bool.and_eq_true_iff.1 hState).1⟩ .close
  | processUdp d addr =>
      cases hStep
      exact hAll.utpProcessUdp h hOk d addr
  | processIcmpFragmentation d addr nextHopMtu =>
      cases hStep
      unfold utpProcessIcmpFragmentation
      cases hFind : c.parseIcmpPayload d addr with
      | none => exact hAll
      | some p =>
          obtain ⟨sock, hSock, -⟩ := holds_of_parseIcmpPayload hOk hFind
          exact hAll.runOn h hOk hSock (.fragmentation _)
  | processIcmpError d addr =>
      cases hStep
      unfold utpProcessIcmpError
      cases hFind : c.parseIcmpPayload d addr with
      | none => exact hAll
      | some p =>
          obtain ⟨sock, hSock, -⟩ := holds_of_parseIcmpPayload hOk hFind
          exact hAll.runOn h hOk hSock .icmpError
  | issueDeferredAcks =>
      cases hStep
      exact hAll.issueAcks h _ hOk
  | checkTimeouts order =>
      cases hStep
      have hRead := hAll.read h c.tick (c.tick + 1)
      unfold utpCheckTimeouts
      dsimp only
      split_ifs
      · exact hRead
      · have hAside : Turns env (.checkTimeouts order) c _ := turns_aside c (c.updateCurrentMs env).currentMs (c.tick + 1)
          (c.updateCurrentMs env).currentMs c.targetDelay c.optSndbuf c.optRcvbuf
          (purgeRstInfo (c.updateCurrentMs env).currentMs c.rstInfo.length 0 c.rstInfo) c.log
        exact All.checkSockets h order (hAside.ok hOk) fun p sock hSock => hRead p sock hSock

end Context

/-- The property holds of every initialised socket of every reachable context. -/
theorem Upheld.reachable {env : Env} {I : Conn → Prop} (h : Upheld env I) {c : Context} (hReach : c.Reachable env) :
    c.All I := by
  induction hReach with
  | init onAcceptSet onConnectSet =>
      intro p sock hSock
      cases hSock.1
  | next op hReach hStep ih => exact ih.step h hReach.ok hStep

end Utp
