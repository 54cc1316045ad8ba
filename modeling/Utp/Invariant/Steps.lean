import Utp.Invariant.Turn

/-! Every operation is a sequence of turns, and every reachable context is sound. -/
namespace Utp

open Wrapping BackPointers

namespace Context

variable {env : Env} {op : Op} {c c' : Context} {p : Nat} {sock : Socket}

/-- A sequence of turns of one operation. -/
abbrev Turns (env : Env) (op : Op) : Context → Context → Prop :=
  Relation.ReflTransGen (Turn env op)

/-- By induction on the turns. -/
theorem Turns.ok (hTurns : Turns env op c c') (h : c.Ok) : c'.Ok := by
  induction hTurns with
  | refl => exact h
  | tail _ hTurn ih => exact hTurn.ok ih

/-- A function that leaves the socket alone leaves the context alone. -/
theorem leave_enter (hSock : c.sockets p = some sock) : c.leave p (c.enter p sock) = c := by
  have hEvents : (c.enter p sock).log.drop (c.logs p).length = [] := List.drop_length
  have hSockets : Function.update c.sockets p (some sock) = c.sockets := by
    rw [← hSock, Function.update_eq_self]
  unfold leave
  rw [hEvents, List.foldl_nil]
  change { c with
    sockets := Function.update c.sockets p (some sock)
    logs := Function.update c.logs p (c.logs p) } = c
  rw [hSockets, Function.update_eq_self]

/-- A function of a socket runs between its entry and its leave. -/
theorem runOn_of_some (hSock : c.sockets p = some sock) (f : Conn → Conn) :
    c.runOn p f = c.leave p (f (c.enter p sock)) := by
  unfold runOn
  rw [hSock]

/-- A function of a socket in the table. -/
theorem turn_runOn {f : Conn → Conn} (hSock : c.Holds p sock) (cause : Cause)
    (hCause : c.Admitted op p sock cause) (hRan : Ran env cause (c.enter p sock) (f (c.enter p sock))) :
    Turn env op c (c.runOn p f) := by
  rw [runOn_of_some hSock.1]
  exact .run c p sock cause _ hSock hCause hRan

/-- A function called by the user, which does nothing to a socket that has not been
initialised. -/
theorem turns_call {f : Conn → Conn} (cause : Cause) (h : c.Ok) (hSock : c.sockets p = some sock)
    (hCause : c.Admitted op p sock cause) (hNone : ∀ r, cause ≠ .packet r)
    (hPath : ∀ s : Conn, Core s → Path env cause s (f s))
    (hIdle : sock.state = .uninitialized → f (c.enter p sock) = c.enter p sock) :
    Turns env op c (c.runOn p f) := by
  by_cases hState : sock.state = .uninitialized
  · rw [runOn_of_some hSock, hIdle hState, leave_enter hSock]
  · exact .single (turn_runOn ⟨hSock, hState⟩ cause hCause
      ⟨hPath _ (h.core p sock hSock), fun r hr => absurd hr (hNone r)⟩)

/-- The seed is free: no socket of that address has it as its id. -/
theorem drawSeed_spec {addr : PackedSockAddr} {fuel seed : Nat}
    (hDraw : c.drawSeed env addr fuel = some (seed, c')) :
    seed < 65536 ∧ c.lookup ⟨addr, seed⟩ = none ∧ ∃ tick, c' = { c with tick := tick } := by
  induction fuel generalizing c with
  | zero => cases hDraw
  | succ fuel ih =>
      unfold drawSeed at hDraw
      dsimp only at hDraw
      split_ifs at hDraw with hTaken
      · obtain ⟨hSeed, hFree, tick, hEq⟩ := ih hDraw
        exact ⟨hSeed, hFree, tick, hEq⟩
      · cases hDraw
        exact ⟨u16_lt _, Option.not_isSome_iff_eq_none.1 hTaken, _, rfl⟩

/-- What the context does for itself touches no socket. -/
theorem turns_aside (c : Context) (currentMs tick lastCheck targetDelay optSndbuf optRcvbuf : Nat)
    (rstInfo : List RstInfo) (log : List (PackedSockAddr × Event)) :
    Turns env op c { c with
      currentMs := currentMs
      tick := tick
      lastCheck := lastCheck
      targetDelay := targetDelay
      optSndbuf := optSndbuf
      optRcvbuf := optRcvbuf
      rstInfo := rstInfo
      log := log } :=
  .single (.aside c currentMs tick lastCheck targetDelay optSndbuf optRcvbuf rstInfo log)

/-- Dialling enters the socket in the table and sends its SYN. -/
theorem turns_utpConnect {addr : PackedSockAddr} {draws : Nat} (hOp : op = .connect p addr draws)
    (hSock : c.sockets p = some sock) (hNew : sock.state = .uninitialized)
    (hConnect : c.utpConnect env p addr draws = some c') : Turns env op c c' := by
  unfold utpConnect at hConnect
  cases hDraw : c.drawSeed env addr draws with
  | none =>
      rw [hDraw] at hConnect
      cases hConnect
  | some found =>
      obtain ⟨seed, mid⟩ := found
      rw [hDraw] at hConnect
      obtain ⟨hSeed, hFree, tick, rfl⟩ := drawSeed_spec hDraw
      cases hConnect
      refine .tail (.single (.aside c c.currentMs tick c.lastCheck c.targetDelay c.optSndbuf
        c.optRcvbuf c.rstInfo c.log)) ?_
      have hRun : ({ c with tick := tick }.addKey ⟨addr, seed⟩ p).sockets p = some sock := hSock
      have hEq := runOn_of_some hRun fun s =>
        (s.initializeSocket env addr seed seed (seed + 1)).connectSocket env
      refine Eq.mpr (congrArg (Turn env op _) hEq) ?_
      exact .dial { c with tick := tick } p sock addr seed draws hOp hSock hNew hSeed hFree

/-- A socket that is found for an error has the address that the error is about. -/
theorem holds_of_findForError (h : c.Ok) {addr : PackedSockAddr} {id : Nat}
    (hFind : c.findForError addr id = some p) : ∃ sock, c.Holds p sock ∧ sock.addr = addr := by
  have hLookup : ∃ recvId, c.lookup ⟨addr, recvId⟩ = some p := by
    unfold findForError at hFind
    split at hFind
    · rename_i q hFirst
      cases hFind
      exact ⟨_, hFirst⟩
    · split at hFind
      · rename_i q hNext
        cases hFind
        exact ⟨_, (Option.filter_eq_some_iff.1 hNext).1⟩
      · exact ⟨_, (Option.filter_eq_some_iff.1 hFind).1⟩
  obtain ⟨recvId, hKey⟩ := hLookup
  obtain ⟨sock, hHolds, hSame⟩ := h.holds_of_lookup hKey
  exact ⟨sock, hHolds, (congrArg UTPSocketKey.addr hSame).symm⟩

/-- So has the socket that an ICMP message is about. -/
theorem holds_of_parseIcmpPayload (h : c.Ok) {d : Datagram} {addr : PackedSockAddr}
    (hFind : c.parseIcmpPayload d addr = some p) : ∃ sock, c.Holds p sock ∧ sock.addr = addr := by
  unfold parseIcmpPayload at hFind
  split_ifs at hFind
  exact holds_of_findForError h hFind

/-- A socket that is found for a packet receives on its id. -/
theorem holds_of_findConn (h : c.Ok) {addr : PackedSockAddr} {id : Nat}
    (hFind : c.findConn addr id = some p) :
    ∃ sock, c.Holds p sock ∧ sock.addr = addr ∧ sock.connIdRecv = id := by
  unfold findConn at hFind
  split at hFind
  · rename_i q hCache
    cases hFind
    obtain ⟨hCached, hHit⟩ := Option.filter_eq_some_iff.1 hCache
    obtain ⟨sock, hHolds⟩ := h.cached p hCached
    refine ⟨sock, hHolds, ?_⟩
    unfold cacheHit at hHit
    rw [hHolds.1] at hHit
    simpa using hHit
  · obtain ⟨sock, hHolds, hKey⟩ := h.holds_of_lookup hFind
    cases hKey
    exact ⟨sock, hHolds, rfl, rfl⟩

/-- A SYN creates a socket, unless no callback accepts it, its id is taken, there are too many sockets, or
the firewall blocks it. -/
theorem turns_accept {d : Datagram} {addr : PackedSockAddr} (hOp : op = .processUdp d addr)
    (hVersion : utpVersion d.header = 1) (hType : d.header.type = stSyn) :
    Turns env op c (c.accept env d addr) := by
  have hCalled : Turns env op c c.called := turns_aside c c.currentMs (c.tick + 1) c.lastCheck
    c.targetDelay c.optSndbuf c.optRcvbuf c.rstInfo c.log
  unfold accept
  dsimp only
  split_ifs with hSet hTaken hMany hBlocked
  · exact .refl
  · exact .refl
  · exact .refl
  · exact hCalled
  · have hNow : c.called.create.sockets c.allocated =
        some (utpCreateSocket c.targetDelay c.optSndbuf c.optRcvbuf) := Function.update_self ..
    have hRun : (c.called.create.addKey ⟨addr, d.header.connid + 1⟩ c.allocated).sockets c.allocated =
        some (utpCreateSocket c.targetDelay c.optSndbuf c.optRcvbuf) := hNow
    rw [runOn_of_some hRun]
    refine (hCalled.tail (.create _)).tail ?_
    exact .accept c.called.create c.allocated _ d addr hOp hVersion hType hNow rfl
      (Option.not_isSome_iff_eq_none.1 hTaken)

/-- A packet of no connection is answered with a reset, and touches no socket. -/
theorem turns_reject (header : PacketFormatV1) (addr : PackedSockAddr) :
    Turns env op c (c.reject env header addr) := by
  unfold reject
  dsimp only
  split
  · exact turns_aside c _ _ c.lastCheck c.targetDelay c.optSndbuf c.optRcvbuf _ c.log
  · split_ifs
    · exact turns_aside c _ _ c.lastCheck c.targetDelay c.optSndbuf c.optRcvbuf c.rstInfo c.log
    · exact turns_aside c _ _ c.lastCheck c.targetDelay c.optSndbuf c.optRcvbuf _ _

/-- A packet for a socket of the table. -/
theorem turns_processIncoming {d : Datagram} {addr : PackedSockAddr} (h : c.Ok)
    (hOp : op = .processUdp d addr) (hVersion : utpVersion d.header = 1)
    (hReset : d.header.type ≠ stReset) (hSyn : d.header.type ≠ stSyn) (hSock : c.Holds p sock)
    (hAddr : sock.addr = addr) (hId : sock.connIdRecv = d.header.connid) :
    Turns env op c (({ c with lastUtpSocket := some p }).runOn p fun s =>
      s.utpProcessIncoming env d false) := by
  have hCache : Turn env op c { c with lastUtpSocket := some p } := .cache c p sock hSock
  have hHolds : ({ c with lastUtpSocket := some p } : Context).Holds p sock := hSock
  refine Relation.ReflTransGen.head hCache (.single ?_)
  rcases Conn.path_utpProcessIncoming env (h.core p sock hSock.1) hSyn with hQuiet | ⟨r, hParsed, hPath⟩
  · exact turn_runOn hHolds .call trivial ⟨hQuiet.path.path, nofun⟩
  · obtain ⟨hSame, hParse⟩ := hParsed
    refine turn_runOn hHolds (.packet r) ?_ ⟨hPath, fun r' hr => ?_⟩
    · exact ⟨addr, hSame ▸ hOp, ⟨rfl, hSame ▸ hParse⟩, hSame ▸ hVersion, hSame ▸ hReset, hSame ▸ hSyn,
        hAddr, hSame ▸ hId⟩
    · cases hr
      exact ⟨hSame ▸ hSyn, by rw [hSame]⟩

/-- The branches of the source: a reset, a packet of a connection, a SYN, anything else. -/
theorem turns_utpProcessUdp {d : Datagram} {addr : PackedSockAddr} (h : c.Ok)
    (hOp : op = .processUdp d addr) : Turns env op c (c.utpProcessUdp env d addr).2 := by
  have hRecord : Turns env op c (c.record addr (.readBytes 0 20)) := turns_aside c c.currentMs c.tick
    c.lastCheck c.targetDelay c.optSndbuf c.optRcvbuf c.rstInfo _
  unfold utpProcessUdp
  by_cases hLen : d.len < 20
  · rw [if_pos hLen]
  rw [if_neg hLen]
  dsimp only
  generalize c.record addr (.readBytes 0 20) = c₁ at hRecord ⊢
  have hOk := hRecord.ok h
  by_cases hVersion : utpVersion d.header ≠ 1
  · rw [if_pos hVersion]
    exact hRecord
  rw [if_neg hVersion]
  have hOne := not_not.1 hVersion
  by_cases hReset : d.header.type = stReset
  · rw [if_pos hReset]
    cases hFind : c₁.findForError addr d.header.connid with
    | none => exact hRecord
    | some p =>
        obtain ⟨sock, hHolds, -⟩ := holds_of_findForError hOk hFind
        exact hRecord.tail (turn_runOn hHolds .call trivial
          ⟨.single (.sending (.moving (.reset _))), nofun⟩)
  rw [if_neg hReset]
  by_cases hSyn : d.header.type = stSyn
  · rw [if_pos hSyn]
    exact hRecord.trans (turns_accept hOp hOne hSyn)
  rw [if_neg hSyn]
  cases hFind : c₁.findConn addr d.header.connid with
  | none => exact hRecord.trans (turns_reject d.header addr)
  | some p =>
      obtain ⟨sock, hHolds, hAddr, hId⟩ := holds_of_findConn hOk hFind
      exact hRecord.trans (turns_processIncoming hOk hOp hOne hReset hSyn hHolds hAddr hId)

/-- By induction on the acks that are deferred. -/
theorem turns_issueAcks (fuel : Nat) (h : c.Ok) : Turns env op c (c.issueAcks env fuel) := by
  induction fuel generalizing c with
  | zero => exact .refl
  | succ fuel ih =>
      unfold issueAcks
      split
      · exact .refl
      · rename_i p rest hList
        have hMem : p ∈ c.ackSockets := by
          rw [hList]
          exact List.mem_cons_self ..
        obtain ⟨sock, hHolds⟩ := h.acking p hMem
        have hTurn : Turn env op c (c.runOn p fun s => s.sendAck env false) :=
          turn_runOn hHolds .deferred hMem ⟨.single (.sending (.quiet (.ack _ (Or.inl rfl)))), nofun⟩
        exact .head hTurn (ih (hTurn.ok h))

/-- The timer does nothing to a socket that has not been initialised. -/
theorem checkTimeouts_pristine (h : c.Ok) (hSock : c.sockets p = some sock)
    (hState : sock.state = .uninitialized) :
    (c.enter p sock).checkTimeouts env = c.enter p sock := by
  have hCount := (h.pristine_counts hSock hState).1
  have hNew : (c.enter p sock).state = .uninitialized := hState
  unfold Conn.checkTimeouts
  rw [Conn.check_true _ _ (Conn.frontQueued_of_core (h.core p sock hSock))]
  have hFlush : (c.enter p sock).flushPackets env = c.enter p sock := by
    unfold Conn.flushPackets
    rw [hCount]
    rfl
  dsimp only
  rw [if_pos (by rw [hNew]; exact nofun), hFlush, hNew]

/-- The timers of a socket, and its deletion if it has come to its end. -/
theorem turns_checkSocket (p : Nat) (hOp : ∃ order, op = .checkTimeouts order) (h : c.Ok) :
    Turns env op c (c.checkSocket env p) := by
  cases hSock : c.sockets p with
  | none =>
      have hSame : c.checkSocket env p = c := by
        unfold checkSocket runOn
        simp only [hSock]
      rw [hSame]
  | some sock =>
      have hRun : Turns env op c (c.runOn p fun s => s.checkTimeouts env) :=
        turns_call .timer h hSock hOp nofun (fun s hCore => (Conn.path_checkTimeouts env hCore).path)
          (checkTimeouts_pristine h hSock)
      unfold checkSocket
      dsimp only
      generalize c.runOn p (fun s => s.checkTimeouts env) = c₁ at hRun ⊢
      split
      · exact hRun
      · rename_i sock' hSock'
        split_ifs with hDone
        · exact hRun.tail (.delete c₁ p sock' ⟨hSock', by rw [hDone]; exact nofun⟩ hDone)
        · exact hRun

/-- By induction on the order in which the table is gone through. -/
theorem turns_checkSockets (order : List Nat) (hOp : ∃ order, op = .checkTimeouts order) (h : c.Ok) :
    Turns env op c (order.foldl (fun c p => c.checkSocket env p) c) := by
  induction order generalizing c with
  | nil => exact .refl
  | cons p order ih =>
      have hFirst : Turns env op c (c.checkSocket env p) := turns_checkSocket p hOp h
      exact hFirst.trans (ih (hFirst.ok h))

theorem turns_utpCheckTimeouts {order : List Nat} (hOp : op = .checkTimeouts order) (h : c.Ok) :
    Turns env op c (c.utpCheckTimeouts env order) := by
  unfold utpCheckTimeouts
  dsimp only
  split_ifs
  · exact turns_aside c _ _ c.lastCheck c.targetDelay c.optSndbuf c.optRcvbuf c.rstInfo c.log
  · have hAside : Turns env op c _ := turns_aside c (c.updateCurrentMs env).currentMs (c.tick + 1)
      (c.updateCurrentMs env).currentMs c.targetDelay c.optSndbuf c.optRcvbuf
      (purgeRstInfo (c.updateCurrentMs env).currentMs c.rstInfo.length 0 c.rstInfo) c.log
    exact hAside.trans (turns_checkSockets order ⟨order, hOp⟩ (hAside.ok h))

/-- A socket that an operation of the user may be called on. -/
theorem stateIs_spec (ok : ConnState → Bool) (hState : c.stateIs p ok = true) :
    ∃ sock, c.sockets p = some sock ∧ ok sock.state = true := by
  unfold stateIs at hState
  split at hState
  · cases hState
  · rename_i sock hSock
    exact ⟨sock, hSock, hState⟩

/-- Every operation is a sequence of turns. -/
theorem turns_of_step (h : c.Ok) (hStep : c.step env op = some c') : Turns env op c c' := by
  unfold step at hStep
  split_ifs at hStep with hAdmit
  cases op with
  | createSocket =>
      cases hStep
      exact .single (.create c)
  | setOption opt val =>
      cases hStep
      cases opt
      · exact turns_aside c c.currentMs c.tick c.lastCheck c.targetDelay _ c.optRcvbuf c.rstInfo c.log
      · exact turns_aside c c.currentMs c.tick c.lastCheck c.targetDelay c.optSndbuf _ c.rstInfo c.log
      · exact turns_aside c c.currentMs c.tick c.lastCheck _ c.optSndbuf c.optRcvbuf c.rstInfo c.log
  | connect p addr draws =>
      obtain ⟨sock, hSock, hNew⟩ := stateIs_spec (· == .uninitialized) hAdmit
      exact turns_utpConnect rfl hSock (beq_iff_eq.1 hNew) hStep
  | writev p iovecs =>
      cases hStep
      obtain ⟨sock, hSock, -⟩ := stateIs_spec (fun _ => true) (Bool.and_eq_true_iff.1 hAdmit).1
      refine turns_call .write h hSock ⟨iovecs, rfl⟩ nofun
        (fun s hCore => (Conn.path_utpWritev env .write iovecs hCore (.inl rfl)).path) ?_
      intro hNew
      unfold Conn.utpWritev
      have hDown : (c.enter p sock).state ≠ .connected := by
        rw [show (c.enter p sock).state = .uninitialized from hNew]
        exact nofun
      rw [if_pos hDown]
      split_ifs <;> rfl
  | readDrained p =>
      cases hStep
      obtain ⟨sock, hSock, hState⟩ := stateIs_spec (· != .uninitialized) hAdmit
      exact .single (turn_runOn ⟨hSock, bne_iff_ne.1 hState⟩ .drained rfl
        ⟨(Conn.path_utpReadDrained env _).path.path, nofun⟩)
  | setsockopt p opt val =>
      cases hStep
      obtain ⟨sock, hSock, -⟩ := stateIs_spec (fun _ => true) (Bool.and_eq_true_iff.1 hAdmit).1
      rw [runOn_of_some hSock]
      exact .single (.option c p sock opt val hSock)
  | shutdown p how =>
      cases hStep
      obtain ⟨sock, hSock, hState⟩ := stateIs_spec
        (fun st => st != .uninitialized && st != .destroy) hAdmit
      have hLive := bne_iff_ne.1 (Bool.and_eq_true_iff.1 hState).1
      exact .single (turn_runOn ⟨hSock, hLive⟩ .asked (.inl ⟨how, rfl⟩)
        ⟨(Conn.path_utpShutdown env how (h.core p sock hSock)).path, nofun⟩)
  | close p =>
      cases hStep
      obtain ⟨sock, hSock, hState⟩ := stateIs_spec
        (fun st => st != .uninitialized && st != .destroy) hAdmit
      have hLive := bne_iff_ne.1 (Bool.and_eq_true_iff.1 hState).1
      exact .single (turn_runOn ⟨hSock, hLive⟩ .asked (.inr rfl)
        ⟨(Conn.path_utpClose env .asked (h.core p sock hSock) (.inl rfl)).path, nofun⟩)
  | processUdp d addr =>
      cases hStep
      exact turns_utpProcessUdp h rfl
  | processIcmpFragmentation d addr nextHopMtu =>
      cases hStep
      unfold utpProcessIcmpFragmentation
      cases hFind : c.parseIcmpPayload d addr with
      | none => exact .refl
      | some p =>
          obtain ⟨sock, hHolds, -⟩ := holds_of_parseIcmpPayload h hFind
          exact .single (turn_runOn hHolds .call trivial
            ⟨.single (.sending (.quiet (.fragmentation _ _))), nofun⟩)
  | processIcmpError d addr =>
      cases hStep
      unfold utpProcessIcmpError
      cases hFind : c.parseIcmpPayload d addr with
      | none => exact .refl
      | some p =>
          obtain ⟨sock, hHolds, -⟩ := holds_of_parseIcmpPayload h hFind
          exact .single (turn_runOn hHolds .call trivial
            ⟨.single (.sending (.moving (.icmpError _))), nofun⟩)
  | issueDeferredAcks =>
      cases hStep
      exact turns_issueAcks _ h
  | checkTimeouts order =>
      cases hStep
      exact turns_utpCheckTimeouts rfl h

/-- So every reachable context is sound, by induction on the run. -/
theorem Reachable.ok (hReach : Reachable env c) : c.Ok := by
  induction hReach with
  | init onAcceptSet onConnectSet => exact ok_utpInit onAcceptSet onConnectSet
  | next op hReach hStep ih => exact (turns_of_step ih hStep).ok ih

end Context

end Utp
