import Utp.Invariant.Fate

/-! Runs of which every step meets a condition on the operation and on the context that it
starts from, and the rule that lifts an invariant to them. -/
namespace Utp

open Wrapping BackPointers

namespace Context

/-- The contexts reached by runs of which every step meets the condition `ok`. -/
inductive ReachableIf (env : Env) (ok : Op → Context → Bool) : Context → Prop where
  | init (onAcceptSet onConnectSet : Bool) : ReachableIf env ok (utpInit onAcceptSet onConnectSet)
  | next {c c' : Context} (op : Op) (hReach : ReachableIf env ok c) (hMeets : ok op c = true)
      (hStep : c.step env op = some c') : ReachableIf env ok c'

variable {env : Env} {ok : Op → Context → Bool} {op : Op} {c c' : Context} {p q : Nat}
  {sock sock' : Socket}

theorem ReachableIf.reachable (h : ReachableIf env ok c) : c.Reachable env := by
  induction h with
  | init onAcceptSet onConnectSet => exact .init onAcceptSet onConnectSet
  | next op _ _ hStep ih => exact .next op ih hStep

/-- Carry out a list of operations that meet the condition. -/
def runIf (env : Env) (ok : Op → Context → Bool) : List Op → Context → Option Context
  | [], c => some c
  | op :: ops, c => if ok op c then (c.step env op).bind (runIf env ok ops) else none

theorem ReachableIf.runIf {ops : List Op} (h : c.ReachableIf env ok)
    (hRun : c.runIf env ok ops = some c') : c'.ReachableIf env ok := by
  induction ops generalizing c with
  | nil => exact Option.some.inj hRun ▸ h
  | cons op ops ih =>
      unfold Context.runIf at hRun
      split_ifs at hRun with hMeets
      obtain ⟨next, hStep, hRest⟩ := Option.bind_eq_some_iff.1 hRun
      exact ih (.next op h hMeets hStep) hRest

/-- A run that meets the condition and ends as expected reaches such a context. -/
theorem ReachableIf.exists_of_runIf {onAcceptSet onConnectSet : Bool} {ops : List Op}
    {good : Context → Bool} (h : ((utpInit onAcceptSet onConnectSet).runIf env ok ops).any good = true) :
    ∃ c, c.ReachableIf env ok ∧ good c = true := by
  obtain ⟨c, hRun, hGood⟩ := (Option.any_eq_true good _).1 h
  exact ⟨c, ReachableIf.runIf (.init onAcceptSet onConnectSet) hRun, hGood⟩

/-- No packet of the operation gets to a socket. -/
def Packetless (op : Op) : Prop :=
  ∀ d addr, op = .processUdp d addr →
    utpVersion d.header ≠ 1 ∨ d.header.type = stReset ∨ d.header.type = stSyn

theorem Packetless.cause (h : Packetless op) {cause : Cause}
    (hCause : c.Admitted op p sock cause) (r : Received) : cause ≠ .packet r := by
  rintro rfl
  obtain ⟨addr, hOp, -, hVersion, hReset, hSyn, -⟩ := hCause
  rcases h r.d addr hOp with hOther | hType | hType
  · exact hOther hVersion
  · exact hReset hType
  · exact hSyn hType

/-- The context that such a datagram leaves behind. -/
theorem eq_of_delivers {d : Datagram} {addr : PackedSockAddr} (h : c.delivers d addr p = true)
    (hSock : c.sockets p = some sock) (hStep : c.step env (.processUdp d addr) = some c') :
    ∃ mid : Context, mid.sockets = c.sockets ∧ mid.logs = c.logs ∧ mid.onConnectSet = c.onConnectSet ∧
      (∀ q sock', mid.enter q sock' = c.enter q sock') ∧
      c' = mid.leave p ((c.enter p sock).utpProcessIncoming env d false) := by
  unfold delivers at h
  simp only [Bool.and_eq_true, decide_eq_true_eq, beq_iff_eq, bne_iff_ne] at h
  obtain ⟨⟨⟨⟨hLen, hVersion⟩, hReset⟩, hSyn⟩, hFind⟩ := h
  have hFound : (c.record addr (.readBytes 0 20)).findConn addr d.header.connid = some p := hFind
  have hOp : c.step env (.processUdp d addr) = some (c.utpProcessUdp env d addr).2 := rfl
  have hRun : (c.utpProcessUdp env d addr).2 =
      { c.record addr (.readBytes 0 20) with lastUtpSocket := some p }.runOn p
        (fun s => s.utpProcessIncoming env d false) := by
    unfold utpProcessUdp
    rw [if_neg (Nat.not_lt.2 hLen)]
    dsimp only
    rw [if_neg (not_not.2 hVersion), if_neg hReset, if_neg hSyn, hFound]
  have hHere : ({ c.record addr (.readBytes 0 20) with lastUtpSocket := some p } : Context).sockets p =
      some sock := hSock
  rw [hOp, hRun, runOn_of_some hHere] at hStep
  exact ⟨{ c.record addr (.readBytes 0 20) with lastUtpSocket := some p }, rfl, rfl, rfl,
    fun _ _ => rfl, (Option.some.inj hStep).symm⟩

/-- A socket stays initialised and keeps its identity when it processes a packet. -/
theorem keeps_utpProcessIncoming (env : Env) {d : Datagram} (h : c.Ok) (hSock : c.Holds p sock)
    (hSyn : d.header.type ≠ stSyn) :
    ((c.enter p sock).utpProcessIncoming env d false).Live ∧
      ((c.enter p sock).utpProcessIncoming env d false).identity = (c.enter p sock).identity := by
  have hCore := h.core p sock hSock.1
  rcases Conn.path_utpProcessIncoming env hCore hSyn with hQuiet | ⟨r, -, hPath⟩
  · exact hQuiet.path.path.keeps hCore hSock.2
  · exact hPath.keeps hCore hSock.2

/-- An operation either hands a datagram to a socket, or is a sequence of turns without
packets. -/
theorem turns_or_delivers (h : c.Ok) (hStep : c.step env op = some c') :
    (∃ d addr p sock, op = .processUdp d addr ∧ c.delivers d addr p = true ∧ c.Holds p sock) ∨
      ∃ op', Packetless op' ∧ Turns env op' c c' := by
  have hTurns := turns_of_step h hStep
  cases op with
  | processUdp d addr =>
      by_cases hOther : utpVersion d.header ≠ 1 ∨ d.header.type = stReset ∨ d.header.type = stSyn
      · refine Or.inr ⟨.processUdp d addr, fun d' addr' hOp => ?_, hTurns⟩
        cases hOp
        exact hOther
      · simp only [not_or, not_not] at hOther
        obtain ⟨hVersion, hReset, hSyn⟩ := hOther
        have hNone : Packetless Op.createSocket := fun _ _ hOp => nomatch hOp
        have hEq : (c.utpProcessUdp env d addr).2 = c' := Option.some.inj hStep
        have hRecord : Turns env .createSocket c (c.record addr (.readBytes 0 20)) :=
          turns_aside c c.currentMs c.tick c.lastCheck c.targetDelay c.optSndbuf c.optRcvbuf c.rstInfo _
        unfold utpProcessUdp at hEq
        by_cases hLen : d.len < 20
        · rw [if_pos hLen] at hEq
          exact Or.inr ⟨.createSocket, hNone, hEq ▸ .refl⟩
        rw [if_neg hLen] at hEq
        dsimp only at hEq
        rw [if_neg (not_not.2 hVersion), if_neg hReset, if_neg hSyn] at hEq
        cases hFind : (c.record addr (.readBytes 0 20)).findConn addr d.header.connid with
        | none =>
            rw [hFind] at hEq
            exact Or.inr ⟨.createSocket, hNone, hEq ▸ hRecord.trans (turns_reject d.header addr)⟩
        | some p =>
            have hFound : c.findConn addr d.header.connid = some p := hFind
            obtain ⟨sock, hHolds, -, -⟩ := holds_of_findConn h hFound
            refine Or.inl ⟨d, addr, p, sock, rfl, ?_, hHolds⟩
            simp [delivers, Nat.not_lt.1 hLen, hVersion, hReset, hSyn, hFound]
  | _ =>
      refine Or.inr ⟨_, ?_, hTurns⟩
      intro d addr hOp
      cases hOp

end Context

/-- A property of initialised sockets that every run of a function keeps, packets that are
processed under the condition `ok` included. -/
structure Guarded (env : Env) (ok : Op → Context → Bool) (I : Conn → Prop) : Prop where
  calls : ∀ (cause : Cause) (s s' : Conn), (∀ r, cause ≠ .packet r) → Core s → s.Live → I s →
    Path env cause s s' → I s'
  packets : ∀ (c : Context) (p : Nat) (sock : Socket) (d : Datagram) (addr : PackedSockAddr),
    Core (c.enter p sock) → c.Holds p sock → c.delivers d addr p = true →
    ok (.processUdp d addr) c = true → I (c.enter p sock) →
    I ((c.enter p sock).utpProcessIncoming env d false)
  clock : ∀ (s : Conn) (currentMs tick : Nat), I s → I { s with currentMs := currentMs, tick := tick }
  initialised : ∀ (s : Conn) (addr : PackedSockAddr) (connSeed connIdRecv connIdSend : Nat),
    s.toSocket.Pristine → s.log = [] → I (s.initializeSocket env addr connSeed connIdRecv connIdSend)

namespace Guarded

variable {env : Env} {ok : Op → Context → Bool} {I : Conn → Prop} {c c' : Context} {op : Op}

theorem enlisted (h : Guarded env ok I) {cause : Cause} {s s' : Conn} {addr : PackedSockAddr}
    {seed recvId sendId : Nat} (hCore : Core s) (hNew : s.state = .uninitialized)
    (hPristine : s.toSocket.Pristine) (hLog : s.log = [])
    (hPath : Path env cause (s.initializeSocket env addr seed recvId sendId) s')
    (hCause : ∀ r, cause ≠ .packet r) : I s' := by
  have hIdle : (s.initializeSocket env addr seed recvId sendId).state = .idle :=
    congrArg View.state (Conn.view_initializeSocket env addr seed recvId sendId s)
  exact h.calls cause _ _ hCause (hCore.initialise addr seed recvId sendId hNew)
    (fun hDown => nomatch hIdle.symm.trans hDown) (h.initialised s addr seed recvId sendId hPristine hLog)
    hPath

theorem turn (h : Guarded env ok I) (hOp : Context.Packetless op) (hOk : c.Ok)
    (hTurn : c.Turn env op c') (hInv : ∀ q sock, c.Holds q sock → I (c.enter q sock)) :
    ∀ q sock, c'.Holds q sock → I (c'.enter q sock) := by
  intro q sock' hSock'
  have hFate := hTurn.fate hOk hSock'
  generalize c'.enter q sock' = s' at hFate ⊢
  cases hFate with
  | kept sock currentMs tick hSock hSame =>
      rw [hSame]
      exact h.clock _ currentMs tick (hInv q sock hSock)
  | ran sock cause hSock hCause hRan =>
      exact h.calls cause _ _ (hOp.cause hCause) (hOk.core q sock hSock.1) hSock.2 (hInv q sock hSock)
        hRan.path
  | dialled sock addr seed draws hOp hSock hNew hSeed hSame =>
      obtain ⟨hPristine, hLog⟩ := hOk.pristine q sock hSock hNew
      rw [hSame]
      exact h.enlisted (hOk.core q sock hSock) hNew hPristine hLog
        (hOk.path_dialled hSock hNew addr seed) nofun
  | accepted sock d addr hOp hVersion hType hSock hNew hSame =>
      obtain ⟨hPristine, hLog⟩ := hOk.pristine q sock hSock hNew
      rw [hSame]
      exact h.enlisted (hOk.core q sock hSock) hNew hPristine hLog
        (hOk.path_accepted hSock hNew d addr) nofun

theorem turns (h : Guarded env ok I) (hOp : Context.Packetless op) (hOk : c.Ok)
    (hTurns : c.Turns env op c') (hInv : ∀ q sock, c.Holds q sock → I (c.enter q sock)) :
    ∀ q sock, c'.Holds q sock → I (c'.enter q sock) := by
  induction hTurns with
  | refl => exact hInv
  | tail hPrior hTurn ih => exact h.turn hOp (Context.Turns.ok hPrior hOk) hTurn ih

/-- What processing one datagram keeps. -/
theorem delivered (h : Guarded env ok I) {d : Datagram} {addr : PackedSockAddr} {p : Nat}
    {sock : Socket} (hOk : c.Ok) (hDelivers : c.delivers d addr p = true) (hSock : c.Holds p sock)
    (hMeets : ok (.processUdp d addr) c = true) (hStep : c.step env (.processUdp d addr) = some c')
    (hInv : ∀ q sock, c.Holds q sock → I (c.enter q sock)) :
    ∀ q sock, c'.Holds q sock → I (c'.enter q sock) := by
  have hCore := hOk.core p sock hSock.1
  have hNow := h.packets c p sock d addr hCore hSock hDelivers hMeets (hInv p sock hSock)
  obtain ⟨-, hIdentity⟩ := Context.keeps_utpProcessIncoming env hOk hSock
    (Context.sockets_of_delivers hDelivers hSock.1 hStep).1
  obtain ⟨mid, hSockets, -, hSet, hEnter, rfl⟩ := Context.eq_of_delivers hDelivers hSock.1 hStep
  have hConnect := (Context.onConnectSet_of_keeps hIdentity).trans hSet.symm
  intro q sock' ⟨hGet, hLive⟩
  rw [Context.sockets_leave, hSockets] at hGet
  by_cases hSame : q = p
  · subst hSame
    rw [Function.update_self] at hGet
    cases Option.some.inj hGet
    rw [Context.enter_leave_self hConnect]
    exact hNow
  · rw [Function.update_of_ne hSame] at hGet
    rw [Context.enter_leave_other hSame, hEnter]
    exact h.clock _ _ _ (hInv q sock' ⟨hGet, hLive⟩)

/-- The property holds of every initialised socket in every run that meets the condition. -/
theorem reachable (h : Guarded env ok I) (hReach : c.ReachableIf env ok) :
    ∀ q sock, c.Holds q sock → I (c.enter q sock) := by
  induction hReach with
  | init onAcceptSet onConnectSet => exact fun q sock hSock => nomatch hSock.1
  | next op hReach hMeets hStep ih =>
      have hOk := hReach.reachable.ok
      rcases Context.turns_or_delivers hOk hStep with ⟨d, addr, p, sock, rfl, hDelivers, hSock⟩ |
        ⟨op', hOp, hTurns⟩
      · exact h.delivered hOk hDelivers hSock hMeets hStep ih
      · exact h.turns hOp hOk hTurns ih

/-- What the property says about the record of a socket outlives the socket. -/
theorem logs (h : Guarded env ok I) {J : List Event → Prop} (hFresh : J []) (hLog : ∀ s, I s → J s.log)
    (hDeleted : ∀ log, J log → J (log ++ [.onStateChange .destroying]))
    (hReach : c.ReachableIf env ok) (q : Nat) : J (c.logs q) := by
  have hTurn : ∀ {op : Op} {c c' : Context}, c.Ok → (∀ q sock, c'.Holds q sock → I (c'.enter q sock)) →
      c.Turn env op c' → (∀ q, J (c.logs q)) → ∀ q, J (c'.logs q) := by
    intro op c c' hOk hInv hTurn hOld q
    cases hTurn.recorded hOk q with
    | live sock hSock => exact hLog _ (hInv q sock hSock)
    | fresh hLog => exact hLog ▸ hFresh
    | kept hLog => exact hLog ▸ hOld q
    | deleted hLog => exact hLog ▸ hDeleted _ (hOld q)
  induction hReach generalizing q with
  | init onAcceptSet onConnectSet => exact hFresh
  | @next c c' op hReach hMeets hStep ih =>
      have hOk := hReach.reachable.ok
      have hStart := h.reachable hReach
      rcases Context.turns_or_delivers hOk hStep with ⟨d, addr, p, sock, rfl, hDelivers, hSock⟩ |
        ⟨op', hOp, hTurns⟩
      · have hEnd := h.reachable (hReach.next _ hMeets hStep)
        obtain ⟨hSyn, hThere⟩ := Context.sockets_of_delivers hDelivers hSock.1 hStep
        by_cases hSame : q = p
        · subst hSame
          exact hLog _ (hEnd q _ ⟨hThere, (Context.keeps_utpProcessIncoming env hOk hSock hSyn).1⟩)
        · obtain ⟨mid, -, hLogs, -, -, rfl⟩ := Context.eq_of_delivers hDelivers hSock.1 hStep
          rw [Context.logs_leave, Function.update_of_ne hSame, hLogs]
          exact ih q
      · clear hStep hMeets
        induction hTurns generalizing q with
        | refl => exact ih q
        | tail hPrior hNext ih' =>
            exact hTurn (Context.Turns.ok hPrior hOk) (h.turns hOp hOk (hPrior.tail hNext) hStart) hNext
              ih' q

end Guarded

end Utp
