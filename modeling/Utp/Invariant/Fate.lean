import Utp.Invariant.Steps

/-! What one turn of a context means for each of its sockets, and the rule that
lifts an invariant of the elementary transitions to all runs. -/
namespace Utp

open Wrapping BackPointers

namespace Context

variable {env : Env} {op : Op} {c c' : Context} {p q : Nat} {sock sock' : Socket}

/-- A socket is found as it was left. -/
theorem enter_leave_self {s : Conn} (hConnect : s.onConnectSet = c.onConnectSet) :
    (c.leave p s).enter p s.toSocket = s := by
  obtain ⟨acks, ida, hEq, -⟩ := leave_eq p s c
  have hLog : Function.update c.logs p s.log p = s.log := Function.update_self ..
  rw [hEq]
  change ({ s with onConnectSet := c.onConnectSet, log := Function.update c.logs p s.log p } : Conn) = s
  rw [hLog, ← hConnect]

/-- The other ones are found with the clock of the context. -/
theorem enter_leave_other {s : Conn} (hOther : q ≠ p) :
    (c.leave p s).enter q sock =
      { c.enter q sock with currentMs := s.currentMs, tick := s.tick } := by
  obtain ⟨acks, ida, hEq, -⟩ := leave_eq p s c
  have hLog : Function.update c.logs p s.log q = c.logs q := Function.update_of_ne hOther ..
  rw [hEq]
  change ({ c.enter q sock with
    currentMs := s.currentMs
    tick := s.tick
    log := Function.update c.logs p s.log q } : Conn) = _
  rw [hLog]
  rfl

theorem sockets_leave (p : Nat) (s : Conn) (c : Context) :
    (c.leave p s).sockets = Function.update c.sockets p (some s.toSocket) := by
  obtain ⟨acks, ida, hEq, -⟩ := leave_eq p s c
  rw [hEq]

/-- What a turn has done to the socket `q`, which it leaves as `s'`. -/
inductive Fate (env : Env) (op : Op) (c : Context) (q : Nat) (s' : Conn) : Prop where
  | kept (sock : Socket) (currentMs tick : Nat) (hSock : c.Holds q sock)
      (hSame : s' = { c.enter q sock with currentMs := currentMs, tick := tick })
  | ran (sock : Socket) (cause : Cause) (hSock : c.Holds q sock)
      (hCause : c.Admitted op q sock cause) (hRan : Ran env cause (c.enter q sock) s')
  | dialled (sock : Socket) (addr : PackedSockAddr) (seed draws : Nat)
      (hOp : op = .connect q addr draws) (hSock : c.sockets q = some sock)
      (hNew : sock.state = .uninitialized) (hSeed : seed < 65536)
      (hSame : s' = c.dialled env q sock addr seed)
  | accepted (sock : Socket) (d : Datagram) (addr : PackedSockAddr) (hOp : op = .processUdp d addr)
      (hVersion : utpVersion d.header = 1) (hType : d.header.type = stSyn)
      (hSock : c.sockets q = some sock) (hNew : sock.state = .uninitialized)
      (hSame : s' = (c.enter q sock).acceptSocket env d addr)

/-- The fate of a socket that a turn has written back. -/
theorem fate_leave {s : Conn} (hConnect : s.onConnectSet = c.onConnectSet)
    (hHolds : (c.leave p s).Holds q sock') (hSelf : s.Live → Fate env op c p s) :
    Fate env op c q ((c.leave p s).enter q sock') := by
  obtain ⟨hGet, hLive⟩ := hHolds
  rw [sockets_leave] at hGet
  by_cases hSame : q = p
  · subst hSame
    rw [Function.update_self] at hGet
    cases Option.some.inj hGet
    rw [enter_leave_self hConnect]
    exact hSelf hLive
  · rw [Function.update_of_ne hSame] at hGet
    exact .kept sock' s.currentMs s.tick ⟨hGet, hLive⟩ (enter_leave_other hSame)

/-- The contexts that differ only in the table have the same fates. -/
theorem Fate.of_addKey {key : UTPSocketKey} {s' : Conn} (h : Fate env op (c.addKey key p) q s') :
    Fate env op c q s' := by
  cases h with
  | kept sock currentMs tick hSock hSame => exact .kept sock currentMs tick hSock hSame
  | ran sock cause hSock hCause hRan =>
      refine .ran sock cause hSock ?_ hRan
      cases cause <;> exact hCause
  | dialled sock addr seed draws hOp hSock hNew hSeed hSame =>
      exact .dialled sock addr seed draws hOp hSock hNew hSeed hSame
  | accepted sock d addr hOp hVersion hType hSock hNew hSame =>
      exact .accepted sock d addr hOp hVersion hType hSock hNew hSame

/-- Whether the callback is set is the same for all sockets of a context. -/
theorem onConnectSet_of_keeps {s : Conn} (h : s.identity = (c.enter p sock).identity) :
    s.onConnectSet = c.onConnectSet :=
  congrArg Identity.onConnectSet h

/-- A socket that enters the table keeps the settings of its context. -/
theorem onConnectSet_enlisted {addr : PackedSockAddr} {seed recvId sendId : Nat} {cause : Cause}
    {s' : Conn} (h : c.Ok) (hSock : c.sockets p = some sock) (hNew : sock.state = .uninitialized)
    (hPath : Path env cause ((c.enter p sock).initializeSocket env addr seed recvId sendId) s') :
    s'.onConnectSet = c.onConnectSet := by
  have hCore : Core ((c.enter p sock).initializeSocket env addr seed recvId sendId) :=
    (h.core p sock hSock).initialise addr seed recvId sendId hNew
  have hView := Conn.view_initializeSocket env addr seed recvId sendId (c.enter p sock)
  have hIdle : ((c.enter p sock).initializeSocket env addr seed recvId sendId).state = .idle :=
    congrArg View.state hView
  obtain ⟨-, hSame⟩ := hPath.keeps hCore (fun hDown => nomatch hIdle.symm.trans hDown)
  exact (congrArg Identity.onConnectSet hSame).trans (congrArg View.onConnectSet hView)

/-- What a turn has done to a socket: nothing, or a run of its own, or it is new. -/
theorem Turn.fate (hTurn : Turn env op c c') (h : c.Ok) (hHolds : c'.Holds q sock') :
    Fate env op c q (c'.enter q sock') := by
  cases hTurn with
  | run p sock cause s' hSock hCause hRan =>
      obtain ⟨-, hSame⟩ := hRan.path.keeps (h.core p sock hSock.1) hSock.2
      exact fate_leave (onConnectSet_of_keeps hSame) hHolds
        (fun _ => .ran sock cause hSock hCause hRan)
  | option p sock opt val hSock =>
      have hQuiet : Quiet env .call (c.enter p sock) _ := .setsockopt _ opt val
      have hView := hQuiet.view (h.core p sock hSock).view.bounds.ackNr_lt
      refine fate_leave (congrArg View.onConnectSet hView) hHolds (fun hLive => ?_)
      refine .ran sock .call ⟨hSock, fun hDown => ?_⟩ trivial
        ⟨.single (.sending (.quiet hQuiet)), nofun⟩
      exact hLive ((congrArg View.state hView).trans hDown)
  | create =>
      obtain ⟨hGet, hLive⟩ := hHolds
      have hOther : q ≠ c.allocated := by
        rintro rfl
        have hNow : c.create.sockets c.allocated =
            some (utpCreateSocket c.targetDelay c.optSndbuf c.optRcvbuf) := Function.update_self ..
        cases Option.some.inj (hNow.symm.trans hGet)
        exact hLive rfl
      have hOld : c.sockets q = some sock' := (Function.update_of_ne hOther ..).symm.trans hGet
      have hLog : Function.update c.logs c.allocated [] q = c.logs q := Function.update_of_ne hOther ..
      refine .kept sock' c.currentMs c.tick ⟨hOld, hLive⟩ ?_
      change ({ c.enter q sock' with log := Function.update c.logs c.allocated [] q } : Conn) = _
      rw [hLog]
      rfl
  | dial p sock addr seed draws hOp hSock hNew hSeed hFree =>
      have hConnect : (c.dialled env p sock addr seed).onConnectSet = c.onConnectSet :=
        onConnectSet_enlisted h hSock hNew (h.path_dialled hSock hNew addr seed)
      exact (fate_leave (c := c.addKey ⟨addr, seed⟩ p) hConnect hHolds
        (fun _ => .dialled sock addr seed draws hOp hSock hNew hSeed rfl)).of_addKey
  | accept p sock d addr hOp hVersion hType hSock hNew hFree =>
      have hConnect : ((c.enter p sock).acceptSocket env d addr).onConnectSet = c.onConnectSet :=
        onConnectSet_enlisted h hSock hNew (h.path_accepted hSock hNew d addr)
      exact (fate_leave (c := c.addKey ⟨addr, d.header.connid + 1⟩ p) hConnect hHolds
        (fun _ => .accepted sock d addr hOp hVersion hType hSock hNew rfl)).of_addKey
  | delete p sock hSock hState =>
      obtain ⟨acks, ida, hEq, -, -⟩ := h.delete_eq hSock
      obtain ⟨hGet, hLive⟩ := hHolds
      rw [hEq] at hGet ⊢
      have hOther : q ≠ p := by
        rintro rfl
        exact nomatch (Function.update_self ..).symm.trans hGet
      have hOld : c.sockets q = some sock' := (Function.update_of_ne hOther ..).symm.trans hGet
      have hLog : Function.update c.logs p (c.logs p ++ [.onStateChange .destroying]) q = c.logs q :=
        Function.update_of_ne hOther ..
      refine .kept sock' c.currentMs c.tick ⟨hOld, hLive⟩ ?_
      change ({ c.enter q sock' with
        log := Function.update c.logs p (c.logs p ++ [.onStateChange .destroying]) q } : Conn) = _
      rw [hLog]
      rfl
  | cache p sock hSock => exact .kept sock' c.currentMs c.tick hHolds rfl
  | aside currentMs tick lastCheck targetDelay optSndbuf optRcvbuf rstInfo log =>
      exact .kept sock' currentMs tick hHolds rfl

theorem logs_leave (p : Nat) (s : Conn) (c : Context) :
    (c.leave p s).logs = Function.update c.logs p s.log := by
  obtain ⟨acks, ida, hEq, -⟩ := leave_eq p s c
  rw [hEq]

/-- What a turn has done to the record of the socket number `q`. -/
inductive Recorded (c c' : Context) (q : Nat) : Prop where
  | live (sock : Socket) (hSock : c'.Holds q sock)
  | fresh (hLog : c'.logs q = [])
  | kept (hLog : c'.logs q = c.logs q)
  | deleted (hLog : c'.logs q = c.logs q ++ [.onStateChange .destroying])

/-- The record of the socket that was worked on has grown, and the others are the same. -/
theorem recorded_leave {s : Conn} (hSelf : s.Live ∨ s.log = c.logs p) :
    Recorded c (c.leave p s) q := by
  by_cases hSame : q = p
  · subst hSame
    rcases hSelf with hLive | hLog
    · refine .live s.toSocket ⟨?_, hLive⟩
      rw [sockets_leave, Function.update_self]
    · refine .kept ?_
      rw [logs_leave, Function.update_self, hLog]
  · refine .kept ?_
    rw [logs_leave, Function.update_of_ne hSame]

theorem Recorded.of_addKey {key : UTPSocketKey} (h : Recorded (c.addKey key p) c' q) :
    Recorded c c' q := by
  cases h with
  | live sock hSock => exact .live sock hSock
  | fresh hLog => exact .fresh hLog
  | kept hLog => exact .kept hLog
  | deleted hLog => exact .deleted hLog

/-- So it is for every turn. -/
theorem Turn.recorded (hTurn : Turn env op c c') (h : c.Ok) (q : Nat) : Recorded c c' q := by
  have hEnlisted : ∀ {p addr seed recvId sendId cause s'} {sock : Socket}, c.sockets p = some sock →
      sock.state = .uninitialized →
      Path env cause ((c.enter p sock).initializeSocket env addr seed recvId sendId) s' → s'.Live := by
    intro p addr seed recvId sendId cause s' sock hSock hNew hPath
    have hView := Conn.view_initializeSocket env addr seed recvId sendId (c.enter p sock)
    have hIdle : ((c.enter p sock).initializeSocket env addr seed recvId sendId).state = .idle :=
      congrArg View.state hView
    exact (hPath.keeps ((h.core p sock hSock).initialise addr seed recvId sendId hNew)
      (fun hDown => nomatch hIdle.symm.trans hDown)).1
  cases hTurn with
  | run p sock cause s' hSock hCause hRan =>
      exact recorded_leave (Or.inl (hRan.path.keeps (h.core p sock hSock.1) hSock.2).1)
  | option p sock opt val hSock =>
      refine recorded_leave (Or.inr ?_)
      cases opt <;> rfl
  | create =>
      by_cases hSame : q = c.allocated
      · subst hSame
        exact .fresh (Function.update_self ..)
      · exact .kept (Function.update_of_ne hSame ..)
  | dial p sock addr seed draws hOp hSock hNew hSeed hFree =>
      have hLive := hEnlisted hSock hNew (h.path_dialled hSock hNew addr seed)
      exact (recorded_leave (c := c.addKey ⟨addr, seed⟩ p) (Or.inl hLive)).of_addKey
  | accept p sock d addr hOp hVersion hType hSock hNew hFree =>
      have hLive := hEnlisted hSock hNew (h.path_accepted hSock hNew d addr)
      exact (recorded_leave (c := c.addKey ⟨addr, d.header.connid + 1⟩ p) (Or.inl hLive)).of_addKey
  | delete p sock hSock hState =>
      obtain ⟨acks, ida, hEq, -, -⟩ := h.delete_eq hSock
      rw [hEq]
      by_cases hSame : q = p
      · subst hSame
        exact .deleted (Function.update_self ..)
      · exact .kept (Function.update_of_ne hSame ..)
  | cache p sock hSock => exact .kept rfl
  | aside currentMs tick lastCheck targetDelay optSndbuf optRcvbuf rstInfo log => exact .kept rfl

end Context

/-- A property of initialised sockets that every run of a function keeps. -/
structure Kept (env : Env) (I : Conn → Prop) : Prop where
  ran : ∀ (cause : Cause) (s s' : Conn), Core s → s.Live → I s → Ran env cause s s' → I s'
  clock : ∀ (s : Conn) (currentMs tick : Nat), I s → I { s with currentMs := currentMs, tick := tick }

/-- Such a property that holds from the start. -/
structure Preserved (env : Env) (I : Conn → Prop) : Prop extends Kept env I where
  initialised : ∀ (s : Conn) (addr : PackedSockAddr) (connSeed connIdRecv connIdSend : Nat),
    s.toSocket.Pristine → s.log = [] → I (s.initializeSocket env addr connSeed connIdRecv connIdSend)

namespace Kept

variable {env : Env} {I : Conn → Prop}

/-- It is enough that every transition keeps the property. -/
theorem of_trans
    (hTrans : ∀ (cause : Cause) (s s' : Conn), Core s → s.Live → I s → Trans env cause s s' → I s')
    (hClock : ∀ (s : Conn) (currentMs tick : Nat), I s →
      I { s with currentMs := currentMs, tick := tick }) : Kept env I := by
  refine ⟨fun cause s s' hCore hLive hInv hRan => ?_, hClock⟩
  have hPath := hRan.path
  clear hRan
  induction hPath with
  | refl => exact hInv
  | tail hPrior hStep ih =>
      exact hTrans cause _ _ (hCore.path hPrior) (Path.keeps hPrior hCore hLive).1 ih hStep

end Kept

namespace Preserved

variable {env : Env} {I : Conn → Prop} {cause : Cause} {s s' : Conn}

/-- It is enough that every transition keeps the property. -/
theorem of_trans (hInit : ∀ (s : Conn) (addr : PackedSockAddr) (connSeed connIdRecv connIdSend : Nat),
      s.toSocket.Pristine → s.log = [] → I (s.initializeSocket env addr connSeed connIdRecv connIdSend))
    (hTrans : ∀ (cause : Cause) (s s' : Conn), Core s → s.Live → I s → Trans env cause s s' → I s')
    (hClock : ∀ (s : Conn) (currentMs tick : Nat), I s →
      I { s with currentMs := currentMs, tick := tick }) : Preserved env I :=
  ⟨.of_trans hTrans hClock, hInit⟩

/-- The property holds of every socket that enters a table. -/
theorem enlisted (h : Preserved env I) {addr : PackedSockAddr} {seed recvId sendId : Nat}
    (hCore : Core s) (hNew : s.state = .uninitialized) (hPristine : s.toSocket.Pristine)
    (hLog : s.log = []) (hPath : Path env cause (s.initializeSocket env addr seed recvId sendId) s')
    (hCause : ∀ r, cause ≠ .packet r) : I s' := by
  have hIdle : (s.initializeSocket env addr seed recvId sendId).state = .idle :=
    congrArg View.state (Conn.view_initializeSocket env addr seed recvId sendId s)
  exact h.ran cause _ _ (hCore.initialise addr seed recvId sendId hNew)
    (fun hDown => nomatch hIdle.symm.trans hDown) (h.initialised s addr seed recvId sendId hPristine hLog)
    ⟨hPath, fun r hr => absurd hr (hCause r)⟩

/-- What every turn keeps of every initialised socket. -/
theorem fate (h : Preserved env I) {op : Op} {c : Context} {q : Nat} (hOk : c.Ok)
    (hInv : ∀ sock, c.Holds q sock → I (c.enter q sock)) (hFate : c.Fate env op q s') : I s' := by
  cases hFate with
  | kept sock currentMs tick hSock hSame =>
      rw [hSame]
      exact h.clock _ currentMs tick (hInv sock hSock)
  | ran sock cause hSock hCause hRan =>
      exact h.ran cause _ _ (hOk.core q sock hSock.1) hSock.2 (hInv sock hSock) hRan
  | dialled sock addr seed draws hOp hSock hNew hSeed hSame =>
      obtain ⟨hPristine, hLog⟩ := hOk.pristine q sock hSock hNew
      rw [hSame]
      exact h.enlisted (hOk.core q sock hSock) hNew hPristine hLog
        (hOk.path_dialled hSock hNew addr seed) nofun
  | accepted sock d addr hOp hVersion hType hSock hNew hSame =>
      obtain ⟨hPristine, hLog⟩ := hOk.pristine q sock hSock hNew
      rw [hSame]
      exact h.enlisted (hOk.core q sock hSock) hNew hPristine hLog
        (hOk.path_accepted hSock hNew d addr) nofun

/-- By induction on the turns. -/
theorem turns (h : Preserved env I) {op : Op} {c c' : Context} (hTurns : c.Turns env op c')
    (hOk : c.Ok) (hInv : ∀ q sock, c.Holds q sock → I (c.enter q sock)) :
    ∀ q sock, c'.Holds q sock → I (c'.enter q sock) := by
  induction hTurns with
  | refl => exact hInv
  | tail hPrior hTurn ih =>
      intro q sock hSock
      have hOk' := Context.Turns.ok hPrior hOk
      exact h.fate hOk' (ih q) (hTurn.fate hOk' hSock)

/-- The property holds of every initialised socket of every reachable context. -/
theorem reachable (h : Preserved env I) {c : Context} (hReach : c.Reachable env) :
    ∀ q sock, c.Holds q sock → I (c.enter q sock) := by
  induction hReach with
  | init onAcceptSet onConnectSet => exact fun q sock hSock => nomatch hSock.1
  | next op hReach hStep ih =>
      exact h.turns (Context.turns_of_step hReach.ok hStep) hReach.ok ih

/-- What the property says about the record of a socket outlives the socket. -/
theorem logs (h : Preserved env I) {J : List Event → Prop} (hFresh : J []) (hLog : ∀ s, I s → J s.log)
    (hDeleted : ∀ log, J log → J (log ++ [.onStateChange .destroying])) {c : Context}
    (hReach : c.Reachable env) (q : Nat) : J (c.logs q) := by
  have hTurn : ∀ {op : Op} {c c' : Context}, c.Ok → (∀ q sock, c'.Holds q sock → I (c'.enter q sock)) →
      c.Turn env op c' → (∀ q, J (c.logs q)) → ∀ q, J (c'.logs q) := by
    intro op c c' hOk hInv hTurn hOld q
    cases hTurn.recorded hOk q with
    | live sock hSock => exact hLog _ (hInv q sock hSock)
    | fresh hLog => exact hLog ▸ hFresh
    | kept hLog => exact hLog ▸ hOld q
    | deleted hLog => exact hLog ▸ hDeleted _ (hOld q)
  induction hReach generalizing q with
  | init onAcceptSet onConnectSet => exact hFresh
  | next op hReach hStep ih =>
      have hTurns := Context.turns_of_step hReach.ok hStep
      have hStart := h.reachable hReach
      clear hStep
      induction hTurns generalizing q with
      | refl => exact ih q
      | tail hPrior hNext ih' =>
          have hInv := h.turns (hPrior.tail hNext) hReach.ok hStart
          exact hTurn (Context.Turns.ok hPrior hReach.ok) hInv hNext ih' q

end Preserved

namespace Context

/-- The contexts that come after `c` in a run. -/
inductive Follows (env : Env) (c : Context) : Context → Prop where
  | now : Follows env c c
  | later {c' c'' : Context} (op : Op) (hPrior : Follows env c c') (hStep : c'.step env op = some c'') :
      Follows env c c''

/-- By induction on the steps. -/
theorem Follows.ok {env : Env} {c c' : Context} (h : Follows env c c') (hOk : c.Ok) : c'.Ok := by
  induction h with
  | now => exact hOk
  | later op _ hStep ih => exact (turns_of_step ih hStep).ok ih

/-- The socket `p` has been allocated, and if it still exists it is initialised and has
the property. -/
def Still (I : Conn → Prop) (c : Context) (p : Nat) : Prop :=
  p < c.allocated ∧ ∀ sock, c.sockets p = some sock → sock.state ≠ .uninitialized ∧ I (c.enter p sock)

theorem allocated_leave (p : Nat) (s : Conn) (c : Context) : (c.leave p s).allocated = c.allocated := by
  obtain ⟨acks, ida, hEq, -⟩ := leave_eq p s c
  rw [hEq]

/-- A function of a socket creates none. -/
theorem allocated_runOn (q : Nat) (f : Conn → Conn) (c : Context) : (c.runOn q f).allocated = c.allocated := by
  unfold runOn
  split
  · rfl
  · exact allocated_leave ..

/-- A deleted socket is not there, and its number is not used again. -/
theorem sockets_delete (q : Nat) (c : Context) :
    (c.delete q).sockets = Function.update c.sockets q none ∧ (c.delete q).allocated = c.allocated := by
  have hRemove : ∀ c : Context, (c.removeSocketFromAckList q).sockets = c.sockets ∧
      (c.removeSocketFromAckList q).allocated = c.allocated := fun c => by
    unfold removeSocketFromAckList
    split_ifs <;> exact ⟨rfl, rfl⟩
  have hRecord : ∀ (found : Bool) (c : Context),
      (if found = true then c else c.recordFor q (.assertFailed 2533)).sockets = c.sockets ∧
        (if found = true then c else c.recordFor q (.assertFailed 2533)).allocated = c.allocated := fun found c => by
    cases found <;> exact ⟨rfl, rfl⟩
  unfold delete
  split
  · rename_i hNone
    rw [← hNone, Function.update_eq_self]
    exact ⟨rfl, rfl⟩
  · dsimp only [free, eraseKey]
    rw [(hRemove _).1, (hRemove _).2]
    dsimp only
    rw [(hRecord _ _).1, (hRecord _ _).2]
    exact ⟨rfl, rfl⟩

/-- Sockets are only ever added to the count. -/
theorem Turn.allocated_le {env : Env} {op : Op} {c c' : Context} (hTurn : Turn env op c c') (h : c.Ok) :
    c.allocated ≤ c'.allocated := by
  cases hTurn with
  | run q sock cause s' hq hCause hRan => exact (allocated_leave q s' c).ge
  | option q sock opt val hq => exact (allocated_leave q _ c).ge
  | create => exact Nat.le_succ _
  | dial q sock addr seed draws hOp hq hNew hSeed hFree =>
      exact (allocated_leave q _ (c.addKey ⟨addr, seed⟩ q)).ge
  | accept q sock d addr hOp hVersion hType hq hNew hFree =>
      exact (allocated_leave q _ (c.addKey ⟨addr, d.header.connid + 1⟩ q)).ge
  | delete q sock hq hState =>
      obtain ⟨acks, ida, hEq, -, -⟩ := h.delete_eq hq
      rw [hEq]
  | cache q sock hq => exact Nat.le_refl _
  | aside currentMs tick lastCheck targetDelay optSndbuf optRcvbuf rstInfo log => exact Nat.le_refl _

/-- A socket that has been written back and was there before. -/
theorem sockets_of_leave {c : Context} {p q : Nat} {s : Conn} {sock sock' : Socket}
    (hq : c.sockets q = some sock) (hLive : sock.state ≠ .uninitialized → s.Live)
    (hSock : (c.leave q s).sockets p = some sock') : ∃ sock, c.sockets p = some sock ∧
      (sock.state ≠ .uninitialized → sock'.state ≠ .uninitialized) := by
  rw [sockets_leave] at hSock
  by_cases hSame : p = q
  · subst hSame
    rw [Function.update_self] at hSock
    cases hSock
    exact ⟨sock, hq, hLive⟩
  · rw [Function.update_of_ne hSame] at hSock
    exact ⟨sock', hSock, id⟩

/-- A turn gives no socket a number that was used before. -/
theorem Turn.sockets {env : Env} {op : Op} {c c' : Context} {p : Nat} {sock' : Socket}
    (hTurn : Turn env op c c') (h : c.Ok) (hOld : p < c.allocated) (hSock : c'.sockets p = some sock') :
    ∃ sock, c.sockets p = some sock ∧
      (sock.state ≠ .uninitialized → sock'.state ≠ .uninitialized) := by
  cases hTurn with
  | run q sock cause s' hq hCause hRan =>
      exact sockets_of_leave hq.1 (fun _ => (hRan.path.keeps (h.core q sock hq.1) hq.2).1) hSock
  | option q sock opt val hq =>
      refine sockets_of_leave hq (fun hUp => ?_) hSock
      cases opt <;> exact hUp
  | create =>
      have hOther : p ≠ c.allocated := Nat.ne_of_lt hOld
      exact ⟨sock', (Function.update_of_ne hOther ..).symm.trans hSock, id⟩
  | dial q sock addr seed draws hOp hq hNew hSeed hFree =>
      exact sockets_of_leave (c := c.addKey ⟨addr, seed⟩ q) hq (fun hUp => absurd hNew hUp) hSock
  | accept q sock d addr hOp hVersion hType hq hNew hFree =>
      exact sockets_of_leave (c := c.addKey ⟨addr, d.header.connid + 1⟩ q) hq
        (fun hUp => absurd hNew hUp) hSock
  | delete q sock hq hState =>
      obtain ⟨acks, ida, hEq, -, -⟩ := h.delete_eq hq
      rw [hEq] at hSock
      have hOther : p ≠ q := by
        rintro rfl
        exact nomatch (Function.update_self ..).symm.trans hSock
      exact ⟨sock', (Function.update_of_ne hOther ..).symm.trans hSock, id⟩
  | cache q sock hq => exact ⟨sock', hSock, id⟩
  | aside currentMs tick lastCheck targetDelay optSndbuf optRcvbuf rstInfo log => exact ⟨sock', hSock, id⟩

end Context

namespace Kept

variable {env : Env} {I : Conn → Prop} {c c' : Context} {p : Nat}

theorem turn (h : Kept env I) {op : Op} (hOk : c.Ok) (hStill : c.Still I p)
    (hTurn : c.Turn env op c') : c'.Still I p := by
  refine ⟨hStill.1.trans_le (hTurn.allocated_le hOk), fun sock' hSock' => ?_⟩
  obtain ⟨sock, hSock, hUp⟩ := hTurn.sockets hOk hStill.1 hSock'
  obtain ⟨hLive, hInv⟩ := hStill.2 sock hSock
  refine ⟨hUp hLive, ?_⟩
  cases hTurn.fate hOk ⟨hSock', hUp hLive⟩ with
  | kept sock₁ currentMs tick hHolds hSame =>
      cases Option.some.inj (hSock.symm.trans hHolds.1)
      rw [hSame]
      exact h.clock _ currentMs tick hInv
  | ran sock₁ cause hHolds hCause hRan =>
      cases Option.some.inj (hSock.symm.trans hHolds.1)
      exact h.ran cause _ _ (hOk.core p sock hSock) hLive hInv hRan
  | dialled sock₁ addr seed draws hOp hSock₁ hNew hSeed hSame =>
      cases Option.some.inj (hSock.symm.trans hSock₁)
      exact absurd hNew hLive
  | accepted sock₁ d addr hOp hVersion hType hSock₁ hNew hSame =>
      cases Option.some.inj (hSock.symm.trans hSock₁)
      exact absurd hNew hLive

/-- What is kept holds in every later context, as long as the socket exists. -/
theorem follows (h : Kept env I) (hOk : c.Ok) {sock sock' : Socket} (hSock : c.Holds p sock)
    (hInv : I (c.enter p sock)) (hLater : c.Follows env c') (hSock' : c'.sockets p = some sock') :
    c'.Holds p sock' ∧ I (c'.enter p sock') := by
  have hStill : c'.Still I p := by
    clear hSock'
    induction hLater with
    | now =>
        refine ⟨hOk.allocated p sock hSock.1, fun sock₁ hSock₁ => ?_⟩
        cases Option.some.inj (hSock.1.symm.trans hSock₁)
        exact ⟨hSock.2, hInv⟩
    | later op hPrior hStep ih =>
        have hTurns := Context.turns_of_step (hPrior.ok hOk) hStep
        have hStart := hPrior.ok hOk
        clear hStep hPrior
        induction hTurns with
        | refl => exact ih
        | tail hBefore hTurn ih' =>
            exact h.turn (Context.Turns.ok hBefore hStart) ih' hTurn
  obtain ⟨hLive, hNow⟩ := hStill.2 sock' hSock'
  exact ⟨⟨hSock', hLive⟩, hNow⟩

end Kept

namespace Context

/-- A datagram that `utp_process_udp` hands to `utp_process_incoming` of the socket `p`. -/
def delivers (d : Datagram) (addr : PackedSockAddr) (p : Nat) (c : Context) : Bool :=
  20 ≤ d.len && utpVersion d.header == 1 && d.header.type != stReset && d.header.type != stSyn &&
    c.findConn addr d.header.connid == some p

/-- What such a datagram does to the socket. -/
theorem sockets_of_delivers {env : Env} {c c' : Context} {p : Nat} {sock : Socket} {d : Datagram}
    {addr : PackedSockAddr} (h : c.delivers d addr p = true) (hSock : c.sockets p = some sock)
    (hStep : c.step env (.processUdp d addr) = some c') :
    d.header.type ≠ stSyn ∧
      c'.sockets p = some ((c.enter p sock).utpProcessIncoming env d false).toSocket := by
  unfold delivers at h
  simp only [Bool.and_eq_true, decide_eq_true_eq, beq_iff_eq, bne_iff_ne] at h
  obtain ⟨⟨⟨⟨hLen, hVersion⟩, hReset⟩, hSyn⟩, hFind⟩ := h
  refine ⟨hSyn, ?_⟩
  have hFound : (c.record addr (.readBytes 0 20)).findConn addr d.header.connid = some p := hFind
  have hOp : c.step env (.processUdp d addr) = some (c.utpProcessUdp env d addr).2 := rfl
  have hRun : (c.utpProcessUdp env d addr).2 =
      { c.record addr (.readBytes 0 20) with lastUtpSocket := some p }.runOn p
        (fun s => s.utpProcessIncoming env d false) := by
    unfold utpProcessUdp
    rw [if_neg (Nat.not_lt.2 hLen)]
    dsimp only
    rw [if_neg (not_not.2 hVersion), if_neg hReset, if_neg hSyn, hFound]
  have hHere : ({ c.record addr (.readBytes 0 20) with lastUtpSocket := some p } : Context).sockets p =
      some sock := hSock
  rw [hOp, hRun, runOn_of_some hHere] at hStep
  rw [← Option.some.inj hStep, sockets_leave, Function.update_self]
  rfl

end Context

/-- Every socket is sound, over all its transitions. -/
theorem preserved_core (env : Env) : Preserved env Core where
  initialised s addr connSeed connIdRecv connIdSend hPristine hLog := by
    obtain ⟨targetDelay, optSndbuf, optRcvbuf, ssthresh, hEq⟩ := id hPristine
    refine (Core.of_pristine hPristine hLog).initialise addr connSeed connIdRecv connIdSend ?_
    rw [hEq]
    rfl
  ran _ _ _ hCore _ _ hRan := hCore.path hRan.path
  clock _ currentMs tick hInv := hInv.clock currentMs tick

end Utp
