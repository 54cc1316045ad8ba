import Utp.Transition.Log
import Utp.Invariant.Fate

/-! One socket of a context through its whole life, also after it was deleted, and what the single
operations of the context may do to it. -/
namespace Utp

open Wrapping BackPointers

namespace Context

/-- Every socket that is to send an ack was told so. -/
def Asked (c : Context) : Prop := ∀ p ∈ c.ackSockets, .scheduleAck ∈ c.logs p

section Turns

variable {env : Env} {op : Op} {c c' : Context} {p : Nat} {sock : Socket}

/-- A socket is written back after it has acted. -/
theorem Asked.leave (h : c.Asked) (hLinked : Linked c.ackSockets c.ida) {s : Conn} (hGrows : c.logs p <+: s.log) :
    (c.leave p s).Asked := by
  obtain ⟨acks, ida, hEq, hKeep⟩ := leave_eq p s c
  intro q hMem
  rw [logs_leave]
  rw [hEq] at hMem
  rcases (hKeep hLinked).2 q hMem with hOld | ⟨rfl, hNew⟩
  · by_cases hSame : q = p
    · subst hSame
      rw [Function.update_self]
      exact hGrows.subset (h q hOld)
    · rw [Function.update_of_ne hSame]
      exact h q hOld
  · rw [Function.update_self]
    exact hNew

theorem Turn.asked (hTurn : Turn env op c c') (hOk : c.Ok) (h : c.Asked) : c'.Asked := by
  cases hTurn with
  | run p sock cause s' hSock hCause hRan => exact h.leave hOk.linked hRan.path.grows
  | option p sock opt val hSock =>
      refine h.leave hOk.linked ?_
      cases opt <;> exact List.prefix_refl _
  | create =>
      intro q hMem
      obtain ⟨sock, hSock, -⟩ := hOk.acking q hMem
      have hOther : q ≠ c.allocated := (hOk.allocated q sock hSock).ne
      change .scheduleAck ∈ Function.update c.logs c.allocated [] q
      rw [Function.update_of_ne hOther]
      exact h q hMem
  | dial p sock addr seed draws hOp hSock hNew hSeed hFree =>
      have hStart : (c.addKey ⟨addr, seed⟩ p).Asked := h
      refine hStart.leave hOk.linked ?_
      rw [show (c.addKey ⟨addr, seed⟩ p).logs p = [] from (hOk.pristine p sock hSock hNew).2]
      exact List.nil_prefix
  | accept p sock d addr hOp hVersion hType hSock hNew hFree =>
      have hStart : (c.addKey ⟨addr, d.header.connid + 1⟩ p).Asked := h
      refine hStart.leave hOk.linked ?_
      rw [show (c.addKey ⟨addr, d.header.connid + 1⟩ p).logs p = [] from (hOk.pristine p sock hSock hNew).2]
      exact List.nil_prefix
  | delete p sock hSock hState =>
      obtain ⟨acks, ida, hEq, -, hMem⟩ := hOk.delete_eq hSock
      rw [hEq]
      intro q hq
      have hOld := h q (hMem q hq).1
      change .scheduleAck ∈ Function.update c.logs p _ q
      by_cases hSame : q = p
      · subst hSame
        rw [Function.update_self]
        exact List.mem_append_left _ hOld
      · rw [Function.update_of_ne hSame]
        exact hOld
  | cache p sock hSock => exact h
  | aside currentMs tick lastCheck targetDelay optSndbuf optRcvbuf rstInfo log => exact h

theorem Turns.asked (hTurns : Turns env op c c') (hOk : c.Ok) (h : c.Asked) : c'.Asked := by
  induction hTurns with
  | refl => exact h
  | tail hBefore hTurn ih => exact hTurn.asked (Turns.ok hBefore hOk) ih

theorem Reachable.asked (hReach : c.Reachable env) : c.Asked := by
  induction hReach with
  | init onAcceptSet onConnectSet => exact fun p hMem => by cases hMem
  | next op hReach hStep ih => exact (turns_of_step hReach.ok hStep).asked hReach.ok ih

/-- The socket `p`, as it is or as it was when it was deleted. -/
def Shows (p : Nat) (s : Conn) (c : Context) : Prop :=
  p < c.allocated ∧ ((c.sockets p = none ∧ c.logs p = s.log ++ [.onStateChange .destroying]) ∨
    ∃ sock, c.Holds p sock ∧ c.enter p sock = s)

/-- The record of a socket that is gone does not change any more. -/
theorem Turn.gone (hTurn : Turn env op c c') (hOk : c.Ok) (hOld : p < c.allocated) (hNone : c.sockets p = none) :
    c'.sockets p = none ∧ c'.logs p = c.logs p := by
  have hOther : ∀ {q : Nat} {sock : Socket}, c.sockets q = some sock → p ≠ q := by
    rintro q sock hSock rfl
    rw [hNone] at hSock
    cases hSock
  have hLeave : ∀ {q : Nat} {sock : Socket} (table : Context) (s : Conn), c.sockets q = some sock →
      table.sockets = c.sockets → table.logs = c.logs →
      (table.leave q s).sockets p = none ∧ (table.leave q s).logs p = c.logs p := by
    intro q sock table s hSock hSockets hLogs
    rw [sockets_leave, logs_leave, Function.update_of_ne (hOther hSock), Function.update_of_ne (hOther hSock),
      hSockets, hLogs]
    exact ⟨hNone, rfl⟩
  cases hTurn with
  | run q sock cause s' hSock hCause hRan => exact hLeave c s' hSock.1 rfl rfl
  | option q sock opt val hSock => exact hLeave c _ hSock rfl rfl
  | create =>
      have hApart : p ≠ c.allocated := hOld.ne
      exact ⟨(Function.update_of_ne hApart ..).trans hNone, Function.update_of_ne hApart ..⟩
  | dial q sock addr seed draws hOp hSock hNew hSeed hFree => exact hLeave (c.addKey ⟨addr, seed⟩ q) _ hSock rfl rfl
  | accept q sock d addr hOp hVersion hType hSock hNew hFree =>
      exact hLeave (c.addKey ⟨addr, d.header.connid + 1⟩ q) _ hSock rfl rfl
  | delete q sock hSock hState =>
      obtain ⟨acks, ida, hEq, -, -⟩ := hOk.delete_eq hSock
      rw [hEq]
      exact ⟨(Function.update_of_ne (hOther hSock.1) ..).trans hNone, Function.update_of_ne (hOther hSock.1) ..⟩
  | cache q sock hSock => exact ⟨hNone, rfl⟩
  | aside currentMs tick lastCheck targetDelay optSndbuf optRcvbuf rstInfo log => exact ⟨hNone, rfl⟩

/-- A socket goes only when it is deleted. -/
theorem Turn.goes (hTurn : Turn env op c c') (hOk : c.Ok) (hSock : c.sockets p = some sock)
    (hNone : c'.sockets p = none) : c'.logs p = c.logs p ++ [.onStateChange .destroying] := by
  have hLeave : ∀ {q : Nat} (table : Context) (s : Conn), table.sockets = c.sockets →
      (table.leave q s).sockets p ≠ none := by
    intro q table s hSockets
    rw [sockets_leave, hSockets]
    by_cases hSame : p = q
    · subst hSame
      rw [Function.update_self]
      exact Option.some_ne_none _
    · rw [Function.update_of_ne hSame, hSock]
      exact Option.some_ne_none _
  cases hTurn with
  | run q sock cause s' hq hCause hRan => exact absurd hNone (hLeave c s' rfl)
  | option q sock opt val hq => exact absurd hNone (hLeave c _ rfl)
  | create =>
      have hApart : p ≠ c.allocated := (hOk.allocated p sock hSock).ne
      have hStill : c.create.sockets p = c.sockets p := Function.update_of_ne hApart ..
      rw [hStill, hSock] at hNone
      cases hNone
  | dial q sock addr seed draws hOp hq hNew hSeed hFree => exact absurd hNone (hLeave (c.addKey ⟨addr, seed⟩ q) _ rfl)
  | accept q sock d addr hOp hVersion hType hq hNew hFree =>
      exact absurd hNone (hLeave (c.addKey ⟨addr, d.header.connid + 1⟩ q) _ rfl)
  | delete q sock hq hState =>
      obtain ⟨acks, ida, hEq, -, -⟩ := hOk.delete_eq hq
      rw [hEq] at hNone ⊢
      by_cases hSame : p = q
      · subst hSame
        exact Function.update_self ..
      · have hStill : Function.update c.sockets q none p = c.sockets p := Function.update_of_ne hSame ..
        have hGone : Function.update c.sockets q none p = none := hNone
        rw [hStill, hSock] at hGone
        cases hGone
  | cache q sock hq =>
      have hStill : c.sockets p = none := hNone
      rw [hSock] at hStill
      cases hStill
  | aside currentMs tick lastCheck targetDelay optSndbuf optRcvbuf rstInfo log =>
      have hStill : c.sockets p = none := hNone
      rw [hSock] at hStill
      cases hStill

/-- What a property says about a socket that is shown, when the socket may be run in the ways that
an operation admits. -/
structure Carries (env : Env) (op : Op) (p : Nat) (I : Conn → Prop) : Prop where
  clock : ∀ (s : Conn) (currentMs tick : Nat), I s → I { s with currentMs := currentMs, tick := tick }
  ran : ∀ (c : Context) (sock : Socket) (cause : Cause) (s' : Conn), c.Ok → c.Asked → c.Holds p sock →
    c.Admitted op p sock cause → I (c.enter p sock) → Ran env cause (c.enter p sock) s' → I s'

theorem Carries.turn {I : Conn → Prop} (h : Carries env op p I) (hOk : c.Ok) (hAsked : c.Asked)
    (hTurn : Turn env op c c') (hShows : ∃ s, c.Shows p s ∧ I s) : ∃ s, c'.Shows p s ∧ I s := by
  obtain ⟨s, ⟨hOld, hGone | ⟨sock, hSock, rfl⟩⟩, hInv⟩ := hShows
  · obtain ⟨hNone, hLog⟩ := hTurn.gone hOk hOld hGone.1
    exact ⟨s, ⟨hOld.trans_le (hTurn.allocated_le hOk), Or.inl ⟨hNone, hLog.trans hGone.2⟩⟩, hInv⟩
  have hThere := hOld.trans_le (hTurn.allocated_le hOk)
  cases hNow : c'.sockets p with
  | none => exact ⟨c.enter p sock, ⟨hThere, Or.inl ⟨hNow, hTurn.goes hOk hSock.1 hNow⟩⟩, hInv⟩
  | some sock' =>
      obtain ⟨sock₁, hSock₁, hUp⟩ := hTurn.sockets hOk hOld hNow
      cases Option.some.inj (hSock.1.symm.trans hSock₁)
      have hHolds : c'.Holds p sock' := ⟨hNow, hUp hSock.2⟩
      refine ⟨c'.enter p sock', ⟨hThere, Or.inr ⟨sock', hHolds, rfl⟩⟩, ?_⟩
      cases hTurn.fate hOk hHolds with
      | kept sock₂ currentMs tick hSock₂ hSame =>
          cases Option.some.inj (hSock.1.symm.trans hSock₂.1)
          rw [hSame]
          exact h.clock _ currentMs tick hInv
      | ran sock₂ cause hSock₂ hCause hRan =>
          cases Option.some.inj (hSock.1.symm.trans hSock₂.1)
          exact h.ran c sock cause _ hOk hAsked hSock hCause hInv hRan
      | dialled sock₂ addr seed draws hOp hSock₂ hNew hSeed hSame =>
          cases Option.some.inj (hSock.1.symm.trans hSock₂)
          exact absurd hNew hSock.2
      | accepted sock₂ d addr hOp hVersion hType hSock₂ hNew hSame =>
          cases Option.some.inj (hSock.1.symm.trans hSock₂)
          exact absurd hNew hSock.2

/-- What the runs of a socket keep, an operation keeps. -/
theorem Carries.step {I : Conn → Prop} (h : Carries env op p I) (hReach : c.Reachable env)
    (hStep : c.step env op = some c') (hShows : ∃ s, c.Shows p s ∧ I s) : ∃ s, c'.Shows p s ∧ I s := by
  have hTurns := turns_of_step hReach.ok hStep
  have hOk := hReach.ok
  have hAsked := hReach.asked
  clear hStep hReach
  induction hTurns with
  | refl => exact hShows
  | tail hBefore hTurn ih => exact h.turn (Turns.ok hBefore hOk) (Turns.asked hBefore hOk hAsked) hTurn ih

/-- A socket is as the function leaves it that its context runs on it. -/
theorem Holds.runOn (hSock : c.Holds p sock) {f : Conn → Conn} (hLive : (f (c.enter p sock)).Live)
    (hSame : (f (c.enter p sock)).identity = (c.enter p sock).identity) :
    (c.runOn p f).Holds p (f (c.enter p sock)).toSocket ∧
      (c.runOn p f).enter p (f (c.enter p sock)).toSocket = f (c.enter p sock) := by
  have hConnect : (f (c.enter p sock)).onConnectSet = c.onConnectSet := congrArg Identity.onConnectSet hSame
  rw [runOn_of_some hSock.1]
  refine ⟨⟨?_, hLive⟩, enter_leave_self hConnect⟩
  rw [sockets_leave]
  exact Function.update_self ..

theorem Holds.shows_runOn (hSock : c.Holds p sock) (hOld : p < c.allocated) {f : Conn → Conn}
    (hLive : (f (c.enter p sock)).Live) (hSame : (f (c.enter p sock)).identity = (c.enter p sock).identity) :
    (c.runOn p f).Shows p (f (c.enter p sock)) := by
  obtain ⟨hHolds, hEnter⟩ := hSock.runOn hLive hSame
  exact ⟨hOld.trans_eq (allocated_runOn p f c).symm, Or.inr ⟨_, hHolds, hEnter⟩⟩

/-- A datagram that is handed to a socket, and nothing else, is what the socket gets. -/
theorem shows_of_delivers (hOk : c.Ok) (hSock : c.Holds p sock) {d : Datagram} {addr : PackedSockAddr}
    (h : c.delivers d addr p = true) (hStep : c.step env (.processUdp d addr) = some c') :
    d.header.type ≠ stSyn ∧ c'.Shows p ((c.enter p sock).utpProcessIncoming env d false) := by
  unfold delivers at h
  simp only [Bool.and_eq_true, decide_eq_true_eq, beq_iff_eq, bne_iff_ne] at h
  obtain ⟨⟨⟨⟨hLen, hVersion⟩, hReset⟩, hSyn⟩, hFind⟩ := h
  have hFound : (c.record addr (.readBytes 0 20)).findConn addr d.header.connid = some p := hFind
  have hOp : c.step env (.processUdp d addr) = some (c.utpProcessUdp env d addr).2 := rfl
  have hRun : (c.utpProcessUdp env d addr).2 =
      { c.record addr (.readBytes 0 20) with lastUtpSocket := some p }.runOn p
        (fun s => s.utpProcessIncoming env d false) := by
    unfold utpProcessUdp
    rw [if_neg (Nat.not_lt.2 hLen)]
    dsimp only
    rw [if_neg (not_not.2 hVersion), if_neg hReset, if_neg hSyn, hFound]
  have hHere : ({ c.record addr (.readBytes 0 20) with lastUtpSocket := some p } : Context).Holds p sock := hSock
  rw [hOp, hRun] at hStep
  have hKeeps : ((c.enter p sock).utpProcessIncoming env d false).Live ∧
      ((c.enter p sock).utpProcessIncoming env d false).identity = (c.enter p sock).identity := by
    rcases Conn.path_utpProcessIncoming env (hOk.core p sock hSock.1) hSyn with hQuiet | ⟨r, -, hPath⟩
    · exact Path.keeps hQuiet.path.path (hOk.core p sock hSock.1) hSock.2
    · exact hPath.keeps (hOk.core p sock hSock.1) hSock.2
  rw [← Option.some.inj hStep]
  exact ⟨hSyn, hHere.shows_runOn (hOk.allocated p sock hSock.1) hKeeps.1 hKeeps.2⟩

end Turns

end Context

end Utp
