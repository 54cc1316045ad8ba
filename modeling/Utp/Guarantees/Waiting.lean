import Utp.Guarantees.Routing
import Utp.Guarantees.Writable
import Utp.Wrapper.Sections

/-! The program at the wrapper: nothing that it may do makes the wrapper panic, and those that wait in
`Read`, in `Write` and in dialling are woken when there is something for them. -/
namespace Utp

open Wrapping

namespace Conn

variable {env : Env} {s : Conn}

theorem le_writevLoop (packetSize fuel bytes sent : Nat) (iov : List (List UInt8)) (s : Conn) :
    sent ≤ (s.writevLoop env packetSize fuel bytes sent iov).1 := by
  induction fuel generalizing bytes sent iov s with
  | zero => exact le_rfl
  | succ fuel ih =>
      unfold writevLoop
      dsimp only
      split_ifs
      · exact le_rfl
      · exact Nat.le_add_right ..
      · exact (Nat.le_add_right ..).trans (ih ..)

/-- A socket to which nothing can be written. -/
def Refuses (s : Conn) : Prop := s.state ≠ .connected ∨ s.finSent = true

theorem utpWrite_of_refuses (h : s.Refuses) (b : List UInt8) : (s.utpWrite env b).1 = 0 := by
  unfold utpWrite utpWritev
  rw [if_neg (by simp)]
  rcases h with hState | hFin
  · rw [if_pos hState]
  · rw [if_pos hFin]
    split_ifs <;> rfl

/-- The loop of `utp_writev` takes nothing only of a socket that it finds full. -/
theorem full_of_writevLoop (hCore : Core s) (hFit : Fitting s) {fuel bytes : Nat} {iov : List (List UInt8)} (hBytes : 0 < bytes)
    (hZero : (s.writevLoop env s.getPacketSize (fuel + 1) bytes 0 iov).1 = 0) :
    (s.writevLoop env s.getPacketSize (fuel + 1) bytes 0 iov).2.state = .connectedFull ∧
      (s.writevLoop env s.getPacketSize (fuel + 1) bytes 0 iov).2.log =
        s.log ++ [.moved s.state .connectedFull s.rcv.ackNr] := by
  have hSize := getPacketSize_of_atLeast hFit.mtu
  have hAbove := hFit.mtu.last
  unfold writevLoop at hZero ⊢
  dsimp only at hZero ⊢
  by_cases hFull : s.isFull (min bytes s.getPacketSize : Nat) = true
  · have hWhole : (s.noteFull (min bytes s.getPacketSize : Nat)).isFull (-1) = true := by
      rw [isFull_noteFull]
      exact isFull_full_packet hFit hCore (by omega) hFull
    rw [if_pos hFull]
    unfold markFull
    rw [if_pos hWhole]
    refine ⟨rfl, ?_⟩
    unfold noteFull
    split_ifs <;> rfl
  · have hMore : ∀ more, (0 + min bytes s.getPacketSize) ≤ more → more ≠ 0 := by omega
    rw [if_neg hFull] at hZero
    split_ifs at hZero
    · exact absurd hZero (hMore _ le_rfl)
    · exact absurd hZero (hMore _ (le_writevLoop ..))

/-- A write that takes nothing leaves a socket to which nothing can be written, and is not noticed. -/
theorem refuses_of_utpWrite (hCore : Core s) (hFit : Fitting s) {b : List UInt8} (hSome : b ≠ [])
    (hZero : (s.utpWrite env b).1 = 0) : (s.utpWrite env b).2.Refuses ∧
      ∃ events, (s.utpWrite env b).2.log = s.log ++ events ∧ ∀ e ∈ events, e.isSilent = true := by
  have hNothing : ∃ events, s.log = s.log ++ events ∧ ∀ e ∈ events, e.isSilent = true :=
    ⟨[], (List.append_nil _).symm, List.forall_mem_nil _⟩
  unfold utpWrite utpWritev at hZero ⊢
  rw [if_neg (by simp)] at hZero ⊢
  split_ifs at hZero ⊢ with hState hFin
  · exact ⟨Or.inl hState, hNothing⟩
  · exact ⟨Or.inr hFin, hNothing⟩
  · have hClock : SendPath env .call s (s.updateCurrentMs env) := (Quiet.clock _).path
    have hCore' : Core (s.updateCurrentMs env) := hCore.sendPath hClock
    have hFit' : Fitting (s.updateCurrentMs env) := ⟨hFit.mtu, hFit.queued⟩
    have hLength : 0 < (([b] : List (List UInt8)).take 1024).flatten.length := by
      simpa using List.length_pos_of_ne_nil hSome
    obtain ⟨hFull, hLog⟩ := full_of_writevLoop hCore' hFit' hLength (Int.natCast_eq_zero.1 hZero)
    exact ⟨Or.inl (hFull.trans_ne (by decide)), _, hLog, by simp [Event.isSilent]⟩

end Conn

theorem Context.leave_of_write {env : Env} {c c' : Context} {p : Nat} {sock : Socket} {b : List UInt8} (hSock : c.sockets p = some sock)
    (hStep : c.step env (.writev p [b]) = some c') : c' = c.leave p ((c.enter p sock).utpWrite env b).2 := by
  unfold step at hStep
  split_ifs at hStep
  rw [← Option.some.inj hStep, runOn_of_some hSock]
  rfl

namespace Wrapper

/-- A call that blocks. -/
inductive Wait where
  | read (n : Nat)
  | write (b : List UInt8)
  | connect

/-- One turn of the loop around `cond.Wait`, if it ends in the wait. -/
def Wait.turn (env : Env) (fatal : Nat → Nat → Bool) (p : Nat) (wait : Wait) (w : Socket) : Option Socket :=
  match wait with
  | .read n =>
      match w.read env fatal p n false with
      | .ok (r, u) => if n ≠ 0 ∧ r = ([], none) then some u else none
      | .error _ => none
  | .write b =>
      match w.write env fatal p b false with
      | .ok (r, u) => if b ≠ [] ∧ r = (0, none) then some u else none
      | .error _ => none
  | .connect => if (w.heap p).map (Conn.dialOutcome false) = some none then some w else none

/-- The user may ask for it at any time. -/
def Action.isFree : Action → Bool
  | .setWriteBufferLen _ _ | .setOption _ _ | .timeoutChecker _ | .closeSocket _ => false
  | _ => true

namespace Socket

variable {env : Env} {fatal : Nat → Nat → Bool} {w u v : Socket} {p : Nat} {c c' : Conn} {wait : Wait}

/-- Sections in any order. -/
abbrev Later (env : Env) (fatal : Nat → Nat → Bool) : Socket → Socket → Prop :=
  Relation.ReflTransGen fun w u => ∃ action, w.Allows action ∧ w.step env fatal action = .ok u ∧ w.Answers env u

theorem Later.calm (h : Later env fatal w u) (hOk : w.Ok env) : u.Ok env ∧ ∀ p, Calm p w u := by
  induction h with
  | refl => exact ⟨hOk, fun p => .refl p w⟩
  | tail _ hSection ih =>
      obtain ⟨action, hAllows, hStep, hAnswers⟩ := hSection
      rcases ih.1.step fatal hAllows with ⟨v, hRun, hGood⟩ | ⟨hSpins, -⟩
      · cases hRun.symm.trans hStep
        exact ⟨hGood.ok hAnswers, fun p => (ih.2 p).trans (hGood.calm p)⟩
      · cases hSpins.symm.trans hStep

/-- There is nothing for a call that blocks. -/
def Blocks (p : Nat) (wait : Wait) (w : Socket) : Prop :=
  match wait with
  | .read n => n ≠ 0 ∧ ∃ c, w.heap p = some c ∧ c.readBuf = [] ∧ c.readError false = none
  | .write b => b ≠ [] ∧ ∃ c sock, w.heap p = some c ∧ c.writeError false = none ∧ w.ctx.Holds p sock ∧
      (w.ctx.enter p sock).Refuses
  | .connect => ∃ c, w.heap p = some c ∧ c.dialOutcome false = none

/-- As long as there is no broadcast there is nothing for it. -/
theorem Blocks.calm (h : Blocks p wait w) (hCalm : Calm p w u) (hGet : w.heap p = some c) (hGet' : u.heap p = some c')
    (hSame : c'.broadcasts = c.broadcasts) : Blocks p wait u := by
  obtain ⟨c₁, hGet₁, -, hStill⟩ := hCalm c hGet
  cases Option.some.inj (hGet'.symm.trans hGet₁)
  obtain ⟨hUnmoved, hIdles⟩ := hStill hSame
  obtain ⟨hReads, hWrites, hDials⟩ := hUnmoved.errors false
  cases wait with
  | read n =>
      obtain ⟨hSome, c₀, hGet₀, hEmpty, hError⟩ := h
      cases Option.some.inj (hGet₀.symm.trans hGet)
      exact ⟨hSome, c', hGet', hUnmoved.empty hEmpty, hReads.trans hError⟩
  | write b =>
      obtain ⟨hSome, c₀, sock, hGet₀, hError, hSock, hRefuses⟩ := h
      cases Option.some.inj (hGet₀.symm.trans hGet)
      obtain ⟨sock', hSock', hIdle⟩ := hIdles sock hSock
      refine ⟨hSome, c', sock', hGet', hWrites.trans hError, hSock', ?_⟩
      exact hRefuses.imp (fun hState hUp => hState (hIdle.state hUp)) hIdle.fin
  | connect =>
      obtain ⟨c₀, hGet₀, hOutcome⟩ := h
      cases Option.some.inj (hGet₀.symm.trans hGet)
      exact ⟨c', hGet', hDials.trans hOutcome⟩

/-- A call that has nothing to do comes to wait. -/
theorem Blocks.turn (h : Blocks p wait w) (hOk : w.Ok env) (fatal : Nat → Nat → Bool) :
    (wait.turn env fatal p w).isSome = true := by
  cases wait with
  | read n =>
      obtain ⟨hSome, c, hGet, hEmpty, hError⟩ := h
      have hRun : w.read env fatal p n false = .ok (([], none), w.modify p (Conn.take n)) := by
        have hFailure : (w.modify p (Conn.take n)).readFailure p false = none := by
          have hLeft : (c.take n).readBuf = [] := by
            change c.readBuf.drop n = []
            rw [hEmpty, List.drop_nil]
          rw [readFailure, heap_modify_self hGet]
          exact (if_pos hLeft).trans hError
        have hTake : c.readBuf.take n = [] := by rw [hEmpty, List.take_nil]
        rw [Socket.read, hGet]
        dsimp only
        rw [readDrained, if_neg (by simp [hTake]), hTake]
        exact congrArg (fun failure => Except.ok (([], failure), w.modify p (Conn.take n))) hFailure
      rw [Wait.turn, hRun]
      simp [hSome]
  | write b =>
      obtain ⟨hSome, c, sock, hGet, hError, hSock, hRefuses⟩ := h
      obtain ⟨u, sock', -, -, -, -, hRun⟩ := hOk.write_passes fatal hGet hSome hError
      have hZero : w.written env p b = 0 := by
        rw [Socket.written, hSock.1]
        exact Utp.Conn.utpWrite_of_refuses hRefuses b
      rw [Wait.turn, hRun, hZero]
      simp [hSome]
  | connect =>
      obtain ⟨c, hGet, hOutcome⟩ := h
      rw [Wait.turn, hGet, Option.map_some, hOutcome]
      rfl

/-- A turn of `Write` that comes to wait. -/
theorem blocks_of_write (hOk : w.Ok env) {b : List UInt8} (hTurn : (Wait.write b).turn env fatal p w = some v)
    (hReads : ReadsAtLeast 21 (w.ctx.logs p)) (hThere : v.heap p ≠ none) : Blocks p (.write b) v := by
  cases hGet : w.heap p with
  | none =>
      rw [Wait.turn, Socket.write, hGet] at hTurn
      dsimp only at hTurn
      split_ifs at hTurn
      exact absurd (Option.some.inj hTurn ▸ hGet) hThere
  | some c =>
      by_cases hSome : b = []
      · rw [Wait.turn, Socket.write, hGet] at hTurn
        simp [hSome] at hTurn
      · cases hFailure : c.writeError false with
        | some failure =>
            rw [Wait.turn, Socket.write, hGet] at hTurn
            simp [hSome, hFailure] at hTurn
        | none =>
            obtain ⟨u, sock, hOpen, hSock, hCalled, -, hRun⟩ := hOk.write_passes fatal hGet hSome hFailure
            rw [Wait.turn, hRun] at hTurn
            dsimp only at hTurn
            split_ifs at hTurn with hNone
            have hReach := hOk.reach hOpen
            have hWritten : (w.written env p b).toNat = 0 := congrArg Prod.fst hNone.2
            have hZero : ((w.ctx.enter p sock).utpWrite env b).1 = 0 := by
              have hNonneg := Utp.Conn.utpWrite_nonneg env b (w.ctx.enter p sock)
              rw [Socket.written, hSock.1] at hWritten
              dsimp only at hWritten
              omega
            have hCore : Core (w.ctx.enter p sock) := hReach.ok.core p sock hSock.1
            have hFit : Fitting (w.ctx.enter p sock) := (preserved_fitting env).reachable hReach p sock hSock
              fun before after hMem => hReads before after (List.mem_filter.1 hMem).1
            obtain ⟨hRefuses, events, hLog, hSilent⟩ := Utp.Conn.refuses_of_utpWrite hCore hFit hSome hZero
            have hPath : SendPath env .write (w.ctx.enter p sock) ((w.ctx.enter p sock).utpWrite env b).2 :=
              Utp.Conn.path_utpWritev env .write [b] hCore (.inl rfl)
            have hLive := (Path.keeps hPath.path hCore hSock.2).1
            have hLeft := Context.leave_of_write hSock.1 hCalled.step
            obtain ⟨acks, ida, hEq, -⟩ := Context.leave_eq p ((w.ctx.enter p sock).utpWrite env b).2 w.ctx
            have hSockets : u.ctx.sockets p = some ((w.ctx.enter p sock).utpWrite env b).2.toSocket := by
              rw [hLeft, hEq]
              exact Function.update_self ..
            have hLogs : u.ctx.logs p = w.ctx.logs p ++ events := by
              rw [hLeft, Context.logs_leave, Function.update_self]
              exact hLog
            obtain ⟨c', events', hGet', hTold⟩ := hCalled.served.told p c hGet
            obtain rfl : events' = events := List.append_cancel_left (hTold.log.symm.trans hLogs)
            rw [hTold.heard.silent hSilent] at hGet'
            refine ⟨hSome, c.wrote (b.take (w.written env p b).toNat), _, ?_, hFailure, ⟨?_, hLive⟩, hRefuses⟩
            · rw [← Option.some.inj hTurn]
              exact heap_modify_self hGet' _
            · rw [← Option.some.inj hTurn]
              exact hSockets

/-- A turn of `Read` that comes to wait. -/
theorem blocks_of_read {n : Nat} (hTurn : (Wait.read n).turn env fatal p w = some v) (hThere : v.heap p ≠ none) :
    Blocks p (.read n) v := by
  cases hGet : w.heap p with
  | none =>
      rw [Wait.turn, Socket.read, hGet] at hTurn
      dsimp only at hTurn
      split_ifs at hTurn
      exact absurd (Option.some.inj hTurn ▸ hGet) hThere
  | some c =>
      rw [Wait.turn, Socket.read, hGet] at hTurn
      dsimp only at hTurn
      by_cases hTake : c.readBuf.take n = []
      · rw [readDrained, if_neg (by simp [hTake])] at hTurn
        change (if _ then _ else _) = _ at hTurn
        split_ifs at hTurn with hNone
        have hEmpty : c.readBuf = [] := (List.take_eq_nil_iff.1 hTake).resolve_left hNone.1
        have hLeft : (c.take n).readBuf = [] := by
          change c.readBuf.drop n = []
          rw [hEmpty, List.drop_nil]
        have hFailure : (w.modify p (Conn.take n)).readFailure p false = none := congrArg Prod.snd hNone.2
        rw [readFailure, heap_modify_self hGet] at hFailure
        refine ⟨hNone.1, c.take n, ?_, hLeft, (if_pos hLeft).symm.trans hFailure⟩
        rw [← Option.some.inj hTurn]
        exact heap_modify_self hGet _
      · cases hRun : (w.modify p (Conn.take n)).readDrained env fatal c n with
        | error fault =>
            rw [hRun] at hTurn
            cases hTurn
        | ok u =>
            rw [hRun] at hTurn
            change (if _ then _ else _) = _ at hTurn
            split_ifs at hTurn with hNone
            exact absurd (congrArg Prod.fst hNone.2) hTake

theorem blocks_of_turn (hOk : w.Ok env) (hTurn : wait.turn env fatal p w = some v)
    (hReads : ∀ b, wait = .write b → ReadsAtLeast 21 (w.ctx.logs p)) (hThere : v.heap p ≠ none) : Blocks p wait v := by
  cases wait with
  | read n => exact blocks_of_read hTurn hThere
  | write b => exact blocks_of_write hOk hTurn (hReads b rfl) hThere
  | connect =>
      rw [Wait.turn] at hTurn
      split_ifs at hTurn with hWaits
      obtain ⟨c, hGet, hOutcome⟩ := Option.map_eq_some_iff.1 hWaits
      exact ⟨c, Option.some.inj hTurn ▸ hGet, hOutcome⟩

theorem ok_of_turn (hOk : w.Ok env) (hTurn : wait.turn env fatal p w = some v) (hAnswers : w.Answers env v) : v.Ok env := by
  cases wait with
  | read n =>
      obtain ⟨r, u, hRun, hGood⟩ := hOk.read fatal p n false
      rw [Wait.turn, hRun] at hTurn
      dsimp only at hTurn
      split_ifs at hTurn
      cases hTurn
      exact hGood.ok hAnswers
  | write b =>
      obtain ⟨r, u, hRun, hGood⟩ := hOk.write fatal p b false
      rw [Wait.turn, hRun] at hTurn
      dsimp only at hTurn
      split_ifs at hTurn
      cases hTurn
      exact hGood.ok hAnswers
  | connect =>
      rw [Wait.turn] at hTurn
      split_ifs at hTurn
      cases hTurn
      exact hOk

theorem Reachable.later (hReach : w.Reachable env fatal) (hLater : Later env fatal w u) : u.Reachable env fatal := by
  induction hLater with
  | refl => exact hReach
  | tail _ hSection ih =>
      obtain ⟨action, hAllows, hStep, hAnswers⟩ := hSection
      exact .next action ih hAllows hStep hAnswers

section Schedule

/-- Sections one after the other, while there is room in the backlog. -/
def playAll (env : Env) (fatal : Nat → Nat → Bool) : List Action → Socket → Option Socket
  | [], w => some w
  | action :: actions, w =>
      if action.isFree && decide (w.backlog.length < backlogSize) then
        match w.step env fatal action with
        | .ok u => playAll env fatal actions u
        | .error _ => none
      else none

theorem answers_of_room (hRoom : ∀ t, (env t).backlogFull = false) (hLess : w.backlog.length < backlogSize) (u : Socket) :
    w.Answers env u := fun t _ _ => (hRoom t).trans (decide_eq_false (Nat.not_le.2 hLess)).symm

theorem Later.play {actions : List Action} (hRoom : ∀ t, (env t).backlogFull = false)
    (hPlay : playAll env fatal actions w = some u) : Later env fatal w u := by
  induction actions generalizing w with
  | nil => exact Option.some.inj hPlay ▸ .refl
  | cons action actions ih =>
      rw [playAll] at hPlay
      split_ifs at hPlay with hMay
      obtain ⟨hFree, hLess⟩ := Bool.and_eq_true_iff.1 hMay
      cases hStep : w.step env fatal action with
      | error fault =>
          rw [hStep] at hPlay
          cases hPlay
      | ok v =>
          rw [hStep] at hPlay
          refine .head ⟨action, ?_, hStep, answers_of_room hRoom (of_decide_eq_true hLess) v⟩ (ih hPlay)
          cases action <;> trivial

theorem exists_reachable {actions : List Action} {ok : Socket → Bool} (hRoom : ∀ t, (env t).backlogFull = false)
    (h : (playAll env fatal actions newSocket).any ok = true) : ∃ w, w.Reachable env fatal ∧ ok w = true := by
  obtain ⟨w, hPlay, hOk⟩ := (Option.any_eq_true ok _).1 h
  exact ⟨w, Reachable.later .init (.play hRoom hPlay), hOk⟩

end Schedule

/-- No wakeup is lost. A `Read`, a `Write` or a dialler that has come to wait would come to wait again in
every later state in which the condition variable of its connection was not broadcast since, whatever
has happened in between; if its deadline has not passed, which is broadcast by a timer. -/
theorem no_wakeup_is_lost (env : Env) (fatal : Nat → Nat → Bool) (w v u : Socket) (hReach : w.Reachable env fatal)
    (p : Nat) (wait : Wait) (hTurn : wait.turn env fatal p w = some v) (hAnswers : w.Answers env v)
    (hReads : ∀ b, wait = .write b → ReadsAtLeast 21 (w.ctx.logs p)) (hLater : Later env fatal v u) (c c' : Conn)
    (hGet : v.heap p = some c) (hGet' : u.heap p = some c') (hSame : c'.broadcasts = c.broadcasts) : (wait.turn env fatal p u).isSome = true := by
  have hBlocks := blocks_of_turn hReach.ok hTurn hReads (by rw [hGet]; simp)
  have hOk : v.Ok env := ok_of_turn hReach.ok hTurn hAnswers
  obtain ⟨hOk', hCalm⟩ := hLater.calm hOk
  exact (hBlocks.calm (hCalm p) hGet hGet' hSame).turn hOk' fatal

/-- A byte is written to a connection that is dialled, and a timer runs. -/
theorem no_wakeup_is_lost_dialling : ∃ (w v u : Socket) (c c' : Conn), w.Reachable (seededEnv 7) (fun _ _ => false) ∧
    (Wait.write [1]).turn (seededEnv 7) (fun _ _ => false) 0 w = some v ∧ Later (seededEnv 7) (fun _ _ => false) v u ∧
      v.heap 0 = some c ∧ u.heap 0 = some c' ∧ c'.broadcasts = c.broadcasts ∧
        ((Wait.write [1]).turn (seededEnv 7) (fun _ _ => false) 0 u).isSome = true := by
  have hRun : (playAll (seededEnv 7) (fun _ _ => false) [.dial somePeer 1] newSocket).any (fun w =>
      decide (w.backlog.length < backlogSize) && readsMtu 1500 (w.ctx.logs 0) &&
        ((Wait.write [1]).turn (seededEnv 7) (fun _ _ => false) 0 w).any fun v =>
          (playAll (seededEnv 7) (fun _ _ => false) [.ackTimer, .accept] v).any fun u =>
            (v.heap 0).any fun c => (u.heap 0).any fun c' => c'.broadcasts == c.broadcasts) = true := by
    decide +kernel
  obtain ⟨w, hReach, hOk⟩ := exists_reachable (fun _ => rfl) hRun
  obtain ⟨hFirst, hTurns⟩ := Bool.and_eq_true_iff.1 hOk
  obtain ⟨hLess, hReads⟩ := Bool.and_eq_true_iff.1 hFirst
  obtain ⟨v, hTurn, hRest⟩ := (Option.any_eq_true _ _).1 hTurns
  obtain ⟨u, hPlay, hConns⟩ := (Option.any_eq_true _ _).1 hRest
  obtain ⟨c, hGet, hOther⟩ := (Option.any_eq_true _ _).1 hConns
  obtain ⟨c', hGet', hSame⟩ := (Option.any_eq_true _ _).1 hOther
  have hLater : Later (seededEnv 7) (fun _ _ => false) v u := .play (fun _ => rfl) hPlay
  have hAnswers := answers_of_room (fun t => (rfl : (seededEnv 7 t).backlogFull = false)) (of_decide_eq_true hLess) v
  have hMtu := ReadsMtu.of_all hReads
  have hAtLeast : ReadsAtLeast 21 (w.ctx.logs 0) := fun before after hMem =>
    (by decide : 21 ≤ 1500).trans_eq (hMtu before after hMem).symm
  exact ⟨w, v, u, c, c', hReach, hTurn, hLater, hGet, hGet', beq_iff_eq.1 hSame,
    no_wakeup_is_lost (seededEnv 7) _ w v u hReach 0 (.write [1]) hTurn hAnswers (fun _ _ => hAtLeast) hLater c c' hGet hGet'
      (beq_iff_eq.1 hSame)⟩

end Socket

end Wrapper

end Utp
