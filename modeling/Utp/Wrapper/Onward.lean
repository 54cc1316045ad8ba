import Utp.Guarantees.Link
import Utp.Wrapper.Sections

/-! What a section of the wrapper is for the library: a sequence of its operations, or its end. -/
namespace Utp

/-- Events that send nothing leave a packet as late as it was. -/
theorem Honest.of_append {d : Datagram} {log more : List Event} (h : Honest d (log ++ more))
    (hSilent : ∀ e ∈ more, ∀ w flags, e ≠ .sendto w flags) : Honest d log := by
  obtain ⟨before, after, w, flags, beyond, hLog, hDatagram, hQueued, hConsumed⟩ := h
  rcases List.append_eq_append_iff.1 hLog with ⟨rest, hBefore, hMore⟩ | ⟨rest, hHere, hAfter⟩
  · exact absurd rfl (hSilent (.sendto w flags) (by rw [hMore]; simp) w flags)
  · cases rest with
    | nil => exact absurd rfl (hSilent (.sendto w flags) (by rw [← show _ :: after = more from hAfter]; simp) w flags)
    | cons e rest =>
        obtain ⟨rfl, hTail⟩ := List.cons.inj hAfter
        have hSplit : after = rest ++ more := hTail
        rw [hSplit] at hQueued hConsumed
        refine ⟨before, rest, w, flags, beyond, hHere, hDatagram, ?_, ?_⟩
        · rw [queuedCount, List.countP_append] at hQueued
          exact (Nat.le_add_right ..).trans hQueued
        · rw [consumedOf_append, List.length_append] at hConsumed
          exact (Nat.le_add_right ..).trans hConsumed

/-- A context goes on as the surroundings of the socket `p` guarantee. -/
abbrev Context.Onward (env : Env) (log : List Event) (p : Nat) : Context → Context → Prop :=
  Relation.ReflTransGen fun c c' => ∃ op, c.step env op = some c' ∧ c.Hears log p op ∧ c.Drains p op

namespace Wrapper

namespace Socket

variable {env : Env} {fatal : Nat → Nat → Bool} {w u v : Socket} {p : Nat} {op : Op} {log : List Event}

/-- What the callbacks leave alone. -/
def core (w : Socket) : Context × Bool × Bool := (w.ctx, w.ctxFreed, w.closed)

/-- A callback touches the objects of the program and not the library. -/
theorem core_callback {q i : Nat} {e : Event} (h : w.callback fatal q i e = .ok u) : u.core = w.core := by
  unfold callback at h
  cases e with
  | onAccept =>
      unfold pushBacklog at h
      split_ifs at h <;> cases h <;> rfl
  | onStateChange change => cases change <;> dsimp only at h <;> split_ifs at h <;> cases h <;> rfl
  | sendto packet flags =>
      cases h
      split_ifs <;> rfl
  | onRead bytes =>
      dsimp only at h
      split_ifs at h
      cases h
      rfl
  | onError code =>
      dsimp only at h
      split_ifs at h
      cases h
      rfl
  | _ =>
      cases h
      rfl

/-- By induction on the events. -/
theorem core_callbacks {q i : Nat} {events : List Event} (h : w.callbacks fatal q i events = .ok u) : u.core = w.core := by
  induction events generalizing w i with
  | nil =>
      cases h
      rfl
  | cons e events ih =>
      rw [callbacks] at h
      cases hFirst : w.callback fatal q i e with
      | error fault =>
          rw [hFirst] at h
          cases h
      | ok v =>
          rw [hFirst] at h
          exact (ih h).trans (core_callback hFirst)

/-- So the library is left as the operation has left it. -/
theorem core_replay {before : Context} (h : replay fatal before w = .ok u) : u.core = w.core := by
  have hFold : ∀ (qs : List Nat) (k : Nat → Nat) (g : Nat → List Event) (v : Socket),
      qs.foldlM (fun u q => u.callbacks fatal q (k q) (g q)) v = .ok u → u.core = v.core := by
    intro qs k g v hRun
    induction qs generalizing v with
    | nil =>
        cases hRun
        rfl
    | cons q qs ih =>
        rw [List.foldlM_cons] at hRun
        cases hFirst : v.callbacks fatal q (k q) (g q) with
        | error fault =>
            rw [hFirst] at hRun
            cases hRun
        | ok v' =>
            rw [hFirst] at hRun
            exact (ih v' hRun).trans (core_callbacks hFirst)
  exact hFold _ _ _ w h

/-- What the surroundings of the connection `p` guarantee in a section: a message that is for it is a
packet of its peer. -/
def Hears (log : List Event) (p : Nat) (action : Action) (w : Socket) : Prop :=
  match action with
  | .message d addr _ => w.closed = false → w.ctx.delivers d addr p = true → Honest d log
  | _ => True

/-- What a section other than `Socket.Close` makes of the context. -/
structure Passes (env : Env) (log : List Event) (p : Nat) (w u : Socket) : Prop where
  freed : u.ctxFreed = w.ctxFreed
  closed : u.closed = w.closed
  frozen : w.ctxFreed = true → u.ctx = w.ctx
  onward : w.ctx.Onward env log p u.ctx

theorem Passes.of_core (hCore : u.core = w.core) : Passes env log p w u := by
  have hCtx : u.ctx = w.ctx := congrArg Prod.fst hCore
  refine ⟨congrArg (fun r => r.2.1) hCore, congrArg (fun r => r.2.2) hCore, fun _ => hCtx, ?_⟩
  rw [hCtx]

/-- Two runs of operations are one. -/
theorem Passes.trans (hFirst : Passes env log p w u) (hSecond : Passes env log p u v) : Passes env log p w v where
  freed := hSecond.freed.trans hFirst.freed
  closed := hSecond.closed.trans hFirst.closed
  frozen hFreed := (hSecond.frozen (hFirst.freed.trans hFreed)).trans (hFirst.frozen hFreed)
  onward := hFirst.onward.trans hSecond.onward

/-- A call of the library is one of its operations. -/
theorem step_of_cgo (hRun : w.cgo env fatal op = .ok u) :
    w.ctxFreed = false ∧ w.ctx.step env op = some u.ctx ∧ u.core = (u.ctx, w.ctxFreed, w.closed) := by
  unfold cgo at hRun
  split_ifs at hRun with hBad
  obtain ⟨hFreed, hAdmits⟩ : w.ctxFreed = false ∧ w.ctx.admits op = true := by simpa using hBad
  cases hPerform : w.ctx.perform1 env op with
  | none =>
      rw [hPerform] at hRun
      cases hRun
  | some ctx =>
      rw [hPerform] at hRun
      have hCore := core_replay hRun
      obtain rfl : u.ctx = ctx := congrArg Prod.fst hCore
      exact ⟨hFreed, Context.step_of_admits hAdmits hPerform, hCore⟩

/-- And it passes, when what it hears is honest. -/
theorem passes_cgo (hRun : w.cgo env fatal op = .ok u) (hHears : w.ctx.Hears log p op) (hDrains : w.ctx.Drains p op) :
    Passes env log p w u := by
  obtain ⟨hFreed, hStep, hCore⟩ := step_of_cgo hRun
  refine ⟨congrArg (fun r => r.2.1) hCore, congrArg (fun r => r.2.2) hCore, fun hEnd => ?_, .single ⟨op, hStep, hHears, hDrains⟩⟩
  exact absurd (hFreed.symm.trans hEnd) Bool.false_ne_true

/-- One call of the library, and a change of the wrapper. -/
theorem passes_map {α : Type} {f : Socket → α} {g : α → Socket} {r : α} (hRun : (w.cgo env fatal op).map f = .ok r)
    (hHears : w.ctx.Hears log p op) (hDrains : w.ctx.Drains p op) (hCore : ∀ u, (g (f u)).core = u.core) : Passes env log p w (g r) := by
  cases hCall : w.cgo env fatal op with
  | error fault =>
      rw [hCall] at hRun
      cases hRun
  | ok v =>
      rw [hCall] at hRun
      cases hRun
      exact (passes_cgo hCall hHears hDrains).trans (.of_core (hCore v))

/-- A section that dials calls the library twice, unless the wrapper is closed. -/
theorem dial_cases {addr : PackedSockAddr} {draws : Nat} (hRun : w.dial env fatal addr draws = .ok u) :
    (w.closed = true ∧ u = w) ∨ (w.closed = false ∧ ∃ v v', w.cgo env fatal .createSocket = .ok v ∧
      v.cgo env fatal (.connect w.ctx.allocated addr draws) = .ok v' ∧ u = v'.newConn w.ctx.allocated) := by
  unfold Socket.dial at hRun
  split_ifs at hRun with hDone
  · cases hRun
    exact Or.inl ⟨hDone, rfl⟩
  · cases hCreate : w.cgo env fatal .createSocket with
    | error fault =>
        rw [hCreate] at hRun
        cases hRun
    | ok v =>
        rw [hCreate] at hRun
        change (v.cgo env fatal (.connect w.ctx.allocated addr draws)).map (newConn w.ctx.allocated) = _ at hRun
        cases hConnect : v.cgo env fatal (.connect w.ctx.allocated addr draws) with
        | error fault =>
            rw [hConnect] at hRun
            cases hRun
        | ok v' =>
            rw [hConnect] at hRun
            cases hRun
            exact Or.inr ⟨eq_false_of_ne_true hDone, v, v', rfl, hConnect, rfl⟩

/-- A section for a message calls the library at most once. -/
theorem message_cases {d : Datagram} {addr : PackedSockAddr} {last : Bool} (hRun : w.message env fatal d addr last = .ok u) :
    (u.core = w.core ∧ u.heap = w.heap) ∨ (w.closed = false ∧ ∃ v, w.cgo env fatal (.processUdp d addr) = .ok v ∧
      u.core = v.core ∧ u.heap = v.heap) := by
  have hLast : ∀ r : Bool × Socket,
      let u' := if r.1 then { r.2 with gotUtp := true } else r.2.onReadNonUtp (d.drop 0) addr
      let u'' := if last = true then u'.afterReceivingUtpMessages else u'
      u''.core = r.2.core ∧ u''.heap = r.2.heap := by
    intro r
    dsimp only [onReadNonUtp, afterReceivingUtpMessages]
    split_ifs <;> exact ⟨rfl, rfl⟩
  unfold Socket.message Socket.utpProcessUdp at hRun
  by_cases hDone : w.closed = true
  · rw [if_pos hDone] at hRun
    cases hRun
    exact Or.inl ⟨rfl, rfl⟩
  · rw [if_neg hDone] at hRun
    by_cases hEmpty : (d.len = 0 || addr.port = 0 : Bool) = true
    · rw [if_pos hEmpty] at hRun
      cases hRun
      exact Or.inl (hLast (false, w))
    · rw [if_neg hEmpty] at hRun
      cases hCall : w.cgo env fatal (.processUdp d addr) with
      | error fault =>
          rw [hCall] at hRun
          cases hRun
      | ok v =>
          rw [hCall] at hRun
          cases hRun
          exact Or.inr ⟨eq_false_of_ne_true hDone, v, rfl, hLast (_, v)⟩

/-- Closing calls the library at most once. -/
theorem passes_close {q : Nat} (hRun : w.close env fatal q = .ok u) : Passes env log p w u := by
  unfold close at hRun
  cases hGet : w.heap q with
  | none =>
      rw [hGet] at hRun
      cases hRun
      exact .of_core rfl
  | some c =>
      rw [hGet] at hRun
      dsimp only at hRun
      split_ifs at hRun
      · cases hRun
        exact .of_core rfl
      · cases hUs : c.us with
        | none =>
            rw [hUs] at hRun
            cases hRun
        | some us =>
            rw [hUs] at hRun
            exact passes_map (g := id) hRun trivial nofun fun v => rfl

/-- A read that has emptied the buffer tells the library, on a connection that was entered. -/
theorem passes_read {q n : Nat} {late : Bool} {r : (List UInt8 × Option Failure) × Socket} (h : w.Ok env)
    (hRun : w.read env fatal q n late = .ok r) : Passes env log p w r.2 := by
  unfold Socket.read at hRun
  cases hGet : w.heap q with
  | none =>
      rw [hGet] at hRun
      cases hRun
      exact .of_core rfl
  | some c =>
      rw [hGet] at hRun
      dsimp only at hRun
      have hTake : Passes env log p w (w.modify q (Conn.take n)) := .of_core rfl
      unfold readDrained at hRun
      split_ifs at hRun with hDrained
      · cases hUs : c.us with
        | none =>
            rw [hUs] at hRun
            cases hRun
            exact hTake
        | some us =>
            rw [hUs] at hRun
            refine hTake.trans (passes_map (g := Prod.snd) hRun trivial ?_ fun v => rfl)
            intro hSame
            have hTracks := h.tracks q c hGet
            obtain ⟨hKnown, hHere⟩ : c.destroyed = false ∧ us = q := by
              have hFrom := hTracks.us
              rw [hUs] at hFrom
              split_ifs at hFrom with hGone
              exact ⟨eq_false_of_ne_true hGone, Option.some.inj hFrom⟩
            obtain ⟨-, hOpen, sock, hSock⟩ := h.holds hGet hKnown
            have hOwn : q = p := hHere.symm.trans (Op.readDrained.inj hSame)
            subst hOwn
            refine ((preserved_delivery env).reachable (h.reach hOpen) q sock hSock).entryOf_ne fun hNothing => ?_
            have hStream := hTracks.stream
            rw [show readsOf (w.ctx.logs q) = [] from hNothing] at hStream
            have hEmpty : c.readBuf = [] := (List.append_eq_nil_iff.1 hStream).2
            exact hDrained.1 (by rw [hEmpty, List.take_nil])
      · cases hRun
        exact hTake

/-- A write calls the library once. -/
theorem passes_write {q : Nat} {b : List UInt8} {late : Bool} {r : (Nat × Option Failure) × Socket}
    (hRun : w.write env fatal q b late = .ok r) : Passes env log p w r.2 := by
  unfold Socket.write at hRun
  cases hGet : w.heap q with
  | none =>
      rw [hGet] at hRun
      cases hRun
      exact .of_core rfl
  | some c =>
      rw [hGet] at hRun
      dsimp only at hRun
      split_ifs at hRun
      · cases hRun
        exact .of_core rfl
      · cases hFailure : c.writeError late with
        | some failure =>
            rw [hFailure] at hRun
            cases hRun
            exact .of_core rfl
        | none =>
            cases hUs : c.us with
            | none =>
                rw [hFailure, hUs] at hRun
                cases hRun
            | some us =>
                rw [hFailure, hUs] at hRun
                dsimp only at hRun
                split_ifs at hRun
                exact passes_map (g := Prod.snd) hRun trivial nofun fun v => rfl

/-- Every section but `Socket.Close` is a sequence of operations of the library, to which the peer is heard
as the network guarantees. -/
theorem Ok.passes (h : w.Ok env) {action : Action} (hStep : w.step env fatal action = .ok u) (hHears : w.Hears log p action)
    (hNot : ∀ order, action ≠ .closeSocket order) : Passes env log p w u := by
  cases action with
  | dial addr draws =>
      rcases dial_cases hStep with ⟨-, rfl⟩ | ⟨-, v, v', hCreate, hConnect, rfl⟩
      · exact .of_core rfl
      · exact (passes_cgo hCreate trivial nofun).trans ((passes_cgo hConnect trivial nofun).trans (.of_core rfl))
  | waitForConnect q cancelled =>
      unfold Socket.step Socket.waitForConnect at hStep
      dsimp only at hStep
      split at hStep
      · exact passes_close hStep
      · cases hStep
        exact .of_core rfl
  | close q => exact passes_close hStep
  | read q n late =>
      cases hRun : w.read env fatal q n late with
      | error fault => cases (congrArg (Except.map Prod.snd) hRun).symm.trans hStep
      | ok r =>
          cases (congrArg (Except.map Prod.snd) hRun).symm.trans hStep
          exact passes_read h hRun
  | write q b late =>
      cases hRun : w.write env fatal q b late with
      | error fault => cases (congrArg (Except.map Prod.snd) hRun).symm.trans hStep
      | ok r =>
          cases (congrArg (Except.map Prod.snd) hRun).symm.trans hStep
          exact passes_write hRun
  | setWriteBufferLen q len =>
      unfold Socket.step Socket.setWriteBufferLen at hStep
      dsimp only at hStep
      cases hGet : w.heap q with
      | none =>
          rw [hGet] at hStep
          cases hStep
          exact .of_core rfl
      | some c =>
          rw [hGet] at hStep
          dsimp only at hStep
          cases hUs : c.us with
          | none =>
              rw [hUs] at hStep
              cases hStep
          | some us =>
              rw [hUs] at hStep
              exact passes_cgo hStep trivial nofun
  | setOption opt val => exact passes_cgo hStep trivial nofun
  | message d addr last =>
      rcases message_cases hStep with ⟨hCore, -⟩ | ⟨hOpen, v, hCall, hCore, -⟩
      · exact .of_core hCore
      · exact (passes_cgo hCall (hHears hOpen) nofun).trans (.of_core hCore)
  | ackTimer =>
      change w.ackTimerFunc env fatal = .ok u at hStep
      unfold Socket.ackTimerFunc at hStep
      split_ifs at hStep
      · cases hStep
        exact .of_core rfl
      · have hFirst : Passes env log p w { w with acksScheduled := false } := .of_core rfl
        exact hFirst.trans (passes_cgo hStep trivial nofun)
  | timeoutChecker order =>
      change w.timeoutCheckerTimerFunc env fatal order = .ok u at hStep
      unfold Socket.timeoutCheckerTimerFunc at hStep
      split_ifs at hStep
      · cases hStep
        exact .of_core rfl
      · exact passes_cgo hStep trivial nofun
  | closeSocket order => exact absurd rfl (hNot order)
  | _ =>
      cases hStep
      exact .of_core rfl

/-- `Socket.Close` adds to the record of a connection that it is at its end. -/
theorem Ok.logs_closeLocked (h : w.Ok env) {order : List Nat} (hStep : w.step env fatal (.closeSocket order) = .ok u)
    (hOpen : w.closed = false) (p : Nat) : u.closed = true ∧ ∃ more, u.ctx.logs p = w.ctx.logs p ++ more ∧
      ∀ e ∈ more, e = .onStateChange .destroying := by
  have hLive : ∀ p sock, w.ctx.sockets p = some sock → w.ctx.Holds p sock := by
    intro p sock hSock
    obtain ⟨c, -, -, hHolds⟩ := h.conn hOpen hSock
    exact hHolds
  change w.closeLocked fatal order = .ok u at hStep
  unfold Socket.closeLocked at hStep
  rw [if_neg (by simp [hOpen])] at hStep
  cases hRun : replay fatal w.ctx { w with ctx := w.ctx.utpDestroy order } with
  | error fault =>
      rw [hRun] at hStep
      cases hStep
  | ok v =>
      rw [hRun] at hStep
      cases hStep
      have hCtx : v.ctx = w.ctx.utpDestroy order := congrArg Prod.fst (core_replay hRun)
      refine ⟨rfl, _, (congrArg (fun c => Context.logs c p) hCtx).trans
        (Context.news_destroy order (h.reach hOpen).ok hLive p).2.1, ?_⟩
      split_ifs <;> simp

end Socket

end Wrapper

end Utp
