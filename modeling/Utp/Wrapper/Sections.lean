import Utp.Wrapper.Steps

/-! What each section of the wrapper does: it does not panic, it keeps the wrapper and the library in
agreement, and it broadcasts to those that wait. -/
namespace Utp

namespace Wrapper

namespace Socket

variable {env : Env} {op : Op} {n : Nat} {w u v : Socket} {ctx : Context} {p : Nat} {c c' : Conn} {sock : Utp.Socket}

/-- What a section has made of the wrapper. -/
structure Good (env : Env) (w u : Socket) : Prop where
  ok : w.Answers env u → u.Ok env
  calm : ∀ p, Calm p w u

theorem Ok.stay (h : w.Ok env) : Good env w w := ⟨fun _ => h, fun p => .refl p w⟩

/-- A call of the library that is admitted, other than the two that dial. -/
theorem Ok.cgo (h : w.Ok env) (fatal : Nat → Nat → Bool) (hOpen : w.closed = false) (hAdmits : w.ctx.admits op = true)
    (hRuns : w.ctx.perform1 env op = some ctx) (hOp : op ≠ .createSocket) :
    ∃ u, w.cgo env fatal op = .ok u ∧ Called env op w u ∧ ∀ p, Calm p w u := by
  have hStep := Context.step_of_admits hAdmits hRuns
  obtain ⟨u, hRun, hCalled, rfl⟩ := h.called fatal hOpen hStep hOp
  exact ⟨u, hRun, hCalled, fun p => hCalled.served.calm h.toSound hOpen hStep⟩

/-- One that the user does not notice. -/
theorem Ok.cgo_good (h : w.Ok env) (fatal : Nat → Nat → Bool) (op : Op) (hOpen : w.closed = false) (hAdmits : w.ctx.admits op = true)
    (hRuns : w.ctx.perform1 env op = some ctx) (hOp : op ≠ .createSocket) (hWrites : ∀ p, w.ctx.writes env op p = [])
    (hAsks : ∀ p, ¬op.asks p) : ∃ u, w.cgo env fatal op = .ok u ∧ Good env w u := by
  obtain ⟨u, hRun, hCalled, hCalm⟩ := h.cgo fatal hOpen hAdmits hRuns hOp
  exact ⟨u, hRun, hCalled.ok hWrites hAsks, hCalm⟩

/-- The library socket of a `Conn` that was not destroyed. -/
theorem Ok.holds (h : w.Ok env) (hGet : w.heap p = some c) (hKnown : c.destroyed = false) :
    c.us = some p ∧ w.closed = false ∧ ∃ sock, w.ctx.Holds p sock := by
  refine ⟨?_, h.known p c hGet hKnown⟩
  rw [(h.tracks p c hGet).us, hKnown, if_neg Bool.false_ne_true]

/-- The `Conn` of a library socket. -/
theorem Ok.conn (h : w.Ok env) (hOpen : w.closed = false) (hSock : w.ctx.sockets p = some sock) :
    ∃ c, w.heap p = some c ∧ c.destroyed = false ∧ w.ctx.Holds p sock := by
  obtain ⟨c, hGet⟩ := Option.isSome_iff_exists.1 ((h.born p).2 ((h.reach hOpen).ok.allocated p sock hSock))
  cases hGone : c.destroyed with
  | true => exact absurd (hSock.symm.trans (h.gone p c hGet hGone)) (by simp)
  | false =>
      obtain ⟨-, -, sock', hHolds⟩ := h.holds hGet hGone
      cases Option.some.inj (hSock.symm.trans hHolds.1)
      exact ⟨c, hGet, hGone, hHolds⟩

theorem stateIs_of_holds {c : Context} {ok : ConnState → Bool} (hSock : c.Holds p sock) (hOk : ok sock.state = true) :
    c.stateIs p ok = true := by
  rw [Context.stateIs, hSock.1]
  exact hOk

/-- `Conn.close` -/
theorem Ok.close (h : w.Ok env) (fatal : Nat → Nat → Bool) (p : Nat) : ∃ u, w.close env fatal p = .ok u ∧ Good env w u := by
  have hCalm : ∀ (u : Socket) (q : Nat), Calm q u (u.modify p Conn.markClosed) := fun u q =>
    .of_modify rfl p Conn.markClosed rfl fun c => ⟨Nat.le_succ _, fun hEq => absurd hEq (Nat.succ_ne_self _)⟩
  unfold Socket.close
  cases hGet : w.heap p with
  | none => exact ⟨w, rfl, h.stay⟩
  | some c =>
      dsimp only
      cases hDone : c.destroyed || c.closed with
      | true =>
          refine ⟨_, if_pos rfl, fun _ => ?_, hCalm w⟩
          exact h.modify p Conn.alike_markClosed (fun c hNot => by cases hNot) fun c => rfl
      | false =>
          obtain ⟨hKnown, hUnclosed⟩ := Bool.or_eq_false_iff.1 hDone
          obtain ⟨hUs, hOpen, sock, hSock⟩ := h.holds hGet hKnown
          have hGoverns := h.settled p c sock hGet hSock.1 hUnclosed
          have hState : (sock.state != .uninitialized && sock.state != .destroy) = true := by simp [hSock.2, hGoverns.1]
          have hAdmits : w.ctx.admits (.close p) = true := by
            rw [Context.admits]
            exact stateIs_of_holds hSock hState
          obtain ⟨u, hRun, hCalled, hCalm'⟩ := h.cgo fatal hOpen hAdmits rfl (by simp)
          rw [if_neg Bool.false_ne_true, hUs]
          dsimp only
          rw [hRun]
          refine ⟨_, rfl, fun hAnswers => ?_, fun q => (hCalm' q).trans (hCalm u q)⟩
          refine hCalled.modify Conn.alike_markClosed (fun q hAsked => ⟨?_, fun c => rfl⟩) (fun c hNot => by cases hNot)
            (fun q c hGet' => ?_) hAnswers
          · exact Eq.symm hAsked
          · split_ifs
            · exact (List.append_nil _).symm
            · exact (List.append_nil _).symm

theorem Ok.waitForConnect (h : w.Ok env) (fatal : Nat → Nat → Bool) (p : Nat) (cancelled : Bool) :
    ∃ u, w.waitForConnect env fatal p cancelled = .ok u ∧ Good env w u := by
  unfold Socket.waitForConnect
  split
  · exact h.close fatal p
  · exact ⟨w, rfl, h.stay⟩

/-- One turn of `Read`. -/
theorem Ok.read (h : w.Ok env) (fatal : Nat → Nat → Bool) (p n : Nat) (late : Bool) :
    ∃ r u, w.read env fatal p n late = .ok (r, u) ∧ Good env w u := by
  unfold Socket.read
  cases hGet : w.heap p with
  | none => exact ⟨_, w, rfl, h.stay⟩
  | some c =>
      dsimp only
      have hTake : Good env w (w.modify p (Conn.take n)) := by
        refine ⟨fun _ => h.modify p (Conn.alike_take n) (fun c hNot => hNot) fun c => rfl, fun q => ?_⟩
        refine .of_modify rfl p (Conn.take n) rfl fun c => ⟨le_rfl, fun _ => ⟨rfl, rfl, rfl, rfl, rfl, fun hNone => ?_⟩⟩
        change c.readBuf.drop n = []
        rw [hNone, List.drop_nil]
      have hDrained : ∃ u, (w.modify p (Conn.take n)).readDrained env fatal c n = .ok u ∧ Good env w u := by
        unfold Socket.readDrained
        split_ifs
        · cases hUs : c.us with
          | none => exact ⟨_, rfl, hTake⟩
          | some us =>
              have hTracks := (h.tracks p c hGet).us
              have hKnown : c.destroyed = false := by
                by_contra hGone
                rw [eq_true_of_ne_false hGone, hUs] at hTracks
                cases hTracks
              obtain ⟨hSame, hOpen, sock, hSock⟩ := h.holds hGet hKnown
              obtain rfl : us = p := Option.some.inj (hUs.symm.trans hSame)
              have hState : (sock.state != .uninitialized) = true := by simp [hSock.2]
              have hAdmits : w.ctx.admits (.readDrained us) = true := by
                rw [Context.admits]
                exact stateIs_of_holds hSock hState
              have hOk := h.modify us (Conn.alike_take n) (fun c hNot => hNot) fun c => rfl
              obtain ⟨u, hRun, hGood⟩ := hOk.cgo_good fatal _ hOpen hAdmits rfl (by simp) (fun _ => rfl) fun _ => id
              exact ⟨u, hRun, hGood.ok, fun q => (hTake.calm q).trans (hGood.calm q)⟩
        · exact ⟨_, rfl, hTake⟩
      obtain ⟨u, hRun, hGood⟩ := hDrained
      rw [hRun]
      exact ⟨_, u, rfl, hGood⟩

/-- The bytes that `utp_write` takes are those that the library notes. -/
theorem writes_of_written (hSock : w.ctx.sockets p = some sock) (b : List UInt8) (q : Nat) :
    w.ctx.writes env (.writev p [b]) q = if q = p then b.take (w.written env p b).toNat else [] := by
  rw [Context.writes, written, hSock]
  simp [Utp.Conn.utpWrite]

/-- A turn of `Write` that gets to `utp_write`. -/
theorem Ok.write_passes (h : w.Ok env) (fatal : Nat → Nat → Bool) {b : List UInt8} {late : Bool} (hGet : w.heap p = some c)
    (hSome : b ≠ []) (hFailure : c.writeError late = none) : ∃ u sock, w.closed = false ∧ w.ctx.Holds p sock ∧
      Called env (.writev p [b]) w u ∧ (∀ q, Calm q w u) ∧ w.write env fatal p b late =
        .ok (((w.written env p b).toNat, none), u.modify p (Conn.wrote (b.take (w.written env p b).toNat))) := by
  have hKnown : c.destroyed = false := by
    by_contra hGone
    unfold Conn.writeError at hFailure
    rw [eq_true_of_ne_false hGone, if_pos rfl] at hFailure
    cases hErr : c.err <;> cases hClosed : c.closed <;> simp [hErr, hClosed] at hFailure
  obtain ⟨hUs, hOpen, sock, hSock⟩ := h.holds hGet hKnown
  have hResult : w.written env p b = ((w.ctx.enter p sock).utpWrite env b).1 := by
    rw [Socket.written, hSock.1]
  have hNonneg : ¬w.written env p b < 0 := by
    rw [hResult, not_lt]
    exact Utp.Conn.utpWrite_nonneg env b _
  have hAdmits : w.ctx.admits (.writev p [b]) = true := by
    rw [Context.admits]
    simp [Context.stateIs, hSock.1]
  obtain ⟨u, hRun, hCalled, hCalm⟩ := h.cgo fatal hOpen hAdmits rfl (by simp)
  refine ⟨u, sock, hOpen, hSock, hCalled, hCalm, ?_⟩
  unfold Socket.write
  rw [hGet]
  dsimp only
  rw [if_neg hSome, hFailure, hUs]
  dsimp only
  rw [if_neg hNonneg, hRun]
  rfl

/-- One turn of `Write`. -/
theorem Ok.write (h : w.Ok env) (fatal : Nat → Nat → Bool) (p : Nat) (b : List UInt8) (late : Bool) :
    ∃ r u, w.write env fatal p b late = .ok (r, u) ∧ Good env w u := by
  cases hGet : w.heap p with
  | none =>
      refine ⟨(0, none), w, ?_, h.stay⟩
      rw [Socket.write, hGet]
  | some c =>
      by_cases hSome : b = []
      · refine ⟨(0, none), w, ?_, h.stay⟩
        rw [Socket.write, hGet]
        exact if_pos hSome
      · cases hFailure : c.writeError late with
        | some failure =>
            refine ⟨(0, some failure), w, ?_, h.stay⟩
            rw [Socket.write, hGet]
            dsimp only
            rw [if_neg hSome, hFailure]
        | none =>
            obtain ⟨u, sock, -, hSock, hCalled, hCalm, hRun⟩ := h.write_passes fatal hGet hSome hFailure
            refine ⟨_, _, hRun, fun hAnswers => ?_, fun q => (hCalm q).trans ?_⟩
            · refine hCalled.modify (Conn.alike_wrote _) (fun q hAsked => False.elim hAsked) (fun c hNot => hNot)
                (fun q c hGet' => ?_) hAnswers
              rw [writes_of_written hSock.1]
              split_ifs
              · rfl
              · exact (List.append_nil _).symm
            · exact .of_modify rfl p _ rfl fun c => ⟨le_rfl, fun _ => ⟨rfl, rfl, rfl, rfl, rfl, id⟩⟩

theorem Ok.setWriteBufferLen (h : w.Ok env) (fatal : Nat → Nat → Bool) (p : Nat) {len : Int} (hLen : 1 ≤ len)
    (hThere : ∀ c, w.heap p = some c → c.destroyed = false) :
    ∃ u, w.setWriteBufferLen env fatal p len = .ok u ∧ Good env w u := by
  unfold Socket.setWriteBufferLen
  cases hGet : w.heap p with
  | none => exact ⟨w, rfl, h.stay⟩
  | some c =>
      obtain ⟨hUs, hOpen, sock, hSock⟩ := h.holds hGet (hThere c hGet)
      have hAdmits : w.ctx.admits (.setsockopt p .sndbuf len) = true := by
        rw [Context.admits]
        simp [Context.stateIs, hSock.1, Context.validOption, hLen]
      dsimp only
      rw [hUs]
      exact h.cgo_good fatal _ hOpen hAdmits rfl (by simp) (fun _ => rfl) fun _ => id

/-- What is changed beside the connections does not matter. -/
theorem Good.aside (h : Good env w u) (hEq : v = { u with
      backlog := v.backlog
      nonUtpReads := v.nonUtpReads
      gotUtp := v.gotUtp
      acksScheduled := v.acksScheduled }) (hBacklog : v.backlog.Sublist u.backlog) : Good env w v := by
  have hCtx : v.ctx = u.ctx := by rw [hEq]
  have hHeap : v.heap = u.heap := by rw [hEq]
  refine ⟨fun hAnswers => (h.ok ?_).aside hEq hBacklog, fun p => (h.calm p).trans (.of_heap hCtx hHeap)⟩
  unfold Socket.Answers at hAnswers ⊢
  rwa [hCtx] at hAnswers

/-- A message of a batch. -/
theorem Ok.message (h : w.Ok env) (fatal : Nat → Nat → Bool) (d : Datagram) (addr : PackedSockAddr) (last : Bool) :
    ∃ u, w.message env fatal d addr last = .ok u ∧ Good env w u := by
  have hProcess : w.closed = false → ∃ r, w.utpProcessUdp env fatal d addr = .ok r ∧ Good env w r.2 := by
    intro hOpen
    unfold Socket.utpProcessUdp
    split_ifs
    · exact ⟨_, rfl, h.stay⟩
    · obtain ⟨u, hRun, hGood⟩ :=
        h.cgo_good fatal (.processUdp d addr) hOpen rfl rfl (by simp) (fun _ => rfl) fun _ => id
      rw [hRun]
      exact ⟨_, rfl, hGood⟩
  unfold Socket.message
  cases hClosed : w.closed with
  | true => exact ⟨w, rfl, h.stay⟩
  | false =>
      obtain ⟨⟨utp, u⟩, hRun, hGood⟩ := hProcess hClosed
      rw [if_neg Bool.false_ne_true, hRun]
      refine ⟨_, rfl, hGood.aside ?_ ?_⟩
      · cases utp <;> cases last <;> dsimp only [onReadNonUtp, afterReceivingUtpMessages] <;> split_ifs <;> rfl
      · cases utp <;> cases last <;> dsimp only [onReadNonUtp, afterReceivingUtpMessages] <;> split_ifs <;>
          exact List.Sublist.refl _

theorem Ok.ackTimerFunc (h : w.Ok env) (fatal : Nat → Nat → Bool) : ∃ u, w.ackTimerFunc env fatal = .ok u ∧ Good env w u := by
  unfold Socket.ackTimerFunc
  split_ifs with hIdle
  · exact ⟨w, rfl, h.stay⟩
  · have hOpen : w.closed = false := by
      rw [← h.freed]
      cases hFreed : w.ctxFreed with
      | false => rfl
      | true => exact absurd (by simp [hFreed]) hIdle
    have hOk : Ok env { w with acksScheduled := false } := h.aside rfl (List.Sublist.refl _)
    obtain ⟨u, hRun, hGood⟩ :=
      hOk.cgo_good fatal .issueDeferredAcks hOpen rfl rfl (by simp) (fun _ => rfl) fun _ => id
    exact ⟨u, hRun, hGood.ok, fun p => .trans (.of_heap rfl rfl) (hGood.calm p)⟩

theorem Ok.timeoutCheckerTimerFunc (h : w.Ok env) (fatal : Nat → Nat → Bool) {order : List Nat}
    (hOrder : order.isPerm (w.ctx.utpSockets.map Prod.snd) = true) :
    ∃ u, w.timeoutCheckerTimerFunc env fatal order = .ok u ∧ Good env w u := by
  unfold Socket.timeoutCheckerTimerFunc
  cases hFreed : w.ctxFreed with
  | true => exact ⟨w, rfl, h.stay⟩
  | false =>
      have hOpen : w.closed = false := h.freed.symm.trans hFreed
      rw [if_neg Bool.false_ne_true]
      exact h.cgo_good fatal (.checkTimeouts order) hOpen hOrder rfl (by simp) (fun _ => rfl) fun _ => id

/-- The `Conn` of a socket that was dialled. -/
theorem Sound.newConn (h : v.Sound env n) (hOpen : v.closed = false) (hCount : v.ctx.allocated = n + 1)
    (hBlank : ∀ e ∈ v.ctx.logs n, e.isNotice = false) (hSock : v.ctx.Holds n sock) :
    (v.newConn n).Sound env v.ctx.allocated := by
  have hOther : ∀ p, p ≠ n → (v.newConn n).heap p = v.heap p := fun p hp => Function.update_of_ne hp ..
  have hHere : (v.newConn n).heap n = some (.ofSocket n) := Function.update_self ..
  have hSource : ∀ p c, (v.newConn n).heap p = some c → (p = n ∧ c = .ofSocket n) ∨ v.heap p = some c := by
    intro p c hGet
    by_cases hp : p = n
    · subst hp
      exact Or.inl ⟨rfl, Option.some.inj (hGet.symm.trans hHere)⟩
    · exact Or.inr ((hOther p hp).symm.trans hGet)
  refine ⟨h.freed, h.reach, h.plain, le_rfl, fun p => ?_, fun p => ?_, fun p c hGet => ?_, fun p c hGet hKnown => ?_,
    fun p c hGet hGone => ?_, h.backlog.1, fun p hMem => ?_⟩
  · rw [hCount]
    by_cases hp : p = n
    · subst hp
      simp [hHere]
    · rw [hOther p hp, h.born p]
      omega
  · change p ∈ n :: v.conns ↔ _
    rw [List.mem_cons, h.mapped p]
    by_cases hp : p = n
    · subst hp
      simp [hHere, Conn.ofSocket]
    · simp [hOther p hp, hp]
  · rcases hSource p c hGet with ⟨rfl, rfl⟩ | hOld
    · exact Conn.tracks_ofSocket p hBlank
    · exact h.tracks p c hOld
  · rcases hSource p c hGet with ⟨rfl, rfl⟩ | hOld
    · exact ⟨hOpen, sock, hSock⟩
    · exact h.known p c hOld hKnown
  · rcases hSource p c hGet with ⟨rfl, rfl⟩ | hOld
    · cases hGone
    · exact h.gone p c hOld hGone
  · exact (h.backlog.2 p hMem).trans_le h.count

/-- `DialContext` up to its first wait. -/
theorem Ok.dial (h : w.Ok env) (fatal : Nat → Nat → Bool) (addr : PackedSockAddr) (draws : Nat) :
    (∃ u, w.dial env fatal addr draws = .ok u ∧ Good env w u) ∨ w.dial env fatal addr draws = .error .spins := by
  unfold Socket.dial
  by_cases hDone : w.closed = true
  · rw [if_pos hDone]
    exact Or.inl ⟨w, rfl, h.stay⟩
  · have hOpen : w.closed = false := eq_false_of_ne_true hDone
    have hNew : w.ctx.logs w.ctx.allocated = [] := (h.reach hOpen).fresh _ le_rfl
    have hCreate : w.ctx.step env .createSocket = some w.ctx.create := Context.step_of_admits rfl rfl
    have hBlank : w.ctx.create.logs w.ctx.allocated = [] := Function.update_self ..
    have hQuiet : Standing.unknown.listens (w.ctx.create.logs w.ctx.allocated) = some .unknown := by rw [hBlank]; rfl
    obtain ⟨u, hRun, hServed⟩ := h.serve fatal hOpen hCreate (.silent rfl hNew hQuiet)
    have hAbsent : u.heap w.ctx.allocated = none := hServed.absent hQuiet
    have hRest := hServed.rest
    have hCtx : u.ctx = w.ctx.create := by rw [hRest]
    have hOpen' : u.closed = false := by rwa [hRest]
    have hSound := hServed.sound h.toSound hOpen hCreate (Nat.le_succ _) (fun hSome => absurd hAbsent hSome)
    rw [hAbsent, Option.isSome_none, if_neg Bool.false_ne_true] at hSound
    have hWritten : ∀ p c, u.heap p = some c → c.bytesWritten = writtenOf (u.ctx.logs p) := by
      intro p c hGet
      rw [hCtx, ← hServed.written h.toSound hOpen hCreate hNew h.written hGet]
      exact (List.append_nil _).symm
    have hSettled : ∀ p c sock, u.heap p = some c → u.ctx.sockets p = some sock → c.Governs sock := by
      intro p c sock hGet hSock
      exact hServed.settled h.toSound hOpen hCreate h.settled (fun hSome => absurd hAbsent hSome) id hGet (hCtx ▸ hSock)
    have hCalm := fun p => hServed.calm (p := p) h.toSound hOpen hCreate
    have hAdmits : u.ctx.admits (.connect w.ctx.allocated addr draws) = true := by
      rw [hCtx, Context.admits, Context.stateIs, Context.create]
      simp [utpCreateSocket]
    rw [if_neg hDone, hRun]
    change (∃ v, (u.cgo env fatal (.connect w.ctx.allocated addr draws)).map (Socket.newConn w.ctx.allocated) = .ok v ∧ _) ∨ _
    cases hDial : u.ctx.perform1 env (.connect w.ctx.allocated addr draws) with
    | none =>
        refine Or.inr ?_
        change (u.cgo env fatal (.connect w.ctx.allocated addr draws)).map (Socket.newConn w.ctx.allocated) = _
        unfold Socket.cgo
        rw [if_neg (by simp [hSound.freed, hOpen', hAdmits]), hDial]
        rfl
    | some ctx =>
        have hStep := Context.step_of_admits hAdmits hDial
        obtain ⟨hSilent, sock, hSock, hState, hRequested, hShut⟩ := Context.news_dialled (hSound.reach hOpen') hStep
        have hCount : ctx.allocated = w.ctx.allocated + 1 := by
          rw [Context.allocated_connect hStep, hCtx]
          rfl
        have hLog : u.ctx.logs w.ctx.allocated = [] := hCtx ▸ hBlank
        obtain ⟨v, hRun', hServed'⟩ := hSound.serve fatal hOpen' hStep (.silent hCount hLog hSilent)
        have hAbsent' : v.heap w.ctx.allocated = none := hServed'.absent hSilent
        have hCtx' : v.ctx = ctx := by rw [hServed'.rest]
        have hSound' := hServed'.sound hSound hOpen' hStep (Context.allocated_connect hStep).ge
          (fun hSome => absurd hAbsent' hSome)
        rw [hAbsent', Option.isSome_none, if_neg Bool.false_ne_true] at hSound'
        obtain ⟨before, after, hPrivate, ⟨hEq, -⟩ | ⟨-, hBad⟩⟩ := Standing.of_listens_unknown hSilent
        · subst hCtx'
          have hHere : (v.newConn w.ctx.allocated).heap w.ctx.allocated = some (.ofSocket w.ctx.allocated) :=
            Function.update_self ..
          have hOther : ∀ p, p ≠ w.ctx.allocated → (v.newConn w.ctx.allocated).heap p = v.heap p := fun p hp =>
            Function.update_of_ne hp ..
          have hFirst : writtenOf (v.ctx.logs w.ctx.allocated) = [] := by
            rw [(hSound.reach hOpen').written_step hStep, hLog]
            rfl
          rw [hRun']
          refine Or.inl ⟨_, rfl, fun _ => ⟨?_, fun p c hGet => ?_, fun p c sock' hGet hSock' => ?_⟩, fun p => ?_⟩
          · exact hSound'.newConn (by rwa [hServed'.rest]) hCount (fun e he => (hPrivate e (hEq ▸ he)).1) hSock
          · by_cases hp : p = w.ctx.allocated
            · subst hp
              rw [← Option.some.inj (hHere.symm.trans hGet)]
              exact hFirst.symm
            · have hOld := (hOther p hp).symm.trans hGet
              have hBytes := hServed'.written hSound hOpen' hStep hLog hWritten hOld
              exact (List.append_nil _).symm.trans hBytes
          · by_cases hp : p = w.ctx.allocated
            · subst hp
              cases Option.some.inj (hSock.1.symm.trans hSock')
              exact fun _ => ⟨by rw [hState]; decide, hRequested, hShut⟩
            · have hOld := (hOther p hp).symm.trans hGet
              exact hServed'.settled hSound hOpen' hStep hSettled (fun hSome => absurd hAbsent' hSome)
                (fun hAsked => hp (Eq.symm hAsked)) hOld hSock'
          · refine (hCalm p).trans ((hServed'.calm hSound hOpen' hStep).trans fun c hGet => ?_)
            have hp : p ≠ w.ctx.allocated := by
              rintro rfl
              exact absurd (hGet.symm.trans hAbsent') (by simp)
            exact ⟨c, (hOther p hp).trans hGet, le_rfl, fun _ => ⟨.refl c, fun sock hSock => ⟨sock, hSock, id, id⟩⟩⟩
        · exact absurd hBad Standing.listens_ne_unknown

/-- `Socket.Close` tells every connection that it is at its end. -/
theorem Ok.closeLocked (h : w.Ok env) (fatal : Nat → Nat → Bool) {order : List Nat}
    (hOrder : order.isPerm (w.ctx.utpSockets.map Prod.snd) = true) :
    ∃ u, w.closeLocked fatal order = .ok u ∧ Good env w u := by
  unfold Socket.closeLocked
  by_cases hDone : w.closed = true
  · rw [if_pos hDone]
    exact ⟨w, rfl, h.stay⟩
  · have hClosed : w.closed = false := eq_false_of_ne_true hDone
    have hReach := h.reach hClosed
    have hLive : ∀ p sock, w.ctx.sockets p = some sock → w.ctx.Holds p sock := by
      intro p sock hSock
      obtain ⟨c, -, -, hHolds⟩ := h.conn hClosed hSock
      exact hHolds
    have hVisited : ∀ p sock, w.ctx.sockets p = some sock → p ∈ order := by
      intro p sock hSock
      have hListed := hReach.ok.listed p sock (hLive p sock hSock)
      exact (List.isPerm_iff.1 hOrder).mem_iff.2 (List.mem_map.2 ⟨_, hListed, rfl⟩)
    have hNews := fun p => Context.news_destroy order hReach.ok hLive p
    have hLog : ∀ p c, w.heap p = some c → (w.ctx.utpDestroy order).logs p =
        w.ctx.logs p ++ if c.destroyed then [] else [.onStateChange .destroying] := by
      intro p c hGet
      rw [(hNews p).2.1]
      cases hGone : c.destroyed with
      | true => rw [h.gone p c hGet hGone, if_neg (by simp), if_pos rfl]
      | false =>
          obtain ⟨-, -, sock, hSock⟩ := h.holds hGet hGone
          rw [if_pos ⟨hVisited p sock hSock.1, by rw [hSock.1]; simp⟩, if_neg Bool.false_ne_true]
    have hSpeaks : ∀ p c, w.heap p = some c → Speaks w.ctx (w.ctx.utpDestroy order) p c := by
      intro p c hGet
      refine ⟨_, hLog p c hGet, fun hGone => by rw [if_pos hGone], fun hKnown => ⟨.gone, ?_⟩⟩
      rw [if_neg (by simp [hKnown])]
      rfl
    obtain ⟨u, hRun, hServed⟩ := served_replay fatal (w := { w with ctx := w.ctx.utpDestroy order }) hClosed h.mapped h.born
      h.tracks hSpeaks (.none (hNews 0).2.2)
    have hRest := hServed.rest
    have hCtx : u.ctx = w.ctx.utpDestroy order := by rw [hRest]
    have hNew : ∀ p c', u.heap p = some c' → ∃ c, w.heap p = some c ∧ c'.destroyed = true ∧
        c'.bytesWritten = c.bytesWritten ∧ c'.Tracks p (u.ctx.logs p) := by
      intro p c' hGet'
      by_cases hOld : p < w.ctx.allocated
      · obtain ⟨c, hGet⟩ := Option.isSome_iff_exists.1 ((h.born p).2 hOld)
        obtain ⟨c₁, events, hGet₁, hTold⟩ := hServed.told p c hGet
        cases Option.some.inj (hGet'.symm.trans hGet₁)
        refine ⟨c, hGet, hTold.tracks.gone.2 ?_, hTold.heard.bytesWritten, hCtx ▸ hTold.tracks⟩
        change _ ∈ (w.ctx.utpDestroy order).logs p
        rw [hLog p c hGet]
        split_ifs with hGone
        · exact List.mem_append_left _ ((h.tracks p c hGet).gone.1 hGone)
        · simp
      · obtain ⟨-, hMore⟩ := hServed.others p (Nat.le_of_not_lt hOld) (by rw [hGet']; simp)
        exact absurd ((hNews 0).2.2.symm.trans hMore) (Nat.succ_ne_self _).symm
    have hNone : ∀ p c', u.heap p = some c' → u.ctx.sockets p = none := by
      intro p c' hGet'
      rw [hCtx, (hNews p).1]
      cases hSock : w.ctx.sockets p with
      | none => exact ite_self none
      | some sock => exact if_pos (hVisited p sock hSock)
    have hBorn : ∀ p, (u.heap p).isSome = true ↔ p < w.ctx.allocated := by
      intro p
      rw [← h.born p, Option.isSome_iff_exists, Option.isSome_iff_exists]
      refine ⟨fun ⟨c', hGet'⟩ => (hNew p c' hGet').imp fun c hc => hc.1, fun ⟨c, hGet⟩ => ?_⟩
      obtain ⟨c', events, hGet', -⟩ := hServed.told p c hGet
      exact ⟨c', hGet'⟩
    have hBacklog : u.backlog = w.backlog := by
      rcases hServed.offered with ⟨-, hSame, -⟩ | ⟨c, hGet, -⟩
      · exact hSame
      · exact absurd ((hBorn _).1 (by rw [hGet]; rfl)) (Nat.lt_irrefl _)
    have hCount : u.ctx.allocated = w.ctx.allocated := by
      rw [hCtx]
      exact (hNews 0).2.2
    rw [if_neg hDone, hRun]
    refine ⟨_, rfl, fun _ => ⟨⟨rfl, (fun hOpen => by cases hOpen), (fun hOpen => by cases hOpen), le_rfl, fun p => ?_,
      hServed.mapped, fun p c' hGet' => ?_, fun p c' hGet' hKnown => ?_, fun p c' hGet' _ => hNone p c' hGet', ?_⟩,
      fun p c' hGet' => ?_, fun p c' sock hGet' hSock => ?_⟩, fun p c hGet => ?_⟩
    · exact (hBorn p).trans (by rw [← hCount])
    · obtain ⟨c, -, -, -, hTracks⟩ := hNew p c' hGet'
      exact hTracks
    · obtain ⟨c, -, hGone, -⟩ := hNew p c' hGet'
      exact absurd (hKnown.symm.trans hGone) Bool.false_ne_true
    · refine ⟨(congrArg List.length hBacklog).trans_le h.backlog.1, fun p hMem => ?_⟩
      exact (h.backlog.2 p (hBacklog ▸ hMem)).trans_eq hCount.symm
    · obtain ⟨c, hGet, -, hWritten, -⟩ := hNew p c' hGet'
      change _ = writtenOf (u.ctx.logs p)
      rw [hWritten, h.written p c hGet, hCtx, hLog p c hGet]
      split_ifs <;> simp [writtenOf, Event.written]
    · exact absurd (hSock.symm.trans (hNone p c' hGet')) (by simp)
    · obtain ⟨c', events, hGet', hTold⟩ := hServed.told p c hGet
      refine ⟨c', hGet', hTold.heard.broadcasts, fun hEq => ⟨(hTold.heard.same hEq).symm ▸ .refl c, fun sock hSock => ?_⟩⟩
      obtain ⟨c₀, hGet₀, hGone, -⟩ := hNew p c' hGet'
      rw [hTold.heard.same hEq] at hGone
      exact absurd (hSock.1.symm.trans (h.gone p c hGet hGone)) (by simp)

/-- A section that is allowed comes to its end, but for the search of an id when dialling. -/
theorem Ok.step (h : w.Ok env) (fatal : Nat → Nat → Bool) {action : Action} (hAllows : w.Allows action) :
    (∃ u, w.step env fatal action = .ok u ∧ Good env w u) ∨
      (w.step env fatal action = .error .spins ∧ ∃ addr draws, action = .dial addr draws) := by
  cases action with
  | dial addr draws => exact (h.dial fatal addr draws).imp_right fun hSpins => ⟨hSpins, addr, draws, rfl⟩
  | waitForConnect p cancelled => exact Or.inl (h.waitForConnect fatal p cancelled)
  | accept => exact Or.inl ⟨_, rfl, h.stay.aside rfl (List.tail_sublist _)⟩
  | close p => exact Or.inl (h.close fatal p)
  | read p n late =>
      obtain ⟨r, u, hRun, hGood⟩ := h.read fatal p n late
      exact Or.inl ⟨u, congrArg (Except.map Prod.snd) hRun, hGood⟩
  | write p b late =>
      obtain ⟨r, u, hRun, hGood⟩ := h.write fatal p b late
      exact Or.inl ⟨u, congrArg (Except.map Prod.snd) hRun, hGood⟩
  | setDeadline p =>
      refine Or.inl ⟨_, rfl, fun _ => ?_, fun q => ?_⟩
      · exact h.modify p Conn.alike_broadcast (fun c hNot => hNot) fun c => rfl
      · exact .of_modify rfl p Conn.broadcast rfl fun c => ⟨Nat.le_succ _, fun hEq => absurd hEq (Nat.succ_ne_self _)⟩
  | setWriteBufferLen p len => exact Or.inl (h.setWriteBufferLen fatal p hAllows.1 hAllows.2)
  | setOption opt val =>
      have hOpen : w.closed = false := h.freed.symm.trans hAllows.1
      exact Or.inl (h.cgo_good fatal _ hOpen hAllows.2 rfl (by simp) (fun _ => rfl) fun _ => id)
  | message d addr last => exact Or.inl (h.message fatal d addr last)
  | readFrom => exact Or.inl ⟨_, rfl, h.stay.aside rfl (List.Sublist.refl _)⟩
  | ackTimer => exact Or.inl (h.ackTimerFunc fatal)
  | timeoutChecker order => exact Or.inl (h.timeoutCheckerTimerFunc fatal hAllows)
  | closeSocket order => exact Or.inl (h.closeLocked fatal hAllows)

theorem ok_newSocket (env : Env) : newSocket.Ok env := by
  refine ⟨⟨rfl, fun _ => .init true false, fun _ => rfl, le_rfl, fun p => ?_, fun p => ?_, ?_, ?_, ?_, ?_⟩, ?_, ?_⟩
  · exact ⟨(fun hSome => by cases hSome), fun hLess => absurd hLess (Nat.not_lt_zero p)⟩
  · exact ⟨fun hMem => (List.not_mem_nil hMem).elim, fun ⟨c, hGet, _⟩ => by cases hGet⟩
  · exact fun p c hGet => by cases hGet
  · exact fun p c hGet => by cases hGet
  · exact fun p c hGet => by cases hGet
  · exact ⟨Nat.zero_le _, fun p hMem => (List.not_mem_nil hMem).elim⟩
  · exact fun p c hGet => by cases hGet
  · exact fun p c sock hGet => by cases hGet

theorem Reachable.ok {fatal : Nat → Nat → Bool} (hReach : w.Reachable env fatal) : w.Ok env := by
  induction hReach with
  | init => exact ok_newSocket env
  | next action hReach hAllows hStep hAnswers ih =>
      rcases ih.step fatal hAllows with ⟨u, hRun, hGood⟩ | ⟨hSpins, -⟩
      · cases hRun.symm.trans hStep
        exact hGood.ok hAnswers
      · cases hSpins.symm.trans hStep

end Socket

end Wrapper

end Utp
