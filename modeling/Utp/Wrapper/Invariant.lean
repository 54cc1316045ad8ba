import Utp.Wrapper.Replay

/-! What always holds of a socket of the wrapper, and how the operations of the library keep it. -/
namespace Utp

theorem Context.Turn.onConnectSet {env : Env} {op : Op} {c c' : Context} (h : Context.Turn env op c c') (hOk : c.Ok) :
    c'.onConnectSet = c.onConnectSet := by
  have hLeave : ∀ (p : Nat) (s : Conn) (c : Context), (c.leave p s).onConnectSet = c.onConnectSet := by
    intro p s c
    obtain ⟨acks, ida, hEq, -⟩ := Context.leave_eq p s c
    rw [hEq]
  cases h with
  | run p sock cause s' hSock hCause hRan => exact hLeave ..
  | option p sock opt val hSock => exact hLeave ..
  | create => rfl
  | dial p sock addr seed draws hOp hSock hNew hSeed hFree => exact hLeave ..
  | accept p sock d addr hOp hVersion hType hSock hNew hFree => exact hLeave ..
  | delete p sock hSock hState =>
      obtain ⟨acks, ida, hEq, -, -⟩ := hOk.delete_eq hSock
      rw [hEq]
  | cache p sock hSock => rfl
  | aside currentMs tick lastCheck targetDelay optSndbuf optRcvbuf rstInfo log => rfl

/-- The callbacks that are set do not change. -/
theorem Context.onConnectSet_step {env : Env} {op : Op} {c c' : Context} (hReach : c.Reachable env)
    (hStep : c.step env op = some c') : c'.onConnectSet = c.onConnectSet := by
  have hTurns := Context.turns_of_step hReach.ok hStep
  clear hStep
  induction hTurns with
  | refl => rfl
  | tail hBefore hTurn ih => exact (hTurn.onConnectSet (Context.Turns.ok hBefore hReach.ok)).trans ih

namespace Wrapper

/-- The user has not asked for the end of the socket, which is not at its end. -/
def Conn.Governs (c : Conn) (sock : Utp.Socket) : Prop :=
  c.closed = false → sock.state ≠ .destroy ∧ sock.closeRequested = false ∧ sock.rcv.readShutdown = false

namespace Socket

variable {env : Env} {fatal : Nat → Nat → Bool} {op : Op} {n : Nat} {w u : Socket} {ctx : Context} {p : Nat} {c c' : Conn}
  {events : List Event}

/-- The wrapper and the library agree on the first `n` connections, which are those that the program
knows. -/
structure Sound (env : Env) (n : Nat) (w : Socket) : Prop where
  freed : w.ctxFreed = w.closed
  reach : w.closed = false → w.ctx.Reachable env
  plain : w.closed = false → w.ctx.onConnectSet = false
  count : n ≤ w.ctx.allocated
  born : ∀ p, (w.heap p).isSome = true ↔ p < n
  mapped : w.Mapped
  tracks : ∀ p c, w.heap p = some c → c.Tracks p (w.ctx.logs p)
  known : ∀ p c, w.heap p = some c → c.destroyed = false → w.closed = false ∧ ∃ sock, w.ctx.Holds p sock
  gone : ∀ p c, w.heap p = some c → c.destroyed = true → w.ctx.sockets p = none
  backlog : w.backlog.length ≤ backlogSize ∧ ∀ p ∈ w.backlog, p < n

theorem Sound.lt_of_some (h : w.Sound env n) (hGet : w.heap p = some c) : p < n := (h.born p).1 (by rw [hGet]; rfl)

/-- What an operation makes the connections tell. -/
theorem Sound.speaks (h : w.Sound env n) (hOpen : w.closed = false) (hStep : w.ctx.step env op = some ctx)
    (hGet : w.heap p = some c) : Speaks w.ctx ctx p c := by
  have hReach := h.reach hOpen
  cases hGone : c.destroyed with
  | true =>
      have hOld := (h.lt_of_some hGet).trans_le h.count
      obtain ⟨hLog, -⟩ := Context.news_gone hReach hOld (h.gone p c hGet hGone) hStep
      refine ⟨[], hLog.trans (List.append_nil _).symm, fun _ => rfl, fun hNot => ?_⟩
      rw [hGone] at hNot
      cases hNot
  | false =>
      obtain ⟨-, sock, hSock⟩ := h.known p c hGet hGone
      obtain ⟨events, hNews⟩ := Context.news_known hReach hSock hStep
      refine ⟨events, hNews.log, fun hNot => ?_, fun _ => ?_⟩
      · rw [hGone] at hNot
        cases hNot
      · exact hNews.heard.elim (fun hEnd => ⟨_, hEnd.1⟩) fun hStill => ⟨_, hStill.1⟩

/-- An operation of the library does not make the wrapper panic. -/
theorem Sound.serve (h : w.Sound env n) (fatal : Nat → Nat → Bool) (hOpen : w.closed = false)
    (hStep : w.ctx.step env op = some ctx) (hOffers : Offers w.ctx ctx n) :
    ∃ u, w.cgo env fatal op = .ok u ∧ Served w.ctx n { w with ctx := ctx } u := by
  have hSpeaks : ∀ p c, w.heap p = some c → Speaks w.ctx ctx p c := fun p c hGet => h.speaks hOpen hStep hGet
  obtain ⟨u, hRun, hServed⟩ :=
    served_replay fatal (w := { w with ctx := ctx }) hOpen h.mapped h.born h.tracks hSpeaks hOffers
  refine ⟨u, ?_, hServed⟩
  unfold Context.step at hStep
  split_ifs at hStep with hAdmit
  unfold cgo
  rw [if_neg (by simp [h.freed, hOpen, hAdmit]), hStep]
  exact hRun

/-- What an operation of the library has meant for one connection. -/
inductive Fate (events : List Event) (p : Nat) (c c' : Conn) (before after : Context) : Prop where
  | gone (hBefore : c.destroyed = true) (hAfter : c'.destroyed = true) (hNone : after.sockets p = none)
  | ended (hBefore : c.destroyed = false) (hAfter : c'.destroyed = true) (hNone : after.sockets p = none)
  | goesOn (sock sock' : Utp.Socket) (hBefore : c.destroyed = false) (hAfter : c'.destroyed = false)
      (hSock : before.Holds p sock) (hSock' : after.Holds p sock')
      (hTells : Tells events (before.enter p sock) (after.enter p sock'))

theorem Sound.fate (h : w.Sound env n) (hOpen : w.closed = false) (hStep : w.ctx.step env op = some ctx)
    (hGet : w.heap p = some c) (hTold : Told w.ctx ctx p c c' events) : Fate events p c c' w.ctx ctx := by
  have hReach := h.reach hOpen
  cases hGone : c.destroyed with
  | true =>
      have hOld := (h.lt_of_some hGet).trans_le h.count
      obtain ⟨hLog, hNone⟩ := Context.news_gone hReach hOld (h.gone p c hGet hGone) hStep
      refine .gone hGone (hTold.tracks.gone.2 ?_) hNone
      rw [hLog]
      exact (h.tracks p c hGet).gone.1 hGone
  | false =>
      obtain ⟨-, sock, hSock⟩ := h.known p c hGet hGone
      obtain ⟨events', hNews⟩ := Context.news_known hReach hSock hStep
      obtain rfl : events = events' := List.append_cancel_left (hTold.log.symm.trans hNews.log)
      have hListens := hTold.known hGone
      rcases hNews.heard with ⟨hEnd, hNone⟩ | ⟨hStill, sock', hSock', hTells⟩
      · refine .ended hGone ?_ hNone
        rw [hEnd] at hListens
        cases hDone : c'.destroyed with
        | true => rfl
        | false => simp [hDone] at hListens
      · refine .goesOn sock sock' hGone ?_ hSock hSock' hTells
        rw [hStill] at hListens
        cases hDone : c'.destroyed with
        | true => simp [hDone] at hListens
        | false => rfl

/-- Where a `Conn` comes from: it was there before, or was created for a SYN. -/
theorem Served.source (hServed : Served w.ctx n { w with ctx := ctx } u) (h : w.Sound env n) (hGet' : u.heap p = some c') :
    (∃ c events, w.heap p = some c ∧ Told w.ctx ctx p c c' events) ∨
      (p = n ∧ ctx.allocated = n + 1 ∧ c'.Tracks n (ctx.logs n) ∧ Fresh n { w with ctx := ctx } u c') := by
  by_cases hOld : p < n
  · obtain ⟨c, hGet⟩ := Option.isSome_iff_exists.1 ((h.born p).2 hOld)
    obtain ⟨c₁, events, hGet₁, hTold⟩ := hServed.told p c hGet
    cases Option.some.inj (hGet'.symm.trans hGet₁)
    exact Or.inl ⟨c, events, hGet, hTold⟩
  · obtain ⟨rfl, hMore⟩ := hServed.others p (Nat.le_of_not_lt hOld) (by rw [hGet']; simp)
    rcases hServed.offered with ⟨hNone, -⟩ | ⟨c₁, hGet₁, hTracks, hFresh, -⟩
    · rw [hNone] at hGet'
      cases hGet'
    · cases Option.some.inj (hGet'.symm.trans hGet₁)
      exact Or.inr ⟨rfl, hMore, hTracks, hFresh⟩

/-- An operation of the library keeps the wrapper and the library in agreement. -/
theorem Served.sound (hServed : Served w.ctx n { w with ctx := ctx } u) (h : w.Sound env n) (hOpen : w.closed = false)
    (hStep : w.ctx.step env op = some ctx) (hCount : w.ctx.allocated ≤ ctx.allocated)
    (hWelcome : u.heap n ≠ none → w.ctx.allocated = n ∧ w.ctx.Welcomed env ctx) :
    u.Sound env (if (u.heap n).isSome then n + 1 else n) := by
  have hReach := h.reach hOpen
  have hRest := hServed.rest
  have hCtx : u.ctx = ctx := by rw [hRest]
  have hClosed : u.closed = false := by rwa [hRest]
  have hStays : ∀ p, p < n → (u.heap p).isSome = true := by
    intro p hOld
    obtain ⟨c, hGet⟩ := Option.isSome_iff_exists.1 ((h.born p).2 hOld)
    obtain ⟨c', events, hGet', -⟩ := hServed.told p c hGet
    rw [hGet']
    rfl
  refine ⟨?_, fun _ => ?_, ?_, ?_, fun p => ?_, hServed.mapped, fun p c' hGet' => ?_,
    fun p c' hGet' hKnown => ⟨hClosed, ?_⟩, fun p c' hGet' hGone => ?_, ?_⟩
  · rw [hRest]
    exact h.freed
  · rw [hCtx]
    exact .next op hReach hStep
  · rw [hCtx]
    exact fun _ => (Context.onConnectSet_step hReach hStep).trans (h.plain hOpen)
  · rw [hCtx]
    split_ifs with hSome
    · exact (hServed.others n le_rfl (Option.isSome_iff_ne_none.1 hSome)).2.ge
    · exact h.count.trans hCount
  · rcases lt_trichotomy p n with hLess | rfl | hMore
    · simp only [hStays p hLess, true_iff]
      split_ifs <;> omega
    · split_ifs with hSome <;> simp [hSome]
    · have hNone : (u.heap p).isSome = false := by
        by_contra hSome
        have hHere := (hServed.others p hMore.le (Option.isSome_iff_ne_none.1 (eq_true_of_ne_false hSome))).1
        omega
      rw [hNone]
      split_ifs <;> simp <;> omega
  · rw [hCtx]
    rcases hServed.source h hGet' with ⟨c, events, -, hTold⟩ | ⟨rfl, -, hTracks, -⟩
    · exact hTold.tracks
    · exact hTracks
  · rw [hCtx]
    rcases hServed.source h hGet' with ⟨c, events, hGet, hTold⟩ | ⟨rfl, -⟩
    · cases h.fate hOpen hStep hGet hTold with
      | gone hBefore hAfter hNone => exact absurd (hKnown.symm.trans hAfter) (by simp)
      | ended hBefore hAfter hNone => exact absurd (hKnown.symm.trans hAfter) (by simp)
      | goesOn sock sock' hBefore hAfter hSock hSock' hTells => exact ⟨sock', hSock'⟩
    · obtain ⟨hHere, hWelcomed⟩ := hWelcome (by rw [hGet']; simp)
      obtain ⟨sock, tick, hSock, -⟩ := hWelcomed.holds
      exact ⟨sock, hHere ▸ hSock⟩
  · rw [hCtx]
    rcases hServed.source h hGet' with ⟨c, events, hGet, hTold⟩ | ⟨-, -, -, hFresh⟩
    · cases h.fate hOpen hStep hGet hTold with
      | gone hBefore hAfter hNone => exact hNone
      | ended hBefore hAfter hNone => exact hNone
      | goesOn sock sock' hBefore hAfter hSock hSock' hTells => exact absurd (hGone.symm.trans hAfter) (by simp)
    · exact absurd (hGone.symm.trans hFresh.known) (by simp)
  · have hOld : ∀ p ∈ w.backlog, p < if (u.heap n).isSome then n + 1 else n := by
      intro p hMem
      have hLt := h.backlog.2 p hMem
      split_ifs <;> omega
    rcases hServed.offered with ⟨-, hSame, -⟩ | ⟨c, hGet, -, hFresh, -⟩
    · rw [hSame]
      exact ⟨h.backlog.1, hOld⟩
    · rcases hFresh.backlog with ⟨hRoom, -, hMore⟩ | ⟨-, -, hSame⟩
      · rw [hMore]
        refine ⟨?_, fun p hMem => ?_⟩
        · rw [List.length_append]
          exact hRoom
        · rcases List.mem_append.1 hMem with hBefore | hLast
          · exact hOld p hBefore
          · rw [List.mem_singleton.1 hLast, hGet]
            simp
      · rw [hSame]
        exact ⟨h.backlog.1, hOld⟩

/-- The library counts the bytes that the wrapper has passed on. -/
theorem Served.written (hServed : Served w.ctx n { w with ctx := ctx } u) (h : w.Sound env n) (hOpen : w.closed = false)
    (hStep : w.ctx.step env op = some ctx) (hNew : w.ctx.logs n = [])
    (hWritten : ∀ p c, w.heap p = some c → c.bytesWritten = writtenOf (w.ctx.logs p)) (hGet' : u.heap p = some c') :
    c'.bytesWritten ++ w.ctx.writes env op p = writtenOf (ctx.logs p) := by
  rw [(h.reach hOpen).written_step hStep p]
  rcases hServed.source h hGet' with ⟨c, events, hGet, hTold⟩ | ⟨rfl, -, -, hFresh⟩
  · rw [hTold.heard.bytesWritten, hWritten p c hGet]
  · rw [hFresh.written, hNew]
    rfl

/-- A connection whose end was not asked for is not brought to it. -/
theorem Served.settled (hServed : Served w.ctx n { w with ctx := ctx } u) (h : w.Sound env n) (hOpen : w.closed = false)
    (hStep : w.ctx.step env op = some ctx)
    (hSettled : ∀ p c sock, w.heap p = some c → w.ctx.sockets p = some sock → c.Governs sock)
    (hWelcome : u.heap n ≠ none → w.ctx.allocated = n ∧ w.ctx.Welcomed env ctx ∧ w.Answers env u)
    (hNot : ¬op.asks p) {sock' : Utp.Socket} (hGet' : u.heap p = some c') (hSock' : ctx.sockets p = some sock') :
    c'.Governs sock' := by
  rcases hServed.source h hGet' with ⟨c, events, hGet, hTold⟩ | ⟨rfl, -, -, hFresh⟩
  · obtain ⟨sock, hSock, hSpared⟩ := Context.Sparing.step (h.reach hOpen).ok hStep hNot ((h.lt_of_some hGet).trans_le h.count) sock' hSock'
    intro hUnclosed
    rw [hTold.heard.closed] at hUnclosed
    obtain ⟨hState, hRequested, hShut⟩ := hSettled p c sock hGet hSock hUnclosed
    exact ⟨fun hDone => hState (hSpared.state hRequested hDone), hSpared.requested.trans hRequested, hSpared.shut.trans hShut⟩
  · obtain ⟨rfl, hWelcomed, hAnswers⟩ := hWelcome (by rw [hGet']; simp)
    obtain ⟨sock, tick, hSock, hFrom, hTo, hGoverns⟩ := hWelcomed.holds
    cases Option.some.inj (hSock'.symm.trans hSock.1)
    intro hUnclosed
    rcases hFresh.backlog with ⟨hRoom, -⟩ | ⟨-, hClosed, -⟩
    · refine hGoverns ((hAnswers tick hFrom ?_).trans (decide_eq_false (Nat.not_le.2 hRoom)))
      rwa [hServed.rest]
    · rw [hClosed] at hUnclosed
      cases hUnclosed

/-- What holds of every socket that a program can reach. -/
structure Ok (env : Env) (w : Socket) : Prop extends Sound env w.ctx.allocated w where
  written : ∀ p c, w.heap p = some c → c.bytesWritten = writtenOf (w.ctx.logs p)
  settled : ∀ p c sock, w.heap p = some c → w.ctx.sockets p = some sock → c.Governs sock

/-- What a call of the library has done. -/
structure Called (env : Env) (op : Op) (w u : Socket) : Prop where
  step : w.ctx.step env op = some u.ctx
  served : Served w.ctx w.ctx.allocated { w with ctx := u.ctx } u
  sound : u.Sound env u.ctx.allocated
  written : ∀ p c, u.heap p = some c → c.bytesWritten ++ w.ctx.writes env op p = writtenOf (u.ctx.logs p)
  settled : w.Answers env u → ∀ p c sock, ¬op.asks p → u.heap p = some c → u.ctx.sockets p = some sock → c.Governs sock

/-- An operation that returns, and that does not create a socket. -/
theorem Ok.called (h : w.Ok env) (fatal : Nat → Nat → Bool) (hOpen : w.closed = false) (hStep : w.ctx.step env op = some ctx)
    (hOp : op ≠ .createSocket) : ∃ u, w.cgo env fatal op = .ok u ∧ Called env op w u ∧ u.ctx = ctx := by
  have hNew : w.ctx.logs w.ctx.allocated = [] := (h.reach hOpen).fresh _ le_rfl
  have hMade := Context.allocated_step hStep hOp
  have hOffers : Offers w.ctx ctx w.ctx.allocated := by
    rcases hMade with hSame | ⟨hMore, hWelcomed⟩
    · exact .none hSame
    · exact .known hMore hNew hWelcomed.listens
  obtain ⟨u, hRun, hServed⟩ := h.serve fatal hOpen hStep hOffers
  have hCtx : u.ctx = ctx := by rw [hServed.rest]
  have hBorn : u.heap w.ctx.allocated ≠ none → ctx.allocated = w.ctx.allocated + 1 := fun hSome =>
    (hServed.others _ le_rfl hSome).2
  have hWelcome : u.heap w.ctx.allocated ≠ none → w.ctx.allocated = w.ctx.allocated ∧ w.ctx.Welcomed env ctx := by
    intro hSome
    rcases hMade with hSame | ⟨-, hWelcomed⟩
    · exact absurd (hSame.symm.trans (hBorn hSome)) (Nat.succ_ne_self _).symm
    · exact ⟨rfl, hWelcomed⟩
  have hCount : w.ctx.allocated ≤ ctx.allocated := by
    rcases hMade with hSame | ⟨hMore, -⟩ <;> omega
  have hSound := hServed.sound h.toSound hOpen hStep hCount hWelcome
  have hLast : (if (u.heap w.ctx.allocated).isSome then w.ctx.allocated + 1 else w.ctx.allocated) = ctx.allocated := by
    rcases hServed.offered with ⟨hNone, -, hSilent⟩ | ⟨c, hGet, -⟩
    · rw [hNone, Option.isSome_none, if_neg Bool.false_ne_true]
      rcases hMade with hSame | ⟨hMore, hWelcomed⟩
      · exact hSame.symm
      · have hBoth := hWelcomed.listens.symm.trans (hSilent hMore)
        cases hBoth
    · rw [hGet, Option.isSome_some, if_pos rfl]
      exact (hBorn (by rw [hGet]; simp)).symm
  rw [hLast] at hSound
  subst hCtx
  exact ⟨u, hRun, ⟨hStep, hServed, hSound, fun p c hGet => hServed.written h.toSound hOpen hStep hNew h.written hGet,
    fun hAnswers p c sock hNot hGet hSock =>
      hServed.settled h.toSound hOpen hStep h.settled (fun hSome => ⟨rfl, (hWelcome hSome).2, hAnswers⟩) hNot hGet hSock⟩, rfl⟩

/-- An operation that has written nothing, and with which the user has not asked for an end. -/
theorem Called.ok (h : Called env op w u) (hWrites : ∀ p, w.ctx.writes env op p = []) (hAsks : ∀ p, ¬op.asks p)
    (hAnswers : w.Answers env u) : u.Ok env where
  toSound := h.sound
  written p c hGet := by
    rw [← h.written p c hGet, hWrites p, List.append_nil]
  settled p c sock hGet hSock := h.settled hAnswers p c sock (hAsks p) hGet hSock

end Socket

end Wrapper

end Utp
