import Utp.Guarantees.Reliability
import Utp.Guarantees.Waiting
import Utp.Wrapper.Onward

/-! Two programs with one connection between them, from the bytes that are written at one end to those
that are read at the other. -/
namespace Utp

namespace Wrapper

namespace Socket

variable {env : Env} {fatal : Nat → Nat → Bool} {w u : Socket} {p : Nat} {log : List Event}

theorem Hears.of_append {more : List Event} {action : Action} (h : w.Hears (log ++ more) p action)
    (hSilent : ∀ e ∈ more, e = .onStateChange .destroying) : w.Hears log p action := by
  cases action with
  | message d addr last =>
      intro hOpen hDelivers
      refine (h hOpen hDelivers).of_append fun e hMem packet flags => ?_
      rw [hSilent e hMem]
      simp
  | _ => trivial

/-- A section in which the connection `p` hears its peer, whose record is `log`. -/
def Goes (env : Env) (fatal : Nat → Nat → Bool) (log : List Event) (p : Nat) (w u : Socket) : Prop :=
  ∃ action, w.Allows action ∧ w.step env fatal action = .ok u ∧ w.Answers env u ∧ w.Hears log p action

/-- The library is at `c`, or was when the wrapper was closed. -/
structure Mirrors (env : Env) (p : Nat) (w : Socket) (c : Context) : Prop where
  ok : w.Ok env
  same : w.closed = false → w.ctx = c
  log : ∃ more, w.ctx.logs p = c.logs p ++ more ∧ ∀ e ∈ more, e = .onStateChange .destroying

theorem Mirrors.of_ok (h : w.Ok env) (p : Nat) : Mirrors env p w w.ctx :=
  ⟨h, fun _ => rfl, [], (List.append_nil _).symm, List.forall_mem_nil _⟩

/-- A section of the wrapper is a sequence of operations of the library. -/
theorem Mirrors.step {c : Context} {more : List Event} (h : Mirrors env p w c) (hGoes : Goes env fatal (log ++ more) p w u)
    (hSilent : ∀ e ∈ more, e = .onStateChange .destroying) : ∃ c', c.Onward env log p c' ∧ Mirrors env p u c' := by
  obtain ⟨action, hAllows, hStep, hAnswers, hHears⟩ := hGoes
  have hOk : u.Ok env := (Later.calm (.single ⟨action, hAllows, hStep, hAnswers⟩) h.ok).1
  by_cases hClosing : ∃ order, action = .closeSocket order
  · obtain ⟨order, rfl⟩ := hClosing
    refine ⟨c, .refl, ?_⟩
    by_cases hDone : w.closed = true
    · have hStay : w.closeLocked fatal order = .ok w := if_pos hDone
      cases hStay.symm.trans hStep
      exact h
    · obtain ⟨hClosed, more', hLog, hLast⟩ := h.ok.logs_closeLocked hStep (eq_false_of_ne_true hDone) p
      refine ⟨hOk, fun hOpen => absurd (hClosed.symm.trans hOpen) (by simp), more', ?_, hLast⟩
      rwa [← h.same (eq_false_of_ne_true hDone)]
  · have hPasses := h.ok.passes hStep (hHears.of_append hSilent) fun order hEq => hClosing ⟨order, hEq⟩
    by_cases hDone : w.closed = true
    · have hFrozen := hPasses.frozen (h.ok.freed.trans hDone)
      refine ⟨c, .refl, hOk, fun hOpen => ?_, hFrozen ▸ h.log⟩
      exact absurd (hPasses.closed.symm.trans hOpen) (by simp [hDone])
    · have hOnward := hPasses.onward
      rw [h.same (eq_false_of_ne_true hDone)] at hOnward
      exact ⟨u.ctx, hOnward, .of_ok hOk p⟩

/-- Two programs with one connection between them. The first one has dialled, and the connection `q` of
the second one was created for its SYN. From then on both go on in any order, with any sections. -/
inductive Linked (envA envB : Env) (fatalA fatalB : Nat → Nat → Bool) (p q : Nat) : Socket → Socket → Prop where
  | opened (a₀ a₁ a b₀ b : Socket) (addrA addrB : PackedSockAddr) (draws : Nat) (syn : Wire) (flags : Nat)
      (beyond : Nat → UInt8) (last : Bool) (hDialler : a₀.Reachable envA fatalA) (hNumber : p = a₀.ctx.allocated)
      (hDial : a₀.step envA fatalA (.dial addrB draws) = .ok a₁) (hDialled : a₀.Answers envA a₁) (hMade : a₁.heap p ≠ none)
      (hAwaits : Relation.ReflTransGen (Goes envA fatalA [] p) a₁ a) (hSyn : .sendto syn flags ∈ a.ctx.logs p)
      (hAcceptor : b₀.Reachable envB fatalB) (hPeer : q = b₀.ctx.allocated)
      (hAccept : b₀.step envB fatalB (.message (syn.received beyond) addrA last) = .ok b) (hAnswers : b₀.Answers envB b)
      (hThere : ∃ d, b.heap q = some d ∧ d.destroyed = false) : Linked envA envB fatalA fatalB p q a b
  | left {a a' b : Socket} (hPrior : Linked envA envB fatalA fatalB p q a b)
      (hGoes : Goes envA fatalA (b.ctx.logs q) p a a') : Linked envA envB fatalA fatalB p q a' b
  | right {a b b' : Socket} (hPrior : Linked envA envB fatalA fatalB p q a b)
      (hGoes : Goes envB fatalB (a.ctx.logs p) q b b') : Linked envA envB fatalA fatalB p q a b'

theorem Ok.unborn (h : w.Ok env) : w.heap w.ctx.allocated = none := by
  by_contra hSome
  exact lt_irrefl _ ((h.born _).1 (Option.isSome_iff_ne_none.2 hSome))

/-- A connection that was dialled. -/
theorem Ok.dialled (h : w.Ok env) {addr : PackedSockAddr} {draws : Nat} (hStep : w.dial env fatal addr draws = .ok u)
    (hMade : u.heap w.ctx.allocated ≠ none) : ∃ c, w.closed = false ∧ w.ctx.step env .createSocket = some c ∧
      c.step env (.connect w.ctx.allocated addr draws) = some u.ctx := by
  rcases dial_cases hStep with ⟨-, rfl⟩ | ⟨hOpen, v, v', hCreate, hConnect, rfl⟩
  · exact absurd h.unborn hMade
  · exact ⟨v.ctx, hOpen, (step_of_cgo hCreate).2.1, (step_of_cgo hConnect).2.1⟩

/-- A connection that was created for a message. -/
theorem Ok.accepted (h : w.Ok env) {d : Datagram} {addr : PackedSockAddr} {last : Bool}
    (hStep : w.message env fatal d addr last = .ok u) (hThere : u.heap w.ctx.allocated ≠ none) :
    w.closed = false ∧ w.ctx.step env (.processUdp d addr) = some u.ctx := by
  rcases message_cases hStep with ⟨-, hHeap⟩ | ⟨hOpen, v, hCall, hCore, -⟩
  · exact absurd ((congrFun hHeap _).trans h.unborn) hThere
  · exact ⟨hOpen, (step_of_cgo hCall).2.1.trans (congrArg some (congrArg Prod.fst hCore).symm)⟩

theorem Mirrors.streams {ctx : Context} (h : Mirrors env p w ctx) {c : Conn} (hGet : w.heap p = some c) :
    c.bytesWritten = writtenOf (ctx.logs p) ∧ c.bytesRead ++ c.readBuf = (readsOf (ctx.logs p)).flatten ∧
      (c.gotEOF = true → .onStateChange .eof ∈ ctx.logs p) := by
  obtain ⟨more, hLog, hSilent⟩ := h.log
  have hTracks := h.ok.tracks p c hGet
  have hNothing : writtenOf more = [] ∧ readsOf more = [] := by
    clear hLog
    induction more with
    | nil => exact ⟨rfl, rfl⟩
    | cons e more ih =>
        obtain rfl := hSilent e (List.mem_cons_self ..)
        exact ih fun e hMem => hSilent e (List.mem_cons_of_mem _ hMem)
  refine ⟨?_, ?_, fun hEof => ?_⟩
  · rw [h.ok.written p c hGet, hLog, writtenOf_append, hNothing.1, List.append_nil]
  · rw [hTracks.stream, hLog, readsOf_append, hNothing.2, List.append_nil]
  · have hMem := hTracks.eof.1 hEof
    rw [hLog] at hMem
    refine (List.mem_append.1 hMem).resolve_right fun hLast => ?_
    cases hSilent _ hLast

section Schedule

/-- A section that the program asks for, or one in which a packet of the peer arrives. -/
inductive Turn where
  | call (action : Action)
  | hear (packet : Wire) (addr : PackedSockAddr)

def Turn.action : Turn → Action
  | .call action => action
  | .hear packet addr => .message (packet.received fun _ => 0) addr true

/-- The program may take the turn. -/
def Turn.mayTake (log : List Event) (turn : Turn) (w : Socket) : Bool :=
  decide (w.backlog.length < backlogSize) &&
    match turn with
    | .call (.message _ _ _) => false
    | .call (.timeoutChecker order) => order.isPerm (w.ctx.utpSockets.map Prod.snd)
    | .call action => action.isFree
    | .hear packet _ => recordsShortly packet 0 log

/-- Turns of the first wrapper and of the second one. -/
def playTurns (env : Env) (fatal : Nat → Nat → Bool) (p q : Nat) :
    List (Turn ⊕ Turn) → Socket → Socket → Option (Socket × Socket)
  | [], a, b => some (a, b)
  | .inl turn :: turns, a, b =>
      if turn.mayTake (b.ctx.logs q) a then
        (a.step env fatal turn.action).toOption.bind fun a' => playTurns env fatal p q turns a' b
      else none
  | .inr turn :: turns, a, b =>
      if turn.mayTake (a.ctx.logs p) b then
        (b.step env fatal turn.action).toOption.bind fun b' => playTurns env fatal p q turns a b'
      else none

theorem step_of_toOption {action : Action} (h : (w.step env fatal action).toOption = some u) : w.step env fatal action = .ok u := by
  cases hOutcome : w.step env fatal action with
  | error fault =>
      rw [hOutcome] at h
      cases h
  | ok v =>
      rw [hOutcome] at h
      cases h
      rfl

theorem Turn.goes (hRoom : ∀ t, (env t).backlogFull = false) {turn : Turn} (hMay : turn.mayTake log w = true)
    (hStep : (w.step env fatal turn.action).toOption = some u) : Goes env fatal log p w u := by
  obtain ⟨hLess, hTurn⟩ := Bool.and_eq_true_iff.1 hMay
  have hAnswers := answers_of_room hRoom (of_decide_eq_true hLess) u
  have hRun := step_of_toOption hStep
  cases turn with
  | hear packet addr => exact ⟨.message (packet.received fun _ => 0) addr true, trivial, hRun, hAnswers, fun _ _ => .of_records hTurn⟩
  | call action =>
      refine ⟨action, ?_, hRun, hAnswers, ?_⟩
      · cases action with
        | timeoutChecker order => exact hTurn
        | setWriteBufferLen q len => cases hTurn
        | setOption opt val => cases hTurn
        | closeSocket order => cases hTurn
        | _ => trivial
      · cases action with
        | message d addr last => cases hTurn
        | _ => trivial

theorem Linked.play {q : Nat} {a b a' b' : Socket} {turns : List (Turn ⊕ Turn)} (hRoom : ∀ t, (env t).backlogFull = false)
    (h : Linked env env fatal fatal p q a b) (hPlay : playTurns env fatal p q turns a b = some (a', b')) :
    Linked env env fatal fatal p q a' b' := by
  induction turns generalizing a b with
  | nil =>
      cases hPlay
      exact h
  | cons turn turns ih =>
      cases turn with
      | inl turn =>
          rw [playTurns] at hPlay
          split_ifs at hPlay with hMay
          obtain ⟨a₁, hStep, hRest⟩ := Option.bind_eq_some_iff.1 hPlay
          exact ih (.left h (Turn.goes hRoom hMay hStep)) hRest
      | inr turn =>
          rw [playTurns] at hPlay
          split_ifs at hPlay with hMay
          obtain ⟨b₁, hStep, hRest⟩ := Option.bind_eq_some_iff.1 hPlay
          exact ih (.right h (Turn.goes hRoom hMay hStep)) hRest

/-- Dial, accept, and take turns. -/
def linked (turns : List (Turn ⊕ Turn)) (ok : Conn → Conn → Bool) : Bool :=
  (newSocket.step (seededEnv 7) (fun _ _ => false) (.dial somePeer 1)).toOption.any fun a =>
    (a.heap 0).isSome && (a.ctx.logs 0).contains (.sendto (firstSyn 7) 0) &&
    (newSocket.step (seededEnv 7) (fun _ _ => false) (.message ((firstSyn 7).received fun _ => 0) otherPeer true)).toOption.any fun b =>
      (b.heap 0).any (!·.destroyed) &&
        (playTurns (seededEnv 7) (fun _ _ => false) 0 0 turns a b).any fun ends =>
          (ends.1.heap 0).any fun c => (ends.2.heap 0).any fun d => ok c d

end Schedule

end Socket

end Wrapper

end Utp
