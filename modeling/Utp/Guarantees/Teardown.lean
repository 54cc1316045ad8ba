import Utp.Guarantees.Mtu

/-! A reset and an ICMP error tear a connection down; how far the two agree. -/
namespace Utp

open Wrapping

/-- The errors that were reported to the user, in order. -/
def errorsReported (log : List Event) : List ErrorCode := log.filterMap fun e =>
  match e with
  | .onError code => some code
  | _ => none

/-- The socket `p` went from `sock` in `c` to the state `next`, and reported `code` on the way. -/
def Context.TornDown (c c' : Context) (p : Nat) (next : ConnState) (code : ErrorCode) : Prop :=
  ∃ (sock' : Socket) (events : List Event), c'.sockets p = some sock' ∧ sock'.state = next ∧
    c'.logs p = c.logs p ++ events ∧ errorsReported events = [code]

theorem Context.TornDown.unique {c c' : Context} {p : Nat} {next next' : ConnState} {code code' : ErrorCode}
    (h : c.TornDown c' p next code) (h' : c.TornDown c' p next' code') : next = next' ∧ code = code' := by
  obtain ⟨sock, events, hSock, hState, hLog, hCode⟩ := h
  obtain ⟨sock', events', hSock', hState', hLog', hCode'⟩ := h'
  cases Option.some.inj (hSock.symm.trans hSock')
  cases List.append_cancel_left (hLog.symm.trans hLog')
  exact ⟨hState.symm.trans hState', List.singleton_inj.1 (hCode.symm.trans hCode')⟩

/-- A message that abandons the socket and reports one error. -/
theorem Context.tornDown_runOn {c : Context} {p : Nat} {sock : Socket} (hSock : c.sockets p = some sock)
    (f : Conn → Conn) (code : ErrorCode)
    (hRun : f (c.enter p sock) = (c.enter p sock).abandon.emit (.onError code)) :
    c.TornDown (c.runOn p f) p (if sock.closeRequested then .destroy else .reset) code := by
  obtain ⟨acks, ida, hLeave, -⟩ := leave_eq p (f (c.enter p sock)) c
  rw [runOn_of_some hSock, hLeave, hRun]
  refine ⟨_, [.moved sock.state (if sock.closeRequested then .destroy else .reset) sock.rcv.ackNr, .onError code],
    Function.update_self .., rfl, ?_, rfl⟩
  refine (Function.update_self ..).trans ?_
  change (c.logs p ++ [_]) ++ [_] = _
  rw [List.append_assoc]
  rfl

/-- What the two messages have in common at one packet: the same socket is found, it goes to the
same state unless it is idle, and the same error is reported. -/
structure ResetAgrees (env : Env) (d : Datagram) (addr : PackedSockAddr) (c : Context) : Prop where
  resolved : c.utpProcessUdp env d addr = (1, match c.parseIcmpPayload d addr with
    | none => c.record addr (.readBytes 0 20)
    | some p => (c.record addr (.readBytes 0 20)).runOn p Conn.receiveReset)
  handled : ∀ p, c.parseIcmpPayload d addr = some p → ∃ sock, c.sockets p = some sock ∧
    (sock.state ≠ .idle → ∃ next code, c.TornDown (c.utpProcessUdp env d addr).2 p next code ∧
      c.TornDown (c.utpProcessIcmpError d addr).2 p next code ∧
      (code = .econnrefused ↔ sock.state = .synSent))

theorem Context.resolved_utpProcessUdp (env : Env) {d : Datagram} (addr : PackedSockAddr) (c : Context)
    (hLen : 20 ≤ d.len) (hVersion : utpVersion d.header = 1) (hReset : d.header.type = stReset) :
    c.utpProcessUdp env d addr = (1, match c.parseIcmpPayload d addr with
      | none => c.record addr (.readBytes 0 20)
      | some p => (c.record addr (.readBytes 0 20)).runOn p Conn.receiveReset) := by
  have hFind : (c.record addr (.readBytes 0 20)).findForError addr d.header.connid =
      c.parseIcmpPayload d addr := by
    unfold parseIcmpPayload
    rw [if_neg (Nat.not_lt.2 hLen), if_neg (not_not.2 hVersion)]
    rfl
  unfold utpProcessUdp
  dsimp only
  rw [if_neg (Nat.not_lt.2 hLen), if_neg (not_not.2 hVersion), if_pos hReset, hFind]
  cases c.parseIcmpPayload d addr <;> rfl

/-- A reset finds the socket that an ICMP error finds, and leads it to the same state; the error
that is reported is the same exactly when the socket was not waiting for the answer to its SYN. -/
theorem reset_agrees_with_icmp_error (env : Env) (c : Context) (hReach : c.Reachable env) (d : Datagram)
    (addr : PackedSockAddr) (hLen : 20 ≤ d.len) (hVersion : utpVersion d.header = 1)
    (hReset : d.header.type = stReset) :
    ResetAgrees env d addr c ↔
      ∀ p sock, c.parseIcmpPayload d addr = some p → c.sockets p = some sock → sock.state ≠ .synSent := by
  have hResolved := Context.resolved_utpProcessUdp env addr c hLen hVersion hReset
  have hUdp : ∀ p sock, c.parseIcmpPayload d addr = some p → c.sockets p = some sock →
      c.TornDown (c.utpProcessUdp env d addr).2 p (if sock.closeRequested then .destroy else .reset)
        .econnreset := by
    intro p sock hFind hSock
    rw [hResolved, hFind]
    have hSame : (c.record addr (.readBytes 0 20)).sockets p = some sock := hSock
    refine Context.tornDown_runOn hSame Conn.receiveReset .econnreset ?_
    unfold Conn.receiveReset
    refine congrArg (fun code => Conn.emit (.onError code) (Conn.abandon _)) (if_neg fun hSent => ?_)
    change (if sock.closeRequested then ConnState.destroy else .reset) = .synSent at hSent
    split_ifs at hSent
  have hIcmp : ∀ p sock, c.parseIcmpPayload d addr = some p → c.sockets p = some sock → sock.state ≠ .idle →
      c.TornDown (c.utpProcessIcmpError d addr).2 p (if sock.closeRequested then .destroy else .reset)
        (if sock.state = .synSent then .econnrefused else .econnreset) := by
    intro p sock hFind hSock hBusy
    unfold Context.utpProcessIcmpError
    rw [hFind]
    exact Context.tornDown_runOn hSock Conn.receiveIcmpError _ (if_neg hBusy)
  constructor
  · intro h p sock hFind hSock hSent
    obtain ⟨sock', hSock', hHandled⟩ := h.handled p hFind
    cases Option.some.inj (hSock.symm.trans hSock')
    obtain ⟨next, code, hReset', hError, hCode⟩ := hHandled (by rw [hSent]; nofun)
    have hWrong := ((hUdp p sock hFind hSock).unique hReset').2
    exact absurd (hWrong.trans (hCode.2 hSent)) nofun
  · intro h
    refine ⟨hResolved, fun p hFind => ?_⟩
    obtain ⟨sock, ⟨hSock, -⟩, -⟩ := Context.holds_of_parseIcmpPayload hReach.ok hFind
    refine ⟨sock, hSock, fun hBusy => ?_⟩
    have hError := hIcmp p sock hFind hSock hBusy
    have hOther := h p sock hFind hSock
    rw [if_neg hOther] at hError
    exact ⟨_, .econnreset, hUdp p sock hFind hSock, hError, nofun, fun hSent => absurd hSent hOther⟩

/-- The peer resets a connection that is established. -/
theorem reset_agrees_when_connected : ∃ c : Context, c.Reachable steadyEnv ∧
    c.parseIcmpPayload (somePacket stReset 7 0 0 []) somePeer = some 0 ∧
      ResetAgrees steadyEnv (somePacket stReset 7 0 0 []) somePeer c := by
  have hRun : ((utpInit true true).run steadyEnv connectedOps).any (fun c =>
      c.parseIcmpPayload (somePacket stReset 7 0 0 []) somePeer == some 0 &&
        (c.sockets 0).any fun sock => sock.state == .connected) = true := by
    decide +kernel
  obtain ⟨c, hReach, hOk⟩ := Context.Reachable.exists_of_run hRun
  obtain ⟨hFind, hThere⟩ := Bool.and_eq_true_iff.1 hOk
  obtain ⟨sock, hSock, hState⟩ := (Option.any_eq_true _ _).1 hThere
  refine ⟨c, hReach, beq_iff_eq.1 hFind, ?_⟩
  refine (reset_agrees_with_icmp_error steadyEnv c hReach _ somePeer (by decide) (by decide) (by decide)).2 ?_
  intro p sock' hFind' hSock'
  cases Option.some.inj ((beq_iff_eq.1 hFind).symm.trans hFind')
  cases Option.some.inj (hSock.symm.trans hSock')
  rw [beq_iff_eq.1 hState]
  nofun

/-- A SYN that is answered by a reset is reported as a reset, and by an ICMP error as a refusal. -/
theorem reset_is_not_refused : ∃ c : Context, c.Reachable steadyEnv ∧
    ¬ResetAgrees steadyEnv (somePacket stReset 7 0 0 []) somePeer c := by
  have hRun : ((utpInit true true).run steadyEnv [.createSocket, .connect 0 somePeer 1]).any (fun c =>
      c.parseIcmpPayload (somePacket stReset 7 0 0 []) somePeer == some 0 &&
        (c.sockets 0).any (fun sock => sock.state == .synSent) &&
        (errorsReported (((c.utpProcessUdp steadyEnv (somePacket stReset 7 0 0 []) somePeer).2.logs 0).drop
          (c.logs 0).length) == [.econnreset])) = true := by
    decide +kernel
  obtain ⟨c, hReach, hOk⟩ := Context.Reachable.exists_of_run hRun
  obtain ⟨hBoth, hErrors⟩ := Bool.and_eq_true_iff.1 hOk
  obtain ⟨hFind, hThere⟩ := Bool.and_eq_true_iff.1 hBoth
  obtain ⟨sock, hSock, hState⟩ := (Option.any_eq_true _ _).1 hThere
  have hSent := beq_iff_eq.1 hState
  refine ⟨c, hReach, fun h => ?_⟩
  obtain ⟨sock', hSock', hHandled⟩ := h.handled 0 (beq_iff_eq.1 hFind)
  cases Option.some.inj (hSock.symm.trans hSock')
  obtain ⟨next, code, ⟨-, events, -, -, hLog, hCode⟩, -, hRefused⟩ := hHandled (by rw [hSent]; nofun)
  rw [hLog, List.drop_left, hCode, hRefused.2 hSent] at hErrors
  cases hErrors

end Utp
