import Utp.Guarantees.Mtu
import Utp.Invariant.Offered

/-! The list of sockets whose acks are deferred, and its drain. -/
namespace Utp

open Wrapping BackPointers

/-- The packets that were sent, in order. -/
def packetsSent (log : List Event) : List Wire := log.filterMap Event.wire?

/-- An ack is the only packet that `send_ack` sends, and the last thing it does. -/
theorem Conn.log_sendAck (env : Env) (synack : Bool) (s : Conn) : ∃ (events : List Event) (w : Wire),
    (s.sendAck env synack).log = s.log ++ (events ++ [.sendto w 0]) ∧ w.header.type = stState ∧
      ∀ e ∈ events, e.wire? = none ∧ e ≠ .scheduleAck := by
  have hCheck : ∀ (t : Conn) line ok, ∃ events, (t.check line ok).log = t.log ++ events ∧
      ∀ e ∈ events, e.wire? = none ∧ e ≠ .scheduleAck := by
    intro t line ok
    cases ok with
    | true => exact ⟨[], (List.append_nil _).symm, List.forall_mem_nil _⟩
    | false => exact ⟨[.assertFailed line], rfl, by simp [Event.wire?]⟩
  unfold sendAck
  dsimp only
  split_ifs
  · unfold sendEack
    dsimp only
    obtain ⟨first, hFirst, hQuiet⟩ := hCheck (s.updateRcvWin env) 802 (!synack)
    generalize (s.updateRcvWin env).check 802 (!synack) = t at hFirst ⊢
    obtain ⟨second, hSecond, hQuiet'⟩ := hCheck t 811 (t.rcv.inbuf.get (t.rcv.ackNr + 1)).isNone
    generalize t.check 811 _ = u at hSecond ⊢
    refine ⟨.window (s.getRcvWindow env) :: first ++ second,
      ⟨u.stamp env { u.ackHeader with ext := 1 }, eackTail u.eackMask⟩, ?_, rfl, ?_⟩
    · change u.log ++ _ = _
      rw [hSecond, hFirst]
      simp [updateRcvWin, noteWindow, called, emit]
    · simp only [List.cons_append, List.mem_cons, List.mem_append]
      rintro e (rfl | hIn | hIn)
      · exact ⟨rfl, Event.noConfusion⟩
      · exact hQuiet e hIn
      · exact hQuiet' e hIn
  · refine ⟨[.window (s.getRcvWindow env)], _, List.append_assoc .., rfl, ?_⟩
    simp [Event.wire?]

namespace Context

variable {env : Env} {c c' : Context} {p q : Nat} {sock : Socket}

/-- The list of deferred acks: every socket knows its place in it. -/
structure AckListSound (c : Context) : Prop where
  place : ∀ p, c.ida p = -1 ∨ ∃ i : Nat, c.ida p = i ∧ c.ackSockets[i]? = some p
  once : c.ackSockets.Nodup
  alive : ∀ p ∈ c.ackSockets, ∃ sock, c.sockets p = some sock
  members : ∀ p, p ∈ c.ackSockets ↔ 0 ≤ c.ida p

theorem AckListSound.of_linked (h : Linked c.ackSockets c.ida)
    (hAlive : ∀ p ∈ c.ackSockets, ∃ sock, c.sockets p = some sock) : c.AckListSound := by
  refine ⟨fun p => ?_, h.nodup, hAlive, h.mem_iff⟩
  by_cases hOff : c.ida p = -1
  · exact Or.inl hOff
  · have hLow := h.low p
    refine Or.inr ⟨(c.ida p).toNat, by omega, (h.position p _).2 (by omega)⟩

theorem AckListSound.linked (h : c.AckListSound) : Linked c.ackSockets c.ida := by
  refine ⟨fun p i => ⟨fun hGet => ?_, fun hAt => ?_⟩, fun p => ?_⟩
  · have hIn := (h.members p).1 (List.mem_of_getElem? hGet)
    rcases h.place p with hOff | ⟨j, hj, hThere⟩
    · omega
    · obtain ⟨hi, hGetI⟩ := List.getElem?_eq_some_iff.1 hGet
      obtain ⟨hjLt, hGetJ⟩ := List.getElem?_eq_some_iff.1 hThere
      have hSame : i = j := (List.Nodup.getElem_inj_iff h.once).1 (hGetI.trans hGetJ.symm)
      omega
  · rcases h.place p with hOff | ⟨j, hj, hThere⟩
    · omega
    · have hSame : i = j := by omega
      rwa [hSame]
  · rcases h.place p with hOff | ⟨j, hj, -⟩ <;> omega

theorem Ok.ackListSound (h : c.Ok) : c.AckListSound :=
  .of_linked h.linked fun p hMem => (h.acking p hMem).imp fun _ hHolds => hHolds.1

/-- What the functions of a socket do to the list: schedule an ack, send a packet, be deleted. -/
inductive AckListStep : Context → Context → Prop where
  | scheduleAck (c : Context) (p : Nat) (sock : Socket) (hSock : c.sockets p = some sock) :
      AckListStep c (c.scheduleAck p)
  | sendData (c : Context) (p : Nat) : AckListStep c (c.removeSocketFromAckList p)
  | sendAck (c : Context) (p : Nat) :
      AckListStep c ((c.removeSocketFromAckList p).removeSocketFromAckList p)
  | delete (c : Context) (p : Nat) : AckListStep c (c.delete p)

theorem AckListSound.removed (h : c.AckListSound) (p : Nat) : (c.removeSocketFromAckList p).AckListSound ∧
    p ∉ (c.removeSocketFromAckList p).ackSockets := by
  have hSockets : (c.removeSocketFromAckList p).sockets = c.sockets := by
    unfold removeSocketFromAckList
    split_ifs <;> rfl
  have hLinked : Linked (c.removeSocketFromAckList p).ackSockets (c.removeSocketFromAckList p).ida :=
    linked_perform p (.sendto ⟨Conn.blankHeader, []⟩ 0) h.linked
  have hIff : ∀ q, q ∈ (c.removeSocketFromAckList p).ackSockets ↔ q ∈ c.ackSockets ∧ q ≠ p := by
    intro q
    unfold removeSocketFromAckList
    split_ifs with hOn
    · exact h.linked.mem_without_iff hOn q
    · refine ⟨fun hIn => ⟨hIn, ?_⟩, fun hIn => hIn.1⟩
      rintro rfl
      exact hOn ((h.members q).1 hIn)
  refine ⟨.of_linked hLinked fun q hIn => ?_, fun hIn => ((hIff p).1 hIn).2 rfl⟩
  rw [hSockets]
  exact h.alive q ((hIff q).1 hIn).1

/-- A socket that is not in the list can be deleted. -/
theorem AckListSound.freed (h : c.AckListSound) (hOff : p ∉ c.ackSockets) : (c.free p).AckListSound := by
  refine .of_linked h.linked fun q hIn => ?_
  have hOther : q ≠ p := fun hSame => hOff (hSame ▸ hIn)
  obtain ⟨sock, hSock⟩ := h.alive q hIn
  refine ⟨sock, ?_⟩
  change Function.update c.sockets p none q = some sock
  rwa [Function.update_of_ne hOther]

theorem AckListSound.step (h : c.AckListSound) (hStep : AckListStep c c') : c'.AckListSound := by
  cases hStep with
  | scheduleAck p sock hSock =>
      have hSockets : (c.scheduleAck p).sockets = c.sockets := by
        unfold scheduleAck
        split_ifs <;> rfl
      refine .of_linked (linked_perform p .scheduleAck h.linked) fun q hIn => ?_
      rw [hSockets]
      rcases mem_perform (e := .scheduleAck) h.linked hIn with hOld | ⟨rfl, -⟩
      · exact h.alive q hOld
      · exact ⟨sock, hSock⟩
  | sendData p => exact (h.removed p).1
  | sendAck p => exact ((h.removed p).1.removed p).1
  | delete p =>
      unfold delete
      split
      · exact h
      · rename_i sock hSock
        have hTail : ∀ c1 : Context, c1.ackSockets = c.ackSockets → c1.ida = c.ida → c1.sockets = c.sockets →
            ((c1.removeSocketFromAckList p).free p).AckListSound := by
          intro c1 hAcks hIda hSockets
          have hSame : c1.AckListSound := by
            refine .of_linked (by rw [hAcks, hIda]; exact h.linked) ?_
            rw [hAcks, hSockets]
            exact h.alive
          exact (hSame.removed p).1.freed (hSame.removed p).2
        refine hTail _ ?_ ?_ ?_ <;> unfold eraseKey <;> dsimp only <;> split_ifs <;> rfl

/-- Sending an ack takes the socket off the list. -/
theorem runOn_sendAck (env : Env) (hSock : c.sockets p = some sock) : ∃ (events : List Event) (w : Wire),
    c.runOn p (fun s => s.sendAck env false) =
        { c with
          sockets := Function.update c.sockets p (some ((c.enter p sock).sendAck env false).toSocket)
          logs := Function.update c.logs p (c.logs p ++ events)
          currentMs := ((c.enter p sock).sendAck env false).currentMs
          tick := ((c.enter p sock).sendAck env false).tick }.removeSocketFromAckList p ∧
      packetsSent events = [w] ∧ w.header.type = stState := by
  obtain ⟨events, w, hLog, hType, hQuiet⟩ := Conn.log_sendAck env false (c.enter p sock)
  refine ⟨events ++ [.sendto w 0], w, ?_, ?_, hType⟩
  · rw [runOn_of_some hSock]
    unfold leave
    have hIdle : ∀ (es : List Event) (c1 : Context), (∀ e ∈ es, e.wire? = none ∧ e ≠ .scheduleAck) →
        es.foldl (fun c e => c.perform p e) c1 = c1 := by
      intro es
      induction es with
      | nil => exact fun c1 _ => rfl
      | cons e es ih =>
          intro c1 hEs
          have hFirst : c1.perform p e = c1 := by
            obtain ⟨hWire, hNot⟩ := hEs e List.mem_cons_self
            cases e <;> first | rfl | exact absurd rfl hNot | cases hWire
          rw [List.foldl_cons, hFirst]
          exact ih c1 fun e' hMem => hEs e' (List.mem_cons_of_mem e hMem)
    have hNew : ((c.enter p sock).sendAck env false).log.drop (c.logs p).length = events ++ [.sendto w 0] := by
      rw [hLog]
      exact List.drop_left
    rw [hNew, List.foldl_append, hIdle events _ hQuiet, hLog]
    rfl
  · unfold packetsSent
    rw [List.filterMap_append, List.filterMap_eq_nil_iff.2 fun e hMem => (hQuiet e hMem).1]
    rfl

/-- What a drain of the list does: one ack for each of its sockets, and nothing else is sent. -/
structure Drained (c c' : Context) : Prop where
  empty : c'.ackSockets = []
  acked : ∀ p ∈ c.ackSockets, ∃ (events : List Event) (w : Wire),
    c'.logs p = c.logs p ++ events ∧ packetsSent events = [w] ∧ w.header.type = stState
  others : ∀ p, p ∉ c.ackSockets → c'.logs p = c.logs p
  log : c'.log = c.log

/-- The index wraps below zero and comes back. -/
theorem u64_wrap : u64 (u64 (((0 : Nat) : Int) - 1) + 1) = 0 := by
  unfold u64
  omega

/-- The first turn of the drain. -/
theorem AckListSound.turn (env : Env) (h : c.AckListSound) {rest : List Nat} (hList : c.ackSockets = p :: rest) :
    let c' := c.runOn p fun s => s.sendAck env false
    c'.AckListSound ∧ c'.ackSockets.length = rest.length ∧
      (∀ q, q ∈ c'.ackSockets ↔ q ∈ c.ackSockets ∧ q ≠ p) ∧ c'.log = c.log ∧
      (∃ (events : List Event) (w : Wire),
        c'.logs p = c.logs p ++ events ∧ packetsSent events = [w] ∧ w.header.type = stState) ∧
      ∀ q, q ≠ p → c'.logs q = c.logs q := by
  have hIn : p ∈ c.ackSockets := hList ▸ List.mem_cons_self
  obtain ⟨sock, hSock⟩ := h.alive p hIn
  obtain ⟨events, w, hEq, hSent, hType⟩ := runOn_sendAck env hSock
  dsimp only
  rw [hEq]
  generalize ((c.enter p sock).sendAck env false) = s
  have hOn : c.ida p ≥ 0 := (h.members p).1 hIn
  have hSound : ({ c with
      sockets := Function.update c.sockets p (some s.toSocket)
      logs := Function.update c.logs p (c.logs p ++ events)
      currentMs := s.currentMs
      tick := s.tick } : Context).AckListSound := by
    refine .of_linked h.linked fun q hMem => ?_
    by_cases hSelf : q = p
    · exact ⟨s.toSocket, by rw [hSelf]; exact Function.update_self ..⟩
    · obtain ⟨old, hOld⟩ := h.alive q hMem
      exact ⟨old, (Function.update_of_ne hSelf ..).trans hOld⟩
  refine ⟨(hSound.removed p).1, ?_, ?_, ?_, ⟨events, w, ?_, hSent, hType⟩, ?_⟩
  all_goals
    unfold removeSocketFromAckList
    rw [if_pos hOn]
  · have hCount := Linked.length_without c.ackSockets c.ida p
    have hLength := congrArg List.length hList
    rw [List.length_cons] at hLength
    change (without c.ackSockets c.ida p).length = _
    omega
  · exact h.linked.mem_without_iff hOn
  · exact Function.update_self ..
  · exact fun q hOther => Function.update_of_ne hOther ..

/-- The loop returns, and drains the list. -/
theorem AckListSound.drained (env : Env) (n : Nat) (h : c.AckListSound) (hLength : c.ackSockets.length = n) :
    c.issueAcksLoop env (n + 1) 0 = some (c.issueAcks env n) ∧ Drained c (c.issueAcks env n) := by
  induction n generalizing c with
  | zero =>
      have hNil := List.eq_nil_of_length_eq_zero hLength
      refine ⟨?_, hNil, ?_, fun _ _ => rfl, rfl⟩
      · unfold issueAcksLoop
        rw [hNil]
        rfl
      · rw [hNil]
        exact nofun
  | succ n ih =>
      obtain ⟨p, rest, hList⟩ := List.exists_cons_of_length_eq_add_one hLength
      obtain ⟨hSound, hCount, hLeft, hLog, hAck, hOthers⟩ := h.turn env hList
      have hRest : rest.length = n := by
        rw [hList, List.length_cons] at hLength
        omega
      obtain ⟨hLoop, hDrained⟩ := ih hSound (hCount.trans hRest)
      have hNext : c.issueAcks env (n + 1) = (c.runOn p fun s => s.sendAck env false).issueAcks env n := by
        rw [issueAcks, hList]
      rw [hNext]
      refine ⟨?_, hDrained.empty, fun q hMem => ?_, fun q hOff => ?_, hDrained.log.trans hLog⟩
      · have hFirst : c.ackSockets[0]? = some p := by rw [hList]; rfl
        rw [issueAcksLoop, hFirst]
        dsimp only
        rw [u64_wrap]
        exact hLoop
      · by_cases hSelf : q = p
        · subst hSelf
          rw [hDrained.others q fun hIn => ((hLeft q).1 hIn).2 rfl]
          exact hAck
        · obtain ⟨events, w, hEvents, hRest'⟩ := hDrained.acked q ((hLeft q).2 ⟨hMem, hSelf⟩)
          rw [hOthers q hSelf] at hEvents
          exact ⟨events, w, hEvents, hRest'⟩
      · have hSelf : q ≠ p := by
          rintro rfl
          exact hOff (hList ▸ List.mem_cons_self)
        rw [hDrained.others q fun hIn => hOff ((hLeft q).1 hIn).1, hOthers q hSelf]

end Context

/-- In every reachable context every socket knows its place in the list of deferred acks, and
this survives any sequence of the functions that work on the list. The drain of the list then
returns, sends exactly one ack for each of its sockets, and leaves it empty. -/
theorem deferred_acks_sound (env : Env) (c : Context) (hReach : c.Reachable env) :
    c.AckListSound ∧
      (∀ c', Relation.ReflTransGen Context.AckListStep c c' → c'.AckListSound) ∧
      c.step env .issueDeferredAcks = some (c.utpIssueDeferredAcks env) ∧
      (∃ fuel, c.issueAcksLoop env fuel 0 = some (c.utpIssueDeferredAcks env)) ∧
      Context.Drained c (c.utpIssueDeferredAcks env) := by
  have hSound := hReach.ok.ackListSound
  obtain ⟨hLoop, hDrained⟩ := hSound.drained env c.ackSockets.length rfl
  refine ⟨hSound, fun c' hSteps => ?_, rfl, ⟨_, hLoop⟩, hDrained⟩
  induction hSteps with
  | refl => exact hSound
  | tail _ hStep ih => exact ih.step hStep

/-- In-order packets have arrived at two sockets, whose acks are deferred. The first of the two may
go, and leave its place to the second, which is the last. -/
theorem deferred_acks_sound_scheduled : ∃ c : Context, c.Reachable steadyEnv ∧ c.ackSockets = [0, 1] ∧
    (c.removeSocketFromAckList 0).AckListSound ∧ (c.removeSocketFromAckList 0).ackSockets = [1] ∧
      Context.Drained c (c.utpIssueDeferredAcks steadyEnv) := by
  have hRun : ((utpInit true true).run steadyEnv (connectedOps ++ [.createSocket, .connect 1 otherPeer 1,
      .processUdp (somePacket stState 7 77 7 []) otherPeer, .processUdp (somePacket stData 7 77 7 [1, 2, 3]) somePeer,
      .processUdp (somePacket stData 7 77 7 [4, 5]) otherPeer])).any (fun c =>
        c.ackSockets == [0, 1] && (c.removeSocketFromAckList 0).ackSockets == [1]) = true := by
    decide +kernel
  obtain ⟨c, hReach, hOk⟩ := Context.Reachable.exists_of_run hRun
  rw [Bool.and_eq_true, beq_iff_eq, beq_iff_eq] at hOk
  obtain ⟨-, hSteps, -, -, hDrained⟩ := deferred_acks_sound steadyEnv c hReach
  exact ⟨c, hReach, hOk.1, hSteps _ (.single (.sendData c 0)), hOk.2, hDrained⟩

end Utp
