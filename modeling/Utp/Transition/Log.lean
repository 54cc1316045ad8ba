import Utp.Transition.Trace
import Utp.Transition.Reading

/-! What a transition records. The record of a socket only grows, and what is added to it
depends on why the socket runs. -/
namespace Utp

open Wrapping

/-- Nothing has been taken out of the record. -/
def Grows (s s' : Conn) : Prop := s.log <+: s'.log

namespace Grows

/-- A log that stays grows by nothing. -/
theorem of_log {s s' : Conn} (h : s'.log = s.log) : Grows s s' := by
  unfold Grows
  rw [h]

theorem trans {s t u : Conn} (hFirst : Grows s t) (hSecond : Grows t u) : Grows s u :=
  List.IsPrefix.trans hFirst hSecond

theorem emit (e : Event) (s : Conn) : Grows s (s.emit e) := List.prefix_append ..

end Grows

/-- A function that fails no covered assertion may still add to the log, and never takes anything from it.
-/
theorem Clean.grows {s s' : Conn} (h : Clean s s') : Grows s s' := by
  obtain ⟨events, hLog, -⟩ := h
  exact ⟨events, hLog.symm⟩

/-- What adds events of one kind makes the log grow. -/
theorem Adds.grows {P : Event → Prop} {s s' : Conn} (h : Adds P s s') : Grows s s' := by
  obtain ⟨events, hLog, -⟩ := h
  exact ⟨events, hLog.symm⟩

/-- The kind of events `P` takes in all that a transition may record that runs for this cause:
the common events and reads of the packet for any, the scheduling of an ack for a packet that is
no ack itself and for a drained buffer, and the offer of a new socket only for a SYN. -/
structure Cause.Covered (cause : Cause) (P : Event → Prop) : Prop where
  common : ∀ e : Event, e.isCommon = true → P e
  read : ∀ off count, P (.readBytes off count)
  mask : ∀ mask index extLen, P (.readMask mask index extLen)
  ack : (cause = .drained ∨ ∃ r, cause = .packet r ∧ r.d.header.type ≠ stState) → P .scheduleAck
  accept : ∀ d, cause = .syn d → P .onAccept

/-- Every cause is covered for the property that says nothing. -/
theorem Cause.covered_true (cause : Cause) : cause.Covered fun _ => True :=
  ⟨fun _ _ => trivial, fun _ _ => trivial, fun _ _ _ => trivial, fun _ => trivial, fun _ _ => trivial⟩

variable {P : Event → Prop} {env : Env} {cause : Cause} {s s' : Conn}

/-- The bookkeeping adds common events, and those that its cause may add: the reading of a mask and the
request for an ack with a packet, the offer to the program with a SYN. -/
theorem Quiet.adds (hCovered : cause.Covered P) (h : Quiet env cause s s') : Adds P s s' := by
  have hCommon := hCovered.common
  cases h with
  | read off count => exact .emit s (hCovered.read off count)
  | readMask mask index extLen => exact .emit s (hCovered.mask mask index extLen)
  | onAccept d hCause => exact .emit s (hCovered.accept d hCause)
  | check line ok hLine => exact Conn.adds_check hCommon line ok s
  | scheduleAck hCause => exact .trans (.of_log rfl) (.emit _ (hCovered.ack hCause))
  | setsockopt opt val => cases opt <;> exact .of_log rfl
  | probeLost hProbe => exact Conn.adds_probeLost hCommon env s
  | probePassed hProbe => exact Conn.adds_probePassed hCommon env s
  | fragmentation nextHopMtu => exact Conn.adds_receiveIcmpFragmentation hCommon env nextHopMtu s
  | startTimer => exact Conn.adds_startTimer hCommon s
  | ack hCause => exact Conn.adds_sendAck hCommon env false s
  | synAck d hCause hEmpty => exact Conn.adds_sendAck hCommon env true s
  | keepAlive hOpen hFin => exact .trans (.of_log rfl) (Conn.adds_sendAck hCommon env false _)
  | _ => exact .of_log rfl

/-- By induction on the run of acked packets. -/
theorem AckStep.adds_run (hCommon : ∀ e : Event, e.isCommon = true → P e) {header : PacketFormatV1}
    (h : Relation.ReflTransGen (AckStep env header) s s') : Adds P s s' := by
  induction h with
  | refl => exact .refl s
  | tail _ hStep ih =>
      refine ih.trans ?_
      cases hStep with
      | acked hCount hAcked hSent => exact (Conn.adds_ackPacket hCommon env _ _).trans (.of_log rfl)
      | dropped hCount hNone => exact .of_log rfl

/-- The queue adds common events only. -/
theorem Queueing.adds (hCommon : ∀ e : Event, e.isCommon = true → P e) (h : Queueing env cause s s') :
    Adds P s s' := by
  cases h with
  | append bytes => exact Conn.adds_appendPacket hCommon env stData bytes s
  | appendFin => exact .trans (.of_log rfl) (Conn.adds_appendPacket hCommon env stFin [] { s with finSent := true })
  | fill pkt bytes => exact Conn.adds_fillPacket hCommon env stData pkt bytes s
  | send v => exact Conn.adds_sendPacket hCommon env v s
  | acked _ r hCause hRun hFront => exact AckStep.adds_run hCommon hRun
  | sacked r mask bits => exact (Conn.adds_ackPacket hCommon env _ s).trans (.emit _ (hCommon _ rfl))
  | lost i => exact Conn.adds_losePacket hCommon i s
  | advance r =>
      unfold Conn.updateFastResend
      split_ifs <;> exact .of_log rfl
  | retried => exact .of_log rfl
  | resent v => exact .of_log rfl

/-- By induction on the packets that are delivered. -/
theorem DrainStep.adds_run (hCommon : ∀ e : Event, e.isCommon = true → P e) {r : Received}
    (h : Relation.ReflTransGen (DrainStep env r) s s') : Adds P s s' := by
  induction h with
  | refl => exact .refl s
  | @tail t _ _ hStep ih =>
      refine ih.trans ?_
      cases hStep with
      | inOrder hOpen hType hOffset hDone => exact .trans (.emit t (hCommon _ rfl)) (Conn.adds_deliver hCommon _ _)
      | eof => exact Conn.adds_reachEof hCommon env t
      | take p hOpen hCount hGet => exact Conn.adds_takeReordered hCommon p t

/-- What is received adds common events, and the request for an ack. -/
theorem Receiving.adds (hCovered : cause.Covered P) (h : Receiving env cause s s') : Adds P s s' := by
  cases h with
  | synAcked r hCause hState => exact .of_log rfl
  | fin r hCause hOpen =>
      unfold Conn.noteFin
      split_ifs <;> exact .of_log rfl
  | drained _ r hCause hRun hDone => exact DrainStep.adds_run hCovered.common hRun
  | outOfOrder r hCause hOpen hType hOffset =>
      exact Conn.adds_receiveOutOfOrder hCovered.common (hCovered.ack (.inr ⟨r, hCause, hType⟩)) _ _ _ s

/-- A change of the state is a common event, whatever has caused it. -/
theorem Moving.adds (hCommon : ∀ e : Event, e.isCommon = true → P e) (h : Moving cause s s') : Adds P s s' := by
  have hMoved : ∀ (state : ConnState) (e : Event), e.isCommon = true → Adds P s ((s.setState state).emit e) :=
    fun state e hEvent => (Conn.adds_setState hCommon state s).trans (.emit _ (hCommon e hEvent))
  cases h with
  | established r hCause hType hState => exact hMoved .connected _ (by split_ifs <;> rfl)
  | finAcked r hCause hFin hAcks =>
      split_ifs
      · exact .trans (.of_log rfl) (Conn.adds_setState hCommon .destroy { s with finSentAcked := true })
      · exact .of_log rfl
  | full hState hFull => exact Conn.adds_markFull hCommon s
  | closing hOpen => exact .trans (.of_log rfl) (.emit _ (hCommon _ rfl))
  | closed hState => exact Conn.adds_setState hCommon .destroy s
  | icmpError => exact Conn.adds_receiveIcmpError hCommon s
  | _ => exact hMoved _ _ rfl

/-- Setting up a socket adds its states and, for a dialled one, its SYN. -/
theorem Setup.adds (hCommon : ∀ e : Event, e.isCommon = true → P e) (h : Setup env cause s s') : Adds P s s' := by
  cases h with
  | initialise addr connSeed connIdRecv connIdSend hState =>
      exact Conn.adds_initializeSocket hCommon env addr connSeed connIdRecv connIdSend s
  | dial hState hCount hPointer => exact Conn.adds_queueSyn hCommon env s
  | accept d hCause hState hCount => exact Conn.adds_startAccept hCommon env d.header.seqNr s

/-- A transition adds events of a kind to the record that takes in all that it may record. -/
theorem Trans.adds (hCovered : cause.Covered P) (h : Trans env cause s s') : Adds P s s' := by
  cases h with
  | setup hSetup => exact hSetup.adds hCovered.common
  | sending hSend =>
      cases hSend with
      | quiet hQuiet => exact hQuiet.adds hCovered
      | queueing hQueue => exact hQueue.adds hCovered.common
      | moving hMove => exact hMove.adds hCovered.common
  | receiving hReceive => exact hReceive.adds hCovered

/-- And so does a sequence of transitions. -/
theorem Path.adds (hCovered : cause.Covered P) (h : Path env cause s s') : Adds P s s' := by
  induction h with
  | refl => exact .refl s
  | tail _ hStep ih => exact ih.trans (hStep.adds hCovered)

namespace Conn

variable (env : Env)

/-- Every event is of the kind of all events. -/
theorem any_of_common (e : Event) (_h : e.isCommon = true) : True := trivial

theorem grows_sendAck (synack : Bool) (s : Conn) : Grows s (s.sendAck env synack) :=
  (adds_sendAck any_of_common env synack s).grows

theorem grows_ackPacket (seq : Int) (s : Conn) : Grows s (s.ackPacket env seq).2 :=
  (adds_ackPacket any_of_common env seq s).grows

theorem grows_losePacket (i : Nat) (s : Conn) : Grows s (s.losePacket i) := (adds_losePacket any_of_common i s).grows

theorem grows_fillPacket (flags : Nat) (pkt : OutgoingPacket) (bytes : List UInt8) (s : Conn) :
    Grows s (s.fillPacket env flags pkt bytes) :=
  (adds_fillPacket any_of_common env flags pkt bytes s).grows

theorem grows_takeReordered (p : IncomingPacket) (s : Conn) : Grows s (s.takeReordered p) :=
  (adds_takeReordered any_of_common p s).grows

theorem grows_receiveOutOfOrder (seqNr offset : Nat) (body : List UInt8) (s : Conn) :
    Grows s (s.receiveOutOfOrder seqNr offset body) :=
  (adds_receiveOutOfOrder any_of_common trivial seqNr offset body s).grows

end Conn

/-- The log grows by the bookkeeping. -/
theorem Quiet.grows (h : Quiet env cause s s') : Grows s s' := (h.adds cause.covered_true).grows

theorem AckStep.grows_run {header : PacketFormatV1} (h : Relation.ReflTransGen (AckStep env header) s s') : Grows s s' :=
  (AckStep.adds_run Conn.any_of_common h).grows

theorem Receiving.grows (h : Receiving env cause s s') : Grows s s' := (h.adds cause.covered_true).grows

theorem Moving.grows (h : Moving cause s s') : Grows s s' := (h.adds Conn.any_of_common).grows

theorem Setup.grows (h : Setup env cause s s') : Grows s s' := (h.adds Conn.any_of_common).grows

/-- The record of a socket only grows. -/
theorem Trans.grows (h : Trans env cause s s') : Grows s s' := (h.adds cause.covered_true).grows

/-- And so it does by any run. -/
theorem Path.grows (h : Path env cause s s') : Grows s s' := (h.adds cause.covered_true).grows

end Utp
