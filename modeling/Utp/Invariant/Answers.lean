import Utp.Invariant.Mask
import Utp.Invariant.Greeting

/-! What the packets of a socket say about the packets that it has received. -/
namespace Utp

open Wrapping

/-- What was consumed is traffic. -/
theorem consumedOf_traffic (log : List Event) : consumedOf (trafficOf log) = consumedOf log := by
  unfold consumedOf trafficOf
  rw [List.filterMap_filter]
  congr 1
  funext e
  cases e <;> rfl

/-- So is what was stored, by induction on the record. -/
theorem offersFrom_traffic (count : Nat) (log : List Event) :
    offersFrom count (trafficOf log) = offersFrom count log := by
  unfold trafficOf
  induction log generalizing count with
  | nil => rfl
  | cons e log ih =>
      by_cases hTraffic : e.isTraffic = true
      · rw [List.filter_cons_of_pos hTraffic, offersFrom, offersFrom, ih]
      · rw [List.filter_cons_of_neg hTraffic, ih, offersFrom]
        cases e <;> first | rfl | exact absurd rfl hTraffic

theorem offersOf_traffic (log : List Event) : offersOf (trafficOf log) = offersOf log := offersFrom_traffic 0 log

namespace Conn

/-- The number of packets consumed so far. -/
def taken (s : Conn) : Nat := (consumedOf s.traffic).length

/-- The count can be taken from the story as well. -/
theorem taken_eq (s : Conn) : s.taken = (consumedOf s.trace.story).length := by
  unfold taken traffic trace
  rw [consumedOf_traffic, consumedOf_story]

theorem offers_eq (s : Conn) : offersOf s.traffic = offersOf s.trace.story := by
  unfold traffic trace
  rw [offersOf_traffic, offersOf_story]

end Conn

/-- One transition of a socket, from the run of one. -/
theorem Delivery.trans {env : Env} {cause : Cause} {s s' : Conn} (h : Delivery s) (hCore : Core s) (hLive : s.Live)
    (hTrans : Trans env cause s s') : Delivery s' := by
  rcases h with hClosed | ⟨start, hEntry, hRank, hFlow⟩
  · exact Closed.trans hClosed hCore hLive hTrans
  · exact hFlow.trans hEntry hRank hCore hTrans

/-- A socket that was never connected has no packet waiting. -/
def Unfed (s : Conn) : Prop := entryOf s.trace.story = none → s.rcv.reorderCount = 0

/-- A connection that is not entered later is not entered before. -/
theorem entryOf_of_prefix {story story' : List Event} (h : story <+: story') (hNone : entryOf story' = none) :
    entryOf story = none := by
  obtain ⟨more, rfl⟩ := h
  rw [entryOf_append, Option.or_eq_none_iff] at hNone
  exact hNone.1

/-- Before the connection is up, no packet is stored. -/
theorem Unfed.trans {env : Env} {cause : Cause} {s s' : Conn} (h : Unfed s) (hCore : Core s) (hLive : s.Live)
    (hDelivery : Delivery s) (hTrans : Trans env cause s s') : Unfed s' := by
  intro hNone
  have hEntry := entryOf_of_prefix hTrans.story hNone
  have hEmpty := h hEntry
  have hDown : s.state.open = false := by
    rcases hDelivery with hClosed | ⟨start, hUp, -⟩
    · exact hClosed.2.1
    · rw [hUp] at hEntry
      cases hEntry
  cases hTrans with
  | setup hSetup =>
      cases hSetup with
      | initialise addr connSeed connIdRecv connIdSend hNew => exact absurd hNew hLive
      | dial hState hCount hPointer => exact hEmpty
      | accept d hCause hState hCount => exact hEmpty
  | sending hSend =>
      have hRecv := hSend.recvView hCore.view.bounds.ackNr_lt
      exact (congrArg RecvView.reorderCount hRecv).trans hEmpty
  | receiving hReceive =>
      cases hReceive with
      | synAcked r hCause hState => exact hEmpty
      | fin r hCause hOpen =>
          rw [hOpen] at hDown
          cases hDown
      | drained _ r hCause hRun hDone =>
          clear hNone hDone
          induction hRun with
          | refl => exact hEmpty
          | tail hPrior hStep ih =>
              have hSame := congrArg Foreground.state (DrainStep.foreground_run hPrior)
              have hStill : (_ : Conn).state.open = false := (congrArg ConnState.open hSame).trans hDown
              cases hStep with
              | inOrder hOpen hType hOffset hDone =>
                  rw [hOpen] at hStill
                  cases hStill
              | eof =>
                  rcases Conn.reachEof_cases env _ with hNo | ⟨-, -, -, hView, -⟩
                  · rw [hNo]
                    exact ih
                  · exact congrArg View.reorderCount hView
              | take p hOpen hCount hGet =>
                  rw [hOpen] at hStill
                  cases hStill
      | outOfOrder r hCause hOpen hType hOffset =>
          rw [hOpen] at hDown
          cases hDown

/-- A slot that an ack for `late` packets less than were consumed looks at holds a packet that
has reached the delivery code. -/
theorem offered_of_slot {s : Conn} (hCore : Core s) (hDelivery : Delivery s) (hUnfed : Unfed s)
    (hFin : s.rcv.gotFinReached = false) {late i : Nat} {x : Int} (hLate : late ≤ 1)
    (hBase : (65536 : Int) ∣ x - (s.rcv.ackNr - late + 2)) (hi : i < s.rcv.inbuf.size)
    (hSome : (s.rcv.inbuf.get (x + i)).isSome = true) :
    ∃ y ∈ offersOf s.traffic, y.1 + late = s.taken + 1 + i := by
  have hShape := hCore.view.reorder hFin
  have hNext : s.rcv.inbuf.get (s.rcv.ackNr + 1) = none := hCore.view.next hFin
  rcases hDelivery with hClosed | ⟨start, -, -, hFlow⟩
  · have hZero : s.rcv.reorderCount = 0 := hUnfed hClosed.1
    have hVoid : ReorderShape s.rcv.ackNr 0 s.rcv.inbuf := hZero ▸ hShape
    rw [hVoid.get_of_count_zero] at hSome
    cases hSome
  · obtain ⟨j, hj⟩ : ∃ j, j + late = i + 1 := ⟨i + 1 - late, by omega⟩
    have hSlot : s.rcv.inbuf.get (x + i) = s.rcv.inbuf.get (s.rcv.ackNr + 1 + j) := by
      refine s.rcv.inbuf.get_congr (hCore.view.bounds.dvd_of_seq ?_)
      have hSame : x + i - (s.rcv.ackNr + 1 + j) = x - (s.rcv.ackNr - late + 2) := by omega
      rw [hSame]
      exact hBase
    rw [hSlot] at hSome
    have hPos : 0 < j := by
      refine Nat.pos_of_ne_zero fun hZero => ?_
      rw [hZero, Nat.cast_zero, add_zero, hNext] at hSome
      cases hSome
    have hRoom : j < s.rcv.inbuf.size := by
      refine lt_of_le_of_ne (by omega) fun hEnd => ?_
      have hTurn : s.rcv.inbuf.get (s.rcv.ackNr + 1 + j) = s.rcv.inbuf.get (s.rcv.ackNr + 1) := by
        refine s.rcv.inbuf.get_congr ?_
        rw [hEnd, add_sub_cancel_left]
      rw [hTurn, hNext] at hSome
      cases hSome
    have hWaiting := hFlow.waiting hFin j hPos
    rw [if_pos hRoom] at hWaiting
    obtain ⟨p, hp⟩ := Option.isSome_iff_exists.1 hSome
    rw [hp] at hWaiting
    have hMem : ((consumedOf s.trace.story).length + j, p.offer) ∈ offersOf s.trace.story := by
      obtain ⟨left, right, hSplit, -⟩ := List.lookup_eq_some_iff.1 hWaiting
      rw [hSplit]
      exact List.mem_append_right _ (List.mem_cons_self ..)
    refine ⟨_, s.offers_eq ▸ hMem, ?_⟩
    rw [s.taken_eq]
    omega

/-- What an ack says, of which a keepalive takes one packet back: how many packets were consumed
when it was sent, the first of which has the number `origin`, and which of the next ones had
arrived. -/
structure Acknowledges (origin late : Nat) (pre : List Event) (w : Wire) : Prop where
  late_le : late ≤ 1
  ackNr : w.header.ackNr = u16 (origin + (consumedOf pre).length - 1 - late)
  mask : w.header.ext = 0 ∨ ∃ m, CarriesMask m w ∧ ∀ i < 32, m.testBit i = true →
    ∃ x ∈ offersOf pre, x.1 + late = (consumedOf pre).length + 1 + i

/-- A socket that expects the stream to start with the number `origin`: its `ack_nr` and all that
it has sent since its SYN agree with what it has received. -/
structure Answered (origin : Nat) (s : Conn) : Prop where
  aligned : s.rcv.ackNr = u16 (origin + s.taken - 1)
  acks : EachEntry Event.wire?
    (fun pre w => w.header.type = stSyn ∨ ∃ late, Acknowledges origin late pre w) s.traffic

section AckWire

variable {origin : Nat} {s t : Conn} {w : Wire}

/-- The number that is acked, counted from the first one of the peer. -/
theorem Answered.ackNr_late (h : Answered origin s) (late : Nat) :
    u16 (s.rcv.ackNr - late) = u16 (origin + (consumedOf s.traffic).length - 1 - late) := by
  have hEmod := u16_emod (origin + s.taken - 1)
  rw [h.aligned, u16_eq_iff]
  unfold Conn.taken at hEmod ⊢
  omega

/-- The acks of a socket are true. -/
theorem Answered.acknowledges (h : Answered origin s) (hCore : Core s) (hDelivery : Delivery s) (hUnfed : Unfed s)
    {late : Nat} (hLate : late ≤ 1) (hAck : t.rcv.ackNr = u16 (s.rcv.ackNr - late)) (hBuf : t.rcv.inbuf = s.rcv.inbuf)
    (hFin : t.rcv.gotFinReached = false → s.rcv.gotFinReached = false) (hWire : t.AckWire w) :
    Acknowledges origin late s.traffic w := by
  have hAckNr : w.header.ackNr = u16 (s.rcv.ackNr - late) := hWire.ackNr.trans hAck
  refine ⟨hLate, hAckNr.trans (h.ackNr_late late), ?_⟩
  rcases hWire.selective with ⟨hExt, hTail, hOpen⟩ | ⟨hExt, -⟩
  · refine Or.inr ⟨t.eackMask, ⟨hExt, by rw [hAckNr]; exact u16_lt _, hTail⟩, fun i hi hBit => ?_⟩
    rw [Conn.eackMask_eq, BitMask.testBit_ofPred, Bool.and_eq_true, decide_eq_true_eq, hBuf] at hBit
    obtain ⟨hRange, hSome⟩ := hBit
    have hShift : (t.rcv.ackNr : Int) + i + 2 = t.rcv.ackNr + 2 + i := by omega
    rw [hShift] at hSome
    refine offered_of_slot hCore hDelivery hUnfed (hFin hOpen) hLate ?_ (hRange.trans_le (min_le_right _ _)) hSome
    have hEmod := u16_emod (s.rcv.ackNr - late)
    rw [hAck]
    omega
  · exact Or.inl hExt

end AckWire

/-- What a transition of the sending side adds to the traffic: at most one packet, that is sent or
written to the queue. -/
inductive Conn.Utters (s : Conn) : List Event → Prop where
  | nothing : Utters s []
  | ack (w : Wire) (flags : Nat) (hWire : s.AckWire w) : Utters s [.sendto w flags]
  | keepAlive (w : Wire) (flags : Nat) (hWire : (s.setAckNr (u16 (s.rcv.ackNr - 1))).AckWire w) :
      Utters s [.sendto w flags]
  | packet (v : Int) (pkt : OutgoingPacket) (w : Wire) (flags : Nat) (hGet : s.snd.outbuf.get v = some pkt)
      (hWire : s.DataWire pkt w) : Utters s [.sendto w flags]
  | written (e : Event) (hQueueing : e.isQueueing = true) : Utters s [e]

section Sending

variable {env : Env} {cause : Cause} {s s' : Conn}

/-- A transition of the queue sends a packet of it, or writes to it, or does neither. -/
theorem Queueing.utters (h : Queueing env cause s s') :
    ∃ events, s'.traffic = s.traffic ++ events ∧ s.Utters events := by
  have hSilent : s'.traffic = s.traffic → ∃ events, s'.traffic = s.traffic ++ events ∧ s.Utters events :=
    fun hSame => ⟨[], hSame.trans (List.append_nil _).symm, .nothing⟩
  cases h with
  | append bytes hState hFin hCount hLength => exact ⟨_, Conn.traffic_appendPacket env stData bytes s, .written _ rfl⟩
  | appendFin hState hFin =>
      exact ⟨_, Conn.traffic_appendPacket env stFin [] { s with finSent := true }, .written _ rfl⟩
  | fill pkt bytes hState hFin hCount hGet hUnsent hLength =>
      exact ⟨_, Conn.traffic_fillPacket env stData pkt bytes s, .written _ rfl⟩
  | send v =>
      cases hGet : s.snd.outbuf.get v with
      | none =>
          rw [Conn.sendPacket_none env hGet]
          exact ⟨[], (List.append_nil _).symm, .nothing⟩
      | some pkt =>
          obtain ⟨w, flags, hWire, hTraffic⟩ := Conn.traffic_sendPacket env hGet
          exact ⟨_, hTraffic, .packet v pkt w flags hGet hWire⟩
  | acked _ r hCause hRun hFront => exact hSilent (AckStep.traffic_run hRun)
  | sacked r mask bits hCause hMask hBits hSet hWindow hSent =>
      exact hSilent (Conn.traffic_sacked env _ _ _ s)
  | lost i => exact hSilent (Conn.traffic_of_trace (Conn.grows_losePacket i s) (Conn.trace_losePacket i s))
  | advance r =>
      unfold Conn.updateFastResend at hSilent ⊢
      split_ifs at hSilent ⊢ <;> exact hSilent rfl
  | retried => exact hSilent rfl
  | resent v => exact hSilent rfl

/-- So does any transition of the sending side, which may send an ack or a keepalive instead. -/
theorem Sending.utters (h : Sending env cause s s') :
    ∃ events, s'.traffic = s.traffic ++ events ∧ s.Utters events := by
  cases h with
  | quiet hQuiet =>
      rcases hQuiet.traffic with hSame | ⟨w, flags, hTraffic, hAck | ⟨hAck, -⟩⟩
      · exact ⟨[], hSame.trans (List.append_nil _).symm, .nothing⟩
      · exact ⟨_, hTraffic, .ack w flags hAck⟩
      · exact ⟨_, hTraffic, .keepAlive w flags hAck⟩
  | queueing hQueue => exact hQueue.utters
  | moving hMove => exact ⟨[], hMove.traffic.trans (List.append_nil _).symm, .nothing⟩

/-- Nothing that is sent or written counts as received. -/
theorem Conn.Utters.not_flow {events : List Event} (h : s.Utters events) : ∀ e ∈ events, e.isFlow = false := by
  cases h with
  | nothing => simp
  | written e hQueueing =>
      rw [List.forall_mem_singleton]
      cases e <;> first | rfl | cases hQueueing
  | _ => simp [Event.isFlow]

/-- It consumes nothing. -/
theorem Sending.consumed (h : Sending env cause s s') : consumedOf s'.traffic = consumedOf s.traffic := by
  obtain ⟨events, hTraffic, hUtters⟩ := h.utters
  rw [hTraffic, consumedOf_append, consumedOf_of_quiet hUtters.not_flow, List.append_nil]

/-- And it stores nothing. -/
theorem Sending.offers (h : Sending env cause s s') : offersOf s'.traffic = offersOf s.traffic := by
  obtain ⟨events, hTraffic, hUtters⟩ := h.utters
  rw [hTraffic, offersOf_append, offersFrom_of_quiet hUtters.not_flow, List.append_nil]

end Sending

namespace Answered

variable {env : Env} {cause : Cause} {origin start : Nat} {s s' : Conn}

/-- Nothing is sent, and one more packet is consumed. -/
theorem consumed {body : List UInt8} (h : Answered origin s) (hAck : s'.rcv.ackNr = u16 (s.rcv.ackNr + 1))
    (hTraffic : s'.traffic = s.traffic ++ [.consumed (u16 (s.rcv.ackNr + 1)) body]) : Answered origin s' := by
  have hTaken : s'.taken = s.taken + 1 := by
    unfold Conn.taken
    rw [hTraffic, consumedOf_append]
    exact List.length_append
  refine ⟨?_, ?_⟩
  · have hEmod := u16_emod (origin + s.taken - 1)
    rw [hAck, hTaken, h.aligned, u16_eq_iff]
    push_cast
    omega
  · rw [hTraffic, EachEntry.append_other (by simp [Event.wire?])]
    exact h.acks

/-- Nothing is sent or consumed. -/
theorem aside {events : List Event} (h : Answered origin s) (hAck : s'.rcv.ackNr = s.rcv.ackNr)
    (hTraffic : s'.traffic = s.traffic ++ events) (hNone : ∀ e ∈ events, e.wire? = none ∧ e.consumed? = none) :
    Answered origin s' := by
  refine ⟨?_, ?_⟩
  · have hTaken : s'.taken = s.taken := by
      unfold Conn.taken
      rw [hTraffic, consumedOf_append]
      have hVoid : consumedOf events = [] := List.filterMap_eq_nil_iff.2 fun e he => (hNone e he).2
      rw [hVoid, List.append_nil]
    rw [hAck, hTaken, h.aligned]
  · rw [hTraffic, EachEntry.append_other fun e he => (hNone e he).1]
    exact h.acks

/-- A packet is sent that says what was received. -/
theorem sent {w : Wire} {flags late : Nat} (h : Answered origin s) (hAck : s'.rcv.ackNr = s.rcv.ackNr)
    (hTraffic : s'.traffic = s.traffic ++ [.sendto w flags]) (hWire : Acknowledges origin late s.traffic w) :
    Answered origin s' := by
  refine ⟨?_, ?_⟩
  · have hTaken : s'.taken = s.taken := by
      unfold Conn.taken
      rw [hTraffic, consumedOf_append]
      exact congrArg List.length (List.append_nil _)
    rw [hAck, hTaken, h.aligned]
  · rw [hTraffic, EachEntry.append_iff]
    refine ⟨h.acks, fun w' hPick => ?_⟩
    cases hPick
    exact Or.inr ⟨late, hWire⟩

/-- An ack that is sent now carries the number of what was consumed so far. -/
theorem utters {events : List Event} (h : Answered origin s) (hBooked : Booked start s) (hCore : Core s)
    (hDelivery : Delivery s) (hUnfed : Unfed s) (hAck : s'.rcv.ackNr = s.rcv.ackNr)
    (hTraffic : s'.traffic = s.traffic ++ events) (hUtters : s.Utters events) : Answered origin s' := by
  have hLt : s.rcv.ackNr < 65536 := hCore.view.bounds.ackNr_lt
  have hBound : s.rcv.ackNr = u16 (s.rcv.ackNr - (0 : Nat)) := by
    rw [Nat.cast_zero, sub_zero, u16_of_lt hLt]
  cases hUtters with
  | nothing => exact h.aside hAck hTraffic (by simp)
  | ack w flags hWire =>
      exact h.sent hAck hTraffic (h.acknowledges hCore hDelivery hUnfed (Nat.zero_le 1) hBound rfl id hWire)
  | keepAlive w flags hWire =>
      have hLate : (s.setAckNr (u16 (s.rcv.ackNr - 1))).rcv.ackNr = u16 (s.rcv.ackNr - (1 : Nat)) := rfl
      exact h.sent hAck hTraffic (h.acknowledges hCore hDelivery hUnfed le_rfl hLate rfl id hWire)
  | packet v pkt w flags hGet hWire =>
      obtain ⟨i, hAt, -⟩ := hCore.packetAt_put hGet
      refine h.sent hAck hTraffic ⟨Nat.zero_le 1, ?_, Or.inl (hWire.ext.trans (hBooked.queued i pkt hAt).1)⟩
      rw [hWire.ackNr, ← h.ackNr_late 0]
      exact hBound
  | written e hQueueing =>
      refine h.aside hAck hTraffic ?_
      rw [List.forall_mem_singleton]
      cases e <;> first | exact ⟨rfl, rfl⟩ | cases hQueueing

theorem drain {r : Received} (h : Answered origin s) (hStep : DrainStep env r s s') : Answered origin s' := by
  cases hStep with
  | inOrder hOpen hType hOffset hDone =>
      have hNoted : Answered origin (s.emit (.accepted r.d.header.seqNr 0 (r.d.drop r.data))) :=
        h.aside rfl (trafficOf_append _ _) (by simp [trafficOf, Event.isTraffic, Event.wire?, Event.consumed?])
      exact hNoted.consumed (congrArg View.ackNr (Conn.view_deliver (r.d.drop r.data) _))
        (Conn.traffic_deliver (r.d.drop r.data) _)
  | eof =>
      rcases Conn.traffic_reachEof env s with hSame | ⟨w, flags, hWire, hTraffic⟩
      · rw [hSame]
        exact h
      · have hAck : (s.reachEof env).rcv.ackNr = s.rcv.ackNr := by
          rcases Conn.reachEof_cases env s with hSame | ⟨-, -, -, hView, -⟩
          · rw [hSame]
          · exact congrArg View.ackNr hView
        have hLate := h.ackNr_late 0
        rw [Nat.cast_zero, sub_zero] at hLate
        have hPlain : w.header.ext = 0 := by
          rcases hWire.selective with ⟨-, -, hFin⟩ | ⟨hExt, -⟩
          · cases hFin
          · exact hExt
        have hSays : Acknowledges origin 0 s.traffic w := by
          refine ⟨Nat.zero_le 1, ?_, Or.inl hPlain⟩
          rw [hWire.ackNr, Nat.cast_zero, ← hLate, h.aligned, u16_u16]
        exact h.sent hAck hTraffic hSays
  | take p hOpen hCount hGet =>
      exact h.consumed (congrArg View.ackNr (Conn.view_takeReordered p s)) (Conn.traffic_takeReordered p s)

/-- By induction on the turns of the drain loop. -/
theorem drain_run {r : Received} (h : Answered origin s) (hRun : Relation.ReflTransGen (DrainStep env r) s s') :
    Answered origin s' := by
  induction hRun with
  | refl => exact h
  | tail _ hStep ih => exact ih.drain hStep

/-- Every transition keeps the acks true. A dialled socket takes the number of the first packet it
gets for that of the next packet of its peer. -/
theorem trans (h : Answered origin s) (hBooked : Booked start s) (hCore : Core s) (hLive : s.Live)
    (hDelivery : Delivery s) (hUnfed : Unfed s)
    (hSyn : ∀ r, cause = .packet r → s.state = .synSent → u16 (r.d.header.seqNr - 1) = s.rcv.ackNr)
    (hTrans : Trans env cause s s') : Answered origin s' := by
  cases hTrans with
  | setup hSetup =>
      cases hSetup with
      | initialise addr connSeed connIdRecv connIdSend hNew => exact absurd hNew hLive
      | dial hState hCount hPointer => exact absurd hState hBooked.state
      | accept d hCause hState hCount => exact absurd hState hBooked.state
  | sending hSend =>
      obtain ⟨events, hTraffic, hUtters⟩ := hSend.utters
      have hRecv := hSend.recvView hCore.view.bounds.ackNr_lt
      exact h.utters hBooked hCore hDelivery hUnfed (congrArg RecvView.ackNr hRecv) hTraffic hUtters
  | receiving hReceive =>
      cases hReceive with
      | synAcked r hCause hState =>
          exact h.aside (hSyn r hCause hState) (List.append_nil _).symm (by simp)
      | fin r hCause hOpen =>
          unfold Conn.noteFin
          split_ifs
          · exact h.aside rfl (List.append_nil _).symm (by simp)
          · exact h
      | drained _ r hCause hRun hDone => exact h.drain_run hRun
      | outOfOrder r hCause hOpen hType hOffset =>
          have hAck : (s.receiveOutOfOrder r.d.header.seqNr (s.seqOffset r.d.header) (r.d.drop r.data)).rcv.ackNr =
              s.rcv.ackNr := by
            unfold Conn.receiveOutOfOrder Conn.storeReordered Conn.check
            dsimp only
            split_ifs <;> rfl
          rcases Conn.traffic_receiveOutOfOrder r.d.header.seqNr (s.seqOffset r.d.header) (r.d.drop r.data) s with
            hSame | hNoted
          · exact h.aside hAck (hSame.trans (List.append_nil _).symm) (by simp)
          · exact h.aside hAck hNoted (by simp [Event.wire?, Event.consumed?])

end Answered

end Utp
