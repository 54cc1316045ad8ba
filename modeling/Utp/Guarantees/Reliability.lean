import Utp.Invariant.Payload
import Utp.Guarantees.Link
import Utp.Guarantees.Routing
import Utp.Guarantees.Teardown

/-! What the two ends of a connection guarantee to the programs that use them, whatever the network
does to their packets. -/
namespace Utp

open Wrapping

/-- The stream that a socket has received. -/
def receivedOf (log : List Event) : List UInt8 := (consumedOf log).flatMap Prod.snd

theorem receivedOf_append (log more : List Event) : receivedOf (log ++ more) = receivedOf log ++ receivedOf more := by
  unfold receivedOf
  rw [consumedOf_append, List.flatMap_append]

/-- The bytes of a list of packets. -/
theorem flatMap_notePacket (packets : List (Nat × List UInt8)) (e : Event) :
    (notePacket packets e).flatMap Prod.snd = packets.flatMap Prod.snd ++ e.written := by
  cases e with
  | queued seqNr type bytes => simp [notePacket, Event.written]
  | extended bytes =>
      induction packets using List.reverseRecOn with
      | nil => simp [notePacket, Event.written]
      | append_singleton packets x ih => simp [notePacket, Event.written]
  | _ => simp [notePacket, Event.written]

/-- The packets of a socket carry what was written to it. -/
theorem flatMap_packetsOf (log : List Event) : (packetsOf log).flatMap Prod.snd = writtenOf log := by
  induction log using List.reverseRecOn with
  | nil => rfl
  | append_singleton log e ih =>
      rw [packetsOf_append, flatMap_notePacket, ih, writtenOf_append]
      simp [writtenOf]

theorem flatten_payloadsOf (log : List Event) : (payloadsOf log).flatten = receivedOf log := by
  unfold payloadsOf receivedOf
  induction consumedOf log with
  | nil => rfl
  | cons x rest ih =>
      cases hBody : x.2 with
      | nil => simpa [hBody] using ih
      | cons byte bytes => simpa [hBody] using ih

section Streams

variable {start own base : Nat} {s sender receiver : Conn}

/-- What the program is given to read is the stream that was received, up to the point where it
has shut down reading. -/
theorem Side.reads (h : Side start s) : (readsOf s.log).flatten <+: receivedOf s.log ∧
    (s.rcv.readShutdown = false → (readsOf s.log).flatten = receivedOf s.log) := by
  have hBytes : (payloadsOf s.trace.story).flatten = receivedOf s.log := by
    rw [flatten_payloadsOf]
    unfold receivedOf
    rw [← consumedOf_story s.log]
    rfl
  have hReads : readsOf s.trace.story = readsOf s.log := readsOf_story s.log
  rcases h.delivery with ⟨-, -, hConsumed, -, hNone⟩ | ⟨first, -, -, hFlow⟩
  · have hEmpty : receivedOf s.log = [] := by
      rw [← hBytes, flatten_payloadsOf]
      unfold receivedOf
      rw [hConsumed]
      rfl
    rw [hReads] at hNone
    rw [hNone, hEmpty]
    exact ⟨List.prefix_refl _, fun _ => rfl⟩
  · obtain ⟨rest, hSplit, hShut⟩ := hFlow.reads
    rw [hReads] at hSplit
    rw [← hBytes, hSplit, List.flatten_append]
    refine ⟨List.prefix_append _ _, fun hOpen => ?_⟩
    rw [hShut hOpen]
    exact (List.append_nil _).symm

/-- The packets that the receiver has consumed are the next ones of the sender. -/
theorem Fed.bodies (h : Fed start base sender receiver) :
    (consumedOf receiver.traffic).map Prod.snd =
      (((packetsOf sender.traffic).drop base).take receiver.taken).map Prod.snd := by
  have hLe := h.taken_le
  refine List.ext_getElem? fun i => ?_
  rw [List.getElem?_map, List.getElem?_map]
  by_cases hi : i < receiver.taken
  · have hIn : i < (consumedOf receiver.traffic).length := hi
    obtain ⟨type, hAt⟩ := h.consumed i _ (List.getElem?_eq_getElem hIn)
    rw [List.getElem?_take_of_lt hi, List.getElem?_drop, Conn.settled_getElem? hAt, List.getElem?_eq_getElem hIn]
    rfl
  · have hPast : (consumedOf receiver.traffic).length ≤ i := Nat.le_of_not_lt hi
    rw [List.getElem?_eq_none hPast, List.getElem?_eq_none]
    rw [List.length_take]
    omega

/-- The stream that was received is the first part of the one that was written. -/
theorem Fed.stream (h : Fed start base sender receiver)
    (hHead : ((packetsOf sender.traffic).take base).flatMap Prod.snd = []) :
    writtenOf sender.log = receivedOf receiver.log ++
      ((packetsOf sender.traffic).drop (base + receiver.taken)).flatMap Prod.snd := by
  have hReceived : receivedOf receiver.log =
      (((packetsOf sender.traffic).drop base).take receiver.taken).flatMap Prod.snd := by
    unfold receivedOf
    rw [← consumedOf_traffic, List.flatMap_def, List.flatMap_def]
    exact congrArg List.flatten h.bodies
  calc writtenOf sender.log
      = (packetsOf sender.traffic).flatMap Prod.snd := by
        rw [← flatMap_packetsOf, ← packetsOf_traffic]
        rfl
    _ = ((packetsOf sender.traffic).drop base).flatMap Prod.snd := by
        conv_lhs => rw [← List.take_append_drop base (packetsOf sender.traffic), List.flatMap_append, hHead]
        rfl
    _ = receivedOf receiver.log ++ ((packetsOf sender.traffic).drop (base + receiver.taken)).flatMap Prod.snd := by
        rw [hReceived, ← List.flatMap_append, ← List.drop_drop, List.take_append_drop]

/-- The number on the wire of the packet `k`. -/
def Conn.numberOf (k : Nat) (s : Conn) : Nat := u16 (s.snd.seqNr - ((packetsOf s.log).length - k : Nat))

/-- Every packet of the sender is in its queue, was delivered by the receiver, or waits in the reorder
buffer of the receiver. The first `base` packets are none of the stream. -/
def Accounted (base : Nat) (sender receiver : Conn) : Prop :=
  ∀ (k type : Nat) (bytes : List UInt8), base ≤ k → (packetsOf sender.log)[k]? = some (type, bytes) →
    (∃ v pkt, sender.snd.outbuf.get v = some pkt ∧ pkt.header.type = type ∧ pkt.header.seqNr = sender.numberOf k ∧
      pkt.body = bytes) ∨
    (consumedOf receiver.log)[k - base]? = some (sender.numberOf k, bytes) ∨
    ∃ v, receiver.rcv.inbuf.get v = some ⟨sender.numberOf k, bytes⟩

theorem Booked.numberOf_eq (h : Booked start s) {k : Nat} (hk : k ≤ (packetsOf s.traffic).length) :
    s.numberOf k = u16 (start + k) := by
  have hPackets : packetsOf s.log = packetsOf s.traffic := (packetsOf_traffic s.log).symm
  have hEmod := u16_emod (start + (packetsOf s.traffic).length)
  unfold Conn.numberOf
  rw [h.seqNr, hPackets, u16_eq_iff]
  omega

/-- Both ends give a packet the same number. -/
theorem Answered.numbered (h : Answered (start + base) receiver) {first : Nat}
    (hFlow : Flow first receiver.trace.story receiver) (i : Nat) :
    u16 (first + 1 + i) = u16 (start + (base + i : Nat)) := by
  have hAckNr := hFlow.ackNr
  rw [h.aligned, receiver.taken_eq, u16_eq_iff] at hAckNr
  rw [u16_eq_iff]
  push_cast at hAckNr ⊢
  omega

/-- A packet that the receiver has got was delivered, or waits for its turn. -/
theorem Fed.kept (h : Fed start base sender receiver) (hSender : Side start sender) (hSide : Side own receiver)
    (hAnswered : Answered (start + base) receiver) {k type : Nat} {bytes : List UInt8} (hBase : base ≤ k)
    (hAt : (packetsOf sender.traffic)[k]? = some (type, bytes)) (hGot : receiver.Got base k) :
    (consumedOf receiver.log)[k - base]? = some (u16 (start + k), bytes) ∨
      ∃ v, receiver.rcv.inbuf.get v = some ⟨u16 (start + k), bytes⟩ := by
  have hIn := (List.getElem?_eq_some_iff.1 hAt).1
  have hNext := h.not_got hSide hSender.closing hIn hGot
  rcases hSide.delivery with ⟨-, -, hConsumed, hOffers, -⟩ | ⟨first, -, -, hFlow⟩
  · have hNone : receiver.taken = 0 := by
      rw [receiver.taken_eq, hConsumed]
      rfl
    rcases hGot with hLow | ⟨x, hx, -⟩
    · omega
    · rw [receiver.offers_eq, hOffers] at hx
      cases hx
  have hTaken := receiver.taken_eq
  by_cases hPast : k < base + receiver.taken
  · refine Or.inl ?_
    have hLength : k - base < (consumedOf receiver.traffic).length := by
      unfold Conn.taken at hPast
      omega
    obtain ⟨type', hSent⟩ := h.consumed (k - base) _ (List.getElem?_eq_getElem hLength)
    rw [Nat.add_sub_cancel' hBase] at hSent
    have hBody := congrArg Prod.snd (Option.some.inj ((Conn.settled_getElem? hSent).symm.trans hAt))
    have hStory : (consumedOf receiver.trace.story)[k - base]? = some (consumedOf receiver.traffic)[k - base] := by
      rw [show consumedOf receiver.trace.story = consumedOf receiver.traffic from
        (consumedOf_story _).trans (consumedOf_traffic _).symm, List.getElem?_eq_getElem hLength]
    have hNumber := hFlow.numbered _ _ _ hStory
    rw [hAnswered.numbered hFlow, Nat.add_sub_cancel' hBase] at hNumber
    rw [show consumedOf receiver.log = consumedOf receiver.traffic from (consumedOf_traffic _).symm,
      List.getElem?_eq_getElem hLength]
    exact congrArg some (Prod.ext hNumber hBody)
  · refine Or.inr ?_
    obtain ⟨x, hx, hPlace⟩ := hGot.resolve_left hPast
    have hReached : receiver.rcv.gotFinReached = false := h.not_reached hSender.closing (by omega)
    have hAhead : x.1 = (consumedOf receiver.trace.story).length + (x.1 - receiver.taken) := by omega
    obtain ⟨y, hy⟩ : ∃ y, (offersOf receiver.trace.story).lookup x.1 = some y := by
      rw [receiver.offers_eq] at hx
      refine Option.ne_none_iff_exists'.1 fun hNone => ?_
      rw [List.lookup_eq_none_iff] at hNone
      simpa using hNone x hx
    have hOffer : (x.1, y) ∈ offersOf receiver.traffic := by
      obtain ⟨before, after, hSplit, -⟩ := List.lookup_eq_some_iff.1 hy
      rw [receiver.offers_eq, hSplit]
      exact List.mem_append_right _ (List.mem_cons_self ..)
    have hNumber := hFlow.offered _ (receiver.offers_eq ▸ hOffer)
    obtain ⟨type', hSent⟩ := h.offered _ hOffer
    rw [show base + (x.1, y).1 = k from hPlace] at hSent
    have hBody := congrArg Prod.snd (Option.some.inj ((Conn.settled_getElem? hSent).symm.trans hAt))
    have hWaiting := hFlow.waiting hReached (x.1 - receiver.taken) (by omega)
    rw [← hAhead, hy] at hWaiting
    split_ifs at hWaiting
    obtain ⟨pkt, hGet, hPkt⟩ := Option.map_eq_some_iff.1 hWaiting.symm
    refine ⟨_, hGet.trans (congrArg some ?_)⟩
    rw [hAnswered.numbered hFlow, hPlace] at hNumber
    have hSeq : pkt.seqNr = u16 (start + k) := (congrArg Prod.fst hPkt).trans hNumber
    have hBytes : pkt.body = bytes := (congrArg Prod.snd hPkt).trans hBody
    rw [← hSeq, ← hBytes]

theorem Spent.accounted (h : Spent base sender receiver) (hFed : Fed start base sender receiver)
    (hSender : Side start sender) (hSide : Side own receiver) (hAnswered : Answered (start + base) receiver) :
    Accounted base sender receiver := by
  intro k type bytes hBase hPacket
  have hAt : (packetsOf sender.traffic)[k]? = some (type, bytes) := (packetsOf_traffic sender.log).symm ▸ hPacket
  have hIn := (List.getElem?_eq_some_iff.1 hAt).1
  rw [hSender.booked.numberOf_eq hIn.le]
  cases hQueue : sender.packetAt ((packetsOf sender.traffic).length - 1 - k) with
  | none => exact Or.inr (hFed.kept hSender hSide hAnswered hBase hAt (h.removed k hIn hQueue))
  | some pkt =>
      obtain ⟨-, -, hBooked⟩ := hSender.booked.queued _ pkt hQueue
      have hSame : (packetsOf sender.traffic).length - 1 - ((packetsOf sender.traffic).length - 1 - k) = k := by omega
      rw [hSame, hAt] at hBooked
      have hSeq := (hSender.core.packet_ok hQueue).seqNr
      have hGet : sender.snd.outbuf.get (sender.snd.seqNr - 1 - ((packetsOf sender.traffic).length - 1 - k : Nat)) = some pkt := by
        unfold Conn.packetAt at hQueue
        split_ifs at hQueue
        exact hQueue
      refine Or.inl ⟨_, pkt, hGet, (congrArg Prod.fst (Option.some.inj hBooked)).symm, ?_,
        (congrArg Prod.snd (Option.some.inj hBooked)).symm⟩
      have hEmod := u16_emod (start + (packetsOf sender.traffic).length)
      have hCount := hSender.booked.seqNr
      rw [hSeq, hCount, u16_eq_iff]
      omega

end Streams

/-- The stream of a socket along a run, by induction over the operations of the run. -/
theorem Context.Reachable.written_run {env : Env} {c c' : Context} (hReach : c.Reachable env) {ops : List Op}
    (hRun : c.run env ops = some c') (p : Nat) : writtenOf (c'.logs p) = writtenOf (c.logs p) ++ c.writesAlong env p ops := by
  induction ops generalizing c with
  | nil =>
      cases hRun
      exact (List.append_nil _).symm
  | cons op ops ih =>
      obtain ⟨next, hStep, hRest⟩ := Option.bind_eq_some_iff.1 hRun
      rw [ih (.next op hReach hStep) hRest, hReach.written_step hStep p, Context.writesAlong, hStep, List.append_assoc]
      rfl

/-- Over any run the stream of a socket grows by the bytes that the `utp_writev` calls on it report, one
after the other, and by nothing else: no other operation, no packet and no timer writes to it. -/
theorem stream_written_by_writev (env : Env) (c c' : Context) (hReach : c.Reachable env) (ops : List Op)
    (hRun : c.run env ops = some c') (p : Nat) :
    writtenOf (c'.logs p) = writtenOf (c.logs p) ++ c.writesAlong env p ops := hReach.written_run hRun p

/-- Three bytes, of which the window takes all, and one more after them. -/
theorem stream_written_by_writev_twice : ∃ c : Context, c.Reachable steadyEnv ∧
    (∃ c', c.run steadyEnv [.writev 0 [[1, 2], [3]], .issueDeferredAcks, .writev 0 [[4]]] = some c' ∧
      writtenOf (c'.logs 0) = writtenOf (c.logs 0) ++ [1, 2, 3, 4]) := by
  have hRun : ((utpInit true true).run steadyEnv connectedOps).any (fun c =>
      (c.run steadyEnv [.writev 0 [[1, 2], [3]], .issueDeferredAcks, .writev 0 [[4]]]).any (fun _ =>
        c.writesAlong steadyEnv 0 [.writev 0 [[1, 2], [3]], .issueDeferredAcks, .writev 0 [[4]]] == [1, 2, 3, 4])) = true := by
    decide +kernel
  obtain ⟨c, hReach, hOk⟩ := Context.Reachable.exists_of_run hRun
  obtain ⟨c', hLater, hBytes⟩ := (Option.any_eq_true _ _).1 hOk
  refine ⟨c, hReach, c', hLater, ?_⟩
  rw [stream_written_by_writev steadyEnv c c' hReach _ hLater 0, beq_iff_eq.1 hBytes]

/-- The windows of both ends fit: the packet that the receiver waits for is in the window of the sender
or the next one that will be written; an ack of a sender that has not closed passes the check of its
number; and every packet that the sender still has is accepted by the receiver or acked once more, and
not passed over in silence. -/
structure WindowsFit (sender receiver : Conn) : Prop where
  next : u16 (sender.snd.seqNr - receiver.rcv.ackNr - 1) ≤ sender.snd.curWindowPackets
  ack : sender.finSent = false → u16 (sender.snd.seqNr - receiver.rcv.ackNr - 1) < 1024
  reach : ∀ v pkt, sender.snd.outbuf.get v = some pkt →
    receiver.seqOffset pkt.header < 1024 ∨ 64512 ≤ receiver.seqOffset pkt.header

/-- The receiver has the packet `k` of the sender: its number is at or before `ack_nr`, with as many
numbers between them as packets were consumed after it, or it is in the reorder buffer. The receiver has
not consumed the first `base` packets, but starts after them. -/
def Conn.HasReceived (base k number : Nat) (s : Conn) : Prop :=
  (∃ later : Nat, k + later + 1 = base + (consumedOf s.log).length ∧ s.rcv.ackNr = u16 (number + later)) ∨
    ∃ v pkt, s.rcv.inbuf.get v = some pkt ∧ pkt.seqNr = number

/-- What one end of a connection delivers to the other. While reading is not shut down, what the receiver
has passed to `on_read` is the first part of what the sender has written. A packet leaves the queue of the
sender only when the receiver has it. The FIN counts as acked only when the receiver has reached it. -/
structure Delivers (base : Nat) (sender receiver : Conn) : Prop where
  stream : receiver.rcv.readShutdown = false → (readsOf receiver.log).flatten <+: writtenOf sender.log
  removed : ∀ k < (packetsOf sender.log).length, sender.packetAt ((packetsOf sender.log).length - 1 - k) = none →
    receiver.HasReceived base k (sender.numberOf k)
  fin : sender.finSentAcked = true → (packetsOf sender.log).getLast? = some (stFin, []) ∧
    receiver.rcv.ackNr = sender.numberOf ((packetsOf sender.log).length - 1)

section Ends

variable {start own base s0 t0 : Nat} {sender receiver a b : Conn}

theorem Spent.windowsFit (h : Spent base sender receiver) (hFed : Fed start base sender receiver)
    (hSender : Side start sender) (hSide : Side own receiver) (hAnswered : Answered (start + base) receiver) :
    WindowsFit sender receiver := by
  have hFront := h.front_le fun k hk hGot => hFed.not_got hSide hSender.closing hk hGot
  have hTaken := hFed.taken_le
  have hLimit := hSender.count_le
  have hSeq := hSender.booked.seqNr
  have hAck := hAnswered.aligned
  have hEmod := u16_emod (start + (packetsOf sender.traffic).length)
  have hEmod' := u16_emod ((start + base : Nat) + receiver.taken - 1)
  have hNext : u16 (sender.snd.seqNr - receiver.rcv.ackNr - 1) ≤ sender.snd.curWindowPackets := by
    have hDist := u16_emod (sender.snd.seqNr - receiver.rcv.ackNr - 1)
    have hLt := u16_lt (sender.snd.seqNr - receiver.rcv.ackNr - 1)
    omega
  refine ⟨hNext, fun hFin => ?_, fun v pkt hGet => ?_⟩
  · have hRoom : sender.snd.curWindowPackets ≤ 1023 := hSender.core.view.room hFin
    omega
  · obtain ⟨j, hAt, -⟩ := hSender.core.packetAt_put hGet
    obtain ⟨hPlace, -⟩ := hSender.core.lt_of_packetAt hAt
    have hNumber := (hSender.core.packet_ok hAt).seqNr
    have hNumber' := u16_emod (sender.snd.seqNr - 1 - j)
    unfold Conn.seqOffset
    have hDist := u16_emod (pkt.header.seqNr - receiver.rcv.ackNr - 1)
    have hLt := u16_lt (pkt.header.seqNr - receiver.rcv.ackNr - 1)
    omega

/-- An end that has told its peer where its stream starts delivers its packets. -/
theorem Spent.delivers (h : Spent base sender receiver) (hFed : Fed start base sender receiver)
    (hSender : Side start sender) (hSide : Side own receiver) (hAnswered : Answered (start + base) receiver)
    (hHead : ((packetsOf sender.traffic).take base).flatMap Prod.snd = []) : Delivers base sender receiver := by
  have hPackets : packetsOf sender.log = packetsOf sender.traffic := (packetsOf_traffic sender.log).symm
  have hConsumed : consumedOf receiver.log = consumedOf receiver.traffic := (consumedOf_traffic receiver.log).symm
  have hTaken : (consumedOf receiver.traffic).length = receiver.taken := rfl
  have hAckNr := hAnswered.aligned
  refine ⟨fun _ => ?_, fun k hIn hNone => ?_, fun hAcked => ?_⟩
  · rw [hFed.stream hHead]
    exact hSide.reads.1.trans (List.prefix_append _ _)
  · rw [hPackets] at hIn hNone
    rw [hSender.booked.numberOf_eq hIn.le]
    have hGot := h.removed k hIn hNone
    by_cases hPast : k < base + receiver.taken
    · refine Or.inl ⟨base + receiver.taken - 1 - k, ?_, ?_⟩
      · rw [hConsumed, hTaken]
        omega
      · have hEmod := u16_emod (start + k)
        rw [hAckNr, u16_eq_iff]
        omega
    · have hAt : (packetsOf sender.traffic)[k]? = some ((packetsOf sender.traffic)[k].1, (packetsOf sender.traffic)[k].2) :=
        List.getElem?_eq_getElem hIn
      rcases hFed.kept hSender hSide hAnswered (by omega) hAt hGot with hDelivered | ⟨v, hWaits⟩
      · have hPlace := (List.getElem?_eq_some_iff.1 hDelivered).1
        rw [hConsumed, hTaken] at hPlace
        omega
      · exact Or.inr ⟨v, _, hWaits, rfl⟩
  · obtain ⟨hFin, hReached⟩ := h.fin hAcked
    obtain ⟨front, hQueue⟩ := hSender.closing.fin hFin
    have hAll : (packetsOf sender.traffic).length = base + receiver.taken := le_antisymm hReached hFed.taken_le
    have hSome : (packetsOf sender.traffic).length = front.length + 1 := by rw [hQueue, List.length_append, List.length_singleton]
    rw [hPackets, hSender.booked.numberOf_eq (Nat.sub_le ..), hAckNr, u16_eq_iff]
    refine ⟨by rw [hQueue, List.getLast?_concat], ?_⟩
    omega

/-- An end that has queued nothing has nothing to deliver. -/
theorem Spent.delivers_nothing (h : Spent base sender receiver) (hSender : Side start sender) (hSide : Side own receiver)
    (hFed : Fed start base sender receiver) (hNone : packetsOf sender.traffic = []) : Delivers base sender receiver := by
  have hPackets : packetsOf sender.log = [] := (packetsOf_traffic sender.log).symm.trans hNone
  refine ⟨fun _ => ?_, fun k hIn => ?_, fun hAcked => ?_⟩
  · rw [hFed.stream (by rw [hNone, List.take_nil]; rfl)]
    exact hSide.reads.1.trans (List.prefix_append _ _)
  · rw [hPackets] at hIn
    exact absurd hIn (Nat.not_lt_zero k)
  · obtain ⟨front, hQueue⟩ := hSender.closing.fin (h.fin hAcked).1
    rw [hNone] at hQueue
    exact absurd hQueue.symm (List.append_ne_nil_of_right_ne_nil _ (List.cons_ne_nil _ _))

/-- Nothing is left to be delivered when the queue of the sender is empty, or its FIN was acked. -/
theorem Spent.all_taken (h : Spent base sender receiver) (hFed : Fed start base sender receiver)
    (hSender : Side start sender) (hSide : Side own receiver)
    (hDone : sender.snd.curWindowPackets = 0 ∨ sender.finSentAcked = true) :
    base + receiver.taken = (packetsOf sender.traffic).length := by
  have hTaken := hFed.taken_le
  rcases hDone with hEmpty | hAcked
  · have hFront := h.front_le fun k hk hGot => hFed.not_got hSide hSender.closing hk hGot
    omega
  · have hAll := (h.fin hAcked).2
    omega

theorem Fed.stream_all (h : Fed start base sender receiver)
    (hHead : ((packetsOf sender.traffic).take base).flatMap Prod.snd = [])
    (hAll : base + receiver.taken = (packetsOf sender.traffic).length) : receivedOf receiver.log = writtenOf sender.log := by
  rw [h.stream hHead, hAll, List.drop_length]
  exact (List.append_nil _).symm

/-- The end of the stream is reported when all of it has been delivered. -/
theorem Fed.eof_all (h : Fed start base sender receiver) (hSender : Side start sender) (hSide : Side own receiver)
    (hEof : .onStateChange .eof ∈ receiver.log) :
    base + receiver.taken = (packetsOf sender.traffic).length ∧ (packetsOf sender.log).getLast? = some (stFin, []) := by
  have hStory : .onStateChange .eof ∈ receiver.trace.story := List.mem_filter.2 ⟨hEof, rfl⟩
  have hReached : receiver.rcv.gotFinReached = true := by
    by_contra hNot
    have hNone := hSide.concluded.pending (eq_false_of_ne_true hNot) _ hStory
    cases hNone
  obtain ⟨-, e, bytes, hAt, hTaken⟩ := h.eof hReached
  obtain ⟨hFin, hLast⟩ := hSender.closing.last e bytes (Conn.settled_getElem? hAt)
  obtain ⟨front, hPackets⟩ := hSender.closing.fin hFin
  refine ⟨hTaken.trans hLast, ?_⟩
  rw [← packetsOf_traffic]
  change (packetsOf sender.traffic).getLast? = _
  rw [hPackets, List.getLast?_concat]

theorem Accord.head (h : Accord s0 t0 a b) : ((packetsOf a.traffic).take 1).flatMap Prod.snd = [] := by
  have hFirst := Conn.settled_getElem? h.syn
  cases hPackets : packetsOf a.traffic with
  | nil => rfl
  | cons x rest =>
      rw [hPackets] at hFirst
      cases hFirst
      rfl

end Ends

section Contexts

variable {envA envB : Env} {c a b : Context} {p q : Nat} {s : Conn} {sock : Socket}

theorem Context.Shows.streams (h : c.Shows p s) : writtenOf (c.logs p) = writtenOf s.log ∧
    receivedOf (c.logs p) = receivedOf s.log ∧ readsOf (c.logs p) = readsOf s.log := by
  obtain ⟨-, ⟨-, hLog⟩ | ⟨sock, -, rfl⟩⟩ := h
  · rw [hLog, writtenOf_append, receivedOf_append, readsOf_append]
    exact ⟨List.append_nil _, List.append_nil _, List.append_nil _⟩
  · exact ⟨rfl, rfl, rfl⟩

theorem Context.Shows.of_holds (h : c.Shows p s) (hSock : c.Holds p sock) : c.enter p sock = s := by
  obtain ⟨-, ⟨hNone, -⟩ | ⟨sock', hSock', hSame⟩⟩ := h
  · rw [hSock.1] at hNone
    cases hNone
  · cases Option.some.inj (hSock.1.symm.trans hSock'.1)
    exact hSame

/-- The last entry of a socket that is gone is not about the end of its stream. -/
theorem Context.Shows.eof (h : c.Shows p s) (hEof : .onStateChange .eof ∈ c.logs p) : .onStateChange .eof ∈ s.log := by
  obtain ⟨-, ⟨-, hLog⟩ | ⟨sock, -, rfl⟩⟩ := h
  · rw [hLog, List.mem_append, List.mem_singleton] at hEof
    exact hEof.resolve_right (by decide)
  · exact hEof

theorem Context.holds_of_stateIs (h : c.stateIs p (· != .uninitialized) = true) : ∃ sock, c.Holds p sock := by
  obtain ⟨sock, hSock, hState⟩ := stateIs_spec _ h
  exact ⟨sock, hSock, bne_iff_ne.1 hState⟩

/-- Dial, accept, and follow a schedule. -/
def followed (moves : List Move) (ok : Context → Context → Bool) : Bool :=
  ((utpInit true true).run (seededEnv 7) [.createSocket]).any fun a₀ =>
    (a₀.step (seededEnv 7) (.connect 0 somePeer 1)).any fun a =>
      (a.logs 0).contains (.sendto (firstSyn 7) 0) &&
      ((utpInit true true).step (seededEnv 7) (.processUdp ((firstSyn 7).received fun _ => 0) otherPeer)).any fun b =>
        (b.sockets 0).isSome && (playAll (seededEnv 7) (seededEnv 7) 0 0 moves a b).any fun ends => ok ends.1 ends.2

theorem exists_link {moves : List Move} {ok : Context → Context → Bool} (h : followed moves ok = true) :
    ∃ a b, Link (seededEnv 7) (seededEnv 7) 0 0 a b ∧ ok a b = true := by
  unfold followed at h
  simp only [Bool.and_eq_true, List.contains_iff_mem, Option.any_eq_true, Option.isSome_iff_ne_none] at h
  obtain ⟨a₀, hRun, a, hDial, hSent, b, hAccept, hThere, ⟨a', b'⟩, hPlay, hOk⟩ := h
  have hReach : a₀.Reachable (seededEnv 7) := Context.Reachable.run _ (.init true true) hRun
  have hOpened : Link (seededEnv 7) (seededEnv 7) 0 0 a b :=
    .opened a₀ a a (utpInit true true) b otherPeer somePeer 1 (firstSyn 7) 0 (fun _ => 0) hReach hDial .now hSent
      (.init true true) rfl hAccept hThere
  exact ⟨a', b', hOpened.playAll hPlay, hOk⟩

/-- A packet with data, or with the end of the stream, of the dialled socket. -/
def dataPacket (type seqNr : Nat) (bytes : List UInt8) : Wire := ⟨⟨type, 1, 0, 8, 1000000, 0, 1048576, seqNr, 6⟩, bytes⟩

/-- An ack of the accepted socket. -/
def ackPacketOf (ackNr : Nat) : Wire := ⟨⟨stState, 1, 0, 7, 1000000, 0, 1048576, 7, ackNr⟩, []⟩

/-- Three bytes are written and arrive twice. -/
def sendTwice : List Move := [.toLeft (firstAck 7) 0 somePeer, .left (.writev 0 [[1, 2, 3]]),
  .toRight (dataPacket stData 8 [1, 2, 3]) 0 otherPeer, .toRight (dataPacket stData 8 [1, 2, 3]) 0 otherPeer]

/-- The dialled socket is closed, and its FIN is sent when its data has been acked. -/
def sendAndClose : List Move := sendTwice ++ [.left (.close 0), .right .issueDeferredAcks,
  .toLeft (ackPacketOf 8) 0 somePeer, .left (.checkTimeouts [0]), .toRight (dataPacket stFin 9 []) 0 otherPeer]

/-- Reliable transport, safety. Whatever the network loses, delays, reorders or repeats, the bytes
that the program at one end is given to read are the first bytes of those that were written at the
other end: none is missing, doubled, out of order or made up. This holds in both directions. -/
theorem reads_prefix_of_writes (envA envB : Env) (p q : Nat) (a b : Context) (hLink : Link envA envB p q a b) :
    (readsOf (b.logs q)).flatten <+: writtenOf (a.logs p) ∧ (readsOf (a.logs p)).flatten <+: writtenOf (b.logs q) := by
  obtain ⟨-, s0, t0, sa, sb, hShowsA, hShowsB, h⟩ := hLink.accord
  obtain ⟨hWrittenA, -, hReadsA⟩ := hShowsA.streams
  obtain ⟨hWrittenB, -, hReadsB⟩ := hShowsB.streams
  rw [hWrittenA, hWrittenB, hReadsA, hReadsB]
  constructor
  · rw [h.fedB.stream h.head]
    exact h.acceptor.reads.1.trans (List.prefix_append _ _)
  · rw [h.fedA.stream rfl]
    exact h.dialler.reads.1.trans (List.prefix_append _ _)

/-- Three bytes are written, arrive twice, and are read once. -/
theorem reads_prefix_of_writes_twice : ∃ a b, Link (seededEnv 7) (seededEnv 7) 0 0 a b ∧
    writtenOf (a.logs 0) = [1, 2, 3] ∧ (readsOf (b.logs 0)).flatten = [1, 2, 3] ∧
      (readsOf (b.logs 0)).flatten <+: writtenOf (a.logs 0) := by
  have hRun : followed sendTwice (fun a b => writtenOf (a.logs 0) == [1, 2, 3] && (readsOf (b.logs 0)).flatten == [1, 2, 3]) =
      true := by
    decide +kernel
  obtain ⟨a, b, hLink, hOk⟩ := exists_link hRun
  simp only [Bool.and_eq_true, beq_iff_eq] at hOk
  exact ⟨a, b, hLink, hOk.1, hOk.2, (reads_prefix_of_writes _ _ 0 0 a b hLink).1⟩

/-- No packet is lost while both ends are there: what was queued at one end is still in its queue, or
was delivered at the other end, or waits in the reorder buffer there, with the same bytes under the
same number. The SYN of the dialled socket is none of the stream. -/
theorem packets_accounted (envA envB : Env) (p q : Nat) (a b : Context) (hLink : Link envA envB p q a b)
    (sockA sockB : Socket) (hSockA : a.Holds p sockA) (hSockB : b.Holds q sockB) :
    Accounted 1 (a.enter p sockA) (b.enter q sockB) ∧ Accounted 0 (b.enter q sockB) (a.enter p sockA) := by
  obtain ⟨-, s0, t0, sa, sb, hShowsA, hShowsB, h⟩ := hLink.accord
  rw [hShowsA.of_holds hSockA, hShowsB.of_holds hSockB]
  refine ⟨h.spentA.accounted h.fedB h.dialler h.acceptor h.answered, ?_⟩
  rcases h.heard with hGreeting | hAnswered
  · intro k type bytes _ hAt
    have hNone : packetsOf sb.log = [] := by
      rw [← packetsOf_traffic]
      refine h.silent ?_
      rw [hGreeting.packets]
      exact le_rfl
    rw [hNone] at hAt
    cases hAt
  · exact h.spentB.accounted h.fedA h.acceptor h.dialler hAnswered

/-- The packet with the three bytes is still in the queue, and has been delivered. -/
theorem packets_accounted_twice : ∃ (a b : Context) (sockA sockB : Socket), Link (seededEnv 7) (seededEnv 7) 0 0 a b ∧
    a.Holds 0 sockA ∧ b.Holds 0 sockB ∧ packetsOf (a.logs 0) = [(stSyn, []), (stData, [1, 2, 3])] ∧
      Accounted 1 (a.enter 0 sockA) (b.enter 0 sockB) := by
  have hRun : followed sendTwice (fun a b => a.stateIs 0 (· != .uninitialized) && b.stateIs 0 (· != .uninitialized) &&
      packetsOf (a.logs 0) == [(stSyn, []), (stData, [1, 2, 3])]) = true := by
    decide +kernel
  obtain ⟨a, b, hLink, hOk⟩ := exists_link hRun
  simp only [Bool.and_eq_true, beq_iff_eq] at hOk
  obtain ⟨⟨hThereA, hThereB⟩, hPackets⟩ := hOk
  obtain ⟨sockA, hSockA⟩ := Context.holds_of_stateIs hThereA
  obtain ⟨sockB, hSockB⟩ := Context.holds_of_stateIs hThereB
  exact ⟨a, b, sockA, sockB, hLink, hSockA, hSockB, hPackets,
    (packets_accounted _ _ 0 0 a b hLink sockA sockB hSockA hSockB).1⟩

/-- When the queue of one end is empty, or its FIN was acked, the other end has received all that was
written. -/
theorem empty_queue_received (envA envB : Env) (p q : Nat) (a b : Context) (hLink : Link envA envB p q a b) :
    (∀ sock, a.Holds p sock → sock.snd.curWindowPackets = 0 ∨ sock.finSentAcked = true →
      receivedOf (b.logs q) = writtenOf (a.logs p)) ∧
    ∀ sock, b.Holds q sock → sock.snd.curWindowPackets = 0 ∨ sock.finSentAcked = true →
      receivedOf (a.logs p) = writtenOf (b.logs q) := by
  obtain ⟨-, s0, t0, sa, sb, hShowsA, hShowsB, h⟩ := hLink.accord
  obtain ⟨hWrittenA, hReceivedA, -⟩ := hShowsA.streams
  obtain ⟨hWrittenB, hReceivedB, -⟩ := hShowsB.streams
  rw [hWrittenA, hWrittenB, hReceivedA, hReceivedB]
  constructor
  · intro sock hSock hDone
    obtain rfl := hShowsA.of_holds hSock
    exact h.fedB.stream_all h.head (h.spentA.all_taken h.fedB h.dialler h.acceptor hDone)
  · intro sock hSock hDone
    obtain rfl := hShowsB.of_holds hSock
    exact h.fedA.stream_all rfl (h.spentB.all_taken h.fedA h.acceptor h.dialler hDone)

/-- The FIN of the dialled socket has been acked, and the three bytes are there. -/
theorem empty_queue_received_closed : ∃ (a b : Context) (sock : Socket), Link (seededEnv 7) (seededEnv 7) 0 0 a b ∧
    a.Holds 0 sock ∧ sock.finSentAcked = true ∧ writtenOf (a.logs 0) = [1, 2, 3] ∧
      receivedOf (b.logs 0) = writtenOf (a.logs 0) := by
  have hRun : followed (sendAndClose ++ [.toLeft (ackPacketOf 9) 0 somePeer]) (fun a _ =>
      a.stateIs 0 (· != .uninitialized) && (a.sockets 0).all (·.finSentAcked) && writtenOf (a.logs 0) == [1, 2, 3]) =
      true := by
    decide +kernel
  obtain ⟨a, b, hLink, hOk⟩ := exists_link hRun
  simp only [Bool.and_eq_true, beq_iff_eq] at hOk
  obtain ⟨⟨hThere, hAcked⟩, hWritten⟩ := hOk
  obtain ⟨sock, hSock⟩ := Context.holds_of_stateIs hThere
  rw [hSock.1] at hAcked
  exact ⟨a, b, sock, hLink, hSock, hAcked, hWritten,
    (empty_queue_received _ _ 0 0 a b hLink).1 sock hSock (Or.inr hAcked)⟩

/-- The end of the stream is reported to the program at one end only after the other end has sent its
FIN, and all that was written there has been received; and if reading was not shut down, the program
was given all of it. -/
theorem eof_reports_whole_stream (envA envB : Env) (p q : Nat) (a b : Context) (hLink : Link envA envB p q a b) :
    (.onStateChange .eof ∈ b.logs q → (packetsOf (a.logs p)).getLast? = some (stFin, []) ∧
      receivedOf (b.logs q) = writtenOf (a.logs p) ∧ ∀ sock, b.Holds q sock → sock.rcv.readShutdown = false →
        (readsOf (b.logs q)).flatten = writtenOf (a.logs p)) ∧
    (.onStateChange .eof ∈ a.logs p → (packetsOf (b.logs q)).getLast? = some (stFin, []) ∧
      receivedOf (a.logs p) = writtenOf (b.logs q) ∧ ∀ sock, a.Holds p sock → sock.rcv.readShutdown = false →
        (readsOf (a.logs p)).flatten = writtenOf (b.logs q)) := by
  obtain ⟨-, s0, t0, sa, sb, hShowsA, hShowsB, h⟩ := hLink.accord
  obtain ⟨hWrittenA, hReceivedA, hReadsA⟩ := hShowsA.streams
  obtain ⟨hWrittenB, hReceivedB, hReadsB⟩ := hShowsB.streams
  have hPackets : packetsOf (a.logs p) = packetsOf sa.log ∧ packetsOf (b.logs q) = packetsOf sb.log := by
    rw [← packetsOf_traffic (a.logs p), ← packetsOf_traffic (b.logs q), hShowsA.traffic, hShowsB.traffic]
    exact ⟨packetsOf_traffic _, packetsOf_traffic _⟩
  rw [hWrittenA, hWrittenB, hReceivedA, hReceivedB, hReadsA, hReadsB, hPackets.1, hPackets.2]
  constructor
  · intro hEof
    obtain ⟨hAll, hFin⟩ := h.fedB.eof_all h.dialler h.acceptor (hShowsB.eof hEof)
    have hStream := h.fedB.stream_all h.head hAll
    refine ⟨hFin, hStream, fun sock hSock hOpen => ?_⟩
    obtain rfl := hShowsB.of_holds hSock
    exact (h.acceptor.reads.2 hOpen).trans hStream
  · intro hEof
    obtain ⟨hAll, hFin⟩ := h.fedA.eof_all h.acceptor h.dialler (hShowsA.eof hEof)
    have hStream := h.fedA.stream_all rfl hAll
    refine ⟨hFin, hStream, fun sock hSock hOpen => ?_⟩
    obtain rfl := hShowsA.of_holds hSock
    exact (h.dialler.reads.2 hOpen).trans hStream

/-- The three bytes and the end of the stream are reported to the program. -/
theorem eof_reports_whole_stream_closed : ∃ a b, Link (seededEnv 7) (seededEnv 7) 0 0 a b ∧
    .onStateChange .eof ∈ b.logs 0 ∧ writtenOf (a.logs 0) = [1, 2, 3] ∧ receivedOf (b.logs 0) = writtenOf (a.logs 0) := by
  have hRun : followed sendAndClose (fun a b => (b.logs 0).contains (.onStateChange .eof) &&
      writtenOf (a.logs 0) == [1, 2, 3]) = true := by
    decide +kernel
  obtain ⟨a, b, hLink, hOk⟩ := exists_link hRun
  simp only [Bool.and_eq_true, beq_iff_eq, List.contains_iff_mem] at hOk
  exact ⟨a, b, hLink, hOk.1, hOk.2, ((eof_reports_whole_stream _ _ 0 0 a b hLink).1 hOk.1).2.1⟩

/-- Reliability from end to end. One end of a connection was dialled, the other was created for its SYN,
and the network may drop, duplicate, delay and reorder their packets, but forges none and delivers none
that is too old. In every state reached while both ends are there, and in both directions: what is passed
to `on_read` is the first part of what was written, a packet leaves the queue only when the peer has it,
and the FIN is acked only when the peer has reached it. What was written are the bytes that the calls of
`utp_writev` have accepted, from before the socket was created. -/
theorem connection_is_reliable (envA envB : Env) (p q : Nat) (a b : Context) (hLink : Link envA envB p q a b)
    (sockA sockB : Socket) (hSockA : a.Holds p sockA) (hSockB : b.Holds q sockB) :
    (Delivers 1 (a.enter p sockA) (b.enter q sockB) ∧ Delivers 0 (b.enter q sockB) (a.enter p sockA)) ∧
      (∀ (c : Context) ops, c.Reachable envA → c.allocated ≤ p → c.run envA ops = some a →
        writtenOf (a.logs p) = c.writesAlong envA p ops) ∧
      ∀ (c : Context) ops, c.Reachable envB → c.allocated ≤ q → c.run envB ops = some b →
        writtenOf (b.logs q) = c.writesAlong envB q ops := by
  have hAccepted : ∀ {env : Env} {c c' : Context} {ops : List Op} {r : Nat}, c.Reachable env → c.allocated ≤ r →
      c.run env ops = some c' → writtenOf (c'.logs r) = c.writesAlong env r ops := by
    intro env c c' ops r hReach hNew hRun
    rw [hReach.written_run hRun, hReach.fresh r hNew]
    rfl
  refine ⟨?_, fun c ops => hAccepted, fun c ops => hAccepted⟩
  obtain ⟨-, s0, t0, sa, sb, hShowsA, hShowsB, h⟩ := hLink.accord
  rw [hShowsA.of_holds hSockA, hShowsB.of_holds hSockB]
  refine ⟨h.spentA.delivers h.fedB h.dialler h.acceptor h.answered h.head, ?_⟩
  rcases h.heard with hGreeting | hAnswered
  · refine h.spentB.delivers_nothing h.acceptor h.dialler h.fedA (h.silent ?_)
    rw [hGreeting.packets]
    exact le_rfl
  · exact h.spentB.delivers h.fedA h.acceptor h.dialler hAnswered rfl

/-- The dialled socket has written three bytes and closed, and the ack of its FIN has arrived. -/
theorem connection_is_reliable_closed : ∃ (a b : Context) (sockA sockB : Socket), Link (seededEnv 7) (seededEnv 7) 0 0 a b ∧
    a.Holds 0 sockA ∧ b.Holds 0 sockB ∧ sockA.finSentAcked = true ∧ writtenOf (a.logs 0) = [1, 2, 3] ∧
      Delivers 1 (a.enter 0 sockA) (b.enter 0 sockB) := by
  have hRun : followed (sendAndClose ++ [.toLeft (ackPacketOf 9) 0 somePeer]) (fun a b => a.stateIs 0 (· != .uninitialized) && b.stateIs 0 (· != .uninitialized) &&
      ((a.sockets 0).all (·.finSentAcked) && writtenOf (a.logs 0) == [1, 2, 3])) = true := by
    decide +kernel
  obtain ⟨a, b, hLink, hOk⟩ := exists_link hRun
  simp only [Bool.and_eq_true, beq_iff_eq] at hOk
  obtain ⟨⟨hThereA, hThereB⟩, hAcked, hWritten⟩ := hOk
  obtain ⟨sockA, hSockA⟩ := Context.holds_of_stateIs hThereA
  obtain ⟨sockB, hSockB⟩ := Context.holds_of_stateIs hThereB
  rw [hSockA.1] at hAcked
  exact ⟨a, b, sockA, sockB, hLink, hSockA, hSockB, hAcked, hWritten,
    (connection_is_reliable _ _ 0 0 a b hLink sockA sockB hSockA hSockB).1.1⟩

end Contexts

end Utp
