import Utp.Invariant.Ending
import Utp.Invariant.Labels
import Utp.Invariant.Answers

/-! Two sockets of one connection. The packets that the sender has queued are numbered from zero;
`base` is the number of the first one that the receiver is to deliver, which is 1 if the stream
starts with a SYN. -/
namespace Utp

open Wrapping

/-- One end of a connection on its own. -/
structure Side (start : Nat) (s : Conn) : Prop where
  core : Core s
  live : s.Live
  delivery : Delivery s
  unfed : Unfed s
  labelled : Labelled True s
  booked : Booked start s
  closing : Sealed s
  concluded : Concluded s

section Side

variable {env : Env} {cause : Cause} {start : Nat} {s s' : Conn}

theorem Side.trans (h : Side start s) (hTrans : Trans env cause s s') : Side start s' where
  core := h.core.trans hTrans
  live := (hTrans.keeps h.core h.live).1
  delivery := h.delivery.trans h.core h.live hTrans
  unfed := h.unfed.trans h.core h.live h.delivery hTrans
  labelled := h.labelled.trans h.core h.live (fun _ => trivial) hTrans
  booked := h.booked.trans h.core h.live hTrans
  closing := h.closing.writes (hTrans.writes h.core h.live h.booked.state)
  concluded := h.concluded.trans h.delivery h.core h.live hTrans

theorem Side.count_le (h : Side start s) : s.snd.curWindowPackets ≤ 1024 := h.core.view.queue.count_le_limit

end Side

/-- The packet `k` of the peer has arrived. -/
def Conn.Got (base k : Nat) (s : Conn) : Prop :=
  k < base + s.taken ∨ ∃ x ∈ offersOf s.traffic, base + x.1 = k

/-- What the receiver has got and delivered are packets of the sender, at the same places of the
stream; and the end of the stream is where the sender has put it. -/
structure Fed (start base : Nat) (sender receiver : Conn) : Prop where
  base_le : base ≤ (packetsOf sender.traffic).length
  offered : ∀ x ∈ offersOf receiver.traffic, ∃ type, sender.settled[base + x.1]? = some (type, x.2.2)
  consumed : ∀ (i : Nat) (x : Nat × List UInt8), (consumedOf receiver.traffic)[i]? = some x →
    ∃ type, sender.settled[base + i]? = some (type, x.2)
  fin : receiver.rcv.gotFin = true →
    ∃ (e : Nat) (bytes : List UInt8), sender.settled[e]? = some (stFin, bytes) ∧ receiver.rcv.eofPkt = u16 (start + e)
  eof : receiver.rcv.gotFinReached = true → receiver.rcv.reorderCount = 0 ∧
    ∃ (e : Nat) (bytes : List UInt8), sender.settled[e]? = some (stFin, bytes) ∧ base + receiver.taken = e + 1

/-- The sender has taken out of its queue only what the receiver has got. -/
structure Spent (base : Nat) (sender receiver : Conn) : Prop where
  removed : ∀ k < (packetsOf sender.traffic).length,
    sender.packetAt ((packetsOf sender.traffic).length - 1 - k) = none → receiver.Got base k
  fin : sender.finSentAcked = true →
    sender.finSent = true ∧ (packetsOf sender.traffic).length ≤ base + receiver.taken

theorem Conn.settled_getElem? {s : Conn} {k : Nat} {x : Nat × List UInt8} (h : s.settled[k]? = some x) :
    (packetsOf s.traffic)[k]? = some x := by
  obtain ⟨rest, hRest⟩ := s.settled_prefix
  have hIn := (List.getElem?_eq_some_iff.1 h).1
  rw [← hRest, List.getElem?_append_left hIn, h]

theorem Conn.lt_of_settled {s : Conn} {k : Nat} {x : Nat × List UInt8} (h : s.settled[k]? = some x) :
    k < (packetsOf s.traffic).length := (List.getElem?_eq_some_iff.1 (Conn.settled_getElem? h)).1

theorem getElem?_of_prefix {α : Type} {front whole : List α} (h : front <+: whole) {k : Nat} {x : α}
    (hAt : front[k]? = some x) : whole[k]? = some x := by
  obtain ⟨rest, rfl⟩ := h
  rw [List.getElem?_append_left (List.getElem?_eq_some_iff.1 hAt).1, hAt]

section Bounds

variable {start own base : Nat} {sender receiver : Conn}

/-- The receiver is not ahead of the sender. -/
theorem Fed.taken_le (h : Fed start base sender receiver) :
    base + receiver.taken ≤ (packetsOf sender.traffic).length := by
  cases hTaken : receiver.taken with
  | zero => exact h.base_le
  | succ n =>
      have hIn : n < (consumedOf receiver.traffic).length := by
        unfold Conn.taken at hTaken
        omega
      obtain ⟨type, hAt⟩ := h.consumed n _ (List.getElem?_eq_getElem hIn)
      exact Conn.lt_of_settled hAt

/-- The receiver has not got the packet that it waits for. -/
theorem Fed.not_got (h : Fed start base sender receiver) (hSide : Side own receiver) (hClosing : Sealed sender)
    {k : Nat} (hk : k < (packetsOf sender.traffic).length) (hGot : receiver.Got base k) :
    k ≠ base + receiver.taken := by
  rcases hGot with hLt | ⟨x, hx, hPlace⟩
  · exact hLt.ne
  · intro hNext
    have hFirst : x.1 = (consumedOf receiver.trace.story).length := by
      rw [← receiver.taken_eq]
      omega
    rw [receiver.offers_eq] at hx
    cases hFin : receiver.rcv.gotFinReached with
    | true =>
        obtain ⟨-, e, bytes, hEof, hTaken⟩ := h.eof hFin
        have hLast := (hClosing.last e bytes (Conn.settled_getElem? hEof)).2
        omega
    | false =>
        have hMissing : receiver.rcv.inbuf.get (receiver.rcv.ackNr + 1) = none := hSide.core.view.next hFin
        rcases hSide.delivery with ⟨-, -, -, hNone, -⟩ | ⟨first, -, -, hFlow⟩
        · rw [hNone] at hx
          cases hx
        · have hLookup := hFlow.next_eq hFin
          rw [hMissing, Option.map_none, List.lookup_eq_none_iff] at hLookup
          exact absurd hFirst.symm (by simpa using hLookup x hx)

/-- The window of the sender starts where the receiver is, or before, if the receiver has not got
the packet that it waits for. -/
theorem Spent.front_le (h : Spent base sender receiver) (hNext : ∀ k < (packetsOf sender.traffic).length,
      receiver.Got base k → k ≠ base + receiver.taken) :
    (packetsOf sender.traffic).length ≤ base + receiver.taken + sender.snd.curWindowPackets := by
  by_contra hAhead
  refine hNext (base + receiver.taken) (by omega) (h.removed _ (by omega) ?_) rfl
  unfold Conn.packetAt
  rw [if_neg (by omega)]

theorem Spent.near (h : Spent base sender receiver) (hSender : Side start sender) (hSide : Side own receiver)
    (hFed : Fed start base sender receiver) :
    (packetsOf sender.traffic).length ≤ base + receiver.taken + 1024 := by
  have hFront := h.front_le fun k hk hGot => hFed.not_got hSide hSender.closing hk hGot
  have hCount := hSender.count_le
  omega

end Bounds

/-- What a packet of `peer` tells the other socket, whose own packets start with the number `own`
on the wire. If it carries data, it is a packet that the peer has queued, and not too many were
queued since; what it acks the peer has got, and not too many packets were consumed since; and a
peer that has queued nothing sends nothing but acks. -/
structure Heard (own start base baseIn : Nat) (peer : Conn) (r : Received) : Prop where
  data : r.d.header.type ≠ stState → ∃ k : Nat, baseIn ≤ k ∧ (packetsOf peer.traffic).length ≤ k + 33792 ∧
    r.d.header.seqNr = u16 (start + k) ∧ peer.settled[k]? = some (r.d.header.type, r.d.drop r.data)
  ack : ∃ count late : Nat, late ≤ 1 ∧ count ≤ peer.taken ∧ peer.taken ≤ count + 32768 ∧
    r.d.header.ackNr = u16 (own + base + count - 1 - late) ∧
    ∀ (mask : SackMask) (bits : Nat), r.selack = some mask → bits < mask.extLen * 8 → mask.bit r.d bits = true →
      ∃ x ∈ offersOf peer.traffic, x.1 + late = count + 1 + bits
  first : packetsOf peer.traffic = [] → r.d.header.type = stState ∧ r.d.header.seqNr = u16 start

section Receiver

variable {env : Env} {cause : Cause} {own start base baseOut : Nat} {sender sender' s s' : Conn} {r : Received}

/-- The sender goes on. -/
theorem Fed.of_sender (h : Fed start base sender s) (hSettled : sender.settled <+: sender'.settled)
    (hMore : (packetsOf sender.traffic).length ≤ (packetsOf sender'.traffic).length) : Fed start base sender' s where
  base_le := h.base_le.trans hMore
  offered x hx := by
    obtain ⟨type, hAt⟩ := h.offered x hx
    exact ⟨type, getElem?_of_prefix hSettled hAt⟩
  consumed i x hx := by
    obtain ⟨type, hAt⟩ := h.consumed i x hx
    exact ⟨type, getElem?_of_prefix hSettled hAt⟩
  fin hFin := by
    obtain ⟨e, bytes, hAt, hEof⟩ := h.fin hFin
    exact ⟨e, bytes, getElem?_of_prefix hSettled hAt, hEof⟩
  eof hReached := by
    obtain ⟨hNone, e, bytes, hAt, hTaken⟩ := h.eof hReached
    exact ⟨hNone, e, bytes, getElem?_of_prefix hSettled hAt, hTaken⟩

/-- Nothing is received. -/
theorem Fed.aside (h : Fed start base sender s) (hOffers : offersOf s'.traffic = offersOf s.traffic)
    (hConsumed : consumedOf s'.traffic = consumedOf s.traffic) (hCount : s'.rcv.reorderCount = s.rcv.reorderCount)
    (hFin : s'.rcv.gotFin = s.rcv.gotFin) (hReached : s'.rcv.gotFinReached = s.rcv.gotFinReached)
    (hEof : s'.rcv.eofPkt = s.rcv.eofPkt) : Fed start base sender s' := by
  have hTaken : s'.taken = s.taken := congrArg List.length hConsumed
  refine ⟨h.base_le, ?_, ?_, ?_, ?_⟩
  · rw [hOffers]
    exact h.offered
  · rw [hConsumed]
    exact h.consumed
  · rw [hFin, hEof]
    exact h.fin
  · rw [hReached, hCount, hTaken]
    exact h.eof

/-- The place in the stream of a packet that is not too far from the next one. -/
theorem Heard.place (h : Heard own start baseOut base sender r) (hFed : Fed start base sender s)
    (hNear : (packetsOf sender.traffic).length ≤ base + s.taken + 1024) (hAnswered : Answered (start + base) s)
    (hData : r.d.header.type ≠ stState) (hOffset : s.seqOffset r.d.header < 1024) :
    base + s.taken + s.seqOffset r.d.header < (packetsOf sender.traffic).length ∧
      sender.settled[base + (s.taken + s.seqOffset r.d.header)]? = some (r.d.header.type, r.d.drop r.data) := by
  obtain ⟨k, -, hAge, hSeq, hAt⟩ := h.data hData
  have hIn := Conn.lt_of_settled hAt
  have hTaken := hFed.taken_le
  have hSeqMod := u16_emod (start + k)
  have hAckMod := u16_emod ((start + base : Nat) + s.taken - 1)
  have hOffsetMod := u16_emod (r.d.header.seqNr - s.rcv.ackNr - 1)
  rw [← hSeq] at hSeqMod
  rw [← hAnswered.aligned] at hAckMod
  change ((s.seqOffset r.d.header : Nat) : Int) % 65536 = _ at hOffsetMod
  obtain rfl : k = base + (s.taken + s.seqOffset r.d.header) := by omega
  exact ⟨by omega, hAt⟩

/-- The end of the stream has not been reached as long as there is a next packet. -/
theorem Fed.not_reached (h : Fed start base sender s) (hClosing : Sealed sender)
    (hNext : base + s.taken < (packetsOf sender.traffic).length) : s.rcv.gotFinReached = false := by
  refine Bool.eq_false_iff.2 fun hReached => ?_
  obtain ⟨-, e, bytes, hAt, hTaken⟩ := h.eof hReached
  have hLast := (hClosing.last e bytes (Conn.settled_getElem? hAt)).2
  omega

/-- A packet of the sender reaches the delivery code. -/
theorem Fed.accepts (h : Fed start base sender s) (hClosing : Sealed sender) {seqNr offset type : Nat}
    {body : List UInt8} (hAt : sender.settled[base + (s.taken + offset)]? = some (type, body))
    (hTraffic : s'.traffic = s.traffic ++ [.accepted seqNr offset body]) (hFin : s'.rcv.gotFin = s.rcv.gotFin)
    (hReached : s'.rcv.gotFinReached = s.rcv.gotFinReached) (hEof : s'.rcv.eofPkt = s.rcv.eofPkt) :
    Fed start base sender s' := by
  have hOffers : offersOf s'.traffic = offersOf s.traffic ++ [(s.taken + offset, seqNr, body)] := by
    rw [hTraffic, offersOf_append]
    rfl
  have hConsumed : consumedOf s'.traffic = consumedOf s.traffic := by
    rw [hTraffic, consumedOf_append]
    exact List.append_nil _
  have hOpen : s.rcv.gotFinReached = false := by
    refine h.not_reached hClosing ?_
    have hIn := Conn.lt_of_settled hAt
    omega
  refine ⟨h.base_le, fun x hx => ?_, ?_, ?_, fun hEnd => ?_⟩
  · rw [hOffers, List.mem_append, List.mem_singleton] at hx
    rcases hx with hOld | rfl
    · exact h.offered x hOld
    · exact ⟨type, hAt⟩
  · rw [hConsumed]
    exact h.consumed
  · rw [hFin, hEof]
    exact h.fin
  · rw [hReached, hOpen] at hEnd
    cases hEnd

/-- The next packet of the sender is delivered. -/
theorem Fed.consumes (h : Fed start base sender s) (hClosing : Sealed sender) {seqNr type : Nat} {body : List UInt8}
    (hAt : sender.settled[base + s.taken]? = some (type, body))
    (hTraffic : s'.traffic = s.traffic ++ [.consumed seqNr body]) (hFin : s'.rcv.gotFin = s.rcv.gotFin)
    (hReached : s'.rcv.gotFinReached = s.rcv.gotFinReached) (hEof : s'.rcv.eofPkt = s.rcv.eofPkt) :
    Fed start base sender s' := by
  have hOffers : offersOf s'.traffic = offersOf s.traffic := by
    rw [hTraffic, offersOf_append]
    exact List.append_nil _
  have hConsumed : consumedOf s'.traffic = consumedOf s.traffic ++ [(seqNr, body)] := by
    rw [hTraffic, consumedOf_append]
    rfl
  have hOpen := h.not_reached hClosing (Conn.lt_of_settled hAt)
  refine ⟨h.base_le, ?_, fun i x hx => ?_, ?_, fun hEnd => ?_⟩
  · rw [hOffers]
    exact h.offered
  · rw [hConsumed] at hx
    by_cases hOld : i < (consumedOf s.traffic).length
    · rw [List.getElem?_append_left hOld] at hx
      exact h.consumed i x hx
    · have hIn := (List.getElem?_eq_some_iff.1 hx).1
      rw [List.length_append, List.length_singleton] at hIn
      obtain rfl : i = (consumedOf s.traffic).length := by omega
      rw [List.getElem?_concat_length] at hx
      cases hx
      exact ⟨type, hAt⟩
  · rw [hFin, hEof]
    exact h.fin
  · rw [hReached, hOpen] at hEnd
    cases hEnd

/-- The FIN has been noted, and everything before it was delivered. -/
theorem Fed.reaches (h : Fed start base sender s) (hClosing : Sealed sender)
    (hNear : (packetsOf sender.traffic).length ≤ base + s.taken + 1024) (hAnswered : Answered (start + base) s)
    (hFin : s.rcv.gotFin = true) (hEof : s.rcv.eofPkt = s.rcv.ackNr) :
    ∃ (e : Nat) (bytes : List UInt8), sender.settled[e]? = some (stFin, bytes) ∧ base + s.taken = e + 1 := by
  obtain ⟨e, bytes, hAt, hNumber⟩ := h.fin hFin
  have hLast := (hClosing.last e bytes (Conn.settled_getElem? hAt)).2
  have hTaken := h.taken_le
  have hEofMod := u16_emod (start + e)
  have hAckMod := u16_emod ((start + base : Nat) + s.taken - 1)
  rw [← hNumber, hEof] at hEofMod
  rw [← hAnswered.aligned] at hAckMod
  exact ⟨e, bytes, hAt, by omega⟩

/-- What holds of the receiver while it delivers what it has got. -/
structure Draining (start base : Nat) (sender s : Conn) : Prop where
  fed : Fed start base sender s
  answered : Answered (start + base) s
  near : (packetsOf sender.traffic).length ≤ base + s.taken + 1024
  loose : LooseOk s.view
  flow : s.state.open = true → ∃ first, Flow first s.trace.story s

theorem Draining.step (h : Draining start base sender s) (hClosing : Sealed sender)
    (hHeard : Heard own start baseOut base sender r) (hStep : DrainStep env r s s') : Draining start base sender s' := by
  have hFlow : s'.state.open = true → ∃ first, Flow first s'.trace.story s' := by
    intro hOpen
    have hSame := congrArg Foreground.state hStep.foreground
    obtain ⟨first, hFirst⟩ := h.flow ((congrArg ConnState.open hSame).symm.trans hOpen)
    exact ⟨first, hFirst.drain hStep h.loose⟩
  have hAnswered := h.answered.drain hStep
  have hLoose := (hStep.loose h.loose).1
  cases hStep with
  | inOrder hOpen hType hOffset hDone =>
      have hPlace := hHeard.place h.fed h.near h.answered hType (by omega)
      rw [hOffset, add_zero] at hPlace
      have hNoted : Fed start base sender (s.emit (.accepted r.d.header.seqNr 0 (r.d.drop r.data))) :=
        h.fed.accepts hClosing hPlace.2 (trafficOf_append _ _) rfl rfl rfl
      have hTaken : (s.emit (.accepted r.d.header.seqNr 0 (r.d.drop r.data))).taken = s.taken := by
        unfold Conn.taken Conn.traffic
        rw [Conn.emit, trafficOf_append, consumedOf_append]
        exact congrArg List.length (List.append_nil _)
      have hView := Conn.view_deliver (r.d.drop r.data) (s.emit (.accepted r.d.header.seqNr 0 (r.d.drop r.data)))
      have hTraffic := Conn.traffic_deliver (r.d.drop r.data) (s.emit (.accepted r.d.header.seqNr 0 (r.d.drop r.data)))
      refine ⟨hNoted.consumes hClosing (hTaken ▸ hPlace.2) hTraffic (congrArg View.gotFin hView)
        (congrArg View.gotFinReached hView) (congrArg View.eofPkt hView), hAnswered, ?_, hLoose, hFlow⟩
      have hMore : s.taken ≤ (Conn.deliver (r.d.drop r.data)
          (s.emit (.accepted r.d.header.seqNr 0 (r.d.drop r.data)))).taken := by
        rw [← hTaken]
        unfold Conn.taken
        rw [hTraffic, consumedOf_append, List.length_append]
        exact Nat.le_add_right _ _
      have hNear := h.near
      omega
  | eof =>
      rcases Conn.reachEof_cases env s with hSame | ⟨hOpen, hFin, hEof, hView, -⟩
      · rw [hSame]
        exact h
      · have hOffers : offersOf (s.reachEof env).traffic = offersOf s.traffic := by
          rcases Conn.traffic_reachEof env s with hSame | ⟨w, flags, -, hTraffic⟩
          · rw [hSame]
          · rw [hTraffic, offersOf_append]
            exact List.append_nil _
        have hConsumed : consumedOf (s.reachEof env).traffic = consumedOf s.traffic := by
          rcases Conn.traffic_reachEof env s with hSame | ⟨w, flags, -, hTraffic⟩
          · rw [hSame]
          · rw [hTraffic, consumedOf_append]
            exact List.append_nil _
        have hTaken : (s.reachEof env).taken = s.taken := congrArg List.length hConsumed
        refine ⟨⟨h.fed.base_le, ?_, ?_, ?_, fun _ => ⟨congrArg View.reorderCount hView, ?_⟩⟩, hAnswered, ?_,
          hLoose, hFlow⟩
        · rw [hOffers]
          exact h.fed.offered
        · rw [hConsumed]
          exact h.fed.consumed
        · intro _
          have hNumber : (s.reachEof env).rcv.eofPkt = s.rcv.eofPkt := congrArg View.eofPkt hView
          rw [hNumber]
          exact h.fed.fin hFin
        · rw [hTaken]
          exact h.fed.reaches hClosing h.near h.answered hFin hEof
        · rw [hTaken]
          exact h.near
  | take p hOpen hCount hGet =>
      have hView := Conn.view_takeReordered p s
      have hTraffic := Conn.traffic_takeReordered p s
      have hBefore : s.rcv.gotFinReached = false :=
        Bool.eq_false_iff.2 fun hReached => hCount (h.fed.eof hReached).1
      obtain ⟨first, hFirst⟩ := h.flow hOpen
      have hLookup := hFirst.next_eq hBefore
      rw [hGet, Option.map_some] at hLookup
      have hMem : ((consumedOf s.trace.story).length, p.offer) ∈ offersOf s.trace.story := by
        obtain ⟨left, right, hSplit, -⟩ := List.lookup_eq_some_iff.1 hLookup
        rw [hSplit]
        exact List.mem_append_right _ (List.mem_cons_self ..)
      rw [← s.offers_eq, ← s.taken_eq] at hMem
      obtain ⟨type, hAt⟩ := h.fed.offered _ hMem
      refine ⟨h.fed.consumes hClosing hAt hTraffic (congrArg View.gotFin hView)
        (congrArg View.gotFinReached hView) (congrArg View.eofPkt hView), hAnswered, ?_, hLoose, hFlow⟩
      have hMore : s.taken ≤ (s.takeReordered p).taken := by
        unfold Conn.taken
        rw [hTraffic, consumedOf_append, List.length_append]
        exact Nat.le_add_right _ _
      have hNear := h.near
      omega

theorem Draining.run (h : Draining start base sender s) (hClosing : Sealed sender)
    (hHeard : Heard own start baseOut base sender r) (hRun : Relation.ReflTransGen (DrainStep env r) s s') :
    Draining start base sender s' := by
  induction hRun with
  | refl => exact h
  | tail _ hStep ih => exact ih.step hClosing hHeard hStep

/-- A packet that is not the next one: it is noted only if it is in reach. -/
theorem Conn.receiveOutOfOrder_cases (seqNr offset : Nat) (body : List UInt8) (s : Conn) :
    s.receiveOutOfOrder seqNr offset body = s ∨ offset < 1024 ∧
      (s.receiveOutOfOrder seqNr offset body).traffic = s.traffic ++ [.accepted seqNr offset body] ∧
      (s.receiveOutOfOrder seqNr offset body).rcv.gotFin = s.rcv.gotFin ∧
      (s.receiveOutOfOrder seqNr offset body).rcv.gotFinReached = s.rcv.gotFinReached ∧
      (s.receiveOutOfOrder seqNr offset body).rcv.eofPkt = s.rcv.eofPkt := by
  by_cases hPast : (s.rcv.gotFin && decide (seqNr > s.rcv.eofPkt)) = true
  · exact Or.inl (if_pos hPast)
  by_cases hFar : offset > 0x3ff
  · refine Or.inl ?_
    unfold Conn.receiveOutOfOrder
    rw [if_neg hPast, if_pos hFar]
  · refine Or.inr ⟨by omega, ?_⟩
    have hStored : ∀ t : Conn, (t.storeReordered seqNr body).traffic = t.traffic := by
      intro t
      unfold Conn.storeReordered Conn.check
      dsimp only
      split_ifs <;> simp [Conn.traffic, trafficOf, Conn.emit, Conn.scheduleAck, Conn.insertReordered,
        Event.isTraffic]
    have hTraffic : (s.receiveOutOfOrder seqNr offset body).traffic = s.traffic ++ [.accepted seqNr offset body] := by
      have hTold : ((s.growInbuf seqNr offset).emit (.accepted seqNr offset body)).traffic =
          s.traffic ++ [.accepted seqNr offset body] := trafficOf_append s.log _
      unfold Conn.receiveOutOfOrder
      rw [if_neg hPast, if_neg hFar]
      dsimp only
      split_ifs
      · exact hTold
      · exact (hStored _).trans hTold
    refine ⟨hTraffic, ?_⟩
    unfold Conn.receiveOutOfOrder Conn.storeReordered Conn.check
    rw [if_neg hPast, if_neg hFar]
    dsimp only
    split_ifs <;> exact ⟨rfl, rfl, rfl⟩

/-- The receiver goes on as a sender. -/
theorem Fed.sending (h : Fed start base sender s) (hSide : Side own s) (hSend : Sending env cause s s') :
    Fed start base sender s' := by
  have hRecv := hSend.recvView hSide.core.view.bounds.ackNr_lt
  exact h.aside hSend.offers hSend.consumed (congrArg RecvView.reorderCount hRecv) (congrArg RecvView.gotFin hRecv)
    (congrArg RecvView.gotFinReached hRecv) (congrArg RecvView.eofPkt hRecv)

/-- Nothing is received by a socket that has not heard from its peer. -/
theorem Fed.greeting (h : Fed start base sender s) (hSide : Side own s) (hGreeting : Greeting s)
    (hTrans : Trans env cause s s') : Fed start base sender s' := by
  have hDown := hGreeting.not_open
  cases hTrans with
  | setup hSetup =>
      cases hSetup with
      | initialise addr connSeed connIdRecv connIdSend hNew => exact absurd hNew hSide.live
      | dial hState hCount hPointer => exact absurd hState hSide.booked.state
      | accept d hCause hState hCount => exact absurd hState hSide.booked.state
  | sending hSend => exact h.sending hSide hSend
  | receiving hReceive =>
      cases hReceive with
      | synAcked r hCause hState => exact h.aside rfl rfl rfl rfl rfl rfl
      | fin r hCause hOpen =>
          rw [hOpen] at hDown
          cases hDown
      | drained _ r hCause hRun hDone =>
          rw [hGreeting.drain_run hRun]
          exact h
      | outOfOrder r hCause hOpen hType hOffset =>
          rw [hOpen] at hDown
          cases hDown

/-- Every transition of the receiver keeps it fed by the sender. -/
theorem Fed.trans (h : Fed start base sender s) (hSender : Side start sender) (hSide : Side own s)
    (hSpent : Spent base sender s) (hAnswered : Answered (start + base) s)
    (hHeard : ∀ r, cause = .packet r → Heard own start baseOut base sender r) (hTrans : Trans env cause s s') :
    Fed start base sender s' := by
  have hNear := hSpent.near hSender hSide h
  cases hTrans with
  | setup hSetup =>
      cases hSetup with
      | initialise addr connSeed connIdRecv connIdSend hNew => exact absurd hNew hSide.live
      | dial hState hCount hPointer => exact absurd hState hSide.booked.state
      | accept d hCause hState hCount => exact absurd hState hSide.booked.state
  | sending hSend => exact h.sending hSide hSend
  | receiving hReceive =>
      cases hReceive with
      | synAcked r hCause hState => exact h.aside rfl rfl rfl rfl rfl rfl
      | fin r hCause hOpen =>
          unfold Conn.noteFin
          split_ifs with hFin
          · rw [Bool.and_eq_true, decide_eq_true_eq] at hFin
            refine ⟨h.base_le, h.offered, h.consumed, fun _ => ?_, h.eof⟩
            obtain ⟨k, -, -, hSeq, hAt⟩ := (hHeard r hCause).data (by rw [hFin.1]; decide)
            rw [hFin.1] at hAt
            exact ⟨k, _, hAt, hSeq⟩
          · exact h
      | drained _ r hCause hRun hDone =>
          refine (Draining.run ?_ hSender.closing (hHeard r hCause) hRun).fed
          refine ⟨h, hAnswered, hNear, hSide.core.view.toLooseOk, fun hOpen => ?_⟩
          rcases hSide.delivery with ⟨-, hDown, -⟩ | ⟨first, -, -, hFlow⟩
          · rw [hOpen] at hDown
            cases hDown
          · exact ⟨first, hFlow⟩
      | outOfOrder r hCause hOpen hType hOffset =>
          rcases s.receiveOutOfOrder_cases r.d.header.seqNr (s.seqOffset r.d.header) (r.d.drop r.data) with
            hSame | ⟨hReach, hTraffic, hFin, hReached, hEof⟩
          · rw [hSame]
            exact h
          · have hPlace := (hHeard r hCause).place h hNear hAnswered hType hReach
            exact h.accepts hSender.closing hPlace.2 hTraffic hFin hReached hEof

end Receiver

end Utp
