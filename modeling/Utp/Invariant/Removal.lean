import Utp.Invariant.Exchange

/-! What the sender takes out of its queue has arrived. -/
namespace Utp

open Wrapping

variable {env : Env} {cause : Cause} {own start base baseIn : Nat} {s s' peer peer' : Conn} {r : Received}

theorem Conn.traffic_prefix (h : Grows s s') : s.traffic <+: s'.traffic := by
  obtain ⟨events, hLog⟩ := h
  unfold Conn.traffic
  rw [← hLog, trafficOf_append]
  exact List.prefix_append _ _

theorem Conn.taken_le (h : s.traffic <+: s'.traffic) : s.taken ≤ s'.taken := by
  obtain ⟨events, hTraffic⟩ := h
  unfold Conn.taken
  rw [← hTraffic, consumedOf_append, List.length_append]
  exact Nat.le_add_right _ _

theorem Conn.Got.mono {k : Nat} (h : s.Got base k) (hMore : s.traffic <+: s'.traffic) : s'.Got base k := by
  rcases h with hLt | ⟨x, hx, hPlace⟩
  · exact Or.inl (hLt.trans_le (Nat.add_le_add_left (Conn.taken_le hMore) base))
  · refine Or.inr ⟨x, ?_, hPlace⟩
    obtain ⟨events, hTraffic⟩ := hMore
    rw [← hTraffic, offersOf_append]
    exact List.mem_append_left _ hx

/-- The receiver goes on. -/
theorem Spent.of_receiver (h : Spent base s peer) (hMore : peer.traffic <+: peer'.traffic) : Spent base s peer' where
  removed k hk hNone := (h.removed k hk hNone).mono hMore
  fin hAcked := ⟨(h.fin hAcked).1, (h.fin hAcked).2.trans (Nat.add_le_add_left (Conn.taken_le hMore) base)⟩

/-- No packet leaves the queue. -/
theorem Spent.aside (h : Spent base s peer) (hPackets : packetsOf s'.traffic = packetsOf s.traffic)
    (hStays : ∀ j, s'.packetAt j = none → s.packetAt j = none) (hAcked : s'.finSentAcked = s.finSentAcked)
    (hFin : s'.finSent = s.finSent) : Spent base s' peer := by
  refine ⟨fun k hk hNone => ?_, fun hEnd => ?_⟩
  · rw [hPackets] at hk hNone
    exact h.removed k hk (hStays _ hNone)
  · rw [hPackets, hFin]
    exact h.fin (hAcked.symm.trans hEnd)

/-- A packet is added to the queue. -/
theorem Spent.queued (h : Spent base s peer) {x : Nat × List UInt8} (hFin : s.finSent = false)
    (hPackets : packetsOf s'.traffic = packetsOf s.traffic ++ [x]) (hNew : s'.packetAt 0 ≠ none)
    (hOld : ∀ j, s'.packetAt (j + 1) = s.packetAt j) (hAcked : s'.finSentAcked = s.finSentAcked) :
    Spent base s' peer := by
  have hLength : (packetsOf s'.traffic).length = (packetsOf s.traffic).length + 1 := by
    rw [hPackets, List.length_append, List.length_singleton]
  refine ⟨fun k hk hNone => ?_, fun hEnd => ?_⟩
  · rw [hLength] at hk hNone
    rw [Nat.add_sub_cancel] at hNone
    by_cases hLast : k = (packetsOf s.traffic).length
    · rw [hLast, Nat.sub_self] at hNone
      exact absurd hNone hNew
    · refine h.removed k (by omega) ?_
      rw [← hOld]
      have hPlace : (packetsOf s.traffic).length - 1 - k + 1 = (packetsOf s.traffic).length - k := by omega
      rw [hPlace]
      exact hNone
  · have hSent := (h.fin (hAcked.symm.trans hEnd)).1
    rw [hFin] at hSent
    cases hSent

/-- What is known of the sender while it takes acked packets out of its queue. -/
structure Acking (own base : Nat) (peer s : Conn) : Prop where
  spent : Spent base s peer
  loose : LooseOk s.view
  seqNr : s.snd.seqNr = u16 (own + (packetsOf s.traffic).length)
  count : s.snd.curWindowPackets ≤ (packetsOf s.traffic).length
  taken_le : base + peer.taken ≤ (packetsOf s.traffic).length
  next : ∀ k < (packetsOf s.traffic).length, peer.Got base k → k ≠ base + peer.taken

theorem Spent.acking (h : Spent base s peer) (hSide : Side own s) (hPeer : Side start peer)
    (hFed : Fed own base s peer) : Acking own base peer s :=
  ⟨h, hSide.core.view.toLooseOk, hSide.booked.seqNr, hSide.booked.count, hFed.taken_le,
    fun _ hk hGot => hFed.not_got hPeer hSide.closing hk hGot⟩

/-- A number that acks the oldest packet acks one that has been delivered. -/
theorem Acking.acks (h : Acking own base peer s) (hHeard : Heard own start base baseIn peer r)
    (hAcked : u16 (r.d.header.ackNr - (s.snd.seqNr - s.snd.curWindowPackets)) < s.snd.curWindowPackets) :
    (packetsOf s.traffic).length - s.snd.curWindowPackets < base + peer.taken := by
  obtain ⟨count, late, hLate, hOld, hAge, hAckNr, -⟩ := hHeard.ack
  have hFront := h.spent.front_le h.next
  have hTaken := h.taken_le
  have hCount := h.count
  have hLimit : s.snd.curWindowPackets ≤ 1024 := h.loose.queue.count_le_limit
  have hAckMod := u16_emod (own + base + count - 1 - late)
  have hSeqMod := u16_emod (own + (packetsOf s.traffic).length)
  have hDistMod := u16_emod (r.d.header.ackNr - (s.snd.seqNr - s.snd.curWindowPackets))
  rw [← hAckNr] at hAckMod
  rw [← h.seqNr] at hSeqMod
  omega

theorem Conn.finSentAcked_ackPacket (env : Env) (seq : Int) (s : Conn) :
    (s.ackPacket env seq).2.finSentAcked = s.finSentAcked := by
  cases hGet : s.snd.outbuf.get (u16 seq) with
  | none => rw [Conn.ackPacket_none env hGet]
  | some pkt =>
      rw [Conn.ackPacket_some env hGet]
      split_ifs
      · rfl
      · exact congrArg View.finSentAcked (Conn.view_removePacket env (u16 seq) pkt s)

theorem AckStep.finSentAcked {header : PacketFormatV1} (h : AckStep env header s s') :
    s'.finSentAcked = s.finSentAcked := by
  cases h with
  | acked hCount hAcked hSent => exact Conn.finSentAcked_ackPacket env _ s
  | dropped hCount hNone => rfl

/-- The packet that leaves the front of the queue has arrived. -/
theorem Acking.step (h : Acking own base peer s) (hHeard : Heard own start base baseIn peer r)
    (hStep : AckStep env r.d.header s s') : Acking own base peer s' := by
  have hTraffic := AckStep.traffic_run (.single hStep)
  have hFin : s'.finSent = s.finSent := AckStep.finSent_run (.single hStep)
  have hSame := hStep.finSentAcked
  have hLoose := (hStep.loose h.loose).1
  obtain ⟨hCuts, hOne⟩ := hStep.cuts h.loose
  have hCount := h.count
  refine ⟨⟨fun k hk hNone => ?_, fun hEnd => ?_⟩, hLoose, ?_, ?_, ?_, ?_⟩
  · rw [hTraffic] at hk hNone
    rw [hCuts.packets] at hNone
    split_ifs at hNone with hIn
    · exact h.spent.removed k hk hNone
    by_cases hFront : (packetsOf s.traffic).length - 1 - k < s.snd.curWindowPackets
    · obtain hPlace : k = (packetsOf s.traffic).length - s.snd.curWindowPackets := by omega
      cases hStep with
      | acked hPos hAcked hSent => exact Or.inl (hPlace ▸ h.acks hHeard hAcked)
      | dropped hPos hGone =>
          refine h.spent.removed k hk ?_
          have hSlot : (s.snd.seqNr : Int) - 1 - ((packetsOf s.traffic).length - 1 - k : Nat) =
              s.snd.seqNr - s.snd.curWindowPackets := by omega
          unfold Conn.packetAt
          rw [if_pos hFront, hSlot]
          exact hGone
    · refine h.spent.removed k hk ?_
      unfold Conn.packetAt
      rw [if_neg hFront]
  · rw [hTraffic, hFin]
    exact h.spent.fin (hSame.symm.trans hEnd)
  · rw [hTraffic, hCuts.seqNr]
    exact h.seqNr
  · rw [hTraffic]
    exact hCuts.count.trans h.count
  · rw [hTraffic]
    exact h.taken_le
  · rw [hTraffic]
    exact h.next

theorem Acking.run (h : Acking own base peer s) (hHeard : Heard own start base baseIn peer r)
    (hRun : Relation.ReflTransGen (AckStep env r.d.header) s s') : Acking own base peer s' := by
  induction hRun with
  | refl => exact h
  | tail _ hStep ih => exact ih.step hHeard hStep

/-- A selective ack takes out the packet with the number that its bit stands for, which the peer
has got. -/
theorem Acking.sacked (h : Acking own base peer s) (hCore : Core s) (hFed : Fed own base s peer)
    (hHeard : Heard own start base baseIn peer r) {mask : SackMask} {bits : Nat} (hMask : r.selack = some mask)
    (hBits : bits < mask.extLen * 8) (hSet : mask.bit r.d bits = true)
    (hWindow : s.outsideWindow (r.d.header.ackNr + 2 + bits) = false)
    (hSent : (s.ackPacket env (r.d.header.ackNr + 2 + bits)).1 ≠ 2) :
    Spent base (s.ackPacket env (r.d.header.ackNr + 2 + bits)).2 peer := by
  have hTraffic : (s.ackPacket env (r.d.header.ackNr + 2 + bits)).2.traffic = s.traffic :=
    Conn.traffic_of_trace (Conn.grows_ackPacket env _ s) (Conn.trace_ackPacket env _ s)
  cases hGet : s.snd.outbuf.get (u16 (r.d.header.ackNr + 2 + bits)) with
  | none =>
      rw [Conn.ackPacket_none env hGet]
      exact h.spent
  | some pkt =>
      have hOnce : pkt.transmissions ≠ 0 := by
        intro hZero
        rw [Conn.ackPacket_some env hGet, if_pos hZero] at hSent
        exact hSent rfl
      obtain ⟨hSeq, hCount, hBuf⟩ := Conn.outbuf_ackPacket env _ s hGet hOnce
      obtain ⟨i, hAt, hPut⟩ := hCore.packetAt_put hGet
      have hNow := hPut _ none hSeq hCount hBuf
      obtain ⟨hPlace, hLimit⟩ := hCore.lt_of_packetAt hAt
      have hNear : u16 (s.snd.seqNr - 1 - (r.d.header.ackNr + 2 + bits)) < s.snd.curWindowPackets := by
        simp only [Conn.outsideWindow, decide_eq_false_iff_not, not_le] at hWindow
        have hSwap : (s.snd.seqNr : Int) - (r.d.header.ackNr + 2 + bits) - 1 =
            s.snd.seqNr - 1 - (r.d.header.ackNr + 2 + bits) := by omega
        have hLess := u16_emod (s.snd.curWindowPackets - 1)
        have hLt := u16_lt (s.snd.curWindowPackets - 1)
        rw [hSwap] at hWindow
        omega
      have hIndex : i = u16 (s.snd.seqNr - 1 - (r.d.header.ackNr + 2 + bits)) := by
        by_contra hNe
        have hQueue : QueueShape s.snd.seqNr s.snd.curWindowPackets s.snd.curWindow s.snd.outbuf := hCore.view.queue
        rw [hQueue.get_u16, ← hCore.packetAt_of_dist hNear] at hGet
        exact hCore.seqNr_ne hAt hGet hNe rfl
      obtain ⟨count, late, hLate, hOld, hAge, hAckNr, hSacks⟩ := hHeard.ack
      obtain ⟨x, hx, hNumber⟩ := hSacks mask bits hMask hBits hSet
      obtain ⟨type, hPacket⟩ := hFed.offered x hx
      have hIn := Conn.lt_of_settled hPacket
      have hGot : (packetsOf s.traffic).length - 1 - i = base + x.1 := by
        have hFront := h.spent.front_le h.next
        have hAckMod := u16_emod (own + base + count - 1 - late)
        have hSeqMod := u16_emod (own + (packetsOf s.traffic).length)
        have hDistMod := u16_emod (s.snd.seqNr - 1 - (r.d.header.ackNr + 2 + bits))
        rw [← hAckNr] at hAckMod
        rw [← h.seqNr] at hSeqMod
        rw [← hIndex] at hDistMod
        omega
      refine ⟨fun k hk hNone => ?_, fun hEnd => ?_⟩
      · rw [hTraffic] at hk hNone
        rw [hNow] at hNone
        split_ifs at hNone with hIs
        · exact Or.inr ⟨x, hx, by omega⟩
        · exact h.spent.removed k hk hNone
      · rw [hTraffic, Conn.finSent_ackPacket]
        exact h.spent.fin ((Conn.finSentAcked_ackPacket env _ s).symm.trans hEnd)

/-- The ack of our FIN acks everything. -/
theorem Acking.finAcked (h : Acking own base peer s) (hHeard : Heard own start base baseIn peer r)
    (hAcks : s.snd.curWindowPackets = s.acksOf r.d.header) :
    (packetsOf s.traffic).length ≤ base + peer.taken := by
  obtain ⟨count, late, hLate, hOld, hAge, hAckNr, -⟩ := hHeard.ack
  have hFront := h.spent.front_le h.next
  have hTaken := h.taken_le
  have hCount := h.count
  have hLimit : s.snd.curWindowPackets ≤ 1024 := h.loose.queue.count_le_limit
  have hAckMod := u16_emod (own + base + count - 1 - late)
  have hSeqMod := u16_emod (own + (packetsOf s.traffic).length)
  have hDistMod := u16_emod (r.d.header.ackNr - (s.snd.seqNr - 1 - s.snd.curWindowPackets))
  rw [← hAckNr] at hAckMod
  rw [← h.seqNr] at hSeqMod
  unfold Conn.acksOf at hAcks
  dsimp only at hAcks
  split_ifs at hAcks <;> omega

theorem Moving.finSentAcked (h : Moving cause s s') : s'.finSentAcked = s.finSentAcked ∨
    s.finSent = true ∧ ∃ r, cause = .packet r ∧ s.snd.curWindowPackets = s.acksOf r.d.header := by
  cases h with
  | finAcked r hCause hFin hAcks => exact Or.inr ⟨hFin, r, hCause, hAcks⟩
  | full hState hFull =>
      unfold Conn.markFull Conn.noteFull
      rw [hFull]
      exact Or.inl rfl
  | icmpError =>
      unfold Conn.receiveIcmpError
      split_ifs <;> exact Or.inl rfl
  | _ => exact Or.inl rfl

theorem Spent.queueing (h : Spent base s peer) (hSide : Side own s) (hPeer : Side start peer)
    (hFed : Fed own base s peer) (hHeard : ∀ r, cause = .packet r → Heard own start base baseIn peer r)
    (hQueue : Queueing env cause s s') : Spent base s' peer := by
  have hAcked : s'.finSentAcked = s.finSentAcked := congrArg Backdrop.finSentAcked hQueue.backdrop
  have hCore := hSide.core
  cases hQueue with
  | append bytes hState hFin hCount hLength =>
      obtain ⟨pkt, -, -, -, -, hSeq, hMore, hBuf⟩ := Conn.outbuf_appendPacket env stData bytes s
      obtain ⟨hNew, hOld⟩ := hCore.packetAt_enqueued hCount.le hSeq hMore hBuf
      refine h.queued (x := (stData, bytes)) hFin ?_ (by rw [hNew]; exact Option.some_ne_none pkt) hOld hAcked
      rw [Conn.traffic_appendPacket, packetsOf_append]
      rfl
  | appendFin hState hFin =>
      obtain ⟨pkt, -, -, -, -, hSeq, hMore, hBuf⟩ := Conn.outbuf_appendPacket env stFin [] { s with finSent := true }
      obtain ⟨hNew, hOld⟩ := hCore.packetAt_enqueued (hCore.view.room hFin) hSeq hMore hBuf
      refine h.queued (x := (stFin, [])) hFin ?_ (by rw [hNew]; exact Option.some_ne_none pkt) hOld hAcked
      rw [Conn.traffic_appendPacket, packetsOf_append]
      rfl
  | fill pkt bytes hState hFin hCount hGet hUnsent hLength =>
      obtain ⟨pkt', -, -, -, -, hSeq, hMore, hBuf⟩ := Conn.outbuf_fillPacket env stData pkt bytes s
      obtain ⟨hNew, hOld⟩ := hCore.packetAt_filled hCount hSeq hMore hBuf
      have hLength : (packetsOf (s.fillPacket env stData pkt bytes).traffic).length = (packetsOf s.traffic).length := by
        have hPos := hCount.trans_le hSide.booked.count
        rw [Conn.traffic_fillPacket, packetsOf_append, notePacket, List.length_append, List.length_dropLast,
          List.length_singleton]
        omega
      refine ⟨fun k hk hNone => ?_, fun hEnd => ?_⟩
      · rw [hLength] at hk hNone
        cases hPlace : (packetsOf s.traffic).length - 1 - k with
        | zero =>
            rw [hPlace, hNew] at hNone
            cases hNone
        | succ j =>
            rw [hPlace, hOld, ← hPlace] at hNone
            exact h.removed k hk hNone
      · have hSent := (h.fin (hAcked.symm.trans hEnd)).1
        rw [hFin] at hSent
        cases hSent
  | send v =>
      cases hGet : s.snd.outbuf.get v with
      | none =>
          rw [Conn.sendPacket_none env hGet]
          exact h
      | some pkt =>
          obtain ⟨w, flags, -, hTraffic⟩ := Conn.traffic_sendPacket env hGet
          obtain ⟨i, hAt, hPut⟩ := hCore.packetAt_put hGet
          have hView := Conn.view_sendPacket env hGet
          rw [Conn.view_chargeWindow] at hView
          have hNow := hPut (s.sendPacket env v) _ (congrArg View.seqNr hView) (congrArg View.curWindowPackets hView)
            (congrArg View.outbuf hView)
          refine h.aside ?_ (fun j hNone => ?_) hAcked (congrArg View.finSent hView)
          · rw [hTraffic]
            exact packetsOf_other _ rfl
          · rw [hNow] at hNone
            split_ifs at hNone
            exact hNone
  | acked _ r hCause hRun hFront => exact ((h.acking hSide hPeer hFed).run (hHeard r hCause) hRun).spent
  | sacked r mask bits hCause hMask hBits hSet hWindow hSent =>
      have hGone := (h.acking hSide hPeer hFed).sacked hCore hFed (hHeard r hCause) hMask hBits hSet hWindow hSent
      refine hGone.aside (congrArg packetsOf ?_) (fun j hNone => hNone) rfl rfl
      exact (Conn.traffic_sacked env _ _ _ s).trans
        (Conn.traffic_of_trace (Conn.grows_ackPacket env _ s) (Conn.trace_ackPacket env _ s)).symm
  | lost i =>
      have hTraffic := Conn.traffic_of_trace (Conn.grows_losePacket i s) (Conn.trace_losePacket i s)
      rcases Conn.losePacket_cases i s with hSame | ⟨pkt, hGet, -, -, hLost⟩
      · rw [hSame]
        exact h
      · have hView := congrArg Conn.view hLost
        rw [Conn.view_check] at hView
        obtain ⟨j, hAt, hPut⟩ := hCore.packetAt_put hGet
        have hNow := hPut (s.losePacket i) _ (congrArg View.seqNr hView) (congrArg View.curWindowPackets hView)
          (congrArg View.outbuf hView)
        refine h.aside (congrArg packetsOf hTraffic) (fun l hNone => ?_) hAcked (congrArg View.finSent hView)
        rw [hNow] at hNone
        split_ifs at hNone
        exact hNone
  | advance r =>
      unfold Conn.updateFastResend
      split_ifs
      · exact h.aside rfl (fun j hNone => hNone) rfl rfl
      · exact h
  | retried => exact h.aside rfl (fun j hNone => hNone) rfl rfl
  | resent v => exact h.aside rfl (fun j hNone => hNone) rfl rfl

/-- Every transition of the sender keeps in the queue what the receiver has not got. -/
theorem Spent.trans (h : Spent base s peer) (hSide : Side own s) (hPeer : Side start peer) (hFed : Fed own base s peer)
    (hHeard : ∀ r, cause = .packet r → Heard own start base baseIn peer r) (hTrans : Trans env cause s s') :
    Spent base s' peer := by
  cases hTrans with
  | setup hSetup =>
      cases hSetup with
      | initialise addr connSeed connIdRecv connIdSend hNew => exact absurd hNew hSide.live
      | dial hState hCount hPointer => exact absurd hState hSide.booked.state
      | accept d hCause hState hCount => exact absurd hState hSide.booked.state
  | sending hSend =>
      cases hSend with
      | quiet hQuiet =>
          have hView := hQuiet.view hSide.core.view.bounds.ackNr_lt
          refine h.aside ?_ (fun j hNone => ?_) (congrArg View.finSentAcked hView) (congrArg View.finSent hView)
          · rcases hQuiet.traffic with hSame | ⟨w, flags, hTraffic, -⟩
            · rw [hSame]
            · rw [hTraffic]
              exact packetsOf_other _ rfl
          · rw [← hNone]
            exact (Conn.packetAt_congr (congrArg View.seqNr hView) (congrArg View.curWindowPackets hView)
              (congrArg View.outbuf hView) j).symm
      | queueing hQueue => exact h.queueing hSide hPeer hFed hHeard hQueue
      | moving hMove =>
          have hSnd := hMove.snd
          have hPackets : packetsOf s'.traffic = packetsOf s.traffic := congrArg packetsOf hMove.traffic
          have hStays : ∀ j, s'.packetAt j = s.packetAt j :=
            Conn.packetAt_congr (by rw [hSnd]) (by rw [hSnd]) (by rw [hSnd])
          rcases hMove.finSentAcked with hSame | ⟨hFin, r, hCause, hAcks⟩
          · exact h.aside hPackets (fun j hNone => (hStays j).symm.trans hNone) hSame hMove.finSent
          · refine ⟨fun k hk hNone => ?_, fun _ => ⟨hMove.finSent.trans hFin, ?_⟩⟩
            · rw [hPackets] at hk hNone
              rw [hStays] at hNone
              exact h.removed k hk hNone
            · rw [hPackets]
              exact (h.acking hSide hPeer hFed).finAcked (hHeard r hCause) hAcks
  | receiving hReceive =>
      have hSame := hReceive.foreground
      have hSnd : s'.snd = s.snd := congrArg Foreground.snd hSame
      refine h.aside hReceive.packets (fun j hNone => ?_) (congrArg Foreground.finSentAcked hSame)
        (congrArg Foreground.finSent hSame)
      rw [← hNone]
      exact (Conn.packetAt_congr (by rw [hSnd]) (by rw [hSnd]) (by rw [hSnd]) j).symm

end Utp
