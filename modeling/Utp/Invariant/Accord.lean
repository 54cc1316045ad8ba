import Utp.Invariant.Removal

/-! Two sockets of one connection that hear nothing but what the other has sent, though it may be
lost, delayed, reordered and duplicated on the way. -/
namespace Utp

open Wrapping

namespace Wire

variable (w : Wire) (beyond : Nat → UInt8)

theorem header_seqNr (hSeq : w.header.seqNr < 65536) : (w.received beyond).header.seqNr = w.header.seqNr := by
  change (UInt8.ofNat (w.header.seqNr / 256)).toNat * 256 + (UInt8.ofNat w.header.seqNr).toNat = _
  simp only [UInt8.toNat_ofNat']
  omega

theorem mem_tail (k : Nat) (hk : k < w.tail.length) : (w.received beyond).mem (20 + k) = w.tail[k] := by
  change (w.header.encode ++ w.tail).getD (20 + k) _ = _
  rw [List.getD_append_right _ _ _ _ (by rw [length_encode]; omega), length_encode, Nat.add_sub_cancel_left,
    List.getD_eq_getElem _ _ hk]

/-- What follows the header is received as it was sent. -/
theorem drop_received : (w.received beyond).drop 20 = w.tail := by
  unfold Datagram.drop
  rw [w.len_received, Nat.add_sub_cancel_left]
  refine List.ext_getElem (by rw [List.length_map, List.length_range]) fun k hk hTail => ?_
  rw [List.getElem_map, List.getElem_range, w.mem_tail beyond k hTail]

end Wire

/-- What a packet without extensions is parsed to. -/
theorem Conn.ParsedAs.plain {w : Wire} {beyond : Nat → UInt8} {r : Received}
    (h : Conn.ParsedAs (w.received beyond) r) (hExt : w.header.ext = 0) : r.data = 20 ∧ r.selack = none := by
  obtain ⟨-, s, hParsed⟩ := h
  have hSame := w.header_ext beyond (by rw [hExt]; decide)
  unfold Conn.skipExtensions at hParsed
  rw [hSame, hExt] at hParsed
  simp only [ne_eq, not_true_eq_false, if_false, Option.some.injEq, Prod.mk.injEq] at hParsed
  exact ⟨hParsed.1.symm, hParsed.2.symm⟩

/-- The packets that were queued. -/
def queuedCount (log : List Event) : Nat := log.countP fun e => match e with
  | .queued _ _ _ => true
  | _ => false

theorem packetsOf_length_append {log : List Event} (hSome : packetsOf log ≠ []) (more : List Event) :
    (packetsOf (log ++ more)).length ≤ (packetsOf log).length + queuedCount more := by
  induction more using List.reverseRecOn with
  | nil => rw [List.append_nil]; exact Nat.le_add_right _ _
  | append_singleton more e ih =>
      have hPos : 0 < (packetsOf log).length := List.length_pos_iff.2 hSome
      have hMore := packetsOf_length_le log more
      have hCount : queuedCount (more ++ [e]) = queuedCount more + queuedCount [e] := List.countP_append
      rw [← List.append_assoc, packetsOf_append, hCount]
      cases e with
      | queued seqNr type bytes =>
          have hOne : queuedCount [.queued seqNr type bytes] = 1 := rfl
          rw [notePacket, List.length_append, List.length_singleton, hOne]
          omega
      | extended bytes =>
          rw [notePacket, List.length_append, List.length_singleton, List.length_dropLast]
          omega
      | _ => exact ih

section Heard

variable {own start base baseIn : Nat} {peer : Conn} {w : Wire} {flags : Nat} {pre post : List Event}
  {beyond : Nat → UInt8} {r : Received}

/-- A packet that is not too old tells the truth about its sender. -/
theorem Side.heard (h : Side start peer)
    (hAcks : EachEntry Event.wire?
      (fun pre w => w.header.type = stSyn ∨ ∃ late, Acknowledges (own + base) late pre w) peer.traffic)
    (hHead : ∀ k < baseIn, ∃ bytes, peer.settled[k]? = some (stSyn, bytes))
    (hSplit : peer.traffic = pre ++ .sendto w flags :: post) (hQueued : queuedCount post ≤ 32768)
    (hConsumed : (consumedOf post).length ≤ 32768) (hType : w.header.type ≠ stSyn)
    (hParsed : Conn.ParsedAs (w.received beyond) r) : Heard own start base baseIn peer r := by
  have hSent := h.booked.sends pre _ post w hSplit rfl
  obtain ⟨late, hAck⟩ := (hAcks pre _ post w hSplit rfl).resolve_left hType
  have hLabel : w.header.Labelled True peer.connIdRecv peer.connIdSend := by
    refine h.labelled.sent w ?_
    have hMem : .sendto w flags ∈ peer.log := by
      refine (List.mem_filter.1 (?_ : _ ∈ peer.traffic)).1
      rw [hSplit]
      exact List.mem_append_right _ (List.mem_cons_self ..)
    exact List.mem_filterMap.2 ⟨_, hMem, rfl⟩
  obtain ⟨-, -, hSameType, -, -⟩ := hLabel.received beyond
  have hMore : (packetsOf pre).length ≤ (packetsOf peer.traffic).length := hSplit ▸ packetsOf_length_le pre _
  have hTaken : peer.taken = (consumedOf pre).length + (consumedOf post).length := by
    unfold Conn.taken
    rw [hSplit, consumedOf_append, List.length_append]
    rfl
  have hSeqLt : w.header.seqNr < 65536 := by
    rcases hSent with ⟨-, hSeq⟩ | ⟨-, k, hShips⟩
    · rw [hSeq]
      exact u16_lt _
    · rw [hShips.seqNr]
      exact u16_lt _
  have hAckNr := w.header_ackNr beyond (by rw [hAck.ackNr]; exact u16_lt _)
  have hSeqNr := w.header_seqNr beyond hSeqLt
  have hSame : r.d = w.received beyond := hParsed.1
  rw [← hSame] at hSameType hAckNr hSeqNr
  refine ⟨fun hData => ?_, ⟨(consumedOf pre).length, late, hAck.late_le, by omega, by omega, ?_, ?_⟩, fun hNone => ?_⟩
  · rw [hSameType] at hData ⊢
    obtain ⟨-, k, hShips⟩ := hSent.resolve_left fun hState => hData hState.1
    have hIn := hShips.lt
    have hNear := hShips.near
    have hSome : packetsOf pre ≠ [] := List.ne_nil_of_length_pos (by omega)
    have hLength := packetsOf_length_append hSome (.sendto w flags :: post)
    have hCount : queuedCount (.sendto w flags :: post) = queuedCount post := rfl
    rw [← hSplit, hCount] at hLength
    refine ⟨k, ?_, by omega, hSeqNr.trans hShips.seqNr, ?_⟩
    · by_contra hLow
      obtain ⟨bytes, hSyn⟩ := hHead k (by omega)
      rw [hShips.packet] at hSyn
      exact hType (congrArg Prod.fst (Option.some.inj hSyn))
    · rw [(hParsed.plain hShips.ext).1, hSame, w.drop_received]
      exact hShips.packet
  · rw [hAckNr, hAck.ackNr]
    push_cast
    rfl
  · intro mask bits hMask hBits hSet
    rcases hAck.mask with hExt | ⟨m, hCarries, hBit⟩
    · rw [(hParsed.plain hExt).2] at hMask
      cases hMask
    · obtain ⟨-, t, hFound⟩ := hParsed
      rw [hCarries.parsed beyond t] at hFound
      have hFirst : some ackMask = r.selack := congrArg Prod.snd (Option.some.inj hFound)
      cases hFirst.trans hMask
      have hRange : bits < 32 := hBits
      rw [hSame, hCarries.bit beyond hRange] at hSet
      obtain ⟨x, hx, hPlace⟩ := hBit bits hRange hSet
      refine ⟨x, ?_, hPlace⟩
      rw [hSplit, offersOf_append]
      exact List.mem_append_left _ hx
  · have hZero : (packetsOf pre).length = 0 := by
      rw [hNone] at hMore
      exact Nat.le_zero.1 hMore
    rcases hSent with ⟨hState, hSeq⟩ | ⟨-, k, hShips⟩
    · rw [hSameType, hSeqNr, hSeq, hZero, Nat.cast_zero, add_zero]
      exact ⟨hState, rfl⟩
    · have hLt := hShips.lt
      omega

end Heard

section States

variable {env : Env} {cause : Cause} {s s' : Conn}

/-- A transition that changes the state of the connection. -/
theorem Trans.state (h : Trans env cause s s') (hCore : Core s) (hLive : s.Live) (hIdle : s.state ≠ .idle) :
    s'.state = s.state ∨ Moving cause s s' := by
  cases h with
  | setup hSetup =>
      cases hSetup with
      | initialise addr connSeed connIdRecv connIdSend hNew => exact absurd hNew hLive
      | dial hState hCount hPointer => exact absurd hState hIdle
      | accept d hCause hState hCount => exact absurd hState hIdle
  | sending hSend =>
      cases hSend with
      | quiet hQuiet => exact Or.inl (congrArg View.state (hQuiet.view hCore.view.bounds.ackNr_lt))
      | queueing hQueue => exact Or.inl (congrArg Backdrop.state hQueue.backdrop)
      | moving hMove => exact Or.inr hMove
  | receiving hReceive => exact Or.inl (congrArg Foreground.state hReceive.foreground)

/-- No socket dials twice. -/
theorem Moving.not_synSent (h : Moving cause s s') (hState : s.state ≠ .synSent) : s'.state ≠ .synSent := by
  rcases h.story with ⟨-, hSame⟩ | ⟨-, hSame, -⟩ | ⟨-, -, hNow⟩ | ⟨-, -, hNow⟩ | ⟨dst, code, -, hDst, hNow⟩ |
    ⟨e, -, -, hNow, -⟩
  · rw [hSame]
    exact hState
  · rw [hSame]
    exact hState
  · simp [hNow]
  · simp [hNow]
  · rcases hDst with rfl | rfl <;> simp [hNow]
  · simp [hNow]

/-- A socket comes up when it gets a packet, and one that was not dialled when it gets data. -/
theorem Moving.opens (h : Moving cause s s') (hDown : s.state.open = false) (hOpen : s'.state.open = true) :
    ∃ r, cause = .packet r ∧ (s.state = .synSent ∨ r.d.header.type = stData) := by
  cases h with
  | established r hCause hType hState => exact ⟨r, hCause, Or.inl hState⟩
  | admitted r hCause hType hState => exact ⟨r, hCause, Or.inr hType⟩
  | finAcked r hCause hFin hAcks =>
      split_ifs at hOpen
      · cases hOpen
      · rw [show ({ s with finSentAcked := true } : Conn).state = s.state from rfl, hDown] at hOpen
        cases hOpen
  | full hState hFull =>
      rw [hState] at hDown
      cases hDown
  | writable hState hFull =>
      rw [hState] at hDown
      cases hDown
  | gaveUp hState =>
      unfold Conn.abandon at hOpen
      simp only [Conn.emit, Conn.setState] at hOpen
      split_ifs at hOpen <;> cases hOpen
  | closing hOpen' =>
      rw [hOpen'] at hDown
      cases hDown
  | expired hState => cases hOpen
  | closed hState => cases hOpen
  | reset =>
      unfold Conn.receiveReset Conn.abandon at hOpen
      simp only [Conn.emit, Conn.setState] at hOpen
      split_ifs at hOpen <;> cases hOpen
  | icmpError =>
      unfold Conn.receiveIcmpError Conn.abandon at hOpen
      simp only [Conn.emit, Conn.setState] at hOpen
      split_ifs at hOpen with hIdle
      · rw [hIdle] at hOpen
        cases hOpen
      all_goals cases hOpen

end States

/-- A socket `a` that was dialled, with its SYN as the packet number `s0`, and the socket `b` that
was created for it, whose first packet has the number `t0`. -/
structure Accord (s0 t0 : Nat) (a b : Conn) : Prop where
  dialler : Side s0 a
  acceptor : Side t0 b
  syn : a.settled[0]? = some (stSyn, [])
  heard : Greeting a ∨ Answered t0 a
  answered : Answered (s0 + 1) b
  fedB : Fed s0 1 a b
  fedA : Fed t0 0 b a
  spentA : Spent 1 a b
  spentB : Spent 0 b a
  early : a.state = .synSent → (packetsOf a.traffic).length ≤ 1
  role : b.state ≠ .synSent
  woken : b.state.open = true ∨ packetsOf b.traffic ≠ [] → 2 ≤ (packetsOf a.traffic).length

namespace Accord

variable {env : Env} {cause : Cause} {s0 t0 : Nat} {a a' b b' : Conn} {r : Received}

/-- The dialled socket goes on; it is still to be shown that it does so as it should. -/
theorem left_of (h : Accord s0 t0 a b) (hTrans : Trans env cause a a') (hHeard : Greeting a' ∨ Answered t0 a')
    (hFed : Fed t0 0 b a') (hSpent : Spent 1 a' b) : Accord s0 t0 a' b := by
  have hSettled := hTrans.settled h.dialler.core h.dialler.live h.dialler.booked.state
  have hTraffic := Conn.traffic_prefix hTrans.grows
  have hMore : (packetsOf a.traffic).length ≤ (packetsOf a'.traffic).length := by
    obtain ⟨events, hEvents⟩ := hTraffic
    rw [← hEvents]
    exact packetsOf_length_le _ _
  refine ⟨h.dialler.trans hTrans, h.acceptor, getElem?_of_prefix hSettled h.syn, hHeard, h.answered,
    h.fedB.of_sender hSettled hMore, hFed, hSpent, h.spentB.of_receiver hTraffic, fun hDials => ?_, h.role,
    fun hAwake => (h.woken hAwake).trans hMore⟩
  have hDialled : a.state = .synSent := by
    by_contra hNot
    rcases hTrans.state h.dialler.core h.dialler.live h.dialler.booked.state with hSame | hMove
    · exact hNot (hSame.symm.trans hDials)
    · exact hMove.not_synSent hNot hDials
  have hDown : a.state.open ≠ true := by
    rw [hDialled]
    decide
  cases hTrans.writes h.dialler.core h.dialler.live h.dialler.booked.state with
  | none hPackets hFin =>
      rw [hPackets]
      exact h.early hDialled
  | data bytes hCause hOpen hFin hFin' hPackets => exact absurd hOpen hDown
  | fin hAsked hOpen hFin hFin' hPackets => exact absurd hOpen hDown

/-- While the dialled socket waits, the other one has queued nothing. -/
theorem silent (h : Accord s0 t0 a b) (hFew : (packetsOf a.traffic).length ≤ 1) : packetsOf b.traffic = [] := by
  by_contra hSome
  have hMany := h.woken (Or.inr hSome)
  omega

theorem left_trans (h : Accord s0 t0 a b) (hAnswered : Answered t0 a)
    (hHeard : ∀ r, cause = .packet r → Heard s0 t0 1 0 b r) (hTrans : Trans env cause a a') :
    Accord s0 t0 a' b ∧ Answered t0 a' := by
  have hSide := h.dialler
  have hSyn : ∀ r, cause = .packet r → a.state = .synSent → u16 (r.d.header.seqNr - 1) = a.rcv.ackNr := by
    intro r hCause hDials
    have hSeq := ((hHeard r hCause).first (h.silent (h.early hDials))).2
    have hNone : a.taken = 0 := by
      rcases hSide.delivery with ⟨-, -, hNone, -⟩ | ⟨first, -, hRank, -⟩
      · rw [a.taken_eq, hNone]
        rfl
      · rw [hDials] at hRank
        exact absurd hRank (by decide)
    have hEmod := u16_emod t0
    rw [hAnswered.aligned, hNone, hSeq, u16_eq_iff]
    omega
  have hNext := hAnswered.trans hSide.booked hSide.core hSide.live hSide.delivery hSide.unfed hSyn hTrans
  exact ⟨h.left_of hTrans (Or.inr hNext) (h.fedA.trans h.acceptor hSide h.spentB hAnswered hHeard hTrans)
    (h.spentA.trans hSide h.acceptor h.fedB hHeard hTrans), hNext⟩

theorem left_path (h : Accord s0 t0 a b) (hAnswered : Answered t0 a)
    (hHeard : ∀ r, cause = .packet r → Heard s0 t0 1 0 b r) (hPath : Path env cause a a') : Accord s0 t0 a' b := by
  suffices hBoth : Accord s0 t0 a' b ∧ Answered t0 a' from hBoth.1
  induction hPath with
  | refl => exact ⟨h, hAnswered⟩
  | tail _ hTrans ih => exact ih.1.left_trans ih.2 hHeard hTrans

/-- The dialled socket waits, or has given up. -/
theorem greet_trans (h : Accord s0 t0 a b) (hGreeting : Greeting a) (hCalm : cause.calm)
    (hHeard : ∀ r, cause = .packet r → Heard s0 t0 1 0 b r ∧ a.state ≠ .synSent) (hTrans : Trans env cause a a') :
    Accord s0 t0 a' b ∧ Greeting a' := by
  have hSide := h.dialler
  have hNext := hGreeting.trans hSide.booked hSide.core hSide.live hCalm (fun r hCause => (hHeard r hCause).2) hTrans
  exact ⟨h.left_of hTrans (Or.inl hNext) (h.fedA.greeting hSide hGreeting hTrans)
    (h.spentA.trans hSide h.acceptor h.fedB (fun r hCause => (hHeard r hCause).1) hTrans), hNext⟩

theorem greet_path (h : Accord s0 t0 a b) (hGreeting : Greeting a) (hCalm : cause.calm)
    (hHeard : ∀ r, cause = .packet r → Heard s0 t0 1 0 b r ∧ a.state ≠ .synSent) (hPath : Path env cause a a') :
    Accord s0 t0 a' b ∧ Greeting a' := by
  suffices hAll : (Accord s0 t0 a' b ∧ Greeting a') ∧ (a.state ≠ .synSent → a'.state ≠ .synSent) from hAll.1
  induction hPath with
  | refl => exact ⟨⟨h, hGreeting⟩, id⟩
  | tail _ hTrans ih =>
      obtain ⟨⟨hAccord, hStill⟩, hKeeps⟩ := ih
      refine ⟨hAccord.greet_trans hStill hCalm (fun r hCause => ⟨(hHeard r hCause).1, hKeeps (hHeard r hCause).2⟩)
        hTrans, fun hNot => ?_⟩
      have hSide := hAccord.dialler
      rcases hTrans.state hSide.core hSide.live hSide.booked.state with hSame | hMove
      · rw [hSame]
        exact hKeeps hNot
      · exact hMove.not_synSent (hKeeps hNot)

/-- The accepted socket goes on. -/
theorem right_trans (h : Accord s0 t0 a b) (hHeard : ∀ r, cause = .packet r → Heard t0 s0 0 1 a r)
    (hTrans : Trans env cause b b') : Accord s0 t0 a b' := by
  have hSide := h.acceptor
  have hSettled := hTrans.settled hSide.core hSide.live hSide.booked.state
  have hTraffic := Conn.traffic_prefix hTrans.grows
  have hMore : (packetsOf b.traffic).length ≤ (packetsOf b'.traffic).length := by
    obtain ⟨events, hEvents⟩ := hTraffic
    rw [← hEvents]
    exact packetsOf_length_le _ _
  have hMoves := hTrans.state hSide.core hSide.live hSide.booked.state
  refine ⟨h.dialler, hSide.trans hTrans, h.syn, h.heard,
    h.answered.trans hSide.booked hSide.core hSide.live hSide.delivery hSide.unfed
      (fun _ _ hDials => absurd hDials h.role) hTrans,
    h.fedB.trans h.dialler hSide h.spentA h.answered hHeard hTrans, h.fedA.of_sender hSettled hMore,
    h.spentA.of_receiver hTraffic, h.spentB.trans hSide h.dialler h.fedA hHeard hTrans, h.early, ?_, fun hAwake => ?_⟩
  · rcases hMoves with hSame | hMove
    · rw [hSame]
      exact h.role
    · exact hMove.not_synSent h.role
  · by_cases hBefore : b.state.open = true ∨ packetsOf b.traffic ≠ []
    · exact h.woken hBefore
    rw [not_or, Bool.not_eq_true, not_not] at hBefore
    have hNone : packetsOf b'.traffic = [] := by
      cases hTrans.writes hSide.core hSide.live hSide.booked.state with
      | none hPackets hFin => exact hPackets.trans hBefore.2
      | data bytes hCause hOpen hFin hFin' hPackets =>
          rw [hBefore.1] at hOpen
          cases hOpen
      | fin hAsked hOpen hFin hFin' hPackets =>
          rw [hBefore.1] at hOpen
          cases hOpen
    have hOpen := hAwake.resolve_right fun hSome => hSome hNone
    rcases hMoves with hSame | hMove
    · rw [hSame, hBefore.1] at hOpen
      cases hOpen
    · obtain ⟨r, hCause, hHow⟩ := hMove.opens hBefore.1 hOpen
      have hType := hHow.resolve_left h.role
      obtain ⟨k, hLow, -, -, hAt⟩ := (hHeard r hCause).data (by rw [hType]; decide)
      have hIn := Conn.lt_of_settled hAt
      omega

theorem right_path (h : Accord s0 t0 a b) (hHeard : ∀ r, cause = .packet r → Heard t0 s0 0 1 a r)
    (hPath : Path env cause b b') : Accord s0 t0 a b' := by
  induction hPath with
  | refl => exact h
  | tail _ hTrans ih => exact ih.right_trans hHeard hTrans

/-- A socket that has not heard from its peer has sent nothing but its SYN. -/
theorem acksA (h : Accord s0 t0 a b) : EachEntry Event.wire?
    (fun pre w => w.header.type = stSyn ∨ ∃ late, Acknowledges (t0 + 0) late pre w) a.traffic := by
  rcases h.heard with hGreeting | hAnswered
  · intro pre e post w hSplit hWire
    obtain ⟨flags, rfl⟩ := Event.isTraffic_of_wire hWire
    refine Or.inl (hGreeting.wires w flags ?_)
    rw [hSplit]
    exact List.mem_append_right _ (List.mem_cons_self ..)
  · exact hAnswered.acks

/-- The first packet that the dialled socket gets tells it where the stream of the other starts. -/
theorem greeted (h : Accord s0 t0 a b) (hGreeting : Greeting a) (hDials : a.state = .synSent) {d : Datagram}
    (hType : d.header.type ≠ stSyn) (hHeard : ∀ r, Conn.ParsedAs d r → Heard s0 t0 1 0 b r) :
    Accord s0 t0 (a.utpProcessIncoming env d false) b := by
  have hAck : a.rcv.ackNr < 65536 := h.dialler.core.view.bounds.ackNr_lt
  have hCall : Cause.calm .call := trivial
  have hCalm : ∀ {u : Conn}, QuietPath env .call a u → Accord s0 t0 u b ∧ Greeting u := fun hQuiet =>
    h.greet_path hGreeting hCall (fun r hCause => by cases hCause) hQuiet.path.path
  rcases Conn.parsed_utpProcessIncoming env d hAck with ⟨-, hQuiet⟩ | ⟨hAccept, r, u, time, hParsed, hQuiet, hEq⟩
  · exact (hCalm hQuiet).1
  · obtain ⟨hBefore, hStill⟩ := hCalm (hQuiet .call)
    have hView := (hQuiet .call).view hAck
    have hState : u.state = .synSent := (congrArg View.state hView).trans hDials
    have hSide := hBefore.dialler
    have hTells := hHeard r hParsed
    have hSeq := (hTells.first (hBefore.silent (hBefore.early hState))).2
    have hLearns : Trans env (.packet r) u (u.setAckNr (u16 (r.d.header.seqNr - 1))) :=
      .receiving (.synAcked u r rfl hState)
    have hNone : u.taken = 0 := by
      rcases hSide.delivery with ⟨-, -, hNone, -⟩ | ⟨first, hUp, -⟩
      · rw [u.taken_eq, hNone]
        rfl
      · rw [hStill.entry] at hUp
        cases hUp
    have hAnswered : Answered t0 (u.setAckNr (u16 (r.d.header.seqNr - 1))) := by
      refine ⟨?_, fun pre e post w hSplit hWire => ?_⟩
      · have hEmod := u16_emod t0
        change u16 (r.d.header.seqNr - 1) = u16 (t0 + u.taken - 1)
        rw [hNone, hSeq, u16_eq_iff]
        omega
      · obtain ⟨flags, rfl⟩ := Event.isTraffic_of_wire hWire
        refine Or.inl (hStill.wires w flags ?_)
        have hTraffic : u.traffic = pre ++ .sendto w flags :: post := hSplit
        rw [hTraffic]
        exact List.mem_append_right _ (List.mem_cons_self ..)
    have hOnly : ∀ r', Cause.packet r = .packet r' → Heard s0 t0 1 0 b r' := by
      rintro _ ⟨⟩
      exact hTells
    have hAfter := hBefore.left_of hLearns (Or.inr hAnswered) (hBefore.fedA.greeting hSide hStill hLearns)
      (hBefore.spentA.trans hSide hBefore.acceptor hBefore.fedB hOnly hLearns)
    have hAgain : u.processBody env r.d r.d.header r.data r.selack time false =
        (u.setAckNr (u16 (r.d.header.seqNr - 1))).processBody env r.d r.d.header r.data r.selack time false := by
      unfold Conn.processBody
      rw [if_pos hState, if_pos (show (u.setAckNr (u16 (r.d.header.seqNr - 1))).state = .synSent from hState)]
      rfl
    rw [hEq, hAgain]
    refine hAfter.left_path hAnswered hOnly (Conn.path_processBody env _ time hAfter.dialler.core rfl
      (Conn.extLen_of_parsedAs hParsed) ?_)
    have hSeqNr : u.snd.seqNr = a.snd.seqNr := congrArg View.seqNr hView
    have hCount : u.snd.curWindowPackets = a.snd.curWindowPackets := congrArg View.curWindowPackets hView
    change u16 (u.snd.seqNr - (r.d.header.ackNr + 1)) ≤ u.snd.curWindowPackets + 3
    rw [hSeqNr, hCount, hParsed.1]
    exact Conn.behind_of_accepts hType h.dialler.count_le hAccept

/-- A packet of the accepted socket arrives at the dialled one. -/
theorem hears_left (h : Accord s0 t0 a b) {d : Datagram} (hType : d.header.type ≠ stSyn)
    (hHeard : ∀ r, Conn.ParsedAs d r → Heard s0 t0 1 0 b r) : Accord s0 t0 (a.utpProcessIncoming env d false) b := by
  have hNever : ∀ r, Cause.call = .packet r → Heard s0 t0 1 0 b r := fun r hCause => by cases hCause
  rcases h.heard with hGreeting | hAnswered
  · by_cases hDials : a.state = .synSent
    · exact h.greeted hGreeting hDials hType hHeard
    rcases Conn.path_utpProcessIncoming env h.dialler.core hType with hQuiet | ⟨r, hParsed, hPath⟩
    · have hCall : Cause.calm .call := trivial
      exact (h.greet_path hGreeting hCall (fun r hCause => by cases hCause) hQuiet.path.path).1
    · refine (h.greet_path hGreeting ?_ ?_ hPath).1
      · refine ((hHeard r hParsed).first (h.silent ?_)).1
        rw [hGreeting.packets]
        exact le_rfl
      · rintro _ ⟨⟩
        exact ⟨hHeard r hParsed, hDials⟩
  · rcases Conn.path_utpProcessIncoming env h.dialler.core hType with hQuiet | ⟨r, hParsed, hPath⟩
    · exact h.left_path hAnswered hNever hQuiet.path.path
    · refine h.left_path hAnswered ?_ hPath
      rintro _ ⟨⟩
      exact hHeard r hParsed

/-- A packet of the dialled socket arrives at the accepted one. -/
theorem hears_right (h : Accord s0 t0 a b) {d : Datagram} (hType : d.header.type ≠ stSyn)
    (hHeard : ∀ r, Conn.ParsedAs d r → Heard t0 s0 0 1 a r) : Accord s0 t0 a (b.utpProcessIncoming env d false) := by
  rcases Conn.path_utpProcessIncoming env h.acceptor.core hType with hQuiet | ⟨r, hParsed, hPath⟩
  · exact h.right_path (fun r hCause => by cases hCause) hQuiet.path.path
  · refine h.right_path ?_ hPath
    rintro _ ⟨⟩
    exact hHeard r hParsed

/-- The dialled socket goes on without hearing from the other. -/
theorem left_ran (h : Accord s0 t0 a b) (hPacket : ∀ r, cause ≠ .packet r) (hCalm : Greeting a → cause.calm)
    (hPath : Path env cause a a') : Accord s0 t0 a' b := by
  rcases h.heard with hGreeting | hAnswered
  · exact (h.greet_path hGreeting (hCalm hGreeting) (fun r hCause => absurd hCause (hPacket r)) hPath).1
  · exact h.left_path hAnswered (fun r hCause => absurd hCause (hPacket r)) hPath

theorem right_ran (h : Accord s0 t0 a b) (hPacket : ∀ r, cause ≠ .packet r) (hPath : Path env cause b b') :
    Accord s0 t0 a b' := h.right_path (fun r hCause => absurd hCause (hPacket r)) hPath

end Accord

end Utp
