import Utp.Transition.Arrival
import Utp.Invariant.Ending
import Utp.Invariant.Guarded
import Utp.Guarantees.Stream

/-! The end of the stream: which packets count as past it, and what happens after it. -/
namespace Utp

open Wrapping

/-- The packet leaves no trace on the receiving side. -/
def Discards (s s' : Conn) : Prop :=
  s'.recvView = s.recvView ∧ acceptances s'.log = acceptances s.log

namespace Conn

/-- The slot of the packet is taken, once the buffer has room for its number. -/
def holdsSlot (header : PacketFormatV1) (s : Conn) : Bool :=
  ((s.rcv.inbuf.ensureSize (header.seqNr + 1) (s.seqOffset header + 1)).get header.seqNr).isSome

/-- The packet, with its payload, is one more in the reorder buffer. -/
def Stores (d : Datagram) (s s' : Conn) : Prop :=
  s'.rcv.reorderCount = u16 (s.rcv.reorderCount + 1) ∧
    ∃ data selack, (s.skipExtensions d).1 = some (data, selack) ∧
      s'.rcv.inbuf.get d.header.seqNr = some ⟨d.header.seqNr, d.drop data⟩

/-- What storing a packet does, whether or not its assertions hold. -/
theorem storeReordered_spec (seqNr : Nat) (body : List UInt8) (s : Conn) :
    acceptances (s.storeReordered seqNr body).log = acceptances s.log ∧
      (s.storeReordered seqNr body).rcv.inbuf = s.rcv.inbuf.put seqNr (some ⟨seqNr, body⟩) ∧
      (s.storeReordered seqNr body).rcv.reorderCount = u16 (s.rcv.reorderCount + 1) := by
  have hChecked : ∀ ok ok', Steady s ((s.check 2498 ok).check 2499 ok') := fun ok ok' =>
    (steady_check 2498 ok s).trans (steady_check 2499 ok' _)
  have hInsert : ∀ t : Conn, Steady s t →
      acceptances ((t.insertReordered ⟨seqNr, body⟩).emit .scheduleAck).log = acceptances s.log ∧
        (t.insertReordered ⟨seqNr, body⟩).rcv.inbuf = s.rcv.inbuf.put seqNr (some ⟨seqNr, body⟩) ∧
        (t.insertReordered ⟨seqNr, body⟩).rcv.reorderCount = u16 (s.rcv.reorderCount + 1) := by
    intro t hSteady
    have hBuf : t.rcv.inbuf = s.rcv.inbuf := congrArg RecvView.inbuf hSteady.recv
    have hCount : t.rcv.reorderCount = s.rcv.reorderCount := congrArg RecvView.reorderCount hSteady.recv
    refine ⟨(steady_emit (t.insertReordered ⟨seqNr, body⟩) rfl).accepted.trans hSteady.accepted, ?_, ?_⟩
    · rw [← hBuf]
      rfl
    · rw [← hCount]
      rfl
  exact hInsert _ (hChecked _ _)

/-- What the delivery code does with an out of order packet once a FIN has arrived. The
number is compared with that of the FIN as it is. -/
theorem outOfOrder_cases (env : Env) {d : Datagram} {s t : Conn} {data : Nat}
    {selack : Option SackMask} (hParse : (s.skipExtensions d).1 = some (data, selack))
    (hFin : s.rcv.gotFin = true) (hType : d.header.type = stData)
    (hLow : 1 ≤ s.seqOffset d.header) (hHigh : s.seqOffset d.header ≤ 1023) (hAdmits : Admits s t) :
    (s.rcv.eofPkt < d.header.seqNr ∧
      Discards s (t.receiveData env d d.header data (s.seqOffset d.header))) ∨
    (d.header.seqNr ≤ s.rcv.eofPkt ∧
      ¬Discards s (t.receiveData env d d.header data (s.seqOffset d.header)) ∧
      (s.holdsSlot d.header = true ∨
        s.Stores d (t.receiveData env d d.header data (s.seqOffset d.header)))) := by
  have hFin' : t.rcv.gotFin = true := (congrArg RecvView.gotFin hAdmits.recv).trans hFin
  have hEof : t.rcv.eofPkt = s.rcv.eofPkt := congrArg RecvView.eofPkt hAdmits.recv
  have hBuf : t.rcv.inbuf = s.rcv.inbuf := congrArg RecvView.inbuf hAdmits.recv
  have hCount : t.rcv.reorderCount = s.rcv.reorderCount := congrArg RecvView.reorderCount hAdmits.recv
  have hOpen : ¬(t.state ≠ .connected ∧ t.state ≠ .connectedFull) := by
    intro hDown
    have := hAdmits.isOpen
    simp [ConnState.open, hDown.1, hDown.2] at this
  have hNoted : t.noteFin d.header = t := by
    unfold noteFin
    rw [if_neg (by simp [hFin'])]
  unfold receiveData holdsSlot Stores
  rw [if_neg (by rw [hType]; decide), if_neg hOpen, hNoted]
  dsimp only
  generalize s.seqOffset d.header = offset at *
  rw [if_neg (by omega)]
  unfold receiveOutOfOrder
  have hSame : (t.emit (.readBytes data (d.len - data))).rcv = t.rcv := rfl
  have hLog : acceptances (t.emit (.readBytes data (d.len - data))).log = acceptances s.log :=
    (steady_emit t rfl).accepted.trans hAdmits.accepted
  have hRecv : (t.emit (.readBytes data (d.len - data))).recvView = s.recvView := hAdmits.recv
  generalize t.emit (.readBytes data (d.len - data)) = u at *
  have hGrown : acceptances ((u.growInbuf d.header.seqNr offset).emit
      (.accepted d.header.seqNr offset (d.drop data))).log =
        acceptances s.log ++ [.accepted d.header.seqNr offset (d.drop data)] := by
    rw [← hLog]
    simp [acceptances, emit, growInbuf, Event.isAccepted]
  have hRoom : ((u.growInbuf d.header.seqNr offset).emit
      (.accepted d.header.seqNr offset (d.drop data))).rcv.inbuf =
        s.rcv.inbuf.ensureSize (d.header.seqNr + 1) (offset + 1) := by
    change u.rcv.inbuf.ensureSize _ _ = _
    rw [hSame, hBuf]
  have hStill : ((u.growInbuf d.header.seqNr offset).emit
      (.accepted d.header.seqNr offset (d.drop data))).rcv.reorderCount = s.rcv.reorderCount := by
    change u.rcv.reorderCount = _
    rw [hSame, hCount]
  by_cases hPast : s.rcv.eofPkt < d.header.seqNr
  · rw [if_pos (by simp [hSame, hFin', hEof, hPast])]
    exact Or.inl ⟨hPast, hRecv, hLog⟩
  · rw [if_neg (by simp [hSame, hEof, hPast]), if_neg (by omega)]
    refine Or.inr ⟨Nat.not_lt.1 hPast, ?_⟩
    dsimp only
    generalize (u.growInbuf d.header.seqNr offset).emit (.accepted d.header.seqNr offset (d.drop data)) =
      w at *
    have hNew : acceptances w.log ≠ acceptances s.log := by
      rw [hGrown]
      simp
    rw [← hRoom]
    by_cases hTaken : (w.rcv.inbuf.get d.header.seqNr).isSome = true
    · rw [if_pos hTaken]
      exact ⟨fun hNone => hNew hNone.2, Or.inl hTaken⟩
    · obtain ⟨hStored, hPut, hMore⟩ := storeReordered_spec d.header.seqNr (d.drop data) w
      rw [if_neg hTaken]
      refine ⟨fun hNone => hNew (hStored.symm.trans hNone.2), Or.inr ⟨?_, data, selack, hParse, ?_⟩⟩
      · rw [hMore, hStill]
      · rw [hPut, SizableCircularBuffer.get_put_dvd, if_pos (by simp)]

end Conn

/-- The filter of the out of order path is right about the packet `d`: it is discarded
exactly if it lies after the FIN in wrapping order, and if not it is stored, unless its
slot is taken. -/
structure FiltersPastEof (env : Env) (d : Datagram) (s : Conn) : Prop where
  discards : Discards s (s.utpProcessIncoming env d false) ↔
    u16 (s.rcv.eofPkt - s.rcv.ackNr - 1) < u16 (d.header.seqNr - s.rcv.ackNr - 1)
  stores : ¬u16 (s.rcv.eofPkt - s.rcv.ackNr - 1) < u16 (d.header.seqNr - s.rcv.ackNr - 1) →
    s.holdsSlot d.header = true ∨ s.Stores d (s.utpProcessIncoming env d false)

/-- The past-EOF filter respects wrapping exactly if the numbers of the packet and of the
FIN lie on the same side of `ack_nr`. -/
theorem eof_filter_wraps (env : Env) (s : Conn) (d : Datagram) (hAckNr : s.rcv.ackNr < 65536)
    (hEofPkt : s.rcv.eofPkt < 65536) (hGotFin : s.rcv.gotFin = true)
    (hType : d.header.type = stData) (hAccepts : s.accepts d = true) (hTakes : s.takesData d.header = true)
    (hLow : 1 ≤ u16 (d.header.seqNr - s.rcv.ackNr - 1))
    (hHigh : u16 (d.header.seqNr - s.rcv.ackNr - 1) ≤ 1023) :
    FiltersPastEof env d s ↔ (s.rcv.ackNr < d.header.seqNr ↔ s.rcv.ackNr < s.rcv.eofPkt) := by
  obtain ⟨data, selack, t, hParse, hAdmits, hEq⟩ := Conn.arrival_data env hAckNr hAccepts hType hTakes
    (Nat.lt_succ_of_le hHigh)
  have hCases := Conn.outOfOrder_cases env hParse hGotFin hType hLow hHigh hAdmits
  rw [← hEq] at hCases
  have hSeq : d.header.seqNr < 65536 := Datagram.read16_lt _ _
  have hOrder : (s.rcv.eofPkt < d.header.seqNr ↔
      u16 (s.rcv.eofPkt - s.rcv.ackNr - 1) < u16 (d.header.seqNr - s.rcv.ackNr - 1)) ↔
      (s.rcv.ackNr < d.header.seqNr ↔ s.rcv.ackNr < s.rcv.eofPkt) := by
    have hEofMod := u16_emod (s.rcv.eofPkt - s.rcv.ackNr - 1)
    have hSeqMod := u16_emod (d.header.seqNr - s.rcv.ackNr - 1)
    have hEofLt := u16_lt (s.rcv.eofPkt - s.rcv.ackNr - 1)
    have hSeqLt := u16_lt (d.header.seqNr - s.rcv.ackNr - 1)
    omega
  rw [← hOrder]
  constructor
  · intro hRight
    rw [← hRight.discards]
    rcases hCases with ⟨hPast, hGone⟩ | ⟨hBefore, hKept, -⟩
    · exact iff_of_true hPast hGone
    · exact iff_of_false (Nat.not_lt.2 hBefore) hKept
  · intro hSame
    rcases hCases with ⟨hPast, hGone⟩ | ⟨hBefore, hKept, hStored⟩
    · exact ⟨iff_of_true hGone (hSame.1 hPast), fun hInside => absurd (hSame.1 hPast) hInside⟩
    · exact ⟨iff_of_false hKept fun hAfter => Nat.not_lt.2 hBefore (hSame.2 hAfter), fun _ => hStored⟩

/-- A connection whose peer starts at 65530, sends one packet in order, and then its FIN. -/
def finOps (finSeqNr : Nat) : List Op :=
  [.processUdp (somePacket stSyn 5 65530 0 []) somePeer,
    .processUdp (somePacket stData 6 65531 6 [1, 2, 3]) somePeer,
    .processUdp (somePacket stFin 6 finSeqNr 6 []) somePeer]

/-- What is checked of one run: the packet 65533 is an out of order packet that gets to the
filter of the only socket. -/
def meetsFilter (ok : Conn → Bool) (c : Context) : Bool :=
  (c.sockets 0).any fun sock =>
    sock.rcv.ackNr == 65531 && sock.rcv.eofPkt < 65536 && sock.rcv.gotFin &&
      !sock.rcv.gotFinReached && (c.enter 0 sock).accepts (somePacket stData 6 65533 6 [4]) &&
      (c.enter 0 sock).takesData (somePacket stData 6 65533 6 [4]).header && ok (c.enter 0 sock)

/-- The facts that such a check gives about a socket. -/
structure MeetsFilter (s : Conn) : Prop where
  ackNr : s.rcv.ackNr = 65531
  eofPkt : s.rcv.eofPkt < 65536
  gotFin : s.rcv.gotFin = true
  notReached : s.rcv.gotFinReached = false
  accepts : s.accepts (somePacket stData 6 65533 6 [4]) = true
  takes : s.takesData (somePacket stData 6 65533 6 [4]).header = true

theorem exists_of_meetsFilter {ok : Conn → Bool} {c : Context} (h : meetsFilter ok c = true) :
    ∃ sock, c.sockets 0 = some sock ∧ MeetsFilter (c.enter 0 sock) ∧ ok (c.enter 0 sock) = true := by
  obtain ⟨sock, hSock, hParts⟩ := (Option.any_eq_true _ _).1 h
  simp only [Bool.and_eq_true, beq_iff_eq, decide_eq_true_eq, Bool.not_eq_true'] at hParts
  obtain ⟨⟨⟨⟨⟨⟨hAck, hEof⟩, hFin⟩, hReached⟩, hAccepts⟩, hTakes⟩, hOk⟩ := hParts
  exact ⟨sock, hSock, ⟨hAck, hEof, hFin, hReached, hAccepts, hTakes⟩, hOk⟩

/-- With the FIN at 65535 the packet 65533 is stored. -/
theorem eof_filter_wraps_before : ∃ (c : Context) (sock : Socket), c.Reachable steadyEnv ∧
    c.sockets 0 = some sock ∧ MeetsFilter (c.enter 0 sock) ∧
      FiltersPastEof steadyEnv (somePacket stData 6 65533 6 [4]) (c.enter 0 sock) := by
  have hRun : ((utpInit true false).run steadyEnv (finOps 65535)).any
      (meetsFilter fun s => s.rcv.eofPkt == 65535) = true := by
    decide +kernel
  obtain ⟨c, hReach, hOk⟩ := Context.Reachable.exists_of_run hRun
  obtain ⟨sock, hSock, hMeets, hEof⟩ := exists_of_meetsFilter hOk
  have hAt := beq_iff_eq.1 hEof
  have hSeq : (somePacket stData 6 65533 6 [4]).header.seqNr = 65533 := by decide
  have hOffset : u16 ((65533 : Nat) - (65531 : Nat) - 1) = 1 := by decide +kernel
  have hAckNr := hMeets.ackNr
  refine ⟨c, sock, hReach, hSock, hMeets, ?_⟩
  refine (eof_filter_wraps steadyEnv (c.enter 0 sock) (somePacket stData 6 65533 6 [4]) (by omega)
    hMeets.eofPkt hMeets.gotFin (by decide) hMeets.accepts hMeets.takes ?_ ?_).2 ?_
  · rw [hSeq, hAckNr, hOffset]
  · rw [hSeq, hAckNr, hOffset]
    decide
  · rw [hSeq, hAckNr, hAt]
    decide

/-- With the FIN at 1 the packet 65533, which precedes it, is discarded. -/
theorem eof_filter_ignores_wrap : ∃ (c : Context) (sock : Socket), c.Reachable steadyEnv ∧
    c.sockets 0 = some sock ∧ MeetsFilter (c.enter 0 sock) ∧ sock.rcv.eofPkt = 1 ∧
      ¬FiltersPastEof steadyEnv (somePacket stData 6 65533 6 [4]) (c.enter 0 sock) := by
  have hRun : ((utpInit true false).run steadyEnv (finOps 1)).any (meetsFilter fun s =>
      s.rcv.eofPkt == 1 && !s.holdsSlot (somePacket stData 6 65533 6 [4]).header &&
        ((s.utpProcessIncoming steadyEnv (somePacket stData 6 65533 6 [4]) false).rcv.inbuf.get
          65533).isNone) = true := by
    decide +kernel
  obtain ⟨c, hReach, hOk⟩ := Context.Reachable.exists_of_run hRun
  obtain ⟨sock, hSock, hMeets, hState⟩ := exists_of_meetsFilter hOk
  simp only [Bool.and_eq_true, beq_iff_eq, Bool.not_eq_true', Option.isNone_iff_eq_none] at hState
  obtain ⟨⟨hEof, hFree⟩, hNone⟩ := hState
  refine ⟨c, sock, hReach, hSock, hMeets, hEof, fun hRight => ?_⟩
  have hSeq : (somePacket stData 6 65533 6 [4]).header.seqNr = 65533 := by decide
  have hBefore : ¬u16 ((1 : Nat) - (65531 : Nat) - 1) < u16 ((65533 : Nat) - (65531 : Nat) - 1) := by
    decide +kernel
  have hKept := hRight.stores (by rw [hSeq, hMeets.ackNr, hEof]; exact hBefore)
  rcases hKept with hTaken | ⟨-, data, selack, -, hStored⟩
  · exact nomatch hFree.symm.trans hTaken
  · rw [hSeq] at hStored
    exact nomatch hNone.symm.trans hStored

namespace Context

/-- A step in which no datagram reads past the end of the stream of its socket. -/
def endsInOrder (op : Op) (c : Context) : Bool :=
  match op with
  | .processUdp d addr =>
      match c.findConn addr d.header.connid with
      | none => true
      | some p => (c.sockets p).all fun sock =>
          !(c.delivers d addr p && (c.enter p sock).readsPastEof d)
  | _ => true

theorem readsPastEof_of_endsInOrder {c : Context} {d : Datagram} {addr : PackedSockAddr} {p : Nat}
    {sock : Socket} (h : c.endsInOrder (.processUdp d addr) = true) (hSock : c.sockets p = some sock)
    (hDelivers : c.delivers d addr p = true) : (c.enter p sock).readsPastEof d = false := by
  have hFind : c.findConn addr d.header.connid = some p := by
    unfold delivers at hDelivers
    simp only [Bool.and_eq_true, beq_iff_eq] at hDelivers
    exact hDelivers.2
  unfold endsInOrder at h
  simpa [hFind, hSock, hDelivers] using h

end Context

/-- Functions that process no packet leave the delivery code alone. -/
theorem Path.mutes {env : Env} {cause : Cause} {s s' : Conn} (h : Path env cause s s')
    (hCause : ∀ r, cause ≠ .packet r) : Mutes s s' := by
  induction h with
  | refl => exact .of_story rfl
  | tail _ hStep ih =>
      refine ih.trans ?_
      cases hStep with
      | setup hSetup => exact hSetup.mutes
      | sending hSend => exact hSend.mutes
      | receiving hReceive =>
          cases hReceive with
          | synAcked r hPacket => exact absurd hPacket (hCause r)
          | fin r hPacket => exact absurd hPacket (hCause r)
          | drained _ r hPacket => exact absurd hPacket (hCause r)
          | outOfOrder r hPacket => exact absurd hPacket (hCause r)

theorem guarded_hushed (env : Env) : Guarded env Context.endsInOrder
    fun s => (Delivery s ∧ Concluded s) ∧ Hushed s.trace.story where
  calls cause s s' hCause hCore hLive hInv hPath := by
    obtain ⟨events, hStory, hMute⟩ := hPath.mutes hCause
    refine ⟨(preserved_concluded env).ran cause s s' hCore hLive hInv.1
      ⟨hPath, fun r hr => absurd hr (hCause r)⟩, ?_⟩
    rw [hStory]
    exact hInv.2.append (readsOf_of_mute hMute)
  packets c p sock d addr hCore hSock hDelivers hMeets hInv := by
    have hSyn : d.header.type ≠ stSyn := by
      unfold Context.delivers at hDelivers
      simp only [Bool.and_eq_true, bne_iff_ne] at hDelivers
      exact hDelivers.1.2
    refine ⟨?_, Conn.hushed_utpProcessIncoming env hCore hInv.1.2 hInv.2 hSyn
      (Context.readsPastEof_of_endsInOrder hMeets hSock.1 hDelivers)⟩
    rcases Conn.path_utpProcessIncoming env hCore hSyn with hQuiet | ⟨r, hParsed, hPath⟩
    · exact (preserved_concluded env).ran .call _ _ hCore hSock.2 hInv.1 ⟨hQuiet.path.path, nofun⟩
    · refine (preserved_concluded env).ran (.packet r) _ _ hCore hSock.2 hInv.1 ⟨hPath, fun r' hr => ?_⟩
      cases hr
      exact ⟨hParsed.1.symm ▸ hSyn, by rw [hParsed.1]⟩
  clock s currentMs tick hInv := ⟨(preserved_concluded env).clock s currentMs tick hInv.1, hInv.2⟩
  initialised s addr connSeed connIdRecv connIdSend hPristine hLog := by
    refine ⟨(preserved_concluded env).initialised s addr connSeed connIdRecv connIdSend hPristine hLog, ?_⟩
    rw [Conn.story_initializeSocket]
    refine .of_no_eof ?_
    simp [Conn.trace, hLog, traceOf, Event.isEof]

theorem countP_isEof_story (log : List Event) :
    (traceOf log).story.countP Event.isEof = log.countP Event.isEof := by
  unfold traceOf
  rw [List.countP_filter]
  refine List.countP_congr fun e _ => ?_
  cases e <;> simp [Event.isEof, Event.isMajor]

/-- A split of a record at the end of the stream splits the story there too. -/
theorem story_split {log before after : List Event} (h : log = before ++ .onStateChange .eof :: after) :
    (traceOf log).story = (traceOf before).story ++ .onStateChange .eof :: (traceOf after).story := by
  unfold traceOf
  rw [h, List.filter_append, List.filter_cons_of_pos rfl]

theorem Concluded.count_le {s : Conn} (h : Concluded s) : s.log.countP Event.isEof ≤ 1 := by
  rw [← countP_isEof_story]
  change s.trace.story.countP Event.isEof ≤ 1
  cases hFin : s.rcv.gotFinReached with
  | false =>
      rw [List.countP_eq_zero.2 fun e he => by simp [h.pending hFin e he]]
      decide
  | true =>
      obtain ⟨-, before, after, start, hSplit, hBefore, hAfter, -⟩ := h.reached hFin
      rw [hSplit, List.countP_append, List.countP_cons,
        List.countP_eq_zero.2 fun e he => by simp [hBefore e he],
        List.countP_eq_zero.2 fun e he => by simp [hAfter e he]]
      simp [Event.isEof]

/-- The place where the end of the stream is announced is unique. -/
theorem eof_split_unique {b a before after : List Event}
    (h : b ++ .onStateChange .eof :: a = before ++ .onStateChange .eof :: after)
    (hBefore : ∀ e ∈ b, e.isEof = false) (hAfter : ∀ e ∈ a, e.isEof = false) : before = b := by
  rcases List.append_eq_append_iff.1 h with ⟨rest, hLeft, hRight⟩ | ⟨rest, hLeft, hRight⟩
  · cases rest with
    | nil => rw [hLeft, List.append_nil]
    | cons e rest =>
        rw [List.cons_append] at hRight
        have hMem : .onStateChange .eof ∈ a := by
          rw [(List.cons.inj hRight).2]
          simp
        exact nomatch hAfter _ hMem
  · cases rest with
    | nil => rw [hLeft, List.append_nil]
    | cons e rest =>
        rw [List.cons_append] at hRight
        have hMem : .onStateChange .eof ∈ b := by
          rw [hLeft, ← (List.cons.inj hRight).1]
          simp
        exact nomatch hBefore _ hMem

theorem DeliveredTo.of_story {eofPkt start : Nat} {shut : Bool} {before : List Event}
    (h : DeliveredTo eofPkt shut start (traceOf before).story) : DeliveredTo eofPkt shut start before := by
  have hPayloads : payloadsOf (traceOf before).story = payloadsOf before := by
    unfold payloadsOf
    rw [consumedOf_story]
  obtain ⟨hEntry, hNumbered, hLast, hPassed, hPrefix⟩ := h
  rw [entryOf_story] at hEntry
  rw [consumedOf_story] at hNumbered hLast
  rw [readsOf_story, hPayloads] at hPassed hPrefix
  exact ⟨hEntry, hNumbered, hLast, hPassed, hPrefix⟩

theorem Concluded.deliveredTo {s : Conn} (h : Concluded s) {before after : List Event}
    (hLog : s.log = before ++ .onStateChange .eof :: after) :
    ∃ start, DeliveredTo s.rcv.eofPkt s.rcv.readShutdown start before := by
  have hStory : s.trace.story = (traceOf before).story ++ .onStateChange .eof :: (traceOf after).story :=
    story_split hLog
  cases hFin : s.rcv.gotFinReached with
  | false =>
      have hNone := h.pending hFin (.onStateChange .eof) (by simp [hStory])
      exact nomatch hNone
  | true =>
      obtain ⟨-, b, a, start, hSplit, hBefore, hAfter, hDelivered⟩ := h.reached hFin
      have hSame := eof_split_unique (hSplit.symm.trans hStory) hBefore hAfter
      rw [← hSame] at hDelivered
      exact ⟨start, hDelivered.of_story⟩

theorem Hushed.of_story {log : List Event} (h : Hushed (traceOf log).story) : Hushed log := by
  intro before after hSplit
  rw [← readsOf_story]
  exact h _ _ (story_split hSplit)

/-- The end of the stream is announced at most once, after every packet up to the FIN has
been delivered in order; and in every run in which no packet in order reads past the end of
the stream, nothing is passed on after it. -/
theorem eof_is_final (env : Env) (c : Context) (hReach : c.Reachable env) :
    (∀ p, (c.logs p).countP Event.isEof ≤ 1) ∧
    (∀ p sock before after, c.sockets p = some sock →
      c.logs p = before ++ .onStateChange .eof :: after →
      ∃ start, DeliveredTo sock.rcv.eofPkt sock.rcv.readShutdown start before) ∧
    (c.ReachableIf env Context.endsInOrder → ∀ p before after,
      c.logs p = before ++ .onStateChange .eof :: after → readsOf after = []) := by
  refine ⟨fun p => ?_, fun p sock before after hSock hLog => ?_, fun hMeets p => ?_⟩
  · refine (preserved_concluded env).logs (J := fun log => log.countP Event.isEof ≤ 1) ?_ ?_ ?_ hReach p
    · decide
    · exact fun s hInv => hInv.2.count_le
    · intro log hLog
      rw [List.countP_append]
      exact hLog
  · by_cases hNew : sock.state = .uninitialized
    · rw [(hReach.ok.pristine p sock hSock hNew).2] at hLog
      exact nomatch (List.append_eq_nil_iff.1 hLog.symm).2
    · exact ((preserved_concluded env).reachable hReach p sock ⟨hSock, hNew⟩).2.deliveredTo hLog
  · refine (guarded_hushed env).logs (J := Hushed) ?_ ?_ ?_ hMeets p
    · exact .of_no_eof nofun
    · exact fun s hInv => hInv.2.of_story
    · exact fun log hLog => hLog.append rfl

/-- What the last part of a record says after the end of the stream. -/
def afterEof (ok : List Event → Bool) (log : List Event) : Bool :=
  match log.dropWhile fun e => !e.isEof with
  | .onStateChange .eof :: after => ok after
  | _ => false

theorem exists_of_afterEof {ok : List Event → Bool} {log : List Event} (h : afterEof ok log = true) :
    ∃ before after, log = before ++ .onStateChange .eof :: after ∧ ok after = true := by
  unfold afterEof at h
  split at h
  · rename_i after hDrop
    refine ⟨log.takeWhile fun e => !e.isEof, after, ?_, h⟩
    rw [← hDrop, List.takeWhile_append_dropWhile]
  · exact nomatch h

/-- A peer that sends one packet and its FIN, in order, and then `later`. -/
def endingOps (later : List Op) : List Op :=
  [.processUdp (somePacket stSyn 5 100 0 []) somePeer,
    .processUdp (somePacket stData 6 101 6 [1, 2, 3]) somePeer,
    .processUdp (somePacket stFin 6 102 6 []) somePeer] ++ later

/-- The FIN comes a second time, and an old packet. -/
theorem eof_is_final_repeated : ∃ (c : Context) (before after : List Event),
    c.ReachableIf steadyEnv Context.endsInOrder ∧
      c.logs 0 = before ++ .onStateChange .eof :: after ∧ after ≠ [] ∧ readsOf after = [] := by
  have hRun : ((utpInit true false).runIf steadyEnv Context.endsInOrder (endingOps
      [.processUdp (somePacket stFin 6 102 6 []) somePeer,
        .processUdp (somePacket stData 6 101 6 [1, 2, 3]) somePeer])).any
      (fun c => afterEof (fun after => !after.isEmpty) (c.logs 0)) = true := by
    decide +kernel
  obtain ⟨c, hMeets, hEnd⟩ := Context.ReachableIf.exists_of_runIf hRun
  obtain ⟨before, after, hLog, hSome⟩ := exists_of_afterEof hEnd
  refine ⟨c, before, after, hMeets, hLog, by simpa using hSome, ?_⟩
  exact (eof_is_final steadyEnv c hMeets.reachable).2.2 hMeets 0 before after hLog

/-- A packet in order after the FIN is passed on to `on_read`. -/
theorem eof_is_not_final : ∃ (c : Context) (before after : List Event), c.Reachable steadyEnv ∧
    c.logs 0 = before ++ .onStateChange .eof :: after ∧ readsOf after = [[9]] := by
  have hRun : ((utpInit true false).run steadyEnv (endingOps
      [.processUdp (somePacket stData 6 103 6 [9]) somePeer])).any
      (fun c => afterEof (fun after => readsOf after == [[9]]) (c.logs 0)) = true := by
    decide +kernel
  obtain ⟨c, hReach, hEnd⟩ := Context.Reachable.exists_of_run hRun
  obtain ⟨before, after, hLog, hReads⟩ := exists_of_afterEof hEnd
  exact ⟨c, before, after, hReach, hLog, beq_iff_eq.1 hReads⟩

end Utp
