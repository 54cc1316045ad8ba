import Mathlib.Data.List.Forall2
import Utp.Transition.Write
import Utp.Invariant.Packets

/-! The bytes of the outgoing queue while the writer adds to it. -/
namespace Utp

open Wrapping

/-- Copying takes the first bytes of the buffers and leaves the others. -/
theorem takeIov_spec (needed : Nat) (iov : List (List UInt8)) :
    (takeIov needed iov).1 = iov.flatten.take needed ∧ (takeIov needed iov).2.flatten = iov.flatten.drop needed := by
  induction needed, iov using takeIov.induct with
  | case1 iov => simp [takeIov]
  | case2 needed => simp [takeIov]
  | case3 needed v rest num ih =>
      have hNum : num = min (needed + 1) v.length := rfl
      obtain ⟨hTaken, hLeft⟩ := ih
      rw [takeIov]
      dsimp only
      rw [← hNum, hTaken, List.flatten_cons, List.flatten_cons, hLeft, List.take_append, List.drop_append, hNum]
      rcases Nat.le_total (needed + 1) v.length with hShort | hLong
      · have hNone : needed + 1 - v.length = 0 := by omega
        rw [min_eq_left hShort, Nat.sub_self, hNone]
        exact ⟨rfl, rfl⟩
      · rw [min_eq_right hLong, List.take_length, List.drop_length, List.take_of_length_le hLong,
          List.drop_eq_nil_of_le hLong]
        exact ⟨rfl, rfl⟩

/-- A packet while more is written. Only one that has not been sent may be extended,
and then its payload is within the limit. -/
structure OutgoingPacket.Carried (limit : Nat → Prop) (pkt pkt' : OutgoingPacket) : Prop where
  seqNr : pkt'.header.seqNr = pkt.header.seqNr
  sent : pkt.transmissions ≠ 0 → pkt'.transmissions ≠ 0
  payload : pkt'.body = pkt.body ∧ pkt'.payload = pkt.payload ∨ pkt.transmissions = 0 ∧ limit pkt'.payload

/-- A queue after bytes were written to it: its bytes are followed by the new ones,
its packets stay in place, and the packets created after them are within the limit. -/
structure Written (limit : Nat → Prop) (bytes : List UInt8) (q q' : List OutgoingPacket) : Prop where
  stream : q'.flatMap (·.body) = q.flatMap (·.body) ++ bytes
  packets : ∃ front new, q' = front ++ new ∧ List.Forall₂ (OutgoingPacket.Carried limit) q front ∧
    ∀ pkt ∈ new, limit pkt.payload

variable {limit : Nat → Prop} {bytes more : List UInt8} {q q' q'' : List OutgoingPacket}

namespace OutgoingPacket.Carried

variable {pkt pkt' pkt'' : OutgoingPacket}

theorem refl (pkt : OutgoingPacket) : pkt.Carried limit pkt := ⟨rfl, id, Or.inl ⟨rfl, rfl⟩⟩

theorem trans (hFirst : pkt.Carried limit pkt') (hSecond : pkt'.Carried limit pkt'') : pkt.Carried limit pkt'' := by
  refine ⟨hSecond.seqNr.trans hFirst.seqNr, fun hSent => hSecond.sent (hFirst.sent hSent), ?_⟩
  rcases hSecond.payload with ⟨hBody, hPayload⟩ | ⟨hUnsent, hLimit⟩
  · rw [hBody, hPayload]
    exact hFirst.payload
  · refine Or.inr ⟨?_, hLimit⟩
    by_contra hSent
    exact hFirst.sent hSent hUnsent

/-- A packet within a limit stays within it. -/
theorem limited (h : pkt.Carried limit pkt') (hLimit : limit pkt.payload) : limit pkt'.payload := by
  rcases h.payload with ⟨-, hPayload⟩ | ⟨-, hNew⟩
  · rw [hPayload]
    exact hLimit
  · exact hNew

end OutgoingPacket.Carried

/-- Packet by packet. -/
theorem carried_trans (hFirst : List.Forall₂ (OutgoingPacket.Carried limit) q q')
    (hSecond : List.Forall₂ (OutgoingPacket.Carried limit) q' q'') :
    List.Forall₂ (OutgoingPacket.Carried limit) q q'' := by
  induction hFirst generalizing q'' with
  | nil => exact hSecond
  | cons hHead _ ih =>
      cases hSecond with
      | cons hNext hRest => exact .cons (hHead.trans hNext) (ih hRest)

/-- A packet that was carried over has an old one that it comes from. -/
theorem carried_from {pkt : OutgoingPacket} (h : List.Forall₂ (OutgoingPacket.Carried limit) q q')
    (hMem : pkt ∈ q') : ∃ old ∈ q, old.Carried limit pkt := by
  induction h with
  | nil => cases hMem
  | cons hHead _ ih =>
      rcases List.mem_cons.1 hMem with rfl | hIn
      · exact ⟨_, List.mem_cons_self, hHead⟩
      · obtain ⟨old, hOld, hCarried⟩ := ih hIn
        exact ⟨old, List.mem_cons_of_mem _ hOld, hCarried⟩

namespace Written

theorem refl (q : List OutgoingPacket) : Written limit [] q q :=
  ⟨(List.append_nil _).symm, q, [], (List.append_nil q).symm, List.forall₂_same.2 fun pkt _ => .refl pkt, nofun⟩

theorem trans (hFirst : Written limit bytes q q') (hSecond : Written limit more q' q'') :
    Written limit (bytes ++ more) q q'' := by
  refine ⟨?_, ?_⟩
  · rw [hSecond.stream, hFirst.stream, List.append_assoc]
  · obtain ⟨front, new, rfl, hFront, hNew⟩ := hFirst.packets
    obtain ⟨front', new', rfl, hFront', hNew'⟩ := hSecond.packets
    obtain ⟨kept, created, rfl, hKept, hCreated⟩ : ∃ kept created, front' = kept ++ created ∧
        List.Forall₂ (OutgoingPacket.Carried limit) front kept ∧
        List.Forall₂ (OutgoingPacket.Carried limit) new created :=
      ⟨front'.take front.length, front'.drop front.length, (List.take_append_drop _ _).symm,
        (List.forall₂_take_append _ _ _ hFront'.flip).flip, (List.forall₂_drop_append _ _ _ hFront'.flip).flip⟩
    refine ⟨kept, created ++ new', List.append_assoc .., ?_, fun pkt hMem => ?_⟩
    · exact carried_trans hFront hKept
    · rcases List.mem_append.1 hMem with hIn | hIn
      · obtain ⟨old, hOld, hCarried⟩ := carried_from hCreated hIn
        exact hCarried.limited (hNew old hOld)
      · exact hNew' pkt hIn

/-- A larger limit holds as well. -/
theorem mono {limit' : Nat → Prop} (h : Written limit bytes q q') (hLimit : ∀ size, limit size → limit' size) : Written limit' bytes q q' := by
  obtain ⟨hStream, front, new, hSplit, hFront, hNew⟩ := h
  refine ⟨hStream, front, new, hSplit, hFront.imp fun pkt pkt' hCarried => ?_, fun pkt hMem => hLimit _ (hNew pkt hMem)⟩
  exact ⟨hCarried.seqNr, hCarried.sent, hCarried.payload.imp_right fun hBoth => ⟨hBoth.1, hLimit _ hBoth.2⟩⟩

/-- A packet is added at the end. -/
theorem append {pkt : OutgoingPacket} (q : List OutgoingPacket) (hLimit : limit pkt.payload) :
    Written limit pkt.body q (q ++ [pkt]) := by
  refine ⟨by simp, q, [pkt], rfl, List.forall₂_same.2 fun pkt _ => .refl pkt, ?_⟩
  rintro other (_ | ⟨_, hNone⟩)
  · exact hLimit
  · cases hNone

/-- Packets are replaced by others with the same bytes. -/
theorem same (h : List.Forall₂ (fun pkt pkt' => pkt'.body = pkt.body ∧ pkt.Carried limit pkt') q q') :
    Written limit [] q q' := by
  refine ⟨?_, q', [], (List.append_nil q').symm, h.imp fun _ _ hBoth => hBoth.2, nofun⟩
  induction h with
  | nil => rfl
  | cons hHead _ ih => rw [List.flatMap_cons, List.flatMap_cons, hHead.1, ih, List.append_assoc]

/-- The last packet is extended. -/
theorem fill {pkt pkt' : OutgoingPacket} (q : List OutgoingPacket) (hBody : pkt'.body = pkt.body ++ bytes)
    (hCarried : pkt.Carried limit pkt') : Written limit bytes (q ++ [pkt]) (q ++ [pkt']) := by
  refine ⟨by simp [hBody], q ++ [pkt'], [], by simp, ?_, nofun⟩
  exact List.rel_append (List.forall₂_same.2 fun pkt _ => .refl pkt) (.cons hCarried .nil)

end Written

namespace Conn

/-- The packets of the outgoing queue, from the oldest to the newest. A packet that was
acked on its own is no longer there. -/
def queue (s : Conn) : List OutgoingPacket := (List.range s.snd.curWindowPackets).reverse.filterMap (s.packetAt ·)

/-- The queue is in the view. -/
theorem queue_of_view {s s' : Conn} (h : s'.view = s.view) : s'.queue = s.queue := by
  have hSeq : s'.snd.seqNr = s.snd.seqNr := congrArg View.seqNr h
  have hCount : s'.snd.curWindowPackets = s.snd.curWindowPackets := congrArg View.curWindowPackets h
  have hBuf : s'.snd.outbuf = s.snd.outbuf := congrArg View.outbuf h
  unfold queue packetAt
  rw [hSeq, hCount, hBuf]

theorem queue_noteFull (bytes : Int) (s : Conn) : (s.noteFull bytes).queue = s.queue := by
  unfold noteFull
  split_ifs <;> rfl

theorem queue_markFull (s : Conn) : s.markFull.queue = s.queue := by
  unfold markFull
  split_ifs
  · exact queue_noteFull (-1) s
  · rfl

/-- The newest place is the last one of the list. -/
theorem queue_succ {s : Conn} {n : Nat} (h : s.snd.curWindowPackets = n + 1) :
    s.queue = (List.range n).reverse.filterMap (fun j => s.packetAt (j + 1)) ++ (s.packetAt 0).toList := by
  have hLast : [0].filterMap (s.packetAt ·) = (s.packetAt 0).toList := by
    cases hZero : s.packetAt 0 <;> simp [hZero]
  rw [queue, h, List.range_succ_eq_map, List.reverse_cons, List.filterMap_append, ← List.map_reverse,
    List.filterMap_map, hLast]
  rfl

end Conn

variable {env : Env} {s s' : Conn}

/-- Places that are filled before and after are carried one by one. -/
theorem forall₂_filterMap {R : OutgoingPacket → OutgoingPacket → Prop} {f g : Nat → Option OutgoingPacket}
    (h : ∀ j, (f j = none ∧ g j = none) ∨ ∃ pkt pkt', f j = some pkt ∧ g j = some pkt' ∧ R pkt pkt') (l : List Nat) :
    List.Forall₂ R (l.filterMap f) (l.filterMap g) := by
  induction l with
  | nil => exact .nil
  | cons j l ih =>
      rcases h j with ⟨hOld, hNew⟩ | ⟨pkt, pkt', hOld, hNew, hRel⟩
      · rwa [List.filterMap_cons_none hOld, List.filterMap_cons_none hNew]
      · rw [List.filterMap_cons_some hOld, List.filterMap_cons_some hNew]
        exact .cons hRel ih

namespace Core

/-- The payload of every queued packet is the bytes it carries. -/
theorem queue_payload (h : Core s) {pkt : OutgoingPacket} (hMem : pkt ∈ s.queue) :
    pkt.payload = pkt.body.length := by
  obtain ⟨j, -, hAt⟩ := List.mem_filterMap.1 hMem
  exact (h.packet_ok hAt).payload

/-- A new packet is put behind the others. -/
theorem written_append (h : Core s) (hCount : s.snd.curWindowPackets ≤ 1023) (hLimit : limit bytes.length) :
    Written limit bytes s.queue (s.appendPacket env stData bytes).queue := by
  obtain ⟨pkt, -, -, -, hBody, hPayload, -, -, -, hView⟩ := Conn.view_appendPacket env stData bytes s
  have hMore : (s.appendPacket env stData bytes).snd.curWindowPackets = u16 (s.snd.curWindowPackets + 1) :=
    congrArg View.curWindowPackets hView
  obtain ⟨hNew, hOld⟩ := h.packetAt_enqueued hCount (congrArg View.seqNr hView) hMore (congrArg View.outbuf hView)
  have hSucc : u16 ((s.snd.curWindowPackets : Int) + 1) = s.snd.curWindowPackets + 1 := by
    have hEmod := u16_emod (s.snd.curWindowPackets + 1)
    have hLt := u16_lt (s.snd.curWindowPackets + 1)
    omega
  have hQueue : (s.appendPacket env stData bytes).queue = s.queue ++ [pkt] := by
    rw [Conn.queue_succ (hMore.trans hSucc), hNew]
    simp only [hOld]
    rfl
  rw [hQueue, ← hBody]
  refine .append s.queue ?_
  rw [hPayload]
  exact hLimit

/-- The bytes are put behind those of the last packet, which was not sent. -/
theorem written_fill (h : Core s) {pkt : OutgoingPacket} (hCount : 0 < s.snd.curWindowPackets)
    (hGet : s.snd.outbuf.get (s.snd.seqNr - 1) = some pkt) (hUnsent : pkt.transmissions = 0)
    (hLimit : limit (pkt.payload + bytes.length)) :
    Written limit bytes s.queue (s.fillPacket env stData pkt bytes).queue := by
  obtain ⟨header, -, hSeq, -, hView⟩ := Conn.view_fillPacket env stData pkt bytes s
  have hSame : (s.fillPacket env stData pkt bytes).snd.curWindowPackets = s.snd.curWindowPackets :=
    congrArg View.curWindowPackets hView
  obtain ⟨hNew, hOld⟩ := h.packetAt_filled hCount (congrArg View.seqNr hView) hSame (congrArg View.outbuf hView)
  have hLast : s.packetAt 0 = some pkt := by
    unfold Conn.packetAt
    rw [if_pos hCount]
    simpa using hGet
  obtain ⟨n, hn⟩ : ∃ n, s.snd.curWindowPackets = n + 1 := ⟨s.snd.curWindowPackets - 1, by omega⟩
  rw [Conn.queue_succ hn, Conn.queue_succ (hSame.trans hn), hLast, hNew]
  simp only [hOld]
  exact .fill _ rfl ⟨hSeq, fun hSent => absurd hUnsent hSent, Or.inr ⟨hUnsent, hLimit⟩⟩

/-- Sending a packet changes nothing that was written. -/
theorem written_send (h : Core s) (v : Int) : Written limit [] s.queue (s.sendPacket env v).queue := by
  cases hGet : s.snd.outbuf.get v with
  | none =>
      rw [Conn.sendPacket_none env hGet]
      exact .refl _
  | some pkt =>
      have hView := Conn.view_sendPacket env hGet
      rw [Conn.view_chargeWindow] at hView
      obtain ⟨i, hAt, hPut⟩ := h.packetAt_put hGet
      have hCount : (s.sendPacket env v).snd.curWindowPackets = s.snd.curWindowPackets :=
        congrArg View.curWindowPackets hView
      have hNew := hPut (s.sendPacket env v) _ (congrArg View.seqNr hView) hCount (congrArg View.outbuf hView)
      rw [Conn.queue, Conn.queue, hCount]
      refine .same (forall₂_filterMap (fun j => ?_) _)
      rw [hNew j]
      by_cases hEq : j = i
      · rw [if_pos hEq, hEq, hAt]
        exact Or.inr ⟨pkt, _, rfl, rfl, rfl, rfl, fun _ => Nat.succ_ne_zero _, Or.inl ⟨rfl, rfl⟩⟩
      · rw [if_neg hEq]
        cases hOld : s.packetAt j with
        | none => exact Or.inl ⟨rfl, rfl⟩
        | some other => exact Or.inr ⟨other, other, rfl, rfl, rfl, .refl other⟩

/-- By induction on the packets that are left: a flush sends them, and they keep their bytes. -/
theorem written_flush (h : Core s) (n : Nat) : Written limit [] s.queue (s.flushFrom env n).queue := by
  induction n generalizing s with
  | zero => exact .refl _
  | succ n ih =>
      unfold Conn.flushFrom
      dsimp only
      split
      · exact ih h
      · split_ifs
        · exact ih h
        · rw [Conn.queue_noteFull]
          exact .refl _
        · have hSend (v : Int) : SendPath env .call s (s.sendPacket env v) := (Queueing.send s v).path
          exact (h.written_send _).trans (ih (h.sendPath (hSend _)))
        · exact ih h

end Core

end Utp
