import Utp.Library.Entries
import Utp.Transition.Traffic
import Utp.Invariant.Packets
import Utp.Invariant.Fate

/-! The packets that a socket has queued in its life, in order, and how those that wait in its
queue and those that it has sent are found among them. The record numbers them from zero; on the
wire they are numbered from the first sequence number on, with 16 bits. -/
namespace Utp

open Wrapping

/-- A packet as it was queued, with its type and what has been written to it since. -/
def notePacket (packets : List (Nat × List UInt8)) : Event → List (Nat × List UInt8)
  | .queued _ type bytes => packets ++ [(type, bytes)]
  | .extended bytes => packets.dropLast ++ [(stData, (packets.getLastD (stData, [])).2 ++ bytes)]
  | _ => packets

/-- All the packets that were queued. -/
def packetsOf (log : List Event) : List (Nat × List UInt8) := log.foldl notePacket []

/-- The list is built event by event. -/
theorem packetsOf_append (log : List Event) (e : Event) :
    packetsOf (log ++ [e]) = notePacket (packetsOf log) e := by
  simp [packetsOf]

/-- Events that queue nothing do not change it. -/
theorem packetsOf_other {e : Event} (log : List Event) (h : e.isQueueing = false) :
    packetsOf (log ++ [e]) = packetsOf log := by
  rw [packetsOf_append]
  cases e <;> first | rfl | cases h

/-- All that is queued is traffic. -/
theorem packetsOf_traffic (log : List Event) : packetsOf (trafficOf log) = packetsOf log := by
  induction log using List.reverseRecOn with
  | nil => rfl
  | append_singleton log e ih =>
      rw [trafficOf_append]
      cases hTraffic : e.isTraffic with
      | true =>
          have hKept : trafficOf [e] = [e] := by simp [trafficOf, hTraffic]
          rw [hKept, packetsOf_append, packetsOf_append, ih]
      | false =>
          have hGone : trafficOf [e] = [] := by simp [trafficOf, hTraffic]
          rw [hGone, List.append_nil, ih, packetsOf_other]
          cases e <;> first | rfl | cases hTraffic

/-- An event adds a packet, or bytes to the last one. -/
theorem length_notePacket (packets : List (Nat × List UInt8)) (e : Event) :
    packets.length ≤ (notePacket packets e).length := by
  cases e <;> simp only [notePacket, List.length_append, List.length_dropLast, List.length_singleton] <;> omega

/-- By induction on the events: no packet goes away. -/
theorem packetsOf_length_le (log more : List Event) :
    (packetsOf log).length ≤ (packetsOf (log ++ more)).length := by
  induction more using List.reverseRecOn with
  | nil => rw [List.append_nil]
  | append_singleton more e ih =>
      rw [← List.append_assoc, packetsOf_append]
      exact ih.trans (length_notePacket _ e)

/-- What sending, losing and resending leave of a packet that goes on the wire. -/
structure OutgoingPacket.Copies (pkt pkt' : OutgoingPacket) : Prop where
  type : pkt'.header.type = pkt.header.type
  ext : pkt'.header.ext = pkt.header.ext
  body : pkt'.body = pkt.body
  sent : pkt.transmissions ≠ 0 → pkt'.transmissions ≠ 0

/-- The packet `w` that was sent is the one with the number `k`, and no more than a window ago
it was the newest. -/
structure Ships (start : Nat) (packets : List (Nat × List UInt8)) (count k : Nat) (w : Wire) : Prop where
  lt : k < count
  near : count ≤ k + 1024
  seqNr : w.header.seqNr = u16 (start + k)
  ext : w.header.ext = 0
  packet : packets[k]? = some (w.header.type, w.tail)

/-- What a packet on the wire says about the sender. An ack has the number of the next packet
that will be queued, any other packet its own. -/
def SentAs (start : Nat) (packets : List (Nat × List UInt8)) (pre : List Event) (w : Wire) : Prop :=
  (w.header.type = stState ∧ w.header.seqNr = u16 (start + (packetsOf pre).length)) ∨
    w.header.type ≠ stState ∧ ∃ k, Ships start packets (packetsOf pre).length k w

/-- Packets that are queued later do not matter. -/
theorem SentAs.mono {start : Nat} {packets more : List (Nat × List UInt8)} {pre : List Event} {w : Wire}
    (h : SentAs start packets pre w) (hPrefix : packets <+: more) : SentAs start more pre w := by
  obtain ⟨rest, rfl⟩ := hPrefix
  rcases h with hAck | ⟨hType, k, hShips⟩
  · exact Or.inl hAck
  · have hIn : k < packets.length := (List.getElem?_eq_some_iff.1 hShips.packet).1
    exact Or.inr ⟨hType, k, hShips.lt, hShips.near, hShips.seqNr, hShips.ext,
      (List.getElem?_append_left hIn).trans hShips.packet⟩

namespace Conn

/-- Whether the newest packet of the queue may still be extended. -/
def holdsBack (s : Conn) : Bool := (s.packetAt 0).any fun pkt => pkt.transmissions == 0

/-- The packets that nothing will be written to any more. -/
def settled (s : Conn) : List (Nat × List UInt8) :=
  if s.holdsBack then (packetsOf s.traffic).dropLast else packetsOf s.traffic

/-- Only the last packet may still be filled. -/
theorem settled_prefix (s : Conn) : s.settled <+: packetsOf s.traffic := by
  unfold settled
  split_ifs
  · exact List.dropLast_prefix _
  · exact List.prefix_refl _

end Conn

/-- A socket whose first packet has the number `start`: its queue and what it has sent agree
with the packets that were queued. -/
structure Booked (start : Nat) (s : Conn) : Prop where
  state : s.state ≠ .idle
  seqNr : s.snd.seqNr = u16 (start + (packetsOf s.traffic).length)
  count : s.snd.curWindowPackets ≤ (packetsOf s.traffic).length
  queued : ∀ j pkt, s.packetAt j = some pkt → pkt.header.ext = 0 ∧ pkt.header.type ≠ stState ∧
    (packetsOf s.traffic)[(packetsOf s.traffic).length - 1 - j]? = some (pkt.header.type, pkt.body)
  sends : EachEntry Event.wire? (SentAs start s.settled) s.traffic

namespace Conn

/-- Packets leave the queue, but those that stay are copies of what they were. -/
structure Retains (s s' : Conn) : Prop where
  seqNr : s'.snd.seqNr = s.snd.seqNr
  count : s'.snd.curWindowPackets ≤ s.snd.curWindowPackets
  packets : ∀ j pkt', s'.packetAt j = some pkt' → ∃ pkt, s.packetAt j = some pkt ∧ pkt.Copies pkt'

/-- A packet of the window is found by the next number and the count. -/
theorem packetAt_congr {s s' : Conn} (hSeq : s'.snd.seqNr = s.snd.seqNr)
    (hCount : s'.snd.curWindowPackets = s.snd.curWindowPackets) (hBuf : s'.snd.outbuf = s.snd.outbuf) (j : Nat) :
    s'.packetAt j = s.packetAt j := by
  unfold packetAt
  rw [hSeq, hCount, hBuf]

/-- Packets that stay are retained. -/
theorem retains_of_packetAt {s s' : Conn} (hSeq : s'.snd.seqNr = s.snd.seqNr)
    (hCount : s'.snd.curWindowPackets = s.snd.curWindowPackets) (hSame : ∀ j, s'.packetAt j = s.packetAt j) :
    Retains s s' :=
  ⟨hSeq, hCount.le, fun j pkt hAt => ⟨pkt, (hSame j).symm.trans hAt, rfl, rfl, rfl, id⟩⟩

theorem retains_of_view {s s' : Conn} (h : s'.view = s.view) : Retains s s' :=
  retains_of_packetAt (congrArg View.seqNr h) (congrArg View.curWindowPackets h)
    (packetAt_congr (congrArg View.seqNr h) (congrArg View.curWindowPackets h) (congrArg View.outbuf h))

/-- So is everything when the sending side is left alone. -/
theorem retains_of_snd {s s' : Conn} (h : s'.snd = s.snd) : Retains s s' :=
  retains_of_packetAt (by rw [h]) (by rw [h]) (packetAt_congr (by rw [h]) (by rw [h]) (by rw [h]))

/-- Two functions in a row: a packet that is there at the end was there at the start. -/
theorem Retains.trans {s t u : Conn} (hFirst : Retains s t) (hSecond : Retains t u) : Retains s u := by
  refine ⟨hSecond.seqNr.trans hFirst.seqNr, hSecond.count.trans hFirst.count, fun j pkt'' hAt => ?_⟩
  obtain ⟨pkt', hMid, hLast⟩ := hSecond.packets j pkt'' hAt
  obtain ⟨pkt, hOld, hCopy⟩ := hFirst.packets j pkt' hMid
  exact ⟨pkt, hOld, hLast.type.trans hCopy.type, hLast.ext.trans hCopy.ext, hLast.body.trans hCopy.body,
    fun hSent => hLast.sent (hCopy.sent hSent)⟩

/-- A packet that is not held back is not held back again. -/
theorem Retains.holdsBack {s s' : Conn} (h : Retains s s') (hBack : s'.holdsBack = true) :
    s.holdsBack = true := by
  obtain ⟨pkt', hAt, hUnsent⟩ := (Option.any_eq_true _ _).1 hBack
  obtain ⟨pkt, hOld, hCopy⟩ := h.packets 0 pkt' hAt
  refine (Option.any_eq_true _ _).2 ⟨pkt, hOld, ?_⟩
  rw [beq_iff_eq] at hUnsent ⊢
  by_contra hSent
  exact hCopy.sent hSent hUnsent

/-- The packets that are settled stay so. -/
theorem Retains.settled {s s' : Conn} (h : Retains s s') (hSame : packetsOf s'.traffic = packetsOf s.traffic) :
    s.settled <+: s'.settled := by
  unfold Conn.settled
  rw [hSame]
  by_cases hBack : s.holdsBack = true
  · rw [if_pos hBack]
    split_ifs
    · exact List.prefix_refl _
    · exact List.dropLast_prefix _
  · rw [if_neg hBack, if_neg fun hNow => hBack (h.holdsBack hNow)]

/-- A slot of the buffer is written. -/
theorem retains_put {s s' : Conn} (hCore : Core s) {v : Int} {pkt : OutgoingPacket} {new : Option OutgoingPacket}
    (hGet : s.snd.outbuf.get v = some pkt) (hNew : ∀ pkt', new = some pkt' → pkt.Copies pkt')
    (hSeq : s'.snd.seqNr = s.snd.seqNr) (hCount : s'.snd.curWindowPackets = s.snd.curWindowPackets)
    (hBuf : s'.snd.outbuf = s.snd.outbuf.put v new) : Retains s s' := by
  obtain ⟨i, hAt, hPut⟩ := hCore.packetAt_put hGet
  refine ⟨hSeq, hCount.le, fun j pkt' hNow => ?_⟩
  rw [hPut s' new hSeq hCount hBuf j] at hNow
  split_ifs at hNow with hIs
  · subst hIs
    exact ⟨pkt, hAt, hNew pkt' hNow⟩
  · exact ⟨pkt', hNow, rfl, rfl, rfl, id⟩

variable (env : Env)

/-- A packet that counts as lost has the same bytes. -/
theorem retains_losePacket {s : Conn} (hCore : Core s) (i : Nat) : Retains s (s.losePacket i) := by
  rcases losePacket_cases i s with hSame | ⟨pkt, hGet, -, -, hLost⟩
  · rw [hSame]
    exact retains_of_snd rfl
  · have hView := congrArg Conn.view hLost
    rw [view_check] at hView
    refine retains_put hCore hGet ?_ (congrArg View.seqNr hView) (congrArg View.curWindowPackets hView)
      (congrArg View.outbuf hView)
    intro pkt' hNew
    cases hNew
    exact ⟨rfl, rfl, rfl, id⟩

/-- So has a packet that was sent. -/
theorem retains_sendPacket {s : Conn} (hCore : Core s) (v : Int) : Retains s (s.sendPacket env v) := by
  cases hGet : s.snd.outbuf.get v with
  | none =>
      rw [sendPacket_none env hGet]
      exact retains_of_snd rfl
  | some pkt =>
      have hView := view_sendPacket env hGet
      rw [view_chargeWindow] at hView
      refine retains_put hCore hGet ?_ (congrArg View.seqNr hView) (congrArg View.curWindowPackets hView)
        (congrArg View.outbuf hView)
      intro pkt' hNew
      cases hNew
      exact ⟨rfl, rfl, rfl, fun _ => Nat.succ_ne_zero _⟩

/-- An acked packet goes, and the others stay. -/
theorem retains_ackPacket {s : Conn} (hCore : Core s) (seq : Int) : Retains s (s.ackPacket env seq).2 := by
  cases hGet : s.snd.outbuf.get (u16 seq) with
  | none =>
      rw [ackPacket_none env hGet]
      exact retains_of_snd rfl
  | some pkt =>
      rw [ackPacket_some env hGet]
      split_ifs
      · exact retains_of_snd rfl
      · have hView := view_removePacket env (u16 seq) pkt s
        refine retains_put hCore hGet ?_ (congrArg View.seqNr hView) (congrArg View.curWindowPackets hView)
          (congrArg View.outbuf hView)
        intro pkt' hNew
        cases hNew

/-- A packet that is added to the queue. -/
theorem outbuf_appendPacket (flags : Nat) (bytes : List UInt8) (s : Conn) :
    ∃ pkt : OutgoingPacket, pkt.header.ext = 0 ∧ pkt.header.type = flags ∧ pkt.body = bytes ∧ pkt.transmissions = 0 ∧
      (s.appendPacket env flags bytes).snd.seqNr = u16 (s.snd.seqNr + 1) ∧
      (s.appendPacket env flags bytes).snd.curWindowPackets = u16 (s.snd.curWindowPackets + 1) ∧
      (s.appendPacket env flags bytes).snd.outbuf =
        (s.snd.outbuf.ensureSize s.snd.seqNr s.snd.curWindowPackets).put s.snd.seqNr (some pkt) := by
  unfold appendPacket
  dsimp only
  have hView : ((s.check 1049 (bytes.isEmpty || flags == stData)).updateRcvWin env).view = s.view := by
    simp only [view_updateRcvWin, view_check]
  generalize (s.check 1049 (bytes.isEmpty || flags == stData)).updateRcvWin env = prep at hView ⊢
  have hSeq : prep.snd.seqNr = s.snd.seqNr := congrArg View.seqNr hView
  have hCount : prep.snd.curWindowPackets = s.snd.curWindowPackets := congrArg View.curWindowPackets hView
  have hBuf : prep.snd.outbuf = s.snd.outbuf := congrArg View.outbuf hView
  refine ⟨prep.newPacket flags bytes, rfl, rfl, rfl, rfl, ?_, ?_, ?_⟩
  · rw [← hSeq]
    rfl
  · rw [← hCount]
    rfl
  · rw [← hSeq, ← hCount, ← hBuf]
    rfl

/-- The newest packet with more bytes in it. -/
theorem outbuf_fillPacket (flags : Nat) (pkt : OutgoingPacket) (bytes : List UInt8) (s : Conn) :
    ∃ pkt' : OutgoingPacket, pkt'.header.ext = 0 ∧ pkt'.header.type = flags ∧ pkt'.body = pkt.body ++ bytes ∧
      pkt'.transmissions = pkt.transmissions ∧
      (s.fillPacket env flags pkt bytes).snd.seqNr = s.snd.seqNr ∧
      (s.fillPacket env flags pkt bytes).snd.curWindowPackets = s.snd.curWindowPackets ∧
      (s.fillPacket env flags pkt bytes).snd.outbuf = s.snd.outbuf.put (s.snd.seqNr - 1) (some pkt') := by
  unfold fillPacket
  dsimp only
  have hView : (((s.check 1036 (!pkt.needResend)).check 1049 (bytes.isEmpty || flags == stData)).updateRcvWin env).view =
      s.view := by
    simp only [view_updateRcvWin, view_check]
  generalize ((s.check 1036 (!pkt.needResend)).check 1049 (bytes.isEmpty || flags == stData)).updateRcvWin env = prep
    at hView ⊢
  have hSeq : prep.snd.seqNr = s.snd.seqNr := congrArg View.seqNr hView
  have hBuf : prep.snd.outbuf = s.snd.outbuf := congrArg View.outbuf hView
  refine ⟨prep.filledPacket flags pkt bytes, rfl, rfl, rfl, rfl, hSeq, congrArg View.curWindowPackets hView, ?_⟩
  rw [← hSeq, ← hBuf]
  rfl

end Conn

/-- The oldest packets are taken out of the queue, and the others stay. -/
structure Conn.Cuts (s s' : Conn) : Prop where
  seqNr : s'.snd.seqNr = s.snd.seqNr
  count : s'.snd.curWindowPackets ≤ s.snd.curWindowPackets
  packets : ∀ j, s'.packetAt j = if j < s'.snd.curWindowPackets then s.packetAt j else none

/-- A queue that is cut at its front retains the rest. -/
theorem Conn.Cuts.retains {s s' : Conn} (h : Conn.Cuts s s') : Conn.Retains s s' := by
  refine ⟨h.seqNr, h.count, fun j pkt hAt => ?_⟩
  rw [h.packets j] at hAt
  split_ifs at hAt
  exact ⟨pkt, hAt, rfl, rfl, rfl, id⟩

/-- One ack, or one empty slot that is passed over, cuts one packet. -/
theorem AckStep.cuts {env : Env} {header : PacketFormatV1} {s s' : Conn} (h : AckStep env header s s')
    (hLoose : LooseOk s.view) : Conn.Cuts s s' ∧ s'.snd.curWindowPackets + 1 = s.snd.curWindowPackets := by
  have hLimit : s.snd.curWindowPackets ≤ 1024 := hLoose.queue.count_le_limit
  have hLess : 0 < s.snd.curWindowPackets →
      u16 (s.snd.curWindowPackets - 1) + 1 = s.snd.curWindowPackets := by
    intro hPos
    have hEmod := u16_emod (s.snd.curWindowPackets - 1)
    have hLt := u16_lt (s.snd.curWindowPackets - 1)
    omega
  cases h with
  | acked hCount hAcked hSent =>
      obtain ⟨hSeq, hSame⟩ : (s.ackPacket env (s.snd.seqNr - s.snd.curWindowPackets)).2.snd.seqNr = s.snd.seqNr ∧
          (s.ackPacket env (s.snd.seqNr - s.snd.curWindowPackets)).2.snd.curWindowPackets =
            s.snd.curWindowPackets := by
        cases hGet : s.snd.outbuf.get (u16 (s.snd.seqNr - s.snd.curWindowPackets)) with
        | none =>
            rw [Conn.ackPacket_none env hGet]
            exact ⟨rfl, rfl⟩
        | some pkt =>
            rw [Conn.ackPacket_some env hGet]
            split_ifs
            · exact ⟨rfl, rfl⟩
            · have hView := Conn.view_removePacket env (u16 (s.snd.seqNr - s.snd.curWindowPackets)) pkt s
              exact ⟨congrArg View.seqNr hView, congrArg View.curWindowPackets hView⟩
      have hNow : (s.ackPacket env (s.snd.seqNr - s.snd.curWindowPackets)).2.decWindowPackets.snd.curWindowPackets =
          u16 (s.snd.curWindowPackets - 1) := congrArg (fun n : Nat => u16 (n - 1)) hSame
      refine ⟨⟨hSeq, ?_, fun j => ?_⟩, ?_⟩
      · have hStep := hLess hCount
        rw [hNow]
        omega
      · have hStep := hLess hCount
        rw [Conn.packetAt_decWindowPackets (hSame.symm ▸ hCount) (hSame.symm ▸ hLimit), hNow, hSame]
        by_cases hIn : j + 1 < s.snd.curWindowPackets
        · rw [if_pos hIn, if_pos (by omega), Conn.packetAt_ackFront env hLoose hIn]
        · rw [if_neg hIn, if_neg (by omega)]
      · rw [hNow]
        exact hLess hCount
  | dropped hCount hNone =>
      have hStep := hLess hCount
      have hNow : s.decWindowPackets.snd.curWindowPackets = u16 (s.snd.curWindowPackets - 1) := rfl
      refine ⟨⟨rfl, ?_, fun j => ?_⟩, hStep⟩
      · rw [hNow]
        omega
      · rw [Conn.packetAt_decWindowPackets hCount hLimit, hNow]
        by_cases hIn : j + 1 < s.snd.curWindowPackets
        · rw [if_pos hIn, if_pos (by omega)]
        · rw [if_neg hIn, if_neg (by omega)]

theorem Conn.Cuts.refl (s : Conn) : Conn.Cuts s s := by
  refine ⟨rfl, le_rfl, fun j => ?_⟩
  unfold Conn.packetAt
  split_ifs <;> rfl

/-- Two cuts are one. -/
theorem Conn.Cuts.trans {s t u : Conn} (hFirst : Conn.Cuts s t) (hSecond : Conn.Cuts t u) : Conn.Cuts s u := by
  refine ⟨hSecond.seqNr.trans hFirst.seqNr, hSecond.count.trans hFirst.count, fun j => ?_⟩
  rw [hSecond.packets j, hFirst.packets j]
  by_cases hIn : j < u.snd.curWindowPackets
  · rw [if_pos hIn, if_pos hIn, if_pos (hIn.trans_le hSecond.count)]
  · rw [if_neg hIn, if_neg hIn]

/-- By induction on the acks. -/
theorem AckStep.cuts_run {env : Env} {header : PacketFormatV1} {s s' : Conn}
    (h : Relation.ReflTransGen (AckStep env header) s s') (hLoose : LooseOk s.view) : Conn.Cuts s s' := by
  induction h with
  | refl => exact .refl s
  | tail hRun hStep ih => exact ih.trans (hStep.cuts (AckStep.loose_run hRun hLoose).1).1

/-- No move of the state goes back to the start. -/
theorem Moving.not_idle {cause : Cause} {s s' : Conn} (h : Moving cause s s') (hState : s.state ≠ .idle) :
    s'.state ≠ .idle := by
  rcases h.story with ⟨-, hSame⟩ | ⟨-, hSame, -⟩ | ⟨-, -, hNow⟩ | ⟨-, -, hNow⟩ | ⟨dst, code, -, hDst, hNow⟩ |
    ⟨e, -, -, hNow, -⟩
  · rw [hSame]
    exact hState
  · rw [hSame]
    exact hState
  · simp [hNow]
  · simp [hNow]
  · rcases hDst with rfl | rfl <;> simp [hNow]
  · simp [hNow]

namespace Booked

variable {env : Env} {cause : Cause} {start : Nat} {s s' : Conn}

/-- What was sent before is still as it was, when more packets are settled. -/
theorem sent_before (h : Booked start s) (hSettled : s.settled <+: s'.settled) :
    EachEntry Event.wire? (SentAs start s'.settled) s.traffic :=
  fun pre e post w hSplit hWire => (h.sends pre e post w hSplit hWire).mono hSettled

/-- Nothing is written or sent. -/
theorem retains (h : Booked start s) (hState : s'.state ≠ .idle) (hRetains : Conn.Retains s s')
    (hTraffic : s'.traffic = s.traffic) : Booked start s' := by
  have hPackets : packetsOf s'.traffic = packetsOf s.traffic := by rw [hTraffic]
  refine ⟨hState, ?_, ?_, fun j pkt' hAt => ?_, ?_⟩
  · rw [hRetains.seqNr, hPackets, h.seqNr]
  · rw [hPackets]
    exact hRetains.count.trans h.count
  · obtain ⟨pkt, hOld, hCopy⟩ := hRetains.packets j pkt' hAt
    rw [hPackets, hCopy.ext, hCopy.type, hCopy.body]
    exact h.queued j pkt hOld
  · rw [hTraffic]
    exact h.sent_before (hRetains.settled hPackets)

/-- Nothing is written, and a packet that is sent fits the record. -/
theorem noted {e : Event} (h : Booked start s) (hState : s'.state ≠ .idle) (hRetains : Conn.Retains s s')
    (hTraffic : s'.traffic = s.traffic ++ [e]) (hPlain : e.isQueueing = false)
    (hWire : ∀ w, e.wire? = some w → SentAs start s'.settled s.traffic w) : Booked start s' := by
  have hPackets : packetsOf s'.traffic = packetsOf s.traffic := by
    rw [hTraffic]
    exact packetsOf_other _ hPlain
  refine ⟨hState, ?_, ?_, fun j pkt' hAt => ?_, ?_⟩
  · rw [hRetains.seqNr, hPackets, h.seqNr]
  · rw [hPackets]
    exact hRetains.count.trans h.count
  · obtain ⟨pkt, hOld, hCopy⟩ := hRetains.packets j pkt' hAt
    rw [hPackets, hCopy.ext, hCopy.type, hCopy.body]
    exact h.queued j pkt hOld
  · rw [hTraffic]
    exact EachEntry.append_iff.2 ⟨h.sent_before (hRetains.settled hPackets), hWire⟩

theorem sent {w : Wire} {flags : Nat} (h : Booked start s) (hState : s'.state ≠ .idle) (hRetains : Conn.Retains s s')
    (hTraffic : s'.traffic = s.traffic ++ [.sendto w flags])
    (hWire : SentAs start s'.settled s.traffic w) : Booked start s' := by
  refine h.noted hState hRetains hTraffic rfl fun w' hPick => ?_
  cases hPick
  exact hWire

/-- An ack is sent. -/
theorem ack {w : Wire} {flags : Nat} (h : Booked start s) (hState : s'.state ≠ .idle) (hRetains : Conn.Retains s s')
    (hTraffic : s'.traffic = s.traffic ++ [.sendto w flags]) (hType : w.header.type = stState)
    (hSeq : w.header.seqNr = s.snd.seqNr) : Booked start s' :=
  h.sent hState hRetains hTraffic (Or.inl ⟨hType, hSeq.trans h.seqNr⟩)

/-- The packet in a place of the queue, as it goes on the wire. -/
theorem ships (h : Booked start s) (hCore : Core s) {j : Nat} {pkt : OutgoingPacket} {w : Wire}
    (hAt : s.packetAt j = some pkt) (hWire : s.DataWire pkt w) {packets : List (Nat × List UInt8)}
    (hSettled : packets <+: packetsOf s.traffic) (hIn : (packetsOf s.traffic).length - 1 - j < packets.length) :
    Ships start packets (packetsOf s.traffic).length ((packetsOf s.traffic).length - 1 - j) w := by
  obtain ⟨hExt, -, hPacket⟩ := h.queued j pkt hAt
  obtain ⟨hPlace, hLimit⟩ := hCore.lt_of_packetAt hAt
  have hOk := hCore.packet_ok hAt
  have hCount := h.count
  obtain ⟨rest, hRest⟩ := hSettled
  refine ⟨by omega, by omega, ?_, hWire.ext.trans hExt, ?_⟩
  · rw [hWire.seqNr, hOk.seqNr, h.seqNr, u16_eq_iff]
    have hEmod := u16_emod (start + (packetsOf s.traffic).length)
    omega
  · have hTail : w.tail = pkt.body := by
      rw [hWire.tail, hOk.length, hOk.payload]
      simp
    have hSame : (packets ++ rest)[(packetsOf s.traffic).length - 1 - j]? =
        packets[(packetsOf s.traffic).length - 1 - j]? := List.getElem?_append_left hIn
    rw [hRest, hPacket] at hSame
    rw [hWire.type, hTail, ← hSame]

/-- A queued packet is sent, and is settled if it was not before. -/
theorem sendPacket (h : Booked start s) (hCore : Core s) (v : Int) : Booked start (s.sendPacket env v) := by
  cases hGet : s.snd.outbuf.get v with
  | none =>
      rw [Conn.sendPacket_none env hGet]
      exact h
  | some pkt =>
      obtain ⟨w, flags, hWire, hTraffic⟩ := Conn.traffic_sendPacket env hGet
      obtain ⟨i, hAt, hPut⟩ := hCore.packetAt_put hGet
      have hView := Conn.view_sendPacket env hGet
      rw [Conn.view_chargeWindow] at hView
      have hState : (s.sendPacket env v).state ≠ .idle := (congrArg View.state hView).trans_ne h.state
      have hNow := hPut (s.sendPacket env v) _ (congrArg View.seqNr hView) (congrArg View.curWindowPackets hView)
        (congrArg View.outbuf hView) 0
      have hPackets : packetsOf (s.sendPacket env v).traffic = packetsOf s.traffic := by
        rw [hTraffic]
        exact packetsOf_other _ rfl
      obtain ⟨hPlace, -⟩ := hCore.lt_of_packetAt hAt
      have hCount := h.count
      refine h.sent hState (Conn.retains_sendPacket env hCore v) hTraffic (Or.inr ⟨?_, _, h.ships hCore hAt hWire ?_ ?_⟩)
      · rw [hWire.type]
        exact (h.queued i pkt hAt).2.1
      · rw [← hPackets]
        exact Conn.settled_prefix _
      · unfold Conn.settled
        rw [hPackets]
        by_cases hFirst : 0 = i
        · have hSent : (s.sendPacket env v).holdsBack = false := by
            unfold Conn.holdsBack
            rw [hNow, if_pos hFirst]
            rfl
          rw [hSent, if_neg Bool.false_ne_true]
          omega
        · split_ifs
          · rw [List.length_dropLast]
            omega
          · omega

/-- A packet is added at the end of the queue. -/
theorem enqueued {seqNr type : Nat} {pkt : OutgoingPacket} (h : Booked start s) (hState : s'.state ≠ .idle)
    (hTraffic : s'.traffic = s.traffic ++ [.queued seqNr type pkt.body])
    (hSeq : s'.snd.seqNr = u16 (s.snd.seqNr + 1)) (hCount : s'.snd.curWindowPackets ≤ s.snd.curWindowPackets + 1)
    (hNew : s'.packetAt 0 = some pkt) (hOld : ∀ j, s'.packetAt (j + 1) = s.packetAt j) (hExt : pkt.header.ext = 0)
    (hType : pkt.header.type = type) (hAck : type ≠ stState) (hUnsent : pkt.transmissions = 0) : Booked start s' := by
  have hPackets : packetsOf s'.traffic = packetsOf s.traffic ++ [(type, pkt.body)] := by
    rw [hTraffic, packetsOf_append]
    rfl
  have hSettled : s'.settled = packetsOf s.traffic := by
    have hBack : s'.holdsBack = true := by
      unfold Conn.holdsBack
      rw [hNew]
      simp [hUnsent]
    unfold Conn.settled
    rw [if_pos hBack, hPackets, List.dropLast_concat]
  refine ⟨hState, ?_, ?_, fun j pkt' hAt => ?_, ?_⟩
  · rw [hSeq, h.seqNr, hPackets, List.length_append, List.length_singleton, u16_add_u16, Nat.cast_add, Nat.cast_one,
      ← add_assoc]
  · rw [hPackets, List.length_append, List.length_singleton]
    exact hCount.trans (Nat.succ_le_succ h.count)
  · rw [hPackets, List.length_append, List.length_singleton, Nat.add_sub_cancel]
    cases j with
    | zero =>
        cases Option.some.inj (hNew.symm.trans hAt)
        rw [Nat.sub_zero, List.getElem?_concat_length, hType]
        exact ⟨hExt, hAck, rfl⟩
    | succ j =>
        rw [hOld j] at hAt
        obtain ⟨hPlain, hOther, hPacket⟩ := h.queued j pkt' hAt
        have hIn := (List.getElem?_eq_some_iff.1 hPacket).1
        rw [← Nat.sub_sub, Nat.sub_right_comm, List.getElem?_append_left hIn]
        exact ⟨hPlain, hOther, hPacket⟩
  · rw [hTraffic, EachEntry.append_other (by simp [Event.wire?])]
    refine h.sent_before ?_
    rw [hSettled]
    exact s.settled_prefix

/-- The newest packet, which has not been sent yet, is extended. -/
theorem filled {pkt pkt' : OutgoingPacket} {bytes : List UInt8} (h : Booked start s) (hState : s'.state ≠ .idle)
    (hTraffic : s'.traffic = s.traffic ++ [.extended bytes]) (hSeq : s'.snd.seqNr = s.snd.seqNr)
    (hCount : s'.snd.curWindowPackets = s.snd.curWindowPackets) (hAt : s.packetAt 0 = some pkt)
    (hNew : s'.packetAt 0 = some pkt') (hOld : ∀ j, s'.packetAt (j + 1) = s.packetAt (j + 1))
    (hExt : pkt'.header.ext = 0) (hType : pkt'.header.type = stData) (hBody : pkt'.body = pkt.body ++ bytes)
    (hUnsent : pkt.transmissions = 0) (hUnsent' : pkt'.transmissions = 0) : Booked start s' := by
  obtain ⟨-, -, hLast⟩ := h.queued 0 pkt hAt
  have hPos : 0 < (packetsOf s.traffic).length := (Nat.zero_le _).trans_lt (List.getElem?_eq_some_iff.1 hLast).1
  have hBytes : ((packetsOf s.traffic).getLastD (stData, [])).2 = pkt.body := by
    rw [List.getLastD_eq_getLast?, List.getLast?_eq_getElem?, ← Nat.sub_zero ((packetsOf s.traffic).length - 1), hLast]
    rfl
  have hPackets : packetsOf s'.traffic = (packetsOf s.traffic).dropLast ++ [(stData, pkt.body ++ bytes)] := by
    rw [hTraffic, packetsOf_append, ← hBytes]
    rfl
  have hLength : (packetsOf s'.traffic).length = (packetsOf s.traffic).length := by
    rw [hPackets, List.length_append, List.length_dropLast, List.length_singleton]
    omega
  have hBefore : s.settled = (packetsOf s.traffic).dropLast := by
    have hBack : s.holdsBack = true := by
      unfold Conn.holdsBack
      rw [hAt]
      simp [hUnsent]
    unfold Conn.settled
    rw [if_pos hBack]
  have hAfter : s'.settled = (packetsOf s.traffic).dropLast := by
    have hBack : s'.holdsBack = true := by
      unfold Conn.holdsBack
      rw [hNew]
      simp [hUnsent']
    unfold Conn.settled
    rw [if_pos hBack, hPackets, List.dropLast_concat]
  refine ⟨hState, ?_, ?_, fun j pkt'' hNow => ?_, ?_⟩
  · rw [hSeq, hLength, h.seqNr]
  · rw [hCount, hLength]
    exact h.count
  · rw [hLength, hPackets]
    cases j with
    | zero =>
        cases Option.some.inj (hNew.symm.trans hNow)
        rw [Nat.sub_zero, ← List.length_dropLast, List.getElem?_concat_length, hType, hBody]
        exact ⟨hExt, by decide, rfl⟩
    | succ j =>
        rw [hOld j] at hNow
        obtain ⟨hPlain, hOther, hPacket⟩ := h.queued (j + 1) pkt'' hNow
        have hIn := (List.getElem?_eq_some_iff.1 hPacket).1
        have hFront : (packetsOf s.traffic).length - 1 - (j + 1) < (packetsOf s.traffic).length - 1 := by
          have hWindow := h.count
          unfold Conn.packetAt at hNow
          split_ifs at hNow
          omega
        rw [List.getElem?_append_left (by rw [List.length_dropLast]; exact hFront), List.getElem?_dropLast,
          if_pos hFront]
        exact ⟨hPlain, hOther, hPacket⟩
  · rw [hTraffic, EachEntry.append_other (by simp [Event.wire?])]
    refine h.sent_before ?_
    rw [hBefore, hAfter]

/-- A packet is queued with the next number and its bytes. -/
theorem append (h : Booked start s) (hCore : Core s) (fin : Bool) {flags : Nat} {bytes : List UInt8}
    (hCount : s.snd.curWindowPackets ≤ 1023) (hFlags : flags ≠ stState) :
    Booked start ({ s with finSent := fin }.appendPacket env flags bytes) := by
  obtain ⟨pkt, hExt, hType, rfl, hUnsent, hSeq, hMore, hBuf⟩ :=
    Conn.outbuf_appendPacket env flags bytes { s with finSent := fin }
  obtain ⟨hNew, hOld⟩ := hCore.packetAt_enqueued hCount hSeq hMore hBuf
  have hState : ({ s with finSent := fin }.appendPacket env flags pkt.body).state = s.state :=
    congrArg Backdrop.state (Conn.backdrop_appendPacket env flags pkt.body { s with finSent := fin })
  refine h.enqueued (hState.trans_ne h.state) (Conn.traffic_appendPacket env flags pkt.body { s with finSent := fin })
    hSeq ?_ hNew hOld hExt hType hFlags hUnsent
  rw [hMore]
  have hEmod := u16_emod (s.snd.curWindowPackets + 1)
  have hLt := u16_lt (s.snd.curWindowPackets + 1)
  dsimp only
  omega

/-- Bytes are added to the last packet while it is not sent. -/
theorem fill (h : Booked start s) (hCore : Core s) {pkt : OutgoingPacket} {bytes : List UInt8}
    (hCount : 0 < s.snd.curWindowPackets) (hGet : s.snd.outbuf.get (s.snd.seqNr - 1) = some pkt)
    (hUnsent : pkt.transmissions = 0) : Booked start (s.fillPacket env stData pkt bytes) := by
  obtain ⟨pkt', hExt, hType, hBody, hSame, hSeq, hMore, hBuf⟩ := Conn.outbuf_fillPacket env stData pkt bytes s
  obtain ⟨hNew, hOld⟩ := hCore.packetAt_filled hCount hSeq hMore hBuf
  have hState : (s.fillPacket env stData pkt bytes).state = s.state :=
    congrArg Backdrop.state (Conn.backdrop_fillPacket env stData pkt bytes s)
  have hAt : s.packetAt 0 = some pkt := by
    unfold Conn.packetAt
    rw [if_pos hCount, Nat.cast_zero, sub_zero, hGet]
  exact h.filled (hState.trans_ne h.state) (Conn.traffic_fillPacket env stData pkt bytes s) hSeq hMore hAt hNew hOld
    hExt hType hBody hUnsent (hSame.trans hUnsent)

/-- Every transition of the queue keeps the books. -/
theorem queueing (h : Booked start s) (hCore : Core s) (hQueue : Queueing env cause s s') : Booked start s' := by
  have hState : s'.state ≠ .idle := (congrArg Backdrop.state hQueue.backdrop).trans_ne h.state
  cases hQueue with
  | append bytes hUp hFin hCount hLength => exact h.append hCore s.finSent hCount.le (by decide)
  | appendFin hUp hFin => exact h.append hCore true (hCore.view.room hFin) (by decide)
  | fill pkt bytes hUp hFin hCount hGet hUnsent hLength => exact h.fill hCore hCount hGet hUnsent
  | send v => exact h.sendPacket hCore v
  | acked _ r hCause hRun hFront =>
      exact h.retains hState (AckStep.cuts_run hRun hCore.view.toLooseOk).retains (AckStep.traffic_run hRun)
  | sacked r mask bits hCause hMask hBits hSet hWindow hSent =>
      refine h.retains hState ?_ (Conn.traffic_sacked env _ _ _ s)
      exact Conn.Retains.trans (Conn.retains_ackPacket env hCore _) (Conn.retains_of_snd rfl)
  | lost i =>
      exact h.retains hState (Conn.retains_losePacket hCore i)
        (Conn.traffic_of_trace (Conn.grows_losePacket i s) (Conn.trace_losePacket i s))
  | advance r =>
      unfold Conn.updateFastResend
      split_ifs
      · exact h.retains h.state (Conn.retains_of_packetAt rfl rfl fun j => rfl) rfl
      · exact h
  | retried => exact h.retains hState (Conn.retains_of_packetAt rfl rfl fun j => rfl) rfl
  | resent v => exact h.retains hState (Conn.retains_of_packetAt rfl rfl fun j => rfl) rfl

/-- The receiving side sends nothing but the ack of the end of the stream. -/
theorem drain {r : Received} (h : Booked start s) (hStep : DrainStep env r s s') : Booked start s' := by
  have hSame := hStep.foreground
  have hState : s'.state ≠ .idle := (congrArg Foreground.state hSame).trans_ne h.state
  have hRetains : Conn.Retains s s' := Conn.retains_of_snd (congrArg Foreground.snd hSame)
  cases hStep with
  | inOrder hOpen hType hOffset hDone =>
      have hNoted : Booked start (s.emit (.accepted r.d.header.seqNr 0 (r.d.drop r.data))) :=
        h.noted h.state (Conn.retains_of_snd rfl) (trafficOf_append _ _) rfl (by simp [Event.wire?])
      exact hNoted.noted hState (Conn.retains_of_snd (congrArg Foreground.snd hSame)) (Conn.traffic_deliver _ _) rfl
        (by simp [Event.wire?])
  | eof =>
      rcases Conn.traffic_reachEof env s with hNone | ⟨w, flags, hWire, hTraffic⟩
      · rw [hNone]
        exact h
      · exact h.ack hState hRetains hTraffic hWire.type hWire.seqNr
  | take p hOpen hCount hGet =>
      exact h.noted hState hRetains (Conn.traffic_takeReordered p s) rfl (by simp [Event.wire?])

/-- By induction on the turns of the drain loop. -/
theorem drain_run {r : Received} (h : Booked start s) (hRun : Relation.ReflTransGen (DrainStep env r) s s') :
    Booked start s' := by
  induction hRun with
  | refl => exact h
  | tail _ hStep ih => exact ih.drain hStep

/-- The acks that the receiving side sends are in the books as well. -/
theorem receiving (h : Booked start s) (hReceive : Receiving env cause s s') : Booked start s' := by
  have hSame := hReceive.foreground
  have hState : s'.state ≠ .idle := (congrArg Foreground.state hSame).trans_ne h.state
  have hRetains : Conn.Retains s s' := Conn.retains_of_snd (congrArg Foreground.snd hSame)
  cases hReceive with
  | synAcked r hCause hSent => exact h.retains hState hRetains rfl
  | fin r hCause hOpen =>
      refine h.retains hState hRetains ?_
      unfold Conn.noteFin
      split_ifs <;> rfl
  | drained _ r hCause hRun hDone => exact h.drain_run hRun
  | outOfOrder r hCause hOpen hType hOffset =>
      rcases Conn.traffic_receiveOutOfOrder r.d.header.seqNr (s.seqOffset r.d.header) (r.d.drop r.data) s with hNone | hNoted
      · exact h.retains hState hRetains hNone
      · exact h.noted hState hRetains hNoted rfl (by simp [Event.wire?])

/-- Every transition keeps the books. -/
theorem trans (h : Booked start s) (hCore : Core s) (hLive : s.Live) (hTrans : Trans env cause s s') :
    Booked start s' := by
  cases hTrans with
  | setup hSetup =>
      cases hSetup with
      | initialise addr connSeed connIdRecv connIdSend hNew => exact absurd hNew hLive
      | dial hIdle hCount hPointer => exact absurd hIdle h.state
      | accept d hCause hIdle hCount => exact absurd hIdle h.state
  | sending hSend =>
      cases hSend with
      | quiet hQuiet =>
          have hView := hQuiet.view hCore.view.bounds.ackNr_lt
          have hState : s'.state ≠ .idle := (congrArg View.state hView).trans_ne h.state
          rcases hQuiet.traffic with hNone | ⟨w, flags, hTraffic, hWire⟩
          · exact h.retains hState (Conn.retains_of_view hView) hNone
          · rcases hWire with hAck | ⟨hAck, -⟩
            · exact h.ack hState (Conn.retains_of_view hView) hTraffic hAck.type hAck.seqNr
            · exact h.ack hState (Conn.retains_of_view hView) hTraffic hAck.type hAck.seqNr
      | queueing hQueue => exact h.queueing hCore hQueue
      | moving hMove => exact h.retains (hMove.not_idle h.state) (Conn.retains_of_snd hMove.snd) hMove.traffic
  | receiving hReceive => exact h.receiving hReceive

end Booked

/-- What a transition writes: nothing, data on a connection that is up, or its last packet. Data is written
by `utp_writev` alone, except for the empty packet that follows the SYN-ACK, and the last packet by a call
that ends the connection. -/
inductive Writes (cause : Cause) (s s' : Conn) : Prop where
  | none (hPackets : packetsOf s'.traffic = packetsOf s.traffic) (hFin : s'.finSent = s.finSent)
  | data (bytes : List UInt8) (hCause : cause = .write ∨ ∃ r, cause = .packet r) (hOpen : s.state.open = true)
      (hFin : s.finSent = false) (hFin' : s'.finSent = false)
      (hPackets : packetsOf s'.traffic = packetsOf s.traffic ++ [(stData, bytes)] ∨
        packetsOf s'.traffic = (packetsOf s.traffic).dropLast ++ [(stData, bytes)])
  | fin (hAsked : cause = .asked) (hOpen : s.state.open = true) (hFin : s.finSent = false) (hFin' : s'.finSent = true)
      (hPackets : packetsOf s'.traffic = packetsOf s.traffic ++ [(stFin, [])])

section Writes

variable {env : Env} {cause : Cause} {s s' : Conn}

/-- An ack does not touch the flag. -/
theorem Conn.finSent_ackPacket (env : Env) (seq : Int) (s : Conn) :
    (s.ackPacket env seq).2.finSent = s.finSent := by
  cases hGet : s.snd.outbuf.get (u16 seq) with
  | none => rw [Conn.ackPacket_none env hGet]
  | some pkt =>
      rw [Conn.ackPacket_some env hGet]
      split_ifs
      · rfl
      · exact congrArg View.finSent (Conn.view_removePacket env (u16 seq) pkt s)

/-- By induction on the acks. -/
theorem AckStep.finSent_run {header : PacketFormatV1} (h : Relation.ReflTransGen (AckStep env header) s s') :
    s'.finSent = s.finSent := by
  induction h with
  | refl => rfl
  | tail _ hStep ih =>
      refine Eq.trans ?_ ih
      cases hStep with
      | acked hCount hAcked hSent => exact Conn.finSent_ackPacket env _ _
      | dropped hCount hNone => rfl

/-- Neither does a move of the state. -/
theorem Moving.finSent (h : Moving cause s s') : s'.finSent = s.finSent := by
  cases h with
  | finAcked r hCause hFin hAcks => split_ifs <;> rfl
  | full hState hFull =>
      unfold Conn.markFull Conn.noteFull
      rw [hFull]
      rfl
  | icmpError =>
      unfold Conn.receiveIcmpError
      split_ifs <;> rfl
  | _ => rfl

/-- Of the functions of the queue, only appending and filling write. -/
theorem Queueing.writes (h : Queueing env cause s s') : Writes cause s s' := by
  cases h with
  | append bytes hState hFin hCount hLength hWrites =>
      obtain ⟨pkt, -, -, -, -, -, -, -, -, hView⟩ := Conn.view_appendPacket env stData bytes s
      have hSame : (s.appendPacket env stData bytes).finSent = s.finSent := congrArg View.finSent hView
      refine .data bytes (hWrites.imp_right And.left) (by rw [hState]; rfl) hFin (hSame.trans hFin) (Or.inl ?_)
      rw [Conn.traffic_appendPacket, packetsOf_append]
      rfl
  | appendFin hState hFin hAsked =>
      obtain ⟨pkt, -, -, -, -, -, -, -, -, hView⟩ := Conn.view_appendPacket env stFin [] { s with finSent := true }
      refine .fin hAsked hState hFin (congrArg View.finSent hView) ?_
      rw [Conn.traffic_appendPacket, packetsOf_append]
      rfl
  | fill pkt bytes hState hFin hCount hGet hUnsent hLength hWrite =>
      obtain ⟨header, -, -, -, hView⟩ := Conn.view_fillPacket env stData pkt bytes s
      have hSame : (s.fillPacket env stData pkt bytes).finSent = s.finSent := congrArg View.finSent hView
      refine .data (((packetsOf s.traffic).getLastD (stData, [])).2 ++ bytes) (Or.inl hWrite) (by rw [hState]; rfl) hFin
        (hSame.trans hFin) (Or.inr ?_)
      rw [Conn.traffic_fillPacket, packetsOf_append]
      rfl
  | send v =>
      cases hGet : s.snd.outbuf.get v with
      | none =>
          rw [Conn.sendPacket_none env hGet]
          exact .none rfl rfl
      | some pkt =>
          obtain ⟨w, flags, -, hTraffic⟩ := Conn.traffic_sendPacket env hGet
          have hView := Conn.view_sendPacket env hGet
          rw [Conn.view_chargeWindow] at hView
          refine .none ?_ (congrArg View.finSent hView)
          rw [hTraffic]
          exact packetsOf_other _ rfl
  | acked _ r hCause hRun hFront =>
      exact .none (congrArg packetsOf (AckStep.traffic_run hRun)) (AckStep.finSent_run hRun)
  | sacked r mask bits hCause hMask hBits hSet hWindow hSent =>
      exact .none (congrArg packetsOf (Conn.traffic_sacked env _ _ _ s)) (Conn.finSent_ackPacket env _ s)
  | lost i =>
      have hTraffic := Conn.traffic_of_trace (Conn.grows_losePacket i s) (Conn.trace_losePacket i s)
      refine .none (congrArg packetsOf hTraffic) ?_
      rcases Conn.losePacket_cases i s with hSame | ⟨pkt, -, -, -, hLost⟩
      · rw [hSame]
      · rw [hLost]
        exact congrArg View.finSent (Conn.view_check _ _ _)
  | advance r =>
      unfold Conn.updateFastResend
      split_ifs <;> exact .none rfl rfl
  | retried => exact .none rfl rfl
  | resent v => exact .none rfl rfl

/-- A turn of the drain loop may send an ack, which is not queued. -/
theorem DrainStep.packets {r : Received} (h : DrainStep env r s s') :
    packetsOf s'.traffic = packetsOf s.traffic := by
  cases h with
  | inOrder hOpen hType hOffset hDone =>
      rw [Conn.traffic_deliver, packetsOf_other _ rfl]
      exact (congrArg packetsOf (trafficOf_append _ _)).trans (packetsOf_other _ rfl)
  | eof =>
      rcases Conn.traffic_reachEof env s with hNone | ⟨w, flags, -, hTraffic⟩
      · rw [hNone]
      · rw [hTraffic]
        exact packetsOf_other _ rfl
  | take p hOpen hCount hGet =>
      rw [Conn.traffic_takeReordered]
      exact packetsOf_other _ rfl

/-- By induction on the turns. -/
theorem DrainStep.packets_run {r : Received} (h : Relation.ReflTransGen (DrainStep env r) s s') :
    packetsOf s'.traffic = packetsOf s.traffic := by
  induction h with
  | refl => rfl
  | tail _ hStep ih => exact hStep.packets.trans ih

/-- What is received adds nothing to what is queued. -/
theorem Receiving.packets (h : Receiving env cause s s') : packetsOf s'.traffic = packetsOf s.traffic := by
  cases h with
  | synAcked r hCause hSent => rfl
  | fin r hCause hOpen =>
      unfold Conn.noteFin
      split_ifs <;> rfl
  | drained _ r hCause hRun hDone => exact DrainStep.packets_run hRun
  | outOfOrder r hCause hOpen hType hOffset =>
      rcases Conn.traffic_receiveOutOfOrder r.d.header.seqNr (s.seqOffset r.d.header) (r.d.drop r.data) s with hNone | hNoted
      · rw [hNone]
      · rw [hNoted]
        exact packetsOf_other _ rfl

/-- Every transition writes data, or the FIN, or nothing. -/
theorem Trans.writes (h : Trans env cause s s') (hCore : Core s) (hLive : s.Live) (hIdle : s.state ≠ .idle) :
    Writes cause s s' := by
  cases h with
  | setup hSetup =>
      cases hSetup with
      | initialise addr connSeed connIdRecv connIdSend hNew => exact absurd hNew hLive
      | dial hState hCount hPointer => exact absurd hState hIdle
      | accept d hCause hState hCount => exact absurd hState hIdle
  | sending hSend =>
      cases hSend with
      | quiet hQuiet =>
          refine .none ?_ (congrArg View.finSent (hQuiet.view hCore.view.bounds.ackNr_lt))
          rcases hQuiet.traffic with hNone | ⟨w, flags, hTraffic, -⟩
          · rw [hNone]
          · rw [hTraffic]
            exact packetsOf_other _ rfl
      | queueing hQueue => exact hQueue.writes
      | moving hMove => exact .none (congrArg packetsOf hMove.traffic) hMove.finSent
  | receiving hReceive => exact .none hReceive.packets (congrArg Foreground.finSent hReceive.foreground)

end Writes

section Settled

variable {env : Env} {cause : Cause} {s s' : Conn}

/-- At most the newest packet is not settled. -/
theorem Conn.settled_of_concat {front : List (Nat × List UInt8)} {x : Nat × List UInt8}
    (h : packetsOf s.traffic = front ++ [x]) : front <+: s.settled := by
  unfold Conn.settled
  rw [h]
  split_ifs
  · rw [List.dropLast_concat]
  · exact List.prefix_append _ _

/-- A packet that has been sent, or has another one behind it, is never filled again. -/
theorem Queueing.settled (h : Queueing env cause s s') (hCore : Core s) : s.settled <+: s'.settled := by
  cases h with
  | append bytes hState hFin hCount hLength =>
      refine s.settled_prefix.trans (Conn.settled_of_concat (x := (stData, bytes)) ?_)
      rw [Conn.traffic_appendPacket, packetsOf_append]
      rfl
  | appendFin hState hFin =>
      refine s.settled_prefix.trans (Conn.settled_of_concat (x := (stFin, [])) ?_)
      rw [Conn.traffic_appendPacket, packetsOf_append]
      rfl
  | fill pkt bytes hState hFin hCount hGet hUnsent hLength =>
      have hBack : s.holdsBack = true := by
        unfold Conn.holdsBack Conn.packetAt
        rw [if_pos hCount, Nat.cast_zero, sub_zero, hGet]
        simp [hUnsent]
      have hOld : s.settled = (packetsOf s.traffic).dropLast := if_pos hBack
      rw [hOld]
      refine Conn.settled_of_concat (x := (stData, ((packetsOf s.traffic).getLastD (stData, [])).2 ++ bytes)) ?_
      rw [Conn.traffic_fillPacket, packetsOf_append]
      rfl
  | send v =>
      refine (Conn.retains_sendPacket env hCore v).settled ?_
      cases hGet : s.snd.outbuf.get v with
      | none => rw [Conn.sendPacket_none env hGet]
      | some pkt =>
          obtain ⟨w, flags, -, hTraffic⟩ := Conn.traffic_sendPacket env hGet
          rw [hTraffic]
          exact packetsOf_other _ rfl
  | acked _ r hCause hRun hFront =>
      exact (AckStep.cuts_run hRun hCore.view.toLooseOk).retains.settled (congrArg packetsOf (AckStep.traffic_run hRun))
  | sacked r mask bits hCause hMask hBits hSet hWindow hSent =>
      refine Conn.Retains.settled ?_ (congrArg packetsOf (Conn.traffic_sacked env _ _ _ s))
      exact Conn.Retains.trans (Conn.retains_ackPacket env hCore _) (Conn.retains_of_snd rfl)
  | lost i =>
      exact (Conn.retains_losePacket hCore i).settled
        (congrArg packetsOf (Conn.traffic_of_trace (Conn.grows_losePacket i s) (Conn.trace_losePacket i s)))
  | advance r =>
      unfold Conn.updateFastResend
      split_ifs
      · exact (Conn.retains_of_packetAt rfl rfl fun j => rfl).settled rfl
      · exact List.prefix_refl _
  | retried => exact (Conn.retains_of_packetAt rfl rfl fun j => rfl).settled rfl
  | resent v => exact (Conn.retains_of_packetAt rfl rfl fun j => rfl).settled rfl

/-- What is settled stays as it is. -/
theorem Trans.settled (h : Trans env cause s s') (hCore : Core s) (hLive : s.Live) (hIdle : s.state ≠ .idle) :
    s.settled <+: s'.settled := by
  cases h with
  | setup hSetup =>
      cases hSetup with
      | initialise addr connSeed connIdRecv connIdSend hNew => exact absurd hNew hLive
      | dial hState hCount hPointer => exact absurd hState hIdle
      | accept d hCause hState hCount => exact absurd hState hIdle
  | sending hSend =>
      cases hSend with
      | quiet hQuiet =>
          refine (Conn.retains_of_view (hQuiet.view hCore.view.bounds.ackNr_lt)).settled ?_
          rcases hQuiet.traffic with hNone | ⟨w, flags, hTraffic, -⟩
          · rw [hNone]
          · rw [hTraffic]
            exact packetsOf_other _ rfl
      | queueing hQueue => exact hQueue.settled hCore
      | moving hMove => exact (Conn.retains_of_snd hMove.snd).settled (congrArg packetsOf hMove.traffic)
  | receiving hReceive =>
      exact (Conn.retains_of_snd (congrArg Foreground.snd hReceive.foreground)).settled hReceive.packets

end Settled

/-- A FIN is the last packet that is queued, and `fin_sent` tells whether there is one. -/
structure Sealed (s : Conn) : Prop where
  fin : s.finSent = true → ∃ front, packetsOf s.traffic = front ++ [(stFin, [])]
  last : ∀ k bytes, (packetsOf s.traffic)[k]? = some (stFin, bytes) →
    s.finSent = true ∧ k + 1 = (packetsOf s.traffic).length

/-- Nothing is written behind the FIN. -/
theorem Sealed.writes {cause : Cause} {s s' : Conn} (h : Sealed s) (hWrites : Writes cause s s') : Sealed s' := by
  cases hWrites with
  | none hPackets hFin =>
      refine ⟨fun hSent => ?_, fun k bytes hAt => ?_⟩
      · rw [hPackets]
        exact h.fin (hFin.symm.trans hSent)
      · rw [hPackets] at hAt ⊢
        rw [hFin]
        exact h.last k bytes hAt
  | data bytes hCause hOpen hFin hFin' hPackets =>
      have hNone : ∀ front : List (Nat × List UInt8), front <+: packetsOf s.traffic →
          ∀ (k : Nat) (old : List UInt8), (front ++ [(stData, bytes)])[k]? ≠ some (stFin, old) := by
        rintro front ⟨rest, hRest⟩ k old hAt
        by_cases hIn : k < front.length
        · have hSame : (front ++ rest)[k]? = front[k]? := List.getElem?_append_left hIn
          rw [List.getElem?_append_left hIn, ← hSame, hRest] at hAt
          rw [(h.last k old hAt).1] at hFin
          cases hFin
        · have hBound := (List.getElem?_eq_some_iff.1 hAt).1
          rw [List.length_append, List.length_singleton] at hBound
          obtain rfl : k = front.length := by omega
          rw [List.getElem?_concat_length] at hAt
          cases hAt
      refine ⟨fun hSent => ?_, fun k old hAt => ?_⟩
      · rw [hFin'] at hSent
        cases hSent
      · rcases hPackets with hMore | hMore
        · rw [hMore] at hAt
          exact absurd hAt (hNone _ (List.prefix_refl _) k old)
        · rw [hMore] at hAt
          exact absurd hAt (hNone _ (List.dropLast_prefix _) k old)
  | fin hAsked hOpen hFin hFin' hPackets =>
      refine ⟨fun _ => ⟨_, hPackets⟩, fun k old hAt => ⟨hFin', ?_⟩⟩
      rw [hPackets] at hAt ⊢
      rw [List.length_append, List.length_singleton]
      by_cases hIn : k < (packetsOf s.traffic).length
      · rw [List.getElem?_append_left hIn] at hAt
        rw [(h.last k old hAt).1] at hFin
        cases hFin
      · have hBound := (List.getElem?_eq_some_iff.1 hAt).1
        rw [List.length_append, List.length_singleton] at hBound
        omega

end Utp
