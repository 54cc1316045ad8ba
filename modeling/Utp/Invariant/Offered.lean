import Utp.Library.Entries
import Utp.Transition.Offer
import Utp.Invariant.Packets
import Utp.Invariant.Fate

/-! What the peer has been told about the receive window. A packet states the window of the
moment it was filled, an ack that of the moment it is sent. -/
namespace Utp

open Wrapping

/-- What a record says about the receive window: as it was last looked at, when each packet
of the queue was last filled, when last a packet was filled or an ack was sent, and when last
any packet was sent. -/
structure Tally where
  window : Nat
  newest : Nat
  filled : Nat → Nat
  stated : Nat
  told : Option Nat

namespace Tally

def start : Tally where
  window := 0
  newest := 0
  filled := fun _ => 0
  stated := 0
  told := none

def note (t : Tally) : Event → Tally
  | .window rcvWindow => { t with window := rcvWindow }
  | .queued seqNr _ _ =>
      { t with
        newest := seqNr
        filled := Function.update t.filled seqNr t.window
        stated := t.window }
  | .extended _ =>
      { t with
        filled := Function.update t.filled t.newest t.window
        stated := t.window }
  | .sendto w _ =>
      { t with
        stated := if w.header.type = stState then t.window else t.stated
        told := some t.window }
  | _ => t

/-- Only the events of the queue and of the window are tallied. -/
theorem note_other {e : Event} (t : Tally) (h : e.isOffer = false) : t.note e = t := by
  cases e with
  | sendto w flags => cases h
  | queued seqNr type bytes => cases h
  | extended bytes => cases h
  | window rcvWindow => cases h
  | _ => rfl

end Tally

def tally (log : List Event) : Tally := log.foldl Tally.note .start

/-- The tally is made event by event. -/
theorem tally_append (log : List Event) (e : Event) : tally (log ++ [e]) = (tally log).note e := by
  simp [tally]

/-- So the other events may be left out. -/
theorem tally_filter (log : List Event) : tally (log.filter Event.isOffer) = tally log := by
  induction log using List.reverseRecOn with
  | nil => rfl
  | append_singleton log e ih =>
      rw [List.filter_append, tally_append, ← ih]
      cases hOffer : e.isOffer with
      | true => simp [hOffer, tally_append]
      | false => simp [hOffer, Tally.note_other]

/-- Every packet that was sent meets the condition `P`, with what was known of the window
right before. -/
def EachSend (P : Tally → Wire → Prop) (log : List Event) : Prop :=
  EachEntry Event.wire? (fun pre w => P (tally pre) w) log

theorem EachSend.filter_iff {P : Tally → Wire → Prop} {log : List Event} :
    EachSend P (log.filter Event.isOffer) ↔ EachSend P log := by
  refine EachEntry.filter_iff ?_ ?_
  · intro e hOther
    cases e with
    | sendto w flags => cases hOther
    | _ => rfl
  · intro pre w
    rw [tally_filter]

/-- The window that the packet `w` states if it is sent now. -/
def Tally.states (t : Tally) (w : Wire) : Nat :=
  if w.header.type = stState then t.window else t.filled w.header.seqNr

/-- The remembered window is the one that was last put in a packet, and every packet that was
sent states the window that was put in it. -/
structure Offer.Ok (x : Offer) : Prop where
  last : x.lastRcvWin = (tally x.notes).stated
  sends : EachSend (fun t w => w.header.windowsize = u32 (t.states w)) x.notes

namespace Offer

variable {x x' : Offer}

theorem tally_note (e : Event) (x : Offer) : tally (x.note e).notes = (tally x.notes).note e :=
  tally_append x.notes e

/-- A window that is noted is the window of the tally. -/
theorem tally_refresh (window : Nat) (x : Offer) :
    tally (x.refresh window).notes = { tally x.notes with window := window } :=
  tally_append x.notes _

theorem Ok.ack (h : x.Ok) (hAck : AckOffer x x') : x'.Ok := by
  obtain ⟨window, w, hType, hSize⟩ := hAck
  refine ⟨?_, ?_⟩
  · rw [tally_note, tally_refresh]
    simp [Tally.note, hType, Offer.note, Offer.refresh]
  · refine EachEntry.append_iff.2 ⟨(EachEntry.append_other (by simp [Event.wire?])).2 h.sends, fun w' hSent => ?_⟩
    cases hSent
    rw [tally_refresh]
    simp [Tally.states, hType, hSize]

/-- An ack fills no packet. -/
theorem filled_ack (hAck : AckOffer x x') :
    (tally x'.notes).filled = (tally x.notes).filled ∧
      (tally x'.notes).newest = (tally x.notes).newest := by
  obtain ⟨window, w, hType, hSize⟩ := hAck
  rw [tally_note, tally_refresh]
  exact ⟨rfl, rfl⟩

/-- By induction on the acks. -/
theorem Ok.acks (h : x.Ok) (hAcks : AckOffers x x') : x'.Ok ∧
    (tally x'.notes).filled = (tally x.notes).filled ∧
      (tally x'.notes).newest = (tally x.notes).newest := by
  induction hAcks with
  | refl => exact ⟨h, rfl, rfl⟩
  | tail _ hAck ih =>
      obtain ⟨hOk, hFilled, hNewest⟩ := ih
      have hStep := filled_ack hAck
      exact ⟨hOk.ack hAck, hStep.1.trans hFilled, hStep.2.trans hNewest⟩

end Offer

/-- Every packet of the queue states the window of the moment it was last filled. -/
structure Offered (s : Conn) : Prop where
  ok : s.offer.Ok
  newest : 0 < s.snd.curWindowPackets → (tally s.offer.notes).newest = u16 (s.snd.seqNr - 1)
  queued : ∀ j pkt, s.packetAt j = some pkt → pkt.header.type ≠ stState ∧
    pkt.header.windowsize = u32 ((tally s.offer.notes).filled pkt.header.seqNr)

namespace Offered

variable {env : Env} {cause : Cause} {s s' : Conn} {flags : Nat} {bytes : List UInt8}

/-- Nothing is filled, and packets are only taken out of the queue. -/
theorem sheds (h : Offered s) (hAcks : AckOffers s.offer s'.offer) (hSheds : Conn.Sheds s s') :
    Offered s' := by
  obtain ⟨hOk, hFilled, hNewest⟩ := h.ok.acks hAcks
  refine ⟨hOk, fun hPos => ?_, fun j pkt' hAt => ?_⟩
  · obtain ⟨hOld, hSeq⟩ := hSheds.window hPos
    rw [hNewest, hSeq]
    exact h.newest hOld
  · obtain ⟨pkt, hBefore, hKin⟩ := hSheds.packets j pkt' hAt
    obtain ⟨hType, hSize⟩ := h.queued j pkt hBefore
    rw [hFilled, hKin.type, hKin.windowsize, hKin.seqNr]
    exact ⟨hType, hSize⟩

/-- A packet of the queue is sent. -/
theorem sent (h : Offered s) (hCore : Core s) (v : Int) : Offered (s.sendPacket env v) := by
  cases hGet : s.snd.outbuf.get v with
  | none =>
      rw [Conn.sendPacket_none env hGet]
      exact h
  | some pkt =>
      obtain ⟨window, w, hType, hSeq, hSize, -, hOffer⟩ := Conn.offer_sendPacket env hGet
      obtain ⟨j, hAt, -⟩ := hCore.packetAt_put hGet
      obtain ⟨hData, hStates⟩ := h.queued j pkt hAt
      have hSheds := Conn.sheds_sendPacket env v s
      have hView := Conn.view_sendPacket env hGet
      rw [Conn.view_chargeWindow] at hView
      have hSame : (s.sendPacket env v).snd.seqNr = s.snd.seqNr := congrArg View.seqNr hView
      have hCount : (s.sendPacket env v).snd.curWindowPackets = s.snd.curWindowPackets :=
        congrArg View.curWindowPackets hView
      have hLast : (s.sendPacket env v).offer.lastRcvWin = s.offer.lastRcvWin := by rw [hOffer]; rfl
      have hTally : tally (s.sendPacket env v).offer.notes =
          { tally s.offer.notes with window := window, told := some window } := by
        rw [hOffer, Offer.tally_note, Offer.tally_note]
        simp [Tally.note, hType, hData]
      refine ⟨⟨?_, ?_⟩, fun hPos => ?_, fun j pkt' hNow => ?_⟩
      · rw [hLast, hTally]
        exact h.ok.last
      · rw [hOffer]
        refine EachEntry.append_iff.2 ⟨(EachEntry.append_other (by simp [Event.wire?])).2 h.ok.sends,
          fun w' hSent => ?_⟩
        cases hSent
        rw [Offer.tally_note]
        simp only [Tally.states, Tally.note, hType, if_neg hData, hSeq, hSize]
        exact hStates
      · rw [hTally, hSame]
        exact h.newest (hCount ▸ hPos)
      · obtain ⟨old, hBefore, hKin⟩ := hSheds.packets j pkt' hNow
        rw [hTally, hKin.type, hKin.windowsize, hKin.seqNr]
        exact h.queued j old hBefore

/-- The newest packet is a new one, or one with more bytes in it. It states the window of the
moment, and all others are still what they were. -/
theorem restated (h : Offered s) (hCore : Core s') {window number : Nat} {pkt : OutgoingPacket} {e : Event}
    (hOffer : s'.offer = (s.offer.refresh window).note e) (hWire : e.wire? = none)
    (hTally : tally s'.offer.notes = { tally s.offer.notes with
      window := window
      newest := number
      filled := Function.update (tally s.offer.notes).filled number window
      stated := window })
    (hNumber : number = u16 (s'.snd.seqNr - 1)) (hNew : s'.packetAt 0 = some pkt)
    (hType : pkt.header.type ≠ stState) (hSize : pkt.header.windowsize = u32 window)
    (hOld : ∀ j, ∃ i, s'.packetAt (j + 1) = s.packetAt i) : Offered s' := by
  have hSeqNr : pkt.header.seqNr = number := by
    rw [(hCore.packet_ok hNew).seqNr, hNumber]
    simp
  refine ⟨⟨?_, ?_⟩, fun _ => ?_, fun j pkt' hAt => ?_⟩
  · rw [hTally, hOffer]
    rfl
  · rw [hOffer]
    exact (EachEntry.append_other (by simpa using hWire)).2
      ((EachEntry.append_other (by simp [Event.wire?])).2 h.ok.sends)
  · rw [hTally]
    exact hNumber
  · rw [hTally]
    cases j with
    | zero =>
        cases Option.some.inj (hNew.symm.trans hAt)
        simp only [hSeqNr, Function.update_self]
        exact ⟨hType, hSize⟩
    | succ j =>
        obtain ⟨i, hSame⟩ := hOld j
        have hApart : pkt'.header.seqNr ≠ number := hSeqNr ▸ hCore.seqNr_ne hAt hNew (Nat.succ_ne_zero j)
        simp only [Function.update_of_ne hApart]
        exact h.queued i pkt' (hSame.symm.trans hAt)

theorem enqueued (h : Offered s) (hCore : Core s') {window seqNr type : Nat} {bytes : List UInt8}
    {pkt : OutgoingPacket}
    (hOffer : s'.offer = (s.offer.refresh window).note (.queued seqNr type bytes))
    (hSeq : s'.snd.seqNr = u16 (seqNr + 1)) (hLt : seqNr < 65536) (hNew : s'.packetAt 0 = some pkt)
    (hType : pkt.header.type ≠ stState) (hSize : pkt.header.windowsize = u32 window)
    (hOld : ∀ j, s'.packetAt (j + 1) = s.packetAt j) : Offered s' := by
  have hNumber : seqNr = u16 (s'.snd.seqNr - 1) := by
    have hNext := u16_emod (seqNr + 1)
    have hBack := u16_emod (s'.snd.seqNr - 1)
    have hBackLt := u16_lt (s'.snd.seqNr - 1)
    rw [hSeq] at hBack hBackLt ⊢
    omega
  refine h.restated hCore hOffer rfl ?_ hNumber hNew hType hSize fun j => ⟨j, hOld j⟩
  rw [hOffer, Offer.tally_note, Offer.tally_refresh]
  rfl

/-- A new packet carries the window of its making. -/
theorem append (h : Offered s) (hCore : Core s) (fin : Bool)
    (hCore' : Core ({ s with finSent := fin }.appendPacket env flags bytes))
    (hCount : s.snd.curWindowPackets ≤ 1023) (hFlags : flags ≠ stState) :
    Offered ({ s with finSent := fin }.appendPacket env flags bytes) := by
  obtain ⟨window, hOffer⟩ := Conn.offer_appendPacket env flags bytes { s with finSent := fin }
  have hLast := congrArg Offer.lastRcvWin hOffer
  obtain ⟨pkt, hSize, -, hType, -, -, -, -, -, hView⟩ :=
    Conn.view_appendPacket env flags bytes { s with finSent := fin }
  obtain ⟨hNew, hOld⟩ := hCore.packetAt_enqueued hCount (congrArg View.seqNr hView)
    (congrArg View.curWindowPackets hView) (congrArg View.outbuf hView)
  have hStates : pkt.header.windowsize = u32 window := hSize.trans (congrArg (fun n : Nat => u32 n) hLast)
  exact h.enqueued hCore' hOffer (congrArg View.seqNr hView) hCore.view.queue.seqNr_lt hNew
    (hType.trans_ne hFlags) hStates hOld

/-- A packet that is filled carries the window of the last filling. -/
theorem fill (h : Offered s) (hCore : Core s) {pkt : OutgoingPacket}
    (hCore' : Core (s.fillPacket env stData pkt bytes)) (hCount : 0 < s.snd.curWindowPackets) :
    Offered (s.fillPacket env stData pkt bytes) := by
  obtain ⟨window, hOffer⟩ := Conn.offer_fillPacket env stData pkt bytes s
  have hLast : (s.fillPacket env stData pkt bytes).lastRcvWin = window := congrArg Offer.lastRcvWin hOffer
  obtain ⟨header, hSize, -, hType, hView⟩ := Conn.view_fillPacket env stData pkt bytes s
  have hSeq : (s.fillPacket env stData pkt bytes).snd.seqNr = s.snd.seqNr := congrArg View.seqNr hView
  obtain ⟨hNew, hOld⟩ := hCore.packetAt_filled hCount (congrArg View.seqNr hView)
    (congrArg View.curWindowPackets hView) (congrArg View.outbuf hView)
  rw [hLast] at hSize
  refine h.restated hCore' hOffer rfl ?_ (congrArg (fun n : Nat => u16 (n - 1)) hSeq.symm) hNew
    (hType.trans_ne (by decide)) hSize fun j => ⟨j + 1, hOld j⟩
  rw [hOffer, Offer.tally_note, Offer.tally_refresh, ← h.newest hCount]
  rfl

/-- Every transition of the queue keeps the tally in step with the packets. -/
theorem queueing (h : Offered s) (hCore : Core s) (hCore' : Core s') (hQueue : Queueing env cause s s') :
    Offered s' := by
  have hShed : s'.offer = s.offer → Conn.Sheds s s' → Offered s' := by
    intro hSame hSheds
    exact h.sheds (hSame ▸ .refl) hSheds
  cases hQueue with
  | append bytes hState hFin hCount hLength => exact h.append hCore s.finSent hCore' hCount.le (by decide)
  | appendFin hState hFin => exact h.append hCore true hCore' (hCore.view.room hFin) (by decide)
  | fill pkt bytes hState hFin hCount hGet hUnsent hLength => exact h.fill hCore hCore' hCount
  | send v => exact h.sent hCore v
  | acked _ r hCause hRun hFront =>
      exact hShed (AckStep.offer_run hRun) (AckStep.sheds_run hRun hCore.view.toLooseOk)
  | sacked r mask bits =>
      exact hShed ((Conn.offer_emit _ rfl).trans (Conn.offer_ackPacket env _ s))
        ((Conn.sheds_ackPacket env _ s).trans (Conn.sheds_of_snd rfl rfl rfl))
  | lost i => exact hShed (Conn.offer_losePacket i s) (Conn.sheds_losePacket i s)
  | advance r =>
      unfold Conn.updateFastResend
      split_ifs <;> exact ⟨h.ok, h.newest, h.queued⟩
  | retried => exact hShed rfl (Conn.sheds_of_snd rfl rfl rfl)
  | resent v => exact hShed rfl (Conn.sheds_of_snd rfl rfl rfl)

/-- The SYN carries the window of the new connection. -/
theorem setup (h : Offered s) (hCore : Core s) (hCore' : Core s') (hSetup : Setup env cause s s') :
    Offered s' := by
  cases hSetup with
  | initialise addr connSeed connIdRecv connIdSend hState =>
      have hView := Conn.view_initializeSocket env addr connSeed connIdRecv connIdSend s
      have hOffer := Conn.offer_initializeSocket env addr connSeed connIdRecv connIdSend s
      exact h.sheds (hOffer ▸ .refl) (Conn.sheds_of_snd (congrArg View.seqNr hView)
        (congrArg View.curWindowPackets hView) (congrArg View.outbuf hView))
  | dial hState hCount hPointer =>
      obtain ⟨window, hStart⟩ := Conn.offer_startConnect env s
      have hCore₀ : Core (s.startConnect env) := hCore.startConnect hState hCount
      have hEmpty : (s.startConnect env).snd.curWindowPackets = 0 := hCount
      have hLast : (s.startConnect env).lastRcvWin = window := congrArg Offer.lastRcvWin hStart
      obtain ⟨hNew, hOld⟩ : (s.startConnect env).queueSyn.packetAt 0 = some (s.startConnect env).synPacket ∧
          ∀ j, (s.startConnect env).queueSyn.packetAt (j + 1) = (s.startConnect env).packetAt j :=
        hCore₀.packetAt_enqueued (by omega) rfl rfl rfl
      have hOffer : (s.startConnect env).queueSyn.offer = (s.offer.refresh window).note
          (.queued (s.startConnect env).snd.seqNr stSyn []) := by
        rw [← hStart]
        exact Conn.offer_enqueue _ _
      refine h.enqueued hCore' hOffer rfl hCore₀.view.queue.seqNr_lt hNew
        (show stSyn ≠ stState by decide) (congrArg (fun n : Nat => u32 n) hLast) fun j => ?_
      rw [hOld j, Conn.packetAt_of_empty hEmpty, Conn.packetAt_of_empty hCount]
  | accept d hCause hState hCount =>
      have hOffer : (s.startAccept env d.header.seqNr).offer = s.offer := Conn.offer_setState .synRecv _
      exact h.sheds (hOffer ▸ .refl) (Conn.sheds_of_empty hCount)

/-- Every transition does. -/
theorem trans (h : Offered s) (hCore : Core s) (hTrans : Trans env cause s s') : Offered s' := by
  have hCore' := hCore.trans hTrans
  cases hTrans with
  | setup hSetup => exact h.setup hCore hCore' hSetup
  | sending hSend =>
      cases hSend with
      | quiet hQuiet =>
          exact h.sheds hQuiet.offer (Conn.sheds_of_view (hQuiet.view hCore.view.bounds.ackNr_lt))
      | queueing hQueue => exact h.queueing hCore hCore' hQueue
      | moving hMove =>
          have hSnd := hMove.snd
          exact h.sheds (hMove.offer ▸ .refl) (Conn.sheds_of_snd (by rw [hSnd]) (by rw [hSnd]) (by rw [hSnd]))
  | receiving hReceive =>
      have hSnd : s'.snd = s.snd := congrArg Foreground.snd hReceive.foreground
      exact h.sheds hReceive.offer (Conn.sheds_of_snd (by rw [hSnd]) (by rw [hSnd]) (by rw [hSnd]))

end Offered

/-- So it holds of every socket, over all its transitions. -/
theorem preserved_offered (env : Env) : Preserved env Offered := by
  refine .of_trans ?_ (fun cause s s' hCore _ hInv hStep => hInv.trans hCore hStep) ?_
  · intro s addr connSeed connIdRecv connIdSend hPristine hLog
    have hView := Conn.view_initializeSocket env addr connSeed connIdRecv connIdSend s
    have hOffer : (s.initializeSocket env addr connSeed connIdRecv connIdSend).offer = ⟨0, []⟩ := by
      obtain ⟨targetDelay, optSndbuf, optRcvbuf, ssthresh, hEq⟩ := hPristine
      have hLast : s.lastRcvWin = 0 := by rw [hEq]; rfl
      rw [Conn.offer_initializeSocket]
      unfold Conn.offer
      rw [hLog, hLast]
      rfl
    have hEmpty : (s.initializeSocket env addr connSeed connIdRecv connIdSend).snd.curWindowPackets = 0 := by
      obtain ⟨targetDelay, optSndbuf, optRcvbuf, ssthresh, hEq⟩ := hPristine
      refine (congrArg View.curWindowPackets hView).trans ?_
      change s.snd.curWindowPackets = 0
      rw [hEq]
      rfl
    refine ⟨⟨?_, ?_⟩, fun hPos => absurd hEmpty hPos.ne', fun j pkt hAt => ?_⟩
    · rw [hOffer]
      rfl
    · rw [hOffer]
      exact EachEntry.nil
    · rw [Conn.packetAt_of_empty hEmpty] at hAt
      cases hAt
  · intro s currentMs tick hInv
    exact ⟨hInv.ok, hInv.newest, hInv.queued⟩

end Utp
