import Utp.Invariant.Queue
import Utp.Invariant.Reorder
import Utp.Transition.Frame

/-! The invariant of the queue and of the reorder buffer, kept by every transition
of a socket. -/
namespace Utp

open Wrapping

/-- What holds of the view of a socket even while acked packets are dropped from
the queue or waiting packets are delivered. -/
structure LooseOk (v : View) : Prop where
  queue : QueueShape v.seqNr v.curWindowPackets v.curWindow v.outbuf
  room : v.finSent = false → v.curWindowPackets ≤ 1023
  bounds : ReorderBounds v.ackNr v.inbuf
  reorder : v.gotFinReached = false → ReorderShape v.ackNr v.reorderCount v.inbuf
  early : v.state.rank < 4 → v.reorderCount = 0 ∧ v.gotFin = false ∧ v.gotFinReached = false

/-- What holds of the view of a socket between any two transitions. -/
structure ViewOk (v : View) : Prop extends LooseOk v where
  front : 0 < v.curWindowPackets → (v.outbuf.get (v.seqNr - v.curWindowPackets)).isSome = true
  next : v.gotFinReached = false → v.inbuf.get (v.ackNr + 1) = none

/-- The view is sound and no covered assertion has failed. -/
structure Core (s : Conn) : Prop where
  view : ViewOk s.view
  log : ∀ e ∈ s.log, e.isFailure = false

namespace Core

variable {env : Env} {cause : Cause} {s s' : Conn}

/-- What is sound is read off the view, and the record has no new failure. -/
theorem of_view (h : Core s) (hView : s'.view = s.view) (hClean : Clean s s') : Core s' :=
  ⟨hView ▸ h.view, hClean.no_failure h.log⟩

/-- The next expected packet is missing, as an ack asserts. -/
theorem missing (h : Core s) (_hCount : s.rcv.reorderCount ≠ 0) (hFin : s.rcv.gotFinReached = false) :
    s.rcv.inbuf.get (s.rcv.ackNr + 1) = none :=
  h.view.next hFin

/-- The keepalive sends an ack, whose assertion holds in a sound state. -/
theorem clean_sendKeepAlive (h : Core s) : Clean s (s.sendKeepAlive env) := by
  have hMissing : (s.setAckNr (u16 (s.rcv.ackNr - 1))).rcv.reorderCount ≠ 0 →
      (s.setAckNr (u16 (s.rcv.ackNr - 1))).rcv.gotFinReached = false →
      (s.setAckNr (u16 (s.rcv.ackNr - 1))).rcv.inbuf.get
        ((s.setAckNr (u16 (s.rcv.ackNr - 1))).rcv.ackNr + 1) = none := by
    intro _ hFin
    have hFree : s.rcv.inbuf.get s.rcv.ackNr = none := (h.view.reorder hFin).get_ackNr
    rw [← hFree]
    apply SizableCircularBuffer.get_congr
    apply h.view.bounds.dvd_of_seq
    have hEmod := u16_emod (s.rcv.ackNr - 1)
    change (65536 : Int) ∣ (u16 (s.rcv.ackNr - 1) : Nat) + 1 - (s.rcv.ackNr : Int)
    omega
  exact (Conn.clean_sendAck env false hMissing).trans (Clean.of_log rfl)

/-- The assertion is that a queue without packets has none in flight. -/
theorem clean_startTimer (h : Core s) : Clean s s.startTimer := by
  unfold Conn.startTimer
  split
  · rename_i hCount
    have hQueue : QueueShape s.snd.seqNr s.snd.curWindowPackets s.snd.curWindow s.snd.outbuf :=
      h.view.queue
    rw [hCount] at hQueue
    exact (Clean.of_log rfl).trans (Clean.check _ (Or.inr (by simp [hQueue.window_eq_zero])))
  · exact Clean.refl s

/-- The bookkeeping has assertions of its own, which hold in a sound state. -/
theorem clean_quiet (h : Core s) (hQuiet : Quiet env cause s s') : Clean s s' := by
  cases hQuiet with
  | read off count => exact Clean.emit s rfl
  | readMask mask index extLen => exact Clean.emit s rfl
  | onAccept => exact Clean.emit s rfl
  | check line ok hLine =>
      exact Clean.check s (Or.inl fun hCovered => hLine (List.mem_append_left _ hCovered))
  | scheduleAck hCause => exact Clean.emit s rfl
  | setsockopt opt val => cases opt <;> exact Clean.of_log rfl
  | probeLost hProbe => exact Conn.clean_probeLost env s
  | probePassed hProbe => exact Conn.clean_probePassed env s
  | fragmentation nextHopMtu => exact Conn.clean_receiveIcmpFragmentation env nextHopMtu s
  | startTimer => exact h.clean_startTimer
  | ack hCause => exact Conn.clean_sendAck env false h.missing
  | synAck d hCause hEmpty => exact Conn.clean_sendAck env true h.missing
  | keepAlive hOpen hFin => exact h.clean_sendKeepAlive
  | _ => exact Clean.of_log rfl

/-- It changes nothing that the invariant is about. -/
theorem quiet (h : Core s) (hQuiet : Quiet env cause s s') : Core s' :=
  h.of_view (hQuiet.view h.view.bounds.ackNr_lt) (h.clean_quiet hQuiet)

end Core

/-- A queue of the right shape may take the place of the old one. -/
theorem LooseOk.withQueue {v : View} (h : LooseOk v) {seqNr count window : Nat}
    {buf : SizableCircularBuffer OutgoingPacket} (fastResendSeqNr : Nat)
    (hQueue : QueueShape seqNr count window buf) (hRoom : v.finSent = false → count ≤ 1023) :
    LooseOk { v with
      seqNr := seqNr
      curWindowPackets := count
      curWindow := window
      outbuf := buf
      fastResendSeqNr := fastResendSeqNr } :=
  ⟨hQueue, hRoom, h.bounds, h.reorder, h.early⟩

/-- The same with the packet at the front in place. -/
theorem ViewOk.withQueue {v : View} (h : ViewOk v) {seqNr count window : Nat}
    {buf : SizableCircularBuffer OutgoingPacket} (fastResendSeqNr : Nat)
    (hQueue : QueueShape seqNr count window buf) (hRoom : v.finSent = false → count ≤ 1023)
    (hFront : 0 < count → (buf.get (seqNr - count)).isSome = true) :
    ViewOk { v with
      seqNr := seqNr
      curWindowPackets := count
      curWindow := window
      outbuf := buf
      fastResendSeqNr := fastResendSeqNr } :=
  ⟨h.toLooseOk.withQueue fastResendSeqNr hQueue hRoom, hFront, h.next⟩

namespace Core

variable {env : Env} {cause : Cause} {s s' : Conn}

/-- Storing a queued packet back with other bookkeeping. -/
theorem replace (h : Core s) {v : Int} {pkt : OutgoingPacket} (pkt' : OutgoingPacket) (window : Nat)
    (hGet : s.snd.outbuf.get v = some pkt)
    (hPacket : ∀ seq, PacketOk seq pkt → PacketOk seq pkt')
    (hWindow : window + inFlight (some pkt) = s.snd.curWindow + inFlight (some pkt'))
    (hView : s'.view = { s.view with
      curWindow := window
      outbuf := s.snd.outbuf.put v (some pkt') })
    (hClean : Clean s s') : Core s' := by
  have hQueue := h.view.queue.update (some pkt') window hGet
    (fun p hp seq hOk => by cases hp; exact hPacket seq hOk) hWindow
  refine ⟨?_, hClean.no_failure h.log⟩
  rw [hView]
  apply h.view.withQueue _ hQueue h.view.room
  intro hCount
  exact SizableCircularBuffer.isSome_get_put _ _ _ (h.view.front hCount)

/-- The packet that was sent is the same packet, and is now in flight. -/
theorem send (h : Core s) (v : Int) : Core (s.sendPacket env v) := by
  cases hGet : s.snd.outbuf.get v with
  | none =>
      rw [Conn.sendPacket_none env hGet]
      exact h
  | some pkt =>
      have hView := Conn.view_sendPacket env hGet
      rw [Conn.view_chargeWindow] at hView
      refine h.replace _ _ hGet ?_ ?_ hView (Conn.clean_sendPacket env v s)
      · intro seq hOk
        exact ⟨hOk.seqNr, hOk.payload, hOk.length, fun _ => rfl⟩
      · by_cases hCharged : pkt.transmissions = 0 ∨ pkt.needResend = true
        · have hOut : inFlight (some pkt) = 0 := by
            rcases hCharged with hZero | hResend
            · simp [inFlight, hZero]
            · simp [inFlight, hResend]
          have hIf : (pkt.transmissions = 0 || pkt.needResend) = true := by simpa using hCharged
          rw [if_pos hIf, hOut]
          simp [inFlight, Conn.sentPacket]
        · have hIf : ¬(pkt.transmissions = 0 || pkt.needResend) = true := by simpa using hCharged
          have hParts : pkt.transmissions ≠ 0 ∧ pkt.needResend = false := by simpa using hCharged
          have hIn : inFlight (some pkt) = pkt.payload := by
            simp [inFlight, hParts.2, Nat.pos_of_ne_zero hParts.1]
          rw [if_neg hIf, hIn]
          simp [inFlight, Conn.sentPacket]

/-- The last packet was not sent, so it is in no window. -/
theorem fill (h : Core s) {pkt : OutgoingPacket} (bytes : List UInt8)
    (hGet : s.snd.outbuf.get (s.snd.seqNr - 1) = some pkt) (hUnsent : pkt.transmissions = 0) :
    Core (s.fillPacket env stData pkt bytes) := by
  obtain ⟨header, -, hSeq, -, hView⟩ := Conn.view_fillPacket env stData pkt bytes s
  obtain ⟨seq, hOk⟩ := h.view.queue.packet_of_get hGet
  refine h.replace _ _ hGet ?_ ?_ hView (Conn.clean_fillPacket env stData bytes s (hOk.fresh hUnsent))
  · intro seq' hOk'
    refine ⟨hSeq.trans hOk'.seqNr, ?_, rfl, hOk'.fresh⟩
    simp [hOk'.payload]
  · change s.snd.curWindow + _ = s.snd.curWindow + _
    simp [inFlight, hUnsent]

/-- A packet that counts as lost goes out of the window and not out of the queue. -/
theorem lost (h : Core s) (i : Nat) : Core (s.losePacket i) := by
  rcases Conn.losePacket_cases i s with hSame | ⟨pkt, hGet, hSent, hResend, hEq⟩
  · rw [hSame]
    exact h
  · have hIn : inFlight (some pkt) = pkt.payload := by
      simp [inFlight, hResend, Nat.pos_of_ne_zero hSent]
    have hLe : pkt.payload ≤ s.snd.curWindow := hIn ▸ h.view.queue.inFlight_le hGet
    rw [hEq]
    refine h.replace { pkt with needResend := true } (sub64 s.snd.curWindow pkt.payload) hGet ?_ ?_
      (Conn.view_check _ _ _) ?_
    · intro seq hOk
      exact ⟨hOk.seqNr, hOk.payload, hOk.length, fun hZero => absurd hZero hSent⟩
    · have hOut : inFlight (some { pkt with needResend := true }) = 0 := by simp [inFlight]
      rw [hIn, hOut, sub64, if_pos hLe]
      omega
    · exact (Clean.of_log rfl).trans (Clean.check _ (Or.inr (by simpa using hLe)))

/-- Queueing a packet: the front of the queue is the old one, or the packet itself. -/
theorem enqueued (h : Core s) (pkt : OutgoingPacket) (finSent : Bool)
    (hCount : s.snd.curWindowPackets ≤ 1023)
    (hRoom : finSent = false → s.snd.curWindowPackets < 1023)
    (hPacket : PacketOk s.snd.seqNr pkt) (hUnsent : pkt.transmissions = 0)
    (hView : s'.view = { s.view with
      finSent := finSent
      outbuf := (s.snd.outbuf.ensureSize s.snd.seqNr s.snd.curWindowPackets).put s.snd.seqNr
        (some pkt)
      seqNr := u16 (s.snd.seqNr + 1)
      curWindowPackets := u16 (s.snd.curWindowPackets + 1) })
    (hClean : Clean s s') : Core s' := by
  have hQueue := h.view.queue.append pkt (by change s.snd.curWindowPackets < 1024; omega)
    hPacket hUnsent
  have hSucc : u16 ((s.snd.curWindowPackets : Int) + 1) = s.snd.curWindowPackets + 1 := by
    unfold u16
    omega
  have hBase : LooseOk { s.view with finSent := finSent, curWindowPackets := s.snd.curWindowPackets } := by
    refine ⟨h.view.queue, ?_, h.view.bounds, h.view.reorder, h.view.early⟩
    intro hFin
    exact (hRoom hFin).le
  refine ⟨?_, hClean.no_failure h.log⟩
  rw [hView]
  refine ⟨hBase.withQueue _ hQueue ?_, ?_, h.view.next⟩
  · intro hFin
    have hLt := hRoom hFin
    change u16 (s.snd.curWindowPackets + 1) ≤ 1023
    omega
  · intro _
    have hSize : 0 < (s.snd.outbuf.ensureSize s.snd.seqNr s.snd.curWindowPackets).size :=
      Nat.zero_lt_of_lt (s.snd.outbuf.lt_size_ensureSize s.snd.seqNr s.snd.curWindowPackets)
    have hGet := h.view.queue.append_get pkt (by change s.snd.curWindowPackets < 1024; omega)
      (i := 0) hSize
    rw [Nat.cast_zero, add_zero] at hGet
    refine (congrArg Option.isSome hGet).trans ?_
    by_cases hZero : s.snd.curWindowPackets = 0
    · exact congrArg Option.isSome (if_pos hZero)
    · have hFront := h.view.front (Nat.pos_of_ne_zero hZero)
      have hOld : 0 < s.snd.outbuf.size := lt_of_lt_of_le (by decide) h.view.queue.size_ge
      rw [← hFront]
      refine congrArg Option.isSome ((if_neg hZero).trans ((if_pos hOld).trans ?_))
      rw [add_zero]

/-- `is_full` has left a place. -/
theorem append (h : Core s) (bytes : List UInt8) (hCount : s.snd.curWindowPackets < 1023) :
    Core (s.appendPacket env stData bytes) := by
  obtain ⟨pkt, -, hSeq, -, hBody, hPayload, hLength, hUnsent, hResend, hView⟩ :=
    Conn.view_appendPacket env stData bytes s
  refine h.enqueued _ s.finSent hCount.le (fun _ => hCount) ?_ hUnsent hView
    (Conn.clean_appendPacket env stData bytes s)
  exact ⟨hSeq, by rw [hPayload, hBody], by rw [hLength, hPayload], fun _ => hResend⟩

/-- The FIN takes the last place, which was kept for it. -/
theorem appendFin (h : Core s) (hFin : s.finSent = false) :
    Core ({ s with finSent := true }.appendPacket env stFin []) := by
  obtain ⟨pkt, -, hSeq, -, hBody, hPayload, hLength, hUnsent, hResend, hView⟩ :=
    Conn.view_appendPacket env stFin [] { s with finSent := true }
  have hClean : Clean s ({ s with finSent := true }.appendPacket env stFin []) :=
    Clean.trans (t := { s with finSent := true }) (Clean.of_log rfl)
      (Conn.clean_appendPacket env stFin [] _)
  refine h.enqueued _ true (h.view.room hFin) (by simp) ?_ hUnsent hView hClean
  exact ⟨hSeq, by rw [hPayload, hBody], by rw [hLength, hPayload], fun _ => hResend⟩

end Core

/-- Taking out a packet that was sent, at any place of the window. -/
theorem LooseOk.remove (env : Env) {s : Conn} {v : Int} {pkt : OutgoingPacket}
    (h : LooseOk s.view) (hGet : s.snd.outbuf.get v = some pkt) (hSent : pkt.transmissions ≠ 0) :
    LooseOk (s.removePacket env v pkt).view ∧ Clean s (s.removePacket env v pkt) := by
  have hLe := h.queue.inFlight_le hGet
  have hIn : inFlight (some pkt) = if pkt.needResend then 0 else pkt.payload := by
    cases hResend : pkt.needResend <;> simp [inFlight, hResend, Nat.pos_of_ne_zero hSent]
  have hQueue := h.queue.update none
    (if pkt.needResend then s.snd.curWindow else sub64 s.snd.curWindow pkt.payload) hGet
    (fun p hp => by cases hp) (by
      rw [hIn] at hLe ⊢
      cases hResend : pkt.needResend with
      | true => rfl
      | false =>
          have hPayload : pkt.payload ≤ s.snd.curWindow := by simpa [hResend] using hLe
          change sub64 s.snd.curWindow pkt.payload + pkt.payload = s.snd.curWindow + 0
          rw [sub64, if_pos hPayload]
          omega)
  constructor
  · rw [Conn.view_removePacket]
    exact h.withQueue _ hQueue h.room
  · apply Conn.clean_removePacket
    intro hResend
    simpa [hIn, hResend] using hLe

/-- One packet less at the front of the queue. -/
theorem AckStep.loose {env : Env} {header : PacketFormatV1} {s s' : Conn}
    (hStep : AckStep env header s s') (h : LooseOk s.view) :
    LooseOk s'.view ∧ Clean s s' := by
  have hPop : ∀ t : Conn, LooseOk t.view → 0 < t.snd.curWindowPackets →
      t.snd.outbuf.get (t.snd.seqNr - t.snd.curWindowPackets) = none →
      LooseOk t.decWindowPackets.view := by
    intro t hLoose hCount hNone
    have hPred : u16 ((t.snd.curWindowPackets : Int) - 1) ≤ t.snd.curWindowPackets := by
      unfold u16
      omega
    exact hLoose.withQueue t.snd.fastResendSeqNr (hLoose.queue.pop hCount hNone)
      fun hFin => hPred.trans (hLoose.room hFin)
  cases hStep with
  | dropped hCount hNone => exact ⟨hPop s h hCount hNone, Clean.of_log rfl⟩
  | acked hCount hAcked hSent =>
      cases hGet : s.snd.outbuf.get (u16 (s.snd.seqNr - s.snd.curWindowPackets)) with
      | none =>
          rw [Conn.ackPacket_none env hGet]
          exact ⟨hPop s h hCount ((h.queue.get_u16 _).symm.trans hGet), Clean.of_log rfl⟩
      | some pkt =>
          rw [Conn.ackPacket_some env hGet] at hSent ⊢
          have hZero : pkt.transmissions ≠ 0 := by
            intro hZero
            rw [if_pos hZero] at hSent
            exact hSent rfl
          rw [if_neg hZero]
          obtain ⟨hLoose, hClean⟩ := h.remove env hGet hZero
          have hView := Conn.view_removePacket env (u16 (s.snd.seqNr - s.snd.curWindowPackets)) pkt s
          have hSeq : (s.removePacket env (u16 (s.snd.seqNr - s.snd.curWindowPackets)) pkt).snd.seqNr =
              s.snd.seqNr := congrArg View.seqNr hView
          have hPackets : (s.removePacket env (u16 (s.snd.seqNr - s.snd.curWindowPackets))
              pkt).snd.curWindowPackets = s.snd.curWindowPackets :=
            congrArg View.curWindowPackets hView
          have hBuf : (s.removePacket env (u16 (s.snd.seqNr - s.snd.curWindowPackets)) pkt).snd.outbuf =
              s.snd.outbuf.put (u16 (s.snd.seqNr - s.snd.curWindowPackets)) none :=
            congrArg View.outbuf hView
          have hPos : 0 < (s.removePacket env (u16 (s.snd.seqNr - s.snd.curWindowPackets))
              pkt).snd.curWindowPackets := hPackets.symm ▸ hCount
          refine ⟨hPop _ hLoose hPos ?_, hClean.trans (Clean.of_log rfl)⟩
          rw [hSeq, hPackets, hBuf, SizableCircularBuffer.get_put_dvd, if_pos]
          apply h.queue.dvd_of_seq
          have := u16_emod (s.snd.seqNr - s.snd.curWindowPackets)
          omega

/-- By induction on the acks. -/
theorem AckStep.loose_run {env : Env} {header : PacketFormatV1} {s s' : Conn}
    (hRun : Relation.ReflTransGen (AckStep env header) s s') (h : LooseOk s.view) :
    LooseOk s'.view ∧ Clean s s' := by
  induction hRun with
  | refl => exact ⟨h, Clean.refl s⟩
  | tail _ hStep ih =>
      obtain ⟨hLoose, hClean⟩ := hStep.loose ih.1
      exact ⟨hLoose, ih.2.trans hClean⟩

namespace Core

variable {env : Env} {cause : Cause} {s s' : Conn}

/-- An event that is no failure can be added to the record. -/
theorem emit (h : Core s) {e : Event} (hEvent : e.isFailure = false) : Core (s.emit e) :=
  h.of_view rfl (Clean.emit s hEvent)

/-- A selective ack never takes out the oldest packet. -/
theorem sacked (h : Core s) {v : Int} (hWindow : s.outsideWindow v = false) :
    Core (s.ackPacket env v).2 := by
  cases hGet : s.snd.outbuf.get (u16 v) with
  | none =>
      rw [Conn.ackPacket_none env hGet]
      exact h
  | some pkt =>
      rw [Conn.ackPacket_some env hGet]
      split_ifs with hZero
      · exact h
      · obtain ⟨hLoose, hClean⟩ := h.view.toLooseOk.remove env hGet hZero
        have hView := Conn.view_removePacket env (u16 v) pkt s
        refine ⟨⟨hLoose, ?_, ?_⟩, hClean.no_failure h.log⟩
        · rw [hView]
          intro hCount
          have hInner : u16 (s.snd.seqNr - (u16 v : Nat) - 1) < u16 (s.snd.curWindowPackets - 1) := by
            have hSame : u16 (s.snd.seqNr - (u16 v : Nat) - 1) = u16 (s.snd.seqNr - v - 1) := by
              rw [u16_eq_iff]
              have := u16_emod v
              omega
            rw [hSame]
            simpa [Conn.outsideWindow] using hWindow
          have hFront := h.view.front hCount
          have hSlot : ¬(s.snd.outbuf.size : Int) ∣
              (u16 v : Nat) - ((s.snd.seqNr : Int) - s.snd.curWindowPackets) :=
            h.view.queue.inner_slot hCount hInner
          change ((s.snd.outbuf.put (u16 v) none).get
            (s.snd.seqNr - s.snd.curWindowPackets)).isSome = true
          rw [SizableCircularBuffer.get_put_dvd, if_neg hSlot]
          exact hFront
        · rw [hView]
          exact h.view.next

/-- Every transition of the sending side keeps a sound state. -/
theorem queueing (h : Core s) (hQueue : Queueing env cause s s') : Core s' := by
  cases hQueue with
  | append bytes hState hFin hCount hLength => exact h.append bytes hCount
  | appendFin hState hFin => exact h.appendFin hFin
  | fill pkt bytes hState hFin hCount hGet hUnsent hLength => exact h.fill bytes hGet hUnsent
  | send v => exact h.send v
  | acked _ r hCause hRun hFront =>
      obtain ⟨hLoose, hClean⟩ := AckStep.loose_run hRun h.view.toLooseOk
      have hRcv : s'.rcv = s.rcv := congrArg Backdrop.rcv (AckStep.backdrop_run hRun)
      refine ⟨⟨hLoose, ?_, ?_⟩, hClean.no_failure h.log⟩
      · intro hCount
        have hSome : s'.snd.curWindowPackets = 0 ∨
            (s'.snd.outbuf.get (s'.snd.seqNr - s'.snd.curWindowPackets)).isSome = true := by
          simpa [Conn.frontQueued] using hFront
        exact hSome.resolve_left (Nat.pos_iff_ne_zero.mp hCount)
      · have hNext := h.view.next
        simp only [Conn.view_gotFinReached, Conn.view_inbuf, Conn.view_ackNr] at hNext ⊢
        rw [hRcv]
        exact hNext
  | sacked r mask bits hCause hMask hBits hSet hWindow hSent =>
      exact (h.sacked hWindow).emit rfl
  | lost i hIndex => exact h.lost i
  | advance r hCause =>
      unfold Conn.updateFastResend
      split_ifs
      · exact ⟨h.view.withQueue _ h.view.queue h.view.room h.view.front, h.log⟩
      · exact h
  | retried r hCause hFront hCount => exact ⟨h.view.withQueue _ h.view.queue h.view.room h.view.front, h.log⟩
  | resent r v hCause hLow hHigh => exact ⟨h.view.withQueue _ h.view.queue h.view.room h.view.front, h.log⟩

end Core

/-- A delivery moves `ack_nr` by one. -/
theorem Conn.view_deliver (body : List UInt8) (s : Conn) :
    (s.deliver body).view = { s.view with ackNr := u16 (s.rcv.ackNr + 1) } := by
  unfold Conn.deliver
  dsimp only
  split_ifs <;> rfl

/-- The callback is told of the bytes, and nothing is asserted. -/
theorem Conn.clean_deliver (body : List UInt8) (s : Conn) : Clean s (s.deliver body) := by
  have hConsumed := Clean.emit s (e := .consumed (u16 (s.rcv.ackNr + 1)) body) rfl
  unfold Conn.deliver
  dsimp only
  split_ifs
  · exact (hConsumed.trans (Clean.emit _ (e := .onRead body) rfl)).trans (Clean.of_log rfl)
  · exact hConsumed.trans (Clean.of_log rfl)

/-- Reaching the end of the stream forgets what was received past it. -/
theorem Conn.reachEof_cases (env : Env) (s : Conn) :
    s.reachEof env = s ∨ (s.rcv.gotFinReached = false ∧ s.rcv.gotFin = true ∧
      s.rcv.eofPkt = s.rcv.ackNr ∧
      (s.reachEof env).view = { s.view with gotFinReached := true, reorderCount := 0 } ∧
      Clean s (s.reachEof env)) := by
  unfold Conn.reachEof
  split_ifs with hEof
  · right
    have hParts : (s.rcv.gotFinReached = false ∧ s.rcv.gotFin = true) ∧
        s.rcv.eofPkt = s.rcv.ackNr := by simpa using hEof
    refine ⟨hParts.1.1, hParts.1.2, hParts.2, ?_, ?_⟩
    · have hAck := Conn.view_sendAck env false (({ s with
        rcv.gotFinReached := true
        rtt.rtoTimeout := u64 (s.currentMs + (min (u32 (s.rtt.rto * 3)) 60 : Nat)) }).emit
          (.onStateChange .eof))
      exact congrArg (fun v : View => { v with reorderCount := 0 }) hAck
    · refine Clean.trans ?_ (Clean.of_log rfl)
      refine Clean.trans ?_ (Conn.clean_sendAck env false ?_)
      · exact (Clean.of_log rfl).trans (Clean.emit _ rfl)
      · intro _ hFin
        cases hFin
  · exact Or.inl rfl

/-- The packet that is taken leaves its slot empty. -/
theorem Conn.view_takeReordered (p : IncomingPacket) (s : Conn) :
    (s.takeReordered p).view = { s.view with
      inbuf := s.rcv.inbuf.put (s.rcv.ackNr + 1) none
      ackNr := u16 (s.rcv.ackNr + 1)
      reorderCount := u16 (s.rcv.reorderCount - 1) } := by
  have hChecked := (Conn.view_check 2435 (s.rcv.reorderCount > 0) _).trans
    (Conn.view_deliver p.body s.clearNext)
  calc (s.takeReordered p).view
      = { ((s.clearNext.deliver p.body).check 2435 (s.rcv.reorderCount > 0)).view with
          reorderCount := u16 (((s.clearNext.deliver p.body).check 2435
            (s.rcv.reorderCount > 0)).view.reorderCount - 1) } := rfl
    _ = _ := by
          rw [hChecked]
          rfl

/-- The assertion is that the count was not zero. -/
theorem Conn.clean_takeReordered (p : IncomingPacket) {s : Conn} (hCount : s.rcv.reorderCount ≠ 0) :
    Clean s (s.takeReordered p) := by
  have hDeliver : Clean s (s.clearNext.deliver p.body) :=
    Clean.trans (t := s.clearNext) (Clean.of_log rfl) (Conn.clean_deliver _ _)
  have hCheck : Clean s ((s.clearNext.deliver p.body).check 2435 (s.rcv.reorderCount > 0)) :=
    hDeliver.trans (Clean.check _ (Or.inr (by simpa using Nat.pos_of_ne_zero hCount)))
  exact hCheck.trans (Clean.of_log rfl)

/-- One packet consumed, or the end of the stream reached. -/
theorem DrainStep.loose {env : Env} {r : Received} {s s' : Conn} (hStep : DrainStep env r s s')
    (h : LooseOk s.view) : LooseOk s'.view ∧ Clean s s' := by
  cases hStep with
  | inOrder hOpen hType hOffset hDone =>
      constructor
      · rw [Conn.view_deliver]
        refine ⟨h.queue, h.room, h.bounds.setAckNr (u16_lt _), ?_, h.early⟩
        intro hFin
        have hNone : s.rcv.inbuf.get (s.rcv.ackNr + 1) = none := by
          have hReached : s.rcv.gotFinReached = false := hFin
          simpa [Conn.drainDone, hReached] using hDone
        exact (h.reorder hFin).advance h.bounds hNone
      · exact (Clean.emit s rfl).trans (Conn.clean_deliver _ _)
  | eof =>
      rcases Conn.reachEof_cases env s with hSame | ⟨-, hGotFin, -, hView, hClean⟩
      · rw [hSame]
        exact ⟨h, Clean.refl s⟩
      · refine ⟨?_, hClean⟩
        rw [hView]
        refine ⟨h.queue, h.room, h.bounds, by simp, ?_⟩
        intro hRank
        have hEarly : s.rcv.gotFin = false := (h.early hRank).2.1
        rw [hGotFin] at hEarly
        cases hEarly
  | take p hOpen hCount hGet =>
      have hView := Conn.view_takeReordered p s
      have hClean := Conn.clean_takeReordered p hCount
      refine ⟨?_, hClean⟩
      rw [hView]
      refine ⟨h.queue, h.room, (h.bounds.put _ none).setAckNr (u16_lt _), ?_, ?_⟩
      · intro hFin
        have hShape := h.reorder hFin
        have hPred : u16 ((s.rcv.reorderCount : Int) - 1) = s.rcv.reorderCount - 1 := by
          have hLe := hShape.count_le h.bounds
          simp only [Conn.view_reorderCount] at hLe
          unfold u16
          omega
        have hNone : (s.rcv.inbuf.put (s.rcv.ackNr + 1) none).get (s.rcv.ackNr + 1) = none := by
          rw [SizableCircularBuffer.get_put_dvd, if_pos (by simp)]
        have hCleared : ReorderShape (u16 (s.rcv.ackNr + 1)) (s.rcv.reorderCount - 1)
            (s.rcv.inbuf.put (s.rcv.ackNr + 1) none) :=
          (hShape.clear hGet).advance (h.bounds.put _ none) hNone
        rw [← hPred] at hCleared
        exact hCleared
      · intro hRank
        exact absurd (h.early hRank).1 hCount

/-- By induction on the turns. -/
theorem DrainStep.loose_run {env : Env} {r : Received} {s s' : Conn}
    (hRun : Relation.ReflTransGen (DrainStep env r) s s') (h : LooseOk s.view) :
    LooseOk s'.view ∧ Clean s s' := by
  induction hRun with
  | refl => exact ⟨h, Clean.refl s⟩
  | tail _ hStep ih =>
      obtain ⟨hLoose, hClean⟩ := hStep.loose ih.1
      exact ⟨hLoose, ih.2.trans hClean⟩

/-- The two states in which data is exchanged come after the handshake. -/
theorem ConnState.rank_of_open {st : ConnState} (h : st.open = true) : 4 ≤ st.rank := by
  cases st <;> simp_all [ConnState.open, ConnState.rank]

/-- Two bytes make a number below 65536. -/
theorem Datagram.read16_lt (d : Datagram) (i : Nat) : d.read16 i < 65536 := by
  have hHigh : d.byte i < 256 := (d.mem i).toNat_lt
  have hLow : d.byte (i + 1) < 256 := (d.mem (i + 1)).toNat_lt
  unfold Datagram.read16
  omega

/-- The number of an out of order packet, counted from the expected one. -/
theorem Conn.seqOffset_dvd (header : PacketFormatV1) (s : Conn) :
    (65536 : Int) ∣ (header.seqNr : Int) - (s.rcv.ackNr + 1 + s.seqOffset header) := by
  have hEmod := u16_emod (header.seqNr - s.rcv.ackNr - 1)
  unfold Conn.seqOffset
  omega

namespace Core

variable {env : Env} {cause : Cause} {s s' : Conn}

/-- Growing the reorder buffer for a packet keeps what is in it. -/
theorem growInbuf (h : Core s) {seqNr offset : Nat} (hLimit : offset ≤ 1023)
    (hSeq : (65536 : Int) ∣ (seqNr : Int) - (s.rcv.ackNr + 1 + offset)) :
    Core (s.growInbuf seqNr offset) := by
  have hItem : (65536 : Int) ∣ ((seqNr : Int) + 1) - (offset + 1 : Nat) - (s.rcv.ackNr + 1) := by
    push_cast
    omega
  have hBounds := h.view.bounds.ensureSize (seqNr + 1) (offset + 1) (by omega)
  refine ⟨⟨⟨h.view.queue, h.view.room, hBounds, ?_, h.view.early⟩, h.view.front, ?_⟩, h.log⟩
  · intro hFin
    exact (h.view.reorder hFin).ensureSize h.view.bounds (by omega) hItem
  · intro hFin
    have hSize : 0 < (s.rcv.inbuf.ensureSize (seqNr + 1) (offset + 1)).size :=
      lt_of_lt_of_le (by decide) hBounds.size_ge
    have hOld : 0 < s.rcv.inbuf.size := lt_of_lt_of_le (by decide) h.view.bounds.size_ge
    have hBefore : ReorderBounds s.rcv.ackNr s.rcv.inbuf := h.view.bounds
    have hRead := hBefore.get_ensureSize (j := 0) (by omega) hItem hSize
    rw [if_pos hOld, Nat.cast_zero, add_zero] at hRead
    exact hRead.trans (h.view.next hFin)

/-- A packet that is not the next one has another slot than the next one. -/
theorem slot_apart (h : Core s) {seqNr offset : Nat} (hPos : offset ≠ 0)
    (hRoom : offset < s.rcv.inbuf.mask)
    (hSeq : (65536 : Int) ∣ (seqNr : Int) - (s.rcv.ackNr + 1 + offset)) :
    ¬(s.rcv.inbuf.size : Int) ∣ (seqNr : Int) - (s.rcv.ackNr + 1) := by
  have hMask : s.rcv.inbuf.mask + 1 = s.rcv.inbuf.size := rfl
  intro hDvd
  have hDiff := Int.dvd_sub (h.view.bounds.dvd_of_seq hSeq) hDvd
  have hEq : ((seqNr : Int) - (s.rcv.ackNr + 1 + offset)) - (seqNr - (s.rcv.ackNr + 1)) =
      (0 : Int) + (0 : Nat) - (0 + (offset : Nat)) := by push_cast; ring
  rw [hEq] at hDiff
  exact CellRing.not_dvd_offset (n := s.rcv.inbuf.size) 0 (by omega) (by omega) (Ne.symm hPos) hDiff

/-- The two assertions at the insertion of a packet hold. -/
theorem storeReordered_eq (h : Core s) {seqNr offset : Nat} (body : List UInt8) (hPos : offset ≠ 0)
    (hRoom : offset < s.rcv.inbuf.mask)
    (hSeq : (65536 : Int) ∣ (seqNr : Int) - (s.rcv.ackNr + 1 + offset))
    (hNone : s.rcv.inbuf.get seqNr = none) :
    s.storeReordered seqNr body = (s.insertReordered ⟨seqNr, body⟩).scheduleAck := by
  have hFirst : s.check 2498 (s.rcv.inbuf.get seqNr).isNone = s := by
    rw [hNone]
    rfl
  have hSecond : s.check 2499 (s.rcv.inbuf.slot seqNr ≠ s.rcv.inbuf.slot (s.rcv.ackNr + 1)) = s := by
    have hSlot : s.rcv.inbuf.slot seqNr ≠ s.rcv.inbuf.slot (s.rcv.ackNr + 1) := by
      rw [Ne, CellRing.slot_eq_iff, ← SizableCircularBuffer.size_eq]
      exact h.slot_apart hPos hRoom hSeq
    rw [decide_eq_true hSlot]
    rfl
  unfold Conn.storeReordered
  dsimp only
  rw [hFirst, hSecond]

/-- Storing a packet in a free slot of the reorder buffer. -/
theorem storeReordered (h : Core s) {seqNr offset : Nat} (body : List UInt8) (hPos : offset ≠ 0)
    (hLimit : offset ≤ 1023) (hLt : seqNr < 65536) (hRoom : offset < s.rcv.inbuf.mask)
    (hSeq : (65536 : Int) ∣ (seqNr : Int) - (s.rcv.ackNr + 1 + offset))
    (hOpen : s.state.open = true) (hNone : s.rcv.inbuf.get seqNr = none) :
    Core (s.storeReordered seqNr body) := by
  have hApart := h.slot_apart hPos hRoom hSeq
  have hStored := h.storeReordered_eq body hPos hRoom hSeq hNone
  have hView : (s.storeReordered seqNr body).view = { s.view with
      inbuf := s.rcv.inbuf.put seqNr (some ⟨seqNr, body⟩)
      reorderCount := u16 (s.rcv.reorderCount + 1) } := by
    rw [hStored]
    rfl
  have hClean : Clean s (s.storeReordered seqNr body) := by
    rw [hStored]
    exact Clean.trans (t := s.insertReordered ⟨seqNr, body⟩) (Clean.of_log rfl) (Clean.emit _ rfl)
  refine ⟨?_, hClean.no_failure h.log⟩
  rw [hView]
  refine ⟨⟨h.view.queue, h.view.room, h.view.bounds.put _ _, ?_, ?_⟩, h.view.front, ?_⟩
  · intro hFin
    have hShape := h.view.reorder hFin
    have hSucc : u16 ((s.rcv.reorderCount : Int) + 1) = s.rcv.reorderCount + 1 := by
      have hLe := hShape.count_le h.view.bounds
      simp only [Conn.view_reorderCount] at hLe
      unfold u16
      omega
    have hNew : ReorderShape s.rcv.ackNr (s.rcv.reorderCount + 1)
        (s.rcv.inbuf.put seqNr (some ⟨seqNr, body⟩)) :=
      hShape.store h.view.bounds (p := ⟨seqNr, body⟩) hLimit hRoom hSeq hLt hNone
    rw [← hSucc] at hNew
    exact hNew
  · intro hRank
    have hState : 4 ≤ s.state.rank := ConnState.rank_of_open hOpen
    change s.state.rank < 4 at hRank
    omega
  · intro hFin
    change (s.rcv.inbuf.put seqNr (some ⟨seqNr, body⟩)).get (s.rcv.ackNr + 1) = none
    rw [SizableCircularBuffer.get_put_dvd, if_neg hApart]
    exact h.view.next hFin

/-- A packet that is early is stored, unless its slot is taken or it is too early. -/
theorem outOfOrder (h : Core s) {r : Received} (body : List UInt8) (hOpen : s.state.open = true)
    (hOffset : s.seqOffset r.d.header ≠ 0) :
    Core (s.receiveOutOfOrder r.d.header.seqNr (s.seqOffset r.d.header) body) := by
  have hSeq := Conn.seqOffset_dvd r.d.header s
  unfold Conn.receiveOutOfOrder
  split_ifs with hPast hFar
  · exact h
  · exact h
  · have hGrown : Core ((s.growInbuf r.d.header.seqNr (s.seqOffset r.d.header)).emit
        (.accepted r.d.header.seqNr (s.seqOffset r.d.header) body)) :=
      (h.growInbuf (Nat.le_of_not_lt hFar) hSeq).of_view rfl (Clean.emit _ rfl)
    dsimp only
    split_ifs with hTaken
    · exact hGrown
    · have hRoom := s.rcv.inbuf.lt_size_ensureSize (r.d.header.seqNr + 1)
        (s.seqOffset r.d.header + 1)
      refine hGrown.storeReordered body hOffset (by omega) (Datagram.read16_lt _ _) ?_ hSeq hOpen ?_
      · unfold SizableCircularBuffer.size at hRoom
        change s.seqOffset r.d.header < SizableCircularBuffer.mask (s.rcv.inbuf.ensureSize _ _)
        omega
      · simpa using hTaken

/-- Every transition of the receiving side keeps a sound state. -/
theorem receiving (h : Core s) (hReceive : Receiving env cause s s') : Core s' := by
  cases hReceive with
  | synAcked r hCause hState =>
      have hRank : s.state.rank < 4 := by rw [hState]; decide
      obtain ⟨hCount, -, hReached⟩ := h.view.early hRank
      have hShape := h.view.reorder hReached
      rw [hCount] at hShape
      refine ⟨⟨⟨h.view.queue, h.view.room, h.view.bounds.setAckNr (u16_lt _), ?_, h.view.early⟩,
        h.view.front, ?_⟩, h.log⟩
      · intro _
        have hEmpty := hShape.of_count_zero (u16 (r.d.header.seqNr - 1))
        rw [← hCount] at hEmpty
        exact hEmpty
      · intro _
        exact hShape.get_of_count_zero _
  | fin r hCause hOpen =>
      unfold Conn.noteFin
      split_ifs
      · refine ⟨⟨⟨h.view.queue, h.view.room, h.view.bounds, h.view.reorder, ?_⟩, h.view.front,
          h.view.next⟩, h.log⟩
        intro hRank
        have hState := ConnState.rank_of_open hOpen
        change s.state.rank < 4 at hRank
        omega
      · exact h
  | drained _ r hCause hRun hDone =>
      obtain ⟨hLoose, hClean⟩ := DrainStep.loose_run hRun h.view.toLooseOk
      have hSnd : s'.snd = s.snd := congrArg Foreground.snd (DrainStep.foreground_run hRun)
      refine ⟨⟨hLoose, ?_, ?_⟩, hClean.no_failure h.log⟩
      · have hFront := h.view.front
        simp only [Conn.view_curWindowPackets, Conn.view_outbuf, Conn.view_seqNr] at hFront ⊢
        rw [hSnd]
        exact hFront
      · intro hFin
        have hReached : s'.rcv.gotFinReached = false := hFin
        simpa [Conn.drainDone, hReached] using hDone
  | outOfOrder r hCause hOpen hType hOffset => exact h.outOfOrder _ hOpen hOffset

/-- The state may change as long as it does not go back to one before the
connection was set up. -/
theorem setState (h : Core s) {st : ConnState} (hRank : st.rank < 4 → s.state.rank < 4) :
    Core (s.setState st) := by
  refine ⟨⟨⟨h.view.queue, h.view.room, h.view.bounds, h.view.reorder, ?_⟩, h.view.front,
    h.view.next⟩, (Clean.emit s rfl).no_failure h.log⟩
  intro hNew
  exact h.view.early (hRank hNew)

/-- A connection that is given up keeps its buffers. -/
theorem abandon (h : Core s) : Core s.abandon := by
  apply h.setState
  cases s.closeRequested <;> simp [ConnState.rank]

/-- A new socket is sound once it is initialised. -/
theorem initialise (h : Core s) (addr : PackedSockAddr) (connSeed connIdRecv connIdSend : Nat)
    (hState : s.state = .uninitialized) :
    Core (s.initializeSocket env addr connSeed connIdRecv connIdSend) := by
  refine ⟨?_, (Conn.clean_initializeSocket env addr connSeed connIdRecv connIdSend s).no_failure h.log⟩
  rw [Conn.view_initializeSocket]
  refine ⟨⟨h.view.queue, h.view.room, h.view.bounds, h.view.reorder, ?_⟩, h.view.front, h.view.next⟩
  intro _
  apply h.view.early
  change s.state.rank < 4
  rw [hState]
  decide

/-- The number of the SYN is drawn; the queue is still empty. -/
theorem startConnect (h : Core s) (hState : s.state = .idle) (hCount : s.snd.curWindowPackets = 0) :
    Core (s.startConnect env) := by
  have hRank : s.state.rank < 4 := by rw [hState]; decide
  have hQueue : QueueShape s.snd.seqNr s.snd.curWindowPackets s.snd.curWindow s.snd.outbuf :=
    h.view.queue
  rw [hCount] at hQueue
  refine ⟨⟨⟨?_, h.view.room, h.view.bounds, h.view.reorder, fun _ => h.view.early hRank⟩, ?_,
    h.view.next⟩, (Conn.clean_startConnect env s).no_failure h.log⟩
  · change QueueShape (u16 _) s.snd.curWindowPackets s.snd.curWindow s.snd.outbuf
    rw [hCount]
    exact hQueue.renumber (u16_lt _)
  · intro hPos
    change 0 < s.snd.curWindowPackets at hPos
    omega

/-- The SYN is the first packet of the queue. -/
theorem dial (h : Core s) (hState : s.state = .idle) (hCount : s.snd.curWindowPackets = 0) :
    Core (s.startConnect env).queueSyn := by
  have hStart : Core (s.startConnect env) := h.startConnect hState hCount
  have hEmpty : (s.startConnect env).snd.curWindowPackets = 0 := hCount
  refine hStart.enqueued (s.startConnect env).synPacket s.finSent (by omega)
    (fun _ => by omega) ?_ rfl rfl (Conn.clean_enqueue _ _)
  exact ⟨rfl, rfl, rfl, fun _ => rfl⟩

/-- The number of the SYN is the first that was received. -/
theorem accept (h : Core s) {seqNr : Nat} (hLt : seqNr < 65536) (hState : s.state = .idle)
    (hCount : s.snd.curWindowPackets = 0) : Core (s.startAccept env seqNr) := by
  have hRank : s.state.rank < 4 := by rw [hState]; decide
  obtain ⟨hReorder, -, hReached⟩ := h.view.early hRank
  have hShape := h.view.reorder hReached
  have hQueue : QueueShape s.snd.seqNr s.snd.curWindowPackets s.snd.curWindow s.snd.outbuf :=
    h.view.queue
  rw [hReorder] at hShape
  rw [hCount] at hQueue
  refine ⟨⟨⟨?_, h.view.room, h.view.bounds.setAckNr hLt, ?_, fun _ => h.view.early hRank⟩, ?_, ?_⟩,
    (Clean.emit s rfl).no_failure h.log⟩
  · change QueueShape (u16 _) s.snd.curWindowPackets s.snd.curWindow s.snd.outbuf
    rw [hCount]
    exact hQueue.renumber (u16_lt _)
  · intro _
    have hEmpty := hShape.of_count_zero seqNr
    rw [← hReorder] at hEmpty
    exact hEmpty
  · intro hPos
    change 0 < s.snd.curWindowPackets at hPos
    omega
  · intro _
    exact hShape.get_of_count_zero _

/-- So a socket is sound from its first packet on. -/
theorem setup (h : Core s) (hSetup : Setup env cause s s') : Core s' := by
  cases hSetup with
  | initialise addr connSeed connIdRecv connIdSend hState =>
      exact h.initialise addr connSeed connIdRecv connIdSend hState
  | dial hState hCount hPointer => exact h.dial hState hCount
  | accept d hCause hState hCount => exact h.accept (Datagram.read16_lt _ _) hState hCount

/-- A move of the state keeps the buffers, and may only go on. -/
theorem moving (h : Core s) (hMove : Moving cause s s') : Core s' := by
  have hConnected : ∀ {st : ConnState}, st.rank ≥ 4 → Core (s.setState st) := by
    intro st hHigh
    apply h.setState
    omega
  cases hMove with
  | established r hCause hType hState =>
      exact (hConnected (by decide)).emit (by split_ifs <;> rfl)
  | admitted r hCause hType hState => exact (hConnected (by decide)).emit rfl
  | finAcked r hCause hFin hAcks =>
      have hAcked : Core { s with finSentAcked := true } :=
        ⟨⟨⟨h.view.queue, h.view.room, h.view.bounds, h.view.reorder, h.view.early⟩, h.view.front,
          h.view.next⟩, h.log⟩
      split_ifs
      · exact hAcked.setState (by simp [ConnState.rank])
      · exact hAcked
  | full hState hFull =>
      have hNoted : Core (s.noteFull (-1)) := by
        unfold Conn.noteFull
        rw [if_pos hFull]
        exact h.of_view rfl (Clean.of_log rfl)
      unfold Conn.markFull
      rw [if_pos hFull]
      exact hNoted.setState (by simp [ConnState.rank])
  | writable hState hFull => exact (hConnected (by decide)).emit rfl
  | expired hState => exact (hConnected (by decide)).emit rfl
  | gaveUp hState => exact h.abandon.emit rfl
  | closing hOpen => exact h.of_view rfl (Clean.emit _ rfl)
  | closed hState => exact hConnected (by decide)
  | reset => exact h.abandon.emit rfl
  | icmpError =>
      unfold Conn.receiveIcmpError
      split_ifs
      · exact h
      · exact h.abandon.emit rfl
      · exact h
      · exact h.abandon.emit rfl

/-- The sending transitions are these three kinds. -/
theorem sending (h : Core s) (hSend : Sending env cause s s') : Core s' := by
  cases hSend with
  | quiet hQuiet => exact h.quiet hQuiet
  | queueing hQueue => exact h.queueing hQueue
  | moving hMove => exact h.moving hMove

/-- Every transition keeps the invariant. -/
theorem trans (h : Core s) (hTrans : Trans env cause s s') : Core s' := by
  cases hTrans with
  | setup hSetup => exact h.setup hSetup
  | sending hSend => exact h.sending hSend
  | receiving hReceive => exact h.receiving hReceive

/-- By induction on the path. -/
theorem path (h : Core s) (hPath : Path env cause s s') : Core s' := by
  induction hPath with
  | refl => exact h
  | tail _ hTrans ih => exact ih.trans hTrans

/-- A path of sending transitions is one of them. -/
theorem sendPath (h : Core s) (hPath : SendPath env cause s s') : Core s' := h.path hPath.path

end Core

end Utp
