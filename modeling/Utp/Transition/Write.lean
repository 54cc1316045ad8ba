import Utp.Invariant.Core

/-! The writing functions are paths of elementary transitions. -/
namespace Utp

open Wrapping

/-- A single piece of bookkeeping as a path. -/
theorem Quiet.path {env : Env} {cause : Cause} {s s' : Conn} (h : Quiet env cause s s') :
    SendPath env cause s s' :=
  .single (.quiet h)

/-- A sequence of bookkeeping steps. -/
abbrev QuietPath (env : Env) (cause : Cause) : Conn → Conn → Prop :=
  Relation.ReflTransGen (Quiet env cause)

theorem QuietPath.path {env : Env} {cause : Cause} {s s' : Conn} (h : QuietPath env cause s s') :
    SendPath env cause s s' :=
  Relation.ReflTransGen.mono (fun _ _ hStep => Sending.quiet hStep) s s' h

/-- Bookkeeping is invisible to the queue and the reorder buffer. The bound on `ack_nr` is needed because
a keepalive lowers it by one and raises it again, which is the identity for 16-bit numbers only. -/
theorem QuietPath.view {env : Env} {cause : Cause} {s s' : Conn} (h : QuietPath env cause s s')
    (hAck : s.rcv.ackNr < 65536) : s'.view = s.view := by
  induction h with
  | refl => rfl
  | tail _ hStep ih =>
      have hBound : (_ : Conn).rcv.ackNr < 65536 :=
        lt_of_eq_of_lt (congrArg View.ackNr ih) hAck
      exact (hStep.view hBound).trans ih

theorem Queueing.path {env : Env} {cause : Cause} {s s' : Conn} (h : Queueing env cause s s') :
    SendPath env cause s s' :=
  .single (.queueing h)

theorem Moving.path {env : Env} {cause : Cause} {s s' : Conn} (h : Moving cause s s') :
    SendPath env cause s s' :=
  .single (.moving h)

/-- What stays the same while `utp_writev` fills and flushes the queue. -/
structure WriteFrame where
  state : ConnState
  finSent : Bool
  closeRequested : Bool
  mtuLast : Nat
  rcv : RecvState
  onConnectSet : Bool

namespace Conn

variable (env : Env) (cause : Cause)

@[simps] def writeFrame (s : Conn) : WriteFrame where
  state := s.state
  finSent := s.finSent
  closeRequested := s.closeRequested
  mtuLast := s.mtu.last
  rcv := s.rcv
  onConnectSet := s.onConnectSet

/-- An assertion that holds leaves no trace. The proofs below use it to take the assertions out of the
functions, once the invariant has shown that they hold. -/
theorem check_true (line : Nat) {ok : Bool} (s : Conn) (h : ok = true) : s.check line ok = s := by
  rw [h]
  rfl

theorem writeFrame_check (line : Nat) (ok : Bool) (s : Conn) :
    (s.check line ok).writeFrame = s.writeFrame := by
  cases ok <;> rfl

/-- The timer is started for an empty queue, and is no part of the frame. -/
theorem writeFrame_startTimer (s : Conn) : s.startTimer.writeFrame = s.writeFrame := by
  unfold startTimer
  split_ifs
  · exact writeFrame_check _ _ _
  · rfl

theorem writeFrame_noteFull (bytes : Int) (s : Conn) :
    (s.noteFull bytes).writeFrame = s.writeFrame := by
  unfold noteFull
  split_ifs <;> rfl

theorem writeFrame_chargeWindow (pkt : OutgoingPacket) (s : Conn) :
    (s.chargeWindow pkt).writeFrame = s.writeFrame := by
  unfold chargeWindow
  split_ifs <;> rfl

/-- `mtu_reset` starts the search over, but leaves `mtu_last` alone, from which the packet size is
computed. -/
theorem writeFrame_mtuReset (s : Conn) : (s.mtuReset env).writeFrame = s.writeFrame :=
  writeFrame_check _ _ _

theorem writeFrame_startProbe (pkt : OutgoingPacket) (s : Conn) :
    (s.startProbe pkt).writeFrame = s.writeFrame := by
  change Conn.writeFrame ((Conn.check _ _ _).check _ _) = _
  exact (writeFrame_check _ _ _).trans (writeFrame_check _ _ _)

/-- The copy of a packet that is sent is put back in the queue. -/
theorem writeFrame_transmit (v : Int) (pkt : OutgoingPacket) (timeSent flags : Nat) (s : Conn) :
    (s.transmit env v pkt timeSent flags).writeFrame = s.writeFrame := rfl

theorem writeFrame_updateRcvWin (s : Conn) : (s.updateRcvWin env).writeFrame = s.writeFrame := rfl

theorem writeFrame_enqueue (pkt : OutgoingPacket) (s : Conn) : (s.enqueue pkt).writeFrame = s.writeFrame := rfl

/-- Sending changes neither the state nor what is received, also when the packet becomes a probe. -/
theorem writeFrame_sendPacket (v : Int) (s : Conn) :
    (s.sendPacket env v).writeFrame = s.writeFrame := by
  cases hGet : s.snd.outbuf.get v with
  | none => rw [sendPacket_none env hGet]
  | some pkt =>
      have hCharged : (s.chargeWindow pkt).called.called.writeFrame = s.writeFrame :=
        writeFrame_chargeWindow pkt s
      rw [sendPacket_some env hGet, writeFrame_transmit]
      unfold beforeTransmit
      dsimp only
      split_ifs
      · exact (writeFrame_startProbe _ _).trans ((writeFrame_mtuReset env _).trans hCharged)
      · exact (writeFrame_mtuReset env _).trans hCharged
      · exact (writeFrame_startProbe _ _).trans hCharged
      · exact hCharged

/-- By induction on the number of packets that are left to look at. A full window ends the flush early,
with a note of the time. -/
theorem writeFrame_flushFrom (n : Nat) (s : Conn) :
    (s.flushFrom env n).writeFrame = s.writeFrame := by
  induction n generalizing s with
  | zero => rfl
  | succ n ih =>
      unfold flushFrom
      dsimp only
      split
      · exact ih s
      · split_ifs
        · exact ih s
        · exact writeFrame_noteFull _ s
        · exact (ih _).trans (writeFrame_sendPacket env _ s)
        · exact ih s

theorem writeFrame_fillPacket (flags : Nat) (pkt : OutgoingPacket) (bytes : List UInt8) (s : Conn) :
    (s.fillPacket env flags pkt bytes).writeFrame = s.writeFrame := by
  unfold fillPacket
  exact (writeFrame_updateRcvWin env _).trans ((writeFrame_check _ _ _).trans (writeFrame_check _ _ s))

theorem writeFrame_appendPacket (flags : Nat) (bytes : List UInt8) (s : Conn) :
    (s.appendPacket env flags bytes).writeFrame = s.writeFrame :=
  ((writeFrame_enqueue _ _).trans (writeFrame_updateRcvWin env _)).trans (writeFrame_check _ _ s)

/-- By induction on the fuel, one turn for each packet that is filled or added. -/
theorem writeFrame_writeLoop (flags packetSize fuel payload : Nat) (iov : List (List UInt8))
    (s : Conn) : (s.writeLoop env flags packetSize fuel payload iov).2.writeFrame = s.writeFrame := by
  induction fuel generalizing payload iov s with
  | zero => rfl
  | succ fuel ih =>
      have hChecks : ((s.check 1011 (s.snd.curWindowPackets < outgoingBufferMaxSize)).check 1012
          (flags == stData || flags == stFin)).writeFrame = s.writeFrame :=
        (writeFrame_check _ _ _).trans (writeFrame_check _ _ s)
      unfold writeLoop
      dsimp only
      split
      · split_ifs
        · exact (ih _ _ _).trans ((writeFrame_fillPacket env flags _ _ _).trans
            ((writeFrame_check 1078 _ _).trans hChecks))
        · exact (writeFrame_fillPacket env flags _ _ _).trans
            ((writeFrame_check 1078 _ _).trans hChecks)
      · exact (writeFrame_appendPacket env flags _ _).trans
          ((writeFrame_check 1078 _ _).trans hChecks)

/-- The whole of `write_outgoing_packet`: timer, packets and flush. -/
theorem writeFrame_writeOutgoingPacket (payload flags : Nat) (iov : List (List UInt8)) (s : Conn) :
    (s.writeOutgoingPacket env payload flags iov).2.writeFrame = s.writeFrame :=
  (writeFrame_flushFrom env _ _).trans
    ((writeFrame_writeLoop env flags _ _ payload iov _).trans (writeFrame_startTimer s))

/-- That a window was found full is remembered by its time, for the congestion control. -/
theorem path_noteFull (bytes : Int) (s : Conn) : SendPath env cause s (s.noteFull bytes) := by
  unfold noteFull
  split_ifs
  · exact (Quiet.window s _).path
  · exact .refl

/-- A flush is a path of single sends. It belongs to no particular call: it runs after a write, after an
ack and after a close, hence for every cause. -/
theorem path_flushFrom (n : Nat) (s : Conn) : SendPath env cause s (s.flushFrom env n) := by
  induction n generalizing s with
  | zero => exact .refl
  | succ n ih =>
      unfold flushFrom
      dsimp only
      split
      · exact ih s
      · split_ifs
        · exact ih s
        · exact path_noteFull env cause (-1) s
        · exact (Queueing.send s _).path.trans (ih _)
        · exact ih s

/-- The vectors may hold less than is asked for, never more. The difference is what assertion 1078 is
about. -/
theorem length_takeIov (needed : Nat) (iov : List (List UInt8)) :
    (takeIov needed iov).1.length ≤ needed := by
  induction needed, iov using takeIov.induct with
  | case1 iov => simp [takeIov]
  | case2 needed => simp [takeIov]
  | case3 needed v rest num ih =>
      have hNum : num ≤ needed + 1 := min_le_left _ _
      have hLeft : (v.take num).length ≤ num := by simp
      rw [takeIov]
      change (v.take num ++ (takeIov (needed + 1 - num) rest).1).length ≤ needed + 1
      rw [List.length_append]
      omega

/-- The packet that the writer extends. -/
theorem fillable_some {payload packetSize : Nat} {pkt : OutgoingPacket} {s : Conn}
    (h : s.fillable payload packetSize = some pkt) :
    0 < s.snd.curWindowPackets ∧ s.snd.outbuf.get (s.snd.seqNr - 1) = some pkt ∧
      pkt.transmissions = 0 ∧ pkt.payload < packetSize := by
  unfold fillable at h
  split_ifs at h with hRoom
  have hCount : payload ≠ 0 ∧ 0 < s.snd.curWindowPackets := by simpa using hRoom
  rw [Option.filter_eq_some_iff] at h
  have hParts : pkt.transmissions = 0 ∧ pkt.payload < packetSize := by simpa using h.2
  exact ⟨hCount.2, h.1, hParts.1, hParts.2⟩

/-- The state in which the writer adds data to the queue. -/
structure Writing (packetSize : Nat) (s : Conn) : Prop where
  core : Core s
  state : s.state = .connected
  fin : s.finSent = false
  room : s.snd.curWindowPackets < 1023
  size : s.mtu.last ≠ 0 → packetSize = s.getPacketSize

/-- While the search is on, the packet size is that of `mtu_last`, and does not follow the search. The
hypothesis excludes an embedder that reports an MTU of 0, for which the ceiling is used instead. -/
theorem getPacketSize_eq {s s' : Conn} (hLast : s'.mtu.last = s.mtu.last) (hNonzero : s.mtu.last ≠ 0) :
    s'.getPacketSize = s.getPacketSize := by
  unfold getPacketSize
  rw [hLast, if_pos hNonzero, if_pos hNonzero]

/-- What `utp_writev` relies on is kept by everything that leaves the frame and the number of the packets
alone. -/
theorem Writing.of_frame {packetSize : Nat} {s s' : Conn} (h : Writing packetSize s)
    (hFrame : s'.writeFrame = s.writeFrame) (hCore : Core s')
    (hCount : s'.snd.curWindowPackets = s.snd.curWindowPackets) : Writing packetSize s' := by
  have hLast : s'.mtu.last = s.mtu.last := congrArg WriteFrame.mtuLast hFrame
  refine ⟨hCore, (congrArg WriteFrame.state hFrame).trans h.state,
    (congrArg WriteFrame.finSent hFrame).trans h.fin, hCount ▸ h.room, ?_⟩
  intro hNonzero
  rw [hLast] at hNonzero
  rw [getPacketSize_eq hLast hNonzero]
  exact h.size hNonzero

/-- The loop of `write_outgoing_packet`. Each turn extends the newest packet, if it has not been sent and
has room, or adds one. A write without bytes never extends a packet, so that only a call of `utp_writev`
with bytes does. -/
theorem path_writeLoop {packetSize : Nat} (fuel payload : Nat) (iov : List (List UInt8)) {s : Conn}
    (h : Writing packetSize s) (hPayload : s.mtu.last ≠ 0 → payload ≤ packetSize)
    (hWrites : cause = .write ∨ (∃ r, cause = .packet r) ∧ payload = 0) :
    SendPath env cause s (s.writeLoop env stData packetSize fuel payload iov).2 := by
  induction fuel generalizing payload iov s with
  | zero => exact .refl
  | succ fuel ih =>
      have hCovered : 1078 ∉ coveredLines ++ mtuLines := by decide
      have hRoom : s.check 1011 (s.snd.curWindowPackets < outgoingBufferMaxSize) = s := by
        exact check_true 1011 s (decide_eq_true (h.room.trans (by decide)))
      have hFlags : s.check 1012 (stData == stData || stData == stFin) = s := rfl
      unfold writeLoop
      dsimp only
      rw [hRoom, hFlags]
      split
      · rename_i pkt hFill
        obtain ⟨hCount, hGet, hUnsent, hLess⟩ := fillable_some hFill
        have hWrite : cause = .write := by
          refine hWrites.resolve_right fun ⟨_, hEmpty⟩ => ?_
          rw [hEmpty] at hFill
          cases hFill
        generalize hAdded : min (payload + pkt.payload) (max packetSize pkt.payload) - pkt.payload = added
        generalize hTaken : takeIov added iov = taken
        have hLength : taken.1.length ≤ added := hTaken ▸ length_takeIov added iov
        generalize hOk : (taken.1.length == added) = ok
        have hCheck : SendPath env cause s _ := (Quiet.check s 1078 ok hCovered).path
        have hFrame := writeFrame_check 1078 ok s
        have hView := view_check 1078 ok s
        have hNext := h.of_frame hFrame (h.core.sendPath hCheck) (congrArg View.curWindowPackets hView)
        have hSeq : (s.check 1078 ok).snd.seqNr = s.snd.seqNr := congrArg View.seqNr hView
        have hBuf : (s.check 1078 ok).snd.outbuf = s.snd.outbuf := congrArg View.outbuf hView
        have hPackets : (s.check 1078 ok).snd.curWindowPackets = s.snd.curWindowPackets :=
          congrArg View.curWindowPackets hView
        have hFilled : Queueing env cause (s.check 1078 ok)
            ((s.check 1078 ok).fillPacket env stData pkt taken.1) := by
          refine .fill _ pkt taken.1 hNext.state hNext.fin (hPackets ▸ hCount) ?_ hUnsent ?_ hWrite
          · rw [hSeq, hBuf]
            exact hGet
          · intro hNonzero
            rw [← hNext.size hNonzero]
            omega
        have hPath := hCheck.trans hFilled.path
        split_ifs
        · apply hPath.trans
          apply ih
          · apply h.of_frame ((writeFrame_fillPacket env _ _ _ _).trans hFrame) (h.core.sendPath hPath)
            obtain ⟨header, -, -, -, hFillView⟩ := view_fillPacket env stData pkt taken.1 (s.check 1078 ok)
            exact (congrArg View.curWindowPackets hFillView).trans hPackets
          · intro hNonzero
            have hLast : ((s.check 1078 ok).fillPacket env stData pkt taken.1).mtu.last = s.mtu.last :=
              congrArg WriteFrame.mtuLast ((writeFrame_fillPacket env _ _ _ _).trans hFrame)
            have hOld := hPayload (hLast ▸ hNonzero)
            omega
          · exact Or.inl hWrite
        · exact hPath
      · generalize hTaken : takeIov payload iov = taken
        have hLength : taken.1.length ≤ payload := hTaken ▸ length_takeIov payload iov
        generalize hOk : (taken.1.length == payload) = ok
        have hCheck : SendPath env cause s _ := (Quiet.check s 1078 ok hCovered).path
        have hNext := h.of_frame (writeFrame_check 1078 ok s) (h.core.sendPath hCheck)
          (congrArg View.curWindowPackets (view_check 1078 ok s))
        refine hCheck.trans (Queueing.append _ taken.1 hNext.state hNext.fin hNext.room ?_ ?_).path
        swap
        · refine hWrites.imp_right fun ⟨hPacket, hEmpty⟩ => ⟨hPacket, ?_⟩
          rw [hEmpty] at hLength
          exact List.eq_nil_of_length_eq_zero (Nat.le_zero.1 hLength)
        intro hNonzero
        have hLast : (s.check 1078 ok).mtu.last = s.mtu.last :=
          congrArg WriteFrame.mtuLast (writeFrame_check 1078 ok s)
        have hOld := hPayload (hLast ▸ hNonzero)
        rw [← hNext.size hNonzero]
        omega

/-- One packet of a write. The caller has found the window not full, which is what leaves room in the
queue for it; the place of the FIN is not used here. -/
theorem path_writeOutgoingPacket {packetSize payload : Nat} (iov : List (List UInt8)) {s : Conn}
    (h : Writing packetSize s) (hPayload : s.mtu.last ≠ 0 → payload ≤ packetSize)
    (hWrites : cause = .write ∨ (∃ r, cause = .packet r) ∧ payload = 0) :
    SendPath env cause s (s.writeOutgoingPacket env payload stData iov).2 := by
  have hQuiet : Quiet env cause s _ := .startTimer s
  have hTimer := h.of_frame (writeFrame_startTimer s) (h.core.quiet hQuiet)
    (congrArg View.curWindowPackets (hQuiet.view h.core.view.bounds.ackNr_lt))
  have hLast : s.startTimer.mtu.last = s.mtu.last :=
    congrArg WriteFrame.mtuLast (writeFrame_startTimer s)
  have hWriting : Writing s.startTimer.getPacketSize s.startTimer :=
    ⟨hTimer.core, hTimer.state, hTimer.fin, hTimer.room, fun _ => rfl⟩
  have hLoop := path_writeLoop env cause (payload + 1) payload iov hWriting (by
    intro hNonzero
    rw [← hTimer.size hNonzero]
    exact hPayload (hLast ▸ hNonzero)) hWrites
  exact (hQuiet.path.trans hLoop).trans (path_flushFrom env cause _ _)

/-- A packet without payload is never added to another one. -/
theorem writeOutgoingPacket_empty {flags : Nat} (iov : List (List UInt8)) (s : Conn)
    (hFlags : flags = stData ∨ flags = stFin) (hCount : s.snd.curWindowPackets ≤ 1023) :
    (s.writeOutgoingPacket env 0 flags iov).2 =
      (s.startTimer.appendPacket env flags []).flushPackets env := by
  have hPackets : s.startTimer.snd.curWindowPackets = s.snd.curWindowPackets := by
    unfold startTimer
    split_ifs
    · exact congrArg View.curWindowPackets (view_check _ _ _)
    · rfl
  have hRoom : s.startTimer.check 1011
      (s.startTimer.snd.curWindowPackets < outgoingBufferMaxSize) = s.startTimer := by
    apply check_true
    apply decide_eq_true
    rw [hPackets]
    exact Nat.lt_succ_of_le hCount
  have hType : s.startTimer.check 1012 (flags == stData || flags == stFin) = s.startTimer := by
    rcases hFlags with rfl | rfl <;> rfl
  have hTake : takeIov 0 iov = ([], iov) := by rw [takeIov]
  have hFill : ∀ packetSize, s.startTimer.fillable 0 packetSize = none := fun _ => rfl
  unfold writeOutgoingPacket writeLoop
  dsimp only
  rw [hRoom, hType, hFill, hTake]
  rfl

/-- The FIN may take the last place of the queue, the one that `is_full` has kept for it. The order
matters: `fin_sent` is set before the packet is added. -/
theorem path_sendFin {s : Conn} (h : Core s) (hState : s.state.open = true)
    (hFin : s.finSent = false) : SendPath env .asked s (s.sendFin env) := by
  have hQuiet : Quiet env .asked s _ := .startTimer s
  have hFrame := writeFrame_startTimer s
  have hCommute : ({ s with finSent := true } : Conn).startTimer =
      { s.startTimer with finSent := true } := by
    unfold startTimer check
    dsimp only
    split_ifs <;> rfl
  have hSend : s.sendFin env =
      ({ s.startTimer with finSent := true }.appendPacket env stFin []).flushPackets env := by
    unfold sendFin
    rw [← hCommute]
    exact writeOutgoingPacket_empty env [] { s with finSent := true } (Or.inr rfl) (h.view.room hFin)
  have hOpen : s.startTimer.state.open = true := by
    rw [show s.startTimer.state = s.state from congrArg WriteFrame.state hFrame]
    exact hState
  have hUnsent : s.startTimer.finSent = false := (congrArg WriteFrame.finSent hFrame).trans hFin
  rw [hSend]
  exact (hQuiet.path.trans (Queueing.appendFin _ hOpen hUnsent rfl).path).trans
    (path_flushFrom env .asked _ _)

/-- After a write that did not fit, the connection is marked as full if a whole packet does not fit any
more. -/
theorem path_markFull (s : Conn) (hState : s.state = .connected) :
    SendPath env cause s s.markFull := by
  by_cases hFull : s.isFull (-1) = true
  · exact (Moving.full s hState hFull).path
  · unfold markFull
    rw [if_neg hFull]

/-- Whatever the byte counts say, a window that is not full has fewer than 1023 packets. -/
theorem room_of_not_full {bytes : Int} {s : Conn} (h : ¬s.isFull bytes = true) :
    s.snd.curWindowPackets < 1023 := by
  unfold isFull at h
  simp only [Bool.or_eq_true, decide_eq_true_eq, not_or] at h
  exact Nat.lt_of_not_le h.1

/-- The loop of `utp_writev`, by induction on the fuel. Neither the state nor `fin_sent` changes before it
ends, which is why they are checked once and not in every turn. -/
theorem path_writevLoop {packetSize : Nat} (fuel bytes sent : Nat) (iov : List (List UInt8))
    {s : Conn} (h : Core s) (hState : s.state = .connected) (hFin : s.finSent = false)
    (hSize : s.mtu.last ≠ 0 → packetSize = s.getPacketSize)
    (hWrites : cause = .write ∨ (∃ r, cause = .packet r) ∧ bytes = 0) :
    SendPath env cause s (s.writevLoop env packetSize fuel bytes sent iov).2 := by
  induction fuel generalizing bytes sent iov s with
  | zero => exact .refl
  | succ fuel ih =>
      unfold writevLoop
      dsimp only
      split_ifs with hFull hDone
      · apply (path_noteFull env cause _ s).trans
        apply path_markFull
        exact (congrArg WriteFrame.state (writeFrame_noteFull _ s)).trans hState
      · exact path_writeOutgoingPacket env cause iov
          ⟨h, hState, hFin, room_of_not_full hFull, hSize⟩ (fun _ => min_le_right _ _)
          (hWrites.imp_right fun ⟨hPacket, hEmpty⟩ => ⟨hPacket, by rw [hEmpty, Nat.zero_min]⟩)
      · have hWrite : SendPath env cause s
            (s.writeOutgoingPacket env (min bytes packetSize) stData iov).2 :=
          path_writeOutgoingPacket env cause iov ⟨h, hState, hFin, room_of_not_full hFull, hSize⟩
            (fun _ => min_le_right _ _) (hWrites.imp_right fun ⟨hPacket, hEmpty⟩ => ⟨hPacket, by rw [hEmpty, Nat.zero_min]⟩)
        have hFrame := writeFrame_writeOutgoingPacket env (min bytes packetSize) stData iov s
        have hLast : (s.writeOutgoingPacket env (min bytes packetSize) stData iov).2.mtu.last =
            s.mtu.last := congrArg WriteFrame.mtuLast hFrame
        apply hWrite.trans
        apply ih
        · exact h.sendPath hWrite
        · exact (congrArg WriteFrame.state hFrame).trans hState
        · exact (congrArg WriteFrame.finSent hFrame).trans hFin
        · intro hNonzero
          have hOld : s.mtu.last ≠ 0 := by rwa [← hLast]
          rw [getPacketSize_eq hLast hOld]
          exact hSize hOld
        · exact hWrites.imp_right fun ⟨hPacket, hEmpty⟩ => ⟨hPacket, by rw [hEmpty, Nat.zero_sub]⟩

/-- `utp_writev` refuses to write on a socket that is not connected or has sent its FIN, and otherwise
writes what fits. The empty write that follows the SYN-ACK is the only one with a packet as its cause. -/
theorem path_utpWritev (iovecs : List (List UInt8)) {s : Conn} (h : Core s)
    (hWrites : cause = .write ∨ (∃ r, cause = .packet r) ∧ (iovecs.take 1024).flatten = []) :
    SendPath env cause s (s.utpWritev env iovecs).2 := by
  unfold utpWritev
  split_ifs with hEmpty hState hFin
  · exact .refl
  · exact .refl
  · exact .refl
  · have hClock : SendPath env cause s _ := (Quiet.clock s).path
    apply hClock.trans
    apply path_writevLoop
    · exact h.sendPath hClock
    · exact of_not_not hState
    · exact eq_false_of_ne_true hFin
    · intro _
      rfl
    · exact hWrites.imp_right fun ⟨hPacket, hEmpty⟩ => ⟨hPacket, by rw [hEmpty]; rfl⟩

end Conn

end Utp
