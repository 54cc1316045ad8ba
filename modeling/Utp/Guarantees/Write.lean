import Utp.Invariant.Written
import Utp.Guarantees.Teardown

/-! `utp_writev` adds the bytes it reports to the end of the outgoing queue, and
nothing else. -/
namespace Utp

open Wrapping

namespace Conn

variable (env : Env)

/-- The assertions at the head of a round of `write_outgoing_packet`. -/
def beginRound (flags : Nat) (s : Conn) : Conn :=
  (s.check 1011 (s.snd.curWindowPackets < outgoingBufferMaxSize)).check 1012 (flags == stData || flags == stFin)

/-- The bytes that a round adds to a packet that has room. -/
def roundBytes (payload packetSize : Nat) (pkt : OutgoingPacket) : Nat :=
  min (payload + pkt.payload) (max packetSize pkt.payload) - pkt.payload

/-- The loop of `write_outgoing_packet` ends, with the buffers and the socket it leaves.
In every round the buffers have the bytes that are needed. -/
inductive WriteEnds (flags packetSize : Nat) :
    Nat → List (List UInt8) → Conn → List (List UInt8) × Conn → Prop where
  | append (payload : Nat) (iov : List (List UInt8)) (s : Conn)
      (hFull : (s.beginRound flags).fillable payload packetSize = none)
      (hNeeded : (takeIov payload iov).1.length = payload) :
      WriteEnds flags packetSize payload iov s
        ((takeIov payload iov).2, (s.beginRound flags).appendPacket env flags (takeIov payload iov).1)
  | last (payload : Nat) (iov : List (List UInt8)) (s : Conn) (pkt : OutgoingPacket)
      (hRoom : (s.beginRound flags).fillable payload packetSize = some pkt)
      (hNeeded : (takeIov (roundBytes payload packetSize pkt) iov).1.length = roundBytes payload packetSize pkt)
      (hDone : payload - roundBytes payload packetSize pkt = 0) :
      WriteEnds flags packetSize payload iov s
        ((takeIov (roundBytes payload packetSize pkt) iov).2, (s.beginRound flags).fillPacket env flags pkt
          (takeIov (roundBytes payload packetSize pkt) iov).1)
  | next (payload : Nat) (iov : List (List UInt8)) (s : Conn) (pkt : OutgoingPacket)
      (r : List (List UInt8) × Conn)
      (hRoom : (s.beginRound flags).fillable payload packetSize = some pkt)
      (hNeeded : (takeIov (roundBytes payload packetSize pkt) iov).1.length = roundBytes payload packetSize pkt)
      (hMore : payload - roundBytes payload packetSize pkt ≠ 0)
      (hRest : WriteEnds flags packetSize (payload - roundBytes payload packetSize pkt)
        (takeIov (roundBytes payload packetSize pkt) iov).2 ((s.beginRound flags).fillPacket env flags pkt
          (takeIov (roundBytes payload packetSize pkt) iov).1) r) :
      WriteEnds flags packetSize payload iov s r

/-- The send loop of `utp_writev` ends, and so does every `write_outgoing_packet` in it. -/
inductive WritevEnds (packetSize : Nat) : Nat → Nat → List (List UInt8) → Conn → Nat × Conn → Prop where
  | full (bytes sent : Nat) (iov : List (List UInt8)) (s : Conn)
      (hFull : s.isFull (min bytes packetSize : Nat) = true) :
      WritevEnds packetSize bytes sent iov s (sent, (s.noteFull (min bytes packetSize : Nat)).markFull)
  | last (bytes sent : Nat) (iov : List (List UInt8)) (s : Conn) (r : List (List UInt8) × Conn)
      (hRoom : s.isFull (min bytes packetSize : Nat) = false)
      (hWrite : WriteEnds env stData s.startTimer.getPacketSize (min bytes packetSize) iov s.startTimer r)
      (hDone : min (bytes - min bytes packetSize) packetSize = 0) :
      WritevEnds packetSize bytes sent iov s (sent + min bytes packetSize, r.2.flushPackets env)
  | next (bytes sent : Nat) (iov : List (List UInt8)) (s : Conn) (r : List (List UInt8) × Conn) (final : Nat × Conn)
      (hRoom : s.isFull (min bytes packetSize : Nat) = false)
      (hWrite : WriteEnds env stData s.startTimer.getPacketSize (min bytes packetSize) iov s.startTimer r)
      (hMore : min (bytes - min bytes packetSize) packetSize ≠ 0)
      (hRest : WritevEnds packetSize (bytes - min bytes packetSize) (sent + min bytes packetSize) r.1
        (r.2.flushPackets env) final) :
      WritevEnds packetSize bytes sent iov s final

variable {env} {packetSize : Nat} {s : Conn} {limit : Nat → Prop}

theorem Writing.beginRound (h : Writing packetSize s) : s.beginRound stData = s := by
  have hRoom : s.check 1011 (s.snd.curWindowPackets < outgoingBufferMaxSize) = s :=
    check_true 1011 s (decide_eq_true (h.room.trans (by decide)))
  unfold Conn.beginRound
  rw [hRoom]
  rfl

/-- A packet that has room takes at least one byte, and is full at most. -/
theorem roundBytes_bounds {payload : Nat} {pkt : OutgoingPacket} (hPayload : payload ≠ 0)
    (hLess : pkt.payload < packetSize) : 0 < roundBytes payload packetSize pkt ∧
      roundBytes payload packetSize pkt ≤ payload ∧ pkt.payload + roundBytes payload packetSize pkt ≤ packetSize := by
  unfold roundBytes
  omega

theorem Writing.fill (h : Writing packetSize s) {payload : Nat} {pkt : OutgoingPacket} {bytes : List UInt8}
    (hFill : s.fillable payload packetSize = some pkt) (hLength : pkt.payload + bytes.length ≤ packetSize) :
    Writing packetSize (s.fillPacket env stData pkt bytes) := by
  obtain ⟨hCount, hGet, hUnsent, -⟩ := fillable_some hFill
  have hSize : s.mtu.last ≠ 0 → pkt.payload + bytes.length ≤ s.getPacketSize := by
    intro hNonzero
    rw [← h.size hNonzero]
    exact hLength
  have hStep : SendPath env .write s (s.fillPacket env stData pkt bytes) :=
    (Queueing.fill s pkt bytes h.state h.fin hCount hGet hUnsent hSize rfl).path
  obtain ⟨header, -, -, -, hView⟩ := view_fillPacket env stData pkt bytes s
  exact h.of_frame (writeFrame_fillPacket env stData pkt bytes s) (h.core.sendPath hStep)
    (congrArg View.curWindowPackets hView)

theorem payload_of_fillable {payload : Nat} {pkt : OutgoingPacket} (h : s.fillable payload packetSize = some pkt) :
    payload ≠ 0 := by
  rintro rfl
  exact absurd h (by simp [fillable])

theorem length_takeIov_of_le {needed : Nat} {iov : List (List UInt8)} (h : needed ≤ iov.flatten.length) :
    (takeIov needed iov).1.length = needed := by
  rw [(takeIov_spec needed iov).1, List.length_take]
  omega

/-- The loop of `write_outgoing_packet`, when the buffers have the bytes it asks for. -/
theorem writeLoop_spec (fuel payload : Nat) (iov : List (List UInt8)) (h : Writing packetSize s)
    (hBytes : payload ≤ iov.flatten.length) (hFuel : payload < fuel) (hCreate : ∀ n ≤ payload, limit n)
    (hExtend : ∀ n ≤ packetSize, limit n) :
    WriteEnds env stData packetSize payload iov s (s.writeLoop env stData packetSize fuel payload iov) ∧
      Written limit (iov.flatten.take payload) s.queue
        (s.writeLoop env stData packetSize fuel payload iov).2.queue ∧
      (s.writeLoop env stData packetSize fuel payload iov).1.flatten = iov.flatten.drop payload := by
  induction fuel generalizing payload iov s with
  | zero => omega
  | succ fuel ih =>
      have hBegin := h.beginRound
      unfold writeLoop
      dsimp only
      rw [show (s.check 1011 (s.snd.curWindowPackets < outgoingBufferMaxSize)).check 1012
        (stData == stData || stData == stFin) = s from hBegin]
      cases hFill : s.fillable payload packetSize with
      | none =>
          obtain ⟨hTaken, hLeft⟩ := takeIov_spec payload iov
          have hNeeded := length_takeIov_of_le hBytes
          have hCheck : s.check 1078 ((takeIov payload iov).1.length == payload) = s :=
            check_true 1078 s (by rw [hNeeded]; exact beq_self_eq_true payload)
          dsimp only
          rw [hCheck]
          refine ⟨?_, ?_, hLeft⟩
          · have hEnds : WriteEnds env stData packetSize payload iov s _ :=
              .append payload iov s (hBegin.symm ▸ hFill) hNeeded
            rwa [hBegin] at hEnds
          · rw [← hTaken]
            refine h.core.written_append h.room.le ?_
            rw [hNeeded]
            exact hCreate payload le_rfl
      | some pkt =>
          obtain ⟨hCount, hGet, hUnsent, hLess⟩ := fillable_some hFill
          obtain ⟨hPos, hLe, hTop⟩ := roundBytes_bounds (payload_of_fillable hFill) hLess
          dsimp only
          rw [show min (payload + pkt.payload) (max packetSize pkt.payload) - pkt.payload =
            roundBytes payload packetSize pkt from rfl]
          have hEnough : roundBytes payload packetSize pkt ≤ iov.flatten.length := hLe.trans hBytes
          obtain ⟨hTaken, hLeft⟩ := takeIov_spec (roundBytes payload packetSize pkt) iov
          have hNeeded := length_takeIov_of_le hEnough
          have hCheck : s.check 1078 ((takeIov (roundBytes payload packetSize pkt) iov).1.length ==
              roundBytes payload packetSize pkt) = s :=
            check_true 1078 s (by rw [hNeeded]; exact beq_self_eq_true _)
          rw [hCheck]
          have hNext : Writing packetSize (s.fillPacket env stData pkt
              (takeIov (roundBytes payload packetSize pkt) iov).1) :=
            h.fill hFill (hNeeded.symm ▸ hTop)
          have hFilled : Written limit (iov.flatten.take (roundBytes payload packetSize pkt)) s.queue
              (s.fillPacket env stData pkt (takeIov (roundBytes payload packetSize pkt) iov).1).queue := by
            rw [← hTaken]
            refine h.core.written_fill hCount hGet hUnsent (hExtend _ ?_)
            rw [hNeeded]
            exact hTop
          by_cases hMore : payload - roundBytes payload packetSize pkt ≠ 0
          · rw [if_pos hMore]
            have hDropped : payload - roundBytes payload packetSize pkt ≤
                (takeIov (roundBytes payload packetSize pkt) iov).2.flatten.length := by
              rw [hLeft, List.length_drop]
              omega
            obtain ⟨hEnds, hWritten, hRest⟩ := ih _ _ hNext hDropped (by omega)
              (fun n hn => hCreate n (by omega))
            refine ⟨?_, ?_, ?_⟩
            · refine .next payload iov s pkt _ (hBegin.symm ▸ hFill) hNeeded hMore ?_
              rw [hBegin]
              exact hEnds
            · have hSplit : iov.flatten.take payload = iov.flatten.take (roundBytes payload packetSize pkt) ++
                  (iov.flatten.drop (roundBytes payload packetSize pkt)).take
                    (payload - roundBytes payload packetSize pkt) := by
                rw [← List.take_add, Nat.add_sub_cancel' hLe]
              rw [hSplit]
              rw [hLeft] at hWritten
              exact hFilled.trans hWritten
            · rw [hRest, hLeft, List.drop_drop, Nat.add_sub_cancel' hLe]
          · rw [if_neg hMore]
            have hAll : roundBytes payload packetSize pkt = payload := by omega
            refine ⟨?_, ?_, ?_⟩
            · have hEnds : WriteEnds env stData packetSize payload iov s _ :=
                .last payload iov s pkt (hBegin.symm ▸ hFill) hNeeded (not_not.1 hMore)
              rwa [hBegin] at hEnds
            · rw [hAll] at hFilled
              rw [hAll]
              exact hFilled
            · rw [hLeft, hAll]

theorem Writing.startTimer (env : Env) (h : Writing packetSize s) : Writing packetSize s.startTimer ∧
    s.startTimer.queue = s.queue := by
  have hQuiet : Quiet env .call s _ := .startTimer s
  have hView := hQuiet.view h.core.view.bounds.ackNr_lt
  exact ⟨h.of_frame (writeFrame_startTimer s) (h.core.quiet hQuiet) (congrArg View.curWindowPackets hView),
    queue_of_view hView⟩

/-- One call of `write_outgoing_packet` by `utp_writev`. -/
theorem writeOutgoingPacket_spec {last payload : Nat} (iov : List (List UInt8)) (h : Writing packetSize s)
    (hLast : s.mtu.last = last) (hPayload : payload ≤ packetSize) (hBytes : payload ≤ iov.flatten.length) :
    ∃ r, WriteEnds env stData s.startTimer.getPacketSize payload iov s.startTimer r ∧
      s.writeOutgoingPacket env payload stData iov = (r.1, r.2.flushPackets env) ∧
      r.1.flatten = iov.flatten.drop payload ∧
      Written (fun size => last ≠ 0 → size ≤ packetSize) (iov.flatten.take payload) s.queue
        (r.2.flushPackets env).queue := by
  obtain ⟨hTimer, hQueue⟩ := h.startTimer env
  have hSame : s.startTimer.mtu.last = last :=
    (congrArg WriteFrame.mtuLast (writeFrame_startTimer s)).trans hLast
  have hWriting : Writing s.startTimer.getPacketSize s.startTimer :=
    ⟨hTimer.core, hTimer.state, hTimer.fin, hTimer.room, fun _ => rfl⟩
  have hExtend : ∀ n ≤ s.startTimer.getPacketSize, last ≠ 0 → n ≤ packetSize := by
    intro n hn hNonzero
    rw [← hSame] at hNonzero
    rwa [hTimer.size hNonzero]
  obtain ⟨hEnds, hWritten, hLeft⟩ := writeLoop_spec (payload + 1) payload iov hWriting hBytes (Nat.lt_succ_self _)
    (fun n hn _ => hn.trans hPayload) hExtend
  have hLow : s.startTimer.mtu.last ≠ 0 → payload ≤ s.startTimer.getPacketSize := by
    intro hNonzero
    rw [← hTimer.size hNonzero]
    exact hPayload
  have hPath := path_writeLoop env .write (payload + 1) payload iov hWriting hLow (.inl rfl)
  refine ⟨_, hEnds, rfl, hLeft, ?_⟩
  rw [hQueue] at hWritten
  generalize s.startTimer.writeLoop env stData s.startTimer.getPacketSize (payload + 1) payload iov = r at hPath hWritten ⊢
  have hFlush : Written (fun size => last ≠ 0 → size ≤ packetSize) [] r.2.queue (r.2.flushPackets env).queue :=
    (hTimer.core.sendPath hPath).written_flush r.2.snd.curWindowPackets
  have hBoth := hWritten.trans hFlush
  rwa [List.append_nil] at hBoth

/-- The send loop of `utp_writev`, which stops when the window is full. -/
theorem writevLoop_spec (env : Env) {last : Nat} (fuel bytes sent : Nat) (iov : List (List UInt8)) (h : Core s)
    (hState : s.state = .connected) (hFin : s.finSent = false)
    (hSize : s.mtu.last ≠ 0 → packetSize = s.getPacketSize) (hBytes : iov.flatten.length = bytes)
    (hFuel : bytes < fuel) (hLast : s.mtu.last = last) :
    WritevEnds env packetSize bytes sent iov s (s.writevLoop env packetSize fuel bytes sent iov) ∧
      ∃ n ≤ bytes, (s.writevLoop env packetSize fuel bytes sent iov).1 = sent + n ∧
        Written (fun size => last ≠ 0 → size ≤ packetSize) (iov.flatten.take n) s.queue
          (s.writevLoop env packetSize fuel bytes sent iov).2.queue := by
  induction fuel generalizing bytes sent iov s with
  | zero => omega
  | succ fuel ih =>
      unfold writevLoop
      dsimp only
      by_cases hFull : s.isFull (min bytes packetSize : Nat) = true
      · rw [if_pos hFull, queue_markFull, queue_noteFull]
        exact ⟨.full bytes sent iov s hFull, 0, Nat.zero_le _, rfl, .refl _⟩
      · rw [if_neg hFull]
        have hWriting : Writing packetSize s := ⟨h, hState, hFin, room_of_not_full hFull, hSize⟩
        have hEnough : min bytes packetSize ≤ iov.flatten.length := hBytes.symm ▸ min_le_left _ _
        obtain ⟨r, hEnds, hWrite, hLeft, hWritten⟩ : ∃ r, WriteEnds env _ _ _ _ _ r ∧ _ :=
          writeOutgoingPacket_spec iov hWriting hLast (min_le_right _ _) hEnough
        rw [hWrite]
        by_cases hDone : min (bytes - min bytes packetSize) packetSize = 0
        · rw [if_pos hDone]
          exact ⟨.last bytes sent iov s r (eq_false_of_ne_true hFull) hEnds hDone, _, min_le_left _ _, rfl, hWritten⟩
        · rw [if_neg hDone]
          have hFrame := writeFrame_writeOutgoingPacket env (min bytes packetSize) stData iov s
          have hPath : SendPath env .write s _ := path_writeOutgoingPacket env .write iov hWriting
            (fun _ => min_le_right bytes packetSize) (.inl rfl)
          rw [hWrite] at hFrame hPath
          have hSame : (r.2.flushPackets env).mtu.last = s.mtu.last := congrArg WriteFrame.mtuLast hFrame
          have hSizeNext : (r.2.flushPackets env).mtu.last ≠ 0 → packetSize = (r.2.flushPackets env).getPacketSize := by
            intro hNonzero
            rw [hSame] at hNonzero
            rw [getPacketSize_eq hSame hNonzero]
            exact hSize hNonzero
          have hBytesNext : r.1.flatten.length = bytes - min bytes packetSize := by
            rw [hLeft, List.length_drop, hBytes]
          obtain ⟨hRest, n, hn, hSent, hMore⟩ := ih (bytes - min bytes packetSize) (sent + min bytes packetSize) r.1
            (h.sendPath hPath) ((congrArg WriteFrame.state hFrame).trans hState)
            ((congrArg WriteFrame.finSent hFrame).trans hFin) hSizeNext hBytesNext (by omega) (hSame.trans hLast)
          refine ⟨.next bytes sent iov s r _ (eq_false_of_ne_true hFull) hEnds hDone hRest,
            min bytes packetSize + n, by omega, by rw [hSent, Nat.add_assoc], ?_⟩
          rw [List.take_add]
          rw [hLeft] at hMore
          exact hWritten.trans hMore

end Conn

namespace Conn

theorem utpWritev_spec {env : Env} {s : Conn} {limit : Nat → Prop} (h : Core s) (iovecs : List (List UInt8)) (n : Nat)
    (hReturns : (s.utpWritev env iovecs).1 = n)
    (hLimit : s.state = .connected → ∀ size, (s.mtu.last ≠ 0 → size ≤ s.getPacketSize) → limit size) :
    n ≤ (iovecs.take 1024).flatten.length ∧
    Written limit ((iovecs.take 1024).flatten.take n) s.queue (s.utpWritev env iovecs).2.queue ∧
    (s.state = .connected → s.finSent = false →
      WritevEnds env s.getPacketSize (iovecs.take 1024).flatten.length 0 (iovecs.take 1024) (s.updateCurrentMs env)
        (n, (s.utpWritev env iovecs).2)) := by
  unfold utpWritev at hReturns ⊢
  split_ifs at hReturns ⊢ with hEmpty hState hFin
  · exact absurd hReturns (by omega)
  · obtain rfl : n = 0 := by
      simp only at hReturns
      omega
    exact ⟨Nat.zero_le _, .refl _, fun hUp => absurd hUp hState⟩
  · obtain rfl : n = 0 := by
      simp only at hReturns
      omega
    exact ⟨Nat.zero_le _, .refl _, fun _ hOpen => absurd hFin (by rw [hOpen]; nofun)⟩
  · have hUp : s.state = .connected := of_not_not hState
    have hClock : SendPath env .call s (s.updateCurrentMs env) := (Quiet.clock s).path
    have hLoop := writevLoop_spec env (s := s.updateCurrentMs env) ((iovecs.take 1024).flatten.length + 1)
      (iovecs.take 1024).flatten.length 0 (iovecs.take 1024) (h.sendPath hClock) hUp (eq_false_of_ne_true hFin)
      (fun _ => rfl) rfl (Nat.lt_succ_self _) rfl
    dsimp only at hReturns ⊢
    generalize (s.updateCurrentMs env).writevLoop env _ _ _ _ _ = r at hReturns hLoop ⊢
    obtain ⟨hEnds, k, hk, hSent, hWritten⟩ := hLoop
    obtain rfl : n = k := by omega
    refine ⟨hk, hWritten.mono (hLimit hUp), fun _ _ => ?_⟩
    rw [show (n, r.2) = r from Prod.ext (by omega) rfl]
    exact hEnds

end Conn

/-- A `utp_writev` that returns `n` adds the first `n` bytes of its buffers to the queue. What
was sent stays as it was, and new and extended packets are within the packet size, unless the
interface has reported an MTU of 0. All loops end, with the bytes they need at hand. -/
theorem writev_preserves_stream (env : Env) (c : Context) (hReach : c.Reachable env) (p : Nat) (sock : Socket)
    (hSock : c.sockets p = some sock) (iovecs : List (List UInt8)) (n : Nat)
    (hReturns : ((c.enter p sock).utpWritev env iovecs).1 = n) :
    n ≤ (iovecs.take 1024).flatten.length ∧
    Written (fun size => ReadsSome (c.logs p) → size ≤ (c.enter p sock).getPacketSize)
      ((iovecs.take 1024).flatten.take n) (c.enter p sock).queue ((c.enter p sock).utpWritev env iovecs).2.queue ∧
    (∀ pkt ∈ ((c.enter p sock).utpWritev env iovecs).2.queue, pkt.payload = pkt.body.length) ∧
    (sock.state = .connected → sock.finSent = false →
      Conn.WritevEnds env (c.enter p sock).getPacketSize (iovecs.take 1024).flatten.length 0 (iovecs.take 1024)
        ((c.enter p sock).updateCurrentMs env) (n, ((c.enter p sock).utpWritev env iovecs).2)) := by
  have hCore : Core (c.enter p sock) := hReach.ok.core p sock hSock
  have hEnd : Core ((c.enter p sock).utpWritev env iovecs).2 :=
    hCore.sendPath (Conn.path_utpWritev env .write iovecs hCore (.inl rfl))
  have hLimit : sock.state = .connected → ∀ size, (sock.mtu.last ≠ 0 → size ≤ (c.enter p sock).getPacketSize) →
      ReadsSome (c.logs p) → size ≤ (c.enter p sock).getPacketSize := by
    intro hState size hSize hReads
    have hLive : sock.state ≠ .uninitialized := by
      rw [hState]
      nofun
    have hNotes : ReadsSome (c.enter p sock).search.notes :=
      fun before after hMem => hReads before after (List.mem_filter.1 hMem).1
    have hNonzero := nonzero_of_reachable hReach ⟨hSock, hLive⟩ hNotes
    exact hSize hNonzero.last.ne'
  obtain ⟨hLe, hWritten, hEnds⟩ := Conn.utpWritev_spec hCore iovecs n hReturns hLimit
  exact ⟨hLe, hWritten, fun pkt hMem => hEnd.queue_payload hMem, hEnds⟩

/-- Four bytes in two buffers, with an empty one between them, on a connection that is up. The MTU
was read as 1500, and the one packet that holds the bytes is within the packet size. -/
theorem writev_preserves_stream_up : ∃ (c : Context) (sock : Socket), c.Reachable steadyEnv ∧
    c.sockets 0 = some sock ∧ ((c.enter 0 sock).utpWritev steadyEnv [[1, 2, 3], [], [4]]).1 = 4 ∧
      ((c.enter 0 sock).utpWritev steadyEnv [[1, 2, 3], [], [4]]).2.queue.flatMap (·.body) =
        (c.enter 0 sock).queue.flatMap (·.body) ++ [1, 2, 3, 4] ∧
      ReadsSome (c.logs 0) ∧ ∀ pkt ∈ ((c.enter 0 sock).utpWritev steadyEnv [[1, 2, 3], [], [4]]).2.queue,
        pkt.payload ≤ (c.enter 0 sock).getPacketSize := by
  have hRun : ((utpInit true true).run steadyEnv connectedOps).any (fun c =>
      ((c.sockets 0).any fun sock => ((c.enter 0 sock).utpWritev steadyEnv [[1, 2, 3], [], [4]]).1 == 4 &&
        (c.enter 0 sock).queue.isEmpty) && readsMtu 1500 (c.logs 0)) = true := by
    decide +kernel
  obtain ⟨c, hReach, hOk⟩ := Context.Reachable.exists_of_run hRun
  obtain ⟨hUp, hMtu⟩ := Bool.and_eq_true_iff.1 hOk
  obtain ⟨sock, hSock, hWrites⟩ := (Option.any_eq_true _ _).1 hUp
  rw [Bool.and_eq_true, beq_iff_eq, List.isEmpty_iff] at hWrites
  have hReads : ReadsSome (c.logs 0) := fun before after hMem =>
    (by decide : 0 < 1500).trans_eq (ReadsMtu.of_all hMtu before after hMem).symm
  obtain ⟨-, hWritten, -⟩ :=
    writev_preserves_stream steadyEnv c hReach 0 sock hSock [[1, 2, 3], [], [4]] 4 hWrites.1
  refine ⟨c, sock, hReach, hSock, hWrites.1, hWritten.stream, hReads, fun pkt hMem => ?_⟩
  obtain ⟨front, new, hQueue, hKept, hNew⟩ := hWritten.packets
  rw [hWrites.2, List.forall₂_nil_left_iff] at hKept
  rw [hQueue, hKept] at hMem
  exact hNew pkt hMem hReads

end Utp
