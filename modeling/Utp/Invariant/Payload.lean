import Utp.Invariant.Written
import Utp.Invariant.Shown
import Utp.Transition.Offer

/-! The stream that is written to a socket. The packets that a socket fills and sends are part of what
it offers to its peer, so that whatever leaves the offer alone, or adds only acks to it, writes
nothing: of all the functions of a socket only `utp_writev` adds to the stream. -/
namespace Utp

open Wrapping

/-- The bytes that are put into a packet. -/
def Event.written : Event → List UInt8
  | .queued _ _ bytes => bytes
  | .extended bytes => bytes
  | _ => []

/-- The stream that was written to a socket. -/
def writtenOf (log : List Event) : List UInt8 := log.flatMap Event.written

/-- The stream of a record is read off from its events one by one. -/
@[simp] theorem writtenOf_append (log more : List Event) :
    writtenOf (log ++ more) = writtenOf log ++ writtenOf more := List.flatMap_append

@[simp] theorem writtenOf_nil : writtenOf [] = [] := rfl

/-- The first event writes first. -/
@[simp] theorem writtenOf_cons (e : Event) (log : List Event) : writtenOf (e :: log) = e.written ++ writtenOf log :=
  List.flatMap_cons

/-- The stream can be read off the packets that were filled. -/
theorem writtenOf_filter (log : List Event) : writtenOf (log.filter Event.isOffer) = writtenOf log := by
  induction log with
  | nil => rfl
  | cons e log ih =>
      rw [List.filter_cons, writtenOf_cons]
      split_ifs with hOffer
      · rw [writtenOf_cons, ih]
      · have hNone : e.written = [] := by
          cases e <;> first | rfl | exact absurd rfl hOffer
        rw [ih, hNone, List.nil_append]

section

variable {env : Env} {cause : Cause} {s s' : Conn}

/-- The stream of a socket can be read off from its offer, for which every transition has said what it
adds. -/
theorem Conn.writtenOf_notes (s : Conn) : writtenOf s.offer.notes = writtenOf s.log := writtenOf_filter s.log

/-- A function that keeps the offer writes nothing. -/
theorem Conn.written_of_offer (h : s'.offer = s.offer) : writtenOf s'.log = writtenOf s.log := by
  rw [← s'.writtenOf_notes, ← s.writtenOf_notes, h]

/-- An event of the offer adds its bytes to the stream; looking at the window adds none. -/
theorem Conn.written_of_note {window : Nat} {e : Event} (h : s'.offer = (s.offer.refresh window).note e) :
    writtenOf s'.log = writtenOf s.log ++ e.written := by
  rw [← s'.writtenOf_notes, ← s.writtenOf_notes, h]
  simp [Offer.note, Offer.refresh, Event.written]

/-- Acks write nothing, by induction on their number. -/
theorem AckOffers.written {x y : Offer} (h : AckOffers x y) : writtenOf y.notes = writtenOf x.notes := by
  induction h with
  | refl => rfl
  | tail _ hStep ih =>
      cases hStep with
      | ack window w hType hSize => simpa [Offer.note, Offer.refresh, Event.written] using ih

/-- Nor does a function that sends acks and makes no other offer. -/
theorem Conn.written_of_acks (h : AckOffers s.offer s'.offer) : writtenOf s'.log = writtenOf s.log := by
  rw [← s'.writtenOf_notes, ← s.writtenOf_notes, h.written]

/-- Queueing a packet writes no bytes, but for a call of `utp_writev`. -/
theorem Queueing.written (h : Queueing env cause s s') (hWrite : cause ≠ .write) :
    writtenOf s'.log = writtenOf s.log := by
  cases h with
  | append bytes hState hFin hCount hLength hWrites =>
      obtain ⟨window, hOffer⟩ := Conn.offer_appendPacket env stData bytes s
      rw [Conn.written_of_note hOffer, (hWrites.resolve_left hWrite).2]
      exact List.append_nil _
  | appendFin hState hFin hAsked =>
      obtain ⟨window, hOffer⟩ := Conn.offer_appendPacket env stFin [] { s with finSent := true }
      exact (Conn.written_of_note hOffer).trans (List.append_nil _)
  | fill pkt bytes hState hFin hCount hGet hUnsent hLength hWrites => exact absurd hWrites hWrite
  | send v =>
      cases hGet : s.snd.outbuf.get v with
      | none => rw [Conn.sendPacket_none env hGet]
      | some pkt =>
          obtain ⟨window, w, -, -, -, -, hOffer⟩ := Conn.offer_sendPacket env hGet
          rw [← Conn.writtenOf_notes, ← s.writtenOf_notes, hOffer]
          simp [Offer.note, Event.written]
  | acked _ r hCause hRun hFront => exact Conn.written_of_offer (AckStep.offer_run hRun)
  | sacked r mask bits hCause hMask hBits hSet hWindow hSent =>
      refine (writtenOf_append _ _).trans ?_
      rw [Conn.written_of_offer (Conn.offer_ackPacket env _ s)]
      exact List.append_nil _
  | lost i => exact Conn.written_of_offer (Conn.offer_losePacket i s)
  | advance r =>
      unfold Conn.updateFastResend
      split_ifs <;> rfl
  | retried => rfl
  | resent v => rfl

/-- A SYN has no payload. -/
theorem Setup.written (h : Setup env cause s s') : writtenOf s'.log = writtenOf s.log := by
  cases h with
  | initialise addr connSeed connIdRecv connIdSend hState =>
      exact Conn.written_of_offer (Conn.offer_initializeSocket env addr connSeed connIdRecv connIdSend s)
  | dial hState hCount hPointer =>
      obtain ⟨window, hOffer⟩ := Conn.offer_startConnect env s
      have hQueued : (s.startConnect env).queueSyn.offer = (s.offer.refresh window).note _ :=
        (Conn.offer_enqueue _ _).trans (by rw [hOffer])
      exact (Conn.written_of_note hQueued).trans (List.append_nil _)
  | accept d hCause hState hCount => exact Conn.written_of_offer (Conn.offer_setState .synRecv _)

/-- Only `utp_writev` adds to the stream. -/
theorem Trans.written (h : Trans env cause s s') (hWrite : cause ≠ .write) : writtenOf s'.log = writtenOf s.log := by
  cases h with
  | setup hSetup => exact hSetup.written
  | sending hSend =>
      cases hSend with
      | quiet hQuiet => exact Conn.written_of_acks hQuiet.offer
      | queueing hQueue => exact hQueue.written hWrite
      | moving hMove => exact Conn.written_of_offer hMove.offer
  | receiving hReceive => exact Conn.written_of_acks hReceive.offer

/-- No run writes that is not one of `utp_writev`. The empty packet that follows the SYN-ACK is no
exception, since it has no bytes. -/
theorem Path.written (h : Path env cause s s') (hWrite : cause ≠ .write) : writtenOf s'.log = writtenOf s.log := by
  induction h with
  | refl => rfl
  | tail _ hStep ih => exact (hStep.written hWrite).trans ih

end

namespace Conn

variable (env : Env)

@[simp] theorem written_check (line : Nat) (ok : Bool) (s : Conn) : writtenOf (s.check line ok).log = writtenOf s.log :=
  written_of_offer (offer_check line ok s)

/-- An extension writes the bytes that it adds. -/
@[simp] theorem written_fillPacket (flags : Nat) (pkt : OutgoingPacket) (bytes : List UInt8) (s : Conn) :
    writtenOf (s.fillPacket env flags pkt bytes).log = writtenOf s.log ++ bytes := by
  obtain ⟨window, hOffer⟩ := offer_fillPacket env flags pkt bytes s
  exact written_of_note hOffer

/-- A new packet writes its bytes. -/
@[simp] theorem written_appendPacket (flags : Nat) (bytes : List UInt8) (s : Conn) :
    writtenOf (s.appendPacket env flags bytes).log = writtenOf s.log ++ bytes := by
  obtain ⟨window, hOffer⟩ := offer_appendPacket env flags bytes s
  exact written_of_note hOffer

/-- The timer writes nothing. -/
theorem written_startTimer (s : Conn) : writtenOf s.startTimer.log = writtenOf s.log :=
  written_of_offer (offer_startTimer s)

/-- A flush sends what was written before. -/
theorem written_flushPackets (s : Conn) : writtenOf (s.flushPackets env).log = writtenOf s.log :=
  (path_flushPackets env .call s).path.written nofun

/-- Finding the window full is remembered in the socket and not in the log. -/
theorem log_noteFull (bytes : Int) (s : Conn) : (s.noteFull bytes).log = s.log := by
  unfold noteFull
  split_ifs <;> rfl

/-- Marking the connection as full writes nothing. -/
theorem written_markFull (s : Conn) : writtenOf s.markFull.log = writtenOf s.log := by
  unfold markFull
  split_ifs
  · exact (written_of_offer (offer_setState .connectedFull _)).trans (by rw [log_noteFull])
  · rfl

/-- A packet that has room takes at least one byte, and no more than there are. -/
theorem added_bounds {payload packetSize held : Nat} (hPayload : payload ≠ 0) (hRoom : held < packetSize) :
    0 < min (payload + held) (max packetSize held) - held ∧
      min (payload + held) (max packetSize held) - held ≤ payload := by
  omega

/-- A round of `write_outgoing_packet` and the ones after it put all the bytes into packets. -/
theorem written_writeLoop (flags packetSize fuel payload : Nat) (iov : List (List UInt8)) (s : Conn) (hFuel : payload < fuel) :
    writtenOf (s.writeLoop env flags packetSize fuel payload iov).2.log =
        writtenOf s.log ++ iov.flatten.take payload ∧
      (s.writeLoop env flags packetSize fuel payload iov).1.flatten = iov.flatten.drop payload := by
  induction fuel generalizing payload iov s with
  | zero => omega
  | succ fuel ih =>
      rw [writeLoop]
      dsimp only
      generalize hChecked : (s.check 1011 _).check 1012 _ = t
      have hSame : writtenOf t.log = writtenOf s.log := by
        rw [← hChecked]
        simp
      cases hFill : t.fillable payload packetSize with
      | none => simp [hSame, takeIov_spec]
      | some pkt =>
          have hBounds : 0 < min (payload + pkt.payload) (max packetSize pkt.payload) - pkt.payload ∧
              min (payload + pkt.payload) (max packetSize pkt.payload) - pkt.payload ≤ payload := by
            unfold fillable at hFill
            split_ifs at hFill with hSome
            simp only [Bool.and_eq_true, decide_eq_true_eq] at hSome
            have hRoom := (Option.filter_eq_some_iff.1 hFill).2
            simp only [Bool.and_eq_true, decide_eq_true_eq] at hRoom
            exact added_bounds hSome.1 hRoom.2
          dsimp only
          generalize min (payload + pkt.payload) (max packetSize pkt.payload) - pkt.payload = added at hBounds ⊢
          have hSpec := takeIov_spec added iov
          split_ifs with hMore
          · obtain ⟨hWritten, hLeft⟩ := ih (payload - added) (takeIov added iov).2
              ((t.check 1078 ((takeIov added iov).1.length == added)).fillPacket env flags pkt (takeIov added iov).1) (by omega)
            have hSplit : payload = added + (payload - added) := by omega
            rw [hWritten, hLeft, hSpec.2, written_fillPacket, written_check, hSame, hSpec.1]
            constructor
            · conv_rhs => rw [hSplit, List.take_add]
              rw [List.append_assoc]
            · rw [List.drop_drop, ← hSplit]
          · have hAll : added = payload := by omega
            rw [written_fillPacket, written_check, hSame, hSpec.1, hSpec.2, hAll]
            exact ⟨rfl, rfl⟩

/-- One packet of a write takes its bytes from the front of the vectors, and leaves the rest to the next
one. -/
theorem written_writeOutgoingPacket (payload flags : Nat) (iov : List (List UInt8)) (s : Conn) :
    writtenOf (s.writeOutgoingPacket env payload flags iov).2.log = writtenOf s.log ++ iov.flatten.take payload ∧
      (s.writeOutgoingPacket env payload flags iov).1.flatten = iov.flatten.drop payload := by
  unfold writeOutgoingPacket
  dsimp only
  rw [written_flushPackets]
  obtain ⟨hWritten, hLeft⟩ := written_writeLoop env flags s.startTimer.getPacketSize (payload + 1) payload iov s.startTimer
    (Nat.lt_succ_self _)
  exact ⟨hWritten.trans (by rw [written_startTimer]), hLeft⟩

/-- The loop of `utp_writev` reports the bytes that it has put into packets. -/
theorem written_writevLoop (packetSize fuel bytes sent : Nat) (iov : List (List UInt8)) (s : Conn) (hFuel : bytes < fuel) :
    ∃ n, (s.writevLoop env packetSize fuel bytes sent iov).1 = sent + n ∧
      writtenOf (s.writevLoop env packetSize fuel bytes sent iov).2.log = writtenOf s.log ++ iov.flatten.take n := by
  induction fuel generalizing bytes sent iov s with
  | zero => omega
  | succ fuel ih =>
      obtain ⟨hWritten, hLeft⟩ := written_writeOutgoingPacket env (min bytes packetSize) stData iov s
      rw [writevLoop]
      dsimp only
      split_ifs with hFull hDone
      · exact ⟨0, rfl, by rw [written_markFull, log_noteFull, List.take_zero, List.append_nil]⟩
      · exact ⟨min bytes packetSize, rfl, hWritten⟩
      · obtain ⟨n, hSent, hMore⟩ := ih (bytes - min bytes packetSize) (sent + min bytes packetSize)
          (s.writeOutgoingPacket env (min bytes packetSize) stData iov).1
          (s.writeOutgoingPacket env (min bytes packetSize) stData iov).2 (by omega)
        refine ⟨min bytes packetSize + n, by omega, ?_⟩
        rw [hMore, hWritten, hLeft, List.take_add, List.append_assoc]

/-- `utp_writev` adds the bytes that it reports to the stream. -/
theorem written_utpWritev (iovecs : List (List UInt8)) (s : Conn) : writtenOf (s.utpWritev env iovecs).2.log =
    writtenOf s.log ++ (iovecs.take 1024).flatten.take (s.utpWritev env iovecs).1.toNat := by
  unfold utpWritev
  split_ifs
  · simp
  · simp
  · simp
  · obtain ⟨n, hSent, hWritten⟩ := written_writevLoop env (s.updateCurrentMs env).getPacketSize
      ((iovecs.take 1024).flatten.length + 1) (iovecs.take 1024).flatten.length 0 (iovecs.take 1024) (s.updateCurrentMs env)
      (Nat.lt_succ_self _)
    rw [Nat.zero_add] at hSent
    have hClock : writtenOf (s.updateCurrentMs env).log = writtenOf s.log := rfl
    dsimp only
    rw [hWritten, hSent, hClock, Int.toNat_natCast]

end Conn

namespace Context

variable {env : Env} {op : Op} {c c' : Context} {p q : Nat}

/-- The sockets that do not exist yet have no record. -/
def Fresh (c : Context) : Prop := ∀ p, c.allocated ≤ p → c.logs p = []

/-- A turn writes only to the records of sockets that exist. -/
theorem Turn.fresh (hTurn : Turn env op c c') (hOk : c.Ok) (h : c.Fresh) : c'.Fresh := by
  have hLeave : ∀ (c₀ : Context) (q : Nat) (s : Conn) (sock : Socket), c₀.logs = c.logs → c₀.allocated = c.allocated →
      c.sockets q = some sock → (c₀.leave q s).Fresh := by
    intro c₀ q s sock hLogs hCount hSock p hNew
    rw [allocated_leave, hCount] at hNew
    have hOther : p ≠ q := by
      rintro rfl
      exact absurd (hOk.allocated p sock hSock) (not_lt.2 hNew)
    rw [logs_leave, Function.update_of_ne hOther, hLogs]
    exact h p hNew
  cases hTurn with
  | run q sock cause s' hSock hCause hRan => exact hLeave c q s' sock rfl rfl hSock.1
  | option q sock opt val hSock => exact hLeave c q _ sock rfl rfl hSock
  | create =>
      intro p hNew
      have hOld : c.allocated + 1 ≤ p := hNew
      exact (Function.update_of_ne (by omega) ..).trans (h p (by omega))
  | dial q sock addr seed draws hOp hSock hNew hSeed hFree => exact hLeave (c.addKey ⟨addr, seed⟩ q) q _ sock rfl rfl hSock
  | accept q sock d addr hOp hVersion hType hSock hNew hFree =>
      exact hLeave (c.addKey ⟨addr, d.header.connid + 1⟩ q) q _ sock rfl rfl hSock
  | delete q sock hSock hState =>
      obtain ⟨acks, ida, hDelete, -, -⟩ := hOk.delete_eq hSock
      intro p hNew
      rw [hDelete] at hNew ⊢
      have hOther : p ≠ q := by
        rintro rfl
        exact absurd (hOk.allocated p sock hSock.1) (not_lt.2 hNew)
      exact (Function.update_of_ne hOther ..).trans (h p hNew)
  | cache q sock hSock => exact h
  | aside => exact h

/-- By induction on the turns of the operation. -/
theorem Turns.fresh (hTurns : Turns env op c c') (hOk : c.Ok) (h : c.Fresh) : c'.Fresh := by
  induction hTurns with
  | refl => exact h
  | tail hBefore hTurn ih => exact hTurn.fresh (Turns.ok hBefore hOk) ih

/-- A number that was not given out has no record, in every reachable context. -/
theorem Reachable.fresh (hReach : c.Reachable env) : c.Fresh := by
  induction hReach with
  | init onAcceptSet onConnectSet => exact fun p _ => rfl
  | next op hReach hStep ih =>
      exact (turns_of_step hReach.ok hStep).fresh hReach.ok ih

/-- A turn of an operation that is no `utp_writev` for the socket writes nothing to it. -/
theorem Turn.written (hTurn : Turn env op c c') (hOk : c.Ok) (h : c.Fresh) (hOp : ∀ iovecs, op ≠ .writev p iovecs) :
    writtenOf (c'.logs p) = writtenOf (c.logs p) := by
  have hLeave : ∀ (c₀ : Context) (q : Nat) (s : Conn), c₀.logs = c.logs →
      (q = p → writtenOf s.log = writtenOf (c.logs q)) → writtenOf ((c₀.leave q s).logs p) = writtenOf (c.logs p) := by
    intro c₀ q s hLogs hSame
    rw [logs_leave, hLogs]
    by_cases hHere : p = q
    · subst hHere
      rw [Function.update_self]
      exact hSame rfl
    · rw [Function.update_of_ne hHere]
  cases hTurn with
  | run q sock cause s' hSock hCause hRan =>
      refine hLeave c q s' rfl fun hSame => hRan.path.written ?_
      rintro rfl
      obtain ⟨iovecs, hWrite⟩ := hCause
      exact hOp iovecs (hSame ▸ hWrite)
  | option q sock opt val hSock => exact hLeave c q _ rfl fun _ => by cases opt <;> rfl
  | create =>
      change writtenOf (Function.update c.logs c.allocated [] p) = _
      by_cases hSame : p = c.allocated
      · rw [hSame, Function.update_self, h c.allocated le_rfl]
      · rw [Function.update_of_ne hSame]
  | dial q sock addr seed draws hSelf hSock hNew hSeed hFree =>
      refine hLeave (c.addKey ⟨addr, seed⟩ q) q _ rfl fun _ => ?_
      exact ((hOk.path_dialled hSock hNew addr seed).written nofun).trans
        (Conn.written_of_offer (Conn.offer_initializeSocket env addr seed seed (seed + 1) _))
  | accept q sock d addr hSelf hVersion hType hSock hNew hFree =>
      refine hLeave (c.addKey ⟨addr, d.header.connid + 1⟩ q) q _ rfl fun _ => ?_
      exact ((hOk.path_accepted hSock hNew d addr).written nofun).trans
        (Conn.written_of_offer (Conn.offer_initializeSocket env addr d.header.connid (d.header.connid + 1) d.header.connid _))
  | delete q sock hSock hState =>
      obtain ⟨acks, ida, hDelete, -, -⟩ := hOk.delete_eq hSock
      rw [hDelete]
      change writtenOf (Function.update c.logs q (c.logs q ++ [.onStateChange .destroying]) p) = _
      by_cases hSame : p = q
      · rw [hSame, Function.update_self, writtenOf_append]
        exact List.append_nil _
      · rw [Function.update_of_ne hSame]
  | cache q sock hSock => rfl
  | aside => rfl

/-- By induction on the turns of the operation. -/
theorem Turns.written (hTurns : Turns env op c c') (hOk : c.Ok) (h : c.Fresh) (hOp : ∀ iovecs, op ≠ .writev p iovecs) :
    writtenOf (c'.logs p) = writtenOf (c.logs p) := by
  induction hTurns with
  | refl => rfl
  | tail hBefore hTurn ih => exact (hTurn.written (Turns.ok hBefore hOk) (Turns.fresh hBefore hOk h) hOp).trans ih

/-- The bytes that an operation writes to the socket `p`: those that `utp_writev` reports. -/
def writes (env : Env) (op : Op) (p : Nat) (c : Context) : List UInt8 :=
  match op with
  | .writev q iovecs =>
      if p = q then
        ((c.sockets q).map fun sock =>
          (iovecs.take 1024).flatten.take ((c.enter q sock).utpWritev env iovecs).1.toNat).getD []
      else []
  | _ => []

/-- An operation adds to the stream of a socket what it reports. -/
theorem Reachable.written_step (hReach : c.Reachable env) (hStep : c.step env op = some c') (p : Nat) :
    writtenOf (c'.logs p) = writtenOf (c.logs p) ++ c.writes env op p := by
  by_cases hWrite : ∃ iovecs, op = .writev p iovecs
  · obtain ⟨iovecs, rfl⟩ := hWrite
    unfold Context.step at hStep
    split_ifs at hStep
    cases hStep
    unfold writes
    dsimp only
    rw [if_pos rfl]
    cases hSock : c.sockets p with
    | none =>
        unfold runOn
        rw [hSock]
        exact (List.append_nil _).symm
    | some sock =>
        rw [runOn_of_some hSock, logs_leave, Function.update_self]
        exact Conn.written_utpWritev env iovecs (c.enter p sock)
  · have hOther : ∀ iovecs, op ≠ .writev p iovecs := fun iovecs hSame => hWrite ⟨iovecs, hSame⟩
    have hNone : c.writes env op p = [] := by
      unfold writes
      split
      · rename_i q iovecs
        exact if_neg fun hSame => hOther iovecs (by rw [hSame])
      · rfl
    rw [hNone, List.append_nil]
    exact (turns_of_step hReach.ok hStep).written hReach.ok hReach.fresh hOther

/-- The bytes that the `utp_writev` calls of a run report for the socket `p`, one after the other. -/
def writesAlong (env : Env) (p : Nat) : List Op → Context → List UInt8
  | [], _ => []
  | op :: ops, c => c.writes env op p ++ ((c.step env op).map (writesAlong env p ops)).getD []

end Context

end Utp
