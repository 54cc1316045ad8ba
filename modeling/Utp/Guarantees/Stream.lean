import Utp.Invariant.Delivery
import Utp.Guarantees.Queue

/-! The reorder buffer of every reachable socket, and the stream that it delivers. -/
namespace Utp

open Wrapping

/-- What is kept true of the reorder buffer until the end of the stream. -/
structure ReorderSound (rcv : RecvState) : Prop where
  count : rcv.reorderCount = rcv.inbuf.cells.countP Option.isSome
  stored : ∀ (v : Int) (p : IncomingPacket), rcv.inbuf.get v = some p →
    1 ≤ u16 (p.seqNr - rcv.ackNr - 1) ∧ u16 (p.seqNr - rcv.ackNr - 1) ≤ 1023 ∧
      u16 (p.seqNr - rcv.ackNr - 1) < rcv.inbuf.mask ∧ rcv.inbuf.slot v = rcv.inbuf.slot p.seqNr
  distinct : ∀ (v w : Int) (p q : IncomingPacket), rcv.inbuf.get v = some p →
    rcv.inbuf.get w = some q → (p.seqNr = q.seqNr ↔ rcv.inbuf.slot v = rcv.inbuf.slot w)
  next : rcv.inbuf.get (rcv.ackNr + 1) = none
  last : rcv.inbuf.get rcv.ackNr = none

/-- What the record of a socket says about the packets it has consumed, if it entered
`CS_CONNECTED` with the `ack_nr` `start`. The flags tell whether the end of the stream
was reached and whether reading was shut down. -/
structure InOrderOnce (start : Nat) (log : List Event) (finReached readShutdown : Bool) : Prop where
  numbered : ∀ (i seqNr : Nat) (body : List UInt8), (consumedOf log)[i]? = some (seqNr, body) →
    seqNr = u16 (start + 1 + i)
  offered : ∀ x ∈ offersOf log, x.2.1 = u16 (start + 1 + x.1)
  first : finReached = false → ∀ i < (consumedOf log).length,
    (offersOf log).lookup i = (consumedOf log)[i]?
  passedOn : readShutdown = false → readsOf log = payloadsOf log
  passedOnBefore : readsOf log <+: payloadsOf log

/-- The assertions about the reorder buffer. -/
def reorderLines : List Nat := [811, 2435, 2498, 2499]

theorem Core.reorderSound {s : Conn} (h : Core s) (hFin : s.rcv.gotFinReached = false) :
    ReorderSound s.rcv := by
  have hShape : ReorderShape s.rcv.ackNr s.rcv.reorderCount s.rcv.inbuf := h.view.reorder hFin
  have hBounds : ReorderBounds s.rcv.ackNr s.rcv.inbuf := h.view.bounds
  have hNext : s.rcv.inbuf.get (s.rcv.ackNr + 1) = none := h.view.next hFin
  have hStored : ∀ (v : Int) (p : IncomingPacket), s.rcv.inbuf.get v = some p →
      1 ≤ u16 (p.seqNr - s.rcv.ackNr - 1) ∧ u16 (p.seqNr - s.rcv.ackNr - 1) ≤ 1023 ∧
        u16 (p.seqNr - s.rcv.ackNr - 1) < s.rcv.inbuf.mask ∧
        s.rcv.inbuf.slot v = s.rcv.inbuf.slot p.seqNr := by
    intro v p hGet
    obtain ⟨j, hj, hDvd⟩ := s.rcv.inbuf.exists_offset (s.rcv.ackNr + 1) v
    have hAt := hGet
    rw [s.rcv.inbuf.get_congr hDvd] at hAt
    obtain ⟨hLimit, hMask, hSeq⟩ := hShape.stored j hj p hAt
    have hZero : j ≠ 0 := by
      rintro rfl
      rw [Nat.cast_zero, add_zero, hNext] at hAt
      cases hAt
    have hOffset : u16 (p.seqNr - s.rcv.ackNr - 1) = j := by
      have hEmod := u16_emod (s.rcv.ackNr + 1 + j)
      have hSmall : j < 65536 := by omega
      rw [← u16_of_lt hSmall, u16_eq_iff, hSeq]
      omega
    rw [hOffset]
    refine ⟨by omega, hLimit, hMask, ?_⟩
    rw [CellRing.slot_eq_iff, ← SizableCircularBuffer.size_eq]
    have hSlot : (s.rcv.inbuf.size : Int) ∣ p.seqNr - (s.rcv.ackNr + 1 + j) := by
      apply hBounds.dvd_of_seq
      have hEmod := u16_emod (s.rcv.ackNr + 1 + j)
      rw [hSeq]
      omega
    have hDiff := Int.dvd_sub hDvd hSlot
    rwa [sub_sub_sub_cancel_right] at hDiff
  refine ⟨hShape.count_eq, hStored, ?_, hNext, hShape.get_ackNr⟩
  intro v w p q hp hq
  rw [(hStored v p hp).2.2.2, (hStored w q hq).2.2.2]
  constructor
  · intro hSame
    rw [hSame]
  · intro hSlot
    have hGet : s.rcv.inbuf.get v = s.rcv.inbuf.get w := by
      apply s.rcv.inbuf.get_congr
      rw [SizableCircularBuffer.size_eq, ← CellRing.slot_eq_iff, (hStored v p hp).2.2.2, hSlot,
        (hStored w q hq).2.2.2]
    rw [hp, hq] at hGet
    rw [Option.some.inj hGet]

theorem Delivery.inOrderOnce {s : Conn} (h : Delivery s) :
    match entryOf s.log with
    | none => consumedOf s.log = [] ∧ readsOf s.log = []
    | some start => InOrderOnce start s.log s.rcv.gotFinReached s.rcv.readShutdown := by
  unfold Delivery Conn.trace at h
  rw [entryOf_story, consumedOf_story, offersOf_story, readsOf_story] at h
  rcases h with ⟨hNone, -, hConsumed, -, hReads⟩ | ⟨start, hEntry, -, hFlow⟩
  · rw [hNone]
    exact ⟨hConsumed, hReads⟩
  · rw [hEntry]
    have hPayloads : payloadsOf (traceOf s.log).story = payloadsOf s.log := by
      unfold payloadsOf
      rw [consumedOf_story]
    obtain ⟨-, hNumbered, hOffered, hPayload, -, -, rest, hRest, hAll⟩ := hFlow
    rw [consumedOf_story] at hNumbered
    rw [offersOf_story] at hOffered
    rw [consumedOf_story, offersOf_story] at hPayload
    rw [hPayloads, readsOf_story] at hRest
    refine ⟨hNumbered, hOffered, hPayload, fun hOpen => ?_, ⟨rest, hRest.symm⟩⟩
    rw [hRest, hAll hOpen, List.append_nil]

/-- Against any peer, the reorder buffer of every socket is sound and the packets that
it delivers are consumed in order and once, each with the payload that came first. -/
theorem reorder_buffer_invariant (env : Env) (c : Context) (hReach : c.Reachable env) :
    (∀ p sock, c.sockets p = some sock → sock.rcv.gotFinReached = false → ReorderSound sock.rcv) ∧
    (∀ p sock, c.sockets p = some sock →
      match entryOf (c.logs p) with
      | none => consumedOf (c.logs p) = [] ∧ readsOf (c.logs p) = []
      | some start => InOrderOnce start (c.logs p) sock.rcv.gotFinReached sock.rcv.readShutdown) ∧
    ∀ p, ∀ line ∈ reorderLines, .assertFailed line ∉ c.logs p := by
  refine ⟨?_, ?_, fun p line hLine => ?_⟩
  · exact fun p sock hSock hFin => (hReach.ok.core p sock hSock).reorderSound hFin
  · intro p sock hSock
    by_cases hNew : sock.state = .uninitialized
    · rw [(hReach.ok.pristine p sock hSock hNew).2]
      exact ⟨rfl, rfl⟩
    · exact ((preserved_delivery env).reachable hReach p sock ⟨hSock, hNew⟩).inOrderOnce
  · apply hReach.no_failure
    revert hLine
    unfold reorderLines coveredLines
    simp only [List.mem_cons, List.not_mem_nil, or_false]
    omega

/-- An accepted socket has consumed its first data packet, whose number is the last before the
wrap, and holds the one after the next. -/
theorem reorder_buffer_invariant_accepted : ∃ (c : Context) (sock : Socket), c.Reachable steadyEnv ∧
    c.sockets 0 = some sock ∧ consumedOf (c.logs 0) = [(65535, [1, 2, 3])] ∧ sock.rcv.reorderCount = 1 ∧
      ReorderSound sock.rcv ∧ InOrderOnce 65534 (c.logs 0) sock.rcv.gotFinReached sock.rcv.readShutdown := by
  have hRun : ((utpInit true false).run steadyEnv [.processUdp (somePacket stSyn 5 65534 0 []) somePeer,
      .processUdp (somePacket stData 6 65535 6 [1, 2, 3]) somePeer,
      .processUdp (somePacket stData 6 1 6 [4]) somePeer]).any (fun c =>
        (c.sockets 0).any (fun sock => sock.rcv.reorderCount == 1 && !sock.rcv.gotFinReached) &&
          decide (consumedOf (c.logs 0) = [(65535, [1, 2, 3])]) && decide (entryOf (c.logs 0) = some 65534)) = true := by
    decide +kernel
  obtain ⟨c, hReach, hOk⟩ := Context.Reachable.exists_of_run hRun
  simp only [Bool.and_eq_true, decide_eq_true_eq, Option.any_eq_true, beq_iff_eq, Bool.not_eq_true'] at hOk
  obtain ⟨⟨⟨sock, hSock, hWaits, hFin⟩, hConsumed⟩, hEntry⟩ := hOk
  obtain ⟨hSound, hOrders, -⟩ := reorder_buffer_invariant steadyEnv c hReach
  have hOrder := hOrders 0 sock hSock
  rw [hEntry] at hOrder
  exact ⟨c, sock, hReach, hSock, hConsumed, hWaits, hSound 0 sock hSock hFin, hOrder⟩

end Utp
