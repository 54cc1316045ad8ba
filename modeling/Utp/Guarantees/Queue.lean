import Utp.Invariant.Fate

/-! The outgoing queue of every reachable socket. -/
namespace Utp

open Wrapping

/-- The sequence number of the `i`-th oldest packet of the queue. -/
def SendState.windowSeq (snd : SendState) (i : Nat) : Nat :=
  u16 (snd.seqNr - snd.curWindowPackets + i)

/-- What is kept true of the outgoing queue. -/
structure QueueSound (snd : SendState) : Prop where
  count_le : snd.curWindowPackets ≤ 1024
  size_pow : ∃ k, snd.outbuf.size = 2 ^ k
  size_ge : 16 ≤ snd.outbuf.size
  count_le_size : snd.curWindowPackets ≤ snd.outbuf.size
  occupied : ∀ (v : Int) (pkt : OutgoingPacket), snd.outbuf.get v = some pkt →
    ∃ i < snd.curWindowPackets, pkt.header.seqNr = snd.windowSeq i ∧
      snd.outbuf.slot v = snd.outbuf.slot (snd.windowSeq i)
  front : 0 < snd.curWindowPackets →
    (snd.outbuf.get (snd.seqNr - snd.curWindowPackets)).isSome = true
  window : snd.curWindow =
    ∑ i ∈ Finset.range snd.curWindowPackets, inFlight (snd.outbuf.get (snd.windowSeq i))

/-- The assertions about the queue. -/
def queueLines : List Nat := [1006, 1011, 1036, 1133, 1243, 1419, 1553, 2279, 2328]

theorem Core.queueSound {s : Conn} (h : Core s) : QueueSound s.snd := by
  have hShape : QueueShape s.snd.seqNr s.snd.curWindowPackets s.snd.curWindow s.snd.outbuf :=
    h.view.queue
  have hSlot : ∀ v w : Int, (s.snd.outbuf.size : Int) ∣ v - w →
      s.snd.outbuf.slot v = s.snd.outbuf.slot w := by
    intro v w hDvd
    rw [CellRing.slot_eq_iff, ← SizableCircularBuffer.size_eq]
    exact hDvd
  constructor
  · exact hShape.count_le_limit
  · obtain ⟨k, hk⟩ := s.snd.outbuf.size_pow
    exact ⟨k, s.snd.outbuf.size_eq.trans hk⟩
  · exact hShape.size_ge
  · exact hShape.count_le
  · intro v pkt hGet
    obtain ⟨i, hi, hDvd⟩ := hShape.offset_of_get hGet
    have hAt : s.snd.outbuf.get (s.snd.seqNr - s.snd.curWindowPackets + i) = some pkt := by
      rw [← s.snd.outbuf.get_congr hDvd, hGet]
    refine ⟨i, hi, (hShape.packet i hi pkt hAt).seqNr, (hSlot _ _ hDvd).trans (hSlot _ _ ?_)⟩
    apply hShape.dvd_of_seq
    have hEmod := u16_emod (s.snd.seqNr - s.snd.curWindowPackets + i)
    unfold SendState.windowSeq
    omega
  · exact h.view.front
  · have hSum : s.snd.outbuf.toCellRing.sum inFlight (s.snd.seqNr - s.snd.curWindowPackets)
        s.snd.outbuf.size = s.snd.outbuf.toCellRing.sum inFlight
          (s.snd.seqNr - s.snd.curWindowPackets) s.snd.curWindowPackets := by
      refine CellRing.sum_extend hShape.count_le (fun _ _ => rfl) fun j hCount hSize => ?_
      exact congrArg inFlight (hShape.vacant j hCount hSize)
    rw [hShape.window_eq, hSum]
    apply Finset.sum_congr rfl
    intro i _
    exact congrArg inFlight (hShape.get_u16 _).symm

/-- No assertion about a buffer has failed in any record of a reachable context. -/
theorem Context.Reachable.no_failure {env : Env} {c : Context} (hReach : c.Reachable env)
    {line : Nat} (hLine : line ∈ coveredLines) (p : Nat) : .assertFailed line ∉ c.logs p := by
  have hClean : ∀ e ∈ c.logs p, e.isFailure = false := by
    refine (preserved_core env).logs (J := fun log => ∀ e ∈ log, e.isFailure = false) ?_ ?_ ?_ hReach p
    · exact nofun
    · exact fun s hCore => hCore.log
    · intro log hLog e he
      rcases List.mem_append.1 he with hOld | hNew
      · exact hLog e hOld
      · rw [List.mem_singleton.1 hNew]
        rfl
  intro hFailed
  have hFailure := hClean _ hFailed
  rw [Event.isFailure, decide_eq_false_iff_not] at hFailure
  exact hFailure hLine

/-- Whatever the embedding program and its peers do, the queue of every socket is
sound and none of the assertions about it ever fails. -/
theorem outgoing_queue_invariant (env : Env) (c : Context) (hReach : c.Reachable env) :
    (∀ p sock, c.sockets p = some sock → QueueSound sock.snd) ∧
      ∀ p, ∀ line ∈ queueLines, .assertFailed line ∉ c.logs p := by
  refine ⟨fun p sock hSock => (hReach.ok.core p sock hSock).queueSound, fun p line hLine => ?_⟩
  apply hReach.no_failure
  revert hLine
  unfold queueLines coveredLines
  simp only [List.mem_cons, List.not_mem_nil, or_false]
  omega

/-- An embedding program whose clock stands still. -/
def steadyEnv : Env := fun _ => ⟨1000000, 1000000, 7, 0, 1500, false, false⟩

def somePeer : PackedSockAddr := ⟨[127, 0, 0, 1], 6881⟩

/-- A packet as a peer would send it. -/
def somePacket (type connid seqNr ackNr : Nat) (body : List UInt8) : Datagram :=
  Datagram.ofList (Wire.bytes ⟨⟨type, 1, 0, connid, 0, 0, 65536, seqNr, ackNr⟩, body⟩) fun _ => 0

/-- A dialled socket that has got the answer to its SYN. -/
def connectedOps : List Op :=
  [.createSocket, .connect 0 somePeer 1, .processUdp (somePacket stState 7 77 7 []) somePeer]

/-- A dialled socket that is up has three bytes in flight, and three more that wait behind them. -/
theorem outgoing_queue_invariant_dialled : ∃ (c : Context) (sock : Socket), c.Reachable steadyEnv ∧
    c.sockets 0 = some sock ∧ sock.snd.curWindowPackets = 2 ∧ sock.snd.curWindow = 3 ∧ QueueSound sock.snd := by
  have hRun : ((utpInit true true).run steadyEnv (connectedOps ++
      [.writev 0 [[1, 2, 3]], .writev 0 [[4, 5]], .writev 0 [[6]]])).any (fun c => (c.sockets 0).any fun sock =>
        sock.snd.curWindowPackets == 2 && sock.snd.curWindow == 3) = true := by
    decide +kernel
  obtain ⟨c, hReach, hOk⟩ := Context.Reachable.exists_of_run hRun
  obtain ⟨sock, hSock, hQueued⟩ := (Option.any_eq_true _ _).1 hOk
  rw [Bool.and_eq_true, beq_iff_eq, beq_iff_eq] at hQueued
  exact ⟨c, sock, hReach, hSock, hQueued.1, hQueued.2, (outgoing_queue_invariant steadyEnv c hReach).1 0 sock hSock⟩

end Utp
