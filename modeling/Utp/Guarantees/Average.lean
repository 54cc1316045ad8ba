import Utp.Guarantees.Mtu
import Utp.Invariant.Delay

/-! The arithmetic of the average delay and of the clock drift. -/
namespace Utp

open Wrapping

/-- A signed operation: the width of its type and its exact result. -/
structure SignedOp where
  bits : Nat
  value : Int

/-- The result can be represented. -/
def SignedOp.Fits (op : SignedOp) : Prop := -2 ^ (op.bits - 1) ≤ op.value ∧ op.value < 2 ^ (op.bits - 1)

namespace DelayState

/-- The first sample ever seen is the baseline. -/
def based (actualDelay : Nat) (d : DelayState) : DelayState :=
  if d.averageDelayBase = 0 then { d with averageDelayBase := actualDelay } else d

/-- The signed operations with which a sample is added: the negation of the distance, the sum,
and the count. -/
def sampleOps (actualDelay : Nat) (d : DelayState) : List SignedOp :=
  let t := d.based actualDelay
  [⟨64, -(min (u32 (t.averageDelayBase - actualDelay)) maxAverageDelaySample : Nat)⟩,
    ⟨64, t.currentDelaySum + t.averageDelaySample actualDelay⟩,
    ⟨32, t.currentDelaySamples + 1⟩]

/-- The signed operations with which an average is written: the division and its narrowing, the
two negations for the adjustment and the additions of it, the drift, and the rolling average. -/
def averageOps (d : DelayState) : List SignedOp :=
  let quotient := d.currentDelaySum.tdiv d.currentDelaySamples
  let adjust := adjustment d.averageDelay quotient
  let drift := quotient + adjust - (d.averageDelay + adjust)
  [⟨64, quotient⟩, ⟨32, quotient⟩, ⟨32, -(min d.averageDelay quotient)⟩, ⟨32, -(max d.averageDelay quotient)⟩,
    ⟨32, quotient + adjust⟩, ⟨32, d.averageDelay + adjust⟩, ⟨32, drift⟩, ⟨64, d.clockDrift * 7⟩,
    ⟨64, d.clockDrift * 7 + drift⟩, ⟨64, (d.clockDrift * 7 + drift).tdiv 8⟩,
    ⟨32, (d.clockDrift * 7 + drift).tdiv 8⟩]

/-- What has to hold when a sample is measured. -/
structure MeasuredSafely (actualDelay currentMs : Nat) (d : DelayState) : Prop where
  sample : -maxAverageDelaySample ≤ (d.based actualDelay).averageDelaySample actualDelay ∧
    (d.based actualDelay).averageDelaySample actualDelay ≤ maxAverageDelaySample
  sampleFits : ∀ op ∈ d.sampleOps actualDelay, op.Fits
  divisor : (d.noteActualDelay actualDelay currentMs).currentDelaySamples ≠ 0
  asserts : Conn.averageInRange (d.noteActualDelay actualDelay currentMs) = true
  averageFits : ∀ op ∈ (d.noteActualDelay actualDelay currentMs).averageOps, op.Fits

theorem fits_sampleOps {d : DelayState} (h : AverageSound d) (actualDelay : Nat)
    (hSamples : d.currentDelaySamples + 1 < 2147483648) : ∀ op ∈ d.sampleOps actualDelay, op.Fits := by
  have hK : (maxAverageDelaySample : Int) = 536870911 := rfl
  have hSum : (d.based actualDelay).currentDelaySum = d.currentDelaySum ∧
      (d.based actualDelay).currentDelaySamples = d.currentDelaySamples := by
    unfold based
    split_ifs <;> exact ⟨rfl, rfl⟩
  obtain ⟨hLow, hHigh⟩ := averageDelaySample_bound actualDelay (d.based actualDelay)
  obtain ⟨hSumLow, hSumHigh⟩ := h.sum
  rw [hK] at hLow hHigh hSumLow hSumHigh
  unfold sampleOps SignedOp.Fits
  simp only [List.mem_cons, List.not_mem_nil, or_false, hSum.1, hSum.2]
  rintro op (rfl | rfl | rfl)
  · have hMin : min (u32 ((d.based actualDelay).averageDelayBase - actualDelay)) maxAverageDelaySample ≤
        maxAverageDelaySample := Nat.min_le_right _ _
    dsimp only
    omega
  · dsimp only
    omega
  · dsimp only
    omega

theorem fits_averageOps {d : DelayState} (h : AverageSound d) (hSamples : 0 < d.currentDelaySamples) :
    ∀ op ∈ d.averageOps, op.Fits := by
  have hK : (maxAverageDelaySample : Int) = 536870911 := rfl
  obtain ⟨hLow, hHigh⟩ := quotient_bound h hSamples
  obtain ⟨hPrev, hNext⟩ := adjustment_bound h.average ⟨hLow, hHigh⟩
  have hAverage := h.average
  have hDrift := h.drift
  unfold averageOps SignedOp.Fits
  dsimp only
  generalize d.currentDelaySum.tdiv d.currentDelaySamples = quotient at *
  generalize adjustment d.averageDelay quotient = adjust at *
  have hRolling : -(2 * maxAverageDelaySample : Int) ≤
        (d.clockDrift * 7 + (quotient + adjust - (d.averageDelay + adjust))).tdiv 8 ∧
      (d.clockDrift * 7 + (quotient + adjust - (d.averageDelay + adjust))).tdiv 8 ≤ 2 * maxAverageDelaySample :=
    tdiv_bound (n := 8) (by omega) (by omega) (by omega)
  simp only [List.mem_cons, List.not_mem_nil, or_false]
  rintro op (rfl | rfl | rfl | rfl | rfl | rfl | rfl | rfl | rfl | rfl | rfl) <;> dsimp only <;> omega

theorem measuredSafely {d : DelayState} (h : AverageSound d) (actualDelay currentMs : Nat)
    (hSamples : d.currentDelaySamples + 1 < 2147483648) : d.MeasuredSafely actualDelay currentMs := by
  have hCount : 0 < (d.noteActualDelay actualDelay currentMs).currentDelaySamples := Nat.succ_pos _
  have hNoted := noted h actualDelay currentMs
  refine ⟨averageDelaySample_bound _ _, fits_sampleOps h actualDelay hSamples, hCount.ne', ?_,
    fits_averageOps hNoted hCount⟩
  obtain ⟨hLow, hHigh⟩ := quotient_bound hNoted hCount
  have hK : (maxAverageDelaySample : Int) = 536870911 := rfl
  have hMax : (intMax : Int) = 2147483647 := rfl
  unfold Conn.averageInRange
  simp only [Bool.and_eq_true, decide_eq_true_eq]
  omega

end DelayState

/-- The state in which the delay of a received packet is measured. -/
def Conn.measured (env : Env) (d : Datagram) (selack : Option SackMask) (s : Conn) : Conn :=
  ((s.countDuplicateAck env d.header).measureAcks env d d.header selack (s.acksOf d.header)).2

/-- Whatever the peer reports and whatever the clock shows, the averages of every socket stay in
their range, also between the steps of an operation; and as long as a period has fewer than 2^31
samples, a packet is measured without an overflow and without a failed assertion. -/
theorem average_delay_safe (env : Env) (c : Context) (hReach : c.Reachable env) (p : Nat) (sock : Socket)
    (hSock : c.Holds p sock) (cause : Cause) (s : Conn) (hPath : Path env cause (c.enter p sock) s) :
    AverageSound s.delay ∧
      ∀ (d : Datagram) (selack : Option SackMask) (time : Nat), (s.measured env d selack).delay.currentDelaySamples + 1 <
          2147483648 →
        ((s.measured env d selack).delay.noteTheirDelay d.header.tvUsec time
          (s.measured env d selack).currentMs).MeasuredSafely (Conn.actualDelay d.header)
            (s.measured env d selack).currentMs := by
  have hStart : AverageSound (c.enter p sock).delay :=
    (preserved_averageSound env).reachable hReach p sock hSock
  have hNow := hStart.path (hReach.ok.core p sock hSock.1) hSock.2 hPath
  refine ⟨hNow, fun d selack time hSamples => ?_⟩
  have hQuiet : QuietPath env cause s (s.measured env d selack) :=
    (Conn.path_countDuplicateAck env cause d.header s).trans (Conn.path_measureAcks env cause d d.header selack _ _)
  have hMeasured := DelayState.theirs (hNow.quietPath hQuiet) d.header.tvUsec time
    (s.measured env d selack).currentMs
  exact DelayState.measuredSafely hMeasured _ _ hSamples

/-- An ack whose sender reports the given one-way delay. -/
def delayedAck (seqNr ackNr replyMicro : Nat) : Datagram :=
  Datagram.ofList (Wire.bytes ⟨⟨stState, 1, 0, 7, 0, replyMicro, 65536, seqNr, ackNr⟩, []⟩) fun _ => 0

/-- The peer reports two delays that are half the 32-bit space apart. -/
theorem average_delay_safe_far : ∃ (c : Context) (sock : Socket), c.Reachable steadyEnv ∧ c.Holds 0 sock ∧
    sock.delay.currentDelaySamples = 1 ∧ sock.delay.averageDelayBase = 5 ∧ AverageSound sock.delay ∧
      (((c.enter 0 sock).measured steadyEnv (delayedAck 77 7 2147483653) none).delay.noteTheirDelay 0 1000000
        ((c.enter 0 sock).measured steadyEnv (delayedAck 77 7 2147483653) none).currentMs).MeasuredSafely 2147483653
          ((c.enter 0 sock).measured steadyEnv (delayedAck 77 7 2147483653) none).currentMs := by
  have hRun : ((utpInit true true).run steadyEnv [.createSocket, .connect 0 somePeer 1,
      .processUdp (delayedAck 77 7 5) somePeer]).any (fun c => (c.sockets 0).any fun sock =>
        sock.state == .connected && sock.delay.currentDelaySamples == 1 && sock.delay.averageDelayBase == 5 &&
          (((c.enter 0 sock).measured steadyEnv (delayedAck 77 7 2147483653) none).delay.currentDelaySamples ==
            1)) = true := by
    decide +kernel
  obtain ⟨c, hReach, hOk⟩ := Context.Reachable.exists_of_run hRun
  obtain ⟨sock, hSock, hParts⟩ := (Option.any_eq_true _ _).1 hOk
  simp only [Bool.and_eq_true, beq_iff_eq] at hParts
  obtain ⟨⟨⟨hState, hSamples⟩, hBase⟩, hLater⟩ := hParts
  have hHolds : c.Holds 0 sock := ⟨hSock, by rw [hState]; nofun⟩
  obtain ⟨hSound, hSafe⟩ := average_delay_safe steadyEnv c hReach 0 sock hHolds .call _ .refl
  refine ⟨c, sock, hReach, hHolds, hSamples, hBase, hSound, ?_⟩
  exact hSafe (delayedAck 77 7 2147483653) none 1000000 (by rw [hLater]; decide)

end Utp
