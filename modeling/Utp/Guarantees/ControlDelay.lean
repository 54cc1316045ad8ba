import Utp.Guarantees.Average
import Utp.Transition.Counted

/-! The delay that the congestion controller works with. -/
namespace Utp

open Wrapping

/-- How long ago a packet was sent. A clock that runs backwards counts as 50 ms. -/
def OutgoingPacket.age (now : Nat) (pkt : OutgoingPacket) : Int :=
  if pkt.timeSent < now then now - pkt.timeSent else 50000

namespace Conn

/-- The ages of the packets that an ack is counted for. -/
def countedAges (env : Env) (d : Datagram) (selack : Option SackMask) (s : Conn) : List Int :=
  let t := s.countDuplicateAck env d.header
  let acks := s.acksOf d.header
  (t.snd.counted acks 0).map (OutgoingPacket.age (t.utpCallGetMicroseconds env)) ++
    (t.sackCountedBy d selack).map (OutgoingPacket.age (t.maskTime env acks))

/-- The state and the arguments with which a packet calls `apply_ccontrol`, if it does. -/
def ccontrolCall (env : Env) (d : Datagram) (a : AckPoint) : Option (Conn × AckedBytes) :=
  let r := (a.state.countDuplicateAck env d.header).measureAcks env d d.header a.selack
    (a.state.acksOf d.header)
  if actualDelay d.header ≠ 0 && r.1.ackedBytes ≥ 1 then some (r.2.measureDelay d.header a.time r.1.minRtt, r.1)
  else none

/-- The state after the congestion controller has seen a packet. -/
def controlled (env : Env) (d : Datagram) (a : AckPoint) (s : Conn) : Conn :=
  let r := (s.countDuplicateAck env d.header).measureAcks env d d.header a.selack (s.acksOf d.header)
  r.2.controlWindow d.header a.time r.1

end Conn

/-- The delay state once a packet has been measured, before it is clamped to the RTT. -/
def DelayState.sampled (header : PacketFormatV1) (time currentMs : Nat) (d : DelayState) : DelayState :=
  let d := d.noteTheirDelay header.tvUsec time currentMs
  if Conn.actualDelay header ≠ 0 then
    let d := d.noteActualDelay (Conn.actualDelay header) currentMs
    if currentMs > d.averageSampleTime then d.updateAverage else d
  else d

/-- The penalty delay that a clock drift gives. -/
def driftPenalty (clockDrift : Int) : Int :=
  if clockDrift < -200000 then (-clockDrift - 200000).tdiv 7 else 0

/-- What `apply_ccontrol` asserts of its delay, and that it computes with it without an overflow. -/
structure DelayValid (s : Conn) (minRtt : Int) : Prop where
  rtt : 0 ≤ minRtt
  low : 0 ≤ s.ourDelay minRtt
  high : s.ourDelay minRtt < intMax
  sums : 1 ≤ s.win.targetDelay → s.win.targetDelay ≤ intMax →
    SignedOp.Fits ⟨32, s.ourDelay minRtt + s.penalty⟩ ∧
      SignedOp.Fits ⟨32, s.target - (s.ourDelay minRtt + s.penalty)⟩

/-- The largest delay that is valid. -/
def delayLimit (targetDelay : Nat) (clockDrift : Int) : Int :=
  if 1 ≤ targetDelay ∧ targetDelay ≤ intMax then intMax - max 1 (driftPenalty clockDrift) else intMax - 1

/-- No counted packet is older than an int64 can hold; and either the least of the recorded
delays or the age of the youngest counted packet, modulo 2^32, is a valid delay. -/
def DelayTame (ages : List Int) (value : Nat) (limit : Int) : Prop :=
  (∀ age ∈ ages, age < 9223372036854775808) ∧
    (value ≤ limit ∨ ∃ age ∈ ages, (∀ other ∈ ages, age ≤ other) ∧ u32 age ≤ limit)

instance (ages : List Int) (value : Nat) (limit : Int) : Decidable (DelayTame ages value limit) :=
  inferInstanceAs (Decidable (_ ∧ _))

theorem i64_of_lt {x : Int} (hLow : -9223372036854775808 ≤ x) (hHigh : x < 9223372036854775808) : i64 x = x := by
  unfold i64
  rw [Int.bmod_def]
  split_ifs <;> omega

theorem i64_of_ge {x : Int} (hLow : 9223372036854775808 ≤ x) (hHigh : x < 18446744073709551616) : i64 x < 0 := by
  unfold i64
  rw [Int.bmod_def]
  split_ifs <;> omega

theorem OutgoingPacket.age_bound {now : Nat} (hNow : now < 18446744073709551616) (pkt : OutgoingPacket) :
    0 < pkt.age now ∧ pkt.age now < 18446744073709551616 := by
  unfold age
  split_ifs <;> omega

theorem minRttOf_eq (pkt : OutgoingPacket) (now : Nat) (minRtt : Int) :
    minRttOf pkt now minRtt = min minRtt (i64 (pkt.age now)) := by
  unfold minRttOf OutgoingPacket.age
  split_ifs
  · rfl
  · rw [i64_of_lt (by decide) (by decide)]

/-- The round trip bound is the least of the ages, read as signed numbers. -/
theorem minRtt_foldl (now : Nat) (pkts : List OutgoingPacket) (a : AckedBytes) :
    (pkts.foldl (AckedBytes.count now) a).minRtt =
      (pkts.map (OutgoingPacket.age now)).foldl (fun m age => min m (i64 age)) a.minRtt := by
  induction pkts generalizing a with
  | nil => rfl
  | cons pkt pkts ih =>
      rw [List.foldl_cons, List.map_cons, List.foldl_cons, ih]
      exact congrArg (fun m => List.foldl _ m _) (minRttOf_eq pkt now a.minRtt)

theorem foldl_min_spec (f : Int → Int) (ages : List Int) (start : Int) :
    ages.foldl (fun m age => min m (f age)) start ≤ start ∧
      (∀ age ∈ ages, ages.foldl (fun m age => min m (f age)) start ≤ f age) ∧
      (ages.foldl (fun m age => min m (f age)) start = start ∨
        ∃ age ∈ ages, ages.foldl (fun m age => min m (f age)) start = f age) := by
  induction ages generalizing start with
  | nil => exact ⟨le_rfl, nofun, Or.inl rfl⟩
  | cons age ages ih =>
      obtain ⟨hStart, hAll, hFrom⟩ := ih (min start (f age))
      rw [List.foldl_cons]
      refine ⟨hStart.trans (min_le_left _ _), ?_, ?_⟩
      · rintro other (_ | ⟨_, hMem⟩)
        · exact hStart.trans (min_le_right _ _)
        · exact hAll other hMem
      · rcases hFrom with hEq | ⟨other, hMem, hEq⟩
        · rcases min_choice start (f age) with hLeft | hRight
          · exact Or.inl (hEq.trans hLeft)
          · exact Or.inr ⟨age, List.mem_cons_self, hEq.trans hRight⟩
        · exact Or.inr ⟨other, List.mem_cons_of_mem age hMem, hEq⟩

/-- The round trip bound is negative exactly when an age does not fit an int64, and else it is
the age of the youngest packet. -/
theorem youngest_spec {ages : List Int} (hSome : ages ≠ [])
    (hAges : ∀ age ∈ ages, 0 < age ∧ age < 18446744073709551616) :
    (0 ≤ ages.foldl (fun m age => min m (i64 age)) int64Max ↔ ∀ age ∈ ages, age < 9223372036854775808) ∧
      ((∀ age ∈ ages, age < 9223372036854775808) →
        ages.foldl (fun m age => min m (i64 age)) int64Max ∈ ages ∧
          ∀ age ∈ ages, ages.foldl (fun m age => min m (i64 age)) int64Max ≤ age) := by
  have hMax : (int64Max : Int) = 9223372036854775807 := rfl
  obtain ⟨hStart, hAll, hFrom⟩ := foldl_min_spec i64 ages int64Max
  generalize ages.foldl (fun m age => min m (i64 age)) int64Max = least at hStart hAll hFrom
  have hFits : (∀ age ∈ ages, age < 9223372036854775808) → ∀ age ∈ ages, i64 age = age := fun hSmall age hMem =>
    i64_of_lt (by have := (hAges age hMem).1; omega) (hSmall age hMem)
  refine ⟨⟨fun hLeast age hMem => ?_, fun hSmall => ?_⟩, fun hSmall => ⟨?_, fun age hMem => ?_⟩⟩
  · by_contra hBig
    have hNegative := i64_of_ge (not_lt.1 hBig) (hAges age hMem).2
    have hLe := hAll age hMem
    omega
  · rcases hFrom with hEq | ⟨age, hMem, hEq⟩
    · omega
    · rw [hEq, hFits hSmall age hMem]
      exact (hAges age hMem).1.le
  · rcases hFrom with hEq | ⟨age, hMem, hEq⟩
    · obtain ⟨age, hMem⟩ := List.exists_mem_of_ne_nil ages hSome
      have hLe := hAll age hMem
      rw [hFits hSmall age hMem] at hLe
      have hLt := hSmall age hMem
      have hSame : least = age := by omega
      rw [hSame]
      exact hMem
    · rw [hEq, hFits hSmall age hMem]
      exact hMem
  · have hLe := hAll age hMem
    rwa [hFits hSmall age hMem] at hLe

theorem i32_of_ge {x : Int} (hLow : 2147483648 ≤ x) (hHigh : x < 4294967296) : i32 x < 0 := by
  unfold i32
  rw [Int.bmod_def]
  split_ifs <;> omega

theorem DelayHist.getValue_le (h : DelayHist) : h.getValue ≤ 4294967295 := by
  unfold getValue
  generalize h.curDelayHist = delays
  have hFold : ∀ (delays : List Nat) (start : Nat),
      delays.foldl (fun value delay => min delay value) start ≤ start := by
    intro delays
    induction delays with
    | nil => exact fun start => Nat.le_refl _
    | cons delay delays ih => exact fun start => (ih _).trans (Nat.min_le_right _ _)
  exact hFold delays 4294967295

/-- The penalty of a drift that is in its range. -/
theorem driftPenalty_bound {clockDrift : Int} (hLow : -(2 * maxAverageDelaySample) ≤ clockDrift) :
    0 ≤ driftPenalty clockDrift ∧ driftPenalty clockDrift ≤ 153363117 := by
  have hK : (maxAverageDelaySample : Int) = 536870911 := rfl
  unfold driftPenalty
  split_ifs with hDrift
  · rw [Int.tdiv_eq_ediv_of_nonneg (by omega)]
    omega
  · decide

/-- The delay is valid exactly when one of the two bounds on it is. -/
theorem delayValid_iff {s : Conn} (h : AverageSound s.delay) (minRtt : Int) : DelayValid s minRtt ↔ 0 ≤ minRtt ∧
    ((s.delay.ourHist.getValue : Int) ≤ delayLimit s.win.targetDelay s.delay.clockDrift ∨
      (u32 minRtt : Int) ≤ delayLimit s.win.targetDelay s.delay.clockDrift) := by
  have hMax : (intMax : Int) = 2147483647 := rfl
  have hValue := DelayHist.getValue_le s.delay.ourHist
  have hRtt := u32_lt minRtt
  obtain ⟨hPenalty, hPenaltyHigh⟩ := driftPenalty_bound h.drift.1
  have hSame : s.penalty = driftPenalty s.delay.clockDrift := rfl
  have hDelay : s.ourDelay minRtt = i32 (min s.delay.ourHist.getValue (u32 minRtt) : Nat) := rfl
  have hOr : ((s.delay.ourHist.getValue : Int) ≤ delayLimit s.win.targetDelay s.delay.clockDrift ∨
      (u32 minRtt : Int) ≤ delayLimit s.win.targetDelay s.delay.clockDrift) ↔
      ((min s.delay.ourHist.getValue (u32 minRtt) : Nat) : Int) ≤
        delayLimit s.win.targetDelay s.delay.clockDrift := by
    omega
  rw [hOr]
  have hWide : min s.delay.ourHist.getValue (u32 minRtt) < 4294967296 := by omega
  generalize min s.delay.ourHist.getValue (u32 minRtt) = w at hDelay hWide
  have hTarget : 1 ≤ s.win.targetDelay → s.win.targetDelay ≤ intMax → s.target = s.win.targetDelay := by
    intro hPos hLe
    have hWhole : i32 s.win.targetDelay = s.win.targetDelay := i32_of_lt (by omega) (by omega)
    unfold Conn.target
    rw [hWhole, if_neg (by omega)]
  constructor
  · rintro ⟨hNonneg, hLow, hHigh, hSums⟩
    refine ⟨hNonneg, ?_⟩
    rw [hDelay] at hLow hHigh hSums
    have hSmall : w < 2147483648 := by
      by_contra hBig
      have hNegative := i32_of_ge (x := w) (by omega) (by omega)
      omega
    rw [i32_of_lt (by omega) (by omega)] at hHigh hSums
    unfold delayLimit
    split_ifs with hRange
    · have hSum := (hSums hRange.1 hRange.2).1.2
      rw [hSame] at hSum
      change (w : Int) + driftPenalty s.delay.clockDrift < 2147483648 at hSum
      omega
    · omega
  · rintro ⟨hNonneg, hLimit⟩
    have hTop : delayLimit s.win.targetDelay s.delay.clockDrift ≤ intMax - 1 := by
      unfold delayLimit
      split_ifs <;> omega
    have hWhole : s.ourDelay minRtt = w := hDelay.trans (i32_of_lt (by omega) (by omega))
    refine ⟨hNonneg, by omega, by omega, fun hPos hLe => ?_⟩
    rw [delayLimit, if_pos ⟨hPos, hLe⟩] at hLimit
    rw [hWhole, hSame, hTarget hPos hLe]
    unfold SignedOp.Fits
    dsimp only
    omega

namespace Conn

theorem delay_measureDelay (header : PacketFormatV1) (time : Nat) (minRtt : Int) (s : Conn) :
    (s.measureDelay header time minRtt).delay = (s.delay.sampled header time s.currentMs).clampToRtt minRtt ∧
      (s.measureDelay header time minRtt).win = s.win := by
  have hWin : ∀ (line : Nat) (ok : Bool) (t : Conn), (t.check line ok).win = t.win := fun line ok t =>
    congrArg Backdrop.win (backdrop_check line ok t)
  unfold measureDelay DelayState.sampled
  dsimp only
  split_ifs <;> simp [hWin]

/-- What is measured before `apply_ccontrol` is called. -/
theorem ccontrolCall_spec {env : Env} {d : Datagram} {a : AckPoint} {t : Conn} {b : AckedBytes}
    (h : ccontrolCall env d a = some (t, b)) :
    t.delay = (a.state.delay.sampled d.header a.time a.state.currentMs).clampToRtt b.minRtt ∧
      t.win = a.state.win ∧ QuietPath env .call a.state t ∧ a.state.countedAges env d a.selack ≠ [] ∧
      (∀ age ∈ a.state.countedAges env d a.selack, 0 < age ∧ age < 18446744073709551616) ∧
      b.minRtt = (a.state.countedAges env d a.selack).foldl (fun m age => min m (i64 age)) int64Max ∧
      a.state.controlled env d a = t.applyCcontrol b.ackedBytes b.minRtt := by
  unfold ccontrolCall at h
  dsimp only at h
  obtain ⟨-, -, -, hFirst⟩ := snd_countDuplicateAck env d.header a.state
  have hStart := path_countDuplicateAck env .call d.header a.state
  unfold countedAges controlled
  dsimp only
  generalize a.state.countDuplicateAck env d.header = u at h hFirst hStart
  obtain ⟨hCounted, -, hSecond⟩ := measureAcks_eq env d a.selack (a.state.acksOf d.header) u
  have hMeasured := path_measureAcks env .call d d.header a.selack (a.state.acksOf d.header) u
  generalize u.measureAcks env d d.header a.selack (a.state.acksOf d.header) = r at h hCounted hSecond hMeasured
  split_ifs at h with hCalled
  obtain ⟨rfl, rfl⟩ := Prod.mk.inj (Option.some.inj h)
  have hFrame := hSecond.trans hFirst
  obtain ⟨hDelay, hWin⟩ := delay_measureDelay d.header a.time r.1.minRtt r.2
  have hSame : r.2.delay = a.state.delay := congrArg Backdrop.delay hFrame
  have hClock : r.2.currentMs = a.state.currentMs := congrArg Backdrop.currentMs hFrame
  have hPath := (hStart.trans hMeasured).trans (path_measureDelay env .call d.header a.time r.1.minRtt r.2)
  refine ⟨?_, hWin.trans (congrArg Backdrop.win hFrame), hPath, fun hNil => ?_, fun age hMem => ?_, ?_, if_pos hCalled⟩
  · rw [hDelay, hSame, hClock]
  · obtain ⟨hNone, hNoMask⟩ := List.append_eq_nil_iff.1 hNil
    rw [List.map_eq_nil_iff.1 hNone, List.map_eq_nil_iff.1 hNoMask] at hCounted
    rw [hCounted] at hCalled
    simp at hCalled
  · rcases List.mem_append.1 hMem with hIn | hIn
    · obtain ⟨pkt, -, rfl⟩ := List.mem_map.1 hIn
      exact pkt.age_bound (u64_lt _)
    · obtain ⟨pkt, -, rfl⟩ := List.mem_map.1 hIn
      exact pkt.age_bound (u64_lt _)
  · rw [hCounted, minRtt_foldl, minRtt_foldl, List.foldl_append]

end Conn

/-- Every call of the congestion controller has a valid delay, and computes with it without an
overflow, exactly when the packets that the ack is counted for are young enough or the delays that
were recorded are small enough. -/
theorem ccontrol_delay_valid (env : Env) (c : Context) (hReach : c.Reachable env) (p : Nat) (sock : Socket)
    (hSock : c.Holds p sock) (d : Datagram) (a : AckPoint) (hPoint : (c.enter p sock).ackPoint env d = some a)
    (t : Conn) (b : AckedBytes) (hCall : Conn.ccontrolCall env d a = some (t, b)) :
    a.state.controlled env d a = t.applyCcontrol b.ackedBytes b.minRtt ∧
    (DelayValid t b.minRtt ↔
      DelayTame (a.state.countedAges env d a.selack)
        (a.state.delay.sampled d.header a.time a.state.currentMs).ourHist.getValue
        (delayLimit a.state.win.targetDelay
          (a.state.delay.sampled d.header a.time a.state.currentMs).clockDrift)) := by
  obtain ⟨hDelay, hWin, hQuiet, hSome, hAges, hRtt, hControlled⟩ := Conn.ccontrolCall_spec hCall
  refine ⟨hControlled, ?_⟩
  have hStart : AverageSound (c.enter p sock).delay :=
    (preserved_averageSound env).reachable hReach p sock hSock
  have hSound := (hStart.path (hReach.ok.core p sock hSock.1) hSock.2 (Conn.path_ackPoint hPoint)).quietPath hQuiet
  have hClamp : ∀ (x : DelayState), (x.clampToRtt b.minRtt).ourHist.getValue = x.ourHist.getValue ∧
      (x.clampToRtt b.minRtt).clockDrift = x.clockDrift := by
    intro x
    unfold DelayState.clampToRtt
    split_ifs <;> exact ⟨rfl, rfl⟩
  obtain ⟨hSign, hLeast⟩ := youngest_spec hSome hAges
  rw [delayValid_iff hSound, hDelay, hWin, (hClamp _).1, (hClamp _).2, hRtt, hSign]
  unfold DelayTame
  refine and_congr_right fun hSmall => or_congr_right ?_
  obtain ⟨hMem, hYoungest⟩ := hLeast hSmall
  constructor
  · exact fun hLimit => ⟨_, hMem, hYoungest, hLimit⟩
  · rintro ⟨age, hIn, hAll, hLimit⟩
    have hSame := le_antisymm (hYoungest age hIn) (hAll _ hMem)
    rwa [hSame]

/-- A byte is sent, and the peer reports two delays that are half the 32-bit space above the
first one. -/
def reportingOps : List Op :=
  [.createSocket, .connect 0 somePeer 1, .processUdp (delayedAck 77 7 5) somePeer, .writev 0 [[1]],
    .processUdp (delayedAck 77 7 2147483653) somePeer, .processUdp (delayedAck 77 7 2147483653) somePeer]

/-- The byte is acked at once. -/
theorem ccontrol_delay_valid_at_once : ∃ (c : Context) (sock : Socket) (a : AckPoint) (t : Conn) (b : AckedBytes),
    c.Reachable steadyEnv ∧ c.Holds 0 sock ∧
      (c.enter 0 sock).ackPoint steadyEnv (delayedAck 77 8 2147483653) = some a ∧
      Conn.ccontrolCall steadyEnv (delayedAck 77 8 2147483653) a = some (t, b) ∧ DelayValid t b.minRtt := by
  have hRun : ((utpInit true true).run steadyEnv reportingOps).any (fun c => (c.sockets 0).any fun sock =>
      sock.state == .connected && ((c.enter 0 sock).ackPoint steadyEnv (delayedAck 77 8 2147483653)).any fun a =>
        (Conn.ccontrolCall steadyEnv (delayedAck 77 8 2147483653) a).isSome &&
          decide (DelayTame (a.state.countedAges steadyEnv (delayedAck 77 8 2147483653) a.selack)
            (a.state.delay.sampled (delayedAck 77 8 2147483653).header a.time a.state.currentMs).ourHist.getValue
            (delayLimit a.state.win.targetDelay
              (a.state.delay.sampled (delayedAck 77 8 2147483653).header a.time
                a.state.currentMs).clockDrift))) = true := by
    decide +kernel
  obtain ⟨c, hReach, hOk⟩ := Context.Reachable.exists_of_run hRun
  obtain ⟨sock, hSock, hParts⟩ := (Option.any_eq_true _ _).1 hOk
  obtain ⟨hState, hThere⟩ := Bool.and_eq_true_iff.1 hParts
  obtain ⟨a, hPoint, hBoth⟩ := (Option.any_eq_true _ _).1 hThere
  obtain ⟨hCalled, hTame⟩ := Bool.and_eq_true_iff.1 hBoth
  obtain ⟨⟨t, b⟩, hCall⟩ := Option.isSome_iff_exists.1 hCalled
  have hHolds : c.Holds 0 sock := ⟨hSock, by rw [beq_iff_eq.1 hState]; nofun⟩
  have hValid := ccontrol_delay_valid steadyEnv c hReach 0 sock hHolds _ a hPoint t b hCall
  exact ⟨c, sock, a, t, b, hReach, hHolds, hPoint, hCall, hValid.2.2 (of_decide_eq_true hTame)⟩

/-- Fifty minutes pass between two operations. -/
def pausingEnv : Env := fun tick =>
  if tick < 25 then ⟨1000000, 1000000000, 7, 0, 1500, false, false⟩
  else ⟨4000000, 4000000000, 7, 0, 1500, false, false⟩

/-- The byte is acked after the pause, and the delay is negative. -/
theorem ccontrol_delay_invalid : ∃ (c : Context) (sock : Socket) (a : AckPoint) (t : Conn) (b : AckedBytes),
    c.Reachable pausingEnv ∧ c.Holds 0 sock ∧
      (c.enter 0 sock).ackPoint pausingEnv (delayedAck 77 8 2147483653) = some a ∧
      Conn.ccontrolCall pausingEnv (delayedAck 77 8 2147483653) a = some (t, b) ∧ ¬DelayValid t b.minRtt := by
  have hRun : ((utpInit true true).run pausingEnv reportingOps).any (fun c => (c.sockets 0).any fun sock =>
      sock.state == .connected && ((c.enter 0 sock).ackPoint pausingEnv (delayedAck 77 8 2147483653)).any fun a =>
        (Conn.ccontrolCall pausingEnv (delayedAck 77 8 2147483653) a).any fun r =>
          decide (r.1.ourDelay r.2.minRtt = -2147483648)) = true := by
    decide +kernel
  obtain ⟨c, hReach, hOk⟩ := Context.Reachable.exists_of_run hRun
  obtain ⟨sock, hSock, hParts⟩ := (Option.any_eq_true _ _).1 hOk
  obtain ⟨hState, hThere⟩ := Bool.and_eq_true_iff.1 hParts
  obtain ⟨a, hPoint, hBoth⟩ := (Option.any_eq_true _ _).1 hThere
  obtain ⟨⟨t, b⟩, hCall, hDelay⟩ := (Option.any_eq_true _ _).1 hBoth
  have hHolds : c.Holds 0 sock := ⟨hSock, by rw [beq_iff_eq.1 hState]; nofun⟩
  refine ⟨c, sock, a, t, b, hReach, hHolds, hPoint, hCall, fun hValid => ?_⟩
  have hLow := hValid.low
  rw [of_decide_eq_true hDelay] at hLow
  exact absurd hLow (by decide)

end Utp
