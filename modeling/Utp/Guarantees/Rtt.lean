import Utp.Invariant.Timer
import Utp.Guarantees.Queue

/-! The round trip estimate stays in range, and its 32-bit arithmetic is exact there. -/
namespace Utp

open Wrapping

/-- The round trip time of a packet that is acked now, in milliseconds. -/
def Conn.ertt (env : Env) (pkt : OutgoingPacket) (s : Conn) : Nat :=
  u32 (u64 (s.utpCallGetMicroseconds env - pkt.timeSent) / 1000 : Nat)

/-- Acknowledgments in a row, with the round trip times they sample. Whatever happens between two
of them leaves the estimate alone. -/
inductive AckRun : List Nat → Conn → Prop where
  | start (s : Conn) (hRtt : s.rtt.rtt = 0) (hVar : s.rtt.rttVar = 800) : AckRun [] s
  | acked {samples : List Nat} {s : Conn} (env : Env) (seq : Int) (pkt : OutgoingPacket) (prior : AckRun samples s)
      (hGet : s.snd.outbuf.get (u16 seq) = some pkt) (hOnce : pkt.transmissions = 1) :
      AckRun (samples ++ [s.ertt env pkt]) (s.ackPacket env seq).2
  | other {samples : List Nat} {s s' : Conn} (prior : AckRun samples s) (hRtt : s'.rtt.rtt = s.rtt.rtt)
      (hVar : s'.rtt.rttVar = s.rtt.rttVar) : AckRun samples s'

/-- The range of the estimate. -/
structure RttState.Within (B : Nat) (r : RttState) : Prop where
  rtt_le : r.rtt ≤ B + 7
  var_le : r.rttVar ≤ max 800 (B + 7)

/-- What one sample does to the estimate. The second half says that every 32-bit expression of the
update has the value it has in the integers. -/
structure RttState.Sampled (B ertt : Nat) (old new : RttState) : Prop extends new.Within B where
  between : old.rtt ≠ 0 → min (old.rttVar : Int) |(old.rtt : Int) - ertt| ≤ new.rttVar ∧
    new.rttVar ≤ max (old.rttVar : Int) |(old.rtt : Int) - ertt|
  rto_eq : new.rto = max (new.rtt + 4 * new.rttVar) 1000
  delta_exact : i32 (old.rtt - ertt) = old.rtt - ertt
  error_exact : i32 (|(old.rtt : Int) - ertt| - old.rttVar) = |(old.rtt : Int) - ertt| - old.rttVar
  var_exact : (new.rttVar : Int) = if old.rtt = 0 then ((ertt / 2 : Nat) : Int)
    else old.rttVar + (|(old.rtt : Int) - ertt| - old.rttVar).tdiv 4
  rtt_exact : new.rtt = if old.rtt = 0 then ertt else old.rtt - old.rtt / 8 + ertt / 8
  rto_exact : new.rtt + 4 * new.rttVar < 2 ^ 32

namespace RttState

variable {B ertt : Nat} {r : RttState}

/-- A quarter of the way from `x` to `y`, rounded towards `x`. -/
theorem quarter_between (x y : Int) : min x y ≤ x + (y - x).tdiv 4 ∧ x + (y - x).tdiv 4 ≤ max x y := by
  rcases Int.le_total x y with hLe | hLe
  · rw [Int.tdiv_eq_ediv_of_nonneg (by omega)]
    omega
  · obtain ⟨z, hz⟩ : ∃ z, y - x = -z := ⟨x - y, by omega⟩
    rw [hz, Int.neg_tdiv, Int.tdiv_eq_ediv_of_nonneg (by omega)]
    omega

/-- The average never passes the larger of its old value and the sample by more than its rounding. -/
theorem eighth_le (hRtt : r.rtt ≤ B + 7) (hSample : ertt ≤ B) : r.rtt - r.rtt / 8 + ertt / 8 ≤ B + 7 := by
  omega

/-- The error of a sample is within the same bound as the estimate. -/
theorem abs_sub_le (hRtt : r.rtt ≤ B + 7) (hSample : ertt ≤ B) : |(r.rtt : Int) - ertt| ≤ B + 7 :=
  abs_le.2 ⟨by omega, by omega⟩

theorem rtt_sample (ertt currentMs : Nat) (r : RttState) : (r.sample ertt currentMs).rtt =
    if r.rtt = 0 then ertt else u32 (r.rtt - (r.rtt / 8 : Nat) + (ertt / 8 : Nat)) := by
  unfold sample
  split_ifs <;> rfl

theorem rttVar_sample (ertt currentMs : Nat) (r : RttState) : (r.sample ertt currentMs).rttVar =
    if r.rtt = 0 then ertt / 2 else u32 (r.rttVar + (i32 (|i32 (r.rtt - ertt)| - r.rttVar)).tdiv 4) := by
  unfold sample
  split_ifs <;> rfl

theorem rto_sample (ertt currentMs : Nat) (r : RttState) : (r.sample ertt currentMs).rto =
    max (u32 ((r.sample ertt currentMs).rtt + (r.sample ertt currentMs).rttVar * 4)) 1000 := rfl

/-- In range, the average and the timeout are those of the integers. -/
theorem rtt_exact (hB : B < 2 ^ 28) (hRtt : r.rtt ≤ B + 7) (hSample : ertt ≤ B) (currentMs : Nat) :
    (r.sample ertt currentMs).rtt = if r.rtt = 0 then ertt else r.rtt - r.rtt / 8 + ertt / 8 := by
  rw [rtt_sample]
  split_ifs
  · rfl
  · unfold u32
    omega

/-- The timeout fits in 32 bits. -/
theorem rto_exact {new : RttState} (hB : B < 2 ^ 28) (hNew : new.Within B) :
    u32 (new.rtt + new.rttVar * 4) = new.rtt + 4 * new.rttVar := by
  have hRtt := hNew.rtt_le
  have hVar := hNew.var_le
  unfold u32
  omega

section Variance

variable (hB : B < 2 ^ 28) (h : r.Within B) (hSample : ertt ≤ B)
include hB h hSample

/-- The difference of estimate and sample fits in a signed integer. -/
theorem delta_exact : i32 (r.rtt - ertt) = r.rtt - ertt := by
  have hRtt := h.rtt_le
  exact i32_of_lt (by omega) (by omega)

/-- So does its distance from the variance. -/
theorem error_exact : i32 (|(r.rtt : Int) - ertt| - r.rttVar) = |(r.rtt : Int) - ertt| - r.rttVar := by
  have hAbs := abs_sub_le h.rtt_le hSample
  have hNonneg := abs_nonneg ((r.rtt : Int) - ertt)
  have hVar := h.var_le
  exact i32_of_lt (by omega) (by omega)

/-- The variance is computed in signed integers, and stored as an unsigned one that it does not wrap
around. -/
theorem var_exact (currentMs : Nat) : ((r.sample ertt currentMs).rttVar : Int) =
    if r.rtt = 0 then ((ertt / 2 : Nat) : Int)
    else r.rttVar + (|(r.rtt : Int) - ertt| - r.rttVar).tdiv 4 := by
  rw [rttVar_sample]
  split_ifs with hFirst
  · rfl
  · have hAbs := abs_sub_le h.rtt_le hSample
    have hNonneg := abs_nonneg ((r.rtt : Int) - ertt)
    have hVar := h.var_le
    obtain ⟨hLow, hHigh⟩ := quarter_between r.rttVar |(r.rtt : Int) - ertt|
    rw [delta_exact hB h hSample, error_exact hB h hSample]
    generalize (|(r.rtt : Int) - ertt| - r.rttVar).tdiv 4 = step at hLow hHigh
    unfold u32
    omega

/-- The new variance lies between the old one and the error of the sample. -/
theorem var_between (hLater : r.rtt ≠ 0) (currentMs : Nat) :
    min (r.rttVar : Int) |(r.rtt : Int) - ertt| ≤ (r.sample ertt currentMs).rttVar ∧
      (r.sample ertt currentMs).rttVar ≤ max (r.rttVar : Int) |(r.rtt : Int) - ertt| := by
  rw [var_exact hB h hSample currentMs, if_neg hLater]
  exact quarter_between r.rttVar |(r.rtt : Int) - ertt|

/-- A sample within the bound leaves an estimate within it. -/
theorem within_sample (currentMs : Nat) : (r.sample ertt currentMs).Within B := by
  have hRtt := h.rtt_le
  have hVar := h.var_le
  constructor
  · rw [rtt_exact hB hRtt hSample]
    split_ifs
    · omega
    · exact eighth_le hRtt hSample
  · by_cases hFirst : r.rtt = 0
    · rw [rttVar_sample, if_pos hFirst]
      omega
    · have hAbs := abs_sub_le hRtt hSample
      have hHigh := (var_between hB h hSample hFirst currentMs).2
      omega

/-- One sample keeps the estimate in range, without a wrap. -/
theorem sampled_sample (currentMs : Nat) : Sampled B ertt r (r.sample ertt currentMs) := by
  have hNew := within_sample hB h hSample currentMs
  have hRtt := hNew.rtt_le
  have hVar := hNew.var_le
  exact {
    toWithin := hNew
    between := fun hLater => var_between hB h hSample hLater currentMs
    rto_eq := by rw [rto_sample, rto_exact hB hNew]
    delta_exact := delta_exact hB h hSample
    error_exact := error_exact hB h hSample
    var_exact := var_exact hB h hSample currentMs
    rtt_exact := rtt_exact hB h.rtt_le hSample currentMs
    rto_exact := by omega }

end Variance

end RttState

namespace Conn

variable {env : Env} {s : Conn} {seq : Int} {pkt : OutgoingPacket}

/-- An ack restarts the timer with the estimate it leaves. -/
theorem rtt_removePacket (env : Env) (seq : Int) (pkt : OutgoingPacket) (s : Conn) :
    (s.removePacket env seq pkt).rtt = ((s.putPacket seq none).sampleRtt env pkt).restartTimer.rtt := by
  unfold removePacket
  dsimp only
  generalize ((s.putPacket seq none).sampleRtt env pkt).restartTimer = t
  unfold dischargeWindow
  split_ifs
  · rfl
  · exact congrArg Pulse.rtt (pulse_check 1419 _ _)

/-- A packet that was sent once is sampled when it is acked. -/
theorem rtt_ackPacket_once (env : Env) (hGet : s.snd.outbuf.get (u16 seq) = some pkt) (hOnce : pkt.transmissions = 1) :
    (s.ackPacket env seq).2.rtt = { s.rtt.sample (s.ertt env pkt) s.currentMs with
      retransmitTimeout := (s.rtt.sample (s.ertt env pkt) s.currentMs).rto
      rtoTimeout := u64 (s.currentMs + (s.rtt.sample (s.ertt env pkt) s.currentMs).rto) } := by
  have hSent : pkt.transmissions ≠ 0 := by omega
  have hSample : (s.putPacket (u16 seq) none).sampleRtt env pkt =
      { (s.putPacket (u16 seq) none).called with rtt := s.rtt.sample (s.ertt env pkt) s.currentMs } := if_pos hOnce
  rw [ackPacket_some env hGet, if_neg hSent]
  refine (rtt_removePacket env _ pkt s).trans ?_
  rw [hSample]
  rfl

/-- Any other ack leaves the estimate alone. -/
theorem rtt_ackPacket_again (env : Env) (hOther : ∀ pkt, s.snd.outbuf.get (u16 seq) = some pkt → pkt.transmissions ≠ 1) :
    (s.ackPacket env seq).2.rtt.rtt = s.rtt.rtt ∧ (s.ackPacket env seq).2.rtt.rttVar = s.rtt.rttVar ∧
      (s.ackPacket env seq).2.rtt.rto = s.rtt.rto := by
  cases hGet : s.snd.outbuf.get (u16 seq) with
  | none =>
      rw [ackPacket_none env hGet]
      exact ⟨rfl, rfl, rfl⟩
  | some pkt =>
      have hSample : (s.putPacket (u16 seq) none).sampleRtt env pkt = s.putPacket (u16 seq) none :=
        if_neg (hOther pkt hGet)
      rw [ackPacket_some env hGet]
      split_ifs
      · exact ⟨rfl, rfl, rfl⟩
      · have hRtt := rtt_removePacket env (u16 seq) pkt s
        rw [hSample] at hRtt
        dsimp only
        rw [hRtt]
        exact ⟨rfl, rfl, rfl⟩

theorem rtt_appendPacket (env : Env) (flags : Nat) (bytes : List UInt8) (s : Conn) :
    (s.appendPacket env flags bytes).rtt = s.rtt :=
  congrArg Pulse.rtt (pulse_check 1049 _ s)

end Conn

/-- The estimate is in range after any number of acknowledgments. -/
theorem AckRun.within {B : Nat} {samples : List Nat} {s : Conn} (h : AckRun samples s) (hB : B < 2 ^ 28)
    (hSamples : ∀ ertt ∈ samples, ertt ≤ B) : s.rtt.Within B := by
  induction h with
  | start s hRtt hVar => exact ⟨by omega, by omega⟩
  | @acked samples s env seq pkt prior hGet hOnce ih =>
      have hOld := ih fun ertt hMem => hSamples ertt (List.mem_append_left _ hMem)
      have hLast : s.ertt env pkt ≤ B := hSamples _ (List.mem_append_right _ (List.mem_singleton_self _))
      have hNew := RttState.within_sample hB hOld hLast s.currentMs
      rw [Conn.rtt_ackPacket_once env hGet hOnce]
      exact ⟨hNew.rtt_le, hNew.var_le⟩
  | other prior hRtt hVar ih => exact ⟨hRtt ▸ (ih hSamples).rtt_le, hVar ▸ (ih hSamples).var_le⟩

/-- An ack extends the run, by a sample or by nothing. -/
theorem AckRun.ackPacket {samples : List Nat} {s : Conn} (h : AckRun samples s) (env : Env) (seq : Int) :
    ∃ more, AckRun more (s.ackPacket env seq).2 := by
  by_cases hOnce : ∃ pkt, s.snd.outbuf.get (u16 seq) = some pkt ∧ pkt.transmissions = 1
  · obtain ⟨pkt, hGet, hSent⟩ := hOnce
    exact ⟨_, .acked env seq pkt h hGet hSent⟩
  · obtain ⟨hRtt, hVar, -⟩ := Conn.rtt_ackPacket_again env
      fun pkt hGet hSent => hOnce ⟨pkt, hGet, hSent⟩
    exact ⟨samples, .other h hRtt hVar⟩

section Transitions

variable {env : Env} {cause : Cause} {samples : List Nat} {s s' : Conn}

/-- What leaves the estimate alone adds no sample. -/
theorem AckRun.of_rtt (h : AckRun samples s) (hRtt : s'.rtt = s.rtt) : ∃ more, AckRun more s' :=
  ⟨samples, .other h (by rw [hRtt]) (by rw [hRtt])⟩

theorem AckRun.of_timer (h : AckRun samples s) (hTimer : s'.timer = s.timer) : ∃ more, AckRun more s' :=
  h.of_rtt (congrArg (fun t : Timer => t.rtt) hTimer)

/-- The bookkeeping takes no sample of the round trip. -/
theorem AckRun.quiet (h : AckRun samples s) (hStep : Quiet env cause s s') : ∃ more, AckRun more s' := by
  cases hStep with
  | check line ok hLine => exact h.of_timer (Conn.timer_check line ok s)
  | setsockopt opt val => cases opt <;> exact h.of_rtt rfl
  | probeLost hProbe => exact h.of_timer (Conn.timer_probeLost env s)
  | probePassed hProbe => exact h.of_timer (Conn.timer_probePassed env s)
  | fragmentation nextHopMtu => exact h.of_timer (Conn.timer_receiveIcmpFragmentation env nextHopMtu s)
  | startTimer =>
      unfold Conn.startTimer
      split_ifs
      · have hArmed : AckRun samples { s with
            rtt.retransmitTimeout := s.rtt.rto
            rtt.rtoTimeout := u64 (s.currentMs + s.rtt.rto) } := .other h rfl rfl
        exact hArmed.of_timer (Conn.timer_check 1006 (s.snd.curWindow = 0) _)
      · exact ⟨samples, h⟩
  | backoff timeout => exact ⟨samples, .other h rfl rfl⟩
  | hurry => exact ⟨samples, .other h rfl rfl⟩
  | ack hCause => exact h.of_timer (Conn.timer_sendAck env false s)
  | synAck d hCause hEmpty => exact h.of_timer (Conn.timer_sendAck env true s)
  | keepAlive hOpen hFin => exact h.of_timer (Conn.timer_sendKeepAlive env s)
  | _ => exact h.of_rtt rfl

theorem AckRun.moving (h : AckRun samples s) (hStep : Moving cause s s') : ∃ more, AckRun more s' := by
  cases hStep with
  | finAcked r hCause hFin hAcks => split_ifs <;> exact h.of_rtt rfl
  | icmpError =>
      unfold Conn.receiveIcmpError
      dsimp only
      split_ifs <;> exact h.of_rtt rfl
  | full hState hFull =>
      unfold Conn.markFull Conn.noteFull
      split_ifs
      exact h.of_rtt rfl
  | _ => exact h.of_rtt rfl

/-- By induction on the acks, each of which may add a sample. -/
theorem AckRun.ackSteps {header : PacketFormatV1} (h : AckRun samples s)
    (hRun : Relation.ReflTransGen (AckStep env header) s s') : ∃ more, AckRun more s' := by
  induction hRun with
  | refl => exact ⟨samples, h⟩
  | tail _ hStep ih =>
      obtain ⟨more, hMore⟩ := ih
      cases hStep with
      | acked hCount hAcked hSent =>
          obtain ⟨_, hAfter⟩ := hMore.ackPacket env _
          exact hAfter.of_rtt rfl
      | dropped hCount hNone => exact hMore.of_rtt rfl

/-- A selective ack may add a sample as well. -/
theorem AckRun.queueing (h : AckRun samples s) (hStep : Queueing env cause s s') : ∃ more, AckRun more s' := by
  cases hStep with
  | append bytes => exact h.of_rtt (Conn.rtt_appendPacket env stData bytes s)
  | appendFin => exact h.of_rtt (Conn.rtt_appendPacket env stFin [] { s with finSent := true })
  | fill pkt bytes =>
      exact h.of_rtt (congrArg Pulse.rtt ((Conn.pulse_check 1049 _ _).trans (Conn.pulse_check 1036 _ s)))
  | send v => exact h.of_timer (Conn.timer_sendPacket env v s)
  | acked _ r hCause hRun hFront => exact h.ackSteps hRun
  | sacked r mask bits hCause hMask hBits hSet hWindow hSent =>
      obtain ⟨_, hAfter⟩ := h.ackPacket env (r.d.header.ackNr + 2 + bits)
      exact hAfter.of_rtt rfl
  | lost i hIndex =>
      refine h.of_rtt ?_
      unfold Conn.losePacket
      dsimp only
      split
      · rfl
      · split_ifs
        · rfl
        · exact congrArg Pulse.rtt (Conn.pulse_check 1243 _ _)
  | advance r hCause => exact h.of_timer (Conn.timer_updateFastResend r.d.header s)
  | retried => exact h.of_rtt rfl
  | resent v => exact h.of_rtt rfl

/-- The end of the stream sets the timer and not the estimate. -/
theorem AckRun.drainStep {r : Received} (h : AckRun samples s) (hStep : DrainStep env r s s') :
    ∃ more, AckRun more s' := by
  have hDeliver : ∀ (body : List UInt8) (t : Conn), (t.deliver body).rtt = t.rtt := by
    intro body t
    unfold Conn.deliver
    dsimp only
    split_ifs <;> rfl
  cases hStep with
  | inOrder hOpen hType hOffset hDone => exact h.of_rtt (hDeliver _ _)
  | eof =>
      unfold Conn.reachEof
      split_ifs
      · have hMoved : AckRun samples (Conn.emit (.onStateChange .eof) { s with
            rcv.gotFinReached := true
            rtt.rtoTimeout := u64 (s.currentMs + (min (u32 (s.rtt.rto * 3)) 60 : Nat)) }) := .other h rfl rfl
        obtain ⟨_, hAcked⟩ := hMoved.of_timer (Conn.timer_sendAck env false _)
        exact hAcked.of_rtt rfl
      · exact ⟨samples, h⟩
  | take p hOpen hCount hGet =>
      exact h.of_rtt ((congrArg Pulse.rtt (Conn.pulse_check 2435 _ _)).trans (hDeliver _ _))

/-- What is received adds no sample. -/
theorem AckRun.receiving (h : AckRun samples s) (hStep : Receiving env cause s s') : ∃ more, AckRun more s' := by
  cases hStep with
  | synAcked r hCause hState => exact h.of_rtt rfl
  | fin r hCause hOpen =>
      unfold Conn.noteFin
      split_ifs <;> exact h.of_rtt rfl
  | drained _ r hCause hRun hDone =>
      clear hDone
      induction hRun with
      | refl => exact ⟨samples, h⟩
      | tail _ hStep ih =>
          obtain ⟨_, hMore⟩ := ih
          exact hMore.drainStep hStep
  | outOfOrder r hCause hOpen hType hOffset =>
      refine h.of_rtt ?_
      unfold Conn.receiveOutOfOrder
      split_ifs
      · rfl
      · rfl
      · dsimp only
        split_ifs
        · rfl
        · exact congrArg Pulse.rtt ((Conn.pulse_check 2499 _ _).trans (Conn.pulse_check 2498 _ _))

/-- So every transition goes on with the run. -/
theorem AckRun.trans (h : AckRun samples s) (hLive : s.Live) (hStep : Trans env cause s s') :
    ∃ more, AckRun more s' := by
  cases hStep with
  | setup hStep =>
      cases hStep with
      | initialise addr connSeed connIdRecv connIdSend hState => exact absurd hState hLive
      | dial hState hCount hPointer => exact ⟨samples, .other h rfl rfl⟩
      | accept d hCause hState hCount => exact h.of_rtt rfl
  | sending hStep =>
      cases hStep with
      | quiet hStep => exact h.quiet hStep
      | queueing hStep => exact h.queueing hStep
      | moving hStep => exact h.moving hStep
  | receiving hStep => exact h.receiving hStep

end Transitions

/-- The estimate of every socket is that of the samples it took. -/
theorem preserved_ackRun (env : Env) : Preserved env fun s => ∃ samples, AckRun samples s := by
  refine .of_trans ?_ ?_ ?_
  · intro s addr connSeed connIdRecv connIdSend hPristine _
    obtain ⟨targetDelay, optSndbuf, optRcvbuf, ssthresh, hEq⟩ := hPristine
    have hRtt : s.rtt = (utpCreateSocket targetDelay optSndbuf optRcvbuf).rtt :=
      (congrArg Socket.rtt hEq).trans rfl
    have hInit : (s.initializeSocket env addr connSeed connIdRecv connIdSend).rtt =
        { s.rtt with rttHist := .clear (s.updateCurrentMs env).currentMs } :=
      congrArg (fun t : Timer => t.rtt) (Conn.timer_mtuReset env _)
    refine ⟨[], .start _ ?_ ?_⟩
    · rw [hInit, hRtt]
      rfl
    · rw [hInit, hRtt]
      rfl
  · rintro cause s s' _ hLive ⟨samples, hRun⟩ hTrans
    exact hRun.trans hLive hTrans
  · rintro s currentMs tick ⟨samples, hRun⟩
    exact ⟨samples, .other hRun rfl rfl⟩

/-- Every sample of an acknowledgment leaves an estimate in range, computed without a wrap. A socket of a
reachable context has always come to its estimate by such samples. -/
theorem rtt_stays_in_range {B : Nat} (hB : B < 2 ^ 28) {samples : List Nat} (hSamples : ∀ ertt ∈ samples, ertt ≤ B)
    {s : Conn} (hRun : AckRun samples s) (env : Env) {seq : Int} {pkt : OutgoingPacket}
    (hGet : s.snd.outbuf.get (u16 seq) = some pkt) (hOnce : pkt.transmissions = 1) (hSample : s.ertt env pkt ≤ B) :
    RttState.Sampled B (s.ertt env pkt) s.rtt (s.ackPacket env seq).2.rtt ∧
      ∀ (c : Context) (p : Nat) (sock : Socket), c.Reachable env → c.Holds p sock →
        ∃ samples, AckRun samples (c.enter p sock) := by
  refine ⟨?_, fun c p sock hReach hSock => (preserved_ackRun env).reachable hReach p sock hSock⟩
  have hNew := RttState.sampled_sample hB (hRun.within hB hSamples) hSample s.currentMs
  rw [Conn.rtt_ackPacket_once env hGet hOnce]
  exact {
    rtt_le := hNew.rtt_le
    var_le := hNew.var_le
    between := hNew.between
    rto_eq := hNew.rto_eq
    delta_exact := hNew.delta_exact
    error_exact := hNew.error_exact
    var_exact := hNew.var_exact
    rtt_exact := hNew.rtt_exact
    rto_exact := hNew.rto_exact }

/-- A packet of ten bytes that was sent once. -/
def sentOnce (timeSent : Nat) : OutgoingPacket := ⟨30, 10, timeSent, 1, false, Conn.blankHeader, List.replicate 10 0⟩

/-- A new socket with two packets in flight, number 5 and number 6. -/
def twoInFlight : Conn where
  toSocket :=
    let sock := utpCreateSocket 100000 65536 65536
    { sock with
      snd.outbuf := (sock.snd.outbuf.put 5 (some (sentOnce 800000))).put 6 (some (sentOnce 880000))
      snd.curWindow := 20
      snd.curWindowPackets := 2
      snd.seqNr := 7 }
  currentMs := 1000
  onConnectSet := false
  tick := 0
  log := []

/-- The first packet takes 200 ms, the second one 120 ms. -/
theorem rtt_stays_in_range_two : ∃ s : Conn, AckRun [200] s ∧ s.ertt steadyEnv (sentOnce 880000) = 120 ∧
    RttState.Sampled 200 120 s.rtt (s.ackPacket steadyEnv 6).2.rtt ∧ (s.ackPacket steadyEnv 6).2.rtt.rtt = 190 ∧
      (s.ackPacket steadyEnv 6).2.rtt.rttVar = 95 := by
  have hFirst : twoInFlight.ertt steadyEnv (sentOnce 800000) = 200 := by decide +kernel
  have hGet : twoInFlight.snd.outbuf.get (u16 5) = some (sentOnce 800000) := by decide +kernel
  have hRun : AckRun [200] (twoInFlight.ackPacket steadyEnv 5).2 := by
    rw [← hFirst]
    exact .acked steadyEnv 5 _ (.start _ rfl rfl) hGet rfl
  have hNext : (twoInFlight.ackPacket steadyEnv 5).2.snd.outbuf.get (u16 6) = some (sentOnce 880000) := by
    decide +kernel
  have hSecond : (twoInFlight.ackPacket steadyEnv 5).2.ertt steadyEnv (sentOnce 880000) = 120 := by decide +kernel
  refine ⟨_, hRun, hSecond, ?_, by decide +kernel, by decide +kernel⟩
  rw [← hSecond]
  exact (rtt_stays_in_range (by decide) (by decide) hRun steadyEnv hNext rfl (by rw [hSecond]; decide)).1

end Utp
