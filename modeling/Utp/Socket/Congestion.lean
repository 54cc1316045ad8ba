import Utp.Socket.Timeouts

/-! Delay measurement, clock drift and the congestion window. The window gain is
computed in floating point, as in the source. -/
namespace Utp

open Wrapping

namespace DelayState

/-- Record the delay of the peer's packet, to report back, and compensate our own
base delay for the clock skew it shows. -/
def noteTheirDelay (tvUsec time currentMs : Nat) (d : DelayState) : DelayState :=
  let theirDelay := if tvUsec = 0 then 0 else u32 (time - tvUsec)
  let prevDelayBase := d.theirHist.delayBase
  let theirHist := if theirDelay ≠ 0 then d.theirHist.addSample theirDelay currentMs else d.theirHist
  let shifted := prevDelayBase ≠ 0 &&
    wrappingCompareLess theirHist.delayBase prevDelayBase timestampMask &&
    u32 (prevDelayBase - theirHist.delayBase) ≤ 10000
  { d with
    lastMeasuredDelay := currentMs
    replyMicro := theirDelay
    theirHist := theirHist
    ourHist := if shifted then d.ourHist.shift (u32 (prevDelayBase - theirHist.delayBase))
      else d.ourHist }

/-- The distance of a delay sample from the baseline of the average, clamped to
the range this average can represent. -/
def averageDelaySample (actualDelay : Nat) (d : DelayState) : Int :=
  let distDown := u32 (d.averageDelayBase - actualDelay)
  let distUp := u32 (actualDelay - d.averageDelayBase)
  if distDown > distUp then (min distUp maxAverageDelaySample : Nat)
  else -(min distDown maxAverageDelaySample : Nat)

/-- How far the two samples are moved to keep zero between them. -/
def adjustment (prev current : Int) : Int :=
  if min prev current > 0 then -(min prev current)
  else if max prev current < 0 then -(max prev current)
  else 0

/-- Write a new average every five seconds and update the clock drift. -/
def updateAverage (d : DelayState) : DelayState :=
  let average := i32 (d.currentDelaySum.tdiv d.currentDelaySamples)
  let adjust := adjustment d.averageDelay average
  let drift := i32 (average + adjust - (d.averageDelay + adjust))
  { d with
    averageDelay := average + adjust
    averageSampleTime := u64 (5000 + d.averageSampleTime)
    currentDelaySum := 0
    currentDelaySamples := 0
    averageDelayBase := u32 (d.averageDelayBase - adjust)
    clockDrift := i32 ((d.clockDrift * 7 + drift).tdiv 8)
    clockDriftRaw := drift }

/-- Accumulate one sample of our own delay as the peer measured it. -/
def noteActualDelay (actualDelay currentMs : Nat) (d : DelayState) : DelayState :=
  let d := { d with ourHist := d.ourHist.addSample actualDelay currentMs }
  let d := if d.averageDelayBase = 0 then { d with averageDelayBase := actualDelay } else d
  { d with
    currentDelaySum := d.currentDelaySum + d.averageDelaySample actualDelay
    currentDelaySamples := d.currentDelaySamples + 1 }

/-- If the delay estimate exceeds the RTT, adjust the base delay to compensate. -/
def clampToRtt (minRtt : Int) (d : DelayState) : DelayState :=
  if d.ourHist.getValue > minRtt then
    { d with ourHist := d.ourHist.shift (u32 (d.ourHist.getValue - minRtt)) }
  else d

end DelayState

namespace Conn

/-- `-INT_MAX < sum / samples < INT_MAX`, asserted before an average is written. -/
def averageInRange (d : DelayState) : Bool :=
  d.currentDelaySum.tdiv d.currentDelaySamples < intMax &&
    d.currentDelaySum.tdiv d.currentDelaySamples > -intMax

/-- `uint32(pf1->reply_micro)==INT_MAX?0:uint32(pf1->reply_micro)` -/
def actualDelay (header : PacketFormatV1) : Nat :=
  if header.replyMicro = intMax then 0 else header.replyMicro

/-- The delay bookkeeping of `utp_process_incoming`, in both directions. -/
def measureDelay (header : PacketFormatV1) (time : Nat) (minRtt : Int) (s : Conn) : Conn :=
  let s := { s with delay := s.delay.noteTheirDelay header.tvUsec time s.currentMs }
  let s :=
    if actualDelay header ≠ 0 then
      let s := { s with delay := s.delay.noteActualDelay (actualDelay header) s.currentMs }
      if s.currentMs > s.delay.averageSampleTime then
        let s := s.check 2086 (averageInRange s.delay)
        { s with delay := s.delay.updateAverage }
      else s
    else s
  let s := s.check 2160 (minRtt ≥ 0)
  { s with delay := s.delay.clampToRtt minRtt }

/-- Our delay in microseconds, which can never be greater than the RTT. -/
def ourDelay (minRtt : Int) (s : Conn) : Int := i32 (min s.delay.ourHist.getValue (u32 minRtt) : Nat)

/-- The penalty delay for a peer whose clock runs slower than ours. -/
def penalty (s : Conn) : Int :=
  if s.delay.clockDrift < -200000 then (-s.delay.clockDrift - 200000).tdiv 7 else 0

/-- The fraction of the window that an ack represents. -/
def windowFactor (bytesAcked : Nat) (s : Conn) : Float :=
  Float.ofNat (min bytesAcked s.win.maxWindow) / Float.ofNat (max s.win.maxWindow bytesAcked)

/-- The gain of the congestion window, in bytes, before it is limited. -/
def rawGain (bytesAcked : Nat) (delay target : Int) (s : Conn) : Float :=
  Float.ofNat maxCwndIncreaseBytesPerRtt * s.windowFactor bytesAcked *
    (Float.ofInt (target - delay) / Float.ofInt target)

/-- The gain is zero while we are not sending at capacity. -/
def scaledGain (bytesAcked : Nat) (delay target : Int) (s : Conn) : Float :=
  let gain := s.rawGain bytesAcked delay target
  if gain > 0 && u64 (s.currentMs - s.win.lastMaxedOutWindow) > 1000 then 0 else gain

/-- The window that the delay based controller asks for. -/
def ledbatCwnd (gain : Float) (s : Conn) : Nat :=
  let cwnd := Float.ofNat s.win.maxWindow + gain
  if cwnd < Float.ofNat minWindowSize then minWindowSize else cwnd.toUInt64.toNat

/-- The congestion window before it is clamped, with the slow start state. -/
def growWindow (bytesAcked : Nat) (delay target : Int) (ledbat : Nat) (s : Conn) : Conn :=
  if s.win.slowStart then
    let ssCwnd := (Float.ofNat s.win.maxWindow +
      s.windowFactor bytesAcked * Float.ofNat s.getPacketSize).toUInt64.toNat
    if ssCwnd > s.win.ssthresh then { s with win.slowStart := false }
    else if Float.ofInt delay > Float.ofInt target * 0.9 then
      { s with win.slowStart := false, win.ssthresh := s.win.maxWindow }
    else { s with win.maxWindow := max ssCwnd ledbat }
  else { s with win.maxWindow := ledbat }

def clampWindow (s : Conn) : Conn :=
  { s with win.maxWindow := max (min s.win.maxWindow s.win.optSndbuf) minWindowSize }

/-- The target delay in microseconds; values that are not positive mean 100 ms. -/
def target (s : Conn) : Int := if i32 s.win.targetDelay ≤ 0 then 100000 else i32 s.win.targetDelay

/-- The congestion control. The sum of the delay and the penalty is an exact integer here, as are the
differences that the gain is made of. The source adds the penalty to a signed 32-bit variable, where an
overflow is undefined; for which inputs there is none is stated with the range of the delay. -/
def applyCcontrol (bytesAcked : Nat) (minRtt : Int) (s : Conn) : Conn :=
  let s := s.check 1645 (minRtt ≥ 0)
  let s := s.check 1647 (s.ourDelay minRtt ≠ intMax)
  let s := s.check 1648 (s.ourDelay minRtt ≥ 0)
  let delay := s.ourDelay minRtt + s.penalty
  let s := s.check 1693 (bytesAcked > 0)
  let s := s.check 1704 (s.rawGain bytesAcked delay s.target ≤
    1 + Float.ofNat maxCwndIncreaseBytesPerRtt * Float.ofNat (min bytesAcked s.win.maxWindow) /
      Float.ofNat (max s.win.maxWindow bytesAcked))
  let ledbat := s.ledbatCwnd (s.scaledGain bytesAcked delay s.target)
  (s.growWindow bytesAcked delay s.target ledbat).clampWindow

end Conn

end Utp
