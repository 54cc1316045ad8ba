import Utp.Socket.Send

/-! Acknowledgments of queued packets, cumulative and selective, and the loss
recovery that a selective ack triggers. -/
namespace Utp

open Wrapping

/-- Feed one round trip time sample, in milliseconds, to the estimator. -/
def RttState.sample (ertt currentMs : Nat) (r : RttState) : RttState :=
  let r :=
    if r.rtt = 0 then { r with rtt := ertt, rttVar := ertt / 2 }
    else
      let delta := i32 (r.rtt - ertt)
      { r with
        rttVar := u32 (r.rttVar + (i32 (|delta| - r.rttVar)).tdiv 4)
        rtt := u32 (r.rtt - (r.rtt / 8 : Nat) + (ertt / 8 : Nat))
        rttHist := r.rttHist.addSample ertt currentMs }
  { r with rto := max (u32 (r.rtt + r.rttVar * 4)) 1000 }

namespace Conn

variable (env : Env)

/-- Update the RTT estimate if the packet was never re-sent. -/
def sampleRtt (pkt : OutgoingPacket) (s : Conn) : Conn :=
  if pkt.transmissions = 1 then
    let ertt := u32 (u64 (s.utpCallGetMicroseconds env - pkt.timeSent) / 1000 : Nat)
    { s.called with rtt := s.rtt.sample ertt s.currentMs }
  else s

/-- `rto_timeout = current_ms + rto` -/
def restartTimer (s : Conn) : Conn :=
  { s with
    rtt.retransmitTimeout := s.rtt.rto
    rtt.rtoTimeout := u64 (s.currentMs + s.rtt.rto) }

/-- A packet marked for resending has left the window already. -/
def dischargeWindow (pkt : OutgoingPacket) (s : Conn) : Conn :=
  if pkt.needResend then s
  else
    { s with snd.curWindow := sub64 s.snd.curWindow pkt.payload }.check 1419
      (s.snd.curWindow ≥ pkt.payload)

/-- Take an acked packet out of the queue and restart the timer. -/
def removePacket (seq : Int) (pkt : OutgoingPacket) (s : Conn) : Conn :=
  let s := ((s.putPacket seq none).sampleRtt env pkt).restartTimer.dischargeWindow pkt
  { s with snd.retransmitCount := 0 }

/-- Returns 0 if the packet was acked, 1 if it had already been acked, and 2 if
it has not been sent yet. -/
def ackPacket (seq : Int) (s : Conn) : Nat × Conn :=
  match s.snd.outbuf.get (u16 seq) with
  | none => (1, s)
  | some pkt => if pkt.transmissions = 0 then (2, s) else (0, s.removePacket env (u16 seq) pkt)

/-- Bits outside the window, the oldest packet included, are ignored by both
selective-ack routines. -/
def outsideWindow (v : Int) (s : Conn) : Bool :=
  u16 (s.snd.seqNr - v - 1) ≥ u16 (s.snd.curWindowPackets - 1)

end Conn

/-- A selective-ack mask inside a received buffer: where it starts and how many
bytes its extension block declares. -/
structure SackMask where
  off : Nat
  extLen : Nat

/-- `mask[bits>>3] & (1 << (bits & 7))` -/
def SackMask.bit (m : SackMask) (d : Datagram) (bits : Nat) : Bool :=
  (d.byte (m.off + bits / 8)).testBit (bits % 8)

/-- The byte of the mask that a test of `bits` reads. -/
def SackMask.access (m : SackMask) (bits : Nat) : Event := .readMask m.off (bits / 8) m.extLen

/-- What `selective_ack_bytes` accumulates. -/
structure AckedBytes where
  ackedBytes : Nat
  minRtt : Int

/-- Lower the round trip bound by the age of an acked packet. -/
def minRttOf (pkt : OutgoingPacket) (now : Nat) (minRtt : Int) : Int :=
  if pkt.timeSent < now then min minRtt (i64 (now - pkt.timeSent)) else min minRtt 50000

namespace Conn

variable (env : Env) (d : Datagram) (mask : SackMask) (base : Int)

/-- One turn of the loop of `selective_ack_bytes`, for a bit that may be -1. -/
def selectiveAckBytesAt (now : Nat) (bits : Int) (a : AckedBytes) (s : Conn) : AckedBytes × Conn :=
  if s.outsideWindow (base + bits) then (a, s)
  else
    match s.snd.outbuf.get (base + bits) with
    | none => (a, s)
    | some pkt =>
        if pkt.transmissions = 0 then (a, s)
        else if bits ≥ 0 then
          let s := s.emit (mask.access bits.toNat)
          if mask.bit d bits.toNat then
            (⟨a.ackedBytes + pkt.payload, minRttOf pkt now a.minRtt⟩, s)
          else (a, s)
        else (a, s)

/-- The loop of `selective_ack_bytes` from bit `n - 1` down to bit -1. -/
def selectiveAckBytesFrom (now : Nat) : Nat → AckedBytes → Conn → AckedBytes × Conn
  | 0, a, s => s.selectiveAckBytesAt d mask base now (-1) a
  | n + 1, a, s =>
      let r := s.selectiveAckBytesAt d mask base now n a
      selectiveAckBytesFrom now n r.1 r.2

/-- Count the number of bytes that were acked by the selective ack. The first bit
examined is the one just past the mask. -/
def selectiveAckBytes (a : AckedBytes) (s : Conn) : AckedBytes × Conn :=
  if s.snd.curWindowPackets = 0 then (a, s)
  else
    let now := s.utpCallGetMicroseconds env
    s.called.selectiveAckBytesFrom d mask base now (mask.extLen * 8 + 1) a

/-- What the bit loop of `selective_ack` accumulates: the number of set bits in
the window, and the stack of packets to resend, newest entry last. -/
structure EackScan where
  count : Nat
  resends : List Int

/-- Push on the stack of resends; a full stack loses its lower half first. -/
def EackScan.push (v : Int) (scan : EackScan) : EackScan :=
  let resends := if scan.resends.length ≥ maxEack - 2 then scan.resends.drop (maxEack / 2)
    else scan.resends
  { scan with resends := resends ++ [v] }

/-- We can only fast-resend a packet once, and only with three acks after it. -/
def shouldResend (v : Int) (scan : EackScan) (s : Conn) : Bool :=
  u16 (v - s.snd.fastResendSeqNr) ≤ outgoingBufferMaxSize && scan.count ≥ duplicateAcksBeforeResend

/-- One turn of the bit loop of `selective_ack`, for a bit that may be -1. -/
def selectiveAckAt (bits : Int) (scan : EackScan) (s : Conn) : EackScan × Conn :=
  let v := base + bits
  if s.outsideWindow v then (scan, s)
  else
    let bitSet := bits ≥ 0 && mask.bit d bits.toNat
    let s := if bits ≥ 0 then s.emit (mask.access bits.toNat) else s
    let scan := if bitSet then { scan with count := scan.count + 1 } else scan
    match s.snd.outbuf.get v with
    | none => (scan, s)
    | some pkt =>
        if pkt.transmissions = 0 then (scan, s)
        else if bitSet then
          let s := s.check 1553 (s.snd.outbuf.slot v ≠
            s.snd.outbuf.slot (s.snd.seqNr - s.snd.curWindowPackets))
          (scan, (s.ackPacket env v).2.emit (.sacked (u16 v) s.mtu.probeSeq))
        else if s.shouldResend v scan then (scan.push v, s)
        else (scan, s)

/-- The bit loop of `selective_ack` from bit `n - 1` down to bit -1. -/
def selectiveAckFrom : Nat → EackScan → Conn → EackScan × Conn
  | 0, scan, s => s.selectiveAckAt env d mask base (-1) scan
  | n + 1, scan, s =>
      let r := s.selectiveAckAt env d mask base n scan
      selectiveAckFrom n r.1 r.2

/-- Re-send at most four packets from the top of the stack; the count is that of
the packets sent so far. -/
def resendLoop : List Int → Nat → Conn → Nat × Conn
  | [], i, s => (i, s)
  | v :: rest, i, s =>
      match s.snd.outbuf.get v with
      | none => resendLoop rest i s
      | some _ =>
          let s := s.sendPacket env v
          let s := { s with snd.fastResendSeqNr := u16 (v + 1) }
          if i + 1 ≥ 4 then (i + 1, s) else resendLoop rest (i + 1) s

/-- If we can, decay the congestion window. -/
def maybeDecayWin (s : Conn) : Conn :=
  if s.currentMs - s.win.lastRwinDecay ≥ maxWindowDecay then
    let maxWindow := max (s.win.maxWindow / 2) minWindowSize
    { s with
      win.maxWindow := maxWindow
      win.lastRwinDecay := s.currentMs
      win.slowStart := false
      win.ssthresh := maxWindow }
  else s

/-- Process a selective ack. The base is two past the cumulative ack. -/
def selectiveAck (s : Conn) : Conn :=
  if s.snd.curWindowPackets = 0 then s
  else
    let r := s.selectiveAckFrom env d mask base (mask.extLen * 8) ⟨0, []⟩
    let scan := r.1
    let s := r.2
    let resends := if s.shouldResend (base - 1) scan
      then scan.resends ++ [((u16 (base - 1) : Nat) : Int)] else scan.resends
    let r := s.resendLoop env resends.reverse 0
    let s := if r.1 > 0 then r.2.maybeDecayWin else r.2
    { s with snd.duplicateAck := scan.count % 256 }

end Conn

end Utp
