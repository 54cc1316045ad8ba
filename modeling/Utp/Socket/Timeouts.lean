import Utp.Socket.Ack

/-! The periodic timer of a socket. -/
namespace Utp

open Wrapping

namespace Conn

variable (env : Env)

/-- Consider the `i`-th newest packet of the queue lost. -/
def losePacket (i : Nat) (s : Conn) : Conn :=
  let v : Int := s.snd.seqNr - i - 1
  match s.snd.outbuf.get v with
  | none => s
  | some pkt =>
      if pkt.transmissions = 0 || pkt.needResend then s
      else
        { s with
          snd.outbuf := s.snd.outbuf.put v (some { pkt with needResend := true })
          snd.curWindow := sub64 s.snd.curWindow pkt.payload }.check 1243
            (s.snd.curWindow ≥ pkt.payload)

/-- Consider `count` packets lost, from the `i`-th newest on. -/
def loseFrom : Nat → Nat → Conn → Conn
  | 0, _, s => s
  | count + 1, i, s => loseFrom count (i + 1) (s.losePacket i)

/-- We only had a single outstanding packet that timed out, and it was the probe. -/
def ignoreLoss (s : Conn) : Bool :=
  s.snd.curWindowPackets == 1 && u16 (s.snd.seqNr - 1) == s.mtu.probeSeq && s.mtu.probeSeq != 0

/-- A timeout ends the current probe, and counts against its size if the probe
was the only packet outstanding. -/
def probeTimeout (s : Conn) : Conn :=
  let s := if s.ignoreLoss then s.probeLost env else s
  { s with mtu := s.mtu.clearProbe }

/-- Shrink the congestion window after a timeout. -/
def timeoutWindow (s : Conn) : Conn :=
  let packetSize := i32 s.getPacketSize
  let s := { s with snd.duplicateAck := 0 }
  if s.snd.curWindowPackets = 0 && i32 s.win.maxWindow > packetSize then
    { s with win.maxWindow := max (s.win.maxWindow * 2 / 3) (u64 packetSize) }
  else { s with win.maxWindow := u64 packetSize, win.slowStart := true }

/-- Re-send the oldest packet after a timeout and enter fast-timeout mode. -/
def timeoutResend (s : Conn) : Conn :=
  if s.snd.curWindowPackets > 0 then
    let s := { s with
      snd.retransmitCount := u16 (s.snd.retransmitCount + 1)
      snd.fastTimeout := true
      snd.timeoutSeqNr := s.snd.seqNr }
    let v : Int := s.snd.seqNr - s.snd.curWindowPackets
    (s.check 1259 (s.snd.outbuf.get v).isSome).sendPacket env v
  else s

/-- Too many consecutive transmissions have timed out. -/
def givesUp (s : Conn) : Bool :=
  s.snd.retransmitCount ≥ 4 || (s.state == .synSent && s.snd.retransmitCount ≥ 2)

/-- The connection is over: the state it goes to depends on whether the user
still holds the socket. -/
def abandon (s : Conn) : Conn := s.setState (if s.closeRequested then .destroy else .reset)

/-- The timeout branch of `check_timeouts`. The flag tells that the connection
was given up and the rest of the check is skipped. -/
def onTimeout (s : Conn) : Bool × Conn :=
  let ignore := s.ignoreLoss
  let s := s.probeTimeout env
  let newTimeout := if ignore then s.rtt.retransmitTimeout else u32 (s.rtt.retransmitTimeout * 2)
  if s.state = .synRecv then (true, (s.setState .destroy).emit (.onError .etimedout))
  else if s.givesUp then (true, s.abandon.emit (.onError .etimedout))
  else
    let s := { s with
      rtt.retransmitTimeout := newTimeout
      rtt.rtoTimeout := u64 (s.currentMs + newTimeout) }
    let s := if ignore then s else s.timeoutWindow
    (false, (s.loseFrom s.snd.curWindowPackets 0).timeoutResend env)

/-- The guard of the timeout branch; a zero deadline means that it is disarmed. -/
def rtoExpired (s : Conn) : Bool := i32 (s.currentMs - s.rtt.rtoTimeout) ≥ 0 && s.rtt.rtoTimeout > 0

/-- Reset a zero peer window after its timer ran out. -/
def resetZeroWindow (s : Conn) : Conn :=
  if i32 (s.currentMs - s.win.zerowindowTime) ≥ 0 && s.win.maxWindowUser = 0 then
    { s with win.maxWindowUser := packetSize }
  else s

/-- Mark the socket as writable if it has room in the window again. -/
def makeWritable (s : Conn) : Conn :=
  if s.state = .connectedFull then
    if s.isFull (-1) then s.noteFull (-1)
    else (s.setState .connected).emit (.onStateChange .writable)
  else s

def keepAliveIfIdle (s : Conn) : Conn :=
  if s.state.rank ≥ ConnState.connected.rank && !s.finSent &&
      i32 (s.currentMs - s.lastSentPacket) ≥ keepaliveInterval then s.sendKeepAlive env
  else s

/-- The slot of the oldest packet of a nonempty queue is occupied. -/
def frontQueued (s : Conn) : Bool :=
  s.snd.curWindowPackets == 0 ||
    (s.snd.outbuf.get (s.snd.seqNr - s.snd.curWindowPackets)).isSome

/-- The timers of a connection that is being set up or is up. -/
def runTimers (s : Conn) : Conn :=
  let s := s.resetZeroWindow
  let r := if s.rtoExpired then s.onTimeout env else (false, s)
  if r.1 then r.2 else r.2.makeWritable.keepAliveIfIdle env

def checkTimeouts (s : Conn) : Conn :=
  let s := s.check 1133 s.frontQueued
  let s := if s.state ≠ .destroy then s.flushPackets env else s
  match s.state with
  | .synSent | .synRecv | .connectedFull | .connected => s.runTimers env
  | .uninitialized | .idle | .reset | .destroy => s

end Conn

end Utp
