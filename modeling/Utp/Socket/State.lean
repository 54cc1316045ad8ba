import Utp.Socket.Types

/-! Sockets, grouped by the part of the protocol that owns a field, and the state
in which the socket functions run: one socket, the context clock it shares, and
the record of its actions. -/
namespace Utp

open Wrapping

abbrev curDelaySize : Nat := 3
abbrev delayBaseHistory : Nat := 13

structure DelayHist where
  delayBase : Nat
  curDelayHist : List Nat
  curDelayIdx : Nat
  delayBaseHist : List Nat
  delayBaseIdx : Nat
  delayBaseTime : Nat
  delayBaseInitialized : Bool
  deriving DecidableEq, Repr

namespace DelayHist

def clear (currentMs : Nat) : DelayHist where
  delayBase := 0
  curDelayHist := List.replicate curDelaySize 0
  curDelayIdx := 0
  delayBaseHist := List.replicate delayBaseHistory 0
  delayBaseIdx := 0
  delayBaseTime := currentMs
  delayBaseInitialized := false

def shift (offset : Nat) (h : DelayHist) : DelayHist :=
  { h with
    delayBaseHist := h.delayBaseHist.map fun base => u32 (base + offset)
    delayBase := u32 (h.delayBase + offset) }

/-- Fill the whole history with the first sample ever seen. -/
def fillHistory (sample : Nat) (h : DelayHist) : DelayHist :=
  if h.delayBaseInitialized then h
  else
    { h with
      delayBaseHist := h.delayBaseHist.map fun _ => sample
      delayBase := sample
      delayBaseInitialized := true }

/-- Step the history once a minute and recompute the base as its minimum. -/
def stepBase (sample currentMs : Nat) (h : DelayHist) : DelayHist :=
  if u64 (currentMs - h.delayBaseTime) > 60 * 1000 then
    let idx := (h.delayBaseIdx + 1) % delayBaseHistory
    let hist := h.delayBaseHist.set idx sample
    { h with
      delayBaseTime := currentMs
      delayBaseIdx := idx
      delayBaseHist := hist
      delayBase := hist.foldl
        (fun (base entry : Nat) => if wrappingCompareLess entry base timestampMask then entry else base)
        (hist.getD 0 0) }
  else h

def addSample (sample currentMs : Nat) (h : DelayHist) : DelayHist :=
  let h := h.fillHistory sample
  let hist := if wrappingCompareLess sample (h.delayBaseHist.getD h.delayBaseIdx 0) timestampMask
    then h.delayBaseHist.set h.delayBaseIdx sample else h.delayBaseHist
  let base := if wrappingCompareLess sample h.delayBase timestampMask then sample else h.delayBase
  let delay := u32 (sample - base)
  stepBase sample currentMs
    { h with
      delayBaseHist := hist
      delayBase := base
      curDelayHist := h.curDelayHist.set h.curDelayIdx delay
      curDelayIdx := (h.curDelayIdx + 1) % curDelaySize }

def getValue (h : DelayHist) : Nat := h.curDelayHist.foldl (fun value delay => min delay value) 4294967295

end DelayHist

/-- The send queue and its retransmission state. -/
structure SendState where
  seqNr : Nat
  curWindowPackets : Nat
  curWindow : Nat
  outbuf : SizableCircularBuffer OutgoingPacket
  fastResendSeqNr : Nat
  timeoutSeqNr : Nat
  fastTimeout : Bool
  duplicateAck : Nat
  retransmitCount : Nat

/-- The reorder buffer and the end-of-stream state. -/
structure RecvState where
  ackNr : Nat
  inbuf : SizableCircularBuffer IncomingPacket
  reorderCount : Nat
  gotFin : Bool
  gotFinReached : Bool
  eofPkt : Nat
  readShutdown : Bool
  extensions : List UInt8

/-- The round-trip estimate and the retransmission timer it drives. -/
structure RttState where
  rtt : Nat
  rttVar : Nat
  rto : Nat
  rttHist : DelayHist
  retransmitTimeout : Nat
  rtoTimeout : Nat
  deriving DecidableEq, Repr

structure WindowState where
  maxWindow : Nat
  maxWindowUser : Nat
  optSndbuf : Nat
  slowStart : Bool
  ssthresh : Nat
  lastRwinDecay : Int
  lastMaxedOutWindow : Nat
  zerowindowTime : Nat
  targetDelay : Nat
  deriving DecidableEq, Repr

structure DelayState where
  ourHist : DelayHist
  theirHist : DelayHist
  replyMicro : Nat
  lastMeasuredDelay : Nat
  averageDelay : Int
  currentDelaySum : Int
  currentDelaySamples : Nat
  averageDelayBase : Nat
  averageSampleTime : Nat
  clockDrift : Int
  clockDriftRaw : Int
  deriving DecidableEq, Repr

/-- A `UTPSocket`. The index `ida` into the list of deferred acks lives in the
context, next to that list. -/
structure Socket where
  addr : PackedSockAddr
  connSeed : Nat
  connIdRecv : Nat
  connIdSend : Nat
  state : ConnState
  finSent : Bool
  finSentAcked : Bool
  closeRequested : Bool
  snd : SendState
  rcv : RecvState
  mtu : MtuState
  rtt : RttState
  win : WindowState
  delay : DelayState
  optRcvbuf : Nat
  lastRcvWin : Nat
  lastGotPacket : Nat
  lastSentPacket : Nat

/-- The answers of the embedding program to one round of callbacks. -/
structure Reading where
  milliseconds : Nat
  microseconds : Nat
  random : Nat
  readBufferSize : Nat
  udpMtu : Nat
  firewallBlocks : Bool
  backlogFull : Bool

/-- The embedding program during one run: its answers to the `n`-th callback. -/
abbrev Env := Nat → Reading

/-- A socket while one of its functions runs, with the context clock, the number
of callbacks made so far and the record of all its actions since it was created.
The flag tells whether `UTP_ON_CONNECT` is set; the Go wrapper leaves it unset. -/
structure Conn extends Socket where
  currentMs : Nat
  onConnectSet : Bool
  tick : Nat
  log : List Event

namespace Conn

def emit (e : Event) (s : Conn) : Conn := { s with log := s.log ++ [e] }

/-- An `assert` of the source, identified by its line. -/
def check (line : Nat) (ok : Bool) (s : Conn) : Conn := if ok then s else s.emit (.assertFailed line)

def called (s : Conn) : Conn := { s with tick := s.tick + 1 }

def utpCallGetMilliseconds (env : Env) (s : Conn) : Nat := u64 (env s.tick).milliseconds

def utpCallGetMicroseconds (env : Env) (s : Conn) : Nat := u64 (env s.tick).microseconds

def utpCallGetRandom (env : Env) (s : Conn) : Nat := u32 (env s.tick).random

def utpCallGetUdpMtu (env : Env) (s : Conn) : Nat := u16 (env s.tick).udpMtu

/-- `ctx->current_ms = utp_call_get_milliseconds(..)` -/
def updateCurrentMs (env : Env) (s : Conn) : Conn :=
  { s with currentMs := utpCallGetMilliseconds env s, tick := s.tick + 1 }

/-- Calculates the current receive window. -/
def getRcvWindow (env : Env) (s : Conn) : Nat :=
  let numbuf := u64 (env s.tick).readBufferSize
  if s.optRcvbuf > numbuf then s.optRcvbuf - numbuf else 0

/-- The max number of bytes of payload the connection is allowed to send. -/
def getPacketSize (s : Conn) : Nat :=
  let mtu := if s.mtu.last ≠ 0 then s.mtu.last else s.mtu.ceiling
  u64 (mtu - 20)

def setState (state : ConnState) (s : Conn) : Conn :=
  { s.emit (.moved s.state state s.rcv.ackNr) with state := state }

/-- Ask the context to put the socket on the list of deferred acks. -/
def scheduleAck (s : Conn) : Conn := s.emit .scheduleAck

end Conn

end Utp
