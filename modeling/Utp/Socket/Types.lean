import Utp.Library.CellRing
import Utp.Library.Wrapping

/-! The data model of `utp_internal.cpp`: wire headers, buffers, sockets, and the
record of everything a socket does to its surroundings. -/
namespace Utp

open Wrapping

/-- Packet types, the high nibble of the first header byte. -/
abbrev stData : Nat := 0
abbrev stFin : Nat := 1
abbrev stState : Nat := 2
abbrev stReset : Nat := 3
abbrev stSyn : Nat := 4
abbrev stNumStates : Nat := 5

/-- Limits that the source defines as macros. -/
abbrev reorderBufferMaxSize : Nat := 1024
abbrev outgoingBufferMaxSize : Nat := 1024
abbrev packetSize : Nat := 1435
abbrev minWindowSize : Nat := 10
abbrev duplicateAcksBeforeResend : Nat := 3
abbrev ackNrAllowedWindow : Nat := duplicateAcksBeforeResend
abbrev maxWindowDecay : Nat := 100
abbrev mtuFloorMin : Nat := 576
abbrev maxEack : Nat := 128
abbrev keepaliveInterval : Nat := 29000
abbrev timeoutCheckInterval : Nat := 500
abbrev rstInfoTimeout : Nat := 10000
abbrev rstInfoLimit : Nat := 1000
abbrev intMax : Nat := 2147483647
abbrev int64Max : Nat := 9223372036854775807
abbrev maxAverageDelaySample : Nat := intMax / 4
abbrev maxCwndIncreaseBytesPerRtt : Nat := 3000
abbrev utpUdpDontfrag : Nat := 2

inductive ConnState where
  | uninitialized | idle | synSent | synRecv | connected | connectedFull | reset | destroy
  deriving DecidableEq, Repr

/-- The numeric order of the enumeration, used by `state >= CS_CONNECTED`. -/
def ConnState.rank : ConnState → Nat
  | .uninitialized => 0
  | .idle => 1
  | .synSent => 2
  | .synRecv => 3
  | .connected => 4
  | .connectedFull => 5
  | .reset => 6
  | .destroy => 7

/-- The first twenty bytes of every packet, in host byte order. The version
byte is kept as its two nibbles. -/
structure PacketFormatV1 where
  type : Nat
  version : Nat
  ext : Nat
  connid : Nat
  tvUsec : Nat
  replyMicro : Nat
  windowsize : Nat
  seqNr : Nat
  ackNr : Nat
  deriving DecidableEq, Repr

/-- A packet handed to `sendto`: the header and whatever follows it. -/
structure Wire where
  header : PacketFormatV1
  tail : List UInt8
  deriving DecidableEq, Repr

def be16 (n : Nat) : List UInt8 := [UInt8.ofNat (n / 256), UInt8.ofNat n]

def be32 (n : Nat) : List UInt8 := be16 (n / 65536) ++ be16 n

def PacketFormatV1.encode (h : PacketFormatV1) : List UInt8 :=
  UInt8.ofNat (h.type * 16 + h.version) :: UInt8.ofNat h.ext :: (be16 h.connid ++ be32 h.tvUsec ++
    be32 h.replyMicro ++ be32 h.windowsize ++ be16 h.seqNr ++ be16 h.ackNr)

def Wire.bytes (w : Wire) : List UInt8 := w.header.encode ++ w.tail

/-- A received buffer: the memory from the buffer pointer on, and the length
that the caller passed with it. Memory past the length has arbitrary contents. -/
structure Datagram where
  mem : Nat → UInt8
  len : Nat

namespace Datagram

def byte (d : Datagram) (i : Nat) : Nat := (d.mem i).toNat

def read16 (d : Datagram) (i : Nat) : Nat := d.byte i * 256 + d.byte (i + 1)

def read32 (d : Datagram) (i : Nat) : Nat := d.read16 i * 65536 + d.read16 (i + 2)

def header (d : Datagram) : PacketFormatV1 where
  type := d.byte 0 / 16
  version := d.byte 0 % 16
  ext := d.byte 1
  connid := d.read16 2
  tvUsec := d.read32 4
  replyMicro := d.read32 8
  windowsize := d.read32 12
  seqNr := d.read16 16
  ackNr := d.read16 18

/-- The bytes from `off` to the end of the buffer. -/
def drop (d : Datagram) (off : Nat) : List UInt8 :=
  (List.range (d.len - off)).map fun i => d.mem (off + i)

/-- A buffer whose first bytes are `bytes`, with `beyond` in the memory after them. -/
def ofList (bytes : List UInt8) (beyond : Nat → UInt8) : Datagram where
  mem := fun i => bytes.getD i (beyond i)
  len := bytes.length

end Datagram

structure PackedSockAddr where
  in6 : List UInt8
  port : Nat
  deriving DecidableEq, Repr

/-- A queued outgoing packet: the bookkeeping fields, then the header and the
payload bytes that the source keeps in `data`. The count of transmissions has 31
bits in the source; here it does not wrap. -/
structure OutgoingPacket where
  length : Nat
  payload : Nat
  timeSent : Nat
  transmissions : Nat
  needResend : Bool
  header : PacketFormatV1
  body : List UInt8
  deriving DecidableEq, Repr

/-- A packet waiting in the reorder buffer. The source stores the length and the
bytes; the number it arrived with is kept here as well, for specifications. -/
structure IncomingPacket where
  seqNr : Nat
  body : List UInt8
  deriving DecidableEq, Repr

/-- The circular buffer of the source, whose size is a power of two. -/
structure SizableCircularBuffer (α : Type) extends CellRing α where
  size_pow : ∃ k, cells.length = 2 ^ k

namespace SizableCircularBuffer

variable {α : Type}

def mask (b : SizableCircularBuffer α) : Nat := b.toCellRing.size - 1

def size (b : SizableCircularBuffer α) : Nat := b.mask + 1

def get (b : SizableCircularBuffer α) (i : Int) : Option α := b.toCellRing.read i

def put (b : SizableCircularBuffer α) (i : Int) (v : Option α) : SizableCircularBuffer α where
  toCellRing := b.toCellRing.write i v
  size_pow := by simpa [CellRing.write] using b.size_pow

/-- `do size *= 2; while (index >= size);` The fuel bounds the doublings. -/
def growSize (index : Nat) : Nat → Nat → Nat
  | 0, size => size * 2
  | fuel + 1, size => if index ≥ size * 2 then growSize index fuel (size * 2) else size * 2

theorem growSize_pow (index fuel : Nat) {size : Nat} (h : ∃ k, size = 2 ^ k) :
    ∃ k, growSize index fuel size = 2 ^ k := by
  induction fuel generalizing size with
  | zero =>
      obtain ⟨k, rfl⟩ := h
      exact ⟨k + 1, (pow_succ 2 k).symm⟩
  | succ fuel ih =>
      obtain ⟨k, rfl⟩ := h
      rw [growSize]
      split_ifs
      · exact ih ⟨k + 1, (pow_succ 2 k).symm⟩
      · exact ⟨k + 1, (pow_succ 2 k).symm⟩

theorem growSize_pos (index fuel : Nat) (b : SizableCircularBuffer α) :
    0 < growSize index fuel b.toCellRing.size := by
  obtain ⟨k, hk⟩ := growSize_pow index fuel b.size_pow
  have h : growSize index fuel b.toCellRing.size = 2 ^ k := hk
  rw [h]
  positivity

/-- Copy the old elements from `item - index` on into a buffer that has room
for `index`. -/
def grow (b : SizableCircularBuffer α) (item : Int) (index : Nat) : SizableCircularBuffer α where
  toCellRing := b.toCellRing.rehome (growSize index index b.toCellRing.size)
    (growSize_pos index index b) (item - index)
  size_pow := by
    obtain ⟨k, hk⟩ := growSize_pow index index b.size_pow
    exact ⟨k, (CellRing.size_rehome ..).trans hk⟩

def ensureSize (b : SizableCircularBuffer α) (item : Int) (index : Nat) : SizableCircularBuffer α :=
  if index > b.mask then b.grow item index else b

/-- The sixteen empty slots allocated by `utp_create_socket`. -/
def calloc16 : SizableCircularBuffer α where
  toCellRing := CellRing.empty 16 (by decide)
  size_pow := ⟨4, by simp [CellRing.empty]⟩

end SizableCircularBuffer

/-- `true` if `lhs` is less than `rhs`, taking wrapping into account. -/
def wrappingCompareLess (lhs rhs : Int) (mask : Nat) : Bool :=
  let distDown := (lhs - rhs) % (mask + 1)
  let distUp := (rhs - lhs) % (mask + 1)
  distUp < distDown

abbrev ackNrMask : Nat := 65535
abbrev timestampMask : Nat := 4294967295

/-- The notifications passed to `UTP_ON_STATE_CHANGE`. -/
inductive StateChange where
  | connect | writable | eof | destroying
  deriving DecidableEq, Repr

inductive ErrorCode where
  | econnrefused | econnreset | etimedout
  deriving DecidableEq, Repr

structure MtuState where
  discoverTime : Nat
  ceiling : Nat
  floor : Nat
  last : Nat
  probeSeq : Nat
  probeSize : Nat
  deriving DecidableEq, Repr

/-- The steps of the search for the path MTU: its start, a packet that is sent as a
probe (with its number, the times it was sent before, and the number of the newest
packet), the verdicts on the probe, and a message about the size of the next hop. -/
inductive MtuStep where
  | reset
  | probe (seqNr transmissions newest : Nat)
  | passed
  | lost
  | fragmentation (nextHopMtu : Nat)
  deriving DecidableEq, Repr

/-- What a socket does to its surroundings, in order. The constructors from `moved`
on record facts about the execution itself: changes of state, with the `ack_nr`
at that moment, calls of `utp_close` on a connection that is up, failed assertions,
reads of the received buffer, the packets that
are queued or extended, those that reach the delivery code, with their distance
from the next expected one, those that it consumes, the steps of the MTU search, the
packets acked by a mask, with the probe that is outstanding, and the receive window when a
packet is filled or about to be sent. -/
inductive Event where
  | sendto (packet : Wire) (flags : Nat)
  | onRead (bytes : List UInt8)
  | onStateChange (change : StateChange)
  | onConnect
  | onAccept
  | onError (code : ErrorCode)
  | scheduleAck
  | moved (src dst : ConnState) (ackNr : Nat)
  | closeRequested
  | assertFailed (line : Nat)
  | readBytes (off count : Nat)
  | readMask (mask index extLen : Nat)
  | queued (seqNr type : Nat) (bytes : List UInt8)
  | extended (bytes : List UInt8)
  | accepted (seqNr offset : Nat) (bytes : List UInt8)
  | consumed (seqNr : Nat) (bytes : List UInt8)
  | mtu (step : MtuStep) (before after : MtuState)
  | sacked (seqNr probeSeq : Nat)
  | window (rcvWindow : Nat)
  deriving DecidableEq, Repr

end Utp
