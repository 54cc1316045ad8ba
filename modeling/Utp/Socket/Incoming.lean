import Utp.Socket.Congestion

/-! Processing of one received packet by the socket it was dispatched to. -/
namespace Utp

open Wrapping

namespace Conn

variable (env : Env) (d : Datagram)

/-- Skip the extension headers. The result is the offset of the payload and the
last selective-ack mask, or nothing if the chain is malformed. -/
def extensionLoop : Nat → Nat → Nat → Option SackMask → Conn →
    Option (Nat × Option SackMask) × Conn
  | 0, _, _, _, s => (none, s)
  | fuel + 1, data, extension, selack, s =>
      let data := data + 2
      if i32 (d.len - data) < 0 then (none, s)
      else
        let s := s.emit (.readBytes (data - 1) 1)
        let length := d.byte (data - 1)
        if i32 (d.len - data) < length then (none, s)
        else if extension = 2 && length ≠ 8 then (none, s)
        else
          let selack := if extension = 1 then some ⟨data, length⟩ else selack
          let s := if extension = 2 then
              { s.emit (.readBytes data 8) with
                rcv.extensions := (List.range 8).map fun i => d.mem (data + i) }
            else s
          let s := s.emit (.readBytes (data - 2) 1)
          let next := d.byte (data - 2)
          if next ≠ 0 then extensionLoop fuel (data + length) next selack s
          else (some (data + length, selack), s)

def skipExtensions (s : Conn) : Option (Nat × Option SackMask) × Conn :=
  if d.header.ext ≠ 0 then s.extensionLoop d (d.len + 1) 20 d.header.ext none
  else (some (20, none), s)

end Conn

namespace Conn

variable (env : Env) (header : PacketFormatV1)

/-- The packets whose `ack_nr` is invalid: it acks a packet that has not been
sent yet, or one too far behind the window. -/
def ackInvalid (s : Conn) : Bool :=
  let currWindow := max (u16 (s.snd.curWindowPackets + ackNrAllowedWindow)) ackNrAllowedWindow
  (header.type ≠ stSyn || s.state ≠ .synRecv) &&
    (wrappingCompareLess (s.snd.seqNr - 1) header.ackNr ackNrMask ||
      wrappingCompareLess header.ackNr (s.snd.seqNr - 1 - currWindow) ackNrMask)

/-- The number of packets past the expected packet this one is. -/
def seqOffset (s : Conn) : Nat := u16 (header.seqNr - s.rcv.ackNr - 1)

/-- The number of packets that the packet acks; zero for an old ack. -/
def acksOf (s : Conn) : Nat :=
  let acks := u16 (header.ackNr - (s.snd.seqNr - 1 - s.snd.curWindowPackets))
  if acks > s.snd.curWindowPackets then 0 else acks

/-- Count duplicate acks in state packets. The third one ends the MTU probe. -/
def countDuplicateAck (s : Conn) : Conn :=
  if s.snd.curWindowPackets > 0 then
    if header.ackNr = u16 (s.snd.seqNr - s.snd.curWindowPackets - 1) && header.type = stState then
      let s := { s with snd.duplicateAck := (s.snd.duplicateAck + 1) % 256 }
      if s.snd.duplicateAck = duplicateAcksBeforeResend && s.mtu.probeSeq ≠ 0 then
        if header.ackNr = u16 (s.mtu.probeSeq - 1) then s.probeLost env
        else { s with mtu := s.mtu.clearProbe }
      else s
    else { s with snd.duplicateAck := 0 }
  else s

def probeAcked (seq : Nat) (s : Conn) : Conn :=
  if s.mtu.probeSeq ≠ 0 && seq = s.mtu.probeSeq then s.probePassed env else s

/-- Figure out how many bytes were acked by `count` packets of the queue, from
the `i`-th oldest on. -/
def ackedBytesFrom (now : Nat) : Nat → Nat → AckedBytes → Conn → AckedBytes × Conn
  | 0, _, a, s => (a, s)
  | count + 1, i, a, s =>
      let seq := u16 (s.snd.seqNr - s.snd.curWindowPackets + i)
      match s.snd.outbuf.get seq with
      | none => ackedBytesFrom now count (i + 1) a s
      | some pkt =>
          if pkt.transmissions = 0 then ackedBytesFrom now count (i + 1) a s
          else
            ackedBytesFrom now count (i + 1)
              ⟨a.ackedBytes + pkt.payload, minRttOf pkt now a.minRtt⟩ (s.probeAcked env seq)

/-- Take over the receive window that the peer advertises. -/
def updateWindowUser (s : Conn) : Conn :=
  let s := { s with win.maxWindowUser := header.windowsize }
  if header.windowsize = 0 then { s with win.zerowindowTime := u64 (15000 + s.currentMs) } else s

/-- The user is told that the connection is up. Without an `ON_CONNECT` callback
the Go wrapper is notified by a state change, and answers it with an empty write. -/
def notifyConnect (s : Conn) : Conn :=
  if s.onConnectSet then s.emit .onConnect
  else ((s.emit (.onStateChange .connect)).utpWrite env []).2

/-- Incoming connection completion. -/
def completeIncoming (s : Conn) : Conn :=
  if header.type = stData && s.state = .synRecv then
    (s.setState .connected).emit (.onStateChange .writable)
  else s

/-- Outgoing connection completion, or else the ack of our FIN. -/
def completeOutgoing (acks : Nat) (s : Conn) : Conn :=
  if header.type = stState && s.state = .synSent then (s.setState .connected).notifyConnect env
  else if s.finSent && s.snd.curWindowPackets = acks then
    let s := { s with finSentAcked := true }
    if s.closeRequested then s.setState .destroy else s
  else s

/-- Update fast resend counter. -/
def updateFastResend (s : Conn) : Conn :=
  if wrappingCompareLess s.snd.fastResendSeqNr (u16 (header.ackNr + 1)) ackNrMask then
    { s with snd.fastResendSeqNr := u16 (header.ackNr + 1) }
  else s

def decWindowPackets (s : Conn) : Conn :=
  { s with snd.curWindowPackets := u16 (s.snd.curWindowPackets - 1) }

/-- Ack the oldest packets of the queue, until one that has not been sent yet. -/
def ackLoop : Nat → Conn → Conn
  | 0, s => s
  | acks + 1, s =>
      let r := s.ackPacket env (s.snd.seqNr - s.snd.curWindowPackets)
      if r.1 = 2 then r.2 else ackLoop acks r.2.decWindowPackets

/-- Packets at the front may have been acked by a selective ack. Keep decreasing
the window until it starts with one that is still waiting to be acked. -/
def dropAcked : Nat → Conn → Conn
  | 0, s => s
  | fuel + 1, s =>
      if s.snd.curWindowPackets > 0 &&
          (s.snd.outbuf.get (s.snd.seqNr - s.snd.curWindowPackets)).isNone then
        dropAcked fuel s.decWindowPackets
      else s

/-- Flush Nagle: send a last packet that was held back. -/
def flushNagle (s : Conn) : Conn :=
  if s.snd.curWindowPackets = 1 then
    match s.snd.outbuf.get (s.snd.seqNr - 1) with
    | none => s.check 2285 false
    | some pkt => if pkt.transmissions = 0 then s.sendPacket env (s.snd.seqNr - 1) else s
  else s

/-- Fast timeout-retry of the oldest outstanding packet. -/
def fastTimeoutRetry (s : Conn) : Conn :=
  if s.snd.fastTimeout then
    let v : Int := s.snd.seqNr - s.snd.curWindowPackets
    if u16 v ≠ s.snd.fastResendSeqNr then { s with snd.fastTimeout := false }
    else
      match s.snd.outbuf.get v with
      | none => s
      | some pkt =>
          if pkt.transmissions > 0 then
            { s with snd.fastResendSeqNr := u16 (s.snd.fastResendSeqNr + 1) }.sendPacket env v
          else s
  else s

/-- The cumulative part of the ack processing. -/
def processAcks (acks : Nat) (s : Conn) : Conn :=
  let s := s.updateWindowUser header
  let s := s.completeIncoming header
  let s := s.completeOutgoing env header acks
  let s := s.updateFastResend header
  let s := s.ackLoop env acks
  let s := s.dropAcked s.snd.curWindowPackets
  let s := s.check 2279 s.frontQueued
  (s.flushNagle env).fastTimeoutRetry env

end Conn

namespace Conn

variable (env : Env)

/-- Hand the bytes of the next expected packet to the upper layer. -/
def deliver (body : List UInt8) (s : Conn) : Conn :=
  let seq := u16 (s.rcv.ackNr + 1)
  let s := s.emit (.consumed seq body)
  let s := if !body.isEmpty && !s.rcv.readShutdown then s.emit (.onRead body) else s
  s.setAckNr seq

/-- All packets up to the FIN have been received: post EOF, ack it, and forget
what was received past it. -/
def reachEof (s : Conn) : Conn :=
  if !s.rcv.gotFinReached && s.rcv.gotFin && s.rcv.eofPkt = s.rcv.ackNr then
    let s := { s with
      rcv.gotFinReached := true
      rtt.rtoTimeout := u64 (s.currentMs + (min (u32 (s.rtt.rto * 3)) 60 : Nat)) }
    let s := (s.emit (.onStateChange .eof)).sendAck env false
    { s with rcv.reorderCount := 0 }
  else s

/-- `inbuf.put(ack_nr+1, NULL)` -/
def clearNext (s : Conn) : Conn :=
  { s with rcv.inbuf := s.rcv.inbuf.put (s.rcv.ackNr + 1) none }

def decReorderCount (s : Conn) : Conn :=
  { s with rcv.reorderCount := u16 (s.rcv.reorderCount - 1) }

/-- Take the next expected packet out of the reorder buffer. -/
def takeReordered (p : IncomingPacket) (s : Conn) : Conn :=
  ((s.clearNext.deliver p.body).check 2435 (s.rcv.reorderCount > 0)).decReorderCount

/-- Deliver the packets that were waiting in the reorder buffer. -/
def drainReordered : Nat → Conn → Conn
  | 0, s => s
  | fuel + 1, s =>
      let s := s.reachEof env
      if s.rcv.reorderCount = 0 then s
      else
        match s.rcv.inbuf.get (s.rcv.ackNr + 1) with
        | none => s
        | some p => drainReordered fuel (s.takeReordered p)

/-- Getting an in-order packet. -/
def receiveInOrder (seqNr : Nat) (body : List UInt8) (s : Conn) : Conn :=
  let s := (s.emit (.accepted seqNr 0 body)).deliver body
  (s.drainReordered env (s.rcv.reorderCount + 1)).scheduleAck

/-- Insert a packet into the reorder buffer. -/
def insertReordered (p : IncomingPacket) (s : Conn) : Conn :=
  { s with
    rcv.inbuf := s.rcv.inbuf.put p.seqNr (some p)
    rcv.reorderCount := u16 (s.rcv.reorderCount + 1) }

def storeReordered (seqNr : Nat) (body : List UInt8) (s : Conn) : Conn :=
  let s := s.check 2498 (s.rcv.inbuf.get seqNr).isNone
  let s := s.check 2499 (s.rcv.inbuf.slot seqNr ≠ s.rcv.inbuf.slot (s.rcv.ackNr + 1))
  (s.insertReordered ⟨seqNr, body⟩).scheduleAck

/-- `inbuf.ensure_size(seq_nr + 1, offset + 1)` -/
def growInbuf (seqNr offset : Nat) (s : Conn) : Conn :=
  { s with rcv.inbuf := s.rcv.inbuf.ensureSize (seqNr + 1) (offset + 1) }

/-- Getting an out of order packet, to be remembered and rearranged later. A packet
that is remembered already is ignored. -/
def receiveOutOfOrder (seqNr offset : Nat) (body : List UInt8) (s : Conn) : Conn :=
  if s.rcv.gotFin && seqNr > s.rcv.eofPkt then s
  else if offset > 0x3ff then s
  else
    let s := (s.growInbuf seqNr offset).emit (.accepted seqNr offset body)
    if (s.rcv.inbuf.get seqNr).isSome then s else s.storeReordered seqNr body

/-- Is this a finalize packet? -/
def noteFin (header : PacketFormatV1) (s : Conn) : Conn :=
  if header.type = stFin && !s.rcv.gotFin then
    { s with rcv.gotFin := true, rcv.eofPkt := header.seqNr }
  else s

/-- The data part of a packet, for a connection that can accept data. -/
def receiveData (d : Datagram) (header : PacketFormatV1) (data offset : Nat) (s : Conn) : Conn :=
  if header.type = stState then s
  else if s.state ≠ .connected ∧ s.state ≠ .connectedFull then s
  else
    let s := (s.noteFin header).emit (.readBytes data (d.len - data))
    if offset = 0 then s.receiveInOrder env header.seqNr (d.drop data)
    else s.receiveOutOfOrder header.seqNr offset (d.drop data)

/-- Measure what a packet acks, by its `ack_nr` and by its selective acks. -/
def measureAcks (d : Datagram) (header : PacketFormatV1) (selack : Option SackMask) (acks : Nat)
    (s : Conn) : AckedBytes × Conn :=
  let now := s.utpCallGetMicroseconds env
  let r := s.called.ackedBytesFrom env now acks 0 ⟨0, int64Max⟩
  match selack with
  | none => r
  | some mask => r.2.selectiveAckBytes env d mask (u16 (header.ackNr + 2)) r.1

/-- Feed the measured delay to the congestion controller. -/
def controlWindow (header : PacketFormatV1) (time : Nat) (a : AckedBytes) (s : Conn) : Conn :=
  let s := s.measureDelay header time a.minRtt
  if actualDelay header ≠ 0 && a.ackedBytes ≥ 1 then s.applyCcontrol a.ackedBytes a.minRtt
  else s

/-- The acknowledgment part of a packet: what it acks is measured first, then fed
to the congestion controller, then taken out of the queue. -/
def receiveAcks (d : Datagram) (header : PacketFormatV1) (selack : Option SackMask) (time : Nat)
    (s : Conn) : Conn :=
  let acks := s.acksOf header
  let r := (s.countDuplicateAck env header).measureAcks env d header selack acks
  let s := r.2.controlWindow header time r.1
  let s := if acks ≤ s.snd.curWindowPackets then s.processAcks env header acks else s
  match selack with
  | none => s
  | some mask => s.selectiveAck env d mask (header.ackNr + 2)

/-- What follows the sequence number check. -/
def processAccepted (d : Datagram) (header : PacketFormatV1) (data offset : Nat)
    (selack : Option SackMask) (time : Nat) (s : Conn) : Conn :=
  let s := s.receiveAcks env d header selack time
  let s := s.check 2328 s.frontQueued
  s.makeWritable.receiveData env d header data offset

/-- What follows the extension headers. -/
def processBody (d : Datagram) (header : PacketFormatV1) (data : Nat) (selack : Option SackMask)
    (time : Nat) (syn : Bool) (s : Conn) : Conn :=
  let s := if s.state = .synSent then s.setAckNr (u16 (header.seqNr - 1)) else s
  let s := { s with lastGotPacket := s.currentMs }
  if syn then s
  else
    let offset := s.seqOffset header
    if offset ≥ reorderBufferMaxSize then
      if offset ≥ 65536 - reorderBufferMaxSize && header.type ≠ stState then s.scheduleAck else s
    else s.processAccepted env d header data offset selack time

/-- Process an incoming packet. `syn` is true if this is the first packet
received; it cuts off parsing as soon as the header is done. -/
def utpProcessIncoming (d : Datagram) (syn : Bool) (s : Conn) : Conn :=
  let s := (s.updateCurrentMs env).emit (.readBytes 0 20)
  let header := d.header
  if header.type ≥ stNumStates then s
  else
    let time := s.utpCallGetMicroseconds env
    let s := s.called
    if s.ackInvalid header then s
    else
      let s := s.check 1836 (header.type ≠ stReset)
      if 20 > d.len then s
      else
        match s.skipExtensions d with
        | (none, s) => s
        | (some (data, selack), s) => s.processBody env d header data selack time syn

end Conn

end Utp
