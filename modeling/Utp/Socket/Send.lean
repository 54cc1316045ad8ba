import Utp.Socket.State

/-! Everything that puts a packet on the wire: acks, the outgoing queue, the MTU
probe carried by a data packet, and the writer that fills the queue. -/
namespace Utp

open Wrapping

namespace MtuState

/-- Restart the search between the smallest allowed MTU and that of the interface. -/
def reset (udpMtu currentMs : Nat) (m : MtuState) : MtuState :=
  { m with
    ceiling := udpMtu
    floor := if mtuFloorMin > udpMtu then udpMtu else mtuFloorMin
    discoverTime := u64 (30 * 60 * 1000 + currentMs) }

/-- Repair a range whose floor has passed its ceiling. -/
def reduceFloor (m : MtuState) : MtuState :=
  if m.floor > m.ceiling then
    { m with
      ceiling := m.floor
      floor := if m.floor > mtuFloorMin then (mtuFloorMin + m.floor) / 2 else m.floor }
  else m

/-- One step of the binary search, called when the floor or the ceiling moved. -/
def searchUpdate (currentMs : Nat) (m : MtuState) : MtuState :=
  let m := m.reduceFloor
  let m := { m with last := (m.floor + m.ceiling) / 2, probeSeq := 0, probeSize := 0 }
  if m.ceiling - m.floor ≤ 16 then
    { m with
      last := m.floor
      ceiling := m.floor
      discoverTime := u64 (30 * 60 * 1000 + currentMs) }
  else m

def clearProbe (m : MtuState) : MtuState := { m with probeSeq := 0, probeSize := 0 }

end MtuState

namespace Conn

variable (env : Env)

/-- Record a step of the MTU search that started from `before`. -/
def noteMtu (step : MtuStep) (before : MtuState) (s : Conn) : Conn := s.emit (.mtu step before s.mtu)

def mtuReset (s : Conn) : Conn :=
  let udpMtu := s.utpCallGetUdpMtu env
  let s := s.called
  let mtu := s.mtu.reset udpMtu (s.utpCallGetMilliseconds env)
  ({ s.called with mtu := mtu }.check 1346 (mtu.floor ≤ mtu.ceiling)).noteMtu .reset s.mtu

/-- The second assertion stands in the branch that ends the search. -/
def mtuSearchUpdate (s : Conn) : Conn :=
  let range := s.mtu.reduceFloor
  let mtu := s.mtu.searchUpdate (s.utpCallGetMilliseconds env)
  ({ s.called with mtu := mtu }.check 1314 (range.floor ≤ range.ceiling)).check 1331
    (range.ceiling - range.floor > 16 || mtu.floor ≤ mtu.ceiling)

/-- The probe is taken to be lost: its size does not pass. -/
def probeLost (s : Conn) : Conn :=
  ({ s with mtu.ceiling := u32 (s.mtu.probeSize - 1) }.mtuSearchUpdate env).noteMtu .lost s.mtu

/-- The probe was acked: its size is known to pass. -/
def probePassed (s : Conn) : Conn :=
  ({ s with mtu.floor := s.mtu.probeSize }.mtuSearchUpdate env).noteMtu .passed s.mtu

/-- Time stamp a header with local time and hand the packet to `sendto`. -/
def stamp (header : PacketFormatV1) (s : Conn) : PacketFormatV1 :=
  { header with
    tvUsec := u32 (s.utpCallGetMicroseconds env)
    replyMicro := s.delay.replyMicro }

/-- Send a packet. The context takes the socket off the list of deferred acks
whenever it sees a packet leave. -/
def sendData (header : PacketFormatV1) (tail : List UInt8) (flags : Nat) (s : Conn) : Conn :=
  { s.called with
    lastSentPacket := s.currentMs
    log := s.log ++ [.sendto ⟨s.stamp env header, tail⟩ flags] }

/-- The bit mask of segments received past the first missing one. -/
def eackMask (s : Conn) : Nat :=
  (List.range (min (14 + 16) s.rcv.inbuf.size)).foldl
    (fun (m i : Nat) => if (s.rcv.inbuf.get (s.rcv.ackNr + i + 2)).isSome then m ||| (1 <<< i) else m) 0

def ackHeader (s : Conn) : PacketFormatV1 where
  type := stState
  version := 1
  ext := 0
  connid := u16 s.connIdSend
  tvUsec := 0
  replyMicro := 0
  windowsize := u32 s.lastRcvWin
  seqNr := s.snd.seqNr
  ackNr := s.rcv.ackNr

/-- The extension block of a selective ack: next type, length, four mask bytes. -/
def eackTail (m : Nat) : List UInt8 :=
  [0, 4, UInt8.ofNat m, UInt8.ofNat (m >>> 8), UInt8.ofNat (m >>> 16), UInt8.ofNat (m >>> 24)]

/-- Record the receive window as it is now. -/
def noteWindow (s : Conn) : Conn := s.emit (.window (s.getRcvWindow env))

/-- `last_rcv_win = get_rcv_window()` -/
def updateRcvWin (s : Conn) : Conn :=
  { (s.noteWindow env).called with lastRcvWin := s.getRcvWindow env }

/-- An ack that carries a selective-ack mask. -/
def sendEack (synack : Bool) (s : Conn) : Conn :=
  let s := s.check 802 (!synack)
  let s := s.check 811 (s.rcv.inbuf.get (s.rcv.ackNr + 1)).isNone
  s.sendData env { s.ackHeader with ext := 1 } (eackTail s.eackMask) 0

def sendAck (synack : Bool) (s : Conn) : Conn :=
  let s := s.updateRcvWin env
  if s.rcv.reorderCount ≠ 0 && !s.rcv.gotFinReached then s.sendEack env synack
  else s.sendData env s.ackHeader [] 0

def setAckNr (ackNr : Nat) (s : Conn) : Conn := { s with rcv.ackNr := ackNr }

/-- A keepalive acks one packet less than has been received. -/
def sendKeepAlive (s : Conn) : Conn :=
  let s := s.setAckNr (u16 (s.rcv.ackNr - 1))
  let s := s.sendAck env false
  s.setAckNr (u16 (s.rcv.ackNr + 1))

/-- Whether a packet is to be sent as a probe for the current MTU search. -/
def useAsMtuProbe (pkt : OutgoingPacket) (s : Conn) : Bool :=
  s.mtu.floor < s.mtu.ceiling && pkt.length > s.mtu.floor && pkt.length ≤ s.mtu.ceiling &&
    s.mtu.probeSeq == 0 && s.snd.seqNr != 1 && pkt.transmissions == 0

/-- The probe is taken to be the newest packet of the queue. -/
def startProbe (pkt : OutgoingPacket) (s : Conn) : Conn :=
  let before := s.mtu
  let newest := u16 (s.snd.seqNr - 1)
  let s := { s with mtu.probeSeq := newest, mtu.probeSize := pkt.length }
  let s := (s.check 925 (pkt.length ≥ s.mtu.floor)).check 926 (pkt.length ≤ s.mtu.ceiling)
  s.noteMtu (.probe pkt.header.seqNr pkt.transmissions newest) before

/-- Count the packet against the window the first time, or again after a loss. -/
def chargeWindow (pkt : OutgoingPacket) (s : Conn) : Conn :=
  if pkt.transmissions = 0 || pkt.needResend then
    { s with snd.curWindow := s.snd.curWindow + pkt.payload }
  else s

/-- The packet as it is sent: stamped, with the current `ack_nr`, and with its
transmission recorded. -/
def sentPacket (pkt : OutgoingPacket) (timeSent : Nat) (s : Conn) : OutgoingPacket :=
  { pkt with
    needResend := false
    timeSent := timeSent
    transmissions := pkt.transmissions + 1
    header := s.stamp env { pkt.header with ackNr := s.rcv.ackNr } }

/-- `outbuf.put(seq, pkt)` -/
def putPacket (v : Int) (pkt : Option OutgoingPacket) (s : Conn) : Conn :=
  { s with snd.outbuf := s.snd.outbuf.put v pkt }

/-- Store the packet back in its slot and send it. The source does not look at the receive
window here; it is only recorded. -/
def transmit (v : Int) (pkt : OutgoingPacket) (timeSent flags : Nat) (s : Conn) : Conn :=
  let sent := s.sentPacket env pkt timeSent
  ((s.noteWindow env).putPacket v (some sent)).sendData env sent.header (sent.body.take (sent.length - 20)) flags

/-- Send the queued packet in slot `v`. -/
def sendPacket (v : Int) (s : Conn) : Conn :=
  match s.snd.outbuf.get v with
  | none => s
  | some pkt =>
      let curTime := s.utpCallGetMilliseconds env
      let s := (s.chargeWindow pkt).called
      let timeSent := s.utpCallGetMicroseconds env
      let s := s.called
      let s := if s.mtu.discoverTime < curTime then s.mtuReset env else s
      if s.useAsMtuProbe pkt then (s.startProbe pkt).transmit env v pkt timeSent utpUdpDontfrag
      else s.transmit env v pkt timeSent 0

/-- Whether `bytes` more bytes exceed the send window. A negative count stands
for a full packet. -/
def isFull (bytes : Int) (s : Conn) : Bool :=
  let packetSize := i32 s.getPacketSize
  let bytes := if bytes < 0 then packetSize else if bytes > packetSize then packetSize else bytes
  let maxSend := min (min s.win.maxWindow s.win.optSndbuf) s.win.maxWindowUser
  s.snd.curWindowPackets ≥ outgoingBufferMaxSize - 1 || u64 (s.snd.curWindow + bytes) > maxSend

/-- The side effect of `is_full`: remember when the window was last maxed out. -/
def noteFull (bytes : Int) (s : Conn) : Conn :=
  if s.isFull bytes then { s with win.lastMaxedOutWindow := s.currentMs } else s

/-- The last packet waits while another one is in flight and it is still short. -/
def passesNagle (i : Nat) (pkt : OutgoingPacket) (s : Conn) : Bool :=
  i != u16 (s.snd.seqNr - 1) || s.snd.curWindowPackets == 1 || pkt.payload ≥ s.getPacketSize

/-- The loop of `flush_packets` over the last `n` packets of the queue. -/
def flushFrom : Nat → Conn → Conn
  | 0, s => s
  | n + 1, s =>
      let i := u16 (s.snd.seqNr - (n + 1 : Nat))
      match s.snd.outbuf.get i with
      | none => flushFrom n s
      | some pkt =>
          if pkt.transmissions > 0 && !pkt.needResend then flushFrom n s
          else if s.isFull (-1) then s.noteFull (-1)
          else if s.passesNagle i pkt then flushFrom n (s.sendPacket env i)
          else flushFrom n s

/-- Send packets that are waiting on the pacer to be sent. -/
def flushPackets (s : Conn) : Conn := s.flushFrom env s.snd.curWindowPackets

/-- Setup initial timeout timer. -/
def startTimer (s : Conn) : Conn :=
  if s.snd.curWindowPackets = 0 then
    { s with
      rtt.retransmitTimeout := s.rtt.rto
      rtt.rtoTimeout := u64 (s.currentMs + s.rtt.rto) }.check 1006 (s.snd.curWindow = 0)
  else s

end Conn

/-- Copy `needed` bytes out of the buffers of the upper layer, in order; what is
left of the buffers is returned with them. -/
def takeIov : Nat → List (List UInt8) → List UInt8 × List (List UInt8)
  | 0, iov => ([], iov)
  | _ + 1, [] => ([], [])
  | needed + 1, v :: rest =>
      let num := min (needed + 1) v.length
      let r := takeIov (needed + 1 - num) rest
      (v.take num ++ r.1, v.drop num :: r.2)

namespace Conn

variable (env : Env)

/-- The header fields that `write_outgoing_packet` sets on every packet it touches. -/
def writeHeader (flags : Nat) (header : PacketFormatV1) (s : Conn) : PacketFormatV1 :=
  { header with
    version := 1
    type := flags
    ext := 0
    connid := u16 s.connIdSend
    windowsize := u32 s.lastRcvWin
    ackNr := s.rcv.ackNr }

def blankHeader : PacketFormatV1 where
  type := 0
  version := 0
  ext := 0
  connid := 0
  tvUsec := 0
  replyMicro := 0
  windowsize := 0
  seqNr := 0
  ackNr := 0

/-- The last packet of the queue with more bytes in it. -/
def filledPacket (flags : Nat) (pkt : OutgoingPacket) (bytes : List UInt8) (s : Conn) :
    OutgoingPacket :=
  { pkt with
    payload := pkt.payload + bytes.length
    length := 20 + (pkt.payload + bytes.length)
    body := pkt.body ++ bytes
    header := s.writeHeader flags pkt.header }

/-- Add bytes to the last packet of the queue, which has not been sent yet. -/
def fillPacket (flags : Nat) (pkt : OutgoingPacket) (bytes : List UInt8) (s : Conn) : Conn :=
  let s := (s.check 1036 (!pkt.needResend)).check 1049 (bytes.isEmpty || flags == stData)
  let s := s.updateRcvWin env
  (s.putPacket (s.snd.seqNr - 1) (some (s.filledPacket flags pkt bytes))).emit (.extended bytes)

/-- A packet with the next sequence number. -/
def newPacket (flags : Nat) (bytes : List UInt8) (s : Conn) : OutgoingPacket where
  payload := bytes.length
  length := 20 + bytes.length
  timeSent := 0
  transmissions := 0
  needResend := false
  body := bytes
  header := { s.writeHeader flags blankHeader with seqNr := s.snd.seqNr }

/-- Remember a packet in the outgoing queue. -/
def enqueue (pkt : OutgoingPacket) (s : Conn) : Conn :=
  { s with
    snd.outbuf := (s.snd.outbuf.ensureSize s.snd.seqNr s.snd.curWindowPackets).put s.snd.seqNr (some pkt)
    snd.seqNr := u16 (s.snd.seqNr + 1)
    snd.curWindowPackets := u16 (s.snd.curWindowPackets + 1) }.emit
      (.queued s.snd.seqNr pkt.header.type pkt.body)

/-- Create a packet and queue it. -/
def appendPacket (flags : Nat) (bytes : List UInt8) (s : Conn) : Conn :=
  let s := (s.check 1049 (bytes.isEmpty || flags == stData)).updateRcvWin env
  s.enqueue (s.newPacket flags bytes)

/-- The last packet of the queue, if there is room left in it for some payload
and it has not been sent yet. -/
def fillable (payload packetSize : Nat) (s : Conn) : Option OutgoingPacket :=
  if payload ≠ 0 && s.snd.curWindowPackets > 0 then
    (s.snd.outbuf.get (s.snd.seqNr - 1)).filter fun pkt =>
      pkt.transmissions == 0 && pkt.payload < packetSize
  else none

/-- The `do .. while (payload)` loop of `write_outgoing_packet`. -/
def writeLoop (flags packetSize : Nat) :
    Nat → Nat → List (List UInt8) → Conn → List (List UInt8) × Conn
  | 0, _, iov, s => (iov, s)
  | fuel + 1, payload, iov, s =>
      let s := (s.check 1011 (s.snd.curWindowPackets < outgoingBufferMaxSize)).check 1012
        (flags == stData || flags == stFin)
      match s.fillable payload packetSize with
      | some pkt =>
          let added := min (payload + pkt.payload) (max packetSize pkt.payload) - pkt.payload
          let r := takeIov added iov
          let s := (s.check 1078 (r.1.length == added)).fillPacket env flags pkt r.1
          if payload - added ≠ 0 then writeLoop flags packetSize fuel (payload - added) r.2 s
          else (r.2, s)
      | none =>
          let r := takeIov payload iov
          (r.2, (s.check 1078 (r.1.length == payload)).appendPacket env flags r.1)

/-- Queue `payload` bytes and send what the window admits; what is left of the
buffers is returned. -/
def writeOutgoingPacket (payload flags : Nat) (iov : List (List UInt8)) (s : Conn) :
    List (List UInt8) × Conn :=
  let s := s.startTimer
  let r := s.writeLoop env flags s.getPacketSize (payload + 1) payload iov
  (r.1, r.2.flushPackets env)

/-- Mark the socket as not being writable if a full packet does not fit. -/
def markFull (s : Conn) : Conn :=
  if s.isFull (-1) then (s.noteFull (-1)).setState .connectedFull else s

/-- The send loop of `utp_writev`, with the bytes left to send, the size of the
next piece and the bytes sent so far. -/
def writevLoop (packetSize : Nat) : Nat → Nat → Nat → List (List UInt8) → Conn → Nat × Conn
  | 0, _, sent, _, s => (sent, s)
  | fuel + 1, bytes, sent, iov, s =>
      let numToSend := min bytes packetSize
      if s.isFull numToSend then (sent, (s.noteFull numToSend).markFull)
      else
        let r := s.writeOutgoingPacket env numToSend stData iov
        if min (bytes - numToSend) packetSize = 0 then (sent + numToSend, r.2)
        else writevLoop packetSize fuel (bytes - numToSend) (sent + numToSend) r.1 r.2

/-- Write bytes to the socket. Returns the number of bytes written; 0 indicates
that the socket is not writable, -1 an error. -/
def utpWritev (iovecs : List (List UInt8)) (s : Conn) : Int × Conn :=
  if iovecs.isEmpty then (-1, s)
  else if s.state ≠ .connected then (0, s)
  else if s.finSent then (0, s)
  else
    let iov := iovecs.take 1024
    let bytes := iov.flatten.length
    let s := s.updateCurrentMs env
    let r := s.writevLoop env s.getPacketSize (bytes + 1) bytes 0 iov
    (r.1, r.2)

/-- `utp_write(socket, buf, len)` -/
def utpWrite (buf : List UInt8) (s : Conn) : Int × Conn := s.utpWritev env [buf]

end Conn

end Utp
