import Utp.Context.Basic

/-! The public operations on a context: dispatch of datagrams and ICMP messages,
dialling, deferred acks and the periodic check of all sockets. -/
namespace Utp

open Wrapping

/-- Only well formed packet types with known extensions have a version. -/
def utpVersion (header : PacketFormatV1) : Nat :=
  if header.type < stNumStates && header.ext < 3 then header.version else 0

namespace Context

variable (env : Env)

def updateCurrentMs (c : Context) : Context :=
  { c with currentMs := u64 (env c.tick).milliseconds, tick := c.tick + 1 }

def called (c : Context) : Context := { c with tick := c.tick + 1 }

/-- `keyData->socket->conn_id_send == id` -/
def sendsAs (id p : Nat) (c : Context) : Bool :=
  match c.sockets p with
  | none => false
  | some sock => sock.connIdSend == id

/-- The socket that a RST or an ICMP message is about. Its id is either our
receive id or our send id, and only the send id is verified. -/
def findForError (addr : PackedSockAddr) (id : Nat) (c : Context) : Option Nat :=
  match c.lookup ⟨addr, id⟩ with
  | some p => some p
  | none =>
      match (c.lookup ⟨addr, u32 (id + 1)⟩).filter fun p => c.sendsAs id p with
      | some p => some p
      | none => (c.lookup ⟨addr, u32 (id - 1)⟩).filter fun p => c.sendsAs id p

/-- Whether the cached socket is the one with the given key. -/
def cacheHit (addr : PackedSockAddr) (id p : Nat) (c : Context) : Bool :=
  match c.sockets p with
  | none => false
  | some sock => sock.addr == addr && sock.connIdRecv == id

/-- The socket of a packet that is neither a RST nor a SYN. -/
def findConn (addr : PackedSockAddr) (id : Nat) (c : Context) : Option Nat :=
  match c.lastUtpSocket.filter fun p => c.cacheHit addr id p with
  | some p => some p
  | none => c.lookup ⟨addr, id⟩

/-- Build a RST packet that answers the packet `header`. -/
def rstPacket (header : PacketFormatV1) (seqNr : Nat) : Wire where
  header := { Conn.blankHeader with
    version := 1
    type := stReset
    connid := u16 header.connid
    ackNr := u16 header.seqNr
    seqNr := u16 seqNr }
  tail := []

def rstMatches (addr : PackedSockAddr) (header : PacketFormatV1) (r : RstInfo) : Bool :=
  r.connid == header.connid && r.addr == addr && r.ackNr == header.seqNr

/-- Reject a packet that belongs to no connection. A RST is sent once for each
packet that is remembered, and none at all when too many are. -/
def reject (header : PacketFormatV1) (addr : PackedSockAddr) (c : Context) : Context :=
  let c := c.updateCurrentMs env
  match c.rstInfo.findIdx? (rstMatches addr header) with
  | some i => { c with rstInfo := c.rstInfo.modify i fun r => { r with timestamp := c.currentMs } }
  | none =>
      if c.rstInfo.length > rstInfoLimit then c
      else
        let info : RstInfo := ⟨addr, header.connid, header.seqNr, c.currentMs⟩
        let c := { c with rstInfo := c.rstInfo ++ [info] }
        let seqNr := u32 (env c.tick).random
        c.called.record addr (.sendto (rstPacket header seqNr) 0)

/-- A SYN: the socket that is created for it gets the next free number. -/
def accept (d : Datagram) (addr : PackedSockAddr) (c : Context) : Context :=
  let key : UTPSocketKey := ⟨addr, d.header.connid + 1⟩
  if !c.onAcceptSet then c
  else if (c.lookup key).isSome then c
  else if c.utpSockets.length > 3000 then c
  else if (env c.tick).firewallBlocks then c.called
  else
    let p := c.allocated
    (c.called.create.addKey key p).runOn p fun s => s.acceptSocket env d addr

/-- Returns 1 if the payload was recognized as a UTP packet, or 0 if it was not. -/
def utpProcessUdp (d : Datagram) (addr : PackedSockAddr) (c : Context) : Nat × Context :=
  if d.len < 20 then (0, c)
  else
    let c := c.record addr (.readBytes 0 20)
    let header := d.header
    if utpVersion header ≠ 1 then (0, c)
    else if header.type = stReset then
      match c.findForError addr header.connid with
      | some p => (1, c.runOn p Conn.receiveReset)
      | none => (1, c)
    else if header.type = stSyn then (1, c.accept env d addr)
    else
      match c.findConn addr header.connid with
      | some p =>
          (1, { c with lastUtpSocket := some p }.runOn p fun s => s.utpProcessIncoming env d false)
      | none => (1, c.reject env header addr)

/-- The socket of the packet quoted by an ICMP message. -/
def parseIcmpPayload (d : Datagram) (addr : PackedSockAddr) (c : Context) : Option Nat :=
  if d.len < 20 then none
  else if utpVersion d.header ≠ 1 then none
  else c.findForError addr d.header.connid

def utpProcessIcmpFragmentation (d : Datagram) (addr : PackedSockAddr) (nextHopMtu : Nat)
    (c : Context) : Nat × Context :=
  match c.parseIcmpPayload d addr with
  | none => (0, c)
  | some p => (1, c.runOn p fun s => s.receiveIcmpFragmentation env (u16 nextHopMtu))

def utpProcessIcmpError (d : Datagram) (addr : PackedSockAddr) (c : Context) : Nat × Context :=
  match c.parseIcmpPayload d addr with
  | none => (0, c)
  | some p => (1, c.runOn p Conn.receiveIcmpError)

/-- Draw seeds until one is free. The fuel bounds the draws. -/
def drawSeed (addr : PackedSockAddr) : Nat → Context → Option (Nat × Context)
  | 0, _ => none
  | fuel + 1, c =>
      let seed := u16 (env c.tick).random
      if (c.lookup ⟨addr, seed⟩).isSome then drawSeed addr fuel c.called else some (seed, c.called)

/-- Try to connect to a specified host, with a seed found in at most `draws` draws. -/
def utpConnect (p : Nat) (addr : PackedSockAddr) (draws : Nat) (c : Context) : Option Context :=
  (c.drawSeed env addr draws).map fun (seed, c) =>
    (c.addKey ⟨addr, seed⟩ p).runOn p fun s =>
      (s.initializeSocket env addr seed seed (seed + 1)).connectSocket env

/-- Every turn sends an ack for the first socket of the list, which takes it off. -/
def issueAcks : Nat → Context → Context
  | 0, c => c
  | fuel + 1, c =>
      match c.ackSockets with
      | [] => c
      | p :: _ => issueAcks fuel (c.runOn p fun s => s.sendAck env false)

/-- Should be called each time the UDP socket is drained. -/
def utpIssueDeferredAcks (c : Context) : Context := c.issueAcks env c.ackSockets.length

/-- The loop of `utp_issue_deferred_acks` with its unsigned index, which is decremented after
every element and incremented again. The fuel bounds the number of turns. -/
def issueAcksLoop : Nat → Nat → Context → Option Context
  | 0, _, _ => none
  | fuel + 1, i, c =>
      match c.ackSockets[i]? with
      | none => some c
      | some p => issueAcksLoop fuel (u64 (u64 (i - 1) + 1)) (c.runOn p fun s => s.sendAck env false)

/-- Remove the entries of the given age by moving the last one in their place.
The fuel bounds the number of turns. -/
def purgeRstInfo (currentMs : Nat) : Nat → Nat → List RstInfo → List RstInfo
  | 0, _, rs => rs
  | fuel + 1, i, rs =>
      match rs[i]? with
      | none => rs
      | some r =>
          if i32 (currentMs - r.timestamp) ≥ rstInfoTimeout then
            purgeRstInfo currentMs fuel i ((rs.set i (rs.getLastD r)).dropLast)
          else purgeRstInfo currentMs fuel (i + 1) rs

/-- Check one socket, and delete it if it is done. -/
def checkSocket (p : Nat) (c : Context) : Context :=
  let c := c.runOn p fun s => s.checkTimeouts env
  match c.sockets p with
  | none => c
  | some sock => if sock.state = .destroy then c.delete p else c

/-- Should be called every 500 ms. The order is the one in which the iterator
of the table happens to visit the sockets. -/
def utpCheckTimeouts (order : List Nat) (c : Context) : Context :=
  let c := c.updateCurrentMs env
  if u64 (c.currentMs - c.lastCheck) < timeoutCheckInterval then c
  else
    let c := { c with
      lastCheck := c.currentMs
      rstInfo := purgeRstInfo c.currentMs c.rstInfo.length 0 c.rstInfo }
    order.foldl (fun c p => c.checkSocket env p) c

/-- Free the context with all its sockets, in the order in which the iterator of the table visits
them. -/
def utpDestroy (order : List Nat) (c : Context) : Context := order.foldl (fun c p => c.delete p) c

end Context

end Utp
