import Utp.Context.Run
import Mathlib.Logic.Relation

/-! The elementary transitions of a socket. Every operation of the interface is a
path of them; a property of all runs is checked once for each transition. They are
grouped by the part of the socket that they own. -/
namespace Utp

open Wrapping

/-- A packet that was parsed up to its payload. -/
structure Received where
  d : Datagram
  data : Nat
  selack : Option SackMask

/-- Why a socket function runs: `utp_writev`, `utp_shutdown` or `utp_close`, the timer, the flush of a
deferred ack, a drained read buffer, a packet that was not rejected at once, the SYN for which the
socket was created, or any other call. What only some of the calls may do, such as writing data or
asking for the end of the connection, is stated where the transition is defined. -/
inductive Cause where
  | call
  | write
  | asked
  | timer
  | deferred
  | drained
  | packet (r : Received)
  | syn (d : Datagram)

/-- The assertions that the invariants below rule out. -/
def coveredLines : List Nat :=
  [811, 1006, 1011, 1036, 1133, 1243, 1419, 1553, 2279, 2285, 2328, 2435, 2498, 2499, 2533]

/-- The assertions about the range of the MTU search. -/
def mtuLines : List Nat := [925, 926, 1314, 1331, 1346]

/-- The two states in which data is exchanged. -/
def ConnState.open (st : ConnState) : Bool := st = .connected || st = .connectedFull

/-- What a received packet does to the delay measurement. -/
inductive DelayStep (currentMs : Nat) : DelayState → DelayState → Prop where
  | theirs (d : DelayState) (tvUsec time : Nat) : DelayStep currentMs d (d.noteTheirDelay tvUsec time currentMs)
  | noted (d : DelayState) (actualDelay : Nat) (hSome : actualDelay ≠ 0) :
      DelayStep currentMs d (d.noteActualDelay actualDelay currentMs)
  | averaged (d : DelayState) (hSamples : 0 < d.currentDelaySamples) :
      DelayStep currentMs d d.updateAverage
  | clamped (d : DelayState) (minRtt : Int) : DelayStep currentMs d (d.clampToRtt minRtt)

/-- Bookkeeping: nothing here changes the queue, the reorder buffer or the state. -/
inductive Quiet (env : Env) (cause : Cause) : Conn → Conn → Prop where
  | called (s : Conn) : Quiet env cause s s.called
  | clock (s : Conn) : Quiet env cause s (s.updateCurrentMs env)
  | read (s : Conn) (off count : Nat) : Quiet env cause s (s.emit (.readBytes off count))
  | readMask (s : Conn) (mask index extLen : Nat) :
      Quiet env cause s (s.emit (.readMask mask index extLen))
  | onAccept (s : Conn) (d : Datagram) (hCause : cause = .syn d) : Quiet env cause s (s.emit .onAccept)
  | check (s : Conn) (line : Nat) (ok : Bool) (hLine : line ∉ coveredLines ++ mtuLines)
      (hDelay : line = 2086 → 0 < s.delay.currentDelaySamples ∧ ok = Conn.averageInRange s.delay := by simp) :
      Quiet env cause s (s.check line ok)
  | scheduleAck (s : Conn) (hCause : cause = .drained ∨
        ∃ r, cause = .packet r ∧ r.d.header.type ≠ stState) : Quiet env cause s s.scheduleAck
  | heard (s : Conn) : Quiet env cause s { s with lastGotPacket := s.currentMs }
  | extensions (s : Conn) (bytes : List UInt8) :
      Quiet env cause s { s with rcv.extensions := bytes }
  | setsockopt (s : Conn) (opt : SockOpt) (val : Int) :
      Quiet env cause s (s.utpSetsockopt opt val)
  | probeLost (s : Conn) (hProbe : s.mtu.probeSeq ≠ 0) :
      Quiet env cause s (s.probeLost env)
  | probePassed (s : Conn) (hProbe : s.mtu.probeSeq ≠ 0) :
      Quiet env cause s (s.probePassed env)
  | clearProbe (s : Conn) : Quiet env cause s { s with mtu := s.mtu.clearProbe }
  | fragmentation (s : Conn) (nextHopMtu : Nat) :
      Quiet env cause s (s.receiveIcmpFragmentation env nextHopMtu)
  | delay (s : Conn) (delay : DelayState) (hStep : DelayStep s.currentMs s.delay delay) :
      Quiet env cause s { s with delay := delay }
  | window (s : Conn) (win : WindowState) : Quiet env cause s { s with win := win }
  | duplicateAck (s : Conn) (n : Nat) : Quiet env cause s { s with snd.duplicateAck := n }
  | startTimer (s : Conn) : Quiet env cause s s.startTimer
  | backoff (s : Conn) (timeout : Nat) :
      Quiet env cause s { s with
        rtt.retransmitTimeout := timeout
        rtt.rtoTimeout := u64 (s.currentMs + timeout) }
  | hurry (s : Conn) : Quiet env cause s (s.hurryTimeout env)
  | timedOut (s : Conn) :
      Quiet env cause s { s with
        snd.retransmitCount := u16 (s.snd.retransmitCount + 1)
        snd.fastTimeout := true
        snd.timeoutSeqNr := s.snd.seqNr }
  | leaveFastTimeout (s : Conn) : Quiet env cause s { s with snd.fastTimeout := false }
  | shutRead (s : Conn) (hAsked : cause = .asked) : Quiet env cause s { s with rcv.readShutdown := true }
  | ack (s : Conn) (hCause : cause = .deferred ∨ cause = .drained) :
      Quiet env cause s (s.sendAck env false)
  | synAck (s : Conn) (d : Datagram) (hCause : cause = .syn d) (hEmpty : s.rcv.reorderCount = 0) :
      Quiet env cause s (s.sendAck env true)
  | keepAlive (s : Conn) (hOpen : s.state.open = true) (hFin : s.finSent = false) :
      Quiet env cause s (s.sendKeepAlive env)

/-- One packet less at the front of the queue. -/
inductive AckStep (env : Env) (header : PacketFormatV1) : Conn → Conn → Prop where
  | acked (s : Conn) (hCount : 0 < s.snd.curWindowPackets)
      (hAcked : u16 (header.ackNr - (s.snd.seqNr - s.snd.curWindowPackets)) <
        s.snd.curWindowPackets)
      (hSent : (s.ackPacket env (s.snd.seqNr - s.snd.curWindowPackets)).1 ≠ 2) :
      AckStep env header s
        (s.ackPacket env (s.snd.seqNr - s.snd.curWindowPackets)).2.decWindowPackets
  | dropped (s : Conn) (hCount : 0 < s.snd.curWindowPackets)
      (hNone : s.snd.outbuf.get (s.snd.seqNr - s.snd.curWindowPackets) = none) :
      AckStep env header s s.decWindowPackets

/-- Transitions of the outgoing queue. -/
inductive Queueing (env : Env) (cause : Cause) : Conn → Conn → Prop where
  | append (s : Conn) (bytes : List UInt8) (hState : s.state = .connected)
      (hFin : s.finSent = false) (hCount : s.snd.curWindowPackets < 1023)
      (hLength : s.mtu.last ≠ 0 → bytes.length ≤ s.getPacketSize)
      (hWrites : cause = .write ∨ (∃ r, cause = .packet r) ∧ bytes = []) :
      Queueing env cause s (s.appendPacket env stData bytes)
  | appendFin (s : Conn) (hState : s.state.open = true) (hFin : s.finSent = false) (hAsked : cause = .asked) :
      Queueing env cause s ({ s with finSent := true }.appendPacket env stFin [])
  | fill (s : Conn) (pkt : OutgoingPacket) (bytes : List UInt8) (hState : s.state = .connected)
      (hFin : s.finSent = false) (hCount : 0 < s.snd.curWindowPackets)
      (hGet : s.snd.outbuf.get (s.snd.seqNr - 1) = some pkt) (hUnsent : pkt.transmissions = 0)
      (hLength : s.mtu.last ≠ 0 → pkt.payload + bytes.length ≤ s.getPacketSize) (hWrites : cause = .write) :
      Queueing env cause s (s.fillPacket env stData pkt bytes)
  | send (s : Conn) (v : Int) : Queueing env cause s (s.sendPacket env v)
  | acked (s s' : Conn) (r : Received) (hCause : cause = .packet r)
      (hRun : Relation.ReflTransGen (AckStep env r.d.header) s s') (hFront : s'.frontQueued = true) :
      Queueing env cause s s'
  | sacked (s : Conn) (r : Received) (mask : SackMask) (bits : Nat) (hCause : cause = .packet r)
      (hMask : r.selack = some mask) (hBits : bits < mask.extLen * 8)
      (hSet : mask.bit r.d bits = true)
      (hWindow : s.outsideWindow (r.d.header.ackNr + 2 + bits) = false)
      (hSent : (s.ackPacket env (r.d.header.ackNr + 2 + bits)).1 ≠ 2) :
      Queueing env cause s ((s.ackPacket env (r.d.header.ackNr + 2 + bits)).2.emit
        (.sacked (u16 (r.d.header.ackNr + 2 + bits)) s.mtu.probeSeq))
  | lost (s : Conn) (i : Nat) (hIndex : i < s.snd.curWindowPackets) :
      Queueing env cause s (s.losePacket i)
  | advance (s : Conn) (r : Received) (hCause : cause = .packet r) :
      Queueing env cause s (s.updateFastResend r.d.header)
  | retried (s : Conn) (r : Received) (hCause : cause = .packet r) (hFront : s.snd.fastResendSeqNr =
        u16 (s.snd.seqNr - s.snd.curWindowPackets)) (hCount : 0 < s.snd.curWindowPackets) :
      Queueing env cause s { s with snd.fastResendSeqNr := u16 (s.snd.fastResendSeqNr + 1) }
  | resent (s : Conn) (r : Received) (v : Int) (hCause : cause = .packet r)
      (hLow : 1 ≤ u16 (s.snd.seqNr - v)) (hHigh : u16 (s.snd.seqNr - v) ≤ 1028) :
      Queueing env cause s { s with snd.fastResendSeqNr := u16 (v + 1) }

/-- Nothing is left that could be delivered. -/
def Conn.drainDone (s : Conn) : Bool :=
  s.rcv.gotFinReached || (s.rcv.inbuf.get (s.rcv.ackNr + 1)).isNone

/-- One packet consumed, or the end of the stream reached. -/
inductive DrainStep (env : Env) (r : Received) : Conn → Conn → Prop where
  | inOrder (s : Conn) (hOpen : s.state.open = true) (hType : r.d.header.type ≠ stState)
      (hOffset : s.seqOffset r.d.header = 0) (hDone : s.drainDone = true) :
      DrainStep env r s ((s.emit (.accepted r.d.header.seqNr 0 (r.d.drop r.data))).deliver (r.d.drop r.data))
  | eof (s : Conn) : DrainStep env r s (s.reachEof env)
  | take (s : Conn) (p : IncomingPacket) (hOpen : s.state.open = true)
      (hCount : s.rcv.reorderCount ≠ 0) (hGet : s.rcv.inbuf.get (s.rcv.ackNr + 1) = some p) :
      DrainStep env r s (s.takeReordered p)

/-- Transitions of the receiving side. -/
inductive Receiving (env : Env) (cause : Cause) : Conn → Conn → Prop where
  | synAcked (s : Conn) (r : Received) (hCause : cause = .packet r) (hState : s.state = .synSent) :
      Receiving env cause s (s.setAckNr (u16 (r.d.header.seqNr - 1)))
  | fin (s : Conn) (r : Received) (hCause : cause = .packet r) (hOpen : s.state.open = true) :
      Receiving env cause s (s.noteFin r.d.header)
  | drained (s s' : Conn) (r : Received) (hCause : cause = .packet r)
      (hRun : Relation.ReflTransGen (DrainStep env r) s s') (hDone : s'.drainDone = true) :
      Receiving env cause s s'
  | outOfOrder (s : Conn) (r : Received) (hCause : cause = .packet r) (hOpen : s.state.open = true)
      (hType : r.d.header.type ≠ stState) (hOffset : s.seqOffset r.d.header ≠ 0) :
      Receiving env cause s (s.receiveOutOfOrder r.d.header.seqNr (s.seqOffset r.d.header)
        (r.d.drop r.data))

/-- Transitions that set up a new socket. -/
inductive Setup (env : Env) (cause : Cause) : Conn → Conn → Prop where
  | initialise (s : Conn) (addr : PackedSockAddr) (connSeed connIdRecv connIdSend : Nat)
      (hState : s.state = .uninitialized) :
      Setup env cause s (s.initializeSocket env addr connSeed connIdRecv connIdSend)
  | dial (s : Conn) (hState : s.state = .idle) (hCount : s.snd.curWindowPackets = 0)
      (hPointer : s.snd.fastResendSeqNr = 1) :
      Setup env cause s (s.startConnect env).queueSyn
  | accept (s : Conn) (d : Datagram) (hCause : cause = .syn d) (hState : s.state = .idle)
      (hCount : s.snd.curWindowPackets = 0) :
      Setup env cause s (s.startAccept env d.header.seqNr)

/-- Transitions of the connection state, with the notifications they fire. -/
inductive Moving (cause : Cause) : Conn → Conn → Prop where
  | established (s : Conn) (r : Received) (hCause : cause = .packet r)
      (hType : r.d.header.type = stState) (hState : s.state = .synSent) :
      Moving cause s ((s.setState .connected).emit
        (if s.onConnectSet then .onConnect else .onStateChange .connect))
  | admitted (s : Conn) (r : Received) (hCause : cause = .packet r)
      (hType : r.d.header.type = stData) (hState : s.state = .synRecv) :
      Moving cause s ((s.setState .connected).emit (.onStateChange .writable))
  | finAcked (s : Conn) (r : Received) (hCause : cause = .packet r) (hFin : s.finSent = true)
      (hAcks : s.snd.curWindowPackets = s.acksOf r.d.header) :
      Moving cause s
        (if s.closeRequested then { s with finSentAcked := true }.setState .destroy
          else { s with finSentAcked := true })
  | full (s : Conn) (hState : s.state = .connected) (hFull : s.isFull (-1) = true) :
      Moving cause s s.markFull
  | writable (s : Conn) (hState : s.state = .connectedFull) (hFull : s.isFull (-1) = false) :
      Moving cause s ((s.setState .connected).emit (.onStateChange .writable))
  | expired (s : Conn) (hState : s.state = .synRecv) (hTimer : cause = .timer) :
      Moving cause s ((s.setState .destroy).emit (.onError .etimedout))
  | gaveUp (s : Conn) (hState : s.state = .synSent ∨ s.state.open = true) :
      Moving cause s (s.abandon.emit (.onError .etimedout))
  | closing (s : Conn) (hOpen : s.state.open = true) (hAsked : cause = .asked) :
      Moving cause s ({ s with rcv.readShutdown := true, closeRequested := true }.emit .closeRequested)
  | closed (s : Conn) (hState : s.state.open = true → s.closeRequested = true)
      (hAsked : cause = .asked ∨ ∃ d, cause = .syn d) :
      Moving cause s (s.setState .destroy)
  | reset (s : Conn) : Moving cause s s.receiveReset
  | icmpError (s : Conn) : Moving cause s s.receiveIcmpError

/-- A transition that leaves the receiving side alone. -/
inductive Sending (env : Env) (cause : Cause) (s s' : Conn) : Prop where
  | quiet (h : Quiet env cause s s')
  | queueing (h : Queueing env cause s s')
  | moving (h : Moving cause s s')

/-- An elementary transition. -/
inductive Trans (env : Env) (cause : Cause) (s s' : Conn) : Prop where
  | setup (h : Setup env cause s s')
  | sending (h : Sending env cause s s')
  | receiving (h : Receiving env cause s s')

/-- A sequence of transitions with the same cause. -/
abbrev Path (env : Env) (cause : Cause) : Conn → Conn → Prop :=
  Relation.ReflTransGen (Trans env cause)

/-- A sequence of transitions that leave the receiving side alone. -/
abbrev SendPath (env : Env) (cause : Cause) : Conn → Conn → Prop :=
  Relation.ReflTransGen (Sending env cause)

theorem SendPath.path {env : Env} {cause : Cause} {s s' : Conn} (h : SendPath env cause s s') :
    Path env cause s s' :=
  Relation.ReflTransGen.mono (fun _ _ hStep => Trans.sending hStep) s s' h

end Utp
