import Utp.Socket.Incoming

/-! The public operations on one socket. -/
namespace Utp

open Wrapping

/-- A new socket. Fields that `utp_create_socket` leaves alone are filled in by
`utp_initialize_socket` before anything reads them. -/
def utpCreateSocket (targetDelay optSndbuf optRcvbuf : Nat) : Socket where
  addr := ⟨[], 0⟩
  connSeed := 0
  connIdRecv := 0
  connIdSend := 0
  state := .uninitialized
  finSent := false
  finSentAcked := false
  closeRequested := false
  snd := {
    seqNr := 1
    curWindowPackets := 0
    curWindow := 0
    outbuf := .calloc16
    fastResendSeqNr := 1
    timeoutSeqNr := 0
    fastTimeout := false
    duplicateAck := 0
    retransmitCount := 0 }
  rcv := {
    ackNr := 0
    inbuf := .calloc16
    reorderCount := 0
    gotFin := false
    gotFinReached := false
    eofPkt := 0
    readShutdown := false
    extensions := List.replicate 8 0 }
  mtu := { discoverTime := 0, ceiling := 0, floor := 0, last := 0, probeSeq := 0, probeSize := 0 }
  rtt := {
    rtt := 0
    rttVar := 800
    rto := 3000
    rttHist := .clear 0
    retransmitTimeout := 0
    rtoTimeout := 0 }
  win := {
    maxWindow := 0
    maxWindowUser := 255 * packetSize
    optSndbuf := optSndbuf
    slowStart := true
    ssthresh := optSndbuf
    lastRwinDecay := 0
    lastMaxedOutWindow := 0
    zerowindowTime := 0
    targetDelay := targetDelay }
  delay := {
    ourHist := .clear 0
    theirHist := .clear 0
    replyMicro := 0
    lastMeasuredDelay := 0
    averageDelay := 0
    currentDelaySum := 0
    currentDelaySamples := 0
    averageDelayBase := 0
    averageSampleTime := 0
    clockDrift := 0
    clockDriftRaw := 0 }
  optRcvbuf := optRcvbuf
  lastRcvWin := 0
  lastGotPacket := 0
  lastSentPacket := 0

/-- The `how` argument of `utp_shutdown`. -/
inductive Shutdown where
  | rd | wr | rdwr
  deriving DecidableEq, Repr

/-- The options of `utp_setsockopt`. -/
inductive SockOpt where
  | sndbuf | rcvbuf | targetDelay
  deriving DecidableEq, Repr

namespace Conn

variable (env : Env)

def assignIds (addr : PackedSockAddr) (connSeed connIdRecv connIdSend : Nat) (s : Conn) : Conn :=
  { s with
    connSeed := connSeed
    connIdRecv := connIdRecv
    connIdSend := connIdSend
    addr := addr }

/-- Every clock of the socket starts at the current time. -/
def initClocks (s : Conn) : Conn :=
  { s with
    lastGotPacket := s.currentMs
    lastSentPacket := s.currentMs
    delay.lastMeasuredDelay := u64 (0x70000000 + s.currentMs)
    delay.averageSampleTime := u64 (5000 + s.currentMs)
    delay.ourHist := .clear s.currentMs
    delay.theirHist := .clear s.currentMs
    rtt.rttHist := .clear s.currentMs
    win.lastRwinDecay := s.currentMs - maxWindowDecay }

/-- Initialise the MTU range, and fit one packet in the window. -/
def initMtu (s : Conn) : Conn :=
  let s := s.mtuReset env
  let s := { s with mtu.last := s.mtu.ceiling }
  { s with win.maxWindow := s.getPacketSize }

/-- The part of `utp_initialize_socket` that follows the choice of the ids. -/
def initializeSocket (addr : PackedSockAddr) (connSeed connIdRecv connIdSend : Nat) (s : Conn) :
    Conn :=
  let s := ((s.setState .idle).updateCurrentMs env).assignIds addr connSeed connIdRecv connIdSend
  s.initClocks.initMtu env

/-- SYN packets have the receive id in the connid field. -/
def synPacket (s : Conn) : OutgoingPacket where
  length := 20
  payload := 0
  timeSent := 0
  transmissions := 0
  needResend := false
  header := { blankHeader with
    version := 1
    type := stSyn
    connid := u16 s.connIdRecv
    windowsize := u32 s.lastRcvWin
    seqNr := s.snd.seqNr }
  body := []

/-- Remember the connect message in the outgoing queue. -/
def queueSyn (s : Conn) : Conn := s.enqueue s.synPacket

/-- Leave the idle state of a dialled socket: arm the timer and draw the initial
sequence number. -/
def startConnect (s : Conn) : Conn :=
  let s := (s.setState .synSent).updateCurrentMs env
  let s := { s with
    rtt.retransmitTimeout := 3000
    rtt.rtoTimeout := u64 (3000 + s.currentMs) }
  let s := s.updateRcvWin env
  { s.called with snd.seqNr := u16 (s.utpCallGetRandom env) }

/-- The part of `utp_connect` that follows the initialisation of the socket:
create and send a connect message. -/
def connectSocket (s : Conn) : Conn :=
  let s := s.check 2780 (s.snd.curWindowPackets = 0)
  let s := s.check 2781 (s.snd.outbuf.get s.snd.seqNr).isNone
  let s := (s.startConnect env).queueSyn
  s.sendPacket env (s.snd.seqNr - 1)

/-- The state that `utp_process_udp` gives to a socket it creates for a SYN. -/
def startAccept (seqNr : Nat) (s : Conn) : Conn :=
  let random := u16 (s.utpCallGetRandom env)
  { s.called with
    rcv.ackNr := seqNr
    snd.seqNr := random
    snd.fastResendSeqNr := random }.setState .synRecv

/-- Queue our FIN. -/
def sendFin (s : Conn) : Conn := ({ s with finSent := true }.writeOutgoingPacket env 0 stFin []).2

/-- `conn->rto_timeout = utp_call_get_milliseconds(..) + min<uint>(conn->rto * 2, 60)` -/
def hurryTimeout (s : Conn) : Conn :=
  { s.called with
    rtt.rtoTimeout := u64 (s.utpCallGetMilliseconds env + (min (u32 (s.rtt.rto * 2)) 60 : Nat)) }

/-- Close a connection that is up: send our FIN, or be done if it has been acked. -/
def closeConnected (s : Conn) : Conn :=
  let s := { s with rcv.readShutdown := true, closeRequested := true }.emit .closeRequested
  if !s.finSent then s.sendFin env
  else if s.finSentAcked then s.setState .destroy
  else s

/-- Close the socket. Data will keep to try being delivered after the close. -/
def utpClose (s : Conn) : Conn :=
  match s.state with
  | .connected | .connectedFull => s.closeConnected env
  | .synSent => (s.hurryTimeout env).setState .destroy
  | .uninitialized | .idle | .synRecv | .reset | .destroy => s.setState .destroy

/-- The write half of `utp_shutdown`. -/
def shutdownWrite (s : Conn) : Conn :=
  match s.state with
  | .connected | .connectedFull => if !s.finSent then s.sendFin env else s
  | .synSent => s.hurryTimeout env
  | .uninitialized | .idle | .synRecv | .reset | .destroy => s

def utpShutdown (how : Shutdown) (s : Conn) : Conn :=
  let s := if how ≠ .wr then { s with rcv.readShutdown := true } else s
  if how ≠ .rd then s.shutdownWrite env else s

/-- The user has taken bytes out of its read buffer. -/
def utpReadDrained (s : Conn) : Conn :=
  let rcvwin := s.getRcvWindow env
  let s := s.called
  if rcvwin > s.lastRcvWin then
    if s.lastRcvWin = 0 then s.sendAck env false else (s.updateCurrentMs env).scheduleAck
  else s

def utpSetsockopt (opt : SockOpt) (val : Int) (s : Conn) : Conn :=
  match opt with
  | .sndbuf => { s with win.optSndbuf := u64 val }
  | .rcvbuf => { s with optRcvbuf := u64 val }
  | .targetDelay => { s with win.targetDelay := u64 val }

/-- A RST for an existing connection. The error code is chosen after the state
has changed. -/
def receiveReset (s : Conn) : Conn :=
  let s := s.abandon
  s.emit (.onError (if s.state = .synSent then .econnrefused else .econnreset))

/-- An ICMP message that should tear down the connection. -/
def receiveIcmpError (s : Conn) : Conn :=
  let err := if s.state = .synSent then ErrorCode.econnrefused else .econnreset
  if s.state = .idle then s else s.abandon.emit (.onError err)

/-- An ICMP fragmentation-needed message. -/
def receiveIcmpFragmentation (nextHopMtu : Nat) (s : Conn) : Conn :=
  let before := s.mtu
  let s :=
    if nextHopMtu ≥ 576 && nextHopMtu < 0x2000 then
      let s := { s with mtu.ceiling := min nextHopMtu s.mtu.ceiling }.mtuSearchUpdate env
      { s with mtu.last := s.mtu.ceiling }
    else { s with mtu.ceiling := (s.mtu.floor + s.mtu.ceiling) / 2 }.mtuSearchUpdate env
  s.noteMtu (.fragmentation nextHopMtu) before

/-- A socket created for a SYN: processed up to its header, acked, and handed to
the Go wrapper, which closes it again if its backlog is full. -/
def acceptSocket (d : Datagram) (addr : PackedSockAddr) (s : Conn) : Conn :=
  let id := d.header.connid
  let s := (s.initializeSocket env addr id (id + 1) id).startAccept env d.header.seqNr
  let s := (s.utpProcessIncoming env d true).sendAck env true
  let backlogFull := (env s.tick).backlogFull
  let s := s.called.emit .onAccept
  if backlogFull then s.utpClose env else s

end Conn

end Utp
