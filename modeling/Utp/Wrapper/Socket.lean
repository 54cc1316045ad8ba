import Utp.Wrapper.Conn

/-! The Go socket around a context of the library. Every function runs under one mutex, which it
gives up only to wait, so a run is a sequence of the sections in between. -/
namespace Utp

namespace Wrapper

/-- Why a section does not end: a nil pointer is followed, a closed channel is sent to, or an
assertion at the head of a library function fails; or `utp_connect` has not found a free id in
the given number of draws. -/
inductive Fault where
  | panic
  | spins
  deriving DecidableEq, Repr

/-- A `Socket`. A `Conn` is named by its library socket; `heap` holds every `Conn` that was
created and `conns` the keys of the map of that name. The context is kept after it was freed. The
flag `gotUtp` belongs to the loop over the received messages. -/
structure Socket where
  ctx : Context
  ctxFreed : Bool
  heap : Nat → Option Conn
  conns : List Nat
  backlog : List Nat
  closed : Bool
  nonUtpReads : List (List UInt8 × PackedSockAddr)
  gotUtp : Bool
  acksScheduled : Bool

/-- The capacities of the two channels. -/
abbrev backlogSize : Nat := 5
abbrev nonUtpReadsSize : Nat := 100

/-- `NewSocketFromPacketConn`. The callback `UTP_ON_CONNECT` is not set. -/
def newSocket : Socket where
  ctx := utpInit true false
  ctxFreed := false
  heap := fun _ => none
  conns := []
  backlog := []
  closed := false
  nonUtpReads := []
  gotUtp := false
  acksScheduled := false

namespace Socket

def modify (p : Nat) (f : Conn → Conn) (w : Socket) : Socket :=
  { w with heap := Function.update w.heap p ((w.heap p).map f) }

def newConn (us : Nat) (w : Socket) : Socket :=
  { w with
    heap := Function.update w.heap us (some (.ofSocket us))
    conns := us :: w.conns }

def onLibSocketDestroyed (ls : Nat) (w : Socket) : Socket := { w with conns := w.conns.filter (· ≠ ls) }

/-- A new connection waits to be accepted, or is closed; the call of `utp_close` is part of the
library operation that has made the callback. -/
def pushBacklog (p : Nat) (w : Socket) : Except Fault Socket :=
  if w.closed then .error .panic
  else if w.backlog.length < backlogSize then .ok { w with backlog := w.backlog ++ [p] }
  else .ok (w.modify p Conn.markClosed)

/-- The callbacks, for the `i`-th action of the library socket `p`. All but the one for `sendto`
follow the pointer `s.conns[p]`. The outcome of `WriteTo` is given by `fatal`. -/
def callback (fatal : Nat → Nat → Bool) (p i : Nat) (e : Event) (w : Socket) : Except Fault Socket :=
  match e with
  | .onAccept => (w.newConn p).pushBacklog p
  | .sendto _ _ => .ok (if p ∈ w.conns then w.modify p (Conn.hear (fatal p i) e) else w)
  | .onRead bytes =>
      if p ∈ w.conns ∧ bytes ≠ [] then .ok (w.modify p (Conn.hear false e)) else .error .panic
  | .onError _ => if p ∈ w.conns then .ok (w.modify p (Conn.hear false e)) else .error .panic
  | .onStateChange .destroying =>
      if p ∈ w.conns then .ok ((w.modify p (Conn.hear false e)).onLibSocketDestroyed p) else .error .panic
  | .onStateChange _ => if p ∈ w.conns then .ok (w.modify p (Conn.hear false e)) else .error .panic
  | _ => .ok w

/-- The callbacks for the actions of `p` from the `i`-th on. -/
def callbacks (fatal : Nat → Nat → Bool) (p : Nat) : Nat → List Event → Socket → Except Fault Socket
  | _, [], w => .ok w
  | i, e :: events, w => (w.callback fatal p i e).bind (callbacks fatal p (i + 1) events)

/-- All callbacks that a library operation has made in the context `before`. Those of different
sockets do not depend on each other. -/
def replay (fatal : Nat → Nat → Bool) (before : Context) (w : Socket) : Except Fault Socket :=
  (List.range w.ctx.allocated).foldlM (fun u p => u.callbacks fatal p (before.logs p).length
    ((w.ctx.logs p).drop (before.logs p).length)) w

variable (env : Env) (fatal : Nat → Nat → Bool)

/-- Call an operation of the library. -/
def cgo (op : Op) (w : Socket) : Except Fault Socket :=
  if w.ctxFreed || !w.ctx.admits op then .error .panic
  else
    match w.ctx.perform1 env op with
    | none => .error .spins
    | some ctx => replay fatal w.ctx { w with ctx := ctx }

/-- `DialContext` up to its first wait. -/
def dial (addr : PackedSockAddr) (draws : Nat) (w : Socket) : Except Fault Socket :=
  if w.closed then .ok w
  else
    (w.cgo env fatal .createSocket).bind fun u =>
      (u.cgo env fatal (.connect w.ctx.allocated addr draws)).map (newConn w.ctx.allocated)

/-- `Conn.close` -/
def close (p : Nat) (w : Socket) : Except Fault Socket :=
  match w.heap p with
  | none => .ok w
  | some c =>
      if c.destroyed || c.closed then .ok (w.modify p Conn.markClosed)
      else
        match c.us with
        | none => .error .panic
        | some us => (w.cgo env fatal (.close us)).map (modify p Conn.markClosed)

/-- One turn of `waitForConnect`, with what `DialContext` does when it fails. -/
def waitForConnect (p : Nat) (cancelled : Bool) (w : Socket) : Except Fault Socket :=
  match (w.heap p).bind (Conn.dialOutcome cancelled) with
  | some (some _) => w.close env fatal p
  | _ => .ok w

/-- `utp_read_drained`, when the last bytes of the buffer were taken. -/
def readDrained (c : Conn) (n : Nat) (w : Socket) : Except Fault Socket :=
  if c.readBuf.take n ≠ [] ∧ c.readBuf.drop n = [] then
    match c.us with
    | none => .ok w
    | some us => w.cgo env fatal (.readDrained us)
  else .ok w

/-- What `readNoWait` reports after the bytes were taken. -/
def readFailure (p : Nat) (late : Bool) (w : Socket) : Option Failure :=
  match w.heap p with
  | none => none
  | some c => if c.readBuf = [] then c.readError late else none

/-- One turn of `Read`, with a slice of `n` bytes. -/
def read (p n : Nat) (late : Bool) (w : Socket) : Except Fault ((List UInt8 × Option Failure) × Socket) :=
  match w.heap p with
  | none => .ok (([], none), w)
  | some c =>
      ((w.modify p (Conn.take n)).readDrained env fatal c n).map fun u =>
        ((c.readBuf.take n, u.readFailure p late), u)

/-- The result of `utp_write`. -/
def written (us : Nat) (b : List UInt8) (w : Socket) : Int :=
  match w.ctx.sockets us with
  | none => -1
  | some sock => ((w.ctx.enter us sock).utpWrite env b).1

/-- One turn of `Write`. -/
def write (p : Nat) (b : List UInt8) (late : Bool) (w : Socket) : Except Fault ((Nat × Option Failure) × Socket) :=
  match w.heap p with
  | none => .ok ((0, none), w)
  | some c =>
      if b = [] then .ok ((0, none), w)
      else
        match c.writeError late, c.us with
        | some failure, _ => .ok ((0, some failure), w)
        | none, none => .error .panic
        | none, some us =>
            if w.written env us b < 0 then .error .panic
            else (w.cgo env fatal (.writev us [b])).map fun u =>
              (((w.written env us b).toNat, none), u.modify p (Conn.wrote (b.take (w.written env us b).toNat)))

def setWriteBufferLen (p : Nat) (len : Int) (w : Socket) : Except Fault Socket :=
  match w.heap p with
  | none => .ok w
  | some c =>
      match c.us with
      | none => .error .panic
      | some us => w.cgo env fatal (.setsockopt us .sndbuf len)

/-- A packet that is not for the library is kept if there is room. -/
def onReadNonUtp (b : List UInt8) (src : PackedSockAddr) (w : Socket) : Socket :=
  if w.nonUtpReads.length < nonUtpReadsSize then { w with nonUtpReads := w.nonUtpReads ++ [(b, src)] } else w

/-- `Socket.utpProcessUdp`, from where the mutex is taken again. -/
def utpProcessUdp (d : Datagram) (addr : PackedSockAddr) (w : Socket) : Except Fault (Bool × Socket) :=
  if d.len = 0 || addr.port = 0 then .ok (false, w)
  else (w.cgo env fatal (.processUdp d addr)).map fun u => ((w.ctx.utpProcessUdp env d addr).1 == 1, u)

/-- The end of `processReceivedMessages`: the deferred acks are scheduled. -/
def afterReceivingUtpMessages (w : Socket) : Socket :=
  { w with gotUtp := false, acksScheduled := w.acksScheduled || w.gotUtp }

/-- `processReceivedMessage` for one message of a batch, with the end of the batch after the last. -/
def message (d : Datagram) (addr : PackedSockAddr) (last : Bool) (w : Socket) : Except Fault Socket :=
  if w.closed then .ok w
  else (w.utpProcessUdp env fatal d addr).map fun r =>
    let u : Socket := if r.1 then { r.2 with gotUtp := true } else r.2.onReadNonUtp (d.drop 0) addr
    if last then u.afterReceivingUtpMessages else u

def ackTimerFunc (w : Socket) : Except Fault Socket :=
  if !w.acksScheduled || w.ctxFreed then .ok w
  else cgo env fatal .issueDeferredAcks { w with acksScheduled := false }

def timeoutCheckerTimerFunc (order : List Nat) (w : Socket) : Except Fault Socket :=
  if w.ctxFreed then .ok w else w.cgo env fatal (.checkTimeouts order)

/-- `Socket.Close` -/
def closeLocked (order : List Nat) (w : Socket) : Except Fault Socket :=
  if w.closed then .ok w
  else (replay fatal w.ctx { w with ctx := w.ctx.utpDestroy order }).map fun u =>
    { u with ctxFreed := true, closed := true, acksScheduled := false }

end Socket

/-- A section of the code that runs under the mutex. The orders are those in which the iterator of
the table visits the sockets. -/
inductive Action where
  | dial (addr : PackedSockAddr) (draws : Nat)
  | waitForConnect (p : Nat) (cancelled : Bool)
  | accept
  | close (p : Nat)
  | read (p n : Nat) (late : Bool)
  | write (p : Nat) (b : List UInt8) (late : Bool)
  | setDeadline (p : Nat)
  | setWriteBufferLen (p : Nat) (len : Int)
  | setOption (opt : SockOpt) (val : Int)
  | message (d : Datagram) (addr : PackedSockAddr) (last : Bool)
  | readFrom
  | ackTimer
  | timeoutChecker (order : List Nat)
  | closeSocket (order : List Nat)

namespace Socket

variable (env : Env) (fatal : Nat → Nat → Bool)

def step (action : Action) (w : Socket) : Except Fault Socket :=
  match action with
  | .dial addr draws => w.dial env fatal addr draws
  | .waitForConnect p cancelled => w.waitForConnect env fatal p cancelled
  | .accept => .ok { w with backlog := w.backlog.tail }
  | .close p => w.close env fatal p
  | .read p n late => (w.read env fatal p n late).map Prod.snd
  | .write p b late => (w.write env fatal p b late).map Prod.snd
  | .setDeadline p => .ok (w.modify p Conn.broadcast)
  | .setWriteBufferLen p len => w.setWriteBufferLen env fatal p len
  | .setOption opt val => w.cgo env fatal (.setOption opt val)
  | .message d addr last => w.message env fatal d addr last
  | .readFrom => .ok { w with nonUtpReads := w.nonUtpReads.tail }
  | .ackTimer => w.ackTimerFunc env fatal
  | .timeoutChecker order => w.timeoutCheckerTimerFunc env fatal order
  | .closeSocket order => w.closeLocked fatal order

/-- What the user and the runtime guarantee: the size of a write buffer is positive and is not set
after the connection was destroyed, options are not set after the socket was closed, and the iterator
visits every entry of the table once. -/
def Allows (action : Action) (w : Socket) : Prop :=
  match action with
  | .setWriteBufferLen p len => 1 ≤ len ∧ ∀ c, w.heap p = some c → c.destroyed = false
  | .setOption opt val => w.ctxFreed = false ∧ Context.validOption opt val = true
  | .timeoutChecker order | .closeSocket order => order.isPerm (w.ctx.utpSockets.map Prod.snd) = true
  | _ => True

/-- The answers that the library got in a section told the truth about the backlog. -/
def Answers (w w' : Socket) : Prop :=
  ∀ t, w.ctx.tick ≤ t → t < w'.ctx.tick → (env t).backlogFull = decide (backlogSize ≤ w.backlog.length)

/-- The sockets that a program can reach. -/
inductive Reachable : Socket → Prop where
  | init : Reachable newSocket
  | next {w w' : Socket} (action : Action) (hReach : Reachable w) (hAllows : w.Allows action)
      (hStep : w.step env fatal action = .ok w') (hAnswers : w.Answers env w') : Reachable w'

end Socket

end Wrapper

end Utp
