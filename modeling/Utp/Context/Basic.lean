import Utp.Socket.Api

/-! The context: the table of sockets, the lookup cache, the list of deferred
acks and the memory of rejected connections. -/
namespace Utp

open Wrapping

structure UTPSocketKey where
  addr : PackedSockAddr
  recvId : Nat
  deriving DecidableEq, Repr

structure RstInfo where
  addr : PackedSockAddr
  connid : Nat
  ackNr : Nat
  timestamp : Nat
  deriving DecidableEq, Repr

/-- A `utp_context`. Sockets are named by the order of their allocation, and a
deleted socket has no entry in `sockets`. The table is a finite map from keys to
sockets, and `ida` holds that field of every socket. The record of a socket is
kept in `logs`; what the context does on its own account, with the address of
the peer, is in `log`. -/
structure Context where
  sockets : Nat → Option Socket
  logs : Nat → List Event
  allocated : Nat
  utpSockets : List (UTPSocketKey × Nat)
  lastUtpSocket : Option Nat
  ackSockets : List Nat
  ida : Nat → Int
  rstInfo : List RstInfo
  currentMs : Nat
  lastCheck : Nat
  onAcceptSet : Bool
  onConnectSet : Bool
  targetDelay : Nat
  optSndbuf : Nat
  optRcvbuf : Nat
  tick : Nat
  log : List (PackedSockAddr × Event)

/-- A fresh context, with the callbacks that the embedding program sets. -/
def utpInit (onAcceptSet onConnectSet : Bool) : Context where
  sockets := fun _ => none
  logs := fun _ => []
  allocated := 0
  utpSockets := []
  lastUtpSocket := none
  ackSockets := []
  ida := fun _ => -1
  rstInfo := []
  currentMs := 0
  lastCheck := 0
  onAcceptSet := onAcceptSet
  onConnectSet := onConnectSet
  targetDelay := 100 * 1000
  optSndbuf := 1024 * 1024
  optRcvbuf := 1024 * 1024
  tick := 0
  log := []

namespace Context

def lookup (key : UTPSocketKey) (c : Context) : Option Nat := c.utpSockets.lookup key

def record (addr : PackedSockAddr) (e : Event) (c : Context) : Context :=
  { c with log := c.log ++ [(addr, e)] }

def recordFor (p : Nat) (e : Event) (c : Context) : Context :=
  { c with logs := Function.update c.logs p (c.logs p ++ [e]) }

def scheduleAck (p : Nat) (c : Context) : Context :=
  if c.ida p = -1 then
    { c with
      ida := Function.update c.ida p c.ackSockets.length
      ackSockets := c.ackSockets ++ [p] }
  else c

/-- The last socket of the list takes the place of the one that is removed. -/
def removeSocketFromAckList (p : Nat) (c : Context) : Context :=
  if c.ida p ≥ 0 then
    let last := c.ackSockets.getLastD p
    { c with
      ida := Function.update (Function.update c.ida last (c.ida p)) p (-1)
      ackSockets := (c.ackSockets.set (c.ida p).toNat last).dropLast }
  else c

/-- What an action of a socket does to the list of deferred acks: sending any
packet takes the socket off it. -/
def perform (p : Nat) (e : Event) (c : Context) : Context :=
  match e with
  | .sendto _ _ => c.removeSocketFromAckList p
  | .scheduleAck => c.scheduleAck p
  | _ => c

/-- The state in which a function of the socket `p` runs. -/
def enter (p : Nat) (sock : Socket) (c : Context) : Conn :=
  { sock with
    currentMs := c.currentMs
    onConnectSet := c.onConnectSet
    tick := c.tick
    log := c.logs p }

/-- Write a socket back after one of its functions has run. -/
def leave (p : Nat) (s : Conn) (c : Context) : Context :=
  (s.log.drop (c.logs p).length).foldl (fun c e => c.perform p e)
    { c with
      sockets := Function.update c.sockets p (some s.toSocket)
      logs := Function.update c.logs p s.log
      currentMs := s.currentMs
      tick := s.tick }

/-- Run a function of the socket `p`. -/
def runOn (p : Nat) (f : Conn → Conn) (c : Context) : Context :=
  match c.sockets p with
  | none => c
  | some sock => c.leave p (f (c.enter p sock))

/-- Allocate a socket; its number is the old value of `allocated`. -/
def create (c : Context) : Context :=
  { c with
    sockets := Function.update c.sockets c.allocated
      (some (utpCreateSocket c.targetDelay c.optSndbuf c.optRcvbuf))
    logs := Function.update c.logs c.allocated []
    ida := Function.update c.ida c.allocated (-1)
    allocated := c.allocated + 1 }

def addKey (key : UTPSocketKey) (p : Nat) (c : Context) : Context :=
  { c with utpSockets := (key, p) :: c.utpSockets }

/-- The cache must not outlive the socket it points to. -/
def uncache (p : Nat) (c : Context) : Context :=
  { c with lastUtpSocket := if c.lastUtpSocket = some p then none else c.lastUtpSocket }

def eraseKey (key : UTPSocketKey) (c : Context) : Context :=
  { c with utpSockets := c.utpSockets.eraseP fun entry => entry.1 = key }

def free (p : Nat) (c : Context) : Context := { c with sockets := Function.update c.sockets p none }

/-- The destructor of a socket. -/
def delete (p : Nat) (c : Context) : Context :=
  match c.sockets p with
  | none => c
  | some sock =>
      let key : UTPSocketKey := ⟨sock.addr, sock.connIdRecv⟩
      let c := (c.recordFor p (.onStateChange .destroying)).uncache p
      let c := if (c.lookup key).isSome then c else c.recordFor p (.assertFailed 2533)
      ((c.eraseKey key).removeSocketFromAckList p).free p

end Context

end Utp
