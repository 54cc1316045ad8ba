import Utp.Context.Api

/-! Runs of a context: any sequence of public operations. -/
namespace Utp

open Wrapping

/-- A call of the public interface. -/
inductive Op where
  | createSocket
  | setOption (opt : SockOpt) (val : Int)
  | connect (p : Nat) (addr : PackedSockAddr) (draws : Nat)
  | writev (p : Nat) (iovecs : List (List UInt8))
  | readDrained (p : Nat)
  | setsockopt (p : Nat) (opt : SockOpt) (val : Int)
  | shutdown (p : Nat) (how : Shutdown)
  | close (p : Nat)
  | processUdp (d : Datagram) (addr : PackedSockAddr)
  | processIcmpFragmentation (d : Datagram) (addr : PackedSockAddr) (nextHopMtu : Nat)
  | processIcmpError (d : Datagram) (addr : PackedSockAddr)
  | issueDeferredAcks
  | checkTimeouts (order : List Nat)

namespace Context

def utpContextSetOption (opt : SockOpt) (val : Int) (c : Context) : Context :=
  match opt with
  | .sndbuf => { c with optSndbuf := u64 val }
  | .rcvbuf => { c with optRcvbuf := u64 val }
  | .targetDelay => { c with targetDelay := u64 val }

/-- Whether the socket `p` exists and is in a state that satisfies `ok`. -/
def stateIs (p : Nat) (ok : ConnState → Bool) (c : Context) : Bool :=
  match c.sockets p with
  | none => false
  | some sock => ok sock.state

/-- The `val >= 1` that is asserted for the two buffer sizes. -/
def validOption (opt : SockOpt) (val : Int) : Bool := opt == .targetDelay || 1 ≤ val

/-- What the caller of an operation has to guarantee. These are the assertions at
the head of the functions, that the socket has not been deleted, and that the
iterator of the table visits every entry once. -/
def admits (op : Op) (c : Context) : Bool :=
  match op with
  | .createSocket | .issueDeferredAcks => true
  | .processUdp _ _ | .processIcmpError _ _ | .processIcmpFragmentation _ _ _ => true
  | .setOption opt val => validOption opt val
  | .connect p _ _ => c.stateIs p (· == .uninitialized)
  | .writev p iovecs => c.stateIs p (fun _ => true) && !iovecs.isEmpty
  | .readDrained p => c.stateIs p (· != .uninitialized)
  | .setsockopt p opt val => c.stateIs p (fun _ => true) && validOption opt val
  | .shutdown p _ | .close p => c.stateIs p fun st => st != .uninitialized && st != .destroy
  | .checkTimeouts order => order.isPerm (c.utpSockets.map Prod.snd)

variable (env : Env)

/-- Carry out one operation. The only one that may not return is `utp_connect`,
which draws seeds until it finds a free one. -/
def perform1 (op : Op) (c : Context) : Option Context :=
  match op with
  | .createSocket => some c.create
  | .setOption opt val => some (c.utpContextSetOption opt val)
  | .connect p addr draws => c.utpConnect env p addr draws
  | .writev p iovecs => some (c.runOn p fun s => (s.utpWritev env iovecs).2)
  | .readDrained p => some (c.runOn p fun s => s.utpReadDrained env)
  | .setsockopt p opt val => some (c.runOn p fun s => s.utpSetsockopt opt val)
  | .shutdown p how => some (c.runOn p fun s => s.utpShutdown env how)
  | .close p => some (c.runOn p fun s => s.utpClose env)
  | .processUdp d addr => some (c.utpProcessUdp env d addr).2
  | .processIcmpFragmentation d addr nextHopMtu =>
      some (c.utpProcessIcmpFragmentation env d addr nextHopMtu).2
  | .processIcmpError d addr => some (c.utpProcessIcmpError d addr).2
  | .issueDeferredAcks => some (c.utpIssueDeferredAcks env)
  | .checkTimeouts order => some (c.utpCheckTimeouts env order)

/-- One operation whose caller keeps its side of the contract. -/
def step (op : Op) (c : Context) : Option Context :=
  if c.admits op then c.perform1 env op else none

/-- The contexts that an embedding program can reach. -/
inductive Reachable : Context → Prop where
  | init (onAcceptSet onConnectSet : Bool) : Reachable (utpInit onAcceptSet onConnectSet)
  | next {c c' : Context} (op : Op) (hReach : Reachable c) (hStep : c.step env op = some c') :
      Reachable c'

/-- Carry out a list of operations. -/
def run : List Op → Context → Option Context
  | [], c => some c
  | op :: ops, c => (c.step env op).bind (run ops)

theorem Reachable.run {ops : List Op} {c c' : Context} (h : c.Reachable env)
    (hRun : c.run env ops = some c') : c'.Reachable env := by
  induction ops generalizing c with
  | nil => exact Option.some.inj hRun ▸ h
  | cons op ops ih =>
      obtain ⟨next, hStep, hRest⟩ := Option.bind_eq_some_iff.1 hRun
      exact ih (.next op h hStep) hRest

/-- A run that ends as expected reaches such a context. -/
theorem Reachable.exists_of_run {env : Env} {onAcceptSet onConnectSet : Bool} {ops : List Op}
    {ok : Context → Bool} (h : ((utpInit onAcceptSet onConnectSet).run env ops).any ok = true) :
    ∃ c, c.Reachable env ∧ ok c = true := by
  obtain ⟨c, hRun, hOk⟩ := (Option.any_eq_true ok _).1 h
  exact ⟨c, Reachable.run env (.init onAcceptSet onConnectSet) hRun, hOk⟩

end Context

end Utp
