import Utp.Context.Run

/-! The connections of the Go wrapper, and what the callbacks of the library do to them. -/
namespace Utp

namespace Wrapper

/-- An error that ends a connection: the library reports it, or the UDP socket refuses a packet and
will go on to do so. -/
inductive ConnError where
  | lib (code : ErrorCode)
  | sendto
  deriving DecidableEq, Repr

/-- What `Read`, `Write` and dialling report. -/
inductive Failure where
  | eof
  | err (error : ConnError)
  | destroyed
  | closed
  | deadlineExceeded
  | cancelled
  deriving DecidableEq, Repr

/-- A `Conn`. The code keeps only the numbers of the bytes that were read and written.
The last field counts the calls of `cond.Broadcast`. -/
structure Conn where
  us : Option Nat
  readBuf : List UInt8
  gotEOF : Bool
  gotConnect : Bool
  destroyed : Bool
  closed : Bool
  err : Option ConnError
  bytesRead : List UInt8
  bytesWritten : List UInt8
  broadcasts : Nat
  deriving DecidableEq, Repr

namespace Conn

/-- The `Conn` of the library socket `p`. -/
def ofSocket (p : Nat) : Conn where
  us := some p
  readBuf := []
  gotEOF := false
  gotConnect := false
  destroyed := false
  closed := false
  err := none
  bytesRead := []
  bytesWritten := []
  broadcasts := 0

def broadcast (c : Conn) : Conn := { c with broadcasts := c.broadcasts + 1 }

def onError (err : ConnError) (c : Conn) : Conn := { c with err := some err }.broadcast

def setConnected (c : Conn) : Conn := { c with gotConnect := true }.broadcast

def setGotEOF (c : Conn) : Conn := { c with gotEOF := true }.broadcast

def onDestroyed (c : Conn) : Conn := { c with destroyed := true, us := none }.broadcast

/-- `readCallback` -/
def onRead (b : List UInt8) (c : Conn) : Conn := { c with readBuf := c.readBuf ++ b }.broadcast

/-- The end of `close`. -/
def markClosed (c : Conn) : Conn := { c with closed := true }.broadcast

/-- `stateChangeCallback`, without what it does to the socket. -/
def onStateChange (change : StateChange) (c : Conn) : Conn :=
  match change with
  | .connect => c.setConnected
  | .writable => c.broadcast
  | .eof => c.setGotEOF
  | .destroying => c.onDestroyed

/-- What a `Conn` makes of an action of its socket. The flag tells that `WriteTo` fails with an
error that is fatal, and that the user has not asked to be told of it. -/
def hear (fatal : Bool) (e : Event) (c : Conn) : Conn :=
  match e with
  | .sendto _ _ => if fatal then c.onError .sendto else c
  | .onRead bytes => c.onRead bytes
  | .onError code => c.onError (.lib code)
  | .onStateChange change => c.onStateChange change
  | _ => c

/-- `c.readBuf.Read(b)` for a slice of `n` bytes. -/
def take (n : Nat) (c : Conn) : Conn :=
  { c with readBuf := c.readBuf.drop n, bytesRead := c.bytesRead ++ c.readBuf.take n }

/-- The bytes that `utp_write` has accepted. -/
def wrote (bytes : List UInt8) (c : Conn) : Conn := { c with bytesWritten := c.bytesWritten ++ bytes }

/-- The error of `readNoWait` on an empty buffer. The flag tells that the deadline has passed. -/
def readError (late : Bool) (c : Conn) : Option Failure :=
  if c.gotEOF then some .eof
  else
    match c.err with
    | some error => some (.err error)
    | none =>
        if c.destroyed then some .destroyed
        else if c.closed then some .closed
        else if late then some .deadlineExceeded
        else none

/-- The error of `writeNoWait`. -/
def writeError (late : Bool) (c : Conn) : Option Failure :=
  match c.err with
  | some error => some (.err error)
  | none =>
      if c.closed then some .closed
      else if c.destroyed then some .destroyed
      else if late then some .deadlineExceeded
      else none

/-- One turn of `waitForConnect`: it goes on waiting, returns the connection, or fails. -/
def dialOutcome (cancelled : Bool) (c : Conn) : Option (Option Failure) :=
  if c.closed then some (some .closed)
  else
    match c.err with
    | some error => some (some (.err error))
    | none =>
        if c.gotConnect then some none
        else if cancelled then some (some .cancelled)
        else none

end Conn

end Wrapper

end Utp
