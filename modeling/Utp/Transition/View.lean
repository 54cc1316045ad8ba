import Utp.Transition.Basic
import Mathlib.Tactic.Simps.Basic

/-! The part of a socket that its bookkeeping leaves alone, and the growth of its
record. -/
namespace Utp

open Wrapping

/-- Identity, state, queue and reorder buffer of a socket. -/
structure View where
  addr : PackedSockAddr
  connIdRecv : Nat
  connIdSend : Nat
  state : ConnState
  finSent : Bool
  finSentAcked : Bool
  seqNr : Nat
  curWindowPackets : Nat
  curWindow : Nat
  outbuf : SizableCircularBuffer OutgoingPacket
  fastResendSeqNr : Nat
  ackNr : Nat
  inbuf : SizableCircularBuffer IncomingPacket
  reorderCount : Nat
  gotFin : Bool
  gotFinReached : Bool
  eofPkt : Nat
  onConnectSet : Bool

/-- Where the queue ends, and the first packet that may be fast-resent. -/
structure Aim where
  seqNr : Nat
  fastResendSeqNr : Nat

def View.aim (v : View) : Aim := ⟨v.seqNr, v.fastResendSeqNr⟩

/-- The pointer is not behind the packet after `ackNr`, and not ahead of `seq_nr`. -/
def Aim.Tracks (ackNr : Nat) (a : Aim) : Prop :=
  u16 (a.fastResendSeqNr - (ackNr + 1)) ≤ u16 (a.seqNr - (ackNr + 1))

/-- Tracking, seen from the end of the queue. -/
theorem Aim.tracks_iff (ackNr : Nat) (a : Aim) : a.Tracks ackNr ↔
    u16 (a.seqNr - a.fastResendSeqNr) ≤ u16 (a.seqNr - (ackNr + 1)) := by
  have hLag := u16_emod (a.seqNr - a.fastResendSeqNr)
  have hDist := u16_emod (a.seqNr - (ackNr + 1))
  have hPast := u16_emod (a.fastResendSeqNr - (ackNr + 1))
  have hLagLt := u16_lt (a.seqNr - a.fastResendSeqNr)
  have hDistLt := u16_lt (a.seqNr - (ackNr + 1))
  have hPastLt := u16_lt (a.fastResendSeqNr - (ackNr + 1))
  unfold Tracks
  omega

/-- Moving the pointer past the oldest packet of a queue does not move it too far. -/
theorem Aim.Tracks.retry {ackNr count : Nat} {a : Aim} (h : a.Tracks ackNr) (hPos : 0 < count)
    (hLimit : count ≤ 1024) (hFront : a.fastResendSeqNr = u16 (a.seqNr - count)) :
    ({ a with fastResendSeqNr := u16 (a.fastResendSeqNr + 1) } : Aim).Tracks ackNr := by
  rw [tracks_iff] at h ⊢
  have hLag := u16_emod (a.seqNr - a.fastResendSeqNr)
  have hNext := u16_emod (a.fastResendSeqNr + 1)
  have hNewLag := u16_emod (a.seqNr - (u16 (a.fastResendSeqNr + 1) : Nat))
  have hLagLt := u16_lt (a.seqNr - a.fastResendSeqNr)
  have hNewLagLt := u16_lt (a.seqNr - (u16 (a.fastResendSeqNr + 1) : Nat))
  have hAt := u16_emod (a.seqNr - count)
  rw [← hFront] at hAt
  dsimp only
  omega

/-- Neither does moving it past a packet that follows the ack and is in the queue. -/
theorem Aim.tracks_resend {ackNr k : Nat} {v : Int} (a : Aim)
    (hNear : u16 (a.seqNr - (ackNr + 1)) ≤ 1028) (hLow : 1 ≤ u16 (a.seqNr - v))
    (hHigh : u16 (a.seqNr - v) ≤ 1028) (hk : k ≤ 2041) (hPast : (65536 : Int) ∣ v - (ackNr + 1 + k)) :
    ({ a with fastResendSeqNr := u16 (v + 1) } : Aim).Tracks ackNr := by
  rw [tracks_iff]
  have hDist := u16_emod (a.seqNr - (ackNr + 1))
  have hAt := u16_emod (a.seqNr - v)
  have hNext := u16_emod (v + 1)
  have hLag := u16_emod (a.seqNr - (u16 (v + 1) : Nat))
  have hDistLt := u16_lt (a.seqNr - (ackNr + 1))
  have hAtLt := u16_lt (a.seqNr - v)
  have hLagLt := u16_lt (a.seqNr - (u16 (v + 1) : Nat))
  dsimp only
  omega

namespace Conn

variable (env : Env)

def aim (s : Conn) : Aim := ⟨s.snd.seqNr, s.snd.fastResendSeqNr⟩

@[simps] def view (s : Conn) : View where
  addr := s.addr
  connIdRecv := s.connIdRecv
  connIdSend := s.connIdSend
  state := s.state
  finSent := s.finSent
  finSentAcked := s.finSentAcked
  seqNr := s.snd.seqNr
  curWindowPackets := s.snd.curWindowPackets
  curWindow := s.snd.curWindow
  outbuf := s.snd.outbuf
  fastResendSeqNr := s.snd.fastResendSeqNr
  ackNr := s.rcv.ackNr
  inbuf := s.rcv.inbuf
  reorderCount := s.rcv.reorderCount
  gotFin := s.rcv.gotFin
  gotFinReached := s.rcv.gotFinReached
  eofPkt := s.rcv.eofPkt
  onConnectSet := s.onConnectSet

/-- The numbers of the queue are part of the view. -/
theorem seqNr_of_view {s t : Conn} (h : t.view = s.view) : t.snd.seqNr = s.snd.seqNr := congrArg View.seqNr h

theorem count_of_view {s t : Conn} (h : t.view = s.view) : t.snd.curWindowPackets = s.snd.curWindowPackets :=
  congrArg View.curWindowPackets h

theorem aim_of_view {s t : Conn} (h : t.view = s.view) : t.aim = s.aim := congrArg View.aim h

@[simp] theorem view_emit (e : Event) (s : Conn) : (s.emit e).view = s.view := rfl

@[simp] theorem view_called (s : Conn) : s.called.view = s.view := rfl

@[simp] theorem view_check (line : Nat) (ok : Bool) (s : Conn) : (s.check line ok).view = s.view := by
  cases ok <;> rfl

@[simp] theorem view_sendData (header : PacketFormatV1) (tail : List UInt8) (flags : Nat)
    (s : Conn) : (s.sendData env header tail flags).view = s.view := rfl

@[simp] theorem view_mtuSearchUpdate (s : Conn) : (s.mtuSearchUpdate env).view = s.view := by
  simp only [mtuSearchUpdate, view_check]
  rfl

@[simp] theorem view_noteMtu (step : MtuStep) (before : MtuState) (s : Conn) :
    (s.noteMtu step before).view = s.view := rfl

@[simp] theorem view_mtuReset (s : Conn) : (s.mtuReset env).view = s.view := by
  simp only [mtuReset, view_noteMtu, view_check]
  rfl

theorem view_probeLost (s : Conn) : (s.probeLost env).view = s.view := view_mtuSearchUpdate env _

theorem view_probePassed (s : Conn) : (s.probePassed env).view = s.view := view_mtuSearchUpdate env _

theorem view_receiveIcmpFragmentation (nextHopMtu : Nat) (s : Conn) :
    (s.receiveIcmpFragmentation env nextHopMtu).view = s.view := by
  simp only [receiveIcmpFragmentation, view_noteMtu]
  split
  · exact view_mtuSearchUpdate env _
  · exact view_mtuSearchUpdate env _

@[simp] theorem view_updateRcvWin (s : Conn) : (s.updateRcvWin env).view = s.view := rfl

@[simp] theorem view_sendAck (synack : Bool) (s : Conn) : (s.sendAck env synack).view = s.view := by
  unfold sendAck
  dsimp only
  split
  · simp only [sendEack, view_sendData, view_check, view_updateRcvWin]
  · simp only [view_sendData, view_updateRcvWin]

/-- A keepalive puts the ack number back. -/
theorem view_sendKeepAlive {s : Conn} (hAck : s.rcv.ackNr < 65536) :
    (s.sendKeepAlive env).view = s.view := by
  have hAckNr : ((s.setAckNr (u16 (s.rcv.ackNr - 1))).sendAck env false).view =
      (s.setAckNr (u16 (s.rcv.ackNr - 1))).view := view_sendAck env false _
  have hBack : u16 ((u16 (s.rcv.ackNr - 1) : Nat) + 1) = s.rcv.ackNr := by
    unfold u16
    omega
  have hNew : ((s.setAckNr (u16 (s.rcv.ackNr - 1))).sendAck env false).rcv.ackNr =
      u16 (s.rcv.ackNr - 1) := congrArg View.ackNr hAckNr
  calc (s.sendKeepAlive env).view
      = { ((s.setAckNr (u16 (s.rcv.ackNr - 1))).sendAck env false).view with
          ackNr := u16 (((s.setAckNr (u16 (s.rcv.ackNr - 1))).sendAck env false).rcv.ackNr + 1) } := rfl
    _ = { (s.setAckNr (u16 (s.rcv.ackNr - 1))).view with
          ackNr := u16 ((u16 (s.rcv.ackNr - 1) : Nat) + 1) } := by rw [hAckNr, hNew]
    _ = s.view := by rw [hBack]; rfl

end Conn

/-- Bookkeeping leaves the view alone. -/
theorem Quiet.view {env : Env} {cause : Cause} {s s' : Conn} (h : Quiet env cause s s')
    (hAck : s.rcv.ackNr < 65536) : s'.view = s.view := by
  cases h with
  | check line ok hLine => exact Conn.view_check line ok s
  | setsockopt opt val => cases opt <;> rfl
  | probeLost hProbe => exact Conn.view_probeLost env s
  | probePassed hProbe => exact Conn.view_probePassed env s
  | fragmentation nextHopMtu => exact Conn.view_receiveIcmpFragmentation env nextHopMtu s
  | startTimer =>
      unfold Conn.startTimer
      split
      · exact Conn.view_check _ _ _
      · rfl
  | ack hCause => exact Conn.view_sendAck env false s
  | synAck d hCause hEmpty => exact Conn.view_sendAck env true s
  | keepAlive hOpen hFin => exact Conn.view_sendKeepAlive env hAck
  | _ => rfl

end Utp
