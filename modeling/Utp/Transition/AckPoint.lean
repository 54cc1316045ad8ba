import Utp.Transition.Packet

/-! Where the processing of a packet stands when it gets to the acknowledgments. -/
namespace Utp

open Wrapping

namespace Conn

/-- The state in which the extension headers of a packet are parsed. -/
def atExtensions (env : Env) (d : Datagram) (s : Conn) : Conn :=
  (((s.updateCurrentMs env).emit (.readBytes 0 20)).called).check 1836 (d.header.type ≠ stReset)

/-- The time at which a packet was received. -/
def receiptTime (env : Env) (s : Conn) : Nat :=
  ((s.updateCurrentMs env).emit (.readBytes 0 20)).utpCallGetMicroseconds env

theorem utpProcessIncoming_eq (env : Env) {d : Datagram} (syn : Bool) {s : Conn} (hLong : 20 ≤ d.len)
    (hType : d.header.type < stNumStates) (hAck : s.ackInvalid d.header = false) :
    s.utpProcessIncoming env d syn = match (s.atExtensions env d).skipExtensions d with
      | (none, t) => t
      | (some (data, selack), t) => t.processBody env d d.header data selack (s.receiptTime env) syn := by
  unfold utpProcessIncoming
  dsimp only
  rw [if_neg (Nat.not_le.2 hType)]
  have hSame : (((s.updateCurrentMs env).emit (.readBytes 0 20)).called).ackInvalid d.header = false := hAck
  rw [hSame, if_neg Bool.false_ne_true, if_neg (Nat.not_lt.2 hLong)]
  rfl

theorem socket_atExtensions (env : Env) (d : Datagram) (s : Conn) :
    (s.atExtensions env d).toSocket = s.toSocket := by
  unfold atExtensions check
  split_ifs <;> rfl

end Conn

/-- A packet that has got to the acknowledgment part: the state of the socket, the offset of the
payload, the selective-ack mask, and the time of receipt. -/
structure AckPoint where
  state : Conn
  data : Nat
  selack : Option SackMask
  time : Nat

namespace Conn

/-- What `utp_process_incoming` does with a socket between the extension headers and the
acknowledgments. -/
def heard (header : PacketFormatV1) (s : Conn) : Conn :=
  let s := if s.state = .synSent then s.setAckNr (u16 (header.seqNr - 1)) else s
  { s with lastGotPacket := s.currentMs }

theorem processBody_eq (env : Env) (d : Datagram) (header : PacketFormatV1) (data : Nat) (selack : Option SackMask)
    (time : Nat) (syn : Bool) (s : Conn) : s.processBody env d header data selack time syn =
      if syn then s.heard header
      else if (s.heard header).seqOffset header ≥ reorderBufferMaxSize then
        if (s.heard header).seqOffset header ≥ 65536 - reorderBufferMaxSize && header.type ≠ stState then
          (s.heard header).scheduleAck
        else s.heard header
      else (s.heard header).processAccepted env d header data ((s.heard header).seqOffset header) selack time := rfl

/-- The point at which a packet gets to the acknowledgments, unless it is dropped before. -/
def ackPoint (env : Env) (d : Datagram) (s : Conn) : Option AckPoint :=
  if d.header.type ≥ stNumStates || s.ackInvalid d.header || d.len < 20 then none
  else
    match (s.atExtensions env d).skipExtensions d with
    | (none, _) => none
    | (some (data, selack), t) =>
        if (t.heard d.header).seqOffset d.header ≥ reorderBufferMaxSize then none
        else some ⟨t.heard d.header, data, selack, s.receiptTime env⟩

variable {env : Env} {d : Datagram} {s : Conn} {a : AckPoint}

/-- What a packet went through before it got to the acknowledgments. -/
theorem ackPoint_cases (h : s.ackPoint env d = some a) : 20 ≤ d.len ∧ d.header.type < stNumStates ∧
    s.ackInvalid d.header = false ∧ a.time = s.receiptTime env ∧ ∃ t, (s.atExtensions env d).skipExtensions d = (some (a.data, a.selack), t) ∧
      a.state = t.heard d.header ∧ a.state.seqOffset d.header < reorderBufferMaxSize := by
  unfold ackPoint at h
  split_ifs at h with hChecks
  simp only [Bool.or_eq_true, decide_eq_true_eq, not_or] at hChecks
  obtain ⟨⟨hType, hAck⟩, hLen⟩ := hChecks
  refine ⟨Nat.le_of_not_lt hLen, Nat.lt_of_not_le hType, Bool.eq_false_iff.2 hAck, ?_⟩
  split at h
  · cases h
  · rename_i data selack t hParse
    split_ifs at h with hFar
    cases h
    exact ⟨rfl, t, hParse, rfl, Nat.lt_of_not_le hFar⟩

/-- The rest of the processing starts there. -/
theorem utpProcessIncoming_ackPoint (h : s.ackPoint env d = some a) :
    s.utpProcessIncoming env d false =
      a.state.processAccepted env d d.header a.data (a.state.seqOffset d.header) a.selack a.time := by
  obtain ⟨hLen, hType, hAck, hTime, t, hParse, hState, hNear⟩ := ackPoint_cases h
  rw [utpProcessIncoming_eq env false hLen hType hAck, hParse, hTime]
  rw [hState] at hNear ⊢
  dsimp only
  rw [processBody_eq, if_neg Bool.false_ne_true, if_neg (Nat.not_le.2 hNear)]

/-- The part of the way up to the end of the extension headers is bookkeeping. -/
theorem path_atExtensions (env : Env) (cause : Cause) (d : Datagram) (s : Conn) :
    QuietPath env cause s ((s.atExtensions env d).skipExtensions d).2 := by
  have hHead : QuietPath env cause s ((s.updateCurrentMs env).emit (.readBytes 0 20)) :=
    .head (Quiet.clock s) (.single (Quiet.read _ 0 20))
  have hStart : QuietPath env cause s (s.atExtensions env d) :=
    (hHead.tail (Quiet.called _)).tail (Quiet.check _ 1836 _ (by decide))
  exact hStart.trans (path_skipExtensions env cause d (s.atExtensions env d))

/-- Of the view, only the ack number may change on the way. -/
theorem view_ackPoint (h : s.ackPoint env d = some a) (hAck : s.rcv.ackNr < 65536) :
    ∃ ackNr, a.state.view = { s.view with ackNr := ackNr } := by
  obtain ⟨-, -, -, -, t, hParse, hState, -⟩ := ackPoint_cases h
  have hView : ((s.atExtensions env d).skipExtensions d).2.view = s.view :=
    QuietPath.view (path_atExtensions env .call d s) hAck
  rw [hParse] at hView
  rw [hState, ← hView]
  unfold heard
  dsimp only
  split_ifs
  · exact ⟨_, rfl⟩
  · exact ⟨t.rcv.ackNr, rfl⟩

/-- The way of a packet to the acknowledgments is a path of transitions. -/
theorem path_ackPoint (h : s.ackPoint env d = some a) : Path env (.packet ⟨d, a.data, a.selack⟩) s a.state := by
  obtain ⟨-, -, -, -, t, hParse, hState, -⟩ := ackPoint_cases h
  have hSkip := path_atExtensions env (.packet ⟨d, a.data, a.selack⟩) d s
  rw [hParse] at hSkip
  refine (SendPath.path (QuietPath.path hSkip)).trans ?_
  rw [hState]
  unfold heard
  dsimp only
  split_ifs with hSent
  · have hAcked : Receiving env (.packet ⟨d, a.data, a.selack⟩) t _ := .synAcked t _ rfl hSent
    exact .tail (.single (Trans.receiving hAcked)) (.sending (.quiet (.heard _)))
  · exact .single (.sending (.quiet (.heard t)))

end Conn

end Utp
