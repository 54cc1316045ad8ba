import Utp.Invariant.Timer
import Utp.Transition.AckPoint
import Utp.Guarantees.Stream

/-! Which acknowledgment numbers a socket accepts, and how many packets they ack. -/
namespace Utp

open Wrapping

namespace Conn

variable (env : Env) (d : Datagram)

/-- How far the acked number is behind the newest number that was sent. -/
def ackDistance (header : PacketFormatV1) (s : Conn) : Nat := u16 (s.snd.seqNr - 1 - header.ackNr)

/-- The queued numbers, counted from the oldest one, that are at or before the acked number. -/
def ackedNumbers (header : PacketFormatV1) (s : Conn) : Finset Nat :=
  (Finset.range s.snd.curWindowPackets).filter fun (i : Nat) =>
    u16 (header.ackNr - (s.snd.seqNr - s.snd.curWindowPackets + (i : Int))) < 32768

/-- The state in which what a packet acks has been measured. -/
def ackMeasured (selack : Option SackMask) (time : Nat) (s : Conn) : Conn :=
  let r := (s.countDuplicateAck env d.header).measureAcks env d d.header selack (s.acksOf d.header)
  r.2.controlWindow d.header time r.1

/-- The state in which the ack loop starts: the connection has been completed as well. -/
def atAckLoop (selack : Option SackMask) (time : Nat) (s : Conn) : Conn :=
  let t := ((s.ackMeasured env d selack time).updateWindowUser d.header).completeIncoming d.header
  (t.completeOutgoing env d.header (s.acksOf d.header)).updateFastResend d.header

/-- The tests accept the numbers from three before the window up to the newest one sent. -/
theorem ackInvalid_eq_false_iff {header : PacketFormatV1} {s : Conn} (hCount : s.snd.curWindowPackets ≤ 1024)
    (hTested : header.type ≠ stSyn ∨ s.state ≠ .synRecv) :
    s.ackInvalid header = false ↔ s.ackDistance header ≤ s.snd.curWindowPackets + 3 := by
  have hWindow : max (u16 (s.snd.curWindowPackets + ackNrAllowedWindow)) ackNrAllowedWindow =
      s.snd.curWindowPackets + 3 := by
    have hSum : u16 ((s.snd.curWindowPackets : Int) + ackNrAllowedWindow) = s.snd.curWindowPackets + 3 :=
      u16_of_lt (n := s.snd.curWindowPackets + 3) (by omega)
    rw [hSum]
    exact max_eq_left (Nat.le_add_left 3 _)
  have hGate : (decide (header.type ≠ stSyn) || decide (s.state ≠ .synRecv)) = true := by
    simpa using hTested
  have hEmod := u16_emod (s.snd.seqNr - 1 - header.ackNr)
  have hLt := u16_lt (s.snd.seqNr - 1 - header.ackNr)
  unfold ackInvalid ackDistance wrappingCompareLess
  dsimp only
  rw [hWindow, hGate, Bool.true_and, Bool.or_eq_false_iff, decide_eq_false_iff_not, decide_eq_false_iff_not]
  generalize u16 (s.snd.seqNr - 1 - header.ackNr) = dist at hEmod hLt ⊢
  simp only [ackNrMask]
  push_cast
  omega

/-- The acked numbers are the oldest of the queue. -/
theorem ackedNumbers_eq {header : PacketFormatV1} {s : Conn} (hCount : s.snd.curWindowPackets ≤ 1024)
    (hNear : s.ackDistance header ≤ s.snd.curWindowPackets + 3) :
    s.ackedNumbers header = Finset.range (s.snd.curWindowPackets - s.ackDistance header) := by
  have hEmod := u16_emod (s.snd.seqNr - 1 - header.ackNr)
  unfold ackDistance at hNear ⊢
  generalize u16 (s.snd.seqNr - 1 - header.ackNr) = dist at hEmod hNear ⊢
  ext i
  have hOne := u16_emod (header.ackNr - (s.snd.seqNr - s.snd.curWindowPackets + (i : Int)))
  have hOneLt := u16_lt (header.ackNr - (s.snd.seqNr - s.snd.curWindowPackets + (i : Int)))
  simp only [ackedNumbers, Finset.mem_filter, Finset.mem_range]
  omega

/-- An accepted packet acks the queued numbers at or before its own. -/
theorem acksOf_eq_card {header : PacketFormatV1} {s : Conn} (hCount : s.snd.curWindowPackets ≤ 1024)
    (hNear : s.ackDistance header ≤ s.snd.curWindowPackets + 3) :
    s.acksOf header = (s.ackedNumbers header).card := by
  rw [ackedNumbers_eq hCount hNear, Finset.card_range]
  have hEmod := u16_emod (s.snd.seqNr - 1 - header.ackNr)
  have hAcks := u16_emod (header.ackNr - (s.snd.seqNr - 1 - s.snd.curWindowPackets))
  have hAcksLt := u16_lt (header.ackNr - (s.snd.seqNr - 1 - s.snd.curWindowPackets))
  unfold ackDistance at hNear ⊢
  unfold acksOf
  dsimp only
  generalize u16 (s.snd.seqNr - 1 - header.ackNr) = dist at hEmod hNear ⊢
  generalize u16 (header.ackNr - (s.snd.seqNr - 1 - s.snd.curWindowPackets)) = acks at hAcks hAcksLt ⊢
  split_ifs <;> omega

/-- Each turn of the ack loop takes one packet from a window that is not empty. -/
theorem count_ackLoop (n : Nat) {t : Conn} (hLe : n ≤ t.snd.curWindowPackets) (hCount : t.snd.curWindowPackets < 65536) :
    ∃ k ≤ n, (t.ackLoop env n).snd.curWindowPackets + k = t.snd.curWindowPackets := by
  induction n generalizing t with
  | zero => exact ⟨0, le_rfl, rfl⟩
  | succ n ih =>
      obtain ⟨-, hPackets⟩ := numbers_ackPacket env (t.snd.seqNr - t.snd.curWindowPackets) t
      unfold ackLoop
      dsimp only
      split_ifs
      · exact ⟨0, Nat.zero_le _, hPackets⟩
      · generalize (t.ackPacket env (t.snd.seqNr - t.snd.curWindowPackets)).2 = u at hPackets ⊢
        have hPred : u.decWindowPackets.snd.curWindowPackets = t.snd.curWindowPackets - 1 := by
          change u16 (u.snd.curWindowPackets - 1) = _
          rw [hPackets]
          unfold u16
          omega
        obtain ⟨k, hk, hSum⟩ := ih (t := u.decWindowPackets) (by omega) (by omega)
        exact ⟨k + 1, by omega, by omega⟩

/-- The number of queued packets is part of what the timer depends on. -/
theorem count_of_timer {s t : Conn} (h : t.timer = s.timer) : t.snd.curWindowPackets = s.snd.curWindowPackets :=
  congrArg Timer.count h

theorem count_ackMeasured (selack : Option SackMask) (time : Nat) (s : Conn) :
    (s.ackMeasured env d selack time).snd.curWindowPackets = s.snd.curWindowPackets := by
  have hMeasured := (timer_measureAcks env d d.header selack (s.acksOf d.header) (s.countDuplicateAck env d.header)).trans
    (timer_countDuplicateAck env d.header s)
  have hTimer : (s.ackMeasured env d selack time).timer = s.timer := (timer_controlWindow d.header time _ _).trans hMeasured
  exact count_of_timer hTimer

/-- Completing a connection may queue one more packet before the loop, and takes none away. -/
theorem count_atAckLoop (selack : Option SackMask) (time : Nat) {s : Conn} (hCount : s.snd.curWindowPackets ≤ 1024) :
    s.snd.curWindowPackets ≤ (s.atAckLoop env d selack time).snd.curWindowPackets ∧
      (s.atAckLoop env d selack time).snd.curWindowPackets < 65536 := by
  have hMeasured := count_ackMeasured env d selack time s
  unfold atAckLoop
  dsimp only
  generalize s.ackMeasured env d selack time = t at hMeasured ⊢
  have hWindow : (t.updateWindowUser d.header).snd.curWindowPackets = t.snd.curWindowPackets :=
    count_of_timer (timer_updateWindowUser d.header t)
  have hSame : ((t.updateWindowUser d.header).completeIncoming d.header).snd.curWindowPackets = t.snd.curWindowPackets := by
    rw [snd_completeIncoming]
    exact hWindow
  have hNumbers := numbers_completeOutgoing env d.header (s.acksOf d.header)
    ((t.updateWindowUser d.header).completeIncoming d.header)
  rw [(numbers_updateFastResend d.header _).2]
  rcases hNumbers with ⟨-, hKept⟩ | ⟨-, hMore⟩ <;> omega

/-- What is left to do for a packet when the ack loop is over: the rest of a window that is all acked,
Nagle's packet, the fast retransmission, and the selective acknowledgment. -/
def finishAcks (selack : Option SackMask) (s : Conn) : Conn :=
  let t := s.dropAcked s.snd.curWindowPackets
  let t := ((t.check 2279 t.frontQueued).flushNagle env).fastTimeoutRetry env
  match selack with
  | none => t
  | some mask => t.selectiveAck env d mask (d.header.ackNr + 2)

/-- The test in front of the loop never skips it: the number of acks is within the window. -/
theorem receiveAcks_eq_ackLoop (selack : Option SackMask) (time : Nat) (s : Conn) :
    s.receiveAcks env d d.header selack time =
      ((s.atAckLoop env d selack time).ackLoop env (s.acksOf d.header)).finishAcks env d selack := by
  have hLoop : s.receiveAcks env d d.header selack time =
      let t := if s.acksOf d.header ≤ (s.ackMeasured env d selack time).snd.curWindowPackets then
          (s.ackMeasured env d selack time).processAcks env d.header (s.acksOf d.header)
        else s.ackMeasured env d selack time
      match selack with
      | none => t
      | some mask => t.selectiveAck env d mask (d.header.ackNr + 2) := rfl
  have hAcks : s.acksOf d.header ≤ (s.ackMeasured env d selack time).snd.curWindowPackets :=
    (acksOf_spec d.header s).1.trans (count_ackMeasured env d selack time s).ge
  rw [hLoop, if_pos hAcks]
  rfl

theorem snd_skipExtensions (s : Conn) : (s.skipExtensions d).2.snd = s.snd := by
  have hLoop : ∀ (fuel data extension : Nat) (selack : Option SackMask) (s : Conn),
      (s.extensionLoop d fuel data extension selack).2.snd = s.snd := by
    intro fuel
    induction fuel with
    | zero => exact fun _ _ _ _ => rfl
    | succ fuel ih =>
        intro data extension selack s
        unfold extensionLoop
        dsimp only
        split_ifs <;> first | rfl | exact ih _ _ _ _
  unfold skipExtensions
  split_ifs
  · exact hLoop _ _ _ _ s
  · rfl

/-- Nothing is sent, queued or acked before the acknowledgments. -/
theorem snd_ackPoint {s : Conn} {a : AckPoint} (h : s.ackPoint env d = some a) : a.state.snd = s.snd := by
  obtain ⟨-, -, -, -, t, hParse, hState, -⟩ := ackPoint_cases h
  have hSkip := snd_skipExtensions d (s.atExtensions env d)
  have hStart : (s.atExtensions env d).snd = s.snd := congrArg Socket.snd (socket_atExtensions env d s)
  rw [hParse] at hSkip
  rw [hState, ← hStart, ← hSkip]
  unfold heard
  dsimp only
  split_ifs <;> rfl

theorem acksOf_ackPoint {s : Conn} {a : AckPoint} (h : s.ackPoint env d = some a) :
    a.state.acksOf d.header = s.acksOf d.header := by
  have hSnd := snd_ackPoint env d h
  exact acksOf_congr d.header (congrArg SendState.seqNr hSnd) (congrArg SendState.curWindowPackets hSnd)

/-- A packet that is not let through leaves the socket as it was. -/
theorem socket_of_ackInvalid {s : Conn} (h : s.ackInvalid d.header = true) (syn : Bool) :
    (s.utpProcessIncoming env d syn).toSocket = s.toSocket := by
  have hSame : (((s.updateCurrentMs env).emit (.readBytes 0 20)).called).ackInvalid d.header = true := h
  unfold utpProcessIncoming
  dsimp only
  rw [hSame, if_pos rfl]
  split_ifs <;> rfl

end Conn

/-- What the tests of the ack number do with a packet. -/
structure AckWindow (env : Env) (d : Datagram) (s : Conn) : Prop where
  exact : d.header.type ≠ stSyn →
    (s.ackInvalid d.header = false ↔ s.ackDistance d.header ≤ s.snd.curWindowPackets + 3)
  /-- The tests are skipped for a repeated SYN, which finds nothing queued. -/
  counted : d.header.type ≠ stSyn ∨ s.state ≠ .synRecv ∨ s.snd.curWindowPackets = 0 →
    s.ackInvalid d.header = false → s.acksOf d.header = (s.ackedNumbers d.header).card
  acks_le : s.acksOf d.header ≤ s.snd.curWindowPackets
  /-- After each turn of the loop the window is what it was less the packets taken. -/
  loop : ∀ a, s.ackPoint env d = some a → a.state.acksOf d.header = s.acksOf d.header ∧
    ∀ n ≤ s.acksOf d.header, ∃ k ≤ n,
      ((a.state.atAckLoop env d a.selack a.time).ackLoop env n).snd.curWindowPackets + k =
        (a.state.atAckLoop env d a.selack a.time).snd.curWindowPackets
  rejected : s.ackInvalid d.header = true → ∀ syn, (s.utpProcessIncoming env d syn).toSocket = s.toSocket
  /-- The packets that are let through are parsed, and handled as their extension headers say. -/
  accepted : s.ackInvalid d.header = false → 20 ≤ d.len → d.header.type < stNumStates → ∀ syn,
    s.utpProcessIncoming env d syn = match (s.atExtensions env d).skipExtensions d with
      | (none, t) => t
      | (some (data, selack), t) => t.processBody env d d.header data selack (s.receiptTime env) syn
  /-- Those that get to the acknowledgments run the loop, once for each number they ack. -/
  acked : ∀ a, s.ackPoint env d = some a →
    s.utpProcessIncoming env d false =
        a.state.processAccepted env d d.header a.data (a.state.seqOffset d.header) a.selack a.time ∧
      a.state.receiveAcks env d d.header a.selack a.time =
        ((a.state.atAckLoop env d a.selack a.time).ackLoop env (s.acksOf d.header)).finishAcks env d a.selack

/-- The window of acceptable ack numbers is exact, wherever it lies around the wrap. -/
theorem ack_window_exact (env : Env) (d : Datagram) (s : Conn) (hCount : s.snd.curWindowPackets ≤ 1024) :
    AckWindow env d s where
  exact := fun hType => Conn.ackInvalid_eq_false_iff hCount (Or.inl hType)
  counted := by
    intro hTested hValid
    rcases or_assoc.2 hTested with hTested | hEmpty
    · exact Conn.acksOf_eq_card hCount ((Conn.ackInvalid_eq_false_iff hCount hTested).1 hValid)
    · have hLe := (Conn.acksOf_spec d.header s).1
      have hNone : s.ackedNumbers d.header = ∅ := by
        simp [Conn.ackedNumbers, hEmpty]
      rw [hNone, Finset.card_empty]
      omega
  acks_le := (Conn.acksOf_spec d.header s).1
  loop := by
    intro a hPoint
    have hSnd := Conn.snd_ackPoint env d hPoint
    have hAcks := Conn.acksOf_ackPoint env d hPoint
    have hSame : a.state.snd.curWindowPackets = s.snd.curWindowPackets := congrArg SendState.curWindowPackets hSnd
    refine ⟨hAcks, fun n hn => ?_⟩
    obtain ⟨hMore, hLt⟩ := Conn.count_atAckLoop env d a.selack a.time (s := a.state) (by omega)
    have hLe := (Conn.acksOf_spec d.header s).1
    exact Conn.count_ackLoop env n (by omega) hLt
  rejected := fun hInvalid syn => Conn.socket_of_ackInvalid env d hInvalid syn
  accepted := fun hValid hLong hType syn => Conn.utpProcessIncoming_eq env syn hLong hType hValid
  acked := by
    intro a hPoint
    refine ⟨Conn.utpProcessIncoming_ackPoint hPoint, ?_⟩
    rw [Conn.receiveAcks_eq_ackLoop, Conn.acksOf_ackPoint env d hPoint]

/-- A socket that waits for the packets 65534, 65535, 0 and 1. -/
def wrappedWindow : Conn where
  toSocket :=
    let sock := utpCreateSocket 100000 65536 65536
    { sock with
      state := .connected
      snd.seqNr := 2
      snd.curWindowPackets := 4 }
  currentMs := 1000
  onConnectSet := false
  tick := 0
  log := []

/-- Number 65535 acks two of them, in the loop that the packet gets to; number 65529 is one too old. -/
theorem ack_window_exact_wrapped :
    wrappedWindow.acksOf (somePacket stState 5 1 65535 []).header = 2 ∧
      (wrappedWindow.ackedNumbers (somePacket stState 5 1 65535 []).header).card = 2 ∧
      (∃ a, wrappedWindow.ackPoint steadyEnv (somePacket stState 5 1 65535 []) = some a ∧
        a.state.receiveAcks steadyEnv (somePacket stState 5 1 65535 []) (somePacket stState 5 1 65535 []).header
            a.selack a.time =
          ((a.state.atAckLoop steadyEnv (somePacket stState 5 1 65535 []) a.selack a.time).ackLoop steadyEnv 2).finishAcks
            steadyEnv (somePacket stState 5 1 65535 []) a.selack) ∧
      wrappedWindow.ackInvalid (somePacket stState 5 1 65529 []).header = true ∧
      (wrappedWindow.utpProcessIncoming steadyEnv (somePacket stState 5 1 65529 []) false).toSocket =
        wrappedWindow.toSocket := by
  have hAcks : wrappedWindow.acksOf (somePacket stState 5 1 65535 []).header = 2 := by decide +kernel
  have hOld : wrappedWindow.ackInvalid (somePacket stState 5 1 65529 []).header = true := by decide +kernel
  have hWindow := ack_window_exact steadyEnv (somePacket stState 5 1 65535 []) wrappedWindow (by decide)
  have hCounted := hWindow.counted (Or.inl (by decide)) (by decide +kernel)
  have hReaches : (wrappedWindow.ackPoint steadyEnv (somePacket stState 5 1 65535 [])).isSome = true := by
    decide +kernel
  obtain ⟨a, hPoint⟩ := Option.isSome_iff_exists.1 hReaches
  have hLoop := (hWindow.acked a hPoint).2
  rw [hAcks] at hLoop
  have hRejected := (ack_window_exact steadyEnv (somePacket stState 5 1 65529 []) wrappedWindow (by decide)).rejected
    hOld false
  exact ⟨hAcks, hCounted.symm.trans hAcks, ⟨a, hPoint, hLoop⟩, hOld, hRejected⟩

end Utp
