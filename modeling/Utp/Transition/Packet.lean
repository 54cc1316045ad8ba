import Utp.Transition.Sack

/-! The processing of a received packet is a path of elementary transitions. -/
namespace Utp

open Wrapping

/-- The receiving side of a socket. -/
structure RecvView where
  ackNr : Nat
  inbuf : SizableCircularBuffer IncomingPacket
  reorderCount : Nat
  gotFin : Bool
  gotFinReached : Bool
  eofPkt : Nat

@[simps] def Conn.recvView (s : Conn) : RecvView where
  ackNr := s.rcv.ackNr
  inbuf := s.rcv.inbuf
  reorderCount := s.rcv.reorderCount
  gotFin := s.rcv.gotFin
  gotFinReached := s.rcv.gotFinReached
  eofPkt := s.rcv.eofPkt

theorem Conn.recvView_of_view {s s' : Conn} (h : s'.view = s.view) : s'.recvView = s.recvView :=
  congrArg (fun v : View => (⟨v.ackNr, v.inbuf, v.reorderCount, v.gotFin, v.gotFinReached,
    v.eofPkt⟩ : RecvView)) h

/-- The moves of the state that belong to no packet leave what was received alone. -/
theorem Moving.recvView {cause : Cause} {s s' : Conn} (h : Moving cause s s') :
    s'.recvView = s.recvView := by
  cases h with
  | finAcked r hCause hFin hAcks => split_ifs <;> rfl
  | full hState hFull =>
      unfold Conn.markFull Conn.noteFull
      rw [if_pos hFull, if_pos hFull]
      rfl
  | icmpError =>
      unfold Conn.receiveIcmpError
      dsimp only
      split_ifs <;> rfl
  | _ => rfl

/-- Nothing that is sent, queued or acked changes what was received. -/
theorem Sending.recvView {env : Env} {cause : Cause} {s s' : Conn} (h : Sending env cause s s')
    (hAck : s.rcv.ackNr < 65536) : s'.recvView = s.recvView := by
  cases h with
  | quiet hQuiet => exact Conn.recvView_of_view (hQuiet.view hAck)
  | queueing hQueue =>
      have hRcv : s'.rcv = s.rcv := congrArg Backdrop.rcv hQueue.backdrop
      unfold Conn.recvView
      rw [hRcv]
  | moving hMove => exact hMove.recvView

/-- By induction on the path; the bound on `ack_nr` stays with the view. -/
theorem SendPath.recvView {env : Env} {cause : Cause} {s s' : Conn} (h : SendPath env cause s s')
    (hAck : s.rcv.ackNr < 65536) : s'.recvView = s.recvView := by
  induction h with
  | refl => rfl
  | tail _ hStep ih =>
      have hBound : (_ : Conn).rcv.ackNr < 65536 :=
        lt_of_eq_of_lt (congrArg RecvView.ackNr ih) hAck
      exact (hStep.recvView hBound).trans ih

/-- A sequence of bookkeeping steps and of transitions of the receiving side. -/
abbrev TakePath (env : Env) (cause : Cause) : Conn → Conn → Prop :=
  Relation.ReflTransGen fun s s' => Quiet env cause s s' ∨ Receiving env cause s s'

/-- A path on which packets are taken is a path. -/
theorem TakePath.path {env : Env} {cause : Cause} {s s' : Conn} (h : TakePath env cause s s') :
    Path env cause s s' := by
  refine Relation.ReflTransGen.mono (fun _ _ hStep => ?_) s s' h
  rcases hStep with hQuiet | hReceive
  · exact .sending (.quiet hQuiet)
  · exact .receiving hReceive

namespace Conn

variable (env : Env) (cause : Cause) {r : Received}

/-- What is acked is counted first in the window and then in the mask. -/
theorem path_measureAcks (d : Datagram) (header : PacketFormatV1) (selack : Option SackMask)
    (acks : Nat) (s : Conn) :
    QuietPath env cause s (s.measureAcks env d header selack acks).2 := by
  have hBytes : QuietPath env cause s _ := Relation.ReflTransGen.head (Quiet.called s)
    (path_ackedBytesFrom env cause (s.utpCallGetMicroseconds env) acks 0 ⟨0, int64Max⟩ s.called)
  unfold measureAcks
  cases selack with
  | none => exact hBytes
  | some mask => exact hBytes.trans (path_selectiveAckBytes env cause d mask _ _ _)

/-- The delay is measured before the window is controlled by it. -/
theorem path_controlWindow (header : PacketFormatV1) (time : Nat) (a : AckedBytes) (s : Conn) :
    QuietPath env cause s (s.controlWindow header time a) := by
  have hDelay := path_measureDelay env cause header time a.minRtt s
  unfold controlWindow
  dsimp only
  split_ifs
  · exact hDelay.trans (path_applyCcontrol env cause _ _ _)
  · exact hDelay

/-- Bookkeeping before the acks are processed. -/
theorem AcksDone.of_quiet {s t s' : Conn} (h : AcksDone env cause t s')
    (hQuiet : QuietPath env cause s t) (hView : t.view = s.view) : AcksDone env cause s s' := by
  have hSeq : t.snd.seqNr = s.snd.seqNr := congrArg View.seqNr hView
  have hPointer : t.snd.fastResendSeqNr = s.snd.fastResendSeqNr := congrArg View.fastResendSeqNr hView
  have hCount : t.snd.curWindowPackets = s.snd.curWindowPackets :=
    congrArg View.curWindowPackets hView
  obtain ⟨hPath, hMoved, hNear, hTracks⟩ := h
  rw [hSeq] at hMoved
  rw [hSeq, hCount] at hNear
  rw [hSeq, hCount, hPointer] at hTracks
  exact ⟨hQuiet.path.trans hPath, hMoved, hNear, hTracks⟩

/-- A selective ack after the cumulative one. -/
theorem AcksDone.resend {s t s' : Conn} (h : AcksDone env cause s t) (hCause : cause = .packet r)
    (hPath : SendPath env cause t s')
    (hAim : s'.aim = t.aim ∨ ∃ v, Resendable (r.d.header.ackNr + 2) t v ∧
      s'.aim = { t.aim with fastResendSeqNr := u16 (v + 1) })
    (hBehind : u16 (s.snd.seqNr - (r.d.header.ackNr + 1)) ≤ s.snd.curWindowPackets + 3) :
    AcksDone env cause s s' := by
  have hSeq : s'.snd.seqNr = t.snd.seqNr := by
    rcases hAim with hSame | ⟨v, -, hMoved⟩
    · exact congrArg Aim.seqNr hSame
    · exact congrArg Aim.seqNr hMoved
  refine ⟨h.path.trans hPath, hSeq ▸ h.seqNr, hSeq ▸ h.near, fun r' hr hNear hLag => ?_⟩
  have hOld := h.tracks r' hr hNear hLag
  obtain rfl : r' = r := by
    rw [hCause] at hr
    exact (Cause.packet.inj hr).symm
  rcases hAim with hSame | ⟨v, ⟨hLow, hHigh, k, hk, hPast⟩, hMoved⟩
  · rwa [hSame]
  · have hClose := h.near r' hCause hBehind
    rw [hMoved]
    refine t.aim.tracks_resend (hClose.trans (by decide)) hLow hHigh hk ?_
    have hBase : v - ((r'.d.header.ackNr + 1 : Int) + k) = v - ((r'.d.header.ackNr + 2 : Int) - 1 + k) := by
      ring
    rwa [hBase]

/-- The whole of the acknowledgments: measuring, the cumulative part, and the mask, if there is one. -/
theorem spec_receiveAcks (time : Nat) {s : Conn} (h : Core s) (hCause : cause = .packet r)
    (hMask : ∀ mask, r.selack = some mask → mask.extLen < 256)
    (hBehind : u16 (s.snd.seqNr - (r.d.header.ackNr + 1)) ≤ s.snd.curWindowPackets + 3) :
    AcksDone env cause s (s.receiveAcks env r.d r.d.header r.selack time) := by
  have hMeasured : QuietPath env cause s _ := (path_countDuplicateAck env cause r.d.header s).trans
    (path_measureAcks env cause r.d r.d.header r.selack (s.acksOf r.d.header) _)
  unfold receiveAcks
  dsimp only
  generalize (s.countDuplicateAck env r.d.header).measureAcks env r.d r.d.header r.selack
    (s.acksOf r.d.header) = a at hMeasured ⊢
  have hControl : QuietPath env cause s _ := hMeasured.trans (path_controlWindow env cause r.d.header time a.1 a.2)
  generalize a.2.controlWindow r.d.header time a.1 = w at hControl ⊢
  have hView := hControl.view h.view.bounds.ackNr_lt
  have hSeq : w.snd.seqNr = s.snd.seqNr := congrArg View.seqNr hView
  have hPackets : w.snd.curWindowPackets = s.snd.curWindowPackets :=
    congrArg View.curWindowPackets hView
  have hAcks : w.acksOf r.d.header = s.acksOf r.d.header := acksOf_congr _ hSeq hPackets
  have hLe : s.acksOf r.d.header ≤ w.snd.curWindowPackets :=
    hPackets.symm ▸ (acksOf_spec r.d.header s).1
  rw [if_pos hLe, ← hAcks]
  have hDone := (spec_processAcks env cause (h.sendPath hControl.path) hCause).of_quiet env cause hControl hView
  generalize w.processAcks env r.d.header (w.acksOf r.d.header) = x at hDone ⊢
  have hNear := hDone.near r hCause hBehind
  split
  · exact hDone
  · rename_i mask hSelack
    have hBase : (x.snd.seqNr - 1 - r.d.header.ackNr : Int) = x.snd.seqNr - (r.d.header.ackNr + 1) := by
      ring
    obtain ⟨hPath, hAim⟩ : SendPath env cause x _ ∧ _ := path_selectiveAck (h.sendPath hDone.path)
      hCause hSelack (hMask mask hSelack) (by rw [hBase]; omega)
    exact hDone.resend env cause hCause hPath hAim hBehind

/-- A full connection becomes writable again. -/
theorem path_makeWritable (s : Conn) : SendPath env cause s s.makeWritable := by
  unfold makeWritable
  split_ifs with hState hFull
  · exact path_noteFull env cause (-1) s
  · exact (Moving.writable s hState (eq_false_of_ne_true hFull)).path
  · exact .refl

/-- Nothing is left to deliver when no packet is waiting. -/
theorem drainDone_of_empty {s : Conn} (h : LooseOk s.view) (hCount : s.rcv.reorderCount = 0) :
    s.drainDone = true := by
  unfold drainDone
  by_cases hFin : s.rcv.gotFinReached = true
  · simp [hFin]
  · have hShape := h.reorder (eq_false_of_ne_true hFin)
    simp only [view_reorderCount, hCount] at hShape
    have hNone : s.rcv.inbuf.get (s.rcv.ackNr + 1) = none := hShape.get_of_count_zero _
    simp [hNone]

/-- Each turn of the drain loop takes one packet from the reorder buffer. -/
theorem reorderCount_takeReordered (p : IncomingPacket) {s : Conn} (hCount : s.rcv.reorderCount ≠ 0) :
    (s.takeReordered p).rcv.reorderCount < s.rcv.reorderCount := by
  have hView := congrArg View.reorderCount (view_takeReordered p s)
  have hNew : (s.takeReordered p).rcv.reorderCount = u16 (s.rcv.reorderCount - 1) := hView
  rw [hNew]
  unfold u16
  omega

/-- At the end of the stream what waits in the reorder buffer is dropped. -/
theorem reorderCount_reachEof (s : Conn) :
    (s.reachEof env).rcv.reorderCount ≤ s.rcv.reorderCount := by
  rcases reachEof_cases env s with hSame | ⟨-, -, -, hView, -⟩
  · rw [hSame]
  · have hZero : (s.reachEof env).rcv.reorderCount = 0 := congrArg View.reorderCount hView
    omega

/-- The delivery loop runs until nothing is left to deliver. -/
theorem run_drainReordered (fuel : Nat) {s : Conn} (h : LooseOk s.view) (hOpen : s.state.open = true)
    (hFuel : s.rcv.reorderCount < fuel) :
    Relation.ReflTransGen (DrainStep env r) s (s.drainReordered env fuel) ∧
      (s.drainReordered env fuel).drainDone = true := by
  induction fuel generalizing s with
  | zero => exact absurd hFuel (Nat.not_lt_zero _)
  | succ fuel ih =>
      have hEof : DrainStep env r s _ := .eof s
      have hLoose := (hEof.loose h).1
      have hLess := reorderCount_reachEof env s
      have hState : (s.reachEof env).state.open = true := by
        rw [show (s.reachEof env).state = s.state from congrArg Foreground.state hEof.foreground]
        exact hOpen
      unfold drainReordered
      dsimp only
      split_ifs with hEmpty
      · exact ⟨.single hEof, drainDone_of_empty hLoose hEmpty⟩
      · split
        · rename_i hNone
          exact ⟨.single hEof, by simp [drainDone, hNone]⟩
        · rename_i p hGet
          have hTake : DrainStep env r (s.reachEof env) _ := .take _ p hState hEmpty hGet
          have hFewer := reorderCount_takeReordered p hEmpty
          have hNext : ((s.reachEof env).takeReordered p).state.open = true := by
            rw [show ((s.reachEof env).takeReordered p).state = (s.reachEof env).state from
              congrArg Foreground.state hTake.foreground]
            exact hState
          obtain ⟨hRun, hDone⟩ := ih (hTake.loose hLoose).1 hNext (by omega)
          exact ⟨Relation.ReflTransGen.head hEof (Relation.ReflTransGen.head hTake hRun), hDone⟩

/-- In a sound state there is nothing to drain: the next packet is missing. -/
theorem drainDone_of_core {s : Conn} (h : Core s) : s.drainDone = true := by
  unfold Conn.drainDone
  by_cases hFin : s.rcv.gotFinReached = true
  · simp [hFin]
  · have hNone : s.rcv.inbuf.get (s.rcv.ackNr + 1) = none := h.view.next (eq_false_of_ne_true hFin)
    simp [hNone]

/-- The packet is delivered, the end of the stream may be reached, and what waited behind it is drained.
-/
theorem path_receiveInOrder {s : Conn} (h : Core s) (hCause : cause = .packet r)
    (hOpen : s.state.open = true) (hType : r.d.header.type ≠ stState)
    (hOffset : s.seqOffset r.d.header = 0) :
    TakePath env cause s (s.receiveInOrder env r.d.header.seqNr (r.d.drop r.data)) := by
  have hFirst : DrainStep env r s _ := .inOrder s hOpen hType hOffset (drainDone_of_core h)
  have hState : ((s.emit (.accepted r.d.header.seqNr 0 (r.d.drop r.data))).deliver (r.d.drop r.data)).state.open = true := by
    rw [show ((s.emit (.accepted r.d.header.seqNr 0 (r.d.drop r.data))).deliver (r.d.drop r.data)).state = s.state from
      congrArg Foreground.state hFirst.foreground]
    exact hOpen
  obtain ⟨hRun, hDone⟩ := run_drainReordered env (r := r)
    (((s.emit (.accepted r.d.header.seqNr 0 (r.d.drop r.data))).deliver (r.d.drop r.data)).rcv.reorderCount + 1)
    (hFirst.loose h.view.toLooseOk).1 hState (Nat.lt_succ_self _)
  have hDrained : Receiving env cause s _ := .drained s _ r hCause (.head hFirst hRun) hDone
  exact .tail (.single (Or.inr hDrained)) (Or.inl (.scheduleAck _ (Or.inr ⟨r, hCause, hType⟩)))

theorem open_of_not {st : ConnState} (h : ¬(st ≠ .connected ∧ st ≠ .connectedFull)) :
    st.open = true := by
  cases st <;> simp_all [ConnState.open]

/-- A packet of data is delivered, or is stored for later, in a connection that is up. -/
theorem path_receiveData {s : Conn} (h : Core s) (hCause : cause = .packet r) :
    TakePath env cause s
      (s.receiveData env r.d r.d.header r.data (s.seqOffset r.d.header)) := by
  unfold receiveData
  by_cases hType : r.d.header.type = stState
  · rw [if_pos hType]
  rw [if_neg hType]
  by_cases hState : s.state ≠ .connected ∧ s.state ≠ .connectedFull
  · rw [if_pos hState]
  · rw [if_neg hState]
    have hOpen := open_of_not hState
    have hFin : Receiving env cause s _ := .fin s r hCause hOpen
    have hForeground : (s.noteFin r.d.header).state = s.state :=
      congrArg Foreground.state hFin.foreground
    have hAck : (s.noteFin r.d.header).rcv.ackNr = s.rcv.ackNr := by
      unfold noteFin
      split_ifs <;> rfl
    have hRead : Quiet env cause (s.noteFin r.d.header) _ := .read _ r.data (r.d.len - r.data)
    have hPath : TakePath env cause s ((s.noteFin r.d.header).emit (.readBytes r.data (r.d.len - r.data))) :=
      .tail (.single (Or.inr hFin)) (Or.inl hRead)
    have hCore := h.path hPath.path
    dsimp only
    generalize hNext : (s.noteFin r.d.header).emit (.readBytes r.data (r.d.len - r.data)) = t at *
    have hOpenNext : t.state.open = true := by
      rw [← hNext]
      change (s.noteFin r.d.header).state.open = true
      rw [hForeground]
      exact hOpen
    have hOffset : t.seqOffset r.d.header = s.seqOffset r.d.header := by
      rw [← hNext]
      unfold seqOffset
      change u16 (r.d.header.seqNr - (s.noteFin r.d.header).rcv.ackNr - 1) = _
      rw [hAck]
    split_ifs with hZero
    · exact hPath.trans (path_receiveInOrder env cause hCore hCause hOpenNext hType
        (hOffset.trans hZero))
    · have hOut : Receiving env cause t _ := .outOfOrder t r hCause hOpenNext hType
        (by rw [hOffset]; exact hZero)
      rw [hOffset] at hOut
      exact hPath.tail (Or.inr hOut)

/-- By induction on the fuel; the extension headers are read and nothing else is done. -/
theorem path_extensionLoop (d : Datagram) (fuel data extension : Nat) (selack : Option SackMask)
    (s : Conn) : QuietPath env cause s (s.extensionLoop d fuel data extension selack).2 := by
  induction fuel generalizing data extension selack s with
  | zero => exact .refl
  | succ fuel ih =>
      have hRead : Quiet env cause s _ := .read s (data + 2 - 1) 1
      have hSet : QuietPath env cause (s.emit (.readBytes (data + 2 - 1) 1))
          (if extension = 2 then
            { (s.emit (.readBytes (data + 2 - 1) 1)).emit (.readBytes (data + 2) 8) with
              rcv.extensions := (List.range 8).map fun i => d.mem (data + 2 + i) }
          else s.emit (.readBytes (data + 2 - 1) 1)) := by
        split_ifs
        · exact Relation.ReflTransGen.head (Quiet.read _ (data + 2) 8) (.single (Quiet.extensions _ _))
        · exact .refl
      unfold extensionLoop
      dsimp only
      generalize (if extension = 2 then
            { (s.emit (.readBytes (data + 2 - 1) 1)).emit (.readBytes (data + 2) 8) with
              rcv.extensions := (List.range 8).map fun i => d.mem (data + 2 + i) }
          else s.emit (.readBytes (data + 2 - 1) 1)) = t at hSet ⊢
      generalize (if extension = 1 then some (⟨data + 2, d.byte (data + 2 - 1)⟩ : SackMask)
        else selack) = mask
      have hNext := (Relation.ReflTransGen.head hRead hSet).tail (Quiet.read t (data + 2 - 2) 1)
      split_ifs
      · exact .refl
      · exact .single hRead
      · exact .single hRead
      · exact hNext.trans (ih _ _ _ _)
      · exact hNext

/-- The length of a mask is one byte of the packet. -/
theorem extLen_extensionLoop (d : Datagram) (fuel data extension : Nat) (selack : Option SackMask)
    (s : Conn) (hOld : ∀ mask, selack = some mask → mask.extLen < 256) :
    ∀ off mask, (s.extensionLoop d fuel data extension selack).1 = some (off, some mask) →
      mask.extLen < 256 := by
  induction fuel generalizing data extension selack s with
  | zero =>
      intro off mask hParse
      exact absurd hParse (by simp [extensionLoop])
  | succ fuel ih =>
      intro off mask
      have hByte : d.byte (data + 2 - 1) < 256 := (d.mem _).toNat_lt
      have hNew : ∀ m, (if extension = 1 then some ⟨data + 2, d.byte (data + 2 - 1)⟩ else selack) =
          some m → m.extLen < 256 := by
        intro m hm
        split_ifs at hm with hExt
        · cases hm
          exact hByte
        · exact hOld m hm
      unfold extensionLoop
      dsimp only
      generalize (if extension = 1 then some (⟨data + 2, d.byte (data + 2 - 1)⟩ : SackMask)
        else selack) = next at hNew ⊢
      generalize (if extension = 2 then _ else _ : Conn) = t
      split_ifs
      · intro hParse
        exact absurd hParse (by simp)
      · intro hParse
        exact absurd hParse (by simp)
      · intro hParse
        exact absurd hParse (by simp)
      · exact ih _ _ _ _ hNew off mask
      · intro hParse
        cases hParse
        exact hNew mask rfl

/-- A packet without extensions skips the loop. -/
theorem path_skipExtensions (d : Datagram) (s : Conn) :
    QuietPath env cause s (s.skipExtensions d).2 := by
  unfold skipExtensions
  split_ifs
  · exact path_extensionLoop env cause d _ _ _ _ s
  · exact .refl

/-- The length of a mask is a byte. -/
theorem extLen_skipExtensions {d : Datagram} {s : Conn} {off : Nat} {mask : SackMask}
    (h : (s.skipExtensions d).1 = some (off, some mask)) : mask.extLen < 256 := by
  unfold skipExtensions at h
  split_ifs at h
  · exact extLen_extensionLoop d _ _ _ none s (fun m hm => nomatch hm) off mask h
  · exact nomatch h

/-- An accepted `ack_nr` is at most three packets behind the oldest one of the queue. -/
theorem behind_of_ackValid {header : PacketFormatV1} {s : Conn} (hType : header.type ≠ stSyn)
    (hCount : s.snd.curWindowPackets ≤ 1024) (hValid : s.ackInvalid header = false) :
    u16 (s.snd.seqNr - (header.ackNr + 1)) ≤ s.snd.curWindowPackets + 3 := by
  unfold ackInvalid at hValid
  have hWindow : max (u16 (s.snd.curWindowPackets + ackNrAllowedWindow)) ackNrAllowedWindow =
      s.snd.curWindowPackets + 3 := by
    have hEmod := u16_emod (s.snd.curWindowPackets + ackNrAllowedWindow)
    have hLt := u16_lt (s.snd.curWindowPackets + ackNrAllowedWindow)
    generalize u16 (s.snd.curWindowPackets + ackNrAllowedWindow) = w at hEmod hLt ⊢
    simp only [ackNrAllowedWindow, duplicateAcksBeforeResend] at hEmod ⊢
    omega
  simp only [hWindow, hType, ne_eq, not_false_eq_true, decide_true, Bool.true_or, Bool.true_and,
    Bool.or_eq_false_iff, wrappingCompareLess, decide_eq_false_iff_not] at hValid
  obtain ⟨hAhead, hBehind⟩ := hValid
  have hEmod := u16_emod (s.snd.seqNr - (header.ackNr + 1))
  have hLt := u16_lt (s.snd.seqNr - (header.ackNr + 1))
  generalize u16 (s.snd.seqNr - (header.ackNr + 1)) = w at hEmod hLt ⊢
  simp only [ackNrMask] at hAhead hBehind
  omega

/-- Acknowledgments first, then data: the order of the source. -/
theorem path_processAccepted (time : Nat) {s : Conn} (h : Core s) (hCause : cause = .packet r)
    (hMask : ∀ mask, r.selack = some mask → mask.extLen < 256)
    (hBehind : u16 (s.snd.seqNr - (r.d.header.ackNr + 1)) ≤ s.snd.curWindowPackets + 3) :
    Path env cause s (s.processAccepted env r.d r.d.header r.data (s.seqOffset r.d.header) r.selack
      time) := by
  have hAcks := (spec_receiveAcks env cause time h hCause hMask hBehind).path
  have hCore := h.sendPath hAcks
  unfold processAccepted
  dsimp only
  have hFront : (s.receiveAcks env r.d r.d.header r.selack time).frontQueued = true :=
    frontQueued_of_core hCore
  rw [check_true _ _ hFront]
  have hWritable : SendPath env cause s _ := hAcks.trans (path_makeWritable env cause _)
  generalize (s.receiveAcks env r.d r.d.header r.selack time).makeWritable = w at hWritable ⊢
  have hAck : w.rcv.ackNr = s.rcv.ackNr :=
    congrArg RecvView.ackNr (hWritable.recvView h.view.bounds.ackNr_lt)
  have hOffset : s.seqOffset r.d.header = w.seqOffset r.d.header := by
    unfold seqOffset
    rw [hAck]
  rw [hOffset]
  exact hWritable.path.trans (path_receiveData env cause (h.sendPath hWritable) hCause).path

/-- A packet that is too far from the expected one is dropped before, and may be acked again. -/
theorem path_processBody (time : Nat) {s : Conn} (h : Core s) (hCause : cause = .packet r)
    (hMask : ∀ mask, r.selack = some mask → mask.extLen < 256)
    (hBehind : u16 (s.snd.seqNr - (r.d.header.ackNr + 1)) ≤ s.snd.curWindowPackets + 3) :
    Path env cause s (s.processBody env r.d r.d.header r.data r.selack time false) := by
  have hStart : Path env cause s
      (if s.state = .synSent then s.setAckNr (u16 (r.d.header.seqNr - 1)) else s) := by
    split_ifs with hState
    · exact .single (.receiving (.synAcked s r hCause hState))
    · exact .refl
  have hSnd : (if s.state = .synSent then s.setAckNr (u16 (r.d.header.seqNr - 1)) else s).snd =
      s.snd := by
    split_ifs <;> rfl
  unfold processBody
  dsimp only
  generalize (if s.state = .synSent then s.setAckNr (u16 (r.d.header.seqNr - 1)) else s) = t
    at hStart hSnd ⊢
  have hHeard : Path env cause s { t with lastGotPacket := t.currentMs } :=
    hStart.tail (.sending (.quiet (.heard t)))
  have hSndHeard : ({ t with lastGotPacket := t.currentMs } : Conn).snd = s.snd := hSnd
  generalize ({ t with lastGotPacket := t.currentMs } : Conn) = u at hHeard hSndHeard ⊢
  rw [if_neg (by decide)]
  split_ifs with hFar hLate
  · have hType : r.d.header.type ≠ stState := by
      simp only [Bool.and_eq_true, decide_eq_true_eq] at hLate
      exact hLate.2
    exact hHeard.tail (.sending (.quiet (.scheduleAck u (Or.inr ⟨r, hCause, hType⟩))))
  · exact hHeard
  · exact hHeard.trans (path_processAccepted env cause time (h.path hHeard) hCause hMask
      (hSndHeard.symm ▸ hBehind))

/-- Where the payload of a packet starts, and its last selective-ack mask. -/
def ParsedAs (d : Datagram) (r : Received) : Prop :=
  r.d = d ∧ ∃ s : Conn, (s.skipExtensions d).1 = some (r.data, r.selack)

/-- What is parsed depends on the packet alone. -/
theorem extensionLoop_congr (d : Datagram) (fuel data extension : Nat) (selack : Option SackMask)
    (s t : Conn) : (s.extensionLoop d fuel data extension selack).1 =
      (t.extensionLoop d fuel data extension selack).1 := by
  induction fuel generalizing data extension selack s t with
  | zero => rfl
  | succ fuel ih =>
      unfold extensionLoop
      dsimp only
      split_ifs <;> first | rfl | exact ih _ _ _ _ _

/-- So the offset of the payload and the mask are functions of the datagram. -/
theorem skipExtensions_congr (d : Datagram) (s t : Conn) :
    (s.skipExtensions d).1 = (t.skipExtensions d).1 := by
  unfold skipExtensions
  split_ifs
  · exact extensionLoop_congr d _ _ _ _ s t
  · rfl

/-- A packet of a known type whose ack is valid and whose extensions are well formed. -/
def accepts (d : Datagram) (s : Conn) : Bool :=
  d.header.type < stNumStates && !s.ackInvalid d.header && 20 ≤ d.len && (s.skipExtensions d).1.isSome

/-- Whether a packet is accepted depends on the view of the socket. -/
theorem accepts_congr (d : Datagram) {s t : Conn} (h : t.view = s.view) :
    t.accepts d = s.accepts d := by
  have hSeq : t.snd.seqNr = s.snd.seqNr := congrArg View.seqNr h
  have hCount : t.snd.curWindowPackets = s.snd.curWindowPackets := congrArg View.curWindowPackets h
  have hState : t.state = s.state := congrArg View.state h
  unfold accepts ackInvalid
  rw [hSeq, hCount, hState, skipExtensions_congr d t s]

/-- The processing of a packet up to its extension headers. -/
theorem parsed_utpProcessIncoming (d : Datagram) {s : Conn} (hAck : s.rcv.ackNr < 65536) :
    (s.accepts d = false ∧ QuietPath env .call s (s.utpProcessIncoming env d false)) ∨
      s.accepts d = true ∧ ∃ r u time, ParsedAs d r ∧ (∀ cause, QuietPath env cause s u) ∧
        s.utpProcessIncoming env d false =
          u.processBody env r.d r.d.header r.data r.selack time false := by
  have hHead : ∀ cause, QuietPath env cause s ((s.updateCurrentMs env).emit (.readBytes 0 20)) :=
    fun cause => Relation.ReflTransGen.head (Quiet.clock s) (.single (Quiet.read _ 0 20))
  unfold utpProcessIncoming
  dsimp only
  generalize (s.updateCurrentMs env).emit (.readBytes 0 20) = t at hHead ⊢
  have hCalled : ∀ cause, QuietPath env cause s t.called :=
    fun cause => (hHead cause).tail (Quiet.called t)
  have hSame : t.called.accepts d = s.accepts d := accepts_congr d ((hCalled .call).view hAck)
  rw [← hSame]
  unfold accepts
  by_cases hKnown : d.header.type ≥ stNumStates
  · rw [if_pos hKnown]
    exact Or.inl ⟨by simp [Nat.not_lt.2 hKnown], hHead .call⟩
  rw [if_neg hKnown]
  by_cases hValid : t.called.ackInvalid d.header = true
  · rw [if_pos hValid]
    exact Or.inl ⟨by simp [hValid], hCalled .call⟩
  rw [if_neg hValid]
  have hChecked : ∀ cause, QuietPath env cause s (t.called.check 1836 (d.header.type ≠ stReset)) :=
    fun cause => (hCalled cause).tail (Quiet.check _ 1836 _ (by decide))
  by_cases hLen : 20 > d.len
  · rw [if_pos hLen]
    exact Or.inl ⟨by simp [Nat.not_le.2 hLen], hChecked .call⟩
  rw [if_neg hLen]
  have hSkip : ∀ cause, QuietPath env cause s
      ((t.called.check 1836 (d.header.type ≠ stReset)).skipExtensions d).2 :=
    fun cause => (hChecked cause).trans (path_skipExtensions env cause d _)
  have hParse := skipExtensions_congr d t.called (t.called.check 1836 (d.header.type ≠ stReset))
  generalize hResult : (t.called.check 1836 (d.header.type ≠ stReset)).skipExtensions d = parsed
    at hSkip hParse ⊢
  obtain ⟨result, u⟩ := parsed
  rw [hParse]
  cases result with
  | none => exact Or.inl ⟨by simp, hSkip .call⟩
  | some found =>
      obtain ⟨data, selack⟩ := found
      refine Or.inr ⟨?_, ⟨d, data, selack⟩, u, _, ⟨rfl, _, congrArg Prod.fst hResult⟩, hSkip, rfl⟩
      simpa [hValid] using ⟨Nat.not_le.1 hKnown, Nat.not_lt.1 hLen⟩

/-- The ack of an accepted packet is at most three numbers behind the window. -/
theorem behind_of_accepts {d : Datagram} {s : Conn} (hType : d.header.type ≠ stSyn)
    (hCount : s.snd.curWindowPackets ≤ 1024) (h : s.accepts d = true) :
    u16 (s.snd.seqNr - (d.header.ackNr + 1)) ≤ s.snd.curWindowPackets + 3 := by
  unfold accepts at h
  simp only [Bool.and_eq_true, Bool.not_eq_true'] at h
  exact behind_of_ackValid hType hCount h.1.1.2

/-- The mask that was parsed has the length of a byte. -/
theorem extLen_of_parsedAs {d : Datagram} {r : Received} (h : ParsedAs d r) :
    ∀ mask, r.selack = some mask → mask.extLen < 256 := by
  obtain ⟨-, s, hParse⟩ := h
  intro mask hMask
  rw [hMask] at hParse
  exact extLen_skipExtensions hParse

/-- A packet is either dropped before anything but the clock has been touched, or
processed as what it was parsed to. -/
theorem path_utpProcessIncoming {d : Datagram} {s : Conn} (h : Core s)
    (hType : d.header.type ≠ stSyn) :
    QuietPath env .call s (s.utpProcessIncoming env d false) ∨
      ∃ r, ParsedAs d r ∧ Path env (.packet r) s (s.utpProcessIncoming env d false) := by
  have hAck : s.rcv.ackNr < 65536 := h.view.bounds.ackNr_lt
  rcases parsed_utpProcessIncoming env d hAck with ⟨-, hQuiet⟩ | ⟨hAccept, r, u, time, hParsed, hQuiet, hEq⟩
  · exact Or.inl hQuiet
  · have hView := (hQuiet .call).view hAck
    have hSeq : u.snd.seqNr = s.snd.seqNr := congrArg View.seqNr hView
    have hCount : u.snd.curWindowPackets = s.snd.curWindowPackets :=
      congrArg View.curWindowPackets hView
    have hPath := (hQuiet (.packet r)).path.path
    rw [hEq]
    refine Or.inr ⟨r, hParsed, hPath.trans (path_processBody env _ _ (h.path hPath) rfl
      (extLen_of_parsedAs hParsed) ?_)⟩
    rw [hSeq, hCount, hParsed.1]
    exact behind_of_accepts hType h.view.queue.count_le_limit hAccept

/-- The packets whose ack is processed: those whose number is near the expected one. -/
def reachesAcks (d : Datagram) (s : Conn) : Bool :=
  s.accepts d && (s.state == .synSent || s.seqOffset d.header < reorderBufferMaxSize)

/-- The packet leaves the queue and the connection state alone. -/
structure Untouched (s s' : Conn) : Prop where
  aim : s'.aim = s.aim
  count : s'.snd.curWindowPackets = s.snd.curWindowPackets
  state : s'.state = s.state

/-- A function that keeps the view touches nothing of the kind. -/
theorem Untouched.of_view {s s' : Conn} (h : s'.view = s.view) : Untouched s s' :=
  ⟨congrArg View.aim h, congrArg View.curWindowPackets h, congrArg View.state h⟩

/-- The state in which the ack of a packet is processed, and the rest of the work. -/
theorem arrival_utpProcessIncoming (d : Datagram) {s : Conn} (h : Core s) :
    (s.reachesAcks d = false ∧ Untouched s (s.utpProcessIncoming env d false)) ∨
      s.reachesAcks d = true ∧ ∃ r u time, ParsedAs d r ∧ Path env (.packet r) s u ∧
        Untouched s u ∧ s.utpProcessIncoming env d false =
          u.processAccepted env r.d r.d.header r.data (u.seqOffset r.d.header) r.selack time := by
  have hAck : s.rcv.ackNr < 65536 := h.view.bounds.ackNr_lt
  unfold reachesAcks
  rcases parsed_utpProcessIncoming env d hAck with ⟨hReject, hQuiet⟩ | ⟨hAccept, r, u, time, hParsed, hQuiet, hEq⟩
  · exact Or.inl ⟨by simp [hReject], Untouched.of_view (hQuiet.view hAck)⟩
  · have hView := (hQuiet .call).view hAck
    have hState : u.state = s.state := congrArg View.state hView
    have hAckNr : u.rcv.ackNr = s.rcv.ackNr := congrArg View.ackNr hView
    obtain ⟨hAim, hCount, -⟩ := Untouched.of_view hView
    rw [hEq, hAccept, Bool.true_and, ← hState]
    unfold processBody
    dsimp only
    rw [if_neg (by decide)]
    have hPath := (hQuiet (.packet r)).path.path
    have hStart : Path env (.packet r) s
        (if u.state = .synSent then u.setAckNr (u16 (r.d.header.seqNr - 1)) else u) := by
      split_ifs with hSent
      · exact hPath.tail (.receiving (.synAcked u r rfl hSent))
      · exact hPath
    have hHeard : ∀ w : Conn, Path env (.packet r) s w →
        Path env (.packet r) s { w with lastGotPacket := w.currentMs } :=
      fun w hw => hw.tail (.sending (.quiet (.heard w)))
    by_cases hSent : u.state = .synSent
    · rw [if_pos hSent] at hStart ⊢
      have hZero : ({ u.setAckNr (u16 (r.d.header.seqNr - 1)) with
          lastGotPacket := (u.setAckNr (u16 (r.d.header.seqNr - 1))).currentMs } : Conn).seqOffset
            r.d.header = 0 := by
        unfold seqOffset
        have hEmod := u16_emod (r.d.header.seqNr - 1)
        have hGoal := u16_emod (r.d.header.seqNr - (u16 (r.d.header.seqNr - 1) : Nat) - 1)
        have hLt := u16_lt (r.d.header.seqNr - (u16 (r.d.header.seqNr - 1) : Nat) - 1)
        change u16 (r.d.header.seqNr - (u16 (r.d.header.seqNr - 1) : Nat) - 1) = 0
        omega
      rw [if_neg (by rw [hZero]; decide)]
      exact Or.inr ⟨by simp [hSent], r, _, time, hParsed, hHeard _ hStart,
        ⟨hAim, hCount, hState⟩, rfl⟩
    · rw [if_neg hSent] at hStart ⊢
      have hOffset : ({ u with lastGotPacket := u.currentMs } : Conn).seqOffset r.d.header =
          s.seqOffset d.header := by
        unfold seqOffset
        rw [hParsed.1]
        change u16 (d.header.seqNr - u.rcv.ackNr - 1) = _
        rw [hAckNr]
      by_cases hFar : s.seqOffset d.header ≥ reorderBufferMaxSize
      · rw [if_pos (by rw [hOffset]; exact hFar)]
        refine Or.inl ⟨by simp [hSent, Nat.not_lt.2 hFar], ?_⟩
        split_ifs
        · exact ⟨hAim, hCount, hState⟩
        · exact ⟨hAim, hCount, hState⟩
      · rw [if_neg (by rw [hOffset]; exact hFar)]
        exact Or.inr ⟨by simp [Nat.not_le.1 hFar], r, _, time, hParsed, hHeard _ hStart,
          ⟨hAim, hCount, hState⟩, rfl⟩

end Conn

end Utp
