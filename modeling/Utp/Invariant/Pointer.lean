import Utp.Invariant.Fate
import Utp.Transition.Trace

/-! The fast-resend pointer. It trails the end of the queue by a bounded distance
once the connection has processed an ack, provided that it did not start too far
behind. -/
namespace Utp

open Wrapping

namespace Conn

variable (env : Env)

/-- How far the fast-resend pointer is behind the end of the queue. -/
def pointerLag (s : Conn) : Nat := u16 (s.snd.seqNr - s.snd.fastResendSeqNr)

theorem snd_makeWritable (s : Conn) : s.makeWritable.snd = s.snd := by
  unfold makeWritable
  split_ifs
  · exact snd_noteFull (-1) s
  · rfl
  · rfl

/-- A packet that is processed brings the pointer up to what it acks. -/
theorem tracks_utpProcessIncoming {d : Datagram} {s : Conn} (h : Core s)
    (hType : d.header.type ≠ stSyn) (hReach : s.reachesAcks d = true)
    (hLag : s.pointerLag < 32768 + u16 (s.snd.seqNr - (d.header.ackNr + 1))) :
    (s.utpProcessIncoming env d false).aim.Tracks d.header.ackNr ∧
      u16 ((s.utpProcessIncoming env d false).snd.seqNr - (d.header.ackNr + 1)) ≤ 1027 := by
  rcases arrival_utpProcessIncoming env d h with ⟨hNot, -⟩ | ⟨-, r, u, time, hParsed, hPath, hSame, hEq⟩
  · rw [hReach] at hNot
    cases hNot
  · have hAccept : s.accepts d = true := by
      unfold reachesAcks at hReach
      exact (Bool.and_eq_true_iff.1 hReach).1
    have hBehind := behind_of_accepts hType h.view.queue.count_le_limit hAccept
    have hSeq : u.snd.seqNr = s.snd.seqNr := congrArg Aim.seqNr hSame.aim
    have hPointer : u.snd.fastResendSeqNr = s.snd.fastResendSeqNr :=
      congrArg Aim.fastResendSeqNr hSame.aim
    have hNear : u16 (u.snd.seqNr - (r.d.header.ackNr + 1)) ≤ u.snd.curWindowPackets + 3 := by
      rw [hSeq, hSame.count, hParsed.1]
      exact hBehind
    have hDone := spec_receiveAcks env (.packet r) time (h.path hPath) rfl
      (extLen_of_parsedAs hParsed) hNear
    have hSnd : (u.processAccepted env r.d r.d.header r.data (u.seqOffset r.d.header) r.selack
        time).snd = (u.receiveAcks env r.d r.d.header r.selack time).snd := by
      unfold processAccepted
      dsimp only
      refine (congrArg Foreground.snd (foreground_receiveData env _ _ _ _ _)).trans ?_
      refine (snd_makeWritable _).trans ?_
      exact congrArg Foreground.snd (foreground_check _ _ _)
    have hAim : (u.processAccepted env r.d r.d.header r.data (u.seqOffset r.d.header) r.selack
        time).aim = (u.receiveAcks env r.d r.d.header r.selack time).aim := by
      unfold aim
      rw [hSnd]
    rw [hEq, hAim, hSnd, ← hParsed.1]
    refine ⟨hDone.tracks r rfl hNear ?_, hDone.near r rfl hNear⟩
    rw [hSeq, hPointer, hParsed.1]
    exact hLag

end Conn

/-- No SYN was queued whose number is in the upper half of the number space. -/
def DialsLow (story : List Event) : Prop :=
  ∀ seqNr bytes, .queued seqNr stSyn bytes ∈ story → seqNr < 32768

theorem DialsLow.of_grown {story story' : List Event} (h : DialsLow story')
    (hGrown : story <+: story') : DialsLow story :=
  fun seqNr bytes hMem => h seqNr bytes (hGrown.subset hMem)

/-- Where the pointer is: near the queue, or not far behind while the connection is
not up. -/
def Pointer (s : Conn) : Prop :=
  DialsLow s.trace.story → s.pointerLag ≤ 1027 + s.snd.curWindowPackets ∨
    (s.state.open = false ∧ s.pointerLag < 32768)

variable {env : Env} {cause : Cause} {s s' : Conn}

theorem Pointer.lag_lt (h : Pointer s) (hCore : Core s) (hLow : DialsLow s.trace.story) :
    s.pointerLag < 32768 := by
  have hCount : s.snd.curWindowPackets ≤ 1024 := hCore.view.queue.count_le_limit
  rcases h hLow with hNear | ⟨-, hFar⟩
  · omega
  · exact hFar

/-- A transition that adds at most one packet, and none before the connection is up. -/
theorem Pointer.of_numbers (h : Pointer s) (hCore : Core s) (hStory : s.trace.story <+: s'.trace.story)
    (hNumbers : Conn.Numbers s s') (hState : s'.state = s.state)
    (hOpen : s.state.open = false → s'.aim = s.aim) : Pointer s' := by
  intro hLow
  have hOld := h (hLow.of_grown hStory)
  have hCount : s.snd.curWindowPackets ≤ 1024 := hCore.view.queue.count_le_limit
  rw [hState]
  unfold Conn.pointerLag at hOld ⊢
  rcases hNumbers with ⟨hAim, hSame⟩ | ⟨hAim, hMore⟩
  · have hSeq : s'.snd.seqNr = s.snd.seqNr := congrArg Aim.seqNr hAim
    have hPointer : s'.snd.fastResendSeqNr = s.snd.fastResendSeqNr :=
      congrArg Aim.fastResendSeqNr hAim
    rw [hSeq, hPointer, hSame]
    exact hOld
  · rcases hOld with hNear | ⟨hDown, hFar⟩
    · have hSeq : s'.snd.seqNr = u16 (s.snd.seqNr + 1) := congrArg Aim.seqNr hAim
      have hPointer : s'.snd.fastResendSeqNr = s.snd.fastResendSeqNr :=
        congrArg Aim.fastResendSeqNr hAim
      have hNext := u16_emod (s.snd.seqNr + 1)
      have hLag := u16_emod (s.snd.seqNr - s.snd.fastResendSeqNr)
      have hNew := u16_emod ((u16 (s.snd.seqNr + 1) : Nat) - s.snd.fastResendSeqNr)
      have hNewLt := u16_lt ((u16 (s.snd.seqNr + 1) : Nat) - s.snd.fastResendSeqNr)
      rw [hSeq, hPointer, hMore]
      omega
    · have hSeq : s'.snd.seqNr = s.snd.seqNr := congrArg Aim.seqNr (hOpen hDown)
      have hPointer : s'.snd.fastResendSeqNr = s.snd.fastResendSeqNr :=
        congrArg Aim.fastResendSeqNr (hOpen hDown)
      rw [hSeq, hPointer]
      exact Or.inr ⟨hDown, hFar⟩

/-- Outside of the processing of packets, the queue only grows at its end. -/
theorem Queueing.numbers (h : Queueing env cause s s') (hCore : Core s)
    (hCause : ∀ r, cause ≠ .packet r) :
    Conn.Numbers s s' ∧ (s.state.open = false → s'.aim = s.aim) := by
  cases h with
  | append bytes hState hFin hCount hLength =>
      refine ⟨Conn.numbers_appendPacket env stData bytes hCount.le, fun hDown => ?_⟩
      rw [hState] at hDown
      cases hDown
  | appendFin hState hFin =>
      refine ⟨Conn.Numbers.of_eq rfl rfl (Conn.numbers_appendPacket env stFin []
        (s := { s with finSent := true }) (hCore.view.room hFin)), fun hDown => ?_⟩
      rw [hState] at hDown
      cases hDown
  | fill pkt bytes hState hFin hCount hGet hUnsent hLength =>
      obtain ⟨header, -, -, -, hView⟩ := Conn.view_fillPacket env stData pkt bytes s
      have hAim : (s.fillPacket env stData pkt bytes).aim = s.aim := congrArg View.aim hView
      exact ⟨Or.inl ⟨hAim, congrArg View.curWindowPackets hView⟩, fun _ => hAim⟩
  | send v =>
      obtain ⟨hAim, hCount⟩ := Conn.numbers_sendPacket env v s
      exact ⟨Or.inl ⟨hAim, hCount⟩, fun _ => hAim⟩
  | lost i hIndex =>
      have hSame : (s.losePacket i).aim = s.aim ∧
          (s.losePacket i).snd.curWindowPackets = s.snd.curWindowPackets := by
        rcases Conn.losePacket_cases i s with hSame | ⟨pkt, -, -, -, hLost⟩
        · rw [hSame]
          exact ⟨rfl, rfl⟩
        · rw [hLost]
          have hView := Conn.view_check 1243 (s.snd.curWindow ≥ pkt.payload) ({ s with
            snd.outbuf := s.snd.outbuf.put (s.snd.seqNr - i - 1) (some { pkt with needResend := true })
            snd.curWindow := sub64 s.snd.curWindow pkt.payload })
          exact ⟨congrArg View.aim hView, congrArg View.curWindowPackets hView⟩
      exact ⟨Or.inl hSame, fun _ => hSame.1⟩
  | acked _ r hPacket => exact absurd hPacket (hCause r)
  | sacked r mask bits hPacket => exact absurd hPacket (hCause r)
  | advance r hPacket => exact absurd hPacket (hCause r)
  | retried r hPacket => exact absurd hPacket (hCause r)
  | resent r v hPacket => exact absurd hPacket (hCause r)

/-- Only a packet brings a connection up. -/
theorem Moving.open_of_open (h : Moving cause s s') (hCause : ∀ r, cause ≠ .packet r)
    (hUp : s'.state.open = true) : s.state.open = true := by
  cases h with
  | established r hPacket => exact absurd hPacket (hCause r)
  | admitted r hPacket => exact absurd hPacket (hCause r)
  | finAcked r hPacket => exact absurd hPacket (hCause r)
  | full hState hFull =>
      rw [hState]
      rfl
  | writable hState hFull =>
      rw [hState]
      rfl
  | closing hOpen => exact hOpen
  | expired hState => cases hUp
  | closed hState => cases hUp
  | gaveUp hState =>
      change (if s.closeRequested then ConnState.destroy else .reset).open = true at hUp
      split_ifs at hUp <;> cases hUp
  | reset =>
      change (if s.closeRequested then ConnState.destroy else .reset).open = true at hUp
      split_ifs at hUp <;> cases hUp
  | icmpError =>
      unfold Conn.receiveIcmpError at hUp
      by_cases hIdle : s.state = .idle
      · rw [if_pos hIdle] at hUp
        exact hUp
      · rw [if_neg hIdle] at hUp
        change (if s.closeRequested then ConnState.destroy else .reset).open = true at hUp
        split_ifs at hUp <;> cases hUp

/-- Every transition that belongs to no packet keeps the pointer in place. -/
theorem Pointer.trans (h : Pointer s) (hCore : Core s) (hLive : s.Live)
    (hCause : ∀ r, cause ≠ .packet r) (hTrans : Trans env cause s s') : Pointer s' := by
  have hStory := hTrans.story
  cases hTrans with
  | setup hSetup =>
      cases hSetup with
      | initialise addr connSeed connIdRecv connIdSend hState => exact absurd hState hLive
      | dial hState hCount hPointer =>
          refine fun hLow => Or.inr ⟨rfl, ?_⟩
          have hSmall : (s.startConnect env).snd.seqNr < 32768 := by
            refine hLow _ [] ?_
            unfold Conn.queueSyn
            rw [Conn.trace_enqueue]
            exact List.mem_append_right _ List.mem_cons_self
          have hOne : (s.startConnect env).snd.fastResendSeqNr = 1 := hPointer
          change u16 ((u16 ((s.startConnect env).snd.seqNr + 1) : Nat) -
            (s.startConnect env).snd.fastResendSeqNr) < 32768
          rw [hOne]
          have hNext := u16_emod ((s.startConnect env).snd.seqNr + 1)
          have hLag := u16_emod ((u16 ((s.startConnect env).snd.seqNr + 1) : Nat) - (1 : Nat))
          have hLt := u16_lt ((u16 ((s.startConnect env).snd.seqNr + 1) : Nat) - (1 : Nat))
          omega
      | accept d hSyn hState hCount =>
          refine fun _ => Or.inl ?_
          have hZero : (s.startAccept env d.header.seqNr).pointerLag = 0 := by
            change u16 ((u16 (s.utpCallGetRandom env) : Nat) - (u16 (s.utpCallGetRandom env) : Nat)) = 0
            rw [sub_self, u16_zero]
          rw [hZero]
          exact Nat.zero_le _
  | sending hSend =>
      cases hSend with
      | quiet hQuiet =>
          have hView := hQuiet.view hCore.view.bounds.ackNr_lt
          exact h.of_numbers hCore hStory (.of_view hView) (congrArg View.state hView)
            (fun _ => congrArg View.aim hView)
      | queueing hQueue =>
          obtain ⟨hNumbers, hOpen⟩ := hQueue.numbers hCore hCause
          exact h.of_numbers hCore hStory hNumbers (congrArg Backdrop.state hQueue.backdrop) hOpen
      | moving hMove =>
          have hSnd := hMove.snd
          intro hLow
          have hOld := h (hLow.of_grown hStory)
          unfold Conn.pointerLag at hOld ⊢
          rw [hSnd]
          rcases hOld with hNear | ⟨hDown, hFar⟩
          · exact Or.inl hNear
          · refine Or.inr ⟨?_, hFar⟩
            by_contra hUp
            have hOpen := hMove.open_of_open hCause (eq_true_of_ne_false hUp)
            rw [hDown] at hOpen
            cases hOpen
  | receiving hReceive =>
      cases hReceive with
      | synAcked r hPacket => exact absurd hPacket (hCause r)
      | fin r hPacket => exact absurd hPacket (hCause r)
      | drained _ r hPacket => exact absurd hPacket (hCause r)
      | outOfOrder r hPacket => exact absurd hPacket (hCause r)

theorem preserved_pointer (env : Env) : Preserved env Pointer where
  initialised s addr connSeed connIdRecv connIdSend hPristine hLog := by
    obtain ⟨targetDelay, optSndbuf, optRcvbuf, ssthresh, hEq⟩ := hPristine
    have hView := Conn.view_initializeSocket env addr connSeed connIdRecv connIdSend s
    have hPointer : (s.initializeSocket env addr connSeed connIdRecv connIdSend).snd.fastResendSeqNr = 1 := by
      refine (congrArg View.fastResendSeqNr hView).trans ?_
      change s.snd.fastResendSeqNr = 1
      rw [hEq]
      rfl
    have hSeq : (s.initializeSocket env addr connSeed connIdRecv connIdSend).snd.seqNr = 1 := by
      refine (congrArg View.seqNr hView).trans ?_
      change s.snd.seqNr = 1
      rw [hEq]
      rfl
    refine fun _ => Or.inl ?_
    unfold Conn.pointerLag
    rw [hPointer, hSeq, sub_self, u16_zero]
    exact Nat.zero_le _
  ran cause s s' hCore hLive hInv hRan := by
    by_cases hPacket : ∃ r, cause = .packet r
    · obtain ⟨r, hr⟩ := hPacket
      obtain ⟨hType, hEq⟩ := hRan.packet r hr
      have hStory := hRan.path.story
      rw [hEq] at hStory ⊢
      rcases Conn.arrival_utpProcessIncoming env r.d hCore with ⟨-, hSame⟩ | ⟨hReach, -⟩
      · exact hInv.of_numbers hCore hStory (Or.inl ⟨hSame.aim, hSame.count⟩) hSame.state
          (fun _ => hSame.aim)
      · refine fun hLow => Or.inl ?_
        have hLag := hInv.lag_lt hCore (hLow.of_grown hStory)
        obtain ⟨hTracks, hNear⟩ := Conn.tracks_utpProcessIncoming env hCore hType hReach (by omega)
        have hBound := (Aim.tracks_iff _ _).1 hTracks
        unfold Conn.pointerLag
        exact (hBound.trans hNear).trans (Nat.le_add_right _ _)
    · have hNot : ∀ r, cause ≠ .packet r := fun r hr => hPacket ⟨r, hr⟩
      have hPath := hRan.path
      clear hRan
      induction hPath with
      | refl => exact hInv
      | tail hPrior hStep ih =>
          exact ih.trans (hCore.path hPrior) (Path.keeps hPrior hCore hLive).1 hNot hStep
  clock s currentMs tick hInv := hInv

end Utp
