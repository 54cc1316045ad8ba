import Utp.Transition.Log
import Utp.Invariant.Packets
import Utp.Invariant.Pointer
import Utp.Invariant.Range

/-! The lengths of the queued packets. Once the packet size is bounded, so are the
packets that are created from then on. -/
namespace Utp

open Wrapping

def Event.isQueued : Event → Bool
  | .queued _ _ _ => true
  | _ => false

namespace Conn

/-- The length of the `j`-th newest packet of the queue. -/
def sizeAt (j : Nat) (s : Conn) : Option Nat :=
  if j < s.snd.curWindowPackets then (s.snd.outbuf.get (s.snd.seqNr - 1 - j)).map (·.length) else none

/-- Packets leave the queue, but those that stay keep their lengths. -/
def Thins (s s' : Conn) : Prop := ∀ j, s'.sizeAt j = none ∨ s'.sizeAt j = s.sizeAt j

/-- The sizes are those of the packets of the window. -/
theorem sizeAt_eq (j : Nat) (s : Conn) : s.sizeAt j = (s.packetAt j).map (·.length) := by
  unfold sizeAt packetAt
  split_ifs <;> rfl

/-- Packets of one kind have one length. -/
theorem Sheds.thins {s s' : Conn} (h : Sheds s s') : Thins s s' := by
  intro j
  rw [sizeAt_eq, sizeAt_eq]
  cases hAt : s'.packetAt j with
  | none => exact Or.inl rfl
  | some pkt' =>
      obtain ⟨pkt, hOld, hKin⟩ := h.packets j pkt' hAt
      rw [hOld, Option.map_some, Option.map_some, hKin.length]
      exact Or.inr rfl

theorem thins_of_snd {s s' : Conn} (hSeq : s'.snd.seqNr = s.snd.seqNr)
    (hCount : s'.snd.curWindowPackets = s.snd.curWindowPackets)
    (hBuf : s'.snd.outbuf = s.snd.outbuf) : Thins s s' :=
  (sheds_of_snd hSeq hCount hBuf).thins

end Conn

variable {env : Env} {cause : Cause} {s s' : Conn}

/-- The events that queue a packet. -/
def creations (log : List Event) : List Event := log.filter Event.isQueued

theorem creations_append (log events : List Event) :
    creations (log ++ events) = creations log ++ creations events :=
  List.filter_append ..

/-- They are all part of the story. -/
theorem creations_story (s : Conn) : creations s.trace.story = creations s.log := by
  unfold creations Conn.trace traceOf
  rw [List.filter_filter]
  refine List.filter_congr fun e _ => ?_
  cases e <;> rfl

/-- A packet that is queued is one more creation. -/
theorem creations_of_queued {e : Event} (h : s'.trace.story = s.trace.story ++ [e])
    (hQueued : e.isQueued = true) : creations s'.log = creations s.log ++ [e] := by
  rw [← creations_story, h, creations_append, creations_story]
  simp [creations, hQueued]

/-- The story has all creations. -/
theorem creations_of_story (events : List Event) (h : s'.trace.story = s.trace.story ++ events)
    (hOther : ∀ e ∈ events, e.isQueued = false) : creations s'.log = creations s.log := by
  have hNone : creations events = [] := by
    simpa [creations] using hOther
  rw [← creations_story, h, creations_append, creations_story, hNone, List.append_nil]

/-- What a transition does to the lengths of the queued packets. -/
inductive Resizes (s s' : Conn) : Prop where
  | thins (h : Conn.Thins s s') (hLog : creations s'.log = creations s.log)
  | append (seqNr type : Nat) (bytes : List UInt8)
      (hLog : creations s'.log = creations s.log ++ [.queued seqNr type bytes])
      (hNew : s'.sizeAt 0 = some (20 + bytes.length)) (hOld : ∀ j, s'.sizeAt (j + 1) = s.sizeAt j)
      (hSize : bytes = [] ∨ (s.mtu.last ≠ 0 → bytes.length ≤ s.getPacketSize))
  | fill (size : Nat) (hLog : creations s'.log = creations s.log) (hNew : s'.sizeAt 0 = some (20 + size))
      (hOld : ∀ j, s'.sizeAt (j + 1) = s.sizeAt (j + 1))
      (hSize : s.mtu.last ≠ 0 → size ≤ s.getPacketSize)

/-- The queue after a packet has been added at its end. -/
theorem Core.sizeAt_enqueued (h : Core s) {pkt : OutgoingPacket}
    (hCount : s.snd.curWindowPackets ≤ 1023)
    (hSeq : s'.snd.seqNr = u16 (s.snd.seqNr + 1))
    (hMore : s'.snd.curWindowPackets = u16 (s.snd.curWindowPackets + 1))
    (hBuf : s'.snd.outbuf = (s.snd.outbuf.ensureSize s.snd.seqNr s.snd.curWindowPackets).put
      s.snd.seqNr (some pkt)) :
    s'.sizeAt 0 = some pkt.length ∧ ∀ j, s'.sizeAt (j + 1) = s.sizeAt j := by
  obtain ⟨hNew, hOld⟩ := h.packetAt_enqueued hCount hSeq hMore hBuf
  refine ⟨?_, fun j => ?_⟩
  · rw [Conn.sizeAt_eq, hNew, Option.map_some]
  · rw [Conn.sizeAt_eq, Conn.sizeAt_eq, hOld]

/-- The queue after bytes have been added to its last packet. -/
theorem Core.sizeAt_filled (h : Core s) {pkt : OutgoingPacket} (hCount : 0 < s.snd.curWindowPackets)
    (hSeq : s'.snd.seqNr = s.snd.seqNr)
    (hSame : s'.snd.curWindowPackets = s.snd.curWindowPackets)
    (hBuf : s'.snd.outbuf = s.snd.outbuf.put (s.snd.seqNr - 1) (some pkt)) :
    s'.sizeAt 0 = some pkt.length ∧ ∀ j, s'.sizeAt (j + 1) = s.sizeAt (j + 1) := by
  obtain ⟨hNew, hOld⟩ := h.packetAt_filled hCount hSeq hSame hBuf
  refine ⟨?_, fun j => ?_⟩
  · rw [Conn.sizeAt_eq, hNew, Option.map_some]
  · rw [Conn.sizeAt_eq, Conn.sizeAt_eq, hOld]

/-- Every transition of the queue creates a packet, fills the last one, or makes none larger. -/
theorem Core.resizes_queueing (h : Core s) (hQueue : Queueing env cause s s') : Resizes s s' := by
  have hSameLog : s'.trace.story = s.trace.story → creations s'.log = creations s.log := fun hStory =>
    creations_of_story [] (by rw [hStory, List.append_nil]) nofun
  cases hQueue with
  | append bytes hState hFin hCount hLength =>
      obtain ⟨pkt, -, -, -, -, -, hSize, -, -, hView⟩ := Conn.view_appendPacket env stData bytes s
      obtain ⟨hNew, hOld⟩ := h.sizeAt_enqueued hCount.le (congrArg View.seqNr hView)
        (congrArg View.curWindowPackets hView) (congrArg View.outbuf hView)
      rw [hSize] at hNew
      refine .append s.snd.seqNr stData bytes (creations_of_queued ?_ rfl) hNew hOld (Or.inr hLength)
      rw [Conn.trace_appendPacket]
      rfl
  | appendFin hState hFin =>
      obtain ⟨pkt, -, -, -, -, -, hSize, -, -, hView⟩ :=
        Conn.view_appendPacket env stFin [] { s with finSent := true }
      obtain ⟨hNew, hOld⟩ := h.sizeAt_enqueued (h.view.room hFin) (congrArg View.seqNr hView)
        (congrArg View.curWindowPackets hView) (congrArg View.outbuf hView)
      rw [hSize] at hNew
      refine .append s.snd.seqNr stFin [] (creations_of_queued ?_ rfl) hNew hOld (Or.inl rfl)
      rw [Conn.trace_appendPacket]
      rfl
  | fill pkt bytes hState hFin hCount hGet hUnsent hLength =>
      obtain ⟨header, -, -, -, hView⟩ := Conn.view_fillPacket env stData pkt bytes s
      obtain ⟨hNew, hOld⟩ := h.sizeAt_filled hCount (congrArg View.seqNr hView)
        (congrArg View.curWindowPackets hView) (congrArg View.outbuf hView)
      have hStory : (s.fillPacket env stData pkt bytes).trace.story = s.trace.story ++ [.extended bytes] := by
        rw [Conn.trace_fillPacket]
        rfl
      exact .fill _ (creations_of_story _ hStory (by simp [Event.isQueued])) hNew hOld hLength
  | send v =>
      refine .thins ((Conn.sheds_sendPacket env v s).thins) (hSameLog ?_)
      cases hGet : s.snd.outbuf.get v with
      | none => rw [Conn.sendPacket_none env hGet]
      | some pkt =>
          obtain ⟨w, events, -, hSent⟩ := Conn.trace_sendPacket env hGet
          rw [hSent]
          rfl
  | acked _ r hCause hRun hFront =>
      exact .thins (AckStep.sheds_run hRun h.view.toLooseOk).thins
        (hSameLog (congrArg Trace.story (AckStep.trace_run hRun)))
  | sacked r mask bits =>
      refine .thins (Conn.sheds_ackPacket env _ s).thins (hSameLog (congrArg Trace.story ?_))
      exact (Conn.trace_minor _ rfl rfl rfl).trans (Conn.trace_ackPacket env _ s)
  | lost i => exact .thins (Conn.sheds_losePacket i s).thins (hSameLog (congrArg Trace.story (Conn.trace_losePacket i s)))
  | advance r =>
      unfold Conn.updateFastResend
      split_ifs <;> exact .thins (Conn.thins_of_snd rfl rfl rfl) rfl
  | retried => exact .thins (Conn.thins_of_snd rfl rfl rfl) rfl
  | resent v => exact .thins (Conn.thins_of_snd rfl rfl rfl) rfl

/-- A move of the state creates no packet. -/
theorem MoveStory.creations (h : MoveStory s s') : creations s'.log = creations s.log := by
  cases h with
  | none hTrace hState => exact creations_of_story [] (by rw [hTrace, List.append_nil]) nofun
  | closing hTrace hState hClose =>
      exact creations_of_story _ (congrArg Trace.story hTrace) (by simp [Event.isQueued])
  | full hTrace hBefore hState =>
      exact creations_of_story _ (congrArg Trace.story hTrace) (by simp [Event.isQueued])
  | closed hTrace hBefore hState =>
      exact creations_of_story _ (congrArg Trace.story hTrace) (by simp [Event.isQueued])
  | failed dst code hTrace hDst hState =>
      refine creations_of_story _ ((congrArg Trace.story hTrace).trans (List.append_assoc ..)) ?_
      simp [Event.isQueued]
  | up e hTrace hBefore hState hEvent =>
      refine creations_of_story _ ((congrArg Trace.story hTrace).trans (List.append_assoc ..)) ?_
      rcases hEvent with rfl | rfl | rfl <;> simp [Event.isQueued]

/-- Neither does a delivery. -/
theorem Conn.creations_deliver (body : List UInt8) (s : Conn) :
    creations (s.deliver body).log = creations s.log := by
  refine creations_of_story _ (congrArg Trace.story (trace_deliver body s)) ?_
  unfold deliveryStory
  split_ifs <;> simp [Event.isQueued]

/-- By induction on the turns of the drain loop. -/
theorem DrainStep.creations_run {r : Received} (h : Relation.ReflTransGen (DrainStep env r) s s') :
    creations s'.log = creations s.log := by
  induction h with
  | refl => rfl
  | @tail t _ _ hStep ih =>
      refine Eq.trans ?_ ih
      cases hStep with
      | inOrder hOpen hType hOffset hDone =>
          refine (Conn.creations_deliver _ _).trans ?_
          exact creations_of_story _ (congrArg Trace.story (Conn.trace_major t rfl rfl rfl))
            (by simp [Event.isQueued])
      | eof =>
          rcases Conn.trace_reachEof env t with hSame | ⟨w, hTold⟩
          · rw [hSame]
          · exact creations_of_story _ (congrArg Trace.story hTold) (by simp [Event.isQueued])
      | take p hOpen hCount hGet =>
          refine creations_of_story _ (congrArg Trace.story (Conn.trace_takeReordered p t)) ?_
          unfold Conn.deliveryStory
          split_ifs <;> simp [Event.isQueued]

theorem Conn.creations_receiveOutOfOrder (seqNr offset : Nat) (body : List UInt8) (s : Conn) :
    creations (s.receiveOutOfOrder seqNr offset body).log = creations s.log := by
  rcases Conn.trace_receiveOutOfOrder seqNr offset body s with hSame | hTold
  · exact creations_of_story [] (by rw [hSame, List.append_nil]) (List.forall_mem_nil _)
  · exact creations_of_story _ (congrArg Trace.story hTold) (by simp [Event.isQueued])

/-- What is received resizes nothing. -/
theorem Receiving.resizes (h : Receiving env cause s s') : Resizes s s' := by
  have hSnd : s'.snd = s.snd := congrArg Foreground.snd h.foreground
  refine .thins (Conn.thins_of_snd (by rw [hSnd]) (by rw [hSnd]) (by rw [hSnd])) ?_
  cases h with
  | synAcked r hCause hState => rfl
  | fin r hCause hOpen =>
      unfold Conn.noteFin
      split_ifs <;> rfl
  | drained _ r hCause hRun hDone => exact DrainStep.creations_run hRun
  | outOfOrder r hCause hOpen hType hOffset => exact Conn.creations_receiveOutOfOrder _ _ _ s

/-- The SYN is the first packet that is created. -/
theorem Core.resizes_setup (h : Core s) (hSetup : Setup env cause s s') : Resizes s s' := by
  have hEmpty : ∀ {t : Conn}, t.snd.curWindowPackets = 0 → ∀ j, t.sizeAt j = none := by
    intro t hCount j
    rw [Conn.sizeAt_eq, Conn.packetAt_of_empty hCount, Option.map_none]
  cases hSetup with
  | initialise addr connSeed connIdRecv connIdSend hState =>
      have hView := Conn.view_initializeSocket env addr connSeed connIdRecv connIdSend s
      refine .thins (Conn.thins_of_snd (congrArg View.seqNr hView)
        (congrArg View.curWindowPackets hView) (congrArg View.outbuf hView)) ?_
      exact creations_of_story _ (Conn.story_initializeSocket env addr connSeed connIdRecv connIdSend s)
        (by simp [Event.isQueued])
  | dial hState hCount hPointer =>
      have hStart : (s.startConnect env).snd.curWindowPackets = 0 := hCount
      have hCore : Core (s.startConnect env) := h.startConnect hState hCount
      obtain ⟨hNew, hOld⟩ : (s.startConnect env).queueSyn.sizeAt 0 = some (s.startConnect env).synPacket.length ∧
          ∀ j, (s.startConnect env).queueSyn.sizeAt (j + 1) = (s.startConnect env).sizeAt j :=
        hCore.sizeAt_enqueued (by omega) rfl rfl rfl
      have hLog : creations (s.startConnect env).log = creations s.log :=
        creations_of_story _ (congrArg Trace.story (Conn.trace_startConnect env s))
          (by simp [Event.isQueued])
      refine .append (s.startConnect env).snd.seqNr stSyn [] ?_ hNew ?_ (Or.inl rfl)
      · rw [← hLog]
        exact creations_of_queued (congrArg Trace.story (Conn.trace_enqueue _ _)) rfl
      · intro j
        rw [hOld j, hEmpty hStart, hEmpty hCount]
  | accept d hCause hState hCount =>
      have hStart : (s.startAccept env d.header.seqNr).snd.curWindowPackets = 0 := hCount
      refine .thins (fun j => Or.inl (hEmpty hStart j)) ?_
      exact creations_of_story _ (congrArg Trace.story (Conn.trace_setState .synRecv _))
        (by simp [Event.isQueued])

/-- So this is what any transition does to the sizes. -/
theorem Core.resizes (h : Core s) (hTrans : Trans env cause s s') : Resizes s s' := by
  cases hTrans with
  | setup hSetup => exact h.resizes_setup hSetup
  | sending hSend =>
      cases hSend with
      | quiet hQuiet =>
          refine .thins ((Conn.sheds_of_view (hQuiet.view h.view.bounds.ackNr_lt)).thins) ?_
          exact creations_of_story [] (by rw [hQuiet.story, List.append_nil]) nofun
      | queueing hQueue => exact h.resizes_queueing hQueue
      | moving hMove =>
          have hSnd := hMove.snd
          exact .thins (Conn.thins_of_snd (by rw [hSnd]) (by rw [hSnd]) (by rw [hSnd])) hMove.story.creations
  | receiving hReceive => exact hReceive.resizes

/-- The packet size is bounded by `m`, and so are the packets whose creation has been
told. -/
structure Bounded (m : Nat) (told : List Event) (s : Conn) : Prop where
  sound : s.mtu.Sound 20 m
  created : ∀ seqNr type bytes, .queued seqNr type bytes ∈ told → 20 + bytes.length ≤ m
  queued : ∀ j < (creations told).length, ∀ size, s.sizeAt j = some size → size ≤ m

/-- A packet that is created or filled is within the packet size of its time, which is within the bound.
-/
theorem Bounded.resize {m : Nat} {told more : List Event} (h : Bounded m told s) (hLt : m < 65536)
    (hLog : creations s'.log = creations s.log ++ creations more) (hSound : s'.mtu.Sound 20 m)
    (hStep : Resizes s s') : Bounded m (told ++ more) s' := by
  have hSize := Conn.getPacketSize_of_sound h.sound (by omega) hLt
  have hLast := h.sound.low_le.trans h.sound.floor_le
  have hTop := h.sound.last_le.trans h.sound.le_high
  have hMem : ∀ seqNr type bytes, Event.queued seqNr type bytes ∈ more →
      .queued seqNr type bytes ∈ creations more := fun _ _ _ hIn => List.mem_filter.2 ⟨hIn, rfl⟩
  cases hStep with
  | thins hThins hSame =>
      have hNone : creations more = [] := by
        rw [hSame] at hLog
        exact List.self_eq_append_right.1 hLog
      refine ⟨hSound, ?_, ?_⟩
      · intro seqNr type bytes hIn
        rcases List.mem_append.1 hIn with hOld | hNew
        · exact h.created seqNr type bytes hOld
        · exact absurd (hMem _ _ _ hNew) (by simp [hNone])
      · intro j hj size hAt
        rw [creations_append, hNone, List.append_nil] at hj
        rcases hThins j with hGone | hStays
        · exact nomatch hGone.symm.trans hAt
        · exact h.queued j hj size (hStays.symm.trans hAt)
  | append seqNr type bytes hNew hFirst hRest hLength =>
      have hMore : creations more = [.queued seqNr type bytes] := by
        rw [hNew] at hLog
        exact (List.append_cancel_left hLog).symm
      have hShort : 20 + bytes.length ≤ m := by
        rcases hLength with rfl | hBytes
        · simp only [List.length_nil]
          omega
        · have := hBytes (by omega)
          omega
      refine ⟨hSound, ?_, ?_⟩
      · intro seqNr' type' bytes' hIn
        rcases List.mem_append.1 hIn with hOld | hLater
        · exact h.created seqNr' type' bytes' hOld
        · have hEq := hMem _ _ _ hLater
          rw [hMore, List.mem_singleton] at hEq
          cases hEq
          exact hShort
      · intro j hj size hAt
        rw [creations_append, hMore, List.length_append, List.length_singleton] at hj
        cases j with
        | zero =>
            cases Option.some.inj (hFirst.symm.trans hAt)
            exact hShort
        | succ j => exact h.queued j (by omega) size ((hRest j).symm.trans hAt)
  | fill filled hSame hFirst hRest hLength =>
      have hNone : creations more = [] := by
        rw [hSame] at hLog
        exact List.self_eq_append_right.1 hLog
      refine ⟨hSound, ?_, ?_⟩
      · intro seqNr type bytes hIn
        rcases List.mem_append.1 hIn with hOld | hNew
        · exact h.created seqNr type bytes hOld
        · exact absurd (hMem _ _ _ hNew) (by simp [hNone])
      · intro j hj size hAt
        rw [creations_append, hNone, List.append_nil] at hj
        cases j with
        | zero =>
            cases Option.some.inj (hFirst.symm.trans hAt)
            have := hLength (by omega)
            omega
        | succ j => exact h.queued (j + 1) hj size ((hRest j).symm.trans hAt)

/-- What has been told since the record was `base`, and what holds as long as none of it
started the search over. -/
def BoundedSince (m : Nat) (base : List Event) (s : Conn) : Prop :=
  ∃ told, s.log = base ++ told ∧ ((∀ e ∈ told, e.isReset = false) → Bounded m told s)

/-- This is kept over whole runs. -/
theorem kept_boundedSince (env : Env) {m : Nat} (hLt : m < 65536) (base : List Event) :
    Kept env (BoundedSince m base) := by
  refine .of_trans ?_ ?_
  · intro cause s s' hCore hLive hInv hStep
    obtain ⟨told, hLog, hBounded⟩ := hInv
    obtain ⟨more, hMore⟩ := hStep.grows
    refine ⟨told ++ more, by rw [← hMore, hLog, List.append_assoc], fun hNone => ?_⟩
    have hBefore := hBounded fun e he => hNone e (List.mem_append_left _ he)
    obtain ⟨events, hNotes, hSound⟩ := SearchRun.bounds 20 m hStep.search (by decide) (by omega)
    have hSeeks : events = more.filter Event.isSearch := by
      have hSplit : s'.search.notes = s.search.notes ++ more.filter Event.isSearch := by
        change s'.log.filter Event.isSearch = _
        rw [← hMore]
        exact List.filter_append ..
      exact List.append_cancel_left (hNotes.symm.trans hSplit)
    refine hBefore.resize hLt ?_ (hSound ?_ hBefore.sound) (hCore.resizes hStep)
    · rw [← hMore, creations_append]
    · intro e he
      rw [hSeeks] at he
      exact hNone e (List.mem_append_right _ (List.mem_of_mem_filter he))
  · intro s currentMs tick hInv
    obtain ⟨told, hLog, hBounded⟩ := hInv
    refine ⟨told, hLog, fun hNone => ?_⟩
    obtain ⟨hSound, hCreated, hQueued⟩ := hBounded hNone
    exact ⟨hSound, hCreated, hQueued⟩

/-- The packet size is positive, and every queued packet fits in a datagram. -/
structure Fitting (s : Conn) : Prop where
  mtu : s.mtu.AtLeast 21
  queued : ∀ j size, s.sizeAt j = some size → size ≤ 65535

/-- The packet size is what the search has last, less the header. -/
theorem getPacketSize_of_atLeast {s : Conn} (h : s.mtu.AtLeast 21) : s.getPacketSize + 20 = s.mtu.last := by
  have hLow := h.last
  have hHigh := h.last_lt
  have hSet : s.mtu.last ≠ 0 := by omega
  unfold Conn.getPacketSize
  simp only [ne_eq, hSet, not_false_iff, if_true]
  unfold u64
  omega

/-- What fits goes on fitting while every reading of the MTU holds more than a header. -/
theorem Fitting.resize (h : Fitting s) (hMtu : s'.mtu.AtLeast 21) (hStep : Resizes s s') : Fitting s' := by
  have hSize := getPacketSize_of_atLeast h.mtu
  have hSet := h.mtu.last
  have hLt := h.mtu.last_lt
  refine ⟨hMtu, fun j size hAt => ?_⟩
  cases hStep with
  | thins hThins hSame =>
      rcases hThins j with hGone | hStays
      · cases hGone.symm.trans hAt
      · exact h.queued j size (hStays.symm.trans hAt)
  | append seqNr type bytes hNew hFirst hRest hLength =>
      cases j with
      | zero =>
          cases Option.some.inj (hFirst.symm.trans hAt)
          rcases hLength with rfl | hBytes
          · simp
          · have := hBytes (by omega)
            omega
      | succ j => exact h.queued j size ((hRest j).symm.trans hAt)
  | fill filled hSame hFirst hRest hLength =>
      cases j with
      | zero =>
          cases Option.some.inj (hFirst.symm.trans hAt)
          have := hLength (by omega)
          omega
      | succ j => exact h.queued (j + 1) size ((hRest j).symm.trans hAt)

/-- The bytes in flight are far from the end of their range. -/
theorem Fitting.window_le (h : Fitting s) (hCore : Core s) : s.snd.curWindow ≤ 1024 * 65535 := by
  refine hCore.view.queue.window_le fun v pkt hGet => ?_
  obtain ⟨j, hj, hDvd⟩ := hCore.view.queue.offset_of_get hGet
  rw [SizableCircularBuffer.get_congr _ hDvd] at hGet
  have hLength := (hCore.view.queue.packet j hj pkt hGet).length
  have hAt : s.sizeAt (s.snd.curWindowPackets - 1 - j) = some pkt.length := by
    have hLt : j < s.snd.curWindowPackets := hj
    have hIn : s.snd.curWindowPackets - 1 - j < s.snd.curWindowPackets := by omega
    have hSame : (s.snd.seqNr : Int) - 1 - (s.snd.curWindowPackets - 1 - j : Nat) =
        s.snd.seqNr - s.snd.curWindowPackets + j := by
      omega
    have hHere : s.snd.outbuf.get (s.snd.seqNr - s.snd.curWindowPackets + j) = some pkt := hGet
    unfold Conn.sizeAt
    rw [if_pos hIn, hSame, hHere]
    rfl
  have hFits := h.queued _ _ hAt
  omega

/-- As long as every MTU that is read holds more than a header. -/
theorem preserved_fitting (env : Env) : Preserved env fun s => ReadsAtLeast 21 s.search.notes → Fitting s := by
  refine .of_trans ?_ ?_ ?_
  · intro s addr connSeed connIdRecv connIdSend hPristine hLog hReads
    have hMtu : (s.initializeSocket env addr connSeed connIdRecv connIdSend).search.mtu.AtLeast 21 :=
      (preserved_atLeast env (by decide)).initialised s addr connSeed connIdRecv connIdSend hPristine hLog hReads
    have hView := Conn.view_initializeSocket env addr connSeed connIdRecv connIdSend s
    have hCount : (s.initializeSocket env addr connSeed connIdRecv connIdSend).snd.curWindowPackets = 0 := by
      obtain ⟨targetDelay, optSndbuf, optRcvbuf, ssthresh, hNew⟩ := hPristine
      refine (congrArg View.curWindowPackets hView).trans ?_
      change s.toSocket.snd.curWindowPackets = 0
      rw [hNew]
      rfl
    refine ⟨hMtu, fun j size hAt => ?_⟩
    unfold Conn.sizeAt at hAt
    rw [hCount, if_neg (Nat.not_lt_zero j)] at hAt
    cases hAt
  · intro cause s s' hCore hLive hInv hStep hReads
    have hNotes : s.search.notes <+: s'.search.notes := hStep.grows.filter Event.isSearch
    have hOld : Fitting s := hInv fun before after hMem => hReads before after (hNotes.subset hMem)
    exact hOld.resize (SearchRun.atLeast (by decide) hStep.search (fun _ => hOld.mtu) hReads) (hCore.resizes hStep)
  · intro s currentMs tick hInv hReads
    obtain ⟨hMtu, hQueued⟩ := hInv hReads
    exact ⟨hMtu, hQueued⟩

end Utp
