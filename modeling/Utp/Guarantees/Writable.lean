import Utp.Invariant.Ending
import Utp.Transition.AckPoint
import Utp.Transition.Arrival
import Utp.Guarantees.Write

/-! A user that was refused a write is told when it may go on: where a socket is marked as
full, and what it fires when it becomes writable or leaves that state otherwise. -/
namespace Utp

open Wrapping

namespace Event

/-- The notifications after which the user may write. -/
def isSignal : Event → Bool
  | .onConnect | .onStateChange .connect | .onStateChange .writable => true
  | _ => false

/-- Events that do not change the state. -/
def isPlain : Event → Bool
  | .moved _ _ _ => false
  | _ => true

/-- The state after an event. -/
def nextState (state : ConnState) : Event → ConnState
  | .moved _ dst _ => dst
  | _ => state

theorem nextState_of_plain {e : Event} (h : e.isPlain = true) (state : ConnState) : nextState state e = state := by
  cases e <;> first | rfl | cases h

end Event

/-- The state that a story ends with. -/
def stateTold (story : List Event) : ConnState := story.foldl Event.nextState .uninitialized

theorem stateTold_append_plain (story : List Event) {events : List Event} (h : ∀ e ∈ events, e.isPlain = true) :
    stateTold (story ++ events) = stateTold story := by
  unfold stateTold
  rw [List.foldl_append]
  induction events with
  | nil => rfl
  | cons e events ih =>
      rw [List.foldl_cons, Event.nextState_of_plain (h e (List.mem_cons_self ..))]
      exact ih fun e' he' => h e' (List.mem_cons_of_mem _ he')

/-- What goes with a change of state, between what was told before it and after it. -/
structure Wakes (before : List Event) (src dst : ConnState) (after : List Event) : Prop where
  source : src = stateTold before
  up : dst = .connected → (src = .synSent ∨ src = .synRecv ∨ src = .connectedFull) ∧
    ∃ e rest, after = e :: rest ∧ e.isSignal = true
  left : src = .connectedFull → dst = .connected ∨
    (∃ code rest, (dst = .reset ∨ dst = .destroy) ∧ after = .onError code :: rest) ∨
    dst = .destroy ∧ .closeRequested ∈ before

theorem Wakes.append {before after : List Event} {src dst : ConnState} (h : Wakes before src dst after)
    (more : List Event) : Wakes before src dst (after ++ more) := by
  refine ⟨h.source, fun hUp => ?_, fun hFull => ?_⟩
  · obtain ⟨hFrom, e, rest, rfl, hSignal⟩ := h.up hUp
    exact ⟨hFrom, e, rest ++ more, rfl, hSignal⟩
  · rcases h.left hFull with hUp | ⟨code, rest, hDst, rfl⟩ | hClosed
    · exact Or.inl hUp
    · exact Or.inr (Or.inl ⟨code, rest ++ more, hDst, rfl⟩)
    · exact Or.inr (Or.inr hClosed)

/-- Every change of state in a story. -/
def Woken (story : List Event) : Prop :=
  ∀ before after src dst ackNr, story = before ++ .moved src dst ackNr :: after → Wakes before src dst after

namespace Woken

variable {story : List Event}

/-- A story goes on, with changes of state that are told properly. -/
theorem append (h : Woken story) {events : List Event}
    (hNew : ∀ mid after src dst ackNr, events = mid ++ .moved src dst ackNr :: after → Wakes (story ++ mid) src dst after) :
    Woken (story ++ events) := by
  intro before after src dst ackNr hSplit
  rcases split_append hSplit with ⟨mid, rfl, hEvents⟩ | ⟨rest, hStory, rfl⟩
  · exact hNew mid after src dst ackNr hEvents
  · exact (h before rest src dst ackNr hStory).append events

theorem plain (h : Woken story) {events : List Event} (hPlain : ∀ e ∈ events, e.isPlain = true) :
    Woken (story ++ events) := by
  refine h.append fun mid after src dst ackNr hSplit => ?_
  have hMoved := hPlain (.moved src dst ackNr) (by rw [hSplit]; exact List.mem_append_right _ (List.mem_cons_self ..))
  cases hMoved

/-- One change of state, and what it fires. -/
theorem moved (h : Woken story) {src dst : ConnState} {ackNr : Nat} {after : List Event}
    (hPlain : ∀ e ∈ after, e.isPlain = true) (hWakes : Wakes story src dst after) :
    Woken (story ++ .moved src dst ackNr :: after) := by
  refine h.append fun mid rest src' dst' ackNr' hSplit => ?_
  cases mid with
  | nil =>
      obtain ⟨hHead, rfl⟩ := List.cons.inj hSplit
      cases hHead
      rwa [List.append_nil]
  | cons e mid =>
      rw [List.cons_append] at hSplit
      have hMoved := hPlain (.moved src' dst' ackNr')
        (by rw [(List.cons.inj hSplit).2]; exact List.mem_append_right _ (List.mem_cons_self ..))
      cases hMoved

end Woken

/-- The story of a socket tells its state, and tells it properly. -/
structure Told (s : Conn) : Prop where
  woken : Woken s.trace.story
  state : stateTold s.trace.story = s.state
  closing : s.closeRequested = true → .closeRequested ∈ s.trace.story

namespace Told

variable {env : Env} {cause : Cause} {s s' : Conn}

/-- Everything but a change of state. -/
theorem plain (h : Told s) (events : List Event) (hStory : s'.trace.story = s.trace.story ++ events)
    (hPlain : ∀ e ∈ events, e.isPlain = true) (hState : s'.state = s.state)
    (hClose : s'.closeRequested = true → s.closeRequested = true ∨ .closeRequested ∈ s'.trace.story) : Told s' := by
  refine ⟨?_, ?_, ?_⟩
  · rw [hStory]
    exact h.woken.plain hPlain
  · rw [hStory, stateTold_append_plain _ hPlain, hState]
    exact h.state
  · intro hRequested
    rcases hClose hRequested with hBefore | hNow
    · rw [hStory]
      exact List.mem_append_left _ (h.closing hBefore)
    · exact hNow

/-- A change of state, and what it fires. -/
theorem moved (h : Told s) {dst : ConnState} (ackNr : Nat) (after : List Event)
    (hStory : s'.trace.story = s.trace.story ++ .moved s.state dst ackNr :: after)
    (hPlain : ∀ e ∈ after, e.isPlain = true) (hState : s'.state = dst)
    (hClose : s'.closeRequested = true → s.closeRequested = true ∨ .closeRequested ∈ s'.trace.story)
    (hWakes : Wakes s.trace.story s.state dst after) : Told s' := by
  refine ⟨?_, ?_, ?_⟩
  · rw [hStory]
    exact h.woken.moved hPlain hWakes
  · have hSplit : s.trace.story ++ .moved s.state dst ackNr :: after =
        s.trace.story ++ [.moved s.state dst ackNr] ++ after := by
      simp
    rw [hStory, hSplit, stateTold_append_plain _ hPlain, hState]
    unfold stateTold
    rw [List.foldl_append]
    rfl
  · intro hRequested
    rcases hClose hRequested with hBefore | hNow
    · rw [hStory]
      exact List.mem_append_left _ (h.closing hBefore)
    · exact hNow

end Told

variable {env : Env} {cause : Cause} {s s' : Conn}

/-- Only `utp_close` asks for the socket to be closed. -/
theorem Moving.requested (h : Moving cause s s') (hRequested : s'.closeRequested = true) :
    s.closeRequested = true ∨ .closeRequested ∈ s'.trace.story := by
  cases h with
  | closing hOpen =>
      refine Or.inr (List.mem_filter.2 ⟨?_, rfl⟩)
      exact List.mem_append_right _ (List.mem_singleton_self _)
  | finAcked r hCause hFin hAcks =>
      split_ifs at hRequested with hClose
      · exact Or.inl hClose
      · exact Or.inl hRequested
  | full hState hFull =>
      refine Or.inl ?_
      unfold Conn.markFull Conn.noteFull at hRequested
      rw [if_pos hFull, if_pos hFull] at hRequested
      exact hRequested
  | icmpError =>
      refine Or.inl ?_
      unfold Conn.receiveIcmpError at hRequested
      split_ifs at hRequested <;> exact hRequested
  | _ => exact Or.inl hRequested

theorem plain_of_isQueueing {e : Event} (h : e.isQueueing = true) : e.isPlain = true := by
  cases e <;> first | rfl | cases h

theorem DrainStep.plain {r : Received} (h : DrainStep env r s s') :
    ∃ events, s'.trace.story = s.trace.story ++ events ∧ ∀ e ∈ events, e.isPlain = true := by
  have hDelivery : ∀ (t : Conn) body, ∀ e ∈ t.deliveryStory body, e.isPlain = true := by
    intro t body e he
    unfold Conn.deliveryStory at he
    split_ifs at he <;> aesop
  cases h with
  | inOrder hOpen hType hOffset hDone =>
      rw [Conn.trace_deliver, Conn.trace_major s rfl rfl rfl, Trace.tell, List.append_assoc]
      refine ⟨_, rfl, fun e he => ?_⟩
      rcases List.mem_append.1 he with hHead | hRest
      · rw [List.mem_singleton.1 hHead]
        rfl
      · exact hDelivery _ _ e hRest
  | eof =>
      rcases Conn.trace_reachEof env s with hSame | ⟨w, hTold⟩
      · rw [hSame]
        exact ⟨[], (List.append_nil _).symm, List.forall_mem_nil _⟩
      · rw [hTold]
        exact ⟨_, rfl, List.forall_mem_singleton.2 rfl⟩
  | take p hOpen hCount hGet =>
      rw [Conn.trace_takeReordered]
      exact ⟨_, rfl, hDelivery s p.body⟩

/-- The receiving side does not change the state. -/
theorem Receiving.plain (h : Receiving env cause s s') :
    ∃ events, s'.trace.story = s.trace.story ++ events ∧ ∀ e ∈ events, e.isPlain = true := by
  cases h with
  | synAcked r hCause hState => exact ⟨[], (List.append_nil _).symm, List.forall_mem_nil _⟩
  | fin r hCause hOpen =>
      unfold Conn.noteFin
      split_ifs <;> exact ⟨[], (List.append_nil _).symm, List.forall_mem_nil _⟩
  | drained _ r hCause hRun hDone =>
      clear hDone
      induction hRun with
      | refl => exact ⟨[], (List.append_nil _).symm, List.forall_mem_nil _⟩
      | tail _ hStep ih =>
          obtain ⟨events, hStory, hPlain⟩ := ih
          obtain ⟨more, hMore, hPlain'⟩ := hStep.plain
          refine ⟨events ++ more, by rw [hMore, hStory, List.append_assoc], fun e he => ?_⟩
          exact (List.mem_append.1 he).elim (hPlain e) (hPlain' e)
  | outOfOrder r hCause hOpen hType hOffset =>
      rcases Conn.trace_receiveOutOfOrder r.d.header.seqNr (s.seqOffset r.d.header) (r.d.drop r.data) s with hSame | hTold
      · exact ⟨[], (congrArg Trace.story hSame).trans (List.append_nil _).symm, List.forall_mem_nil _⟩
      · exact ⟨_, congrArg Trace.story hTold, List.forall_mem_singleton.2 rfl⟩

namespace Told

theorem moving (h : Told s) (hMove : Moving cause s s') : Told s' := by
  have hRequested := hMove.requested
  cases hMove.story with
  | none hTrace hState => exact h.plain [] (by rw [hTrace, List.append_nil]) (List.forall_mem_nil _) hState hRequested
  | closing hTrace hState hClose =>
      exact h.plain [.closeRequested] (by rw [hTrace]; rfl) (List.forall_mem_singleton.2 rfl) hState hRequested
  | full hTrace hBefore hState =>
      refine h.moved s.rcv.ackNr [] (congrArg Trace.story hTrace) (List.forall_mem_nil _) hState hRequested ?_
      refine ⟨h.state.symm, fun hUp => (by cases hUp), fun hFull => ?_⟩
      rw [hBefore] at hFull
      cases hFull
  | closed hTrace hBefore hState =>
      refine h.moved s.rcv.ackNr [] (congrArg Trace.story hTrace) (List.forall_mem_nil _) hState hRequested ?_
      refine ⟨h.state.symm, fun hUp => (by cases hUp), fun hFull => Or.inr (Or.inr ⟨rfl, h.closing (hBefore ?_)⟩)⟩
      rw [hFull]
      rfl
  | failed dst code hTrace hDst hState =>
      refine h.moved s.rcv.ackNr [.onError code] ?_ (List.forall_mem_singleton.2 rfl) hState hRequested ?_
      · simp [hTrace, Trace.tell]
      · refine ⟨h.state.symm, fun hUp => ?_, fun _ => Or.inr (Or.inl ⟨code, [], hDst, rfl⟩)⟩
        rcases hDst with rfl | rfl <;> cases hUp
  | up e hTrace hBefore hState hEvent =>
      have hSignal : e.isSignal = true := by rcases hEvent with rfl | rfl | rfl <;> rfl
      refine h.moved s.rcv.ackNr [e] ?_ (List.forall_mem_singleton.2 ?_) hState hRequested ?_
      · simp [hTrace, Trace.tell]
      · rcases hEvent with rfl | rfl | rfl <;> rfl
      · exact ⟨h.state.symm, fun _ => ⟨hBefore, e, [], rfl, hSignal⟩, fun _ => Or.inl rfl⟩

theorem trans (h : Told s) (hCore : Core s) (hLive : s.Live) (hTrans : Trans env cause s s') : Told s' := by
  cases hTrans with
  | setup hSetup =>
      cases hSetup with
      | initialise addr connSeed connIdRecv connIdSend hState => exact absurd hState hLive
      | dial hState hCount hPointer =>
          have hSent : (s.startConnect env).queueSyn.state = .synSent := rfl
          refine h.moved s.rcv.ackNr [.queued (s.startConnect env).snd.seqNr stSyn []] ?_ (List.forall_mem_singleton.2 rfl) hSent
            (fun hClose => Or.inl hClose) ⟨h.state.symm, fun hUp => (by cases hUp), fun hFull => ?_⟩
          · unfold Conn.queueSyn
            rw [Conn.trace_enqueue, Conn.trace_startConnect]
            simp [Trace.tell, Conn.synPacket]
          · rw [hState] at hFull
            cases hFull
      | accept d hCause hState hCount =>
          refine h.moved d.header.seqNr [] (congrArg Trace.story (Conn.trace_setState .synRecv _)) (List.forall_mem_nil _) rfl
            (fun hClose => Or.inl hClose) ⟨h.state.symm, fun hUp => (by cases hUp), fun hFull => ?_⟩
          rw [hState] at hFull
          cases hFull
  | sending hSend =>
      cases hSend with
      | quiet hQuiet =>
          have hState : s'.state = s.state := congrArg View.state (hQuiet.view hCore.view.bounds.ackNr_lt)
          exact h.plain [] (by rw [hQuiet.story, List.append_nil]) (List.forall_mem_nil _) hState
            fun hClose => Or.inl (hQuiet.closeRequested.symm.trans hClose)
      | queueing hQueue =>
          have hState : s'.state = s.state := congrArg Backdrop.state hQueue.backdrop
          have hClose : s'.closeRequested = s.closeRequested := congrArg Backdrop.closeRequested hQueue.backdrop
          rcases hQueue.story with hSame | ⟨e, hEvent, hStory⟩
          · exact h.plain [] (by rw [hSame, List.append_nil]) (List.forall_mem_nil _) hState
              fun hRequested => Or.inl (hClose.symm.trans hRequested)
          · exact h.plain [e] hStory (List.forall_mem_singleton.2 (plain_of_isQueueing hEvent)) hState
              fun hRequested => Or.inl (hClose.symm.trans hRequested)
      | moving hMove => exact h.moving hMove
  | receiving hReceive =>
      have hState : s'.state = s.state := congrArg Foreground.state hReceive.foreground
      have hClose : s'.closeRequested = s.closeRequested := congrArg Foreground.closeRequested hReceive.foreground
      obtain ⟨events, hStory, hPlain⟩ := hReceive.plain
      exact h.plain events hStory hPlain hState fun hRequested => Or.inl (hClose.symm.trans hRequested)

end Told

/-- Every change of state of a socket is told, with what it fires. -/
theorem preserved_told (env : Env) : Preserved env Told := by
  refine .of_trans ?_ (fun cause s s' hCore hLive hInv hTrans => hInv.trans hCore hLive hTrans) ?_
  · intro s addr connSeed connIdRecv connIdSend hPristine hLog
    have hStory : (s.initializeSocket env addr connSeed connIdRecv connIdSend).trace.story =
        [.moved s.state .idle s.rcv.ackNr] := by
      rw [Conn.story_initializeSocket]
      simp [Conn.trace, hLog, traceOf]
    have hView := Conn.view_initializeSocket env addr connSeed connIdRecv connIdSend s
    have hNew : s.state = .uninitialized ∧ s.closeRequested = false := by
      obtain ⟨targetDelay, optSndbuf, optRcvbuf, ssthresh, hNew⟩ := hPristine
      rw [hNew]
      exact ⟨rfl, rfl⟩
    have hStart : Woken [] := fun before after src dst ackNr hSplit => by simp at hSplit
    refine ⟨?_, ?_, fun hClose => ?_⟩
    · rw [hStory]
      refine hStart.moved (List.forall_mem_nil _) ⟨hNew.1, fun hUp => (by cases hUp), fun hFull => ?_⟩
      cases hNew.1.symm.trans hFull
    · rw [hStory]
      exact (congrArg View.state hView).symm
    · have hSame : (s.initializeSocket env addr connSeed connIdRecv connIdSend).closeRequested = s.closeRequested :=
        congrArg Backdrop.closeRequested (Conn.backdrop_mtuReset env _)
      cases (hSame.trans hNew.2).symm.trans hClose
  · intro s currentMs tick hInv
    exact ⟨hInv.woken, hInv.state, hInv.closing⟩

namespace Conn

variable (env : Env)

/-- The window as `is_full` reads it. -/
theorem isFull_of_foreground {s s' : Conn} (h : s'.foreground = s.foreground) (bytes : Int) :
    s'.isFull bytes = s.isFull bytes := by
  have hSnd : s'.snd = s.snd := congrArg Foreground.snd h
  have hMtu : s'.mtu = s.mtu := congrArg Foreground.mtu h
  have hWin : s'.win = s.win := congrArg Foreground.win h
  unfold isFull getPacketSize
  rw [hSnd, hMtu, hWin]

theorem isFull_noteFull (bytes bytes' : Int) (s : Conn) : (s.noteFull bytes).isFull bytes' = s.isFull bytes' := by
  unfold noteFull
  split_ifs <;> rfl

/-- A socket that is marked as full is full. -/
def FullMeansFull (s : Conn) : Prop := s.state = .connectedFull → s.isFull (-1) = true

theorem FullMeansFull.of_foreground {s s' : Conn} (h : FullMeansFull s) (hSame : s'.foreground = s.foreground) :
    FullMeansFull s' := by
  intro hState
  rw [isFull_of_foreground hSame]
  exact h ((congrArg Foreground.state hSame).symm.trans hState)

theorem fullMeansFull_makeWritable (s : Conn) : FullMeansFull s.makeWritable := by
  intro hState
  unfold makeWritable at hState ⊢
  split_ifs at hState ⊢ with hWas hFull
  · rw [isFull_noteFull]
    exact hFull
  · cases hState
  · exact absurd hState hWas

theorem foreground_keepAliveIfIdle (s : Conn) : (s.keepAliveIfIdle env).foreground = s.foreground := by
  unfold keepAliveIfIdle
  split_ifs
  · exact foreground_sendAck env false (s.setAckNr (u16 (s.rcv.ackNr - 1)))
  · rfl

/-- A connection that is given up is not full. -/
theorem state_of_givenUp {s : Conn} (h : (s.onTimeout env).1 = true) : (s.onTimeout env).2.state ≠ .connectedFull := by
  unfold onTimeout at h ⊢
  dsimp only at h ⊢
  split_ifs at h ⊢
  · exact fun hFull => by cases hFull
  · intro hFull
    change (if _ then ConnState.destroy else .reset) = ConnState.connectedFull at hFull
    split_ifs at hFull

theorem fullMeansFull_checkTimeouts (s : Conn) : FullMeansFull (s.checkTimeouts env) := by
  unfold checkTimeouts
  dsimp only
  generalize (if (s.check 1133 s.frontQueued).state ≠ .destroy then (s.check 1133 s.frontQueued).flushPackets env
    else s.check 1133 s.frontQueued) = t
  have hTimers : FullMeansFull (t.runTimers env) := by
    unfold runTimers
    dsimp only
    by_cases hExpired : t.resetZeroWindow.rtoExpired = true
    · rw [if_pos hExpired]
      split_ifs with hUp
      · intro hState
        exact absurd hState (state_of_givenUp env hUp)
      · exact (fullMeansFull_makeWritable _).of_foreground (foreground_keepAliveIfIdle env _)
    · rw [if_neg hExpired]
      exact (fullMeansFull_makeWritable _).of_foreground (foreground_keepAliveIfIdle env _)
  cases hState : t.state with
  | connectedFull => exact hTimers
  | connected => exact hTimers
  | synSent => exact hTimers
  | synRecv => exact hTimers
  | uninitialized | idle | reset | destroy =>
      intro hFull
      cases hState.symm.trans hFull

theorem fullMeansFull_utpProcessIncoming {d : Datagram} {s : Conn} {a : AckPoint} (h : s.ackPoint env d = some a) :
    FullMeansFull (s.utpProcessIncoming env d false) := by
  rw [utpProcessIncoming_ackPoint h]
  exact (fullMeansFull_makeWritable _).of_foreground (foreground_receiveData env d d.header a.data _ _)

end Conn

namespace Conn

variable {env : Env} {s : Conn} {packetSize : Nat}

/-- If a short piece does not fit in the window, then a full packet does not. -/
theorem isFull_full_packet (h : Fitting s) (hCore : Core s) {n : Nat} (hn : n ≤ s.getPacketSize)
    (hFull : s.isFull n = true) : s.isFull (-1) = true := by
  have hWindow := h.window_le hCore
  have hSize := getPacketSize_of_atLeast h.mtu
  have hLt := h.mtu.last_lt
  have hInt : i32 s.getPacketSize = s.getPacketSize := i32_of_lt (by omega) (by omega)
  unfold isFull at hFull ⊢
  simp only [Bool.or_eq_true, decide_eq_true_eq] at hFull ⊢
  refine hFull.imp_right fun hOver => ?_
  have hPiece : ¬(n : Int) < 0 := by omega
  have hNegative : (-1 : Int) < 0 := by decide
  rw [hInt, if_neg hPiece, if_neg (by omega)] at hOver
  rw [hInt, if_pos hNegative]
  refine hOver.trans_le ?_
  unfold u64
  omega

/-- The loop of `utp_writev` leaves bytes behind only when it marks the socket as full. -/
theorem writevLoop_full (env : Env) (fuel bytes sent : Nat) (iov : List (List UInt8)) (hCore : Core s)
    (hState : s.state = .connected) (hFin : s.finSent = false) (hSize : packetSize = s.getPacketSize)
    (hFit : ReadsAtLeast 21 s.search.notes → Fitting s) (hFuel : bytes < fuel)
    (hReads : ReadsAtLeast 21 (s.writevLoop env packetSize fuel bytes sent iov).2.search.notes)
    (hLess : (s.writevLoop env packetSize fuel bytes sent iov).1 < sent + bytes) :
    (s.writevLoop env packetSize fuel bytes sent iov).2.state = .connectedFull := by
  induction fuel generalizing bytes sent iov s with
  | zero => omega
  | succ fuel ih =>
      have hPath : SendPath env .write s (s.writevLoop env packetSize (fuel + 1) bytes sent iov).2 :=
        path_writevLoop env .write (fuel + 1) bytes sent iov hCore hState hFin (fun _ => hSize) (.inl rfl)
      have hNotes := (Path.grows hPath.path).filter Event.isSearch
      have hNow : Fitting s := hFit fun before after hMem => hReads before after (hNotes.subset hMem)
      have hPositive := getPacketSize_of_atLeast hNow.mtu
      have hAbove := hNow.mtu.last
      clear hPath hNotes
      unfold writevLoop at hReads hLess ⊢
      dsimp only at hReads hLess ⊢
      by_cases hFull : s.isFull (min bytes packetSize : Nat) = true
      · rw [if_pos hFull]
        have hWhole : (s.noteFull (min bytes packetSize : Nat)).isFull (-1) = true := by
          rw [isFull_noteFull]
          exact isFull_full_packet hNow hCore (by omega) hFull
        unfold markFull
        rw [if_pos hWhole]
        rfl
      · rw [if_neg hFull] at hReads hLess ⊢
        have hWriting : Writing packetSize s := ⟨hCore, hState, hFin, room_of_not_full hFull, fun _ => hSize⟩
        have hWrite : SendPath env .write s _ := path_writeOutgoingPacket env .write iov hWriting
          (fun _ => min_le_right bytes packetSize) (.inl rfl)
        have hFrame := writeFrame_writeOutgoingPacket env (min bytes packetSize) stData iov s
        by_cases hDone : min (bytes - min bytes packetSize) packetSize = 0
        · rw [if_pos hDone] at hLess
          dsimp only at hLess
          omega
        · rw [if_neg hDone] at hReads hLess ⊢
          have hSame : (s.writeOutgoingPacket env (min bytes packetSize) stData iov).2.mtu.last = s.mtu.last :=
            congrArg WriteFrame.mtuLast hFrame
          have hLive : s.Live := hState.trans_ne (by decide)
          refine ih (bytes - min bytes packetSize) (sent + min bytes packetSize) _ (hCore.sendPath hWrite)
            ((congrArg WriteFrame.state hFrame).trans hState) ((congrArg WriteFrame.finSent hFrame).trans hFin) ?_ ?_
            (by omega) hReads (by omega)
          · rw [getPacketSize_eq hSame (by omega)]
            exact hSize
          · exact (preserved_fitting env).ran .write s _ hCore hLive hFit ⟨hWrite.path, fun r hr => by cases hr⟩

end Conn

/-- What a socket owes to a user that waits to write. -/
structure Wakeups (env : Env) (c : Context) (p : Nat) (sock : Socket) : Prop where
  refused : ∀ iovecs, iovecs ≠ [] → sock.state = .connected → sock.finSent = false →
    ReadsAtLeast 21 ((c.enter p sock).utpWritev env iovecs).2.log →
    ((c.enter p sock).utpWritev env iovecs).1 < (iovecs.take 1024).flatten.length →
    ((c.enter p sock).utpWritev env iovecs).2.state = .connectedFull
  told : stateTold (traceOf (c.logs p)).story = sock.state ∧ Woken (traceOf (c.logs p)).story
  checked : ∀ currentMs tick, Conn.FullMeansFull
    (({ c.enter p sock with currentMs := currentMs, tick := tick } : Conn).checkTimeouts env)
  heard : ∀ d, ((c.enter p sock).ackPoint env d).isSome = true →
    Conn.FullMeansFull ((c.enter p sock).utpProcessIncoming env d false)

/-- No wakeup of a writer is lost. A write that takes less than it was given marks the socket
as full, provided that the MTUs that were read for it hold more than a header. Every change of
state that was ever made is recorded, with what it fired: a notification when the socket came
up or got writable again, an error when it was torn down, unless the user had closed it. A
socket is left marked as full only if it is full, by a timer check at any time, and by a packet
that gets past the check of its sequence number. -/
theorem writable_wakeups (env : Env) (c : Context) (hReach : c.Reachable env) (p : Nat) (sock : Socket)
    (hSock : c.Holds p sock) : Wakeups env c p sock := by
  have hTold := (preserved_told env).reachable hReach p sock hSock
  refine ⟨fun iovecs hSome hState hFin hReads hLess => ?_, ⟨hTold.state, hTold.woken⟩,
    fun currentMs tick => Conn.fullMeansFull_checkTimeouts env _, fun d hPast => ?_⟩
  · have hCore : Core (c.enter p sock) := hReach.ok.core p sock hSock.1
    have hClock : SendPath env .call (c.enter p sock) ((c.enter p sock).updateCurrentMs env) := (Quiet.clock _).path
    have hFit := (preserved_fitting env).ran .call _ _ hCore hSock.2 ((preserved_fitting env).reachable hReach p sock hSock)
      ⟨hClock.path, fun r hr => by cases hr⟩
    have hNotes : ReadsAtLeast 21 ((c.enter p sock).utpWritev env iovecs).2.search.notes :=
      fun before after hMem => hReads before after (List.mem_filter.1 hMem).1
    unfold Conn.utpWritev at hNotes hLess ⊢
    have hUp : ¬(c.enter p sock).state ≠ .connected := not_not.2 hState
    have hOpen : ¬(c.enter p sock).finSent = true := ne_true_of_eq_false hFin
    rw [if_neg (by simpa using hSome), if_neg hUp, if_neg hOpen] at hNotes hLess ⊢
    refine Conn.writevLoop_full env _ _ 0 _ (hCore.sendPath hClock) hState hFin rfl hFit (Nat.lt_succ_self _) hNotes ?_
    dsimp only at hLess
    omega
  · obtain ⟨a, hPoint⟩ := Option.isSome_iff_exists.1 hPast
    exact Conn.fullMeansFull_utpProcessIncoming env hPoint

/-- A block of 3000 bytes does not fit in the first window. -/
theorem writable_wakeups_refused : ∃ (c : Context) (sock : Socket), c.Reachable steadyEnv ∧ c.Holds 0 sock ∧
    ((c.enter 0 sock).utpWritev steadyEnv [List.replicate 3000 0]).1 = 1480 ∧
    ((c.enter 0 sock).utpWritev steadyEnv [List.replicate 3000 0]).2.state = .connectedFull := by
  have hRun : ((utpInit true true).run steadyEnv connectedOps).any (fun c => (c.sockets 0).any fun sock =>
      sock.state == .connected && !sock.finSent &&
        ((c.enter 0 sock).utpWritev steadyEnv [List.replicate 3000 0]).1 == 1480 &&
        readsMtu 1500 ((c.enter 0 sock).utpWritev steadyEnv [List.replicate 3000 0]).2.log) = true := by
    decide +kernel
  obtain ⟨c, hReach, hOk⟩ := Context.Reachable.exists_of_run hRun
  obtain ⟨sock, hSock, hAll⟩ := (Option.any_eq_true _ _).1 hOk
  simp only [Bool.and_eq_true, beq_iff_eq, Bool.not_eq_true'] at hAll
  obtain ⟨⟨⟨hState, hFin⟩, hSent⟩, hReads⟩ := hAll
  have hHolds : c.Holds 0 sock := ⟨hSock, hState.trans_ne (by decide)⟩
  have hMtu := ReadsMtu.of_all hReads
  have hLess : (1480 : Int) < (([List.replicate 3000 0] : List (List UInt8)).take 1024).flatten.length := by decide +kernel
  refine ⟨c, sock, hReach, hHolds, hSent, (writable_wakeups steadyEnv c hReach 0 sock hHolds).refused _ (by decide) hState
    hFin (fun before after hMem => (by decide : 21 ≤ 1500).trans_eq (hMtu before after hMem).symm) (hSent.trans_lt hLess)⟩

end Utp
