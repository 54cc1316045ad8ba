import Utp.Library.Entries
import Utp.Invariant.Delivery

/-! The end of the stream: it is announced once, after the packets up to the FIN have been
delivered. -/
namespace Utp

open Wrapping

/-- The notification that the stream has ended. -/
def Event.isEof : Event → Bool
  | .onStateChange .eof => true
  | _ => false

/-- Events that neither announce the end of the stream nor pass on data. -/
def Event.isMute (e : Event) : Bool := !e.isEof && (e.read?).isNone

/-- No data is passed on after the end of the stream has been announced. -/
def Hushed (events : List Event) : Prop :=
  ∀ before after, events = before ++ .onStateChange .eof :: after → readsOf after = []

namespace Hushed

variable {log events : List Event}

theorem of_no_eof (h : ∀ e ∈ events, e.isEof = false) : Hushed events := by
  rintro before after rfl
  exact nomatch h (.onStateChange .eof) (by simp)

/-- Nothing is passed on by the new events. -/
theorem append (h : Hushed log) (hReads : readsOf events = []) : Hushed (log ++ events) := by
  intro before after hSplit
  rcases split_append hSplit with ⟨mid, -, hEvents⟩ | ⟨rest, hLog, rfl⟩
  · rw [hEvents, readsOf_append, List.append_eq_nil_iff] at hReads
    exact hReads.2
  · rw [readsOf_append, h before rest hLog, hReads]
    rfl

/-- The end of the stream has not been announced before the new events. -/
theorem start (h : Hushed events) (hNone : ∀ e ∈ log, e.isEof = false) : Hushed (log ++ events) := by
  intro before after hSplit
  rcases split_append hSplit with ⟨mid, -, hEvents⟩ | ⟨rest, hLog, -⟩
  · exact h mid after hEvents
  · exact nomatch hNone (.onStateChange .eof) (by simp [hLog])

end Hushed

theorem readsOf_of_mute {events : List Event} (h : ∀ e ∈ events, e.isMute = true) :
    readsOf events = [] :=
  List.filterMap_eq_nil_iff.2 fun e he => by
    simpa using (Bool.and_eq_true_iff.1 (h e he)).2

theorem isEof_of_mute {events : List Event} (h : ∀ e ∈ events, e.isMute = true) :
    ∀ e ∈ events, e.isEof = false := fun e he => by
  simpa using (Bool.and_eq_true_iff.1 (h e he)).1

/-- The story has grown by mute events. -/
def Mutes (s s' : Conn) : Prop :=
  ∃ events, s'.trace.story = s.trace.story ++ events ∧ ∀ e ∈ events, e.isMute = true

namespace Mutes

variable {s t u : Conn}

theorem of_story (h : t.trace.story = s.trace.story) : Mutes s t :=
  ⟨[], h.trans (List.append_nil _).symm, nofun⟩

theorem one {e : Event} (h : t.trace.story = s.trace.story ++ [e]) (hMute : e.isMute = true) :
    Mutes s t := by
  refine ⟨[e], h, fun e' he' => ?_⟩
  rw [List.mem_singleton.1 he']
  exact hMute

theorem two (e e' : Event) (h : t.trace.story = s.trace.story ++ [e, e']) (hMute : e.isMute = true)
    (hMute' : e'.isMute = true) : Mutes s t := by
  refine ⟨[e, e'], h, fun e'' he'' => ?_⟩
  rcases List.mem_cons.1 he'' with rfl | hLast
  · exact hMute
  · rw [List.mem_singleton.1 hLast]
    exact hMute'

theorem trans (hFirst : Mutes s t) (hSecond : Mutes t u) : Mutes s u := by
  obtain ⟨first, hStory, hMute⟩ := hFirst
  obtain ⟨second, hStory', hMute'⟩ := hSecond
  refine ⟨first ++ second, by rw [hStory', hStory, List.append_assoc], fun e he => ?_⟩
  rcases List.mem_append.1 he with hOld | hNew
  · exact hMute e hOld
  · exact hMute' e hNew

end Mutes

variable {env : Env} {cause : Cause} {s s' : Conn}

/-- A move of the state tells nothing of the end of the stream. -/
theorem MoveStory.mutes (h : MoveStory s s') : Mutes s s' := by
  cases h with
  | none hTrace hState => exact .of_story (congrArg Trace.story hTrace)
  | closing hTrace hState hClose => exact .one (congrArg Trace.story hTrace) rfl
  | full hTrace hBefore hState => exact .one (congrArg Trace.story hTrace) rfl
  | closed hTrace hBefore hState => exact .one (congrArg Trace.story hTrace) rfl
  | failed dst code hTrace hDst hState =>
      refine .two (.moved s.state dst s.rcv.ackNr) (.onError code) ?_ rfl rfl
      simp [hTrace, Trace.tell]
  | up e hTrace hBefore hState hEvent =>
      refine .two (.moved s.state .connected s.rcv.ackNr) e ?_ rfl ?_
      · simp [hTrace, Trace.tell]
      · rcases hEvent with rfl | rfl | rfl <;> rfl

/-- What is sent tells nothing of what was received. -/
theorem Sending.mutes (h : Sending env cause s s') : Mutes s s' := by
  cases h with
  | quiet hQuiet => exact .of_story hQuiet.story
  | queueing hQueue =>
      rcases hQueue.story with hSame | ⟨e, hEvent, hStory⟩
      · exact .of_story hSame
      · refine .one hStory ?_
        cases e <;> first | rfl | exact nomatch hEvent
  | moving hMove => exact hMove.story.mutes

/-- By induction on the path. -/
theorem SendPath.mutes (h : SendPath env cause s s') : Mutes s s' := by
  induction h with
  | refl => exact .of_story rfl
  | tail _ hStep ih => exact ih.trans hStep.mutes

/-- A connection that is set up has received nothing yet. -/
theorem Setup.mutes (h : Setup env cause s s') : Mutes s s' := by
  cases h with
  | initialise addr connSeed connIdRecv connIdSend hState =>
      exact .one (Conn.story_initializeSocket env addr connSeed connIdRecv connIdSend s) rfl
  | dial hState hCount hPointer =>
      refine .two (.moved s.state .synSent s.rcv.ackNr)
        (.queued (s.startConnect env).snd.seqNr stSyn []) ?_ rfl rfl
      unfold Conn.queueSyn
      rw [Conn.trace_enqueue, Conn.trace_startConnect]
      simp [Trace.tell, Conn.synPacket]
  | accept d hCause hState hCount =>
      exact .one (congrArg Trace.story (Conn.trace_setState .synRecv _)) rfl

/-- A packet that is early is stored, and the program is not told. -/
theorem Conn.mutes_receiveOutOfOrder (seqNr offset : Nat) (body : List UInt8) (s : Conn) :
    Mutes s (s.receiveOutOfOrder seqNr offset body) := by
  rcases Conn.trace_receiveOutOfOrder seqNr offset body s with hSame | hTold
  · exact .of_story (congrArg Trace.story hSame)
  · exact .one (congrArg Trace.story hTold) rfl

/-- Storing a packet does not touch what is known of the end. -/
theorem Conn.ending_receiveOutOfOrder (seqNr offset : Nat) (body : List UInt8) (s : Conn) :
    (s.receiveOutOfOrder seqNr offset body).rcv.gotFin = s.rcv.gotFin ∧
      (s.receiveOutOfOrder seqNr offset body).rcv.gotFinReached = s.rcv.gotFinReached ∧
      (s.receiveOutOfOrder seqNr offset body).rcv.eofPkt = s.rcv.eofPkt := by
  have hCheck : ∀ (t : Conn) line ok, (t.check line ok).rcv = t.rcv := by
    intro t line ok
    cases ok <;> rfl
  have hStored : ∀ t : Conn, (t.storeReordered seqNr body).rcv.gotFin = t.rcv.gotFin ∧
      (t.storeReordered seqNr body).rcv.gotFinReached = t.rcv.gotFinReached ∧
      (t.storeReordered seqNr body).rcv.eofPkt = t.rcv.eofPkt := by
    intro t
    have hRcv : ∀ ok ok', ((t.check 2498 ok).check 2499 ok').rcv = t.rcv := fun ok ok' =>
      (hCheck _ 2499 ok').trans (hCheck t 2498 ok)
    have hInserted : ∀ u : Conn, u.rcv = t.rcv →
        (u.insertReordered ⟨seqNr, body⟩).rcv.gotFin = t.rcv.gotFin ∧
          (u.insertReordered ⟨seqNr, body⟩).rcv.gotFinReached = t.rcv.gotFinReached ∧
          (u.insertReordered ⟨seqNr, body⟩).rcv.eofPkt = t.rcv.eofPkt := by
      intro u hSame
      rw [← hSame]
      exact ⟨rfl, rfl, rfl⟩
    exact hInserted _ (hRcv _ _)
  unfold Conn.receiveOutOfOrder
  dsimp only
  split_ifs
  · exact ⟨rfl, rfl, rfl⟩
  · exact ⟨rfl, rfl, rfl⟩
  · exact ⟨rfl, rfl, rfl⟩
  · exact hStored _

/-- The FIN is noted when it arrives, and reported when its place has come. -/
theorem Conn.mutes_noteFin (header : PacketFormatV1) (s : Conn) : Mutes s (s.noteFin header) := by
  unfold Conn.noteFin
  split_ifs <;> exact .of_story rfl

/-- What was delivered before the end of the stream was announced, if `CS_CONNECTED` was
entered with the `ack_nr` `start`: the packets up to `eofPkt`, in order. -/
structure DeliveredTo (eofPkt : Nat) (readShutdown : Bool) (start : Nat) (before : List Event) : Prop where
  entry : entryOf before = some start
  numbered : ∀ (i seqNr : Nat) (body : List UInt8), (consumedOf before)[i]? = some (seqNr, body) →
    seqNr = u16 (start + 1 + i)
  last : eofPkt = u16 (start + (consumedOf before).length)
  passedOn : readShutdown = false → readsOf before = payloadsOf before
  passedOnBefore : readsOf before <+: payloadsOf before

/-- If reading is shut down, fewer things are claimed. -/
theorem DeliveredTo.shut {eofPkt start : Nat} {shut shut' : Bool} {before : List Event}
    (h : DeliveredTo eofPkt shut start before) (hShut : shut' = false → shut = false) :
    DeliveredTo eofPkt shut' start before :=
  ⟨h.entry, h.numbered, h.last, fun hOpen => h.passedOn (hShut hOpen), h.passedOnBefore⟩

/-- The end of the stream in the story of a socket. -/
structure Concluded (s : Conn) : Prop where
  heard : s.rcv.gotFin = true → entryOf s.trace.story ≠ none
  pending : s.rcv.gotFinReached = false → ∀ e ∈ s.trace.story, e.isEof = false
  reached : s.rcv.gotFinReached = true → s.rcv.gotFin = true ∧ ∃ before after start,
    s.trace.story = before ++ .onStateChange .eof :: after ∧ (∀ e ∈ before, e.isEof = false) ∧
      (∀ e ∈ after, e.isEof = false) ∧ DeliveredTo s.rcv.eofPkt s.rcv.readShutdown start before

/-- A connection that was entered stays entered. -/
theorem entryOf_grows {log events : List Event} (h : entryOf log ≠ none) :
    entryOf (log ++ events) ≠ none := by
  obtain ⟨start, hStart⟩ := Option.ne_none_iff_exists'.1 h
  rw [entryOf_append, hStart]
  exact nofun

/-- Steps that do not reach the end of the stream. -/
theorem Concluded.goOn (h : Concluded s) (events : List Event)
    (hStory : s'.trace.story = s.trace.story ++ events) (hNone : ∀ e ∈ events, e.isEof = false)
    (hFin : s'.rcv.gotFin = s.rcv.gotFin) (hReached : s'.rcv.gotFinReached = s.rcv.gotFinReached)
    (hEof : s'.rcv.eofPkt = s.rcv.eofPkt)
    (hShut : s'.rcv.readShutdown = false → s.rcv.readShutdown = false) : Concluded s' := by
  refine ⟨fun hGot => ?_, fun hOpen e he => ?_, fun hDone => ?_⟩
  · rw [hStory]
    exact entryOf_grows (h.heard (hFin ▸ hGot))
  · rw [hStory] at he
    rcases List.mem_append.1 he with hOld | hNew
    · exact h.pending (hReached ▸ hOpen) e hOld
    · exact hNone e hNew
  · obtain ⟨hGot, before, after, start, hSplit, hBefore, hAfter, hDelivered⟩ := h.reached (hReached ▸ hDone)
    refine ⟨hFin ▸ hGot, before, after ++ events, start, ?_, hBefore, fun e he => ?_, ?_⟩
    · rw [hStory, hSplit, List.append_assoc, List.cons_append]
    · rcases List.mem_append.1 he with hOld | hNew
      · exact hAfter e hOld
      · exact hNone e hNew
    · rw [hEof]
      exact hDelivered.shut hShut

/-- A function that tells nothing and keeps what was received keeps what is concluded. -/
theorem Concluded.mutes (h : Concluded s) (hMutes : Mutes s s') (hRecv : s'.recvView = s.recvView)
    (hShut : s'.rcv.readShutdown = false → s.rcv.readShutdown = false) : Concluded s' := by
  obtain ⟨events, hStory, hMute⟩ := hMutes
  exact h.goOn _ hStory (isEof_of_mute hMute) (congrArg RecvView.gotFin hRecv)
    (congrArg RecvView.gotFinReached hRecv) (congrArg RecvView.eofPkt hRecv) hShut

/-- Reading is never opened again. -/
theorem Sending.readShutdown (h : Sending env cause s s') (hShut : s'.rcv.readShutdown = false) :
    s.rcv.readShutdown = false := by
  cases h with
  | quiet hQuiet => exact hQuiet.readShutdown hShut
  | queueing hQueue =>
      exact (congrArg (fun b : Backdrop => b.rcv.readShutdown) hQueue.backdrop).symm.trans hShut
  | moving hMove => exact hMove.readShutdown hShut

/-- By induction on the path. -/
theorem SendPath.readShutdown (h : SendPath env cause s s') (hShut : s'.rcv.readShutdown = false) :
    s.rcv.readShutdown = false := by
  induction h with
  | refl => exact hShut
  | tail _ hStep ih => exact ih (hStep.readShutdown hShut)

/-- A delivery is not the end. -/
theorem isEof_deliveryStory (body : List UInt8) (s : Conn) :
    ∀ e ∈ s.deliveryStory body, e.isEof = false := by
  unfold Conn.deliveryStory
  split_ifs <;> simp [Event.isEof]

/-- One packet consumed, or the end of the stream reached. -/
theorem Concluded.drain {r : Received} (h : Concluded s) (hDelivery : Delivery s)
    (hStep : DrainStep env r s s') : Concluded s' := by
  cases hStep with
  | inOrder hOpen hType hOffset hDone =>
      have hView := Conn.view_deliver (r.d.drop r.data)
        (s.emit (.accepted r.d.header.seqNr 0 (r.d.drop r.data)))
      have hShut : ((s.emit (.accepted r.d.header.seqNr 0 (r.d.drop r.data))).deliver
          (r.d.drop r.data)).rcv.readShutdown = s.rcv.readShutdown :=
        congrArg Foreground.readShutdown (Conn.foreground_deliver _ _)
      refine h.goOn (.accepted r.d.header.seqNr 0 (r.d.drop r.data) ::
        s.deliveryStory (r.d.drop r.data)) ?_ ?_ (congrArg View.gotFin hView)
        (congrArg View.gotFinReached hView) (congrArg View.eofPkt hView) hShut.symm.trans
      · rw [Conn.trace_deliver, Conn.trace_major s rfl rfl rfl, Trace.tell]
        exact List.append_assoc ..
      · intro e he
        rcases List.mem_cons.1 he with rfl | hRest
        · rfl
        · exact isEof_deliveryStory _ s e hRest
  | eof =>
      rcases Conn.reachEof_cases env s with hSame | ⟨hOpen, hGot, hEof, hView, -⟩
      · rw [hSame]
        exact h
      rcases Conn.trace_reachEof env s with hSame | ⟨w, hTold⟩
      · rw [hSame]
        exact h
      have hStory : (s.reachEof env).trace.story = s.trace.story ++ [.onStateChange .eof] := by
        rw [hTold]
        rfl
      have hFin : (s.reachEof env).rcv.gotFin = s.rcv.gotFin := congrArg View.gotFin hView
      have hReached : (s.reachEof env).rcv.gotFinReached = true := congrArg View.gotFinReached hView
      have hPkt : (s.reachEof env).rcv.eofPkt = s.rcv.eofPkt := congrArg View.eofPkt hView
      have hShut : (s.reachEof env).rcv.readShutdown = s.rcv.readShutdown :=
        congrArg Foreground.readShutdown (Conn.foreground_reachEof env s)
      rcases hDelivery with ⟨hNone, -⟩ | ⟨start, hEntry, -, hFlow⟩
      · exact absurd hNone (h.heard hGot)
      · refine ⟨fun _ => ?_, fun hNot => absurd (hReached.symm.trans hNot) Bool.false_ne_true.symm, fun _ => ?_⟩
        · rw [hStory]
          exact entryOf_grows (h.heard hGot)
        · obtain ⟨rest, hRest, hAll⟩ := hFlow.reads
          refine ⟨hFin.trans hGot, s.trace.story, [], start, hStory, h.pending hOpen, List.forall_mem_nil _, hEntry,
            hFlow.numbered, ?_, fun hNot => ?_, ⟨rest, hRest.symm⟩⟩
          · rw [hPkt, hEof, hFlow.ackNr]
          · rw [hRest, hAll (hShut.symm.trans hNot), List.append_nil]
  | take p hOpen hCount hGet =>
      have hView := Conn.view_takeReordered p s
      have hShut : (s.takeReordered p).rcv.readShutdown = s.rcv.readShutdown :=
        congrArg Foreground.readShutdown (Conn.foreground_takeReordered p s)
      exact h.goOn _ (congrArg Trace.story (Conn.trace_takeReordered p s)) (isEof_deliveryStory p.body s)
        (congrArg View.gotFin hView) (congrArg View.gotFinReached hView) (congrArg View.eofPkt hView)
        hShut.symm.trans

/-- A FIN is heard at most once, and only when the connection is up. -/
theorem Concluded.noteFin (h : Concluded s) (hDelivery : Delivery s) (hOpen : s.state.open = true)
    (header : PacketFormatV1) : Concluded (s.noteFin header) := by
  have hEntry : entryOf s.trace.story ≠ none := by
    rcases hDelivery with ⟨-, hDown, -⟩ | ⟨start, hStart, -⟩
    · exact nomatch hOpen.symm.trans hDown
    · rw [hStart]
      exact nofun
  unfold Conn.noteFin
  split_ifs with hFirst
  · have hGot : s.rcv.gotFin = false := by simpa using (Bool.and_eq_true_iff.1 hFirst).2
    refine ⟨fun _ => hEntry, h.pending, fun hReached => ?_⟩
    exact nomatch (h.reached hReached).1.symm.trans hGot
  · exact h

/-- By induction on the turns of the drain loop. -/
theorem Concluded.drain_run {r : Received} (h : Concluded s) (hDelivery : Delivery s) (hCore : Core s)
    (hRun : Relation.ReflTransGen (DrainStep env r) s s') : Concluded s' := by
  have hBoth : Concluded s' ∧ Delivery s' := by
    induction hRun with
    | refl => exact ⟨h, hDelivery⟩
    | @tail t u hPrior hStep ih =>
        refine ⟨ih.1.drain ih.2 hStep, ?_⟩
        rcases ih.2 with hClosed | ⟨start, hEntry, hRank, hFlow⟩
        · exact Or.inl (Closed.drain hClosed hStep)
        · have hSame : u.state = t.state := congrArg Foreground.state hStep.foreground
          exact Flow.goOn hEntry hStep.story (hSame ▸ hRank)
            (hFlow.drain hStep (DrainStep.loose_run hPrior hCore.view.toLooseOk).1)
  exact hBoth.1

/-- Only the receiving side can come to the end; the other transitions tell nothing of it. -/
theorem Concluded.trans (h : Concluded s) (hDelivery : Delivery s) (hCore : Core s) (hLive : s.Live)
    (hTrans : Trans env cause s s') : Concluded s' := by
  have hAck : s.rcv.ackNr < 65536 := hCore.view.bounds.ackNr_lt
  cases hTrans with
  | setup hSetup =>
      obtain ⟨events, hStory, hMute⟩ := hSetup.mutes
      cases hSetup with
      | initialise addr connSeed connIdRecv connIdSend hState => exact absurd hState hLive
      | dial hState hCount hPointer => exact h.goOn _ hStory (isEof_of_mute hMute) rfl rfl rfl id
      | accept d hCause hState hCount => exact h.goOn _ hStory (isEof_of_mute hMute) rfl rfl rfl id
  | sending hSend => exact h.mutes hSend.mutes (hSend.recvView hAck) hSend.readShutdown
  | receiving hReceive =>
      cases hReceive with
      | synAcked r hCause hState =>
          exact h.goOn [] (List.append_nil _).symm nofun rfl rfl rfl id
      | fin r hCause hOpen => exact h.noteFin hDelivery hOpen r.d.header
      | drained _ r hCause hRun hDone => exact h.drain_run hDelivery hCore hRun
      | outOfOrder r hCause hOpen hType hOffset =>
          obtain ⟨events, hStory, hMute⟩ := Conn.mutes_receiveOutOfOrder r.d.header.seqNr
            (s.seqOffset r.d.header) (r.d.drop r.data) s
          have hShut := congrArg Foreground.readShutdown (Conn.foreground_receiveOutOfOrder r.d.header.seqNr
            (s.seqOffset r.d.header) (r.d.drop r.data) s)
          obtain ⟨hFin, hReached, hEof⟩ := Conn.ending_receiveOutOfOrder r.d.header.seqNr
            (s.seqOffset r.d.header) (r.d.drop r.data) s
          exact h.goOn _ hStory (isEof_of_mute hMute) hFin hReached hEof hShut.symm.trans

/-- A new socket has received nothing. -/
theorem Concluded.initialised (hPristine : s.toSocket.Pristine) (hLog : s.log = [])
    (addr : PackedSockAddr) (connSeed connIdRecv connIdSend : Nat) :
    Concluded (s.initializeSocket env addr connSeed connIdRecv connIdSend) := by
  have hView := Conn.view_initializeSocket env addr connSeed connIdRecv connIdSend s
  have hGot : (s.initializeSocket env addr connSeed connIdRecv connIdSend).rcv.gotFin = false := by
    refine (congrArg View.gotFin hView).trans ?_
    obtain ⟨targetDelay, optSndbuf, optRcvbuf, ssthresh, hEq⟩ := hPristine
    change s.toSocket.rcv.gotFin = false
    rw [hEq]
    rfl
  have hReached : (s.initializeSocket env addr connSeed connIdRecv connIdSend).rcv.gotFinReached =
      false := by
    refine (congrArg View.gotFinReached hView).trans ?_
    obtain ⟨targetDelay, optSndbuf, optRcvbuf, ssthresh, hEq⟩ := hPristine
    change s.toSocket.rcv.gotFinReached = false
    rw [hEq]
    rfl
  have hStory : (s.initializeSocket env addr connSeed connIdRecv connIdSend).trace.story =
      [.moved s.state .idle s.rcv.ackNr] := by
    rw [Conn.story_initializeSocket]
    simp [Conn.trace, hLog, traceOf]
  refine ⟨fun hNot => absurd (hGot.symm.trans hNot) Bool.false_ne_true, fun _ => ?_,
    fun hNot => absurd (hReached.symm.trans hNot) Bool.false_ne_true⟩
  rw [hStory]
  simp [Event.isEof]

/-- The end of the stream is announced once, and in order. -/
theorem preserved_concluded (env : Env) : Preserved env fun s => Delivery s ∧ Concluded s := by
  refine .of_trans ?_ ?_ ?_
  · intro s addr connSeed connIdRecv connIdSend hPristine hLog
    exact ⟨(preserved_delivery env).initialised s addr connSeed connIdRecv connIdSend hPristine hLog,
      Concluded.initialised hPristine hLog addr connSeed connIdRecv connIdSend⟩
  · intro cause s s' hCore hLive hInv hTrans
    refine ⟨?_, hInv.2.trans hInv.1 hCore hLive hTrans⟩
    rcases hInv.1 with hClosed | ⟨start, hEntry, hRank, hFlow⟩
    · exact Closed.trans hClosed hCore hLive hTrans
    · exact hFlow.trans hEntry hRank hCore hTrans
  · intro s currentMs tick hInv
    exact ⟨(preserved_delivery env).clock s currentMs tick hInv.1,
      hInv.2.goOn [] (List.append_nil _).symm nofun rfl rfl rfl id⟩

namespace Conn

variable (env : Env)

/-- The story grows by events that pass no data on after the end of the stream. -/
def Hushes (s s' : Conn) : Prop :=
  ∃ events, s'.trace.story = s.trace.story ++ events ∧ Hushed events

/-- The story grows by events that pass no data on. -/
def Silences (s s' : Conn) : Prop :=
  ∃ events, s'.trace.story = s.trace.story ++ events ∧ readsOf events = []

/-- Two silent functions in a row are silent. -/
theorem Silences.trans {s t u : Conn} (hFirst : Silences s t) (hSecond : Silences t u) : Silences s u := by
  obtain ⟨first, hStory, hReads⟩ := hFirst
  obtain ⟨second, hStory', hReads'⟩ := hSecond
  refine ⟨first ++ second, by rw [hStory', hStory, List.append_assoc], ?_⟩
  rw [readsOf_append, hReads, hReads']
  rfl

/-- What tells nothing gives the program no bytes. -/
theorem silences_of_mutes {s t : Conn} (h : Mutes s t) : Silences s t := by
  obtain ⟨events, hStory, hMute⟩ := h
  exact ⟨events, hStory, readsOf_of_mute hMute⟩

/-- Events before that are not the end do not matter. -/
theorem Hushes.after {s t u : Conn} (h : Hushes t u) {events : List Event}
    (hStory : t.trace.story = s.trace.story ++ events) (hNone : ∀ e ∈ events, e.isEof = false) :
    Hushes s u := by
  obtain ⟨later, hLater, hHushed⟩ := h
  exact ⟨events ++ later, by rw [hLater, hStory, List.append_assoc], hHushed.start hNone⟩

/-- What tells nothing does not report the end. -/
theorem hushes_of_mutes {s t : Conn} (h : Mutes s t) : Hushes s t := by
  obtain ⟨events, hStory, hMute⟩ := h
  exact ⟨events, hStory, .of_no_eof (isEof_of_mute hMute)⟩

/-- The delivery loop stops at the end of the stream. -/
theorem hushes_drainReordered (fuel : Nat) {s : Conn} (hFin : s.rcv.gotFinReached = false) :
    Hushes s (s.drainReordered env fuel) := by
  induction fuel generalizing s with
  | zero => exact hushes_of_mutes (.of_story rfl)
  | succ fuel ih =>
      unfold drainReordered
      dsimp only
      rcases reachEof_cases env s with hSame | ⟨-, -, -, hView, -⟩
      · rw [hSame]
        split_ifs
        · exact hushes_of_mutes (.of_story rfl)
        · split
          · exact hushes_of_mutes (.of_story rfl)
          · rename_i p hGet
            have hStill : (s.takeReordered p).rcv.gotFinReached = false :=
              (congrArg View.gotFinReached (view_takeReordered p s)).trans hFin
            exact (ih hStill).after (congrArg Trace.story (trace_takeReordered p s))
              (isEof_deliveryStory p.body s)
      · have hZero : (s.reachEof env).rcv.reorderCount = 0 := congrArg View.reorderCount hView
        rw [if_pos hZero]
        rcases trace_reachEof env s with hSame | ⟨w, hTold⟩
        · rw [hSame]
          exact hushes_of_mutes (.of_story rfl)
        · refine ⟨[.onStateChange .eof], congrArg Trace.story hTold, ?_⟩
          intro before after hSplit
          rcases before with _ | ⟨e, before⟩
          · obtain ⟨-, rfl⟩ := List.cons.inj hSplit
            rfl
          · exact nomatch (List.append_eq_nil_iff.1 (List.cons.inj hSplit).2.symm).2

/-- A delivery passes no bytes on if there are none, or if reading is shut down. -/
theorem readsOf_deliveryStory {body : List UInt8} {s : Conn}
    (h : s.rcv.readShutdown = true ∨ body = []) : readsOf (s.deliveryStory body) = [] := by
  unfold deliveryStory
  rw [if_neg]
  · rfl
  · rcases h with hShut | rfl
    · simp [hShut]
    · simp

/-- The end itself passes no bytes on. -/
theorem silences_reachEof (s : Conn) : Silences s (s.reachEof env) := by
  rcases trace_reachEof env s with hSame | ⟨w, hTold⟩
  · rw [hSame]
    exact silences_of_mutes (.of_story rfl)
  · exact ⟨[.onStateChange .eof], congrArg Trace.story hTold, rfl⟩

/-- Nothing is passed on once reading has been shut down. -/
theorem silences_drainReordered (fuel : Nat) {s : Conn} (hShut : s.rcv.readShutdown = true) :
    Silences s (s.drainReordered env fuel) := by
  induction fuel generalizing s with
  | zero => exact silences_of_mutes (.of_story rfl)
  | succ fuel ih =>
      have hEof := silences_reachEof env s
      have hStill : (s.reachEof env).rcv.readShutdown = true :=
        (congrArg Foreground.readShutdown (foreground_reachEof env s)).trans hShut
      unfold drainReordered
      dsimp only
      split_ifs
      · exact hEof
      · split
        · exact hEof
        · rename_i p hGet
          have hTake : Silences (s.reachEof env) ((s.reachEof env).takeReordered p) :=
            ⟨_, congrArg Trace.story (trace_takeReordered p _), readsOf_deliveryStory (Or.inl hStill)⟩
          exact hEof.trans (hTake.trans (ih ((congrArg Foreground.readShutdown
            (foreground_takeReordered p _)).trans hStill)))

/-- After the end of the stream the delivery loop does nothing if no packet waits behind
the expected one. -/
theorem drainReordered_of_reached (fuel : Nat) {s : Conn} (hFin : s.rcv.gotFinReached = true)
    (hNone : s.rcv.reorderCount = 0 ∨ s.rcv.inbuf.get (s.rcv.ackNr + 1) = none) :
    s.drainReordered env fuel = s := by
  have hSame : s.reachEof env = s := by
    rcases reachEof_cases env s with hSame | ⟨hOpen, -⟩
    · exact hSame
    · exact nomatch hFin.symm.trans hOpen
  cases fuel with
  | zero => rfl
  | succ fuel =>
      unfold drainReordered
      rw [hSame]
      dsimp only
      split_ifs with hCount
      · rfl
      · rw [hNone.resolve_left hCount]

/-- A packet in order, which is accepted and delivered before the loop runs. -/
theorem story_receiveInOrder (seqNr : Nat) (body : List UInt8) (s : Conn) :
    ∃ t : Conn, t.trace.story = s.trace.story ++ .accepted seqNr 0 body :: s.deliveryStory body ∧
      t.recvView = { s.recvView with ackNr := u16 (s.rcv.ackNr + 1) } ∧
      t.rcv.readShutdown = s.rcv.readShutdown ∧
      (s.receiveInOrder env seqNr body).trace.story =
        (t.drainReordered env (t.rcv.reorderCount + 1)).trace.story := by
  have hView := view_deliver body (s.emit (.accepted seqNr 0 body))
  refine ⟨(s.emit (.accepted seqNr 0 body)).deliver body, ?_, ?_, ?_, ?_⟩
  · rw [trace_deliver, trace_major s rfl rfl rfl, Trace.tell]
    exact List.append_assoc ..
  · exact congrArg (fun v : View => (⟨v.ackNr, v.inbuf, v.reorderCount, v.gotFin, v.gotFinReached,
      v.eofPkt⟩ : RecvView)) hView
  · exact congrArg Foreground.readShutdown (foreground_deliver body _)
  · exact congrArg Trace.story (trace_minor _ rfl rfl rfl)

/-- A packet that is received in order is not the end. -/
theorem isEof_accepted (seqNr : Nat) (body : List UInt8) (s : Conn) :
    ∀ e ∈ Event.accepted seqNr 0 body :: s.deliveryStory body, e.isEof = false := by
  intro e he
  rcases List.mem_cons.1 he with rfl | hRest
  · rfl
  · exact isEof_deliveryStory body s e hRest

/-- Before the end was reported a packet may report it, and then passes nothing on. -/
theorem hushes_receiveInOrder (seqNr : Nat) (body : List UInt8) {s : Conn}
    (hFin : s.rcv.gotFinReached = false) : Hushes s (s.receiveInOrder env seqNr body) := by
  obtain ⟨t, hStory, hRecv, -, hDone⟩ := story_receiveInOrder env seqNr body s
  obtain ⟨events, hEvents, hHushed⟩ := hushes_drainReordered env (t.rcv.reorderCount + 1)
    ((congrArg RecvView.gotFinReached hRecv).trans hFin)
  exact Hushes.after ⟨events, hDone.trans hEvents, hHushed⟩ hStory (isEof_accepted seqNr body s)

/-- After the end was reported a packet passes nothing on, if reading is shut down, or if it is empty and
nothing waits behind it. -/
theorem silences_receiveInOrder (seqNr : Nat) {body : List UInt8} {s : Conn}
    (hBounds : ReorderBounds s.rcv.ackNr s.rcv.inbuf) (hFin : s.rcv.gotFinReached = true)
    (hMute : s.rcv.readShutdown = true ∨ body = [] ∧
      (s.rcv.reorderCount = 0 ∨ s.rcv.inbuf.get (s.rcv.ackNr + 2) = none)) :
    Silences s (s.receiveInOrder env seqNr body) := by
  obtain ⟨t, hStory, hRecv, hShut, hDone⟩ := story_receiveInOrder env seqNr body s
  have hFirst : Silences s t := by
    refine ⟨_, hStory, ?_⟩
    refine (readsOf_append [.accepted seqNr 0 body] (s.deliveryStory body)).trans ?_
    rw [readsOf_deliveryStory (hMute.imp_right And.left)]
    rfl
  obtain ⟨events, hEvents, hReads⟩ : Silences t (t.drainReordered env (t.rcv.reorderCount + 1)) := by
    rcases hMute with hClosed | ⟨-, hNone⟩
    · exact silences_drainReordered env _ (hShut.trans hClosed)
    · have hCount : t.rcv.reorderCount = s.rcv.reorderCount := congrArg RecvView.reorderCount hRecv
      have hBuf : t.rcv.inbuf = s.rcv.inbuf := congrArg RecvView.inbuf hRecv
      have hAck : t.rcv.ackNr = u16 (s.rcv.ackNr + 1) := congrArg RecvView.ackNr hRecv
      have hNext : t.rcv.inbuf.get (t.rcv.ackNr + 1) = s.rcv.inbuf.get (s.rcv.ackNr + 2) := by
        rw [hBuf, hAck]
        refine s.rcv.inbuf.get_congr (hBounds.dvd_of_seq ?_)
        have hEmod := u16_emod (s.rcv.ackNr + 1)
        omega
      rw [drainReordered_of_reached env _ ((congrArg RecvView.gotFinReached hRecv).trans hFin)
        (by rw [hCount, hNext]; exact hNone)]
      exact silences_of_mutes (.of_story rfl)
  exact hFirst.trans ⟨events, hDone.trans hEvents, hReads⟩

/-- The data part of a packet before the end of the stream has been reached. -/
theorem hushes_receiveData (d : Datagram) (header : PacketFormatV1) (data offset : Nat) {s : Conn}
    (hFin : s.rcv.gotFinReached = false) : Hushes s (s.receiveData env d header data offset) := by
  have hNoted : Mutes s ((s.noteFin header).emit (.readBytes data (d.len - data))) :=
    (mutes_noteFin header s).trans (.of_story (congrArg Trace.story (trace_minor _ rfl rfl rfl)))
  have hStill : ((s.noteFin header).emit (.readBytes data (d.len - data))).rcv.gotFinReached = false := by
    change (s.noteFin header).rcv.gotFinReached = false
    unfold noteFin
    split_ifs <;> exact hFin
  obtain ⟨events, hStory, hMute⟩ := hNoted
  unfold receiveData
  dsimp only
  split_ifs
  · exact hushes_of_mutes (.of_story rfl)
  · exact hushes_of_mutes (.of_story rfl)
  · exact (hushes_receiveInOrder env header.seqNr (d.drop data) hStill).after hStory (isEof_of_mute hMute)
  · exact (hushes_of_mutes (mutes_receiveOutOfOrder _ _ _ _)).after hStory (isEof_of_mute hMute)

/-- The data part of a packet after the end of the stream has been reached. -/
theorem silences_receiveData {d : Datagram} {header : PacketFormatV1} {data offset : Nat} {s : Conn}
    (hBounds : ReorderBounds s.rcv.ackNr s.rcv.inbuf) (hFin : s.rcv.gotFinReached = true)
    (hGot : s.rcv.gotFin = true)
    (hMute : s.state.open = true → header.type ≠ stState → offset = 0 →
      s.rcv.readShutdown = true ∨ d.drop data = [] ∧
        (s.rcv.reorderCount = 0 ∨ s.rcv.inbuf.get (s.rcv.ackNr + 2) = none)) :
    Silences s (s.receiveData env d header data offset) := by
  have hNoted : s.noteFin header = s := by
    unfold noteFin
    rw [if_neg (by simp [hGot])]
  have hRead : Silences s (s.emit (.readBytes data (d.len - data))) :=
    silences_of_mutes (.of_story (congrArg Trace.story (trace_minor _ rfl rfl rfl)))
  unfold receiveData
  rw [hNoted]
  by_cases hType : header.type = stState
  · rw [if_pos hType]
    exact silences_of_mutes (.of_story rfl)
  rw [if_neg hType]
  by_cases hState : s.state ≠ .connected ∧ s.state ≠ .connectedFull
  · rw [if_pos hState]
    exact silences_of_mutes (.of_story rfl)
  rw [if_neg hState]
  dsimp only
  split_ifs with hZero
  · exact hRead.trans (silences_receiveInOrder env header.seqNr
      (s := s.emit (.readBytes data (d.len - data))) hBounds hFin (hMute (open_of_not hState) hType hZero))
  · exact hRead.trans (silences_of_mutes (mutes_receiveOutOfOrder _ _ _ _))

/-- What precedes the data part of a packet. -/
structure Leads (s t : Conn) : Prop where
  mutes : Mutes s t
  reached : t.rcv.gotFinReached = s.rcv.gotFinReached
  shut : t.rcv.readShutdown = false → s.rcv.readShutdown = false
  recv : 4 ≤ s.state.rank → t.recvView = s.recvView ∧ (t.state.open = true → s.state.open = true)

end Conn

/-- A connection that is down does not come up again. -/
theorem Sending.stays_down (h : Sending env cause s s') (hAck : s.rcv.ackNr < 65536)
    (hRank : 6 ≤ s.state.rank) : 6 ≤ s'.state.rank := by
  cases h with
  | quiet hQuiet =>
      rw [show s'.state = s.state from congrArg View.state (hQuiet.view hAck)]
      exact hRank
  | queueing hQueue =>
      rw [show s'.state = s.state from congrArg Backdrop.state hQueue.backdrop]
      exact hRank
  | moving hMove =>
      cases hMove.story with
      | none hTrace hState => rwa [hState]
      | closing hTrace hState hClose => rwa [hState]
      | full hTrace hBefore hState =>
          rw [hBefore] at hRank
          exact absurd hRank (by decide)
      | closed hTrace hBefore hState => simp [hState, ConnState.rank]
      | failed dst code hTrace hDst hState => rcases hDst with rfl | rfl <;> simp [hState, ConnState.rank]
      | up e hTrace hBefore hState hEvent =>
          rcases hBefore with hSent | hRecv | hFull
          · rw [hSent] at hRank
            exact absurd hRank (by decide)
          · rw [hRecv] at hRank
            exact absurd hRank (by decide)
          · rw [hFull] at hRank
            exact absurd hRank (by decide)

/-- By induction on the path. -/
theorem SendPath.stays_down (h : SendPath env cause s s') (hAck : s.rcv.ackNr < 65536)
    (hRank : 6 ≤ s.state.rank) : 6 ≤ s'.state.rank := by
  induction h with
  | refl => exact hRank
  | tail hPrior hStep ih =>
      refine hStep.stays_down ?_ ih
      exact lt_of_eq_of_lt (congrArg RecvView.ackNr (SendPath.recvView hPrior hAck)) hAck

/-- A connection that is up after a path of the sending side was up before it, unless it was
still being set up. -/
theorem SendPath.open_before (h : SendPath env cause s s') (hAck : s.rcv.ackNr < 65536)
    (hRank : 4 ≤ s.state.rank) (hOpen : s'.state.open = true) : s.state.open = true := by
  by_contra hDown
  have hLow : 6 ≤ s.state.rank := by
    revert hRank hDown
    cases s.state <;> simp [ConnState.rank, ConnState.open]
  have hEnd := h.stays_down hAck hLow
  revert hEnd hOpen
  cases s'.state <;> simp [ConnState.rank, ConnState.open]

/-- A path of sending transitions leads nowhere else. -/
theorem Conn.Leads.of_send {s t : Conn} (h : SendPath env cause s t) (hAck : s.rcv.ackNr < 65536) :
    Conn.Leads s t :=
  ⟨h.mutes, congrArg RecvView.gotFinReached (h.recvView hAck), h.readShutdown,
    fun hRank => ⟨h.recvView hAck, h.open_before hAck hRank⟩⟩

namespace Conn

/-- The packet that opens an outgoing connection sets `ack_nr` before it is processed. -/
theorem Leads.of_synSent {s t u : Conn} (hMutes : Mutes s t)
    (hReached : t.rcv.gotFinReached = s.rcv.gotFinReached)
    (hShut : t.rcv.readShutdown = false → s.rcv.readShutdown = false) (hState : s.state = .synSent)
    (hAck : t.rcv.ackNr < 65536) (h : SendPath env cause t u) : Leads s u := by
  refine ⟨hMutes.trans h.mutes, ?_, fun hOpen => hShut (h.readShutdown hOpen),
    fun hRank => ?_⟩
  · exact (congrArg RecvView.gotFinReached (h.recvView hAck)).trans hReached
  · rw [hState] at hRank
    exact absurd hRank (by decide)

/-- The acknowledgments of a packet come before its data, and are a path of sending transitions. -/
theorem path_toData (time : Nat) {r : Received} {s : Conn} (h : Core s)
    (hMask : ∀ mask, r.selack = some mask → mask.extLen < 256)
    (hBehind : u16 (s.snd.seqNr - (r.d.header.ackNr + 1)) ≤ s.snd.curWindowPackets + 3) :
    ∃ t, SendPath env (.packet r) s t ∧
      s.processAccepted env r.d r.d.header r.data (s.seqOffset r.d.header) r.selack time =
        t.receiveData env r.d r.d.header r.data (t.seqOffset r.d.header) := by
  have hAcks := (spec_receiveAcks env (.packet r) time h rfl hMask hBehind).path
  have hFront : (s.receiveAcks env r.d r.d.header r.selack time).frontQueued = true :=
    frontQueued_of_core (h.sendPath hAcks)
  have hWritable : SendPath env (.packet r) s _ := hAcks.trans (path_makeWritable env (.packet r) _)
  have hAck : (s.receiveAcks env r.d r.d.header r.selack time).makeWritable.rcv.ackNr = s.rcv.ackNr :=
    congrArg RecvView.ackNr (hWritable.recvView h.view.bounds.ackNr_lt)
  have hOffset : (s.receiveAcks env r.d r.d.header r.selack time).makeWritable.seqOffset r.d.header =
      s.seqOffset r.d.header := by
    unfold seqOffset
    rw [hAck]
  refine ⟨_, hWritable, ?_⟩
  unfold processAccepted
  dsimp only
  rw [check_true _ _ hFront, hOffset]

/-- A packet does not get to the data part, or it gets there with nothing passed on. -/
theorem leads_utpProcessIncoming (env : Env) {d : Datagram} {s : Conn} (h : Core s)
    (hType : d.header.type ≠ stSyn) :
    Leads s (s.utpProcessIncoming env d false) ∨
      s.accepts d = true ∧ ∃ r t, ParsedAs d r ∧ Core t ∧ Leads s t ∧
        s.utpProcessIncoming env d false =
          t.receiveData env d d.header r.data (t.seqOffset d.header) := by
  have hAck : s.rcv.ackNr < 65536 := h.view.bounds.ackNr_lt
  rcases parsed_utpProcessIncoming env d hAck with ⟨-, hQuiet⟩ |
    ⟨hAccept, r, u, time, hParsed, hQuiet, hEq⟩
  · exact Or.inl (.of_send hQuiet.path hAck)
  have hPath := (hQuiet (.packet r)).path
  have hCore := h.sendPath hPath
  have hView := (hQuiet .call).view hAck
  have hMask := extLen_of_parsedAs hParsed
  obtain ⟨rfl, -⟩ := id hParsed
  have hBehind : u16 (u.snd.seqNr - (r.d.header.ackNr + 1)) ≤ u.snd.curWindowPackets + 3 := by
    have hNow : u.accepts r.d = true := (accepts_congr r.d hView).trans hAccept
    exact behind_of_accepts hType hCore.view.queue.count_le_limit hNow
  obtain ⟨w, hStart, hCoreStart, hBehindStart, hLeads⟩ : ∃ w : Conn,
      (if u.state = .synSent then u.setAckNr (u16 (r.d.header.seqNr - 1)) else u) = w ∧ Core w ∧
        u16 (w.snd.seqNr - (r.d.header.ackNr + 1)) ≤ w.snd.curWindowPackets + 3 ∧
        ∀ v, SendPath env (.packet r) w v → Leads s v := by
    by_cases hSent : u.state = .synSent
    · have hSet : Path env (.packet r) u (u.setAckNr (u16 (r.d.header.seqNr - 1))) :=
        .single (.receiving (.synAcked u r rfl hSent))
      have hCoreSet := hCore.path hSet
      have hMutes : Mutes s (u.setAckNr (u16 (r.d.header.seqNr - 1))) := hPath.mutes
      refine ⟨_, if_pos hSent, hCoreSet, hBehind, fun v hv => ?_⟩
      exact .of_synSent hMutes (congrArg View.gotFinReached hView) hPath.readShutdown
        ((congrArg View.state hView).symm.trans hSent) hCoreSet.view.bounds.ackNr_lt hv
    · exact ⟨_, if_neg hSent, hCore, hBehind, fun v hv => .of_send (hPath.trans hv) hAck⟩
  rw [hEq]
  unfold processBody
  dsimp only
  rw [if_neg (by decide), hStart]
  have hHeard : SendPath env (.packet r) w { w with lastGotPacket := w.currentMs } :=
    .single (.quiet (.heard w))
  have hBehindHeard : u16 (({ w with lastGotPacket := w.currentMs } : Conn).snd.seqNr -
      (r.d.header.ackNr + 1)) ≤ ({ w with lastGotPacket := w.currentMs } : Conn).snd.curWindowPackets + 3 :=
    hBehindStart
  have hCoreHeard := hCoreStart.sendPath hHeard
  generalize ({ w with lastGotPacket := w.currentMs } : Conn) = x at hHeard hBehindHeard hCoreHeard ⊢
  split_ifs with hFar hLate
  · have hOther : r.d.header.type ≠ stState := by
      simp only [Bool.and_eq_true, decide_eq_true_eq] at hLate
      exact hLate.2
    exact Or.inl (hLeads _ (hHeard.tail (.quiet (.scheduleAck x (Or.inr ⟨r, rfl, hOther⟩)))))
  · exact Or.inl (hLeads _ hHeard)
  · obtain ⟨t, hSend, hData⟩ : ∃ t, SendPath env (.packet r) x t ∧ _ :=
      path_toData time hCoreHeard hMask hBehindHeard
    rw [hData]
    exact Or.inr ⟨hAccept, r, t, hParsed, hCoreHeard.sendPath hSend, hLeads _ (hHeard.trans hSend), rfl⟩

/-- The payload of a packet whose extensions are well formed. -/
def payloadOf (d : Datagram) (s : Conn) : List UInt8 :=
  ((s.skipExtensions d).1.map fun found => d.drop found.1).getD []

/-- A packet that takes the in-order path after the end of the stream has been reached, on a
connection that is still read, and that carries data or has a packet waiting behind it. -/
def readsPastEof (d : Datagram) (s : Conn) : Bool :=
  s.rcv.gotFinReached && !s.rcv.readShutdown && s.state.open && s.accepts d &&
    d.header.type != stState && s.seqOffset d.header == 0 &&
    (!(s.payloadOf d).isEmpty ||
      (s.rcv.reorderCount != 0 && (s.rcv.inbuf.get (s.rcv.ackNr + 2)).isSome))

/-- The payload begins where the extension headers end. -/
theorem payloadOf_parsed {d : Datagram} {r : Received} (h : ParsedAs d r) (s : Conn) :
    s.payloadOf d = d.drop r.data := by
  obtain ⟨-, t, hParse⟩ := h
  unfold payloadOf
  rw [skipExtensions_congr d s t, hParse]
  rfl

/-- A packet that does not read past the end of the stream passes nothing on after it. -/
theorem hushed_utpProcessIncoming (env : Env) {d : Datagram} {s : Conn} (h : Core s)
    (hEnd : Concluded s) (hHushed : Hushed s.trace.story) (hType : d.header.type ≠ stSyn)
    (hPast : s.readsPastEof d = false) : Hushed (s.utpProcessIncoming env d false).trace.story := by
  rcases leads_utpProcessIncoming env h hType with hLeads | ⟨hAccept, r, t, hParsed, hCore, hLeads, hData⟩
  · obtain ⟨events, hStory, hMute⟩ := hLeads.mutes
    rw [hStory]
    exact hHushed.append (readsOf_of_mute hMute)
  obtain ⟨events, hStory, hMute⟩ := hLeads.mutes
  rw [hData]
  cases hFin : s.rcv.gotFinReached with
  | false =>
      obtain ⟨later, hLater, hHushedLater⟩ := hushes_receiveData env d d.header r.data
        (t.seqOffset d.header) (hLeads.reached.trans hFin)
      rw [hLater, hStory]
      refine hHushedLater.start fun e he => ?_
      rcases List.mem_append.1 he with hOld | hNew
      · exact hEnd.pending hFin e hOld
      · exact isEof_of_mute hMute e hNew
  | true =>
      have hRank : 4 ≤ s.state.rank := by
        by_contra hEarly
        exact nomatch hFin.symm.trans (h.view.early (Nat.lt_of_not_le hEarly)).2.2
      obtain ⟨hRecv, hOpen⟩ := hLeads.recv hRank
      have hAckNr : t.rcv.ackNr = s.rcv.ackNr := congrArg RecvView.ackNr hRecv
      have hBuf : t.rcv.inbuf = s.rcv.inbuf := congrArg RecvView.inbuf hRecv
      have hCount : t.rcv.reorderCount = s.rcv.reorderCount := congrArg RecvView.reorderCount hRecv
      have hGot : t.rcv.gotFin = true := (congrArg RecvView.gotFin hRecv).trans (hEnd.reached hFin).1
      obtain ⟨later, hLater, hReads⟩ : Silences t (t.receiveData env d d.header r.data
          (t.seqOffset d.header)) := by
        refine silences_receiveData env hCore.view.bounds (hLeads.reached.trans hFin) hGot ?_
        intro hUp hOther hZero
        by_cases hShut : t.rcv.readShutdown = true
        · exact Or.inl hShut
        · have hRead := hLeads.shut (eq_false_of_ne_true hShut)
          have hOffset : s.seqOffset d.header = 0 := by
            unfold seqOffset at hZero ⊢
            rw [← hAckNr]
            exact hZero
          refine Or.inr ?_
          rw [hCount, hBuf, hAckNr]
          simpa [readsPastEof, hFin, hRead, hOpen hUp, hAccept, hOther, hOffset, payloadOf_parsed hParsed,
            or_iff_not_imp_left] using hPast
      rw [hLater, hStory, List.append_assoc]
      refine hHushed.append ?_
      rw [readsOf_append, readsOf_of_mute hMute, hReads]
      rfl

end Conn

end Utp
