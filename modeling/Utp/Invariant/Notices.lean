import Utp.Invariant.Ledger
import Utp.Invariant.Payload
import Utp.Invariant.Shown

/-! The order in which the callbacks about one connection reach the program: it is told of a connection
before anything happens to it, and hears nothing of it after its end. -/
namespace Utp

open Wrapping

/-- Where the program stands with a connection. -/
inductive Standing where
  | unknown
  | known
  | gone
  deriving DecidableEq, Repr

namespace Event

/-- A callback about a connection that the program knows. -/
def isNotice : Event → Bool
  | .onRead _ | .onError _ | .onStateChange _ => true
  | _ => false

/-- The program can hear the event and goes on to know the connection. -/
def isDecent : Event → Bool
  | .onStateChange .destroying => false
  | .onRead bytes => !bytes.isEmpty
  | _ => true

/-- The program is not called, or does not take note of it. -/
def isSilent : Event → Bool
  | .sendto _ _ | .onRead _ | .onError _ | .onStateChange _ => false
  | _ => true

/-- The callbacks on which the program tries again to write. -/
def wakes : Event → Bool
  | .onStateChange .connect | .onStateChange .writable => true
  | _ => false

end Event

namespace Standing

/-- What an event does to the standing of its connection, if it may come at all. -/
def hears (standing : Standing) (e : Event) : Option Standing :=
  match standing with
  | .unknown => if e = .onAccept then some .known else if e.isNotice then none else some .unknown
  | .known =>
      if e = .onStateChange .destroying then some .gone
      else if e = .onAccept || !e.isDecent then none
      else some .known
  | .gone => none

def listens (standing : Standing) (events : List Event) : Option Standing := events.foldlM hears standing

/-- What is told in two parts is heard in two parts. -/
theorem listens_append (standing : Standing) (events more : List Event) :
    standing.listens (events ++ more) = (standing.listens events).bind (listens · more) :=
  List.foldlM_append ..

theorem listens_cons (standing : Standing) (e : Event) (events : List Event) :
    standing.listens (e :: events) = (standing.hears e).bind (listens · events) := rfl

/-- The program does not forget a connection. -/
theorem hears_known {e : Event} : known.hears e ≠ some unknown := by
  unfold hears
  dsimp only
  split_ifs <;> simp

/-- A socket that is known never becomes unknown again. -/
theorem listens_ne_unknown {events : List Event} : known.listens events ≠ some unknown := by
  induction events with
  | nil => exact fun h => by cases h
  | cons e events ih =>
      intro h
      obtain ⟨next, hHears, hRest⟩ := Option.bind_eq_some_iff.1 h
      cases next with
      | unknown => exact hears_known hHears
      | known => exact ih hRest
      | gone => cases events <;> cases hRest

/-- Nothing is heard of a connection that is gone. -/
theorem listens_gone {events : List Event} {standing : Standing} (h : gone.listens events = some standing) :
    events = [] ∧ standing = gone := by
  cases events with
  | nil => exact ⟨rfl, (Option.some.inj h).symm⟩
  | cons e events => cases h

/-- A connection that the program gets to know was offered to it, and not heard of before. -/
theorem of_listens_unknown {events : List Event} {standing : Standing} (h : unknown.listens events = some standing) :
    ∃ before after, (∀ e ∈ before, e.isNotice = false ∧ e ≠ .onAccept) ∧
      ((events = before ∧ standing = unknown) ∨
        events = before ++ .onAccept :: after ∧ known.listens after = some standing) := by
  induction events with
  | nil => exact ⟨[], [], List.forall_mem_nil _, Or.inl ⟨rfl, (Option.some.inj h).symm⟩⟩
  | cons e events ih =>
      rw [listens_cons] at h
      unfold hears at h
      dsimp only at h
      split_ifs at h with hAccept hNotice
      · subst hAccept
        exact ⟨[], events, List.forall_mem_nil _, Or.inr ⟨rfl, h⟩⟩
      · cases h
      · obtain ⟨before, after, hPrivate, hRest⟩ := ih h
        refine ⟨e :: before, after, List.forall_mem_cons.2 ⟨⟨by simpa using hNotice, hAccept⟩, hPrivate⟩, ?_⟩
        rcases hRest with ⟨rfl, hSame⟩ | ⟨rfl, hKnown⟩
        · exact Or.inl ⟨rfl, hSame⟩
        · exact Or.inr ⟨rfl, hKnown⟩

/-- A socket that the program does not know tells it nothing until it is offered. -/
theorem listens_unknown {events : List Event} (hPrivate : ∀ e ∈ events, e.isNotice = false ∧ e ≠ .onAccept) :
    unknown.listens events = some unknown := by
  induction events with
  | nil => rfl
  | cons e events ih =>
      obtain ⟨⟨hNotice, hAccept⟩, hRest⟩ := List.forall_mem_cons.1 hPrivate
      have hFirst : unknown.hears e = some unknown := by simp [hears, hNotice, hAccept]
      exact (congrArg (Option.bind · (listens · events)) hFirst).trans (ih hRest)

/-- A socket that it knows may tell it anything but a second offer. -/
theorem listens_known {events : List Event} (hDecent : ∀ e ∈ events, e.isDecent = true ∧ e ≠ .onAccept) :
    known.listens events = some known := by
  induction events with
  | nil => rfl
  | cons e events ih =>
      obtain ⟨⟨hFair, hAccept⟩, hRest⟩ := List.forall_mem_cons.1 hDecent
      have hStays : e ≠ .onStateChange .destroying := by
        rintro rfl
        cases hFair
      have hFirst : known.hears e = some known := by simp [hears, hStays, hAccept, hFair]
      exact (congrArg (Option.bind · (listens · events)) hFirst).trans (ih hRest)

/-- The connection is offered to the program. -/
theorem listens_offered {before after : List Event} (hPrivate : ∀ e ∈ before, e.isNotice = false ∧ e ≠ .onAccept)
    (hDecent : ∀ e ∈ after, e.isDecent = true ∧ e ≠ .onAccept) :
    unknown.listens (before ++ .onAccept :: after) = some known := by
  rw [listens_append, listens_unknown hPrivate]
  exact listens_known hDecent

/-- The end of the connection is the last that the program hears. -/
theorem listens_end {events : List Event} (hDecent : ∀ e ∈ events, e.isDecent = true ∧ e ≠ .onAccept) :
    known.listens (events ++ [.onStateChange .destroying]) = some gone := by
  rw [listens_append, listens_known hDecent]
  rfl

end Standing

/-- What a socket that the program knows has told it on the way from one state to another. -/
structure Tells (events : List Event) (s s' : Conn) : Prop where
  log : s'.log = s.log ++ events
  decent : ∀ e ∈ events, e.isDecent = true
  woken : s.onConnectSet = false → s'.state = .connected → s.state = .connected ∨ ∃ e ∈ events, e.wakes = true
  connect : s'.onConnectSet = s.onConnectSet
  fin : s.finSent = true → s'.finSent = true

namespace Tells

variable {s t u : Conn} {events more told : List Event}

theorem refl (s : Conn) : Tells [] s s :=
  ⟨(List.append_nil _).symm, List.forall_mem_nil _, fun _ hUp => Or.inl hUp, rfl, id⟩

theorem trans (hFirst : Tells events s t) (hSecond : Tells more t u) : Tells (events ++ more) s u := by
  refine ⟨?_, ?_, fun hSet hUp => ?_, hSecond.connect.trans hFirst.connect,
    fun hFin => hSecond.fin (hFirst.fin hFin)⟩
  · rw [hSecond.log, hFirst.log, List.append_assoc]
  · intro e he
    rcases List.mem_append.1 he with hOld | hNew
    · exact hFirst.decent e hOld
    · exact hSecond.decent e hNew
  · rcases hSecond.woken (hFirst.connect.trans hSet) hUp with hBefore | ⟨e, he, hWakes⟩
    · rcases hFirst.woken hSet hBefore with hStart | ⟨e, he, hWakes⟩
      · exact Or.inl hStart
      · exact Or.inr ⟨e, List.mem_append_left _ he, hWakes⟩
    · exact Or.inr ⟨e, List.mem_append_right _ he, hWakes⟩

/-- Only the events of the story count. -/
theorem of_story (hGrows : Grows s t) (hStory : t.trace.story = s.trace.story ++ told)
    (hDecent : ∀ e ∈ told, e.isDecent = true) (hConnect : t.onConnectSet = s.onConnectSet)
    (hFin : s.finSent = true → t.finSent = true)
    (hWoken : s.onConnectSet = false → t.state = .connected → s.state = .connected ∨ ∃ e ∈ told, e.wakes = true) :
    ∃ events, Tells events s t := by
  obtain ⟨events, hLog⟩ := hGrows
  have hTold : events.filter Event.isMajor = told := by
    have hSplit : t.trace.story = s.trace.story ++ events.filter Event.isMajor := by
      change t.log.filter Event.isMajor = s.log.filter Event.isMajor ++ _
      rw [← hLog, List.filter_append]
    exact List.append_cancel_left (hSplit.symm.trans hStory)
  refine ⟨events, hLog.symm, fun e he => ?_, fun hSet hUp => ?_, hConnect, hFin⟩
  · by_cases hMajor : e.isMajor = true
    · exact hDecent e (hTold ▸ List.mem_filter.2 ⟨he, hMajor⟩)
    · cases e <;> first | rfl | exact absurd rfl hMajor
  · refine (hWoken hSet hUp).imp_right fun ⟨e, he, hWakes⟩ => ⟨e, ?_, hWakes⟩
    rw [← hTold] at he
    exact (List.mem_filter.1 he).1

end Tells

variable {env : Env} {cause : Cause} {s s' : Conn}

/-- Bytes are passed on only if there are some. -/
theorem isDecent_deliveryStory (body : List UInt8) (s : Conn) : ∀ e ∈ s.deliveryStory body, e.isDecent = true := by
  unfold Conn.deliveryStory
  split_ifs with hRead
  · have hSome : body.isEmpty = false := by simpa using (Bool.and_eq_true_iff.1 hRead).1
    simp [Event.isDecent, hSome]
  · simp [Event.isDecent]

/-- The packets that are consumed are passed on with their bytes. -/
theorem DrainStep.decent {r : Received} (h : DrainStep env r s s') :
    ∃ told, s'.trace.story = s.trace.story ++ told ∧ ∀ e ∈ told, e.isDecent = true := by
  cases h with
  | inOrder hOpen hType hOffset hDone =>
      refine ⟨.accepted r.d.header.seqNr 0 (r.d.drop r.data) :: s.deliveryStory (r.d.drop r.data), ?_,
        List.forall_mem_cons.2 ⟨rfl, isDecent_deliveryStory _ s⟩⟩
      rw [Conn.trace_deliver, Conn.trace_major s rfl rfl rfl, Trace.tell]
      exact List.append_assoc ..
  | eof =>
      rcases Conn.trace_reachEof env s with hSame | ⟨w, hTold⟩
      · rw [hSame]
        exact ⟨[], (List.append_nil _).symm, List.forall_mem_nil _⟩
      · rw [hTold]
        exact ⟨[.onStateChange .eof], rfl, by simp [Event.isDecent]⟩
  | take p hOpen hCount hGet =>
      rw [Conn.trace_takeReordered]
      exact ⟨_, rfl, isDecent_deliveryStory p.body s⟩

/-- By induction on the turns of the drain loop. -/
theorem DrainStep.decent_run {r : Received} (h : Relation.ReflTransGen (DrainStep env r) s s') :
    ∃ told, s'.trace.story = s.trace.story ++ told ∧ ∀ e ∈ told, e.isDecent = true := by
  induction h with
  | refl => exact ⟨[], (List.append_nil _).symm, List.forall_mem_nil _⟩
  | tail _ hStep ih =>
      obtain ⟨first, hFirst, hDecent⟩ := ih
      obtain ⟨second, hSecond, hDecent'⟩ := hStep.decent
      refine ⟨first ++ second, by rw [hSecond, hFirst, List.append_assoc], fun e he => ?_⟩
      exact (List.mem_append.1 he).elim (hDecent e) (hDecent' e)

/-- All that a packet tells is decent. -/
theorem Receiving.decent (h : Receiving env cause s s') :
    ∃ told, s'.trace.story = s.trace.story ++ told ∧ ∀ e ∈ told, e.isDecent = true := by
  have hSilent : ∀ {t : Conn}, t.trace.story = s.trace.story →
      ∃ told, t.trace.story = s.trace.story ++ told ∧ ∀ e ∈ told, e.isDecent = true :=
    fun hSame => ⟨[], hSame.trans (List.append_nil _).symm, List.forall_mem_nil _⟩
  cases h with
  | synAcked r hCause hState => exact hSilent rfl
  | fin r hCause hOpen =>
      unfold Conn.noteFin
      split_ifs <;> exact hSilent rfl
  | drained _ r hCause hRun hDone => exact DrainStep.decent_run hRun
  | outOfOrder r hCause hOpen hType hOffset =>
      rcases Conn.trace_receiveOutOfOrder r.d.header.seqNr (s.seqOffset r.d.header) (r.d.drop r.data) s with hSame | hTold
      · exact hSilent (congrArg Trace.story hSame)
      · exact ⟨_, congrArg Trace.story hTold, by simp [Event.isDecent]⟩

/-- So is what a move of the state tells. -/
theorem MoveStory.decent (h : MoveStory s s') :
    ∃ told, s'.trace.story = s.trace.story ++ told ∧ ∀ e ∈ told, e.isDecent = true := by
  cases h with
  | none hTrace hState => exact ⟨[], (congrArg Trace.story hTrace).trans (List.append_nil _).symm, List.forall_mem_nil _⟩
  | closing hTrace hState hClose => exact ⟨_, congrArg Trace.story hTrace, by simp [Event.isDecent]⟩
  | full hTrace hBefore hState => exact ⟨_, congrArg Trace.story hTrace, by simp [Event.isDecent]⟩
  | closed hTrace hBefore hState => exact ⟨_, congrArg Trace.story hTrace, by simp [Event.isDecent]⟩
  | failed dst code hTrace hDst hState =>
      refine ⟨[.moved s.state dst s.rcv.ackNr, .onError code], ?_, by simp [Event.isDecent]⟩
      simp [hTrace, Trace.tell]
  | up e hTrace hBefore hState hEvent =>
      refine ⟨[.moved s.state .connected s.rcv.ackNr, e], ?_, ?_⟩
      · simp [hTrace, Trace.tell]
      · rcases hEvent with rfl | rfl | rfl <;> simp [Event.isDecent]

/-- A connection that comes up, or that has room again, says so. -/
theorem Moving.woken (h : Moving cause s s') (hSet : s.onConnectSet = false) (hUp : s'.state = .connected) :
    s.state = .connected ∨ ∃ before e, e.wakes = true ∧ s'.trace.story = s.trace.story ++ [before, e] := by
  have hTold : ∀ change, ((s.setState .connected).emit (.onStateChange change)).trace.story =
      s.trace.story ++ [.moved s.state .connected s.rcv.ackNr, .onStateChange change] := by
    intro change
    rw [Conn.trace_major _ rfl rfl rfl, Conn.trace_setState]
    exact List.append_assoc ..
  have hAbandon : ∀ code, (s.abandon.emit (.onError code)).state ≠ .connected := by
    intro code
    change (if s.closeRequested then ConnState.destroy else .reset) ≠ .connected
    split_ifs <;> simp
  cases h with
  | established r hCause hType hState =>
      rw [hSet]
      exact Or.inr ⟨_, _, rfl, hTold .connect⟩
  | admitted r hCause hType hState => exact Or.inr ⟨_, _, rfl, hTold .writable⟩
  | writable hState hFull => exact Or.inr ⟨_, _, rfl, hTold .writable⟩
  | finAcked r hCause hFin hAcks =>
      revert hUp
      split_ifs
      · intro hUp
        cases hUp
      · exact Or.inl
  | full hState hFull => exact Or.inl hState
  | expired hState => cases hUp
  | gaveUp hState => exact absurd hUp (hAbandon _)
  | closing hOpen => exact Or.inl hUp
  | closed hState => cases hUp
  | reset => exact absurd hUp (hAbandon _)
  | icmpError =>
      revert hUp
      unfold Conn.receiveIcmpError
      dsimp only
      split_ifs
      · exact Or.inl
      all_goals exact fun hUp => absurd hUp (hAbandon _)

/-- A connection that is set up tells nothing that is forbidden, and is not connected yet. -/
theorem Setup.decent (h : Setup env cause s s') : s'.state ≠ .connected ∧
    ∃ told, s'.trace.story = s.trace.story ++ told ∧ ∀ e ∈ told, e.isDecent = true := by
  cases h with
  | initialise addr connSeed connIdRecv connIdSend hState =>
      refine ⟨?_, _, Conn.story_initializeSocket env addr connSeed connIdRecv connIdSend s, by simp [Event.isDecent]⟩
      rw [show (s.initializeSocket env addr connSeed connIdRecv connIdSend).state = .idle from
        congrArg View.state (Conn.view_initializeSocket env addr connSeed connIdRecv connIdSend s)]
      decide
  | dial hState hCount hPointer =>
      refine ⟨(by intro hUp; cases hUp), [.moved s.state .synSent s.rcv.ackNr,
        .queued (s.startConnect env).snd.seqNr stSyn []], ?_, by simp [Event.isDecent]⟩
      unfold Conn.queueSyn
      rw [Conn.trace_enqueue, Conn.trace_startConnect]
      simp [Trace.tell, Conn.synPacket]
  | accept d hCause hState hCount =>
      exact ⟨(by intro hUp; cases hUp), _, congrArg Trace.story (Conn.trace_setState .synRecv _), by simp [Event.isDecent]⟩

/-- A FIN is not taken back. -/
theorem Trans.finSent (h : Trans env cause s s') (hCore : Core s) (hLive : s.Live) (hFin : s.finSent = true) :
    s'.finSent = true := by
  cases h with
  | setup hSetup =>
      cases hSetup with
      | initialise addr connSeed connIdRecv connIdSend hNew => exact absurd hNew hLive
      | dial => exact hFin
      | accept => exact hFin
  | sending hSend =>
      cases hSend with
      | quiet hQuiet => exact (congrArg View.finSent (hQuiet.view hCore.view.bounds.ackNr_lt)).trans hFin
      | queueing hQueue =>
          cases hQueue.writes with
          | none hPackets hSame => exact hSame.trans hFin
          | data bytes hCause hOpen hNot => exact absurd (hNot.symm.trans hFin) Bool.false_ne_true
          | fin hAsked hOpen hNot hNow => exact hNow
      | moving hMove => exact hMove.finSent.trans hFin
  | receiving hReceive => exact (congrArg Foreground.finSent hReceive.foreground).trans hFin

/-- Every transition tells some events, and these are decent. -/
theorem Trans.tells (h : Trans env cause s s') (hCore : Core s) (hLive : s.Live) : ∃ events, Tells events s s' := by
  have hConnect : s'.onConnectSet = s.onConnectSet := congrArg Identity.onConnectSet (h.keeps hCore hLive).2
  have hFin : s.finSent = true → s'.finSent = true := h.finSent hCore hLive
  have hStill : ∀ told, s'.trace.story = s.trace.story ++ told → (∀ e ∈ told, e.isDecent = true) →
      s'.state = s.state → ∃ events, Tells events s s' := fun told hStory hDecent hState =>
    Tells.of_story h.grows hStory hDecent hConnect hFin fun _ hUp => Or.inl (hState.symm.trans hUp)
  cases h with
  | setup hSetup =>
      obtain ⟨hDown, told, hStory, hDecent⟩ := hSetup.decent
      exact Tells.of_story hSetup.grows hStory hDecent hConnect hFin fun _ hUp => absurd hUp hDown
  | sending hSend =>
      cases hSend with
      | quiet hQuiet =>
          exact hStill [] (hQuiet.story.trans (List.append_nil _).symm) (List.forall_mem_nil _)
            (congrArg View.state (hQuiet.view hCore.view.bounds.ackNr_lt))
      | queueing hQueue =>
          have hState := congrArg Backdrop.state hQueue.backdrop
          rcases hQueue.story with hSame | ⟨e, hEvent, hStory⟩
          · exact hStill [] (hSame.trans (List.append_nil _).symm) (List.forall_mem_nil _) hState
          · refine hStill [e] hStory (fun e' he' => ?_) hState
            rw [List.mem_singleton.1 he']
            cases e <;> first | rfl | cases hEvent
      | moving hMove =>
          obtain ⟨told, hStory, hDecent⟩ := hMove.story.decent
          refine Tells.of_story hMove.grows hStory hDecent hConnect hFin fun hSet hUp => ?_
          refine (hMove.woken hSet hUp).imp_right fun ⟨before, e, hWakes, hStory'⟩ => ⟨e, ?_, hWakes⟩
          rw [List.append_cancel_left (hStory.symm.trans hStory')]
          simp
  | receiving hReceive =>
      obtain ⟨told, hStory, hDecent⟩ := hReceive.decent
      exact hStill told hStory hDecent (congrArg Foreground.state hReceive.foreground)

/-- Whatever a socket does, it tells the program nothing that it cannot hear. -/
theorem Path.tells (h : Path env cause s s') (hCore : Core s) (hLive : s.Live) : ∃ events, Tells events s s' := by
  induction h with
  | refl => exact ⟨[], .refl s⟩
  | tail hPrior hStep ih =>
      obtain ⟨events, hFirst⟩ := ih
      obtain ⟨more, hSecond⟩ := hStep.tells (hCore.path hPrior) (Path.keeps hPrior hCore hLive).1
      exact ⟨events ++ more, hFirst.trans hSecond⟩

end Utp
