import Utp.Transition.Log
import Utp.Invariant.Offered
import Utp.Guarantees.Stream

/-! The receive window in the packets that a socket sends, and the one it remembers. -/
namespace Utp

open Wrapping

/-- After `pre` the packet `w` is sent, and it is the last one of the record. -/
def LastSend (pre : List Event) (w : Wire) (log : List Event) : Prop :=
  ∃ flags post, log = pre ++ .sendto w flags :: post ∧ ∀ e ∈ post, e.wire? = none

theorem tally_unsent {post : List Event} (h : ∀ e ∈ post, e.wire? = none) (log : List Event) :
    (tally (log ++ post)).told = (tally log).told := by
  induction post using List.reverseRecOn with
  | nil => rw [List.append_nil]
  | append_singleton post e ih =>
      rw [← List.append_assoc, tally_append, ← ih fun e' he' => h e' (List.mem_append_left _ he')]
      have hWire := h e (List.mem_append_right _ (List.mem_singleton_self e))
      cases e with
      | sendto w flags => cases hWire
      | _ => rfl

theorem LastSend.told {pre log : List Event} {w : Wire} (h : LastSend pre w log) :
    (tally log).told = some (tally pre).window := by
  obtain ⟨flags, post, rfl, hNone⟩ := h
  rw [List.append_cons, tally_unsent hNone, tally_append]
  rfl

/-- Any record that tells a window has a last packet. -/
theorem exists_lastSend {log : List Event} {n : Nat} (h : (tally log).told = some n) :
    ∃ pre w, LastSend pre w log := by
  induction log using List.reverseRecOn with
  | nil => cases h
  | append_singleton log e ih =>
      cases hWire : e.wire? with
      | some w =>
          obtain ⟨flags, rfl⟩ : ∃ flags, e = .sendto w flags := by
            cases e with
            | sendto w' flags => exact ⟨flags, by rw [Option.some.inj hWire]⟩
            | _ => cases hWire
          exact ⟨log, w, flags, [], rfl, nofun⟩
      | none =>
          have hUnsent : ∀ e' ∈ [e], e'.wire? = none := by
            intro e' he'
            rw [List.mem_singleton.1 he', hWire]
          rw [tally_unsent hUnsent] at h
          obtain ⟨pre, w, flags, post, rfl, hNone⟩ := ih h
          refine ⟨pre, w, flags, post ++ [e], by simp, fun e' he' => ?_⟩
          rcases List.mem_append.1 he' with hOld | hNew
          · exact hNone e' hOld
          · exact hUnsent e' hNew

/-- Draining the read buffer sends a packet or schedules an ack. -/
def Conn.Updates (env : Env) (s : Conn) : Prop :=
  ∃ events, (s.utpReadDrained env).log = s.log ++ events ∧
    ∃ e ∈ events, e = .scheduleAck ∨ e.wire?.isSome = true

theorem Conn.updates_of_lt {env : Env} {s : Conn} (h : s.lastRcvWin < s.getRcvWindow env) :
    s.Updates env := by
  have hLess : s.getRcvWindow env > s.called.lastRcvWin := h
  unfold Updates utpReadDrained
  dsimp only
  rw [if_pos hLess]
  split_ifs with hZero
  · obtain ⟨events, hMore⟩ := grows_sendAck env false s.called
    obtain ⟨w, -, -, hOffer⟩ := offer_sendAck env false s.called
    have hNotes : (s.called.sendAck env false).log.filter Event.isOffer = _ := congrArg Offer.notes hOffer
    rw [← hMore, List.filter_append] at hNotes
    have hIn : .sendto w 0 ∈ events.filter Event.isOffer := by
      rw [List.append_cancel_left (hNotes.trans (List.append_assoc ..))]
      simp
    exact ⟨events, hMore.symm, .sendto w 0, List.mem_of_mem_filter hIn, Or.inr rfl⟩
  · exact ⟨[.scheduleAck], rfl, .scheduleAck, List.mem_singleton_self _, Or.inl rfl⟩

/-- Every packet states the receive window at the moment it is sent, the socket remembers the
window that it stated last, and draining the read buffer tells the peer of a larger one. -/
structure Advertises (env : Env) (s : Conn) : Prop where
  current : EachSend (fun t w => w.header.windowsize = u32 t.window) s.log
  last : ∀ pre w, LastSend pre w s.log →
    w.header.windowsize = u32 s.lastRcvWin ∧ s.lastRcvWin = (tally pre).window
  drained : ∀ pre w, LastSend pre w s.log → (tally pre).window < s.getRcvWindow env → s.Updates env

/-- Whenever a packet of the queue is sent, the receive window is what it was when the packet
was last filled. -/
def Undisturbed (log : List Event) : Prop :=
  EachSend (fun t w => w.header.type ≠ stState → u32 (t.filled w.header.seqNr) = u32 t.window) log

/-- The receive window at the last transmission is what it was when last a packet was filled
or an ack was sent. -/
def Settled (log : List Event) : Prop :=
  ∀ window, (tally log).told = some window → (tally log).stated = window

/-- Packets of the queue are the only ones that may state an old window. -/
theorem current_iff {log : List Event}
    (h : EachSend (fun t w => w.header.windowsize = u32 (t.states w)) log) :
    EachSend (fun t w => w.header.windowsize = u32 t.window) log ↔ Undisturbed log := by
  refine EachEntry.congr fun pre e post w hSplit hSent => ?_
  have hStates : w.header.windowsize = u32 ((tally pre).states w) := h pre e post w hSplit hSent
  unfold Tally.states at hStates
  dsimp only
  split_ifs at hStates with hType
  · exact ⟨fun _ hData => absurd hType hData, fun _ => hStates⟩
  · rw [hStates]
    exact ⟨fun hSame _ => hSame, fun hSame => hSame hType⟩

theorem Offered.advertises_iff {s : Conn} (env : Env) (h : Offered s) :
    Advertises env s ↔ Undisturbed s.log ∧ Settled s.log := by
  have hSends := EachSend.filter_iff.1 h.ok.sends
  have hLast : s.lastRcvWin = (tally s.log).stated := by
    rw [← tally_filter]
    exact h.ok.last
  constructor
  · intro hAll
    refine ⟨(current_iff hSends).1 hAll.current, fun window hTold => ?_⟩
    obtain ⟨pre, w, hSend⟩ := exists_lastSend hTold
    rw [← hLast, (hAll.last pre w hSend).2]
    exact Option.some.inj (hSend.told.symm.trans hTold)
  · rintro ⟨hSame, hSettled⟩
    have hCurrent := (current_iff hSends).2 hSame
    have hWindow : ∀ pre w, LastSend pre w s.log → s.lastRcvWin = (tally pre).window := by
      intro pre w hSend
      exact hLast.trans (hSettled _ hSend.told)
    refine ⟨hCurrent, fun pre w hSend => ⟨?_, hWindow pre w hSend⟩, fun pre w hSend hGrown => ?_⟩
    · obtain ⟨flags, post, hSplit, -⟩ := id hSend
      rw [hWindow pre w hSend]
      exact hCurrent pre _ post w hSplit rfl
    · rw [← hWindow pre w hSend] at hGrown
      exact Conn.updates_of_lt hGrown

/-- The windows that a socket states and remembers are those of the moment exactly if the
receive window does not change between the filling of a packet and its transmissions, and is
the same at the last filling and at the last transmission. -/
theorem window_is_advertised (env : Env) (c : Context) (hReach : c.Reachable env) (p : Nat) :
    (EachSend (fun t w => w.header.windowsize = u32 t.window) (c.logs p) ↔ Undisturbed (c.logs p)) ∧
    ∀ sock, c.sockets p = some sock →
      (Advertises env (c.enter p sock) ↔ Undisturbed (c.logs p) ∧ Settled (c.logs p)) := by
  refine ⟨current_iff ?_, fun sock hSock => ?_⟩
  · refine (preserved_offered env).logs EachEntry.nil ?_ ?_ hReach p
    · exact fun s hInv => EachSend.filter_iff.1 hInv.ok.sends
    · exact fun log hLog => (EachEntry.append_other (by simp [Event.wire?])).2 hLog
  · by_cases hNew : sock.state = .uninitialized
    · obtain ⟨-, hEmpty⟩ := hReach.ok.pristine p sock hSock hNew
      have hLog : (c.enter p sock).log = [] := hEmpty
      have hNone : ∀ pre w, ¬LastSend pre w [] := by
        rintro pre w ⟨flags, post, hSplit, -⟩
        simp at hSplit
      rw [hEmpty]
      refine ⟨fun _ => ⟨EachEntry.nil, fun window hTold => by cases hTold⟩, fun _ => ⟨?_, ?_, ?_⟩⟩
      · rw [hLog]
        exact EachEntry.nil
      · rw [hLog]
        exact fun pre w hSend => absurd hSend (hNone pre w)
      · rw [hLog]
        exact fun pre w hSend => absurd hSend (hNone pre w)
    · exact ((preserved_offered env).reachable hReach p sock ⟨hSock, hNew⟩).advertises_iff env

/-- An embedding program whose clock runs. -/
def tickingEnv : Env := fun n => ⟨1000000 + 2000 * n, 1000000, 7, 0, 1500, false, false⟩

/-- A SYN is sent again after a timeout. -/
def redialOps (between : List Op) : List Op :=
  [.createSocket, .connect 0 somePeer 1] ++ between ++ [.checkTimeouts [0]]

/-- The SYN that is sent again still states the window of the moment. -/
theorem window_is_advertised_redial : ∃ (c : Context) (sock : Socket), c.Reachable tickingEnv ∧
    c.sockets 0 = some sock ∧ (tally (c.logs 0)).told = some 1048576 ∧
      Advertises tickingEnv (c.enter 0 sock) := by
  have hRun : ((utpInit true false).run tickingEnv (redialOps [])).any (fun c => (c.sockets 0).isSome &&
      (EachEntry.check Event.wire? (fun pre w => w.header.type == stState ||
        u32 ((tally pre).filled w.header.seqNr) == u32 (tally pre).window) (c.logs 0) &&
      ((tally (c.logs 0)).told == some 1048576 && (tally (c.logs 0)).stated == 1048576))) = true := by
    decide +kernel
  obtain ⟨c, hReach, hOk⟩ := Context.Reachable.exists_of_run hRun
  simp only [Bool.and_eq_true, beq_iff_eq, EachEntry.check_iff] at hOk
  obtain ⟨hSome, hSends, hTold, hStated⟩ := hOk
  obtain ⟨sock, hSock⟩ := Option.isSome_iff_exists.1 hSome
  refine ⟨c, sock, hReach, hSock, hTold, ((window_is_advertised tickingEnv c hReach 0).2 sock hSock).2 ⟨?_, ?_⟩⟩
  · intro pre e post w hSplit hSent hData
    simpa [hData] using hSends pre e post w hSplit hSent
  · intro window hLast
    rw [hStated]
    exact Option.some.inj (hTold.symm.trans hLast)

/-- After the receive buffer has been made smaller, the SYN that is sent again still offers
the old window. -/
theorem window_is_not_advertised : ∃ (c : Context) (sock : Socket), c.Reachable tickingEnv ∧
    c.sockets 0 = some sock ∧ ¬Advertises tickingEnv (c.enter 0 sock) := by
  have hRun : ((utpInit true false).run tickingEnv (redialOps [.setsockopt 0 .rcvbuf 1000])).any
      (fun c => (c.sockets 0).isSome &&
        !EachEntry.check Event.wire? (fun pre w => w.header.windowsize == u32 (tally pre).window) (c.logs 0)) = true := by
    decide +kernel
  obtain ⟨c, hReach, hOk⟩ := Context.Reachable.exists_of_run hRun
  obtain ⟨hSome, hStale⟩ := Bool.and_eq_true_iff.1 hOk
  obtain ⟨sock, hSock⟩ := Option.isSome_iff_exists.1 hSome
  refine ⟨c, sock, hReach, hSock, fun hAll => ?_⟩
  have hCurrent : EachEntry.check Event.wire? (fun pre w => w.header.windowsize == u32 (tally pre).window) (c.logs 0) = true := by
    refine EachEntry.check_iff.2 fun pre e post w hSplit hSent => ?_
    exact beq_iff_eq.2 (hAll.current pre e post w hSplit hSent)
  rw [hCurrent] at hStale
  cases hStale

end Utp
