import Utp.Wrapper.Callbacks
import Utp.Wrapper.Socket

/-! The callbacks of one operation, from the side of the wrapper: none of them panics, and a
`Conn` is told of by the record of its socket. -/
namespace Utp

namespace Wrapper

namespace Conn

/-- What a `Conn` has made of the record of its socket. -/
structure Tracks (p : Nat) (log : List Event) (c : Conn) : Prop where
  us : c.us = if c.destroyed then none else some p
  stream : c.bytesRead ++ c.readBuf = (readsOf log).flatten
  eof : c.gotEOF = true ↔ .onStateChange .eof ∈ log
  connect : c.gotConnect = true ↔ .onStateChange .connect ∈ log
  gone : c.destroyed = true ↔ .onStateChange .destroying ∈ log

/-- What the callbacks `events` may do to a `Conn`: without a broadcast they leave it as it was. -/
structure Heard (events : List Event) (c c' : Conn) : Prop where
  bytesRead : c'.bytesRead = c.bytesRead
  bytesWritten : c'.bytesWritten = c.bytesWritten
  closed : c'.closed = c.closed
  broadcasts : c.broadcasts ≤ c'.broadcasts
  same : c'.broadcasts = c.broadcasts → c' = c
  notified : (∃ e ∈ events, e.isNotice = true) → c.broadcasts < c'.broadcasts
  silent : (∀ e ∈ events, e.isSilent = true) → c' = c

theorem Heard.refl (c : Conn) : Heard [] c c :=
  ⟨rfl, rfl, rfl, le_rfl, fun _ => rfl, (fun ⟨_, hMem, _⟩ => by cases hMem), fun _ => rfl⟩

theorem Heard.trans {events more : List Event} {c c' c'' : Conn} (hFirst : Heard events c c') (hSecond : Heard more c' c'') :
    Heard (events ++ more) c c'' where
  bytesRead := hSecond.bytesRead.trans hFirst.bytesRead
  bytesWritten := hSecond.bytesWritten.trans hFirst.bytesWritten
  closed := hSecond.closed.trans hFirst.closed
  broadcasts := hFirst.broadcasts.trans hSecond.broadcasts
  same hSame := by
    have hMore := hSecond.broadcasts
    have hLess := hFirst.broadcasts
    have hLast := hSecond.same (by omega)
    rw [hLast]
    exact hFirst.same (hLast ▸ hSame)
  notified := by
    rintro ⟨e, hMem, hNotice⟩
    rcases List.mem_append.1 hMem with hOld | hNew
    · exact (hFirst.notified ⟨e, hOld, hNotice⟩).trans_le hSecond.broadcasts
    · exact hFirst.broadcasts.trans_lt (hSecond.notified ⟨e, hNew, hNotice⟩)
  silent hSilent := by
    obtain ⟨hOld, hNew⟩ := List.forall_mem_append.1 hSilent
    exact (hSecond.silent hNew).trans (hFirst.silent hOld)

theorem heard_hear (fatal : Bool) (e : Event) (c : Conn) : Heard [e] c (c.hear fatal e) := by
  have hSame : e.isNotice = false → Heard [e] c c := fun hNotice =>
    ⟨rfl, rfl, rfl, le_rfl, fun _ => rfl, (fun ⟨e', hMem, hNotice'⟩ => by
      rw [List.mem_singleton.1 hMem, hNotice] at hNotice'
      cases hNotice'), fun _ => rfl⟩
  have hTold : ∀ c' : Conn, c'.bytesRead = c.bytesRead → c'.bytesWritten = c.bytesWritten → c'.closed = c.closed →
      c'.broadcasts = c.broadcasts + 1 → e.isSilent = false → Heard [e] c c' :=
    fun c' hRead hWritten hClosed hMore hLoud =>
      ⟨hRead, hWritten, hClosed, by omega, (fun hEq => by omega), (fun _ => by omega), fun hSilent => by
        rw [List.forall_mem_singleton.1 hSilent] at hLoud
        cases hLoud⟩
  cases e with
  | sendto packet flags =>
      cases fatal
      · exact hSame rfl
      · exact hTold _ rfl rfl rfl rfl rfl
  | onStateChange change => cases change <;> exact hTold _ rfl rfl rfl rfl rfl
  | onRead bytes => exact hTold _ rfl rfl rfl rfl rfl
  | onError code => exact hTold _ rfl rfl rfl rfl rfl
  | _ => exact hSame rfl

/-- An event that is not for the program. -/
theorem Tracks.pass {p : Nat} {log : List Event} {e : Event} {c : Conn} (h : c.Tracks p log) (hNotice : e.isNotice = false) :
    c.Tracks p (log ++ [e]) := by
  have hRead : readsOf [e] = [] := by cases e <;> first | rfl | cases hNotice
  have hOther : ∀ change, .onStateChange change ∈ log ++ [e] ↔ .onStateChange change ∈ log := by
    intro change
    rw [List.mem_append, List.mem_singleton, or_iff_left]
    rintro rfl
    cases hNotice
  refine ⟨h.us, ?_, h.eof.trans (hOther .eof).symm, h.connect.trans (hOther .connect).symm, h.gone.trans (hOther .destroying).symm⟩
  rw [readsOf_append, hRead, List.append_nil]
  exact h.stream

theorem Tracks.hear {p : Nat} {log : List Event} {e : Event} {standing : Standing} {c : Conn} (h : c.Tracks p log)
    (hKnown : c.destroyed = false) (hHears : Standing.known.hears e = some standing) (fatal : Bool) :
    (c.hear fatal e).Tracks p (log ++ [e]) ∧ (c.hear fatal e).destroyed = decide (standing = .gone) := by
  have hUs := h.us
  have hEof := h.eof
  have hConnect := h.connect
  have hGone := h.gone
  have hStream := h.stream
  have hStays : e ≠ .onStateChange .destroying → standing = .known := by
    intro hOther
    unfold Standing.hears at hHears
    simp only [if_neg hOther] at hHears
    split_ifs at hHears
    exact (Option.some.inj hHears).symm
  cases e with
  | sendto packet flags =>
      have hPass := h.pass (e := .sendto packet flags) rfl
      rw [hStays (by simp)]
      cases fatal
      · exact ⟨hPass, hKnown⟩
      · exact ⟨⟨hPass.us, hPass.stream, hPass.eof, hPass.connect, hPass.gone⟩, hKnown⟩
  | onStateChange change =>
      cases change with
      | destroying =>
          obtain rfl : Standing.gone = standing := Option.some.inj hHears
          refine ⟨⟨rfl, ?_, ?_, ?_, ?_⟩, rfl⟩
          all_goals simp_all [Conn.hear, Conn.onStateChange, onDestroyed, broadcast, readsOf, Event.read?]
      | _ =>
          rw [hStays (by simp)]
          refine ⟨⟨h.us, ?_, ?_, ?_, ?_⟩, hKnown⟩
          all_goals simp_all [Conn.hear, Conn.onStateChange, setConnected, setGotEOF, broadcast, readsOf, Event.read?]
  | onRead bytes =>
      rw [hStays (by simp)]
      refine ⟨⟨h.us, ?_, ?_, ?_, ?_⟩, hKnown⟩
      · change c.bytesRead ++ (c.readBuf ++ bytes) = _
        rw [readsOf_append, List.flatten_append, ← hStream, List.append_assoc]
        simp [readsOf, Event.read?]
      all_goals simp_all [Conn.hear, onRead, broadcast]
  | onError code =>
      rw [hStays (by simp)]
      refine ⟨⟨h.us, ?_, ?_, ?_, ?_⟩, hKnown⟩
      all_goals simp_all [Conn.hear, onError, broadcast, readsOf, Event.read?]
  | _ =>
      rw [hStays (by simp)]
      exact ⟨h.pass rfl, hKnown⟩

/-- A `Conn` of which nothing was heard yet. -/
theorem tracks_ofSocket (p : Nat) {log : List Event} (hBlank : ∀ e ∈ log, e.isNotice = false) : (ofSocket p).Tracks p log := by
  have hAbsent : ∀ change, .onStateChange change ∉ log := by
    intro change hMem
    cases hBlank _ hMem
  have hReads : readsOf log = [] := List.filterMap_eq_nil_iff.2 fun e he => by
    have hNotice := hBlank e he
    cases e <;> first | rfl | cases hNotice
  refine ⟨rfl, by rw [hReads]; rfl, ?_, ?_, ?_⟩
  all_goals simp [ofSocket, hAbsent]

end Conn

namespace Socket

variable {fatal : Nat → Nat → Bool} {p i : Nat} {e : Event} {events : List Event} {w : Socket} {c : Conn}
  {standing : Standing} {log : List Event}

/-- The `Conn` of `p` is replaced. If the connection has come to its end, it is forgotten. -/
def put (p : Nat) (c : Conn) (w : Socket) : Socket :=
  { w with
    heap := Function.update w.heap p (some c)
    conns := if c.destroyed then w.conns.filter (· ≠ p) else w.conns }

theorem put_put (c c' : Conn) (w : Socket) (hKnown : c.destroyed = false) : (w.put p c).put p c' = w.put p c' := by
  simp [put, hKnown]

theorem modify_eq (hGet : w.heap p = some c) (f : Conn → Conn) :
    w.modify p f = { w with heap := Function.update w.heap p (some (f c)) } := by
  rw [modify, hGet]
  rfl

/-- A callback for a connection that the program knows. -/
theorem callback_known (hGet : w.heap p = some c) (hKnown : c.destroyed = false) (hMem : p ∈ w.conns)
    (hHears : Standing.known.hears e = some standing) :
    w.callback fatal p i e = .ok (w.put p (c.hear (fatal p i) e)) := by
  have hPut : ∀ c' : Conn, c'.destroyed = false →
      Except.ok (ε := Fault) ({ w with heap := Function.update w.heap p (some c') } : Socket) = .ok (w.put p c') := by
    intro c' hStill
    simp [put, hStill]
  have hSame : Except.ok (ε := Fault) w = .ok (w.put p c) := by
    rw [← hPut c hKnown, ← hGet, Function.update_eq_self]
  have hDecent : e ≠ .onStateChange .destroying → e ≠ .onAccept ∧ e.isDecent = true := by
    intro hOther
    unfold Standing.hears at hHears
    simp only [if_neg hOther] at hHears
    split_ifs at hHears with hBad
    simpa using hBad
  unfold callback
  cases e with
  | sendto packet flags =>
      simp only [if_pos hMem, modify_eq hGet]
      refine hPut _ ?_
      cases fatal p i <;> exact hKnown
  | onRead bytes =>
      have hSome : bytes ≠ [] := by simpa [Event.isDecent] using (hDecent (by simp)).2
      simp only [if_pos (And.intro hMem hSome), modify_eq hGet]
      exact hPut _ hKnown
  | onError code =>
      simp only [if_pos hMem, modify_eq hGet]
      exact hPut _ hKnown
  | onStateChange change =>
      cases change with
      | destroying =>
          simp only [if_pos hMem, modify_eq hGet]
          rfl
      | _ =>
          simp only [if_pos hMem, modify_eq hGet]
          exact hPut _ hKnown
  | onAccept => exact absurd rfl (hDecent (by simp)).1
  | _ => exact hSame

/-- The callbacks for a connection that the program knows. -/
theorem callbacks_known (hGet : w.heap p = some c) (hKnown : c.destroyed = false) (hMem : p ∈ w.conns)
    (hTracks : c.Tracks p log) (hListens : Standing.known.listens events = some standing) :
    ∃ c', w.callbacks fatal p i events = .ok (w.put p c') ∧ c'.Tracks p (log ++ events) ∧ c.Heard events c' ∧
      c'.destroyed = decide (standing = .gone) := by
  induction events generalizing w c i log with
  | nil =>
      obtain rfl : Standing.known = standing := Option.some.inj hListens
      refine ⟨c, ?_, by rwa [List.append_nil], .refl c, hKnown⟩
      rw [callbacks, put, hKnown, ← hGet, Function.update_eq_self]
      rfl
  | cons e events ih =>
      obtain ⟨next, hHears, hRest⟩ := Option.bind_eq_some_iff.1 hListens
      obtain ⟨hTracks', hGone⟩ := hTracks.hear hKnown hHears (fatal p i)
      have hHeard := Conn.heard_hear (fatal p i) e c
      rw [callbacks, callback_known hGet hKnown hMem hHears]
      change ∃ c', (w.put p _).callbacks fatal p (i + 1) events = _ ∧ _
      generalize c.hear (fatal p i) e = c₁ at hTracks' hGone hHeard ⊢
      cases next with
      | unknown => exact absurd hHears Standing.hears_known
      | gone =>
          obtain ⟨rfl, rfl⟩ := Standing.listens_gone hRest
          exact ⟨c₁, rfl, hTracks', hHeard, hGone⟩
      | known =>
          have hStill : c₁.destroyed = false := hGone
          have hMem' : p ∈ (w.put p c₁).conns := by
            rw [put, hStill]
            exact hMem
          obtain ⟨c', hRun, hTracks'', hHeard', hGone'⟩ := ih (w := w.put p c₁) (i := i + 1)
            (Function.update_self ..) hStill hMem' hTracks' hRest
          refine ⟨c', ?_, ?_, hHeard.trans hHeard', hGone'⟩
          · rw [hRun, put_put _ _ _ hStill]
          · rwa [List.append_cons]

/-- A connection that the program does not know yet is not told of. -/
theorem callbacks_unknown (hOther : p ∉ w.conns) (hPrivate : ∀ e ∈ events, e.isNotice = false ∧ e ≠ .onAccept)
    (more : List Event) : w.callbacks fatal p i (events ++ more) = w.callbacks fatal p (i + events.length) more := by
  induction events generalizing i with
  | nil => rfl
  | cons e events ih =>
      obtain ⟨⟨hNotice, hAccept⟩, hRest⟩ := List.forall_mem_cons.1 hPrivate
      have hPass : w.callback fatal p i e = .ok w := by
        unfold callback
        cases e with
        | sendto packet flags => simp only [if_neg hOther]
        | onAccept => exact absurd rfl hAccept
        | onRead bytes => cases hNotice
        | onError code => cases hNotice
        | onStateChange change => cases hNotice
        | _ => rfl
      rw [List.cons_append, callbacks, hPass]
      change w.callbacks fatal p (i + 1) (events ++ more) = _
      rw [ih hRest, List.length_cons, Nat.add_assoc, Nat.add_comm 1]

/-- A socket that was created for a SYN waits to be accepted, or is closed. -/
structure Fresh (p : Nat) (w u : Socket) (c : Conn) : Prop where
  backlog : (w.backlog.length < backlogSize ∧ c.closed = false ∧ u.backlog = w.backlog ++ [p]) ∨
    (backlogSize ≤ w.backlog.length ∧ c.closed = true ∧ u.backlog = w.backlog)
  known : c.destroyed = false
  written : c.bytesWritten = []

/-- The callbacks for a socket that was created for a SYN. -/
theorem callbacks_offered (fatal : Nat → Nat → Bool) (i : Nat) (hOther : p ∉ w.conns) (hOpen : w.closed = false)
    (hListens : Standing.unknown.listens events = some .known) :
    ∃ u c, w.callbacks fatal p i events = .ok u ∧ c.Tracks p events ∧ Fresh p w u c ∧
      u = { w with heap := Function.update w.heap p (some c), conns := p :: w.conns, backlog := u.backlog } := by
  obtain ⟨before, after, hPrivate, ⟨-, hSame⟩ | ⟨rfl, hKnown⟩⟩ := Standing.of_listens_unknown hListens
  · cases hSame
  have hBlank : ∀ e ∈ before ++ [.onAccept], e.isNotice = false := by
    intro e he
    rcases List.mem_append.1 he with hOld | hLast
    · exact (hPrivate e hOld).1
    · rw [List.mem_singleton.1 hLast]
      rfl
  have hAfter : ∀ (c : Conn) (v : Socket), v.heap p = some c → c.destroyed = false → p ∈ v.conns →
      c.Tracks p (before ++ [.onAccept]) → ∃ c', v.callbacks fatal p (i + before.length + 1) after = .ok (v.put p c') ∧
        c'.Tracks p (before ++ .onAccept :: after) ∧ c.Heard after c' ∧ c'.destroyed = false := by
    intro c v hGet hStill hMem hTracks
    obtain ⟨c', hRun, hTracks', hHeard, hGone⟩ := callbacks_known hGet hStill hMem hTracks hKnown
    exact ⟨c', hRun, by rwa [List.append_cons], hHeard, hGone⟩
  have hStart := Conn.tracks_ofSocket p hBlank
  rw [callbacks_unknown hOther hPrivate, callbacks]
  change ∃ u c, ((w.newConn p).pushBacklog p).bind (callbacks fatal p (i + before.length + 1) after) = .ok u ∧ _
  unfold pushBacklog
  rw [if_neg (by simp [newConn, hOpen])]
  split_ifs with hRoom
  · obtain ⟨c', hRun, hTracks, hHeard, hStill⟩ := hAfter (.ofSocket p) { w.newConn p with backlog := w.backlog ++ [p] }
      (Function.update_self ..) rfl (List.mem_cons_self ..) hStart
    refine ⟨_, c', hRun, hTracks, ⟨Or.inl ⟨hRoom, hHeard.closed, rfl⟩, hStill, hHeard.bytesWritten⟩, ?_⟩
    simp [put, newConn, hStill]
  · obtain ⟨c', hRun, hTracks, hHeard, hStill⟩ := hAfter (Conn.markClosed (.ofSocket p))
      ((w.newConn p).modify p Conn.markClosed) (by simp [modify, newConn]) rfl (List.mem_cons_self ..)
      ⟨hStart.us, hStart.stream, hStart.eof, hStart.connect, hStart.gone⟩
    refine ⟨_, c', hRun, hTracks, ⟨Or.inr ⟨Nat.le_of_not_lt hRoom, hHeard.closed, rfl⟩, hStill, hHeard.bytesWritten⟩, ?_⟩
    simp [put, modify, newConn, hStill]

/-- What the callbacks between two contexts have done to the `Conn` of `p`. -/
structure Told (before after : Context) (p : Nat) (c c' : Conn) (events : List Event) : Prop where
  log : after.logs p = before.logs p ++ events
  heard : c.Heard events c'
  known : c.destroyed = false → Standing.known.listens events = some (if c'.destroyed then .gone else .known)
  gone : c.destroyed = true → events = []
  tracks : c'.Tracks p (after.logs p)

/-- The map of the wrapper holds the connections that are not gone. -/
def Mapped (w : Socket) : Prop := ∀ p, p ∈ w.conns ↔ ∃ c, w.heap p = some c ∧ c.destroyed = false

/-- What a connection may tell between two contexts. -/
def Speaks (before after : Context) (p : Nat) (c : Conn) : Prop :=
  ∃ events, after.logs p = before.logs p ++ events ∧ (c.destroyed = true → events = []) ∧
    (c.destroyed = false → ∃ standing, Standing.known.listens events = some standing)

theorem Mapped.put (h : w.Mapped) (hGet : w.heap p = some c) (hKnown : c.destroyed = false) (c' : Conn) :
    (w.put p c').Mapped := by
  intro q
  by_cases hSame : q = p
  · subst hSame
    cases hGone : c'.destroyed with
    | false =>
        have hMem := (h q).2 ⟨c, hGet, hKnown⟩
        simp [Socket.put, hGone, hMem]
    | true => simp [Socket.put, hGone]
  · have hOld := h q
    cases hGone : c'.destroyed <;> simp [Socket.put, hGone, hSame, hOld]

/-- The callbacks for one connection. -/
theorem told_callbacks (fatal : Nat → Nat → Bool) {before after : Context} (hMapped : w.Mapped) (hGet : w.heap p = some c)
    (hTracks : c.Tracks p (before.logs p)) (hSpeaks : Speaks before after p c) :
    ∃ c' events, w.callbacks fatal p (before.logs p).length ((after.logs p).drop (before.logs p).length) = .ok (w.put p c') ∧
      (w.put p c').Mapped ∧ Told before after p c c' events := by
  obtain ⟨events, hLog, hSilent, hKnown⟩ := hSpeaks
  rw [hLog, List.drop_left]
  cases hGone : c.destroyed with
  | true =>
      obtain rfl := hSilent hGone
      have hAbsent : p ∉ w.conns := by
        rw [hMapped p, hGet]
        simp [hGone]
      have hSame : w.put p c = w := by
        have hFilter : w.conns.filter (· ≠ p) = w.conns := by
          refine List.filter_eq_self.2 fun q hq => decide_eq_true ?_
          rintro rfl
          exact hAbsent hq
        rw [Socket.put, hGone, if_pos rfl, hFilter, ← hGet, Function.update_eq_self]
      refine ⟨c, [], by rw [hSame]; rfl, by rwa [hSame], ⟨hLog, .refl c, fun hNot => ?_, fun _ => rfl, ?_⟩⟩
      · rw [hGone] at hNot
        cases hNot
      · rw [hLog, List.append_nil]
        exact hTracks
  | false =>
      obtain ⟨standing, hListens⟩ := hKnown hGone
      obtain ⟨c', hRun, hTracks', hHeard, hDone⟩ :=
        callbacks_known hGet hGone ((hMapped p).2 ⟨c, hGet, hGone⟩) hTracks hListens
      refine ⟨c', events, hRun, hMapped.put hGet hGone c', ⟨hLog, hHeard, fun _ => ?_, fun hNot => ?_, hLog ▸ hTracks'⟩⟩
      · rw [hListens, hDone]
        cases standing with
        | unknown => exact absurd hListens Standing.listens_ne_unknown
        | known => rfl
        | gone => rfl
      · rw [hGone] at hNot
        cases hNot

/-- The callbacks for the first `n` connections, all of which the program knows. -/
theorem told_replay (fatal : Nat → Nat → Bool) {before : Context} {n : Nat} (hMapped : w.Mapped)
    (hBorn : ∀ p < n, (w.heap p).isSome = true)
    (hTracks : ∀ p c, w.heap p = some c → c.Tracks p (before.logs p))
    (hSpeaks : ∀ p c, w.heap p = some c → Speaks before w.ctx p c) :
    ∃ u, (List.range n).foldlM (fun u p => u.callbacks fatal p (before.logs p).length
        ((w.ctx.logs p).drop (before.logs p).length)) w = .ok u ∧
      u = { w with heap := u.heap, conns := u.conns } ∧ u.Mapped ∧ (∀ p, n ≤ p → u.heap p = w.heap p) ∧
        ∀ p < n, ∀ c, w.heap p = some c → ∃ c' events, u.heap p = some c' ∧ Told before w.ctx p c c' events := by
  induction n with
  | zero => exact ⟨w, rfl, rfl, hMapped, fun _ _ => rfl, fun p hp => absurd hp (Nat.not_lt_zero p)⟩
  | succ n ih =>
      obtain ⟨u, hRun, hRest, hMapped', hLater, hTold⟩ := ih fun p hp => hBorn p (hp.trans n.lt_succ_self)
      obtain ⟨c, hGet⟩ := Option.isSome_iff_exists.1 (hBorn n n.lt_succ_self)
      obtain ⟨c', events, hNext, hMapped'', hLast⟩ := told_callbacks fatal hMapped' ((hLater n le_rfl).trans hGet)
        (hTracks n c hGet) (hSpeaks n c hGet)
      refine ⟨u.put n c', ?_, ?_, hMapped'', fun p hp => ?_, fun p hp c₁ hGet₁ => ?_⟩
      · rw [List.range_succ, List.foldlM_append, hRun]
        change (u.callbacks fatal n _ _).bind _ = _
        rw [hNext]
        rfl
      · rw [hRest]
        rfl
      · exact (Function.update_of_ne (Nat.ne_of_gt hp) ..).trans (hLater p (Nat.le_of_succ_le hp))
      · rcases Nat.lt_succ_iff_lt_or_eq.1 hp with hOld | rfl
        · obtain ⟨c₂, events₂, hGet₂, hTold₂⟩ := hTold p hOld c₁ hGet₁
          exact ⟨c₂, events₂, (Function.update_of_ne hOld.ne ..).trans hGet₂, hTold₂⟩
        · cases Option.some.inj (hGet.symm.trans hGet₁)
          exact ⟨c', events, Function.update_self .., hLast⟩

/-- The connection number `n` is the first that the program does not know. It may be offered to it. -/
inductive Offers (before after : Context) (n : Nat) : Prop where
  | none (hCount : after.allocated = n)
  | silent (hCount : after.allocated = n + 1) (hLog : before.logs n = [])
      (hListens : Standing.unknown.listens (after.logs n) = some .unknown)
  | known (hCount : after.allocated = n + 1) (hLog : before.logs n = [])
      (hListens : Standing.unknown.listens (after.logs n) = some .known)

/-- What the callbacks between two contexts have done to the wrapper. -/
structure Served (before : Context) (n : Nat) (w u : Socket) : Prop where
  rest : u = { w with heap := u.heap, conns := u.conns, backlog := u.backlog }
  mapped : u.Mapped
  told : ∀ p c, w.heap p = some c → ∃ c' events, u.heap p = some c' ∧ Told before w.ctx p c c' events
  others : ∀ p, n ≤ p → u.heap p ≠ none → p = n ∧ w.ctx.allocated = n + 1
  offered : (u.heap n = none ∧ u.backlog = w.backlog ∧
      (w.ctx.allocated = n + 1 → Standing.unknown.listens (w.ctx.logs n) = some .unknown)) ∨
    ∃ c, u.heap n = some c ∧ c.Tracks n (w.ctx.logs n) ∧ Fresh n w u c ∧
      Standing.unknown.listens (w.ctx.logs n) = some .known

/-- A socket that has said nothing to the program is not known to it. -/
theorem Served.absent {before : Context} {n : Nat} {u : Socket} (h : Served before n w u)
    (hListens : Standing.unknown.listens (w.ctx.logs n) = some .unknown) : u.heap n = none := by
  rcases h.offered with ⟨hNone, -⟩ | ⟨c, -, -, -, hKnown⟩
  · exact hNone
  · cases hListens.symm.trans hKnown

theorem served_replay (fatal : Nat → Nat → Bool) {before : Context} {n : Nat} (hOpen : w.closed = false) (hMapped : w.Mapped)
    (hBorn : ∀ p, (w.heap p).isSome = true ↔ p < n)
    (hTracks : ∀ p c, w.heap p = some c → c.Tracks p (before.logs p))
    (hSpeaks : ∀ p c, w.heap p = some c → Speaks before w.ctx p c) (hOffers : Offers before w.ctx n) :
    ∃ u, replay fatal before w = .ok u ∧ Served before n w u := by
  obtain ⟨u, hRun, hRest, hMapped', hLater, hTold⟩ :=
    told_replay fatal hMapped (fun p hp => (hBorn p).2 hp) hTracks hSpeaks
  have hNone : ∀ p, n ≤ p → w.heap p = none := by
    intro p hp
    by_contra hSome
    exact absurd ((hBorn p).1 (Option.isSome_iff_ne_none.2 hSome)) (Nat.not_lt.2 hp)
  have hKnown : ∀ p c, w.heap p = some c → p < n := fun p c hGet => (hBorn p).1 (by rw [hGet]; rfl)
  have hAbsent : n ∉ u.conns := by
    rw [hMapped' n, hLater n le_rfl, hNone n le_rfl]
    simp
  have hOpen' : u.closed = false := by rwa [hRest]
  have hBacklog : u.backlog = w.backlog := by rw [hRest]
  have hUnborn : ∀ p, n ≤ p → u.heap p = none := fun p hp => (hLater p hp).trans (hNone p hp)
  have hSilent : (w.ctx.allocated = n + 1 → Standing.unknown.listens (w.ctx.logs n) = some .unknown) → Served before n w u :=
    fun hListens => ⟨hRest.trans (by rw [hBacklog]), hMapped', fun p c hGet => hTold p (hKnown p c hGet) c hGet,
      fun p hp hSome => absurd (hUnborn p hp) hSome, Or.inl ⟨hUnborn n le_rfl, hBacklog, hListens⟩⟩
  unfold replay
  cases hOffers with
  | none hCount =>
      rw [hCount]
      exact ⟨u, hRun, hSilent fun hMore => absurd (hCount.symm.trans hMore) (Nat.succ_ne_self n).symm⟩
  | silent hCount hLog hListens =>
      refine ⟨u, ?_, hSilent fun _ => hListens⟩
      rw [hCount, List.range_succ, List.foldlM_append, hRun]
      change (u.callbacks fatal n _ _).bind _ = _
      obtain ⟨first, after, hPrivate, ⟨hEq, -⟩ | ⟨-, hBad⟩⟩ := Standing.of_listens_unknown hListens
      · rw [hLog, List.length_nil, List.drop_zero, hEq, ← List.append_nil first, callbacks_unknown hAbsent hPrivate]
        rfl
      · exact absurd hBad Standing.listens_ne_unknown
  | known hCount hLog hListens =>
      obtain ⟨v, c, hNext, hTracks', hFresh, hEq⟩ :=
        callbacks_offered fatal 0 hAbsent hOpen' hListens
      have hHeap : v.heap = Function.update u.heap n (some c) := congrArg Socket.heap hEq
      have hConns : v.conns = n :: u.conns := congrArg Socket.conns hEq
      refine ⟨v, ?_, ⟨?_, ?_, ?_, ?_, Or.inr ⟨c, ?_, hTracks', ?_, hListens⟩⟩⟩
      · rw [hCount, List.range_succ, List.foldlM_append, hRun]
        change (u.callbacks fatal n _ _).bind _ = _
        rw [hLog, List.length_nil, List.drop_zero, hNext]
        rfl
      · rw [hEq, hRest]
      · intro p
        rw [hConns, hHeap, List.mem_cons, hMapped' p]
        by_cases hSame : p = n
        · subst hSame
          simp [hFresh.known]
        · simp [hSame]
      · intro p c₁ hGet
        obtain ⟨c', events, hGet', hTold'⟩ := hTold p (hKnown p c₁ hGet) c₁ hGet
        refine ⟨c', events, ?_, hTold'⟩
        rw [hHeap, Function.update_of_ne (hKnown p c₁ hGet).ne]
        exact hGet'
      · intro p hp hSome
        refine ⟨?_, hCount⟩
        by_contra hOther
        rw [hHeap, Function.update_of_ne hOther] at hSome
        exact hSome (hUnborn p hp)
      · rw [hHeap, Function.update_self]
      · exact ⟨hBacklog ▸ hFresh.backlog, hFresh.known, hFresh.written⟩

end Socket

end Wrapper

end Utp
