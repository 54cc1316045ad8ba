import Utp.Wrapper.Invariant

/-! What the sections of the wrapper keep, and what they leave to those that wait. -/
namespace Utp

/-- An operation that is admitted and comes to an end is a step. -/
theorem Context.step_of_admits {env : Env} {op : Op} {c c' : Context} (hAdmits : c.admits op = true)
    (hRuns : c.perform1 env op = some c') : c.step env op = some c' := by
  rw [Context.step, if_pos hAdmits, hRuns]

/-- The number that a write returns is never negative. -/
theorem Conn.utpWrite_nonneg (env : Env) (b : List UInt8) (s : Conn) : 0 ≤ (s.utpWrite env b).1 := by
  unfold utpWrite utpWritev
  rw [if_neg (by simp)]
  split_ifs
  · exact le_rfl
  · exact le_rfl
  · exact Int.natCast_nonneg _

namespace Wrapper

namespace Conn

/-- Two states of a `Conn` that say the same of its connection. -/
structure Alike (c c' : Conn) : Prop where
  us : c'.us = c.us
  destroyed : c'.destroyed = c.destroyed
  stream : c'.bytesRead ++ c'.readBuf = c.bytesRead ++ c.readBuf
  eof : c'.gotEOF = c.gotEOF
  connect : c'.gotConnect = c.gotConnect

/-- What is tracked are the fields that two alike records share. -/
theorem Tracks.alike {p : Nat} {log : List Event} {c c' : Conn} (h : c.Tracks p log) (hAlike : c.Alike c') :
    c'.Tracks p log where
  us := by rw [hAlike.us, hAlike.destroyed, h.us]
  stream := hAlike.stream.trans h.stream
  eof := by rw [hAlike.eof, h.eof]
  connect := by rw [hAlike.connect, h.connect]
  gone := by rw [hAlike.destroyed, h.gone]

/-- Closing sets a flag. -/
theorem alike_markClosed (c : Conn) : c.Alike c.markClosed := ⟨rfl, rfl, rfl, rfl, rfl⟩

/-- A broadcast is counted. -/
theorem alike_broadcast (c : Conn) : c.Alike c.broadcast := ⟨rfl, rfl, rfl, rfl, rfl⟩

/-- What was written is counted. -/
theorem alike_wrote (bytes : List UInt8) (c : Conn) : c.Alike (c.wrote bytes) := ⟨rfl, rfl, rfl, rfl, rfl⟩

/-- What was read leaves the buffer, and is counted. -/
theorem alike_take (n : Nat) (c : Conn) : c.Alike (c.take n) where
  us := rfl
  destroyed := rfl
  stream := by
    change (c.bytesRead ++ c.readBuf.take n) ++ c.readBuf.drop n = _
    rw [List.append_assoc, List.take_append_drop]
  eof := rfl
  connect := rfl

/-- A `Conn` that has nothing new for those that wait. -/
structure Unmoved (c c' : Conn) : Prop where
  eof : c'.gotEOF = c.gotEOF
  connect : c'.gotConnect = c.gotConnect
  destroyed : c'.destroyed = c.destroyed
  closed : c'.closed = c.closed
  err : c'.err = c.err
  empty : c.readBuf = [] → c'.readBuf = []

theorem Unmoved.refl (c : Conn) : c.Unmoved c := ⟨rfl, rfl, rfl, rfl, rfl, id⟩

theorem Unmoved.trans {c c' c'' : Conn} (hFirst : c.Unmoved c') (hSecond : c'.Unmoved c'') : c.Unmoved c'' where
  eof := hSecond.eof.trans hFirst.eof
  connect := hSecond.connect.trans hFirst.connect
  destroyed := hSecond.destroyed.trans hFirst.destroyed
  closed := hSecond.closed.trans hFirst.closed
  err := hSecond.err.trans hFirst.err
  empty hNone := hSecond.empty (hFirst.empty hNone)

/-- The conditions under which those that wait go on to wait are the same as before. -/
theorem Unmoved.errors {c c' : Conn} (h : c.Unmoved c') (flag : Bool) : c'.readError flag = c.readError flag ∧
    c'.writeError flag = c.writeError flag ∧ c'.dialOutcome flag = c.dialOutcome flag := by
  refine ⟨?_, ?_, ?_⟩
  · rw [readError, readError, h.eof, h.err, h.destroyed, h.closed]
  · rw [writeError, writeError, h.err, h.destroyed, h.closed]
  · rw [dialOutcome, dialOutcome, h.closed, h.err, h.connect]

end Conn

/-- A library socket that has not become writable. -/
structure Idles (sock sock' : Utp.Socket) : Prop where
  state : sock'.state = .connected → sock.state = .connected
  fin : sock.finSent = true → sock'.finSent = true

namespace Socket

variable {env : Env} {fatal : Nat → Nat → Bool} {op : Op} {n : Nat} {w u v : Socket} {ctx : Context} {p : Nat} {c c' : Conn}

/-- A modification is seen at its own object. -/
theorem heap_modify_self (hGet : w.heap p = some c) (f : Conn → Conn) : (w.modify p f).heap p = some (f c) := by
  rw [modify_eq hGet]
  exact Function.update_self ..

/-- And at no other one. -/
theorem heap_modify_of_ne {q : Nat} (hOther : p ≠ q) (f : Conn → Conn) : (w.modify q f).heap p = w.heap p :=
  Function.update_of_ne hOther ..

/-- Those that wait at the connection `p` were told if there is anything new for them. -/
def Calm (p : Nat) (w u : Socket) : Prop :=
  ∀ c, w.heap p = some c → ∃ c', u.heap p = some c' ∧ c.broadcasts ≤ c'.broadcasts ∧
    (c'.broadcasts = c.broadcasts → c.Unmoved c' ∧ ∀ sock, w.ctx.Holds p sock → ∃ sock', u.ctx.Holds p sock' ∧ Idles sock sock')

theorem Calm.refl (p : Nat) (w : Socket) : Calm p w w := fun c hGet =>
  ⟨c, hGet, le_rfl, fun _ => ⟨.refl c, fun sock hSock => ⟨sock, hSock, id, id⟩⟩⟩

/-- If nothing was broadcast over both, nothing was broadcast over either of them. -/
theorem Calm.trans (hFirst : Calm p w u) (hSecond : Calm p u v) : Calm p w v := by
  intro c hGet
  obtain ⟨c', hGet', hMore, hSame⟩ := hFirst c hGet
  obtain ⟨c'', hGet'', hMore', hSame'⟩ := hSecond c' hGet'
  refine ⟨c'', hGet'', hMore.trans hMore', fun hEq => ?_⟩
  obtain ⟨hUnmoved, hIdles⟩ := hSame (by omega)
  obtain ⟨hUnmoved', hIdles'⟩ := hSame' (by omega)
  refine ⟨hUnmoved.trans hUnmoved', fun sock hSock => ?_⟩
  obtain ⟨sock', hSock', hFirst⟩ := hIdles sock hSock
  obtain ⟨sock'', hSock'', hSecond⟩ := hIdles' sock' hSock'
  exact ⟨sock'', hSock'', fun hUp => hFirst.state (hSecond.state hUp), fun hFin => hSecond.fin (hFirst.fin hFin)⟩

/-- Only the `Conn` of `q` is changed. -/
theorem Calm.of_modify (hCtx : u.ctx = w.ctx) (q : Nat) (f : Conn → Conn) (hHeap : u.heap = (w.modify q f).heap)
    (hCalm : ∀ c, c.broadcasts ≤ (f c).broadcasts ∧ ((f c).broadcasts = c.broadcasts → c.Unmoved (f c))) : Calm p w u := by
  intro c hGet
  have hIdles : ∀ sock, w.ctx.Holds p sock → ∃ sock', u.ctx.Holds p sock' ∧ Idles sock sock' := fun sock hSock =>
    ⟨sock, hCtx ▸ hSock, id, id⟩
  by_cases hSame : p = q
  · subst hSame
    exact ⟨f c, hHeap ▸ heap_modify_self hGet f, (hCalm c).1, fun hEq => ⟨(hCalm c).2 hEq, hIdles⟩⟩
  · exact ⟨c, hHeap ▸ (heap_modify_of_ne hSame f).trans hGet, le_rfl, fun _ => ⟨.refl c, hIdles⟩⟩

/-- Nothing that those that wait could see is changed. -/
theorem Calm.of_heap (hCtx : u.ctx = w.ctx) (hHeap : u.heap = w.heap) : Calm p w u := by
  intro c hGet
  exact ⟨c, hHeap ▸ hGet, le_rfl, fun _ => ⟨.refl c, fun sock hSock => ⟨sock, hCtx ▸ hSock, id, id⟩⟩⟩

/-- The callbacks of an operation broadcast to those that wait. -/
theorem Served.calm (hServed : Served w.ctx n { w with ctx := ctx } u) (h : w.Sound env n) (hOpen : w.closed = false)
    (hStep : w.ctx.step env op = some ctx) : Calm p w u := by
  intro c hGet
  obtain ⟨c', events, hGet', hTold⟩ := hServed.told p c hGet
  refine ⟨c', hGet', hTold.heard.broadcasts, fun hEq => ?_⟩
  have hSilent : ∀ e ∈ events, e.isNotice = false := by
    intro e he
    by_contra hNotice
    have hMore := hTold.heard.notified ⟨e, he, eq_true_of_ne_false hNotice⟩
    omega
  have hCtx : u.ctx = ctx := by rw [hServed.rest]
  refine ⟨(hTold.heard.same hEq).symm ▸ .refl c, fun sock hSock => ?_⟩
  rw [hCtx]
  cases h.fate hOpen hStep hGet hTold with
  | gone hBefore hAfter hNone => exact absurd (hSock.1.symm.trans (h.gone p c hGet hBefore)) (by simp)
  | ended hBefore hAfter hNone => exact absurd (hAfter.symm.trans ((congrArg Conn.destroyed (hTold.heard.same hEq)).trans hBefore)) (by simp)
  | goesOn sock₀ sock' hBefore hAfter hSock₀ hSock' hTells =>
      cases Option.some.inj (hSock.1.symm.trans hSock₀.1)
      refine ⟨sock', hSock', fun hUp => ?_, hTells.fin⟩
      refine (hTells.woken (h.plain hOpen) hUp).resolve_right fun ⟨e, he, hWakes⟩ => ?_
      have hNotice := hSilent e he
      cases e <;> first | cases hWakes | cases hNotice

/-- Where a `Conn` comes from when that of `p` was changed. -/
theorem of_heap_modify {q : Nat} {f : Conn → Conn} (hGet' : (w.modify p f).heap q = some c') :
    ∃ c, w.heap q = some c ∧ c' = if q = p then f c else c := by
  by_cases hSame : q = p
  · subst hSame
    have hHere : (w.modify q f).heap q = (w.heap q).map f := Function.update_self ..
    obtain ⟨c, hGet, hEq⟩ := Option.map_eq_some_iff.1 (hHere.symm.trans hGet')
    exact ⟨c, hGet, by rw [if_pos rfl, hEq]⟩
  · exact ⟨c', (heap_modify_of_ne hSame f).symm.trans hGet', (if_neg hSame).symm⟩

/-- The `Conn` of `p` is changed, but for what it says of its connection. -/
theorem Sound.modify (h : w.Sound env n) (p : Nat) {f : Conn → Conn} (hAlike : ∀ c, Conn.Alike c (f c)) :
    (w.modify p f).Sound env n := by
  have hEach : ∀ (q : Nat) (c : Conn), c.Alike (if q = p then f c else c) := by
    intro q c
    split_ifs
    · exact hAlike c
    · exact ⟨rfl, rfl, rfl, rfl, rfl⟩
  have hSource : ∀ q c', (w.modify p f).heap q = some c' → ∃ c, w.heap q = some c ∧ c.Alike c' := by
    intro q c' hGet'
    obtain ⟨c, hGet, rfl⟩ := of_heap_modify hGet'
    exact ⟨c, hGet, hEach q c⟩
  have hTarget : ∀ q c, w.heap q = some c → ∃ c', (w.modify p f).heap q = some c' ∧ c.Alike c' := by
    intro q c hGet
    by_cases hSame : q = p
    · subst hSame
      exact ⟨f c, heap_modify_self hGet f, hAlike c⟩
    · exact ⟨c, (heap_modify_of_ne hSame f).trans hGet, rfl, rfl, rfl, rfl, rfl⟩
  refine ⟨h.freed, h.reach, h.plain, h.count, fun q => ?_, fun q => (h.mapped q).trans ⟨?_, ?_⟩, fun q c' hGet' => ?_,
    fun q c' hGet' hKnown => ?_, fun q c' hGet' hGone => ?_, h.backlog⟩
  · rw [← h.born q, Option.isSome_iff_exists, Option.isSome_iff_exists]
    exact ⟨fun ⟨c', hGet'⟩ => (hSource q c' hGet').imp fun c hc => hc.1,
      fun ⟨c, hGet⟩ => (hTarget q c hGet).imp fun c' hc' => hc'.1⟩
  · rintro ⟨c, hGet, hKnown⟩
    obtain ⟨c', hGet', hSame⟩ := hTarget q c hGet
    exact ⟨c', hGet', hSame.destroyed.trans hKnown⟩
  · rintro ⟨c', hGet', hKnown⟩
    obtain ⟨c, hGet, hSame⟩ := hSource q c' hGet'
    exact ⟨c, hGet, hSame.destroyed.symm.trans hKnown⟩
  · obtain ⟨c, hGet, hSame⟩ := hSource q c' hGet'
    exact (h.tracks q c hGet).alike hSame
  · obtain ⟨c, hGet, hSame⟩ := hSource q c' hGet'
    exact h.known q c hGet (hSame.destroyed.symm.trans hKnown)
  · obtain ⟨c, hGet, hSame⟩ := hSource q c' hGet'
    exact h.gone q c hGet (hSame.destroyed.symm.trans hGone)

/-- An operation on the connection `p`, and the change of its `Conn` that comes with it. -/
theorem Called.modify (h : Called env op w u) {f : Conn → Conn} (hAlike : ∀ c, Conn.Alike c (f c))
    (hAsks : ∀ q, op.asks q → q = p ∧ ∀ c, (f c).closed = true) (hClosed : ∀ c, (f c).closed = false → c.closed = false)
    (hWrites : ∀ q c, u.heap q = some c →
      (if q = p then f c else c).bytesWritten = c.bytesWritten ++ w.ctx.writes env op q)
    (hAnswers : w.Answers env u) : (u.modify p f).Ok env := by
  refine ⟨h.sound.modify p hAlike, fun q c' hGet' => ?_, fun q c' sock hGet' hSock => ?_⟩
  · obtain ⟨c, hGet, rfl⟩ := of_heap_modify hGet'
    rw [hWrites q c hGet]
    exact h.written q c hGet
  · obtain ⟨c, hGet, rfl⟩ := of_heap_modify hGet'
    intro hUnclosed
    by_cases hSame : q = p
    · rw [if_pos hSame] at hUnclosed
      refine h.settled hAnswers q c sock (fun hAsked => ?_) hGet hSock (hClosed c hUnclosed)
      exact absurd (hUnclosed.symm.trans ((hAsks q hAsked).2 c)) (by simp)
    · rw [if_neg hSame] at hUnclosed
      exact h.settled hAnswers q c sock (fun hAsked => hSame (hAsks q hAsked).1) hGet hSock hUnclosed

/-- A modification that is alike keeps a sound state. -/
theorem Ok.modify (h : w.Ok env) (p : Nat) {f : Conn → Conn} (hAlike : ∀ c, Conn.Alike c (f c))
    (hClosed : ∀ c, (f c).closed = false → c.closed = false) (hWritten : ∀ c, (f c).bytesWritten = c.bytesWritten) :
    (w.modify p f).Ok env := by
  refine ⟨h.toSound.modify p hAlike, fun q c' hGet' => ?_, fun q c' sock hGet' hSock hUnclosed => ?_⟩
  · obtain ⟨c, hGet, rfl⟩ := of_heap_modify hGet'
    split_ifs
    · exact (hWritten c).trans (h.written q c hGet)
    · exact h.written q c hGet
  · obtain ⟨c, hGet, rfl⟩ := of_heap_modify hGet'
    refine h.settled q c sock hGet hSock ?_
    split_ifs at hUnclosed
    · exact hClosed c hUnclosed
    · exact hUnclosed

/-- The parts of a socket that are not about its connections. -/
theorem Ok.aside (h : w.Ok env) (hEq : u = { w with
      backlog := u.backlog
      nonUtpReads := u.nonUtpReads
      gotUtp := u.gotUtp
      acksScheduled := u.acksScheduled }) (hBacklog : u.backlog.Sublist w.backlog) : u.Ok env := by
  rw [hEq]
  exact ⟨⟨h.freed, h.reach, h.plain, h.count, h.born, h.mapped, h.tracks, h.known, h.gone,
    hBacklog.length_le.trans h.backlog.1, fun p hp => h.backlog.2 p (hBacklog.subset hp)⟩, h.written, h.settled⟩

end Socket

end Wrapper

end Utp
