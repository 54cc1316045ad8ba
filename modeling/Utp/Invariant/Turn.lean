import Utp.Invariant.Table

/-! Every operation on a context is a sequence of turns. A turn runs one socket, or
creates, dials, accepts or deletes one, and keeps the invariant of the context. -/
namespace Utp

open Wrapping BackPointers

theorem Core.clock {s : Conn} (h : Core s) (currentMs tick : Nat) :
    Core { s with currentMs := currentMs, tick := tick } :=
  h.of_view rfl (Clean.of_log rfl)

/-- A run of one of the functions of a socket. A packet is processed by exactly one. -/
structure Ran (env : Env) (cause : Cause) (s s' : Conn) : Prop where
  path : Path env cause s s'
  packet : ∀ r, cause = .packet r →
    r.d.header.type ≠ stSyn ∧ s' = s.utpProcessIncoming env r.d false

namespace Context

/-- Why the socket `p` is run by an operation. -/
def Admitted (op : Op) (c : Context) (p : Nat) (sock : Socket) : Cause → Prop
  | .call => True
  | .write => ∃ iovecs, op = .writev p iovecs
  | .asked => (∃ how, op = .shutdown p how) ∨ op = .close p
  | .timer => ∃ order, op = .checkTimeouts order
  | .drained => op = .readDrained p
  | .deferred => p ∈ c.ackSockets
  | .packet r => ∃ addr, op = .processUdp r.d addr ∧ Conn.ParsedAs r.d r ∧
      utpVersion r.d.header = 1 ∧ r.d.header.type ≠ stReset ∧ r.d.header.type ≠ stSyn ∧
      sock.addr = addr ∧ sock.connIdRecv = r.d.header.connid
  | .syn _ => False

/-- The socket `p` as it is when its dialling call returns. -/
def dialled (env : Env) (p : Nat) (sock : Socket) (addr : PackedSockAddr) (seed : Nat)
    (c : Context) : Conn :=
  ((c.enter p sock).initializeSocket env addr seed seed (seed + 1)).connectSocket env

/-- One turn of an operation. -/
inductive Turn (env : Env) (op : Op) : Context → Context → Prop where
  | run (c : Context) (p : Nat) (sock : Socket) (cause : Cause) (s' : Conn)
      (hSock : c.Holds p sock) (hCause : c.Admitted op p sock cause)
      (hRan : Ran env cause (c.enter p sock) s') : Turn env op c (c.leave p s')
  | option (c : Context) (p : Nat) (sock : Socket) (opt : SockOpt) (val : Int)
      (hSock : c.sockets p = some sock) :
      Turn env op c (c.leave p ((c.enter p sock).utpSetsockopt opt val))
  | create (c : Context) : Turn env op c c.create
  | dial (c : Context) (p : Nat) (sock : Socket) (addr : PackedSockAddr) (seed draws : Nat)
      (hOp : op = .connect p addr draws) (hSock : c.sockets p = some sock)
      (hNew : sock.state = .uninitialized) (hSeed : seed < 65536)
      (hFree : c.lookup ⟨addr, seed⟩ = none) :
      Turn env op c ((c.addKey ⟨addr, seed⟩ p).leave p (c.dialled env p sock addr seed))
  | accept (c : Context) (p : Nat) (sock : Socket) (d : Datagram) (addr : PackedSockAddr)
      (hOp : op = .processUdp d addr) (hVersion : utpVersion d.header = 1)
      (hType : d.header.type = stSyn) (hSock : c.sockets p = some sock)
      (hNew : sock.state = .uninitialized) (hFree : c.lookup ⟨addr, d.header.connid + 1⟩ = none) :
      Turn env op c ((c.addKey ⟨addr, d.header.connid + 1⟩ p).leave p
        ((c.enter p sock).acceptSocket env d addr))
  | delete (c : Context) (p : Nat) (sock : Socket) (hSock : c.Holds p sock)
      (hState : sock.state = .destroy) : Turn env op c (c.delete p)
  | cache (c : Context) (p : Nat) (sock : Socket) (hSock : c.Holds p sock) :
      Turn env op c { c with lastUtpSocket := some p }
  | aside (c : Context) (currentMs tick lastCheck targetDelay optSndbuf optRcvbuf : Nat)
      (rstInfo : List RstInfo) (log : List (PackedSockAddr × Event)) :
      Turn env op c { c with
        currentMs := currentMs
        tick := tick
        lastCheck := lastCheck
        targetDelay := targetDelay
        optSndbuf := optSndbuf
        optRcvbuf := optRcvbuf
        rstInfo := rstInfo
        log := log }

theorem lookup_isSome_of_mem {key : UTPSocketKey} {p : Nat} {c : Context}
    (h : (key, p) ∈ c.utpSockets) : c.lookup key ≠ none := by
  intro hNone
  have hAbsent := List.lookup_eq_none_iff.1 hNone (key, p) h
  simp at hAbsent

theorem mem_of_lookup {key : UTPSocketKey} {p : Nat} {c : Context} (h : c.lookup key = some p) :
    (key, p) ∈ c.utpSockets := by
  obtain ⟨left, right, hSplit, -⟩ := List.lookup_eq_some_iff.1 h
  rw [hSplit]
  exact List.mem_append_right _ (List.mem_cons_self ..)

namespace Ok

variable {c : Context} {p : Nat} {sock : Socket}

/-- Two sockets with one key are the same socket. -/
theorem key_injective (h : c.Ok) {q : Nat} {sock' : Socket} (hp : c.Holds p sock)
    (hq : c.Holds q sock') (hKey : sock.key = sock'.key) : p = q := by
  have hMem := h.listed p sock hp
  have hMem' := h.listed q sock' hq
  rw [hKey] at hMem
  exact congrArg Prod.snd (List.inj_on_of_nodup_map h.unique hMem hMem' rfl)

/-- The table finds every socket under its key. -/
theorem lookup_key (h : c.Ok) (hp : c.Holds p sock) : c.lookup sock.key = some p := by
  have hMem := h.listed p sock hp
  cases hFound : c.lookup sock.key with
  | none => exact absurd hFound (lookup_isSome_of_mem hMem)
  | some q =>
      have hEq := List.inj_on_of_nodup_map h.unique (mem_of_lookup hFound) hMem rfl
      exact congrArg some (congrArg Prod.snd hEq)

theorem holds_of_lookup (h : c.Ok) {key : UTPSocketKey} (hFound : c.lookup key = some p) :
    ∃ sock, c.Holds p sock ∧ key = sock.key :=
  h.entry key p (mem_of_lookup hFound)

/-- Write back a socket together with a table that differs from the old one at
most in the entries of this socket. -/
theorem store (h : c.Ok) (hSock : c.sockets p = some sock) (table : List (UTPSocketKey × Nat))
    {s : Conn} (hCore : Core s) (hConnect : s.onConnectSet = c.onConnectSet)
    (hUnique : (table.map Prod.fst).Nodup)
    (hOthers : ∀ key q, q ≠ p → ((key, q) ∈ table ↔ (key, q) ∈ c.utpSockets))
    (hSelf : ∀ key, (key, p) ∈ table ↔ s.Live ∧ key = s.toSocket.key)
    (hLive : sock.state ≠ .uninitialized → s.Live)
    (hNew : ¬s.Live → s.toSocket.Pristine ∧ s.log = []) :
    ({ c with utpSockets := table }.leave p s).Ok := by
  obtain ⟨acks, ida, hEq, hAcks⟩ := leave_eq p s { c with utpSockets := table }
  obtain ⟨hLinked, hMem⟩ := hAcks h.linked
  rw [hEq]
  have hNow : Function.update c.sockets p (some s.toSocket) p = some s.toSocket :=
    Function.update_self ..
  have hHolds : ∀ q sock', c.Holds q sock' → ∃ sock'', Function.update c.sockets p (some s.toSocket) q =
      some sock'' ∧ sock''.state ≠ .uninitialized := by
    intro q sock' hq
    by_cases hSame : q = p
    · subst hSame
      rw [Function.update_self]
      refine ⟨_, rfl, hLive ?_⟩
      rw [Option.some.inj (hSock.symm.trans hq.1)]
      exact hq.2
    · rw [Function.update_of_ne hSame]
      exact ⟨sock', hq⟩
  constructor
  · exact hUnique
  · intro key q hEntry
    by_cases hSame : q = p
    · subst hSame
      obtain ⟨hUp, hKey⟩ := (hSelf key).1 hEntry
      exact ⟨s.toSocket, ⟨Function.update_self .., hUp⟩, hKey⟩
    · obtain ⟨sock', hq, hKey⟩ := h.entry key q ((hOthers key q hSame).1 hEntry)
      exact ⟨sock', ⟨(Function.update_of_ne hSame ..).trans hq.1, hq.2⟩, hKey⟩
  · rintro q sock' ⟨hGet, hUp⟩
    by_cases hSame : q = p
    · subst hSame
      cases Option.some.inj (hNow.symm.trans hGet)
      exact (hSelf _).2 ⟨hUp, rfl⟩
    · exact (hOthers _ q hSame).2
        (h.listed q sock' ⟨(Function.update_of_ne hSame ..).symm.trans hGet, hUp⟩)
  · intro q sock' hGet
    by_cases hSame : q = p
    · subst hSame
      exact h.allocated q sock hSock
    · exact h.allocated q sock' ((Function.update_of_ne hSame ..).symm.trans hGet)
  · intro q sock' hGet hState
    by_cases hSame : q = p
    · subst hSame
      cases Option.some.inj (hNow.symm.trans hGet)
      obtain ⟨hPristine, hLog⟩ := hNew (not_not_intro hState)
      exact ⟨hPristine, (Function.update_self ..).trans hLog⟩
    · obtain ⟨hPristine, hLog⟩ :=
        h.pristine q sock' ((Function.update_of_ne hSame ..).symm.trans hGet) hState
      exact ⟨hPristine, (Function.update_of_ne hSame ..).trans hLog⟩
  · intro q hCached
    obtain ⟨sock', hq⟩ := h.cached q hCached
    exact hHolds q sock' hq
  · exact hLinked
  · intro q hq
    rcases hMem q hq with hOld | ⟨rfl, hScheduled⟩
    · obtain ⟨sock', hq⟩ := h.acking q hOld
      exact hHolds q sock' hq
    · have hUp : s.Live := by
        by_contra hDown
        rw [(hNew hDown).2] at hScheduled
        exact nomatch hScheduled
      exact ⟨s.toSocket, Function.update_self .., hUp⟩
  · intro q sock' hGet
    by_cases hSame : q = p
    · subst hSame
      cases Option.some.inj (hNow.symm.trans hGet)
      refine hCore.of_view ?_ (Clean.of_log (Function.update_self ..))
      exact congrArg (fun b => { s.view with onConnectSet := b }) hConnect.symm
    · have hOld := h.core q sock' ((Function.update_of_ne hSame ..).symm.trans hGet)
      exact hOld.of_view rfl (Clean.of_log (Function.update_of_ne hSame ..))

/-- Write back a socket that has kept its place in the table. -/
theorem leave (h : c.Ok) (hSock : c.Holds p sock) {s : Conn} (hCore : Core s) (hLive : s.Live)
    (hSame : s.identity = (c.enter p sock).identity) : (c.leave p s).Ok := by
  have hKey : s.toSocket.key = sock.key :=
    congrArg (fun i : Identity => (⟨i.addr, i.connIdRecv⟩ : UTPSocketKey)) hSame
  refine h.store hSock.1 c.utpSockets hCore (congrArg Identity.onConnectSet hSame) h.unique
    (fun _ _ _ => Iff.rfl) ?_ (fun _ => hLive) (fun hDown => absurd hLive hDown)
  intro key
  constructor
  · intro hEntry
    obtain ⟨sock', hHolds, rfl⟩ := h.entry key p hEntry
    cases Option.some.inj (hSock.1.symm.trans hHolds.1)
    exact ⟨hLive, hKey.symm⟩
  · rintro ⟨-, rfl⟩
    rw [hKey]
    exact h.listed p sock hSock

/-- Write back a socket that enters the table. -/
theorem enlist (h : c.Ok) (hSock : c.sockets p = some sock) (hNew : sock.state = .uninitialized)
    {s : Conn} (hCore : Core s) (hLive : s.Live) (hConnect : s.onConnectSet = c.onConnectSet)
    (hFree : c.lookup s.toSocket.key = none) : ((c.addKey s.toSocket.key p).leave p s).Ok := by
  have hAbsent : ∀ key, (key, p) ∉ c.utpSockets := by
    intro key hEntry
    obtain ⟨sock', hHolds, -⟩ := h.entry key p hEntry
    cases Option.some.inj (hSock.symm.trans hHolds.1)
    exact hHolds.2 hNew
  refine h.store hSock _ hCore hConnect ?_ ?_ ?_ (fun _ => hLive) (fun hDown => absurd hLive hDown)
  · refine List.nodup_cons.2 ⟨?_, h.unique⟩
    intro hMem
    obtain ⟨⟨key, q⟩, hEntry, rfl⟩ := List.mem_map.1 hMem
    exact lookup_isSome_of_mem hEntry hFree
  · intro key q hOther
    constructor
    · intro hEntry
      rcases List.mem_cons.1 hEntry with hHead | hTail
      · exact absurd (congrArg Prod.snd hHead) hOther
      · exact hTail
    · exact List.mem_cons_of_mem _
  · intro key
    constructor
    · intro hEntry
      rcases List.mem_cons.1 hEntry with hHead | hTail
      · exact ⟨hLive, congrArg Prod.fst hHead⟩
      · exact absurd hTail (hAbsent key)
    · rintro ⟨-, rfl⟩
      exact List.mem_cons_self ..

theorem create (h : c.Ok) : c.create.Ok := by
  have hFresh : ∀ q sock', c.sockets q = some sock' → q ≠ c.allocated :=
    fun q sock' hq => Nat.ne_of_lt (h.allocated q sock' hq)
  have hKeep : ∀ q sock', c.Holds q sock' → c.create.Holds q sock' :=
    fun q sock' hq => ⟨(Function.update_of_ne (hFresh q sock' hq.1) ..).trans hq.1, hq.2⟩
  have hNow : c.create.sockets c.allocated =
      some (utpCreateSocket c.targetDelay c.optSndbuf c.optRcvbuf) := Function.update_self ..
  have hPristine : (utpCreateSocket c.targetDelay c.optSndbuf c.optRcvbuf).Pristine :=
    ⟨_, _, _, _, rfl⟩
  have hLog : c.create.logs c.allocated = [] := Function.update_self ..
  have hBack : ∀ q sock', c.create.sockets q = some sock' → q ≠ c.allocated →
      c.sockets q = some sock' := fun q sock' hq hOther => (Function.update_of_ne hOther ..).symm.trans hq
  constructor
  · exact h.unique
  · intro key q hEntry
    obtain ⟨sock', hq, hKey⟩ := h.entry key q hEntry
    exact ⟨sock', hKeep q sock' hq, hKey⟩
  · rintro q sock' ⟨hGet, hUp⟩
    by_cases hSame : q = c.allocated
    · subst hSame
      cases Option.some.inj (hNow.symm.trans hGet)
      exact absurd rfl hUp
    · exact h.listed q sock' ⟨hBack q sock' hGet hSame, hUp⟩
  · intro q sock' hGet
    change q < c.allocated + 1
    by_cases hSame : q = c.allocated
    · omega
    · have hOld := h.allocated q sock' (hBack q sock' hGet hSame)
      omega
  · intro q sock' hGet hState
    by_cases hSame : q = c.allocated
    · subst hSame
      cases Option.some.inj (hNow.symm.trans hGet)
      exact ⟨hPristine, hLog⟩
    · obtain ⟨hOld, hOldLog⟩ := h.pristine q sock' (hBack q sock' hGet hSame) hState
      exact ⟨hOld, (Function.update_of_ne hSame ..).trans hOldLog⟩
  · intro q hCached
    obtain ⟨sock', hq⟩ := h.cached q hCached
    exact ⟨sock', hKeep q sock' hq⟩
  · have hIda : c.ida c.allocated = -1 := by
      have hLow := h.linked.low c.allocated
      by_contra hOn
      obtain ⟨sock', hq⟩ := h.acking c.allocated ((h.linked.mem_iff _).2 (by omega))
      exact hFresh _ _ hq.1 rfl
    have hSame : c.create.ida = c.ida := by
      change Function.update c.ida c.allocated (-1) = c.ida
      rw [← hIda, Function.update_eq_self]
    rw [hSame]
    exact h.linked
  · intro q hq
    obtain ⟨sock', hHolds⟩ := h.acking q hq
    exact ⟨sock', hKeep q sock' hHolds⟩
  · intro q sock' hGet
    by_cases hSame : q = c.allocated
    · subst hSame
      cases Option.some.inj (hNow.symm.trans hGet)
      exact Core.of_pristine hPristine hLog
    · exact (h.core q sock' (hBack q sock' hGet hSame)).of_view rfl
        (Clean.of_log (Function.update_of_ne hSame ..))

/-- The context after a socket of the table has been deleted. -/
theorem delete_eq (h : c.Ok) (hSock : c.Holds p sock) : ∃ acks ida, c.delete p = { c with
      sockets := Function.update c.sockets p none
      logs := Function.update c.logs p (c.logs p ++ [.onStateChange .destroying])
      lastUtpSocket := if c.lastUtpSocket = some p then none else c.lastUtpSocket
      utpSockets := c.utpSockets.eraseP fun entry => entry.1 = sock.key
      ackSockets := acks
      ida := ida } ∧ Linked acks ida ∧ ∀ q ∈ acks, q ∈ c.ackSockets ∧ q ≠ p := by
  have hFound : (c.lookup sock.key).isSome = true := by
    rw [h.lookup_key hSock]
    rfl
  have hDelete : c.delete p = ((((c.recordFor p (.onStateChange .destroying)).uncache p).eraseKey
      sock.key).removeSocketFromAckList p).free p := by
    unfold delete
    rw [hSock.1]
    change (((if (c.lookup sock.key).isSome then _ else _ : Context).eraseKey
      sock.key).removeSocketFromAckList p).free p = _
    rw [if_pos hFound]
  rw [hDelete]
  unfold removeSocketFromAckList
  by_cases hOn : ((c.recordFor p (.onStateChange .destroying)).uncache p |>.eraseKey sock.key).ida p ≥ 0
  · rw [if_pos hOn]
    refine ⟨_, _, rfl, h.linked.remove hOn, fun q hq => ⟨h.linked.mem_of_mem_without hOn hq, ?_⟩⟩
    rintro rfl
    exact h.linked.not_mem_without hOn hq
  · rw [if_neg hOn]
    refine ⟨_, _, rfl, h.linked, fun q hq => ⟨hq, ?_⟩⟩
    rintro rfl
    exact hOn ((h.linked.mem_iff q).1 hq)

/-- The entry that the destructor erases is the only one of its socket. -/
theorem mem_erased (h : c.Ok) (hSock : c.Holds p sock) (key : UTPSocketKey) (q : Nat) :
    (key, q) ∈ c.utpSockets.eraseP (fun entry => entry.1 = sock.key) ↔
      (key, q) ∈ c.utpSockets ∧ q ≠ p := by
  have hSelf := h.listed p sock hSock
  have hTest : (fun entry : UTPSocketKey × Nat => decide (entry.1 = sock.key)) (sock.key, p) = true :=
    decide_eq_true rfl
  obtain ⟨found, before, after, -, hFound, hSplit, hRest⟩ := List.exists_of_eraseP
    (p := fun entry : UTPSocketKey × Nat => decide (entry.1 = sock.key)) hSelf hTest
  have hUnique := h.unique
  rw [hSplit, List.map_append, List.map_cons, List.nodup_append, List.nodup_cons] at hUnique
  have hFoundKey : found.1 = sock.key := of_decide_eq_true hFound
  constructor
  · intro hEntry
    refine ⟨List.mem_of_mem_eraseP hEntry, ?_⟩
    rintro rfl
    obtain ⟨sock', hq, rfl⟩ := h.entry key q (List.mem_of_mem_eraseP hEntry)
    cases Option.some.inj (hSock.1.symm.trans hq.1)
    rw [hRest] at hEntry
    rcases List.mem_append.1 hEntry with hBefore | hAfter
    · exact hUnique.2.2 _ (List.mem_map_of_mem hBefore) _ (List.mem_cons_self ..) hFoundKey.symm
    · exact hUnique.2.1.1 (hFoundKey ▸ List.mem_map_of_mem hAfter)
  · rintro ⟨hEntry, hSame⟩
    obtain ⟨sock', hq, rfl⟩ := h.entry key q hEntry
    refine (List.mem_eraseP_of_neg ?_).2 hEntry
    intro hKey
    exact hSame (h.key_injective hq hSock (of_decide_eq_true hKey))

theorem delete (h : c.Ok) (hSock : c.Holds p sock) : (c.delete p).Ok := by
  obtain ⟨acks, ida, hEq, hLinked, hMem⟩ := h.delete_eq hSock
  rw [hEq]
  have hOther : ∀ q sock', Function.update c.sockets p none q = some sock' →
      q ≠ p ∧ c.sockets q = some sock' := by
    intro q sock' hGet
    by_cases hSame : q = p
    · subst hSame
      rw [Function.update_self] at hGet
      cases hGet
    · rw [Function.update_of_ne hSame] at hGet
      exact ⟨hSame, hGet⟩
  have hKeep : ∀ q sock', q ≠ p → c.sockets q = some sock' →
      Function.update c.sockets p none q = some sock' :=
    fun q sock' hSame hq => (Function.update_of_ne hSame ..).trans hq
  have hErased := h.mem_erased hSock
  constructor
  · exact h.unique.sublist ((List.eraseP_sublist (l := c.utpSockets)).map Prod.fst)
  · intro key q hEntry
    obtain ⟨hOld, hSame⟩ := (hErased key q).1 hEntry
    obtain ⟨sock', hq, hKey⟩ := h.entry key q hOld
    exact ⟨sock', ⟨hKeep q sock' hSame hq.1, hq.2⟩, hKey⟩
  · rintro q sock' ⟨hGet, hUp⟩
    obtain ⟨hSame, hq⟩ := hOther q sock' hGet
    exact (hErased _ q).2 ⟨h.listed q sock' ⟨hq, hUp⟩, hSame⟩
  · intro q sock' hGet
    exact h.allocated q sock' (hOther q sock' hGet).2
  · intro q sock' hGet hState
    obtain ⟨hSame, hq⟩ := hOther q sock' hGet
    obtain ⟨hPristine, hLog⟩ := h.pristine q sock' hq hState
    exact ⟨hPristine, (Function.update_of_ne hSame ..).trans hLog⟩
  · intro q hCached
    change (if c.lastUtpSocket = some p then none else c.lastUtpSocket) = some q at hCached
    split_ifs at hCached with hGone
    obtain ⟨sock', hq⟩ := h.cached q hCached
    refine ⟨sock', hKeep q sock' ?_ hq.1, hq.2⟩
    rintro rfl
    exact hGone hCached
  · exact hLinked
  · intro q hq
    obtain ⟨hOld, hSame⟩ := hMem q hq
    obtain ⟨sock', hHolds⟩ := h.acking q hOld
    exact ⟨sock', hKeep q sock' hSame hHolds.1, hHolds.2⟩
  · intro q sock' hGet
    obtain ⟨hSame, hq⟩ := hOther q sock' hGet
    exact (h.core q sock' hq).of_view rfl (Clean.of_log (Function.update_of_ne hSame ..))

/-- Options may be set on a socket in any state. -/
theorem option (h : c.Ok) (hSock : c.sockets p = some sock) (opt : SockOpt) (val : Int) :
    (c.leave p ((c.enter p sock).utpSetsockopt opt val)).Ok := by
  have hQuiet : Quiet (fun _ => ⟨0, 0, 0, 0, 0, false, false⟩) .call (c.enter p sock)
      ((c.enter p sock).utpSetsockopt opt val) := .setsockopt _ opt val
  have hCore := h.core p sock hSock
  have hView := hQuiet.view hCore.view.bounds.ackNr_lt
  by_cases hState : sock.state = .uninitialized
  · obtain ⟨hPristine, hLog⟩ := h.pristine p sock hSock hState
    have hDown : ¬((c.enter p sock).utpSetsockopt opt val).Live := by
      intro hLive
      exact hLive ((congrArg View.state hView).trans hState)
    have hAbsent : ∀ key, (key, p) ∉ c.utpSockets := by
      intro key hEntry
      obtain ⟨sock', hHolds, -⟩ := h.entry key p hEntry
      cases Option.some.inj (hSock.symm.trans hHolds.1)
      exact hHolds.2 hState
    refine h.store hSock c.utpSockets (hCore.quiet hQuiet) (congrArg View.onConnectSet hView) h.unique
      (fun _ _ _ => Iff.rfl) (fun key => ?_) (fun hUp => absurd hState hUp) (fun _ => ⟨?_, ?_⟩)
    · exact ⟨fun hEntry => absurd hEntry (hAbsent key), fun hLive => absurd hLive.1 hDown⟩
    · obtain ⟨targetDelay, optSndbuf, optRcvbuf, ssthresh, rfl⟩ := hPristine
      cases opt with
      | sndbuf => exact ⟨targetDelay, u64 val, optRcvbuf, ssthresh, rfl⟩
      | rcvbuf => exact ⟨targetDelay, optSndbuf, u64 val, ssthresh, rfl⟩
      | targetDelay => exact ⟨u64 val, optSndbuf, optRcvbuf, ssthresh, rfl⟩
    · cases opt <;> exact hLog
  · refine h.leave ⟨hSock, hState⟩ (hCore.quiet hQuiet) ?_ (Conn.identity_of_view hView)
    intro hDown
    exact hState ((congrArg View.state hView).symm.trans hDown)

/-- A socket that nothing has happened to yet can be dialled. -/
theorem pristine_counts (h : c.Ok) (hSock : c.sockets p = some sock)
    (hState : sock.state = .uninitialized) :
    (c.enter p sock).snd.curWindowPackets = 0 ∧ (c.enter p sock).rcv.reorderCount = 0 ∧
      (c.enter p sock).snd.fastResendSeqNr = 1 := by
  obtain ⟨targetDelay, optSndbuf, optRcvbuf, ssthresh, rfl⟩ := (h.pristine p sock hSock hState).1
  exact ⟨rfl, rfl, rfl⟩

end Ok

variable {env : Env} {op : Op} {c c' : Context}

/-- A socket that enters the table: it is initialised first, then dialled or accepted. -/
theorem ok_enlisted {p : Nat} {sock : Socket} {addr : PackedSockAddr} {seed recvId sendId : Nat}
    {cause : Cause} {s' : Conn} (h : c.Ok) (hSock : c.sockets p = some sock)
    (hNew : sock.state = .uninitialized) (hFree : c.lookup ⟨addr, recvId⟩ = none)
    (hPath : Path env cause ((c.enter p sock).initializeSocket env addr seed recvId sendId) s') :
    ((c.addKey ⟨addr, recvId⟩ p).leave p s').Ok := by
  have hCore : Core ((c.enter p sock).initializeSocket env addr seed recvId sendId) :=
    (h.core p sock hSock).initialise addr seed recvId sendId hNew
  have hView := Conn.view_initializeSocket env addr seed recvId sendId (c.enter p sock)
  have hUp : ((c.enter p sock).initializeSocket env addr seed recvId sendId).Live := by
    unfold Conn.Live
    rw [show ((c.enter p sock).initializeSocket env addr seed recvId sendId).state = .idle from
      congrArg View.state hView]
    exact nofun
  obtain ⟨hLive, hSame⟩ := hPath.keeps hCore hUp
  have hIdentity := hSame.trans (congrArg (fun v : View =>
    (⟨v.addr, v.connIdRecv, v.connIdSend, v.onConnectSet⟩ : Identity)) hView)
  have hKey : s'.toSocket.key = ⟨addr, recvId⟩ :=
    congrArg (fun i : Identity => (⟨i.addr, i.connIdRecv⟩ : UTPSocketKey)) hIdentity
  rw [← hKey] at hFree ⊢
  exact h.enlist hSock hNew (hCore.path hPath) hLive (congrArg Identity.onConnectSet hIdentity) hFree

theorem Ok.path_dialled {p : Nat} {sock : Socket} (h : c.Ok) (hSock : c.sockets p = some sock)
    (hNew : sock.state = .uninitialized) (addr : PackedSockAddr) (seed : Nat) :
    Path env .call ((c.enter p sock).initializeSocket env addr seed seed (seed + 1))
      (c.dialled env p sock addr seed) := by
  have hView := Conn.view_initializeSocket env addr seed seed (seed + 1) (c.enter p sock)
  exact Conn.path_connectSocket env .call (congrArg View.state hView)
    ((congrArg View.curWindowPackets hView).trans (h.pristine_counts hSock hNew).1)
    ((congrArg View.fastResendSeqNr hView).trans (h.pristine_counts hSock hNew).2.2)

theorem Ok.path_accepted {p : Nat} {sock : Socket} (h : c.Ok) (hSock : c.sockets p = some sock)
    (hNew : sock.state = .uninitialized) (d : Datagram) (addr : PackedSockAddr) :
    Path env (.syn d) ((c.enter p sock).initializeSocket env addr d.header.connid
      (d.header.connid + 1) d.header.connid) ((c.enter p sock).acceptSocket env d addr) :=
  Conn.path_acceptSocket env d addr (h.core p sock hSock) hNew (h.pristine_counts hSock hNew).1
    (h.pristine_counts hSock hNew).2.1

/-- Every turn keeps the invariant of the context. -/
theorem Turn.ok (hTurn : Turn env op c c') (h : c.Ok) : c'.Ok := by
  cases hTurn with
  | run p sock cause s' hSock hCause hRan =>
      have hCore := h.core p sock hSock.1
      obtain ⟨hLive, hSame⟩ := hRan.path.keeps hCore hSock.2
      exact h.leave hSock (hCore.path hRan.path) hLive hSame
  | option p sock opt val hSock => exact h.option hSock opt val
  | create => exact h.create
  | dial p sock addr seed draws hOp hSock hNew hSeed hFree => 
      exact ok_enlisted h hSock hNew hFree (h.path_dialled hSock hNew addr seed)
  | accept p sock d addr hOp hVersion hType hSock hNew hFree => 
      exact ok_enlisted h hSock hNew hFree (h.path_accepted hSock hNew d addr)
  | delete p sock hSock hState => exact h.delete hSock
  | cache p sock hSock =>
      exact ⟨h.unique, h.entry, h.listed, h.allocated, h.pristine,
        fun q hCached => (Option.some.inj hCached) ▸ ⟨sock, hSock⟩, h.linked, h.acking, h.core⟩
  | aside currentMs tick lastCheck targetDelay optSndbuf optRcvbuf rstInfo log =>
      exact ⟨h.unique, h.entry, h.listed, h.allocated, h.pristine, h.cached, h.linked, h.acking,
        fun p sock hSock => (h.core p sock hSock).clock _ _⟩

end Context

end Utp
