import Utp.Invariant.Sizes
import Utp.Guarantees.Table

/-! The MTU search: its range stays in order, and on a path with a fixed MTU it ends
close below that MTU. -/
namespace Utp

open Wrapping

theorem mem_search_of_mem {e : Event} {s : Conn} (hEvent : e.isSearch = true) (hMem : e ∈ s.log) :
    e ∈ s.search.notes :=
  List.mem_filter.2 ⟨hMem, hEvent⟩

theorem ReadsMtu.search {mtu : Nat} {s : Conn} (h : ReadsMtu mtu s.log) : ReadsMtu mtu s.search.notes :=
  fun before after hMem => h before after (List.mem_filter.1 hMem).1

/-- What a sound search means for the record of a socket. -/
theorem settles_of_readsMtu {env : Env} {c : Context} (hReach : c.Reachable env) (p : Nat) {mtu : Nat}
    (hReads : ReadsMtu mtu (c.logs p)) {e : Event} (hMem : e ∈ c.logs p) (hSearch : e.isSearch = true) :
    e.settles = true := by
  refine (preserved_search env mtu).logs (J := fun log => ReadsMtu mtu log → ∀ e ∈ log,
    e.isSearch = true → e.settles = true) ?_ ?_ ?_ hReach p hReads e hMem hSearch
  · exact fun _ e he => nomatch he
  · intro s hInv hLog e he hEvent
    exact (hInv hLog.search).ok.notes e (mem_search_of_mem hEvent he)
  · intro log hOld hLog e he hEvent
    rcases List.mem_append.1 he with hBefore | hLast
    · exact hOld (fun before after hMem => hLog before after (List.mem_append_left _ hMem)) e hBefore hEvent
    · rw [List.mem_singleton.1 hLast] at hEvent
      exact nomatch hEvent

/-- As long as the interface reports one MTU for a socket, and one that holds a header, the
range of its search stays between 576, or that MTU if it is smaller, and the MTU; the
packet size and the outstanding probe lie in the range, and no assertion about it fails. -/
theorem mtu_search_range (env : Env) (c : Context) (hReach : c.Reachable env) (p mtu : Nat)
    (hMtu : 20 ≤ mtu) (hReads : ReadsMtu mtu (c.logs p)) :
    (∀ sock, c.sockets p = some sock → sock.state ≠ .uninitialized →
      min 576 mtu ≤ sock.mtu.floor ∧ sock.mtu.floor ≤ sock.mtu.last ∧
        sock.mtu.last ≤ sock.mtu.ceiling ∧ sock.mtu.ceiling ≤ mtu ∧
        (sock.mtu.probeSeq ≠ 0 → sock.mtu.floor < sock.mtu.probeSize ∧
          sock.mtu.probeSize ≤ sock.mtu.ceiling) ∧
        (c.enter p sock).getPacketSize + 20 = sock.mtu.last) ∧
      ∀ line ∈ mtuLines, .assertFailed line ∉ c.logs p := by
  constructor
  · intro sock hSock hLive
    have hInv := (preserved_search env mtu).reachable hReach p sock ⟨hSock, hLive⟩
    have hReads' : ReadsMtu mtu (c.enter p sock).log := hReads
    obtain ⟨hLt, hOk, -⟩ := hInv hReads'.search
    have hSound : sock.mtu.Sound (min 576 mtu) mtu := hOk.sound
    exact ⟨hSound.low_le, hSound.floor_le, hSound.last_le, hSound.le_high, hSound.probe,
      Conn.getPacketSize_of_sound hOk.sound (by omega) hLt⟩
  · intro line hLine hFailed
    exact nomatch settles_of_readsMtu hReach p hReads hFailed (decide_eq_true hLine)

def readsMtu (mtu : Nat) (log : List Event) : Bool :=
  log.all fun e => match e with
    | .mtu .reset _ after => after.ceiling == mtu
    | _ => true

theorem ReadsMtu.of_all {mtu : Nat} {log : List Event} (h : readsMtu mtu log = true) :
    ReadsMtu mtu log := by
  intro before after hMem
  exact beq_iff_eq.1 (List.all_eq_true.1 h _ hMem)

/-- Dial, get the answer, and write a block that is large enough for a probe. -/
def probingOps : List Op :=
  [.createSocket, .connect 0 somePeer 1, .processUdp (somePacket stState 7 77 7 []) somePeer,
    .writev 0 [List.replicate 600 0]]

/-- A socket with an outstanding probe of 620 bytes. -/
theorem mtu_search_range_probing : ∃ (c : Context) (sock : Socket), c.Reachable steadyEnv ∧
    c.sockets 0 = some sock ∧ sock.mtu.probeSize = 620 ∧ sock.mtu.floor < sock.mtu.probeSize ∧
      sock.mtu.probeSize ≤ sock.mtu.ceiling := by
  have hRun : ((utpInit true true).run steadyEnv probingOps).any (fun c =>
      readsMtu 1500 (c.logs 0) && (c.sockets 0).any fun sock =>
        sock.state != .uninitialized && sock.mtu.probeSeq != 0 && sock.mtu.probeSize == 620) = true := by
    decide +kernel
  obtain ⟨c, hReach, hOk⟩ := Context.Reachable.exists_of_run hRun
  obtain ⟨hReads, hThere⟩ := Bool.and_eq_true_iff.1 hOk
  obtain ⟨sock, hSock, hState⟩ := (Option.any_eq_true _ _).1 hThere
  simp only [Bool.and_eq_true, bne_iff_ne, beq_iff_eq] at hState
  obtain ⟨⟨hLive, hProbe⟩, hSize⟩ := hState
  have hRange := (mtu_search_range steadyEnv c hReach 0 1500 (by decide) (.of_all hReads)).1 sock hSock hLive
  obtain ⟨hAbove, hBelow⟩ := hRange.2.2.2.2.1 hProbe
  exact ⟨c, sock, hReach, hSock, hSize, hAbove, hBelow⟩

/-- Truthful verdicts since the start of a search keep it on track. -/
theorem tracking_of_log {p : Nat} {before after : List Event} {m m' : MtuState}
    (hTruth : ∀ e ∈ after, e.truthful p = true) :
    tracking p ((before ++ .mtu .reset m m' :: after).filter Event.isSearch) = true := by
  have hKeep : ∀ (log : List Event), (∀ e ∈ log, e.truthful p = true) →
      (log.filter Event.isSearch).foldl (fun ok e => e.isReset || ok && e.truthful p) true = true := by
    intro log hLog
    induction log with
    | nil => rfl
    | cons e log ih =>
        have hRest := ih fun e' he' => hLog e' (List.mem_cons_of_mem _ he')
        have hHead := hLog e (List.mem_cons_self ..)
        by_cases hSearch : e.isSearch = true
        · rw [List.filter_cons_of_pos hSearch, List.foldl_cons, hHead]
          simpa using hRest
        · rw [List.filter_cons_of_neg hSearch]
          exact hRest
  unfold tracking
  rw [List.filter_append, List.filter_cons_of_pos rfl, List.foldl_append, List.foldl_cons]
  exact hKeep after hTruth

/-- On a path that passes exactly the packets of at most `p` bytes the search finds `p` but
for 16 bytes: from any start of the search on, as long as every verdict is truthful and no
ICMP message arrives, the range brackets `p` until it collapses, and then it lies just
below `p`. Every verdict makes the range smaller. -/
theorem mtu_search_correct (env : Env) (c : Context) (hReach : c.Reachable env) (q : Nat)
    (sock : Socket) (hSock : c.sockets q = some sock) (mtu p : Nat) (hLow : 576 ≤ p) (hHigh : p ≤ mtu)
    (hReads : ReadsMtu mtu (c.logs q)) (before after : List Event) (m m' : MtuState)
    (hLog : c.logs q = before ++ .mtu .reset m m' :: after)
    (hTruth : ∀ e ∈ after, e.truthful p = true) :
    sock.mtu.floor ≤ p ∧
      (p ≤ sock.mtu.ceiling ∨ sock.mtu.ceiling = sock.mtu.floor) ∧
      (∀ step old new, (step = .passed ∨ step = .lost) → .mtu step old new ∈ after →
        new.ceiling - new.floor < old.ceiling - old.floor) ∧
      (sock.mtu.ceiling = sock.mtu.floor →
        sock.mtu.last = sock.mtu.floor ∧ p ≤ sock.mtu.last + 16 ∧ sock.mtu.last ≤ p) := by
  have hLive : sock.state ≠ .uninitialized := by
    intro hDown
    rw [(hReach.ok.pristine q sock hSock hDown).2] at hLog
    simp at hLog
  have hReads' : ReadsMtu mtu (c.enter q sock).log := hReads
  obtain ⟨-, hOk, hLocated⟩ :=
    (preserved_search env mtu).reachable hReach q sock ⟨hSock, hLive⟩ hReads'.search
  have hTrack : tracking p (c.enter q sock).search.notes = true := by
    change tracking p ((c.logs q).filter Event.isSearch) = true
    rw [hLog]
    exact tracking_of_log hTruth
  have hSound : sock.mtu.Sound (min 576 mtu) mtu := hOk.sound
  obtain ⟨hFloor, hRange⟩ : sock.mtu.Located p := hLocated p hLow hHigh hTrack
  have hInner := hSound.floor_le
  have hOuter := hSound.last_le
  refine ⟨hFloor, by omega, ?_, fun hEnd => by omega⟩
  intro step old new hStep hMem
  have hOld : Event.mtu step old new ∈ c.logs q := by
    rw [hLog]
    exact List.mem_append_right _ (List.mem_cons_of_mem _ hMem)
  rcases hStep with rfl | rfl
  · exact of_decide_eq_true (settles_of_readsMtu hReach q hReads hOld rfl)
  · exact of_decide_eq_true (settles_of_readsMtu hReach q hReads hOld rfl)

/-- A path of 1400 bytes, after the probe of 620 bytes has been acked. -/
theorem mtu_search_correct_acked : ∃ (c : Context) (sock : Socket), c.Reachable steadyEnv ∧
    c.sockets 0 = some sock ∧ sock.mtu.floor = 620 ∧ sock.mtu.floor ≤ 1400 ∧
      (1400 ≤ sock.mtu.ceiling ∨ sock.mtu.ceiling = sock.mtu.floor) := by
  have hRun : ((utpInit true true).run steadyEnv
      (probingOps ++ [.processUdp (somePacket stState 7 78 8 []) somePeer])).any (fun c =>
        readsMtu 1500 (c.logs 0) && (c.logs 0).any Event.isReset &&
          (c.logs 0).all (Event.truthful 1400) &&
          (c.sockets 0).any fun sock => sock.mtu.floor == 620) = true := by
    decide +kernel
  obtain ⟨c, hReach, hOk⟩ := Context.Reachable.exists_of_run hRun
  simp only [Bool.and_eq_true] at hOk
  obtain ⟨⟨⟨hReads, hStarted⟩, hTruth⟩, hThere⟩ := hOk
  obtain ⟨sock, hSock, hFloor⟩ := (Option.any_eq_true _ _).1 hThere
  obtain ⟨e, hMem, hReset⟩ := List.any_eq_true.1 hStarted
  obtain ⟨before, after, hLog⟩ := List.append_of_mem hMem
  obtain ⟨m, m', rfl⟩ : ∃ m m', e = .mtu .reset m m' := by
    unfold Event.isReset at hReset
    split at hReset
    · exact ⟨_, _, rfl⟩
    · cases hReset
  have hAfter : ∀ e ∈ after, e.truthful 1400 = true := by
    intro e he
    refine List.all_eq_true.1 hTruth e ?_
    rw [hLog]
    exact List.mem_append_right _ (List.mem_cons_of_mem _ he)
  have hFound := mtu_search_correct steadyEnv c hReach 0 sock hSock 1500 1400 (by decide) (by decide)
    (.of_all hReads) before after m m' hLog hAfter
  exact ⟨c, sock, hReach, hSock, beq_iff_eq.1 hFloor, hFound.1, hFound.2.1⟩

/-- What an ICMP message does to the search of the socket it is about. -/
theorem Context.mtu_of_fragmentation {env : Env} {c c' : Context} {d : Datagram}
    {addr : PackedSockAddr} {m p : Nat} {sock sock' : Socket}
    (hFound : c.parseIcmpPayload d addr = some p) (hSock : c.sockets p = some sock)
    (hStep : c.step env (.processIcmpFragmentation d addr m) = some c')
    (hSock' : c'.sockets p = some sock') :
    ∃ currentMs, sock'.mtu = Search.fragmented (u16 m) currentMs sock.mtu := by
  have hOp : c.step env (.processIcmpFragmentation d addr m) =
      some (c.utpProcessIcmpFragmentation env d addr m).2 := rfl
  unfold utpProcessIcmpFragmentation at hOp
  rw [hFound] at hOp
  dsimp only at hOp
  rw [hOp, runOn_of_some hSock] at hStep
  rw [← Option.some.inj hStep, sockets_leave, Function.update_self] at hSock'
  have hSearch := Conn.search_receiveIcmpFragmentation env (u16 m) (c.enter p sock)
  rw [← Option.some.inj hSock']
  exact ⟨_, congrArg Search.mtu hSearch⟩

/-- An ICMP message about a next hop of `m` bytes makes `mtu_ceiling` and `mtu_last` at
most `m` exactly if the floor of the search yields to it. If it does, and is large enough
for a header, no packet that is created before the search starts over is longer than `m`. -/
theorem fragmentation_lowers_mtu (env : Env) (c c' : Context) (hReach : c.Reachable env)
    (d : Datagram) (addr : PackedSockAddr) (m : Nat) (hLow : 576 ≤ m) (hHigh : m < 0x2000)
    (p : Nat) (sock sock' : Socket) (hFound : c.parseIcmpPayload d addr = some p)
    (hSock : c.sockets p = some sock)
    (hStep : c.step env (.processIcmpFragmentation d addr m) = some c')
    (hSock' : c'.sockets p = some sock') :
    ((sock'.mtu.ceiling ≤ m ∧ sock'.mtu.last ≤ m) ↔ sock.mtu.yields m = true) ∧
      (sock.mtu.yields m = true → 20 ≤ sock.mtu.floor →
        ∀ (c'' : Context) (sock'' : Socket), c'.Follows env c'' → c''.sockets p = some sock'' →
          ∃ told, c''.logs p = c'.logs p ++ told ∧ ((∀ e ∈ told, e.isReset = false) →
            (∀ seqNr type bytes, .queued seqNr type bytes ∈ told → 20 + bytes.length ≤ m) ∧
              ∀ j < (creations told).length, ∀ size,
                (c''.enter p sock'').sizeAt j = some size → size ≤ m)) := by
  obtain ⟨currentMs, hMtu⟩ := Context.mtu_of_fragmentation hFound hSock hStep hSock'
  rw [u16_of_lt (by omega)] at hMtu
  obtain ⟨hLast, hYields, hFloor, hOrder, hProbe⟩ :=
    Search.fragmented_spec hLow hHigh currentMs sock.mtu
  rw [← hMtu] at hLast hYields hFloor hOrder hProbe
  refine ⟨⟨fun hBelow => hYields.1 hBelow.1, fun hYield => ?_⟩, ?_⟩
  · have hCeiling := hYields.2 hYield
    omega
  · intro hYield hHeader c'' sock'' hLater hSock''
    have hTurns := Context.turns_of_step hReach.ok hStep
    obtain ⟨held, hHolds, -⟩ := Context.holds_of_parseIcmpPayload hReach.ok hFound
    cases Option.some.inj (hSock.symm.trans hHolds.1)
    obtain ⟨hHolds', -⟩ := (preserved_core env).toKept.follows hReach.ok hHolds
      (hReach.ok.core p sock hSock) (.later _ .now hStep) hSock'
    have hSound : sock'.mtu.Sound 20 m := by
      refine ⟨?_, ?_, hLast.le, hYields.2 hYield, fun hOut => absurd hProbe hOut⟩ <;> omega
    have hStart : BoundedSince m (c'.logs p) (c'.enter p sock') :=
      ⟨[], (List.append_nil _).symm, fun _ => ⟨hSound, nofun, nofun⟩⟩
    obtain ⟨-, told, hLog, hBounded⟩ := (kept_boundedSince env (by omega) (c'.logs p)).follows
      (hTurns.ok hReach.ok) hHolds' hStart hLater hSock''
    exact ⟨told, hLog, fun hNone => ⟨(hBounded hNone).created, (hBounded hNone).queued⟩⟩

/-- What is checked of one run: an ICMP message about the first packet with a payload finds
the only socket. -/
def fragments (m : Nat) (ok : Socket → Socket → Bool) (c : Context) : Bool :=
  c.parseIcmpPayload (somePacket stData 8 8 77 []) somePeer == some 0 &&
    (c.sockets 0).any fun sock =>
      (c.step steadyEnv (.processIcmpFragmentation (somePacket stData 8 8 77 []) somePeer m)).any
        fun c' => (c'.sockets 0).any (ok sock)

theorem exists_of_fragments {m : Nat} {ok : Socket → Socket → Bool} {c : Context}
    (h : fragments m ok c = true) : ∃ (c' : Context) (sock sock' : Socket),
      c.parseIcmpPayload (somePacket stData 8 8 77 []) somePeer = some 0 ∧ c.sockets 0 = some sock ∧
        c.step steadyEnv (.processIcmpFragmentation (somePacket stData 8 8 77 []) somePeer m) = some c' ∧
        c'.sockets 0 = some sock' ∧ ok sock sock' = true := by
  obtain ⟨hFound, hRest⟩ := Bool.and_eq_true_iff.1 h
  obtain ⟨sock, hSock, hNext⟩ := (Option.any_eq_true _ _).1 hRest
  obtain ⟨c', hStep, hThere⟩ := (Option.any_eq_true _ _).1 hNext
  obtain ⟨sock', hSock', hOk⟩ := (Option.any_eq_true _ _).1 hThere
  exact ⟨c', sock, sock', beq_iff_eq.1 hFound, hSock, hStep, hSock', hOk⟩

/-- While the probe of 620 bytes is outstanding, a next hop of 600 bytes is heeded. -/
theorem fragmentation_lowers_mtu_probing : ∃ (c c' : Context) (sock sock' : Socket),
    c.Reachable steadyEnv ∧ c.sockets 0 = some sock ∧
      c.step steadyEnv (.processIcmpFragmentation (somePacket stData 8 8 77 []) somePeer 600) = some c' ∧
      c'.sockets 0 = some sock' ∧ sock.mtu.ceiling = 1500 ∧ sock'.mtu.ceiling ≤ 600 ∧
      sock'.mtu.last ≤ 600 := by
  have hRun : ((utpInit true true).run steadyEnv probingOps).any (fragments 600 fun sock _ =>
      sock.mtu.yields 600 && sock.mtu.ceiling == 1500) = true := by
    decide +kernel
  obtain ⟨c, hReach, hOk⟩ := Context.Reachable.exists_of_run hRun
  obtain ⟨c', sock, sock', hFound, hSock, hStep, hSock', hYields⟩ := exists_of_fragments hOk
  obtain ⟨hYield, hCeiling⟩ := Bool.and_eq_true_iff.1 hYields
  obtain ⟨hBelow, hLast⟩ := (fragmentation_lowers_mtu steadyEnv c c' hReach _ somePeer 600 (by decide)
    (by decide) 0 sock sock' hFound hSock hStep hSock').1.2 hYield
  exact ⟨c, c', sock, sock', hReach, hSock, hStep, hSock', beq_iff_eq.1 hCeiling, hBelow, hLast⟩

/-- After the probe of 620 bytes has been acked, a next hop of 600 bytes leaves both
`mtu_ceiling` and `mtu_last` at 620. -/
theorem fragmentation_ignored : ∃ (c c' : Context) (sock sock' : Socket),
    c.Reachable steadyEnv ∧ c.sockets 0 = some sock ∧
      c.parseIcmpPayload (somePacket stData 8 8 77 []) somePeer = some 0 ∧
      c.step steadyEnv (.processIcmpFragmentation (somePacket stData 8 8 77 []) somePeer 600) = some c' ∧
      c'.sockets 0 = some sock' ∧ ¬sock'.mtu.ceiling ≤ 600 ∧ ¬sock'.mtu.last ≤ 600 := by
  have hRun : ((utpInit true true).run steadyEnv
      (probingOps ++ [.processUdp (somePacket stState 7 78 8 []) somePeer])).any
        (fragments 600 fun _ sock' => sock'.mtu.ceiling == 620 && sock'.mtu.last == 620) = true := by
    decide +kernel
  obtain ⟨c, hReach, hOk⟩ := Context.Reachable.exists_of_run hRun
  obtain ⟨c', sock, sock', hFound, hSock, hStep, hSock', hRange⟩ := exists_of_fragments hOk
  simp only [Bool.and_eq_true, beq_iff_eq] at hRange
  exact ⟨c, c', sock, sock', hReach, hSock, hFound, hStep, hSock', by omega, by omega⟩

end Utp
