import Utp.Invariant.Opening
import Utp.Invariant.Shown
import Utp.Guarantees.Table

/-! Two contexts with one connection between them, and a network that may lose, delay, reorder and
duplicate the packets of this connection, but does not make them up and does not keep them for too
long. -/
namespace Utp

open Wrapping

/-- A datagram that the network may deliver to the peer of the socket with this record: a packet
that the socket has sent, when not too many packets were queued or consumed by it since. -/
def Honest (d : Datagram) (log : List Event) : Prop :=
  ∃ (before after : List Event) (w : Wire) (flags : Nat) (beyond : Nat → UInt8),
    log = before ++ .sendto w flags :: after ∧ d = w.received beyond ∧ queuedCount after ≤ 32768 ∧
    (consumedOf after).length ≤ 32768

namespace Context

/-- What the network guarantees to the socket `p` in one operation: a datagram for it is a packet of its
peer, whose record is given. -/
def Hears (log : List Event) (p : Nat) (op : Op) (c : Context) : Prop :=
  match op with
  | .processUdp d addr => c.delivers d addr p = true → Honest d log
  | _ => True

/-- What the program guarantees for a socket that it has dialled: it calls `utp_read_drained` only after
the socket has entered `CS_CONNECTED`. Until then `ack_nr` is not set, and an ack that this call sends
would acknowledge packets that have not arrived. -/
def Drains (p : Nat) (op : Op) (c : Context) : Prop := op = .readDrained p → entryOf (c.logs p) ≠ none

/-- The contexts that come after `c` before the peer of the socket `p` is heard. -/
inductive Awaits (env : Env) (p : Nat) (c : Context) : Context → Prop where
  | now : Awaits env p c c
  | later {c' c'' : Context} (op : Op) (hPrior : Awaits env p c c') (hStep : c'.step env op = some c'')
      (hHears : c'.Hears [] p op) (hDrains : c'.Drains p op) : Awaits env p c c''

end Context

/-- Two contexts with one connection between them. The socket `p` of the first one was dialled, and
the socket `q` of the second one was created for its SYN. From then on both contexts go on in any
order, with any operations. -/
inductive Link (envA envB : Env) (p q : Nat) : Context → Context → Prop where
  | opened (a₀ a₁ a b₀ b : Context) (addrA addrB : PackedSockAddr) (draws : Nat) (syn : Wire) (flags : Nat)
      (beyond : Nat → UInt8) (hDialler : a₀.Reachable envA) (hDial : a₀.step envA (.connect p addrB draws) = some a₁)
      (hAwaits : a₁.Awaits envA p a) (hSyn : .sendto syn flags ∈ a.logs p) (hAcceptor : b₀.Reachable envB)
      (hNumber : q = b₀.allocated) (hAccept : b₀.step envB (.processUdp (syn.received beyond) addrA) = some b)
      (hThere : b.sockets q ≠ none) : Link envA envB p q a b
  | left {a a' b : Context} (op : Op) (hPrior : Link envA envB p q a b) (hStep : a.step envA op = some a')
      (hHears : a.Hears (b.logs q) p op) (hDrains : a.Drains p op) : Link envA envB p q a' b
  | right {a b b' : Context} (op : Op) (hPrior : Link envA envB p q a b) (hStep : b.step envB op = some b')
      (hHears : b.Hears (a.logs p) q op) : Link envA envB p q a b'

namespace Context

variable {env : Env} {op : Op} {c c' : Context} {p : Nat} {sock : Socket}

/-- Which socket a datagram is handed to is decided by the address and the id. -/
theorem Ok.delivers_iff (h : c.Ok) (hSock : c.Holds p sock) {d : Datagram} {addr : PackedSockAddr} :
    c.delivers d addr p = true ↔ 20 ≤ d.len ∧ utpVersion d.header = 1 ∧ d.header.type ≠ stReset ∧
      d.header.type ≠ stSyn ∧ sock.addr = addr ∧ sock.connIdRecv = d.header.connid := by
  unfold delivers
  simp only [Bool.and_eq_true, decide_eq_true_eq, beq_iff_eq, bne_iff_ne, and_assoc]
  refine and_congr_right fun _ => and_congr_right fun _ => and_congr_right fun _ => and_congr_right fun _ => ?_
  rw [h.findConn_eq_lookup]
  refine ⟨fun hFound => ?_, fun ⟨hAddr, hId⟩ => ?_⟩
  · obtain ⟨sock', hSock', hKey⟩ := h.holds_of_lookup hFound
    cases Option.some.inj (hSock.1.symm.trans hSock'.1)
    exact ⟨(congrArg UTPSocketKey.addr hKey).symm, (congrArg UTPSocketKey.recvId hKey).symm⟩
  · rw [← hAddr, ← hId]
    exact h.lookup_key hSock

/-- A datagram that the operation hands to a socket of the context reaches it from the start. -/
theorem Ok.delivers_of_admitted {c₀ : Context} {sock₀ : Socket} {r : Received} (h : c₀.Ok) (hSock : c₀.Holds p sock₀)
    (hAdmitted : c.Admitted op p sock (.packet r)) (hLen : 20 ≤ r.d.len)
    (hSame : (c.enter p sock).identity = (c₀.enter p sock₀).identity) :
    ∃ addr, op = .processUdp r.d addr ∧ c₀.delivers r.d addr p = true := by
  obtain ⟨addr, hOp, -, hVersion, hReset, hSyn, hAddr, hId⟩ := hAdmitted
  refine ⟨addr, hOp, (h.delivers_iff hSock).2 ⟨hLen, hVersion, hReset, hSyn, ?_, ?_⟩⟩
  · exact (congrArg Identity.addr hSame).symm.trans hAddr
  · exact (congrArg Identity.connIdRecv hSame).symm.trans hId

theorem Turns.gone (hTurns : Turns env op c c') (hOk : c.Ok) (hOld : p < c.allocated) (hNone : c.sockets p = none) :
    c'.sockets p = none ∧ c'.logs p = c.logs p ∧ p < c'.allocated := by
  induction hTurns with
  | refl => exact ⟨hNone, rfl, hOld⟩
  | tail hBefore hTurn ih =>
      obtain ⟨hStill, hLog, hThere⟩ := ih
      have hSound := Turns.ok hBefore hOk
      obtain ⟨hNow, hSame⟩ := hTurn.gone hSound hThere hStill
      exact ⟨hNow, hSame.trans hLog, hThere.trans_le (hTurn.allocated_le hSound)⟩

end Context

/-- What one end of a connection has to keep: when it hears an honest datagram, and when it is
called in a way that its surroundings guarantee. Of its own record the program guarantees `drains` when
it calls `utp_read_drained`. -/
structure Obeys (env : Env) (log : List Event) (drains : List Event → Prop) (I : Conn → Prop) : Prop where
  clock : ∀ (s : Conn) (currentMs tick : Nat), I s → I { s with currentMs := currentMs, tick := tick }
  hears : ∀ (s : Conn) (d : Datagram), I s → d.header.type ≠ stSyn → Honest d log → I (s.utpProcessIncoming env d false)
  ran : ∀ (cause : Cause) (s s' : Conn), I s → (∀ r, cause ≠ .packet r) → (∀ d, cause ≠ .syn d) →
    (cause = .drained → drains s.log) → (cause = .deferred → .scheduleAck ∈ s.log) → Path env cause s s' → I s'

section Obeys

variable {env : Env} {op : Op} {c c' : Context} {p : Nat} {sock₀ : Socket} {log : List Event} {drains : List Event → Prop}
  {I : Conn → Prop}

/-- Nothing that the operation does to the socket is a datagram that it hears. -/
theorem Obeys.carries (h : Obeys env log drains I) (hMore : ∀ log more, drains log → drains (log ++ more)) (hOk : c.Ok)
    (hSock : c.Holds p sock₀) (hDrains : op = .readDrained p → drains (c.logs p))
    (hDeaf : ∀ d addr, op = .processUdp d addr → 20 ≤ d.len ∧ c.delivers d addr p ≠ true) :
    Context.Carries env op p fun s => I s ∧ s.identity = (c.enter p sock₀).identity ∧ c.logs p <+: s.log := by
  refine ⟨fun s currentMs tick ⟨hInv, hSame, hLog⟩ => ⟨h.clock s currentMs tick hInv, hSame, hLog⟩, ?_⟩
  intro c₁ sock cause s' hOk₁ hAsked hSock₁ hAdmitted ⟨hInv, hSame, hLog⟩ hRan
  have hKeeps := hRan.path.keeps (hOk₁.core p sock hSock₁.1) hSock₁.2
  refine ⟨?_, hKeeps.2.trans hSame, hLog.trans hRan.path.grows⟩
  refine h.ran cause _ s' hInv ?_ ?_ ?_ ?_ hRan.path
  · rintro r rfl
    have hReason := hAdmitted
    obtain ⟨addr, hOp, -⟩ := hReason
    obtain ⟨hLen, hNot⟩ := hDeaf r.d addr hOp
    obtain ⟨addr', hOp', hDelivers⟩ := hOk.delivers_of_admitted hSock hAdmitted hLen hSame
    cases hOp.symm.trans hOp'
    exact hNot hDelivers
  · rintro d rfl
    exact hAdmitted
  · rintro rfl
    have hOp : op = .readDrained p := hAdmitted
    obtain ⟨more, hEvents⟩ := hLog
    exact hEvents ▸ hMore _ _ (hDrains hOp)
  · rintro rfl
    exact hAsked p hAdmitted

/-- One end of a connection keeps what it has to keep in every operation. -/
theorem Obeys.step (h : Obeys env log drains I) (hMore : ∀ log more, drains log → drains (log ++ more))
    (hReach : c.Reachable env) (hStep : c.step env op = some c') (hHears : c.Hears log p op)
    (hDrains : op = .readDrained p → drains (c.logs p)) (hShows : ∃ s, c.Shows p s ∧ I s) : ∃ s, c'.Shows p s ∧ I s := by
  obtain ⟨s, ⟨hOld, hGone | ⟨sock, hSock, rfl⟩⟩, hInv⟩ := hShows
  · obtain ⟨hNone, hLog, hThere⟩ := (Context.turns_of_step hReach.ok hStep).gone hReach.ok hOld hGone.1
    exact ⟨s, ⟨hThere, Or.inl ⟨hNone, hLog.trans hGone.2⟩⟩, hInv⟩
  have hStill : ∃ s, c.Shows p s ∧ I s := ⟨c.enter p sock, ⟨hOld, Or.inr ⟨sock, hSock, rfl⟩⟩, hInv⟩
  have hApart : (∀ d addr, op = .processUdp d addr → 20 ≤ d.len ∧ c.delivers d addr p ≠ true) →
      ∃ s, c'.Shows p s ∧ I s := by
    intro hDeaf
    obtain ⟨s, hShows, hInv', -⟩ := (h.carries hMore hReach.ok hSock hDrains hDeaf).step hReach hStep
      ⟨c.enter p sock, ⟨hOld, Or.inr ⟨sock, hSock, rfl⟩⟩, hInv, rfl, List.prefix_refl _⟩
    exact ⟨s, hShows, hInv'⟩
  cases op with
  | processUdp d addr =>
      by_cases hLen : 20 ≤ d.len
      · by_cases hDelivers : c.delivers d addr p = true
        · obtain ⟨hType, hShows⟩ := Context.shows_of_delivers hReach.ok hSock hDelivers hStep
          exact ⟨_, hShows, h.hears _ d hInv hType (hHears hDelivers)⟩
        · refine hApart fun d' addr' hOp => ?_
          cases hOp
          exact ⟨hLen, hDelivers⟩
      · have hSame : c.step env (.processUdp d addr) = some c := by
          change some (c.utpProcessUdp env d addr).2 = some c
          unfold Context.utpProcessUdp
          rw [if_pos (Nat.lt_of_not_le hLen)]
        rwa [← Option.some.inj (hSame.symm.trans hStep)]
  | _ => exact hApart fun d addr hOp => by cases hOp

end Obeys

section Clock

variable {start origin s0 t0 : Nat} {s a b : Conn}

theorem Side.clock (h : Side start s) (currentMs tick : Nat) : Side start { s with currentMs := currentMs, tick := tick } where
  core := h.core.clock currentMs tick
  live := h.live
  delivery := h.delivery.imp id fun ⟨first, hEntry, hRank, hFlow⟩ => ⟨first, hEntry, hRank, hFlow.congr rfl rfl rfl id⟩
  unfed := h.unfed
  labelled := ⟨h.labelled.queued, h.labelled.sent⟩
  booked := ⟨h.booked.state, h.booked.seqNr, h.booked.count, h.booked.queued, h.booked.sends⟩
  closing := ⟨h.closing.fin, h.closing.last⟩
  concluded := ⟨h.concluded.heard, h.concluded.pending, h.concluded.reached⟩

theorem Greeting.clock (h : Greeting s) (currentMs tick : Nat) : Greeting { s with currentMs := currentMs, tick := tick } :=
  ⟨h.state, h.entry, h.packets, h.wires, h.unasked, h.fin⟩

theorem Hailing.clock (h : Hailing s0 s) (currentMs tick : Nat) :
    Hailing s0 { s with currentMs := currentMs, tick := tick } :=
  ⟨h.start_lt, h.side.clock currentMs tick, h.greeting.clock currentMs tick, h.syn, h.finSentAcked, h.eof⟩

theorem Accord.clock_left (h : Accord s0 t0 a b) (currentMs tick : Nat) :
    Accord s0 t0 { a with currentMs := currentMs, tick := tick } b where
  dialler := h.dialler.clock currentMs tick
  acceptor := h.acceptor
  syn := h.syn
  heard := h.heard.imp (·.clock currentMs tick) fun hAnswered => ⟨hAnswered.aligned, hAnswered.acks⟩
  answered := h.answered
  fedB := ⟨h.fedB.base_le, h.fedB.offered, h.fedB.consumed, h.fedB.fin, h.fedB.eof⟩
  fedA := ⟨h.fedA.base_le, h.fedA.offered, h.fedA.consumed, h.fedA.fin, h.fedA.eof⟩
  spentA := ⟨h.spentA.removed, h.spentA.fin⟩
  spentB := ⟨h.spentB.removed, h.spentB.fin⟩
  early := h.early
  role := h.role
  woken := h.woken

theorem Accord.clock_right (h : Accord s0 t0 a b) (currentMs tick : Nat) :
    Accord s0 t0 a { b with currentMs := currentMs, tick := tick } where
  dialler := h.dialler
  acceptor := h.acceptor.clock currentMs tick
  syn := h.syn
  heard := h.heard
  answered := ⟨h.answered.aligned, h.answered.acks⟩
  fedB := ⟨h.fedB.base_le, h.fedB.offered, h.fedB.consumed, h.fedB.fin, h.fedB.eof⟩
  fedA := ⟨h.fedA.base_le, h.fedA.offered, h.fedA.consumed, h.fedA.fin, h.fedA.eof⟩
  spentA := ⟨h.spentA.removed, h.spentA.fin⟩
  spentB := ⟨h.spentB.removed, h.spentB.fin⟩
  early := h.early
  role := h.role
  woken := h.woken

end Clock

/-- A socket that is shown by its context has the traffic that its context has noted. -/
theorem Context.Shows.traffic {c : Context} {p : Nat} {s : Conn} (h : c.Shows p s) : trafficOf (c.logs p) = s.traffic := by
  obtain ⟨-, ⟨-, hLog⟩ | ⟨sock, -, rfl⟩⟩ := h
  · rw [hLog, trafficOf_append]
    exact List.append_nil _
  · rfl

section Ends

variable {env : Env} {cause : Cause} {start own base baseIn s0 t0 : Nat} {a b peer : Conn} {log : List Event} {d : Datagram}

theorem queuedCount_traffic (log : List Event) : queuedCount (trafficOf log) = queuedCount log := by
  unfold queuedCount trafficOf
  rw [List.countP_filter]
  refine List.countP_congr fun e _ => ?_
  cases e <;> simp [Event.isTraffic]

/-- An honest datagram tells the truth about its sender. -/
theorem Side.heard_of_honest (h : Side start peer) (hTraffic : trafficOf log = peer.traffic)
    (hAcks : EachEntry Event.wire?
      (fun pre w => w.header.type = stSyn ∨ ∃ late, Acknowledges (own + base) late pre w) peer.traffic)
    (hHead : ∀ k < baseIn, ∃ bytes, peer.settled[k]? = some (stSyn, bytes)) (hHonest : Honest d log)
    (hType : d.header.type ≠ stSyn) {r : Received} (hParsed : Conn.ParsedAs d r) : Heard own start base baseIn peer r := by
  obtain ⟨before, after, w, flags, beyond, hLog, rfl, hQueued, hConsumed⟩ := hHonest
  have hSplit : peer.traffic = trafficOf before ++ .sendto w flags :: trafficOf after := by
    rw [← hTraffic, hLog, trafficOf_append]
    rfl
  have hMem : .sendto w flags ∈ peer.traffic := by
    rw [hSplit]
    exact List.mem_append_right _ (List.mem_cons_self ..)
  have hLabel := h.labelled.sent w (List.mem_filterMap.2 ⟨_, (List.mem_filter.1 hMem).1, rfl⟩)
  obtain ⟨-, -, hSameType, -, -⟩ := hLabel.received beyond
  refine h.heard hAcks hHead hSplit ?_ ?_ (hSameType ▸ hType) hParsed
  · rwa [queuedCount_traffic]
  · rwa [consumedOf_traffic]

/-- A socket that has not heard from its peer is run calmly. -/
theorem Greeting.calm_of {s : Conn} (h : Greeting s) (hPacket : ∀ r, cause ≠ .packet r)
    (hSyn : ∀ d, cause ≠ .syn d) (hDrained : cause = .drained → entryOf s.log ≠ none)
    (hDeferred : cause = .deferred → .scheduleAck ∈ s.log) : cause.calm := by
  cases cause with
  | call | write | asked | timer => trivial
  | drained => exact absurd ((entryOf_story s.log).symm.trans h.entry) (hDrained rfl)
  | deferred => exact absurd (hDeferred rfl) h.unasked
  | packet r => exact absurd rfl (hPacket r)
  | syn d => exact absurd rfl (hSyn d)

theorem entryOf_append_ne {log : List Event} (more : List Event) (h : entryOf log ≠ none) : entryOf (log ++ more) ≠ none := by
  obtain ⟨start, hStart⟩ := Option.ne_none_iff_exists'.1 h
  rw [entryOf_append, hStart]
  exact nofun

theorem obeys_hailing (env : Env) (s0 : Nat) : Obeys env [] (entryOf · ≠ none) (Hailing s0) := by
  refine ⟨fun s currentMs tick hInv => hInv.clock currentMs tick, fun s d hInv hType hHonest => ?_,
    fun cause s s' hInv hPacket hSyn hDrained hDeferred hPath => ?_⟩
  · obtain ⟨before, after, w, flags, beyond, hLog, -⟩ := hHonest
    exact absurd hLog.symm (by simp)
  · exact hInv.path (hInv.greeting.calm_of hPacket hSyn hDrained hDeferred) hPacket hPath

/-- The dialled socket keeps the accord when it hears what the other one has sent. -/
theorem obeys_left (env : Env) (hTraffic : trafficOf log = b.traffic) :
    Obeys env log (entryOf · ≠ none) fun s => Accord s0 t0 s b := by
  refine ⟨fun s currentMs tick hInv => hInv.clock_left currentMs tick, fun s d hInv hType hHonest => ?_,
    fun cause s s' hInv hPacket hSyn hDrained hDeferred hPath => ?_⟩
  · refine hInv.hears_left hType fun r hParsed => ?_
    exact hInv.acceptor.heard_of_honest hTraffic hInv.answered.acks (fun k hk => by omega) hHonest hType hParsed
  · exact hInv.left_ran hPacket
      (fun hGreeting => hGreeting.calm_of hPacket hSyn hDrained hDeferred) hPath

/-- The accepted socket keeps the accord when it hears what the dialled one has sent. -/
theorem obeys_right (env : Env) (hTraffic : trafficOf log = a.traffic) :
    Obeys env log (fun _ => True) fun s => Accord s0 t0 a s := by
  refine ⟨fun s currentMs tick hInv => hInv.clock_right currentMs tick, fun s d hInv hType hHonest => ?_,
    fun cause s s' hInv hPacket _ _ _ hPath => hInv.right_ran hPacket hPath⟩
  refine hInv.hears_right hType fun r hParsed => ?_
  refine hInv.dialler.heard_of_honest hTraffic hInv.acksA (fun k hk => ?_) hHonest hType hParsed
  obtain rfl : k = 0 := by omega
  exact ⟨[], hInv.syn⟩

end Ends

section Link

variable {envA envB : Env} {p q : Nat} {a b : Context}

theorem Context.Awaits.hails {env : Env} {c c' : Context} {s0 : Nat} (h : c.Awaits env p c') (hReach : c.Reachable env)
    (hShows : ∃ s, c.Shows p s ∧ Hailing s0 s) : c'.Reachable env ∧ ∃ s, c'.Shows p s ∧ Hailing s0 s := by
  induction h with
  | now => exact ⟨hReach, hShows⟩
  | later op hPrior hStep hHears hDrains ih =>
      exact ⟨.next op ih.1 hStep,
        (obeys_hailing env s0).step (fun _ more => entryOf_append_ne more) ih.1 hStep hHears hDrains ih.2⟩

/-- A socket that was dialled. -/
theorem Context.hails_of_connect {env : Env} {c c' : Context} {addr : PackedSockAddr} {draws : Nat}
    (hReach : c.Reachable env) (hStep : c.step env (.connect p addr draws) = some c') :
    ∃ s0 s, c'.Shows p s ∧ Hailing s0 s := by
  have hDraws : ∃ seed mid, c.drawSeed env addr draws = some (seed, mid) := by
    unfold step at hStep
    split_ifs at hStep
    have hConnect : c.utpConnect env p addr draws = some c' := hStep
    unfold utpConnect at hConnect
    obtain ⟨⟨seed, mid⟩, hDraw, -⟩ := Option.map_eq_some_iff.1 hConnect
    exact ⟨seed, mid, hDraw⟩
  obtain ⟨seed, mid, hDraw⟩ := hDraws
  obtain ⟨start, fresh, hOk, hFresh, hNew, rfl⟩ := dialled_of_connect hReach.ok hDraw hStep
  obtain ⟨hPristine, hLog⟩ := hOk.pristine p fresh hFresh hNew
  have hBlank : Blank ((start.enter p fresh).initializeSocket env addr seed seed (seed + 1)) :=
    .initialised hPristine hLog addr seed seed (seed + 1)
  obtain ⟨s0, hHails⟩ := hBlank.hails env
  have hPath : Path env .call _ (start.dialled env p fresh addr seed) := hOk.path_dialled hFresh hNew addr seed
  obtain ⟨sock, hHolds, hEnter, -⟩ := holds_enlisted ⟨addr, seed⟩ hOk hFresh hNew hPath
  have hOld := (Reachable.next _ hReach hStep).ok.allocated p sock hHolds.1
  exact ⟨s0, start.dialled env p fresh addr seed, ⟨hOld, Or.inr ⟨sock, hHolds, hEnter⟩⟩, hHails⟩

/-- A socket that was created for the SYN of another one. -/
theorem Context.accord_of_syn {env : Env} {c c' : Context} {addr : PackedSockAddr} {s0 : Nat} {s : Conn} {syn : Wire}
    {flags : Nat} {beyond : Nat → UInt8} (hReach : c.Reachable env) (hHails : Hailing s0 s)
    (hSyn : .sendto syn flags ∈ s.log) (hStep : c.step env (.processUdp (syn.received beyond) addr) = some c')
    (hThere : c'.sockets c.allocated ≠ none) : ∃ t0 t, c'.Shows c.allocated t ∧ Accord s0 t0 s t := by
  obtain ⟨hType, hSeq⟩ := hHails.syn_seqNr hSyn beyond
  have hLabel := hHails.side.labelled.sent syn (List.mem_filterMap.2 ⟨_, hSyn, rfl⟩)
  obtain ⟨hLen, hVersion, hSame, -, -⟩ := hLabel.received beyond
  obtain ⟨start, fresh, hOk, hFresh, hNew, hEq⟩ :=
    accepted_of_syn hReach.ok (hSame.trans hType) hLen hVersion hStep hThere
  obtain ⟨hPristine, hLog⟩ := hOk.pristine c.allocated fresh hFresh hNew
  have hPath : Path env (.syn (syn.received beyond)) _ ((start.enter c.allocated fresh).acceptSocket env
    (syn.received beyond) addr) := hOk.path_accepted hFresh hNew (syn.received beyond) addr
  obtain ⟨sock, hHolds, hEnter, -⟩ :=
    holds_enlisted ⟨addr, (syn.received beyond).header.connid + 1⟩ hOk hFresh hNew hPath
  rw [← hEq] at hHolds hEnter
  obtain ⟨t0, hAccord⟩ := hHails.accepted (t := start.enter c.allocated fresh) env hPristine hLog _ hSeq addr
  have hOld := (Reachable.next _ hReach hStep).ok.allocated c.allocated sock hHolds.1
  exact ⟨t0, _, ⟨hOld, Or.inr ⟨sock, hHolds, hEnter⟩⟩, hAccord⟩

/-- Two contexts with a connection between them: its two ends agree. -/
theorem Link.accord (h : Link envA envB p q a b) : (a.Reachable envA ∧ b.Reachable envB) ∧
    ∃ s0 t0 sa sb, a.Shows p sa ∧ b.Shows q sb ∧ Accord s0 t0 sa sb := by
  induction h with
  | opened a₀ a₁ a b₀ b addrA addrB draws syn flags beyond hDialler hDial hAwaits hSyn hAcceptor hNumber hAccept hThere =>
      obtain ⟨s0, hHails⟩ := Context.hails_of_connect hDialler hDial
      obtain ⟨hReachA, sa, hShowsA, hHailing⟩ := hAwaits.hails (.next _ hDialler hDial) hHails
      have hSent : .sendto syn flags ∈ sa.traffic := by
        rw [← hShowsA.traffic]
        exact List.mem_filter.2 ⟨hSyn, rfl⟩
      subst hNumber
      obtain ⟨t0, sb, hShowsB, hAccord⟩ :=
        Context.accord_of_syn hAcceptor hHailing (List.mem_filter.1 hSent).1 hAccept hThere
      exact ⟨⟨hReachA, .next _ hAcceptor hAccept⟩, s0, t0, sa, sb, hShowsA, hShowsB, hAccord⟩
  | left op hPrior hStep hHears hDrains ih =>
      obtain ⟨⟨hReachA, hReachB⟩, s0, t0, sa, sb, hShowsA, hShowsB, hAccord⟩ := ih
      obtain ⟨sa', hShows, hAccord'⟩ := (obeys_left envA hShowsB.traffic).step (fun _ more => entryOf_append_ne more)
        hReachA hStep hHears hDrains ⟨sa, hShowsA, hAccord⟩
      exact ⟨⟨.next op hReachA hStep, hReachB⟩, s0, t0, sa', sb, hShows, hShowsB, hAccord'⟩
  | right op hPrior hStep hHears ih =>
      obtain ⟨⟨hReachA, hReachB⟩, s0, t0, sa, sb, hShowsA, hShowsB, hAccord⟩ := ih
      obtain ⟨sb', hShows, hAccord'⟩ := (obeys_right envB hShowsA.traffic).step (fun _ _ => id) hReachB hStep hHears
        (fun _ => trivial) ⟨sb, hShowsB, hAccord⟩
      exact ⟨⟨hReachA, .next op hReachB hStep⟩, s0, t0, sa, sb', hShowsA, hShows, hAccord'⟩

end Link

section Schedule

/-- One step of a schedule: an operation at one end in which it hears nothing, or a packet of the
other end that arrives. -/
inductive Move where
  | left (op : Op)
  | right (op : Op)
  | toLeft (packet : Wire) (flags : Nat) (addr : PackedSockAddr)
  | toRight (packet : Wire) (flags : Nat) (addr : PackedSockAddr)

def Op.hearsNothing : Op → Bool
  | .processUdp _ _ | .readDrained _ => false
  | _ => true

/-- A packet of a short record. -/
def recordsShortly (packet : Wire) (flags : Nat) (log : List Event) : Bool :=
  log.contains (.sendto packet flags) && decide (log.length ≤ 32768)

def Move.play (envA envB : Env) (p q : Nat) (move : Move) (a b : Context) : Option (Context × Context) :=
  match move with
  | .left op => if op.hearsNothing then (a.step envA op).map fun a' => (a', b) else none
  | .right op => if op.hearsNothing then (b.step envB op).map fun b' => (a, b') else none
  | .toLeft packet flags addr =>
      if recordsShortly packet flags (b.logs q) then
        (a.step envA (.processUdp (packet.received fun _ => 0) addr)).map fun a' => (a', b)
      else none
  | .toRight packet flags addr =>
      if recordsShortly packet flags (a.logs p) then
        (b.step envB (.processUdp (packet.received fun _ => 0) addr)).map fun b' => (a, b')
      else none

def playAll (envA envB : Env) (p q : Nat) : List Move → Context → Context → Option (Context × Context)
  | [], a, b => some (a, b)
  | move :: moves, a, b => (move.play envA envB p q a b).bind fun next => playAll envA envB p q moves next.1 next.2

variable {envA envB : Env} {p q : Nat} {a b a' b' : Context}

theorem Op.hears_of_nothing {op : Op} (h : op.hearsNothing = true) (c : Context) (log : List Event) :
    c.Hears log p op ∧ c.Drains p op := by
  cases op with
  | processUdp d addr => cases h
  | readDrained q => cases h
  | _ => exact ⟨trivial, nofun⟩

theorem Honest.of_records {packet : Wire} {flags : Nat} {log : List Event} (h : recordsShortly packet flags log = true) :
    Honest (packet.received fun _ => 0) log := by
  simp only [recordsShortly, Bool.and_eq_true, List.contains_iff_mem, decide_eq_true_eq] at h
  obtain ⟨before, after, rfl⟩ := List.append_of_mem h.1
  have hLength : after.length ≤ 32768 := by
    have hShort := h.2
    rw [List.length_append, List.length_cons] at hShort
    omega
  exact ⟨before, after, packet, flags, _, rfl, rfl, List.countP_le_length.trans hLength,
    (List.length_filterMap_le ..).trans hLength⟩

theorem Link.play {move : Move} (h : Link envA envB p q a b) (hPlay : move.play envA envB p q a b = some (a', b')) :
    Link envA envB p q a' b' := by
  cases move with
  | left op =>
      simp only [Move.play, Option.ite_none_right_eq_some, Option.map_eq_some_iff, Prod.mk.injEq] at hPlay
      obtain ⟨hNothing, next, hStep, rfl, rfl⟩ := hPlay
      exact .left op h hStep (Op.hears_of_nothing hNothing _ _).1 (Op.hears_of_nothing hNothing a (b.logs q)).2
  | right op =>
      simp only [Move.play, Option.ite_none_right_eq_some, Option.map_eq_some_iff, Prod.mk.injEq] at hPlay
      obtain ⟨hNothing, next, hStep, rfl, rfl⟩ := hPlay
      exact .right op h hStep (Op.hears_of_nothing hNothing _ _).1
  | toLeft packet flags addr =>
      simp only [Move.play, Option.ite_none_right_eq_some, Option.map_eq_some_iff, Prod.mk.injEq] at hPlay
      obtain ⟨hRecords, next, hStep, rfl, rfl⟩ := hPlay
      exact .left _ h hStep (fun _ => .of_records hRecords) nofun
  | toRight packet flags addr =>
      simp only [Move.play, Option.ite_none_right_eq_some, Option.map_eq_some_iff, Prod.mk.injEq] at hPlay
      obtain ⟨hRecords, next, hStep, rfl, rfl⟩ := hPlay
      exact .right _ h hStep fun _ => .of_records hRecords

theorem Link.playAll {moves : List Move} (h : Link envA envB p q a b)
    (hPlay : Utp.playAll envA envB p q moves a b = some (a', b')) : Link envA envB p q a' b' := by
  induction moves generalizing a b with
  | nil =>
      cases hPlay
      exact h
  | cons move moves ih =>
      obtain ⟨⟨a₁, b₁⟩, hFirst, hRest⟩ := Option.bind_eq_some_iff.1 hPlay
      exact ih (h.play hFirst) hRest

end Schedule

end Utp
