import Utp.Invariant.Labels
import Utp.Invariant.Ticks
import Utp.Guarantees.Table

/-! Whether the packets of a connection reach the socket at its other end. The ids have 32
bits in a socket and in the table, and 16 bits on the wire. -/
namespace Utp

open Wrapping

namespace Context

/-- The datagram is handed to the socket `p`, and is not answered with a RST. -/
def Routes (env : Env) (d : Datagram) (addr : PackedSockAddr) (p : Nat) (c : Context) : Prop :=
  c.delivers d addr p = true ∧ (c.utpProcessUdp env d addr).2.rstCount = c.rstCount

end Context

/-- A connection. The socket `p` of the context `a` was dialled with the seed, and the socket
`q` of the context `b` was created for a SYN of `p`. Both contexts may have gone on since. -/
structure Connection (envA envB : Env) (addrA addrB : PackedSockAddr) (seed : Nat) (a b : Context) (p q : Nat) : Prop where
  dialled : ∃ (a₀ mid a₁ : Context) (draws : Nat), a₀.Reachable envA ∧ a₀.drawSeed envA addrB draws = some (seed, mid) ∧
    a₀.step envA (.connect p addrB draws) = some a₁ ∧ a₁.Follows envA a
  accepted : ∃ (b₀ b₁ : Context) (syn : Wire) (flags : Nat) (beyond : Nat → UInt8), .sendto syn flags ∈ a.logs p ∧
    syn.header.type = stSyn ∧ b₀.Reachable envB ∧ q = b₀.allocated ∧
    b₀.step envB (.processUdp (syn.received beyond) addrA) = some b₁ ∧ b₁.sockets q ≠ none ∧ b₁.Follows envB b

namespace Context

variable {env : Env} {c c' : Context} {p : Nat} {sock : Socket} {addr : PackedSockAddr}

/-- Only the id decides whether a packet of a socket is handed to its peer. -/
theorem Ok.routes_iff (h : c.Ok) (hSock : c.Holds p sock) {dials : Prop} {recvId sendId : Nat} {w : Wire}
    (hLabel : w.header.Labelled dials recvId sendId) (hType : w.header.type ≠ stSyn) (beyond : Nat → UInt8) :
    Routes env (w.received beyond) sock.addr p c ↔ sock.connIdRecv = u16 sendId := by
  obtain ⟨hLen, hVersion, hSame, hReset, hConnid⟩ := hLabel.received beyond
  have hId := hLabel.connid
  rw [if_neg hType] at hId
  have hFind : c.findConn sock.addr (w.received beyond).header.connid = some p ↔ sock.connIdRecv = u16 sendId := by
    rw [h.findConn_eq_lookup, hConnid, hId]
    constructor
    · intro hFound
      obtain ⟨sock', hSock', hKey⟩ := h.holds_of_lookup hFound
      cases Option.some.inj (hSock.1.symm.trans hSock'.1)
      exact (congrArg UTPSocketKey.recvId hKey).symm
    · intro hRecv
      rw [← hRecv]
      exact h.lookup_key hSock
  constructor
  · rintro ⟨hDelivers, -⟩
    unfold delivers at hDelivers
    simp only [Bool.and_eq_true, beq_iff_eq] at hDelivers
    exact hFind.1 hDelivers.2
  · intro hRecv
    have hFound := hFind.2 hRecv
    refine ⟨?_, ?_⟩
    · unfold delivers
      simp only [Bool.and_eq_true, decide_eq_true_eq, beq_iff_eq, bne_iff_ne]
      exact ⟨⟨⟨⟨hLen, hVersion⟩, hSame.trans_ne hReset⟩, hSame.trans_ne hType⟩, hFound⟩
    · have hStep : RstStep env (.processUdp (w.received beyond) sock.addr) c
          (c.utpProcessUdp env (w.received beyond) sock.addr).2 := rstStep_utpProcessUdp h
      cases hStep with
      | aside hAside hOther hTaken => exact hAside.rstCount
      | rejected d' addr' hOp hRejects hEq =>
          cases hOp
          unfold rejects at hRejects
          simp [hFound] at hRejects
      | checked order hOp hSwept => cases hOp

end Context

section Connection

variable {envA envB : Env} {addrA addrB : PackedSockAddr} {seed : Nat} {a b : Context} {p q : Nat}

/-- The two sockets of a connection, as they were when the connection was set up. -/
structure Ends (envA envB : Env) (addrA addrB : PackedSockAddr) (seed : Nat) (a b : Context) (p q : Nat) : Prop where
  seed_lt : seed < 65536
  dialled : ∃ (a₁ : Context) (sock : Socket), a₁.Reachable envA ∧ a₁.Holds p sock ∧ a₁.Follows envA a ∧
    sock.addr = addrB ∧ sock.connIdRecv = seed ∧ sock.connIdSend = seed + 1
  accepted : ∃ (b₁ : Context) (sock : Socket), b₁.Reachable envB ∧ b₁.Holds q sock ∧ b₁.Follows envB b ∧
    Answering (b₁.enter q sock) ∧ sock.addr = addrA ∧ sock.connIdRecv = seed + 1 ∧ sock.connIdSend = seed

theorem Connection.ends (h : Connection envA envB addrA addrB seed a b p q) :
    Ends envA envB addrA addrB seed a b p q := by
  obtain ⟨a₀, mid, a₁, draws, hReach, hDraw, hDial, hLater⟩ := h.dialled
  obtain ⟨b₀, b₁, syn, flags, beyond, hSent, hSyn, hReach', rfl, hAccept, hThere, hLater'⟩ := h.accepted
  have hReachA : a₁.Reachable envA := .next _ hReach hDial
  have hReachB : b₁.Reachable envB := .next _ hReach' hAccept
  have hSeed : seed < 65536 := (Context.drawSeed_spec hDraw).1
  have hDialled : ∃ sock, a₁.Holds p sock ∧ sock.addr = addrB ∧ sock.connIdRecv = seed ∧ sock.connIdSend = seed + 1 := by
    obtain ⟨start, fresh, hOk, hFresh, hNew, rfl⟩ := Context.dialled_of_connect hReach.ok hDraw hDial
    have hPath : Path envA .call _ (start.dialled envA p fresh addrB seed) := hOk.path_dialled hFresh hNew addrB seed
    obtain ⟨sock, hHolds, -, hIds⟩ := Context.holds_enlisted ⟨addrB, seed⟩ hOk hFresh hNew hPath
    exact ⟨sock, hHolds, hIds⟩
  obtain ⟨sock, hSock, hAddr, hRecv, hSend⟩ := hDialled
  have hLabel : syn.header.Labelled True sock.connIdRecv sock.connIdSend :=
    Context.labelled_of_sent (preserved_labelled envA).toKept (fun _ hInv => hInv) hReachA.ok hSock
      ((preserved_labelled envA).reachable hReachA p sock hSock) hLater hSent
  obtain ⟨hLen, hVersion, hSame, -, hConnid⟩ := hLabel.received beyond
  have hId : (syn.received beyond).header.connid = seed := by
    rw [hConnid, hLabel.connid, if_pos hSyn, hRecv]
    exact u16_of_lt hSeed
  refine ⟨hSeed, ⟨a₁, sock, hReachA, hSock, hLater, hAddr, hRecv, hSend⟩, ?_⟩
  obtain ⟨start, fresh, hOk, hFresh, hNew, hEq⟩ :=
    Context.accepted_of_syn hReach'.ok (hSame.trans hSyn) hLen hVersion hAccept hThere
  have hPath : Path envB (.syn (syn.received beyond)) _ ((start.enter b₀.allocated fresh).acceptSocket envB
    (syn.received beyond) addrA) := hOk.path_accepted hFresh hNew (syn.received beyond) addrA
  have hAnswers : Answering ((start.enter b₀.allocated fresh).acceptSocket envB (syn.received beyond) addrA) :=
    hOk.answering hFresh hNew (syn.received beyond) addrA
  obtain ⟨sock', hHolds, hEnter, hAddr', hRecv', hSend'⟩ :=
    Context.holds_enlisted ⟨addrA, (syn.received beyond).header.connid + 1⟩ hOk hFresh hNew hPath
  rw [← hEnter, ← hEq] at hAnswers
  rw [← hEq] at hHolds
  rw [hId] at hRecv' hSend'
  exact ⟨b₁, sock', hReachB, hHolds, hLater', hAnswers, hAddr', hRecv', hSend'⟩

end Connection

theorem Context.Follows.of_run {env : Env} {c mid c' : Context} {ops : List Op} (h : c.Follows env mid)
    (hRun : mid.run env ops = some c') : c.Follows env c' := by
  induction ops generalizing mid with
  | nil => exact Option.some.inj hRun ▸ h
  | cons op ops ih =>
      obtain ⟨next, hStep, hRest⟩ := Option.bind_eq_some_iff.1 hRun
      exact ih (.later op h hStep) hRest

/-- A connection of two contexts. Every packet of the dialled socket after its SYN is handed to
the accepted one exactly if the seed is not 65535; and every packet of the accepted socket is
handed to the dialled one. None of them is answered with a RST. -/
theorem connection_ids_route_iff (envA envB : Env) (addrA addrB : PackedSockAddr) (seed : Nat) (a b : Context) (p q : Nat)
    (hConn : Connection envA envB addrA addrB seed a b p q) :
    (∀ w flags beyond, .sendto w flags ∈ a.logs p → w.header.type ≠ stSyn → b.sockets q ≠ none →
      (Context.Routes envB (w.received beyond) addrA q b ↔ seed ≠ 65535)) ∧
    ∀ w flags beyond, .sendto w flags ∈ b.logs q → a.sockets p ≠ none →
      Context.Routes envA (w.received beyond) addrB p a := by
  obtain ⟨hSeed, ⟨a₁, sockA, hReachA, hSockA, hLaterA, hAddrA, hRecvA, hSendA⟩,
    ⟨b₁, sockB, hReachB, hSockB, hLaterB, hAnswers, hAddrB, hRecvB, hSendB⟩⟩ := hConn.ends
  constructor
  · intro w flags beyond hSent hType hThere
    obtain ⟨sock, hSock⟩ := Option.ne_none_iff_exists'.1 hThere
    obtain ⟨hHolds, hWho⟩ := (kept_identity envB (b₁.enter q sockB).identity).follows hReachB.ok hSockB rfl hLaterB hSock
    have hLabel : w.header.Labelled True sockA.connIdRecv sockA.connIdSend :=
      Context.labelled_of_sent (preserved_labelled envA).toKept (fun _ hInv => hInv) hReachA.ok hSockA
        ((preserved_labelled envA).reachable hReachA p sockA hSockA) hLaterA hSent
    have hAddr : sock.addr = addrA := (congrArg Identity.addr hWho).trans hAddrB
    have hRecv : sock.connIdRecv = seed + 1 := (congrArg Identity.connIdRecv hWho).trans hRecvB
    rw [← hAddr, (hReachB.follows hLaterB).ok.routes_iff hHolds hLabel hType beyond, hRecv, hSendA]
    unfold u16
    omega
  · intro w flags beyond hSent hThere
    obtain ⟨sock, hSock⟩ := Option.ne_none_iff_exists'.1 hThere
    obtain ⟨hHolds, hWho⟩ := (kept_identity envA (a₁.enter p sockA).identity).follows hReachA.ok hSockA rfl hLaterA hSock
    have hLabel : w.header.Labelled False sockB.connIdRecv sockB.connIdSend :=
      Context.labelled_of_sent (kept_answering envB) (fun _ hInv => hInv.toLabelled) hReachB.ok hSockB hAnswers hLaterB hSent
    have hAddr : sock.addr = addrB := (congrArg Identity.addr hWho).trans hAddrA
    have hRecv : sock.connIdRecv = seed := (congrArg Identity.connIdRecv hWho).trans hRecvA
    rw [← hAddr, (hReachA.follows hLaterA).ok.routes_iff hHolds hLabel hLabel.syn beyond, hRecv, hSendB]
    exact (u16_of_lt hSeed).symm

/-- An embedding program that always draws the same random number. -/
def seededEnv (seed : Nat) : Env := fun _ => ⟨1000000, 1000000, seed, 0, 1500, false, false⟩

def firstSyn (seed : Nat) : Wire := ⟨⟨stSyn, 1, 0, seed, 1000000, 0, 1048576, seed, 0⟩, []⟩

def firstAck (seed : Nat) : Wire := ⟨⟨stState, 1, 0, seed, 1000000, 0, 1048576, seed, seed⟩, []⟩

/-- Dial, exchange the SYN and its ack, and write one byte. -/
def handshake (seed : Nat) (ok : Context → Context → Bool) : Bool :=
  ((utpInit true true).run (seededEnv seed) [.createSocket]).any fun a₀ =>
    (a₀.drawSeed (seededEnv seed) somePeer 1).any (fun drawn => drawn.1 == seed) &&
    (a₀.step (seededEnv seed) (.connect 0 somePeer 1)).any fun a₁ =>
      (a₁.run (seededEnv seed) [.processUdp ((firstAck seed).received fun _ => 0) somePeer, .writev 0 [[1]]]).any fun a =>
        (a.logs 0).contains (.sendto (firstSyn seed) 0) &&
        ((utpInit true true).step (seededEnv seed) (.processUdp ((firstSyn seed).received fun _ => 0) otherPeer)).any fun b =>
          (b.sockets 0).isSome && ok a b

theorem exists_connection {seed : Nat} {ok : Context → Context → Bool} (h : handshake seed ok = true) :
    ∃ a b, Connection (seededEnv seed) (seededEnv seed) otherPeer somePeer seed a b 0 0 ∧ ok a b = true := by
  unfold handshake at h
  simp only [Bool.and_eq_true, beq_iff_eq, List.contains_iff_mem, Option.any_eq_true, Option.isSome_iff_ne_none] at h
  obtain ⟨a₀, hRun, ⟨⟨drawn, mid⟩, hDraw, rfl⟩, a₁, hDial, a, hRest, hSent, b, hAccept, hThere, hOk⟩ := h
  refine ⟨a, b, ⟨⟨a₀, mid, a₁, 1, ?_, hDraw, hDial, .of_run .now hRest⟩, ?_⟩, hOk⟩
  · exact Context.Reachable.run _ (.init true true) hRun
  · exact ⟨utpInit true true, b, firstSyn drawn, 0, fun _ => 0, hSent, rfl, .init true true, rfl, hAccept, hThere, .now⟩

/-- With the seed 7, the first byte and its ack are routed. -/
theorem connection_ids_route_seven : ∃ a b, Connection (seededEnv 7) (seededEnv 7) otherPeer somePeer 7 a b 0 0 ∧
    Context.Routes (seededEnv 7) (Wire.received ⟨⟨stData, 1, 0, 8, 1000000, 0, 1048576, 8, 6⟩, [1]⟩ fun _ => 0) otherPeer 0 b ∧
    Context.Routes (seededEnv 7) ((firstAck 7).received fun _ => 0) somePeer 0 a := by
  have hRun : handshake 7 (fun a b => (a.logs 0).contains (.sendto ⟨⟨stData, 1, 0, 8, 1000000, 0, 1048576, 8, 6⟩, [1]⟩ 0) &&
      (b.logs 0).contains (.sendto (firstAck 7) 0) && (a.sockets 0).isSome && (b.sockets 0).isSome) = true := by
    decide +kernel
  obtain ⟨a, b, hConn, hOk⟩ := exists_connection hRun
  simp only [Bool.and_eq_true, List.contains_iff_mem, Option.isSome_iff_ne_none] at hOk
  obtain ⟨⟨⟨hData, hAck⟩, hHere⟩, hThere⟩ := hOk
  obtain ⟨hForth, hBack⟩ := connection_ids_route_iff _ _ _ _ 7 a b 0 0 hConn
  exact ⟨a, b, hConn, (hForth _ 0 _ hData (by decide) hThere).2 (by decide), hBack _ 0 _ hAck hHere⟩

/-- With the seed 65535, the first byte is sent with the id 0, and is answered with a RST. -/
theorem last_seed_rejected : ∃ a b, Connection (seededEnv 65535) (seededEnv 65535) otherPeer somePeer 65535 a b 0 0 ∧
    b.sockets 0 ≠ none ∧ .sendto ⟨⟨stData, 1, 0, 0, 1000000, 0, 1048576, 0, 65534⟩, [1]⟩ 0 ∈ a.logs 0 ∧
    ¬Context.Routes (seededEnv 65535)
      (Wire.received ⟨⟨stData, 1, 0, 0, 1000000, 0, 1048576, 0, 65534⟩, [1]⟩ fun _ => 0) otherPeer 0 b ∧
    (b.utpProcessUdp (seededEnv 65535)
      (Wire.received ⟨⟨stData, 1, 0, 0, 1000000, 0, 1048576, 0, 65534⟩, [1]⟩ fun _ => 0) otherPeer).2.rstCount =
      b.rstCount + 1 := by
  have hRun : handshake 65535 (fun a b =>
      (a.logs 0).contains (.sendto ⟨⟨stData, 1, 0, 0, 1000000, 0, 1048576, 0, 65534⟩, [1]⟩ 0) && (b.sockets 0).isSome &&
      (b.utpProcessUdp (seededEnv 65535) (Wire.received
        ⟨⟨stData, 1, 0, 0, 1000000, 0, 1048576, 0, 65534⟩, [1]⟩ fun _ => 0) otherPeer).2.rstCount == b.rstCount + 1) = true := by
    decide +kernel
  obtain ⟨a, b, hConn, hOk⟩ := exists_connection hRun
  simp only [Bool.and_eq_true, List.contains_iff_mem, Option.isSome_iff_ne_none, beq_iff_eq] at hOk
  obtain ⟨⟨hData, hThere⟩, hCount⟩ := hOk
  refine ⟨a, b, hConn, hThere, hData, fun hRoutes => ?_, hCount⟩
  have hSame := hRoutes.2
  omega

end Utp
