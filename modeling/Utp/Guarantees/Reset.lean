import Utp.Invariant.Labels
import Utp.Invariant.Ticks
import Utp.Guarantees.Table
import Utp.Guarantees.Teardown

/-! A RST that answers a packet: whether the socket that sent the packet is the one that it
ends. The handler looks for the id of the RST among the ids on which sockets receive first,
and does not verify that match. -/
namespace Utp

open Wrapping

namespace Context

variable {env : Env} {c c' : Context} {p q : Nat} {sock : Socket} {addr : PackedSockAddr}

/-- The socket `p` is ended, if it still exists, and no other socket is touched. -/
def ResetReaches (c c' : Context) (p : Nat) : Prop :=
  (∀ sock, c.sockets p = some sock →
    ∃ sock', c'.sockets p = some sock' ∧ (sock'.state = .reset ∨ sock'.state = .destroy)) ∧
  ∀ q ≠ p, c.Spares c' q

/-- Which ids the sockets with one peer may have for a RST to find the right one. The socket
`p` sends with the given id. -/
structure ResetSafe (c : Context) (p : Nat) (addr : PackedSockAddr) (sendId : Nat) : Prop where
  fits : ∀ sock, c.sockets p = some sock → sock.state = .reset ∨ sock.state = .destroy ∨ sendId < 65536
  unclaimed : ∀ q sock, c.Holds q sock → sock.addr = addr → sock.connIdRecv ≠ u16 sendId
  accepted : ∀ q sock, c.Holds q sock → q ≠ p → sock.addr = addr → sock.connIdSend = u16 sendId →
    sock.connIdRecv ≠ u16 sendId + 1
  dialled : c.sockets p = none → ∀ q sock, c.Holds q sock → sock.addr = addr → sock.connIdSend = u16 sendId →
    sock.connIdRecv + 1 ≠ u16 sendId

/-- The table by the fields of its sockets. -/
theorem Ok.lookup_iff (h : c.Ok) {id : Nat} : c.lookup ⟨addr, id⟩ = some q ↔
    ∃ sock, c.Holds q sock ∧ sock.addr = addr ∧ sock.connIdRecv = id := by
  constructor
  · intro hFound
    obtain ⟨sock, hHolds, hKey⟩ := h.holds_of_lookup hFound
    cases hKey
    exact ⟨sock, hHolds, rfl, rfl⟩
  · rintro ⟨sock, hHolds, rfl, rfl⟩
    exact h.lookup_key hHolds

theorem sendsAs_of_holds (hSock : c.Holds p sock) (id : Nat) : c.sendsAs id p = true ↔ sock.connIdSend = id := by
  unfold sendsAs
  rw [hSock.1]
  exact beq_iff_eq

/-- The verified lookups. -/
theorem Ok.verified_iff (h : c.Ok) {key id : Nat} :
    (c.lookup ⟨addr, key⟩).filter (fun p => c.sendsAs id p) = some q ↔
      ∃ sock, c.Holds q sock ∧ sock.addr = addr ∧ sock.connIdRecv = key ∧ sock.connIdSend = id := by
  rw [Option.filter_eq_some_iff, h.lookup_iff]
  constructor
  · rintro ⟨⟨sock, hHolds, hAddr, hRecv⟩, hSend⟩
    exact ⟨sock, hHolds, hAddr, hRecv, (sendsAs_of_holds hHolds id).1 hSend⟩
  · rintro ⟨sock, hHolds, hAddr, hRecv, hSend⟩
    exact ⟨⟨sock, hHolds, hAddr, hRecv⟩, (sendsAs_of_holds hHolds id).2 hSend⟩

/-- Which of the three lookups answers. -/
inductive Found (c : Context) (addr : PackedSockAddr) (id : Nat) : Option Nat → Prop where
  | claimed (q : Nat) (sock : Socket) (hSock : c.Holds q sock) (hAddr : sock.addr = addr) (hRecv : sock.connIdRecv = id) :
      Found c addr id (some q)
  | accepted (q : Nat) (sock : Socket) (hSock : c.Holds q sock) (hAddr : sock.addr = addr)
      (hRecv : sock.connIdRecv = id + 1) (hSend : sock.connIdSend = id) (hFirst : c.lookup ⟨addr, id⟩ = none) :
      Found c addr id (some q)
  | dialled (q : Nat) (sock : Socket) (hSock : c.Holds q sock) (hAddr : sock.addr = addr)
      (hRecv : sock.connIdRecv = u32 (id - 1)) (hSend : sock.connIdSend = id) (hFirst : c.lookup ⟨addr, id⟩ = none)
      (hSecond : (c.lookup ⟨addr, u32 (id + 1)⟩).filter (fun p => c.sendsAs id p) = none) : Found c addr id (some q)
  | none (hFirst : c.lookup ⟨addr, id⟩ = none)
      (hSecond : (c.lookup ⟨addr, u32 (id + 1)⟩).filter (fun p => c.sendsAs id p) = none)
      (hThird : (c.lookup ⟨addr, u32 (id - 1)⟩).filter (fun p => c.sendsAs id p) = none) : Found c addr id none

theorem Ok.found (h : c.Ok) {id : Nat} (hId : id < 65536) : Found c addr id (c.findForError addr id) := by
  have hNext : u32 ((id : Int) + 1) = id + 1 := by
    unfold u32
    omega
  unfold findForError
  cases hFirst : c.lookup ⟨addr, id⟩ with
  | some q =>
      obtain ⟨sock, hSock, hAddr, hRecv⟩ := h.lookup_iff.1 hFirst
      exact .claimed q sock hSock hAddr hRecv
  | none =>
      dsimp only
      cases hSecond : (c.lookup ⟨addr, u32 (id + 1)⟩).filter (fun p => c.sendsAs id p) with
      | some q =>
          obtain ⟨sock, hSock, hAddr, hRecv, hSend⟩ := h.verified_iff.1 hSecond
          exact .accepted q sock hSock hAddr (hRecv.trans hNext) hSend hFirst
      | none =>
          dsimp only
          cases hThird : (c.lookup ⟨addr, u32 (id - 1)⟩).filter (fun p => c.sendsAs id p) with
          | some q =>
              obtain ⟨sock, hSock, hAddr, hRecv, hSend⟩ := h.verified_iff.1 hThird
              exact .dialled q sock hSock hAddr hRecv hSend hFirst hSecond
          | none => exact .none hFirst hSecond hThird

/-- The socket that is found is ended, the others are left alone. -/
theorem resetReaches_runOn (hSock : c.Holds p sock) : ResetReaches c (c.runOn p Conn.receiveReset) p := by
  refine ⟨fun sock' hSock' => ?_, fun q hOther => spares_runOn _ hOther⟩
  refine ⟨((c.enter p sock).receiveReset).toSocket, ?_, ?_⟩
  · rw [runOn_of_some hSock.1, sockets_leave, Function.update_self]
  · change (if sock.closeRequested then ConnState.destroy else .reset) = .reset ∨
      (if sock.closeRequested then ConnState.destroy else .reset) = .destroy
    split_ifs
    · exact Or.inr rfl
    · exact Or.inl rfl

theorem not_spares_runOn (hSock : c.Holds q sock) : ¬c.Spares (c.runOn q Conn.receiveReset) q := by
  rintro ⟨-, hLog⟩
  rw [runOn_of_some hSock.1, logs_leave, Function.update_self] at hLog
  have hLength := congrArg List.length hLog
  simp [Conn.receiveReset, Conn.abandon, Conn.setState, Conn.emit, enter] at hLength

/-- What the handler of a RST with this id does. -/
def resetFor (addr : PackedSockAddr) (id : Nat) (c : Context) : Context :=
  match c.findForError addr id with
  | some q => c.runOn q Conn.receiveReset
  | none => c

section Attribution

variable {sendId : Nat} (hOk : c.Ok) (hPairs : ∀ q sock, c.Holds q sock → (c.enter q sock).identity.Paired)
  (hWho : ∀ sock, c.sockets p = some sock → c.Holds p sock ∧ sock.addr = addr ∧ sock.connIdSend = sendId)

include hPairs hWho

/-- The ids of the socket whose packet was answered. -/
theorem ids_of_sender (hSock : c.sockets p = some sock) :
    sock.connIdRecv ≠ u16 sendId ∧ (sendId < 65536 → u16 sendId = sendId ∧
      (sock.connIdRecv = u16 sendId + 1 ∨ sock.connIdRecv = u32 (u16 sendId - 1 : Int) ∧ 0 < sendId)) := by
  obtain ⟨hHolds, -, rfl⟩ := hWho sock hSock
  have hPaired := hPairs p sock hHolds
  change sock.connIdRecv < 65536 ∧ sock.connIdSend = sock.connIdRecv + 1 ∨
    sock.connIdSend < 65536 ∧ sock.connIdRecv = sock.connIdSend + 1 at hPaired
  have hWire := u16_emod sock.connIdSend
  have hLt := u16_lt sock.connIdSend
  have hPred : u32 (u16 (sock.connIdSend : Int) - 1 : Int) = (u16 (sock.connIdSend : Int) - 1 : Int) % 4294967296 := by
    unfold u32
    omega
  omega

include hOk

theorem resetSafe_of_found {q : Nat} (hFound : Found c addr (u16 sendId) (some q)) (hSame : q = p) :
    c.ResetSafe p addr sendId := by
  subst hSame
  have hFree : c.lookup ⟨addr, u16 sendId⟩ = none →
      ∀ q' sock, c.Holds q' sock → sock.addr = addr → sock.connIdRecv ≠ u16 sendId := by
    intro hFirst q' sock' hSock' hAddr' hRecv'
    exact absurd (hFirst.symm.trans (hOk.lookup_iff.2 ⟨sock', hSock', hAddr', hRecv'⟩)) (by simp)
  have hThere : ∀ {sock : Socket}, c.Holds q sock → c.sockets q ≠ none := by
    intro sock hSock hGone
    cases hGone.symm.trans hSock.1
  have hFits : ∀ {sock : Socket}, c.Holds q sock → sock.connIdSend = u16 sendId → sendId < 65536 := by
    intro sock hSock hSend
    have hSame := (hWho sock hSock.1).2.2
    have hLt := u16_lt sendId
    omega
  cases hFound with
  | claimed _ sock hSock hAddr hRecv => exact absurd hRecv (ids_of_sender hPairs hWho hSock.1).1
  | accepted _ sock hSock hAddr hRecv hSend hFirst =>
      refine ⟨fun _ _ => Or.inr (Or.inr (hFits hSock hSend)), hFree hFirst, ?_, fun hGone => absurd hGone (hThere hSock)⟩
      intro q' sock' hSock' hOther hAddr' hSend' hRecv'
      refine hOther (hOk.key_injective hSock' hSock ?_)
      unfold Socket.key
      rw [hAddr', hAddr, hRecv', hRecv]
  | dialled _ sock hSock hAddr hRecv hSend hFirst hSecond =>
      refine ⟨fun _ _ => Or.inr (Or.inr (hFits hSock hSend)), hFree hFirst, ?_, fun hGone => absurd hGone (hThere hSock)⟩
      intro q' sock' hSock' hOther hAddr' hSend' hRecv'
      have hLt := u16_lt sendId
      have hNext : u32 ((u16 sendId : Nat) + 1 : Int) = u16 sendId + 1 := by
        unfold u32
        omega
      have hMatch := hOk.verified_iff.2 ⟨sock', hSock', hAddr', hRecv'.trans hNext.symm, hSend'⟩
      cases hSecond.symm.trans hMatch

/-- A RST for the id with which `p` sends ends `p`, and `p` alone, exactly if the ids of the
sockets with that peer allow it. -/
theorem resetReaches_iff : ResetReaches c (c.resetFor addr (u16 sendId)) p ↔ c.ResetSafe p addr sendId := by
  have hLt := u16_lt sendId
  have hFound : Found c addr (u16 sendId) (c.findForError addr (u16 sendId)) := hOk.found hLt
  have hNext : u32 ((u16 sendId : Nat) + 1 : Int) = u16 sendId + 1 := by
    unfold u32
    omega
  unfold resetFor
  generalize c.findForError addr (u16 sendId) = found at hFound
  cases found with
  | some q =>
      have hHolds : ∃ sock, c.Holds q sock := by
        cases hFound with
        | claimed _ sock hSock => exact ⟨sock, hSock⟩
        | accepted _ sock hSock => exact ⟨sock, hSock⟩
        | dialled _ sock hSock => exact ⟨sock, hSock⟩
      obtain ⟨sock, hSock⟩ := hHolds
      by_cases hSame : q = p
      · refine iff_of_true ?_ (resetSafe_of_found hOk hPairs hWho hFound hSame)
        subst hSame
        exact resetReaches_runOn hSock
      · refine iff_of_false (fun hReaches => not_spares_runOn hSock (hReaches.2 q hSame)) fun hSafe => ?_
        clear hSock
        cases hFound with
        | claimed _ sock hSock hAddr hRecv => exact hSafe.unclaimed q sock hSock hAddr hRecv
        | accepted _ sock hSock hAddr hRecv hSend hFirst => exact hSafe.accepted q sock hSock hSame hAddr hSend hRecv
        | dialled _ sock hSock hAddr hRecv hSend hFirst hSecond =>
            have hPaired := hPairs q sock hSock
            change sock.connIdRecv < 65536 ∧ sock.connIdSend = sock.connIdRecv + 1 ∨
              sock.connIdSend < 65536 ∧ sock.connIdRecv = sock.connIdSend + 1 at hPaired
            have hPred : u32 ((u16 sendId : Nat) - 1 : Int) = ((u16 sendId : Nat) - 1 : Int) % 4294967296 := by
              unfold u32
              omega
            have hBelow : sock.connIdRecv + 1 = u16 sendId := by omega
            cases hThere : c.sockets p with
            | none => exact hSafe.dialled hThere q sock hSock hAddr hSend hBelow
            | some sock' =>
                obtain ⟨hHolds, hAddr', hSend'⟩ := hWho sock' hThere
                have hPaired' := hPairs p sock' hHolds
                change sock'.connIdRecv < 65536 ∧ sock'.connIdSend = sock'.connIdRecv + 1 ∨
                  sock'.connIdSend < 65536 ∧ sock'.connIdRecv = sock'.connIdSend + 1 at hPaired'
                have hWire := u16_emod sendId
                have hFits : sendId < 65536 := by omega
                obtain ⟨hExact, hAbove | ⟨hSameId, -⟩⟩ := (ids_of_sender hPairs hWho hThere).2 hFits
                · have hMatch := hOk.verified_iff.2 ⟨sock', hHolds, hAddr', hAbove.trans hNext.symm, hSend'.trans hExact.symm⟩
                  cases hSecond.symm.trans hMatch
                · refine hSame (hOk.key_injective hSock hHolds ?_)
                  unfold Socket.key
                  rw [hAddr, hAddr', hRecv, hSameId]
  | none =>
      cases hFound with
      | none hFirst hSecond hThird =>
          constructor
          · intro hReaches
            refine ⟨fun sock hSock => ?_, fun q sock hSock hAddr hRecv => ?_, fun q sock hSock _ hAddr hSend hRecv => ?_,
              fun _ q sock hSock hAddr hSend hRecv => ?_⟩
            · obtain ⟨sock', hSock', hDone⟩ := hReaches.1 sock hSock
              cases Option.some.inj (hSock.symm.trans hSock')
              exact hDone.imp_right Or.inl
            · cases hFirst.symm.trans (hOk.lookup_iff.2 ⟨sock, hSock, hAddr, hRecv⟩)
            · cases hSecond.symm.trans (hOk.verified_iff.2 ⟨sock, hSock, hAddr, hRecv.trans hNext.symm, hSend⟩)
            · have hBelow : sock.connIdRecv = u32 ((u16 sendId : Nat) - 1 : Int) := by
                unfold u32
                omega
              cases hThird.symm.trans (hOk.verified_iff.2 ⟨sock, hSock, hAddr, hBelow, hSend⟩)
          · intro hSafe
            refine ⟨fun sock hSock => ⟨sock, hSock, ?_⟩, fun q _ => ⟨rfl, rfl⟩⟩
            rcases hSafe.fits sock hSock with hReset | hDestroy | hFits
            · exact Or.inl hReset
            · exact Or.inr hDestroy
            · obtain ⟨hHolds, hAddr, hSend⟩ := hWho sock hSock
              obtain ⟨hExact, hAbove | ⟨hBelow, -⟩⟩ := (ids_of_sender hPairs hWho hSock).2 hFits
              · cases hSecond.symm.trans
                  (hOk.verified_iff.2 ⟨sock, hHolds, hAddr, hAbove.trans hNext.symm, hSend.trans hExact.symm⟩)
              · cases hThird.symm.trans (hOk.verified_iff.2 ⟨sock, hHolds, hAddr, hBelow, hSend.trans hExact.symm⟩)

end Attribution

/-- The RST with which a context answers a packet. -/
theorem answer_of_reject {d : Datagram} {ours : PackedSockAddr} {rst : Wire} (hOk : c.Ok)
    (hAnswer : (c.utpProcessUdp env d ours).2.log = c.log ++ [(ours, .readBytes 0 20), (ours, .sendto rst 0)]) :
    ∃ seqNr, rst = rstPacket d.header seqNr := by
  have hStep : RstStep env (.processUdp d ours) c (c.utpProcessUdp env d ours).2 := rstStep_utpProcessUdp hOk
  cases hStep with
  | aside hAside hOther hTaken =>
      have hCount := hAside.rstCount
      unfold rstCount at hCount
      rw [hAnswer] at hCount
      simp [Event.isSendto] at hCount
  | rejected d' addr' hOp hRejects hEq =>
      cases hOp
      rw [hEq] at hAnswer
      unfold reject at hAnswer
      dsimp only at hAnswer
      split at hAnswer
      · have hLength := congrArg List.length hAnswer
        simp [record, updateCurrentMs] at hLength
      · split_ifs at hAnswer
        · have hLength := congrArg List.length hAnswer
          simp [record, updateCurrentMs] at hLength
        · simp only [record, updateCurrentMs, called, List.append_assoc, List.cons_append, List.nil_append] at hAnswer
          have hLast := List.append_cancel_left hAnswer
          simp only [List.cons.injEq, Prod.mk.injEq, Event.sendto.injEq, and_true, true_and] at hLast
          exact ⟨_, hLast.symm⟩
  | checked order hOp hSwept => cases hOp

/-- What is done with that RST. -/
theorem utpProcessUdp_rst (header : PacketFormatV1) (seqNr : Nat) (beyond : Nat → UInt8) :
    (c.utpProcessUdp env ((rstPacket header seqNr).received beyond) addr).2 =
      (c.record addr (.readBytes 0 20)).resetFor addr (u16 header.connid) := by
  have hLen : ¬((rstPacket header seqNr).received beyond).len < 20 := by
    rw [Wire.len_received]
    omega
  obtain ⟨hType, hVersion⟩ := (rstPacket header seqNr).header_type beyond (show 3 < 16 by decide) (show 1 < 16 by decide)
  have hExt := (rstPacket header seqNr).header_ext beyond (show 0 < 256 by decide)
  have hConnid : ((rstPacket header seqNr).received beyond).header.connid = u16 header.connid :=
    (Wire.header_connid _ beyond).trans (Nat.mod_eq_of_lt (u16_lt _))
  have hReset : ((rstPacket header seqNr).received beyond).header.type = stReset := hType
  have hKnown : utpVersion ((rstPacket header seqNr).received beyond).header = 1 := by
    unfold utpVersion
    rw [hType, hVersion, hExt]
    rfl
  unfold utpProcessUdp resetFor
  rw [if_neg hLen]
  dsimp only
  rw [if_neg (not_not.2 hKnown), if_pos hReset, hConnid]
  cases (c.record addr (.readBytes 0 20)).findForError addr (u16 header.connid) <;> rfl

end Context

/-- A socket to a peer, and a packet of it that is not a SYN. The context of the peer does
not know the connection and answers with a RST. At the time when the RST arrives, it ends the
socket and touches no other exactly if the ids of the sockets with that peer allow it. -/
theorem rst_attribution_iff (env : Env) (c₀ c : Context) (p : Nat) (sock : Socket) (hReach : c₀.Reachable env)
    (hSock : c₀.Holds p sock) (hLater : c₀.Follows env c) (w : Wire) (flags : Nat)
    (hSent : .sendto w flags ∈ c.logs p) (hType : w.header.type ≠ stSyn)
    (peerEnv : Env) (peer : Context) (hPeer : peer.Reachable peerEnv) (ours : PackedSockAddr) (rst : Wire)
    (beyond beyond' : Nat → UInt8)
    (hAnswer : (peer.utpProcessUdp peerEnv (w.received beyond) ours).2.log =
      peer.log ++ [(ours, .readBytes 0 20), (ours, .sendto rst 0)]) :
    c.ResetReaches (c.utpProcessUdp env (rst.received beyond') sock.addr).2 p ↔
      c.ResetSafe p sock.addr sock.connIdSend := by
  have hNow : c.Reachable env := hReach.follows hLater
  have hLabel : w.header.Labelled True sock.connIdRecv sock.connIdSend :=
    Context.labelled_of_sent (preserved_labelled env).toKept (fun _ hInv => hInv) hReach.ok hSock
      ((preserved_labelled env).reachable hReach p sock hSock) hLater hSent
  obtain ⟨-, -, -, -, hConnid⟩ := hLabel.received beyond
  obtain ⟨seqNr, rfl⟩ := Context.answer_of_reject hPeer.ok hAnswer
  have hId : u16 ((w.received beyond).header.connid : Int) = u16 sock.connIdSend := by
    rw [hConnid, hLabel.connid, if_neg hType]
    exact u16_u16 _
  have hWho : ∀ sock', c.sockets p = some sock' →
      c.Holds p sock' ∧ sock'.addr = sock.addr ∧ sock'.connIdSend = sock.connIdSend := by
    intro sock' hSock'
    obtain ⟨hHolds, hSame⟩ := (kept_identity env (c₀.enter p sock).identity).follows hReach.ok hSock rfl hLater hSock'
    exact ⟨hHolds, congrArg Identity.addr hSame, congrArg Identity.connIdSend hSame⟩
  have hAside : Context.Turns env .issueDeferredAcks c (c.record sock.addr (.readBytes 0 20)) := Context.turns_aside c
    c.currentMs c.tick c.lastCheck c.targetDelay c.optSndbuf c.optRcvbuf c.rstInfo _
  have hPairs : ∀ q sock', (c.record sock.addr (.readBytes 0 20)).Holds q sock' →
      ((c.record sock.addr (.readBytes 0 20)).enter q sock').identity.Paired := fun q sock' hSock' => hNow.paired hSock'
  rw [Context.utpProcessUdp_rst, hId]
  refine Iff.trans (Context.resetReaches_iff (hAside.ok hNow.ok) hPairs hWho) ?_
  exact ⟨fun h => ⟨h.fits, h.unclaimed, h.accepted, h.dialled⟩, fun h => ⟨h.fits, h.unclaimed, h.accepted, h.dialled⟩⟩

/-- A packet with one byte, as a dialled socket with the seed 7 sends it. -/
def firstData (seqNr : Nat) : Wire := ⟨⟨stData, 1, 0, 8, 1000000, 0, 1048576, seqNr, 76⟩, [1]⟩

/-- The RST of a context that does not know the connection. -/
def firstAnswer (seqNr random : Nat) : Wire := ⟨⟨stReset, 1, 0, 8, 0, 0, 0, random, seqNr⟩, []⟩

/-- The only connection to a peer is found by its RST. -/
theorem rst_attribution_alone : ∃ (c : Context) (sock : Socket), c.Reachable steadyEnv ∧ c.Holds 0 sock ∧
    c.ResetReaches (c.utpProcessUdp steadyEnv ((firstAnswer 8 7).received fun _ => 0) sock.addr).2 0 := by
  have hRun : ((utpInit true true).run steadyEnv (connectedOps ++ [.writev 0 [[1]]])).any (fun c =>
      c.utpSockets == [(⟨somePeer, 7⟩, 0)] && (c.logs 0).contains (.sendto (firstData 8) 0) &&
        (c.sockets 0).any fun sock => sock.state == .connected && sock.connIdSend == 8) = true := by
    decide +kernel
  obtain ⟨c, hReach, hOk⟩ := Context.Reachable.exists_of_run hRun
  simp only [Bool.and_eq_true, beq_iff_eq, List.contains_iff_mem, Option.any_eq_true] at hOk
  obtain ⟨⟨hTable, hSent⟩, sock, hSock, hState, hSend⟩ := hOk
  have hHolds : c.Holds 0 sock := ⟨hSock, hState.trans_ne (by decide)⟩
  have hAnswer : ((utpInit true true).utpProcessUdp steadyEnv ((firstData 8).received fun _ => 0) somePeer).2.log =
      (utpInit true true).log ++ [(somePeer, .readBytes 0 20), (somePeer, .sendto (firstAnswer 8 7) 0)] := by
    decide +kernel
  refine ⟨c, sock, hReach, hHolds, (rst_attribution_iff steadyEnv c c 0 sock hReach hHolds .now (firstData 8) 0 hSent
    (by decide) steadyEnv (utpInit true true) (.init true true) somePeer _ _ _ hAnswer).2 ?_⟩
  have hOnly : ∀ q sock', c.Holds q sock' → q = 0 ∧ sock'.connIdRecv = 7 := by
    intro q sock' hSock'
    have hListed := hReach.ok.listed q sock' hSock'
    rw [hTable, List.mem_singleton, Prod.mk.injEq] at hListed
    exact ⟨hListed.2, congrArg UTPSocketKey.recvId hListed.1⟩
  have hEight : u16 ((8 : Nat) : Int) = 8 := u16_of_lt (by decide)
  rw [hSend]
  refine ⟨fun _ _ => Or.inr (Or.inr (by decide)), fun q sock' hSock' _ hRecv => ?_, fun q sock' hSock' hOther => ?_, ?_⟩
  · have hSeven := (hOnly q sock' hSock').2
    omega
  · exact absurd (hOnly q sock' hSock').1 hOther
  · intro hGone
    cases hGone.symm.trans hSock

/-- An embedding program whose first two seeds are neighbours. -/
def twoSeeds : Env := fun n => ⟨1000000, 1000000, if n = 0 then 7 else 8, 0, 1500, false, false⟩

/-- Two connections to one peer with the seeds 7 and 8: the RST for a packet of the first one
ends the second, and the first stays connected. -/
theorem rst_hits_neighbour : ∃ (c : Context) (sock : Socket), c.Reachable twoSeeds ∧ c.Holds 0 sock ∧
    .sendto (firstData 9) 0 ∈ c.logs 0 ∧ sock.addr = somePeer ∧
    ((utpInit true true).utpProcessUdp twoSeeds ((firstData 9).received fun _ => 0) somePeer).2.log =
      [(somePeer, .readBytes 0 20), (somePeer, .sendto (firstAnswer 9 8) 0)] ∧
    ¬c.ResetReaches (c.utpProcessUdp twoSeeds ((firstAnswer 9 8).received fun _ => 0) somePeer).2 0 := by
  have hRun : ((utpInit true true).run twoSeeds [.createSocket, .connect 0 somePeer 1,
      .processUdp (somePacket stState 7 77 8 []) somePeer, .writev 0 [[1]], .createSocket, .connect 1 somePeer 1]).any
        (fun c => (c.logs 0).contains (.sendto (firstData 9) 0) &&
          (c.sockets 0).any (fun sock => sock.state == .connected && sock.addr == somePeer) &&
          (c.utpProcessUdp twoSeeds ((firstAnswer 9 8).received fun _ => 0) somePeer).2.stateIs 0 (· == .connected)) = true := by
    decide +kernel
  obtain ⟨c, hReach, hOk⟩ := Context.Reachable.exists_of_run hRun
  simp only [Bool.and_eq_true, beq_iff_eq, List.contains_iff_mem, Option.any_eq_true] at hOk
  obtain ⟨⟨hSent, sock, hSock, hState, hAddr⟩, hStays⟩ := hOk
  refine ⟨c, sock, hReach, ⟨hSock, hState.trans_ne (by decide)⟩, hSent, hAddr, by decide +kernel, ?_⟩
  rintro ⟨hEnds, -⟩
  obtain ⟨sock', hSock', hDone⟩ := hEnds sock hSock
  obtain ⟨sock'', hSock'', hUp⟩ := Context.stateIs_spec _ hStays
  cases Option.some.inj (hSock'.symm.trans hSock'')
  have hConnected := beq_iff_eq.1 hUp
  rw [hConnected] at hDone
  simp at hDone

end Utp
