import Utp.Guarantees.Reliability

/-! The number of a pure ack. It is the number of the next packet, and the peer passes over an ack whose
number is 1024 or more past the one that it waits for. The outgoing queue has a place for the FIN, but
that check has none. -/
namespace Utp

open Wrapping

/-- What an operation has done to the end of a stream. Only a call that `ends` it may queue the FIN, and
such a call queues nothing else. -/
inductive Closes (ends : Prop) (s s' : Conn) : Prop where
  | kept (hPackets : packetsOf s'.traffic = packetsOf s.traffic) (hFin : s'.finSent = s.finSent)
      (hOpen : ends → s'.state.open = true → s.state.open = true)
  | wrote (hOther : ¬ends) (hFin : s.finSent = false) (hFin' : s'.finSent = false)
  | ended (hEnds : ends) (hOpen : s.state.open = true) (hFin : s.finSent = false) (hFin' : s'.finSent = true)
      (hPackets : packetsOf s'.traffic = packetsOf s.traffic ++ [(stFin, [])])

section Closes

variable {env : Env} {cause : Cause} {ends : Prop} {start : Nat} {s t u s' : Conn}

theorem Closes.refl (ends : Prop) (s : Conn) : Closes ends s s := .kept rfl rfl fun _ => id

/-- Nothing is queued after the FIN. -/
theorem Closes.trans (hFirst : Closes ends s t) (hSecond : Closes ends t u) : Closes ends s u := by
  cases hFirst with
  | kept hPackets hFin hOpen =>
      cases hSecond with
      | kept hPackets' hFin' hOpen' =>
          exact .kept (hPackets'.trans hPackets) (hFin'.trans hFin) fun hEnds hUp => hOpen hEnds (hOpen' hEnds hUp)
      | wrote hOther hBefore hAfter => exact .wrote hOther (hFin.symm.trans hBefore) hAfter
      | ended hEnds hUp hBefore hAfter hPackets' =>
          exact .ended hEnds (hOpen hEnds hUp) (hFin.symm.trans hBefore) hAfter (hPackets ▸ hPackets')
  | wrote hOther hFin hFin' =>
      cases hSecond with
      | kept _ hSame _ => exact .wrote hOther hFin (hSame.trans hFin')
      | wrote _ _ hAfter => exact .wrote hOther hFin hAfter
      | ended hEnds => exact absurd hEnds hOther
  | ended hEnds hOpen hFin hFin' hPackets =>
      cases hSecond with
      | kept hPackets' hSame _ => exact .ended hEnds hOpen hFin (hSame.trans hFin') (hPackets'.trans hPackets)
      | wrote hOther => exact absurd hEnds hOther
      | ended _ _ hBefore =>
          rw [hFin'] at hBefore
          cases hBefore

/-- Only a call that asks for the end may queue the FIN. Data comes from a write or with a packet, and neither
of these asks for the end. -/
theorem Trans.closes (h : Trans env cause s s') (hSide : Side start s) (hAsked : cause = .asked → ends)
    (hNone : ends → cause ≠ .write ∧ ∀ r, cause ≠ .packet r) : Closes ends s s' := by
  cases h.writes hSide.core hSide.live hSide.booked.state with
  | none hPackets hFin =>
      refine .kept hPackets hFin fun hEnds hUp => ?_
      rcases h.state hSide.core hSide.live hSide.booked.state with hSame | hMove
      · rwa [← hSame]
      · by_contra hDown
        obtain ⟨r, hPacket, -⟩ := hMove.opens (eq_false_of_ne_true hDown) hUp
        exact (hNone hEnds).2 r hPacket
  | data bytes hCause hOpen hFin hFin' hPackets =>
      refine .wrote (fun hEnds => ?_) hFin hFin'
      rcases hCause with hWrite | ⟨r, hPacket⟩
      · exact (hNone hEnds).1 hWrite
      · exact (hNone hEnds).2 r hPacket
  | fin hCause hOpen hFin hFin' hPackets => exact .ended (hAsked hCause) hOpen hFin hFin' hPackets

/-- A whole run of the socket has done to the end of its stream what one transition may do. -/
theorem Path.closes (h : Path env cause s s') (hSide : Side start s) (hAsked : cause = .asked → ends)
    (hNone : ends → cause ≠ .write ∧ ∀ r, cause ≠ .packet r) : Side start s' ∧ Closes ends s s' := by
  induction h with
  | refl => exact ⟨hSide, .refl ends s⟩
  | tail _ hStep ih => exact ⟨ih.1.trans hStep, ih.2.trans (hStep.closes ih.1 hAsked hNone)⟩

end Closes

/-- The operation is a call that asks for the end of the stream of the socket `p`. -/
def Op.ends (p : Nat) : Op → Prop
  | .close r => r = p
  | .shutdown r how => r = p ∧ how ≠ .rd
  | _ => False

namespace Context

variable {env : Env} {op : Op} {c c' : Context} {p start : Nat} {s : Conn} {sock : Socket}

/-- What an operation does to a socket that its context holds. -/
theorem closes_of_step (hReach : c.Reachable env) (hStep : c.step env op = some c') (hSock : c.Holds p sock)
    (hSide : Side start (c.enter p sock)) :
    ∃ s', c'.Shows p s' ∧ Closes (op.ends p) (c.enter p sock) s' ∧ (c.enter p sock).traffic <+: s'.traffic := by
  have hOld := hReach.ok.allocated p sock hSock.1
  by_cases hRead : op = .shutdown p .rd
  · subst hRead
    unfold step at hStep
    rw [Option.ite_none_right_eq_some] at hStep
    have hShows : (c.runOn p fun s => s.utpShutdown env .rd).Shows p ((c.enter p sock).utpShutdown env .rd) :=
      hSock.shows_runOn hOld hSock.2 rfl
    rw [← Option.some.inj hStep.2]
    exact ⟨_, hShows, .kept rfl rfl fun _ => id, List.prefix_refl _⟩
  have hCarries : Carries env op p fun t => Side start t ∧ Closes (op.ends p) (c.enter p sock) t ∧
      (c.enter p sock).traffic <+: t.traffic := by
    refine ⟨fun t currentMs tick ⟨hSide, hCloses, hMore⟩ =>
      ⟨hSide.clock currentMs tick, hCloses.trans (.kept rfl rfl fun _ => id), hMore⟩, ?_⟩
    rintro c₁ sock₁ cause s' hOk hQueued hSock₁ hAdmitted ⟨hSide, hCloses, hMore⟩ hRan
    have hAsked : cause = .asked → op.ends p := by
      rintro rfl
      rcases hAdmitted with ⟨how, rfl⟩ | rfl
      · exact ⟨rfl, fun hHow => hRead (by rw [hHow])⟩
      · rfl
    have hNone : op.ends p → cause ≠ .write ∧ ∀ r, cause ≠ .packet r := by
      refine fun hEnds => ⟨?_, ?_⟩
      · rintro rfl
        obtain ⟨iovecs, rfl⟩ := hAdmitted
        exact hEnds
      · rintro r rfl
        obtain ⟨addr, rfl, -⟩ := hAdmitted
        exact hEnds
    obtain ⟨hSide', hCloses'⟩ := hRan.path.closes hSide hAsked hNone
    exact ⟨hSide', hCloses.trans hCloses', hMore.trans (Conn.traffic_prefix hRan.path.grows)⟩
  obtain ⟨s', hShows, -, hCloses, hMore⟩ := hCarries.step hReach hStep
    ⟨_, ⟨hOld, Or.inr ⟨sock, hSock, rfl⟩⟩, hSide, .refl _ _, List.prefix_refl _⟩
  exact ⟨s', hShows, hCloses, hMore⟩

end Context

/-- There was room for the FIN: when it is queued, at most 1023 packets of the sender are missing at the
receiver. -/
def HasRoom (base : Nat) (sender receiver : Conn) : Prop :=
  sender.finSent = true → (packetsOf sender.traffic).length ≤ base + receiver.taken + 1023

section Ends

variable {ends : Prop} {start own base : Nat} {s s' sender receiver peer : Conn}

/-- The sender keeps its room. It is taken up only by the FIN, for which a place was left. -/
theorem HasRoom.sends (h : HasRoom base s peer) (hCloses : Closes ends s s')
    (hAhead : ends → s.finSent = false → s.state.open = true →
      (packetsOf s.traffic).length ≤ base + peer.taken + 1022) : HasRoom base s' peer := by
  intro hSent
  cases hCloses with
  | kept hPackets hFin hOpen =>
      rw [hPackets]
      exact h (hFin.symm.trans hSent)
  | wrote hOther hFin hFin' =>
      rw [hFin'] at hSent
      cases hSent
  | ended hEnds hOpen hFin hFin' hPackets =>
      have hFew := hAhead hEnds hFin hOpen
      rw [hPackets, List.length_append, List.length_singleton]
      omega

/-- The receiver only ever consumes more. -/
theorem HasRoom.receives (h : HasRoom base peer s) (hMore : s.traffic <+: s'.traffic) : HasRoom base peer s' := by
  intro hSent
  have hTaken := Conn.taken_le hMore
  have hFew := h hSent
  omega

/-- The number of the next packet of the sender, counted from the one that the receiver waits for, is the
number of the packets that are missing at the receiver. -/
theorem Spent.ahead (h : Spent base sender receiver) (hFed : Fed start base sender receiver) (hSender : Side start sender)
    (hSide : Side own receiver) (hAnswered : Answered (start + base) receiver) :
    base + receiver.taken + u16 (sender.snd.seqNr - receiver.rcv.ackNr - 1) = (packetsOf sender.traffic).length := by
  have hNear := h.near hSender hSide hFed
  have hTaken := hFed.taken_le
  have hEmod := u16_emod (start + (packetsOf sender.traffic).length)
  have hEmod' := u16_emod ((start + base : Nat) + receiver.taken - 1)
  have hDist := u16_emod (sender.snd.seqNr - receiver.rcv.ackNr - 1)
  have hLt := u16_lt (sender.snd.seqNr - receiver.rcv.ackNr - 1)
  have hSeq := hSender.booked.seqNr
  have hAck := hAnswered.aligned
  omega

/-- An ack that the sender emits now passes the check of its number. Before the FIN this follows from the place
that `is_full` leaves for it in the queue. -/
theorem HasRoom.ack (h : HasRoom base sender receiver) (hSpent : Spent base sender receiver)
    (hFed : Fed start base sender receiver) (hSender : Side start sender) (hSide : Side own receiver)
    (hAnswered : Answered (start + base) receiver) : receiver.seqOffset sender.ackHeader < reorderBufferMaxSize := by
  change u16 (sender.snd.seqNr - receiver.rcv.ackNr - 1) < 1024
  cases hFin : sender.finSent with
  | false => exact (hSpent.windowsFit hFed hSender hSide hAnswered).ack hFin
  | true =>
      have hAhead := hSpent.ahead hFed hSender hSide hAnswered
      have hFew := h hFin
      omega

end Ends

namespace Context

/-- When the operation queues the FIN of the socket `p`, fewer than 1023 of its packets are missing at the
socket `q` of the peer. The difference of the two numbers is that count. -/
def LeavesRoom (p : Nat) (op : Op) (c : Context) (q : Nat) (peer : Context) : Prop :=
  op.ends p → ∀ sock other, c.Holds p sock → peer.Holds q other → sock.finSent = false → sock.state.open = true →
    u16 (sock.snd.seqNr - other.rcv.ackNr - 1) < 1023

/-- No end of the stream was asked for. -/
def Unfinished (p : Nat) (c : Context) : Prop := ∀ sock, c.Holds p sock → sock.finSent = false

end Context

/-- The runs of a connection in which each end leaves room for its FIN. -/
inductive RoomyLink (envA envB : Env) (p q : Nat) : Context → Context → Prop where
  | begun {a b : Context} (hLink : Link envA envB p q a b) (hLeft : a.Unfinished p) (hRight : b.Unfinished q) :
      RoomyLink envA envB p q a b
  | left {a a' b : Context} (op : Op) (hPrior : RoomyLink envA envB p q a b) (hStep : a.step envA op = some a')
      (hHears : a.Hears (b.logs q) p op) (hDrains : a.Drains p op) (hRoom : a.LeavesRoom p op q b) :
      RoomyLink envA envB p q a' b
  | right {a b b' : Context} (op : Op) (hPrior : RoomyLink envA envB p q a b) (hStep : b.step envB op = some b')
      (hHears : b.Hears (a.logs p) q op) (hRoom : b.LeavesRoom q op p a) : RoomyLink envA envB p q a b'

section RoomyLink

variable {envA envB : Env} {p q : Nat} {a b : Context} {sockA sockB : Socket}

/-- Such a run is one of those in which the network and the programs are bound by nothing else. -/
theorem RoomyLink.link (h : RoomyLink envA envB p q a b) : Link envA envB p q a b := by
  induction h with
  | begun hLink => exact hLink
  | left op _ hStep hHears hDrains _ ih => exact .left op ih hStep hHears hDrains
  | right op _ hStep hHears _ ih => exact .right op ih hStep hHears

/-- A socket that is there after an operation was there before it, if it is an old one. -/
theorem Context.Shows.held {env : Env} {op : Op} {c c' : Context} {s : Conn} {sock' : Socket} (h : c.Shows p s)
    (hReach : c.Reachable env) (hStep : c.step env op = some c') (hSock : c'.Holds p sock') :
    ∃ sock, c.Holds p sock ∧ c.enter p sock = s := by
  obtain ⟨hOld, ⟨hNone, -⟩ | hHeld⟩ := h
  · have hGone := ((turns_of_step hReach.ok hStep).gone hReach.ok hOld hNone).1
    rw [hSock.1] at hGone
    cases hGone
  · exact hHeld

/-- The dialled socket has been connected when the accepted one is up. -/
theorem Accord.answered_of_open {s0 t0 : Nat} {sa sb : Conn} (h : Accord s0 t0 sa sb) (hOpen : sb.state.open = true) :
    Answered t0 sa := by
  refine h.heard.resolve_left fun hGreeting => ?_
  have hMany := h.woken (Or.inl hOpen)
  rw [hGreeting.packets] at hMany
  exact absurd hMany (by decide)

/-- Both ends have room for their FIN, in every state. By induction on the run: the socket that acts keeps its
room as a sender by the condition on its step, and that of its peer because it consumes no less. -/
theorem RoomyLink.room (h : RoomyLink envA envB p q a b) (hSockA : a.Holds p sockA) (hSockB : b.Holds q sockB) :
    HasRoom 1 (a.enter p sockA) (b.enter q sockB) ∧ HasRoom 0 (b.enter q sockB) (a.enter p sockA) := by
  induction h generalizing sockA sockB with
  | begun hLink hLeft hRight =>
      refine ⟨fun hSent => ?_, fun hSent => ?_⟩
      · exact absurd (hSent.symm.trans (hLeft sockA hSockA)) Bool.true_eq_false.mp
      · exact absurd (hSent.symm.trans (hRight sockB hSockB)) Bool.true_eq_false.mp
  | left op hPrior hStep hHears hDrains hRoom ih =>
      obtain ⟨⟨hReach, -⟩, s0, t0, sa, sb, hShowsA, hShowsB, hAccord⟩ := hPrior.link.accord
      obtain ⟨sock, hSock, rfl⟩ := hShowsA.held hReach hStep hSockA
      obtain rfl := hShowsB.of_holds hSockB
      obtain ⟨s', hShows, hCloses, hMore⟩ := Context.closes_of_step hReach hStep hSock hAccord.dialler
      obtain rfl := hShows.of_holds hSockA
      obtain ⟨hSends, hReceives⟩ := ih hSock hSockB
      refine ⟨hSends.sends hCloses fun hEnds hFin hOpen => ?_, hReceives.receives hMore⟩
      have hFew := hRoom hEnds sock sockB hSock hSockB hFin hOpen
      have hAhead := hAccord.spentA.ahead hAccord.fedB hAccord.dialler hAccord.acceptor hAccord.answered
      change 1 + _ + u16 (sock.snd.seqNr - sockB.rcv.ackNr - 1) = _ at hAhead
      omega
  | right op hPrior hStep hHears hRoom ih =>
      obtain ⟨⟨-, hReach⟩, s0, t0, sa, sb, hShowsA, hShowsB, hAccord⟩ := hPrior.link.accord
      obtain ⟨sock, hSock, rfl⟩ := hShowsB.held hReach hStep hSockB
      obtain rfl := hShowsA.of_holds hSockA
      obtain ⟨s', hShows, hCloses, hMore⟩ := Context.closes_of_step hReach hStep hSock hAccord.acceptor
      obtain rfl := hShows.of_holds hSockB
      obtain ⟨hReceives, hSends⟩ := ih hSockA hSock
      refine ⟨hReceives.receives hMore, hSends.sends hCloses fun hEnds hFin hOpen => ?_⟩
      have hFew := hRoom hEnds sock sockA hSock hSockA hFin hOpen
      have hAhead := hAccord.spentB.ahead hAccord.fedA hAccord.acceptor hAccord.dialler (hAccord.answered_of_open hOpen)
      change 0 + _ + u16 (sock.snd.seqNr - sockA.rcv.ackNr - 1) = _ at hAhead
      omega

end RoomyLink

/-- The number of the next packet of the dialled socket tells how many of its packets are missing at the
accepted one. The SYN is none of those that are consumed. -/
theorem Link.ahead {envA envB : Env} {p q : Nat} {a b : Context} {sockA sockB : Socket} (h : Link envA envB p q a b)
    (hSockA : a.Holds p sockA) (hSockB : b.Holds q sockB) :
    1 + (consumedOf (b.logs q)).length + u16 (sockA.snd.seqNr - sockB.rcv.ackNr - 1) = (packetsOf (a.logs p)).length := by
  obtain ⟨-, s0, t0, sa, sb, hShowsA, hShowsB, hAccord⟩ := h.accord
  obtain rfl := hShowsA.of_holds hSockA
  obtain rfl := hShowsB.of_holds hSockB
  have hAhead := hAccord.spentA.ahead hAccord.fedB hAccord.dialler hAccord.acceptor hAccord.answered
  have hTaken : (b.enter q sockB).taken = (consumedOf (b.logs q)).length := congrArg List.length (consumedOf_traffic _)
  have hPackets : packetsOf (a.enter p sockA).traffic = packetsOf (a.logs p) := packetsOf_traffic _
  rw [hTaken, hPackets] at hAhead
  exact hAhead

section Crowd

variable {env : Env} {start : Nat} {s : Conn} {a b : Context} {sockA sockB : Socket}

/-- A socket to which nothing was written has nothing in flight. -/
theorem Side.curWindow_eq_zero (h : Side start s) (hNone : writtenOf s.log = []) : s.snd.curWindow = 0 := by
  have hQueue : QueueShape s.snd.seqNr s.snd.curWindowPackets s.snd.curWindow s.snd.outbuf := h.core.view.queue
  have hEmpty : (packetsOf s.traffic).flatMap Prod.snd = [] :=
    (congrArg (List.flatMap Prod.snd) (packetsOf_traffic s.log)).trans ((flatMap_packetsOf s.log).trans hNone)
  have hWindow : s.snd.curWindow ≤ 1024 * 0 := by
    refine hQueue.window_le fun v pkt hGet => ?_
    obtain ⟨j, hAt, -⟩ := h.core.packetAt_put hGet
    obtain ⟨-, -, hBooked⟩ := h.booked.queued j pkt hAt
    have hBody : pkt.body = [] := List.flatMap_eq_nil_iff.1 hEmpty _ (List.mem_of_getElem? hBooked)
    rw [(h.core.packet_ok hAt).payload, hBody]
    exact le_rfl
  exact Nat.le_zero.1 hWindow

/-- The window does not stop a packet without payload. -/
theorem isFull_zero (hWindow : s.snd.curWindow = 0) (hCount : s.snd.curWindowPackets < 1023) (hSize : s.mtu.last = 1500) :
    s.isFull 0 = false := by
  have hPacket : s.getPacketSize = 1480 := by
    simp [Conn.getPacketSize, hSize, u64]
  unfold Conn.isFull
  rw [hPacket, hWindow]
  simpa [i32, u64] using hCount

/-- What one packet without payload does to a socket. -/
structure Crowds (s s' : Conn) : Prop where
  state : s'.state = s.state
  fin : s'.finSent = s.finSent
  size : s'.mtu.last = s.mtu.last
  count : s'.snd.curWindowPackets = s.snd.curWindowPackets + 1
  packets : (packetsOf s'.traffic).length = (packetsOf s.traffic).length + 1

/-- A flush sends what is queued and queues nothing. -/
theorem packets_flushFrom (env : Env) (n : Nat) (s : Conn) : packetsOf (s.flushFrom env n).traffic = packetsOf s.traffic := by
  induction n generalizing s with
  | zero => rfl
  | succ n ih =>
      unfold Conn.flushFrom
      dsimp only
      split
      · exact ih s
      · split_ifs
        · exact ih s
        · unfold Conn.noteFull
          split_ifs
          rfl
        · refine (ih _).trans ?_
          have hSend : Queueing env .call s (s.sendPacket env (u16 (s.snd.seqNr - (n + 1 : Nat)))) := .send s _
          cases hSend.writes with
          | none hPackets hFin => exact hPackets
          | data bytes hCause => simp at hCause
          | fin hAsked => cases hAsked
        · exact ih s

/-- A packet without payload is not merged with another one, but takes a place of its own. -/
theorem crowds_writeOutgoingPacket (env : Env) {flags : Nat} (iov : List (List UInt8)) (s : Conn)
    (hFlags : flags = stData ∨ flags = stFin) (hCount : s.snd.curWindowPackets ≤ 1023) :
    Crowds s (s.writeOutgoingPacket env 0 flags iov).2 := by
  have hFrame := Conn.writeFrame_writeOutgoingPacket env 0 flags iov s
  have hTimer := Conn.numbers_startTimer s
  have hCount' : s.startTimer.snd.curWindowPackets = s.snd.curWindowPackets := congrArg View.curWindowPackets hTimer
  have hEmpty := Conn.writeOutgoingPacket_empty env iov s hFlags hCount
  refine ⟨congrArg WriteFrame.state hFrame, congrArg WriteFrame.finSent hFrame, congrArg WriteFrame.mtuLast hFrame, ?_, ?_⟩
  · rw [hEmpty]
    obtain ⟨pkt, -, -, -, -, -, -, -, -, hView⟩ := Conn.view_appendPacket env flags [] s.startTimer
    refine (Conn.numbers_flushFrom env _ _).2.trans ((congrArg View.curWindowPackets hView).trans ?_)
    change u16 (s.startTimer.snd.curWindowPackets + 1) = _
    rw [hCount']
    unfold u16
    omega
  · have hGrows : Grows s s.startTimer := (Quiet.startTimer s : Quiet env .call s s.startTimer).grows
    rw [hEmpty, Conn.flushPackets, packets_flushFrom, Conn.traffic_appendPacket, packetsOf_append,
      Conn.traffic_of_trace hGrows (Conn.trace_startTimer s)]
    exact List.length_append

/-- An empty write to a socket with an empty window queues one packet. -/
theorem crowds_emptyWrite (env : Env) (hState : s.state = .connected) (hFin : s.finSent = false)
    (hWindow : s.snd.curWindow = 0) (hCount : s.snd.curWindowPackets < 1023) (hSize : s.mtu.last = 1500) :
    Crowds s (s.utpWritev env [[]]).2 := by
  have hRoom : (s.updateCurrentMs env).isFull 0 = false := isFull_zero hWindow hCount hSize
  have hWrite : (s.utpWritev env [[]]).2 = ((s.updateCurrentMs env).writeOutgoingPacket env 0 stData [[]]).2 := by
    unfold Conn.utpWritev
    rw [if_neg (by simp), if_neg (by simp [hState]), if_neg (by simp [hFin])]
    simp [Conn.writevLoop, hRoom]
  have hSame := crowds_writeOutgoingPacket env [[]] (s.updateCurrentMs env) (Or.inl rfl) hCount.le
  rw [hWrite]
  exact ⟨hSame.state, hSame.fin, hSame.size, hSame.count, hSame.packets⟩

/-- `utp_close` queues the FIN of a connected socket and leaves it connected. It does not look at the room. -/
theorem crowds_utpClose (env : Env) (hState : s.state = .connected) (hFin : s.finSent = false)
    (hCount : s.snd.curWindowPackets ≤ 1023) : (s.utpClose env).state = .connected ∧
      (packetsOf (s.utpClose env).log).length = (packetsOf s.log).length + 1 := by
  have hClose : s.utpClose env = (({ s with rcv.readShutdown := true, closeRequested := true }.emit .closeRequested).sendFin env) := by
    have hUp : s.utpClose env = s.closeConnected env := by
      unfold Conn.utpClose
      rw [hState]
    rw [hUp]
    unfold Conn.closeConnected
    dsimp only
    rw [if_pos]
    change (!s.finSent) = true
    rw [hFin]
    rfl
  have hFrame := crowds_writeOutgoingPacket env []
    { { s with rcv.readShutdown := true, closeRequested := true }.emit .closeRequested with finSent := true } (Or.inr rfl) hCount
  rw [hClose]
  refine ⟨hFrame.state.trans hState, ?_⟩
  rw [← packetsOf_traffic, ← packetsOf_traffic s.log]
  refine hFrame.packets.trans (congrArg (fun packets : List (Nat × List UInt8) => packets.length + 1) ?_)
  exact congrArg packetsOf ((trafficOf_append _ _).trans (List.append_nil _))

/-- The dialled socket has queued `n` packets without payload. The packet that followed its SYN has been
consumed and acked. -/
structure Crowded (n : Nat) (sockA sockB : Socket) (a b : Context) : Prop where
  link : Link (seededEnv 7) (seededEnv 7) 0 0 a b
  left : a.Holds 0 sockA
  right : b.Holds 0 sockB
  state : sockA.state = .connected
  fin : sockA.finSent = false
  size : sockA.mtu.last = 1500
  count : sockA.snd.curWindowPackets = n
  packets : (packetsOf (a.logs 0)).length = n + 2
  written : writtenOf (a.logs 0) = []
  consumed : (consumedOf (b.logs 0)).length = 1
  peer : sockB.state = .connected
  unsent : sockB.finSent = false

/-- The program of the dialled socket calls a function of it. -/
theorem Crowded.call {n : Nat} (h : Crowded n sockA sockB a b) {op : Op} {f : Conn → Conn} {cause : Cause}
    (hStep : a.step (seededEnv 7) op = some (a.runOn 0 f)) (hNothing : op.hearsNothing = true)
    (hPath : Path (seededEnv 7) cause (a.enter 0 sockA) (f (a.enter 0 sockA))) :
    Link (seededEnv 7) (seededEnv 7) 0 0 (a.runOn 0 f) b ∧ (a.runOn 0 f).Holds 0 (f (a.enter 0 sockA)).toSocket ∧
      (a.runOn 0 f).enter 0 (f (a.enter 0 sockA)).toSocket = f (a.enter 0 sockA) := by
  have hCore := h.link.accord.1.1.ok.core 0 sockA h.left.1
  obtain ⟨hLive, hSame⟩ := hPath.keeps hCore h.left.2
  obtain ⟨hHears, hDrains⟩ := Op.hears_of_nothing hNothing a (b.logs 0)
  exact ⟨.left op h.link hStep hHears hDrains, h.left.runOn hLive hSame⟩

/-- One more packet without payload is queued. -/
theorem Crowded.write {n : Nat} (h : Crowded n sockA sockB a b) (hn : n < 1023) :
    ∃ (a' : Context) (sockA' : Socket), Crowded (n + 1) sockA' sockB a' b := by
  obtain ⟨⟨hReach, -⟩, s0, t0, sa, sb, hShowsA, -, hAccord⟩ := h.link.accord
  obtain rfl := hShowsA.of_holds h.left
  have hCore := hReach.ok.core 0 sockA h.left.1
  have hWindow : sockA.snd.curWindow = 0 := hAccord.dialler.curWindow_eq_zero h.written
  have hCount : sockA.snd.curWindowPackets < 1023 := h.count.trans_lt hn
  have hSame : Crowds (a.enter 0 sockA) ((a.enter 0 sockA).utpWritev (seededEnv 7) [[]]).2 :=
    crowds_emptyWrite (seededEnv 7) h.state h.fin hWindow hCount h.size
  have hStep : a.step (seededEnv 7) (.writev 0 [[]]) = some (a.runOn 0 fun s => (s.utpWritev (seededEnv 7) [[]]).2) := by
    have hAdmits : a.admits (.writev 0 [[]]) = true := by simp [Context.admits, Context.stateIs, h.left.1]
    unfold Context.step
    rw [if_pos hAdmits]
    rfl
  obtain ⟨hLink, hHolds, hEnter⟩ := h.call hStep rfl (Conn.path_utpWritev (seededEnv 7) .write [[]] hCore (.inl rfl)).path
  have hWritten := hReach.written_step hStep 0
  refine ⟨_, _, hLink, hHolds, h.right, hSame.state.trans h.state, hSame.fin.trans h.fin, hSame.size.trans h.size,
    hSame.count.trans (congrArg (· + 1) h.count), ?_, ?_, h.consumed, h.peer, h.unsent⟩
  · have hPackets := hSame.packets
    rw [← hEnter] at hPackets
    have hBefore : packetsOf (a.enter 0 sockA).traffic = packetsOf (a.logs 0) := packetsOf_traffic _
    have hAfter : ∀ (c : Context) (sock : Socket), packetsOf (c.enter 0 sock).traffic = packetsOf (c.logs 0) :=
      fun c sock => packetsOf_traffic _
    rw [hAfter, hAfter, h.packets] at hPackets
    omega
  · rw [hWritten, h.written]
    simp [Context.writes, h.left.1]

/-- The queue can be filled up to the place that `is_full` keeps for the FIN. -/
theorem Crowded.writes (h : Crowded 0 sockA sockB a b) {n : Nat} (hn : n ≤ 1023) :
    ∃ (a' : Context) (sockA' : Socket), Crowded n sockA' sockB a' b := by
  induction n with
  | zero => exact ⟨a, sockA, h⟩
  | succ n ih =>
      obtain ⟨a', sockA', hCrowded⟩ := ih (Nat.le_of_succ_le hn)
      exact hCrowded.write hn

/-- The first exchange: the dialled socket is connected by an ack, and its first packet arrives and is
acked. -/
def sendFirst : List Move := [.toLeft (firstAck 7) 0 somePeer, .left (.writev 0 [[]]),
  .toRight (dataPacket stData 8 []) 0 otherPeer, .right .issueDeferredAcks, .toLeft (ackPacketOf 8) 0 somePeer]

theorem exists_crowded : ∃ (a b : Context) (sockA sockB : Socket), Crowded 0 sockA sockB a b := by
  have hRun : followed sendFirst (fun a b => a.stateIs 0 (· == .connected) && b.stateIs 0 (· == .connected) &&
      (a.sockets 0).all (fun sock => sock.snd.curWindowPackets == 0 && sock.mtu.last == 1500 && !sock.finSent) &&
      (b.sockets 0).all (fun sock => !sock.finSent) &&
      ((packetsOf (a.logs 0)).length == 2 && writtenOf (a.logs 0) == [] && (consumedOf (b.logs 0)).length == 1)) =
      true := by
    decide +kernel
  obtain ⟨a, b, hLink, hOk⟩ := exists_link hRun
  simp only [Bool.and_eq_true, beq_iff_eq] at hOk
  obtain ⟨⟨⟨⟨hUpA, hUpB⟩, hQueue⟩, hUnsent⟩, ⟨hPackets, hWritten⟩, hConsumed⟩ := hOk
  obtain ⟨sockA, hSockA, hStateA⟩ := Context.stateIs_spec _ hUpA
  obtain ⟨sockB, hSockB, hStateB⟩ := Context.stateIs_spec _ hUpB
  rw [hSockA] at hQueue
  rw [hSockB] at hUnsent
  simp only [Option.all_some, Bool.and_eq_true, beq_iff_eq, Bool.not_eq_true'] at hQueue hUnsent
  obtain ⟨⟨hCount, hSize⟩, hFin⟩ := hQueue
  have hStateA := beq_iff_eq.1 hStateA
  have hStateB := beq_iff_eq.1 hStateB
  exact ⟨a, b, sockA, sockB, hLink, ⟨hSockA, by rw [hStateA]; decide⟩, ⟨hSockB, by rw [hStateB]; decide⟩, hStateA, hFin,
    hSize, hCount, hPackets, hWritten, hConsumed, hStateB, hUnsent⟩

/-- The socket is closed, and its FIN is queued behind the packets. -/
theorem Crowded.close {n : Nat} (h : Crowded n sockA sockB a b) (hn : n ≤ 1023) : ∃ (a' : Context) (sockA' : Socket),
    a.step (seededEnv 7) (.close 0) = some a' ∧ Link (seededEnv 7) (seededEnv 7) 0 0 a' b ∧ a'.Holds 0 sockA' ∧
      sockA'.state = .connected ∧ u16 (sockA'.snd.seqNr - sockB.rcv.ackNr - 1) = n + 1 := by
  have hCore := h.link.accord.1.1.ok.core 0 sockA h.left.1
  have hStep : a.step (seededEnv 7) (.close 0) = some (a.runOn 0 (Conn.utpClose (seededEnv 7))) := by
    have hAdmits : a.admits (.close 0) = true := by simp [Context.admits, Context.stateIs, h.left.1, h.state]
    unfold Context.step
    rw [if_pos hAdmits]
    rfl
  obtain ⟨hLink, hHolds, hEnter⟩ := h.call hStep rfl (Conn.path_utpClose (seededEnv 7) .asked hCore (.inl rfl)).path
  obtain ⟨hState, hPackets⟩ :=
    crowds_utpClose (seededEnv 7) (s := a.enter 0 sockA) h.state h.fin (h.count.trans_le hn)
  refine ⟨_, _, hStep, hLink, hHolds, hState, ?_⟩
  have hAhead := hLink.ahead hHolds h.right
  have hBefore : (packetsOf (a.enter 0 sockA).log).length = n + 2 := h.packets
  have hAfter : (a.runOn 0 (Conn.utpClose (seededEnv 7))).logs 0 = ((a.enter 0 sockA).utpClose (seededEnv 7)).log :=
    congrArg Conn.log hEnter
  rw [h.consumed, hAfter, hPackets, hBefore] at hAhead
  omega

end Crowd

/-- In every run in which each end leaves room for its FIN, an ack that one end emits now passes the check
of its number at the other end. For the acks of the accepted socket this holds once the dialled one has been
connected, since until then it knows no number of its peer. -/
theorem pure_ack_passes (envA envB : Env) (p q : Nat) (a b : Context) (h : RoomyLink envA envB p q a b)
    (sockA sockB : Socket) (hSockA : a.Holds p sockA) (hSockB : b.Holds q sockB) :
    (b.enter q sockB).seqOffset (a.enter p sockA).ackHeader < reorderBufferMaxSize ∧
      (entryOf (a.logs p) ≠ none → (a.enter p sockA).seqOffset (b.enter q sockB).ackHeader < reorderBufferMaxSize) := by
  obtain ⟨hRoomA, hRoomB⟩ := h.room hSockA hSockB
  obtain ⟨-, s0, t0, sa, sb, hShowsA, hShowsB, hAccord⟩ := h.link.accord
  obtain rfl := hShowsA.of_holds hSockA
  obtain rfl := hShowsB.of_holds hSockB
  refine ⟨hRoomA.ack hAccord.spentA hAccord.fedB hAccord.dialler hAccord.acceptor hAccord.answered, fun hUp => ?_⟩
  rcases hAccord.heard with hGreeting | hAnswered
  · exact absurd ((entryOf_story (a.logs p)).symm.trans hGreeting.entry) hUp
  · exact hRoomB.ack hAccord.spentB hAccord.fedA hAccord.acceptor hAccord.dialler hAnswered

/-- The FIN is queued behind 1022 packets that the peer has not got. -/
theorem pure_ack_passes_crowded : ∃ (a b : Context) (sockA sockB : Socket), RoomyLink (seededEnv 7) (seededEnv 7) 0 0 a b ∧
    a.Holds 0 sockA ∧ b.Holds 0 sockB ∧ u16 (sockA.snd.seqNr - sockB.rcv.ackNr - 1) = 1023 ∧
      (b.enter 0 sockB).seqOffset (a.enter 0 sockA).ackHeader < reorderBufferMaxSize := by
  obtain ⟨a₀, b, sock₀, sockB, hFirst⟩ := exists_crowded
  obtain ⟨a₁, sock₁, h⟩ := hFirst.writes (n := 1022) (by decide)
  obtain ⟨a, sockA, hStep, hLink, hSockA, -, hAhead⟩ := h.close (by decide)
  have hBegun : RoomyLink (seededEnv 7) (seededEnv 7) 0 0 a₁ b := by
    refine .begun h.link (fun sock hSock => ?_) fun sock hSock => ?_
    · cases Option.some.inj (hSock.1.symm.trans h.left.1)
      exact h.fin
    · cases Option.some.inj (hSock.1.symm.trans h.right.1)
      exact h.unsent
  have hRoomy : RoomyLink (seededEnv 7) (seededEnv 7) 0 0 a b := by
    refine .left (.close 0) hBegun hStep trivial nofun fun _ sock other hSock hOther _ _ => ?_
    cases Option.some.inj (hSock.1.symm.trans h.left.1)
    cases Option.some.inj (hOther.1.symm.trans h.right.1)
    have hFew := h.link.ahead h.left h.right
    rw [h.consumed, h.packets] at hFew
    omega
  exact ⟨a, b, sockA, sockB, hRoomy, hSockA, h.right, hAhead,
    (pure_ack_passes _ _ 0 0 a b hRoomy sockA sockB hSockA h.right).1⟩

/-- When the FIN is queued behind 1023 packets that the peer has not got, the number of an ack is 1024 past
the one that the peer waits for, and the peer passes over it. Both ends are connected. -/
theorem pure_ack_passed_over : ∃ (a b : Context) (sockA sockB : Socket), Link (seededEnv 7) (seededEnv 7) 0 0 a b ∧
    a.Holds 0 sockA ∧ b.Holds 0 sockB ∧ sockA.state = .connected ∧ sockB.state = .connected ∧
      (b.enter 0 sockB).seqOffset (a.enter 0 sockA).ackHeader = reorderBufferMaxSize := by
  obtain ⟨a₀, b, sock₀, sockB, hFirst⟩ := exists_crowded
  obtain ⟨a₁, sock₁, h⟩ := hFirst.writes le_rfl
  obtain ⟨a, sockA, -, hLink, hSockA, hState, hAhead⟩ := h.close le_rfl
  exact ⟨a, b, sockA, sockB, hLink, hSockA, h.right, hState, h.peer, hAhead⟩

end Utp
