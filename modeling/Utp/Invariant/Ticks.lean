import Utp.Invariant.Steps

/-! The number of callbacks never goes down, and only a rejected datagram or a check of the timeouts
touches the memory of rejected datagrams. -/
namespace Utp

open Wrapping

namespace Conn

variable (env : Env)

@[simp] theorem tick_check (line : Nat) (ok : Bool) (s : Conn) : (s.check line ok).tick = s.tick := by
  cases ok <;> rfl

/-- The callback is asked for the MTU and for the time. -/
theorem tick_mtuReset (s : Conn) : s.tick ≤ (s.mtuReset env).tick := by
  change s.tick ≤ (Conn.check 1346 _ _).tick
  rw [tick_check]
  exact Nat.le_add_right s.tick 2

/-- The time of the next search is set from the clock. -/
theorem tick_mtuSearchUpdate (s : Conn) : s.tick ≤ (s.mtuSearchUpdate env).tick := by
  unfold mtuSearchUpdate
  dsimp only
  rw [tick_check, tick_check]
  exact Nat.le_succ s.tick

/-- An ICMP message asks for the time at most. -/
theorem tick_receiveIcmpFragmentation (nextHopMtu : Nat) (s : Conn) :
    s.tick ≤ (s.receiveIcmpFragmentation env nextHopMtu).tick := by
  unfold receiveIcmpFragmentation
  change s.tick ≤ Conn.tick (if _ then _ else _)
  split_ifs
  · exact tick_mtuSearchUpdate env { s with mtu.ceiling := min nextHopMtu s.mtu.ceiling }
  · exact tick_mtuSearchUpdate env { s with mtu.ceiling := (s.mtu.floor + s.mtu.ceiling) / 2 }

/-- An ack asks for the read buffer and for the time. -/
theorem tick_sendAck (synack : Bool) (s : Conn) : s.tick ≤ (s.sendAck env synack).tick := by
  unfold sendAck
  dsimp only
  split_ifs
  · change s.tick ≤ (Conn.check 811 _ (Conn.check 802 _ _)).tick + 1
    rw [tick_check, tick_check]
    exact Nat.le_add_right s.tick 2
  · exact Nat.le_add_right s.tick 2

theorem tick_startProbe (pkt : OutgoingPacket) (s : Conn) : (s.startProbe pkt).tick = s.tick := by
  change (Conn.check 926 _ (Conn.check 925 _ _)).tick = s.tick
  rw [tick_check, tick_check]

/-- Sending asks for the time, and for the MTU when the search begins again. -/
theorem tick_sendPacket (v : Int) (s : Conn) : s.tick ≤ (s.sendPacket env v).tick := by
  cases hGet : s.snd.outbuf.get v with
  | none => rw [sendPacket_none env hGet]
  | some pkt =>
      have hCharged : (s.chargeWindow pkt).called.called.tick = s.tick + 2 := by
        unfold chargeWindow
        split_ifs <;> rfl
      have hReset := tick_mtuReset env (s.chargeWindow pkt).called.called
      have hBefore : s.tick ≤ (s.beforeTransmit env pkt).tick := by
        unfold beforeTransmit
        dsimp only
        split_ifs
        · rw [tick_startProbe]
          omega
        · omega
        · rw [tick_startProbe]
          omega
        · omega
      rw [sendPacket_some env hGet]
      exact hBefore.trans (Nat.le_succ _)

/-- A sample of the round trip asks for the time. -/
theorem tick_ackPacket (seq : Int) (s : Conn) : s.tick ≤ (s.ackPacket env seq).2.tick := by
  cases hGet : s.snd.outbuf.get (u16 seq) with
  | none => rw [ackPacket_none env hGet]
  | some pkt =>
      rw [ackPacket_some env hGet]
      split_ifs
      · exact le_rfl
      · have hSample : s.tick ≤ ((s.putPacket (u16 seq) none).sampleRtt env pkt).tick := by
          unfold sampleRtt
          split_ifs
          · exact Nat.le_succ s.tick
          · exact le_rfl
        refine hSample.trans (le_of_eq ?_)
        unfold removePacket
        dsimp only
        generalize (s.putPacket (u16 seq) none).sampleRtt env pkt = t
        unfold dischargeWindow
        split_ifs
        · rfl
        · symm
          exact tick_check 1419 _ _

/-- A delivery asks for nothing: the callback takes the bytes and returns. -/
theorem tick_deliver (body : List UInt8) (s : Conn) : (s.deliver body).tick = s.tick := by
  unfold deliver
  dsimp only
  split_ifs <;> rfl

end Conn

section Transitions

variable {env : Env} {cause : Cause} {s s' : Conn}

/-- The calls that the bookkeeping makes only move the count of calls up. -/
theorem Quiet.tick_le (h : Quiet env cause s s') : s.tick ≤ s'.tick := by
  cases h with
  | called => exact Nat.le_succ s.tick
  | clock => exact Nat.le_succ s.tick
  | check line ok hLine => rw [Conn.tick_check]
  | setsockopt opt val => cases opt <;> exact le_rfl
  | probeLost hProbe => exact Conn.tick_mtuSearchUpdate env { s with mtu.ceiling := u32 (s.mtu.probeSize - 1) }
  | probePassed hProbe => exact Conn.tick_mtuSearchUpdate env { s with mtu.floor := s.mtu.probeSize }
  | fragmentation nextHopMtu => exact Conn.tick_receiveIcmpFragmentation env nextHopMtu s
  | startTimer =>
      unfold Conn.startTimer
      split_ifs
      · rw [Conn.tick_check]
      · exact le_rfl
  | hurry => exact Nat.le_succ s.tick
  | ack hCause => exact Conn.tick_sendAck env false s
  | synAck d hCause hEmpty => exact Conn.tick_sendAck env true s
  | keepAlive hOpen hFin => exact Conn.tick_sendAck env false (s.setAckNr (u16 (s.rcv.ackNr - 1)))
  | _ => exact le_rfl

/-- So do those of the functions that queue and send packets. -/
theorem Queueing.tick_le (h : Queueing env cause s s') : s.tick ≤ s'.tick := by
  have hAcks : ∀ {header : PacketFormatV1} {t : Conn}, Relation.ReflTransGen (AckStep env header) s t →
      s.tick ≤ t.tick := by
    intro header t hRun
    induction hRun with
    | refl => exact le_rfl
    | tail _ hStep ih =>
        cases hStep with
        | acked hCount hAcked hSent => exact ih.trans (Conn.tick_ackPacket env _ _)
        | dropped hCount hNone => exact ih
  have hAppend : ∀ (flags : Nat) (bytes : List UInt8) (t : Conn), t.tick ≤ (t.appendPacket env flags bytes).tick := by
    intro flags bytes t
    change t.tick ≤ (t.check 1049 _).tick + 1
    rw [Conn.tick_check]
    exact Nat.le_succ t.tick
  cases h with
  | append bytes => exact hAppend stData bytes s
  | appendFin => exact hAppend stFin [] { s with finSent := true }
  | fill pkt bytes =>
      change s.tick ≤ ((s.check 1036 _).check 1049 _).tick + 1
      rw [Conn.tick_check, Conn.tick_check]
      exact Nat.le_succ s.tick
  | send v => exact Conn.tick_sendPacket env v s
  | acked _ r hCause hRun hFront => exact hAcks hRun
  | sacked r mask bits => exact Conn.tick_ackPacket env _ s
  | lost i hIndex =>
      unfold Conn.losePacket
      dsimp only
      split
      · exact le_rfl
      · split_ifs
        · exact le_rfl
        · rw [Conn.tick_check]
  | advance r hCause =>
      unfold Conn.updateFastResend
      split_ifs <;> exact le_rfl
  | retried => exact le_rfl
  | resent v => exact le_rfl

/-- A move of the state makes no calls. -/
theorem Moving.tick_eq (h : Moving cause s s') : s'.tick = s.tick := by
  cases h with
  | finAcked r hCause hFin hAcks => split_ifs <;> rfl
  | icmpError =>
      unfold Conn.receiveIcmpError
      dsimp only
      split_ifs <;> rfl
  | full hState hFull =>
      unfold Conn.markFull Conn.noteFull
      split_ifs
      rfl
  | _ => rfl

/-- A turn of the drain loop makes none that goes back. -/
theorem DrainStep.tick_le {r : Received} (h : DrainStep env r s s') : s.tick ≤ s'.tick := by
  cases h with
  | inOrder hOpen hType hOffset hDone =>
      rw [Conn.tick_deliver]
      exact le_rfl
  | eof =>
      unfold Conn.reachEof
      split_ifs
      · exact Conn.tick_sendAck env false (Conn.emit (.onStateChange .eof) { s with
          rcv.gotFinReached := true
          rtt.rtoTimeout := u64 (s.currentMs + (min (u32 (s.rtt.rto * 3)) 60 : Nat)) })
      · exact le_rfl
  | take p hOpen hCount hGet =>
      change s.tick ≤ (Conn.check 2435 _ _).tick
      rw [Conn.tick_check, Conn.tick_deliver]
      exact le_rfl

/-- Neither does a packet that is received. -/
theorem Receiving.tick_le (h : Receiving env cause s s') : s.tick ≤ s'.tick := by
  cases h with
  | synAcked r hCause hState => exact le_rfl
  | fin r hCause hOpen =>
      unfold Conn.noteFin
      split_ifs <;> exact le_rfl
  | drained _ r hCause hRun hDone =>
      clear hDone
      induction hRun with
      | refl => exact le_rfl
      | tail _ hStep ih => exact ih.trans hStep.tick_le
  | outOfOrder r hCause hOpen hType hOffset =>
      unfold Conn.receiveOutOfOrder
      split_ifs
      · exact le_rfl
      · exact le_rfl
      · dsimp only
        split_ifs
        · exact le_rfl
        · change s.tick ≤ (Conn.check 2499 _ (Conn.check 2498 _ _)).tick
          rw [Conn.tick_check, Conn.tick_check]
          exact le_rfl

/-- No transition goes back. -/
theorem Trans.tick_le (h : Trans env cause s s') : s.tick ≤ s'.tick := by
  cases h with
  | setup h =>
      cases h with
      | initialise addr connSeed connIdRecv connIdSend hState =>
          have hReset : s.tick + 1 ≤ _ := Conn.tick_mtuReset env
            (((s.setState .idle).updateCurrentMs env).assignIds addr connSeed connIdRecv connIdSend).initClocks
          exact (Nat.le_succ s.tick).trans hReset
      | dial hState hCount hPointer => exact Nat.le_add_right s.tick 3
      | accept d hCause hState hCount => exact Nat.le_succ s.tick
  | sending h =>
      cases h with
      | quiet h => exact h.tick_le
      | queueing h => exact h.tick_le
      | moving h => exact h.tick_eq.ge
  | receiving h => exact h.tick_le

/-- Time does not run backwards while a function of a socket runs. -/
theorem Path.tick_le (h : Path env cause s s') : s.tick ≤ s'.tick := by
  induction h with
  | refl => exact le_rfl
  | tail _ hStep ih => exact ih.trans hStep.tick_le

end Transitions

/-- A datagram is handed to the embedding program. -/
def Event.isSendto : Event → Bool
  | .sendto _ _ => true
  | _ => false

namespace Context

variable {env : Env} {op : Op} {c c' c'' : Context} {p : Nat} {sock : Socket}

/-- The RSTs that the context has sent. -/
def rstCount (c : Context) : Nat := c.log.countP fun entry => entry.2.isSendto

/-- The memory of rejected datagrams is left alone, and the clock does not run backwards. -/
structure Bystander (c c' : Context) : Prop where
  rstInfo : c'.rstInfo = c.rstInfo
  lastCheck : c'.lastCheck = c.lastCheck
  rstCount : c'.rstCount = c.rstCount
  tick_le : c.tick ≤ c'.tick

namespace Bystander

theorem refl (c : Context) : Bystander c c := ⟨rfl, rfl, rfl, le_rfl⟩

theorem trans (h : Bystander c c') (h' : Bystander c' c'') : Bystander c c'' :=
  ⟨h'.rstInfo.trans h.rstInfo, h'.lastCheck.trans h.lastCheck, h'.rstCount.trans h.rstCount, h.tick_le.trans h'.tick_le⟩

/-- A socket that has been worked on is put back, with the count of calls that it has come to. -/
theorem leave (p : Nat) {s : Conn} (h : c.tick ≤ s.tick) : Bystander c (c.leave p s) := by
  obtain ⟨acks, ida, hEq, -⟩ := leave_eq p s c
  rw [hEq]
  exact ⟨rfl, rfl, rfl, h⟩

/-- A function of a socket that follows the transitions. -/
theorem runOn {f : Conn → Conn} {cause : Cause} (hPath : ∀ sock, c.sockets p = some sock →
    Path env cause (c.enter p sock) (f (c.enter p sock))) : Bystander c (c.runOn p f) := by
  unfold Context.runOn
  split
  · exact refl c
  · rename_i sock hSock
    exact leave p (hPath sock hSock).tick_le

/-- Freeing a socket leaves the memory of rejected datagrams alone. -/
theorem delete (p : Nat) (c : Context) : Bystander c (c.delete p) := by
  have hUnlisted : ∀ c : Context, Bystander c (c.removeSocketFromAckList p) := by
    intro c
    unfold removeSocketFromAckList
    split_ifs <;> exact ⟨rfl, rfl, rfl, le_rfl⟩
  have hFreed : ∀ c : Context, Bystander c (c.free p) := fun c => ⟨rfl, rfl, rfl, le_rfl⟩
  unfold Context.delete
  split
  · exact refl c
  · dsimp only
    refine trans ?_ ((hUnlisted _).trans (hFreed _))
    split_ifs <;> exact ⟨rfl, rfl, rfl, le_rfl⟩

/-- Reading the header of a datagram is recorded and sends nothing. -/
theorem readBytes (addr : PackedSockAddr) (c : Context) : Bystander c (c.record addr (.readBytes 0 20)) := by
  refine ⟨rfl, rfl, ?_, le_rfl⟩
  simp [Context.record, Context.rstCount, Event.isSendto]

/-- The timers of a socket, and the deletion that may follow. -/
theorem checkSocket (hOk : c.Ok) (p : Nat) : Bystander c (c.checkSocket env p) := by
  have hRun : Bystander c (c.runOn p fun s => s.checkTimeouts env) :=
    runOn fun sock hSock => (Conn.path_checkTimeouts env (hOk.core p sock hSock)).path
  unfold Context.checkSocket
  dsimp only
  generalize c.runOn p (fun s => s.checkTimeouts env) = c₁ at hRun ⊢
  split
  · exact hRun
  · split_ifs
    · exact hRun.trans (delete p c₁)
    · exact hRun

/-- By induction on the order in which the table is gone through. -/
theorem checkSockets (order : List Nat) (hOk : c.Ok) :
    Bystander c (order.foldl (fun c p => c.checkSocket env p) c) := by
  induction order generalizing c with
  | nil => exact refl c
  | cons p order ih =>
      have hTurns : Turns env (.checkTimeouts order) c (c.checkSocket env p) := turns_checkSocket p ⟨order, rfl⟩ hOk
      exact (checkSocket hOk p).trans (ih (hTurns.ok hOk))

/-- By induction on the sockets whose acks are deferred. -/
theorem issueAcks (fuel : Nat) (hOk : c.Ok) : Bystander c (c.issueAcks env fuel) := by
  induction fuel generalizing c with
  | zero => exact refl c
  | succ fuel ih =>
      have hTurns : Turns env .issueDeferredAcks c (c.issueAcks env 1) := turns_issueAcks 1 hOk
      unfold Context.issueAcks at hTurns ⊢
      split
      · exact refl c
      · rename_i p rest hList
        rw [hList] at hTurns
        have hAck : Bystander c (c.runOn p fun s => s.sendAck env false) :=
          runOn fun sock _ =>
            (.single (.sending (.quiet (.ack _ (Or.inl rfl)))) : Path env .deferred (c.enter p sock) _)
        exact hAck.trans (ih (hTurns.ok hOk))

/-- Each connection id that is drawn is one call. -/
theorem drawSeed {addr : PackedSockAddr} {fuel seed : Nat} (hDraw : c.drawSeed env addr fuel = some (seed, c')) :
    Bystander c c' := by
  induction fuel generalizing c with
  | zero => cases hDraw
  | succ fuel ih =>
      have hCalled : Bystander c c.called := ⟨rfl, rfl, rfl, Nat.le_succ c.tick⟩
      unfold Context.drawSeed at hDraw
      dsimp only at hDraw
      split_ifs at hDraw
      · exact hCalled.trans (ih hDraw)
      · cases hDraw
        exact hCalled

/-- A socket that enters the table. -/
theorem enlisted {s : Conn} {cause : Cause} {addr : PackedSockAddr} {seed recvId sendId : Nat}
    (hNew : sock.state = .uninitialized)
    (hPath : Path env cause ((c.enter p sock).initializeSocket env addr seed recvId sendId) s) : Bystander c (c.leave p s) := by
  have hInit : Trans env cause (c.enter p sock) _ := .setup (.initialise _ addr seed recvId sendId hNew)
  exact leave p (hInit.tick_le.trans hPath.tick_le)

/-- Dialling works on the socket and on the table. -/
theorem utpConnect {addr : PackedSockAddr} {draws : Nat} (hOk : c.Ok) (hSock : c.sockets p = some sock)
    (hNew : sock.state = .uninitialized) (hConnect : c.utpConnect env p addr draws = some c') : Bystander c c' := by
  obtain ⟨⟨seed, mid⟩, hDraw, hEq⟩ := Option.map_eq_some_iff.1 hConnect
  obtain ⟨-, -, tick, rfl⟩ := drawSeed_spec hDraw
  have hMid : Bystander c ({ c with tick := tick }.addKey ⟨addr, seed⟩ p) := (drawSeed hDraw).trans ⟨rfl, rfl, rfl, le_rfl⟩
  have hThere : ({ c with tick := tick }.addKey ⟨addr, seed⟩ p).sockets p = some sock := hSock
  have hAside : Turns env .createSocket c { c with tick := tick } :=
    turns_aside c c.currentMs tick c.lastCheck c.targetDelay c.optSndbuf c.optRcvbuf c.rstInfo c.log
  have hOkMid : ({ c with tick := tick } : Context).Ok := hAside.ok hOk
  rw [← hEq]
  dsimp only
  rw [runOn_of_some hThere]
  exact hMid.trans (enlisted hNew (hOkMid.path_dialled hSock hNew addr seed))

/-- So does accepting. -/
theorem accept {d : Datagram} {addr : PackedSockAddr} (hOk : c.Ok) : Bystander c (c.accept env d addr) := by
  have hCalled : Bystander c c.called := ⟨rfl, rfl, rfl, Nat.le_succ c.tick⟩
  unfold Context.accept
  dsimp only
  split_ifs
  · exact refl c
  · exact refl c
  · exact refl c
  · exact hCalled
  · have hNow : c.called.create.sockets c.allocated =
        some (utpCreateSocket c.targetDelay c.optSndbuf c.optRcvbuf) := Function.update_self ..
    have hThere : (c.called.create.addKey ⟨addr, d.header.connid + 1⟩ c.allocated).sockets c.allocated =
        some (utpCreateSocket c.targetDelay c.optSndbuf c.optRcvbuf) := hNow
    have hCreate : Turns env .createSocket c c.called.create := (turns_aside c c.currentMs (c.tick + 1) c.lastCheck
      c.targetDelay c.optSndbuf c.optRcvbuf c.rstInfo c.log).tail (.create _)
    have hListed : Bystander c (c.called.create.addKey ⟨addr, d.header.connid + 1⟩ c.allocated) :=
      hCalled.trans ⟨rfl, rfl, rfl, le_rfl⟩
    rw [runOn_of_some hThere]
    exact hListed.trans (enlisted rfl ((hCreate.ok hOk).path_accepted hNow rfl d addr))

/-- A packet for a socket of the table. -/
theorem incoming {d : Datagram} (hOk : c.Ok) (hSyn : d.header.type ≠ stSyn) :
    Bystander c ({ c with lastUtpSocket := some p }.runOn p fun s => s.utpProcessIncoming env d false) := by
  cases hSock : c.sockets p with
  | none =>
      have hSame : ({ c with lastUtpSocket := some p }.runOn p fun s => s.utpProcessIncoming env d false) =
          { c with lastUtpSocket := some p } := by
        unfold Context.runOn
        simp only [hSock]
      rw [hSame]
      exact ⟨rfl, rfl, rfl, le_rfl⟩
  | some sock =>
      have hThere : ({ c with lastUtpSocket := some p } : Context).sockets p = some sock := hSock
      have hTick : c.tick ≤ ((c.enter p sock).utpProcessIncoming env d false).tick := by
        rcases Conn.path_utpProcessIncoming env (hOk.core p sock hSock) hSyn with hQuiet | ⟨r, -, hPath⟩
        · exact Path.tick_le hQuiet.path.path
        · exact Path.tick_le hPath
      have hCached : Bystander c { c with lastUtpSocket := some p } := ⟨rfl, rfl, rfl, le_rfl⟩
      rw [runOn_of_some hThere]
      exact hCached.trans (leave (c := { c with lastUtpSocket := some p }) p hTick)

end Bystander

/-- The datagram is a packet that belongs to no connection, and is neither a RST nor a SYN. -/
def rejects (d : Datagram) (addr : PackedSockAddr) (c : Context) : Bool :=
  20 ≤ d.len && utpVersion d.header = 1 && d.header.type ≠ stReset && d.header.type ≠ stSyn &&
    (c.findConn addr d.header.connid).isNone

/-- What `utp_check_timeouts` does before it comes to the sockets. -/
def swept (env : Env) (c : Context) : Context :=
  let c := c.updateCurrentMs env
  if u64 (c.currentMs - c.lastCheck) < timeoutCheckInterval then c
  else
    { c with
      lastCheck := c.currentMs
      rstInfo := purgeRstInfo c.currentMs c.rstInfo.length 0 c.rstInfo }

/-- What an operation does to the memory of rejected datagrams. -/
inductive RstStep (env : Env) (op : Op) (c c' : Context) : Prop where
  | aside (hStep : Bystander c c') (hOther : ∀ order, op ≠ .checkTimeouts order)
      (hTaken : ∀ d addr, op = .processUdp d addr → c.rejects d addr = false)
  | rejected (d : Datagram) (addr : PackedSockAddr) (hOp : op = .processUdp d addr) (hRejects : c.rejects d addr = true)
      (hEq : c' = (c.record addr (.readBytes 0 20)).reject env d.header addr)
  | checked (order : List Nat) (hOp : op = .checkTimeouts order) (hStep : Bystander (c.swept env) c')

/-- An operation that leaves the memory alone is a step of it, unless it is the check of the timeouts. -/
theorem Bystander.rstStep (h : Bystander c c') (hOther : (∀ order, op ≠ .checkTimeouts order) := by nofun)
    (hTaken : ∀ d addr, op ≠ .processUdp d addr := by nofun) : RstStep env op c c' :=
  .aside h hOther fun d addr hOp => absurd hOp (hTaken d addr)

/-- Only a datagram for which there is no socket, and which is neither a SYN nor a reset, is entered in
the memory. -/
theorem rstStep_utpProcessUdp {d : Datagram} {addr : PackedSockAddr} (hOk : c.Ok) :
    RstStep env (.processUdp d addr) c (c.utpProcessUdp env d addr).2 := by
  have hTaken : ∀ {c' : Context}, Bystander c c' → c.rejects d addr = false → RstStep env (.processUdp d addr) c c' := by
    intro c' hStep hNot
    refine .aside hStep nofun fun d' addr' hOp => ?_
    cases hOp
    exact hNot
  have hRecord : Turns env (.processUdp d addr) c (c.record addr (.readBytes 0 20)) := turns_aside c c.currentMs c.tick
    c.lastCheck c.targetDelay c.optSndbuf c.optRcvbuf c.rstInfo _
  have hRead := Bystander.readBytes addr c
  have hOk' := hRecord.ok hOk
  unfold utpProcessUdp
  by_cases hLen : d.len < 20
  · rw [if_pos hLen]
    exact hTaken (.refl c) (by simp [rejects, hLen])
  rw [if_neg hLen]
  dsimp only
  by_cases hVersion : utpVersion d.header ≠ 1
  · rw [if_pos hVersion]
    exact hTaken hRead (by simp [rejects, hVersion])
  rw [if_neg hVersion]
  by_cases hReset : d.header.type = stReset
  · rw [if_pos hReset]
    refine hTaken ?_ (by simp [rejects, hReset])
    cases (c.record addr (.readBytes 0 20)).findForError addr d.header.connid with
    | none => exact hRead
    | some p =>
        exact hRead.trans (.runOn fun sock _ => (.single (.sending (.moving (.reset _))) : Path env .call _ _))
  rw [if_neg hReset]
  by_cases hSyn : d.header.type = stSyn
  · rw [if_pos hSyn]
    exact hTaken (hRead.trans (.accept hOk')) (by simp [rejects, hSyn])
  rw [if_neg hSyn]
  have hSame : (c.record addr (.readBytes 0 20)).findConn addr d.header.connid = c.findConn addr d.header.connid := rfl
  cases hFind : c.findConn addr d.header.connid with
  | none =>
      rw [hSame, hFind]
      refine .rejected d addr rfl ?_ rfl
      simp [rejects, hFind, not_lt.1 hLen, not_not.1 hVersion, hReset, hSyn]
  | some p =>
      rw [hSame, hFind]
      exact hTaken (hRead.trans (.incoming hOk' hSyn)) (by simp [rejects, hFind])

/-- Only a rejected datagram and a check of the timeouts touch the memory of rejected datagrams. -/
theorem rstStep_of_step (hOk : c.Ok) (hStep : c.step env op = some c') : RstStep env op c c' := by
  unfold step at hStep
  split_ifs at hStep with hAdmit
  cases op with
  | createSocket =>
      cases hStep
      exact Bystander.rstStep ⟨rfl, rfl, rfl, le_rfl⟩
  | setOption opt val =>
      cases hStep
      cases opt <;> exact Bystander.rstStep ⟨rfl, rfl, rfl, le_rfl⟩
  | connect p addr draws =>
      obtain ⟨sock, hSock, hNew⟩ := stateIs_spec (· == .uninitialized) hAdmit
      exact (Bystander.utpConnect hOk hSock (beq_iff_eq.1 hNew) hStep).rstStep
  | writev p iovecs =>
      cases hStep
      exact (Bystander.runOn fun sock hSock =>
        (Conn.path_utpWritev env .write iovecs (hOk.core p sock hSock) (.inl rfl)).path).rstStep
  | readDrained p =>
      cases hStep
      exact (Bystander.runOn fun sock hSock => (Conn.path_utpReadDrained env _).path.path).rstStep
  | setsockopt p opt val =>
      cases hStep
      exact (Bystander.runOn fun sock hSock =>
        (.single (.sending (.quiet (.setsockopt _ opt val))) : Path env .call _ _)).rstStep
  | shutdown p how =>
      cases hStep
      exact (Bystander.runOn fun sock hSock =>
        (Conn.path_utpShutdown env how (hOk.core p sock hSock)).path).rstStep
  | close p =>
      cases hStep
      exact (Bystander.runOn fun sock hSock =>
        (Conn.path_utpClose env .asked (hOk.core p sock hSock) (.inl rfl)).path).rstStep
  | processUdp d addr =>
      cases hStep
      exact rstStep_utpProcessUdp hOk
  | processIcmpFragmentation d addr nextHopMtu =>
      cases hStep
      refine Bystander.rstStep ?_
      unfold utpProcessIcmpFragmentation
      split
      · exact .refl c
      · exact .runOn fun sock _ => (.single (.sending (.quiet (.fragmentation _ _))) : Path env .call _ _)
  | processIcmpError d addr =>
      cases hStep
      refine Bystander.rstStep ?_
      unfold utpProcessIcmpError
      split
      · exact .refl c
      · exact .runOn fun sock _ => (.single (.sending (.moving (.icmpError _))) : Path env .call _ _)
  | issueDeferredAcks =>
      cases hStep
      exact (Bystander.issueAcks _ hOk).rstStep
  | checkTimeouts order =>
      cases hStep
      refine .checked order rfl ?_
      unfold utpCheckTimeouts swept
      dsimp only
      split_ifs
      · exact .refl _
      · refine .checkSockets order ?_
        exact (turns_aside c _ _ _ _ _ _ _ _ : Turns env (.checkTimeouts order) c _).ok hOk

end Context

end Utp
