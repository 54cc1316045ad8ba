import Utp.Library.Entries
import Utp.Transition.Offer
import Utp.Transition.Log
import Utp.Invariant.Packets
import Utp.Invariant.Pointer

/-! The packet that the outstanding probe of the MTU search is about. -/
namespace Utp

open Wrapping

/-- How a packet was first sent: with which flags, and with how many bytes. -/
abbrev Maiden : Type := Option (Nat × Nat)

def noteMaiden (m : Nat → Maiden) : Event → Nat → Maiden
  | .queued seqNr _ _ => Function.update m seqNr none
  | .sendto w flags =>
      if w.header.type = stState || (m w.header.seqNr).isSome then m
      else Function.update m w.header.seqNr (some (flags, 20 + w.tail.length))
  | _ => m

/-- How the packet with each number was first sent since it was queued. -/
def maiden (log : List Event) : Nat → Maiden := log.foldl noteMaiden fun _ => none

/-- By the definition, event by event. -/
theorem maiden_append (log : List Event) (e : Event) :
    maiden (log ++ [e]) = noteMaiden (maiden log) e := by
  simp [maiden]

/-- Only the events of the queue count. -/
theorem maiden_filter (log : List Event) : maiden (log.filter Event.isOffer) = maiden log := by
  induction log using List.reverseRecOn with
  | nil => rfl
  | append_singleton log e ih =>
      rw [List.filter_append, maiden_append, ← ih]
      cases hOffer : e.isOffer with
      | true => simp [hOffer, maiden_append]
      | false =>
          have hSame : ∀ m, noteMaiden m e = m := by
            intro m
            cases e with
            | queued seqNr type bytes => cases hOffer
            | sendto w flags => cases hOffer
            | _ => rfl
          simp [hOffer, hSame]

/-- Acks are not packets of the queue. -/
theorem AckOffer.maiden {x x' : Offer} (h : AckOffer x x') : maiden x'.notes = maiden x.notes := by
  obtain ⟨window, w, hType, hSize⟩ := h
  unfold Offer.note Offer.refresh
  rw [maiden_append, maiden_append]
  simp [noteMaiden, hType]

/-- By induction on the acks that are sent. -/
theorem AckOffers.maiden {x x' : Offer} (h : AckOffers x x') : maiden x'.notes = maiden x.notes := by
  induction h with
  | refl => rfl
  | tail _ hAck ih => exact hAck.maiden.trans ih

/-- The range from which a verdict on the probe is reached. -/
def Event.verdict? : Event → Option MtuState
  | .mtu .passed before _ | .mtu .lost before _ => some before
  | _ => none

/-- Nothing that was done reached a verdict on the probe. -/
def NoVerdict (s s' : Conn) : Prop := ∃ events, s'.log = s.log ++ events ∧ ∀ e ∈ events, e.verdict? = none

namespace NoVerdict

variable {s t u : Conn}

/-- A record that stays has no new verdict. -/
theorem of_log (h : t.log = s.log) : NoVerdict s t := ⟨[], by simp [h]⟩

theorem trans (hFirst : NoVerdict s t) (hSecond : NoVerdict t u) : NoVerdict s u := by
  obtain ⟨first, hMid, hNone⟩ := hFirst
  obtain ⟨second, hLast, hNone'⟩ := hSecond
  refine ⟨first ++ second, by rw [hLast, hMid, List.append_assoc], fun e he => ?_⟩
  rcases List.mem_append.1 he with hOld | hNew
  · exact hNone e hOld
  · exact hNone' e hNew

theorem emit {e : Event} (s : Conn) (h : e.verdict? = none) : NoVerdict s (s.emit e) :=
  ⟨[e], rfl, by simpa using h⟩

/-- An assertion is no verdict. -/
theorem check (line : Nat) (ok : Bool) (s : Conn) : NoVerdict s (s.check line ok) := by
  cases ok with
  | true => exact .of_log rfl
  | false => exact .emit s rfl

/-- The search has not moved. -/
theorem of_search (hGrows : Grows s t) (hSearch : t.search = s.search) : NoVerdict s t := by
  obtain ⟨events, hMore⟩ := hGrows
  refine ⟨events, hMore.symm, fun e he => ?_⟩
  have hNotes : t.log.filter Event.isSearch = s.log.filter Event.isSearch := congrArg Search.notes hSearch
  rw [← hMore, List.filter_append] at hNotes
  have hNone : events.filter Event.isSearch = [] := List.append_right_eq_self.1 hNotes
  have hOther : e.isSearch = false := by
    simpa using List.filter_eq_nil_iff.1 hNone e he
  cases e with
  | mtu step before after => cases hOther
  | _ => rfl

/-- What was true of all verdicts stays true when none is added. -/
theorem each {P : List Event → MtuState → Prop} (h : NoVerdict s t)
    (hOld : EachEntry Event.verdict? P s.log) : EachEntry Event.verdict? P t.log := by
  obtain ⟨events, hLog, hNone⟩ := h
  rw [hLog]
  exact (EachEntry.append_other hNone).2 hOld

end NoVerdict

namespace Conn

variable (env : Env)

/-- The update follows a verdict and is none itself. -/
theorem noVerdict_mtuSearchUpdate (s : Conn) : NoVerdict s (s.mtuSearchUpdate env) := by
  refine NoVerdict.trans ?_ (NoVerdict.check _ _ _)
  refine NoVerdict.trans ?_ (NoVerdict.check _ _ _)
  exact .of_log rfl

/-- A search that begins again has said nothing of a size. -/
theorem noVerdict_mtuReset (s : Conn) : NoVerdict s (s.mtuReset env) := by
  refine NoVerdict.trans ?_ (NoVerdict.emit _ rfl)
  refine NoVerdict.trans ?_ (NoVerdict.check _ _ _)
  exact .of_log rfl

/-- The size that an ICMP message reports is no verdict on a probe of this socket. -/
theorem noVerdict_receiveIcmpFragmentation (nextHopMtu : Nat) (s : Conn) :
    NoVerdict s (s.receiveIcmpFragmentation env nextHopMtu) := by
  refine NoVerdict.trans ?_ (NoVerdict.emit _ rfl)
  split_ifs
  · exact (NoVerdict.of_log rfl).trans (noVerdict_mtuSearchUpdate env _)
  · exact (NoVerdict.of_log rfl).trans (noVerdict_mtuSearchUpdate env _)

/-- The search may begin again before a packet becomes a probe. -/
theorem noVerdict_beforeProbe (pkt : OutgoingPacket) (s : Conn) : NoVerdict s (s.beforeProbe env pkt) := by
  have hCharged : NoVerdict s (s.chargeWindow pkt).called.called := by
    unfold chargeWindow
    split_ifs <;> exact .of_log rfl
  unfold beforeProbe
  dsimp only
  split_ifs
  · exact hCharged.trans (noVerdict_mtuReset env _)
  · exact hCharged

/-- Neither is a packet that is sent. -/
theorem noVerdict_transmit (v : Int) (pkt : OutgoingPacket) (timeSent flags : Nat) (s : Conn) :
    NoVerdict s (s.transmit env v pkt timeSent flags) :=
  (NoVerdict.emit s rfl).trans ⟨[.sendto _ flags], rfl, by simp [Event.verdict?]⟩

/-- The start of a probe is recorded as such. -/
theorem noVerdict_startProbe (pkt : OutgoingPacket) (s : Conn) : NoVerdict s (s.startProbe pkt) := by
  refine NoVerdict.trans ?_ (NoVerdict.emit _ rfl)
  refine NoVerdict.trans ?_ (NoVerdict.check _ _ _)
  refine NoVerdict.trans ?_ (NoVerdict.check _ _ _)
  exact .of_log rfl

end Conn

/-- The probe stays what it is, or is given up. -/
def KeepsProbe (m m' : MtuState) : Prop :=
  m'.probeSeq = 0 ∨ m'.probeSeq = m.probeSeq ∧ m'.probeSize = m.probeSize

/-- A search that stays keeps its probe. -/
theorem KeepsProbe.of_eq {m m' : MtuState} (h : m' = m) : KeepsProbe m m' :=
  Or.inr ⟨congrArg MtuState.probeSeq h, congrArg MtuState.probeSize h⟩

/-- Every update gives up the probe. -/
theorem MtuState.probeSeq_searchUpdate (currentMs : Nat) (m : MtuState) :
    (m.searchUpdate currentMs).probeSeq = 0 := by
  unfold searchUpdate
  dsimp only
  split_ifs <;> rfl

variable {env : Env} {cause : Cause} {s s' : Conn}

/-- The bookkeeping may end a probe and never begins one. -/
theorem Quiet.keepsProbe (h : Quiet env cause s s') : KeepsProbe s.mtu s'.mtu := by
  have hAck : ∀ (t : Conn) synack, (t.sendAck env synack).mtu = t.mtu := fun t synack =>
    congrArg Foreground.mtu (Conn.foreground_sendAck env synack t)
  cases h with
  | check line ok hLine => exact .of_eq (Conn.mtu_check line ok s)
  | setsockopt opt val => cases opt <;> exact .of_eq rfl
  | probeLost hProbe =>
      refine Or.inl ((congrArg MtuState.probeSeq (Conn.mtu_mtuSearchUpdate env _)).trans ?_)
      exact MtuState.probeSeq_searchUpdate _ _
  | probePassed hProbe =>
      refine Or.inl ((congrArg MtuState.probeSeq (Conn.mtu_mtuSearchUpdate env _)).trans ?_)
      exact MtuState.probeSeq_searchUpdate _ _
  | clearProbe => exact Or.inl rfl
  | fragmentation nextHopMtu =>
      refine Or.inl ?_
      have hMtu := congrArg Search.mtu (Conn.search_receiveIcmpFragmentation env nextHopMtu s)
      refine (congrArg MtuState.probeSeq hMtu).trans ?_
      change (Search.fragmented _ _ _).probeSeq = 0
      unfold Search.fragmented
      dsimp only
      split_ifs
      · exact MtuState.probeSeq_searchUpdate _ _
      · exact MtuState.probeSeq_searchUpdate _ _
  | startTimer =>
      refine .of_eq ?_
      unfold Conn.startTimer
      split_ifs
      · exact Conn.mtu_check _ _ _
      · rfl
  | ack hCause => exact .of_eq (hAck s false)
  | synAck d hCause hEmpty => exact .of_eq (hAck s true)
  | keepAlive hOpen hFin => exact .of_eq (hAck (s.setAckNr (u16 (s.rcv.ackNr - 1))) false)
  | _ => exact .of_eq rfl

/-- Bookkeeping reaches a verdict only on a probe that is outstanding. -/
theorem Quiet.noVerdict (h : Quiet env cause s s') : NoVerdict s s' ∨ s.mtu.probeSeq ≠ 0 ∧
    ∃ t step, NoVerdict s t ∧ t.offer = s.offer ∧ s' = t.noteMtu step s.mtu := by
  have hAck : ∀ (t : Conn) synack, NoVerdict t (t.sendAck env synack) := by
    intro t synack
    refine .of_search (Conn.grows_sendAck env synack t) ?_
    obtain ⟨w, -, hSent⟩ := Conn.trace_sendAck env synack t
    refine Conn.search_eq (congrArg Foreground.mtu (Conn.foreground_sendAck env synack t)) ?_
    rw [hSent]
    rfl
  cases h with
  | check line ok hLine => exact Or.inl (.check line ok s)
  | read off count => exact Or.inl (.emit s rfl)
  | readMask mask index extLen => exact Or.inl (.emit s rfl)
  | onAccept => exact Or.inl (.emit s rfl)
  | scheduleAck hCause => exact Or.inl (.emit s rfl)
  | setsockopt opt val => cases opt <;> exact Or.inl (.of_log rfl)
  | probeLost hProbe =>
      refine Or.inr ⟨hProbe, _, .lost, ?_, ?_, rfl⟩
      · exact (NoVerdict.of_log rfl).trans (Conn.noVerdict_mtuSearchUpdate env _)
      · exact Conn.offer_mtuSearchUpdate env _
  | probePassed hProbe =>
      refine Or.inr ⟨hProbe, _, .passed, ?_, ?_, rfl⟩
      · exact (NoVerdict.of_log rfl).trans (Conn.noVerdict_mtuSearchUpdate env _)
      · exact Conn.offer_mtuSearchUpdate env _
  | fragmentation nextHopMtu => exact Or.inl (Conn.noVerdict_receiveIcmpFragmentation env nextHopMtu s)
  | startTimer =>
      refine Or.inl ?_
      unfold Conn.startTimer
      split_ifs
      · exact (NoVerdict.of_log rfl).trans (.check _ _ _)
      · exact .of_log rfl
  | ack hCause => exact Or.inl (hAck s false)
  | synAck d hCause hEmpty => exact Or.inl (hAck s true)
  | keepAlive hOpen hFin => exact Or.inl (hAck (s.setAckNr (u16 (s.rcv.ackNr - 1))) false)
  | _ => exact Or.inl (.of_log rfl)

/-- The outstanding probe is a packet of the queue, which was first sent as a probe of that
size; and every verdict was about such a packet. -/
structure Probing (s : Conn) : Prop where
  probe : s.mtu.probeSeq ≠ 0 → ∃ j pkt, s.packetAt j = some pkt ∧ pkt.header.seqNr = s.mtu.probeSeq ∧
    pkt.length = s.mtu.probeSize ∧ pkt.transmissions ≠ 0
  first : s.mtu.probeSeq ≠ 0 → maiden s.log s.mtu.probeSeq = some (utpUdpDontfrag, s.mtu.probeSize)
  queued : ∀ j pkt, s.packetAt j = some pkt → pkt.header.type ≠ stState ∧
    (pkt.transmissions = 0 → maiden s.log pkt.header.seqNr = none)
  verdicts : EachEntry Event.verdict?
    (fun pre m => maiden pre m.probeSeq = some (utpUdpDontfrag, m.probeSize)) s.log

/-- The queue and what was sent from it are all that counts. -/
theorem Conn.maiden_offer (s : Conn) : maiden s.log = maiden s.offer.notes := (maiden_filter s.log).symm

/-- So a function that leaves them alone changes nothing. -/
theorem Conn.maiden_of_offer (h : s'.offer = s.offer) : maiden s'.log = maiden s.log := by
  rw [Conn.maiden_offer, h, ← Conn.maiden_offer]

/-- Acks have no number of the queue. -/
theorem Conn.maiden_of_acks (h : AckOffers s.offer s'.offer) : maiden s'.log = maiden s.log := by
  rw [Conn.maiden_offer, h.maiden, ← Conn.maiden_offer]

namespace Probing

/-- Packets leave the queue, but not the probe. -/
theorem thinned (h : Probing s)
    (hPackets : ∀ j pkt', s'.packetAt j = some pkt' → ∃ pkt, s.packetAt j = some pkt ∧ pkt.Kin pkt')
    (hStays : s'.mtu.probeSeq ≠ 0 → ∀ j pkt, s.packetAt j = some pkt → pkt.header.seqNr = s.mtu.probeSeq →
      s'.packetAt j = some pkt)
    (hProbe : KeepsProbe s.mtu s'.mtu) (hFirst : maiden s'.log = maiden s.log)
    (hVerdicts : EachEntry Event.verdict?
      (fun pre m => maiden pre m.probeSeq = some (utpUdpDontfrag, m.probeSize)) s'.log) : Probing s' := by
  refine ⟨fun hOut => ?_, fun hOut => ?_, fun j pkt' hAt => ?_, hVerdicts⟩
  · rcases hProbe with hNone | ⟨hSeq, hSize⟩
    · exact absurd hNone hOut
    · obtain ⟨j, pkt, hAt, hNumber, hRest⟩ := h.probe (hSeq ▸ hOut)
      rw [hSeq, hSize]
      exact ⟨j, pkt, hStays hOut j pkt hAt hNumber, hNumber, hRest⟩
  · rcases hProbe with hNone | ⟨hSeq, hSize⟩
    · exact absurd hNone hOut
    · rw [hSeq, hSize, hFirst]
      exact h.first (hSeq ▸ hOut)
  · obtain ⟨pkt, hOld, hKin⟩ := hPackets j pkt' hAt
    obtain ⟨hType, hFresh⟩ := h.queued j pkt hOld
    rw [hFirst, hKin.type, hKin.seqNr]
    exact ⟨hType, fun hUnsent => hFresh (of_not_not fun hSent => hKin.sent hSent hUnsent)⟩

/-- The queue stays as it is. -/
theorem keeps (h : Probing s) (hPackets : ∀ j, s'.packetAt j = s.packetAt j)
    (hProbe : KeepsProbe s.mtu s'.mtu) (hFirst : maiden s'.log = maiden s.log)
    (hVerdicts : EachEntry Event.verdict?
      (fun pre m => maiden pre m.probeSeq = some (utpUdpDontfrag, m.probeSize)) s'.log) : Probing s' :=
  h.thinned (fun j pkt hAt => ⟨pkt, (hPackets j).symm.trans hAt, .refl pkt⟩)
    (fun _ j _ hAt _ => (hPackets j).trans hAt) hProbe hFirst hVerdicts

/-- A verdict of the bookkeeping is about the probe that is outstanding. -/
theorem quiet (h : Probing s) (hCore : Core s) (hQuiet : Quiet env cause s s') : Probing s' := by
  have hView := hQuiet.view hCore.view.bounds.ackNr_lt
  have hPackets : ∀ j, s'.packetAt j = s.packetAt j := by
    intro j
    have hSeq : s'.snd.seqNr = s.snd.seqNr := congrArg View.seqNr hView
    have hCount : s'.snd.curWindowPackets = s.snd.curWindowPackets := congrArg View.curWindowPackets hView
    have hBuf : s'.snd.outbuf = s.snd.outbuf := congrArg View.outbuf hView
    unfold Conn.packetAt
    rw [hSeq, hCount, hBuf]
  refine h.keeps hPackets hQuiet.keepsProbe (Conn.maiden_of_acks hQuiet.offer) ?_
  rcases hQuiet.noVerdict with hNone | ⟨hOut, t, step, hNone, hOffer, rfl⟩
  · exact hNone.each h.verdicts
  · refine EachEntry.append_iff.2 ⟨hNone.each h.verdicts, fun m hVerdict => ?_⟩
    have hSame : m = s.mtu := by
      cases step <;> cases hVerdict <;> rfl
    rw [hSame, Conn.maiden_of_offer hOffer]
    exact h.first hOut

/-- Nothing but the notes of the record changes. -/
theorem same (h : Probing s) (hSnd : s'.snd = s.snd) (hMtu : s'.mtu = s.mtu)
    (hOffer : AckOffers s.offer s'.offer) (hVerdict : NoVerdict s s') : Probing s' := by
  refine h.keeps (fun j => ?_) (.of_eq hMtu) (Conn.maiden_of_acks hOffer) (hVerdict.each h.verdicts)
  unfold Conn.packetAt
  rw [hSnd]

/-- One packet of the queue is stored again. If it is sent for the first time, it may become
the probe. -/
theorem stored (h : Probing s) (hCore : Core s) {v : Int} {pkt pkt' : OutgoingPacket}
    (hGet : s.snd.outbuf.get v = some pkt) (hKin : pkt.Kin pkt') (hSeq : s'.snd.seqNr = s.snd.seqNr)
    (hCount : s'.snd.curWindowPackets = s.snd.curWindowPackets)
    (hBuf : s'.snd.outbuf = s.snd.outbuf.put v (some pkt')) (hVerdict : NoVerdict s s')
    (hOther : ∀ n, n ≠ pkt.header.seqNr ∨ maiden s.log n ≠ none → maiden s'.log n = maiden s.log n)
    (hUnsent : pkt'.transmissions = 0 → maiden s'.log pkt.header.seqNr = none)
    (hProbe : KeepsProbe s.mtu s'.mtu ∨ s'.mtu.probeSeq = pkt.header.seqNr ∧
      s'.mtu.probeSize = pkt.length ∧ pkt'.transmissions ≠ 0 ∧
      maiden s'.log pkt.header.seqNr = some (utpUdpDontfrag, pkt.length)) : Probing s' := by
  obtain ⟨i, hAt, hPut⟩ := hCore.packetAt_put hGet
  have hPackets := hPut s' (some pkt') hSeq hCount hBuf
  refine ⟨fun hOut => ?_, fun hOut => ?_, fun j found hFound => ?_, hVerdict.each h.verdicts⟩
  · rcases hProbe with (hNone | ⟨hSame, hSize⟩) | ⟨hNew, hSize, hSent, -⟩
    · exact absurd hNone hOut
    · obtain ⟨j, old, hOld, hNumber, hLength, hSent⟩ := h.probe (hSame ▸ hOut)
      rw [hSame, hSize]
      by_cases hHere : j = i
      · subst hHere
        cases Option.some.inj (hAt.symm.trans hOld)
        exact ⟨j, pkt', (hPackets j).trans (if_pos rfl), hKin.seqNr.trans hNumber,
          hKin.length.trans hLength, hKin.sent hSent⟩
      · exact ⟨j, old, ((hPackets j).trans (if_neg hHere)).trans hOld, hNumber, hLength, hSent⟩
    · rw [hNew, hSize]
      exact ⟨i, pkt', (hPackets i).trans (if_pos rfl), hKin.seqNr, hKin.length, hSent⟩
  · rcases hProbe with (hNone | ⟨hSame, hSize⟩) | ⟨hNew, hSize, -, hFirst⟩
    · exact absurd hNone hOut
    · have hFirst := h.first (hSame ▸ hOut)
      rw [hSame, hSize, hOther _ (Or.inr (by rw [hFirst]; nofun))]
      exact hFirst
    · rw [hNew, hSize]
      exact hFirst
  · rw [hPackets j] at hFound
    split_ifs at hFound with hHere
    · cases hFound
      rw [hKin.type, hKin.seqNr]
      exact ⟨(h.queued i pkt hAt).1, hUnsent⟩
    · obtain ⟨hType, hNone⟩ := h.queued j found hFound
      refine ⟨hType, fun hFresh => ?_⟩
      rw [hOther _ (Or.inl (hCore.seqNr_ne hFound hAt hHere))]
      exact hNone hFresh

/-- A packet that counts as lost keeps its size and its number of transmissions. -/
theorem lost (h : Probing s) (hCore : Core s) (i : Nat) : Probing (s.losePacket i) := by
  rcases Conn.losePacket_cases i s with hSame | ⟨pkt, hGet, hSent, -, hLost⟩
  · rwa [hSame]
  · have hMaiden := Conn.maiden_of_offer (Conn.offer_losePacket i s)
    have hMtu : (s.losePacket i).mtu = s.mtu := by
      rw [hLost]
      exact Conn.mtu_check _ _ _
    have hVerdict : NoVerdict s (s.losePacket i) := by
      rw [hLost]
      exact (NoVerdict.of_log rfl).trans (.check _ _ _)
    have hView := Conn.view_check 1243 (s.snd.curWindow ≥ pkt.payload) { s with
      snd.outbuf := s.snd.outbuf.put (s.snd.seqNr - i - 1) (some { pkt with needResend := true })
      snd.curWindow := sub64 s.snd.curWindow pkt.payload }
    rw [← hLost] at hView
    refine h.stored hCore hGet ?_ (congrArg View.seqNr hView) (congrArg View.curWindowPackets hView)
      (congrArg View.outbuf hView) hVerdict (fun n _ => by rw [hMaiden]) (fun hFresh => ?_)
      (Or.inl (.of_eq hMtu))
    · exact ⟨rfl, rfl, rfl, rfl, id⟩
    · exact absurd hFresh hSent

end Probing

namespace Conn

/-- The search that begins again has no probe, and the queue stays. -/
theorem probe_beforeProbe (env : Env) (pkt : OutgoingPacket) (s : Conn) :
    (s.beforeProbe env pkt).mtu.probeSeq = s.mtu.probeSeq ∧
      (s.beforeProbe env pkt).mtu.probeSize = s.mtu.probeSize ∧
      (s.beforeProbe env pkt).snd.seqNr = s.snd.seqNr := by
  have hCharged : (s.chargeWindow pkt).called.called.mtu = s.mtu := by
    unfold chargeWindow
    split_ifs <;> rfl
  have hNumber : (s.chargeWindow pkt).called.called.snd.seqNr = s.snd.seqNr :=
    congrArg View.seqNr (view_chargeWindow pkt s)
  have hReset : ∀ t : Conn, (t.mtuReset env).mtu = t.mtu.reset (t.utpCallGetUdpMtu env)
      (t.called.utpCallGetMilliseconds env) := fun t => mtu_check _ _ _
  unfold beforeProbe
  dsimp only
  split_ifs
  · refine ⟨?_, ?_, (congrArg View.seqNr (view_mtuReset env _)).trans hNumber⟩
    · rw [hReset, hCharged]
      rfl
    · rw [hReset, hCharged]
      rfl
  · rw [hCharged]
    exact ⟨rfl, rfl, hNumber⟩

/-- A packet that is sent leaves the probe alone, or becomes the probe, under the number of the
newest packet. -/
theorem probe_sendPacket (env : Env) {v : Int} {pkt : OutgoingPacket} {s : Conn}
    (hGet : s.snd.outbuf.get v = some pkt) : NoVerdict s (s.sendPacket env v) ∧
      (KeepsProbe s.mtu (s.sendPacket env v).mtu ∨
        pkt.transmissions = 0 ∧ s.transmitFlags env pkt = utpUdpDontfrag ∧
        (s.sendPacket env v).mtu.probeSeq = u16 (s.snd.seqNr - 1) ∧
        (s.sendPacket env v).mtu.probeSize = pkt.length ∧
        ∃ before, .mtu (.probe pkt.header.seqNr pkt.transmissions (u16 (s.snd.seqNr - 1))) before
          (s.sendPacket env v).mtu ∈ (s.sendPacket env v).log) := by
  have hPlain := noVerdict_beforeProbe env pkt s
  obtain ⟨hSeq, hSize, hNumber⟩ := probe_beforeProbe env pkt s
  rw [sendPacket_some env hGet]
  have hBefore : s.beforeTransmit env pkt = if (s.beforeProbe env pkt).useAsMtuProbe pkt
      then (s.beforeProbe env pkt).startProbe pkt else s.beforeProbe env pkt := rfl
  have hFlags : s.transmitFlags env pkt = if (s.beforeProbe env pkt).useAsMtuProbe pkt
      then utpUdpDontfrag else 0 := rfl
  rw [hBefore, hFlags]
  generalize s.beforeProbe env pkt = t at hPlain hSeq hSize hNumber ⊢
  split_ifs with hUse
  · simp only [useAsMtuProbe, Bool.and_eq_true, beq_iff_eq] at hUse
    have hSearch := search_startProbe pkt t
    have hMtu := congrArg Search.mtu hSearch
    refine ⟨(hPlain.trans (noVerdict_startProbe pkt t)).trans (noVerdict_transmit env v pkt _ _ _),
      Or.inr ⟨hUse.2, rfl, ?_, ?_, t.mtu, ?_⟩⟩
    · rw [← hNumber]
      exact congrArg MtuState.probeSeq hMtu
    · exact congrArg MtuState.probeSize hMtu
    · rw [← hNumber]
      refine List.mem_append_left _ (List.mem_append_left _ ?_)
      exact List.mem_append_right _ (List.mem_singleton_self _)
  · exact ⟨hPlain.trans (noVerdict_transmit env v pkt _ _ _), Or.inl (Or.inr ⟨hSeq, hSize⟩)⟩

/-- How the packet was first sent is settled when it is sent for the first time. -/
theorem maiden_sendPacket (env : Env) {v : Int} {pkt : OutgoingPacket} {s : Conn} {seq : Nat}
    (hGet : s.snd.outbuf.get v = some pkt) (hType : pkt.header.type ≠ stState) (hOk : PacketOk seq pkt) :
    maiden (s.sendPacket env v).log =
      if (maiden s.log pkt.header.seqNr).isSome then maiden s.log
      else Function.update (maiden s.log) pkt.header.seqNr (some (s.transmitFlags env pkt, pkt.length)) := by
  obtain ⟨window, w, hSame, hSeq, -, hTail, hOffer⟩ := offer_sendPacket env hGet
  have hLength : 20 + w.tail.length = pkt.length := by
    have hBody := hOk.payload
    have hTotal := hOk.length
    rw [hTail, List.length_take]
    omega
  rw [maiden_offer (s.sendPacket env v), hOffer, maiden_offer s]
  unfold Offer.note
  rw [maiden_append, maiden_append]
  simp [noteMaiden, hSame, hSeq, hType, hLength]

/-- The number of a new packet is free for its first transmission. -/
theorem maiden_appendPacket (env : Env) (flags : Nat) (bytes : List UInt8) (s : Conn) :
    maiden (s.appendPacket env flags bytes).log = Function.update (maiden s.log) s.snd.seqNr none := by
  obtain ⟨window, hOffer⟩ := offer_appendPacket env flags bytes s
  rw [maiden_offer (s.appendPacket env flags bytes), hOffer, maiden_offer s]
  unfold Offer.note Offer.refresh
  rw [maiden_append, maiden_append]
  rfl

/-- The last packet was not sent, so there is no first transmission of it yet. -/
theorem maiden_fillPacket (env : Env) (flags : Nat) (pkt : OutgoingPacket) (bytes : List UInt8) (s : Conn) :
    maiden (s.fillPacket env flags pkt bytes).log = maiden s.log := by
  obtain ⟨window, hOffer⟩ := offer_fillPacket env flags pkt bytes s
  rw [maiden_offer (s.fillPacket env flags pkt bytes), hOffer, maiden_offer s]
  unfold Offer.note Offer.refresh
  rw [maiden_append, maiden_append]
  rfl

end Conn

/-- Every packet that became a probe was the newest one of its queue, whose number is the one before
`seq_nr`, and no selective ack was for the probe that was outstanding. -/
structure SoundProbes (log : List Event) : Prop where
  newest : ∀ seqNr transmissions newest before after,
    .mtu (.probe seqNr transmissions newest) before after ∈ log → seqNr = newest
  unsacked : ∀ seqNr, .sacked seqNr seqNr ∈ log → seqNr = 0

/-- What is asked of all probes is asked of the earlier ones. -/
theorem SoundProbes.before {log log' : List Event} (h : SoundProbes log') (hGrows : log <+: log') :
    SoundProbes log :=
  ⟨fun seqNr transmissions newest before after hIn => h.newest seqNr transmissions newest before after (hGrows.subset hIn),
    fun seqNr hIn => h.unsacked seqNr (hGrows.subset hIn)⟩

namespace Probing

/-- A packet that becomes a probe is sent for the first time, with the size of the probe. -/
theorem sent (h : Probing s) (hCore : Core s) (v : Int) (hSound : SoundProbes (s.sendPacket env v).log) :
    Probing (s.sendPacket env v) := by
  cases hGet : s.snd.outbuf.get v with
  | none => rwa [Conn.sendPacket_none env hGet]
  | some pkt =>
      obtain ⟨i, hAt, -⟩ := hCore.packetAt_put hGet
      obtain ⟨hType, hFresh⟩ := h.queued i pkt hAt
      have hMaiden := Conn.maiden_sendPacket env hGet hType (hCore.packet_ok hAt)
      obtain ⟨hVerdict, hProbe⟩ := Conn.probe_sendPacket env hGet
      have hView := Conn.view_sendPacket env hGet
      rw [Conn.view_chargeWindow] at hView
      refine h.stored hCore hGet ?_ (congrArg View.seqNr hView) (congrArg View.curWindowPackets hView)
        (congrArg View.outbuf hView) hVerdict (fun n hOther => ?_) (fun hNone => ?_) ?_
      · exact ⟨rfl, rfl, rfl, rfl, fun _ => Nat.succ_ne_zero _⟩
      · rw [hMaiden]
        split_ifs with hKnown
        · rfl
        · rcases hOther with hElse | hSome
          · exact Function.update_of_ne hElse _ _
          · refine Function.update_of_ne (fun hHere => ?_) _ _
            rw [hHere] at hSome
            exact hKnown (Option.isSome_iff_ne_none.2 hSome)
      · exact absurd hNone (Nat.succ_ne_zero _)
      · refine hProbe.imp id fun ⟨hUnsent, hFlags, hSeq, hSize, before, hNoted⟩ => ?_
        refine ⟨hSeq.trans (hSound.newest _ _ _ _ _ hNoted).symm, hSize, Nat.succ_ne_zero _, ?_⟩
        rw [hMaiden, hFresh hUnsent, hFlags]
        simp

/-- A new packet is added at the end of the queue. -/
theorem enqueued (h : Probing s) (hCore' : Core s') {pkt : OutgoingPacket}
    (hNew : s'.packetAt 0 = some pkt) (hOld : ∀ j, s'.packetAt (j + 1) = s.packetAt j)
    (hType : pkt.header.type ≠ stState)
    (hMaiden : maiden s'.log = Function.update (maiden s.log) pkt.header.seqNr none)
    (hMtu : s'.mtu = s.mtu) (hVerdict : NoVerdict s s') : Probing s' := by
  have hOther : ∀ j old, s.packetAt j = some old → maiden s'.log old.header.seqNr = maiden s.log old.header.seqNr := by
    intro j old hAt
    rw [hMaiden]
    exact Function.update_of_ne (hCore'.seqNr_ne ((hOld j).trans hAt) hNew (Nat.succ_ne_zero j)) _ _
  refine ⟨fun hOut => ?_, fun hOut => ?_, fun j found hAt => ?_, hVerdict.each h.verdicts⟩
  · rw [hMtu] at hOut ⊢
    obtain ⟨j, old, hAt, hRest⟩ := h.probe hOut
    exact ⟨j + 1, old, (hOld j).trans hAt, hRest⟩
  · rw [hMtu] at hOut ⊢
    obtain ⟨j, old, hAt, hNumber, -⟩ := h.probe hOut
    rw [← hNumber, hOther j old hAt, hNumber]
    exact h.first hOut
  · cases j with
    | zero =>
        cases Option.some.inj (hNew.symm.trans hAt)
        refine ⟨hType, fun _ => ?_⟩
        rw [hMaiden, Function.update_self]
    | succ j =>
        rw [hOld j] at hAt
        rw [hOther j found hAt]
        exact h.queued j found hAt

theorem appended (h : Probing s) (hCore : Core s) (fin : Bool) {flags : Nat} {bytes : List UInt8}
    (hCore' : Core ({ s with finSent := fin }.appendPacket env flags bytes))
    (hCount : s.snd.curWindowPackets ≤ 1023) (hType : flags ≠ stState) :
    Probing ({ s with finSent := fin }.appendPacket env flags bytes) := by
  obtain ⟨pkt, -, hSeq, hFlags, -, -, -, -, -, hView⟩ :=
    Conn.view_appendPacket env flags bytes { s with finSent := fin }
  have hSearch : ({ s with finSent := fin }.appendPacket env flags bytes).search = s.search :=
    Conn.search_appendPacket flags bytes _
  have hGrows : Grows s ({ s with finSent := fin }.appendPacket env flags bytes) :=
    (Conn.clean_appendPacket env flags bytes { s with finSent := fin }).grows
  obtain ⟨hNew, hOld⟩ := hCore.packetAt_enqueued hCount (congrArg View.seqNr hView)
    (congrArg View.curWindowPackets hView) (congrArg View.outbuf hView)
  refine h.enqueued hCore' hNew hOld (hFlags ▸ hType) ?_ (congrArg Search.mtu hSearch)
    (.of_search hGrows hSearch)
  rw [hSeq]
  exact Conn.maiden_appendPacket env flags bytes { s with finSent := fin }

/-- The newest packet is not the probe while it has not been sent. -/
theorem filled (h : Probing s) (hCore : Core s) {pkt : OutgoingPacket} (bytes : List UInt8)
    (hCount : 0 < s.snd.curWindowPackets) (hGet : s.snd.outbuf.get (s.snd.seqNr - 1) = some pkt)
    (hUnsent : pkt.transmissions = 0) : Probing (s.fillPacket env stData pkt bytes) := by
  obtain ⟨header, -, hSeq, hType, hView⟩ := Conn.view_fillPacket env stData pkt bytes s
  have hSearch : (s.fillPacket env stData pkt bytes).search = s.search := Conn.search_fillPacket stData pkt bytes s
  have hMtu : (s.fillPacket env stData pkt bytes).mtu = s.mtu := congrArg Search.mtu hSearch
  have hMaiden := Conn.maiden_fillPacket env stData pkt bytes s
  obtain ⟨hNew, hOld⟩ := hCore.packetAt_filled hCount (congrArg View.seqNr hView)
    (congrArg View.curWindowPackets hView) (congrArg View.outbuf hView)
  have hAt : s.packetAt 0 = some pkt := by
    unfold Conn.packetAt
    rw [if_pos hCount, Nat.cast_zero, sub_zero, hGet]
  refine ⟨fun hOut => ?_, fun hOut => ?_, fun j found hFound => ?_,
    (NoVerdict.of_search (Conn.grows_fillPacket env stData pkt bytes s) hSearch).each h.verdicts⟩
  · rw [hMtu] at hOut ⊢
    obtain ⟨j, old, hThere, hNumber, hSize, hSent⟩ := h.probe hOut
    cases j with
    | zero =>
        cases Option.some.inj (hAt.symm.trans hThere)
        exact absurd hUnsent hSent
    | succ j => exact ⟨j + 1, old, (hOld j).trans hThere, hNumber, hSize, hSent⟩
  · rw [hMtu] at hOut ⊢
    rw [hMaiden]
    exact h.first hOut
  · rw [hMaiden]
    cases j with
    | zero =>
        cases Option.some.inj (hNew.symm.trans hFound)
        refine ⟨?_, fun _ => ?_⟩
        · rw [hType]
          decide
        · rw [hSeq]
          exact (h.queued 0 pkt hAt).2 hUnsent
    | succ j =>
        rw [hOld j] at hFound
        exact h.queued (j + 1) found hFound

/-- A packet other than the probe is acked. -/
theorem acked (h : Probing s) (hCore : Core s) {seq : Int}
    (hIn : u16 (s.snd.seqNr - 1 - seq) < s.snd.curWindowPackets)
    (hProbe : s.mtu.probeSeq ≠ 0 → u16 seq ≠ s.mtu.probeSeq) : Probing (s.ackPacket env seq).2 := by
  have hQueue : QueueShape s.snd.seqNr s.snd.curWindowPackets s.snd.curWindow s.snd.outbuf :=
    hCore.view.queue
  have hSearch : (s.ackPacket env seq).2.search = s.search := Conn.search_ackPacket seq s
  have hVerdict : NoVerdict s (s.ackPacket env seq).2 := .of_search (Conn.grows_ackPacket env seq s) hSearch
  have hMtu : (s.ackPacket env seq).2.mtu = s.mtu := congrArg Search.mtu hSearch
  refine h.thinned (Conn.sheds_ackPacket env seq s).packets (fun hOut j pkt hAt hNumber => ?_) (.of_eq hMtu)
    (Conn.maiden_of_offer (Conn.offer_ackPacket env seq s)) (hVerdict.each h.verdicts)
  rw [hMtu] at hOut
  cases hGet : s.snd.outbuf.get (u16 seq) with
  | none =>
      rw [Conn.ackPacket_none env hGet]
      exact hAt
  | some gone =>
      rw [Conn.ackPacket_some env hGet]
      split_ifs
      · exact hAt
      · have hView := Conn.view_removePacket env (u16 seq) gone s
        obtain ⟨i, hHere, hPut⟩ := hCore.packetAt_put hGet
        have hPackets := hPut (s.removePacket env (u16 seq) gone) none (congrArg View.seqNr hView)
          (congrArg View.curWindowPackets hView) (congrArg View.outbuf hView)
        rw [hPackets j, if_neg]
        · exact hAt
        rintro rfl
        cases Option.some.inj (hHere.symm.trans hAt)
        have hThere := hCore.packetAt_of_dist hIn
        rw [← hQueue.get_u16 seq, hGet] at hThere
        have hOwn := (hCore.packet_ok hThere).seqNr
        have hEmod := u16_emod (s.snd.seqNr - 1 - seq)
        refine hProbe hOut (Eq.trans ?_ hNumber)
        rw [hOwn, u16_eq_iff]
        omega

end Probing

end Utp
