import Utp.Transition.Log

/-! The traffic of a socket: the part of its record that is about packets being queued, sent,
received and delivered, in the order in which it happened. -/
namespace Utp

open Wrapping

/-- The events of the exchange of packets. -/
def Event.isTraffic : Event → Bool
  | .sendto _ _ | .queued _ _ _ | .extended _ | .accepted _ _ _ | .consumed _ _ => true
  | _ => false

def trafficOf (log : List Event) : List Event := log.filter Event.isTraffic

theorem trafficOf_append (log more : List Event) :
    trafficOf (log ++ more) = trafficOf log ++ trafficOf more := List.filter_append ..

/-- The traffic is told in the story, except for the packets that are sent. -/
theorem Event.isMajor_of_traffic {e : Event} (hTraffic : e.isTraffic = true) (hWire : e.wire? = none) :
    e.isMajor = true := by
  cases e <;> simp_all [Event.isTraffic, Event.wire?, Event.isMajor]

/-- A packet on the wire is traffic. -/
theorem Event.isTraffic_of_wire {e : Event} {w : Wire} (h : e.wire? = some w) : ∃ flags, e = .sendto w flags := by
  cases e <;> cases h
  exact ⟨_, rfl⟩

/-- An entry that is picked alone. -/
theorem filter_of_filterMap {select : Event → Option Wire} {more : List Event} {w : Wire}
    (h : more.filterMap select = [w]) : ∃ e, select e = some w ∧ more.filter (fun e => (select e).isSome) = [e] := by
  induction more with
  | nil => cases h
  | cons e more ih =>
      cases hPick : select e with
      | none =>
          rw [List.filterMap_cons_none hPick] at h
          obtain ⟨e', hSelect, hRest⟩ := ih h
          exact ⟨e', hSelect, by rw [List.filter_cons_of_neg (by simp [hPick]), hRest]⟩
      | some w' =>
          rw [List.filterMap_cons_some hPick] at h
          obtain ⟨rfl, hRest⟩ := List.cons.inj h
          have hNone : more.filter (fun e => (select e).isSome) = [] := by
            rw [List.filter_eq_nil_iff]
            intro e' he'
            rw [List.filterMap_eq_nil_iff.1 hRest e' he']
            simp
          exact ⟨e, hPick, by rw [List.filter_cons_of_pos (by simp [hPick]), hNone]⟩

section Record

variable {log more told : List Event}

/-- The story of a longer record tells what was added. -/
theorem story_more (h : (traceOf (log ++ more)).story = (traceOf log).story ++ told) :
    more.filter Event.isMajor = told := by
  have hStory : (log ++ more).filter Event.isMajor = log.filter Event.isMajor ++ told := h
  rw [List.filter_append] at hStory
  exact List.append_cancel_left hStory

/-- So do the packets that were sent. -/
theorem wires_more {wires : List Wire} (h : (traceOf (log ++ more)).wires = (traceOf log).wires ++ wires) :
    more.filterMap Event.wire? = wires := by
  have hWires : (log ++ more).filterMap Event.wire? = log.filterMap Event.wire? ++ wires := h
  rw [List.filterMap_append] at hWires
  exact List.append_cancel_left hWires

/-- Nothing was sent: the traffic is that of the story. -/
theorem trafficOf_told (hStory : (traceOf (log ++ more)).story = (traceOf log).story ++ told)
    (hWires : (traceOf (log ++ more)).wires = (traceOf log).wires) :
    trafficOf (log ++ more) = trafficOf log ++ trafficOf told := by
  have hNone : more.filterMap Event.wire? = [] := wires_more (hWires.trans (List.append_nil _).symm)
  rw [trafficOf_append, ← story_more hStory]
  refine congrArg (trafficOf log ++ ·) ?_
  unfold trafficOf
  rw [List.filter_filter]
  apply List.filter_congr
  intro e he
  have hWire := List.filterMap_eq_nil_iff.1 hNone e he
  cases hTraffic : e.isTraffic with
  | false => rfl
  | true => rw [Event.isMajor_of_traffic hTraffic hWire, Bool.and_self]

/-- One packet was sent, and nothing was told that belongs to the traffic. -/
theorem trafficOf_sent {w : Wire} (hStory : (traceOf (log ++ more)).story = (traceOf log).story ++ told)
    (hAside : trafficOf told = []) (hWires : (traceOf (log ++ more)).wires = (traceOf log).wires ++ [w]) :
    ∃ flags, trafficOf (log ++ more) = trafficOf log ++ [.sendto w flags] := by
  obtain ⟨e, hWire, hAlone⟩ := filter_of_filterMap (wires_more hWires)
  obtain ⟨flags, rfl⟩ := Event.isTraffic_of_wire hWire
  refine ⟨flags, ?_⟩
  rw [trafficOf_append, ← hAlone]
  refine congrArg (trafficOf log ++ ·) (List.filter_congr ?_)
  intro e he
  cases hSome : e.wire? with
  | some w' =>
      obtain ⟨flags', rfl⟩ := Event.isTraffic_of_wire hSome
      rfl
  | none =>
      rw [Option.isSome_none, Bool.eq_false_iff]
      intro hTraffic
      have hTold : e ∈ trafficOf told := by
        rw [← story_more hStory]
        exact List.mem_filter.2 ⟨List.mem_filter.2 ⟨he, Event.isMajor_of_traffic hTraffic hSome⟩, hTraffic⟩
      rw [hAside] at hTold
      cases hTold

end Record

namespace Conn

def traffic (s : Conn) : List Event := trafficOf s.log

variable {s s' : Conn}

/-- When nothing is sent, the traffic that is added can be read off the story. -/
theorem traffic_told (told : List Event) (hGrows : Grows s s')
    (h : s'.trace.story = s.trace.story ++ told) (hWires : s'.trace.wires = s.trace.wires) :
    s'.traffic = s.traffic ++ trafficOf told := by
  obtain ⟨more, hMore⟩ := hGrows
  unfold traffic
  unfold trace at h hWires
  rw [← hMore] at h hWires ⊢
  exact trafficOf_told h hWires

/-- When one packet is sent and nothing else is told, it is all of the traffic. -/
theorem traffic_sent (told : List Event) (w : Wire) (hGrows : Grows s s')
    (h : s'.trace.story = s.trace.story ++ told) (hAside : trafficOf told = [])
    (hWires : s'.trace.wires = s.trace.wires ++ [w]) :
    ∃ flags, s'.traffic = s.traffic ++ [.sendto w flags] := by
  obtain ⟨more, hMore⟩ := hGrows
  unfold traffic
  unfold trace at h hWires
  rw [← hMore] at h hWires ⊢
  exact trafficOf_sent h hAside hWires

/-- A function that leaves no trace makes no traffic. -/
theorem traffic_of_trace (hGrows : Grows s s') (h : s'.trace = s.trace) : s'.traffic = s.traffic := by
  have hTold := traffic_told [] hGrows (by rw [h, List.append_nil]) (by rw [h])
  exact hTold.trans (List.append_nil _)

/-- The search makes none. -/
theorem traffic_of_seeks (hGrows : Grows s s') (h : s.trace.Seeks s'.trace) : s'.traffic = s.traffic := by
  obtain ⟨events, hSeek⟩ := h
  have hTold := traffic_told [] hGrows (by rw [hSeek, List.append_nil]; rfl) (by rw [hSeek]; rfl)
  exact hTold.trans (List.append_nil _)

variable (env : Env)

/-- A queued packet is put on the wire. -/
theorem traffic_sendPacket {v : Int} {pkt : OutgoingPacket} {s : Conn} (h : s.snd.outbuf.get v = some pkt) :
    ∃ w flags, s.DataWire pkt w ∧ (s.sendPacket env v).traffic = s.traffic ++ [.sendto w flags] := by
  obtain ⟨w, events, hWire, hSent⟩ := trace_sendPacket env h
  obtain ⟨flags, hTraffic⟩ := traffic_sent [] w (clean_sendPacket env v s).grows
    (by rw [hSent, List.append_nil]; rfl) rfl (by rw [hSent]; rfl)
  exact ⟨w, flags, hWire, hTraffic⟩

/-- A packet is queued under the next number. -/
theorem traffic_enqueue (pkt : OutgoingPacket) (s : Conn) :
    (s.enqueue pkt).traffic = s.traffic ++ [.queued s.snd.seqNr pkt.header.type pkt.body] :=
  traffic_told [.queued s.snd.seqNr pkt.header.type pkt.body] (clean_enqueue pkt s).grows (by rw [trace_enqueue]; rfl) (by rw [trace_enqueue]; rfl)

theorem traffic_appendPacket (flags : Nat) (bytes : List UInt8) (s : Conn) :
    (s.appendPacket env flags bytes).traffic = s.traffic ++ [.queued s.snd.seqNr flags bytes] :=
  traffic_told [.queued s.snd.seqNr flags bytes] (clean_appendPacket env flags bytes s).grows (by rw [trace_appendPacket]; rfl)
    (by rw [trace_appendPacket]; rfl)

/-- The bytes that are added to the last packet. -/
theorem traffic_fillPacket (flags : Nat) (pkt : OutgoingPacket) (bytes : List UInt8) (s : Conn) :
    (s.fillPacket env flags pkt bytes).traffic = s.traffic ++ [.extended bytes] :=
  traffic_told [.extended bytes] (grows_fillPacket env flags pkt bytes s) (by rw [trace_fillPacket]; rfl)
    (by rw [trace_fillPacket]; rfl)

/-- A packet that is delivered is consumed under the next number of the peer. -/
theorem traffic_deliver (body : List UInt8) (s : Conn) :
    (s.deliver body).traffic = s.traffic ++ [.consumed (u16 (s.rcv.ackNr + 1)) body] := by
  have hTold := traffic_told (s.deliveryStory body) (clean_deliver body s).grows
    (by rw [trace_deliver]) (by rw [trace_deliver])
  rw [hTold]
  unfold deliveryStory
  split_ifs <;> rfl

/-- A packet that had waited is consumed in the same way. -/
theorem traffic_takeReordered (p : IncomingPacket) (s : Conn) :
    (s.takeReordered p).traffic = s.traffic ++ [.consumed (u16 (s.rcv.ackNr + 1)) p.body] := by
  have hTold := traffic_told (s.deliveryStory p.body) (grows_takeReordered p s)
    (by rw [trace_takeReordered]) (by rw [trace_takeReordered])
  rw [hTold]
  unfold deliveryStory
  split_ifs <;> rfl

end Conn

variable {env : Env} {cause : Cause} {s s' : Conn}

/-- Bookkeeping sends at most one packet, an ack. -/
theorem Quiet.traffic (h : Quiet env cause s s') : s'.traffic = s.traffic ∨
    ∃ w flags, s'.traffic = s.traffic ++ [.sendto w flags] ∧ (s.AckWire w ∨
      (s.setAckNr (u16 (s.rcv.ackNr - 1))).AckWire w ∧ s.state.open = true) := by
  rcases h.trace with hSeek | ⟨w, hSent, hWire⟩
  · exact Or.inl (Conn.traffic_of_seeks h.grows hSeek)
  · obtain ⟨flags, hTraffic⟩ := Conn.traffic_sent [] w h.grows
      (by rw [hSent, List.append_nil]; rfl) rfl (by rw [hSent]; rfl)
    exact Or.inr ⟨w, flags, hTraffic, hWire⟩

/-- Acks leave no trace. -/
theorem AckStep.traffic_run {header : PacketFormatV1}
    (h : Relation.ReflTransGen (AckStep env header) s s') : s'.traffic = s.traffic :=
  Conn.traffic_of_trace (AckStep.grows_run h) (AckStep.trace_run h)

/-- A move of the state is no traffic. -/
theorem MoveStory.traffic (h : MoveStory s s') (hGrows : Grows s s') : s'.traffic = s.traffic := by
  have hTold : ∀ told, trafficOf told = [] → s'.trace.story = s.trace.story ++ told →
      s'.trace.wires = s.trace.wires → s'.traffic = s.traffic := by
    intro told hAside hStory hWires
    rw [Conn.traffic_told told hGrows hStory hWires, hAside, List.append_nil]
  cases h with
  | none hTrace => exact Conn.traffic_of_trace hGrows hTrace
  | closing hTrace => exact hTold [_] rfl (by rw [hTrace]; rfl) (by rw [hTrace]; rfl)
  | full hTrace => exact hTold [_] rfl (by rw [hTrace]; rfl) (by rw [hTrace]; rfl)
  | closed hTrace => exact hTold [_] rfl (by rw [hTrace]; rfl) (by rw [hTrace]; rfl)
  | failed dst code hTrace =>
      exact hTold [_, _] rfl (by rw [hTrace]; exact List.append_assoc _ _ _) (by rw [hTrace]; rfl)
  | up e hTrace hBefore hState hEvent =>
      refine hTold [_, e] ?_ (by rw [hTrace]; exact List.append_assoc _ _ _) (by rw [hTrace]; rfl)
      rcases hEvent with rfl | rfl | rfl <;> rfl

theorem Moving.traffic (h : Moving cause s s') : s'.traffic = s.traffic := h.story.traffic h.grows

/-- A packet that a selective ack takes out of the queue. -/
theorem Conn.traffic_sacked (env : Env) (seq : Int) (seqNr probeSeq : Nat) (s : Conn) :
    ((s.ackPacket env seq).2.emit (.sacked seqNr probeSeq)).traffic = s.traffic :=
  Conn.traffic_of_trace ((Conn.grows_ackPacket env seq s).trans (.emit _ _))
    ((Conn.trace_minor _ rfl rfl rfl).trans (Conn.trace_ackPacket env seq s))

/-- A packet that arrives out of order is noted if it is accepted. -/
theorem Conn.traffic_receiveOutOfOrder (seqNr offset : Nat) (body : List UInt8) (s : Conn) :
    (s.receiveOutOfOrder seqNr offset body).traffic = s.traffic ∨
      (s.receiveOutOfOrder seqNr offset body).traffic = s.traffic ++ [.accepted seqNr offset body] := by
  have hGrows := Conn.grows_receiveOutOfOrder seqNr offset body s
  rcases Conn.trace_receiveOutOfOrder seqNr offset body s with hSame | hTold
  · exact Or.inl (Conn.traffic_of_trace hGrows hSame)
  · exact Or.inr (Conn.traffic_told [.accepted seqNr offset body] hGrows (by rw [hTold]; rfl) (by rw [hTold]; rfl))

/-- Reaching the end of the stream is acked. -/
theorem Conn.traffic_reachEof (env : Env) (s : Conn) : s.reachEof env = s ∨
    ∃ w flags, ({ s with rcv.gotFinReached := true } : Conn).AckWire w ∧
      (s.reachEof env).traffic = s.traffic ++ [.sendto w flags] := by
  rcases Conn.ackWire_reachEof env s with hSame | ⟨w, hWire, hTold⟩
  · exact Or.inl hSame
  · have hGrows : Grows s (s.reachEof env) := by
      rcases Conn.reachEof_cases env s with hSame | ⟨-, -, -, -, hClean⟩
      · exact .of_log (congrArg Conn.log hSame)
      · exact hClean.grows
    obtain ⟨flags, hTraffic⟩ := Conn.traffic_sent [.onStateChange .eof] w hGrows
      (by rw [hTold]; rfl) rfl (by rw [hTold]; rfl)
    exact Or.inr ⟨w, flags, hWire, hTraffic⟩

/-- An accepted connection has no traffic yet. -/
theorem Conn.traffic_startAccept (env : Env) (seqNr : Nat) (s : Conn) :
    (s.startAccept env seqNr).traffic = s.traffic := by
  unfold Conn.traffic Conn.startAccept Conn.setState
  exact (trafficOf_append _ _).trans (List.append_nil _)

end Utp
