import Utp.Invariant.Fate
import Utp.Transition.Trace

/-! In-order delivery. The position of a packet in the stream is the number of
packets consumed before it arrives plus its distance from the next expected one. -/
namespace Utp

open Wrapping

namespace Event

def consumed? : Event → Option (Nat × List UInt8)
  | .consumed seqNr bytes => some (seqNr, bytes)
  | _ => none

def read? : Event → Option (List UInt8)
  | .onRead bytes => some bytes
  | _ => none

/-- The `ack_nr` with which the state `CS_CONNECTED` is entered. -/
def entry? : Event → Option Nat
  | .moved _ .connected ackNr => some ackNr
  | _ => none

/-- The packet that reaches the delivery code after `count` others were consumed,
with its position. -/
def offer? (count : Nat) : Event → Option (Nat × Nat × List UInt8)
  | .accepted seqNr offset bytes => some (count + offset, seqNr, bytes)
  | _ => none

/-- The events of the delivery code. -/
def isFlow : Event → Bool
  | .accepted _ _ _ | .consumed _ _ | .onRead _ => true
  | _ => false

/-- An event that is no flow delivers nothing, reads nothing and stores nothing. -/
theorem of_not_flow {e : Event} (h : e.isFlow = false) :
    e.consumed? = none ∧ e.read? = none ∧ ∀ count, e.offer? count = none := by
  cases e <;> simp_all [isFlow, consumed?, read?, offer?]

end Event

/-- The packets consumed so far, with their numbers and payloads. -/
def consumedOf (log : List Event) : List (Nat × List UInt8) := log.filterMap Event.consumed?

/-- What was passed to `on_read`. -/
def readsOf (log : List Event) : List (List UInt8) := log.filterMap Event.read?

/-- The `ack_nr` with which `CS_CONNECTED` was entered for the first time. -/
def entryOf (log : List Event) : Option Nat := log.findSome? Event.entry?

/-- The packets that reached the delivery code, oldest first, by position. -/
def offersFrom : Nat → List Event → List (Nat × Nat × List UInt8)
  | _, [] => []
  | count, e :: log =>
      (e.offer? count).toList ++ offersFrom (count + (e.consumed?).toList.length) log

def offersOf (log : List Event) : List (Nat × Nat × List UInt8) := offersFrom 0 log

theorem consumedOf_append (log log' : List Event) :
    consumedOf (log ++ log') = consumedOf log ++ consumedOf log' := List.filterMap_append

theorem readsOf_append (log log' : List Event) : readsOf (log ++ log') = readsOf log ++ readsOf log' :=
  List.filterMap_append

/-- A connection is entered once: the first entry counts. -/
theorem entryOf_append (log log' : List Event) :
    entryOf (log ++ log') = (entryOf log).or (entryOf log') := List.findSome?_append

/-- A later packet is offered for a later place. -/
theorem offersFrom_append (count : Nat) (log log' : List Event) :
    offersFrom count (log ++ log') =
      offersFrom count log ++ offersFrom (count + (consumedOf log).length) log' := by
  induction log generalizing count with
  | nil => rfl
  | cons e log ih =>
      have hLength : (consumedOf (e :: log)).length =
          e.consumed?.toList.length + (consumedOf log).length := by
        unfold consumedOf
        cases hEvent : e.consumed? <;> simp [hEvent]
        omega
      simp only [List.cons_append, offersFrom, ih, hLength, List.append_assoc, Nat.add_assoc]

theorem offersOf_append (log log' : List Event) :
    offersOf (log ++ log') = offersOf log ++ offersFrom (consumedOf log).length log' := by
  unfold offersOf
  rw [offersFrom_append, Nat.zero_add]

/-- By induction on the events. -/
theorem offersFrom_of_quiet {events : List Event} (h : ∀ e ∈ events, e.isFlow = false) (count : Nat) :
    offersFrom count events = [] := by
  induction events generalizing count with
  | nil => rfl
  | cons e events ih =>
      obtain ⟨-, -, hOffer⟩ := Event.of_not_flow (h e (List.mem_cons_self ..))
      have hRest := ih (fun e' he' => h e' (List.mem_cons_of_mem e he'))
      rw [offersFrom, hOffer, hRest]
      rfl

/-- None of them delivers a packet. -/
theorem consumedOf_of_quiet {events : List Event} (h : ∀ e ∈ events, e.isFlow = false) :
    consumedOf events = [] :=
  List.filterMap_eq_nil_iff.2 fun e he => (Event.of_not_flow (h e he)).1

/-- None of them passes bytes on. -/
theorem readsOf_of_quiet {events : List Event} (h : ∀ e ∈ events, e.isFlow = false) :
    readsOf events = [] :=
  List.filterMap_eq_nil_iff.2 fun e he => (Event.of_not_flow (h e he)).2.1

/-- The delivery events are all part of the story. -/
theorem consumedOf_story (log : List Event) : consumedOf (traceOf log).story = consumedOf log := by
  unfold consumedOf traceOf
  rw [List.filterMap_filter]
  congr 1
  funext e
  cases e <;> rfl

/-- The bytes that are passed on are in the story. -/
theorem readsOf_story (log : List Event) : readsOf (traceOf log).story = readsOf log := by
  unfold readsOf traceOf
  rw [List.filterMap_filter]
  congr 1
  funext e
  cases e <;> rfl

/-- So is the entry of the connection. -/
theorem entryOf_story (log : List Event) : entryOf (traceOf log).story = entryOf log := by
  unfold entryOf traceOf
  induction log with
  | nil => rfl
  | cons e log ih =>
      by_cases hMajor : e.isMajor = true
      · rw [List.filter_cons_of_pos hMajor, List.findSome?_cons, List.findSome?_cons, ih]
      · rw [List.filter_cons_of_neg hMajor, ih, List.findSome?_cons]
        cases e <;> first | rfl | exact absurd rfl hMajor

/-- And so are the packets that are offered. -/
theorem offersFrom_story (count : Nat) (log : List Event) :
    offersFrom count (traceOf log).story = offersFrom count log := by
  unfold traceOf
  induction log generalizing count with
  | nil => rfl
  | cons e log ih =>
      by_cases hMajor : e.isMajor = true
      · rw [List.filter_cons_of_pos hMajor, offersFrom, offersFrom, ih]
      · rw [List.filter_cons_of_neg hMajor, ih, offersFrom]
        cases e <;> first | rfl | exact absurd rfl hMajor

theorem offersOf_story (log : List Event) : offersOf (traceOf log).story = offersOf log :=
  offersFrom_story 0 log

/-- What a stored packet is offered as. -/
def IncomingPacket.offer (p : IncomingPacket) : Nat × List UInt8 := (p.seqNr, p.body)

/-- The nonempty payloads among the consumed packets. -/
def payloadsOf (log : List Event) : List (List UInt8) :=
  ((consumedOf log).map Prod.snd).filter fun body => !body.isEmpty

/-- The receiving side of a socket that entered `CS_CONNECTED` with `start`, where
`next` is the packet that has reached the next position. -/
structure FlowAt (next : Option (Nat × List UInt8)) (start : Nat) (story : List Event) (s : Conn) :
    Prop where
  ackNr : s.rcv.ackNr = u16 (start + (consumedOf story).length)
  numbered : ∀ (i seqNr : Nat) (body : List UInt8), (consumedOf story)[i]? = some (seqNr, body) →
    seqNr = u16 (start + 1 + i)
  offered : ∀ x ∈ offersOf story, x.2.1 = u16 (start + 1 + x.1)
  payload : s.rcv.gotFinReached = false → ∀ i < (consumedOf story).length,
    (offersOf story).lookup i = (consumedOf story)[i]?
  next_eq : s.rcv.gotFinReached = false → (offersOf story).lookup (consumedOf story).length = next
  waiting : s.rcv.gotFinReached = false → ∀ j, 0 < j →
    (offersOf story).lookup ((consumedOf story).length + j) =
      if j < s.rcv.inbuf.size then (s.rcv.inbuf.get (s.rcv.ackNr + 1 + j)).map IncomingPacket.offer
      else none
  reads : ∃ rest, payloadsOf story = readsOf story ++ rest ∧ (s.rcv.readShutdown = false → rest = [])

/-- The next packet is waiting in the reorder buffer, or missing. -/
def Flow (start : Nat) (story : List Event) (s : Conn) : Prop :=
  FlowAt ((s.rcv.inbuf.get (s.rcv.ackNr + 1)).map IncomingPacket.offer) start story s

/-- Nothing is delivered before the connection is up, and then it flows. -/
def Delivery (s : Conn) : Prop :=
  (entryOf s.trace.story = none ∧ s.state.open = false ∧ consumedOf s.trace.story = [] ∧
    offersOf s.trace.story = [] ∧ readsOf s.trace.story = []) ∨
  ∃ start, entryOf s.trace.story = some start ∧ 4 ≤ s.state.rank ∧ Flow start s.trace.story s

variable {start : Nat} {story : List Event} {s s' : Conn}

/-- Events that are none of the delivery code leave the flow alone. -/
theorem Flow.quiet (h : Flow start story s) (events : List Event) (hQuiet : ∀ e ∈ events, e.isFlow = false)
    (hRecv : s'.recvView = s.recvView)
    (hShut : s'.rcv.readShutdown = false → s.rcv.readShutdown = false) :
    Flow start (story ++ events) s' := by
  have hAck : s'.rcv.ackNr = s.rcv.ackNr := congrArg RecvView.ackNr hRecv
  have hBuf : s'.rcv.inbuf = s.rcv.inbuf := congrArg RecvView.inbuf hRecv
  have hFin : s'.rcv.gotFinReached = s.rcv.gotFinReached := congrArg RecvView.gotFinReached hRecv
  have hConsumed : consumedOf (story ++ events) = consumedOf story := by
    rw [consumedOf_append, consumedOf_of_quiet hQuiet, List.append_nil]
  have hOffers : offersOf (story ++ events) = offersOf story := by
    rw [offersOf_append, offersFrom_of_quiet hQuiet, List.append_nil]
  have hReads : readsOf (story ++ events) = readsOf story := by
    rw [readsOf_append, readsOf_of_quiet hQuiet, List.append_nil]
  have hPayloads : payloadsOf (story ++ events) = payloadsOf story := by
    unfold payloadsOf
    rw [hConsumed]
  unfold Flow at h ⊢
  obtain ⟨rest, hRest, hAll⟩ := h.reads
  constructor
  · rw [hConsumed, hAck]
    exact h.ackNr
  · rw [hConsumed]
    exact h.numbered
  · rw [hOffers]
    exact h.offered
  · rw [hConsumed, hOffers, hFin]
    exact h.payload
  · rw [hConsumed, hOffers, hFin, hAck, hBuf]
    exact h.next_eq
  · rw [hConsumed, hOffers, hFin, hAck, hBuf]
    exact h.waiting
  · rw [hPayloads, hReads]
    exact ⟨rest, hRest, fun hOpen => hAll (hShut hOpen)⟩

/-- A packet is consumed: the one at the next position is delivered and its slot is free. -/
theorem FlowAt.consume {body : List UInt8}
    (h : FlowAt (some (u16 (s.rcv.ackNr + 1), body)) start story s)
    (hBounds : ReorderBounds s.rcv.ackNr s.rcv.inbuf) (hAck : s'.rcv.ackNr = u16 (s.rcv.ackNr + 1))
    (hSize : s'.rcv.inbuf.size = s.rcv.inbuf.size)
    (hFin : s'.rcv.gotFinReached = s.rcv.gotFinReached)
    (hShut : s'.rcv.readShutdown = s.rcv.readShutdown)
    (hGet : s.rcv.gotFinReached = false → ∀ v : Int, s'.rcv.inbuf.get v =
      if (s.rcv.inbuf.size : Int) ∣ v - (s.rcv.ackNr + 1) then none else s.rcv.inbuf.get v) :
    Flow start (story ++ s.deliveryStory body) s' := by
  have hConsumed : consumedOf (story ++ s.deliveryStory body) =
      consumedOf story ++ [(u16 (s.rcv.ackNr + 1), body)] := by
    rw [consumedOf_append]
    unfold Conn.deliveryStory
    split_ifs <;> rfl
  have hOffers : offersOf (story ++ s.deliveryStory body) = offersOf story := by
    rw [offersOf_append]
    unfold Conn.deliveryStory
    split_ifs <;> exact List.append_nil _
  have hCount : (consumedOf story ++ [(u16 (s.rcv.ackNr + 1), body)]).length =
      (consumedOf story).length + 1 := List.length_append
  have hSizeGe := hBounds.size_ge
  have hSlot : s.rcv.gotFinReached = false → ∀ j : Nat, j < s.rcv.inbuf.size →
      s'.rcv.inbuf.get (s'.rcv.ackNr + 1 + j) =
        if j + 1 < s.rcv.inbuf.size then s.rcv.inbuf.get (s.rcv.ackNr + 1 + (j + 1 : Nat)) else none := by
    intro hOpen j hj
    have hSame : (s.rcv.inbuf.size : Int) ∣
        (s'.rcv.ackNr + 1 + j) - (s.rcv.ackNr + 1 + (j + 1 : Nat)) := by
      apply hBounds.dvd_of_seq
      have hEmod := u16_emod (s.rcv.ackNr + 1)
      rw [hAck]
      push_cast
      omega
    rw [s'.rcv.inbuf.get_congr (hSize.symm ▸ hSame), hGet hOpen]
    have hShift : ((s.rcv.ackNr : Int) + 1 + (j + 1 : Nat)) - (s.rcv.ackNr + 1) = ((j + 1 : Nat) : Int) := by
      ring
    rw [hShift]
    by_cases hLast : j + 1 < s.rcv.inbuf.size
    · rw [if_pos hLast, if_neg]
      intro hDvd
      have hLe := Nat.le_of_dvd (Nat.succ_pos j) (Int.natCast_dvd_natCast.1 hDvd)
      omega
    · rw [if_neg hLast, if_pos]
      have hEq : j + 1 = s.rcv.inbuf.size := by omega
      rw [hEq]
  have hWaiting : s.rcv.gotFinReached = false → ∀ j : Nat,
      (offersOf story).lookup ((consumedOf story).length + 1 + j) =
        if j < s.rcv.inbuf.size then
          (s'.rcv.inbuf.get (s'.rcv.ackNr + 1 + j)).map IncomingPacket.offer else none := by
    intro hOpen j
    rw [Nat.add_assoc, Nat.add_comm 1 j, h.waiting hOpen (j + 1) (Nat.succ_pos j)]
    by_cases hj : j < s.rcv.inbuf.size
    · rw [if_pos hj, hSlot hOpen j hj]
      split_ifs <;> rfl
    · rw [if_neg hj, if_neg (by omega)]
  unfold Flow
  constructor
  · rw [hConsumed, hCount, hAck, h.ackNr, u16_add_u16]
    congr 1
  · intro i seqNr payload hAt
    rw [hConsumed] at hAt
    by_cases hOld : i < (consumedOf story).length
    · rw [List.getElem?_append_left hOld] at hAt
      exact h.numbered i seqNr payload hAt
    · have hLt := (List.getElem?_eq_some_iff.1 hAt).1
      have hIndex : i = (consumedOf story).length := by omega
      subst hIndex
      rw [List.getElem?_append_right le_rfl, Nat.sub_self] at hAt
      cases hAt
      rw [h.ackNr, u16_add_u16]
      congr 1
      ring
  · rw [hOffers]
    exact h.offered
  · intro hOpen i hi
    rw [hFin] at hOpen
    rw [hConsumed, hCount] at hi
    rw [hOffers, hConsumed]
    by_cases hOld : i < (consumedOf story).length
    · rw [List.getElem?_append_left hOld]
      exact h.payload hOpen i hOld
    · have hIndex : i = (consumedOf story).length := by omega
      subst hIndex
      rw [List.getElem?_append_right le_rfl, Nat.sub_self, h.next_eq hOpen]
      rfl
  · intro hOpen
    rw [hFin] at hOpen
    have hZero := hWaiting hOpen 0
    rw [if_pos (by omega), Nat.add_zero, Nat.cast_zero, add_zero] at hZero
    rw [hOffers, hConsumed, hCount]
    exact hZero
  · intro hOpen j hj
    rw [hFin] at hOpen
    rw [hOffers, hConsumed, hCount, hSize]
    exact hWaiting hOpen j
  · obtain ⟨rest, hRest, hAll⟩ := h.reads
    have hPayloads : payloadsOf (story ++ s.deliveryStory body) =
        payloadsOf story ++ if body.isEmpty then [] else [body] := by
      unfold payloadsOf
      rw [hConsumed, List.map_append, List.filter_append]
      cases body <;> rfl
    have hReads : readsOf (story ++ s.deliveryStory body) =
        readsOf story ++ if !body.isEmpty && !s.rcv.readShutdown then [body] else [] := by
      rw [readsOf_append]
      unfold Conn.deliveryStory
      split_ifs <;> rfl
    rw [hPayloads, hReads, hShut]
    cases hClosed : s.rcv.readShutdown with
    | true => exact ⟨rest ++ if body.isEmpty then [] else [body], by simp [hRest], nofun⟩
    | false =>
        rw [hAll hClosed, List.append_nil] at hRest
        refine ⟨[], ?_, fun _ => rfl⟩
        rw [hRest]
        cases body <;> simp

theorem lookup_offer {l : List (Nat × Nat × List UInt8)} (i j : Nat) (x : Nat × List UInt8) :
    (l ++ [(i, x)]).lookup j = (l.lookup j).or (if j = i then some x else none) := by
  rw [List.lookup_append]
  by_cases hIndex : j = i
  · subst hIndex
    simp
  · have hNe : (j == i) = false := beq_false_of_ne hIndex
    simp [List.lookup_cons, hNe, hIndex]

/-- The flow does not care about the number of waiting packets, or about a FIN. -/
theorem Flow.congr {s' : Conn} (h : Flow start story s) (hAck : s'.rcv.ackNr = s.rcv.ackNr)
    (hBuf : s'.rcv.inbuf = s.rcv.inbuf) (hShut : s'.rcv.readShutdown = s.rcv.readShutdown)
    (hFin : s'.rcv.gotFinReached = false → s.rcv.gotFinReached = false) : Flow start story s' := by
  unfold Flow at h ⊢
  rw [hBuf, hAck]
  refine ⟨hAck ▸ h.ackNr, h.numbered, h.offered, fun hOpen => h.payload (hFin hOpen),
    fun hOpen => h.next_eq (hFin hOpen), fun hOpen => ?_, hShut ▸ h.reads⟩
  rw [hBuf, hAck]
  exact h.waiting (hFin hOpen)

/-- The delivery of the next packet, in order or from the reorder buffer. -/
theorem Flow.drain {env : Env} {r : Received} (hStep : DrainStep env r s s') (hLoose : LooseOk s.view)
    (h : Flow start s.trace.story s) : Flow start s'.trace.story s' := by
  have hBounds : ReorderBounds s.rcv.ackNr s.rcv.inbuf := hLoose.bounds
  cases hStep with
  | inOrder hOpen hType hOffset hDone =>
      have hSeq : r.d.header.seqNr = u16 (s.rcv.ackNr + 1) := by
        have hDvd := Conn.seqOffset_dvd r.d.header s
        have hLt : r.d.header.seqNr < 65536 := Datagram.read16_lt _ _
        rw [hOffset] at hDvd
        rw [← u16_of_lt hLt, u16_eq_iff]
        push_cast at hDvd
        simpa using hDvd
      have hMissing : s.rcv.gotFinReached = false → s.rcv.inbuf.get (s.rcv.ackNr + 1) = none := by
        intro hFin
        simpa [Conn.drainDone, hFin] using hDone
      have hStory : ((s.emit (.accepted r.d.header.seqNr 0 (r.d.drop r.data))).trace.story) =
          s.trace.story ++ [.accepted r.d.header.seqNr 0 (r.d.drop r.data)] :=
        congrArg Trace.story (Conn.trace_major s rfl rfl rfl)
      have hOffers : offersOf (s.trace.story ++ [.accepted r.d.header.seqNr 0 (r.d.drop r.data)]) =
          offersOf s.trace.story ++ [((consumedOf s.trace.story).length,
            u16 (s.rcv.ackNr + 1), r.d.drop r.data)] := by
        rw [offersOf_append, hSeq]
        rfl
      have hConsumed : consumedOf (s.trace.story ++ [.accepted r.d.header.seqNr 0 (r.d.drop r.data)]) =
          consumedOf s.trace.story := (consumedOf_append _ _).trans (List.append_nil _)
      have hOffered : FlowAt (some (u16 (s.rcv.ackNr + 1), r.d.drop r.data)) start
          (s.trace.story ++ [.accepted r.d.header.seqNr 0 (r.d.drop r.data)]) s := by
        unfold Flow at h
        constructor
        · rw [hConsumed]
          exact h.ackNr
        · rw [hConsumed]
          exact h.numbered
        · intro x hx
          rw [hOffers] at hx
          rcases List.mem_append.1 hx with hOld | hNew
          · exact h.offered x hOld
          · rw [List.mem_singleton.1 hNew]
            change u16 (s.rcv.ackNr + 1) = u16 (start + 1 + (consumedOf s.trace.story).length)
            rw [h.ackNr, u16_add_u16]
            congr 1
            ring
        · intro hFin i hi
          rw [hConsumed] at hi ⊢
          rw [hOffers, lookup_offer, h.payload hFin i hi, if_neg (Nat.ne_of_lt hi), Option.or_none]
        · intro hFin
          rw [hConsumed, hOffers, lookup_offer, h.next_eq hFin, hMissing hFin, if_pos rfl]
          rfl
        · intro hFin j hj
          have hPast : (consumedOf s.trace.story).length + j ≠ (consumedOf s.trace.story).length := by
            omega
          rw [hConsumed, hOffers, lookup_offer, h.waiting hFin j hj, if_neg hPast, Option.or_none]
        · obtain ⟨rest, hRest, hAll⟩ := h.reads
          have hReads : readsOf (s.trace.story ++ [.accepted r.d.header.seqNr 0 (r.d.drop r.data)]) =
              readsOf s.trace.story := (readsOf_append _ _).trans (List.append_nil _)
          unfold payloadsOf at hRest ⊢
          rw [hConsumed, hReads]
          exact ⟨rest, hRest, hAll⟩
      have hView := Conn.view_deliver (r.d.drop r.data)
        (s.emit (.accepted r.d.header.seqNr 0 (r.d.drop r.data)))
      have hBuf : ((s.emit (.accepted r.d.header.seqNr 0 (r.d.drop r.data))).deliver
          (r.d.drop r.data)).rcv.inbuf = s.rcv.inbuf := congrArg View.inbuf hView
      have hFlow : Flow start (s.trace.story ++ [.accepted r.d.header.seqNr 0 (r.d.drop r.data)] ++
          s.deliveryStory (r.d.drop r.data))
          ((s.emit (.accepted r.d.header.seqNr 0 (r.d.drop r.data))).deliver (r.d.drop r.data)) := by
        refine hOffered.consume hBounds (congrArg View.ackNr hView) (by rw [hBuf])
          (congrArg View.gotFinReached hView)
          (congrArg Foreground.readShutdown (Conn.foreground_deliver _ _)) ?_
        intro hFin v
        rw [hBuf]
        split_ifs with hDvd
        · exact (s.rcv.inbuf.get_congr hDvd).trans (hMissing hFin)
        · rfl
      rw [Conn.trace_deliver]
      rw [hStory]
      exact hFlow
  | eof =>
      rcases Conn.reachEof_cases env s with hSame | ⟨-, -, -, hView, -⟩
      · rw [hSame]
        exact h
      · rcases Conn.trace_reachEof env s with hSame | ⟨w, hTold⟩
        · rw [hSame]
          exact h
        · have hStory : (s.reachEof env).trace.story = s.trace.story ++ [.onStateChange .eof] := by
            rw [hTold]
            rfl
          have hTold' : Flow start (s.trace.story ++ [.onStateChange .eof]) s :=
            h.quiet _ (fun e he => by rw [List.mem_singleton.1 he]; rfl) rfl id
          rw [hStory]
          exact hTold'.congr (congrArg View.ackNr hView) (congrArg View.inbuf hView)
            (congrArg Foreground.readShutdown (Conn.foreground_reachEof env s))
            (fun hOpen => absurd ((congrArg View.gotFinReached hView).symm.trans hOpen) Bool.false_ne_true.symm)
  | take p hOpen hCount hGet =>
      have hNumber : s.rcv.gotFinReached = false → p.seqNr = u16 (s.rcv.ackNr + 1) := by
        intro hFin
        have hStored := (hLoose.reorder hFin).stored 0
          (lt_of_lt_of_le (by decide) hBounds.size_ge) p
        rw [Nat.cast_zero, add_zero] at hStored
        exact (hStored hGet).2.2
      have hNext : FlowAt (some (u16 (s.rcv.ackNr + 1), p.body)) start s.trace.story s := by
        unfold Flow at h
        refine ⟨h.ackNr, h.numbered, h.offered, h.payload, fun hFin => ?_, h.waiting, h.reads⟩
        rw [h.next_eq hFin, hGet, ← hNumber hFin]
        rfl
      have hView := Conn.view_takeReordered p s
      have hBuf : (s.takeReordered p).rcv.inbuf = s.rcv.inbuf.put (s.rcv.ackNr + 1) none :=
        congrArg View.inbuf hView
      rw [Conn.trace_takeReordered]
      refine hNext.consume hBounds (congrArg View.ackNr hView) ?_ (congrArg View.gotFinReached hView)
        (congrArg Foreground.readShutdown (Conn.foreground_takeReordered p s)) ?_
      · rw [hBuf]
        exact SizableCircularBuffer.size_put _ _ _
      · intro _ v
        have hFlip : ((s.rcv.inbuf.size : Int) ∣ s.rcv.ackNr + 1 - v) ↔
            ((s.rcv.inbuf.size : Int) ∣ v - (s.rcv.ackNr + 1)) := by
          rw [← Int.dvd_neg, neg_sub]
        rw [hBuf, SizableCircularBuffer.get_put_dvd]
        exact if_congr hFlip rfl rfl

/-- By induction on the turns of the drain loop. -/
theorem Flow.drain_run {env : Env} {r : Received}
    (hRun : Relation.ReflTransGen (DrainStep env r) s s') (hLoose : LooseOk s.view)
    (h : Flow start s.trace.story s) : Flow start s'.trace.story s' := by
  induction hRun with
  | refl => exact h
  | tail hPrior hStep ih => exact ih.drain hStep (DrainStep.loose_run hPrior hLoose).1

/-- Growing the reorder buffer keeps what waits in it. -/
theorem Flow.grow {seqNr offset : Nat} (h : Flow start story s) (hCore : Core s)
    (hLimit : offset ≤ 1023)
    (hSeq : (65536 : Int) ∣ (seqNr : Int) - (s.rcv.ackNr + 1 + offset)) :
    Flow start story (s.growInbuf seqNr offset) := by
  have hItem : (65536 : Int) ∣ ((seqNr : Int) + 1) - (offset + 1 : Nat) - (s.rcv.ackNr + 1) := by
    push_cast
    omega
  have hBounds : ReorderBounds s.rcv.ackNr s.rcv.inbuf := hCore.view.bounds
  have hGrow := s.rcv.inbuf.le_size_ensureSize (seqNr + 1) (offset + 1)
  have hRead : ∀ j : Nat, j < (s.growInbuf seqNr offset).rcv.inbuf.size →
      (s.growInbuf seqNr offset).rcv.inbuf.get (s.rcv.ackNr + 1 + j) =
        if j < s.rcv.inbuf.size then s.rcv.inbuf.get (s.rcv.ackNr + 1 + j) else none :=
    fun j hj => hBounds.get_ensureSize (by omega) hItem hj
  have hOld : 0 < s.rcv.inbuf.size := lt_of_lt_of_le (by decide) hBounds.size_ge
  have hZero := hRead 0 (lt_of_lt_of_le hOld hGrow)
  rw [if_pos hOld, Nat.cast_zero, add_zero] at hZero
  unfold Flow at h ⊢
  refine ⟨h.ackNr, h.numbered, h.offered, h.payload, fun hFin => ?_, fun hFin j hj => ?_, h.reads⟩
  · refine (h.next_eq hFin).trans ?_
    exact congrArg (Option.map IncomingPacket.offer) hZero.symm
  · rw [h.waiting hFin j hj]
    by_cases hNew : j < (s.growInbuf seqNr offset).rcv.inbuf.size
    · rw [if_pos hNew]
      change _ = ((s.growInbuf seqNr offset).rcv.inbuf.get (s.rcv.ackNr + 1 + j)).map _
      rw [hRead j hNew]
      split_ifs <;> rfl
    · rw [if_neg hNew, if_neg]
      intro hLow
      exact hNew (lt_of_lt_of_le hLow hGrow)

/-- A packet reaches a later position. It is remembered, unless one was before. -/
theorem Flow.offer {seqNr offset : Nat} {body : List UInt8} (h : Flow start story s)
    (hPos : offset ≠ 0) (hNumber : seqNr = u16 (s.rcv.ackNr + 1 + offset))
    (hRoom : offset < s.rcv.inbuf.size) (hAck : s'.rcv.ackNr = s.rcv.ackNr)
    (hSize : s'.rcv.inbuf.size = s.rcv.inbuf.size)
    (hFin : s'.rcv.gotFinReached = s.rcv.gotFinReached)
    (hShut : s'.rcv.readShutdown = s.rcv.readShutdown)
    (hGet : ∀ j < s.rcv.inbuf.size, s'.rcv.inbuf.get (s.rcv.ackNr + 1 + j) =
      (s.rcv.inbuf.get (s.rcv.ackNr + 1 + j)).or (if j = offset then some ⟨seqNr, body⟩ else none)) :
    Flow start (story ++ [.accepted seqNr offset body]) s' := by
  have hOffers : offersOf (story ++ [.accepted seqNr offset body]) =
      offersOf story ++ [((consumedOf story).length + offset, seqNr, body)] := by
    rw [offersOf_append]
    rfl
  have hConsumed : consumedOf (story ++ [.accepted seqNr offset body]) = consumedOf story :=
    (consumedOf_append _ _).trans (List.append_nil _)
  have hReads : readsOf (story ++ [.accepted seqNr offset body]) = readsOf story :=
    (readsOf_append _ _).trans (List.append_nil _)
  have hZero : s'.rcv.inbuf.get (s.rcv.ackNr + 1) = s.rcv.inbuf.get (s.rcv.ackNr + 1) := by
    have hFirst := hGet 0 (by omega)
    rw [if_neg (Ne.symm hPos), Option.or_none, Nat.cast_zero, add_zero] at hFirst
    exact hFirst
  unfold Flow at h ⊢
  constructor
  · rw [hConsumed, hAck]
    exact h.ackNr
  · rw [hConsumed]
    exact h.numbered
  · intro x hx
    rw [hOffers] at hx
    rcases List.mem_append.1 hx with hOld | hNew
    · exact h.offered x hOld
    · rw [List.mem_singleton.1 hNew]
      change seqNr = _
      rw [hNumber, h.ackNr, add_assoc, u16_add_u16]
      congr 1
      push_cast
      ring
  · intro hOpen i hi
    rw [hConsumed] at hi ⊢
    rw [hOffers, lookup_offer, h.payload (hFin ▸ hOpen) i hi, if_neg (by omega), Option.or_none]
  · intro hOpen
    have hLater : (consumedOf story).length ≠ (consumedOf story).length + offset := by omega
    rw [hConsumed, hOffers, lookup_offer, h.next_eq (hFin ▸ hOpen), if_neg hLater, Option.or_none,
      hAck, hZero]
  · intro hOpen j hj
    rw [hConsumed, hOffers, lookup_offer, h.waiting (hFin ▸ hOpen) j hj, hSize, hAck]
    by_cases hLt : j < s.rcv.inbuf.size
    · rw [if_pos hLt, if_pos hLt, hGet j hLt]
      by_cases hAt : j = offset
      · subst hAt
        rw [if_pos rfl, if_pos rfl]
        cases s.rcv.inbuf.get (s.rcv.ackNr + 1 + j) <;> rfl
      · have hOther : (consumedOf story).length + j ≠ (consumedOf story).length + offset := by omega
        rw [if_neg hAt, if_neg hOther, Option.or_none, Option.or_none]
    · have hOther : (consumedOf story).length + j ≠ (consumedOf story).length + offset := by omega
      rw [if_neg hLt, if_neg hLt, if_neg hOther]
      rfl
  · unfold payloadsOf
    rw [hConsumed, hReads, hShut]
    exact h.reads

/-- A packet that is not the next one is remembered, unless it was before. -/
theorem Flow.outOfOrder {r : Received} (body : List UInt8) (h : Flow start s.trace.story s)
    (hCore : Core s) (hOffset : s.seqOffset r.d.header ≠ 0) :
    Flow start (s.receiveOutOfOrder r.d.header.seqNr (s.seqOffset r.d.header) body).trace.story
      (s.receiveOutOfOrder r.d.header.seqNr (s.seqOffset r.d.header) body) := by
  have hSeq := Conn.seqOffset_dvd r.d.header s
  unfold Conn.receiveOutOfOrder
  split_ifs with hPast hFar
  · exact h
  · exact h
  have hLimit : s.seqOffset r.d.header ≤ 1023 := Nat.le_of_not_lt hFar
  have hRoom := s.rcv.inbuf.lt_size_ensureSize (r.d.header.seqNr + 1) (s.seqOffset r.d.header + 1)
  have hGrown : Core (s.growInbuf r.d.header.seqNr (s.seqOffset r.d.header)) :=
    hCore.growInbuf hLimit hSeq
  have hFlow := h.grow hCore hLimit hSeq
  have hSame : (s.growInbuf r.d.header.seqNr (s.seqOffset r.d.header)).rcv.ackNr = s.rcv.ackNr := rfl
  have hStory : ((s.growInbuf r.d.header.seqNr (s.seqOffset r.d.header)).emit
      (.accepted r.d.header.seqNr (s.seqOffset r.d.header) body)).trace.story =
      s.trace.story ++ [.accepted r.d.header.seqNr (s.seqOffset r.d.header) body] :=
    congrArg Trace.story (Conn.trace_major (s.growInbuf _ _) rfl rfl rfl)
  change s.seqOffset r.d.header + 1 <
    (s.growInbuf r.d.header.seqNr (s.seqOffset r.d.header)).rcv.inbuf.size at hRoom
  rw [← hSame] at hSeq
  generalize s.growInbuf r.d.header.seqNr (s.seqOffset r.d.header) = t at hRoom hGrown hFlow hStory hSeq ⊢
  generalize s.seqOffset r.d.header = offset at *
  have hTold : Core (t.emit (.accepted r.d.header.seqNr offset body)) :=
    hGrown.of_view rfl (Clean.emit _ rfl)
  have hBounds : ReorderBounds t.rcv.ackNr t.rcv.inbuf := hGrown.view.bounds
  have hLt : offset < t.rcv.inbuf.size := by omega
  have hNumber : r.d.header.seqNr = u16 (t.rcv.ackNr + 1 + offset) := by
    have hSmall : r.d.header.seqNr < 65536 := Datagram.read16_lt _ _
    rwa [← u16_of_lt hSmall, u16_eq_iff]
  have hPlace : t.rcv.inbuf.get r.d.header.seqNr = t.rcv.inbuf.get (t.rcv.ackNr + 1 + offset) :=
    t.rcv.inbuf.get_congr (hBounds.dvd_of_seq hSeq)
  dsimp only
  split
  · rename_i hTaken
    change (t.rcv.inbuf.get r.d.header.seqNr).isSome = true at hTaken
    rw [hPlace] at hTaken
    rw [hStory]
    refine hFlow.offer hOffset hNumber hLt rfl rfl rfl rfl fun j _ => ?_
    by_cases hAt : j = offset
    · subst hAt
      obtain ⟨p, hp⟩ := Option.isSome_iff_exists.1 hTaken
      change t.rcv.inbuf.get _ = _
      rw [hp]
      rfl
    · rw [if_neg hAt, Option.or_none]
      rfl
  · rename_i hFree
    change ¬(t.rcv.inbuf.get r.d.header.seqNr).isSome = true at hFree
    have hNone := Option.not_isSome_iff_eq_none.1 hFree
    have hMask : offset < t.rcv.inbuf.mask := by
      unfold SizableCircularBuffer.size at hRoom
      omega
    rw [hTold.storeReordered_eq body hOffset hMask hSeq hNone]
    have hScheduled : (((t.emit (.accepted r.d.header.seqNr offset body)).insertReordered
        ⟨r.d.header.seqNr, body⟩).scheduleAck).trace.story =
        s.trace.story ++ [.accepted r.d.header.seqNr offset body] :=
      (congrArg Trace.story (Conn.trace_minor _ rfl rfl rfl)).trans hStory
    rw [hScheduled]
    refine hFlow.offer hOffset hNumber hLt rfl (SizableCircularBuffer.size_put _ _ _) rfl rfl fun j hj => ?_
    change (t.rcv.inbuf.put r.d.header.seqNr (some ⟨r.d.header.seqNr, body⟩)).get
      (t.rcv.ackNr + 1 + j) = _
    rw [SizableCircularBuffer.get_put_dvd]
    by_cases hAt : j = offset
    · subst hAt
      rw [if_pos (hBounds.dvd_of_seq hSeq), if_pos rfl, ← hPlace, hNone]
      rfl
    · rw [if_neg hAt, Option.or_none, if_neg]
      intro hDvd
      have hDiff := Int.dvd_sub hDvd (hBounds.dvd_of_seq hSeq)
      have hEq : ((r.d.header.seqNr : Int) - (t.rcv.ackNr + 1 + j)) -
          (r.d.header.seqNr - (t.rcv.ackNr + 1 + offset)) = (0 : Int) + (offset : Nat) - (0 + (j : Nat)) := by
        ring
      rw [hEq] at hDiff
      exact CellRing.not_dvd_offset 0 hLt hj (Ne.symm hAt) hDiff

/-- Reading is shut down by the program, and not opened again. -/
theorem Quiet.readShutdown {env : Env} {cause : Cause} (h : Quiet env cause s s')
    (hShut : s'.rcv.readShutdown = false) : s.rcv.readShutdown = false := by
  have hCheck : ∀ (t : Conn) line ok, (t.check line ok).rcv = t.rcv := by
    intro t line ok
    cases ok <;> rfl
  have hUpdate : ∀ t : Conn, (t.mtuSearchUpdate env).rcv = t.rcv :=
    fun t => (hCheck _ _ _).trans (hCheck _ _ _)
  cases h with
  | check line ok hLine => exact (congrArg RecvState.readShutdown (hCheck _ _ _)).symm.trans hShut
  | setsockopt opt val => cases opt <;> exact hShut
  | probeLost hProbe =>
      have hSame : (s.probeLost env).rcv = s.rcv := hUpdate _
      rwa [hSame] at hShut
  | probePassed hProbe =>
      have hSame : (s.probePassed env).rcv = s.rcv := hUpdate _
      rwa [hSame] at hShut
  | fragmentation nextHopMtu =>
      have hSame : (s.receiveIcmpFragmentation env nextHopMtu).rcv = s.rcv := by
        change Socket.rcv (Conn.toSocket (if _ then _ else _)) = _
        split
        · exact hUpdate _
        · exact hUpdate _
      rwa [hSame] at hShut
  | startTimer =>
      exact (congrArg (fun f : WriteFrame => f.rcv.readShutdown)
        (Conn.writeFrame_startTimer s)).symm.trans hShut
  | ack hCause =>
      exact (congrArg Foreground.readShutdown (Conn.foreground_sendAck env false s)).symm.trans hShut
  | synAck d hCause hEmpty =>
      exact (congrArg Foreground.readShutdown (Conn.foreground_sendAck env true s)).symm.trans hShut
  | keepAlive hOpen hFin =>
      exact (congrArg Foreground.readShutdown (Conn.foreground_sendAck env false
        (s.setAckNr (u16 (s.rcv.ackNr - 1))))).symm.trans hShut
  | shutRead => exact nomatch hShut
  | _ => exact hShut

/-- No move of the state opens it. -/
theorem Moving.readShutdown {cause : Cause} (h : Moving cause s s')
    (hShut : s'.rcv.readShutdown = false) : s.rcv.readShutdown = false := by
  cases h with
  | finAcked r hCause hFin hAcks => split_ifs at hShut <;> exact hShut
  | full hState hFull =>
      unfold Conn.markFull Conn.noteFull at hShut
      rw [if_pos hFull, if_pos hFull] at hShut
      exact hShut
  | icmpError =>
      unfold Conn.receiveIcmpError at hShut
      dsimp only at hShut
      split at hShut <;> exact hShut
  | closing hOpen => exact nomatch hShut
  | _ => exact hShut

/-- Events that are none of the delivery code, and leave the stage of the connection. -/
def Event.isAside (e : Event) : Bool := !e.isFlow && (e.entry?).isNone

/-- What holds before the connection is up. -/
def Closed (s : Conn) : Prop :=
  entryOf s.trace.story = none ∧ s.state.open = false ∧ consumedOf s.trace.story = [] ∧
    offersOf s.trace.story = [] ∧ readsOf s.trace.story = []

/-- Events aside of the stream leave a closed connection closed. -/
theorem Closed.aside (h : Closed s) (events : List Event) (hAside : ∀ e ∈ events, e.isAside = true)
    (hStory : s'.trace.story = s.trace.story ++ events) (hState : s'.state.open = false) :
    Closed s' := by
  have hQuiet : ∀ e ∈ events, e.isFlow = false := fun e he => by
    simpa using (Bool.and_eq_true_iff.1 (hAside e he)).1
  have hEntry : entryOf events = none := List.findSome?_eq_none_iff.2 fun e he => by
    simpa using (Bool.and_eq_true_iff.1 (hAside e he)).2
  obtain ⟨hNone, -, hConsumed, hOffers, hReads⟩ := h
  refine ⟨?_, hState, ?_, ?_, ?_⟩
  · rw [hStory, entryOf_append, hNone, hEntry]
    rfl
  · rw [hStory, consumedOf_append, hConsumed, consumedOf_of_quiet hQuiet]
    rfl
  · rw [hStory, offersOf_append, hOffers, offersFrom_of_quiet hQuiet]
    rfl
  · rw [hStory, readsOf_append, hReads, readsOf_of_quiet hQuiet]
    rfl

/-- The connection comes up: the flow starts with an empty reorder buffer. -/
theorem Closed.enter {e : Event} (h : Closed s) (hCore : Core s) (hRank : s.state.rank < 4)
    (hStory : s'.trace.story = s.trace.story ++ [.moved s.state .connected s.rcv.ackNr, e])
    (hEvent : e.isFlow = false) (hRecv : s'.recvView = s.recvView)
    (hShut : s'.rcv.readShutdown = false → s.rcv.readShutdown = false)
    (hState : s'.state = .connected) : Delivery s' := by
  obtain ⟨hNone, -, hConsumed, hOffers, hReads⟩ := h
  obtain ⟨hReorder, -, hReached⟩ := hCore.view.early hRank
  have hShape := hCore.view.reorder hReached
  rw [hReorder] at hShape
  have hEmpty : ∀ v, s.rcv.inbuf.get v = none := hShape.get_of_count_zero
  have hFlow : Flow s.rcv.ackNr s.trace.story s := by
    refine ⟨?_, ?_, ?_, ?_, ?_, ?_, ⟨[], ?_, fun _ => rfl⟩⟩
    · have hLt : s.rcv.ackNr < 65536 := hCore.view.bounds.ackNr_lt
      rw [hConsumed, List.length_nil, Nat.cast_zero, add_zero, u16_of_lt hLt]
    · intro i seqNr body hAt
      rw [hConsumed] at hAt
      exact nomatch hAt
    · rw [hOffers]
      exact nofun
    · intro _ i hi
      rw [hConsumed] at hi
      exact nomatch hi
    · intro _
      rw [hOffers, hEmpty]
      rfl
    · intro _ j _
      rw [hOffers, hEmpty]
      split_ifs <;> rfl
    · unfold payloadsOf
      rw [hConsumed, hReads]
      rfl
  have hQuiet : ∀ e' ∈ [Event.moved s.state .connected s.rcv.ackNr, e], e'.isFlow = false := by
    intro e' he'
    rcases List.mem_cons.1 he' with rfl | hLast
    · rfl
    · rw [List.mem_singleton.1 hLast]
      exact hEvent
  refine Or.inr ⟨s.rcv.ackNr, ?_, ?_, hStory ▸ hFlow.quiet _ hQuiet hRecv hShut⟩
  · rw [hStory, entryOf_append, hNone]
    rfl
  · rw [hState]
    decide

/-- What is queued to be sent is aside of what is received. -/
theorem Event.isAside_of_queueing {e : Event} (h : e.isQueueing = true) : e.isAside = true := by
  cases e <;> first | rfl | exact nomatch h

variable {env : Env} {cause : Cause}

/-- Before the connection is up, draining can only reach the end of the stream. -/
theorem Closed.drain {r : Received} (h : Closed s) (hStep : DrainStep env r s s') : Closed s' := by
  cases hStep with
  | inOrder hOpen hType hOffset hDone => exact absurd (hOpen.symm.trans h.2.1) (by decide)
  | take p hOpen hCount hGet => exact absurd (hOpen.symm.trans h.2.1) (by decide)
  | eof =>
      rcases Conn.trace_reachEof env s with hSame | ⟨w, hTold⟩
      · rw [hSame]
        exact h
      · have hState : (s.reachEof env).state = s.state :=
          congrArg Foreground.state (Conn.foreground_reachEof env s)
        refine h.aside [.onStateChange .eof] ?_ (congrArg Trace.story hTold)
          (hState ▸ h.2.1)
        intro e he
        rw [List.mem_singleton.1 he]
        rfl

/-- A move of the state may open the connection, with the `ack_nr` at which its stream begins. -/
theorem Closed.moving (h : Closed s) (hCore : Core s) (hMove : Moving cause s s') : Delivery s' := by
  have hNotFull : s.state ≠ .connectedFull := fun hFull => by
    have hDown := h.2.1
    rw [hFull] at hDown
    exact nomatch hDown
  have hOne : ∀ (e : Event), e.isAside = true → ∀ e' ∈ [e], e'.isAside = true := by
    intro e he e' he'
    rw [List.mem_singleton.1 he']
    exact he
  cases hMove.story with
  | none hTrace hState =>
      exact Or.inl (h.aside [] nofun (by rw [hTrace, List.append_nil]) (hState ▸ h.2.1))
  | closing hTrace hState hClose =>
      exact Or.inl (h.aside _ (hOne .closeRequested rfl) (congrArg Trace.story hTrace) (hState ▸ h.2.1))
  | full hTrace hBefore hState =>
      have hDown := h.2.1
      rw [hBefore] at hDown
      exact nomatch hDown
  | closed hTrace hBefore hState =>
      refine Or.inl (h.aside _ (hOne (.moved s.state .destroy s.rcv.ackNr) rfl)
        (congrArg Trace.story hTrace) ?_)
      rw [hState]
      rfl
  | failed dst code hTrace hDst hState =>
      refine Or.inl (h.aside [.moved s.state dst s.rcv.ackNr, .onError code] ?_ ?_ ?_)
      · intro e he
        rcases hDst with rfl | rfl <;> rcases List.mem_cons.1 he with rfl | hLast
        · rfl
        · rw [List.mem_singleton.1 hLast]
          rfl
        · rfl
        · rw [List.mem_singleton.1 hLast]
          rfl
      · rw [hTrace]
        simp [Trace.tell]
      · rw [hState]
        rcases hDst with rfl | rfl <;> rfl
  | up e hTrace hBefore hState hEvent =>
      have hEarly : s.state.rank < 4 := by
        rcases hBefore with hSent | hRecv | hFull
        · rw [hSent]
          decide
        · rw [hRecv]
          decide
        · exact absurd hFull hNotFull
      refine Closed.enter h hCore hEarly (e := e) ?_ ?_ hMove.recvView hMove.readShutdown hState
      · rw [hTrace]
        simp [Trace.tell]
      · rcases hEvent with rfl | rfl | rfl <;> rfl

/-- By induction on the turns; there is nothing to drain. -/
theorem Closed.drain_run {r : Received} (h : Closed s)
    (hRun : Relation.ReflTransGen (DrainStep env r) s s') : Closed s' := by
  induction hRun with
  | refl => exact h
  | tail _ hStep ih => exact ih.drain hStep

/-- Before the connection is up, no packet is delivered. -/
theorem Closed.trans (h : Closed s) (hCore : Core s) (hLive : s.Live)
    (hTrans : Trans env cause s s') : Delivery s' := by
  cases hTrans with
  | setup hSetup =>
      cases hSetup with
      | initialise addr connSeed connIdRecv connIdSend hState => exact absurd hState hLive
      | dial hState hCount hPointer =>
          refine Or.inl (h.aside [.moved s.state .synSent s.rcv.ackNr, .queued (s.startConnect env).snd.seqNr stSyn []]
            ?_ ?_ rfl)
          · intro e he
            rcases List.mem_cons.1 he with rfl | hLast
            · rfl
            · rw [List.mem_singleton.1 hLast]
              rfl
          · unfold Conn.queueSyn
            rw [Conn.trace_enqueue, Conn.trace_startConnect]
            simp [Trace.tell, Conn.synPacket]
      | accept d hCause hState hCount =>
          refine Or.inl (h.aside [.moved s.state .synRecv d.header.seqNr] ?_ ?_ rfl)
          · intro e he
            rw [List.mem_singleton.1 he]
            rfl
          · exact congrArg Trace.story (Conn.trace_setState .synRecv _)
  | sending hSend =>
      cases hSend with
      | quiet hQuiet =>
          have hState := congrArg View.state (hQuiet.view hCore.view.bounds.ackNr_lt)
          exact Or.inl (h.aside [] (List.forall_mem_nil _) (by rw [hQuiet.story, List.append_nil])
            ((congrArg ConnState.open hState).trans h.2.1))
      | queueing hQueue =>
          have hState := congrArg (fun b : Backdrop => b.state.open) hQueue.backdrop
          rcases hQueue.story with hSame | ⟨e, hEvent, hStory⟩
          · exact Or.inl (h.aside [] (List.forall_mem_nil _) (by rw [hSame, List.append_nil])
              (hState.trans h.2.1))
          · refine Or.inl (h.aside [e] ?_ hStory (hState.trans h.2.1))
            intro e' he'
            rw [List.mem_singleton.1 he']
            exact Event.isAside_of_queueing hEvent
      | moving hMove => exact h.moving hCore hMove
  | receiving hReceive =>
      cases hReceive with
      | synAcked r hCause hState =>
          exact Or.inl (h.aside [] (List.forall_mem_nil _) (List.append_nil _).symm h.2.1)
      | fin r hCause hOpen => exact absurd (hOpen.symm.trans h.2.1) (by decide)
      | drained _ r hCause hRun hDone => exact Or.inl (h.drain_run hRun)
      | outOfOrder r hCause hOpen hType hOffset => exact absurd (hOpen.symm.trans h.2.1) (by decide)

/-- A flow goes on as long as its story grows and the connection does not start again. -/
theorem Flow.goOn (hEntry : entryOf s.trace.story = some start)
    (hStory : s.trace.story <+: s'.trace.story) (hRank : 4 ≤ s'.state.rank)
    (h : Flow start s'.trace.story s') : Delivery s' := by
  obtain ⟨events, hEvents⟩ := hStory
  refine Or.inr ⟨start, ?_, hRank, h⟩
  rw [← hEvents, entryOf_append, hEntry]
  rfl

/-- A connection that is up does not enter once more. -/
theorem MoveStory.quiet (h : MoveStory s s') :
    ∃ events, s'.trace.story = s.trace.story ++ events ∧ ∀ e ∈ events, e.isFlow = false := by
  cases h with
  | none hTrace hState => exact ⟨[], by rw [hTrace, List.append_nil], nofun⟩
  | closing hTrace hState hClose =>
      refine ⟨[.closeRequested], congrArg Trace.story hTrace, ?_⟩
      simp [Event.isFlow]
  | full hTrace hBefore hState =>
      refine ⟨[.moved s.state .connectedFull s.rcv.ackNr], congrArg Trace.story hTrace, ?_⟩
      simp [Event.isFlow]
  | closed hTrace hBefore hState =>
      refine ⟨[.moved s.state .destroy s.rcv.ackNr], congrArg Trace.story hTrace, ?_⟩
      simp [Event.isFlow]
  | failed dst code hTrace hDst hState =>
      refine ⟨[.moved s.state dst s.rcv.ackNr, .onError code], ?_, ?_⟩
      · simp [hTrace, Trace.tell]
      · simp [Event.isFlow]
  | up e hTrace hBefore hState hEvent =>
      refine ⟨[.moved s.state .connected s.rcv.ackNr, e], ?_, ?_⟩
      · simp [hTrace, Trace.tell]
      · rcases hEvent with rfl | rfl | rfl <;> simp [Event.isFlow]

/-- It does not go back to the handshake. -/
theorem MoveStory.rank (h : MoveStory s s') (hRank : 4 ≤ s.state.rank) : 4 ≤ s'.state.rank := by
  cases h with
  | none hTrace hState => rwa [hState]
  | closing hTrace hState hClose => rwa [hState]
  | full hTrace hBefore hState => simp [hState, ConnState.rank]
  | closed hTrace hBefore hState => simp [hState, ConnState.rank]
  | failed dst code hTrace hDst hState => rcases hDst with rfl | rfl <;> simp [hState, ConnState.rank]
  | up e hTrace hBefore hState hEvent => simp [hState, ConnState.rank]

/-- The sending side does not touch the flow. -/
theorem Flow.sending (h : Flow start s.trace.story s) (hEntry : entryOf s.trace.story = some start)
    (hRank : 4 ≤ s.state.rank) (hCore : Core s) (hSend : Sending env cause s s') : Delivery s' := by
  have hRecv : s'.recvView = s.recvView := hSend.recvView hCore.view.bounds.ackNr_lt
  cases hSend with
  | quiet hQuiet =>
      have hState := congrArg View.state (hQuiet.view hCore.view.bounds.ackNr_lt)
      have hFlow := h.quiet [] nofun hRecv hQuiet.readShutdown
      rw [List.append_nil, ← hQuiet.story] at hFlow
      refine hFlow.goOn hEntry (hQuiet.story ▸ List.prefix_refl _) ?_
      exact hRank.trans_eq (congrArg ConnState.rank hState.symm)
  | queueing hQueue =>
      have hRank' : 4 ≤ s'.state.rank :=
        hRank.trans_eq (congrArg (fun b : Backdrop => b.state.rank) hQueue.backdrop.symm)
      have hShut : s'.rcv.readShutdown = s.rcv.readShutdown :=
        congrArg (fun b : Backdrop => b.rcv.readShutdown) hQueue.backdrop
      rcases hQueue.story with hSame | ⟨e, hEvent, hStory⟩
      · have hFlow := h.quiet [] nofun hRecv hShut.symm.trans
        rw [List.append_nil, ← hSame] at hFlow
        exact hFlow.goOn hEntry (hSame ▸ List.prefix_refl _) hRank'
      · have hFlow := h.quiet [e] ?_ hRecv hShut.symm.trans
        · rw [← hStory] at hFlow
          exact hFlow.goOn hEntry ⟨[e], hStory.symm⟩ hRank'
        · intro e' he'
          rw [List.mem_singleton.1 he']
          cases e <;> first | rfl | exact nomatch hEvent
  | moving hMove =>
      obtain ⟨events, hStory, hQuiet⟩ := hMove.story.quiet
      have hFlow := h.quiet _ hQuiet hRecv hMove.readShutdown
      rw [← hStory] at hFlow
      exact hFlow.goOn hEntry ⟨events, hStory.symm⟩ (hMove.story.rank hRank)

/-- Every transition of a connection that is up keeps its flow. -/
theorem Flow.trans (h : Flow start s.trace.story s) (hEntry : entryOf s.trace.story = some start)
    (hRank : 4 ≤ s.state.rank) (hCore : Core s) (hTrans : Trans env cause s s') : Delivery s' := by
  have hNot : ∀ st, st.rank < 4 → s.state ≠ st := by
    rintro st hLow rfl
    exact absurd hLow (Nat.not_lt.2 hRank)
  cases hTrans with
  | setup hSetup =>
      cases hSetup with
      | initialise addr connSeed connIdRecv connIdSend hState =>
          exact absurd hState (hNot _ (by decide))
      | dial hState hCount hPointer => exact absurd hState (hNot _ (by decide))
      | accept d hCause hState hCount => exact absurd hState (hNot _ (by decide))
  | sending hSend => exact h.sending hEntry hRank hCore hSend
  | receiving hReceive =>
      have hRank' : 4 ≤ s'.state.rank :=
        hRank.trans_eq (congrArg (fun f : Foreground => f.state.rank) hReceive.foreground.symm)
      have hStory : s.trace.story <+: s'.trace.story := hReceive.story
      cases hReceive with
      | synAcked r hCause hState => exact absurd hState (hNot _ (by decide))
      | fin r hCause hOpen =>
          refine Flow.goOn hEntry hStory hRank' ?_
          unfold Conn.noteFin
          split_ifs
          · exact h.congr rfl rfl rfl id
          · exact h
      | drained _ r hCause hRun hDone =>
          exact Flow.goOn hEntry hStory hRank' (h.drain_run hRun hCore.view.toLooseOk)
      | outOfOrder r hCause hOpen hType hOffset =>
          exact Flow.goOn hEntry hStory hRank' (h.outOfOrder _ hCore hOffset)

/-- A new socket is closed. -/
theorem Closed.initialised (h : s.log = []) (addr : PackedSockAddr)
    (connSeed connIdRecv connIdSend : Nat) :
    Closed (s.initializeSocket env addr connSeed connIdRecv connIdSend) := by
  have hIdle : (s.initializeSocket env addr connSeed connIdRecv connIdSend).state = .idle :=
    congrArg View.state (Conn.view_initializeSocket env addr connSeed connIdRecv connIdSend s)
  have hStory : (s.initializeSocket env addr connSeed connIdRecv connIdSend).trace.story =
      [.moved s.state .idle s.rcv.ackNr] := by
    rw [Conn.story_initializeSocket]
    simp [Conn.trace, h, traceOf]
  unfold Closed
  rw [hStory, hIdle]
  exact ⟨rfl, rfl, rfl, rfl, rfl⟩

/-- What was given to be read has arrived over a connection that was up. -/
theorem Delivery.entryOf_ne {s : Conn} (h : Delivery s) (hSome : readsOf s.log ≠ []) : entryOf s.log ≠ none := by
  rcases h with ⟨-, -, -, -, hNone⟩ | ⟨start, hEntry, -, -⟩
  · exact absurd ((readsOf_story s.log).symm.trans hNone) hSome
  · have hSame : entryOf s.log = some start := (entryOf_story s.log).symm.trans hEntry
    rw [hSame]
    exact nofun

/-- So the deliveries of every socket are in order, over all its transitions. -/
theorem preserved_delivery (env : Env) : Preserved env Delivery := by
  refine .of_trans ?_ ?_ ?_
  · intro s addr connSeed connIdRecv connIdSend hPristine hLog
    exact Or.inl (Closed.initialised hLog addr connSeed connIdRecv connIdSend)
  · intro cause s s' hCore hLive hInv hTrans
    rcases hInv with hClosed | ⟨start, hEntry, hRank, hFlow⟩
    · exact Closed.trans hClosed hCore hLive hTrans
    · exact hFlow.trans hEntry hRank hCore hTrans
  · intro s currentMs tick hInv
    rcases hInv with hClosed | ⟨start, hEntry, hRank, hFlow⟩
    · exact Or.inl hClosed
    · exact Or.inr ⟨start, hEntry, hRank, hFlow.congr rfl rfl rfl id⟩

end Utp
