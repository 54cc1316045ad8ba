import Utp.Transition.Trace
import Utp.Invariant.Mask
import Utp.Invariant.Packets

/-! The labels of packets: what a socket puts in the headers that it sends, so that its
peer can tell which connection they belong to. -/
namespace Utp

open Wrapping

namespace SizableCircularBuffer

variable {α : Type}

/-- What is found after a store is the new element or an old one. -/
theorem get_put_some {b : SizableCircularBuffer α} {i j : Int} {v : Option α} {x : α}
    (h : (b.put i v).get j = some x) : v = some x ∨ b.get j = some x := by
  rw [get_put_dvd] at h
  split_ifs at h
  · exact Or.inl h
  · exact Or.inr h

/-- Growing adds nothing to the contents. -/
theorem get_ensureSize_some {b : SizableCircularBuffer α} {item j : Int} {index : Nat} {x : α}
    (h : (b.ensureSize item index).get j = some x) : ∃ i, b.get i = some x := by
  obtain ⟨k, hk, hDvd⟩ := (b.ensureSize item index).exists_offset (item - index) j
  rw [(b.ensureSize item index).get_congr hDvd, get_ensureSize b item index hk] at h
  split_ifs at h
  exact ⟨_, h⟩

end SizableCircularBuffer

/-- A header as a socket with the given ids writes it. A SYN carries the id on which the
socket receives, every other packet the one on which its peer does. -/
structure PacketFormatV1.Labelled (dials : Prop) (recvId sendId : Nat) (h : PacketFormatV1) : Prop where
  version : h.version = 1
  ext : h.ext ≤ 1
  type : h.type ∈ [stData, stFin, stState, stSyn]
  syn : h.type = stSyn → dials
  connid : h.connid = u16 (if h.type = stSyn then recvId else sendId)

/-- The header of a packet that is not a SYN. -/
theorem PacketFormatV1.Labelled.plain {dials : Prop} {recvId sendId : Nat} {h : PacketFormatV1} (hVersion : h.version = 1)
    (hExt : h.ext ≤ 1) (hType : h.type = stData ∨ h.type = stFin ∨ h.type = stState) (hConnid : h.connid = u16 sendId) :
    h.Labelled dials recvId sendId := by
  have hOther : h.type ≠ stSyn := by
    rcases hType with hType | hType | hType <;> simp [hType]
  refine ⟨hVersion, hExt, ?_, fun hSyn => absurd hSyn hOther, ?_⟩
  · rcases hType with hType | hType | hType <;> simp [hType]
  · rw [if_neg hOther]
    exact hConnid

/-- The labels of a socket; it sends a SYN only if it dials. -/
def Conn.Labels (dials : Prop) (s : Conn) (h : PacketFormatV1) : Prop := h.Labelled dials s.connIdRecv s.connIdSend

/-- Every packet that a socket has queued or sent is labelled with its ids. -/
structure Labelled (dials : Prop) (s : Conn) : Prop where
  queued : ∀ v pkt, s.snd.outbuf.get v = some pkt → s.Labels dials pkt.header
  sent : ∀ w ∈ s.trace.wires, s.Labels dials w.header

namespace Wire

variable (w : Wire) (beyond : Nat → UInt8)

/-- A packet arrives in its full length. -/
theorem len_received : (w.received beyond).len = 20 + w.tail.length := by
  change (w.header.encode ++ w.tail).length = _
  rw [List.length_append, length_encode]

/-- Type and version share a byte and are told apart again. -/
theorem header_type (hType : w.header.type < 16) (hVersion : w.header.version < 16) :
    (w.received beyond).header.type = w.header.type ∧ (w.received beyond).header.version = w.header.version := by
  change (UInt8.ofNat (w.header.type * 16 + w.header.version)).toNat / 16 = _ ∧
    (UInt8.ofNat (w.header.type * 16 + w.header.version)).toNat % 16 = _
  simp only [UInt8.toNat_ofNat']
  omega

/-- The id is sent in 16 bits. -/
theorem header_connid : (w.received beyond).header.connid = w.header.connid % 65536 := by
  change (UInt8.ofNat (w.header.connid / 256)).toNat * 256 + (UInt8.ofNat w.header.connid).toNat = _
  simp only [UInt8.toNat_ofNat']
  omega

end Wire

/-- A labelled packet is recognised where it is received. -/
theorem PacketFormatV1.Labelled.received {dials : Prop} {recvId sendId : Nat} {w : Wire}
    (h : w.header.Labelled dials recvId sendId) (beyond : Nat → UInt8) :
    20 ≤ (w.received beyond).len ∧ utpVersion (w.received beyond).header = 1 ∧
      (w.received beyond).header.type = w.header.type ∧ w.header.type ≠ stReset ∧
      (w.received beyond).header.connid = w.header.connid := by
  have hType : w.header.type < 5 ∧ w.header.type ≠ stReset := by
    have hList := h.type
    simp only [List.mem_cons, List.not_mem_nil, or_false] at hList
    rcases hList with hType | hType | hType | hType <;> rw [hType] <;> decide
  obtain ⟨hSame, hVersion⟩ := w.header_type beyond (by omega) (by rw [h.version]; decide)
  have hExt := h.ext
  have hSameExt := w.header_ext beyond (by omega)
  refine ⟨?_, ?_, hSame, hType.2, ?_⟩
  · rw [w.len_received]
    omega
  · unfold utpVersion
    rw [hSame, hVersion, hSameExt, h.version]
    simp only [Bool.and_eq_true, decide_eq_true_eq]
    rw [if_pos ⟨hType.1, by omega⟩]
  · rw [w.header_connid, h.connid]
    exact Nat.mod_eq_of_lt (u16_lt _)

section Wires

variable {env : Env} {cause : Cause} {dials : Prop} {s s' : Conn} {w : Wire}

/-- An ack is a state packet with the id of the peer. -/
theorem Conn.AckWire.labels (h : s.AckWire w) : s.Labels dials w.header := by
  refine .plain h.version ?_ (Or.inr (Or.inr h.type)) h.connid
  rcases h.selective with ⟨hExt, -⟩ | ⟨hExt, -⟩ <;> omega

/-- A queued packet keeps the label that it was queued with. -/
theorem Conn.DataWire.labels {pkt : OutgoingPacket} (h : s.DataWire pkt w) (hPkt : s.Labels dials pkt.header) :
    s.Labels dials w.header := by
  refine ⟨h.version.trans hPkt.version, h.ext.trans_le hPkt.ext, ?_, ?_, ?_⟩
  · rw [h.type]
    exact hPkt.type
  · rw [h.type]
    exact hPkt.syn
  · rw [h.connid, h.type]
    exact hPkt.connid

/-- The label depends on the ids of the socket. -/
theorem Conn.Labels.congr (hSame : s'.identity = s.identity) {header : PacketFormatV1} :
    s'.Labels dials header ↔ s.Labels dials header := by
  have hRecv : s'.connIdRecv = s.connIdRecv := congrArg Identity.connIdRecv hSame
  have hSend : s'.connIdSend = s.connIdSend := congrArg Identity.connIdSend hSame
  unfold Conn.Labels
  rw [hRecv, hSend]

/-- At the end of the stream an ack is sent, and no other packet. -/
theorem DrainStep.labels {r : Received} (h : DrainStep env r s s') (hOld : ∀ w ∈ s.trace.wires, s.Labels dials w.header) :
    ∀ w ∈ s'.trace.wires, s.Labels dials w.header := by
  cases h with
  | inOrder hOpen hType hOffset hDone =>
      rw [Conn.trace_deliver, Conn.trace_major s rfl rfl rfl]
      exact hOld
  | eof =>
      rcases Conn.ackWire_reachEof env s with hSame | ⟨w, hWire, hTold⟩
      · rw [hSame]
        exact hOld
      · rw [hTold]
        intro w' hMem
        rcases List.mem_append.1 hMem with hBefore | hNew
        · exact hOld w' hBefore
        · rw [List.mem_singleton.1 hNew]
          exact hWire.labels
  | take p hOpen hCount hGet =>
      rw [Conn.trace_takeReordered]
      exact hOld

/-- By induction on the turns of the drain loop. -/
theorem DrainStep.labels_run {r : Received} (h : Relation.ReflTransGen (DrainStep env r) s s')
    (hOld : ∀ w ∈ s.trace.wires, s.Labels dials w.header) : ∀ w ∈ s'.trace.wires, s'.Labels dials w.header := by
  induction h with
  | refl => exact hOld
  | tail _ hStep ih =>
      intro w hMem
      exact (Conn.Labels.congr (Conn.identity_of_foreground hStep.foreground)).2 (hStep.labels ih w hMem)

/-- Storing an early packet sends nothing. -/
theorem Conn.wires_receiveOutOfOrder (seqNr offset : Nat) (body : List UInt8) (s : Conn) :
    (s.receiveOutOfOrder seqNr offset body).trace.wires = s.trace.wires := by
  rcases Conn.trace_receiveOutOfOrder seqNr offset body s with hSame | hTold
  · rw [hSame]
  · rw [hTold]
    rfl

/-- Neither does a move of the state. -/
theorem MoveStory.wires (h : MoveStory s s') : s'.trace.wires = s.trace.wires := by
  cases h with
  | none hTrace => rw [hTrace]
  | closing hTrace => rw [hTrace]; rfl
  | full hTrace => rw [hTrace]; rfl
  | closed hTrace => rw [hTrace]; rfl
  | failed dst code hTrace => rw [hTrace]; rfl
  | up e hTrace => rw [hTrace]; rfl

end Wires

namespace Labelled

variable {env : Env} {cause : Cause} {dials : Prop} {s s' : Conn}

/-- The packets of the queue are still there or gone, and those that were sent are labelled. -/
theorem keeps (h : Labelled dials s) (hIds : s'.identity = s.identity)
    (hQueued : ∀ v pkt, s'.snd.outbuf.get v = some pkt → s.Labels dials pkt.header)
    (hSent : ∀ w ∈ s'.trace.wires, w ∈ s.trace.wires ∨ s.Labels dials w.header) : Labelled dials s' := by
  refine ⟨fun v pkt hGet => (Conn.Labels.congr hIds).2 (hQueued v pkt hGet), fun w hMem => ?_⟩
  refine (Conn.Labels.congr hIds).2 ?_
  rcases hSent w hMem with hOld | hNew
  · exact h.sent w hOld
  · exact hNew

/-- A packet that stays in the buffer was in it before. -/
theorem ackPacket (env : Env) (seq : Int) (h : Labelled dials s) (v : Int) (pkt : OutgoingPacket)
    (hGet : (s.ackPacket env seq).2.snd.outbuf.get v = some pkt) : s.Labels dials pkt.header := by
  cases hAt : s.snd.outbuf.get (u16 seq) with
  | none =>
      rw [Conn.ackPacket_none env hAt] at hGet
      exact h.queued v pkt hGet
  | some old =>
      rw [Conn.ackPacket_some env hAt] at hGet
      split_ifs at hGet
      · exact h.queued v pkt hGet
      · have hBuf : (s.removePacket env (u16 seq) old).snd.outbuf = s.snd.outbuf.put (u16 seq) none :=
          congrArg View.outbuf (Conn.view_removePacket env (u16 seq) old s)
        have hPut : (s.snd.outbuf.put (u16 seq) none).get v = some pkt := hBuf ▸ hGet
        rcases SizableCircularBuffer.get_put_some hPut with hNone | hOld
        · cases hNone
        · exact h.queued v pkt hOld

/-- By induction on the acks. -/
theorem acked {header : PacketFormatV1} (h : Labelled dials s) (hRun : Relation.ReflTransGen (AckStep env header) s s') :
    Labelled dials s' := by
  induction hRun with
  | refl => exact h
  | @tail t u _ hStep ih =>
      have hIds : u.identity = t.identity := Conn.identity_of_backdrop hStep.backdrop
      have hTrace : u.trace = t.trace := AckStep.trace_run (.single hStep)
      refine ih.keeps hIds (fun v pkt hGet => ?_) fun w hMem => Or.inl (hTrace ▸ hMem)
      cases hStep with
      | acked hCount hAcked hSent => exact ih.ackPacket env _ v pkt hGet
      | dropped hCount hNone => exact ih.queued v pkt hGet

/-- The packet goes out with its label, and is put back with it. -/
theorem sendPacket (h : Labelled dials s) (v : Int) : Labelled dials (s.sendPacket env v) := by
  cases hGet : s.snd.outbuf.get v with
  | none =>
      rw [Conn.sendPacket_none env hGet]
      exact h
  | some pkt =>
      have hPkt := h.queued v pkt hGet
      have hView := Conn.view_sendPacket env hGet
      rw [Conn.view_chargeWindow] at hView
      obtain ⟨w, events, hWire, hTrace⟩ := Conn.trace_sendPacket env hGet
      have hIds : (s.sendPacket env v).identity = s.identity :=
        Conn.identity_of_backdrop (Queueing.send s v : Queueing env .call s _).backdrop
      refine h.keeps hIds (fun i pkt' hAt => ?_) fun w' hMem => ?_
      · have hBuf : (s.sendPacket env v).snd.outbuf = _ := congrArg View.outbuf hView
        rw [hBuf] at hAt
        rcases SizableCircularBuffer.get_put_some hAt with hSame | hOld
        · cases hSame
          exact ⟨hPkt.version, hPkt.ext, hPkt.type, hPkt.syn, hPkt.connid⟩
        · exact h.queued i pkt' hOld
      · rw [hTrace] at hMem
        rcases List.mem_append.1 hMem with hOld | hNew
        · exact Or.inl hOld
        · rw [List.mem_singleton.1 hNew]
          exact Or.inr (hWire.labels hPkt)

/-- A packet is put at the end of the queue. -/
theorem put {pkt : OutgoingPacket} {item v : Int} {index : Nat} (h : Labelled dials s) (hIds : s'.identity = s.identity)
    (hPkt : s.Labels dials pkt.header) (hBuf : s'.snd.outbuf = (s.snd.outbuf.ensureSize item index).put v (some pkt))
    (hWires : s'.trace.wires = s.trace.wires) : Labelled dials s' := by
  refine h.keeps hIds (fun i pkt' hGet => ?_) fun w hMem => Or.inl (hWires ▸ hMem)
  rw [hBuf] at hGet
  rcases SizableCircularBuffer.get_put_some hGet with hSame | hGrown
  · cases hSame
    exact hPkt
  · obtain ⟨j, hOld⟩ := SizableCircularBuffer.get_ensureSize_some hGrown
    exact h.queued j pkt' hOld

/-- A packet is put back in its place. -/
theorem restored {pkt : OutgoingPacket} {v : Int} (h : Labelled dials s) (hIds : s'.identity = s.identity)
    (hPkt : s.Labels dials pkt.header) (hBuf : s'.snd.outbuf = s.snd.outbuf.put v (some pkt))
    (hWires : s'.trace.wires = s.trace.wires) : Labelled dials s' := by
  refine h.keeps hIds (fun i pkt' hGet => ?_) fun w hMem => Or.inl (hWires ▸ hMem)
  rw [hBuf] at hGet
  rcases SizableCircularBuffer.get_put_some hGet with hSame | hOld
  · cases hSame
    exact hPkt
  · exact h.queued i pkt' hOld

/-- The new packet has the id of the peer. -/
theorem append (h : Labelled dials s) {flags : Nat} {bytes : List UInt8} (hFlags : flags = stData ∨ flags = stFin) :
    Labelled dials (s.appendPacket env flags bytes) := by
  have hTrace := Conn.trace_appendPacket env flags bytes s
  unfold Conn.appendPacket at hTrace ⊢
  dsimp only at hTrace ⊢
  have hView : ((s.check 1049 (bytes.isEmpty || flags == stData)).updateRcvWin env).view = s.view := by
    simp only [Conn.view_updateRcvWin, Conn.view_check]
  generalize (s.check 1049 (bytes.isEmpty || flags == stData)).updateRcvWin env = prep at hTrace hView ⊢
  have hSend : prep.connIdSend = s.connIdSend := congrArg View.connIdSend hView
  have hBuf : prep.snd.outbuf = s.snd.outbuf := congrArg View.outbuf hView
  have hIds : prep.identity = s.identity := Conn.identity_of_view hView
  have hPkt : s.Labels dials (prep.newPacket flags bytes).header := by
    refine .plain rfl (Nat.zero_le 1) (hFlags.imp_right Or.inl) ?_
    rw [← hSend]
    rfl
  have hPut : (prep.enqueue (prep.newPacket flags bytes)).snd.outbuf = (s.snd.outbuf.ensureSize prep.snd.seqNr
      prep.snd.curWindowPackets).put prep.snd.seqNr (some (prep.newPacket flags bytes)) := by
    rw [← hBuf]
    rfl
  refine h.put hIds hPkt hPut ?_
  rw [hTrace]
  rfl

/-- The header of a filled packet is made anew, with the same id. -/
theorem fill (h : Labelled dials s) {pkt : OutgoingPacket} {bytes : List UInt8} :
    Labelled dials (s.fillPacket env stData pkt bytes) := by
  have hTrace := Conn.trace_fillPacket env stData pkt bytes s
  unfold Conn.fillPacket at hTrace ⊢
  dsimp only at hTrace ⊢
  have hView : (((s.check 1036 (!pkt.needResend)).check 1049 (bytes.isEmpty || stData == stData)).updateRcvWin env).view =
      s.view := by
    simp only [Conn.view_updateRcvWin, Conn.view_check]
  generalize ((s.check 1036 (!pkt.needResend)).check 1049 (bytes.isEmpty || stData == stData)).updateRcvWin env = prep
    at hTrace hView ⊢
  have hSend : prep.connIdSend = s.connIdSend := congrArg View.connIdSend hView
  have hBuf : prep.snd.outbuf = s.snd.outbuf := congrArg View.outbuf hView
  have hIds : prep.identity = s.identity := Conn.identity_of_view hView
  have hPkt : s.Labels dials (prep.filledPacket stData pkt bytes).header := by
    refine .plain rfl (Nat.zero_le 1) (Or.inl rfl) ?_
    rw [← hSend]
    rfl
  refine h.restored hIds hPkt (v := prep.snd.seqNr - 1) ?_ ?_
  · rw [← hBuf]
    rfl
  · rw [hTrace]
    rfl

/-- Every transition of the queue keeps the labels. -/
theorem queueing (h : Labelled dials s) (hQueue : Queueing env cause s s') : Labelled dials s' := by
  have hIds := Conn.identity_of_backdrop hQueue.backdrop
  cases hQueue with
  | append bytes hState hFin hCount hLength => exact h.append (Or.inl rfl)
  | appendFin hState hFin =>
      have hNoted : Labelled dials { s with finSent := true } := ⟨h.queued, h.sent⟩
      exact hNoted.append (Or.inr rfl)
  | fill pkt bytes hState hFin hCount hGet hUnsent hLength => exact h.fill
  | send v => exact h.sendPacket v
  | acked _ r hCause hRun hFront => exact h.acked hRun
  | sacked r mask bits =>
      refine h.keeps hIds (fun v pkt hGet => h.ackPacket env _ v pkt hGet) fun w hMem => Or.inl ?_
      rw [Conn.trace_minor _ rfl rfl rfl, Conn.trace_ackPacket] at hMem
      exact hMem
  | lost i =>
      have hTrace := Conn.trace_losePacket i s
      rcases Conn.losePacket_cases i s with hSame | ⟨pkt, hGet, -, -, hLost⟩
      · rw [hSame]
        exact h
      · have hBuf : (s.losePacket i).snd.outbuf =
            s.snd.outbuf.put (s.snd.seqNr - i - 1) (some { pkt with needResend := true }) := by
          rw [hLost]
          exact congrArg View.outbuf (Conn.view_check 1243 _ _)
        have hPkt : s.Labels dials ({ pkt with needResend := true } : OutgoingPacket).header := h.queued _ pkt hGet
        exact h.restored hIds hPkt hBuf (congrArg Trace.wires hTrace)
  | advance r =>
      unfold Conn.updateFastResend
      split_ifs <;> exact ⟨h.queued, h.sent⟩
  | retried => exact ⟨h.queued, h.sent⟩
  | resent v => exact ⟨h.queued, h.sent⟩

/-- An accepted connection has sent nothing yet. -/
theorem startAccept (h : Labelled dials s) (seqNr : Nat) : Labelled dials (s.startAccept env seqNr) := by
  refine h.keeps rfl h.queued fun w hMem => Or.inl ?_
  have hTrace : (s.startAccept env seqNr).trace = s.trace.tell (.moved s.state .synRecv seqNr) :=
    Conn.trace_setState .synRecv _
  rw [hTrace] at hMem
  exact hMem

/-- A dialled connection sends its SYN, which has the id of the dialler itself. -/
theorem setup (h : Labelled dials s) (hLive : s.Live) (hDials : s.state = .idle → dials) (hSetup : Setup env cause s s') : Labelled dials s' := by
  cases hSetup with
  | initialise addr connSeed connIdRecv connIdSend hState => exact absurd hState hLive
  | dial hState hCount hPointer =>
      have hPkt : s.Labels dials (s.startConnect env).synPacket.header :=
        ⟨rfl, Nat.zero_le 1, by simp [Conn.synPacket], fun _ => hDials hState, rfl⟩
      refine h.put rfl hPkt rfl ?_
      unfold Conn.queueSyn
      rw [Conn.trace_enqueue, Conn.trace_startConnect]
      rfl
  | accept d hCause hState hCount => exact h.startAccept d.header.seqNr

/-- What the receiving side sends are acks. -/
theorem receiving (h : Labelled dials s) (hReceive : Receiving env cause s s') : Labelled dials s' := by
  have hFrame := hReceive.foreground
  have hSnd : s'.snd = s.snd := congrArg Foreground.snd hFrame
  have hIds := Conn.identity_of_foreground hFrame
  refine h.keeps hIds (fun v pkt hGet => h.queued v pkt (hSnd ▸ hGet)) fun w hMem => ?_
  cases hReceive with
  | synAcked r hCause hState => exact Or.inl hMem
  | fin r hCause hOpen =>
      unfold Conn.noteFin at hMem
      split_ifs at hMem <;> exact Or.inl hMem
  | drained _ r hCause hRun hDone =>
      exact Or.inr ((Conn.Labels.congr hIds).1 (DrainStep.labels_run hRun h.sent w hMem))
  | outOfOrder r hCause hOpen hType hOffset =>
      rw [Conn.wires_receiveOutOfOrder] at hMem
      exact Or.inl hMem

/-- Every transition keeps the labels. -/
theorem trans (h : Labelled dials s) (hCore : Core s) (hLive : s.Live) (hDials : s.state = .idle → dials)
    (hTrans : Trans env cause s s') : Labelled dials s' := by
  obtain ⟨-, hIds⟩ := hTrans.keeps hCore hLive
  cases hTrans with
  | setup hSetup => exact h.setup hLive hDials hSetup
  | sending hSend =>
      cases hSend with
      | quiet hQuiet =>
          have hBuf : s'.snd.outbuf = s.snd.outbuf := congrArg View.outbuf (hQuiet.view hCore.view.bounds.ackNr_lt)
          refine h.keeps hIds (fun v pkt hGet => h.queued v pkt (hBuf ▸ hGet)) fun w hMem => ?_
          rcases hQuiet.trace with ⟨events, hSeek⟩ | ⟨w', hSent, hWire⟩
          · rw [hSeek] at hMem
            exact Or.inl hMem
          · rw [hSent] at hMem
            rcases List.mem_append.1 hMem with hOld | hNew
            · exact Or.inl hOld
            · rw [List.mem_singleton.1 hNew]
              rcases hWire with hAck | ⟨hKeep, -⟩
              · exact Or.inr hAck.labels
              · exact Or.inr hKeep.labels
      | queueing hQueue => exact h.queueing hQueue
      | moving hMove =>
          have hSnd := hMove.snd
          exact h.keeps hIds (fun v pkt hGet => h.queued v pkt (hSnd ▸ hGet)) fun w hMem => Or.inl (hMove.story.wires ▸ hMem)
  | receiving hReceive => exact h.receiving hReceive

end Labelled

/-- A socket that has just been initialised has sent nothing. -/
theorem Labelled.initialised (env : Env) (dials : Prop) {s : Conn} {addr : PackedSockAddr}
    {connSeed connIdRecv connIdSend : Nat} (hPristine : s.toSocket.Pristine) (hLog : s.log = []) :
    Labelled dials (s.initializeSocket env addr connSeed connIdRecv connIdSend) := by
  have hView := Conn.view_initializeSocket env addr connSeed connIdRecv connIdSend s
  obtain ⟨targetDelay, optSndbuf, optRcvbuf, ssthresh, hEq⟩ := hPristine
  refine ⟨fun v pkt hGet => ?_, fun w hMem => ?_⟩
  · have hBuf : (s.initializeSocket env addr connSeed connIdRecv connIdSend).snd.outbuf = s.toSocket.snd.outbuf :=
      congrArg View.outbuf hView
    have hEmpty : s.toSocket.snd.outbuf = SizableCircularBuffer.calloc16 := by rw [hEq]; rfl
    rw [hBuf, hEmpty, SizableCircularBuffer.get_calloc16] at hGet
    cases hGet
  · obtain ⟨events, hSeek⟩ := Conn.seeks_mtuReset env (((s.setState .idle).updateCurrentMs env).assignIds addr connSeed
      connIdRecv connIdSend).initClocks
    have hTrace : (s.initializeSocket env addr connSeed connIdRecv connIdSend).trace =
        (s.setState .idle).trace.seek events := hSeek
    have hNone : s.trace.wires = [] := by simp [Conn.trace, traceOf, hLog]
    rw [hTrace, Conn.trace_setState] at hMem
    change w ∈ s.trace.wires at hMem
    rw [hNone] at hMem
    cases hMem

/-- So all that a socket has sent is labelled, over all its transitions. -/
theorem preserved_labelled (env : Env) : Preserved env (Labelled True) := by
  refine .of_trans ?_ (fun cause s s' hCore hLive hInv hTrans => hInv.trans hCore hLive (fun _ => trivial) hTrans) ?_
  · intro s addr connSeed connIdRecv connIdSend hPristine hLog
    exact .initialised env True hPristine hLog
  · intro s currentMs tick hInv
    exact ⟨hInv.queued, hInv.sent⟩

/-- A socket that was not dialled does not become idle again, and never sends a SYN. -/
structure Answering (s : Conn) : Prop extends Labelled False s where
  state : s.state ≠ .idle

/-- A connection that was accepted never goes back to where a SYN is sent. -/
theorem Answering.trans {env : Env} {cause : Cause} {s s' : Conn} (h : Answering s) (hCore : Core s) (hLive : s.Live)
    (hTrans : Trans env cause s s') : Answering s' := by
  refine ⟨h.toLabelled.trans hCore hLive (fun hIdle => absurd hIdle h.state) hTrans, ?_⟩
  cases hTrans with
  | setup hSetup =>
      cases hSetup with
      | initialise addr connSeed connIdRecv connIdSend hState => exact absurd hState hLive
      | dial hState hCount hPointer => exact absurd hState h.state
      | accept d hCause hState hCount => exact absurd hState h.state
  | sending hSend =>
      cases hSend with
      | quiet hQuiet =>
          have hState : s'.state = s.state := congrArg View.state (hQuiet.view hCore.view.bounds.ackNr_lt)
          exact hState.trans_ne h.state
      | queueing hQueue =>
          have hState : s'.state = s.state := congrArg Backdrop.state hQueue.backdrop
          exact hState.trans_ne h.state
      | moving hMove =>
          cases hMove.story with
          | none hTrace hState => exact hState.trans_ne h.state
          | closing hTrace hState hClose => exact hState.trans_ne h.state
          | full hTrace hBefore hState => exact hState.trans_ne (by decide)
          | closed hTrace hBefore hState => exact hState.trans_ne (by decide)
          | failed dst code hTrace hDst hState =>
              rw [hState]
              rcases hDst with rfl | rfl <;> decide
          | up e hTrace hBefore hState hEvent => exact hState.trans_ne (by decide)
  | receiving hReceive =>
      have hState : s'.state = s.state := congrArg Foreground.state hReceive.foreground
      exact hState.trans_ne h.state

/-- This is kept over whole runs. -/
theorem kept_answering (env : Env) : Kept env Answering := by
  refine .of_trans (fun cause s s' hCore hLive hInv hTrans => hInv.trans hCore hLive hTrans) ?_
  intro s currentMs tick hInv
  exact ⟨⟨hInv.queued, hInv.sent⟩, hInv.state⟩

/-- A socket that was created for a SYN. -/
theorem Context.Ok.answering {env : Env} {c : Context} {p : Nat} {sock : Socket} (h : c.Ok) (hSock : c.sockets p = some sock)
    (hNew : sock.state = .uninitialized) (d : Datagram) (addr : PackedSockAddr) :
    Answering ((c.enter p sock).acceptSocket env d addr) := by
  obtain ⟨hPristine, hLog⟩ := h.pristine p sock hSock hNew
  obtain ⟨hCount, hEmpty, -⟩ := h.pristine_counts hSock hNew
  have hView := Conn.view_initializeSocket env addr d.header.connid (d.header.connid + 1) d.header.connid (c.enter p sock)
  have hCore : Core ((c.enter p sock).initializeSocket env addr d.header.connid (d.header.connid + 1) d.header.connid) :=
    (h.core p sock hSock).initialise addr _ _ _ hNew
  have hFresh : Labelled False
      ((c.enter p sock).initializeSocket env addr d.header.connid (d.header.connid + 1) d.header.connid) :=
    .initialised env False hPristine (s := c.enter p sock) hLog
  rw [Conn.acceptSocket_eq]
  generalize (c.enter p sock).initializeSocket env addr d.header.connid (d.header.connid + 1) d.header.connid = t
    at hView hCore hFresh ⊢
  have hIdle : t.state = .idle := congrArg View.state hView
  have hZero : t.snd.curWindowPackets = 0 := (congrArg View.curWindowPackets hView).trans hCount
  have hNone : t.rcv.reorderCount = 0 := (congrArg View.reorderCount hView).trans hEmpty
  have hStart : Path env (.syn d) t (t.startAccept env d.header.seqNr) := .single (.setup (.accept t d rfl hIdle hZero))
  have hUp : (t.startAccept env d.header.seqNr).state = .synRecv := rfl
  have hLive : (t.startAccept env d.header.seqNr).Live := hUp.trans_ne (by decide)
  have hAnswering : Answering (t.startAccept env d.header.seqNr) :=
    ⟨hFresh.startAccept d.header.seqNr, hUp.trans_ne (by decide)⟩
  refine (kept_answering env).ran (.syn d) _ _ (hCore.path hStart) hLive hAnswering ⟨?_, fun r hr => by cases hr⟩
  exact Conn.path_finishAccept env d (hCore.path hStart) hUp hNone

namespace Kept

variable {env : Env} {I : Conn → Prop} {c c' : Context} {p : Nat} {sock : Socket}

/-- What holds of a socket and says something about its record holds of the record for good,
also after the socket was deleted. -/
theorem logs (h : Kept env I) {J : List Event → Prop} (hFresh : J []) (hLog : ∀ s, I s → J s.log)
    (hDeleted : ∀ log, J log → J (log ++ [.onStateChange .destroying])) (hOk : c.Ok) (hSock : c.Holds p sock)
    (hInv : I (c.enter p sock)) (hLater : c.Follows env c') : J (c'.logs p) := by
  suffices c'.Still I p ∧ J (c'.logs p) from this.2
  induction hLater with
  | now =>
      refine ⟨⟨hOk.allocated p sock hSock.1, fun sock' hSock' => ?_⟩, hLog _ hInv⟩
      cases Option.some.inj (hSock.1.symm.trans hSock')
      exact ⟨hSock.2, hInv⟩
  | later op hPrior hStep ih =>
      have hTurns := Context.turns_of_step (hPrior.ok hOk) hStep
      have hStart := hPrior.ok hOk
      clear hStep hPrior
      induction hTurns with
      | refl => exact ih
      | tail hBefore hTurn ih' =>
          have hMid := Context.Turns.ok hBefore hStart
          have hStill := h.turn hMid ih'.1 hTurn
          refine ⟨hStill, ?_⟩
          cases hTurn.recorded hMid p with
          | live sock' hSock' => exact hLog _ (hStill.2 sock' hSock'.1).2
          | fresh hEmpty => exact hEmpty ▸ hFresh
          | kept hSame => exact hSame ▸ ih'.2
          | deleted hMore => exact hMore ▸ hDeleted _ ih'.2

/-- Two things that are kept are kept together. -/
theorem and {J : Conn → Prop} (h : Kept env I) (h' : Kept env J) : Kept env fun s => I s ∧ J s := by
  refine ⟨fun cause s s' hCore hLive hInv hRan => ?_, fun s currentMs tick hInv => ?_⟩
  · exact ⟨h.ran cause s s' hCore hLive hInv.1 hRan, h'.ran cause s s' hCore hLive hInv.2 hRan⟩
  · exact ⟨h.clock s currentMs tick hInv.1, h'.clock s currentMs tick hInv.2⟩

end Kept

/-- The address and the ids of a socket stay the same. -/
theorem kept_identity (env : Env) (who : Identity) : Kept env fun s => s.identity = who :=
  .of_trans (fun _ _ _ hCore hLive hInv hTrans => (hTrans.keeps hCore hLive).2.trans hInv) fun _ _ _ hInv => hInv

/-- The ids of a socket are neighbours. The lower one was drawn by `utp_connect`, which then
receives on it, or taken from a SYN, and then the socket sends with it. -/
def Identity.Paired (i : Identity) : Prop :=
  i.connIdRecv < 65536 ∧ i.connIdSend = i.connIdRecv + 1 ∨ i.connIdSend < 65536 ∧ i.connIdRecv = i.connIdSend + 1

namespace Context

variable {env : Env} {c c' : Context} {p : Nat} {sock : Socket} {addr : PackedSockAddr}

/-- The identity of a socket that has entered the table. -/
theorem identity_enlisted {seed recvId sendId : Nat} {cause : Cause} {s : Conn} (h : c.Ok)
    (hSock : c.sockets p = some sock) (hNew : sock.state = .uninitialized)
    (hPath : Path env cause ((c.enter p sock).initializeSocket env addr seed recvId sendId) s) :
    s.identity = ⟨addr, recvId, sendId, c.onConnectSet⟩ := by
  have hView := Conn.view_initializeSocket env addr seed recvId sendId (c.enter p sock)
  have hIdle : ((c.enter p sock).initializeSocket env addr seed recvId sendId).state = .idle := congrArg View.state hView
  have hCore : Core ((c.enter p sock).initializeSocket env addr seed recvId sendId) :=
    (h.core p sock hSock).initialise addr seed recvId sendId hNew
  obtain ⟨-, hSame⟩ := hPath.keeps hCore (hIdle.trans_ne (by decide))
  exact hSame.trans (congrArg (fun v : View => (⟨v.addr, v.connIdRecv, v.connIdSend, v.onConnectSet⟩ : Identity)) hView)

/-- A socket that has entered the table is found there as it was left. -/
theorem holds_enlisted {seed recvId sendId : Nat} {cause : Cause} {s : Conn} (key : UTPSocketKey) (h : c.Ok)
    (hSock : c.sockets p = some sock) (hNew : sock.state = .uninitialized)
    (hPath : Path env cause ((c.enter p sock).initializeSocket env addr seed recvId sendId) s) :
    ∃ sock', ((c.addKey key p).leave p s).Holds p sock' ∧ ((c.addKey key p).leave p s).enter p sock' = s ∧
      sock'.addr = addr ∧ sock'.connIdRecv = recvId ∧ sock'.connIdSend = sendId := by
  have hView := Conn.view_initializeSocket env addr seed recvId sendId (c.enter p sock)
  have hIdle : ((c.enter p sock).initializeSocket env addr seed recvId sendId).state = .idle := congrArg View.state hView
  have hCore : Core ((c.enter p sock).initializeSocket env addr seed recvId sendId) :=
    (h.core p sock hSock).initialise addr seed recvId sendId hNew
  obtain ⟨hLive, -⟩ := hPath.keeps hCore (hIdle.trans_ne (by decide))
  have hConnect : s.onConnectSet = c.onConnectSet := onConnectSet_enlisted h hSock hNew hPath
  have hWho := identity_enlisted h hSock hNew hPath
  refine ⟨s.toSocket, ⟨?_, hLive⟩, enter_leave_self (c := c.addKey key p) hConnect, congrArg Identity.addr hWho,
    congrArg Identity.connIdRecv hWho, congrArg Identity.connIdSend hWho⟩
  rw [sockets_leave]
  exact Function.update_self ..

/-- The ids are paired when a socket is created, by dialling or by accepting. -/
theorem Fate.paired {op : Op} {s : Conn} (hFate : c.Fate env op p s) (hOk : c.Ok)
    (hOld : ∀ sock, c.Holds p sock → (c.enter p sock).identity.Paired) : s.identity.Paired := by
  cases hFate with
  | kept sock currentMs tick hSock hSame =>
      rw [hSame]
      exact hOld sock hSock
  | ran sock cause hSock hCause hRan =>
      rw [(hRan.path.keeps (hOk.core p sock hSock.1) hSock.2).2]
      exact hOld sock hSock
  | dialled sock addr seed draws hOp hSock hNew hSeed hSame =>
      rw [hSame, identity_enlisted hOk hSock hNew (hOk.path_dialled hSock hNew addr seed)]
      exact Or.inl ⟨hSeed, rfl⟩
  | accepted sock d addr hOp hVersion hType hSock hNew hSame =>
      rw [hSame, identity_enlisted hOk hSock hNew (hOk.path_accepted hSock hNew d addr)]
      exact Or.inr ⟨Datagram.read16_lt d 2, rfl⟩

/-- So they are in every reachable context, by induction on the run. -/
theorem Reachable.paired (h : c.Reachable env) (hSock : c.Holds p sock) : (c.enter p sock).identity.Paired := by
  induction h generalizing p sock with
  | init onAcceptSet onConnectSet => cases hSock.1
  | next op hReach hStep ih =>
      have hTurns := turns_of_step hReach.ok hStep
      have hOk := hReach.ok
      clear hStep
      induction hTurns generalizing p sock with
      | refl => exact ih hSock
      | tail hBefore hTurn ih' =>
          have hMid := Turns.ok hBefore hOk
          exact (hTurn.fate hMid hSock).paired hMid fun sock' hSock' => ih' hSock'

/-- What follows a reachable context is reachable. -/
theorem Reachable.follows (h : c.Reachable env) (hLater : c.Follows env c') : c'.Reachable env := by
  induction hLater with
  | now => exact h
  | later op _ hStep ih => exact .next op ih hStep

/-- The packets that a socket has sent carry its ids, also when the socket is gone. -/
theorem labelled_of_sent {dials : Prop} {I : Conn → Prop} (hKept : Kept env I) (hLabels : ∀ s, I s → Labelled dials s)
    (hOk : c.Ok) (hSock : c.Holds p sock) (hInv : I (c.enter p sock)) (hLater : c.Follows env c') {w : Wire} {flags : Nat}
    (hSent : .sendto w flags ∈ c'.logs p) : w.header.Labelled dials sock.connIdRecv sock.connIdSend := by
  have hBoth := (kept_identity env (c.enter p sock).identity).and hKept
  have hAll : ∀ w ∈ (traceOf (c'.logs p)).wires, w.header.Labelled dials sock.connIdRecv sock.connIdSend := by
    refine hBoth.logs (J := fun log => ∀ w ∈ (traceOf log).wires, w.header.Labelled dials sock.connIdRecv sock.connIdSend)
      (List.forall_mem_nil _) ?_ ?_ hOk hSock ⟨rfl, hInv⟩ hLater
    · rintro s ⟨hSame, hOurs⟩ w hMem
      exact (Conn.Labels.congr hSame).1 ((hLabels s hOurs).sent w hMem)
    · intro log hOld
      rw [traceOf_major log rfl rfl rfl]
      exact hOld
  exact hAll w (List.mem_filterMap.2 ⟨_, hSent, rfl⟩)

/-- The socket that a successful call of `utp_connect` leaves behind. -/
theorem dialled_of_connect {draws seed : Nat} {mid : Context} (hOk : c.Ok)
    (hDraw : c.drawSeed env addr draws = some (seed, mid)) (hStep : c.step env (.connect p addr draws) = some c') :
    ∃ (start : Context) (fresh : Socket), start.Ok ∧ start.sockets p = some fresh ∧ fresh.state = .uninitialized ∧
      c' = (start.addKey ⟨addr, seed⟩ p).leave p (start.dialled env p fresh addr seed) := by
  unfold step at hStep
  split_ifs at hStep with hAdmit
  obtain ⟨sock, hSock, hNew⟩ := stateIs_spec (· == .uninitialized) hAdmit
  have hConnect : c.utpConnect env p addr draws = some c' := hStep
  unfold utpConnect at hConnect
  rw [hDraw, Option.map_some, Option.some.injEq] at hConnect
  obtain ⟨-, -, tick, rfl⟩ := drawSeed_spec hDraw
  have hAside : Turns env .createSocket c { c with tick := tick } :=
    turns_aside c c.currentMs tick c.lastCheck c.targetDelay c.optSndbuf c.optRcvbuf c.rstInfo c.log
  have hThere : ({ c with tick := tick }.addKey ⟨addr, seed⟩ p).sockets p = some sock := hSock
  refine ⟨{ c with tick := tick }, sock, hAside.ok hOk, hSock, beq_iff_eq.1 hNew, ?_⟩
  rw [← hConnect]
  dsimp only
  rw [runOn_of_some hThere]
  rfl

/-- The socket that is created for a SYN. -/
theorem accepted_of_syn {d : Datagram} (hOk : c.Ok) (hSyn : d.header.type = stSyn) (hLen : 20 ≤ d.len)
    (hVersion : utpVersion d.header = 1) (hStep : c.step env (.processUdp d addr) = some c')
    (hThere : c'.sockets c.allocated ≠ none) :
    ∃ (start : Context) (fresh : Socket), start.Ok ∧ start.sockets c.allocated = some fresh ∧
      fresh.state = .uninitialized ∧
      c' = (start.addKey ⟨addr, d.header.connid + 1⟩ c.allocated).leave c.allocated
        ((start.enter c.allocated fresh).acceptSocket env d addr) := by
  have hAccept : c' = (c.record addr (.readBytes 0 20)).accept env d addr := by
    have hOp : c.step env (.processUdp d addr) = some (c.utpProcessUdp env d addr).2 := rfl
    rw [hOp] at hStep
    rw [← Option.some.inj hStep]
    unfold utpProcessUdp
    rw [if_neg (Nat.not_lt.2 hLen)]
    dsimp only
    rw [if_neg (not_not.2 hVersion), hSyn, if_neg (by decide), if_pos rfl]
  have hRecord : Turns env .createSocket c (c.record addr (.readBytes 0 20)).called := turns_aside c c.currentMs (c.tick + 1)
    c.lastCheck c.targetDelay c.optSndbuf c.optRcvbuf c.rstInfo _
  have hFree : c.sockets c.allocated = none := by
    by_contra hSome
    obtain ⟨sock, hSock⟩ := Option.ne_none_iff_exists'.1 hSome
    exact absurd (hOk.allocated _ sock hSock) (lt_irrefl _)
  rw [hAccept] at hThere ⊢
  unfold accept at hThere ⊢
  dsimp only at hThere ⊢
  split_ifs at hThere ⊢
  · exact absurd hFree hThere
  · exact absurd hFree hThere
  · exact absurd hFree hThere
  · exact absurd hFree hThere
  · have hNow : (c.record addr (.readBytes 0 20)).called.create.sockets c.allocated =
        some (utpCreateSocket c.targetDelay c.optSndbuf c.optRcvbuf) := Function.update_self ..
    have hRun : ((c.record addr (.readBytes 0 20)).called.create.addKey ⟨addr, d.header.connid + 1⟩
        c.allocated).sockets c.allocated = some (utpCreateSocket c.targetDelay c.optSndbuf c.optRcvbuf) := hNow
    refine ⟨(c.record addr (.readBytes 0 20)).called.create, _, (hRecord.ok hOk).create, hNow, rfl, ?_⟩
    exact runOn_of_some hRun _

end Context

end Utp
