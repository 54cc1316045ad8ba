import Utp.Invariant.Mask
import Utp.Guarantees.Stream

/-! Selective acks: the encoder of one side and the decoder of the other agree. -/
namespace Utp

open Wrapping

/-- What the ack `w`, sent in the state `s`, means to a peer that receives it. -/
structure MaskAgrees (s : Conn) (w : Wire) (d : Datagram) : Prop where
  /-- Its extension headers lead to a mask of four bytes. -/
  parsed : ∀ t : Conn, (t.skipExtensions d).1 = some (26, some ackMask)
  ackNr : d.header.ackNr = w.header.ackNr
  /-- The mask stands for the packets that sit in the reorder buffer. -/
  decoded : ∀ i < 32, ackMask.bit d i = true ↔
    i < min 30 s.rcv.inbuf.size ∧ s.Sits (u16 (w.header.ackNr + 2 + i))
  /-- The packets that a sender takes out of its queue have been sent, are not the oldest,
  and have a number that the mask stands for. -/
  removed : ∀ (env : Env) (t : Conn),
    QueueShape t.snd.seqNr t.snd.curWindowPackets t.snd.curWindow t.snd.outbuf →
    ∀ j < t.snd.curWindowPackets,
      (t.selectiveAck env d ackMask (d.header.ackNr + 2)).snd.outbuf.get (t.snd.windowSeq j) = none ↔
        t.snd.outbuf.get (t.snd.windowSeq j) = none ∨ 0 < j ∧
          (∃ pkt, t.snd.outbuf.get (t.snd.windowSeq j) = some pkt ∧ pkt.transmissions ≠ 0) ∧
          ∃ i < 32, ackMask.bit d i = true ∧ u16 (w.header.ackNr + 2 + i) = t.snd.windowSeq j

theorem QueueShape.removed {env : Env} {t : Conn} (d : Datagram) (base : Int)
    (h : QueueShape t.snd.seqNr t.snd.curWindowPackets t.snd.curWindow t.snd.outbuf) {j : Nat}
    (hj : j < t.snd.curWindowPackets) :
    (t.selectiveAck env d ackMask base).snd.outbuf.get (t.snd.windowSeq j) = none ↔
      t.snd.outbuf.get (t.snd.windowSeq j) = none ∨ 0 < j ∧
        (∃ pkt, t.snd.outbuf.get (t.snd.windowSeq j) = some pkt ∧ pkt.transmissions ≠ 0) ∧
        ∃ i < 32, ackMask.bit d i = true ∧ u16 (base + i) = t.snd.windowSeq j := by
  have hSize : (t.snd.outbuf.size : Int) ∣ 65536 := t.snd.outbuf.size_dvd (h.size_le.trans (by decide))
  have hWrap : (t.snd.outbuf.size : Int) ∣
      (t.snd.windowSeq j : Int) - (t.snd.seqNr - t.snd.curWindowPackets + j) := by
    refine hSize.trans ?_
    have := u16_emod (t.snd.seqNr - t.snd.curWindowPackets + j)
    unfold SendState.windowSeq
    omega
  have hHits : ∀ i, t.Hits d ackMask base i (t.snd.windowSeq j) ↔
      t.Hits d ackMask base i (t.snd.seqNr - t.snd.curWindowPackets + j) := by
    intro i
    unfold Conn.Hits
    have hShift : (t.snd.outbuf.size : Int) ∣ base + i - t.snd.windowSeq j ↔
        (t.snd.outbuf.size : Int) ∣ base + i - (t.snd.seqNr - t.snd.curWindowPackets + j) := by
      rw [← Int.dvd_add_left hWrap, sub_add_sub_cancel]
    rw [hShift]
  rw [Conn.isNone_selectiveAck env d ackMask base hSize (by omega)]
  refine or_congr_right ?_
  constructor
  · rintro ⟨⟨i, hi, hHit⟩, hSent⟩
    obtain ⟨hBit, hPos, hSeq⟩ := (h.hits_iff d ackMask base hj).1 ((hHits i).1 hHit)
    exact ⟨hPos, hSent, i, hi, hBit, hSeq⟩
  · rintro ⟨hPos, hSent, i, hi, hBit, hSeq⟩
    exact ⟨⟨i, hi, (hHits i).2 ((h.hits_iff d ackMask base hj).2 ⟨hBit, hPos, hSeq⟩)⟩, hSent⟩

theorem Core.maskAgrees {s t : Conn} {w : Wire} (h : Core s) (hFin : s.rcv.gotFinReached = false)
    (hBuf : t.rcv.inbuf = s.rcv.inbuf) (hWire : CarriesMask t.eackMask w)
    (hAckNr : w.header.ackNr = t.rcv.ackNr)
    (hBase : (65536 : Int) ∣ t.rcv.ackNr - s.rcv.ackNr ∨ (65536 : Int) ∣ t.rcv.ackNr - (s.rcv.ackNr - 1))
    (beyond : Nat → UInt8) : MaskAgrees s w (w.received beyond) := by
  have hSame := Wire.header_ackNr w beyond hWire.ackNr
  refine ⟨hWire.parsed beyond, hSame, fun i hi => h.decodes hFin hBuf hWire hAckNr hBase beyond hi, ?_⟩
  intro env u hQueue j hj
  rw [hSame]
  exact hQueue.removed (w.received beyond) _ hj

/-- In every reachable state in which a packet waits for an earlier one, the ack that
`send_ack` builds, and the one that `send_keep_alive` builds for the number before, stand
for the packets of the reorder buffer and make a sender take out just those. -/
theorem selective_ack_agrees (env : Env) (c : Context) (hReach : c.Reachable env) (p : Nat)
    (sock : Socket) (hSock : c.sockets p = some sock) (cause : Cause) (s : Conn)
    (hPath : Path env cause (c.enter p sock) s) (hCount : s.rcv.reorderCount ≠ 0)
    (hFin : s.rcv.gotFinReached = false) (beyond : Nat → UInt8) :
    (∀ synack, ∃ log w, (s.sendAck env synack).log = log ++ [.sendto w 0] ∧
      w.header.ackNr = s.rcv.ackNr ∧ MaskAgrees s w (w.received beyond)) ∧
    (∃ log w, (s.sendKeepAlive env).log = log ++ [.sendto w 0] ∧
      w.header.ackNr = u16 (s.rcv.ackNr - 1) ∧ MaskAgrees s w (w.received beyond)) := by
  have hCore : Core s := (hReach.ok.core p sock hSock).path hPath
  constructor
  · intro synack
    obtain ⟨log, w, hLog, hAckNr, hWire⟩ := Conn.sendAck_masked env synack hCount hFin
      hCore.view.bounds.ackNr_lt
    refine ⟨log, w, hLog, hAckNr, hCore.maskAgrees (t := s) hFin rfl hWire hAckNr (Or.inl ?_) beyond⟩
    simp
  · obtain ⟨log, w, hLog, hAckNr, hWire⟩ := Conn.sendKeepAlive_masked env hCount hFin
    refine ⟨log, w, hLog, hAckNr, hCore.maskAgrees (t := s.setAckNr (u16 (s.rcv.ackNr - 1))) hFin rfl
      hWire hAckNr (Or.inr ?_) beyond⟩
    have hBefore := u16_emod (s.rcv.ackNr - 1)
    change (65536 : Int) ∣ (u16 (s.rcv.ackNr - 1) : Nat) - (s.rcv.ackNr - 1)
    omega

/-- An accepted socket that has received the packets 101 and 103. -/
theorem selective_ack_agrees_gap : ∃ (c : Context) (sock : Socket) (log : List Event) (w : Wire),
    c.Reachable steadyEnv ∧ c.sockets 0 = some sock ∧
      ((c.enter 0 sock).sendAck steadyEnv false).log = log ++ [.sendto w 0] ∧ w.header.ackNr = 101 ∧
      MaskAgrees (c.enter 0 sock) w (w.received fun _ => 0) := by
  have hRun : ((utpInit true false).run steadyEnv [.processUdp (somePacket stSyn 5 100 0 []) somePeer,
      .processUdp (somePacket stData 6 101 6 [1, 2, 3]) somePeer,
      .processUdp (somePacket stData 6 103 6 [7, 8, 9]) somePeer]).any (fun c =>
        (c.sockets 0).any fun sock => sock.rcv.reorderCount == 1 && !sock.rcv.gotFinReached &&
          sock.rcv.ackNr == 101) = true := by
    decide +kernel
  obtain ⟨c, hReach, hOk⟩ := Context.Reachable.exists_of_run hRun
  obtain ⟨sock, hSock, hState⟩ := (Option.any_eq_true _ _).1 hOk
  simp only [Bool.and_eq_true, beq_iff_eq, Bool.not_eq_true'] at hState
  obtain ⟨⟨hCount, hFin⟩, hAt⟩ := hState
  obtain ⟨log, w, hLog, hAckNr, hAgrees⟩ := (selective_ack_agrees steadyEnv c hReach 0 sock hSock .call
    (c.enter 0 sock) .refl (by rw [show (c.enter 0 sock).rcv.reorderCount = 1 from hCount]; decide) hFin
    (fun _ => 0)).1 false
  exact ⟨c, sock, log, w, hReach, hSock, hLog, hAckNr.trans hAt, hAgrees⟩

end Utp
