import Utp.Library.BitMask
import Utp.Invariant.Fate
import Utp.Transition.Counted

/-! The mask of a selective ack: what the receiver writes into it, how it is read back
from the packet, and what the sender takes out of its queue for it. -/
namespace Utp

open Wrapping

/-- A packet in memory, whatever follows it there. -/
def Wire.received (w : Wire) (beyond : Nat → UInt8) : Datagram := Datagram.ofList w.bytes beyond

/-- Where the mask of an ack stands: after the header, the next type and the length. -/
def ackMask : SackMask := ⟨22, 4⟩

namespace Wire

variable (w : Wire) (beyond : Nat → UInt8)

theorem length_encode (h : PacketFormatV1) : h.encode.length = 20 := rfl

/-- The bytes after the header are those of the tail. -/
theorem byte_tail (k : Nat) (hk : k < w.tail.length) :
    (w.received beyond).byte (20 + k) = (w.tail.getD k 0).toNat := by
  have hGet : (w.header.encode ++ w.tail).getD (20 + k) (beyond (20 + k)) = w.tail.getD k 0 := by
    rw [List.getD_append_right _ _ _ _ (by rw [length_encode]; omega), length_encode,
      Nat.add_sub_cancel_left, List.getD_eq_getElem _ _ hk, List.getD_eq_getElem _ _ hk]
  exact congrArg UInt8.toNat hGet

theorem header_ext (hExt : w.header.ext < 256) : (w.received beyond).header.ext = w.header.ext := by
  change (UInt8.ofNat w.header.ext).toNat = _
  simpa using hExt

theorem header_ackNr (hAck : w.header.ackNr < 65536) :
    (w.received beyond).header.ackNr = w.header.ackNr := by
  change (UInt8.ofNat (w.header.ackNr / 256)).toNat * 256 + (UInt8.ofNat w.header.ackNr).toNat = _
  simp only [UInt8.toNat_ofNat']
  omega

end Wire

/-- An ack that carries the mask `m`. -/
structure CarriesMask (m : Nat) (w : Wire) : Prop where
  ext : w.header.ext = 1
  ackNr : w.header.ackNr < 65536
  tail : w.tail = Conn.eackTail m

namespace CarriesMask

variable {m : Nat} {w : Wire} (beyond : Nat → UInt8)

theorem length (h : CarriesMask m w) : (w.received beyond).len = 26 := by
  change w.bytes.length = 26
  unfold Wire.bytes
  rw [List.length_append, Wire.length_encode, h.tail]
  rfl

theorem byte (h : CarriesMask m w) {k : Nat} (hk : k < 6) :
    (w.received beyond).byte (20 + k) = ((Conn.eackTail m).getD k 0).toNat := by
  rw [Wire.byte_tail w beyond k (by rw [h.tail]; exact hk), h.tail]

/-- The extension headers of such an ack lead to its mask. -/
theorem parsed (h : CarriesMask m w) (t : Conn) :
    (t.skipExtensions (w.received beyond)).1 = some (26, some ackMask) := by
  have hExt := Wire.header_ext w beyond (by rw [h.ext]; decide)
  rw [h.ext] at hExt
  have hNext : (w.received beyond).byte 20 = 0 := h.byte beyond (k := 0) (by decide)
  have hLength : (w.received beyond).byte 21 = 4 := h.byte beyond (k := 1) (by decide)
  have hRest : i32 4 = 4 := i32_of_lt (by decide) (by decide)
  unfold Conn.skipExtensions
  rw [if_pos (by rw [hExt]; decide), h.length, hExt]
  unfold Conn.extensionLoop
  simp [h.length, hNext, hLength, hRest, ackMask]

/-- A bit of the mask is read back as it was written. -/
theorem bit (h : CarriesMask m w) {i : Nat} (hi : i < 32) :
    ackMask.bit (w.received beyond) i = m.testBit i := by
  have hByte : (w.received beyond).byte (22 + i / 8) =
      (UInt8.ofNat (m >>> (8 * (i / 8)))).toNat := by
    have hAt := h.byte beyond (k := 2 + i / 8) (by omega)
    rw [← add_assoc] at hAt
    rw [hAt]
    have hFour : i / 8 = 0 ∨ i / 8 = 1 ∨ i / 8 = 2 ∨ i / 8 = 3 := by omega
    rcases hFour with hk | hk | hk | hk <;> rw [hk] <;> rfl
  unfold SackMask.bit
  change ((w.received beyond).byte (22 + i / 8)).testBit (i % 8) = _
  rw [hByte, BitMask.testBit_byte m (i / 8) (Nat.mod_lt i (by decide)), Nat.div_add_mod]

end CarriesMask

namespace Conn

variable (env : Env)

theorem eackMask_eq (s : Conn) : s.eackMask =
    BitMask.ofPred (fun i => (s.rcv.inbuf.get (s.rcv.ackNr + i + 2)).isSome)
      (min 30 s.rcv.inbuf.size) := rfl

/-- An ack is the last thing that `send_ack` does, and carries the mask of the reorder
buffer if a packet waits there. -/
theorem sendAck_masked (synack : Bool) {s : Conn} (hCount : s.rcv.reorderCount ≠ 0)
    (hFin : s.rcv.gotFinReached = false) (hAck : s.rcv.ackNr < 65536) :
    ∃ log w, (s.sendAck env synack).log = log ++ [.sendto w 0] ∧
      w.header.ackNr = s.rcv.ackNr ∧ CarriesMask s.eackMask w := by
  have hParts : ∀ ok ok', (((s.updateRcvWin env).check 802 ok).check 811 ok').rcv = s.rcv := by
    intro ok ok'
    cases ok <;> cases ok' <;> rfl
  have hSend : ∀ t : Conn, t.rcv = s.rcv → ∃ log w,
      (t.sendData env { t.ackHeader with ext := 1 } (eackTail t.eackMask) 0).log = log ++ [.sendto w 0] ∧
        w.header.ackNr = s.rcv.ackNr ∧ CarriesMask s.eackMask w := by
    intro t hRcv
    have hMask : t.eackMask = s.eackMask := by
      unfold eackMask
      rw [hRcv]
    have hAckNr : t.rcv.ackNr = s.rcv.ackNr := by rw [hRcv]
    refine ⟨t.log, _, rfl, hAckNr, rfl, ?_, ?_⟩
    · change t.rcv.ackNr < 65536
      omega
    · rw [hMask]
  unfold sendAck
  dsimp only
  rw [if_pos (by simp [updateRcvWin, noteWindow, emit, called, hCount, hFin])]
  exact hSend _ (hParts _ _)

/-- A keepalive is an ack of the packet before the last one. -/
theorem sendKeepAlive_masked {s : Conn} (hCount : s.rcv.reorderCount ≠ 0)
    (hFin : s.rcv.gotFinReached = false) :
    ∃ log w, (s.sendKeepAlive env).log = log ++ [.sendto w 0] ∧
      w.header.ackNr = u16 (s.rcv.ackNr - 1) ∧
      CarriesMask (s.setAckNr (u16 (s.rcv.ackNr - 1))).eackMask w :=
  sendAck_masked env false (s := s.setAckNr (u16 (s.rcv.ackNr - 1))) hCount hFin (u16_lt _)

/-- A packet with the given number sits in the reorder buffer. -/
def Sits (n : Nat) (s : Conn) : Prop := ∃ body, s.rcv.inbuf.get n = some ⟨n, body⟩

end Conn

/-- The slots that an ack for `ackNr`, or for the one before it, looks at are taken by
packets with the numbers that the ack stands for. -/
theorem Core.sits_iff {s : Conn} (h : Core s) (hFin : s.rcv.gotFinReached = false) {x : Int} {i : Nat}
    (hBase : (65536 : Int) ∣ x - (s.rcv.ackNr + 1) ∨ (65536 : Int) ∣ x - (s.rcv.ackNr + 2))
    (hi : i < s.rcv.inbuf.size) : (s.rcv.inbuf.get (x + i)).isSome = true ↔ s.Sits (u16 (x + i)) := by
  have hBounds : ReorderBounds s.rcv.ackNr s.rcv.inbuf := h.view.bounds
  have hShape : ReorderShape s.rcv.ackNr s.rcv.reorderCount s.rcv.inbuf := h.view.reorder hFin
  have hNext : s.rcv.inbuf.get (s.rcv.ackNr + 1) = none := h.view.next hFin
  have hSame : s.rcv.inbuf.get (u16 (x + i) : Nat) = s.rcv.inbuf.get (x + i) := by
    apply s.rcv.inbuf.get_congr
    apply hBounds.dvd_of_seq
    have := u16_emod (x + i)
    omega
  constructor
  · intro hTaken
    obtain ⟨p, hGet⟩ := Option.isSome_iff_exists.1 hTaken
    obtain ⟨j, hj, hAt⟩ : ∃ j < s.rcv.inbuf.size, (65536 : Int) ∣ x + i - (s.rcv.ackNr + 1 + j) := by
      rcases hBase with hKeep | hAck
      · exact ⟨i, hi, by omega⟩
      · by_cases hLast : i + 1 = s.rcv.inbuf.size
        · exfalso
          have hTurn : (s.rcv.inbuf.size : Int) ∣ x + i - (s.rcv.ackNr + 1) := by
            have hDvd := hBounds.dvd_of_seq hAck
            have hEq : x + i - (s.rcv.ackNr + 1) = (x - (s.rcv.ackNr + 2)) + s.rcv.inbuf.size := by
              rw [← hLast]
              push_cast
              ring
            rw [hEq]
            exact Int.dvd_add hDvd (Int.dvd_refl _)
          rw [s.rcv.inbuf.get_congr hTurn, hNext] at hGet
          cases hGet
        · exact ⟨i + 1, by omega, by omega⟩
    have hStored := hGet
    rw [s.rcv.inbuf.get_congr (hBounds.dvd_of_seq hAt)] at hStored
    obtain ⟨-, -, hSeq⟩ := hShape.stored j hj p hStored
    have hNumber : p.seqNr = u16 (x + i) := by
      rw [hSeq, u16_eq_iff]
      omega
    refine ⟨p.body, ?_⟩
    rw [hSame, hGet, ← hNumber]
  · rintro ⟨body, hSits⟩
    rw [← hSame, hSits]
    rfl

/-- The numbers that the mask stands for are those of the packets that sit in the buffer. -/
theorem Core.decodes {s t : Conn} {w : Wire} (h : Core s) (hFin : s.rcv.gotFinReached = false)
    (hBuf : t.rcv.inbuf = s.rcv.inbuf) (hWire : CarriesMask t.eackMask w)
    (hAckNr : w.header.ackNr = t.rcv.ackNr)
    (hBase : (65536 : Int) ∣ t.rcv.ackNr - s.rcv.ackNr ∨ (65536 : Int) ∣ t.rcv.ackNr - (s.rcv.ackNr - 1))
    (beyond : Nat → UInt8) {i : Nat} (hi : i < 32) :
    ackMask.bit (w.received beyond) i = true ↔
      i < min 30 s.rcv.inbuf.size ∧ s.Sits (u16 (w.header.ackNr + 2 + i)) := by
  rw [hWire.bit beyond hi, Conn.eackMask_eq, BitMask.testBit_ofPred, hBuf, hAckNr, Bool.and_eq_true,
    decide_eq_true_eq]
  refine and_congr_right fun hIn => ?_
  have hIndex : (t.rcv.ackNr : Int) + i + 2 = t.rcv.ackNr + 2 + i := by ring
  rw [hIndex]
  exact h.sits_iff hFin (by omega) (hIn.trans_le (Nat.min_le_right ..))

/-- The queue of a sender, except for the packets that have left it. -/
structure Sweeps (gone : Int → Prop) (s s' : Conn) : Prop where
  seqNr : s'.snd.seqNr = s.snd.seqNr
  count : s'.snd.curWindowPackets = s.snd.curWindowPackets
  size : s'.snd.outbuf.size = s.snd.outbuf.size
  left : ∀ x, gone x → (∃ pkt, s.snd.outbuf.get x = some pkt ∧ pkt.transmissions ≠ 0) →
    s'.snd.outbuf.get x = none
  kept : ∀ x, ¬(gone x ∧ ∃ pkt, s.snd.outbuf.get x = some pkt ∧ pkt.transmissions ≠ 0) →
    s'.snd.outbuf.get x = s.snd.outbuf.get x

theorem Sweeps.of_snd {gone : Int → Prop} {s s' : Conn} (hSnd : s'.snd = s.snd)
    (hNone : ∀ x, gone x → ¬∃ pkt, s.snd.outbuf.get x = some pkt ∧ pkt.transmissions ≠ 0) :
    Sweeps gone s s' :=
  ⟨by rw [hSnd], by rw [hSnd], by rw [hSnd], fun x hGone hSent => absurd hSent (hNone x hGone),
    fun x _ => by rw [hSnd]⟩

/-- Two sweeps, one after the other. -/
theorem Sweeps.trans {first second : Int → Prop} {s t u : Conn} (hFirst : Sweeps first s t)
    (hSecond : Sweeps second t u) : Sweeps (fun x => first x ∨ second x) s u := by
  refine ⟨hSecond.seqNr.trans hFirst.seqNr, hSecond.count.trans hFirst.count,
    hSecond.size.trans hFirst.size, ?_, ?_⟩
  · intro x hGone hSent
    by_cases hEarly : first x
    · have hNone := hFirst.left x hEarly hSent
      rw [hSecond.kept x (by simp [hNone]), hNone]
    · have hSame := hFirst.kept x (fun hBoth => hEarly hBoth.1)
      exact hSecond.left x (hGone.resolve_left hEarly) (hSame ▸ hSent)
  · intro x hStays
    have hSame := hFirst.kept x (fun hBoth => hStays ⟨Or.inl hBoth.1, hBoth.2⟩)
    rw [hSecond.kept x (fun hBoth => hStays ⟨Or.inr hBoth.1, hSame ▸ hBoth.2⟩), hSame]

namespace Conn

variable (env : Env) (d : Datagram) (mask : SackMask) (base : Int)

/-- The slots that the bit `i` of a mask is about. -/
def Hits (s : Conn) (i : Nat) (x : Int) : Prop :=
  mask.bit d i = true ∧ s.outsideWindow (base + i) = false ∧ (s.snd.outbuf.size : Int) ∣ base + i - x

theorem outbuf_ackPacket (seq : Int) (s : Conn) {pkt : OutgoingPacket}
    (hGet : s.snd.outbuf.get (u16 seq) = some pkt) (hSent : pkt.transmissions ≠ 0) :
    (s.ackPacket env seq).2.snd.seqNr = s.snd.seqNr ∧
      (s.ackPacket env seq).2.snd.curWindowPackets = s.snd.curWindowPackets ∧
      (s.ackPacket env seq).2.snd.outbuf = s.snd.outbuf.put (u16 seq) none := by
  rw [ackPacket_some env hGet, if_neg hSent]
  have hView := view_removePacket env (u16 seq) pkt s
  exact ⟨congrArg View.seqNr hView, congrArg View.curWindowPackets hView, congrArg View.outbuf hView⟩

/-- One bit takes out the packet it stands for, if it is set. -/
theorem sweeps_selectiveAckAt (i : Nat) (scan : EackScan) {s : Conn}
    (hSize : (s.snd.outbuf.size : Int) ∣ 65536) :
    Sweeps (s.Hits d mask base i) s (s.selectiveAckAt env d mask base i scan).2 := by
  have hSlot : ∀ x, s.Hits d mask base i x → s.snd.outbuf.get x = s.snd.outbuf.get (base + i) := fun x hHit =>
    (s.snd.outbuf.get_congr hHit.2.2).symm
  unfold selectiveAckAt
  dsimp only
  by_cases hOut : s.outsideWindow (base + i) = true
  · rw [if_pos hOut]
    refine .of_snd rfl fun x hHit => ?_
    exact absurd (hHit.2.1.symm.trans hOut) (by decide)
  rw [if_neg hOut, if_pos (by omega)]
  have hBit : ((i : Int) ≥ 0 && mask.bit d (i : Int).toNat) = mask.bit d i := by simp
  rw [hBit]
  generalize (if mask.bit d i then { scan with count := scan.count + 1 } else scan) = scan'
  cases hGet : (s.emit (mask.access (i : Int).toNat)).snd.outbuf.get (base + i) with
  | none =>
      refine .of_snd rfl fun x hHit hSent => ?_
      obtain ⟨pkt, hAt, -⟩ := hSent
      cases (hAt.symm.trans (hSlot x hHit)).trans hGet
  | some pkt =>
      replace hGet : s.snd.outbuf.get (base + i) = some pkt := hGet
      dsimp only
      by_cases hUnsent : pkt.transmissions = 0
      · rw [if_pos hUnsent]
        refine .of_snd rfl fun x hHit hSent => ?_
        obtain ⟨pkt', hAt, hSent'⟩ := hSent
        rw [hSlot x hHit, hGet] at hAt
        cases hAt
        exact hSent' hUnsent
      rw [if_neg hUnsent]
      by_cases hSet : mask.bit d i = true
      · rw [if_pos hSet]
        have hChecked := snd_check 1553 ((s.emit (mask.access (i : Int).toNat)).snd.outbuf.slot (base + i) ≠
          (s.emit (mask.access (i : Int).toNat)).snd.outbuf.slot ((s.emit (mask.access (i : Int).toNat)).snd.seqNr -
            (s.emit (mask.access (i : Int).toNat)).snd.curWindowPackets)) (s.emit (mask.access (i : Int).toNat))
        generalize (s.emit (mask.access (i : Int).toNat)).check 1553 _ = t at hChecked ⊢
        have hSnd : t.snd = s.snd := hChecked
        have hWrap : (s.snd.outbuf.size : Int) ∣ (u16 (base + i) : Nat) - (base + i) := by
          refine hSize.trans ?_
          have := u16_emod (base + i)
          omega
        have hAt : t.snd.outbuf.get (u16 (base + i) : Nat) = some pkt := by
          rw [hSnd, s.snd.outbuf.get_congr hWrap, hGet]
        obtain ⟨hSeq, hCount, hBuf⟩ := outbuf_ackPacket env (base + i) t hAt hUnsent
        rw [hSnd] at hSeq hCount hBuf
        have hRead : ∀ x, (t.ackPacket env (base + i)).2.snd.outbuf.get x =
            if (s.snd.outbuf.size : Int) ∣ base + i - x then none else s.snd.outbuf.get x := by
          intro x
          rw [hBuf, s.snd.outbuf.put_congr none hWrap, SizableCircularBuffer.get_put_dvd]
        refine ⟨hSeq, hCount, by rw [emit]; simp [hBuf], ?_, ?_⟩
        · intro x hHit _
          exact (hRead x).trans (if_pos hHit.2.2)
        · intro x hStays
          by_cases hHere : (s.snd.outbuf.size : Int) ∣ base + i - x
          · exfalso
            refine hStays ⟨⟨hSet, eq_false_of_ne_true hOut, hHere⟩, pkt, ?_, hUnsent⟩
            rw [← s.snd.outbuf.get_congr hHere, hGet]
          · exact (hRead x).trans (if_neg hHere)
      · rw [if_neg hSet]
        split_ifs <;> exact .of_snd rfl fun x hHit => absurd hHit.1 hSet

/-- The packet just past the ack, for which there is no bit, stays. -/
theorem sweeps_selectiveAckAt_first (scan : EackScan) (s : Conn) :
    Sweeps (fun _ => False) s (s.selectiveAckAt env d mask base (-1) scan).2 := by
  have hSnd : (s.selectiveAckAt env d mask base (-1) scan).2.snd = s.snd := by
    unfold selectiveAckAt
    dsimp only
    simp only [show ¬(-1 : Int) ≥ 0 by decide, decide_false, Bool.false_and, if_false, Bool.false_eq_true]
    by_cases hOut : s.outsideWindow (base + -1) = true
    · rw [if_pos hOut]
    · rw [if_neg hOut]
      split
      · rfl
      · split_ifs <;> rfl
  exact .of_snd hSnd fun _ hGone => hGone.elim

theorem Sweeps.hits_congr {gone : Int → Prop} {s s' : Conn} (h : Sweeps gone s s') (i : Nat) (x : Int) :
    s'.Hits d mask base i x ↔ s.Hits d mask base i x := by
  unfold Hits outsideWindow
  rw [h.seqNr, h.count, h.size]

theorem sweeps_selectiveAckFrom (n : Nat) (scan : EackScan) {s : Conn}
    (hSize : (s.snd.outbuf.size : Int) ∣ 65536) :
    Sweeps (fun x => ∃ i < n, s.Hits d mask base i x) s
      (s.selectiveAckFrom env d mask base n scan).2 := by
  induction n generalizing scan s with
  | zero =>
      have hFirst := sweeps_selectiveAckAt_first env d mask base scan s
      refine ⟨hFirst.seqNr, hFirst.count, hFirst.size, ?_, fun x _ => hFirst.kept x (fun hBoth => hBoth.1)⟩
      rintro x ⟨i, hi, -⟩
      exact absurd hi (Nat.not_lt_zero i)
  | succ n ih =>
      have hLast := sweeps_selectiveAckAt env d mask base n scan hSize
      unfold selectiveAckFrom
      dsimp only
      generalize s.selectiveAckAt env d mask base n scan = r at hLast ⊢
      have hRest := ih r.1 (s := r.2) (by rw [hLast.size]; exact hSize)
      have hBoth := hLast.trans hRest
      have hSame : (fun x => s.Hits d mask base n x ∨ ∃ i < n, r.2.Hits d mask base i x) =
          fun x => ∃ i < n + 1, s.Hits d mask base i x := by
        funext x
        simp only [Sweeps.hits_congr d mask base hLast, eq_iff_iff]
        constructor
        · rintro (hHit | ⟨i, hi, hHit⟩)
          · exact ⟨n, Nat.lt_succ_self n, hHit⟩
          · exact ⟨i, Nat.lt_succ_of_lt hi, hHit⟩
        · rintro ⟨i, hi, hHit⟩
          rcases Nat.lt_succ_iff_lt_or_eq.1 hi with hLess | rfl
          · exact Or.inr ⟨i, hLess, hHit⟩
          · exact Or.inl hHit
      rwa [hSame] at hBoth

/-- Resending a packet keeps every slot as full or as empty as it was. -/
theorem isNone_sendPacket (v : Int) (s : Conn) (x : Int) :
    ((s.sendPacket env v).snd.outbuf.get x).isNone = (s.snd.outbuf.get x).isNone := by
  cases hGet : s.snd.outbuf.get v with
  | none => rw [sendPacket_none env hGet]
  | some pkt =>
      have hView := view_sendPacket env hGet
      rw [view_chargeWindow] at hView
      have hBuf : (s.sendPacket env v).snd.outbuf = _ := congrArg View.outbuf hView
      rw [hBuf, SizableCircularBuffer.get_put_dvd]
      split_ifs with hSlot
      · rw [← s.snd.outbuf.get_congr hSlot, hGet]
        rfl
      · rfl

theorem isNone_resendLoop (resends : List Int) (i : Nat) (s : Conn) (x : Int) :
    ((s.resendLoop env resends i).2.snd.outbuf.get x).isNone = (s.snd.outbuf.get x).isNone := by
  induction resends generalizing i s with
  | nil => rfl
  | cons v rest ih =>
      have hSent := isNone_sendPacket env v s x
      unfold resendLoop
      split
      · exact ih i s
      · dsimp only
        split_ifs
        · exact hSent
        · rw [ih]
          exact hSent

theorem outbuf_maybeDecayWin (s : Conn) : s.maybeDecayWin.snd = s.snd := by
  unfold maybeDecayWin
  split_ifs <;> rfl

/-- A selective ack empties exactly the slots of the packets that have been sent and for
which a bit is set. -/
theorem isNone_selectiveAck {s : Conn} (hSize : (s.snd.outbuf.size : Int) ∣ 65536)
    (hCount : 0 < s.snd.curWindowPackets) (x : Int) :
    (s.selectiveAck env d mask base).snd.outbuf.get x = none ↔ s.snd.outbuf.get x = none ∨
      (∃ i < mask.extLen * 8, s.Hits d mask base i x) ∧
        ∃ pkt, s.snd.outbuf.get x = some pkt ∧ pkt.transmissions ≠ 0 := by
  have hSweep := sweeps_selectiveAckFrom env d mask base (mask.extLen * 8) ⟨0, []⟩ hSize
  unfold selectiveAck
  rw [if_neg (by omega)]
  dsimp only
  generalize s.selectiveAckFrom env d mask base (mask.extLen * 8) ⟨0, []⟩ = r at hSweep ⊢
  generalize (if r.2.shouldResend (base - 1) r.1 then
    r.1.resends ++ [((u16 (base - 1) : Nat) : Int)] else r.1.resends) = resends
  have hLoop := isNone_resendLoop env resends.reverse 0 r.2 x
  generalize r.2.resendLoop env resends.reverse 0 = done at hLoop ⊢
  have hDecay : (if done.1 > 0 then done.2.maybeDecayWin else done.2).snd.outbuf = done.2.snd.outbuf := by
    split_ifs
    · rw [outbuf_maybeDecayWin]
    · rfl
  rw [hDecay, ← Option.isNone_iff_eq_none, hLoop, Option.isNone_iff_eq_none]
  by_cases hGone : (∃ i < mask.extLen * 8, s.Hits d mask base i x) ∧
      ∃ pkt, s.snd.outbuf.get x = some pkt ∧ pkt.transmissions ≠ 0
  · exact iff_of_true (hSweep.left x hGone.1 hGone.2) (Or.inr hGone)
  · rw [hSweep.kept x hGone, or_iff_left hGone]

end Conn

/-- The slots that a bit is about, in terms of the window: the bit stands for the number of
the `j`-th oldest packet, which is not the oldest. -/
theorem QueueShape.hits_iff {s : Conn} (d : Datagram) (mask : SackMask) (base : Int)
    (h : QueueShape s.snd.seqNr s.snd.curWindowPackets s.snd.curWindow s.snd.outbuf) {i j : Nat}
    (hj : j < s.snd.curWindowPackets) :
    s.Hits d mask base i (s.snd.seqNr - s.snd.curWindowPackets + j) ↔ mask.bit d i = true ∧ 0 < j ∧
      u16 (base + i) = u16 (s.snd.seqNr - s.snd.curWindowPackets + j) := by
  have hLimit := h.count_le_limit
  have hSize := h.count_le
  have hPred : u16 (s.snd.curWindowPackets - 1) = s.snd.curWindowPackets - 1 := by
    have hEmod := u16_emod (s.snd.curWindowPackets - 1)
    have hLt := u16_lt (s.snd.curWindowPackets - 1)
    omega
  unfold Conn.Hits
  refine and_congr_right fun _ => ?_
  rw [u16_eq_iff]
  constructor
  · rintro ⟨hInside, hSlot⟩
    have hInner : u16 (s.snd.seqNr - (base + i) - 1) < u16 (s.snd.curWindowPackets - 1) := by
      simpa [Conn.outsideWindow] using hInside
    obtain ⟨k, hPos, hLt, hSeq⟩ := h.inner_offset (by omega) hInner
    have hApart : (s.snd.outbuf.size : Int) ∣ ((s.snd.seqNr : Int) - s.snd.curWindowPackets) + j -
        (((s.snd.seqNr : Int) - s.snd.curWindowPackets) + k) := by
      have hDiff := Int.dvd_sub (h.dvd_of_seq hSeq) hSlot
      have hEq : (base + i - (s.snd.seqNr - s.snd.curWindowPackets + k)) -
          (base + i - (s.snd.seqNr - s.snd.curWindowPackets + j)) =
            ((s.snd.seqNr : Int) - s.snd.curWindowPackets) + j -
              (((s.snd.seqNr : Int) - s.snd.curWindowPackets) + k) := by ring
      rwa [hEq] at hDiff
    have hSame : j = k := by
      by_contra hOther
      exact CellRing.not_dvd_offset _ (by omega) (by omega) hOther hApart
    subst hSame
    exact ⟨hPos, hSeq⟩
  · rintro ⟨hPos, hSeq⟩
    refine ⟨?_, h.dvd_of_seq hSeq⟩
    have hEmod := u16_emod (s.snd.seqNr - (base + i) - 1)
    have hLt := u16_lt (s.snd.seqNr - (base + i) - 1)
    unfold Conn.outsideWindow
    rw [hPred]
    simp only [ge_iff_le, decide_eq_false_iff_not, not_le]
    omega

end Utp
