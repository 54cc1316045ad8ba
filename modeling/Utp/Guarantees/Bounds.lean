import Utp.Transition.Reading
import Utp.Transition.Counted
import Utp.Guarantees.Extensions
import Utp.Guarantees.AckWindow
import Utp.Guarantees.Teardown

/-! Which bytes of a received packet are read. -/
namespace Utp

open Wrapping Blocks

/-- The read is one of bytes of a packet of `len` bytes, and one of a mask is of the bytes of
its extension block. -/
def Inside (len : Nat) : Event → Prop
  | .readBytes off count => off + count ≤ len
  | .readMask mask index extLen => index < extLen ∧ mask + extLen ≤ len
  | _ => True

theorem inside_of_common (len : Nat) (e : Event) (h : e.isCommon = true) : Inside len e := by
  cases e with
  | readBytes off count | readMask mask index extLen => cases h
  | _ => trivial

/-- The block of the mask is inside the packet. -/
def SackMask.Fits (m : SackMask) (len : Nat) : Prop := m.off + m.extLen ≤ len

namespace Conn

section

variable {d : Datagram} {s : Conn}

/-- The loop over the extension headers reads bytes of the packet only, and where it ends, the
payload and the mask are inside the packet. -/
theorem adds_extensionLoop (fuel off type : Nat) (selack : Option SackMask) (s : Conn) (hLen : d.len < 2147483648)
    (hOff : off ≤ d.len) (hMask : ∀ m, selack = some m → m.Fits d.len) :
    Adds (Inside d.len) s (s.extensionLoop d fuel off type selack).2 ∧
      ∀ data selack', (s.extensionLoop d fuel off type selack).1 = some (data, selack') →
        data ≤ d.len ∧ ∀ m, selack' = some m → m.Fits d.len := by
  induction fuel generalizing off type selack s with
  | zero => exact ⟨.refl s, fun data selack' h => by cases h⟩
  | succ fuel ih =>
      unfold extensionLoop
      dsimp only
      rw [i32_of_lt (by omega) (by omega)]
      by_cases hRoom : (d.len : Int) - ((off + 2 : Nat) : Int) < 0
      · rw [if_pos hRoom]
        exact ⟨.refl s, fun data selack' h => by cases h⟩
      rw [if_neg hRoom]
      have hLength : Adds (Inside d.len) s (s.emit (.readBytes (off + 2 - 1) 1)) :=
        .emit s (show off + 2 - 1 + 1 ≤ d.len by omega)
      by_cases hBody : (d.len : Int) - ((off + 2 : Nat) : Int) < d.byte (off + 2 - 1)
      · rw [if_pos hBody]
        exact ⟨hLength, fun data selack' h => by cases h⟩
      rw [if_neg hBody]
      by_cases hKnown : (decide (type = 2) && decide (d.byte (off + 2 - 1) ≠ 8)) = true
      · rw [if_pos hKnown]
        exact ⟨hLength, fun data selack' h => by cases h⟩
      rw [if_neg hKnown]
      have hEight : type = 2 → d.byte (off + 2 - 1) = 8 := by
        intro hTwo
        simpa [hTwo] using hKnown
      have hBits : Adds (Inside d.len) s ((if type = 2 then
          { (s.emit (.readBytes (off + 2 - 1) 1)).emit (.readBytes (off + 2) 8) with
            rcv.extensions := (List.range 8).map fun i => d.mem (off + 2 + i) }
          else s.emit (.readBytes (off + 2 - 1) 1)).emit (.readBytes (off + 2 - 2) 1)) := by
        refine .trans (hLength.trans ?_) (.emit _ (show off + 2 - 2 + 1 ≤ d.len by omega))
        split_ifs with hTwo
        · have hFits := hEight hTwo
          have hRead : Adds (Inside d.len) (s.emit (.readBytes (off + 2 - 1) 1))
              ((s.emit (.readBytes (off + 2 - 1) 1)).emit (.readBytes (off + 2) 8)) :=
            .emit _ (show off + 2 + 8 ≤ d.len by omega)
          exact hRead.trans (.of_log rfl)
        · exact .refl _
      have hNextMask : ∀ m, (if type = 1 then some ⟨off + 2, d.byte (off + 2 - 1)⟩ else selack) = some m → m.Fits d.len := by
        intro m hm
        split_ifs at hm
        · cases hm
          show off + 2 + d.byte (off + 2 - 1) ≤ d.len
          omega
        · exact hMask m hm
      dsimp only at hBits
      generalize (if type = 2 then _ else s.emit (.readBytes (off + 2 - 1) 1)).emit (.readBytes (off + 2 - 2) 1) = t at hBits ⊢
      generalize (if type = 1 then some ⟨off + 2, d.byte (off + 2 - 1)⟩ else selack) = next at hNextMask ⊢
      split_ifs with hMore
      · obtain ⟨hRest, hEnd⟩ := ih (off + 2 + d.byte (off + 2 - 1)) (d.byte (off + 2 - 2)) next t (by omega) hNextMask
        exact ⟨hBits.trans hRest, hEnd⟩
      · refine ⟨hBits, fun data selack' h => ?_⟩
        cases h
        exact ⟨by omega, hNextMask⟩

theorem adds_skipExtensions (s : Conn) (hLong : 20 ≤ d.len) (hLen : d.len < 2147483648) :
    Adds (Inside d.len) s (s.skipExtensions d).2 ∧
      ∀ data selack, (s.skipExtensions d).1 = some (data, selack) → data ≤ d.len ∧ ∀ m, selack = some m → m.Fits d.len := by
  unfold skipExtensions
  split_ifs
  · exact adds_extensionLoop _ 20 _ none s hLen hLong fun m h => by cases h
  · refine ⟨.refl s, fun data selack h => ?_⟩
    cases h
    exact ⟨hLong, fun m h => by cases h⟩

variable {mask : SackMask} {base : Int}

theorem inside_access {n : Nat} (hMask : mask.Fits d.len) (hBit : n < mask.extLen * 8) : Inside d.len (mask.access n) :=
  ⟨by omega, hMask⟩

/-- A turn of `selective_ack_bytes` reads the mask for a packet of the window that has been sent. -/
theorem selectiveAckBytesAt_reads (d : Datagram) (mask : SackMask) (base : Int) (now n : Nat) (a : AckedBytes) (s : Conn) :
    (s.selectiveAckBytesAt d mask base now n a).2 =
      if s.outsideWindow (base + n) || (s.snd.sentAt (base + n)).isNone then s else s.emit (mask.access n) := by
  have hNonneg : (n : Int) ≥ 0 := Int.natCast_nonneg n
  unfold selectiveAckBytesAt SendState.sentAt
  cases hOut : s.outsideWindow (base + n) with
  | true => rfl
  | false =>
      cases hGet : s.snd.outbuf.get (base + n) with
      | none => rfl
      | some pkt =>
          by_cases hUnsent : pkt.transmissions = 0
          · simp [hUnsent]
          · simp only [if_neg hUnsent, if_pos hNonneg, Int.toNat_natCast]
            split_ifs with hBit <;> simp_all

/-- The turns of `selective_ack_bytes` at the bits that the mask has. -/
theorem adds_selectiveAckBytesFrom (now n : Nat) (a : AckedBytes) (s : Conn) (hMask : mask.Fits d.len)
    (hBits : n ≤ mask.extLen * 8) : Adds (Inside d.len) s (s.selectiveAckBytesFrom d mask base now n a).2 := by
  induction n generalizing a s with
  | zero =>
      have hSign : ¬(-1 : Int) ≥ 0 := by decide
      unfold selectiveAckBytesFrom selectiveAckBytesAt
      simp only [if_neg hSign, ite_self]
      split
      · exact .refl s
      · split <;> exact .refl s
  | succ n ih =>
      have hTurn : Adds (Inside d.len) s (s.selectiveAckBytesAt d mask base now n a).2 := by
        rw [selectiveAckBytesAt_reads]
        split_ifs
        · exact .refl s
        · exact .emit s (inside_access hMask (by omega))
      exact hTurn.trans (ih _ _ (by omega))

/-- One turn of the bit loop of `selective_ack`. -/
theorem adds_selectiveAckAt (env : Env) (bits : Int) (scan : EackScan) (s : Conn) (hMask : mask.Fits d.len)
    (hBits : bits < mask.extLen * 8) : Adds (Inside d.len) s (s.selectiveAckAt env d mask base bits scan).2 := by
  have hOther := inside_of_common d.len
  have hRead : Adds (Inside d.len) s (if bits ≥ 0 then s.emit (mask.access bits.toNat) else s) := by
    split_ifs
    · exact .emit s (inside_access hMask (by omega))
    · exact .refl s
  unfold selectiveAckAt
  dsimp only
  by_cases hOut : s.outsideWindow (base + bits) = true
  · rw [if_pos hOut]
    exact .refl s
  rw [if_neg hOut]
  refine hRead.trans ?_
  generalize (if bits ≥ 0 then s.emit (mask.access bits.toNat) else s) = t
  generalize (decide (bits ≥ 0) && mask.bit d bits.toNat) = bitSet
  generalize (if bitSet = true then { scan with count := scan.count + 1 } else scan) = scan'
  split
  · exact .refl t
  · split_ifs
    · exact .refl t
    · refine .trans ?_ (.emit _ (hOther _ rfl))
      exact (adds_check hOther 1553 _ t).trans (adds_ackPacket hOther env (base + bits) _)
    · exact .refl t
    · exact .refl t

theorem adds_selectiveAckFrom (env : Env) (n : Nat) (scan : EackScan) (s : Conn) (hMask : mask.Fits d.len)
    (hBits : n ≤ mask.extLen * 8) : Adds (Inside d.len) s (s.selectiveAckFrom env d mask base n scan).2 := by
  induction n generalizing scan s with
  | zero => exact adds_selectiveAckAt env (-1) scan s hMask (by omega)
  | succ n ih => exact (adds_selectiveAckAt env n scan s hMask (by omega)).trans (ih _ _ (by omega))

theorem adds_selectiveAck (env : Env) (s : Conn) (hMask : mask.Fits d.len) :
    Adds (Inside d.len) s (s.selectiveAck env d mask base) := by
  have hOther := inside_of_common d.len
  have hDecay : ∀ t : Conn, t.maybeDecayWin.log = t.log := by
    intro t
    unfold maybeDecayWin
    split_ifs <;> rfl
  unfold selectiveAck
  by_cases hNone : s.snd.curWindowPackets = 0
  · rw [if_pos hNone]
    exact .refl s
  rw [if_neg hNone]
  dsimp only
  have hScan : Adds (Inside d.len) s (s.selectiveAckFrom env d mask base (mask.extLen * 8) ⟨0, []⟩).2 :=
    adds_selectiveAckFrom env _ ⟨0, []⟩ s hMask le_rfl
  generalize s.selectiveAckFrom env d mask base (mask.extLen * 8) ⟨0, []⟩ = r at hScan ⊢
  refine hScan.trans ?_
  generalize (if r.2.shouldResend (base - 1) r.1 = true then r.1.resends ++ [((u16 (base - 1) : Nat) : Int)]
    else r.1.resends) = resends
  refine (adds_resendLoop hOther env resends.reverse 0 r.2).trans ?_
  split_ifs
  · exact .of_log (hDecay _)
  · exact .of_log rfl

end

end Conn

/-- The event has been recorded since. -/
def Records (e : Event) (s s' : Conn) : Prop := ∃ before after, s'.log = s.log ++ (before ++ e :: after)

namespace Records

variable {P : Event → Prop} {e : Event} {s t u : Conn}

theorem emit (e : Event) (s : Conn) : Records e s (s.emit e) := ⟨[], [], rfl⟩

theorem after (h : Records e t u) (hFirst : Adds P s t) : Records e s u := by
  obtain ⟨before, after, hLog⟩ := h
  obtain ⟨events, hEvents, -⟩ := hFirst
  exact ⟨events ++ before, after, by rw [hLog, hEvents, List.append_assoc, List.append_assoc]⟩

theorem before (h : Records e s t) (hLast : Adds P t u) : Records e s u := by
  obtain ⟨before, after, hLog⟩ := h
  obtain ⟨events, hEvents, -⟩ := hLast
  exact ⟨before, after ++ events, by simp [hEvents, hLog]⟩

theorem not_adds (h : Records e s t) (hBad : ¬P e) : ¬Adds P s t := by
  rintro ⟨events, hEvents, hAll⟩
  obtain ⟨before, after, hLog⟩ := h
  have hSame : before ++ e :: after = events := List.append_cancel_left (hLog.symm.trans hEvents)
  rw [← hSame] at hAll
  exact hBad (hAll e (by simp))

end Records

namespace Conn

variable {d : Datagram} {s : Conn}

/-- The number of the packet that would have the bit just past a mask of `extLen` bytes. -/
def pastMask (header : PacketFormatV1) (extLen : Nat) : Int := u16 (header.ackNr + 2) + (extLen * 8 : Nat)

/-- The packet just past those that the mask is about is in the window, it is not the oldest one,
and it has been sent. -/
def Overruns (header : PacketFormatV1) (extLen : Nat) (s : Conn) : Prop :=
  s.snd.curWindowPackets ≠ 0 ∧ s.outsideWindow (pastMask header extLen) = false ∧
    (s.snd.sentAt (pastMask header extLen)).isSome = true

theorem Overruns.congr {t : Conn} {header : PacketFormatV1} {extLen : Nat} (hSeq : t.snd.seqNr = s.snd.seqNr)
    (hCount : t.snd.curWindowPackets = s.snd.curWindowPackets) (hBuf : t.snd.outbuf = s.snd.outbuf) :
    t.Overruns header extLen ↔ s.Overruns header extLen := by
  unfold Overruns outsideWindow SendState.sentAt
  rw [hSeq, hCount, hBuf]

/-- All that is read is inside the packet and its mask, unless the byte past the mask is. -/
structure ReadsMask (d : Datagram) (mask : SackMask) (bad : Prop) (s s' : Conn) : Prop where
  inside : ¬bad → Adds (Inside d.len) s s'
  past : bad → Records (mask.access (mask.extLen * 8)) s s'

namespace ReadsMask

variable {mask : SackMask} {bad : Prop} {t u : Conn}

theorem after (h : ReadsMask d mask bad t u) (hFirst : Adds (Inside d.len) s t) : ReadsMask d mask bad s u :=
  ⟨fun hGood => hFirst.trans (h.inside hGood), fun hBad => (h.past hBad).after hFirst⟩

theorem before (h : ReadsMask d mask bad s t) (hLast : Adds (Inside d.len) t u) : ReadsMask d mask bad s u :=
  ⟨fun hGood => (h.inside hGood).trans hLast, fun hBad => (h.past hBad).before hLast⟩

end ReadsMask

/-- `selective_ack_bytes` starts with the bit just past the mask. -/
theorem readsMask_selectiveAckBytes (env : Env) {mask : SackMask} (header : PacketFormatV1) (a : AckedBytes) (s : Conn)
    (hMask : mask.Fits d.len) : ReadsMask d mask (s.Overruns header mask.extLen) s
      (s.selectiveAckBytes env d mask (u16 (header.ackNr + 2)) a).2 := by
  unfold selectiveAckBytes
  by_cases hNone : s.snd.curWindowPackets = 0
  · rw [if_pos hNone]
    exact ⟨fun _ => .refl s, fun hBad => absurd hNone hBad.1⟩
  rw [if_neg hNone]
  dsimp only
  unfold selectiveAckBytesFrom
  dsimp only
  have hTurn := selectiveAckBytesAt_reads d mask (u16 (header.ackNr + 2)) (s.utpCallGetMicroseconds env)
    (mask.extLen * 8) a s.called
  generalize s.called.selectiveAckBytesAt d mask (u16 (header.ackNr + 2)) (s.utpCallGetMicroseconds env)
    (mask.extLen * 8 : Nat) a = r at hTurn ⊢
  have hRest : Adds (Inside d.len) r.2 (r.2.selectiveAckBytesFrom d mask (u16 (header.ackNr + 2))
      (s.utpCallGetMicroseconds env) (mask.extLen * 8) r.1).2 := adds_selectiveAckBytesFrom _ _ r.1 r.2 hMask le_rfl
  have hCalled : Adds (Inside d.len) s s.called := .of_log rfl
  refine ReadsMask.before (t := r.2) ⟨fun hGood => ?_, fun hBad => ?_⟩ hRest
  · have hSkipped : (s.called.outsideWindow (pastMask header mask.extLen) ||
        (s.called.snd.sentAt (pastMask header mask.extLen)).isNone) = true := by
      by_contra hRead
      simp only [Bool.or_eq_true, not_or, Bool.not_eq_true, Option.isNone_eq_false_iff] at hRead
      exact hGood ⟨hNone, hRead⟩
    rw [hTurn.trans (if_pos hSkipped)]
    exact hCalled
  · have hRead : ¬(s.called.outsideWindow (pastMask header mask.extLen) ||
        (s.called.snd.sentAt (pastMask header mask.extLen)).isNone) = true := by
      simp only [Bool.or_eq_true, not_or, Bool.not_eq_true, Option.isNone_eq_false_iff]
      exact hBad.2
    rw [hTurn.trans (if_neg hRead)]
    exact (Records.emit _ s.called).after hCalled

theorem readsMask_measureAcks (env : Env) {mask : SackMask} (header : PacketFormatV1) (acks : Nat) (s : Conn)
    (hMask : mask.Fits d.len) : ReadsMask d mask (s.Overruns header mask.extLen) s
      (s.measureAcks env d header (some mask) acks).2 := by
  obtain ⟨-, hSnd, -⟩ := ackedBytesFrom_eq env (s.utpCallGetMicroseconds env) acks 0 ⟨0, int64Max⟩ s.called
  have hAcked : Adds (Inside d.len) s.called (s.called.ackedBytesFrom env (s.utpCallGetMicroseconds env) acks 0 ⟨0, int64Max⟩).2 :=
    adds_ackedBytesFrom (inside_of_common d.len) env _ acks 0 _ s.called
  unfold measureAcks
  dsimp only
  generalize s.called.ackedBytesFrom env (s.utpCallGetMicroseconds env) acks 0 ⟨0, int64Max⟩ = r at hSnd hAcked ⊢
  have hSame : r.2.snd = s.snd := hSnd
  have hReads := readsMask_selectiveAckBytes env header r.1 r.2 hMask
  rw [Overruns.congr (congrArg SendState.seqNr hSame) (congrArg SendState.curWindowPackets hSame)
    (congrArg SendState.outbuf hSame)] at hReads
  exact hReads.after (.trans (.of_log rfl) hAcked)

/-- What follows the acknowledgments. -/
theorem adds_receiveData (env : Env) (header : PacketFormatV1) (data offset : Nat) (s : Conn) (hData : data ≤ d.len) :
    Adds (Inside d.len) s (s.receiveData env d header data offset) := by
  have hOther := inside_of_common d.len
  have hNoted : Adds (Inside d.len) s ((s.noteFin header).emit (.readBytes data (d.len - data))) := by
    refine .trans ?_ (.emit _ (show data + (d.len - data) ≤ d.len by omega))
    unfold noteFin
    split_ifs <;> exact .of_log rfl
  unfold receiveData
  dsimp only
  split_ifs
  · exact .refl s
  · exact .refl s
  · exact hNoted.trans (adds_receiveInOrder hOther env trivial header.seqNr _ _)
  · exact hNoted.trans (adds_receiveOutOfOrder hOther trivial header.seqNr offset _ _)

/-- What follows the measurement of an ack, up to the selective acks. -/
theorem adds_applyAcks (env : Env) (header : PacketFormatV1) (time acks : Nat) (a : AckedBytes) (s : Conn) :
    Adds (Inside d.len) s (if acks ≤ (s.controlWindow header time a).snd.curWindowPackets then
      (s.controlWindow header time a).processAcks env header acks else s.controlWindow header time a) := by
  have hOther := inside_of_common d.len
  have hControl := adds_controlWindow hOther header time a s
  split_ifs
  · exact hControl.trans (adds_processAcks hOther env header acks _)
  · exact hControl

theorem adds_receiveAcks (env : Env) (header : PacketFormatV1) (time : Nat) (s : Conn) :
    Adds (Inside d.len) s (s.receiveAcks env d header none time) := by
  have hOther := inside_of_common d.len
  unfold receiveAcks measureAcks
  dsimp only
  refine (adds_countDuplicateAck hOther env header s).trans ?_
  refine .trans ?_ (adds_applyAcks env header time _ _ _)
  exact .trans (.of_log rfl) (adds_ackedBytesFrom hOther env _ _ 0 _ _)

theorem readsMask_receiveAcks (env : Env) {mask : SackMask} (header : PacketFormatV1) (time : Nat) (s : Conn)
    (hMask : mask.Fits d.len) : ReadsMask d mask (s.Overruns header mask.extLen) s
      (s.receiveAcks env d header (some mask) time) := by
  have hOther := inside_of_common d.len
  obtain ⟨hSeq, hCount, hBuf, -⟩ := snd_countDuplicateAck env header s
  have hReads := readsMask_measureAcks env header (s.acksOf header) (s.countDuplicateAck env header) hMask
  rw [Overruns.congr hSeq hCount hBuf] at hReads
  unfold receiveAcks
  dsimp only
  refine .before ?_ (adds_selectiveAck env _ hMask)
  refine .before ?_ (adds_applyAcks env header time _ _ _)
  exact hReads.after (adds_countDuplicateAck hOther env header s)

theorem adds_afterAcks (env : Env) (header : PacketFormatV1) (data offset : Nat) (s : Conn) (hData : data ≤ d.len) :
    Adds (Inside d.len) s ((s.check 2328 s.frontQueued).makeWritable.receiveData env d header data offset) := by
  have hOther := inside_of_common d.len
  refine (adds_check hOther 2328 s.frontQueued s).trans ?_
  exact (adds_makeWritable hOther _).trans (adds_receiveData env header data offset _ hData)

theorem adds_atExtensions (env : Env) (d : Datagram) (s : Conn) (hLong : 20 ≤ d.len) :
    Adds (Inside d.len) s (s.atExtensions env d) := by
  refine .trans ?_ (adds_check (inside_of_common d.len) 1836 _ _)
  refine .trans (.trans (.of_log rfl) (.emit (s.updateCurrentMs env) (?_ : Inside d.len (.readBytes 0 20)))) (.of_log rfl)
  exact hLong

/-- A packet that does not get to the acknowledgments is read up to its extension headers at most. -/
theorem adds_dropped (env : Env) (syn : Bool) (hLong : 20 ≤ d.len) (hLen : d.len < 2147483648)
    (hDropped : s.ackPoint env d = none ∨ syn = true) : Adds (Inside d.len) s (s.utpProcessIncoming env d syn) := by
  have hOther := inside_of_common d.len
  have hHead : Adds (Inside d.len) s ((s.updateCurrentMs env).emit (.readBytes 0 20)) :=
    .trans (.of_log rfl) (.emit (s.updateCurrentMs env) (show 0 + 20 ≤ d.len from hLong))
  by_cases hType : d.header.type ≥ stNumStates
  · unfold utpProcessIncoming
    dsimp only
    rw [if_pos hType]
    exact hHead
  cases hAck : s.ackInvalid d.header with
  | true =>
      have hSame : (((s.updateCurrentMs env).emit (.readBytes 0 20)).called).ackInvalid d.header = true := hAck
      unfold utpProcessIncoming
      dsimp only
      rw [if_neg hType, hSame, if_pos rfl]
      exact hHead.trans (.of_log rfl)
  | false =>
      obtain ⟨hParsed, -⟩ := adds_skipExtensions (s.atExtensions env d) hLong hLen
      rw [utpProcessIncoming_eq env syn hLong (Nat.lt_of_not_le hType) hAck]
      unfold ackPoint at hDropped
      rw [hAck] at hDropped
      generalize (s.atExtensions env d).skipExtensions d = r at hParsed hDropped ⊢
      refine (adds_atExtensions env d s hLong).trans (hParsed.trans ?_)
      obtain ⟨result, t⟩ := r
      cases result with
      | none => exact .refl t
      | some found =>
          obtain ⟨data, selack⟩ := found
          have hHeard : Adds (Inside d.len) t (t.heard d.header) := by
            unfold heard
            dsimp only
            split_ifs <;> exact .of_log rfl
          change Adds (Inside d.len) t (t.processBody env d d.header data selack (s.receiptTime env) syn)
          rw [processBody_eq]
          by_cases hSyn : syn = true
          · rw [if_pos hSyn]
            exact hHeard
          have hFar : (t.heard d.header).seqOffset d.header ≥ reorderBufferMaxSize := by
            by_contra hNear
            rcases hDropped with hNone | hFirst
            · have hChecks : ¬(decide (d.header.type ≥ stNumStates) || false || decide (d.len < 20)) = true := by
                simp [hType, hLong]
              rw [if_neg hChecks] at hNone
              dsimp only at hNone
              rw [if_neg hNear] at hNone
              cases hNone
            · exact hSyn hFirst
          rw [if_neg hSyn, if_pos hFar]
          split_ifs
          · exact hHeard.trans (.emit _ trivial)
          · exact hHeard

/-- The packet makes `selective_ack_bytes` look past its mask: it is not dropped before the
acknowledgments, and the packet just past those that its last mask is about is in flight. -/
structure Overreads (d : Datagram) (s : Conn) : Prop where
  acked : s.ackInvalid d.header = false
  near : (s.heard d.header).seqOffset d.header < reorderBufferMaxSize
  mask : ∃ blocks x, d.header.ext ≠ 0 ∧ d.Chained 20 d.header.ext blocks ∧
    lastOf 1 (placed 20 d.header.ext blocks) = some x ∧ s.Overruns d.header x.body.length

theorem seqOffset_heard {t : Conn} (header : PacketFormatV1) (hState : t.state = s.state) (hAck : t.rcv.ackNr = s.rcv.ackNr) :
    (t.heard header).seqOffset header = (s.heard header).seqOffset header := by
  unfold heard seqOffset
  dsimp only
  rw [hState]
  split_ifs
  · rfl
  · rw [hAck]

/-- The mask of a chain is that of its last block of that type. -/
theorem skipExtensions_of_chained {blocks : List Block} (s : Conn) (hLong : 20 ≤ d.len) (hLen : d.len < 2147483648)
    (hExt : d.header.ext ≠ 0) (hChained : d.Chained 20 d.header.ext blocks) : ∃ data t,
      s.skipExtensions d = (some (data, (lastOf 1 (placed 20 d.header.ext blocks)).map fun x => ⟨x.off, x.body.length⟩), t) ∧
      t.state = s.state ∧ t.rcv.ackNr = s.rcv.ackNr := by
  obtain ⟨log, hParsed⟩ := extensionLoop_of_chained s none hLen hLong (by omega : d.len - 20 < d.len + 1) hChained
  unfold skipExtensions
  rw [if_pos hExt, hParsed, Option.or_none]
  exact ⟨_, _, rfl, rfl, rfl⟩

/-- The condition says where the processing of the packet gets. -/
theorem overreads_iff (env : Env) (hLong : 20 ≤ d.len) (hLen : d.len < 2147483648) (hType : d.header.type < stNumStates) :
    s.Overreads d ↔ ∃ a mask, s.ackPoint env d = some a ∧ a.selack = some mask ∧ s.Overruns d.header mask.extLen := by
  have hSocket := socket_atExtensions env d s
  have hState : (s.atExtensions env d).state = s.state := congrArg Socket.state hSocket
  have hAckNr : (s.atExtensions env d).rcv.ackNr = s.rcv.ackNr := congrArg (fun sock => sock.rcv.ackNr) hSocket
  constructor
  · rintro ⟨hAck, hNear, blocks, x, hExt, hChained, hLast, hOver⟩
    obtain ⟨data, t, hParsed, hSame, hSameAck⟩ := skipExtensions_of_chained (s.atExtensions env d) hLong hLen hExt hChained
    have hOffset := seqOffset_heard d.header (hSame.trans hState) (hSameAck.trans hAckNr)
    refine ⟨⟨t.heard d.header, data, some ⟨x.off, x.body.length⟩, s.receiptTime env⟩, ⟨x.off, x.body.length⟩, ?_, rfl, hOver⟩
    have hChecks : ¬(decide (d.header.type ≥ stNumStates) || s.ackInvalid d.header || decide (d.len < 20)) = true := by
      simp [hType, hAck, hLong]
    unfold ackPoint
    rw [if_neg hChecks, hParsed, hLast]
    dsimp only [Option.map_some]
    rw [if_neg (by omega)]
  · rintro ⟨a, mask, hPoint, hSelack, hOver⟩
    obtain ⟨-, -, hAck, -, t, hParsed, hHeard, hNear⟩ := ackPoint_cases hPoint
    have hExt : d.header.ext ≠ 0 := by
      intro hNone
      unfold skipExtensions at hParsed
      rw [if_neg (not_not.2 hNone), hSelack] at hParsed
      simp at hParsed
    have hSome : ((s.atExtensions env d).extensionLoop d (d.len + 1) 20 d.header.ext none).1.isSome = true := by
      unfold skipExtensions at hParsed
      rw [if_pos hExt] at hParsed
      rw [hParsed]
      rfl
    obtain ⟨blocks, hChained⟩ := chained_of_extensionLoop hLen hLong hSome
    obtain ⟨data, u, hFound, hSame, hSameAck⟩ := skipExtensions_of_chained (s.atExtensions env d) hLong hLen hExt hChained
    have hOffset := seqOffset_heard d.header (hSame.trans hState) (hSameAck.trans hAckNr)
    rw [hFound] at hParsed
    simp only [Prod.mk.injEq, Option.some.injEq] at hParsed
    obtain ⟨⟨-, hMasks⟩, rfl⟩ := hParsed
    rw [hHeard, hOffset] at hNear
    obtain ⟨x, hLast, hMask⟩ := Option.map_eq_some_iff.1 (hMasks.trans hSelack)
    cases hMask
    exact ⟨hAck, hNear, blocks, x, hExt, hChained, hLast, hOver⟩

/-- What is read of a packet that belongs to a connection. -/
theorem adds_utpProcessIncoming_iff (env : Env) (hLong : 20 ≤ d.len) (hLen : d.len < 2147483648)
    (hType : d.header.type < stNumStates) :
    Adds (Inside d.len) s (s.utpProcessIncoming env d false) ↔ ¬s.Overreads d := by
  rw [overreads_iff env hLong hLen hType]
  cases hPoint : s.ackPoint env d with
  | none =>
      refine iff_of_true (adds_dropped env false hLong hLen (Or.inl hPoint)) ?_
      rintro ⟨a, mask, hSome, -⟩
      cases hSome
  | some a =>
      obtain ⟨-, -, -, -, t, hParsed, hHeard, -⟩ := ackPoint_cases hPoint
      obtain ⟨hSkipped, hFits⟩ := adds_skipExtensions (s.atExtensions env d) hLong hLen
      rw [hParsed] at hSkipped hFits
      obtain ⟨hData, hMask⟩ := hFits a.data a.selack rfl
      have hStart : Adds (Inside d.len) s a.state := by
        refine (adds_atExtensions env d s hLong).trans (hSkipped.trans ?_)
        rw [hHeard]
        unfold heard
        dsimp only
        split_ifs <;> exact .of_log rfl
      have hSnd := snd_ackPoint env d hPoint
      have hEnd := fun u : Conn => adds_afterAcks env d.header a.data (a.state.seqOffset d.header) u hData
      rw [utpProcessIncoming_ackPoint hPoint]
      unfold processAccepted
      dsimp only
      cases hSelack : a.selack with
      | none =>
          refine iff_of_true ((hStart.trans (adds_receiveAcks env d.header a.time a.state)).trans (hEnd _)) ?_
          rintro ⟨a', mask, hSome, hMask', -⟩
          cases hSome
          exact absurd (hSelack.symm.trans hMask') (by simp)
      | some mask =>
          have hReads := ((readsMask_receiveAcks env d.header a.time a.state (hMask mask hSelack)).after hStart).before (hEnd _)
          rw [Overruns.congr (congrArg SendState.seqNr hSnd) (congrArg SendState.curWindowPackets hSnd)
            (congrArg SendState.outbuf hSnd)] at hReads
          constructor
          · rintro hInside ⟨a', mask', hSome, hMask', hOver⟩
            cases hSome
            cases Option.some.inj (hSelack.symm.trans hMask')
            have hPast : ¬Inside d.len (mask.access (mask.extLen * 8)) := by
              rintro ⟨hIndex, -⟩
              omega
            exact (hReads.past hOver).not_adds hPast hInside
          · intro hGood
            exact hReads.inside fun hOver => hGood ⟨a, mask, rfl, hSelack, hOver⟩

/-- Of the SYN that a socket is created for, only the headers are read. -/
theorem adds_acceptSocket (env : Env) (addr : PackedSockAddr) (s : Conn) (hLong : 20 ≤ d.len) (hLen : d.len < 2147483648) :
    Adds (Inside d.len) s (s.acceptSocket env d addr) := by
  have hOther := inside_of_common d.len
  unfold acceptSocket
  dsimp only
  refine (adds_initializeSocket hOther env addr d.header.connid (d.header.connid + 1) d.header.connid s).trans ?_
  refine (adds_startAccept hOther env d.header.seqNr _).trans ?_
  refine (adds_dropped env true hLong hLen (Or.inr rfl)).trans ?_
  refine (adds_sendAck hOther env true _).trans ?_
  generalize (((s.initializeSocket env addr d.header.connid (d.header.connid + 1) d.header.connid).startAccept env
    d.header.seqNr).utpProcessIncoming env d true).sendAck env true = t
  have hTold : Adds (Inside d.len) t (t.called.emit .onAccept) := .trans (.of_log rfl) (.emit _ trivial)
  split_ifs
  · exact hTold.trans (adds_utpClose hOther env _)
  · exact hTold

theorem adds_receiveReset (len : Nat) (s : Conn) : Adds (Inside len) s s.receiveReset := by
  have hOther := inside_of_common len
  exact (adds_setState hOther _ s).trans (.emit _ (hOther _ rfl))

end Conn

namespace Context

/-- The socket that a packet of an established connection is dispatched to. -/
def Dispatches (d : Datagram) (addr : PackedSockAddr) (p : Nat) (c : Context) : Prop :=
  20 ≤ d.len ∧ utpVersion d.header = 1 ∧ d.header.type ≠ stReset ∧ d.header.type ≠ stSyn ∧
    c.findConn addr d.header.connid = some p

/-- The record of a socket, which is empty until the socket is created. -/
def recordBefore (p : Nat) (c : Context) : List Event := if (c.sockets p).isSome then c.logs p else []

/-- What the context and each of its sockets have read since is inside a packet of `len` bytes. -/
structure ReadsSince (len : Nat) (c c' : Context) : Prop where
  context : ∃ events, c'.log = c.log ++ events ∧ ∀ x ∈ events, Inside len x.2
  sockets : ∀ p sock, c'.sockets p = some sock → ∃ events, c'.logs p = c.recordBefore p ++ events ∧ ∀ e ∈ events, Inside len e

variable {env : Env} {c : Context} {p : Nat} {sock : Socket} {len : Nat}

/-- A function of one socket. -/
theorem readsSince_runOn_iff {c₁ : Context} (hContext : ∃ events, c₁.log = c.log ++ events ∧ ∀ x ∈ events, Inside len x.2)
    (hSockets : c₁.sockets = c.sockets) (hLogs : c₁.logs = c.logs) (hSock : c.sockets p = some sock) (f : Conn → Conn) :
    ReadsSince len c (c₁.runOn p f) ↔ Adds (Inside len) (c₁.enter p sock) (f (c₁.enter p sock)) := by
  have hThere : c₁.sockets p = some sock := by rw [hSockets, hSock]
  have hBefore : c.recordBefore p = c₁.logs p := by
    unfold recordBefore
    rw [hSock, hLogs]
    rfl
  rw [runOn_of_some hThere]
  obtain ⟨acks, ida, hEq, -⟩ := leave_eq p (f (c₁.enter p sock)) c₁
  constructor
  · intro h
    have hNow : (c₁.leave p (f (c₁.enter p sock))).sockets p = some (f (c₁.enter p sock)).toSocket := by
      rw [sockets_leave, Function.update_self]
    obtain ⟨events, hRecord, hInside⟩ := h.sockets p _ hNow
    rw [logs_leave, Function.update_self, hBefore] at hRecord
    exact ⟨events, hRecord, hInside⟩
  · rintro ⟨events, hRecord, hInside⟩
    refine ⟨by rw [hEq]; exact hContext, fun q sock' hSock' => ?_⟩
    by_cases hSame : q = p
    · subst hSame
      rw [logs_leave, Function.update_self, hBefore]
      exact ⟨events, hRecord, hInside⟩
    · rw [sockets_leave, Function.update_of_ne hSame, hSockets] at hSock'
      refine ⟨[], ?_, List.forall_mem_nil _⟩
      rw [logs_leave, Function.update_of_ne hSame, hLogs, recordBefore, hSock']
      simp

/-- Nothing is recorded for any socket. -/
theorem readsSince_aside {c₁ : Context} (hContext : ∃ events, c₁.log = c.log ++ events ∧ ∀ x ∈ events, Inside len x.2)
    (hSockets : c₁.sockets = c.sockets) (hLogs : c₁.logs = c.logs) : ReadsSince len c c₁ := by
  refine ⟨hContext, fun q sock' hSock' => ⟨[], ?_, List.forall_mem_nil _⟩⟩
  rw [hSockets] at hSock'
  rw [hLogs, recordBefore, hSock']
  simp

theorem readsSince_reject {c₁ : Context} (header : PacketFormatV1) (addr : PackedSockAddr)
    (hContext : ∃ events, c₁.log = c.log ++ events ∧ ∀ x ∈ events, Inside len x.2)
    (hSockets : c₁.sockets = c.sockets) (hLogs : c₁.logs = c.logs) : ReadsSince len c (c₁.reject env header addr) := by
  unfold reject
  dsimp only
  split
  · exact readsSince_aside hContext hSockets hLogs
  · split_ifs
    · exact readsSince_aside hContext hSockets hLogs
    · obtain ⟨events, hLog, hInside⟩ := hContext
      refine readsSince_aside ⟨events ++ [(addr, .sendto (rstPacket header (u32 (env (c₁.tick + 1)).random)) 0)], ?_, ?_⟩
        hSockets hLogs
      · rw [← List.append_assoc, ← hLog]
        rfl
      · intro x hx
        rcases List.mem_append.1 hx with hOld | hNew
        · exact hInside x hOld
        · rw [List.mem_singleton.1 hNew]
          trivial

/-- A SYN is read by the socket that is created for it. -/
theorem readsSince_accept {c₁ : Context} {d : Datagram} (addr : PackedSockAddr) (hLong : 20 ≤ d.len) (hLen : d.len < 2147483648)
    (hContext : ∃ events, c₁.log = c.log ++ events ∧ ∀ x ∈ events, Inside d.len x.2)
    (hSockets : c₁.sockets = c.sockets) (hLogs : c₁.logs = c.logs) (hFree : c.sockets c₁.allocated = none) :
    ReadsSince d.len c (c₁.accept env d addr) := by
  unfold accept
  dsimp only
  split_ifs
  · exact readsSince_aside hContext hSockets hLogs
  · exact readsSince_aside hContext hSockets hLogs
  · exact readsSince_aside hContext hSockets hLogs
  · exact readsSince_aside hContext hSockets hLogs
  · have hNow : (c₁.called.create.addKey ⟨addr, d.header.connid + 1⟩ c₁.allocated).sockets c₁.allocated =
        some (utpCreateSocket c₁.targetDelay c₁.optSndbuf c₁.optRcvbuf) := Function.update_self ..
    have hEmpty : (c₁.called.create.addKey ⟨addr, d.header.connid + 1⟩ c₁.allocated).logs c₁.allocated = [] :=
      Function.update_self ..
    have hOthers : ∀ q, q ≠ c₁.allocated →
        (c₁.called.create.addKey ⟨addr, d.header.connid + 1⟩ c₁.allocated).sockets q = c.sockets q ∧
        (c₁.called.create.addKey ⟨addr, d.header.connid + 1⟩ c₁.allocated).logs q = c.logs q := by
      intro q hOther
      rw [← hSockets, ← hLogs]
      exact ⟨Function.update_of_ne hOther .., Function.update_of_ne hOther ..⟩
    have hTable : ∃ events, (c₁.called.create.addKey ⟨addr, d.header.connid + 1⟩ c₁.allocated).log = c.log ++ events ∧
        ∀ x ∈ events, Inside d.len x.2 := hContext
    generalize c₁.called.create.addKey ⟨addr, d.header.connid + 1⟩ c₁.allocated = c₂ at hNow hEmpty hOthers hTable ⊢
    rw [runOn_of_some hNow]
    obtain ⟨events, hRecord, hInside⟩ := Conn.adds_acceptSocket env addr
      (c₂.enter c₁.allocated (utpCreateSocket c₁.targetDelay c₁.optSndbuf c₁.optRcvbuf)) hLong hLen
    generalize (c₂.enter c₁.allocated (utpCreateSocket c₁.targetDelay c₁.optSndbuf c₁.optRcvbuf)).acceptSocket env d addr = s
      at hRecord ⊢
    obtain ⟨acks, ida, hEq, -⟩ := leave_eq c₁.allocated s c₂
    refine ⟨by rw [hEq]; exact hTable, fun q sock' hSock' => ?_⟩
    by_cases hSame : q = c₁.allocated
    · subst hSame
      refine ⟨events, ?_, hInside⟩
      have hStart : (c₂.enter c₁.allocated (utpCreateSocket c₁.targetDelay c₁.optSndbuf c₁.optRcvbuf)).log = [] := hEmpty
      rw [logs_leave, Function.update_self, hRecord, hStart, recordBefore, hFree]
      rfl
    · obtain ⟨hSockSame, hLogSame⟩ := hOthers q hSame
      rw [sockets_leave, Function.update_of_ne hSame, hSockSame] at hSock'
      refine ⟨[], ?_, List.forall_mem_nil _⟩
      rw [logs_leave, Function.update_of_ne hSame, hLogSame, recordBefore, hSock']
      simp

end Context

/-- A packet is read inside its bounds, and its mask inside those of its extension block, exactly
when the socket that it is dispatched to is not led past the mask. -/
theorem udp_reads_inside_iff (env : Env) (c : Context) (hReach : c.Reachable env) (d : Datagram) (addr : PackedSockAddr)
    (hLen : d.len < 2147483648) : c.ReadsSince d.len (c.utpProcessUdp env d addr).2 ↔
      ∀ p sock, c.Dispatches d addr p → c.sockets p = some sock → ¬(c.enter p sock).Overreads d := by
  have hOk := hReach.ok
  unfold Context.utpProcessUdp
  by_cases hShort : d.len < 20
  · rw [if_pos hShort]
    refine iff_of_true (Context.readsSince_aside ⟨[], by simp, List.forall_mem_nil _⟩ rfl rfl) ?_
    intro p sock hDispatch
    exact absurd hDispatch.1 (Nat.not_le.2 hShort)
  rw [if_neg hShort]
  dsimp only
  have hLong : 20 ≤ d.len := Nat.le_of_not_lt hShort
  have hContext : ∃ events, (c.record addr (.readBytes 0 20)).log = c.log ++ events ∧ ∀ x ∈ events, Inside d.len x.2 := by
    refine ⟨[(addr, .readBytes 0 20)], rfl, fun x hx => ?_⟩
    rw [List.mem_singleton.1 hx]
    exact hLong
  by_cases hVersion : utpVersion d.header ≠ 1
  · rw [if_pos hVersion]
    refine iff_of_true (Context.readsSince_aside hContext rfl rfl) ?_
    intro p sock hDispatch
    exact absurd hDispatch.2.1 hVersion
  rw [if_neg hVersion]
  by_cases hReset : d.header.type = stReset
  · rw [if_pos hReset]
    refine iff_of_true ?_ (fun p sock hDispatch => absurd hReset hDispatch.2.2.1)
    cases hFind : (c.record addr (.readBytes 0 20)).findForError addr d.header.connid with
    | none => exact Context.readsSince_aside hContext rfl rfl
    | some p =>
        have hFound : c.findForError addr d.header.connid = some p := hFind
        obtain ⟨sock, ⟨hSock, -⟩, -⟩ := Context.holds_of_findForError hOk hFound
        exact (Context.readsSince_runOn_iff hContext rfl rfl hSock _).2 (Conn.adds_receiveReset d.len _)
  rw [if_neg hReset]
  by_cases hSyn : d.header.type = stSyn
  · rw [if_pos hSyn]
    refine iff_of_true ?_ (fun p sock hDispatch => absurd hSyn hDispatch.2.2.2.1)
    refine Context.readsSince_accept addr hLong hLen hContext rfl rfl ?_
    by_contra hTaken
    obtain ⟨sock, hSock⟩ := Option.ne_none_iff_exists'.1 hTaken
    exact lt_irrefl _ (hOk.allocated c.allocated sock hSock)
  rw [if_neg hSyn]
  cases hFind : (c.record addr (.readBytes 0 20)).findConn addr d.header.connid with
  | none =>
      have hNone : c.findConn addr d.header.connid = none := hFind
      refine iff_of_true (Context.readsSince_reject d.header addr hContext rfl rfl) ?_
      intro p sock hDispatch
      exact absurd (hNone.symm.trans hDispatch.2.2.2.2) (by simp)
  | some p =>
      have hFound : c.findConn addr d.header.connid = some p := hFind
      obtain ⟨sock, ⟨hSock, -⟩, -⟩ := Context.holds_of_findConn hOk hFound
      have hType : d.header.type < stNumStates := by
        by_contra hBad
        exact hVersion (by simp [utpVersion, hBad])
      have hCached : ∃ events, ({ c.record addr (.readBytes 0 20) with lastUtpSocket := some p } : Context).log = c.log ++ events ∧
          ∀ x ∈ events, Inside d.len x.2 := hContext
      have hRun := Context.readsSince_runOn_iff hCached rfl rfl hSock fun s => s.utpProcessIncoming env d false
      refine (hRun.trans (Conn.adds_utpProcessIncoming_iff env hLong hLen hType)).trans ⟨fun hGood q sock' hDispatch hSock' => ?_,
        fun hGood => ?_⟩
      · cases Option.some.inj (hFound.symm.trans hDispatch.2.2.2.2)
        cases Option.some.inj (hSock.symm.trans hSock')
        exact hGood
      · exact hGood p sock ⟨hLong, not_not.1 hVersion, hReset, hSyn, hFound⟩ hSock

/-- A packet with a mask of four bytes. -/
def maskedPacket : Datagram :=
  Datagram.ofList (Wire.bytes ⟨⟨stState, 1, 1, 7, 0, 0, 65536, 78, 7⟩, [0, 4, 255, 255, 255, 255]⟩) fun _ => 0

/-- Three empty writes have put three packets in the queue, the mask is read for each of them, and
the packet past those that it is about is none of them. -/
theorem udp_reads_inside_masked : ∃ c : Context, c.Reachable steadyEnv ∧
    c.Dispatches maskedPacket somePeer 0 ∧
    .readMask 22 0 4 ∈ ((c.utpProcessUdp steadyEnv maskedPacket somePeer).2.logs 0).drop (c.logs 0).length ∧
      c.ReadsSince maskedPacket.len (c.utpProcessUdp steadyEnv maskedPacket somePeer).2 := by
  have hRun : ((utpInit true true).run steadyEnv (connectedOps ++ [.writev 0 [[]], .writev 0 [[]], .writev 0 [[]]])).any
      (fun c => c.findConn somePeer maskedPacket.header.connid == some 0 &&
        (c.sockets 0).any (fun sock => ((c.enter 0 sock).ackPoint steadyEnv maskedPacket).all fun a => a.selack.all
          fun mask => (c.enter 0 sock).outsideWindow (Conn.pastMask maskedPacket.header mask.extLen)) &&
        (((c.utpProcessUdp steadyEnv maskedPacket somePeer).2.logs 0).drop (c.logs 0).length).contains
          (.readMask 22 0 4)) = true := by
    decide +kernel
  obtain ⟨c, hReach, hOk⟩ := Context.Reachable.exists_of_run hRun
  simp only [Bool.and_eq_true, beq_iff_eq, Option.any_eq_true, List.contains_iff_mem] at hOk
  obtain ⟨⟨hFound, sock, hSock, hOutside⟩, hRead⟩ := hOk
  have hDispatch : c.Dispatches maskedPacket somePeer 0 := ⟨by decide, by decide, by decide, by decide, hFound⟩
  refine ⟨c, hReach, hDispatch, hRead, (udp_reads_inside_iff steadyEnv c hReach maskedPacket somePeer (by decide)).2 ?_⟩
  intro p sock' hThere hSock' hOver
  cases Option.some.inj (hFound.symm.trans hThere.2.2.2.2)
  cases Option.some.inj (hSock.symm.trans hSock')
  obtain ⟨a, mask, hPoint, hMask, -, hInside, -⟩ :=
    (Conn.overreads_iff steadyEnv (by decide) (by decide) (by decide)).1 hOver
  rw [hPoint, Option.all_some, hMask, Option.all_some, hInside] at hOutside
  cases hOutside

/-- A packet with an empty mask at its very end. -/
def emptyMaskPacket : Datagram :=
  Datagram.ofList (Wire.bytes ⟨⟨stState, 1, 1, 7, 0, 0, 65536, 78, 7⟩, [0, 0]⟩) fun _ => 0

/-- Three empty writes put two packets in flight, and an empty mask that is about the second one
is read at its first byte, which lies past the end of the packet. -/
theorem empty_mask_read_past_end : ∃ c : Context, c.Reachable steadyEnv ∧ emptyMaskPacket.len = 22 ∧
    .readMask 22 0 0 ∈ ((c.utpProcessUdp steadyEnv emptyMaskPacket somePeer).2.logs 0).drop (c.logs 0).length ∧
      ¬c.ReadsSince emptyMaskPacket.len (c.utpProcessUdp steadyEnv emptyMaskPacket somePeer).2 := by
  have hRun : ((utpInit true true).run steadyEnv (connectedOps ++ [.writev 0 [[]], .writev 0 [[]], .writev 0 [[]]])).any
      (fun c => (c.sockets 0).isSome && ((c.utpProcessUdp steadyEnv emptyMaskPacket somePeer).2.sockets 0).isSome &&
        (((c.utpProcessUdp steadyEnv emptyMaskPacket somePeer).2.logs 0).drop (c.logs 0).length).contains
          (.readMask 22 0 0)) = true := by
    decide +kernel
  obtain ⟨c, hReach, hOk⟩ := Context.Reachable.exists_of_run hRun
  simp only [Bool.and_eq_true, List.contains_iff_mem] at hOk
  obtain ⟨⟨hSome, hStill⟩, hRead⟩ := hOk
  refine ⟨c, hReach, by decide, hRead, fun h => ?_⟩
  obtain ⟨sock, hSock⟩ := Option.isSome_iff_exists.1 hStill
  obtain ⟨events, hRecord, hInside⟩ := h.sockets 0 sock hSock
  rw [Context.recordBefore, if_pos hSome] at hRecord
  rw [hRecord, List.drop_left] at hRead
  exact absurd (hInside _ hRead).1 (by decide)

end Utp
