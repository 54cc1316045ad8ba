import Utp.Invariant.Acked
import Utp.Transition.Trace

/-! Which packets the bit loop of a selective ack puts on its stack. -/
namespace Utp

open Wrapping

namespace Conn

variable (env : Env) (d : Datagram) (mask : SackMask) (base : Int)

/-- What one turn of the bit loop of `selective_ack` does to the count and to the stack. -/
def turn (bits : Int) (scan : EackScan) (s : Conn) : EackScan :=
  if s.outsideWindow (base + bits) then scan
  else if bits ≥ 0 && mask.bit d bits.toNat then { scan with count := scan.count + 1 }
  else if (s.snd.sentAt (base + bits)).isSome && s.shouldResend (base + bits) scan then scan.push (base + bits)
  else scan

/-- The turns for the bits from `n - 1` down to -1, all in the same state. -/
def turns (s : Conn) : Nat → EackScan → EackScan
  | 0, scan => s.turn d mask base (-1) scan
  | n + 1, scan => turns s n (s.turn d mask base n scan)

theorem fst_selectiveAckAt (bits : Int) (scan : EackScan) (s : Conn) :
    (s.selectiveAckAt env d mask base bits scan).1 = s.turn d mask base bits scan := by
  have hRead : (if bits ≥ 0 then s.emit (mask.access bits.toNat) else s).snd = s.snd := by
    split_ifs <;> rfl
  unfold selectiveAckAt turn
  dsimp only
  by_cases hOut : s.outsideWindow (base + bits) = true
  · rw [if_pos hOut, if_pos hOut]
  rw [if_neg hOut, if_neg hOut]
  generalize (if bits ≥ 0 then s.emit (mask.access bits.toNat) else s) = t at hRead ⊢
  generalize (decide (bits ≥ 0) && mask.bit d bits.toNat) = bitSet
  have hShould : ∀ scan, t.shouldResend (base + bits) scan = s.shouldResend (base + bits) scan := fun scan => by
    unfold shouldResend
    rw [hRead]
  unfold SendState.sentAt
  rw [hRead]
  cases s.snd.outbuf.get (base + bits) with
  | none => cases bitSet <;> rfl
  | some pkt =>
      by_cases hUnsent : pkt.transmissions = 0
      · cases bitSet <;> simp [hUnsent]
      · cases bitSet with
        | false =>
            simp only [hUnsent, if_false, Bool.false_eq_true, hShould]
            rw [Option.filter_some_pos (by simpa using hUnsent), Option.isSome_some, Bool.true_and]
            split_ifs <;> rfl
        | true => simp [hUnsent]

/-- A turn sends nothing, and aims where the one before did. -/
theorem still_selectiveAckAt (bits : Int) (scan : EackScan) (s : Conn) :
    (s.selectiveAckAt env d mask base bits scan).2.aim = s.aim ∧
      (s.selectiveAckAt env d mask base bits scan).2.trace = s.trace := by
  have hRead : (if bits ≥ 0 then s.emit (mask.access bits.toNat) else s).aim = s.aim ∧
      (if bits ≥ 0 then s.emit (mask.access bits.toNat) else s).trace = s.trace := by
    split_ifs
    · exact ⟨rfl, trace_minor s rfl rfl rfl⟩
    · exact ⟨rfl, rfl⟩
  unfold selectiveAckAt
  dsimp only
  split
  · exact ⟨rfl, rfl⟩
  generalize (if bits ≥ 0 then s.emit (mask.access bits.toNat) else s) = t at hRead ⊢
  generalize (decide (bits ≥ 0) && mask.bit d bits.toNat) = bitSet
  generalize (if bitSet = true then { scan with count := scan.count + 1 } else scan) = counted
  have hAcked : ∀ ok e, e.isMajor = false → e.wire? = none → e.isSearch = false →
      (((t.check 1553 ok).ackPacket env (base + bits)).2.emit e).aim = s.aim ∧
        (((t.check 1553 ok).ackPacket env (base + bits)).2.emit e).trace = s.trace := by
    intro ok e hMinor hWire hSearch
    have hAim : (t.check 1553 ok).aim = t.aim := congrArg View.aim (view_check 1553 ok t)
    refine ⟨?_, ?_⟩
    · exact ((numbers_ackPacket env (base + bits) (t.check 1553 ok)).1.trans hAim).trans hRead.1
    · rw [trace_minor _ hMinor hWire hSearch, trace_ackPacket, trace_check (by decide)]
      exact hRead.2
  split
  · exact hRead
  · by_cases hUnsent : (‹OutgoingPacket›).transmissions = 0
    · rw [if_pos hUnsent]
      exact hRead
    rw [if_neg hUnsent]
    cases bitSet with
    | true => exact hAcked _ _ rfl rfl rfl
    | false =>
        rw [if_neg Bool.false_ne_true]
        split_ifs <;> exact hRead

/-- The bits that are counted: those that are set and in the window. -/
def countedBit (b : Nat) (s : Conn) : Bool := mask.bit d b && !s.outsideWindow (base + b)

/-- Two numbers of the window have different slots. -/
theorem Fits.apart_inside {s : Conn} (h : Fits s) (hPos : 0 < s.snd.curWindowPackets) {v w : Int}
    (hv : s.outsideWindow v = false) (hw : s.outsideWindow w = false) (hNe : ¬(65536 : Int) ∣ v - w) :
    ¬(s.snd.outbuf.size : Int) ∣ v - w := by
  have hLimit : s.snd.curWindowPackets ≤ 1024 := h.count_le.trans h.size_le
  obtain ⟨i, hi, -, hAt⟩ := (inside_iff hLimit hPos v).1 hv
  obtain ⟨j, hj, -, hAt'⟩ := (inside_iff hLimit hPos w).1 hw
  rw [u16_eq_iff] at hAt hAt'
  have hOther : i ≠ j := by
    rintro rfl
    exact hNe (by omega)
  intro hSlot
  refine h.apart hi hj hOther ?_
  have hEq : s.address i - s.address j = (v - w) - (v - s.address i) + (w - s.address j) := by ring
  rw [hEq]
  exact Int.dvd_add (Int.dvd_sub hSlot (h.size_dvd.trans hAt)) (h.size_dvd.trans hAt')

/-- As far as the bits below `n` are concerned, the queue of `t` is that of `s`. -/
structure Agrees (n : Nat) (s t : Conn) : Prop where
  aim : t.aim = s.aim
  count : t.snd.curWindowPackets = s.snd.curWindowPackets
  size : t.snd.outbuf.size = s.snd.outbuf.size
  get : ∀ bits : Int, -1 ≤ bits → bits < n → s.outsideWindow (base + bits) = false →
    t.snd.outbuf.get (base + bits) = s.snd.outbuf.get (base + bits)

theorem Agrees.outsideWindow {n : Nat} {s t : Conn} (h : Agrees base n s t) (v : Int) :
    t.outsideWindow v = s.outsideWindow v :=
  outsideWindow_congr (congrArg Aim.seqNr h.aim) h.count v

theorem Agrees.turn {n : Nat} {s t : Conn} (h : Agrees base n s t) {bits : Int} (hLow : -1 ≤ bits) (hHigh : bits < n)
    (scan : EackScan) : t.turn d mask base bits scan = s.turn d mask base bits scan := by
  have hFast : t.snd.fastResendSeqNr = s.snd.fastResendSeqNr := congrArg Aim.fastResendSeqNr h.aim
  unfold Conn.turn shouldResend SendState.sentAt
  rw [h.outsideWindow, hFast]
  by_cases hOut : s.outsideWindow (base + bits) = true
  · rw [if_pos hOut, if_pos hOut]
  · rw [h.get bits hLow hHigh (Bool.eq_false_iff.2 hOut)]

/-- What a turn takes out of the queue does not matter to the later ones. -/
theorem Agrees.next {n : Nat} {s t : Conn} (h : Agrees base (n + 1) s t) (hFits : Fits s)
    (hPos : 0 < s.snd.curWindowPackets) (hBits : n < 65535) (scan : EackScan) :
    Agrees base n s (t.selectiveAckAt env d mask base n scan).2 := by
  have hSize : (t.snd.outbuf.size : Int) ∣ 65536 := h.size ▸ hFits.size_dvd
  have hSweep := sweeps_selectiveAckAt env d mask base n scan hSize
  refine ⟨(still_selectiveAckAt env d mask base n scan t).1.trans h.aim, hSweep.count.trans h.count,
    hSweep.size.trans h.size, fun bits hLow hHigh hInside => ?_⟩
  rw [hSweep.kept, h.get bits hLow (by omega) hInside]
  rintro ⟨⟨-, hHere, hSlot⟩, -⟩
  rw [h.outsideWindow] at hHere
  rw [h.size] at hSlot
  refine hFits.apart_inside hPos hHere hInside ?_ hSlot
  omega

theorem fst_selectiveAckFrom (n : Nat) (scan : EackScan) {s t : Conn} (h : Agrees base n s t) (hFits : Fits s)
    (hPos : 0 < s.snd.curWindowPackets) (hBits : n < 65535) :
    (t.selectiveAckFrom env d mask base n scan).1 = s.turns d mask base n scan := by
  induction n generalizing scan t with
  | zero =>
      unfold selectiveAckFrom turns
      rw [fst_selectiveAckAt]
      exact h.turn d mask base le_rfl (by decide) scan
  | succ n ih =>
      unfold selectiveAckFrom turns
      dsimp only
      rw [ih _ (h.next env d mask base hFits hPos (by omega) scan) (by omega), fst_selectiveAckAt]
      rw [h.turn d mask base (by omega) (by omega)]

/-- The number of bits from `k` up to `n - 1` that are counted. -/
def countBetween (k n : Nat) (s : Conn) : Nat :=
  ((List.range n).filter fun b => k ≤ b && s.countedBit d mask base b).length

/-- The packets that a turn with the count `count` puts on the stack. -/
def pushes (bits : Int) (count : Nat) (s : Conn) : Bool :=
  !s.outsideWindow (base + bits) && !(bits ≥ 0 && mask.bit d bits.toNat) &&
    (s.snd.sentAt (base + bits)).isSome && s.shouldResend (base + bits) ⟨count, []⟩

/-- The numbers, in ascending order, that the turns for the bits below `n` put on the stack. -/
def pushed (n count : Nat) (s : Conn) : List Int :=
  ((List.range (n + 1)).filter fun (k : Nat) =>
    s.pushes d mask base (k - 1) (count + s.countBetween d mask base k n)).map fun (k : Nat) => base - 1 + k

theorem countBetween_succ {k n : Nat} (hk : k ≤ n) (s : Conn) : s.countBetween d mask base k (n + 1) =
    s.countBetween d mask base k n + if s.countedBit d mask base n then 1 else 0 := by
  unfold countBetween
  rw [List.range_succ, List.filter_append, List.length_append]
  cases hCounted : s.countedBit d mask base n <;> simp [hCounted, hk]

theorem countBetween_self (n : Nat) (s : Conn) : s.countBetween d mask base n n = 0 := by
  unfold countBetween
  rw [List.length_eq_zero_iff, List.filter_eq_nil_iff]
  intro b hb
  have hLt := List.mem_range.1 hb
  simp [Nat.not_le.2 hLt]

theorem pushed_succ (n count : Nat) (s : Conn) : s.pushed d mask base (n + 1) count =
    s.pushed d mask base n (count + if s.countedBit d mask base n then 1 else 0) ++
      if s.pushes d mask base n count then [base + n] else [] := by
  have hLast : ((n + 1 : Nat) : Int) - 1 = n := by omega
  have hNumber : base - 1 + ((n + 1 : Nat) : Int) = base + n := by omega
  have hBefore : ∀ k ∈ List.range (n + 1),
      s.pushes d mask base (k - 1) (count + s.countBetween d mask base k (n + 1)) =
        s.pushes d mask base (k - 1)
          (count + (if s.countedBit d mask base n then 1 else 0) + s.countBetween d mask base k n) := by
    intro k hk
    rw [countBetween_succ d mask base (Nat.lt_succ_iff.1 (List.mem_range.1 hk))]
    congr 1
    omega
  unfold pushed
  rw [List.range_succ, List.filter_append, List.map_append, List.filter_congr hBefore]
  congr 1
  cases hPush : s.pushes d mask base n count with
  | false => simp [countBetween_self, hPush]
  | true =>
      simp only [countBetween_self, Nat.add_zero, hLast, hPush, List.filter_cons, List.filter_nil, if_true,
        List.map_cons, List.map_nil, hNumber]

/-- The stack holds the numbers that were pushed last. -/
structure Stacked (all : List Int) (scan : EackScan) : Prop where
  suffix : scan.resends <:+ all
  deep : scan.resends = all ∨ 62 ≤ scan.resends.length
  short : scan.resends.length ≤ 126

/-- The lower half of a full stack is given up. -/
theorem Stacked.push {all : List Int} {scan : EackScan} (h : Stacked all scan) (v : Int) :
    Stacked (all ++ [v]) (scan.push v) := by
  have hShort := h.short
  have hDrop : scan.resends.drop 64 <:+ all := (List.drop_suffix 64 scan.resends).trans h.suffix
  unfold EackScan.push
  dsimp only [maxEack]
  by_cases hFull : scan.resends.length ≥ 126
  · rw [if_pos hFull]
    refine ⟨List.suffix_append_self_iff.2 hDrop, Or.inr ?_, ?_⟩
    · simp only [List.length_append, List.length_drop, List.length_singleton]
      omega
    · simp only [List.length_append, List.length_drop, List.length_singleton]
      omega
  · rw [if_neg hFull]
    refine ⟨List.suffix_append_self_iff.2 h.suffix, ?_, ?_⟩
    · rcases h.deep with hAll | hDeep
      · exact Or.inl (by rw [hAll])
      · refine Or.inr ?_
        simp only [List.length_append, List.length_singleton]
        omega
    · simp only [List.length_append, List.length_singleton]
      omega

/-- One turn counts a bit, or puts a number on the stack, or does neither. -/
theorem turn_spec (bits : Int) {all : List Int} {scan : EackScan} (s : Conn) (h : Stacked all scan) :
    (s.turn d mask base bits scan).count = scan.count +
        (if !s.outsideWindow (base + bits) && (bits ≥ 0 && mask.bit d bits.toNat) then 1 else 0) ∧
      Stacked (all ++ if s.pushes d mask base bits scan.count then [base + bits] else [])
        (s.turn d mask base bits scan) := by
  have hShould : s.shouldResend (base + bits) scan = s.shouldResend (base + bits) ⟨scan.count, []⟩ := rfl
  have hPush := h.push (base + bits)
  unfold turn pushes
  rw [hShould]
  generalize (decide (bits ≥ 0) && mask.bit d bits.toNat) = bitSet
  cases s.outsideWindow (base + bits) with
  | true => simpa using h
  | false =>
      cases bitSet with
      | true => simpa using ⟨h.suffix, h.deep, h.short⟩
      | false =>
          cases (s.snd.sentAt (base + bits)).isSome with
          | false => simpa using h
          | true =>
              cases s.shouldResend (base + bits) ⟨scan.count, []⟩ with
              | false => simpa using h
              | true => exact ⟨rfl, by simpa using hPush⟩

/-- The count and the stack after all turns. -/
theorem turns_spec (n : Nat) {all : List Int} {scan : EackScan} (s : Conn) (h : Stacked all scan) :
    (s.turns d mask base n scan).count = scan.count + s.countBetween d mask base 0 n ∧
      Stacked (all ++ (s.pushed d mask base n scan.count).reverse) (s.turns d mask base n scan) := by
  induction n generalizing all scan with
  | zero =>
      obtain ⟨hCount, hStack⟩ := turn_spec d mask base (-1) s h
      have hSign : ¬(-1 : Int) ≥ 0 := by decide
      simp only [hSign, decide_false, Bool.false_and, Bool.and_false, if_false, Bool.false_eq_true] at hCount
      have hOnly : s.pushed d mask base 0 scan.count = if s.pushes d mask base (-1) scan.count then [base + -1] else [] := by
        unfold pushed
        cases hPush : s.pushes d mask base (-1) scan.count <;> simp [countBetween_self, hPush, Int.sub_eq_add_neg]
      refine ⟨by rw [countBetween_self]; exact hCount, ?_⟩
      rw [hOnly]
      unfold turns
      split_ifs at hStack ⊢ <;> exact hStack
  | succ n ih =>
      obtain ⟨hCount, hStack⟩ := turn_spec d mask base n s h
      have hBit : (!s.outsideWindow (base + n) && (decide ((n : Int) ≥ 0) && mask.bit d (n : Int).toNat)) =
          s.countedBit d mask base n := by
        unfold countedBit
        simp [Bool.and_comm]
      rw [hBit] at hCount
      obtain ⟨hRest, hAll⟩ := ih hStack
      unfold turns
      rw [hRest, hCount, countBetween_succ d mask base (Nat.zero_le n), pushed_succ, ← hCount]
      refine ⟨by omega, ?_⟩
      rw [List.reverse_append, ← List.append_assoc]
      have hOne : (if s.pushes d mask base n scan.count then [base + (n : Int)] else []).reverse =
          if s.pushes d mask base n scan.count then [base + (n : Int)] else [] := by
        split_ifs <;> rfl
      rw [hOne]
      exact hAll

/-- The number of the packet in a slot. -/
def numberAt (x : Int) (s : Conn) : Option Nat := (s.snd.outbuf.get x).map (·.header.seqNr)

theorem numberAt_sendPacket (v : Int) (s : Conn) (x : Int) : (s.sendPacket env v).numberAt x = s.numberAt x := by
  unfold numberAt
  cases hGet : s.snd.outbuf.get v with
  | none => rw [sendPacket_none env hGet]
  | some pkt =>
      have hView := view_sendPacket env hGet
      rw [view_chargeWindow] at hView
      have hBuf : (s.sendPacket env v).snd.outbuf = _ := congrArg View.outbuf hView
      rw [hBuf, SizableCircularBuffer.get_put_dvd]
      split_ifs with hSlot
      · rw [← s.snd.outbuf.get_congr hSlot, hGet]
        rfl
      · rfl

/-- The resend loop sends the first packets it finds, and four at most. -/
theorem wires_resendLoop (resends : List Int) {i : Nat} (hi : i < 4) (s : Conn) :
    ∃ ws, (s.resendLoop env resends i).2.trace.wires = s.trace.wires ++ ws ∧
      ws.map (·.header.seqNr) = (resends.filterMap (s.numberAt ·)).take (4 - i) := by
  induction resends generalizing i s with
  | nil => exact ⟨[], by simp [resendLoop], by simp⟩
  | cons v rest ih =>
      unfold resendLoop
      cases hGet : s.snd.outbuf.get v with
      | none =>
          have hNone : s.numberAt v = none := by
            rw [numberAt, hGet]
            rfl
          simp only [List.filterMap_cons, hNone]
          exact ih hi s
      | some pkt =>
          have hSome : s.numberAt v = some pkt.header.seqNr := by
            rw [numberAt, hGet]
            rfl
          obtain ⟨w, events, hWire, hTrace⟩ := trace_sendPacket env hGet
          have hWires : (s.sendPacket env v).trace.wires = s.trace.wires ++ [w] := congrArg Trace.wires hTrace
          have hTake : 4 - i = (4 - (i + 1)) + 1 := by omega
          simp only [List.filterMap_cons, hSome]
          rw [hTake, List.take_succ_cons]
          split_ifs with hLast
          · refine ⟨[w], hWires, ?_⟩
            have hZero : 4 - (i + 1) = 0 := by omega
            rw [hZero, List.take_zero, List.map_singleton, hWire.seqNr]
          · obtain ⟨ws, hRest, hNumbers⟩ := ih (i := i + 1) (by omega)
              ({ s.sendPacket env v with snd.fastResendSeqNr := u16 (v + 1) } : Conn)
            refine ⟨w :: ws, ?_, ?_⟩
            · rw [hRest]
              change (s.sendPacket env v).trace.wires ++ ws = _
              rw [hWires, List.append_assoc, List.singleton_append]
            · rw [List.map_cons, hNumbers, hWire.seqNr]
              have hSame : ∀ x, ({ s.sendPacket env v with snd.fastResendSeqNr := u16 (v + 1) } : Conn).numberAt x =
                  s.numberAt x := fun x => numberAt_sendPacket env v s x
              simp only [hSame]

theorem trace_selectiveAckFrom (n : Nat) (scan : EackScan) (s : Conn) :
    (s.selectiveAckFrom env d mask base n scan).2.trace = s.trace := by
  induction n generalizing scan s with
  | zero => exact (still_selectiveAckAt env d mask base (-1) scan s).2
  | succ n ih => exact (ih _ _).trans (still_selectiveAckAt env d mask base n scan s).2

theorem aim_selectiveAckFrom (n : Nat) (scan : EackScan) (s : Conn) :
    (s.selectiveAckFrom env d mask base n scan).2.aim = s.aim := by
  induction n generalizing scan s with
  | zero => exact (still_selectiveAckAt env d mask base (-1) scan s).1
  | succ n ih => exact (ih _ _).trans (still_selectiveAckAt env d mask base n scan s).1

/-- What is known of a number that is put on the stack. -/
theorem mem_pushed {n count : Nat} {v : Int} {s : Conn} (h : v ∈ s.pushed d mask base n count) :
    ∃ k ≤ n, v = base - 1 + k ∧ s.pushes d mask base (k - 1) (count + s.countBetween d mask base k n) = true := by
  unfold pushed at h
  obtain ⟨k, hk, rfl⟩ := List.mem_map.1 h
  obtain ⟨hRange, hPush⟩ := List.mem_filter.1 hk
  exact ⟨k, Nat.lt_succ_iff.1 (List.mem_range.1 hRange), rfl, hPush⟩

/-- A packet that is put on the stack stays in the queue, and its number is the one on the stack. -/
theorem numberAt_pushed {n count : Nat} {v : Int} {s : Conn} (h : Core s) (hPos : 0 < s.snd.curWindowPackets)
    (hBits : n < 65535) (hMem : v ∈ s.pushed d mask base n count) (scan : EackScan) :
    (s.selectiveAckFrom env d mask base n scan).2.numberAt v = some (u16 v) := by
  have hFits := fits_of_core h
  have hQueue : QueueShape s.snd.seqNr s.snd.curWindowPackets s.snd.curWindow s.snd.outbuf := h.view.queue
  obtain ⟨k, hk, hNumber, hPush⟩ := mem_pushed d mask base hMem
  have hAddress : base + (k - 1 : Int) = v := by omega
  unfold pushes at hPush
  rw [hAddress] at hPush
  simp only [Bool.and_eq_true, Bool.not_eq_true'] at hPush
  obtain ⟨⟨⟨hInside, hClear⟩, hSent⟩, -⟩ := hPush
  have hSweep := sweeps_selectiveAckFrom env d mask base n scan hFits.size_dvd
  have hKept := hSweep.kept v (by
    rintro ⟨⟨i, hi, hBit, hHere, hSlot⟩, -⟩
    by_cases hSame : i + 1 = k
    · have hIndex : ((k : Int) - 1).toNat = i := by omega
      have hSign : (k : Int) - 1 ≥ 0 := by omega
      rw [hIndex, hBit, decide_eq_true hSign] at hClear
      cases hClear
    · refine hFits.apart_inside hPos hHere hInside ?_ hSlot
      omega)
  obtain ⟨i, hi, -, hAt⟩ := (inside_iff (hFits.count_le.trans hFits.size_le) hPos v).1 hInside
  have hSlot : s.snd.outbuf.get v = s.snd.outbuf.get (s.address i) := by
    rw [← hFits.get_u16 v, ← hFits.get_u16 (s.address i), hAt]
  obtain ⟨pkt, hPkt⟩ := Option.isSome_iff_exists.1 hSent
  have hGet : s.snd.outbuf.get v = some pkt := by
    unfold SendState.sentAt at hPkt
    exact (Option.filter_eq_some_iff.1 hPkt).1
  have hOk := (hQueue.packet i hi pkt (hSlot.symm.trans hGet)).seqNr
  rw [numberAt, hKept, hGet, Option.map_some, hOk]
  exact congrArg some hAt.symm

/-- The number before the base, which is put on the stack after the loop. -/
def lastPushed (n : Nat) (s : Conn) : Option Nat :=
  if s.shouldResend (base - 1) ⟨s.countBetween d mask base 0 n, []⟩ then
    (s.selectiveAckFrom env d mask base n ⟨0, []⟩).2.numberAt (base - 1)
  else none

/-- The first of a stack are the first of all that were pushed, whatever stands before them. -/
theorem Stacked.take {all : List Int} {scan : EackScan} (h : Stacked all scan) (first : List Nat) (f : Int → Nat) :
    (first ++ scan.resends.reverse.map f).take 4 = (first ++ all.reverse.map f).take 4 := by
  rcases h.deep with hAll | hDeep
  · rw [hAll]
  · obtain ⟨rest, hRest⟩ := h.suffix
    have hLong : 4 ≤ (scan.resends.reverse.map f).length := by
      rw [List.length_map, List.length_reverse]
      omega
    rw [← hRest, List.reverse_append, List.map_append, ← List.append_assoc]
    refine (List.take_append_of_le_length ?_).symm
    rw [List.length_append]
    omega

/-- The packets that a selective ack sends. -/
theorem wires_selectiveAck {s : Conn} (h : Core s) (hPos : 0 < s.snd.curWindowPackets) (hLength : mask.extLen < 256) :
    ∃ ws, (s.selectiveAck env d mask base).trace.wires = s.trace.wires ++ ws ∧
      ws.map (·.header.seqNr) = ((s.lastPushed env d mask base (mask.extLen * 8)).toList ++
        (s.pushed d mask base (mask.extLen * 8) 0).map u16).take 4 := by
  have hFits := fits_of_core h
  have hBits : mask.extLen * 8 < 65535 := by omega
  have hSelf : Agrees base (mask.extLen * 8) s s := ⟨rfl, rfl, rfl, fun _ _ _ _ => rfl⟩
  have hScan := fst_selectiveAckFrom env d mask base (mask.extLen * 8) ⟨0, []⟩ hSelf hFits hPos hBits
  have hEmpty : Stacked [] ⟨0, []⟩ := ⟨List.nil_suffix, Or.inl rfl, Nat.zero_le _⟩
  obtain ⟨hCount, hStack⟩ := turns_spec d mask base (mask.extLen * 8) s hEmpty
  rw [← hScan] at hCount hStack
  have hNumber : ∀ v ∈ s.pushed d mask base (mask.extLen * 8) 0,
      (s.selectiveAckFrom env d mask base (mask.extLen * 8) ⟨0, []⟩).2.numberAt v = some (u16 v) :=
    fun v hMem => numberAt_pushed env d mask base h hPos hBits hMem ⟨0, []⟩
  have hTrace := trace_selectiveAckFrom env d mask base (mask.extLen * 8) ⟨0, []⟩ s
  have hAim := aim_selectiveAckFrom env d mask base (mask.extLen * 8) ⟨0, []⟩ s
  have hSize := (sweeps_selectiveAckFrom env d mask base (mask.extLen * 8) ⟨0, []⟩ hFits.size_dvd).size
  unfold lastPushed selectiveAck
  rw [if_neg (by omega)]
  dsimp only at hCount ⊢
  generalize s.selectiveAckFrom env d mask base (mask.extLen * 8) ⟨0, []⟩ = r at *
  have hShould : r.2.shouldResend (base - 1) r.1 =
      s.shouldResend (base - 1) ⟨s.countBetween d mask base 0 (mask.extLen * 8), []⟩ := by
    have hFast : r.2.snd.fastResendSeqNr = s.snd.fastResendSeqNr := congrArg Aim.fastResendSeqNr hAim
    unfold shouldResend
    rw [hFast, hCount, Nat.zero_add]
  rw [hShould]
  have hFound : r.1.resends.reverse.filterMap (r.2.numberAt ·) = r.1.resends.reverse.map u16 := by
    rw [← List.filterMap_eq_map]
    refine List.filterMap_congr fun v hv => hNumber v ?_
    have hIn := hStack.suffix.subset (List.mem_reverse.1 hv)
    simpa using hIn
  have hBefore : r.2.numberAt (u16 (base - 1) : Nat) = r.2.numberAt (base - 1) := by
    unfold numberAt
    rw [r.2.snd.outbuf.get_congr]
    rw [hSize]
    refine hFits.size_dvd.trans ?_
    have := u16_emod (base - 1)
    omega
  generalize s.shouldResend (base - 1) ⟨s.countBetween d mask base 0 (mask.extLen * 8), []⟩ = again
  have hList : (if again = true then r.1.resends ++ [((u16 (base - 1) : Nat) : Int)] else r.1.resends).reverse.filterMap
      (r.2.numberAt ·) = (if again = true then r.2.numberAt (base - 1) else none).toList ++
        r.1.resends.reverse.map u16 := by
    cases again with
    | false => exact hFound
    | true =>
        simp only [if_true, List.reverse_append, List.reverse_singleton, List.filterMap_append, hFound]
        rw [← hBefore]
        cases hAt : r.2.numberAt (u16 (base - 1) : Nat) <;> simp [hAt]
  generalize (if again = true then r.1.resends ++ [((u16 (base - 1) : Nat) : Int)] else r.1.resends) = stack at hList ⊢
  obtain ⟨ws, hWires, hNumbers⟩ := wires_resendLoop env stack.reverse (i := 0) (by decide) r.2
  generalize r.2.resendLoop env stack.reverse 0 = done at hWires ⊢
  refine ⟨ws, ?_, ?_⟩
  · rw [← hTrace, ← hWires]
    change (if done.1 > 0 then done.2.maybeDecayWin else done.2).trace.wires = _
    unfold maybeDecayWin
    split_ifs <;> rfl
  · rw [hNumbers, hList, hStack.take]
    simp

end Conn

end Utp
