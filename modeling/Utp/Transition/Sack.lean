import Utp.Transition.Acks

/-! Selective acks and the retransmissions they trigger are paths of elementary
transitions. -/
namespace Utp

open Wrapping

namespace Conn

variable (env : Env) (cause : Cause)

/-- A number close enough behind `seq_nr` to be the one of a packet that a
selective ack may resend, and not before the one that follows the cumulative ack. -/
def Resendable (base : Int) (s : Conn) (v : Int) : Prop :=
  1 ≤ u16 (s.snd.seqNr - v) ∧ u16 (s.snd.seqNr - v) ≤ 1028 ∧
    ∃ k : Nat, k ≤ 2041 ∧ (65536 : Int) ∣ v - (base - 1 + k)

/-- What scanning some bits of a mask does. A bit is counted only in the window. -/
structure Scanned (base : Int) (s s' : Conn) (scan scan' : EackScan) : Prop where
  path : SendPath env cause s s'
  aim : s'.aim = s.aim
  count : s'.snd.curWindowPackets = s.snd.curWindowPackets
  resends : ∀ v ∈ scan'.resends, v ∈ scan.resends ∨ Resendable base s v
  counted : scan'.count = scan.count ∨
    ∃ bits : Nat, bits < 2040 ∧ s.outsideWindow (base + bits) = false

variable {env cause}

theorem outsideWindow_congr {s s' : Conn} (hSeq : s'.snd.seqNr = s.snd.seqNr)
    (hCount : s'.snd.curWindowPackets = s.snd.curWindowPackets) (v : Int) :
    s'.outsideWindow v = s.outsideWindow v := by
  unfold outsideWindow
  rw [hSeq, hCount]

theorem Scanned.refl (base : Int) (s : Conn) (scan : EackScan) : Scanned env cause base s s scan scan :=
  ⟨.refl, rfl, rfl, fun _ h => Or.inl h, Or.inl rfl⟩

theorem Scanned.trans {base : Int} {s t u : Conn} {a b c : EackScan}
    (hFirst : Scanned env cause base s t a b) (hSecond : Scanned env cause base t u b c) :
    Scanned env cause base s u a c := by
  have hSeq : t.snd.seqNr = s.snd.seqNr := congrArg Aim.seqNr hFirst.aim
  refine ⟨hFirst.path.trans hSecond.path, hSecond.aim.trans hFirst.aim,
    hSecond.count.trans hFirst.count, ?_, ?_⟩
  · intro v hv
    rcases hSecond.resends v hv with hOld | hNew
    · exact hFirst.resends v hOld
    · unfold Resendable at hNew
      rw [hSeq] at hNew
      exact Or.inr hNew
  · rcases hSecond.counted with hSame | ⟨bits, hBits, hInside⟩
    · rw [hSame]
      exact hFirst.counted
    · rw [outsideWindow_congr hSeq hFirst.count] at hInside
      exact Or.inr ⟨bits, hBits, hInside⟩

/-- A number inside the window, past its oldest packet, may be resent. -/
theorem resendable_of_inside {s : Conn} {base bits : Int} (hLimit : s.snd.curWindowPackets ≤ 1024)
    (hCount : 0 < s.snd.curWindowPackets) (hLow : -1 ≤ bits) (hHigh : bits < 2040)
    (hInside : s.outsideWindow (base + bits) = false) : Resendable base s (base + bits) := by
  have hInner : u16 (s.snd.seqNr - (base + bits) - 1) < u16 (s.snd.curWindowPackets - 1) := by
    simpa [outsideWindow] using hInside
  have hPred : u16 ((s.snd.curWindowPackets : Int) - 1) = s.snd.curWindowPackets - 1 := by
    unfold u16
    omega
  have hShift := u16_emod (s.snd.seqNr - (base + bits) - 1)
  have hEmod := u16_emod (s.snd.seqNr - (base + bits))
  have hLt := u16_lt (s.snd.seqNr - (base + bits))
  refine ⟨by omega, by omega, (bits + 1).toNat, by omega, ?_⟩
  have hNumber : base + bits - (base - 1 + ((bits + 1).toNat : Nat)) = 0 := by omega
  rw [hNumber]
  exact dvd_zero _

theorem mem_push {v w : Int} {scan : EackScan} (h : v ∈ (scan.push w).resends) :
    v ∈ scan.resends ∨ v = w := by
  unfold EackScan.push at h
  dsimp only at h
  rcases List.mem_append.mp h with hOld | hNew
  · split_ifs at hOld
    · exact Or.inl (List.mem_of_mem_drop hOld)
    · exact Or.inl hOld
  · exact Or.inr (List.mem_singleton.mp hNew)

/-- The read of one mask byte. -/
theorem path_access (mask : SackMask) (bits : Nat) (s : Conn) :
    SendPath env cause s (s.emit (mask.access bits)) :=
  (Quiet.readMask s _ _ _).path

theorem scanned_selectiveAckAt {r : Received} {mask : SackMask} {bits : Int} {s : Conn}
    (scan : EackScan) (h : Core s) (hCount : 0 < s.snd.curWindowPackets)
    (hCause : cause = .packet r) (hMask : r.selack = some mask) (hLength : mask.extLen < 256)
    (hLow : -1 ≤ bits) (hBits : bits < mask.extLen * 8) :
    Scanned env cause (r.d.header.ackNr + 2) s
      (s.selectiveAckAt env r.d mask (r.d.header.ackNr + 2) bits scan).2 scan
      (s.selectiveAckAt env r.d mask (r.d.header.ackNr + 2) bits scan).1 := by
  unfold selectiveAckAt
  dsimp only
  split
  · exact Scanned.refl _ s scan
  · rename_i hInside
    have hWindow : s.outsideWindow (r.d.header.ackNr + 2 + bits) = false :=
      eq_false_of_ne_true hInside
    have hResendable := resendable_of_inside h.view.queue.count_le_limit hCount hLow (by omega) hWindow
    generalize hRead : (if bits ≥ 0 then s.emit (mask.access bits.toNat) else s) = t
    generalize hSet : (decide (bits ≥ 0) && mask.bit r.d bits.toNat) = bitSet
    generalize hScan : (if bitSet = true then { scan with count := scan.count + 1 } else scan) = counted
    have hStart : Scanned env cause (r.d.header.ackNr + 2) s t scan counted := by
      refine ⟨?_, ?_, ?_, ?_, ?_⟩
      · rw [← hRead]
        split_ifs
        · exact path_access mask _ s
        · exact .refl
      · rw [← hRead]
        split_ifs <;> rfl
      · rw [← hRead]
        split_ifs <;> rfl
      · intro v hv
        rw [← hScan] at hv
        split_ifs at hv <;> exact Or.inl hv
      · rw [← hScan]
        split_ifs with hCounted
        · rw [← hSet] at hCounted
          have hNonneg : 0 ≤ bits := of_decide_eq_true ((Bool.and_eq_true _ _).mp hCounted).1
          refine Or.inr ⟨bits.toNat, by omega, ?_⟩
          rw [Int.toNat_of_nonneg hNonneg]
          exact hWindow
        · exact Or.inl rfl
    have hCore : Core t := h.sendPath hStart.path
    have hSnd : t.snd = s.snd := by
      rw [← hRead]
      split_ifs <;> rfl
    split
    · exact hStart
    · rename_i pkt hGet
      split_ifs with hUnsent hBit hResend
      · exact hStart
      · have hParts : 0 ≤ bits ∧ mask.bit r.d bits.toNat = true := by
          rw [← hSet] at hBit
          simpa using hBit
        have hNumber : (r.d.header.ackNr + 2 + bits : Int) = r.d.header.ackNr + 2 + bits.toNat := by
          omega
        have hInner : t.outsideWindow (r.d.header.ackNr + 2 + bits) = false := by
          rw [outsideWindow_congr (congrArg Aim.seqNr hStart.aim) hStart.count]
          exact hWindow
        have hSlot : t.snd.outbuf.slot (r.d.header.ackNr + 2 + bits) ≠
            t.snd.outbuf.slot (t.snd.seqNr - t.snd.curWindowPackets) := by
          rw [Ne, CellRing.slot_eq_iff, ← SizableCircularBuffer.size_eq]
          apply hCore.view.queue.inner_slot
          · change 0 < t.snd.curWindowPackets
            rw [hStart.count]
            exact hCount
          · simpa [outsideWindow] using hInner
        rw [check_true 1553 t (decide_eq_true hSlot)]
        obtain ⟨hAimAcked, hCountAcked⟩ := numbers_ackPacket env (r.d.header.ackNr + 2 + bits) t
        refine hStart.trans ⟨?_, hAimAcked, hCountAcked, fun _ hv => Or.inl hv, Or.inl rfl⟩
        rw [hNumber] at hInner ⊢
        have hStatus : (t.ackPacket env (r.d.header.ackNr + 2 + bits.toNat)).1 ≠ 2 := by
          rw [ackPacket_some env ((hCore.view.queue.get_u16 _).trans (hNumber ▸ hGet)), if_neg hUnsent]
          exact Nat.zero_ne_add_one 1
        exact (Queueing.sacked t r mask bits.toNat hCause hMask (by omega) hParts.2 hInner
          hStatus).path
      · refine ⟨hStart.path, hStart.aim, hStart.count, ?_, hStart.counted⟩
        intro v hv
        rcases mem_push hv with hOld | hNew
        · exact hStart.resends v hOld
        · rw [hNew]
          exact Or.inr hResendable
      · exact hStart

theorem scanned_selectiveAckFrom {r : Received} {mask : SackMask} {n : Nat} {s : Conn}
    (scan : EackScan) (h : Core s) (hCount : 0 < s.snd.curWindowPackets)
    (hCause : cause = .packet r) (hMask : r.selack = some mask) (hLength : mask.extLen < 256)
    (hBits : n ≤ mask.extLen * 8) :
    Scanned env cause (r.d.header.ackNr + 2) s
      (s.selectiveAckFrom env r.d mask (r.d.header.ackNr + 2) n scan).2 scan
      (s.selectiveAckFrom env r.d mask (r.d.header.ackNr + 2) n scan).1 := by
  induction n generalizing s scan with
  | zero => exact scanned_selectiveAckAt scan h hCount hCause hMask hLength le_rfl (by omega)
  | succ n ih =>
      have hAt : Scanned env cause (r.d.header.ackNr + 2) s
          (s.selectiveAckAt env r.d mask (r.d.header.ackNr + 2) n scan).2 scan _ :=
        scanned_selectiveAckAt scan h hCount hCause hMask hLength (by omega) (by omega)
      unfold selectiveAckFrom
      dsimp only
      exact hAt.trans (ih _ (h.sendPath hAt.path) (hAt.count.symm ▸ hCount) (by omega))

/-- Resending moves the pointer past the last packet that is sent again. -/
theorem path_resendLoop {r : Received} {base : Int} (hCause : cause = .packet r)
    (resends : List Int) (i : Nat) {s : Conn} (h : ∀ v ∈ resends, Resendable base s v) :
    SendPath env cause s (s.resendLoop env resends i).2 ∧
      ((s.resendLoop env resends i).2.aim = s.aim ∨ ∃ v, Resendable base s v ∧
        (s.resendLoop env resends i).2.aim = { s.aim with fastResendSeqNr := u16 (v + 1) }) := by
  induction resends generalizing i s with
  | nil => exact ⟨.refl, Or.inl rfl⟩
  | cons v rest ih =>
      have hRest : ∀ w ∈ rest, Resendable base s w := fun w hw => h w (List.mem_cons_of_mem v hw)
      unfold resendLoop
      split
      · exact ih i hRest
      · have hSend : SendPath env cause s _ := (Queueing.send s v).path
        have hAim := (numbers_sendPacket env v s).1
        have hSeq : (s.sendPacket env v).snd.seqNr = s.snd.seqNr := congrArg Aim.seqNr hAim
        have hHead := h v List.mem_cons_self
        have hAgain := hHead
        unfold Resendable at hAgain hRest
        rw [← hSeq] at hAgain
        have hNoted : SendPath env cause s _ :=
          hSend.trans (Queueing.resent _ r v hCause hAgain.1 hAgain.2.1).path
        have hMoved : ({ s.sendPacket env v with snd.fastResendSeqNr := u16 (v + 1) } : Conn).aim =
            { s.aim with fastResendSeqNr := u16 (v + 1) } :=
          congrArg (fun a : Aim => { a with fastResendSeqNr := u16 (v + 1) }) hAim
        dsimp only
        split_ifs
        · exact ⟨hNoted, Or.inr ⟨v, hHead, hMoved⟩⟩
        · generalize ({ s.sendPacket env v with snd.fastResendSeqNr := u16 (v + 1) } : Conn) = t
            at hNoted hMoved ⊢
          have hSame : t.snd.seqNr = s.snd.seqNr := congrArg Aim.seqNr hMoved
          obtain ⟨hPath, hLast⟩ := @ih (i + 1) t (by
            unfold Resendable
            rw [hSame]
            exact hRest)
          refine ⟨hNoted.trans hPath, Or.inr ?_⟩
          rcases hLast with hLast | ⟨w, hw, hLast⟩
          · exact ⟨v, hHead, hLast.trans hMoved⟩
          · unfold Resendable at hw ⊢
            rw [hSame] at hw
            exact ⟨w, hw, by rw [hLast, hMoved]⟩

/-- A counted bit places the number after the cumulative ack below `seq_nr`. -/
theorem resendable_next {s : Conn} {ackNr bits : Nat} (hLimit : s.snd.curWindowPackets ≤ 1024)
    (hCount : 0 < s.snd.curWindowPackets) (hBits : bits < 2040)
    (hInside : s.outsideWindow (ackNr + 2 + bits) = false)
    (hBehind : u16 (s.snd.seqNr - 1 - ackNr) ≤ 1028) :
    Resendable (ackNr + 2) s (u16 (ackNr + 1) : Nat) := by
  have hInner : u16 (s.snd.seqNr - (ackNr + 2 + bits) - 1) < u16 (s.snd.curWindowPackets - 1) := by
    simpa [outsideWindow] using hInside
  have hPred : u16 ((s.snd.curWindowPackets : Int) - 1) = s.snd.curWindowPackets - 1 := by
    unfold u16
    omega
  have hShift := u16_emod (s.snd.seqNr - (ackNr + 2 + bits) - 1)
  have hNext := u16_emod (ackNr + 1)
  have hEmod := u16_emod (s.snd.seqNr - (u16 (ackNr + 1) : Nat))
  have hLt := u16_lt (s.snd.seqNr - (u16 (ackNr + 1) : Nat))
  have hDist := u16_emod (s.snd.seqNr - 1 - ackNr)
  have hDistLt := u16_lt (s.snd.seqNr - 1 - ackNr)
  refine ⟨by omega, by omega, 0, by omega, ?_⟩
  push_cast
  omega

/-- What a selective ack leaves on its stack, the one below its base included, may be resent. -/
theorem resendable_of_scanned {s : Conn} {ackNr : Nat} {result : EackScan × Conn} (h : Core s)
    (hCount : 0 < s.snd.curWindowPackets)
    (hScan : Scanned env cause (ackNr + 2) s result.2 ⟨0, []⟩ result.1)
    (hBehind : u16 (s.snd.seqNr - 1 - ackNr) ≤ 1028) :
    ∀ v ∈ (if result.2.shouldResend (ackNr + 2 - 1) result.1
        then result.1.resends ++ [((u16 (ackNr + 2 - 1) : Nat) : Int)] else result.1.resends).reverse,
      Resendable (ackNr + 2) result.2 v := by
  have hNext : (ackNr + 2 - 1 : Int) = ackNr + 1 := by ring
  have hSeq : result.2.snd.seqNr = s.snd.seqNr := congrArg Aim.seqNr hScan.aim
  have hStack : ∀ v ∈ result.1.resends, Resendable (ackNr + 2) result.2 v := by
    intro v hv
    rcases hScan.resends v hv with hEmpty | hGood
    · cases hEmpty
    · unfold Resendable
      rw [hSeq]
      exact hGood
  intro v hv
  rw [List.mem_reverse] at hv
  split_ifs at hv with hTop
  · rcases List.mem_append.mp hv with hOld | hNew
    · exact hStack v hOld
    · have hThree := of_decide_eq_true ((Bool.and_eq_true _ _).mp hTop).2
      rcases hScan.counted with hNone | ⟨bits, hBits, hInside⟩
      · rw [hNone] at hThree
        exact absurd hThree (by decide)
      · rw [List.mem_singleton.mp hNew, hNext]
        have hGood := resendable_next h.view.queue.count_le_limit hCount hBits hInside hBehind
        unfold Resendable
        rw [hSeq]
        exact hGood
  · exact hStack v hv

theorem path_selectiveAck {r : Received} {mask : SackMask} {s : Conn} (h : Core s)
    (hCause : cause = .packet r) (hMask : r.selack = some mask) (hLength : mask.extLen < 256)
    (hBehind : u16 (s.snd.seqNr - 1 - r.d.header.ackNr) ≤ 1028) :
    SendPath env cause s (s.selectiveAck env r.d mask (r.d.header.ackNr + 2)) ∧
      ((s.selectiveAck env r.d mask (r.d.header.ackNr + 2)).aim = s.aim ∨
        ∃ v, Resendable (r.d.header.ackNr + 2) s v ∧
          (s.selectiveAck env r.d mask (r.d.header.ackNr + 2)).aim =
            { s.aim with fastResendSeqNr := u16 (v + 1) }) := by
  unfold selectiveAck
  split_ifs with hZero
  · exact ⟨.refl, Or.inl rfl⟩
  · have hCount : 0 < s.snd.curWindowPackets := Nat.pos_of_ne_zero hZero
    have hScan : Scanned env cause (r.d.header.ackNr + 2) s
        (s.selectiveAckFrom env r.d mask (r.d.header.ackNr + 2) (mask.extLen * 8) ⟨0, []⟩).2 ⟨0, []⟩ _ :=
      scanned_selectiveAckFrom ⟨0, []⟩ h hCount hCause hMask hLength le_rfl
    dsimp only
    generalize s.selectiveAckFrom env r.d mask (r.d.header.ackNr + 2) (mask.extLen * 8) ⟨0, []⟩ = result
      at hScan ⊢
    have hSeq : result.2.snd.seqNr = s.snd.seqNr := congrArg Aim.seqNr hScan.aim
    have hResends := resendable_of_scanned h hCount hScan hBehind
    generalize (if result.2.shouldResend (r.d.header.ackNr + 2 - 1) result.1
      then result.1.resends ++ [((u16 (r.d.header.ackNr + 2 - 1) : Nat) : Int)]
      else result.1.resends).reverse = stack at hResends ⊢
    obtain ⟨hSent, hAim⟩ : SendPath env cause result.2 _ ∧ _ := path_resendLoop hCause stack 0 hResends
    have hLoop : SendPath env cause s _ := hScan.path.trans hSent
    generalize result.2.resendLoop env stack 0 = resent at hLoop hAim ⊢
    have hDecay : resent.2.maybeDecayWin.aim = resent.2.aim := by
      unfold maybeDecayWin
      split_ifs <;> rfl
    refine ⟨Relation.ReflTransGen.tail ?_ (Sending.quiet (Quiet.duplicateAck _ _)), ?_⟩
    · split_ifs
      · exact hLoop.trans (path_maybeDecayWin env cause _).path
      · exact hLoop
    · have hEnd : ({ (if resent.1 > 0 then resent.2.maybeDecayWin else resent.2) with
          snd.duplicateAck := result.1.count % 256 } : Conn).aim = resent.2.aim := by
        split_ifs
        · exact hDecay
        · rfl
      unfold Resendable at hAim ⊢
      rw [hSeq] at hAim
      rw [hEnd, ← hScan.aim]
      exact hAim

end Conn

end Utp
