import Utp.Socket.Buffer

/-! The shape of the reorder buffer: packets past the next expected one, each in
the slot of its own sequence number. -/
namespace Utp

open Wrapping

/-- Every stored packet lies past `ackNr`, and the slot of `ackNr` itself is free.
The slot of `ackNr + 1` may be in use while packets are being delivered. -/
structure ReorderShape (ackNr count : Nat) (buf : SizableCircularBuffer IncomingPacket) : Prop where
  count_eq : count = buf.toCellRing.count
  stored : ∀ j < buf.size, ∀ p, buf.get (ackNr + 1 + j) = some p →
    j ≤ 1023 ∧ j < buf.mask ∧ p.seqNr = u16 (ackNr + 1 + j)

/-- The bounds that hold at all times. -/
structure ReorderBounds (ackNr : Nat) (buf : SizableCircularBuffer IncomingPacket) : Prop where
  ackNr_lt : ackNr < 65536
  size_ge : 16 ≤ buf.size
  size_le : buf.size ≤ 2048

namespace ReorderBounds

variable {ackNr : Nat} {buf : SizableCircularBuffer IncomingPacket}

theorem dvd_of_seq (h : ReorderBounds ackNr buf) {x y : Int} (hSeq : (65536 : Int) ∣ x - y) :
    (buf.size : Int) ∣ x - y :=
  (buf.size_dvd (h.size_le.trans (by decide))).trans hSeq

theorem put (h : ReorderBounds ackNr buf) (v : Int) (p : Option IncomingPacket) :
    ReorderBounds ackNr (buf.put v p) :=
  ⟨h.ackNr_lt, by simpa using h.size_ge, by simpa using h.size_le⟩

theorem setAckNr (h : ReorderBounds ackNr buf) {ackNr' : Nat} (hLt : ackNr' < 65536) :
    ReorderBounds ackNr' buf :=
  ⟨hLt, h.size_ge, h.size_le⟩

theorem ensureSize (h : ReorderBounds ackNr buf) (item : Int) (index : Nat) (hIndex : index ≤ 1024) :
    ReorderBounds ackNr (buf.ensureSize item index) := by
  have hGrow := buf.le_size_ensureSize item index
  have hMax := buf.size_ensureSize_le item index
  have hGe := h.size_ge
  have hLe := h.size_le
  exact ⟨h.ackNr_lt, by omega, by omega⟩

/-- What a grown buffer holds around `ackNr + 1`. -/
theorem get_ensureSize (h : ReorderBounds ackNr buf) {item : Int} {index j : Nat}
    (hIndex : index ≤ 1024) (hItem : (65536 : Int) ∣ item - index - (ackNr + 1))
    (hj : j < (buf.ensureSize item index).size) :
    (buf.ensureSize item index).get (ackNr + 1 + j) =
      if j < buf.size then buf.get (ackNr + 1 + j) else none := by
  have hDvd := (h.ensureSize item index hIndex).dvd_of_seq hItem
  have hSlot : ((buf.ensureSize item index).size : Int) ∣ ackNr + 1 + j - (item - index + j) := by
    rw [add_sub_add_right_eq_sub, ← Int.dvd_neg, neg_sub]
    exact hDvd
  have hOld : (65536 : Int) ∣ item - index + j - (ackNr + 1 + j) := by
    rwa [add_sub_add_right_eq_sub]
  rw [SizableCircularBuffer.get_congr _ hSlot, buf.get_ensureSize _ _ hj,
    buf.get_congr (h.dvd_of_seq hOld)]

end ReorderBounds

namespace ReorderShape

variable {ackNr count : Nat} {buf : SizableCircularBuffer IncomingPacket}

theorem count_le (h : ReorderShape ackNr count buf) (hBounds : ReorderBounds ackNr buf) :
    count ≤ 2048 := by
  have hCells : buf.toCellRing.count ≤ buf.toCellRing.size := List.countP_le_length
  have hSize := hBounds.size_le
  rw [buf.size_eq] at hSize
  exact h.count_eq.le.trans (hCells.trans hSize)

theorem get_of_count_zero (h : ReorderShape ackNr 0 buf) (v : Int) : buf.get v = none := by
  cases hGet : buf.get v with
  | none => rfl
  | some p =>
      have hLe := CellRing.le_sum buf.toCellRing (fun v => v.isSome.toNat) v (n := buf.toCellRing.size)
        (a := 0) buf.toCellRing.size_pos
      rw [← CellRing.count_eq_sum, ← h.count_eq, Nat.cast_zero, add_zero] at hLe
      have hRead : buf.toCellRing.read v = some p := hGet
      rw [hRead] at hLe
      simp at hLe

/-- An empty buffer has the shape for any `ackNr`. -/
theorem of_count_zero (h : ReorderShape ackNr 0 buf) (ackNr' : Nat) : ReorderShape ackNr' 0 buf := by
  refine ⟨h.count_eq, ?_⟩
  intro j hj p hPkt
  rw [h.get_of_count_zero] at hPkt
  cases hPkt

/-- The slot of `ackNr` is free. -/
theorem get_ackNr (h : ReorderShape ackNr count buf) : buf.get ackNr = none := by
  have hMask : buf.mask + 1 = buf.size := rfl
  have hSlot : buf.get ackNr = buf.get (ackNr + 1 + buf.mask) := by
    apply buf.get_congr
    have hTurn : (ackNr : Int) - (ackNr + 1 + buf.mask) = -buf.size := by omega
    rw [hTurn]
    simp
  rw [hSlot]
  cases hGet : buf.get (ackNr + 1 + buf.mask) with
  | none => rfl
  | some p =>
      have hStored := h.stored buf.mask (by omega) p hGet
      omega

/-- Exchanging the contents of one slot changes the count accordingly. -/
theorem count_put (buf : SizableCircularBuffer IncomingPacket) (v : Int) (p : Option IncomingPacket) :
    (buf.put v p).toCellRing.count + (buf.get v).isSome.toNat =
      buf.toCellRing.count + p.isSome.toNat := by
  have hSum := CellRing.sum_write buf.toCellRing (fun v => v.isSome.toNat) v
    (n := buf.toCellRing.size) (a := 0) p buf.toCellRing.size_pos le_rfl
  rw [CellRing.count_eq_sum _ v, CellRing.count_eq_sum buf.toCellRing v]
  simpa [SizableCircularBuffer.put, SizableCircularBuffer.get] using hSum

/-- The next expected packet is consumed without having been stored. -/
theorem advance (h : ReorderShape ackNr count buf) (hBounds : ReorderBounds ackNr buf)
    (hNone : buf.get (ackNr + 1) = none) : ReorderShape (u16 (ackNr + 1)) count buf := by
  refine ⟨h.count_eq, ?_⟩
  intro j hj p hPkt
  have hMask : buf.mask + 1 = buf.size := rfl
  have hTurn : (65536 : Int) ∣ (u16 (ackNr + 1) : Int) + 1 + j - (ackNr + 1 + (j + 1 : Nat)) := by
    have := u16_emod (ackNr + 1)
    push_cast
    omega
  rw [buf.get_congr (hBounds.dvd_of_seq hTurn)] at hPkt
  by_cases hLast : j + 1 < buf.size
  · obtain ⟨hLimit, hRoom, hSeq⟩ := h.stored (j + 1) hLast p hPkt
    refine ⟨by omega, by omega, ?_⟩
    rw [hSeq]
    exact ((u16_eq_iff _ _).mpr hTurn).symm
  · have hSlot : buf.get (ackNr + 1 + (j + 1 : Nat)) = buf.get (ackNr + 1) := by
      apply buf.get_congr
      have hEq : ((j + 1 : Nat) : Int) = buf.size := by omega
      rw [hEq]
      simp
    rw [hSlot, hNone] at hPkt
    cases hPkt

/-- The packet waiting in the slot of `ackNr + 1` is taken out. -/
theorem clear (h : ReorderShape ackNr count buf) {p : IncomingPacket}
    (hGet : buf.get (ackNr + 1) = some p) :
    ReorderShape ackNr (count - 1) (buf.put (ackNr + 1) none) := by
  have hCount := count_put buf (ackNr + 1) none
  have hEq := h.count_eq
  rw [hGet] at hCount
  refine ⟨?_, ?_⟩
  · simp only [Option.isSome_some, Option.isSome_none, Bool.toNat_true, Bool.toNat_false] at hCount
    omega
  · intro j hj q hPkt
    rw [SizableCircularBuffer.size_put] at hj
    have hRead := buf.get_put (ackNr + 1) (i := 0) (j := j) none (by omega) hj
    rw [Nat.cast_zero, add_zero] at hRead
    rw [hRead] at hPkt
    split_ifs at hPkt
    rw [SizableCircularBuffer.mask_put]
    exact h.stored j hj q hPkt

/-- Growing the buffer around `ackNr + 1` keeps its shape. -/
theorem ensureSize (h : ReorderShape ackNr count buf) (hBounds : ReorderBounds ackNr buf)
    {item : Int} {index : Nat} (hIndex : index ≤ 1024)
    (hItem : (65536 : Int) ∣ item - index - (ackNr + 1)) :
    ReorderShape ackNr count (buf.ensureSize item index) := by
  have hGrow := buf.le_size_ensureSize item index
  have hRead : ∀ j < (buf.ensureSize item index).size,
      (buf.ensureSize item index).get (ackNr + 1 + j) =
        if j < buf.size then buf.get (ackNr + 1 + j) else none :=
    fun j hj => hBounds.get_ensureSize hIndex hItem hj
  refine ⟨?_, ?_⟩
  · rw [h.count_eq, CellRing.count_eq_sum buf.toCellRing (ackNr + 1),
      CellRing.count_eq_sum _ (ackNr + 1), ← SizableCircularBuffer.size_eq,
      ← SizableCircularBuffer.size_eq]
    symm
    apply CellRing.sum_extend hGrow
    · intro j hj
      refine (congrArg (fun v => v.isSome.toNat) (hRead j (by omega))).trans ?_
      rw [if_pos hj]
      rfl
    · intro j hLow hHigh
      refine (congrArg (fun v => v.isSome.toNat) (hRead j hHigh)).trans ?_
      rw [if_neg (by omega)]
      rfl
  · intro j hj p hPkt
    rw [hRead j hj] at hPkt
    split_ifs at hPkt with hOld
    obtain ⟨hLimit, hRoom, hSeq⟩ := h.stored j hOld p hPkt
    refine ⟨hLimit, ?_, hSeq⟩
    unfold SizableCircularBuffer.size at hGrow
    omega

/-- A packet is stored in the free slot of its number. -/
theorem store (h : ReorderShape ackNr count buf) (hBounds : ReorderBounds ackNr buf)
    {p : IncomingPacket} {offset : Nat} (hLimit : offset ≤ 1023) (hRoom : offset < buf.mask)
    (hSeq : (65536 : Int) ∣ (p.seqNr : Int) - (ackNr + 1 + offset)) (hLt : p.seqNr < 65536)
    (hNone : buf.get p.seqNr = none) :
    ReorderShape ackNr (count + 1) (buf.put p.seqNr (some p)) := by
  have hMask : buf.mask + 1 = buf.size := rfl
  have hCount := count_put buf p.seqNr (some p)
  have hEq := h.count_eq
  rw [hNone] at hCount
  refine ⟨?_, ?_⟩
  · simp only [Option.isSome_some, Option.isSome_none, Bool.toNat_true, Bool.toNat_false] at hCount
    omega
  · intro j hj q hPkt
    rw [SizableCircularBuffer.size_put] at hj
    rw [buf.put_congr _ (hBounds.dvd_of_seq hSeq), buf.get_put _ _ (by omega) hj] at hPkt
    rw [SizableCircularBuffer.mask_put]
    by_cases hSame : offset = j
    · subst hSame
      rw [if_pos rfl] at hPkt
      cases hPkt
      refine ⟨hLimit, hRoom, ?_⟩
      rw [← (u16_eq_iff _ _).mpr hSeq]
      exact (u16_of_lt hLt).symm
    · rw [if_neg hSame] at hPkt
      exact h.stored j hj q hPkt

end ReorderShape

end Utp
