import Utp.Invariant.Fate

/-! The delay measurement: which transitions touch it, and the range of its averages. -/
namespace Utp

open Wrapping

section Frame

variable {env : Env} {cause : Cause} {s s' : Conn}

@[simp] theorem Conn.delay_check (line : Nat) (ok : Bool) (s : Conn) : (s.check line ok).delay = s.delay := by
  cases ok <;> rfl

/-- The search is not the delay. -/
theorem Conn.delay_mtuSearchUpdate (env : Env) (s : Conn) : (s.mtuSearchUpdate env).delay = s.delay := by
  simp [mtuSearchUpdate, called]

/-- The bookkeeping takes one step of the delay at most. -/
theorem Quiet.delay_or (h : Quiet env cause s s') :
    s'.delay = s.delay ∨ DelayStep s.currentMs s.delay s'.delay := by
  cases h with
  | delay delay hStep => exact Or.inr hStep
  | check line ok hLine => exact Or.inl (Conn.delay_check line ok s)
  | setsockopt opt val => cases opt <;> exact Or.inl rfl
  | probeLost hProbe => exact Or.inl (Conn.delay_mtuSearchUpdate env _)
  | probePassed hProbe => exact Or.inl (Conn.delay_mtuSearchUpdate env _)
  | fragmentation nextHopMtu =>
      left
      unfold Conn.receiveIcmpFragmentation
      dsimp only
      split_ifs <;> exact Conn.delay_mtuSearchUpdate env _
  | startTimer =>
      left
      unfold Conn.startTimer
      split_ifs
      · exact Conn.delay_check 1006 _ _
      · rfl
  | ack hCause => exact Or.inl (congrArg Foreground.delay (Conn.foreground_sendAck env false s))
  | synAck d hCause hEmpty => exact Or.inl (congrArg Foreground.delay (Conn.foreground_sendAck env true s))
  | keepAlive hOpen hFin => exact Or.inl (congrArg Foreground.delay (Conn.foreground_sendAck env false _))
  | _ => exact Or.inl rfl

/-- A move of the state takes none. -/
theorem Moving.delay (h : Moving cause s s') : s'.delay = s.delay := by
  cases h with
  | finAcked r hCause hFin hAcks => split_ifs <;> rfl
  | icmpError =>
      unfold Conn.receiveIcmpError
      dsimp only
      split_ifs <;> rfl
  | full hState hFull =>
      unfold Conn.markFull Conn.noteFull
      split_ifs
      rfl
  | _ => rfl

/-- Only a packet that is measured changes the delay state of a socket in the table. -/
theorem Trans.delay (h : Trans env cause s s') (hLive : s.Live) :
    s'.delay = s.delay ∨ DelayStep s.currentMs s.delay s'.delay := by
  cases h with
  | setup h =>
      cases h with
      | initialise addr connSeed connIdRecv connIdSend hState => exact absurd hState hLive
      | dial hState hCount hPointer => exact Or.inl rfl
      | accept d hCause hState hCount => exact Or.inl rfl
  | sending h =>
      cases h with
      | quiet h => exact h.delay_or
      | queueing h => exact Or.inl (congrArg Backdrop.delay h.backdrop)
      | moving h => exact Or.inl h.delay
  | receiving h => exact Or.inl (congrArg Foreground.delay h.foreground)

end Frame

/-- The range of the averages, with `K = INT_MAX / 4`. -/
structure AverageSound (d : DelayState) : Prop where
  average : -maxAverageDelaySample ≤ d.averageDelay ∧ d.averageDelay ≤ maxAverageDelaySample
  sum : -(maxAverageDelaySample * d.currentDelaySamples : Int) ≤ d.currentDelaySum ∧
    d.currentDelaySum ≤ maxAverageDelaySample * d.currentDelaySamples
  drift : -(2 * maxAverageDelaySample) ≤ d.clockDrift ∧ d.clockDrift ≤ 2 * maxAverageDelaySample
  raw : -(2 * maxAverageDelaySample) ≤ d.clockDriftRaw ∧ d.clockDriftRaw ≤ 2 * maxAverageDelaySample

namespace DelayState

variable {d : DelayState}

/-- A sample is cut to the bound on both sides. -/
theorem averageDelaySample_bound (actualDelay : Nat) (d : DelayState) :
    -maxAverageDelaySample ≤ d.averageDelaySample actualDelay ∧
      d.averageDelaySample actualDelay ≤ maxAverageDelaySample := by
  unfold averageDelaySample
  dsimp only
  split_ifs <;> omega

/-- The average of numbers in a range is in that range. -/
theorem tdiv_bound {sum bound : Int} {n : Nat} (hPos : 0 < n) (hLow : -(bound * n) ≤ sum)
    (hHigh : sum ≤ bound * n) : -bound ≤ sum.tdiv n ∧ sum.tdiv n ≤ bound := by
  have hn : (0 : Int) < n := by omega
  rcases Int.le_total 0 sum with hSign | hSign
  · rw [Int.tdiv_eq_ediv_of_nonneg hSign]
    have hFloor := Int.ediv_nonneg hSign hn.le
    have hTop := Int.ediv_le_of_le_mul hn hHigh
    omega
  · obtain ⟨x, rfl⟩ : ∃ x, sum = -x := ⟨-sum, by omega⟩
    have hx : 0 ≤ x := by omega
    rw [Int.neg_tdiv, Int.tdiv_eq_ediv_of_nonneg hx]
    have hFloor := Int.ediv_nonneg hx hn.le
    have hTop : x / n ≤ bound := Int.ediv_le_of_le_mul hn (by omega)
    omega

/-- The sum over the samples of a period, divided by their number. -/
theorem quotient_bound (h : AverageSound d) (hSamples : 0 < d.currentDelaySamples) :
    -maxAverageDelaySample ≤ d.currentDelaySum.tdiv d.currentDelaySamples ∧
      d.currentDelaySum.tdiv d.currentDelaySamples ≤ maxAverageDelaySample :=
  tdiv_bound hSamples h.sum.1 h.sum.2

/-- Two samples that are moved keep zero between them, and stay in their range. -/
theorem adjustment_bound {prev current bound : Int} (hPrev : -bound ≤ prev ∧ prev ≤ bound)
    (hCurrent : -bound ≤ current ∧ current ≤ bound) :
    (-bound ≤ prev + adjustment prev current ∧ prev + adjustment prev current ≤ bound) ∧
      -bound ≤ current + adjustment prev current ∧ current + adjustment prev current ≤ bound := by
  unfold adjustment
  split_ifs <;> omega

/-- One sample more is within the count. -/
theorem noted (h : AverageSound d) (actualDelay currentMs : Nat) :
    AverageSound (d.noteActualDelay actualDelay currentMs) := by
  have hAdd : ∀ t : DelayState, AverageSound t → AverageSound { t with
      currentDelaySum := t.currentDelaySum + t.averageDelaySample actualDelay
      currentDelaySamples := t.currentDelaySamples + 1 } := by
    intro t ht
    obtain ⟨hLow, hHigh⟩ := averageDelaySample_bound actualDelay t
    obtain ⟨hSumLow, hSumHigh⟩ := ht.sum
    refine ⟨ht.average, ?_, ht.drift, ht.raw⟩
    have hNext : (maxAverageDelaySample * (t.currentDelaySamples + 1 : Nat) : Int) =
        maxAverageDelaySample * t.currentDelaySamples + maxAverageDelaySample := by
      rw [Nat.cast_succ, mul_add, mul_one]
    dsimp only
    rw [hNext]
    omega
  unfold noteActualDelay
  dsimp only
  split_ifs
  · exact hAdd _ ⟨h.average, h.sum, h.drift, h.raw⟩
  · exact hAdd _ ⟨h.average, h.sum, h.drift, h.raw⟩

/-- The average lies between the smallest and the largest sample. -/
theorem averaged (h : AverageSound d) (hSamples : 0 < d.currentDelaySamples) :
    AverageSound d.updateAverage := by
  have hK : (maxAverageDelaySample : Int) = 536870911 := rfl
  obtain ⟨hLow, hHigh⟩ := quotient_bound h hSamples
  have hAverage := h.average
  have hDrift := h.drift
  unfold updateAverage
  dsimp only
  have hNarrow : i32 (d.currentDelaySum.tdiv d.currentDelaySamples) =
      d.currentDelaySum.tdiv d.currentDelaySamples := i32_of_lt (by omega) (by omega)
  rw [hNarrow]
  generalize d.currentDelaySum.tdiv d.currentDelaySamples = average at hLow hHigh
  obtain ⟨hPrev, hNext⟩ := adjustment_bound hAverage ⟨hLow, hHigh⟩
  generalize adjustment d.averageDelay average = adjust at hPrev hNext
  have hSlope : i32 (average + adjust - (d.averageDelay + adjust)) = average - d.averageDelay := by
    rw [i32_of_lt (by omega) (by omega)]
    omega
  rw [hSlope]
  have hRolling : -(2 * maxAverageDelaySample : Int) ≤ (d.clockDrift * 7 + (average - d.averageDelay)).tdiv 8 ∧
      (d.clockDrift * 7 + (average - d.averageDelay)).tdiv 8 ≤ 2 * maxAverageDelaySample :=
    tdiv_bound (n := 8) (by omega) (by omega) (by omega)
  have hNarrow' : i32 ((d.clockDrift * 7 + (average - d.averageDelay)).tdiv 8) =
      (d.clockDrift * 7 + (average - d.averageDelay)).tdiv 8 := i32_of_lt (by omega) (by omega)
  refine ⟨hNext, by simp, ?_, by dsimp only; omega⟩
  dsimp only
  rw [hNarrow']
  exact hRolling

/-- The delay of the other direction has no average. -/
theorem theirs (h : AverageSound d) (tvUsec time currentMs : Nat) :
    AverageSound (d.noteTheirDelay tvUsec time currentMs) :=
  ⟨h.average, h.sum, h.drift, h.raw⟩

/-- The clamp works on the base of the delay. -/
theorem clamped (h : AverageSound d) (minRtt : Int) : AverageSound (d.clampToRtt minRtt) := by
  unfold clampToRtt
  split_ifs
  · exact ⟨h.average, h.sum, h.drift, h.raw⟩
  · exact h

end DelayState

/-- Every step of the delay keeps it. -/
theorem DelayStep.averageSound {currentMs : Nat} {d d' : DelayState} (hStep : DelayStep currentMs d d')
    (h : AverageSound d) : AverageSound d' := by
  cases hStep with
  | theirs tvUsec time => exact DelayState.theirs h tvUsec time currentMs
  | noted actualDelay hSome => exact DelayState.noted h actualDelay currentMs
  | averaged hSamples => exact DelayState.averaged h hSamples
  | clamped minRtt => exact DelayState.clamped h minRtt

/-- So does every path of a socket, by induction. -/
theorem AverageSound.path {env : Env} {cause : Cause} {s s' : Conn} (h : AverageSound s.delay) (hCore : Core s)
    (hLive : s.Live) (hPath : Path env cause s s') : AverageSound s'.delay := by
  induction hPath with
  | refl => exact h
  | tail hPrior hStep ih =>
      rcases hStep.delay (Path.keeps hPrior hCore hLive).1 with hSame | hDelay
      · rw [hSame]
        exact ih
      · exact hDelay.averageSound ih

/-- And the bookkeeping on its own. -/
theorem AverageSound.quietPath {env : Env} {cause : Cause} {s s' : Conn} (h : AverageSound s.delay)
    (hPath : QuietPath env cause s s') : AverageSound s'.delay := by
  induction hPath with
  | refl => exact h
  | tail _ hStep ih =>
      rcases hStep.delay_or with hSame | hDelay
      · rw [hSame]
        exact ih
      · exact hDelay.averageSound ih

/-- Nothing has been measured yet. -/
theorem AverageSound.of_zero {d : DelayState} (hAverage : d.averageDelay = 0) (hSum : d.currentDelaySum = 0)
    (hDrift : d.clockDrift = 0) (hRaw : d.clockDriftRaw = 0) : AverageSound d := by
  refine ⟨?_, ?_, ?_, ?_⟩
  · rw [hAverage]
    decide
  · rw [hSum]
    have hNonneg : (0 : Int) ≤ maxAverageDelaySample * d.currentDelaySamples := by positivity
    omega
  · rw [hDrift]
    decide
  · rw [hRaw]
    decide

/-- The averages of every socket stay in their range. -/
theorem preserved_averageSound (env : Env) : Preserved env fun s => AverageSound s.delay := by
  refine .of_trans ?_ ?_ ?_
  · intro s addr connSeed connIdRecv connIdSend hPristine _
    obtain ⟨targetDelay, optSndbuf, optRcvbuf, ssthresh, hEq⟩ := hPristine
    have hDelay : s.delay = (utpCreateSocket targetDelay optSndbuf optRcvbuf).delay :=
      (congrArg Socket.delay hEq).trans rfl
    have hInit : (s.initializeSocket env addr connSeed connIdRecv connIdSend).delay =
        { s.delay with
          lastMeasuredDelay := u64 (0x70000000 + (s.updateCurrentMs env).currentMs)
          averageSampleTime := u64 (5000 + (s.updateCurrentMs env).currentMs)
          ourHist := .clear (s.updateCurrentMs env).currentMs
          theirHist := .clear (s.updateCurrentMs env).currentMs } :=
      congrArg Backdrop.delay (Conn.backdrop_mtuReset env _)
    rw [hInit, hDelay]
    exact .of_zero rfl rfl rfl rfl
  · intro cause s s' _ hLive hInv hTrans
    rcases hTrans.delay hLive with hSame | hStep
    · rw [hSame]
      exact hInv
    · exact hStep.averageSound hInv
  · exact fun s currentMs tick hInv => hInv

end Utp
