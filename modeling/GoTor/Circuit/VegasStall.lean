import GoTor.Circuit.VegasProgress

/-!
# A blocked sender that nobody acknowledges

The other half of `VegasProgress`: when the increment is above one of the lower bounds, some run
takes the window below it.  A window below one increment is enough for a stall: samples that do
not count leave it where it is, and the sender fills it.
-/

namespace GoTor.Circuit

open GoTor.Lib VegasCircuit List

section Stall

variable {p : CCParams} {inc : ℤ} {w w' : VegasCircuit}

lemma VegasCircuit.Counted.fill (h : w.Counted inc) (n : ℕ) (hroom : w.vegas.inflight + n ≤ w.vegas.cwnd) :
    ∃ w', Reaches step w w' ∧ w'.Counted inc ∧
      w'.vegas = { w.vegas with inflight := w.vegas.inflight + n } := by
  induction n with
  | zero => exact ⟨w, .refl, h, by simp⟩
  | succ n ih =>
    obtain ⟨w', hreach, hcounted, hvegas⟩ := ih (by push_cast at hroom; omega)
    have hstep : w'.step .data = some w'.sendData := by
      simp only [step]
      rw [if_neg]
      rw [hvegas]
      dsimp only
      omega
    refine ⟨w'.sendData, hreach.trans (.of_step hstep), hcounted.sendData, ?_⟩
    unfold VegasCircuit.sendData
    rw [hvegas]
    simp only [Nat.cast_add, Nat.cast_one, add_assoc]

lemma receiveSendme_stalled (w : VegasCircuit) (blocked : Bool) (rest : List ℕ) :
    (w.receiveSendme 0 blocked rest).vegas.cwnd = w.vegas.cwnd := rfl

/-- **A window below one increment can leave the sender blocked for good.** -/
theorem VegasCircuit.Counted.stalls (h : w.Counted inc) (hcwnd : w.vegas.cwnd < inc) :
    ∃ w', Reaches step w w' ∧ w'.Blocked ∧ w'.expected = [] := by
  -- by induction on the acknowledgements that are due
  generalize hdue : w.expected = due
  induction due generalizing w with
  | nil =>
    by_cases hblocked : w.Blocked
    · exact ⟨w, .refl, hblocked, hdue⟩
    unfold VegasCircuit.Blocked at hblocked
    obtain ⟨w', hreach, hcounted, hvegas⟩ := h.fill (w.vegas.cwnd - w.vegas.inflight).toNat (by omega)
    have hinflight : w'.vegas.inflight = w.vegas.cwnd := by
      rw [hvegas]
      dsimp only
      omega
    refine ⟨w', hreach, ?_, hcounted.expected_nil (by omega)⟩
    unfold VegasCircuit.Blocked
    rw [hinflight, hvegas]
  | cons due rest ih =>
    have hstep : w.step (.sendme 0 false) = some (w.receiveSendme 0 false rest) := by
      simp only [step, hdue]
    have hnext : (w.receiveSendme 0 false rest).Counted inc := h.receiveSendme hdue
    obtain ⟨w', hreach, hw'⟩ := ih hnext ((receiveSendme_stalled w false rest).trans_lt hcwnd) rfl
    exact ⟨w', (Reaches.of_step hstep).trans hreach, hw'⟩

lemma VegasCircuit.Counted.make_due (h : w.Counted inc) (hcwnd : inc ≤ w.vegas.cwnd) :
    ∃ w' due rest, Reaches step w w' ∧ w'.Counted inc ∧ w'.expected = due :: rest ∧
      ∃ inflight, w'.vegas = { w.vegas with inflight } := by
  cases hdue : w.expected with
  | cons due rest => exact ⟨w, due, rest, .refl, h, hdue, w.vegas.inflight, rfl⟩
  | nil =>
    obtain ⟨r, hr, hlt, hcount⟩ := h.count
    rw [hdue, length_nil] at hcount
    obtain ⟨w', hreach, hcounted, hvegas⟩ := h.fill (inc - r).toNat (by omega)
    have hinflight : w'.vegas.inflight = inc := by
      rw [hvegas]
      dsimp only
      omega
    obtain ⟨r', -, hlt', hcount'⟩ := hcounted.count
    cases hdue' : w'.expected with
    | nil =>
      rw [hdue', length_nil] at hcount'
      omega
    | cons due rest => exact ⟨w', due, rest, hreach, hcounted, hdue', _, hvegas⟩

/-! ### Down to the smallest window -/

theorem cwndUpdateRate_nonneg {cwnd incRate sendmeInc : ℤ} {inSlowStart : Bool} (h : 0 ≤ cwnd) :
    0 ≤ cwndUpdateRate cwnd incRate sendmeInc inSlowStart := by
  unfold cwndUpdateRate
  split
  · omega
  have hden : 0 < if incRate * sendmeInc < 1 then 1 else incRate * sendmeInc := by
    split <;> omega
  have := Int.tdiv_nonneg hden.le (show (0 : ℤ) ≤ 2 by omega)
  exact Int.tdiv_nonneg (by omega) hden.le

lemma nCountEWMA_le {curr prev n b : ℤ} (hcurr : 0 ≤ curr) (hprev : 0 ≤ prev) (hcurr' : curr ≤ b)
    (hprev' : prev ≤ b) : nCountEWMA curr prev n ≤ b := by
  have key : ∀ m : ℤ, 1 ≤ m → (curr * 2 + prev * (m - 1)).tdiv (m + 1) ≤ b := by
    intro m hm
    have hp := mul_nonneg hprev (show 0 ≤ m - 1 by omega)
    have hq := mul_le_mul_of_nonneg_right hprev' (show 0 ≤ m - 1 by omega)
    rw [Int.tdiv_eq_ediv_of_nonneg (by omega)]
    refine Int.ediv_le_of_le_mul (by omega) ?_
    linarith
  apply key
  split <;> omega

/-- A controller whose samples of one millisecond all count. -/
structure Steady (s : VegasState) : Prop where
  min_nonneg : 0 ≤ s.minRTTUsec
  ewma_nonneg : 0 ≤ s.ewmaRTTUsec
  ewma_le : s.ewmaRTTUsec ≤ 1000
  cwnd_nonneg : 0 ≤ s.cwnd
  event_nonneg : 0 ≤ s.nextCCEvent

variable {s : VegasState}

open VegasState

lemma Steady.sampled (h : Steady s) (hblocked : s.blockedChan = true) (clockBroken : Bool) :
    (s.updateEstimates 1000 clockBroken).2 = true ∧ 0 ≤ (s.updateEstimates 1000 clockBroken).1.ewmaRTTUsec ∧
      (s.updateEstimates 1000 clockBroken).1.ewmaRTTUsec ≤ 1000 := by
  have hcounts :
      (timeDeltaStalledOrJumped s.inSlowStart s.ewmaRTTUsec 1000 clockBroken).1 = false := by
    have := h.ewma_nonneg
    have := h.ewma_le
    unfold timeDeltaStalledOrJumped deltaDiscrepancyRatioMax
    rw [if_neg (by omega)]
    by_cases hzero : s.ewmaRTTUsec = 0
    · rw [if_pos (by simp [hzero])]
    · split
      · rfl
      · rw [if_neg (by omega), if_neg (by omega)]
  have hnonneg : 0 ≤ (s.observe 1000).ewmaRTTUsec :=
    nCountEWMA_nonneg (by omega) h.ewma_nonneg
  have hle : (s.observe 1000).ewmaRTTUsec ≤ 1000 :=
    nCountEWMA_le (by omega) h.ewma_nonneg (le_refl _) h.ewma_le
  unfold updateEstimates
  rw [hcounts, if_neg (by simp)]
  dsimp only
  split
  · exact ⟨hblocked, hnonneg, hle⟩
  · exact ⟨rfl, hnonneg, hle⟩

/-- A round with a blocked connection ends slow start, or makes the window smaller at the next
event. -/
structure Shrinks (s s' : VegasState) : Prop where
  steady : Steady s'
  avoiding : s'.inSlowStart = false
  event : s.inSlowStart = false → s.nextCCEvent ≤ 1 →
    s'.cwnd ≤ max 1 (max s.params.cwndMin (s.cwnd - s.params.cwndInc))
  wait : s.inSlowStart = false → 1 < s.nextCCEvent → s'.cwnd = s.cwnd ∧ s'.nextCCEvent = s.nextCCEvent - 1

lemma congestionAvoidance_blocked (hblocked : s.blockedChan = true) (hdelta : 0 ≤ s.params.vegasDelta) :
    (s.congestionAvoidance s.queueUse).cwnd ≤
      max 1 (max s.params.cwndMin (s.cwnd - s.params.cwndInc)) := by
  unfold congestionAvoidance clampCwnd
  dsimp only
  split
  next hdeep =>
    have hbdp : s.bdp + s.params.vegasDelta < s.cwnd := by
      unfold queueUse at hdeep
      split at hdeep <;> omega
    omega
  next =>
    rw [if_pos (Or.inr hblocked)]
    omega

lemma Steady.adjust (h : Steady s) (hblocked : s.blockedChan = true) :
    Steady s.adjust.schedule.ackInflight ∧ s.adjust.inSlowStart = false := by
  obtain ⟨cwnd, inSlowStart, hadjust⟩ := s.adjust_writes
  have hcwnd : 0 ≤ s.adjust.cwnd := by
    unfold VegasState.adjust
    split
    · rw [slowStart_cwnd]
      omega
    · split
      · unfold congestionAvoidance clampCwnd
        dsimp only
        omega
      · exact h.cwnd_nonneg
  have hoff : s.adjust.inSlowStart = false := by
    cases hslow : s.inSlowStart with
    | false => exact adjust_avoiding hslow
    | true =>
      unfold VegasState.adjust
      rw [if_pos hslow, slowStart_inSlowStart, growSlowStart_blocked hblocked]
      rfl
  refine ⟨?_, hoff⟩
  rw [hadjust] at hcwnd ⊢
  refine ⟨h.min_nonneg, h.ewma_nonneg, h.ewma_le, hcwnd, ?_⟩
  have := h.event_nonneg
  show 0 ≤ if s.nextCCEvent = 0 then _ else s.nextCCEvent
  split
  · exact cwndUpdateRate_nonneg hcwnd
  · exact this

lemma Steady.shrinks (h : Steady s) (hblocked : s.blockedChan = true)
    (hdelta : 0 ≤ s.params.vegasDelta) (clockBroken : Bool) :
    Shrinks s (s.processSendme 1000 clockBroken) := by
  have htick : Steady s.tick := by
    refine { h with event_nonneg := ?_ }
    have := h.event_nonneg
    unfold tick
    dsimp only
    split <;> omega
  obtain ⟨hsampled, hewma, hewma'⟩ := htick.sampled hblocked clockBroken
  have hest := @estimated_updateEstimates 1000 clockBroken s.tick h.min_nonneg h.ewma_nonneg h.cwnd_nonneg
  obtain ⟨ewma, min, bdp, hs'⟩ := s.tick.updateEstimates_writes 1000 clockBroken
  obtain ⟨hnot, -⟩ | ⟨-, hproc⟩ := s.processSendme_cases 1000 clockBroken
  · rw [hsampled] at hnot
    cases hnot
  rw [hproc]
  rw [hs'] at hest hewma hewma' ⊢
  set s2 : VegasState := noteFull
    { s.tick with ewmaRTTUsec := ewma, minRTTUsec := min, bdp := bdp }
  have hsteady : Steady s2 :=
    ⟨hest.min_nonneg, hewma, hewma', htick.cwnd_nonneg, htick.event_nonneg⟩
  obtain ⟨hsteady', hoff⟩ := hsteady.adjust hblocked
  have hevent : s2.nextCCEvent = if s.nextCCEvent > 0 then s.nextCCEvent - 1 else s.nextCCEvent :=
    rfl
  have hnonneg := h.event_nonneg
  refine ⟨hsteady', hoff, fun hslow hdue => ?_, fun hslow hwait => ?_⟩
  · -- the event is due
    have hdue : s2.nextCCEvent = 0 := by
      rw [hevent]
      split <;> omega
    have hadjust : s2.adjust = s2.congestionAvoidance s2.queueUse := by
      unfold VegasState.adjust
      rw [if_neg (by rw [show s2.inSlowStart = false from hslow]; simp), if_pos hdue]
    rw [hadjust]
    exact congestionAvoidance_blocked hblocked hdelta
  -- it is not due: only the countdown moves
  have hwait : s2.nextCCEvent = s.nextCCEvent - 1 := by
    rw [hevent, if_pos (by omega)]
  have hadjust : s2.adjust = s2 := by
    unfold VegasState.adjust
    rw [if_neg (by rw [show s2.inSlowStart = false from hslow]; simp), if_neg (by omega)]
  rw [hadjust]
  refine ⟨rfl, ?_⟩
  show (if s2.nextCCEvent = 0 then _ else s2.nextCCEvent) = _
  rw [if_neg (by omega), hwait]

lemma VegasCircuit.Counted.blocked_round (h : w.Counted inc) (hsteady : Steady w.vegas)
    (hdelta : 0 ≤ w.vegas.params.vegasDelta) (hcwnd : inc ≤ w.vegas.cwnd) :
    ∃ w', Reaches step w w' ∧ w'.Counted inc ∧ w'.vegas.params = w.vegas.params ∧ Shrinks w.vegas w'.vegas := by
  obtain ⟨w1, due, rest, hreach, hcounted, hdue, inflight, hvegas⟩ := h.make_due hcwnd
  have hstep : w1.step (.sendme 1000 true) = some (w1.receiveSendme 1000 true rest) := by
    simp only [step, hdue]
  have hframe := processSendme_frame { w1.vegas with blockedChan := true } 1000 w1.clockBroken
  rw [hvegas] at hframe
  have hsteady1 : Steady { w.vegas with inflight := inflight, blockedChan := true } :=
    { hsteady with }
  have hshrinks := hsteady1.shrinks rfl hdelta w1.clockBroken
  refine ⟨_, hreach.trans (.of_step hstep), hcounted.receiveSendme hdue, ?_, ?_⟩
  · unfold VegasCircuit.receiveSendme
    rw [hvegas]
    exact hframe.1
  · unfold VegasCircuit.receiveSendme
    rw [hvegas]
    exact { hshrinks with }

/-- **Blocked rounds take the window below an increment that is larger than `cc_cwnd_min`.** -/
theorem VegasCircuit.Counted.descends (h : w.Counted inc) (hsteady : Steady w.vegas)
    (hoff : w.vegas.inSlowStart = false) (hpos : 1 < inc)
    (hmin : w.vegas.params.cwndMin < inc) (hcwndInc : 1 ≤ w.vegas.params.cwndInc)
    (hdelta : 0 ≤ w.vegas.params.vegasDelta) :
    ∃ w', Reaches step w w' ∧ w'.Counted inc ∧ w'.vegas.cwnd < inc := by
  -- by induction on the window, and within it on the SENDMEs before the next event
  generalize hn : w.vegas.cwnd.toNat = n
  induction n using Nat.strong_induction_on generalizing w with
  | _ n ih =>
    generalize hk : w.vegas.nextCCEvent.toNat = k
    induction k using Nat.strong_induction_on generalizing w with
    | _ k ihk =>
      by_cases hlow : w.vegas.cwnd < inc
      · exact ⟨w, .refl, h, hlow⟩
      obtain ⟨w1, hreach, hcounted, hparams, hshrinks⟩ :=
        h.blocked_round hsteady hdelta (by omega)
      rw [← hparams] at hmin hcwndInc hdelta
      have hsteady1 := hshrinks.steady
      have hrest : ∃ w', Reaches step w1 w' ∧ w'.Counted inc ∧ w'.vegas.cwnd < inc := by
        by_cases hevent : w.vegas.nextCCEvent ≤ 1
        · have hcwnd := hshrinks.event hoff hevent
          rw [← hparams] at hcwnd
          exact ih w1.vegas.cwnd.toNat (by omega) hcounted hsteady1 hshrinks.avoiding hmin hcwndInc hdelta rfl
        · obtain ⟨hcwnd, hnext⟩ := hshrinks.wait hoff (by omega)
          exact ihk w1.vegas.nextCCEvent.toNat (by omega) hcounted hsteady1 hshrinks.avoiding hmin
            hcwndInc hdelta (by rw [hcwnd]; exact hn) rfl
      obtain ⟨w', hreach', hw'⟩ := hrest
      exact ⟨w', hreach.trans hreach', hw'⟩

lemma steady_new (hpos : 1 ≤ inc) : Steady (newVegasState p inc) := by
  rw [newVegasState_eq hpos]
  constructor <;> dsimp only <;> omega

lemma reaches_small_of_cwndMin (hp : p.InRange) (hpos : 1 ≤ inc) (hmin : p.cwndMin < inc) :
    ∃ w, Reaches step (newVegasCircuit p inc) w ∧ w.Counted inc ∧ w.vegas.cwnd < inc := by
  have hnew := @newVegasState_eq p inc hpos
  have hparams : (newVegasCircuit p inc).vegas.params = { p with cwndInit := max p.cwndInit inc } := by
    unfold newVegasCircuit
    rw [hnew]
  have hcwnd : inc ≤ (newVegasCircuit p inc).vegas.cwnd := by
    unfold newVegasCircuit
    rw [hnew]
    exact le_max_right _ _
  obtain ⟨w1, hreach, hcounted, hparams1, hshrinks⟩ :=
    (@counted_new p inc hpos).blocked_round (steady_new hpos) (by rw [hparams]; exact hp.vegasDelta) hcwnd
  rw [hparams] at hparams1
  have hmin1 := hp.cwndMin
  obtain ⟨w2, hreach2, hw2⟩ := hcounted.descends hshrinks.steady hshrinks.avoiding (by omega)
    (by rw [hparams1]; exact hmin) (by rw [hparams1]; exact hp.cwndInc)
    (by rw [hparams1]; exact hp.vegasDelta)
  exact ⟨w2, hreach.trans hreach2, hw2⟩

/-! ### Out of slow start with an empty pipe -/

theorem two_le_nEWMACount (s : VegasState) : 2 ≤ s.nEWMACount := by
  unfold nEWMACount
  dsimp only
  split <;> omega

lemma counts_in_slowStart {rttUsec : ℤ} (hon : s.inSlowStart = true) (hrtt : 0 < rttUsec) (clockBroken : Bool) :
    (timeDeltaStalledOrJumped s.inSlowStart s.ewmaRTTUsec rttUsec clockBroken).1 = false := by
  unfold timeDeltaStalledOrJumped
  rw [if_neg (by omega), if_pos (by simp [hon])]

variable {clockBroken : Bool}

lemma updateEstimates_first (hon : s.inSlowStart = true) (hmin : s.minRTTUsec = 0) (hewma : s.ewmaRTTUsec = 0) :
    s.updateEstimates (s.nEWMACount + 1) clockBroken =
      ({ s with ewmaRTTUsec := 2, minRTTUsec := 2, bdp := s.cwnd }, true) := by
  have hn := two_le_nEWMACount s
  have hnew : nCountEWMA (s.nEWMACount + 1) s.ewmaRTTUsec s.nEWMACount = 2 := by
    unfold nCountEWMA
    dsimp only
    rw [if_neg (by omega), hewma, zero_mul, add_zero]
    exact Int.mul_tdiv_cancel_left _ (by omega)
  have hobserve : s.observe (s.nEWMACount + 1) =
      { s with ewmaRTTUsec := 2, minRTTUsec := 2 } := by
    unfold observe
    dsimp only
    rw [hnew, if_pos hmin]
  have hbdp : (s.cwnd * 2).tdiv 2 = s.cwnd := Int.mul_tdiv_cancel _ (by omega)
  unfold updateEstimates
  rw [counts_in_slowStart hon (by omega), if_neg (by simp), hobserve]
  dsimp only
  rw [if_neg (by omega), hbdp]

lemma updateEstimates_late (hon : s.inSlowStart = true)
    (hmin : s.minRTTUsec = 2) (hewma : s.ewmaRTTUsec = 2) (hcwnd : 0 ≤ s.cwnd)
    (clockBroken : Bool) :
    ∃ ewma, s.updateEstimates ((s.nEWMACount + 1) * (s.cwnd + 1)) clockBroken =
      ({ s with ewmaRTTUsec := ewma, minRTTUsec := 2, bdp := 0 }, true) := by
  have hn := two_le_nEWMACount s
  have hrtt : 0 < (s.nEWMACount + 1) * (s.cwnd + 1) := mul_pos (by omega) (by omega)
  have hnew : 2 * (s.cwnd + 1) ≤
      nCountEWMA ((s.nEWMACount + 1) * (s.cwnd + 1)) s.ewmaRTTUsec s.nEWMACount := by
    unfold nCountEWMA
    rw [if_neg (by omega), hewma, Int.tdiv_eq_ediv_of_nonneg (by omega)]
    refine Int.le_ediv_of_mul_le (by omega) ?_
    linarith
  generalize hn' : nCountEWMA ((s.nEWMACount + 1) * (s.cwnd + 1)) s.ewmaRTTUsec s.nEWMACount = ewma at hnew
  have hobserve : s.observe ((s.nEWMACount + 1) * (s.cwnd + 1)) =
      { s with ewmaRTTUsec := ewma, minRTTUsec := 2 } := by
    unfold observe
    dsimp only
    rw [hn', if_neg (by omega), if_neg (by simp [hon]), if_neg (by omega), hmin]
  have hbdp : (s.cwnd * 2).tdiv ewma = 0 := Int.tdiv_eq_zero_of_lt (by omega) (by omega)
  refine ⟨ewma, ?_⟩
  unfold updateEstimates
  rw [counts_in_slowStart hon hrtt, if_neg (by simp), hobserve]
  dsimp only
  rw [if_neg (by omega), hbdp]

lemma adjust_stays (hpos : 1 ≤ inc) (hle : inc ≤ 250)
    (hmax : 500 ≤ s.params.cwndMax) (hgamma : 0 < s.params.vegasGamma)
    (hcwnd : inc ≤ s.cwnd) (hbdp : s.bdp = s.cwnd) (hblocked : s.blockedChan = false)
    (hon : s.inSlowStart = true) (hssInc : 0 ≤ s.rfc3742SSInc)
    (hroom : if s.cwndFull then s.cwnd + s.rfc3742SSInc < s.params.ssMax ∧ s.params.cwndInc * s.params.cwndIncRate <
          s.rfc3742SSInc * sendmePerCwnd (s.cwnd + s.rfc3742SSInc) s.sendmeInc
      else s.cwnd < s.params.ssMax) :
    s.adjust.inSlowStart = true ∧ inc ≤ s.adjust.cwnd := by
  have hqueue : s.queueUse = 0 := by
    unfold queueUse
    rw [hbdp]
    simp
  unfold adjust
  rw [if_pos hon, hqueue, slowStart_inSlowStart, slowStart_cwnd]
  obtain ⟨-, hfull, h⟩ | ⟨-, hfull, h⟩ | ⟨hnot, -⟩ := growSlowStart_cases s 0
  · rw [hfull, if_neg (by simp)] at hroom
    rw [h, hon, decide_eq_true hroom]
    exact ⟨rfl, by omega⟩
  · rw [hfull, if_pos rfl] at hroom
    rw [h, hon, decide_eq_true hroom.2]
    dsimp only
    rw [decide_eq_true hroom.1]
    exact ⟨rfl, by omega⟩
  · exact absurd ⟨hgamma, hblocked⟩ hnot

lemma adjust_empty (hon : s.inSlowStart = true) (hbdp : s.bdp = 0)
    (hgamma : 0 < s.params.vegasGamma) (hcwnd : s.params.vegasGamma ≤ s.cwnd) :
    s.adjust.cwnd ≤ s.params.vegasGamma := by
  have hqueue : s.queueUse = s.cwnd := by
    unfold queueUse
    rw [hbdp, if_pos (by omega), sub_zero]
  unfold adjust
  rw [if_pos hon, slowStart_cwnd, hqueue]
  obtain ⟨hlow, -, -⟩ | ⟨hlow, -, -⟩ | ⟨-, h⟩ := growSlowStart_cases s s.cwnd
  · omega
  · omega
  · rw [h]
    dsimp only
    omega

lemma processSendme_of_sampled {s' : VegasState} {rttUsec : ℤ}
    (h : s.tick.updateEstimates rttUsec clockBroken = (s', true)) :
    s.processSendme rttUsec clockBroken = s'.noteFull.adjust.schedule.ackInflight := by
  unfold processSendme
  rw [h]
  rfl

lemma exists_inflight (hp : p.InRange) (hpos : 1 ≤ inc) (hout : OutlastsFirstSample p inc) :
    ∃ n : ℕ, inc ≤ n ∧ (n : ℤ) ≤ (newVegasState p inc).cwnd ∧
      if n + p.cwndFullGap * inc ≥ (newVegasState p inc).cwnd then
        (newVegasState p inc).cwnd + (newVegasState p inc).rfc3742SSInc < p.ssMax ∧
          p.cwndInc * p.cwndIncRate < (newVegasState p inc).rfc3742SSInc *
            sendmePerCwnd ((newVegasState p inc).cwnd + (newVegasState p inc).rfc3742SSInc) inc
      else (newVegasState p inc).cwnd < p.ssMax := by
  have hcwnd : inc ≤ (newVegasState p inc).cwnd := by
    rw [newVegasState_eq hpos]
    exact le_max_right _ _
  have hgap := mul_nonneg hp.cwndFullGap (show 0 ≤ inc by omega)
  obtain ⟨-, hslack | hgrow⟩ := hout
  · refine ⟨inc.toNat, by omega, by omega, ?_⟩
    rw [if_neg (by omega)]
    exact hslack.2
  · refine ⟨(newVegasState p inc).cwnd.toNat, by omega, by omega, ?_⟩
    rw [if_pos (by omega)]
    exact hgrow

structure PastFirst (p : CCParams) (inc : ℤ) (s : VegasState) : Prop where
  params_eq : s.params = (newVegasState p inc).params
  slow : s.inSlowStart = true
  min_eq : s.minRTTUsec = 2
  ewma_eq : s.ewmaRTTUsec = 2
  inc_le : inc ≤ s.cwnd

lemma pastFirst_processSendme {n : ℕ} (hp : p.InRange) (hpos : 1 ≤ inc) (hle : inc ≤ 250)
    (hgamma : 0 < p.vegasGamma) (hs : s = { newVegasState p inc with inflight := n })
    (hcase : if n + p.cwndFullGap * inc ≥ (newVegasState p inc).cwnd then
        (newVegasState p inc).cwnd + (newVegasState p inc).rfc3742SSInc < p.ssMax ∧
          p.cwndInc * p.cwndIncRate < (newVegasState p inc).rfc3742SSInc *
            sendmePerCwnd ((newVegasState p inc).cwnd + (newVegasState p inc).rfc3742SSInc) inc
      else (newVegasState p inc).cwnd < p.ssMax) :
    PastFirst p inc (s.processSendme (s.tick.nEWMACount + 1) clockBroken) := by
  have hnew := @newVegasState_eq p inc hpos
  have hcwnd : inc ≤ (newVegasState p inc).cwnd := by
    rw [hnew]
    exact le_max_right _ _
  have hparams : (newVegasState p inc).params = { p with cwndInit := max p.cwndInit inc } := by
    rw [hnew]
  have hinc : (newVegasState p inc).sendmeInc = inc := by rw [hnew]
  -- This RTT makes the first average 2 and the BDP the window itself.
  have hfirst : s.tick.updateEstimates (s.tick.nEWMACount + 1) clockBroken =
      ({ s.tick with ewmaRTTUsec := 2, minRTTUsec := 2, bdp := s.tick.cwnd }, true) :=
    updateEstimates_first (by rw [hs]; rfl) (by rw [hs]; rfl) (by rw [hs]; rfl)
  rw [processSendme_of_sampled hfirst, hs]
  set s2 : VegasState := noteFull
    { tick { newVegasState p inc with inflight := n } with
      ewmaRTTUsec := 2, minRTTUsec := 2
      bdp := (tick { newVegasState p inc with inflight := n }).cwnd }
  have hparams2 : s2.params = { p with cwndInit := max p.cwndInit inc } := hparams
  have hssInc : s2.rfc3742SSInc = (newVegasState p inc).rfc3742SSInc := rfl
  have hfull : s2.cwndFull = decide (n + p.cwndFullGap * inc ≥ (newVegasState p inc).cwnd) := by
    have hbecame : s2.cwndFull = s2.cwndBecameFull := noteFull_of_not_full rfl
    rw [hbecame]
    unfold cwndBecameFull
    rw [hparams2, show s2.sendmeInc = inc from hinc]
    rfl
  -- BDP and window agree, so `adjust` sees an empty queue.
  have hstays : s2.adjust.inSlowStart = true ∧ inc ≤ s2.adjust.cwnd := by
    refine adjust_stays hpos hle ?_ ?_ hcwnd rfl rfl rfl ?_ ?_
    · rw [hparams2]
      exact hp.cwndMax
    · rw [hparams2]
      exact hgamma
    · have hpct := hp.cwndIncPctSS
      refine rfc3742SSInc_nonneg ?_ ?_
      · rw [hparams2]
        dsimp only
        omega
      · show 0 ≤ (newVegasState p inc).sendmeInc
        omega
    · rw [hfull, hparams2, show s2.sendmeInc = inc from hinc]
      simp only [decide_eq_true_eq]
      exact hcase
  obtain ⟨cwnd, inSlowStart, hadjust⟩ := s2.adjust_writes
  rw [hadjust] at hstays ⊢
  exact ⟨rfl, hstays.1, rfl, rfl, hstays.2⟩

lemma PastFirst.processSendme (h : PastFirst p inc s) (hpos : 1 ≤ inc) (hgamma : 0 < p.vegasGamma)
    (hlt : p.vegasGamma < inc) :
    (s.processSendme ((s.tick.nEWMACount + 1) * (s.tick.cwnd + 1)) clockBroken).cwnd < inc := by
  have hcwnd := h.inc_le
  obtain ⟨ewma, hlate⟩ := @updateEstimates_late s.tick h.slow h.min_eq h.ewma_eq
    (show 0 ≤ s.cwnd by omega) clockBroken
  have hparams : s.params.vegasGamma = p.vegasGamma := by
    rw [h.params_eq, newVegasState_eq hpos]
  rw [processSendme_of_sampled hlate]
  set s2 : VegasState := noteFull
    { s.tick with ewmaRTTUsec := ewma, minRTTUsec := 2, bdp := 0 }
  have hempty : s2.adjust.cwnd ≤ s.params.vegasGamma :=
    @adjust_empty s2 h.slow rfl (show 0 < s.params.vegasGamma by omega) (show s.params.vegasGamma ≤ s.cwnd by omega)
  show s2.adjust.cwnd < inc
  omega

lemma reaches_small_of_gamma (hp : p.InRange) (hpos : 1 ≤ inc) (hle : inc ≤ 250)
    (hlt : p.vegasGamma < inc) (hout : OutlastsFirstSample p inc) :
    ∃ w, Reaches step (newVegasCircuit p inc) w ∧ w.Counted inc ∧ w.vegas.cwnd < inc := by
  have hgamma := hout.1
  obtain ⟨n, hn, hroom, hcase⟩ := exists_inflight hp hpos hout
  -- the first sample keeps slow start going
  obtain ⟨w1, hreach1, hcounted1, hvegas1⟩ := (@counted_new p inc hpos).fill n (by
    show 0 + (n : ℤ) ≤ (newVegasState p inc).cwnd
    omega)
  have hvegas1 : w1.vegas = { newVegasState p inc with inflight := n } := by
    rw [hvegas1]
    show { newVegasState p inc with inflight := 0 + (n : ℤ) } = _
    rw [zero_add]
  cases hdue1 : w1.expected with
  | nil =>
    obtain ⟨r, -, hr, hcount⟩ := hcounted1.count
    rw [hdue1, length_nil, hvegas1] at hcount
    dsimp only at hcount
    omega
  | cons due rest =>
    set s := { w1.vegas with blockedChan := false }
    have hstep1 : w1.step (.sendme (s.tick.nEWMACount + 1) false) =
        some (w1.receiveSendme (s.tick.nEWMACount + 1) false rest) := by
      simp only [step, hdue1]
    have hpast : PastFirst p inc (w1.receiveSendme (s.tick.nEWMACount + 1) false rest).vegas :=
      pastFirst_processSendme hp hpos hle hgamma (by rw [hvegas1]; rfl) hcase
    have hcounted2 : (w1.receiveSendme (s.tick.nEWMACount + 1) false rest).Counted inc :=
      hcounted1.receiveSendme hdue1
    -- the second one finds the pipe empty
    obtain ⟨w3, due, rest', hreach3, hcounted3, hdue3, inflight, hvegas3⟩ :=
      hcounted2.make_due hpast.inc_le
    set s3 := { w3.vegas with blockedChan := false } with hs3
    have hpast3 : PastFirst p inc s3 := by
      rw [hs3, hvegas3]
      exact { hpast with }
    have hstep3 : w3.step (.sendme ((s3.tick.nEWMACount + 1) * (s3.tick.cwnd + 1)) false) =
        some (w3.receiveSendme ((s3.tick.nEWMACount + 1) * (s3.tick.cwnd + 1)) false rest') := by
      simp only [step, hdue3]
    refine ⟨_, hreach1.trans ((Reaches.of_step hstep1).trans (hreach3.trans (.of_step hstep3))),
      hcounted3.receiveSendme hdue3, ?_⟩
    exact hpast3.processSendme hpos hgamma hlt

end Stall

/-! ### The consensus parameters -/

/-- **With the parameters of a consensus and a negotiated increment, a blocked sender always has an
acknowledgement due, and is unblocked by those due, exactly when the increment is at most
`cc_cwnd_min` and either at most `cc_vegas_gamma` or slow start ends with the first sample.** -/
theorem vegas_unblocked_iff (params : Option ConsensusParams) (inc : ℤ) (hpos : 1 ≤ inc) (hle : inc ≤ 250) :
    AlwaysUnblocked (ccParamsFromConsensus params) inc ↔ WindowHoldsIncrement (ccParamsFromConsensus params) inc := by
  have hp := inRange_ccParamsFromConsensus params
  constructor
  · intro halways
    by_contra hnot
    have hsmall : ∃ w, Reaches step
        (newVegasCircuit (ccParamsFromConsensus params) inc) w ∧ w.Counted inc ∧
        w.vegas.cwnd < inc := by
      by_cases hmin : inc ≤ (ccParamsFromConsensus params).cwndMin
      · have hboth : ¬ (inc ≤ (ccParamsFromConsensus params).vegasGamma ∨
            ¬ OutlastsFirstSample (ccParamsFromConsensus params) inc) := fun h => hnot ⟨hmin, h⟩
        rw [not_or, not_not] at hboth
        exact reaches_small_of_gamma hp hpos hle (by omega) hboth.2
      · exact reaches_small_of_cwndMin hp hpos (by omega)
    obtain ⟨w, hreach, hcounted, hcwnd⟩ := hsmall
    obtain ⟨w', hreach', hblocked, hnil⟩ := hcounted.stalls hcwnd
    exact (halways w' (hreach.trans hreach') hblocked).1 hnil
  · exact alwaysUnblocked_of_window hp hpos hle

/-- The default parameters, with the default increment. -/
theorem vegas_unblocked_default : AlwaysUnblocked (ccParamsFromConsensus none) 31 :=
  (vegas_unblocked_iff none 31 (by decide) (by decide)).2 (by decide +kernel)

/-- The default parameters, with increment 250: 250 cells, acknowledged after 30 ms, 250 more,
acknowledged after three seconds.  Slow start ends with a window of 190 cells, and after 190 cells
the sender is blocked with no acknowledgement due. -/
theorem vegas_stalls :
    ∃ w, run VegasCircuit.step (newVegasCircuit (ccParamsFromConsensus none) 250)
        (replicate 250 .data ++ [.sendme 30000 false] ++ replicate 250 .data ++
          [.sendme 3000000 false] ++ replicate 190 .data) = some w ∧
      w.Blocked ∧ w.expected = [] := by
  decide +kernel

/-- **A blocked sender on a rendezvous circuit** has an acknowledgement due, and is unblocked by
those due, if the increment is at most 31 and `cc_vegas_gamma_onion`. -/
theorem onion_unblocked (params : Option ConsensusParams) {inc : ℤ} (hpos : 1 ≤ inc) (hle : inc ≤ 31)
    (hgamma : inc ≤ (ccParamsOnionFromConsensus params).vegasGamma) :
    AlwaysUnblocked (ccParamsOnionFromConsensus params) inc := by
  have hp : (ccParamsOnionFromConsensus params).InRange := by
    cases params with
    | none => constructor <;> decide
    | some params => exact inRange_pickCCParams
  exact alwaysUnblocked_of_window hp hpos (by omega) ⟨hle.trans hp.cwndMin, .inl hgamma⟩

theorem onion_unblocked_default : AlwaysUnblocked (ccParamsOnionFromConsensus none) 31 :=
  onion_unblocked none (by decide) (by decide) (by decide)

end GoTor.Circuit
