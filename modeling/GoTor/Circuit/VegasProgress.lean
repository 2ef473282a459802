import GoTor.Circuit.Vegas
import GoTor.Lib.Run

/-!
# A blocked sender is acknowledged

The peer answers every `sendmeInc`-th DATA cell.  A sender that has as many cells in flight as its
window allows goes on only after such an answer, so one has to be due: the window must never fall
below one increment.  `newVegasState` sees to that at the start; afterwards the window is bounded
by `cc_cwnd_min`, and at the end of slow start by `cc_vegas_gamma`, neither of which knows the
negotiated increment.  This module states the property and shows what keeps the window.
-/

namespace GoTor.Circuit

open GoTor.Lib VegasState List

/-! ### A circuit with congestion control -/

/-- The sending side of a circuit: the controller, the number of DATA cells sent, and the numbers
of those whose acknowledgement is due (`sendmeExpected`). -/
structure VegasCircuit where
  vegas : VegasState
  /-- `monotimeClockBroken`. -/
  clockBroken : Bool := false
  sent : ℕ := 0
  expected : List ℕ := []
  deriving DecidableEq

inductive VegasAct
  | data
  /-- The SENDME for the first cell that is due: the round-trip time, and whether the connection
  is blocked. -/
  | sendme (rttUsec : ℤ) (blocked : Bool)
  /-- Another circuit's sample writes `monotimeClockBroken`. -/
  | clock (broken : Bool)
  deriving DecidableEq

def newVegasCircuit (p : CCParams) (sendmeInc : ℤ) : VegasCircuit where
  vegas := newVegasState p sendmeInc

namespace VegasCircuit

/-- The window is used up: `decrementPackageWindowForSendme` fails. -/
def Blocked (w : VegasCircuit) : Prop := w.vegas.inflight ≥ w.vegas.cwnd

instance : DecidablePred Blocked := fun _ => inferInstanceAs (Decidable (_ ≥ _))

/-- `decrementPackageWindowForSendme`, and the tag recorded for a cell on a boundary. -/
def sendData (w : VegasCircuit) : VegasCircuit :=
  { w with
    vegas := { w.vegas with inflight := w.vegas.inflight + 1 }
    sent := w.sent + 1
    expected := if (w.vegas.inflight + 1) % w.vegas.sendmeInc = 0 then w.expected ++ [w.sent + 1] else w.expected }

/-- `processCircuitSendme` for the cell that is due. -/
def receiveSendme (w : VegasCircuit) (rttUsec : ℤ) (blocked : Bool) (rest : List ℕ) : VegasCircuit :=
  let vegas := { w.vegas with blockedChan := blocked }
  { w with
    vegas := vegas.processSendme rttUsec w.clockBroken
    clockBroken := (timeDeltaStalledOrJumped vegas.inSlowStart vegas.ewmaRTTUsec rttUsec w.clockBroken).2
    expected := rest }

def step (w : VegasCircuit) : VegasAct → Option VegasCircuit
  | .data => if w.vegas.inflight ≥ w.vegas.cwnd then none else some w.sendData
  | .sendme rttUsec blocked =>
    match w.expected with
    | [] => none
    | _ :: rest => some (w.receiveSendme rttUsec blocked rest)
  | .clock broken => some { w with clockBroken := broken }

end VegasCircuit

variable (p : CCParams) (sendmeInc : ℤ)

/-- In every reachable state of the circuit, a blocked sender has an acknowledgement due, and
the acknowledgements that are due unblock it, whatever the samples. -/
def AlwaysUnblocked : Prop :=
  ∀ w, Reaches VegasCircuit.step (newVegasCircuit p sendmeInc) w → w.Blocked → w.expected ≠ [] ∧
    ∀ samples : List (ℤ × Bool), samples.length = w.expected.length →
      ∃ w', run VegasCircuit.step w (samples.map fun x => .sendme x.1 x.2) = some w' ∧ ¬ w'.Blocked

/-- Slow start can go on after the first round-trip time: the window may then be far above the
bandwidth-delay product of the next sample. -/
def OutlastsFirstSample : Prop :=
  let s := newVegasState p sendmeInc
  0 < p.vegasGamma ∧
    (sendmeInc + p.cwndFullGap * sendmeInc < s.cwnd ∧ s.cwnd < p.ssMax ∨ s.cwnd + s.rfc3742SSInc < p.ssMax ∧
        p.cwndInc * p.cwndIncRate <
          s.rfc3742SSInc * sendmePerCwnd (s.cwnd + s.rfc3742SSInc) sendmeInc)

/-- The increment is within every lower bound of the window. -/
def WindowHoldsIncrement : Prop :=
  sendmeInc ≤ p.cwndMin ∧ (sendmeInc ≤ p.vegasGamma ∨ ¬ OutlastsFirstSample p sendmeInc)

instance : Decidable (OutlastsFirstSample p sendmeInc) :=
  inferInstanceAs (Decidable (_ ∧ (_ ∧ _ ∨ _ ∧ _)))

instance : Decidable (WindowHoldsIncrement p sendmeInc) :=
  inferInstanceAs (Decidable (_ ∧ (_ ∨ ¬ _)))

lemma newVegasState_eq {p : CCParams} {inc : ℤ} (hinc : 1 ≤ inc) : newVegasState p inc =
      { params := { p with cwndInit := max p.cwndInit inc }
        sendmeInc := inc
        cwnd := max p.cwndInit inc } := by
  unfold newVegasState
  have hlt : ¬ inc < 1 := by omega
  simp only [if_neg hlt]
  split
  next h => rw [max_eq_right h.le]
  next h => rw [max_eq_left (by omega)]

/-! ### The acknowledgements that are due -/

/-- One acknowledgement is due for each increment in flight. -/
structure VegasCircuit.Counted (inc : ℤ) (w : VegasCircuit) : Prop where
  inc_eq : w.vegas.sendmeInc = inc
  count : ∃ r, 0 ≤ r ∧ r < inc ∧ w.vegas.inflight = inc * w.expected.length + r

section Counted

variable {p : CCParams} {inc : ℤ} {w w' : VegasCircuit} {a : VegasAct}

lemma VegasCircuit.Counted.inc_le_inflight (h : w.Counted inc) (hne : w.expected ≠ []) : inc ≤ w.vegas.inflight := by
  obtain ⟨r, hr, hlt, hcount⟩ := h.count
  have hlen : (1 : ℤ) ≤ w.expected.length := by
    exact_mod_cast length_pos_iff.2 hne
  nlinarith

lemma VegasCircuit.Counted.expected_nil (h : w.Counted inc) (hlt : w.vegas.inflight < inc) : w.expected = [] := by
  by_contra hne
  have := h.inc_le_inflight hne
  omega

lemma VegasCircuit.Counted.sendData (h : w.Counted inc) : w.sendData.Counted inc := by
  obtain ⟨r, hr, hlt, hcount⟩ := h.count
  refine ⟨h.inc_eq, ?_⟩
  have hmod : (w.vegas.inflight + 1) % inc = (r + 1) % inc := by
    rw [hcount, add_assoc, Int.add_comm, Int.add_mul_emod_self_left]
  show ∃ r, 0 ≤ r ∧ r < inc ∧ w.vegas.inflight + 1 = inc *
    (if (w.vegas.inflight + 1) % w.vegas.sendmeInc = 0 then w.expected ++ [w.sent + 1] else w.expected).length + r
  rw [h.inc_eq, hmod]
  by_cases hfull : r + 1 = inc
  · refine ⟨0, le_refl _, by omega, ?_⟩
    rw [if_pos (by rw [hfull, Int.emod_self]), length_append, length_singleton]
    push_cast
    linarith
  · have hsmall : (r + 1) % inc = r + 1 := Int.emod_eq_of_lt (by omega) (by omega)
    refine ⟨r + 1, by omega, by omega, ?_⟩
    rw [if_neg (by omega)]
    omega

lemma VegasCircuit.Counted.receiveSendme {due : ℕ} {rest : List ℕ} {rttUsec : ℤ} {blocked : Bool}
    (h : w.Counted inc) (hdue : w.expected = due :: rest) :
    (w.receiveSendme rttUsec blocked rest).Counted inc := by
  obtain ⟨r, hr, hlt, hcount⟩ := h.count
  obtain ⟨-, hinc, hinflight⟩ := processSendme_frame { w.vegas with blockedChan := blocked } rttUsec w.clockBroken
  refine ⟨hinc.trans h.inc_eq, r, hr, hlt, ?_⟩
  rw [hdue] at hcount
  have hrest : (0 : ℤ) ≤ inc * rest.length := mul_nonneg (by omega) (by omega)
  have hinc : w.vegas.sendmeInc = inc := h.inc_eq
  show (processSendme _ _ _).inflight = inc * rest.length + r
  rw [hinflight]
  simp only [length_cons, Nat.cast_add, Nat.cast_one] at hcount
  rw [max_eq_right] <;> simp only [hinc] <;> linarith

lemma counted_new (hinc : 1 ≤ inc) : (newVegasCircuit p inc).Counted inc := by
  unfold newVegasCircuit
  rw [newVegasState_eq hinc]
  exact ⟨rfl, 0, le_refl _, by omega, by simp⟩

end Counted

/-! ### The window holds one increment -/

section Window

variable {p : CCParams} {inc : ℤ} {s : VegasState} {rttUsec : ℤ} {clockBroken : Bool}

/-- What keeps the window above one increment: slow start ends above it, by `cc_vegas_gamma`, or
no sample has counted yet. -/
structure WindowInv (p : CCParams) (inc : ℤ) (s : VegasState) : Prop where
  params_eq : s.params = (newVegasState p inc).params
  inc_eq : s.sendmeInc = inc
  inc_le : inc ≤ s.cwnd
  min_nonneg : 0 ≤ s.minRTTUsec
  ewma_nonneg : 0 ≤ s.ewmaRTTUsec
  fresh : s.inSlowStart = true → inc ≤ p.vegasGamma ∨
    s.cwnd = (newVegasState p inc).cwnd ∧ s.minRTTUsec = 0 ∧ s.ewmaRTTUsec = 0 ∧ s.cwndFull = false

lemma nCountEWMA_nonneg {curr prev n : ℤ} (hcurr : 0 ≤ curr) (hprev : 0 ≤ prev) : 0 ≤ nCountEWMA curr prev n := by
  unfold nCountEWMA
  split
  · exact Int.tdiv_nonneg (by omega) (by omega)
  · have := mul_nonneg hprev (show 0 ≤ n - 1 by omega)
    exact Int.tdiv_nonneg (by omega) (by omega)

lemma percentMaxMix_nonneg {a b pct : ℤ} (ha : 0 ≤ a) (hb : 0 ≤ b) : 0 ≤ percentMaxMix a b pct := by
  have key : ∀ q : ℤ, 0 ≤ q → q ≤ 100 → 0 ≤ (max a b * q + min a b * (100 - q)).tdiv 100 := by
    intro q hq hq'
    have hmax := mul_nonneg (le_max_of_le_left hb : 0 ≤ max b a) hq
    have hmin := mul_nonneg (le_min ha hb) (show 0 ≤ 100 - q by omega)
    rw [max_comm] at hmax
    exact Int.tdiv_nonneg (by omega) (by omega)
  apply key
  · split <;> split <;> omega
  · split <;> split <;> omega

lemma rtt_pos_of_counts
    (h : (timeDeltaStalledOrJumped s.inSlowStart s.ewmaRTTUsec rttUsec clockBroken).1 = false) :
    0 < rttUsec := by
  unfold timeDeltaStalledOrJumped at h
  split at h
  · cases h
  · omega

lemma observe_nonneg (hmin : 0 ≤ s.minRTTUsec) (hewma : 0 ≤ s.ewmaRTTUsec) (hrtt : 0 < rttUsec) :
    0 ≤ (s.observe rttUsec).minRTTUsec ∧ 0 ≤ (s.observe rttUsec).ewmaRTTUsec := by
  have hnew : 0 ≤ nCountEWMA rttUsec s.ewmaRTTUsec s.nEWMACount :=
    nCountEWMA_nonneg hrtt.le hewma
  refine ⟨?_, hnew⟩
  unfold observe
  dsimp only
  split
  · exact hnew
  split
  · exact percentMaxMix_nonneg hnew hmin
  · split
    · exact hnew
    · exact hmin

/-- What `updateEstimates` leaves: the estimates are not negative, and neither is the
bandwidth-delay product of a sample that counts. -/
structure Estimated (s s' : VegasState) (sampled : Bool) : Prop where
  min_nonneg : 0 ≤ s'.minRTTUsec
  ewma_nonneg : 0 ≤ s'.ewmaRTTUsec
  bdp_nonneg : sampled = true → 0 ≤ s'.bdp
  /-- The first sample that counts finds no queue. -/
  first : s.minRTTUsec = 0 → sampled = true → s'.bdp = s.cwnd
  unsampled : s.minRTTUsec = 0 → s.ewmaRTTUsec = 0 → sampled = false → s'.minRTTUsec = 0 ∧ s'.ewmaRTTUsec = 0

lemma estimated_updateEstimates (s : VegasState) (hmin : 0 ≤ s.minRTTUsec)
    (hewma : 0 ≤ s.ewmaRTTUsec) (hcwnd : 0 ≤ s.cwnd) :
    Estimated s (s.updateEstimates rttUsec clockBroken).1 (s.updateEstimates rttUsec clockBroken).2 := by
  unfold updateEstimates
  cases hstalled : (timeDeltaStalledOrJumped s.inSlowStart s.ewmaRTTUsec rttUsec clockBroken).1 with
  | true =>
    exact ⟨hmin, hewma, nofun, fun _ => nofun, fun h h' _ => ⟨h, h'⟩⟩
  | false =>
    obtain ⟨hmin', hewma'⟩ := observe_nonneg hmin hewma (rtt_pos_of_counts hstalled)
    have hfirst : s.minRTTUsec = 0 →
        (s.observe rttUsec).minRTTUsec = (s.observe rttUsec).ewmaRTTUsec := by
      intro h
      exact if_pos h
    rw [if_neg (by simp)]
    dsimp only
    split
    next hzero =>
      exact ⟨hmin', hewma', fun _ => hcwnd, fun _ _ => rfl,
        fun h _ _ => ⟨(hfirst h).trans hzero, hzero⟩⟩
    next hne =>
    refine ⟨hmin', hewma', fun _ => Int.tdiv_nonneg (mul_nonneg hcwnd hmin') hewma', fun h _ => ?_,
      fun _ _ => nofun⟩
    rw [hfirst h]
    exact Int.mul_tdiv_cancel _ hne

/-- The limits of `cc_*` parameters, read off a controller. -/
structure Limits (inc : ℤ) (p : CCParams) : Prop where
  inc_pos : 1 ≤ inc
  inc_le : inc ≤ 250
  cwndMin : inc ≤ p.cwndMin
  cwndMax : 500 ≤ p.cwndMax
  ssMax : 500 ≤ p.ssMax
  cwndIncPctSS : 1 ≤ p.cwndIncPctSS
  vegasGamma : 0 ≤ p.vegasGamma

lemma inc_le_adjust (hl : Limits inc s.params) (hinc : s.sendmeInc = inc) (hcwnd : inc ≤ s.cwnd)
    (hbdp : 0 ≤ s.bdp) (hslow : s.inSlowStart = true → inc ≤ s.params.vegasGamma ∨ s.bdp = s.cwnd) :
    inc ≤ s.adjust.cwnd := by
  obtain ⟨hpos, hle, hmin, hmax, hss, hpct, hgamma⟩ := hl
  unfold adjust
  split
  next hon =>
    have hgrow : inc ≤ (s.growSlowStart s.queueUse).cwnd := by
      obtain ⟨-, -, h⟩ | ⟨-, -, h⟩ | ⟨-, h⟩ := growSlowStart_cases s s.queueUse
      · rw [h]
        exact hcwnd
      · have := @rfc3742SSInc_nonneg s (by omega) (by omega)
        rw [h]
        dsimp only
        omega
      · rw [h]
        obtain hgamma' | hbdp' := hslow hon
        · dsimp only
          omega
        · dsimp only
          omega
    rw [slowStart_cwnd]
    omega
  next =>
  split
  · unfold congestionAvoidance clampCwnd
    dsimp only
    omega
  · exact hcwnd

lemma adjust_exits (hpos : 1 ≤ inc) (hparams : s.params = (newVegasState p inc).params)
    (hinc : s.sendmeInc = inc) (hcwnd : s.cwnd = (newVegasState p inc).cwnd)
    (hbdp : s.bdp = s.cwnd) (hfull : s.cwndFull = s.cwndBecameFull) (hinflight : inc ≤ s.inflight)
    (hnot : ¬ OutlastsFirstSample p inc) (hon : s.inSlowStart = true) :
    s.adjust.inSlowStart = false := by
  have hqueue : s.queueUse = 0 := by
    unfold queueUse
    rw [hbdp]
    simp
  have hssInc : (newVegasState p inc).rfc3742SSInc = s.rfc3742SSInc := by
    unfold rfc3742SSInc
    rw [← hcwnd, ← hparams, hinc, newVegasState_eq hpos]
  unfold OutlastsFirstSample at hnot
  dsimp only at hnot
  rw [hssInc, ← hcwnd] at hnot
  rw [newVegasState_eq hpos] at hparams
  unfold adjust
  rw [if_pos hon, slowStart_inSlowStart, hqueue, hparams]
  obtain ⟨hlow, hfull', h⟩ | ⟨hlow, hfull', h⟩ | ⟨-, h⟩ := growSlowStart_cases s 0
  · rw [h]
    rw [hfull] at hfull'
    simp only [cwndBecameFull, hparams, hinc, decide_eq_false_iff_not] at hfull'
    rw [hparams] at hlow
    rw [decide_eq_false, Bool.and_false]
    intro hlt
    exact hnot ⟨hlow, .inl ⟨by omega, hlt⟩⟩
  · rw [h]
    rw [hparams] at hlow ⊢
    rw [hinc, hon, Bool.true_and, Bool.and_eq_false_iff, decide_eq_false_iff_not, decide_eq_false_iff_not]
    by_contra hboth
    rw [not_or, not_not, not_not] at hboth
    exact hnot ⟨hlow, .inr ⟨hboth.2, hboth.1⟩⟩
  · rw [h]
    rfl

lemma adjust_avoiding (hoff : s.inSlowStart = false) : s.adjust.inSlowStart = false := by
  unfold adjust
  rw [hoff, if_neg (by simp)]
  split
  · exact hoff
  · exact hoff

lemma noteFull_of_not_full (h : s.cwndFull = false) : s.noteFull.cwndFull = s.noteFull.cwndBecameFull := by
  show (if s.cwndBecameFull then true else if s.cwndBecameNonfull then false else s.cwndFull) =
    s.cwndBecameFull
  rw [h, ite_self]
  cases s.cwndBecameFull with
  | false | true => rfl

/-- **A SENDME keeps the window above one increment.** -/
theorem WindowInv.processSendme (h : WindowInv p inc s) (hp : p.InRange) (hpos : 1 ≤ inc)
    (hle : inc ≤ 250) (hc : WindowHoldsIncrement p inc) (hinflight : inc ≤ s.inflight) :
    WindowInv p inc (s.processSendme rttUsec clockBroken) := by
  obtain ⟨hframe, hincs, -⟩ := s.processSendme_frame rttUsec clockBroken
  have hest := @estimated_updateEstimates rttUsec clockBroken s.tick h.min_nonneg h.ewma_nonneg
    (show 0 ≤ s.cwnd by have := h.inc_le; omega)
  obtain ⟨ewma, min, bdp, hs'⟩ := s.tick.updateEstimates_writes rttUsec clockBroken
  have hlimits : Limits inc s.params := by
    rw [h.params_eq, newVegasState_eq hpos]
    exact { hp with inc_pos := hpos, inc_le := hle, cwndMin := hc.1 }
  obtain ⟨hsampled, hproc⟩ | ⟨hsampled, hproc⟩ := s.processSendme_cases rttUsec clockBroken
  · -- no sample was taken: the window stays
    rw [hsampled, hs'] at hest
    rw [hproc, hs'] at hframe hincs ⊢
    refine ⟨hframe.trans h.params_eq, hincs.trans h.inc_eq, h.inc_le, hest.min_nonneg,
      hest.ewma_nonneg, fun hon => ?_⟩
    obtain hgamma | ⟨hcwnd, hmin, hewma, hfull⟩ := h.fresh hon
    · exact .inl hgamma
    · obtain ⟨hmin', hewma'⟩ := hest.unsampled hmin hewma rfl
      exact .inr ⟨hcwnd, hmin', hewma', hfull⟩
  rw [hsampled, hs'] at hest
  rw [hproc, hs'] at hframe hincs ⊢
  set s2 : VegasState := noteFull
    { s.tick with ewmaRTTUsec := ewma, minRTTUsec := min, bdp := bdp } with hs2
  obtain ⟨cwnd, inSlowStart, hadjust⟩ := s2.adjust_writes
  -- a sample: the window is adjusted
  have hcwnd : inc ≤ s2.adjust.cwnd := by
    refine inc_le_adjust hlimits h.inc_eq h.inc_le (hest.bdp_nonneg rfl) fun hon => ?_
    obtain hgamma | ⟨-, hmin, -, -⟩ := h.fresh hon
    · left
      show inc ≤ s.params.vegasGamma
      rw [h.params_eq, newVegasState_eq hpos]
      exact hgamma
    · exact .inr (hest.first hmin rfl)
  -- slow start goes on past the first sample only with a large gamma
  have hfresh : s2.adjust.inSlowStart = true → inc ≤ p.vegasGamma := by
    intro hon
    obtain hgamma | hnot := hc.2
    · exact hgamma
    cases hslow : s.inSlowStart with
    | false =>
      rw [@adjust_avoiding s2 hslow] at hon
      cases hon
    | true =>
      obtain hgamma | ⟨hcwnd0, hmin, -, hfull⟩ := h.fresh hslow
      · exact hgamma
      · rw [@adjust_exits p inc s2 hpos h.params_eq h.inc_eq hcwnd0 (hest.first hmin rfl)
          (noteFull_of_not_full hfull) hinflight hnot hslow] at hon
        cases hon
  rw [hadjust] at hframe hincs hcwnd hfresh ⊢
  exact ⟨hframe.trans h.params_eq, hincs.trans h.inc_eq, hcwnd, hest.min_nonneg,
    hest.ewma_nonneg, fun hon => .inl (hfresh hon)⟩

lemma windowInv_new (hpos : 1 ≤ inc) : WindowInv p inc (newVegasState p inc) := by
  have hnew := @newVegasState_eq p inc hpos
  refine ⟨rfl, ?_, ?_, ?_, ?_, fun _ => .inr ⟨rfl, ?_, ?_, ?_⟩⟩ <;> rw [hnew]
  exact le_max_right _ _

end Window

/-! ### Runs that keep the window -/

section Runs

variable {p : CCParams} {inc : ℤ} {w w' : VegasCircuit} {a : VegasAct}

/-- The acknowledgements due are counted, and the window holds one increment. -/
structure VegasCircuit.Live (p : CCParams) (inc : ℤ) (w : VegasCircuit) : Prop where
  counted : w.Counted inc
  window : WindowInv p inc w.vegas

lemma VegasCircuit.Live.receiveSendme {due : ℕ} {rest : List ℕ} (h : w.Live p inc)
    (hp : p.InRange) (hpos : 1 ≤ inc) (hle : inc ≤ 250) (hc : WindowHoldsIncrement p inc)
    (hdue : w.expected = due :: rest) (rttUsec : ℤ) (blocked : Bool) :
    (w.receiveSendme rttUsec blocked rest).Live p inc := by
  refine ⟨h.counted.receiveSendme hdue, ?_⟩
  have hinflight := h.counted.inc_le_inflight (by rw [hdue]; exact cons_ne_nil _ _)
  have hsampled : WindowInv p inc { w.vegas with blockedChan := blocked } :=
    { h.window with }
  exact hsampled.processSendme hp hpos hle hc hinflight

lemma VegasCircuit.Live.step (h : w.Live p inc) (hp : p.InRange) (hpos : 1 ≤ inc)
    (hle : inc ≤ 250) (hc : WindowHoldsIncrement p inc) (hstep : w.step a = some w') :
    w'.Live p inc := by
  cases a with
  | data =>
    simp only [VegasCircuit.step] at hstep
    split at hstep
    · cases hstep
    · cases hstep
      exact ⟨h.counted.sendData, h.window.params_eq, h.window.inc_eq, h.window.inc_le,
        h.window.min_nonneg, h.window.ewma_nonneg, h.window.fresh⟩
  | sendme rttUsec blocked =>
    simp only [VegasCircuit.step] at hstep
    split at hstep
    · cases hstep
    next hdue =>
      cases hstep
      exact h.receiveSendme hp hpos hle hc hdue rttUsec blocked
  | clock broken =>
    cases hstep
    exact ⟨⟨h.counted.inc_eq, h.counted.count⟩, h.window⟩

lemma VegasCircuit.Live.of_reaches (hp : p.InRange) (hpos : 1 ≤ inc) (hle : inc ≤ 250)
    (hc : WindowHoldsIncrement p inc)
    (hreach : Reaches VegasCircuit.step (newVegasCircuit p inc) w) : w.Live p inc := by
  obtain ⟨acts, hrun⟩ := hreach
  refine run_inv (fun _ _ _ hlive _ hstep => hlive.step hp hpos hle hc hstep)
    ⟨counted_new hpos, windowInv_new hpos⟩ (RunMeets.of_forall (fun _ _ => trivial) _ _) hrun

lemma VegasCircuit.Live.not_blocked (h : w.Live p inc) (hnil : w.expected = []) : ¬ w.Blocked := by
  obtain ⟨r, -, hlt, hcount⟩ := h.counted.count
  have hwindow := h.window.inc_le
  rw [hnil] at hcount
  unfold VegasCircuit.Blocked
  simp only [length_nil] at hcount
  omega

lemma VegasCircuit.Live.acknowledged (h : w.Live p inc) (hp : p.InRange) (hpos : 1 ≤ inc)
    (hle : inc ≤ 250) (hc : WindowHoldsIncrement p inc) (samples : List (ℤ × Bool))
    (hlen : samples.length = w.expected.length) :
    ∃ w', run VegasCircuit.step w (samples.map fun x => .sendme x.1 x.2) = some w' ∧ ¬ w'.Blocked := by
  induction samples generalizing w with
  | nil => exact ⟨w, rfl, h.not_blocked (length_eq_zero_iff.1 hlen.symm)⟩
  | cons x samples ih =>
    cases hdue : w.expected with
    | nil =>
      rw [hdue] at hlen
      cases hlen
    | cons due rest =>
      rw [hdue] at hlen
      obtain ⟨w', hrun, hfree⟩ := ih (h.receiveSendme hp hpos hle hc hdue x.1 x.2) (Nat.succ.inj hlen)
      refine ⟨w', run_cons_eq_some.2 ⟨_, ?_, hrun⟩, hfree⟩
      simp only [VegasCircuit.step, hdue]

lemma alwaysUnblocked_of_window (hp : p.InRange) (hpos : 1 ≤ inc) (hle : inc ≤ 250)
    (hc : WindowHoldsIncrement p inc) : AlwaysUnblocked p inc := by
  intro w hreach hblocked
  have hlive := VegasCircuit.Live.of_reaches hp hpos hle hc hreach
  refine ⟨fun hnil => hlive.not_blocked hnil hblocked, fun samples hlen => ?_⟩
  exact hlive.acknowledged hp hpos hle hc samples hlen

end Runs

end GoTor.Circuit
