import Mathlib.Tactic.Linarith

/-!
# Congestion control

The Vegas controller of a circuit with FlowCtrl=2, and the consensus parameters it runs with.
Integers are unbounded: the largest product is a window times a round-trip time in microseconds.
-/

namespace GoTor.Circuit

/-! ### Consensus parameters -/

structure CCParams where
  cwndInit : ℤ
  cwndMin : ℤ
  cwndMax : ℤ
  cwndInc : ℤ
  cwndIncRate : ℤ
  cwndIncPctSS : ℤ
  vegasAlpha : ℤ
  vegasBeta : ℤ
  vegasGamma : ℤ
  vegasDelta : ℤ
  ssCap : ℤ
  ssMax : ℤ
  cwndFullGap : ℤ
  cwndFullMinPct : ℤ
  cwndFullPerCwnd : ℤ
  ewmaSS : ℤ
  ewmaCwndPct : ℤ
  ewmaMax : ℤ
  rttResetPct : ℤ
  deriving DecidableEq

def sendmeIncDefault : ℤ := 31
def outbufCells : ℤ := 2 * sendmeIncDefault

def defaultCCParams : CCParams where
  cwndInit := 4 * sendmeIncDefault
  cwndMin := 4 * sendmeIncDefault
  cwndMax := 2 ^ 31 - 1
  cwndInc := 1
  cwndIncRate := sendmeIncDefault
  cwndIncPctSS := 100
  vegasAlpha := 3 * outbufCells
  vegasBeta := 4 * outbufCells
  vegasGamma := 3 * outbufCells
  vegasDelta := 5 * outbufCells
  ssCap := 600
  ssMax := 5000
  cwndFullGap := 4
  cwndFullMinPct := 25
  cwndFullPerCwnd := 1
  ewmaSS := 2
  ewmaCwndPct := 50
  ewmaMax := 10
  rttResetPct := 100

def defaultOnionCCParams : CCParams :=
  { defaultCCParams with
    vegasBeta := 6 * outbufCells, vegasGamma := 4 * outbufCells, vegasDelta := 7 * outbufCells
    ssCap := 475 }

def ConsensusParams : Type := String → Option ℤ

def pickParam (params : ConsensusParams) (key : String) (default min max : ℤ) : ℤ :=
  let v := (params key).getD default
  if v < min then min else if v > max then max else v

/-- The parameters for a kind of circuit, `exit` or `onion`. -/
def pickCCParams (kind : String) (p : CCParams) (params : ConsensusParams) : CCParams where
  cwndInit := pickParam params "cc_cwnd_init" p.cwndInit sendmeIncDefault 10000
  cwndMin := pickParam params "cc_cwnd_min" p.cwndMin sendmeIncDefault 1000
  cwndMax := pickParam params "cc_cwnd_max" p.cwndMax 500 (2 ^ 31 - 1)
  cwndInc := pickParam params "cc_cwnd_inc" p.cwndInc 1 1000
  cwndIncRate := pickParam params "cc_cwnd_inc_rate" p.cwndIncRate 1 250
  cwndIncPctSS := pickParam params "cc_cwnd_inc_pct_ss" p.cwndIncPctSS 1 500
  vegasAlpha := pickParam params ("cc_vegas_alpha_" ++ kind) p.vegasAlpha 0 1000
  vegasBeta := pickParam params ("cc_vegas_beta_" ++ kind) p.vegasBeta 0 1000
  vegasGamma := pickParam params ("cc_vegas_gamma_" ++ kind) p.vegasGamma 0 1000
  vegasDelta := pickParam params ("cc_vegas_delta_" ++ kind) p.vegasDelta 0 (2 ^ 31 - 1)
  ssCap := pickParam params ("cc_sscap_" ++ kind) p.ssCap 100 (2 ^ 31 - 1)
  ssMax := pickParam params "cc_ss_max" p.ssMax 500 (2 ^ 31 - 1)
  cwndFullGap := pickParam params "cc_cwnd_full_gap" p.cwndFullGap 0 32767
  cwndFullMinPct := pickParam params "cc_cwnd_full_minpct" p.cwndFullMinPct 0 100
  cwndFullPerCwnd := pickParam params "cc_cwnd_full_per_cwnd" p.cwndFullPerCwnd 0 1
  ewmaSS := pickParam params "cc_ewma_ss" p.ewmaSS 1 100
  ewmaCwndPct := pickParam params "cc_ewma_cwnd_pct" p.ewmaCwndPct 1 100
  ewmaMax := pickParam params "cc_ewma_max" p.ewmaMax 2 100
  rttResetPct := pickParam params "cc_rtt_reset_pct" p.rttResetPct 0 100

def ccParamsFromConsensus : Option ConsensusParams → CCParams
  | none => defaultCCParams
  | some params => pickCCParams "exit" defaultCCParams params

def ccParamsOnionFromConsensus : Option ConsensusParams → CCParams
  | none => defaultOnionCCParams
  | some params => pickCCParams "onion" defaultOnionCCParams params

variable {params : ConsensusParams}

lemma pickParam_mem {key : String} {default min max : ℤ} (h : min ≤ max) :
    min ≤ pickParam params key default min max ∧ pickParam params key default min max ≤ max := by
  unfold pickParam
  dsimp only
  split
  · omega
  · split <;> omega

/-- The limits of the parameters that bound the window. -/
structure CCParams.InRange (p : CCParams) : Prop where
  cwndMin : 31 ≤ p.cwndMin
  cwndMax : 500 ≤ p.cwndMax
  cwndInc : 1 ≤ p.cwndInc
  cwndIncPctSS : 1 ≤ p.cwndIncPctSS
  vegasGamma : 0 ≤ p.vegasGamma
  vegasDelta : 0 ≤ p.vegasDelta
  ssMax : 500 ≤ p.ssMax
  cwndFullGap : 0 ≤ p.cwndFullGap

lemma inRange_pickCCParams {kind : String} {p : CCParams} : (pickCCParams kind p params).InRange where
  cwndMin := (pickParam_mem (by decide)).1
  cwndMax := (pickParam_mem (by decide)).1
  cwndInc := (pickParam_mem (by decide)).1
  cwndIncPctSS := (pickParam_mem (by decide)).1
  vegasGamma := (pickParam_mem (by decide)).1
  vegasDelta := (pickParam_mem (by decide)).1
  ssMax := (pickParam_mem (by decide)).1
  cwndFullGap := (pickParam_mem (by decide)).1

lemma inRange_ccParamsFromConsensus (params : Option ConsensusParams) : (ccParamsFromConsensus params).InRange := by
  cases params with
  | none => constructor <;> decide
  | some params => exact inRange_pickCCParams

/-! ### The controller -/

/-- `vegasState`.  The largest round-trip time is kept for nobody. -/
structure VegasState where
  params : CCParams
  sendmeInc : ℤ
  cwnd : ℤ
  inflight : ℤ := 0
  inSlowStart : Bool := true
  cwndFull : Bool := false
  nextCCEvent : ℤ := 1
  nextCwndEvent : ℤ := 0
  minRTTUsec : ℤ := 0
  ewmaRTTUsec : ℤ := 0
  bdp : ℤ := 0
  blockedChan : Bool := false
  deriving DecidableEq

def newVegasState (p : CCParams) (sendmeInc : ℤ) : VegasState :=
  let sendmeInc := if sendmeInc < 1 then sendmeIncDefault else sendmeInc
  let p := if p.cwndInit < sendmeInc then { p with cwndInit := sendmeInc } else p
  { params := p, sendmeInc, cwnd := p.cwndInit }

def sendmePerCwnd (cwnd sendmeInc : ℤ) : ℤ :=
  let sendmeInc := if sendmeInc < 1 then 1 else sendmeInc
  (cwnd + sendmeInc.tdiv 2).tdiv sendmeInc

def cwndUpdateRate (cwnd incRate sendmeInc : ℤ) (inSlowStart : Bool) : ℤ :=
  if inSlowStart then 1
  else
    let den := if incRate * sendmeInc < 1 then 1 else incRate * sendmeInc
    (cwnd + den.tdiv 2).tdiv den

def nCountEWMA (curr prev n : ℤ) : ℤ :=
  let n := if n < 1 then 1 else n
  (curr * 2 + prev * (n - 1)).tdiv (n + 1)

def percentMaxMix (a b pctMax : ℤ) : ℤ :=
  let pctMax := if pctMax < 0 then 0 else pctMax
  let pctMax := if pctMax > 100 then 100 else pctMax
  (max a b * pctMax + min a b * (100 - pctMax)).tdiv 100

def deltaDiscrepancyRatioMax : ℤ := 5000

/-- `timeDeltaStalledOrJumped`, with the new value of `monotimeClockBroken`, which all circuits
share. -/
def timeDeltaStalledOrJumped (inSlowStart : Bool) (ewma newDelta : ℤ) (clockBroken : Bool) : Bool × Bool :=
  if newDelta ≤ 0 then (true, true)
  else if inSlowStart || ewma = 0 then (false, clockBroken)
  else if newDelta > ewma * deltaDiscrepancyRatioMax then (true, clockBroken)
  else if newDelta * deltaDiscrepancyRatioMax < ewma then (clockBroken, clockBroken)
  else (false, false)

namespace VegasState

variable (s : VegasState)

def packageWindow : ℤ := if s.inflight ≥ s.cwnd then 0 else s.cwnd - s.inflight

def nEWMACount : ℤ :=
  let n :=
    if s.inSlowStart then s.params.ewmaSS
    else
      min s.params.ewmaMax ((cwndUpdateRate s.cwnd s.params.cwndIncRate s.sendmeInc false *
        s.params.ewmaCwndPct).tdiv 100)
  if n < 2 then 2 else n

def rfc3742SSInc : ℤ :=
  if s.cwnd ≤ 0 then 1
  else if s.cwnd ≤ s.params.ssCap then (s.params.cwndIncPctSS * s.sendmeInc + 50).tdiv 100
  else
    let inc := (s.sendmeInc * s.params.ssCap + s.cwnd).tdiv (2 * s.cwnd)
    if inc < 1 then 1 else inc

def cwndBecameFull : Bool := s.inflight + s.params.cwndFullGap * s.sendmeInc ≥ s.cwnd

def cwndBecameNonfull : Bool := 100 * s.inflight < s.params.cwndFullMinPct * s.cwnd

def cwndFullReset : Bool :=
  if s.params.cwndFullPerCwnd = 1 then s.nextCwndEvent = sendmePerCwnd s.cwnd s.sendmeInc
  else s.nextCCEvent = cwndUpdateRate s.cwnd s.params.cwndIncRate s.sendmeInc s.inSlowStart

def ackInflight : VegasState := { s with inflight := max 0 (s.inflight - s.sendmeInc) }

/-- The smoothed and the smallest round-trip time after a sample. -/
def observe (rttUsec : ℤ) : VegasState :=
  let ewma := nCountEWMA rttUsec s.ewmaRTTUsec s.nEWMACount
  { s with
    ewmaRTTUsec := ewma
    minRTTUsec :=
      if s.minRTTUsec = 0 then ewma
      else if s.cwnd = s.params.cwndMin ∧ s.inSlowStart = false then
        percentMaxMix ewma s.minRTTUsec s.params.rttResetPct
      else if ewma < s.minRTTUsec then ewma
      else s.minRTTUsec }

/-- `updateEstimates`: whether the sample counts. -/
def updateEstimates (rttUsec : ℤ) (clockBroken : Bool) : VegasState × Bool :=
  if (timeDeltaStalledOrJumped s.inSlowStart s.ewmaRTTUsec rttUsec clockBroken).1 then (s, false)
  else
    let s := s.observe rttUsec
    if s.ewmaRTTUsec = 0 then ({ s with bdp := s.cwnd }, s.blockedChan)
    else ({ s with bdp := (s.cwnd * s.minRTTUsec).tdiv s.ewmaRTTUsec }, true)

def clampCwnd : VegasState := { s with cwnd := max 1 (min s.params.cwndMax s.cwnd) }

def exitSlowStart : VegasState := { s with inSlowStart := false }

/-- The window of slow start before it is capped. -/
def growSlowStart (queueUse : ℤ) : VegasState :=
  if queueUse < s.params.vegasGamma ∧ s.blockedChan = false then
    if s.cwndFull then
      let inc := s.rfc3742SSInc
      let s := { s with cwnd := s.cwnd + inc }
      if inc * sendmePerCwnd s.cwnd s.sendmeInc ≤ s.params.cwndInc * s.params.cwndIncRate then
        s.exitSlowStart
      else s
    else s
  else exitSlowStart { s with cwnd := s.bdp + s.params.vegasGamma }

def capSlowStart : VegasState :=
  if s.cwnd ≥ s.params.ssMax then exitSlowStart { s with cwnd := s.params.ssMax } else s

def slowStart (queueUse : ℤ) : VegasState := (s.growSlowStart queueUse).capSlowStart.clampCwnd

def congestionAvoidance (queueUse : ℤ) : VegasState :=
  let cwnd :=
    if queueUse > s.params.vegasDelta then s.bdp + s.params.vegasDelta - s.params.cwndInc
    else if queueUse > s.params.vegasBeta ∨ s.blockedChan then s.cwnd - s.params.cwndInc
    else if s.cwndFull ∧ queueUse < s.params.vegasAlpha then s.cwnd + s.params.cwndInc
    else s.cwnd
  clampCwnd { s with cwnd := max s.params.cwndMin cwnd }

def queueUse : ℤ := if s.bdp ≤ s.cwnd then s.cwnd - s.bdp else 0

/-- The two event counters at a SENDME. -/
def tick : VegasState :=
  { s with
    nextCCEvent := if s.nextCCEvent > 0 then s.nextCCEvent - 1 else s.nextCCEvent
    nextCwndEvent := if s.nextCwndEvent > 0 then s.nextCwndEvent - 1 else s.nextCwndEvent }

/-- Whether the window counts as full. -/
def noteFull : VegasState :=
  { s with cwndFull :=
      if s.cwndBecameFull then true else if s.cwndBecameNonfull then false else s.cwndFull }

def adjust : VegasState :=
  if s.inSlowStart then s.slowStart s.queueUse
  else if s.nextCCEvent = 0 then s.congestionAvoidance s.queueUse
  else s

def schedule : VegasState :=
  let s := { s with nextCwndEvent :=
    if s.nextCwndEvent = 0 then sendmePerCwnd s.cwnd s.sendmeInc else s.nextCwndEvent }
  let s := { s with nextCCEvent :=
    if s.nextCCEvent = 0 then
      cwndUpdateRate s.cwnd s.params.cwndIncRate s.sendmeInc s.inSlowStart
    else s.nextCCEvent }
  { s with cwndFull := if s.cwndFullReset then false else s.cwndFull }

def processSendme (rttUsec : ℤ) (clockBroken : Bool) : VegasState :=
  let (s, sampled) := s.tick.updateEstimates rttUsec clockBroken
  if sampled then s.noteFull.adjust.schedule.ackInflight else s.ackInflight

/-! ### What each part writes -/

section Frame

variable {s} {rttUsec : ℤ} {clockBroken : Bool}

lemma processSendme_cases (s : VegasState) (rttUsec : ℤ) (clockBroken : Bool) :
    ((s.tick.updateEstimates rttUsec clockBroken).2 = false ∧ s.processSendme rttUsec clockBroken =
        (s.tick.updateEstimates rttUsec clockBroken).1.ackInflight) ∨
    ((s.tick.updateEstimates rttUsec clockBroken).2 = true ∧ s.processSendme rttUsec clockBroken =
        (s.tick.updateEstimates rttUsec clockBroken).1.noteFull.adjust.schedule.ackInflight) := by
  unfold processSendme
  generalize s.tick.updateEstimates rttUsec clockBroken = r
  obtain ⟨s', sampled⟩ := r
  cases sampled with
  | false => exact .inl ⟨rfl, rfl⟩
  | true => exact .inr ⟨rfl, rfl⟩

lemma updateEstimates_writes (s : VegasState) (rttUsec : ℤ) (clockBroken : Bool) :
    ∃ ewma min bdp, (s.updateEstimates rttUsec clockBroken).1 =
      { s with ewmaRTTUsec := ewma, minRTTUsec := min, bdp := bdp } := by
  unfold updateEstimates
  split
  · exact ⟨_, _, _, rfl⟩
  dsimp only
  split
  · exact ⟨_, _, _, rfl⟩
  · exact ⟨_, _, _, rfl⟩

lemma growSlowStart_cases (s : VegasState) (queueUse : ℤ) :
    (queueUse < s.params.vegasGamma ∧ s.cwndFull = false ∧ s.growSlowStart queueUse = s) ∨
    (queueUse < s.params.vegasGamma ∧ s.cwndFull = true ∧ s.growSlowStart queueUse = { s with
        cwnd := s.cwnd + s.rfc3742SSInc
        inSlowStart := s.inSlowStart && decide (s.params.cwndInc * s.params.cwndIncRate <
          s.rfc3742SSInc * sendmePerCwnd (s.cwnd + s.rfc3742SSInc) s.sendmeInc) }) ∨
    (¬ (queueUse < s.params.vegasGamma ∧ s.blockedChan = false) ∧ s.growSlowStart queueUse =
      { s with cwnd := s.bdp + s.params.vegasGamma, inSlowStart := false }) := by
  unfold growSlowStart
  split
  next hlow =>
    cases hfull : s.cwndFull with
    | false =>
      left
      exact ⟨hlow.1, rfl, if_neg (by simp)⟩
    | true =>
      right
      left
      rw [if_pos rfl]
      refine ⟨hlow.1, rfl, ?_⟩
      dsimp only
      split
      · rw [decide_eq_false (by omega), Bool.and_false]
        rfl
      · rw [decide_eq_true (by omega), Bool.and_true]
  next hhigh =>
  right
  right
  exact ⟨hhigh, rfl⟩

lemma growSlowStart_blocked (h : s.blockedChan = true) (queueUse : ℤ) :
    s.growSlowStart queueUse = { s with cwnd := s.bdp + s.params.vegasGamma, inSlowStart := false } :=
  if_neg (by simp [h])

variable (s)

lemma growSlowStart_writes (queueUse : ℤ) :
    ∃ cwnd inSlowStart, s.growSlowStart queueUse = { s with cwnd, inSlowStart } := by
  obtain ⟨-, -, h⟩ | ⟨-, -, h⟩ | ⟨-, h⟩ := growSlowStart_cases s queueUse
  · exact ⟨_, _, h⟩
  · exact ⟨_, _, h⟩
  · exact ⟨_, _, h⟩

lemma slowStart_writes {queueUse : ℤ} :
    ∃ cwnd inSlowStart, s.slowStart queueUse = { s with cwnd, inSlowStart } := by
  obtain ⟨cwnd, inSlowStart, h⟩ := growSlowStart_writes s queueUse
  unfold slowStart capSlowStart
  rw [h]
  split
  · exact ⟨_, _, rfl⟩
  · exact ⟨_, _, rfl⟩

lemma adjust_writes : ∃ cwnd inSlowStart, s.adjust = { s with cwnd, inSlowStart } := by
  unfold adjust
  split
  · exact slowStart_writes s
  · split
    · exact ⟨_, _, rfl⟩
    · exact ⟨_, _, rfl⟩

lemma processSendme_frame (rttUsec : ℤ) (clockBroken : Bool) :
    (s.processSendme rttUsec clockBroken).params = s.params ∧
      (s.processSendme rttUsec clockBroken).sendmeInc = s.sendmeInc ∧
      (s.processSendme rttUsec clockBroken).inflight = max 0 (s.inflight - s.sendmeInc) := by
  obtain ⟨ewma, min, bdp, hestimates⟩ := updateEstimates_writes s.tick rttUsec clockBroken
  obtain ⟨-, h⟩ | ⟨-, h⟩ := processSendme_cases s rttUsec clockBroken
  · rw [h, hestimates]
    exact ⟨rfl, rfl, rfl⟩
  · rw [h, hestimates]
    obtain ⟨cwnd, inSlowStart, hadjust⟩ := adjust_writes
      (noteFull { s.tick with ewmaRTTUsec := ewma, minRTTUsec := min, bdp := bdp })
    rw [hadjust]
    exact ⟨rfl, rfl, rfl⟩

/-! ### The window -/

lemma capSlowStart_cwnd : s.capSlowStart.cwnd = min s.params.ssMax s.cwnd := by
  unfold capSlowStart
  split
  · exact (min_eq_left ‹_›).symm
  · exact (min_eq_right (by omega)).symm

lemma capSlowStart_inSlowStart :
    s.capSlowStart.inSlowStart = (s.inSlowStart && decide (s.cwnd < s.params.ssMax)) := by
  unfold capSlowStart
  split
  · rw [decide_eq_false (by omega), Bool.and_false]
    rfl
  · rw [decide_eq_true (by omega), Bool.and_true]

lemma capSlowStart_params : s.capSlowStart.params = s.params := by
  unfold capSlowStart
  split
  · rfl
  · rfl

lemma growSlowStart_params (queueUse : ℤ) : (s.growSlowStart queueUse).params = s.params := by
  obtain ⟨cwnd, inSlowStart, h⟩ := growSlowStart_writes s queueUse
  rw [h]

lemma slowStart_cwnd (queueUse : ℤ) :
    (s.slowStart queueUse).cwnd =
      max 1 (min s.params.cwndMax (min s.params.ssMax (s.growSlowStart queueUse).cwnd)) := by
  unfold slowStart clampCwnd
  rw [capSlowStart_cwnd, capSlowStart_params, growSlowStart_params]

lemma slowStart_inSlowStart (queueUse : ℤ) :
    (s.slowStart queueUse).inSlowStart = ((s.growSlowStart queueUse).inSlowStart &&
      decide ((s.growSlowStart queueUse).cwnd < s.params.ssMax)) := by
  unfold slowStart clampCwnd
  rw [capSlowStart_inSlowStart, growSlowStart_params]

variable {s}

lemma rfc3742SSInc_nonneg (hpct : 0 ≤ s.params.cwndIncPctSS) (hinc : 0 ≤ s.sendmeInc) : 0 ≤ s.rfc3742SSInc := by
  unfold rfc3742SSInc
  split
  · omega
  split
  · have := mul_nonneg hpct hinc
    exact Int.tdiv_nonneg (by omega) (by omega)
  · dsimp only
    split <;> omega

end Frame

end VegasState

end GoTor.Circuit
