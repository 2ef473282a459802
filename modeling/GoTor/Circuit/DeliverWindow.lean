import GoTor.Circuit.BuildFlow
import GoTor.Circuit.Vegas

/-!
# The deliver window and the peer's window

A client refuses DATA when its deliver window is used up.  The window starts at 1000, or at the
first congestion window, and each SENDME gives an increment back; the SENDMEs are sent by
goroutines of their own.  The peer counts its unacknowledged cells against its own window, which
congestion control makes larger than the first one.
-/

namespace GoTor.Circuit

open GoTor.Lib FlowState Option List

/-- The two ends of a circuit, for the DATA that the peer sends. -/
structure FlowLink where
  client : Circ
  /-- The largest congestion window of the peer; none stands for the classic windows. -/
  cwndMax : Option ℕ
  /-- How many unacknowledged cells the peer is entitled to. -/
  limit : ℕ
  unacked : ℕ := 0
  /-- DATA cells on their way to the client. -/
  data : ℕ := 0
  /-- Goroutines of the client that have yet to enter `sendCircuitSendme`. -/
  due : ℕ := 0
  /-- Goroutines that have given the increment back to the window. -/
  restored : ℕ := 0
  sendmes : ℕ := 0
  /-- SENDMEs that could not be sent. -/
  lost : ℕ := 0
  rejected : Bool := false

inductive FlowAct
  | send
  | deliver
  /-- `sendCircuitSendme` gives the increment back. -/
  | restore
  | emit
  | lose
  /-- The peer takes a SENDME, which entitles it to a window. -/
  | ack (limit : ℕ)
  deriving DecidableEq

/-- The windows a peer may have: 1000, or what congestion control allows. -/
def FlowLink.Entitled (w : FlowLink) (limit : ℕ) : Prop :=
  match w.cwndMax with
  | none => limit = 1000
  | some cwndMax => 1 ≤ limit ∧ limit ≤ cwndMax

instance (w : FlowLink) (limit : ℕ) : Decidable (w.Entitled limit) := by
  unfold FlowLink.Entitled
  split <;> infer_instance

def FlowLink.step (w : FlowLink) : FlowAct → Option FlowLink
  | .send =>
    if w.unacked < w.limit then some { w with unacked := w.unacked + 1, data := w.data + 1 }
    else none
  | .deliver =>
    if w.data = 0 then none
    else
      match w.client.decrementDeliverWindowAndTakeSendme with
      | .error _ => some { w with data := w.data - 1, rejected := true }
      | .ok (client, sendme) =>
        some { w with data := w.data - 1, client, due := w.due + sendme.toNat }
  | .restore =>
    if w.due = 0 then none
    else some { w with
      client := w.client.circuitSendmeSent, due := w.due - 1, restored := w.restored + 1 }
  | .emit =>
    if w.restored = 0 then none
    else some { w with restored := w.restored - 1, sendmes := w.sendmes + 1 }
  | .lose =>
    if w.restored = 0 then none
    else some { w with restored := w.restored - 1, lost := w.lost + 1 }
  | .ack limit =>
    if w.sendmes = 0 ∨ ¬ w.Entitled limit then none
    else some { w with
      sendmes := w.sendmes - 1, unacked := w.unacked - w.client.sendmeIncrement, limit }

/-- A circuit right after its negotiation, and a peer with a first window. -/
def newFlowLink (c : Circ) (cc : Option ℕ) (cwndMax limit : ℕ) : FlowLink where
  client := c.negotiate cc
  cwndMax := cc.map fun _ => cwndMax
  limit := if cc.isSome then limit else 1000

/-- Under congestion control the peer never has more cells unacknowledged than the client's first
deliver window. -/
def WithinFirstWindow (first : ℤ) (w : FlowLink) (a : FlowAct) : Prop :=
  w.cwndMax ≠ none → a = .send → (w.unacked : ℤ) < first

instance (first : ℤ) (w : FlowLink) (a : FlowAct) : Decidable (WithinFirstWindow first w a) := by
  unfold WithinFirstWindow
  infer_instance

/-! ### What the windows add up to -/

/-- The cells the peer counts as unacknowledged are on their way, or counted by the client, or
covered by a SENDME that has not arrived; the client's window lacks those without a SENDME. -/
structure FlowLink.Balanced (first : ℤ) (inc : ℕ) (w : FlowLink) : Prop where
  inc_eq : w.client.sendmeIncrement = inc
  inc_pos : 0 < inc
  received_lt : w.client.sendmeReceived < inc
  window : w.client.deliverWindow = first - w.client.sendmeReceived - inc * w.due
  unacked : w.unacked = w.data + w.client.sendmeReceived + inc * (w.due + w.restored + w.sendmes + w.lost)
  unacked_le : (w.unacked : ℤ) ≤ first
  classic : w.cwndMax = none → w.limit = 1000 ∧ first = 1000
  accepted : w.rejected = false

section Balance

variable {first : ℤ} {inc : ℕ} {w w' : FlowLink} {a : FlowAct}

lemma decrementDeliverWindow_ok {c : Circ} (hpos : 0 < c.deliverWindow) (hlt : c.sendmeReceived < c.sendmeIncrement) :
    ∃ c' sendme, c.decrementDeliverWindowAndTakeSendme = .ok (c', sendme) ∧
      c'.sendmeIncrement = c.sendmeIncrement ∧ c'.deliverWindow = c.deliverWindow - 1 ∧
      c'.sendmeReceived + c.sendmeIncrement * sendme.toNat = c.sendmeReceived + 1 ∧
      c'.sendmeReceived < c.sendmeIncrement := by
  unfold Circ.decrementDeliverWindowAndTakeSendme
  rw [if_neg (by omega)]
  dsimp only
  split
  next hfull =>
    have hfull : c.sendmeReceived + 1 ≥ c.sendmeIncrement := hfull
    refine ⟨_, true, rfl, rfl, rfl, ?_, ?_⟩
    · show c.sendmeReceived + 1 - c.sendmeIncrement + c.sendmeIncrement * 1 = _
      omega
    · show c.sendmeReceived + 1 - c.sendmeIncrement < _
      omega
  next hfull =>
    have hfull : ¬ c.sendmeReceived + 1 ≥ c.sendmeIncrement := hfull
    exact ⟨_, false, rfl, rfl, rfl, rfl, by dsimp only; omega⟩

lemma FlowLink.Balanced.deliverWindow_pos (h : w.Balanced first inc) (hdata : w.data ≠ 0) :
    0 < w.client.deliverWindow := by
  have hunacked := h.unacked
  have hle := h.unacked_le
  have hcover : inc * w.due ≤ inc * (w.due + w.restored + w.sendmes + w.lost) :=
    Nat.mul_le_mul_left _ (by omega)
  rw [h.window]
  omega

lemma FlowLink.Balanced.step (h : w.Balanced first inc) (hgood : WithinFirstWindow first w a)
    (hstep : w.step a = some w') : w'.Balanced first inc := by
  obtain ⟨hinc, hpos, hlt, hwindow, hunacked, hle, hclassic, hok⟩ := h
  cases a with
  | send =>
    obtain ⟨hroom, ⟨⟩⟩ := ite_none_right_eq_some.1 hstep
    -- the sender stays within the first window: fixed windows do, others by the condition
    have hbound : (w.unacked : ℤ) < first := by
      by_cases hmode : w.cwndMax = none
      · obtain ⟨hlimit, hfirst⟩ := hclassic hmode
        omega
      · exact hgood hmode rfl
    refine ⟨hinc, hpos, hlt, hwindow, ?_, ?_, hclassic, hok⟩
    · dsimp only
      omega
    · dsimp only
      omega
  | deliver =>
    obtain ⟨hdata, hstep⟩ := ite_none_left_eq_some.1 hstep
    have hroom := FlowLink.Balanced.deliverWindow_pos ⟨hinc, hpos, hlt, hwindow, hunacked, hle, hclassic, hok⟩ hdata
    obtain ⟨c, sendme, hc, hinc', hwindow', hreceived, hlt'⟩ :=
      decrementDeliverWindow_ok hroom (by rw [hinc]; exact hlt)
    rw [hinc] at hreceived hlt' hinc'
    rw [hc] at hstep
    cases hstep
    have hsplit : inc * (w.due + sendme.toNat) = inc * w.due + inc * sendme.toNat :=
      Nat.mul_add _ _ _
    refine ⟨hinc', hpos, hlt', ?_, ?_, hle, hclassic, hok⟩
    · rw [hwindow']
      dsimp only
      omega
    · rw [hunacked]
      have hsplit' : inc * (w.due + sendme.toNat + w.restored + w.sendmes + w.lost) =
          inc * (w.due + w.restored + w.sendmes + w.lost) + inc * sendme.toNat := by
        rw [← Nat.mul_add]
        congr 1
        omega
      dsimp only
      omega
  | restore =>
    -- one SENDME less is due, and its increment is back in the window
    obtain ⟨hdue, ⟨⟩⟩ := ite_none_left_eq_some.1 hstep
    refine ⟨hinc, hpos, hlt, ?_, ?_, hle, hclassic, hok⟩
    · show w.client.deliverWindow + w.client.sendmeIncrement =
        first - w.client.sendmeReceived - inc * ((w.due - 1 : ℕ) : ℤ)
      have hone : inc * w.due = inc * (w.due - 1) + inc := by
        rw [← Nat.mul_succ]
        congr 1
        omega
      omega
    · rw [hunacked]
      congr 2
      dsimp only
      omega
  | emit | lose =>
    -- the SENDME only moves on
    obtain ⟨hrestored, ⟨⟩⟩ := ite_none_left_eq_some.1 hstep
    refine ⟨hinc, hpos, hlt, hwindow, ?_, hle, hclassic, hok⟩
    rw [hunacked]
    congr 2
    dsimp only
    omega
  | ack limit =>
    -- the oldest increment is no longer outstanding
    obtain ⟨hguard, hstep⟩ := ite_none_left_eq_some.1 hstep
    rw [not_or, not_not] at hguard
    obtain ⟨hsendmes, hentitled⟩ := hguard
    cases hstep
    have hone : inc * (w.due + w.restored + w.sendmes + w.lost) =
        inc * (w.due + w.restored + (w.sendmes - 1) + w.lost) + inc := by
      rw [← Nat.mul_succ]
      congr 1
      omega
    refine ⟨hinc, hpos, hlt, hwindow, ?_, ?_, fun hmode => ⟨?_, (hclassic hmode).2⟩, hok⟩
    · show w.unacked - w.client.sendmeIncrement = w.data + w.client.sendmeReceived +
        inc * (w.due + w.restored + (w.sendmes - 1) + w.lost)
      omega
    · show ((w.unacked - w.client.sendmeIncrement : ℕ) : ℤ) ≤ first
      omega
    · unfold FlowLink.Entitled at hentitled
      rwa [hmode] at hentitled

end Balance

/-! ### Runs -/

def classicFlow : FlowState := ⟨none, 0, 1000, 1000, 0, []⟩

lemma balanced_new {c : Circ} {cc : Option ℕ} {cwndMax limit : ℕ}
    (hnew : c.flowState = classicFlow) (hcc : ∀ inc ∈ cc, 1 ≤ inc ∧ inc ≤ 250) :
    (newFlowLink c cc cwndMax limit).Balanced (c.negotiate cc).deliverWindow (cc.getD 100) := by
  cases cc with
  -- Without congestion control the fields stay classic; with it `enable` resets them.
  | none =>
    have hinc : c.sendmeInc = 0 := congrArg sendmeInc hnew
    have hwindow : c.deliverWindow = 1000 := congrArg deliverWindow hnew
    have hreceived : c.sendmeReceived = 0 := congrArg sendmeReceived hnew
    have hincrement : c.sendmeIncrement = 100 := by
      unfold Circ.sendmeIncrement
      rw [hinc]
      rfl
    refine ⟨hincrement, by decide, ?_, ?_, ?_, ?_, fun _ => ⟨rfl, hwindow⟩, rfl⟩
    · show c.sendmeReceived < 100
      omega
    · show c.deliverWindow = c.deliverWindow - c.sendmeReceived - 100 * 0
      omega
    · show 0 = 0 + c.sendmeReceived + 100 * 0
      omega
    · show (0 : ℤ) ≤ c.deliverWindow
      omega
  | some inc =>
    obtain ⟨hlo, hhi⟩ := hcc inc rfl
    have hstate := flowState_enable c hlo hhi
    have hinc : (c.enableCongestionControl inc).sendmeInc = inc :=
      congrArg sendmeInc hstate
    have hwindow : (c.enableCongestionControl inc).deliverWindow = (max c.cwndStart inc : ℕ) :=
      congrArg deliverWindow hstate
    have hreceived : (c.enableCongestionControl inc).sendmeReceived = 0 :=
      congrArg sendmeReceived hstate
    have hincrement : (c.enableCongestionControl inc).sendmeIncrement = inc := by
      unfold Circ.sendmeIncrement
      rw [hinc, if_pos (by omega)]
    refine ⟨hincrement, hlo, ?_, ?_, ?_, ?_, nofun, rfl⟩
    · show (c.enableCongestionControl inc).sendmeReceived < inc
      omega
    · show (c.enableCongestionControl inc).deliverWindow = (c.enableCongestionControl inc).deliverWindow -
          (c.enableCongestionControl inc).sendmeReceived - inc * ((0 : ℕ) : ℤ)
      omega
    · show 0 = 0 + (c.enableCongestionControl inc).sendmeReceived + inc * 0
      omega
    · show (0 : ℤ) ≤ (c.enableCongestionControl inc).deliverWindow
      omega

/-- **While the peer has at most as many cells unacknowledged as the client's first deliver window,
no schedule of the SENDMEs makes the client refuse one.**  With the classic windows that is always
so. -/
theorem data_accepted (c : Circ) (cc : Option ℕ) (cwndMax limit : ℕ) (acts : List FlowAct)
    (w : FlowLink) (hnew : c.flowState = classicFlow)
    (hcc : ∀ inc ∈ cc, 1 ≤ inc ∧ inc ≤ 250)
    (hgood : RunMeets FlowLink.step (WithinFirstWindow (c.negotiate cc).deliverWindow)
      (newFlowLink c cc cwndMax limit) acts)
    (hrun : run FlowLink.step (newFlowLink c cc cwndMax limit) acts = some w) :
    w.rejected = false := by
  have hinv := run_inv (fun w a w' (h : w.Balanced (c.negotiate cc).deliverWindow (cc.getD 100))
    hgood hstep => h.step hgood hstep) (balanced_new hnew hcc) hgood hrun
  exact hinv.accepted

/-- Four increments of cells are in flight, and no SENDME has been sent: the window just holds
them. -/
theorem data_accepted_first_window :
    ∃ w, run FlowLink.step (newFlowLink Onion.newCirc (some 31) 5000 124)
        (replicate 124 .send ++ replicate 124 .deliver) = some w ∧
      w.due = 4 ∧ w.rejected = false :=
  exists_some_and (by decide +kernel) fun w hw _ =>
    data_accepted _ _ _ _ _ w rfl (by decide) (by decide +kernel) hw

/-- One acknowledged increment lets Vegas grow the peer's window from 124 to 155 cells.  The
client's goroutines then sleep, and the 125th cell is refused. -/
theorem data_rejected :
    (VegasState.processSendme { newVegasState defaultCCParams 31 with inflight := 31 } 30000 false).cwnd = 155 ∧
    ∃ w, run FlowLink.step (newFlowLink Onion.newCirc (some 31) 5000 124)
        (replicate 31 .send ++ replicate 31 .deliver ++ [.restore, .emit, .ack 155] ++
          replicate 125 .send ++ replicate 125 .deliver) = some w ∧
      w.rejected = true := by
  decide +kernel

end GoTor.Circuit
