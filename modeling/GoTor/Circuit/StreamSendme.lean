import GoTor.Circuit.Deliver

/-!
# The SENDMEs of a stream

The read loop counts a DATA cell of a stream, then looks at the counter, and starts a goroutine
when it has reached 50.  The counter is set back by that goroutine, not by the read loop, so that
a cell delivered in between finds it at 50 or more again (`stream_sendme_twice`).
-/

namespace GoTor.Circuit

open GoTor.Lib Option

/-- A client circuit and the SENDMEs of one of its streams. -/
structure StreamFlow where
  client : Circ
  /-- `DeliverRelayCell` has counted a DATA cell and has yet to look at the counter. -/
  counted : Bool := false
  delivered : ℕ := 0
  /-- Goroutines that have yet to enter `RecordStreamSendmeSent`. -/
  due : ℕ := 0
  /-- Goroutines that have set the counter back and have yet to call `SendRelayCell`. -/
  recorded : ℕ := 0
  sent : ℕ := 0
  deriving DecidableEq

inductive StreamFlowAct
  | deliver
  | check
  | record
  | emit
  deriving DecidableEq

def StreamFlow.step (sid : UInt16) (w : StreamFlow) : StreamFlowAct → Option StreamFlow
  | .deliver =>
    if w.counted then none
    else
      match w.client.decrementStreamDeliverWindow sid with
      -- the delivery ends with the error
      | .error _ => some w
      | .ok client => some { w with client, counted := true, delivered := w.delivered + 1 }
  | .check =>
    if w.counted then some { w with
      counted := false, due := w.due + (w.client.shouldSendStreamSendme sid).toNat }
    else none
  | .record =>
    if w.due = 0 then none
    else some { w with
      client := w.client.streamSendmeSent sid, due := w.due - 1, recorded := w.recorded + 1 }
  | .emit =>
    if w.recorded = 0 then none
    else some { w with recorded := w.recorded - 1, sent := w.sent + 1 }

/-- No goroutine has yet to set the counter back when the next DATA cell is counted. -/
def RecordedFirst (w : StreamFlow) (a : StreamFlowAct) : Prop := a = .deliver → w.due = 0

instance (w : StreamFlow) (a : StreamFlowAct) : Decidable (RecordedFirst w a) := by
  unfold RecordedFirst
  infer_instance

def StreamFlow.Idle (w : StreamFlow) : Prop := w.counted = false ∧ w.due = 0 ∧ w.recorded = 0

/-- The counter holds the cells that no SENDME covers.  At 50 either the read loop has yet to look
at it, or one goroutine has yet to set it back. -/
structure StreamFlow.Counts (sid : UInt16) (w : StreamFlow) (s : StreamRec) : Prop where
  stream : w.client.getStream sid = some s
  window : s.deliverWindow = 500 - s.sendmeReceived
  delivered : w.delivered = 50 * (w.sent + w.recorded) + s.sendmeReceived
  full : s.sendmeReceived < 50 ∧ w.due = 0 ∨
    s.sendmeReceived = 50 ∧ w.due = (!w.counted).toNat

section Counts

variable {sid : UInt16} {w w' : StreamFlow} {s : StreamRec} {a : StreamFlowAct}

lemma getStream_withStream {c : Circ} {f : StreamRec → StreamRec} (hid : ∀ s, (f s).id = s.id)
    (h : c.getStream sid = some s) : (c.withStream sid f).getStream sid = some (f s) := by
  unfold Sender.getStream at h ⊢
  obtain ⟨ss, hss, hfind⟩ := bind_eq_some_iff.1 h
  have hs : s.id = sid := by simpa using List.find?_some hfind
  simp only [Circ.withStream, Sender.updateStream, hss, map_some, bind_some, List.find?_map]
  have hpred : ((fun s : StreamRec => decide (s.id = sid)) ∘ fun s : StreamRec =>
      if s.id = sid then f s else s) = fun s : StreamRec => decide (s.id = sid) := by
    funext s'
    by_cases h' : s'.id = sid <;> simp [h', hid]
  rw [hpred, hfind, map_some, if_pos hs]

lemma counts_step (h : ∃ s, w.Counts sid s) (hgood : RecordedFirst w a)
    (hstep : w.step sid a = some w') : ∃ s, w'.Counts sid s := by
  obtain ⟨s, hstream, hwindow, hdelivered, hfull⟩ := h
  cases a with
  | deliver =>
    have hdue := hgood rfl
    obtain ⟨hcounted, hstep⟩ := ite_none_left_eq_some.1 hstep
    rw [Bool.not_eq_true] at hcounted
    rw [hdue, hcounted] at hfull
    -- no SENDME is due, so the count is below fifty
    have hlt : s.sendmeReceived < 50 := by simpa using hfull
    have hroom : ¬ s.deliverWindow ≤ 0 := by omega
    simp only [Circ.decrementStreamDeliverWindow, hstream, if_neg hroom] at hstep
    cases hstep
    refine ⟨_, getStream_withStream (fun _ => rfl) hstream, ?_, ?_, ?_⟩
    · dsimp only
      omega
    · dsimp only
      omega
    · simp [hdue]
      omega
  | check =>
    simp only [StreamFlow.step] at hstep
    split at hstep
    next hcounted =>
      cases hstep
      refine ⟨s, hstream, hwindow, hdelivered, ?_⟩
      have hshould : w.client.shouldSendStreamSendme sid = decide (s.sendmeReceived ≥ 50) := by
        simp [Circ.shouldSendStreamSendme, hstream]
      rw [hshould]
      rcases hfull with ⟨hlt, hdue⟩ | ⟨hfifty, hdue⟩
      · exact .inl ⟨hlt, by simp [hdue, hlt]⟩
      · exact .inr ⟨hfifty, by simp [hdue, hcounted, hfifty]⟩
    next => cases hstep
  | record =>
    obtain ⟨hdue, ⟨⟩⟩ := ite_none_left_eq_some.1 hstep
    refine ⟨_, getStream_withStream (fun _ => rfl) hstream, ?_, ?_, ?_⟩
    · dsimp only
      omega
    · dsimp only
      omega
    · have hle := Bool.toNat_le (!w.counted)
      dsimp only
      omega
  | emit =>
    obtain ⟨hrecorded, ⟨⟩⟩ := ite_none_left_eq_some.1 hstep
    refine ⟨s, hstream, hwindow, ?_, hfull⟩
    dsimp only
    omega

end Counts

/-- **While each goroutine sets the counter back before the next DATA cell is counted, a stream
SENDME goes out for every 50 cells.**  The window the exit has left, which has sent at least what
was delivered, stays at most 500. -/
theorem stream_sendmes_exact (sid : UInt16) (c : Circ) (s : StreamRec) (acts : List StreamFlowAct)
    (w : StreamFlow) (hstream : c.getStream sid = some s)
    (hnew : s.deliverWindow = 500 ∧ s.sendmeReceived = 0)
    (hgood : RunMeets (StreamFlow.step sid) RecordedFirst { client := c } acts)
    (hrun : run (StreamFlow.step sid) { client := c } acts = some w) :
    w.sent ≤ w.delivered / 50 ∧ (w.Idle → w.sent = w.delivered / 50) ∧
      (500 : ℤ) - w.delivered + 50 * w.sent ≤ 500 := by
  have hstart : StreamFlow.Counts sid { client := c } s :=
    ⟨hstream, by omega, by simp [hnew.2], .inl (by simp [hnew.2])⟩
  have hinv := run_inv (fun _ _ _ h hgood hstep => counts_step h hgood hstep) ⟨s, hstart⟩ hgood hrun
  obtain ⟨s', -, -, hdelivered, hfull⟩ := hinv
  refine ⟨by omega, ?_, by omega⟩
  rintro ⟨hcounted, hdue, hrecorded⟩
  rw [hcounted] at hfull
  simp only [Bool.not_false, Bool.toNat_true] at hfull
  omega

def streamCirc : Circ where
  id := 1
  conn := true
  state := .opened
  hops := []
  streams := some [{ id := 1 }]

def deliverEach (n : ℕ) : List StreamFlowAct := (List.replicate n [.deliver, .check]).flatten

theorem stream_sendmes_exact_hundred :
    ∃ w, run (StreamFlow.step 1) { client := streamCirc }
        (deliverEach 50 ++ [.record, .emit] ++ deliverEach 50 ++ [.record, .emit]) = some w ∧
      w.sent = w.delivered / 50 ∧ w.delivered = 100 := by
  refine exists_some_imp (P := fun w => w.delivered = 100 ∧ w.counted = false ∧ w.due = 0 ∧
    w.recorded = 0) (by decide +kernel) ?_
  rintro w hw ⟨hdelivered, hidle⟩
  exact ⟨(stream_sendmes_exact 1 streamCirc { id := 1 } _ w rfl (by decide)
    (by decide +kernel) hw).2.1 hidle, hdelivered⟩

/-- The goroutine that the 50th cell starts is not scheduled before the 51st cell is counted:
two SENDMEs go out for 51 cells. -/
theorem stream_sendme_twice :
    ∃ w, run (StreamFlow.step 1) { client := streamCirc }
        (deliverEach 51 ++ [.record, .record, .emit, .emit]) = some w ∧
      w.delivered = 51 ∧ w.sent = 2 := by
  decide +kernel

end GoTor.Circuit
