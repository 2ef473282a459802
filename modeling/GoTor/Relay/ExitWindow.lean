import GoTor.Relay.ExitPump
import GoTor.Relay.ExitSendme
import Mathlib.Tactic.Linarith

/-!
# The window and the queue of an exit circuit

The books of an exit: how many DATA cells are accounted for, what the circuit window says, and the
tags queued for the client's SENDMEs.  They are right in every run in which a pump passes the
window check only while there is room for it and all pumps already past the check, and encrypts a
DATA cell only while no other one is between encryption and accounting.
-/

namespace GoTor.Relay

open GoTor.Lib GoTor.Cell Function List
open GoTor.Circuit (VegasWindow TagLen)

/-- The condition on a step: a pump that may pass the check finds room for itself and the other
pumps past it, and a DATA cell is encrypted only when all earlier ones are accounted for. -/
def RoomForAll (s : ExitState) (t : ExitTid) (a : ExitAct) (_ : ExitChoice) : Prop :=
  match a with
  | .mayPump i => s.circ.mayPump i = some true → ((s.admitted.erase t).length : ℤ) < s.circ.outWindow
  | .originate rc => rc.command = relayData → s.unaccounted = []
  | _ => True

instance (s : ExitState) (t : ExitTid) (a : ExitAct) (ch : ExitChoice) : Decidable (RoomForAll s t a ch) := by
  unfold RoomForAll
  split <;> infer_instance

/-! ### The books -/

variable {circ : ExitCircuit} {ch : ExitChoice}

open ExitState

section Books

variable {inc : ℕ} {s s' : ExitState} {l : ExitTid → PumpPhase} {t : ExitTid} {acc : List Bytes}

/-- What the window and the queue say when the cells `acc` are accounted for. -/
structure Books (inc : ℕ) (s : ExitState) (acc : List Bytes) : Prop where
  acked_le : s.acked ≤ acc.length / inc
  queue : s.circ.circExpectedSendme = (everyNth inc acc).drop s.acked
  vegas : ∀ v, s.circ.flowOf.vegas = some v →
    s.circ.flowOf.sendmeInc = inc ∧ v.inflight + inc * s.acked = acc.length
  classic : s.circ.flowOf.vegas = none →
    (s.circ.circOutWindow = none ∧ acc = [] ∧ s.admitted = []) ∨
      s.circ.circOutWindow = some (exitCircWindowInit - (acc.length - inc * s.acked))
  granted : (acc.length : ℤ) + s.admitted.length ≤ s.granted + inc * s.acked
  granted_le : s.circ.flowOf.vegas = none → s.granted ≤ exitCircWindowInit

/-- Whether a DATA cell is between encryption and accounting. -/
inductive Stage (s : ExitState) (l : ExitTid → PumpPhase) (acc : List Bytes) : Prop
  | quiet (unaccounted : s.unaccounted = []) (encrypted : s.encrypted = acc) (free : ∀ t, (l t).Free)
  | sending (t : ExitTid) (tag : Bytes) (unaccounted : s.unaccounted = [(t, acc.length)])
      (encrypted : s.encrypted = acc ++ [tag]) (phase : l t = .sending tag) (len : TagLen tag)
      (others : ∀ u, u ≠ t → (l u).Free)

structure Live (inc : ℕ) (s : ExitState) (l : ExitTid → PumpPhase) : Prop where
  flow : s.circ.FlowIs inc
  nodup : s.admitted.Nodup
  admitted_iff : ∀ t, t ∈ s.admitted ↔ l t ≠ .out
  books : ∃ acc, Books inc s acc ∧ Stage s l acc

/-- The entries of the books stay. -/
structure SameLedger (s s' : ExitState) : Prop where
  circCC : s'.circ.circCC = s.circ.circCC
  circOutWindow : s'.circ.circOutWindow = s.circ.circOutWindow
  expected : s'.circ.circExpectedSendme = s.circ.circExpectedSendme
  admitted : s'.admitted = s.admitted
  granted : s'.granted = s.granted
  acked : s'.acked = s.acked

/-- Neither the books nor what they are about change. -/
structure SameBooks (s s' : ExitState) : Prop extends SameLedger s s' where
  ccEnabled : s'.circ.ccEnabled = s.circ.ccEnabled
  encrypted : s'.encrypted = s.encrypted
  unaccounted : s'.unaccounted = s.unaccounted

lemma SameBooks.refl : SameBooks s s :=
  ⟨⟨rfl, rfl, rfl, rfl, rfl, rfl⟩, rfl, rfl, rfl⟩

lemma SameLedger.flowOf (h : SameLedger s s') : s'.circ.flowOf = s.circ.flowOf :=
  congrArg (Option.getD · _) h.circCC

lemma Books.frame (h : Books inc s acc) (hsame : SameLedger s s') : Books inc s' acc := by
  obtain ⟨hacked, hqueue, hvegas, hclassic, hgranted, hle⟩ := h
  rw [← hsame.acked] at hacked hqueue hvegas hclassic hgranted
  rw [← hsame.expected] at hqueue
  rw [← hsame.flowOf] at hvegas hclassic hle
  rw [← hsame.circOutWindow, ← hsame.admitted] at hclassic
  rw [← hsame.admitted, ← hsame.granted] at hgranted
  rw [← hsame.granted] at hle
  exact ⟨hacked, hqueue, hvegas, hclassic, hgranted, hle⟩

lemma Stage.frame (h : Stage s l acc) (hunaccounted : s'.unaccounted = s.unaccounted)
    (hencrypted : s'.encrypted = s.encrypted) : Stage s' l acc := by
  cases h with
  | quiet unaccounted encrypted free =>
    exact .quiet (hunaccounted.trans unaccounted) (hencrypted.trans encrypted) free
  | sending t tag unaccounted encrypted phase len others =>
    exact .sending t tag (hunaccounted.trans unaccounted) (hencrypted.trans encrypted) phase len others

lemma Live.frame (h : Live inc s l) (hsame : SameBooks s s') : Live inc s' l := by
  obtain ⟨hflow, hnodup, hadmitted, acc, hbooks, hstage⟩ := h
  refine ⟨?_, ?_, ?_, acc, hbooks.frame hsame.toSameLedger, hstage.frame hsame.unaccounted hsame.encrypted⟩
  · unfold ExitCircuit.FlowIs
    rw [hsame.flowOf, hsame.ccEnabled]
    exact hflow
  · rw [hsame.admitted]; exact hnodup
  · rw [hsame.admitted]; exact hadmitted

/-! ### The check -/

variable {i : UInt16}

lemma outWindow_of_mayPump (h : s.circ.mayPump i = some true) : 0 < s.circ.outWindow := by
  obtain ⟨es, -, hmay⟩ := Option.map_eq_some_iff.1 h
  split at hmay
  · exact of_decide_eq_true hmay
  · exact of_decide_eq_true (Bool.and_eq_true_iff.1 hmay).1

lemma Books.outWindow (h : Books inc s acc) (hopen : 0 < s.circ.outWindow) :
    s.circ.outWindow = s.window - (acc.length - inc * s.acked) ∧
      (s.circ.flowOf.vegas = none → ∃ w, s.circ.circOutWindow = some w) := by
  unfold ExitCircuit.outWindow at hopen ⊢
  unfold window
  cases hv : s.circ.flowOf.vegas with
  | some v =>
    rw [hv] at hopen
    obtain ⟨-, hin⟩ := h.vegas v hv
    refine ⟨?_, nofun⟩
    dsimp only at hopen ⊢
    unfold VegasWindow.packageWindow at hopen ⊢
    split at hopen
    · cases hopen
    next hroom =>
    rw [if_neg hroom]
    push_cast [← hin]
    ring
  | none =>
    rw [hv] at hopen
    obtain ⟨hnone, -, -⟩ | hsome := h.classic hv
    · rw [hnone] at hopen
      cases hopen
    · rw [hsome]
      exact ⟨rfl, fun _ => ⟨_, rfl⟩⟩

lemma free_update {ph : PumpPhase} (hph : ph.Free) (hothers : ∀ u, u ≠ t → (l u).Free) (u : ExitTid) :
    (update l t ph u).Free := by
  by_cases hu : u = t
  · rw [hu, update_self]; exact hph
  · rw [update_of_ne hu]; exact hothers u hu

lemma Stage.others_free (h : Stage s l acc) (hfree : (l t).Free) {ph : PumpPhase} (hph : ph.Free)
    (hstage : s'.unaccounted = s.unaccounted) (hencrypted : s'.encrypted = s.encrypted) :
    Stage s' (update l t ph) acc := by
  cases h with
  | quiet unaccounted encrypted free =>
    exact .quiet (hstage.trans unaccounted) (hencrypted.trans encrypted) (free_update hph fun u _ => free u)
  | sending v tag unaccounted encrypted phase len others =>
    have hv : v ≠ t := by
      rintro rfl
      exact hfree tag phase
    refine .sending v tag (hstage.trans unaccounted) (hencrypted.trans encrypted) ?_ len fun u hu => ?_
    · rw [update_of_ne hv]; exact phase
    · by_cases hut : u = t
      · rw [hut, update_self]; exact hph
      · rw [update_of_ne hut]; exact others u hu

lemma Live.mayPump (h : Live inc s l) (hfree : (l t).Free) (hroom : s.circ.mayPump i = some true →
      ((s.admitted.erase t).length : ℤ) < s.circ.outWindow) :
    Live inc (s.mayPump t i).2
      (update l t (if (s.mayPump t i).1 = some true then .admitted else l t)) := by
  unfold ExitState.mayPump
  split
  next hmay =>
    obtain ⟨hflow, hnodup, hadmitted, acc, hbooks, hstage⟩ := h
    obtain ⟨hwindow, hset⟩ := hbooks.outWindow (outWindow_of_mayPump hmay)
    have hlt := hroom hmay
    refine ⟨hflow, ?_, ?_, acc, ⟨hbooks.acked_le, hbooks.queue, hbooks.vegas, ?_, ?_, ?_⟩,
      hstage.others_free hfree free_admitted rfl rfl⟩
    · exact nodup_cons.2 ⟨fun hmem => (hnodup.mem_erase_iff.1 hmem).1 rfl, hnodup.erase t⟩
    · intro u
      rw [mem_cons, hnodup.mem_erase_iff, hadmitted]
      by_cases hu : u = t
      · simp [hu]
      · simp [hu]
    · intro hv
      refine .inr ((hbooks.classic hv).resolve_left ?_)
      rintro ⟨hnone, -, -⟩
      obtain ⟨w, hw⟩ := hset hv
      rw [hnone] at hw
      cases hw
    · show (acc.length : ℤ) + (t :: s.admitted.erase t).length ≤ s.window + inc * s.acked
      rw [length_cons]
      push_cast
      linarith
    · intro hv
      unfold window
      rw [hv]
  next hnot =>
    rw [if_neg hnot, update_eq_self]
    exact h

variable {tag : Bytes}

lemma Live.originateData {rc : RelayCell} (h : Live inc s l)
    (hph : l t = .admitted) (hlen : TagLen tag) (hrc : rc.command = relayData)
    (hnone : s.unaccounted = []) :
    Live inc (s.originate t rc tag) (update l t (.sending tag)) := by
  obtain ⟨hflow, hnodup, hadmitted, acc, hbooks, hstage⟩ := h
  have hs : s.originate t rc tag = { s with
      encrypted := s.encrypted ++ [tag]
      unaccounted := (t, s.encrypted.length) :: s.unaccounted } := if_pos hrc
  rw [hs]
  cases hstage with
  | quiet unaccounted encrypted free =>
    refine ⟨hflow, hnodup, fun u => ?_, acc,
      { hbooks with }, .sending t tag ?_ ?_ (update_self ..) hlen fun u hu => ?_⟩
    · show u ∈ s.admitted ↔ _
      rw [hadmitted]
      by_cases hu : u = t
      · rw [hu, hph]; simp
      · rw [update_of_ne hu]
    · show (t, s.encrypted.length) :: s.unaccounted = _
      rw [hnone, encrypted]
    · show s.encrypted ++ [tag] = _
      rw [encrypted]
    · rw [update_of_ne hu]; exact free u
  | sending v tag' unaccounted encrypted phase len others =>
    rw [hnone] at unaccounted
    cases unaccounted

lemma Books.leave (h : Books inc s acc) :
    Books inc { s with admitted := s.admitted.erase t } acc := by
  refine { h with classic := fun hv => ?_, granted := ?_ }
  · obtain ⟨hnone, hacc, hadmitted⟩ | hsome := h.classic hv
    · refine .inl ⟨hnone, hacc, ?_⟩
      rw [hadmitted]
      rfl
    · exact .inr hsome
  · have hle : (s.admitted.erase t).length ≤ s.admitted.length := length_erase_le
    have hgranted := h.granted
    show (acc.length : ℤ) + (s.admitted.erase t).length ≤ s.granted + inc * s.acked
    omega

lemma mem_erase_iff_out (hnodup : s.admitted.Nodup) (hadmitted : ∀ u, u ∈ s.admitted ↔ l u ≠ .out)
    (u : ExitTid) : u ∈ s.admitted.erase t ↔ update l t .out u ≠ .out := by
  rw [hnodup.mem_erase_iff, hadmitted]
  by_cases hu : u = t
  · simp [hu]
  · simp [hu]

variable {i : UInt16}

lemma Live.removeStream (h : Live inc s l) (hfree : (l t).Free) :
    Live inc { s with circ := s.circ.removeStream i, admitted := s.admitted.erase t } (update l t .out) := by
  obtain ⟨hflow, hnodup, hadmitted, acc, hbooks, hstage⟩ := h
  have hcirc : ∃ streams circStreams,
      s.circ.removeStream i = { s.circ with streams, circStreams } := by
    unfold ExitCircuit.removeStream
    split
    · exact ⟨_, _, rfl⟩
    · exact ⟨_, _, rfl⟩
  obtain ⟨streams, circStreams, hcirc⟩ := hcirc
  rw [hcirc]
  exact ⟨hflow, hnodup.erase t, mem_erase_iff_out hnodup hadmitted, acc,
    hbooks.leave.frame ⟨rfl, rfl, rfl, rfl, rfl, rfl⟩,
    hstage.others_free hfree free_out rfl rfl⟩

lemma Stage.of_sending (h : Stage s l acc) (hph : l t = .sending tag) :
    s.unaccounted = [(t, acc.length)] ∧ s.encrypted = acc ++ [tag] ∧ TagLen tag ∧ ∀ u, u ≠ t → (l u).Free := by
  cases h with
  | quiet unaccounted encrypted free => exact absurd hph (free t tag)
  | sending v tag' unaccounted encrypted phase len others =>
    obtain rfl : t = v := by_contra fun h => others t h tag hph
    rw [phase] at hph
    cases hph
    exact ⟨unaccounted, encrypted, len, others⟩

lemma Live.writeFailed {rc : RelayCell} (h : Live inc s l) (hph : l t = .sending tag) (hrc : rc.command = relayData) :
    Live inc (s.writeFailed t rc) (update l t .out) := by
  obtain ⟨hflow, hnodup, hadmitted, acc, hbooks, hstage⟩ := h
  obtain ⟨hunaccounted, hencrypted, -, hothers⟩ := hstage.of_sending hph
  have hs : s.writeFailed t rc = { s with
      connOpen := false
      unaccounted := []
      admitted := s.admitted.erase t
      encrypted := acc } := by
    unfold ExitState.writeFailed ExitState.accounted
    rw [if_pos hrc, hunaccounted, hencrypted]
    simp [eraseIdx_append_of_length_le]
  rw [hs]
  exact ⟨hflow, hnodup.erase t, mem_erase_iff_out hnodup hadmitted, acc,
    hbooks.leave.frame ⟨rfl, rfl, rfl, rfl, rfl, rfl⟩,
    .quiet rfl rfl (free_update free_out hothers)⟩

lemma sent_mod {n : ℕ} {sent : ℤ} (h : sent = n - inc * s.acked) : sent % (inc : ℤ) = 0 ↔ n % inc = 0 := by
  rw [h, Int.sub_mul_emod_self_left, ← Int.natCast_mod, Int.natCast_eq_zero]

lemma Books.account (h : Books inc s acc) (hflow : s.circ.FlowIs inc) (hpos : 0 < inc)
    (hlen : TagLen tag) (hmem : t ∈ s.admitted) {unaccounted : List (ExitTid × ℕ)} :
    Books inc { s with
      unaccounted
      admitted := s.admitted.erase t
      circ := s.circ.afterOutboundDATA i tag } (acc ++ [tag]) := by
  have hlength : ((acc ++ [tag]).length : ℤ) = acc.length + 1 := by
    rw [length_append, length_singleton]
    push_cast
    ring
  have hacked : s.acked ≤ (acc ++ [tag]).length / inc := by
    rw [length_append]
    exact h.acked_le.trans (Nat.div_le_div_right (Nat.le_add_right _ _))
  have herase : ((s.admitted.erase t).length : ℤ) = s.admitted.length - 1 := by
    have hne := length_pos_of_mem hmem
    rw [length_erase_of_mem hmem]
    omega
  have hgranted : ((acc ++ [tag]).length : ℤ) + (s.admitted.erase t).length ≤ s.granted + inc * s.acked := by
    have hgranted := h.granted
    linarith
  -- a digest is recorded for every `inc`-th cell, however the cells are counted
  have hqueue (record : Prop) [Decidable record] (hrecord : record ↔ (acc.length + 1) % inc = 0) :
      (if record then s.circ.circExpectedSendme ++ [tag] else s.circ.circExpectedSendme) =
        (everyNth inc (acc ++ [tag])).drop s.acked := by
    rw [drop_everyNth_concat h.acked_le, ← h.queue]
    exact if_congr hrecord rfl rfl
  unfold ExitCircuit.afterOutboundDATA
  dsimp only
  cases hv : s.circ.flowOf.vegas with
  | some v =>
    obtain ⟨hinc, hin⟩ := h.vegas v hv
    refine ⟨hacked, hqueue _ ?_, ?_, nofun, hgranted, nofun⟩
    · rw [hinc, ← hin]
      have hmod : (v.inflight + 1) % inc = (v.inflight + inc * s.acked + 1) % inc := by
        rw [Nat.add_right_comm, Nat.add_mul_mod_self_left]
      rw [← hmod]
      exact ⟨fun hr => hr.2.2, fun hr => ⟨hlen, hpos, hr⟩⟩
    · rintro _ ⟨⟩
      refine ⟨hinc, ?_⟩
      rw [length_append, ← hin]
      show v.inflight + 1 + inc * s.acked = v.inflight + inc * s.acked + 1
      omega
  | none =>
    have hle := h.granted_le hv
    -- a cell has been admitted, so the window is there
    have hcur : s.circ.circOutWindow = some (exitCircWindowInit - (acc.length - inc * s.acked)) := by
      refine (h.classic hv).resolve_left ?_
      rintro ⟨-, -, hnone⟩
      rw [hnone] at hmem
      cases hmem
    have hroom : exitCircWindowInit - (acc.length - inc * s.acked) > 0 := by
      omega
    simp only [hcur, Option.getD_some]
    rw [if_pos hroom, if_pos hroom]
    have hsent : exitCircWindowInit - (exitCircWindowInit - (acc.length - inc * s.acked) - 1) =
        ((acc.length + 1 : ℕ) : ℤ) - inc * s.acked := by
      push_cast
      ring
    refine ⟨hacked, hqueue _ ?_, ?_, fun _ => .inr ?_, hgranted, fun _ => hle⟩
    · have hcovered : inc * s.acked ≤ acc.length :=
        (Nat.mul_le_mul_left _ h.acked_le).trans (Nat.mul_div_le _ _)
      rw [hsent, hflow.1, sent_mod rfl]
      refine ⟨fun hr => hr.2.1, fun hr => ⟨?_, hr, hlen⟩⟩
      linarith
    · intro v hsome
      exact absurd (hv.symm.trans hsome) nofun
    · show some _ = some (exitCircWindowInit - ((acc ++ [tag]).length - inc * s.acked))
      rw [hlength]
      ring_nf

lemma Live.account (h : Live inc s l) (hpos : 0 < inc) (hph : l t = .sending tag) :
    Live inc { s.accounted t with circ := s.circ.afterOutboundDATA i tag } (update l t .out) := by
  obtain ⟨hflow, hnodup, hadmitted, acc, hbooks, hstage⟩ := h
  obtain ⟨hunaccounted, hencrypted, hlen, hothers⟩ := hstage.of_sending hph
  have hmem : t ∈ s.admitted := (hadmitted t).2 (by rw [hph]; nofun)
  have hnone : s.unaccounted.filter (·.1 ≠ t) = [] := by
    rw [hunaccounted]
    simp
  unfold accounted
  rw [hnone]
  refine ⟨sameCount_afterOutboundDATA.flow inc hflow, hnodup.erase t,
    mem_erase_iff_out hnodup hadmitted, acc ++ [tag], ?_, .quiet rfl hencrypted (free_update free_out hothers)⟩
  exact hbooks.account hflow hpos hlen hmem

lemma Books.sendme {payload : Bytes} {cwnd : ℕ} (h : Books inc s acc) (hflow : s.circ.FlowIs inc) (hpos : 0 < inc)
    (hs : s.circ.handleSendme 0 payload cwnd = .ok circ) :
    Books inc { s with circ, acked := s.acked + 1 } acc := by
  obtain ⟨hne, -⟩ | ⟨-, digest, rest, hhead, hcase⟩ := ExitCircuit.handleSendme_cases hs
  · exact absurd rfl hne
  have hqueue := h.queue
  rw [hhead] at hqueue
  -- there is a digest to match, so an increment is outstanding
  have hlt : s.acked < (everyNth inc acc).length := by
    by_contra hge
    rw [drop_eq_nil_of_le (not_lt.1 hge)] at hqueue
    cases hqueue
  have hacked : s.acked + 1 ≤ acc.length / inc := by
    rw [← length_everyNth]
    exact hlt
  have hrest : rest = (everyNth inc acc).drop (s.acked + 1) := by
    rw [drop_eq_getElem_cons hlt] at hqueue
    exact (List.cons.inj hqueue).2
  have hcovered : inc * (s.acked + 1) ≤ acc.length :=
    (Nat.mul_le_mul_left _ hacked).trans (Nat.mul_div_le _ _)
  have hgranted : (acc.length : ℤ) + s.admitted.length ≤ s.granted + inc * ((s.acked + 1 : ℕ) : ℤ) := by
    have hgranted := h.granted
    push_cast
    linarith
  obtain ⟨v, hv, rfl⟩ | ⟨hv, rfl⟩ := hcase
  · -- congestion control
    obtain ⟨hinc, hin⟩ := h.vegas v hv
    refine ⟨hacked, hrest, ?_, nofun, hgranted, nofun⟩
    rintro _ ⟨⟩
    refine ⟨hinc, ?_⟩
    show v.inflight - s.circ.flowOf.sendmeInc + inc * (s.acked + 1) = acc.length
    rw [Nat.mul_succ] at hcovered ⊢
    omega
  -- fixed windows
  have hcur : s.circ.circOutWindow =
      some (exitCircWindowInit - (acc.length - inc * s.acked)) := by
    refine (h.classic hv).resolve_left ?_
    rintro ⟨-, rfl, -⟩
    exact absurd hacked (by rw [length_nil, Nat.zero_div]; exact Nat.not_succ_le_zero _)
  refine ⟨hacked, hrest, ?_, fun _ => .inr ?_, hgranted, fun _ => h.granted_le hv⟩
  · intro v hsome
    exact absurd (hv.symm.trans hsome) nofun
  · rw [hcur, Option.getD_some, if_neg (by linarith), hflow.1, min_eq_left (by linarith)]
    push_cast
    ring_nf

lemma Live.sendme {payload : Bytes} {cwnd : ℕ} (h : Live inc s l) (hpos : 0 < inc)
    (hs : s.circ.handleSendme i payload cwnd = .ok circ) :
    Live inc { s with circ, acked := if i = 0 then s.acked + 1 else s.acked } l := by
  obtain ⟨hflow, hnodup, hadmitted, acc, hbooks, hstage⟩ := h
  have hflow' := (sameCount_handleSendme hs).flow inc hflow
  refine ⟨hflow', hnodup, hadmitted, acc, ?_, hstage.frame rfl rfl⟩
  by_cases hi : i = 0
  · subst hi
    exact hbooks.sendme hflow hpos hs
  · obtain ⟨-, streams, rfl⟩ | ⟨hzero, -⟩ := ExitCircuit.handleSendme_cases hs
    · rw [if_neg hi]
      exact hbooks.frame ⟨rfl, rfl, rfl, rfl, rfl, rfl⟩
    · exact absurd hzero hi

lemma Live.insertStream (h : Live inc s l) {tcp counted : Bool} :
    Live inc { s with circ := { s.circ.insertStream i tcp with
      circStreams := if counted then (s.circ.insertStream i tcp).circStreams + 1
        else (s.circ.insertStream i tcp).circStreams } } l := by
  obtain ⟨hflow, hnodup, hadmitted, acc, hbooks, hstage⟩ := h
  have hflow' := (sameCount_insertStream (c := s.circ) i tcp).flow inc hflow
  refine ⟨hflow', hnodup, hadmitted, acc, ?_, hstage.frame rfl rfl⟩
  cases hcc : s.circ.ccEnabled with
  | true =>
    obtain ⟨v, hv⟩ := Option.isSome_iff_exists.1 (hflow.2 hcc)
    have hkeep : s.circ.insertStream i tcp = s.circ.setStream i (some { tcp }) := by
      have hv' : (s.circ.setStream i (some { tcp })).flowOf.vegas = some v := hv
      have hcc' : (s.circ.setStream i (some { tcp })).ccEnabled = true := hcc
      unfold ExitCircuit.insertStream ExitCircuit.ensureCC
      dsimp only
      rw [hv', if_pos hcc']
    rw [hkeep]
    exact hbooks.frame ⟨rfl, rfl, rfl, rfl, rfl, rfl⟩
  | false =>
    have hopen : s.circ.insertStream i tcp = { s.circ.setStream i (some { tcp }) with
        circOutWindow := some (s.circ.circOutWindow.getD exitCircWindowInit) } := by
      have hcc' : ¬ (s.circ.setStream i (some { tcp })).ccEnabled = true :=
        Bool.eq_false_iff.1 hcc
      unfold ExitCircuit.insertStream
      rw [if_neg hcc']
      rfl
    rw [hopen]
    refine { hbooks with classic := fun hv => .inr ?_ }
    -- the first stream opens the window
    obtain ⟨hnone, rfl, -⟩ | hsome := hbooks.classic hv
    · have hacked : s.acked = 0 := by
        have hle := hbooks.acked_le
        rw [length_nil, Nat.zero_div] at hle
        exact Nat.le_zero.1 hle
      rw [hnone]
      simp [hacked]
    · rw [hsome]
      rfl

def KeepsBooks : ExitAct → Prop
  | .mayPump _ | .afterOutboundDATA _ _ | .handleSendme _ _ | .closeCircuit
  | .insertStream _ _ _ | .removeStream _ => False
  | .originate rc => rc.command ≠ relayData
  | .writeCell rc => rc.command ≠ relayData
  | _ => True

lemma sameBooks_exec {a : ExitAct} {r : a.Resp} (hno : KeepsBooks a)
    (h : exec t a ch s = some (r, s')) : SameBooks s s' := by
  cases a with
  | mayPump i | afterOutboundDATA i tag | handleSendme i payload | closeCircuit
  | insertStream i tcp counted | removeStream i => exact hno.elim
  | outside o | circuitGone | streamLimit => cases h; exact .refl
  | noteFwdDigest data digest =>
    cases h
    unfold ExitCircuit.noteFwdDigest
    split <;> exact ⟨⟨rfl, rfl, rfl, rfl, rfl, rfl⟩, rfl, rfl, rfl⟩
  | takeData i =>
    cases h
    unfold ExitCircuit.takeData
    split
    · exact .refl
    · split <;> exact ⟨⟨rfl, rfl, rfl, rfl, rfl, rfl⟩, rfl, rfl, rfl⟩
  | countData i =>
    cases h
    unfold ExitCircuit.countData
    split <;> exact ⟨⟨rfl, rfl, rfl, rfl, rfl, rfl⟩, rfl, rfl, rfl⟩
  | endFirst i =>
    cases h
    unfold ExitCircuit.endFirst
    split
    · exact .refl
    · split <;> exact ⟨⟨rfl, rfl, rfl, rfl, rfl, rfl⟩, rfl, rfl, rfl⟩
  | deleteStream i | releaseSlot | spawn n i =>
    cases h; exact ⟨⟨rfl, rfl, rfl, rfl, rfl, rfl⟩, rfl, rfl, rfl⟩
  | dropOld i =>
    cases h
    unfold ExitCircuit.dropOld
    split <;> exact ⟨⟨rfl, rfl, rfl, rfl, rfl, rfl⟩, rfl, rfl, rfl⟩
  | takeSlot =>
    simp only [exec] at h
    split at h
    · cases h; exact .refl
    · cases h; exact ⟨⟨rfl, rfl, rfl, rfl, rfl, rfl⟩, rfl, rfl, rfl⟩
  | start n =>
    obtain ⟨i, -, heq⟩ := Option.map_eq_some_iff.1 h
    cases heq
    exact .refl
  | originate rc =>
    obtain ⟨e, -, -, rfl⟩ | ⟨tag, -, -, rfl⟩ := exec_originate h
    · exact .refl
    · -- Only DATA is booked; `hno` excludes it.
      rw [show s.originate t rc tag = s from if_neg hno]
      exact .refl
  | writeCell rc =>
    obtain ⟨e, -, rfl⟩ | ⟨-, -, rfl⟩ := exec_writeCell h
    · rw [show s.writeFailed t rc = { s with connOpen := false } from if_neg hno]
      exact ⟨⟨rfl, rfl, rfl, rfl, rfl, rfl⟩, rfl, rfl, rfl⟩
    · unfold written
      split <;> exact ⟨⟨rfl, rfl, rfl, rfl, rfl, rfl⟩, rfl, rfl, rfl⟩

lemma Live.step {a : ExitAct} {r : a.Resp} (hpos : 0 < inc)
    (h : Live inc s l) (hpre : windowContract.pre (l t) a) (hgood : RoomForAll s t a ch)
    (hs : exec t a ch s = some (r, s')) :
    ∃ ph', windowContract.post (l t) a r ph' ∧
      (s'.gone = true ∨ Live inc s' (update l t ph')) := by
  have hstay (hlive : Live inc s' l) : s'.gone = true ∨ Live inc s' (update l t (l t)) := by
    rw [update_eq_self]
    exact .inr hlive
  have hframe (hkeep : KeepsBooks a) : Live inc s' l := h.frame (sameBooks_exec hkeep hs)
  cases a with
  | mayPump i =>
    obtain rfl : (s.mayPump t i).1 = r := congrArg Prod.fst (Option.some.inj hs)
    obtain rfl : (s.mayPump t i).2 = s' := congrArg Prod.snd (Option.some.inj hs)
    exact ⟨_, rfl, .inr (h.mayPump hpre hgood)⟩
  | originate rc =>
    by_cases hrc : rc.command = relayData
    · obtain ⟨e, -, rfl, rfl⟩ | ⟨tag, hlen, rfl, rfl⟩ := exec_originate hs
      · exact ⟨l t, rfl, hstay h⟩
      · exact ⟨.sending tag, (if_pos hrc).symm,
          .inr (h.originateData (hpre hrc) hlen hrc (hgood hrc))⟩
    · refine ⟨l t, ?_, hstay (hframe hrc)⟩
      cases r with
      | error e => rfl
      | ok tag => exact (if_neg hrc).symm
  | writeCell rc =>
    by_cases hrc : rc.command = relayData
    · obtain ⟨tag, hph⟩ := hpre hrc
      obtain ⟨e, rfl, rfl⟩ | ⟨-, rfl, rfl⟩ := exec_writeCell hs
      · -- the cell is lost, and the pump leaves
        exact ⟨.out, (if_pos hrc).symm, .inr (h.writeFailed hph hrc)⟩
      have hsame : s.written rc = s := by
        unfold written
        rw [hrc, if_neg fun hc => absurd hc.1 (by decide)]
      rw [hsame] at hstay ⊢
      exact ⟨l t, rfl, hstay h⟩
    · refine ⟨l t, ?_, hstay (hframe hrc)⟩
      cases r with
      | error e => exact (if_neg hrc).symm
      | ok _ => rfl
  | afterOutboundDATA i tag =>
    cases hs
    exact ⟨.out, rfl, .inr (h.account hpos hpre)⟩
  | removeStream i =>
    cases hs
    exact ⟨.out, rfl, .inr (h.removeStream hpre)⟩
  | handleSendme i payload =>
    cases ch with
    | cwnd n =>
      obtain rfl := congrArg Prod.snd (Option.some.inj hs)
      refine ⟨l t, rfl, hstay ?_⟩
      unfold handleSendme
      split
      · exact h
      next circ hok => exact h.sendme hpos hok
    | _ => cases hs
  | closeCircuit =>
    cases hs
    exact ⟨l t, rfl, .inl rfl⟩
  | insertStream i tcp counted =>
    cases hs
    exact ⟨l t, rfl, hstay h.insertStream⟩
  | _ => exact ⟨l t, rfl, hstay (hframe trivial)⟩

end Books

/-! ### Whole runs -/

lemma gone_exec {s s' : ExitState} {t : ExitTid} {a : ExitAct} {r : a.Resp}
    (hgone : s.gone = true) (h : exec t a ch s = some (r, s')) : s'.gone = true := by
  have hquiet (hq : Quiet a) : s'.gone = true := (sameRead_exec hq h).gone.trans hgone
  cases a with
  | noteFwdDigest data digest | countData i | circuitGone => cases h; exact hgone
  | closeCircuit => cases h; rfl
  | writeCell rc =>
    obtain ⟨e, -, rfl⟩ | ⟨-, -, rfl⟩ := exec_writeCell h
    · exact sameRead_writeFailed.gone.trans hgone
    unfold written
    split
    · exact hgone
    · exact hgone
  | _ => exact hquiet trivial

lemma windowContract_total (ph : PumpPhase) (a : ExitAct) (r : a.Resp) : ∃ ph', windowContract.post ph a r ph' := by
  cases a with
  | originate rc | writeCell rc => cases r <;> exact ⟨_, rfl⟩
  | _ => exact ⟨_, rfl⟩

def ExitState.accountedCells (s : ExitState) : List Bytes :=
  s.encrypted.take (s.encrypted.length - s.unaccounted.length)

/-- All cells encrypted are accounted for, apart from one in the hands of a pump past the check. -/
lemma Stage.accountedCells {s : ExitState} {l : ExitTid → PumpPhase} {acc : List Bytes}
    (h : Stage s l acc) (hadmitted : ∀ t, t ∈ s.admitted ↔ l t ≠ .out) :
    s.accountedCells = acc ∧ s.encrypted.length ≤ acc.length + s.admitted.length := by
  unfold ExitState.accountedCells
  cases h with
  | quiet unaccounted encrypted free =>
    rw [unaccounted, encrypted]
    exact ⟨take_length, Nat.le_add_right _ _⟩
  | sending t tag unaccounted encrypted phase len others =>
    have hmem : t ∈ s.admitted := (hadmitted t).2 (by rw [phase]; nofun)
    have hpos := length_pos_of_mem hmem
    rw [unaccounted, encrypted]
    refine ⟨by simp, ?_⟩
    rw [length_append, length_singleton]
    omega

lemma live_start (h : FreshExit circ) : Live circ.increment { circ } fun _ => .out := by
  refine ⟨h.flowIs, nodup_nil, by simp, [], ⟨Nat.zero_le _, h.expected, ?_, ?_, ?_, ?_⟩,
    .quiet rfl rfl fun _ => free_out⟩
  · intro v hv
    cases hcc : circ.ccEnabled with
    | true =>
      obtain ⟨inc, hinc, hflow⟩ := h.flow hcc
      have hof : circ.flowOf = ⟨inc, some ⟨0, circ.cwndInit⟩⟩ := by
        unfold ExitCircuit.flowOf
        rw [hflow]
        rfl
      have hincrement : circ.increment = inc := by
        unfold ExitCircuit.increment ExitFlow.increment
        rw [hof]
        exact if_pos hinc
      rw [hof] at hv
      cases hv
      refine ⟨?_, by simp⟩
      rw [hof, hincrement]
    | false =>
      unfold ExitCircuit.flowOf at hv
      rw [h.classic hcc] at hv
      cases hv
  · intro hv
    cases hcc : circ.ccEnabled with
    | true =>
      have hsome := h.flowIs.2 hcc
      rw [show circ.flowOf.vegas = none from hv] at hsome
      cases hsome
    | false => exact .inl ⟨h.outWindow hcc, rfl, rfl⟩
  · show (0 : ℤ) + 0 ≤ 0 + circ.increment * ((0 : ℕ) : ℤ)
    simp
  · intro _
    show (0 : ℤ) ≤ exitCircWindowInit
    decide

/-- The running SHA-1, from the seed `07…07`, of two CONNECTED cells, 31 DATA cells for stream 1 and
one for stream 2, where the DATA cells start. -/
def dataTags : List ℕ :=
  [
    0xf6aed1e7db896c0c980a9e697659ce0c90ea7da0, 0x3b6373d5c25f3e9f3a8e0d2c200e3d9862e9c664,
    0x37d61a4c3a296783e21e9317c051fddb7fb24f28, 0x028a14724d8568d12a8ee4c7a9f24719d84f4fd7,
    0xd583f3d3968ed361e863001f860b8755640a6dd7, 0x0b3ebe842c6da2e0f10bbc6aa2004da12684c918,
    0x926aabea594f242dd188c140c7b6dd523b89f611, 0x3399dbe8057ca72d0c9748b2a67960694d81ca28,
    0x8d669b0a111e3bc4ad38dcc530d4a0e8874af7d2, 0xe33b283852f5a654094768d332d21d227265f57d,
    0x4f14679f95c2c0a85d3b7a6f7299d2da0742f7ea, 0x4a14201c7c8450f2d57871531ed9e413eb487b20,
    0x6aa4aef97da981abf77ec33a9a5fef40e3f81284, 0xc17fbca478cb8c58179f59fe9912f0f38499fc90,
    0x008431044a9c7c73828743551f1bd7b985fe5e90, 0xbd54028373f24ca881134059964a7f9cf0744072,
    0xe4fe45f2b50d7b2e202f6b8b25842d23e3f5ebdf, 0x772c89dc023b4b247a3cbad3ec0171e535fa3499,
    0x9366e5ab63daac4e111cf07e6489aa046579c311, 0xc223f81ae6f494a33d2f2bf6ec2552fbf3a82904,
    0x3252d819ff3e165d07d72d5347bbefbe955616a4, 0xfdfb1469cff6edc624d152712928971ec657bb46,
    0x98043a27cfc03c50e991119fb11198eb7af9ea09, 0xbd3afa546981f52ed0e6d6f609e02f252cace0b3,
    0x18ff440a7003c2645bdb04fee612bb88f2350647, 0xc0e4b9199bd4f6faeb875f63ef7afe94f37f2a6b,
    0xc2f2b9a83f7df8bd4b0c0b1bd11f699bc5c457b4, 0x1eab28f9cd48d81318d5f7aad45d93b6943322e3,
    0xa9647b210b6fe7dad193696b56c7d3d83f7d621c, 0x9872f70e2b9022bd1b65e04ab920f42ab0a0cfb5,
    0x28537cb5d4d274e7312de7bd859f3da9b6c9392d, 0xef42c2eba896a34620fa07111247c6382b3534e6]

def twoBegins : List ExitCell :=
  [{ digest := bytesOfNat 20 0x56a9cf4a969ee9ca0497a841e45acf05d8fc9c91
     rc := beginCell 1, pump := 0, digest_len := .inl (length_bytesOfNat ..) },
   { digest := bytesOfNat 20 0x378b8ecc4dec709d9099e98a6041d320bb2925ea
     rc := beginCell 2, pump := 1, digest_len := .inl (length_bytesOfNat ..) }]

def opensBoth : List (ExitTid × ExitChoice) :=
  readerOpens 0x25da4d49a1d5464daecddc87a645b591d595daf5 ++
  readerOpens 0xeb0bafdc7831aac793bc593a42cc253269f0be11

/-- A pump passes the check, reads a byte and encrypts the DATA cell. -/
def encryptsCell (n i : ℕ) : List (ExitTid × ExitChoice) :=
  [.done, .done, .read [97] none, .done, .bytes (bytesOfNat 20 (dataTags.getD i 0))].map (.pump n, ·)

/-- It writes the cell and accounts for it. -/
def accountsCell (n : ℕ) : List (ExitTid × ExitChoice) := List.replicate 2 (.pump n, .done)

/-- The first pump sends `k` cells. -/
def sendsCells (k : ℕ) : List (ExitTid × ExitChoice) :=
  (List.range k).flatMap fun i => encryptsCell 0 i ++ accountsCell 0

/-- The first pump sends 31 cells, then the second one sends a cell. -/
def pumpAfterPump : List (ExitTid × ExitChoice) :=
  opensBoth ++ [(.pump 0, .done)] ++ sendsCells 31 ++ [(.pump 1, .done)] ++ encryptsCell 1 31 ++ accountsCell 1

/-- The second pump encrypts, writes and accounts for its cell while the first one writes its 31st. -/
def pumpsOvertake : List (ExitTid × ExitChoice) :=
  opensBoth ++ [(.pump 0, .done)] ++ sendsCells 30 ++ encryptsCell 0 30 ++
    [(.pump 1, .done)] ++ encryptsCell 1 31 ++ accountsCell 1 ++ accountsCell 0

end GoTor.Relay
