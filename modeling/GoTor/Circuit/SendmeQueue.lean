import GoTor.Circuit.DataPhase
import GoTor.Circuit.DeliverNet
import Mathlib.Algebra.Ring.Divisibility.Basic
import Mathlib.Tactic.Ring

/-!
# The queue of expected SENDMEs

`sendmeExpected` should hold the tags of every `inc`-th DATA cell on the connection.  The mark of
a cell is given when it is reserved, so the queue is right as long as the cells are written in
the order in which they were reserved and no reservation between them is given back, and a SENDME
is accepted if the tag it answers has been recorded by then.
-/

namespace GoTor.Circuit

open GoTor.Lib GoTor.Crypto GoTor.Relay Function DataState Option Circ

/-- The condition on a step: a goroutine reserves a cell only while no other goroutine has one
reserved, and no SENDME is processed between the write of a boundary cell and its recording. -/
def OneAtATime {Tid : Type} (s : DataState Tid) (t : Tid) (a : DataAct) (_ : DataChoice) : Prop :=
  match a with
  | .reserve => ∀ x ∈ s.reserved, x.1 = t
  | .processSendme => s.unrecorded = []
  | _ => True

instance {Tid : Type} [DecidableEq Tid] (s : DataState Tid) (t : Tid) (a : DataAct)
    (ch : DataChoice) : Decidable (OneAtATime s t a ch) := by
  unfold OneAtATime
  split <;> infer_instance

section Queue

open List Sender

variable {Tid : Type} {s s' : DataState Tid} {l : Tid → Phase} {t : Tid} {n : ℕ}

def DataState.inc (s : DataState Tid) : ℕ := s.circ.sendmeIncrement

/-- What the windows and the queue say while `n` cells are reserved and not written. -/
structure Counts (s : DataState Tid) (n : ℕ) : Prop where
  acked_le : s.acked ≤ s.emitted.length / s.inc
  vegas : ∀ v, s.send.circ.vegas = some v → v.inflight + s.inc * s.acked = s.emitted.length + n
  classic : s.send.circ.vegas = none →
    (s.send.circ.packageWindow + s.emitted.length + n) % (s.inc : ℤ) = 0
  queue : s.send.circ.sendmeExpected ++ s.unrecorded = (everyNth s.inc s.emitted).drop s.acked

def TagLen (auth : Bytes) : Prop := auth.length = 20 ∨ auth.length = 16

/-- Who is between reserving a cell and having it recorded: nobody, a goroutine that has not
written its cell, or one that has still to record it. -/
inductive Situation (s : DataState Tid) (l : Tid → Phase) : Prop
  | quiet (hidle : ∀ t, l t = .idle) (hres : s.reserved = []) (hun : s.unrecorded = []) (hcount : Counts s 0)
  | busy (t : Tid) (b : Bool)
      (hphase : l t = .holding b ∨ (l t = .tagged b (s.tags t) ∧ TagLen (s.tags t)))
      (hothers : ∀ u, u ≠ t → l u = .idle) (hres : s.reserved = [(t, b)])
      (hun : s.unrecorded = []) (hcount : Counts s 1)
      (hmark : b = decide ((s.emitted.length + 1) % s.inc = 0))
  | recording (t : Tid) (hphase : l t = .written (s.tags t)) (hothers : ∀ u, u ≠ t → l u = .idle)
      (hres : s.reserved = [(t, true)]) (hun : s.unrecorded = [s.tags t]) (hcount : Counts s 0)

def Sender.Tagging (c : Sender) : Prop := c.hops ≠ [] ∧ ∀ hop ∈ c.hops, hop.Tagging

lemma Sender.Tagging.of_hops {c c' : Sender} (h : c.Tagging) (hhops : c'.hops = c.hops) : c'.Tagging := by
  rwa [Sender.Tagging, hhops]

structure DataInv (s : DataState Tid) (l : Tid → Phase) : Prop where
  tagging : s.send.circ.Tagging
  mode : s.send.circ.vegas ≠ none → 0 < s.sendmeInc
  tagLen : ∀ auth ∈ s.emitted, TagLen auth
  accepted : s.rejected = false
  situation : Situation s l

/-- A section that leaves the windows, the queue and what the hops can do alone. -/
structure SameFlow (c c' : Sender) : Prop where
  packageWindow : c'.packageWindow = c.packageWindow
  vegas : c'.vegas = c.vegas
  expected : c'.sendmeExpected = c.sendmeExpected
  tagging : c.Tagging → c'.Tagging

variable {c : Sender}

lemma SameFlow.refl : SameFlow c c := ⟨rfl, rfl, rfl, id⟩

lemma Counts.frame {send : SendState Tid} (h : Counts s n)
    (hsame : SameFlow s.send.circ send.circ) : Counts { s with send } n := by
  obtain ⟨hacked, hvegas, hclassic, hqueue⟩ := h
  refine ⟨hacked, ?_, ?_, ?_⟩
  · rwa [← hsame.vegas] at hvegas
  · rwa [← hsame.vegas, ← hsame.packageWindow] at hclassic
  · rwa [← hsame.expected] at hqueue

lemma DataInv.frame {send : SendState Tid} (h : DataInv s l)
    (hsame : SameFlow s.send.circ send.circ) : DataInv { s with send } l := by
  obtain ⟨htagging, hmode, hlen, haccepted, hsituation⟩ := h
  refine ⟨hsame.tagging htagging, ?_, hlen, haccepted, ?_⟩
  · rwa [← hsame.vegas] at hmode
  · cases hsituation with
    | quiet hidle hres hun hcount => exact .quiet hidle hres hun (hcount.frame hsame)
    | busy t b hphase hothers hres hun hcount hmark =>
      exact .busy t b hphase hothers hres hun (hcount.frame hsame) hmark
    | recording t hphase hothers hres hun hcount =>
      exact .recording t hphase hothers hres hun (hcount.frame hsame)

lemma sameFlow_updateStream {streamID : UInt16} {f : StreamRec → StreamRec} :
    SameFlow c (c.updateStream streamID f) := ⟨rfl, rfl, rfl, id⟩

lemma sameFlow_addHop {c c' : Sender} {hs : Bool} {hop : Hop} (hhop : hop.Tagging)
    (h : c.addHop hs hop = .ok c') : SameFlow c c' := by
  unfold addHop at h
  split at h
  · cases h
    refine ⟨rfl, rfl, rfl, fun ⟨_, htagging⟩ => ⟨by simp, ?_⟩⟩
    exact forall_mem_append.2 ⟨htagging, forall_mem_singleton.2 hhop⟩
  · split at h
    · cases h
    · cases h

lemma sameFlow_encryptOnion {P : Primitives} {send : SendState Tid} (cmd : LinkCmd) (dest : ℤ) (payload : Bytes) :
    SameFlow send.circ (send.encryptOnion P t cmd dest payload).2.circ := by
  refine ⟨rfl, rfl, rfl, fun ⟨hne, htagging⟩ => ?_⟩
  obtain ⟨hkept, hlen, -⟩ := @tagging_encryptOnion P (cgoAD cmd) _ dest payload htagging
  exact ⟨ne_nil_of_length_pos (hlen ▸ length_pos_of_ne_nil hne), hkept⟩

lemma DataState.inc_eq {s : DataState Tid} (h : 0 < s.sendmeInc) : s.inc = s.sendmeInc :=
  if_pos h

lemma Situation.quiet_of_idle (h : Situation s l) (hidle : l t = .idle) (hown : ∀ x ∈ s.reserved, x.1 = t) :
    (∀ t, l t = .idle) ∧ s.reserved = [] ∧ s.unrecorded = [] ∧ Counts s 0 := by
  cases h with
  | quiet hidle hres hun hcount => exact ⟨hidle, hres, hun, hcount⟩
  | busy t' b hphase hothers hres hun hcount hmark =>
    obtain rfl : t' = t := hown (t', b) (by rw [hres]; exact mem_singleton.2 rfl)
    rw [hidle] at hphase
    obtain hphase | ⟨hphase, -⟩ := hphase
    · cases hphase
    · cases hphase
  | recording t' hphase hothers hres hun hcount =>
    obtain rfl : t' = t := hown (t', true) (by rw [hres]; exact mem_singleton.2 rfl)
    rw [hidle] at hphase
    cases hphase

variable {b : Bool}

lemma Situation.busy_of_holding (h : Situation s l) (hhold : l t = .holding b ∨ ∃ auth, l t = .tagged b auth) :
    (∀ u, u ≠ t → l u = .idle) ∧ s.reserved = [(t, b)] ∧ s.unrecorded = [] ∧ Counts s 1 ∧
      b = decide ((s.emitted.length + 1) % s.inc = 0) ∧
      ∀ auth, l t = .tagged b auth → auth = s.tags t ∧ TagLen auth := by
  have hne : l t ≠ .idle := by
    obtain hhold | ⟨auth, hhold⟩ := hhold
    · rw [hhold]; nofun
    · rw [hhold]; nofun
  cases h with
  | quiet hidle hres hun hcount => exact absurd (hidle t) hne
  | busy t' b' hphase hothers hres hun hcount hmark =>
    obtain rfl : t = t' := by_contra fun h => hne (hothers t h)
    obtain rfl : b' = b := by
      obtain hphase | ⟨hphase, -⟩ := hphase <;> obtain hhold | ⟨auth, hhold⟩ := hhold <;>
        rw [hphase] at hhold <;> cases hhold <;> rfl
    refine ⟨hothers, hres, hun, hcount, hmark, ?_⟩
    intro auth hauth
    obtain hphase | ⟨hphase, hlen⟩ := hphase
    · rw [hphase] at hauth
      cases hauth
    · rw [hphase] at hauth
      cases hauth
      exact ⟨rfl, hlen⟩
  | recording t' hphase hothers hres hun hcount =>
    obtain rfl : t = t' := by_contra fun h => hne (hothers t h)
    rw [hphase] at hhold
    obtain hhold | ⟨auth, hhold⟩ := hhold
    · cases hhold
    · cases hhold

variable {auth : Bytes}

lemma Situation.recording_of_written (h : Situation s l) (hwritten : l t = .written auth) :
    (∀ u, u ≠ t → l u = .idle) ∧ s.reserved = [(t, true)] ∧ s.unrecorded = [auth] ∧ s.tags t = auth ∧ Counts s 0 := by
  have hne : l t ≠ .idle := by rw [hwritten]; nofun
  cases h with
  | quiet hidle hres hun hcount => exact absurd (hidle t) hne
  | busy t' b hphase hothers hres hun hcount hmark =>
    obtain rfl : t = t' := by_contra fun h => hne (hothers t h)
    rw [hwritten] at hphase
    obtain hphase | ⟨hphase, -⟩ := hphase
    · cases hphase
    · cases hphase
  | recording t' hphase hothers hres hun hcount =>
    obtain rfl : t = t' := by_contra fun h => hne (hothers t h)
    rw [hphase] at hwritten
    cases hwritten
    exact ⟨hothers, hres, hun, rfl, hcount⟩

lemma Counts.reserve {c : Circ} {record : Bool} (h : Counts s 0) (hmode : s.send.circ.vegas ≠ none → 0 < s.sendmeInc)
    (hs : s.circ.decrementPackageWindowForSendme = .ok (c, record)) (reserved : List (Tid × Bool)) :
    Counts { s.setCirc c.toSender with reserved } 1 ∧ record = decide ((s.emitted.length + 1) % s.inc = 0) ∧
      c.hops = s.send.circ.hops ∧ (c.vegas ≠ none → 0 < s.sendmeInc) := by
  obtain ⟨hacked, hvegas, hclassic, hqueue⟩ := h
  unfold decrementPackageWindowForSendme at hs
  cases hv : s.send.circ.vegas with
  | some v =>
    have hinc : s.inc = s.sendmeInc := inc_eq (hmode (by rw [hv]; nofun))
    have hin := hvegas v hv
    have hcv : s.circ.vegas = some v := hv
    simp only [hcv] at hs
    split at hs
    · cases hs
    cases hs
    refine ⟨⟨hacked, ?_, nofun, hqueue⟩, ?_, rfl, fun _ => hmode (by rw [hv]; nofun)⟩
    · rintro _ ⟨⟩
      show v.inflight + 1 + s.inc * s.acked = s.emitted.length + 1
      omega
    · show decide ((v.inflight + 1) % s.sendmeInc = 0) = _
      rw [← hinc, show s.emitted.length + 1 = v.inflight + 1 + s.inc * s.acked by omega, Nat.add_mul_mod_self_left]
  | none =>
    have hmod := hclassic hv
    have hcv : s.circ.vegas = none := hv
    simp only [hcv] at hs
    split at hs
    · cases hs
    cases hs
    refine ⟨⟨hacked, nofun, ?_, hqueue⟩, ?_, rfl, fun hne => absurd rfl hne⟩
    · intro _
      show (s.send.circ.packageWindow - 1 + s.emitted.length + 1) % (s.inc : ℤ) = 0
      refine Eq.trans (congrArg (· % (s.inc : ℤ)) ?_) hmod
      ring
    show decide ((s.send.circ.packageWindow - 1) % (s.inc : ℤ) = 0) = _
    rw [decide_eq_decide]
    -- the window and the cells emitted add up to a multiple of the increment
    have hsplit : s.send.circ.packageWindow - 1 =
        s.send.circ.packageWindow + s.emitted.length - ((s.emitted.length + 1 : ℕ) : ℤ) := by
      push_cast
      ring
    have hdvd : (s.inc : ℤ) ∣ s.send.circ.packageWindow + s.emitted.length :=
      Int.dvd_of_emod_eq_zero (by simpa using hmod)
    rw [← Int.dvd_iff_emod_eq_zero, hsplit, dvd_sub_right hdvd, Int.natCast_dvd_natCast, Nat.dvd_iff_mod_eq_zero]

lemma Counts.write (h : Counts s 1) (hun : s.unrecorded = []) (auth : Bytes) (reserved : List (Tid × Bool)) :
    Counts { s with
      emitted := s.emitted ++ [auth]
      reserved
      unrecorded := if (s.emitted.length + 1) % s.inc = 0 then [auth] else [] } 0 := by
  obtain ⟨hacked, hvegas, hclassic, hqueue⟩ := h
  rw [hun, append_nil] at hqueue
  refine ⟨?_, ?_, ?_, ?_⟩
  · show s.acked ≤ (s.emitted ++ [auth]).length / s.inc
    rw [length_append]
    exact hacked.trans (Nat.div_le_div_right (Nat.le_add_right _ _))
  · intro v hv
    rw [length_append]
    exact hvegas v hv
  · intro hv
    refine Eq.trans (congrArg (· % (s.inc : ℤ)) ?_) (hclassic hv)
    rw [length_append, length_singleton]
    push_cast
    ring
  · show s.send.circ.sendmeExpected ++ (if _ then _ else _) = (everyNth s.inc (s.emitted ++ [auth])).drop s.acked
    rw [drop_everyNth_concat hacked, ← hqueue]
    split
    · rfl
    · rw [append_nil]

lemma Counts.refund (h : Counts s 1) (reserved : List (Tid × Bool)) :
    Counts { s.setCirc s.send.circ.refundPackageWindow with reserved } 0 ∧
      s.send.circ.refundPackageWindow.hops = s.send.circ.hops ∧
      (s.send.circ.refundPackageWindow.vegas ≠ none → s.send.circ.vegas ≠ none) := by
  obtain ⟨hacked, hvegas, hclassic, hqueue⟩ := h
  unfold refundPackageWindow
  cases hv : s.send.circ.vegas with
  | some v =>
    have hin := hvegas v hv
    have hle : s.inc * s.acked ≤ s.emitted.length :=
      (Nat.mul_le_mul_left _ hacked).trans (Nat.mul_div_le _ _)
    refine ⟨⟨hacked, ?_, nofun, hqueue⟩, rfl, fun _ => nofun⟩
    rintro _ ⟨⟩
    show (if v.inflight > 0 then { v with inflight := v.inflight - 1 } else v).inflight +
      s.inc * s.acked = s.emitted.length + 0
    rw [if_pos (by omega)]
    dsimp only
    omega
  | none =>
    refine ⟨⟨hacked, nofun, ?_, hqueue⟩, rfl, fun h => h⟩
    intro _
    show (s.send.circ.packageWindow + 1 + s.emitted.length + 0) % (s.inc : ℤ) = 0
    refine Eq.trans (congrArg (· % (s.inc : ℤ)) ?_) (hclassic hv)
    ring

lemma decodeSendme_encodeSendmeV1 (h : TagLen auth) :
    ∃ payload, encodeSendmeV1 auth = .ok payload ∧ decodeSendme payload = .ok (1, auth) := by
  have hdecode (k : ℕ) (hk : (UInt16.ofNat (natOfBytes [0, UInt8.ofNat k])).toNat = k)
      (hlen : auth.length = k) (hallowed : k = 20 ∨ k = 16) :
      decodeSendme ([1, 0, UInt8.ofNat k] ++ auth) = .ok (1, auth) := by
    have hat : uint16At ([1, 0, UInt8.ofNat k] ++ auth) 1 = UInt16.ofNat (natOfBytes [0, UInt8.ofNat k]) := rfl
    have hversion : ([1, 0, UInt8.ofNat k] ++ auth).getD 0 0 = 1 := rfl
    have htotal : ([1, 0, UInt8.ofNat k] ++ auth).length = 3 + k := by
      rw [length_append, hlen]
      rfl
    unfold decodeSendme
    rw [if_neg (by omega), if_neg (by omega), hat, hk, if_neg (by omega), hversion,
      if_neg (by decide), if_pos rfl, if_neg (by omega)]
    have hslice : slice ([1, 0, UInt8.ofNat k] ++ auth) 3 (3 + k) = auth := by
      unfold slice
      rw [Nat.add_sub_cancel_left]
      exact take_of_length_le hlen.le
    rw [hslice]
  obtain hlen | hlen := h
  · refine ⟨[1, 0, 20] ++ auth, ?_, hdecode 20 (by decide) hlen (.inl rfl)⟩
    unfold encodeSendmeV1
    rw [hlen]
    rfl
  · refine ⟨[1, 0, 16] ++ auth, ?_, hdecode 16 (by decide) hlen (.inr rfl)⟩
    unfold encodeSendmeV1
    rw [hlen]
    rfl

lemma tagLen_of_sendmeAuthTag {raw : Bytes} (h : sendmeAuthTag raw = some auth) : TagLen auth := by
  unfold sendmeAuthTag at h
  split at h
  next hlen =>
    cases h
    exact .inr hlen
  next =>
  split at h
  next hlen =>
    cases h
    exact .inl (by rw [length_take]; omega)
  next => cases h

lemma Counts.head {n : ℕ} (h : Counts s n) (hun : s.unrecorded = []) (hnext : s.nextSendme = some auth) :
    ∃ rest, s.send.circ.sendmeExpected = auth :: rest ∧ rest = (everyNth s.inc s.emitted).drop (s.acked + 1) ∧
      s.acked + 1 ≤ s.emitted.length / s.inc ∧ auth ∈ s.emitted := by
  have hqueue := h.queue
  rw [hun, append_nil] at hqueue
  have hnext : (everyNth s.inc s.emitted)[s.acked]? = some auth := hnext
  obtain ⟨hlt, hget⟩ := List.getElem?_eq_some_iff.1 hnext
  refine ⟨_, ?_, rfl, ?_, ?_⟩
  · rw [hqueue, drop_eq_getElem_cons hlt]
    exact congrArg (· :: _) hget
  · rw [← length_everyNth]
    exact hlt
  · exact mem_of_mem_everyNth (hget ▸ getElem_mem hlt)

lemma processCircuitSendme_eq {c : Circ} {payload : Bytes} {rest : List Bytes}
    (hdecode : decodeSendme payload = .ok (1, auth)) (hhead : c.sendmeExpected = auth :: rest)
    (vegas' : VegasWindow) :
    c.processCircuitSendme payload vegas' = .ok (match c.vegas with
      | some _ => { c with
          sendmeExpected := rest, vegas := some vegas', packageWindow := vegas'.packageWindow }
      | none => { c with
          sendmeExpected := rest, packageWindow := c.packageWindow + c.sendmeIncrement }) := by
  unfold processCircuitSendme
  rw [hdecode]
  simp only [Except.mapError, ok_bind, hhead]
  rw [if_neg (by decide), if_neg (by simp)]
  cases hv : c.vegas with
  | some v | none => rfl

lemma Counts.processSendme {n cwnd : ℕ} (h : Counts s n) (hun : s.unrecorded = [])
    (hmode : s.send.circ.vegas ≠ none → 0 < s.sendmeInc) (hlen : ∀ auth ∈ s.emitted, TagLen auth)
    (hs : s.processSendme cwnd = some s') :
    ∃ c, s' = { s.setCirc c with acked := s.acked + 1 } ∧ c.hops = s.send.circ.hops ∧
      (c.vegas ≠ none → s.send.circ.vegas ≠ none) ∧ Counts s' n := by
  obtain ⟨auth, hnext, hs⟩ := bind_eq_some_iff.1 hs
  obtain ⟨rest, hhead, hrest, hacked, hmem⟩ := h.head hun hnext
  obtain ⟨payload, hencode, hdecode⟩ := decodeSendme_encodeSendmeV1 (hlen auth hmem)
  have hhead' : s.circ.sendmeExpected = auth :: rest := hhead
  rw [hencode] at hs
  simp only [Except.toOption, bind_eq_bind, bind_some, processCircuitSendme_eq hdecode hhead'] at hs
  cases hs
  -- A tag is queued only once its `inc` cells have left.
  have hcovered : s.inc * (s.acked + 1) ≤ s.emitted.length :=
    (Nat.mul_le_mul_left _ hacked).trans (Nat.mul_div_le _ _)
  have hqueue : rest ++ s.unrecorded = (everyNth s.inc s.emitted).drop (s.acked + 1) := by
    rw [hun, append_nil, hrest]
  cases hv : s.send.circ.vegas with
  | some v =>
    have hcv : s.circ.vegas = some v := hv
    have hinc : s.inc = s.sendmeInc := inc_eq (hmode (hv ▸ some_ne_none v))
    have hin := h.vegas v hv
    simp only [hcv]
    refine ⟨_, rfl, rfl, fun _ => some_ne_none v, hacked, ?_, fun hc => absurd hc (some_ne_none _), hqueue⟩
    rintro _ ⟨⟩
    show v.inflight - s.sendmeInc + s.inc * (s.acked + 1) = s.emitted.length + n
    rw [Nat.mul_succ] at hcovered ⊢
    omega
  | none =>
    have hcv : s.circ.vegas = none := hv
    simp only [hcv]
    refine ⟨_, rfl, rfl, fun h => h, hacked, by rintro _ ⟨⟩, ?_, hqueue⟩
    intro _
    show (s.send.circ.packageWindow + (s.inc : ℤ) + s.emitted.length + n) % (s.inc : ℤ) = 0
    have hmod := h.classic hv
    rw [← Int.add_emod_right] at hmod
    refine Eq.trans (congrArg (· % (s.inc : ℤ)) ?_) hmod
    ring

/-! ### The steps -/

section Exec

variable [DecidableEq Tid] {P : Primitives} {send send' : SendState Tid}

lemma sameFlow_exec {a : SendAct} {ch : SendChoice} {r : a.Resp} (ha : Plain a)
    (h : SendState.exec P t a ch send = some (r, send')) : SameFlow send.circ send'.circ := by
  cases a with
  | snapshot | hopUsesCGO i => cases h; exact .refl
  | randRead n =>
    cases ch with
    | bytes b =>
      simp only [SendState.exec] at h
      split at h
      · cases h; exact .refl
      · cases h
    | fail e => cases h; exact .refl
    | done => cases h
  | encryptOnion cmd dest payload =>
    cases h
    exact sameFlow_encryptOnion cmd dest payload
  | sendCell onion cell =>
    obtain rfl | ⟨-, rfl⟩ := SendState.sendCell_cases h
    · exact .refl
    · exact .refl
  | refundPackageWindow | refundStreamPackageWindow i | recordSendmeTag tag => exact ha.elim
  | addHop hs hop =>
    simp only [SendState.exec] at h
    split at h
    next hok => cases h; exact sameFlow_addHop ha hok
    next => cases h; exact .refl
  | setState state | setConnection => cases h; exact ⟨rfl, rfl, rfl, id⟩

lemma idle_update {ph : Phase} (hothers : ∀ u, u ≠ t → l u = .idle) : ∀ u, u ≠ t → update l t ph u = .idle := by
  intro u hu
  rw [update_of_ne hu]
  exact hothers u hu

variable {ch : DataChoice}

lemma DataInv.reserve {r : Except String Bool} (h : DataInv s l)
    (hidle : l t = .idle) (hown : ∀ x ∈ s.reserved, x.1 = t)
    (hs : exec P t .reserve ch s = some (r, s')) :
    ∃ ph', dataContract.post (l t) .reserve r ph' ∧ DataInv s' (update l t ph') := by
  obtain ⟨htagging, hmode, hlen, haccepted, hsituation⟩ := h
  obtain ⟨hall, hres, hun, hcount⟩ := hsituation.quiet_of_idle hidle hown
  simp only [exec] at hs
  split at hs
  · cases hs
    refine ⟨l t, rfl, ?_⟩
    rw [update_eq_self]
    exact ⟨htagging, hmode, hlen, haccepted, hsituation⟩
  next c record hok =>
  cases hs
  obtain ⟨hcount', hmark, hhops, hmode'⟩ := hcount.reserve hmode hok ((t, record) :: s.reserved)
  refine ⟨.holding record, rfl, htagging.of_hops hhops, hmode', hlen, haccepted,
    .busy t record (.inl (update_self ..)) (idle_update fun u _ => hall u) ?_ hun hcount' hmark⟩
  rw [hres]

lemma DataInv.stay {send : SendState Tid} (h : DataInv s l) (hsame : SameFlow s.send.circ send.circ) :
    DataInv { s with send } (update l t (l t)) := by
  rw [update_eq_self]
  exact h.frame hsame

lemma DataState.exec_emit {data : Bool} {a : SendAct} {r : a.Resp} (h : exec P t (.emit data a) ch s = some (r, s')) :
    ∃ send', SendState.exec P t a ch.sendChoice s.send = some (r, send') ∧
      s' = if data then note t a r { s with send := send' } else { s with send := send' } := by
  obtain ⟨⟨r', send'⟩, hexec, heq⟩ := map_eq_some_iff.1 h
  cases heq
  exact ⟨send', hexec, rfl⟩

lemma DataInv.encryptOnion {cmd : LinkCmd} {dest : ℤ} {payload : Bytes}
    {r : Except String (Bytes × Option Bytes)} (h : DataInv s l)
    (hhold : l t = .holding b) (hpayload : 9 ≤ payload.length)
    (hs : exec P t (.emit true (.encryptOnion cmd dest payload)) ch s = some (r, s')) :
    ∃ ph', emitContract.post (l t) (.encryptOnion cmd dest payload) r ph' ∧ DataInv s' (update l t ph') := by
  obtain ⟨send', hexec, rfl⟩ := exec_emit hs
  have hr : (s.send.encryptOnion P t cmd dest payload) = (r, send') := Option.some.inj hexec
  have hsame : SameFlow s.send.circ send'.circ := by
    have hsame := @sameFlow_encryptOnion Tid t P s.send cmd dest payload
    rwa [hr] at hsame
  cases r with
  | error e => exact ⟨l t, rfl, h.stay hsame⟩
  | ok out =>
    obtain ⟨out, tag⟩ := out
    obtain ⟨-, -, htag⟩ := @tagging_encryptOnion P (cgoAD cmd) _ dest payload h.tagging.2
    obtain ⟨auth, hauth⟩ := htag out tag (congrArg Prod.fst hr) hpayload
    have hstay := h.frame hsame
    obtain ⟨hothers, hres, hun, hcount, hmark, -⟩ := hstay.situation.busy_of_holding (.inl hhold)
    refine ⟨.tagged b auth, ⟨b, auth, hhold, hauth, rfl⟩, hstay.tagging, hstay.mode, hstay.tagLen,
      hstay.accepted, .busy t b (.inr ?_) (idle_update hothers) hres hun ?_ hmark⟩
    · have htags : update s.tags t ((sendmeAuthTag (tag.getD [])).getD []) t = auth := by
        rw [update_self, hauth]
        rfl
      show update l t _ t = .tagged b (update s.tags t _ t) ∧ TagLen (update s.tags t _ t)
      rw [htags, update_self]
      exact ⟨rfl, tagLen_of_sendmeAuthTag hauth⟩
    · exact { hcount with }

lemma all_idle_update (hothers : ∀ u, u ≠ t → l u = .idle) : ∀ u, update l t .idle u = .idle := by
  intro u
  by_cases hu : u = t
  · rw [hu, update_self]
  · exact idle_update hothers u hu

lemma release_own (h : s.reserved = [(t, b)]) : s.release t = [] := by
  unfold DataState.release
  rw [h]
  simp

variable (h : DataInv s l)
include h

lemma DataInv.sendCell {onion : Bool} {cell : LinkCell} {r : Except String Unit} (htagged : l t = .tagged b auth)
    (hs : exec P t (.emit true (.sendCell onion cell)) ch s = some (r, s')) :
    ∃ ph', emitContract.post (l t) (.sendCell onion cell) r ph' ∧ DataInv s' (update l t ph') := by
  obtain ⟨send', hexec, rfl⟩ := exec_emit hs
  have hstay := h.frame (sameFlow_exec (a := .sendCell onion cell) trivial hexec)
  obtain ⟨hothers, hres, hun, hcount, hmark, htags⟩ :=
    hstay.situation.busy_of_holding (.inr ⟨auth, htagged⟩)
  obtain ⟨rfl, hlen⟩ := htags auth htagged
  cases r with
  | error e =>
    refine ⟨.holding b, ⟨b, _, htagged, rfl⟩, hstay.tagging, hstay.mode, hstay.tagLen, hstay.accepted, ?_⟩
    exact .busy t b (.inl (update_self ..)) (idle_update hothers) hres hun hcount hmark
  | ok u =>
    have htagLen : ∀ auth ∈ s.emitted ++ [s.tags t], TagLen auth :=
      forall_mem_append.2 ⟨h.tagLen, forall_mem_singleton.2 hlen⟩
    have hmem : (t, true) ∈ s.reserved ↔ b = true := by
      rw [show s.reserved = [(t, b)] from hres]
      simp [eq_comm]
    have hnone : s.unrecorded = [] := hun
    have hwrite := hcount.write hun (s.tags t)
    simp only [note]
    unfold noteWritten
    cases b with
    | true =>
      -- the tag of this cell is still to be recorded
      have hboundary := of_decide_eq_true hmark.symm
      rw [if_pos (hmem.2 rfl)]
      refine ⟨.written (s.tags t), ⟨true, _, htagged, rfl⟩, hstay.tagging, hstay.mode, htagLen,
        hstay.accepted, .recording t (update_self ..) (idle_update hothers) hres ?_ ?_⟩
      · show s.unrecorded ++ [s.tags t] = [s.tags t]
        rw [hnone, nil_append]
      · have hwritten := hwrite s.reserved
        rw [if_pos hboundary] at hwritten
        rw [hnone]
        exact hwritten
    | false =>
      -- nothing is to be recorded
      have hboundary := of_decide_eq_false hmark.symm
      rw [if_neg fun hin => Bool.false_ne_true (hmem.1 hin)]
      refine ⟨.idle, ⟨false, _, htagged, rfl⟩, hstay.tagging, hstay.mode, htagLen,
        hstay.accepted, .quiet (all_idle_update hothers) (release_own hres) hun ?_⟩
      have hwritten := hwrite (s.release t)
      rw [if_neg hboundary] at hwritten
      rw [hnone]
      exact hwritten

lemma DataInv.refund (hhold : l t = .holding b)
    (hs : exec P t (.emit true .refundPackageWindow) ch s = some ((), s')) :
    DataInv s' (update l t .idle) := by
  obtain ⟨send', hexec, rfl⟩ := exec_emit hs
  obtain ⟨hothers, hres, hun, hcount, -, -⟩ := h.situation.busy_of_holding (.inl hhold)
  obtain ⟨hcount', hhops, hvegas⟩ := hcount.refund (s.release t)
  cases hexec
  exact ⟨h.tagging.of_hops hhops, fun hne => h.mode (hvegas hne), h.tagLen, h.accepted,
    .quiet (all_idle_update hothers) (release_own hres) hun hcount'⟩

lemma DataInv.recordSendmeTag {tag : Option Bytes} (hwritten : l t = .written auth)
    (hauth : sendmeAuthTag (tag.getD []) = some auth)
    (hs : exec P t (.emit true (.recordSendmeTag tag)) ch s = some ((), s')) :
    DataInv s' (update l t .idle) := by
  obtain ⟨send', hexec, rfl⟩ := exec_emit hs
  obtain ⟨hothers, hres, hun, htags, hcount⟩ := h.situation.recording_of_written hwritten
  cases hexec
  have hrecord : s.send.circ.recordSendmeTag tag =
      { s.send.circ with sendmeExpected := s.send.circ.sendmeExpected ++ [auth] } := by
    unfold recordSendmeTag
    rw [hauth]
  have herase : s.unrecorded.erase (s.tags t) = [] := by
    rw [hun, htags]
    simp
  simp only [if_true, note, hrecord, herase]
  refine ⟨h.tagging, h.mode, h.tagLen, h.accepted,
    .quiet (all_idle_update hothers) (release_own hres) rfl { hcount with queue := ?_ }⟩
  rw [append_nil]
  rw [← hun]
  exact hcount.queue

lemma DataInv.processSendme (hun : s.unrecorded = [])
    (hs : exec P t .processSendme ch s = some ((), s')) : DataInv s' l := by
  cases ch with
  | send ch => cases hs
  | cwnd n =>
    obtain ⟨s'', hprocess, heq⟩ := map_eq_some_iff.1 hs
    cases heq
    have hkeep {c : Sender} (hhops : c.hops = s.send.circ.hops) (hvegas : c.vegas ≠ none → s.send.circ.vegas ≠ none)
        (hsituation : Situation { s.setCirc c with acked := s.acked + 1 } l) :
        DataInv { s.setCirc c with acked := s.acked + 1 } l :=
      ⟨h.tagging.of_hops hhops, fun hne => h.mode (hvegas hne), h.tagLen, h.accepted, hsituation⟩
    cases h.situation with
    | quiet hidle hres _ hcount =>
      obtain ⟨c, rfl, hhops, hvegas, hcount'⟩ :=
        hcount.processSendme hun h.mode h.tagLen hprocess
      exact hkeep hhops hvegas (.quiet hidle hres hun hcount')
    | busy t' b hphase hothers hres _ hcount hmark =>
      obtain ⟨c, rfl, hhops, hvegas, hcount'⟩ :=
        hcount.processSendme hun h.mode h.tagLen hprocess
      exact hkeep hhops hvegas (.busy t' b hphase hothers hres hun hcount' hmark)
    | recording t' hphase hothers hres hrecord hcount =>
      rw [hun] at hrecord
      cases hrecord

lemma DataInv.emit {a : SendAct} {r : a.Resp} (hpre : emitContract.pre (l t) a)
    (hs : exec P t (.emit true a) ch s = some (r, s')) :
    ∃ ph', emitContract.post (l t) a r ph' ∧ DataInv s' (update l t ph') := by
  cases a with
  | snapshot =>
    obtain ⟨send', hexec, rfl⟩ := exec_emit hs
    cases hexec
    exact ⟨l t, ⟨rfl, fun hnil => h.tagging.1 (eq_nil_of_length_eq_zero hnil)⟩, h.stay (.refl)⟩
  | randRead n =>
    obtain ⟨send', hexec, rfl⟩ := exec_emit hs
    refine ⟨l t, ⟨rfl, ?_⟩, h.stay (sameFlow_exec (a := .randRead n) trivial hexec)⟩
    -- A successful read has returned exactly `n` bytes.
    rintro b rfl
    cases hch : ch.sendChoice with
    | bytes b' =>
      rw [hch] at hexec
      simp only [SendState.exec] at hexec
      split at hexec
      next hlen =>
        cases hexec
        exact hlen
      next => cases hexec
    | fail e | done =>
      rw [hch] at hexec
      cases hexec
  | encryptOnion cmd dest payload =>
    obtain ⟨⟨b, hhold⟩, hpayload⟩ := hpre
    exact h.encryptOnion hhold hpayload hs
  | sendCell onion cell =>
    obtain ⟨-, b, auth, htagged⟩ := hpre
    exact h.sendCell htagged hs
  | refundPackageWindow =>
    obtain ⟨b, hhold⟩ := hpre
    exact ⟨.idle, rfl, h.refund hhold hs⟩
  | refundStreamPackageWindow i =>
    obtain ⟨send', hexec, rfl⟩ := exec_emit hs
    cases hexec
    exact ⟨l t, rfl, h.stay sameFlow_updateStream⟩
  | recordSendmeTag tag =>
    obtain ⟨auth, hwritten, hauth⟩ := hpre
    exact ⟨.idle, rfl, h.recordSendmeTag hwritten hauth hs⟩
  | hopUsesCGO i | addHop hs hop | setState state | setConnection => exact hpre.elim

/-- **Every step keeps the queue right.** -/
theorem DataInv.step {a : DataAct} {r : a.Resp} (hpre : dataContract.pre (l t) a)
    (hgood : OneAtATime s t a ch) (hs : exec P t a ch s = some (r, s')) :
    ∃ ph', dataContract.post (l t) a r ph' ∧ DataInv s' (update l t ph') := by
  have hstay {send : SendState Tid} (hsame : SameFlow s.send.circ send.circ) :=
    h.stay (t := t) hsame
  cases a with
  | reserve => exact h.reserve hpre hgood hs
  | reserveStream streamID =>
    simp only [exec] at hs
    split at hs
    · cases hs
      exact ⟨l t, rfl, hstay (.refl)⟩
    next c hok =>
    cases hs
    refine ⟨l t, rfl, hstay ?_⟩
    -- The stream window is not part of the circuit flow.
    unfold decrementStreamPackageWindow at hok
    split at hok
    · cases hok
      exact .refl
    · split at hok
      · cases hok
      · cases hok
        exact sameFlow_updateStream
  | waitForSendWake =>
    have hsame : s' = s := by
      cases ch with
      | cwnd n => cases hs; rfl
      | send ch => cases ch <;> cases hs <;> rfl
    subst hsame
    exact ⟨l t, rfl, hstay (.refl)⟩
  | processSendme =>
    refine ⟨l t, rfl, ?_⟩
    rw [update_eq_self]
    exact h.processSendme hgood hs
  | emit data a =>
    cases data with
    | false =>
      obtain ⟨send', hexec, rfl⟩ := exec_emit hs
      exact ⟨l t, rfl, hstay (sameFlow_exec hpre hexec)⟩
    | true => exact h.emit hpre hs

omit h

/-! ### Whole runs -/

/-- A circuit on which no DATA cell has been sent: the 1000 cells of the classic window, or a Vegas
window with nothing in flight. -/
structure FreshFlow (circ : Sender) (sendmeInc : ℕ) : Prop where
  tagging : circ.Tagging
  expected : circ.sendmeExpected = []
  classic : circ.vegas = none → circ.packageWindow = 1000 ∧ sendmeInc = 0
  vegas : ∀ v, circ.vegas = some v → v.inflight = 0 ∧ 0 < sendmeInc

def dataSenders (circ : Sender) (sendmeInc : ℕ) (connOpen : Bool) (calls : Tid → List DataCall) :
    Config Tid DataAct DataAct.Resp (DataState Tid) :=
  ⟨{ send := { circ, connOpen }, sendmeInc }, fun t => dataGoroutine (calls t)⟩

omit [DecidableEq Tid] in
lemma dataInv_start {circ : Sender} {sendmeInc : ℕ} (h : FreshFlow circ sendmeInc)
    {connOpen : Bool} {calls : Tid → List DataCall} :
    DataInv (dataSenders circ sendmeInc connOpen calls).shared fun _ => .idle := by
  refine ⟨h.tagging, ?_, nofun, rfl, .quiet (fun _ => rfl) rfl rfl ⟨Nat.zero_le _, ?_, ?_, ?_⟩⟩
  · intro hne
    obtain ⟨v, hv⟩ := ne_none_iff_exists'.1 hne
    exact (h.vegas v hv).2
  · intro v hv
    show v.inflight + _ * 0 = 0 + 0
    rw [(h.vegas v hv).1, Nat.mul_zero]
  · intro hv
    obtain ⟨hwindow, rfl⟩ := h.classic hv
    show (circ.packageWindow + 0 + 0) % (100 : ℤ) = 0
    rw [hwindow]
    decide
  · show circ.sendmeExpected ++ [] = []
    rw [h.expected]
    rfl

/-- **The queue holds the tags of the boundary cells**, and every SENDME of the relay is accepted,
in every run in which a cell is reserved only while no other goroutine has one reserved and no
SENDME comes between the write of a boundary cell and its recording. -/
theorem sendme_queue_follows_cells {circ : Sender} {sendmeInc : ℕ} (h : FreshFlow circ sendmeInc)
    (connOpen : Bool) (calls : Tid → List DataCall) {sched : List (Tid × DataChoice)}
    {c : Config Tid DataAct DataAct.Resp (DataState Tid)}
    (hgood : RunMeets (stepThread (exec P)) (OnAction OneAtATime)
      (dataSenders circ sendmeInc connOpen calls) sched)
    (hrun : run (stepThread (exec P)) (dataSenders circ sendmeInc connOpen calls) sched = some c) :
    c.shared.rejected = false ∧
      c.shared.send.circ.sendmeExpected ++ c.shared.unrecorded =
        (everyNth c.shared.inc c.shared.emitted).drop c.shared.acked := by
  have hstart : Guarded (fun _ => dataContract) DataInv (dataSenders circ sendmeInc connOpen calls) :=
    ⟨fun _ => .idle, dataInv_start h, fun t => meets_dataGoroutine (calls t)⟩
  obtain ⟨l, hinv, -⟩ := run_meets (fun s l t a ch r s' hi hpre hg hex => hi.step hpre hg hex) hstart hgood hrun
  refine ⟨hinv.accepted, ?_⟩
  cases hinv.situation with
  | quiet _ _ _ hcount | busy _ _ _ _ _ _ hcount _ | recording _ _ _ _ _ hcount =>
    exact hcount.queue

end Exec

end Queue

/-! ### Two senders -/

/-- SHA-1 of what the two senders below write, in either order. -/
def twoSendersSha1 (m : Bytes) : Vector UInt8 20 :=
  let value :=
    if m.length = 529 then
      if m.getD 24 0 = 1 then 0x9aa4c650ec5cc74b281d62353195bf484c39555d
      else 0x4ce43411079d71f9ca5915fe5c3a1deeb088a080
    else if m.getD 24 0 = 1 then 0x85e1bcb2c62c1b0cbf4ac3c27af9eac91da41eed
    else 0xe9107392a3feb9431b4bf627f2c2e14312724c87
  Vector.ofFn fun i => (bytesOfNat 20 value).getD i 0

def twoSenders : Primitives := { xorPrimitives with sha1 := twoSendersSha1 }

/-- A circuit of one hop with two streams, whose relay acknowledges every second cell. -/
def vegasHop : Sender :=
  { oneHop with
    vegas := some ⟨0, 124⟩
    packageWindow := 124
    streams := some [{ id := 1 }, { id := 2 }] }

inductive Sending
  | first
  | second
  | readLoop
  deriving DecidableEq

def twoDataCalls : Sending → List DataCall
  | .first => [.sendRelayCell (dataCell 1 (List.replicate 498 97)) 1]
  | .second => [.sendRelayCell (dataCell 2 (List.replicate 498 97)) 1]
  | .readLoop => [.processSendme]

/-- The window, the encryption and the write of the first sender, then of the second one. -/
def cellAfterCell : List (Sending × DataChoice) :=
  (List.replicate 6 Sending.first ++ List.replicate 7 Sending.second).map (·, .send .done) ++ [(.readLoop, .cwnd 124)]

lemma freshFlow_vegasHop : FreshFlow vegasHop 2 where
  tagging := ⟨by decide, by decide⟩
  expected := rfl
  classic := nofun
  vegas := by
    rintro v ⟨⟩
    exact ⟨rfl, by decide⟩

theorem sendme_queue_follows_two :
    ∃ c, run (stepThread (exec twoSenders)) (dataSenders vegasHop 2 true twoDataCalls)
        cellAfterCell = some c ∧ c.shared.emitted.length = 2 ∧ c.shared.acked = 1 ∧
      c.shared.rejected = false := by
  have hgood : RunMeets (stepThread (exec twoSenders)) (OnAction OneAtATime)
      (dataSenders vegasHop 2 true twoDataCalls) cellAfterCell := by
    decide +kernel
  exact exists_some_and2 (by decide +kernel) fun c hc _ _ =>
    (sendme_queue_follows_cells freshFlow_vegasHop true twoDataCalls hgood hc).1

/-- The second sender reserves after the first one, and writes its cell before it. -/
def boundaryFirst : List (Sending × DataChoice) :=
  (List.replicate 2 Sending.first ++ List.replicate 7 Sending.second ++
    List.replicate 4 Sending.first).map (·, .send .done) ++ [(.readLoop, .cwnd 124)]

/-- **The mark goes to the wrong cell**: the first cell written was reserved second, so its tag is
queued, and the SENDME for the second cell written is rejected. -/
theorem sendme_queue_misses_cell :
    ∃ c, run (stepThread (exec twoSenders)) (dataSenders vegasHop 2 true twoDataCalls)
        boundaryFirst = some c ∧ c.shared.emitted.length = 2 ∧ c.shared.rejected = true ∧
      c.shared.send.circ.sendmeExpected = c.shared.emitted.take 1 := by
  decide +kernel

end GoTor.Circuit
