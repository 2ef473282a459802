import GoTor.Circuit.ConfluxBuffer

/-!
# The order of the cells of a Conflux set

The readers put the due cells into the channel of the owner after releasing the mutex, so the
owner gets the numbers 1, 2, 3, … in every run in which no reader takes its turn while the
other is still handing cells over, and in which the owner's leg brings nothing after the set
has ended.
-/

namespace GoTor.Circuit

open GoTor.Lib GoTor.Cell Function List Leg ConfluxRecv Ends ReaderPhase ConfluxSet

/-! ### Handing over -/

def ReaderPhase.isHanding : ReaderPhase → Bool
  | .handing _ => true
  | _ => false

/-- The reader owes the owner nothing: it is neither handing cells over nor about to tear the
set down. -/
def ReaderPhase.isSettled : ReaderPhase → Bool
  | .handing _ => false
  | .closing (.teardown :: _) => false
  | _ => true

namespace ConfluxRecv

/-- A reader takes its turn in the set only while the other one is settled, and a cell is
taken up on the leg of the owner only while the set is in use, or after the owner is closed. -/
def InTurn (s : ConfluxRecv) : RecvLabel → Prop
  | .arrive l _ _ => l = .primary → (s.attached l && s.set.inUse) = true ∨ s.isOpen l = false
  | .reorder l => (s.phase l.other).isSettled = true
  | _ => True

instance (s : ConfluxRecv) : DecidablePred s.InTurn
  | .arrive l _ _ => inferInstanceAs
      (Decidable (l = .primary → (s.attached l && s.set.inUse) = true ∨ s.isOpen l = false))
  | .reorder l => inferInstanceAs (Decidable ((s.phase l.other).isSettled = true))
  | .enqueue _ _ | .closeOp _ | .callClose _ | .closer => isTrue trivial

/-- The set is closed, or a reader is about to close it. -/
def Ending (s : ConfluxRecv) : Prop :=
  s.set.closed = true ∨ ∃ l ops, s.phase l = .closing (.teardown :: ops)

/-- The cells `b` were released after the first `n`, and the owner does not have them yet. -/
inductive Owed (s : ConfluxRecv) (n : ℕ) (b : List RelayCell) : Prop
  | nothing (hb : b = []) (hnone : ∀ l, (s.phase l).isHanding = false)
  | handing (l : Leg) (hl : s.phase l = .handing (numbered (n + 1) b)) (hother : (s.phase l.other).isHanding = false)
  /-- A hand-over has failed: the set is coming to its end. -/
  | dropped (hnone : ∀ l, (s.phase l).isHanding = false) (hend : s.Ending)

/-- The owner has the cells `a`, the set has released `b` after them, and every released cell
has the number it arrived with. -/
structure HandOver (s : ConfluxRecv) (a b : List RelayCell) : Prop where
  handed : s.handed = (numbered 1 a).map (Prod.map some id)
  lastRecv : s.set.lastRecv = a.length + b.length
  owed : Owed s a.length b
  released : ∀ p ∈ numbered 1 (a ++ b), p ∈ s.arrived
  waiting : ∀ p ∈ s.set.ooo, p ∈ s.arrived
  passing : ∀ rc, s.phase .primary = .unhandled rc → s.isOpen .primary = false

/-- A step that neither releases nor hands over anything. -/
structure Calm (s s' : ConfluxRecv) : Prop where
  handed : s'.handed = s.handed
  arrived : s'.arrived = s.arrived
  lastRecv : s'.set.lastRecv = s.set.lastRecv
  ooo : s'.set.ooo = s.set.ooo
  phase : ∀ l, (s'.phase l).isHanding = true ∨ (s.phase l).isHanding = true → s'.phase l = s.phase l
  ending : s.Ending → s'.Ending
  passing : (∀ rc, s.phase .primary = .unhandled rc → s.isOpen .primary = false) →
    ∀ rc, s'.phase .primary = .unhandled rc → s'.isOpen .primary = false

variable {l : Leg}

section Calm

variable {s s' : ConfluxRecv} {a b : List RelayCell} {n : ℕ}

lemma Calm.isHanding (h : Calm s s') : (s'.phase l).isHanding = (s.phase l).isHanding := by
  cases hs : (s.phase l).isHanding with
  | true => rw [h.phase l (.inr hs), hs]
  | false =>
    by_contra hne
    have hs' : (s'.phase l).isHanding = true := by simpa using hne
    rw [h.phase l (.inl hs'), hs] at hs'
    cases hs'

lemma Owed.calm (h : Calm s s') (ho : Owed s n b) : Owed s' n b := by
  cases ho with
  | nothing hb hnone => exact .nothing hb fun l => h.isHanding.trans (hnone l)
  | handing l hl hother =>
    refine .handing l ?_ (h.isHanding.trans hother)
    rw [h.phase l (.inr (by rw [hl]; rfl)), hl]
  | dropped hnone hend =>
    exact .dropped (fun l => h.isHanding.trans (hnone l)) (h.ending hend)

lemma HandOver.calm (h : Calm s s') (ho : HandOver s a b) : HandOver s' a b where
  handed := h.handed.trans ho.handed
  lastRecv := h.lastRecv.trans ho.lastRecv
  owed := ho.owed.calm h
  released p hp := by
    rw [h.arrived]
    exact ho.released p hp
  waiting p hp := by
    rw [h.ooo] at hp
    rw [h.arrived]
    exact ho.waiting p hp
  passing := h.passing ho.passing

lemma Ends.calm (h : Ends s s') : Calm s s' where
  handed := h.handed
  arrived := h.arrived
  lastRecv := h.lastRecv
  ooo := h.ooo
  phase l _ := by rw [h.phase]
  ending hend := by
    rcases hend with hc | ⟨l, ops, hl⟩
    · exact .inl (h.closed hc)
    · exact .inr ⟨l, ops, by rw [h.phase, hl]⟩
  passing hpass rc hrc := by
    rw [h.phase] at hrc
    exact h.isOpen (hpass rc hrc)

lemma Ends.moveOn {p : ReaderPhase} (h : Ends s s')
    (hold : (s.phase l).isSettled = true ∨ s'.set.closed = true ∧ (s.phase l).isHanding = false)
    (hnew : p.isHanding = false)
    (hpass : ∀ rc, p = .unhandled rc → l = .primary → s'.isOpen .primary = false) :
    Calm s (s'.setPhase l p) where
  handed := h.handed
  arrived := h.arrived
  lastRecv := h.lastRecv
  ooo := h.ooo
  phase l' hl' := by
    rw [setPhase_phase, h.phase] at *
    rcases eq_or_ne l' l with rfl | hne
    · have hnot : (s.phase l').isHanding = false := by
        rcases hold with hold | hold
        · cases hp : s.phase l' <;> simp_all [isSettled, isHanding]
        · exact hold.2
      rw [update_self, hnew, hnot] at hl'
      simp at hl'
    · rw [update_of_ne hne]
  ending hend := by
    rcases hend with hc | ⟨l', ops, hl'⟩
    · exact .inl (h.closed hc)
    rcases hold with hold | hold
    · refine .inr ⟨l', ops, ?_⟩
      have hne : l' ≠ l := by
        rintro rfl
        rw [hl'] at hold
        cases hold
      rw [setPhase_phase, update_of_ne hne, h.phase, hl']
    · exact .inl hold.1
  passing hprev rc hrc := by
    rw [setPhase_phase, h.phase] at hrc
    rcases eq_or_ne primary l with rfl | hne
    · rw [update_self] at hrc
      exact hpass rc hrc rfl
    · rw [update_of_ne hne] at hrc
      exact h.isOpen (hprev rc hrc)

lemma Ends.refl : Ends s s := ⟨rfl, rfl, rfl, rfl, rfl, id, id⟩

end Calm

/-! ### One step -/

section Step

variable {s s' : ConfluxRecv} {a b : List RelayCell} {lbl : RecvLabel}

lemma HandOver.owed_nil {rc : RelayCell} (ho : HandOver s a b)
    (hl : s.phase l = .multiplexed rc) (hother : (s.phase l.other).isSettled = true)
    (hopen : s.set.closed = false) : b = [] ∧ ∀ l, (s.phase l).isHanding = false := by
  cases ho.owed with
  | nothing hb hnone => exact ⟨hb, hnone⟩
  | handing l' hl' _ =>
    rcases eq_or_other l l' with rfl | rfl
    · rw [hl] at hl'
      cases hl'
    · rw [hl'] at hother
      cases hother
  | dropped _ hend =>
    rcases hend with hc | ⟨l', ops, hl'⟩
    · rw [hopen] at hc
      cases hc
    · rcases eq_or_other l l' with rfl | rfl
      · rw [hl] at hl'
        cases hl'
      · rw [hl'] at hother
        cases hother

lemma owed_ofDue {n : ℕ} (hl : s.phase l = .ofDue (numbered (n + 1) b))
    (hother : (s.phase l.other).isHanding = false) : Owed s n b := by
  cases b with
  | nil =>
    refine .nothing rfl fun l' => ?_
    rcases eq_or_other l l' with rfl | rfl
    · rw [hl]
      rfl
    · exact hother
  | cons c b => exact .handing l hl hother

lemma HandOver.accept {rc : RelayCell} {set : ConfluxSet} {due : List RelayCell}
    (ho : HandOver s a b) (hbuf : s.set.Buffered) (hphase : s.phase l = .multiplexed rc)
    (hother : (s.phase l.other).isSettled = true) (hset : s.set.reorder l rc = (set, .ok due)) :
    HandOver
      { s.setPhase l (.ofDue (numbered (s.set.lastRecv + 1) due)) with
        set := set
        arrived := s.arrived ++ [((s.set.legs l).lastRecv + 1, rc)] } a due := by
  obtain ⟨hopen, hre⟩ := reorder_ok hbuf hset
  obtain ⟨rfl, hnone⟩ := ho.owed_nil hphase hother hopen
  have hlast : s.set.lastRecv = a.length := by simpa using ho.lastRecv
  -- everything released or still waiting was waiting before, or is the cell itself
  have hfrom (p : ℕ × RelayCell) (hp : p ∈ numbered (s.set.lastRecv + 1) due ++ set.ooo) :
      p ∈ s.arrived ++ [((s.set.legs l).lastRecv + 1, rc)] := by
    rcases mem_cons.1 (hre.perm.mem_iff.2 hp) with rfl | hp
    · simp
    · exact mem_append_left _ (ho.waiting p hp)
  constructor
  · exact ho.handed
  · exact hre.lastRecv.trans (by rw [hlast])
  · rw [hlast]
    refine owed_ofDue (l := l) ?_ ?_
    · exact update_self ..
    · show (update s.phase l _ l.other).isHanding = false
      rw [update_of_ne l.other_ne]
      exact hnone _
  · intro p hp
    rw [numbered_append, mem_append] at hp
    rcases hp with hp | hp
    · exact mem_append_left _ (ho.released p (by simpa using hp))
    · refine hfrom p (mem_append_left _ ?_)
      rwa [hlast, Nat.add_comm]
  · exact fun p hp => hfrom p (mem_append_right _ hp)
  · intro rc' hrc'
    rcases eq_or_ne primary l with rfl | hne
    · change update s.phase primary _ primary = _ at hrc'
      cases hd : numbered (s.set.lastRecv + 1) due <;> rw [hd] at hrc' <;> cases hrc'
    · change update s.phase l _ primary = _ at hrc'
      rw [update_of_ne hne] at hrc'
      exact ho.passing rc' hrc'

lemma Owed.of_handing {n : ℕ} {due : List (ℕ × RelayCell)} (h : Owed s n b) (hphase : s.phase l = .handing due) :
    due = numbered (n + 1) b ∧ (s.phase l.other).isHanding = false := by
  have hhanding : (s.phase l).isHanding = true := by rw [hphase]; rfl
  cases h with
  | nothing _ hnone | dropped hnone _ => simp [hnone l] at hhanding
  | handing l' hl' hother =>
    obtain rfl : l = l' := by
      rcases eq_or_other l' l with h | rfl
      · exact h
      · simp [hother] at hhanding
    exact ⟨handing.inj (hphase.symm.trans hl'), hother⟩

variable {p : ℕ × RelayCell} {rest : List (ℕ × RelayCell)}

lemma HandOver.hand (ho : HandOver s a b) (hphase : s.phase l = .handing (p :: rest)) : ∃ c b', b = c :: b' ∧
      HandOver { s.setPhase l (.ofDue rest) with handed := s.handed ++ [(some p.1, p.2)] } (a ++ [c]) b' := by
  obtain ⟨hdue, hother⟩ := ho.owed.of_handing hphase
  cases b with
  | nil => cases hdue
  | cons c b =>
    cases hdue
    refine ⟨c, b, rfl, ?_⟩
    constructor
    · show s.handed ++ _ = _
      rw [ho.handed, numbered_append, map_append, Nat.add_comm]
      rfl
    · refine ho.lastRecv.trans ?_
      simp only [length_append, length_cons, length_nil]
      omega
    · rw [length_append]
      refine owed_ofDue (l := l) (update_self ..) ?_
      show (update s.phase l _ l.other).isHanding = false
      rw [update_of_ne l.other_ne]
      exact hother
    · rw [append_assoc]
      exact ho.released
    · exact ho.waiting
    · intro rc hrc
      rcases eq_or_ne primary l with rfl | hne
      · change update s.phase primary _ primary = _ at hrc
        cases b <;> cases hrc
      · change update s.phase l _ primary = _ at hrc
        rw [update_of_ne hne] at hrc
        exact ho.passing rc hrc

lemma HandOver.drop {e : String} (ho : HandOver s a b) (hphase : s.phase l = .handing (p :: rest)) :
    HandOver (s.failAndClose l e) a b := by
  have hother := (ho.owed.of_handing hphase).2
  refine { ho with owed := .dropped (fun l' => ?_) ?_, passing := fun rc hrc => ?_ }
  · rcases eq_or_other l l' with rfl | rfl
    · rw [failAndClose_phase, update_self]
      rfl
    · rw [failAndClose_phase, update_of_ne l.other_ne]
      exact hother
  · exact .inr ⟨l, [], by rw [failAndClose_phase, update_self]⟩
  · rw [failAndClose_phase] at hrc
    rcases eq_or_ne primary l with rfl | hne
    · rw [update_self] at hrc
      cases hrc
    · rw [update_of_ne hne] at hrc
      exact ho.passing rc hrc

lemma Moves.handOver (h : Moves s lbl s') (hgood : s.InTurn lbl) (hbuf : s.set.Buffered)
    (ho : HandOver s a b) : ∃ a' b', HandOver s' a' b' := by
  cases h with
  | switches hidle hset =>
    obtain ⟨rel, -, rfl⟩ := onSwitch_ok hset
    exact ⟨a, b, ho.calm (calm (s := s) ⟨rfl, rfl, rfl, rfl, rfl, id, id⟩)⟩
  | @refuses l rc hopIdx e hidle =>
    have hends : Ends s { s with errors := s.errors ++ [e] } :=
      ⟨rfl, rfl, rfl, rfl, rfl, id, id⟩
    have hcalm : Calm s (s.failAndClose l e) :=
      hends.moveOn (.inl (by rw [hidle]; rfl)) rfl (by simp)
    exact ⟨a, b, ho.calm hcalm⟩
  | takes hidle =>
    exact ⟨a, b, ho.calm (refl.moveOn (.inl (by rw [hidle]; rfl)) rfl (by simp))⟩
  | misses hidle huse =>
    refine ⟨a, b, ho.calm (refl.moveOn (.inl (by rw [hidle]; rfl)) rfl ?_)⟩
    rintro rc - rfl
    -- a cell passes the set by only once it is closed
    rcases hgood rfl with hin | hclosed
    · rw [huse] at hin
      cases hin
    · exact hclosed
  | accepts hphase hset => exact ⟨a, _, ho.accept hbuf hphase hgood hset⟩
  | @rejects l rc set e hphase hset =>
    -- an error leaves the numbers as they are
    obtain ⟨hlast, hooo, hclosed⟩ := reorder_error hset
    have hends : Ends s { s with set := set, errors := s.errors ++ [e] } :=
      ⟨rfl, rfl, rfl, hlast, hooo, fun h => hclosed.trans h, id⟩
    have hcalm : Calm s ({ s with set := set }.failAndClose l e) :=
      hends.moveOn (.inl (by rw [hphase]; rfl)) rfl (by simp)
    exact ⟨a, b, ho.calm hcalm⟩
  | hands hphase =>
    obtain ⟨c, b', -, ho'⟩ := ho.hand hphase
    exact ⟨_, b', ho'⟩
  | drops hphase hlate => exact ⟨a, b, ho.drop hphase⟩
  | passes hphase hopen =>
    -- the channel would have to be open
    rw [ho.passing _ hphase] at hopen
    cases hopen
  | discards hphase | closed hphase =>
    exact ⟨a, b, ho.calm (refl.moveOn (.inl (by rw [hphase]; rfl)) rfl (by simp))⟩
  | @closes l op ops hphase =>
    refine ⟨a, b, ho.calm ((s.close_ends op).moveOn ?_ rfl (by simp))⟩
    cases op with
    | teardown => exact .inr ⟨rfl, by rw [hphase]; rfl⟩
    | detach | close | onLegClosed => exact .inl (by rw [hphase]; rfl)
  | calls l => exact ⟨a, b, ho.calm (calm (s := s) ⟨rfl, rfl, rfl, rfl, rfl, id, id⟩)⟩
  | @closesOther op ops hops =>
    have he := s.close_ends op
    exact ⟨a, b, ho.calm (calm
      { he with })⟩

end Step

end ConfluxRecv

lemma FreshRecv.handOver {s : ConfluxRecv} (h : FreshRecv s) : s.HandOver [] [] where
  handed := h.handed
  lastRecv := h.lastRecv
  owed := .nothing rfl fun l => by rw [h.phase]; rfl
  released := by simp
  waiting := by simp [h.ooo]
  passing := by simp [h.phase]

/-- **What the peer can do to a Conflux set.**  In every run the out-of-order buffer holds at
most its limit of cells, all beyond the next number; and where the readers take turns, the
owner gets the numbers 1, 2, 3, …, each with the cell that arrived under it. -/
theorem conflux_numbers_in_order (s s' : ConfluxRecv) (ls : List RecvLabel) (hs : FreshRecv s)
    (hrun : run step s ls = some s') :
    (s'.set.ooo.length ≤ confluxOOOLimit ∧ ∀ p ∈ s'.set.ooo, s'.set.lastRecv + 1 < p.1) ∧
      (RunMeets step ConfluxRecv.InTurn s ls →
        ∃ cells, s'.handed = (numbered 1 cells).map (Prod.map some id) ∧ ∀ p ∈ numbered 1 cells, p ∈ s'.arrived) := by
  have hbuf := buffered_of_run hs.buffered hrun
  refine ⟨⟨hbuf.room, hbuf.ahead.beyond⟩, fun hgood => ?_⟩
  have hstep (s1 : ConfluxRecv) (lbl : RecvLabel) (s2 : ConfluxRecv)
      (h : s1.set.Buffered ∧ ∃ a b, s1.HandOver a b) (hg : s1.InTurn lbl)
      (h1 : s1.step lbl = some s2) : s2.set.Buffered ∧ ∃ a b, s2.HandOver a b := by
    obtain ⟨hbuf, a, b, ho⟩ := h
    have hm := step_moves h1
    exact ⟨hm.buffered hbuf, hm.handOver hg hbuf ho⟩
  obtain ⟨-, a, b, ho⟩ := run_inv hstep ⟨hs.buffered, [], [], hs.handOver⟩ hgood hrun
  refine ⟨a, ho.handed, fun p hp => ho.released p ?_⟩
  rw [numbered_append]
  exact mem_append_left _ hp

/-! ### Two cells, one on each leg -/

def linkedSet : ConfluxRecv where
  set := { nonce := List.replicate 32 0, linked := true }

lemma freshRecv_linkedSet : FreshRecv linkedSet := by
  constructor <;> intros <;> rfl

def oneByte (x : UInt8) : RelayCell :=
  { command := relayData, streamID := 1, length := 1, data := [x] }

def switchByOne : RelayCell :=
  { command := relayConfluxSwitch, streamID := 0, length := 4, data := [0, 0, 0, 1] }

/-- The second cell overtakes the first one on its leg and waits in the buffer. -/
def secondFirst : List RecvLabel :=
  [.arrive .secondary switchByOne 2, .arrive .secondary (oneByte 2) 2, .reorder .secondary,
    .arrive .primary (oneByte 1) 2, .reorder .primary,
    .enqueue .primary true, .enqueue .primary true]

theorem conflux_numbers_in_order_two :
    FreshRecv linkedSet ∧ RunMeets step ConfluxRecv.InTurn linkedSet secondFirst ∧
      ∃ s', run step linkedSet secondFirst = some s' ∧
        s'.handed = [(some 1, oneByte 1), (some 2, oneByte 2)] ∧
        (s'.set.ooo.length ≤ confluxOOOLimit ∧ ∀ p ∈ s'.set.ooo, s'.set.lastRecv + 1 < p.1) ∧
        ∃ cells, s'.handed = (numbered 1 cells).map (Prod.map some id) ∧ ∀ p ∈ numbered 1 cells, p ∈ s'.arrived := by
  have hgood : RunMeets step ConfluxRecv.InTurn linkedSet secondFirst := by
    decide +kernel
  refine ⟨freshRecv_linkedSet, hgood, exists_some_and (by decide +kernel) fun s' hrun _ => ?_⟩
  obtain ⟨hbuf, horder⟩ :=
    conflux_numbers_in_order linkedSet s' secondFirst freshRecv_linkedSet hrun
  exact ⟨hbuf, horder hgood⟩

/-- The reader of the first leg has released the mutex and still holds cell 1 when the reader
of the second leg finds cell 2 due and is faster at the channel of the owner. -/
def bothDue : List RecvLabel :=
  [.arrive .primary (oneByte 1) 2, .reorder .primary,
    .arrive .secondary switchByOne 2, .arrive .secondary (oneByte 2) 2, .reorder .secondary,
    .enqueue .secondary true, .enqueue .primary true]

theorem conflux_hands_two_before_one :
    FreshRecv linkedSet ∧
      ∃ s', run step linkedSet bothDue = some s' ∧
        s'.arrived = [(1, oneByte 1), (2, oneByte 2)] ∧ s'.errors = [] ∧
        s'.handed = [(some 2, oneByte 2), (some 1, oneByte 1)] :=
  ⟨freshRecv_linkedSet, by decide +kernel⟩

end GoTor.Circuit
