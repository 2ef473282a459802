import GoTor.Circuit.ConfluxTransit

/-!
# A Conflux set with an honest peer

The steps of the receiver keep the invariant of the cells in transit: a cell is never old and
never finds its slot taken, so as long as the limits of the receiver are not reached the owner
gets what was sent, in the order in which it was sent.
-/

namespace GoTor.Circuit

open GoTor.Lib GoTor.Cell Function List ConfluxNet ConfluxSet Leg ConfluxRecv.Ends

variable {s : ConfluxNet}

namespace ConfluxNet

/-! ### Receiving -/

/-- What the limits of the receiver and its readers ask of a step: a SWITCH comes on a leg that
is not ahead, and not beyond the limit; a cell is due or finds room in the buffer, while the
other reader hands nothing over; the owner takes its cells in time. -/
def Orderly (s : ConfluxNet) : NetLabel → Prop
  | .arrive l => ∀ rc ∈ (s.wire l).head?, isSwitch rc = true → s.recv.set.uniqueRecvLeader ≠ some l ∧
        (s.recv.set.legs l).lastRecv + relOf rc ≤ s.recv.set.lastRecv + confluxOOOLimit + 1
  | .reorder l => (s.recv.phase l.other).isSettled = true ∧ ((s.recv.set.legs l).lastRecv = s.recv.set.lastRecv ∨
        s.recv.set.ooo.length < confluxOOOLimit ∧
          (s.recv.set.legs l).lastRecv + 1 ≤ s.recv.set.lastRecv + confluxOOOLimit + 1)
  | .enqueue _ inTime => inTime = true
  | _ => True

instance (s : ConfluxNet) : DecidablePred s.Orderly
  | .arrive l => inferInstanceAs (Decidable (∀ rc ∈ (s.wire l).head?, isSwitch rc = true →
      s.recv.set.uniqueRecvLeader ≠ some l ∧
        (s.recv.set.legs l).lastRecv + relOf rc ≤ s.recv.set.lastRecv + confluxOOOLimit + 1))
  | .reorder l => inferInstanceAs (Decidable ((s.recv.phase l.other).isSettled = true ∧
      ((s.recv.set.legs l).lastRecv = s.recv.set.lastRecv ∨ s.recv.set.ooo.length < confluxOOOLimit ∧
          (s.recv.set.legs l).lastRecv + 1 ≤ s.recv.set.lastRecv + confluxOOOLimit + 1)))
  | .enqueue _ inTime => inferInstanceAs (Decidable (inTime = true))
  | .send _ _ | .finish _ | .closeOp _ => isTrue trivial

variable {s' : ConfluxNet}

section Receive

variable {s : ConfluxNet} {a b : List RelayCell} {l : Leg} {rc : RelayCell} {rest : List RelayCell}

/-- A SWITCH never leads a leg behind what has been released: the cell that follows it has not
been, or its leg is up to date. -/
lemma Honest.switch_advances (h : s.Honest a b) (hidle : s.recv.phase l = .idle)
    (hwire : s.wire l = rc :: rest) (hsw : isSwitch rc = true) :
    s.recv.set.lastRecv ≤ (s.recv.set.legs l).lastRecv + relOf rc := by
  have htransit : s.transit l = rc :: rest := by rw [transit, hidle, hwire]; rfl
  have hcount := (h.wire l).count
  rw [htransit, countAfter_switch hsw] at hcount
  cases rest with
  | nil =>
    obtain ⟨hleg, -⟩ := (h.wire l).last rc (by rw [hwire]; rfl) hsw
    rw [countAfter_nil] at hcount
    rw [hcount, hleg, h.sending.lastSent]
    exact h.receiving.lastRecv_le
  | cons rc' rest =>
    have hchain := (h.wire l).chain
    rw [hwire, isChain_cons_cons] at hchain
    have hnext : ((s.recv.set.legs l).lastRecv + relOf rc + 1, rc') ∈ s.pool l := by
      refine mem_append_left _ ?_
      rw [numbersOf, htransit, numbersOn_switch hsw, numbersOn_cell (hchain.1 hsw)]
      exact mem_cons_self
    have := h.lt_of_mem_pool hnext
    omega

structure SameLeg (s s' : ConfluxNet) (l : Leg) : Prop where
  sender : s'.sender = s.sender
  wire : s'.wire l = s.wire l
  phase : (s'.recv.phase l).pending = (s.recv.phase l).pending
  leg : (s'.recv.set.legs l).lastRecv = (s.recv.set.legs l).lastRecv

lemma SameLeg.transit (h : SameLeg s s' l) : s'.transit l = s.transit l := by
  rw [ConfluxNet.transit, ConfluxNet.transit, h.phase, h.wire]

lemma SameLeg.numbersOf (h : SameLeg s s' l) : s'.numbersOf l = s.numbersOf l := by
  rw [ConfluxNet.numbersOf, ConfluxNet.numbersOf, h.transit, h.leg]

lemma OnWire.same (h : s.OnWire l) (hs : SameLeg s s' l) : s'.OnWire l where
  cells := hs.wire ▸ h.cells
  chain := hs.wire ▸ h.chain
  last := by
    rw [hs.wire, hs.sender]
    exact h.last
  pending := hs.phase ▸ h.pending
  count := by
    rw [hs.transit, hs.leg, hs.sender]
    exact h.count

lemma OnWire.tail (h : s.OnWire l) (hwire : s.wire l = rc :: rest) : (∀ rc' ∈ rest, SentCell rc') ∧
      rest.IsChain (fun x y => isSwitch x = true → isSwitch y = false) ∧
      ∀ rc', rest.getLast? = some rc' → isSwitch rc' = true → s.sender.legSent l = s.sender.lastSent ∧
          ((∃ rc', s.sender.switched = some (l, rc')) ∨ s.sender.closed = true) := by
  refine ⟨fun rc' hrc' => h.cells rc' (hwire ▸ mem_cons_of_mem _ hrc'),
    (hwire ▸ h.chain).tail, fun rc' hlast hsw => h.last rc' ?_ hsw⟩
  rw [hwire, List.getLast?_cons, hlast]
  rfl

lemma Receiving.inUse (h : s.Receiving a b) : s.recv.set.inUse = true := by
  simp [ConfluxSet.inUse, h.linked, h.notClosed]

variable (h : s.Honest a b)
include h

lemma Honest.takeSwitch (hwire : s.wire l = rc :: rest) (hidle : s.recv.phase l = .idle) (hsw : isSwitch rc = true) :
    { s with
      recv := { s.recv with
        set := s.recv.set.setLeg l
          { s.recv.set.legs l with lastRecv := (s.recv.set.legs l).lastRecv + relOf rc } }
      wire := update s.wire l rest }.Honest a b := by
  set s' : ConfluxNet := { s with
      recv := { s.recv with
        set := s.recv.set.setLeg l
          { s.recv.set.legs l with lastRecv := (s.recv.set.legs l).lastRecv + relOf rc } }
      wire := update s.wire l rest }
  have hr := h.receiving
  have hcalm : ConfluxRecv.Calm s.recv s'.recv :=
    calm ⟨rfl, rfl, rfl, rfl, rfl, id, id⟩
  have hwl : s'.wire l = rest := update_self ..
  have hll : (s'.recv.set.legs l).lastRecv = (s.recv.set.legs l).lastRecv + relOf rc := by
    show (update s.recv.set.legs l _ l).lastRecv = _
    rw [update_self]
  have hlo : s'.recv.set.legs l.other = s.recv.set.legs l.other :=
    update_of_ne l.other_ne ..
  have hother : SameLeg s s' l.other :=
    ⟨rfl, update_of_ne l.other_ne .., rfl, by rw [hlo]⟩
  have htl : s.transit l = rc :: rest := by rw [transit, hidle, hwire]; rfl
  have htl' : s'.transit l = rest := by
    show (s.recv.phase l).pending ++ s'.wire l = rest
    rw [hidle, hwl]
    rfl
  have hw := h.wire l
  refine ⟨{ hr with buffered := ⟨hr.buffered.ahead, hr.buffered.room⟩, handOver := hr.handOver.calm hcalm },
    { h.sending with }, fun l' => ?_,
    Honest.pool_of_leg l ?_⟩
  · rcases eq_or_other l l' with rfl | rfl
    · have htail := hw.tail hwire
      constructor
      · rw [hwl]
        exact htail.1
      · rw [hwl]
        exact htail.2.1
      · rw [hwl]
        exact htail.2.2
      · exact hw.pending
      · -- the leg now counts what the SWITCH said
        rw [htl', hll, ← countAfter_switch hsw, ← htl]
        exact hw.count
    · exact (h.wire l.other).same hother
  · -- no cell changes its number
    have hnum : s'.numbersOf l = s.numbersOf l := by
      rw [numbersOf, numbersOf, htl', hll, htl, numbersOn_switch hsw]
    rw [pool_congr hnum hother.numbersOf rfl]
    exact h.pool l

lemma Honest.takeCell (hwire : s.wire l = rc :: rest) (hidle : s.recv.phase l = .idle) (hcell : isSwitch rc = false) :
    { s with
      recv := s.recv.setPhase l (.multiplexed rc)
      wire := update s.wire l rest }.Honest a b := by
  set s' : ConfluxNet := { s with
      recv := s.recv.setPhase l (.multiplexed rc)
      wire := update s.wire l rest }
  have hr := h.receiving
  have hcalm : ConfluxRecv.Calm s.recv s'.recv :=
    refl.moveOn (.inl (by rw [hidle]; rfl)) rfl (by simp)
  have hwl : s'.wire l = rest := update_self ..
  have hpl : s'.recv.phase l = .multiplexed rc := update_self ..
  have hpo : s'.recv.phase l.other = s.recv.phase l.other := update_of_ne l.other_ne ..
  have hother : SameLeg s s' l.other :=
    ⟨rfl, update_of_ne l.other_ne .., by rw [hpo], rfl⟩
  -- the cell stays in transit: it is in the hands of the reader
  have htl : s'.transit l = s.transit l := by
    rw [transit, transit, hpl, hwl, hidle, hwire]
    rfl
  have hw := h.wire l
  refine ⟨{ hr with handOver := hr.handOver.calm hcalm, working := fun l' => ?_ },
    { h.sending with }, fun l' => ?_,
    Honest.pool_of_leg l ?_⟩
  · rcases eq_or_other l l' with rfl | rfl
    · rw [hpl]
      rfl
    · rw [hpo]
      exact hr.working _
  · rcases eq_or_other l l' with rfl | rfl
    · have htail := hw.tail hwire
      constructor
      · rw [hwl]
        exact htail.1
      · rw [hwl]
        exact htail.2.1
      · rw [hwl]
        exact htail.2.2
      · rw [hpl]
        intro rc' hrc'
        rw [mem_singleton.1 hrc']
        exact hcell
      · rw [htl]
        exact hw.count
    · exact (h.wire l.other).same hother
  · have hnum : s'.numbersOf l = s.numbersOf l := by
      rw [numbersOf, htl]
      rfl
    rw [pool_congr hnum hother.numbersOf rfl]
    exact h.pool l

variable (hphase : s.recv.phase l = .multiplexed rc)
include hphase

lemma Honest.numbersOf_pending :
    s.numbersOf l = ((s.recv.set.legs l).lastRecv + 1, rc) ::
      numbersOn ((s.recv.set.legs l).lastRecv + 1) (s.wire l) := by
  have hcell := (h.wire l).pending rc (by rw [hphase]; exact mem_singleton_self rc)
  rw [numbersOf, transit, hphase]
  exact numbersOn_cell hcell

lemma Honest.slot_free : s.recv.set.ooo.lookup ((s.recv.set.legs l).lastRecv + 1) = none := by
  have hnodup := nodup_fst_numbered (s.recv.set.lastRecv + 1) (s.sent.drop s.recv.set.lastRecv)
  rw [← ((h.pool l).map Prod.fst).nodup_iff, ConfluxNet.pool, h.numbersOf_pending hphase,
    cons_append, map_cons, nodup_cons] at hnodup
  refine lookup_eq_none_iff.2 fun p hp => ?_
  have hmem : p ∈ numbersOn ((s.recv.set.legs l).lastRecv + 1) (s.wire l) ++
      (s.numbersOf l.other ++ s.recv.set.ooo) :=
    mem_append_right _ (mem_append_right _ hp)
  have hkey := mem_map_of_mem (f := Prod.fst) hmem
  have hne : (s.recv.set.legs l).lastRecv + 1 ≠ p.1 := fun he => hnodup.1 (by rwa [← he] at hkey)
  simpa using hne

lemma Honest.accept (hgood : s.Orderly (.reorder l)) : ∃ b', { s with recv := s.recv.reorder l rc }.Honest a b' := by
  have hr := h.receiving
  -- the cell has not been released
  have hnew : s.recv.set.lastRecv ≤ (s.recv.set.legs l).lastRecv := by
    have hmem : ((s.recv.set.legs l).lastRecv + 1, rc) ∈ s.pool l := by
      refine mem_append_left _ ?_
      rw [h.numbersOf_pending hphase]
      exact mem_cons_self
    exact Nat.le_of_lt_succ (h.lt_of_mem_pool hmem)
  obtain ⟨set, due, hset⟩ :=
    reorder_of_room hr.notClosed hnew hgood.2 (h.slot_free hphase)
  have hre := (reorder_ok hr.buffered hset).2
  obtain ⟨rfl, -⟩ := hr.handOver.owed_nil hphase hgood.1 hr.notClosed
  have hrecv : s.recv.reorder l rc =
      { s.recv.setPhase l (.ofDue (numbered (s.recv.set.lastRecv + 1) due)) with
        set := set
        arrived := s.recv.arrived ++ [((s.recv.set.legs l).lastRecv + 1, rc)] } := by
    unfold ConfluxRecv.reorder
    rw [hset]
  refine ⟨due, ?_⟩
  rw [hrecv]
  set s' : ConfluxNet := { s with recv :=
      { s.recv.setPhase l (.ofDue (numbered (s.recv.set.lastRecv + 1) due)) with
        set := set
        arrived := s.recv.arrived ++ [((s.recv.set.legs l).lastRecv + 1, rc)] } }
  have hpl : s'.recv.phase l = .ofDue (numbered (s.recv.set.lastRecv + 1) due) :=
    update_self ..
  have hpo : s'.recv.phase l.other = s.recv.phase l.other := update_of_ne l.other_ne ..
  have hpend : (s'.recv.phase l).pending = [] := by
    rw [hpl]
    cases due <;> rfl
  have hother : SameLeg s s' l.other :=
    ⟨rfl, rfl, by rw [hpo], by rw [hre.legs.2 _ l.other_ne]⟩
  have htl : s'.transit l = s.wire l := by
    rw [transit, hpend]
    rfl
  have hnum : s'.numbersOf l = numbersOn ((s.recv.set.legs l).lastRecv + 1) (s.wire l) := by
    rw [numbersOf, htl, hre.legs.1]
  -- the released cells leave the pool, and with them the first of the cells not yet released
  have hpool : (numbered (s.recv.set.lastRecv + 1) due ++ s'.pool l).Perm
      (numbered (s.recv.set.lastRecv + 1) (s.sent.drop s.recv.set.lastRecv)) := by
    refine List.Perm.trans ?_ (h.pool l)
    rw [ConfluxNet.pool, ConfluxNet.pool, h.numbersOf_pending hphase, hnum, hother.numbersOf]
    have hex := perm_exchange hre.perm
      (numbersOn ((s.recv.set.legs l).lastRecv + 1) (s.wire l) ++ s.numbersOf l.other)
    simp only [append_assoc] at hex
    exact hex
  obtain ⟨rest, hrest⟩ : due <+: s.sent.drop s.recv.set.lastRecv :=
    numbered_starts fun p hp => hpool.mem_iff.1 (mem_append_left _ hp)
  have hlast : s'.recv.set.lastRecv = s.recv.set.lastRecv + due.length := hre.lastRecv
  refine ⟨⟨hre.buffered hr.buffered, hr.handOver.accept hr.buffered hphase hgood.1 hset, ?_,
    hre.linked.trans hr.linked, hre.closed.trans hr.notClosed, hr.attached, hr.isOpen, hr.hops,
    hr.errors, fun l' => ?_⟩,
    { h.sending with }, fun l' => ?_,
    Honest.pool_of_leg l ?_⟩
  · -- what is released is the start of what was sent
    refine ⟨rest, ?_⟩
    have ha : a = s.sent.take s.recv.set.lastRecv := by
      have hlen : s.recv.set.lastRecv = a.length := by simpa using hr.length
      rw [hlen]
      exact prefix_iff_eq_take.1 (by simpa using hr.released)
    rw [append_assoc, hrest, ha, take_append_drop]
  · rcases eq_or_other l l' with rfl | rfl
    · rw [hpl]
      cases due <;> rfl
    · rw [hpo]
      exact hr.working _
  · rcases eq_or_other l l' with rfl | rfl
    · have hw := h.wire l'
      refine ⟨hw.cells, hw.chain, hw.last, by simp [hpend], ?_⟩
      have hcell := hw.pending rc (by rw [hphase]; exact mem_singleton_self rc)
      rw [htl, hre.legs.1, ← countAfter_cell hcell]
      have hcount := hw.count
      rwa [transit, hphase] at hcount
    · exact (h.wire l.other).same hother
  · rw [hlast, ← drop_drop, ← hrest, drop_left]
    rw [← hrest, numbered_append] at hpool
    rw [Nat.add_right_comm]
    exact (perm_append_left_iff _).1 hpool

omit hphase

lemma Honest.hand {p : ℕ × RelayCell} {due : List (ℕ × RelayCell)} (hphase : s.recv.phase l = .handing (p :: due)) :
    ∃ a' b', { s with recv := s.recv.hand l true p due }.Honest a' b' := by
  have hr := h.receiving
  obtain ⟨c, b', rfl, hover⟩ := hr.handOver.hand hphase
  refine ⟨a ++ [c], b', ?_⟩
  have hrecv : s.recv.hand l true p due =
      { s.recv.setPhase l (.ofDue due) with handed := s.recv.handed ++ [(some p.1, p.2)] } := by
    simp [ConfluxRecv.hand, hr.isOpen]
  rw [hrecv]
  set s' : ConfluxNet := { s with recv :=
      { s.recv.setPhase l (.ofDue due) with handed := s.recv.handed ++ [(some p.1, p.2)] } }
  have hpl : s'.recv.phase l = .ofDue due := update_self ..
  have hpo : s'.recv.phase l.other = s.recv.phase l.other := update_of_ne l.other_ne ..
  have hsame (l' : Leg) : SameLeg s s' l' := by
    refine ⟨rfl, rfl, ?_, rfl⟩
    rcases eq_or_other l l' with rfl | rfl
    · rw [hpl, hphase]
      cases due <;> rfl
    · rw [hpo]
  refine ⟨{ hr with handOver := hover, released := ?_, working := fun l' => ?_ },
    { h.sending with },
    fun l' => (h.wire l').same (hsame l'), fun l' => ?_⟩
  · rw [append_assoc]
    exact hr.released
  · rcases eq_or_other l l' with rfl | rfl
    · rw [hpl]
      cases due <;> rfl
    · rw [hpo]
      exact hr.working _
  · rw [pool_congr (hsame l').numbersOf (hsame l'.other).numbersOf rfl]
    exact h.pool l'

lemma Honest.arrive (hwire : s.wire l = rc :: rest) (hidle : s.recv.phase l = .idle) (hgood : s.Orderly (.arrive l)) :
    { s with
      recv := s.recv.arrive l rc (s.recv.hops l - 1)
      wire := update s.wire l rest }.Honest a b := by
  have hr := h.receiving
  have hsent := (h.wire l).cells rc (by rw [hwire]; exact mem_cons_self)
  unfold ConfluxRecv.arrive
  rw [if_neg (by simp [hr.attached])]
  by_cases hsw : isSwitch rc = true
  · obtain ⟨hdec, hpos⟩ := hsent.switch hsw
    obtain ⟨hleader, hgap⟩ := hgood rc (by rw [hwire]; rfl) hsw
    have hset := onSwitch_of_within hr.inUse (hr.hops l) hdec hpos hleader
      (h.switch_advances hidle hwire hsw) hgap
    rw [if_pos (by simpa [isSwitch] using hsw), hset]
    exact h.takeSwitch hwire hidle hsw
  · have hcell : isSwitch rc = false := by simpa using hsw
    rw [if_neg (by simpa [isSwitch] using hcell), if_pos (by simp [hr.inUse, hsent.cell hcell]),
      requireExitHop_last (hr.hops l)]
    exact h.takeCell hwire hidle hcell

end Receive

/-! ### Every run -/

open Option

lemma Honest.step {lbl : NetLabel} (h : ∃ a b, s.Honest a b)
    (hgood : s.Orderly lbl) (hstep : s.step lbl = some s') : ∃ a b, s'.Honest a b := by
  obtain ⟨a, b, h⟩ := h
  cases lbl with
  | send l rc =>
    obtain ⟨hcond, hstep⟩ := ite_none_left_eq_some.1 hstep
    simp only [Bool.or_eq_true, Bool.not_eq_true', not_or, Bool.not_eq_true,
      Bool.not_eq_false, isSome_eq_false_iff, isNone_iff_eq_none] at hcond
    exact ⟨a, b, h.send hcond.2 hcond.1.1 hcond.1.2 hstep⟩
  | finish ok =>
    simp only [ConfluxNet.step] at hstep
    split at hstep
    · cases hstep
    next l rc hsw =>
    split at hstep
    · cases hstep
      exact ⟨a, b, h.finish hsw⟩
    · cases hstep
      exact ⟨a, b, h.abandon⟩
  | arrive l =>
    simp only [ConfluxNet.step] at hstep
    split at hstep
    · cases hstep
    next rc rest hwire =>
    obtain ⟨r, hr, rfl⟩ := map_eq_some_iff.1 hstep
    simp only [ConfluxRecv.step] at hr
    split at hr
    · next hidle =>
      split at hr
      · cases hr
        exact ⟨a, b, h.arrive hwire hidle hgood⟩
      · cases hr
    · cases hr
  | reorder l =>
    obtain ⟨r, hr, rfl⟩ := map_eq_some_iff.1 hstep
    simp only [ConfluxRecv.step] at hr
    split at hr
    · next rc hphase =>
      cases hr
      exact ⟨a, h.accept hphase hgood⟩
    · cases hr
  | enqueue l inTime =>
    obtain ⟨r, hr, rfl⟩ := map_eq_some_iff.1 hstep
    obtain rfl : inTime = true := hgood
    have hwork := h.receiving.working l
    simp only [ConfluxRecv.step] at hr
    split at hr
    · next p due hphase =>
      cases hr
      exact h.hand hphase
    · -- no reader is in an error
      next rc hphase =>
      rw [hphase] at hwork
      cases hwork
    · cases hr
  | closeOp l =>
    obtain ⟨r, hr, rfl⟩ := map_eq_some_iff.1 hstep
    have hwork := h.receiving.working l
    simp only [ConfluxRecv.step] at hr
    split at hr
    · next hphase =>
      rw [hphase] at hwork
      cases hwork
    · next hphase =>
      rw [hphase] at hwork
      cases hwork
    · cases hr

lemma Honest.complete {a b : List RelayCell} (h : s.Honest a b)
    (hwire : ∀ l, s.wire l = []) (hidle : ∀ l, s.recv.phase l = .idle) : a = s.sent := by
  have hr := h.receiving
  have hnum (l : Leg) : s.numbersOf l = [] := by
    rw [numbersOf, transit, hidle, hwire]
    rfl
  have hpool := h.pool .primary
  rw [ConfluxNet.pool, hnum, hnum] at hpool
  -- the next number would be in the buffer, which is beyond it
  have hall : s.sent.drop s.recv.set.lastRecv = [] := by
    cases hd : s.sent.drop s.recv.set.lastRecv with
    | nil => rfl
    | cons c rest =>
      rw [hd] at hpool
      have hnext := hr.buffered.ahead.beyond _ (hpool.mem_iff.2 (mem_cons_self (l := _)))
      exact absurd hnext (Nat.lt_irrefl _)
  have hb : b = [] := by
    cases hr.handOver.owed with
    | nothing hb _ => exact hb
    | handing l hl _ =>
      rw [hidle] at hl
      cases hl
    | dropped _ hend =>
      rcases hend with hclosed | ⟨l, ops, hl⟩
      · simp [hr.notClosed] at hclosed
      · rw [hidle] at hl
        cases hl
  have hrel : a <+: s.sent := by simpa [hb] using hr.released
  have hlen : s.recv.set.lastRecv = a.length := by simpa [hb] using hr.length
  rw [hlen, drop_eq_nil_iff] at hall
  exact hrel.eq_of_length_le hall

end ConfluxNet

lemma FreshNet.honest (h : FreshNet s) : s.Honest [] [] := by
  have hr := h.recv
  have hnum (l : Leg) : s.transit l = [] := by
    rw [transit, hr.phase, h.wire]
    rfl
  refine ⟨⟨hr.buffered, hr.handOver, List.nil_prefix, hr.linked, hr.notClosed, hr.attached,
    hr.isOpen, h.hops, hr.errors, fun l => by rw [hr.phase]; rfl⟩,
    ⟨by rw [h.lastSent, h.sent]; rfl, fun l => by rw [h.legSent]; exact Nat.zero_le _,
      by rw [h.legSent, h.lastSent], by simp [h.switched]⟩, fun l => ?_, fun l => ?_⟩
  · refine ⟨by simp [h.wire], by simp [h.wire], by simp [h.wire], ?_, ?_⟩
    · rw [hr.phase]
      rintro rc ⟨⟩
    · rw [hnum, hr.legs, h.legSent, countAfter_nil]
  · rw [pool, numbersOf, numbersOf, hnum, hnum, hr.ooo, h.sent]
    simp

/-- **An honest peer is understood.**  In every run that stays within the limits of the
receiver, whatever legs the sender chooses and however the two legs are delivered, no error is
reported, the owner has the start of what was sent, and once nothing is under way it has all
of it. -/
theorem conflux_honest_peer (s s' : ConfluxNet) (ls : List NetLabel) (hs : FreshNet s)
    (hgood : RunMeets step ConfluxNet.Orderly s ls)
    (hrun : run step s ls = some s') :
    s'.recv.errors = [] ∧ s'.recv.set.closed = false ∧ (∃ cells, cells <+: s'.sent ∧
        s'.recv.handed = (numbered 1 cells).map (Prod.map some id)) ∧
      ((∀ l, s'.wire l = []) → (∀ l, s'.recv.phase l = .idle) →
        s'.recv.handed = (numbered 1 s'.sent).map (Prod.map some id)) := by
  obtain ⟨a, b, h⟩ := run_inv (fun _ _ _ h hg hstep => ConfluxNet.Honest.step h hg hstep)
    ⟨[], [], hs.honest⟩ hgood hrun
  have hr := h.receiving
  refine ⟨hr.errors, hr.notClosed, ⟨a, ?_, hr.handOver.handed⟩, fun hwire hidle => ?_⟩
  · exact (prefix_append a b).trans hr.released
  · rw [hr.handOver.handed, h.complete hwire hidle]

/-! ### Two legs in transit -/

def linkedNet : ConfluxNet where
  sender := { current := .primary }
  recv := linkedSet

lemma freshNet_linkedNet : FreshNet linkedNet :=
  ⟨freshRecv_linkedSet, fun _ => (by decide : (3 : ℕ) ≠ 0), rfl, fun _ => rfl, rfl, fun _ => rfl, rfl⟩

def secondOvertakes : List NetLabel :=
  [.send .primary (oneByte 1), .send .secondary (oneByte 2), .finish true,
    .arrive .secondary, .arrive .secondary, .reorder .secondary,
    .arrive .primary, .reorder .primary, .enqueue .primary true, .enqueue .primary true]

theorem conflux_honest_peer_two :
    FreshNet linkedNet ∧ RunMeets step ConfluxNet.Orderly linkedNet secondOvertakes ∧
      ∃ s', run step linkedNet secondOvertakes = some s' ∧
        s'.sent = [oneByte 1, oneByte 2] ∧ s'.recv.errors = [] ∧ s'.recv.set.closed = false ∧
        (∃ cells, cells <+: s'.sent ∧
          s'.recv.handed = (numbered 1 cells).map (Prod.map some id)) ∧
        s'.recv.handed = [(some 1, oneByte 1), (some 2, oneByte 2)] := by
  have hgood : RunMeets step ConfluxNet.Orderly linkedNet secondOvertakes := by
    decide +kernel
  obtain ⟨s', hrun, hsent, hw1, hw2, hp1, hp2⟩ :
      ∃ s', run step linkedNet secondOvertakes = some s' ∧
        s'.sent = [oneByte 1, oneByte 2] ∧ s'.wire .primary = [] ∧ s'.wire .secondary = [] ∧
        s'.recv.phase .primary = .idle ∧ s'.recv.phase .secondary = .idle := by decide +kernel
  obtain ⟨herr, hopen, hstart, hall⟩ :=
    conflux_honest_peer linkedNet s' secondOvertakes freshNet_linkedNet hgood hrun
  refine ⟨freshNet_linkedNet, hgood, s', hrun, hsent, herr, hopen, hstart, ?_⟩
  rw [hall (fun l => by cases l <;> assumption) (fun l => by cases l <;> assumption), hsent]
  rfl

/-- The primary leg is slow: 258 cells are under way on it when the sender changes legs. -/
def slowLeg : List NetLabel :=
  List.replicate 258 (.send .primary (oneByte 1)) ++ [.send .secondary (oneByte 1), .arrive .secondary]

theorem conflux_refuses_far_switch :
    FreshNet linkedNet ∧
      ∃ s', run step linkedNet slowLeg = some s' ∧ s'.recv.errors = ["SWITCH gap too large"] ∧
        s'.recv.phase .secondary = .closing [.teardown] :=
  ⟨freshNet_linkedNet, by decide +kernel⟩

end GoTor.Circuit
