import GoTor.Circuit.ConfluxNet

/-!
# The buffer of a Conflux set

What the sections of the set do (`reorder_ok`, `onSwitch_ok`), what a step of a goroutine does
(`Moves`), and what follows for the buffer: whatever the peer puts on the two legs, it stays
within its limit and beyond the next number, in every state of every run.
-/

namespace GoTor.Circuit

open GoTor.Lib GoTor.Cell Function ConfluxSet

namespace ConfluxSet

@[simp] lemma setLeg_lastRecv (s : ConfluxSet) (l : Leg) (leg : ConfluxLeg) :
    (s.setLeg l leg).lastRecv = s.lastRecv := rfl

@[simp] lemma setLeg_ooo (s : ConfluxSet) (l : Leg) (leg : ConfluxLeg) : (s.setLeg l leg).ooo = s.ooo := rfl

lemma drain_eq (fuel : ℕ) (s : ConfluxSet) :
    drain fuel s =
      ({ s with
          lastRecv := s.lastRecv + (release fuel s.lastRecv s.ooo).1.length
          ooo := (release fuel s.lastRecv s.ooo).2 },
        (release fuel s.lastRecv s.ooo).1) := by
  induction fuel generalizing s with
  | zero => rfl
  | succ fuel ih =>
    unfold drain release
    cases s.ooo.lookup (s.lastRecv + 1) with
    | none => rfl
    | some rc =>
      simp only [ih, List.length_cons, Nat.add_assoc, Nat.add_comm 1]

/-- The buffer of the set: beyond the next number, and within the limit. -/
structure Buffered (s : ConfluxSet) : Prop where
  ahead : Ahead s.lastRecv s.ooo
  room : s.ooo.length ≤ confluxOOOLimit

/-- What an accepted cell does: its turn has come, and the cells behind it follow, or it waits
in the buffer. -/
inductive Reordered (s : ConfluxSet) (l : Leg) (rc : RelayCell) : ConfluxSet → List RelayCell → Prop
  | due (behind : List RelayCell) (ooo : List (ℕ × RelayCell)) (hseq : (s.legs l).lastRecv = s.lastRecv)
      (hperm : s.ooo.Perm (numbered (s.lastRecv + 2) behind ++ ooo))
      (hahead : Ahead (s.lastRecv + 1 + behind.length) ooo) :
      Reordered s l rc
        { s.setLeg l { s.legs l with lastRecv := s.lastRecv + 1 } with
          lastRecv := s.lastRecv + 1 + behind.length
          ooo := ooo }
        (rc :: behind)
  | waits (hseq : s.lastRecv < (s.legs l).lastRecv) (hroom : s.ooo.length < confluxOOOLimit)
      (hfree : s.ooo.lookup ((s.legs l).lastRecv + 1) = none) :
      Reordered s l rc
        { s.setLeg l { s.legs l with lastRecv := (s.legs l).lastRecv + 1 } with
          ooo := ((s.legs l).lastRecv + 1, rc) :: s.ooo }
        []

variable {s s' : ConfluxSet} {l : Leg} {rc : RelayCell} {due : List RelayCell}

lemma reorder_ok (hs : s.Buffered) (h : s.reorder l rc = (s', .ok due)) :
    s.closed = false ∧ Reordered s l rc s' due := by
  unfold reorder at h
  split at h
  · simp at h
  next hopen =>
  refine ⟨by simpa using hopen, ?_⟩
  dsimp only at h
  split at h
  · simp at h
  next hnew =>
  split at h
  · next hnext =>
    rw [setLeg_lastRecv] at hnext
    have hseq : (s.legs l).lastRecv = s.lastRecv := by omega
    rw [drain_eq] at h
    obtain ⟨rfl, hdue⟩ := Prod.mk.inj h
    cases hdue
    simp only [hnext]
    exact .due _ _ hseq (release_perm _ _ hs.ahead.nodup) (release_ahead hs.ahead.nodup hs.ahead.beyond le_rfl)
  next hnext =>
  split at h
  · simp at h
  next hroom =>
  split at h
  · simp at h
  split at h
  · simp at h
  next hslot =>
  obtain ⟨rfl, hdue⟩ := Prod.mk.inj h
  cases hdue
  rw [setLeg_lastRecv] at hnew hnext
  exact .waits (by omega) (by simpa using hroom) (Option.not_isSome_iff_eq_none.1 hslot)

lemma reorder_error {e : String} (h : s.reorder l rc = (s', .error e)) :
    s'.lastRecv = s.lastRecv ∧ s'.ooo = s.ooo ∧ s'.closed = s.closed := by
  unfold reorder at h
  dsimp only at h
  split_ifs at h <;> obtain ⟨rfl, hr⟩ := Prod.mk.inj h <;> first
    | exact ⟨rfl, rfl, rfl⟩
    | cases hr

variable (h : Reordered s l rc s' due)
include h

lemma Reordered.closed : s'.closed = s.closed := by
  cases h <;> rfl

lemma Reordered.lastRecv : s'.lastRecv = s.lastRecv + due.length := by
  cases h with
  | due behind ooo => simp only [List.length_cons]; omega
  | waits => rfl

lemma Reordered.buffered (hs : s.Buffered) : s'.Buffered := by
  cases h with
  | due behind ooo hseq hperm hahead =>
    refine ⟨hahead, ?_⟩
    have hlen := hperm.length_eq
    have := hs.room
    rw [List.length_append] at hlen
    show ooo.length ≤ confluxOOOLimit
    omega
  | waits hseq hroom hfree => exact ⟨hs.ahead.insert (by omega) hfree, hroom⟩

/-- **One conservation law for both cases.**  The cell and the buffer before are the due
cells, numbered from the next number on, and the buffer after. -/
theorem Reordered.perm :
    (((s.legs l).lastRecv + 1, rc) :: s.ooo).Perm
      (numbered (s.lastRecv + 1) due ++ s'.ooo) := by
  cases h with
  | due behind ooo hseq hperm hahead =>
    rw [hseq]
    exact hperm.cons _
  | waits => exact List.Perm.refl _

lemma Reordered.linked : s'.linked = s.linked := by
  cases h <;> rfl

lemma Reordered.legs :
    (s'.legs l).lastRecv = (s.legs l).lastRecv + 1 ∧ ∀ l', l' ≠ l → s'.legs l' = s.legs l' := by
  cases h with
  | due behind ooo hseq hperm hahead =>
    refine ⟨?_, fun l' hne => update_of_ne hne ..⟩
    show (update s.legs l _ l).lastRecv = _
    rw [update_self, hseq]
  | waits =>
    refine ⟨?_, fun l' hne => update_of_ne hne ..⟩
    show (update s.legs l _ l).lastRecv = _
    rw [update_self]

omit h

lemma handleSwitch_ok {rel : ℕ} (h : s.handleSwitch l rel = .ok s') :
    s' = s.setLeg l { s.legs l with lastRecv := (s.legs l).lastRecv + rel } := by
  unfold handleSwitch at h
  dsimp only at h
  split_ifs at h
  exact (Except.ok.inj h).symm

variable {hops : ℕ}

lemma onSwitch_ok {hopIdx : ℕ} (h : s.onSwitch l rc hops hopIdx = .ok s') :
    ∃ rel, decodeConfluxSwitch rc.data = .ok rel ∧
      s' = s.setLeg l { s.legs l with lastRecv := (s.legs l).lastRecv + rel } := by
  obtain ⟨_, -, h⟩ := bind_eq_ok.1 h
  obtain ⟨rel, hrel, h⟩ := bind_eq_ok.1 h
  split_ifs at h
  exact ⟨rel, hrel, handleSwitch_ok h⟩

lemma requireExitHop_last (h : hops ≠ 0) : requireExitHop hops (hops - 1) = .ok () := by
  simp [requireExitHop, h]

lemma onSwitch_of_within {rel : ℕ} (huse : s.inUse = true) (hhops : hops ≠ 0)
    (hrel : decodeConfluxSwitch rc.data = .ok rel) (hpos : 1 ≤ rel)
    (hleader : s.uniqueRecvLeader ≠ some l) (hnew : s.lastRecv ≤ (s.legs l).lastRecv + rel)
    (hgap : (s.legs l).lastRecv + rel ≤ s.lastRecv + confluxOOOLimit + 1) :
    s.onSwitch l rc hops (hops - 1) =
      .ok (s.setLeg l { s.legs l with lastRecv := (s.legs l).lastRecv + rel }) := by
  obtain ⟨hlinked, hopen⟩ : s.linked = true ∧ s.closed = false := by
    simpa [inUse] using huse
  unfold onSwitch handleSwitch
  rw [requireExitHop_last hhops, hrel]
  simp only [ok_bind, hlinked, hopen]
  rw [if_neg (by omega), if_neg (by simp), if_neg hleader, if_neg (by omega), if_neg (by omega)]

lemma reorder_of_room (hopen : s.closed = false) (hnew : s.lastRecv ≤ (s.legs l).lastRecv)
    (hroom : (s.legs l).lastRecv = s.lastRecv ∨ s.ooo.length < confluxOOOLimit ∧
      (s.legs l).lastRecv + 1 ≤ s.lastRecv + confluxOOOLimit + 1)
    (hfree : s.ooo.lookup ((s.legs l).lastRecv + 1) = none) :
    ∃ set due, s.reorder l rc = (set, .ok due) := by
  unfold reorder
  rw [if_neg (by simp [hopen])]
  rw [if_neg (by rw [setLeg_lastRecv]; omega)]
  split
  · exact ⟨_, _, rfl⟩
  next hnext =>
  rw [setLeg_lastRecv] at hnext
  rw [if_neg (by rw [setLeg_ooo]; omega), if_neg (by rw [setLeg_lastRecv]; omega), if_neg (by simp [hfree])]
  exact ⟨_, _, rfl⟩

end ConfluxSet

/-! ### What a step does -/

theorem Leg.eq_or_other (l l' : Leg) : l' = l ∨ l' = l.other := by
  cases l <;> cases l' <;> decide

lemma Leg.other_ne (l : Leg) : l.other ≠ l := by cases l <;> decide

namespace ConfluxRecv

@[simp] lemma setPhase_phase (s : ConfluxRecv) (l : Leg) (p : ReaderPhase) :
    (s.setPhase l p).phase = update s.phase l p := rfl

@[simp] lemma failAndClose_phase (s : ConfluxRecv) (l : Leg) (e : String) :
    (s.failAndClose l e).phase = update s.phase l (.closing [.teardown]) := rfl

/-- The steps of the two readers, one constructor for each way through the code. -/
inductive Moves (s : ConfluxRecv) : RecvLabel → ConfluxRecv → Prop
  | switches {l : Leg} {rc : RelayCell} {hopIdx : ℕ} {set : ConfluxSet}
      (hidle : s.phase l = .idle) (hset : s.set.onSwitch l rc (s.hops l) hopIdx = .ok set) :
      Moves s (.arrive l rc hopIdx) { s with set := set }
  | refuses {l : Leg} {rc : RelayCell} {hopIdx : ℕ} {e : String} (hidle : s.phase l = .idle) :
      Moves s (.arrive l rc hopIdx) (s.failAndClose l e)
  | takes {l : Leg} {rc : RelayCell} {hopIdx : ℕ} (hidle : s.phase l = .idle) :
      Moves s (.arrive l rc hopIdx) (s.setPhase l (.multiplexed rc))
  | misses {l : Leg} {rc : RelayCell} {hopIdx : ℕ} (hidle : s.phase l = .idle)
      (huse : (s.attached l && s.set.inUse) = false) :
      Moves s (.arrive l rc hopIdx) (s.setPhase l (.unhandled rc))
  | accepts {l : Leg} {rc : RelayCell} {set : ConfluxSet} {due : List RelayCell}
      (hphase : s.phase l = .multiplexed rc) (hset : s.set.reorder l rc = (set, .ok due)) :
      Moves s (.reorder l)
        { s.setPhase l (.ofDue (numbered (s.set.lastRecv + 1) due)) with
          set := set
          arrived := s.arrived ++ [((s.set.legs l).lastRecv + 1, rc)] }
  | rejects {l : Leg} {rc : RelayCell} {set : ConfluxSet} {e : String}
      (hphase : s.phase l = .multiplexed rc) (hset : s.set.reorder l rc = (set, .error e)) :
      Moves s (.reorder l) ({ s with set := set }.failAndClose l e)
  | hands {l : Leg} {p : ℕ × RelayCell} {rest : List (ℕ × RelayCell)} (hphase : s.phase l = .handing (p :: rest)) :
      Moves s (.enqueue l true)
        { s.setPhase l (.ofDue rest) with handed := s.handed ++ [(some p.1, p.2)] }
  | drops {l : Leg} {p : ℕ × RelayCell} {rest : List (ℕ × RelayCell)} {inTime : Bool}
      {e : String} (hphase : s.phase l = .handing (p :: rest))
      (hlate : s.isOpen .primary = false ∨ inTime = false) :
      Moves s (.enqueue l inTime) (s.failAndClose l e)
  | passes {rc : RelayCell} (hphase : s.phase .primary = .unhandled rc) (hopen : s.isOpen .primary = true) :
      Moves s (.enqueue .primary true)
        { s.setPhase .primary .idle with handed := s.handed ++ [(none, rc)] }
  | discards {l : Leg} {rc : RelayCell} {inTime : Bool} (hphase : s.phase l = .unhandled rc) :
      Moves s (.enqueue l inTime) (s.setPhase l .idle)
  | closed {l : Leg} (hphase : s.phase l = .closing []) : Moves s (.closeOp l) (s.setPhase l .idle)
  | closes {l : Leg} {op : CloseOp} {ops : List CloseOp} (hphase : s.phase l = .closing (op :: ops)) :
      Moves s (.closeOp l) ((s.close op).1.setPhase l (.closing ((s.close op).2 ++ ops)))
  | calls (l : Leg) : Moves s (.callClose l) { s with closer := s.closer ++ [.close l] }
  | closesOther {op : CloseOp} {ops : List CloseOp} (hops : s.closer = op :: ops) :
      Moves s .closer { (s.close op).1 with closer := (s.close op).2 ++ ops }

variable {s : ConfluxRecv}

lemma arrive_moves {l : Leg} {rc : RelayCell} {hopIdx : ℕ} (hidle : s.phase l = .idle)
    (hcmd : rc.command = relayConfluxSwitch ∨ confluxShouldMultiplex rc.command = true) :
    Moves s (.arrive l rc hopIdx) (s.arrive l rc hopIdx) := by
  unfold arrive
  split
  · next hatt => exact .misses hidle (by simpa using fun h => absurd h (by simpa using hatt))
  split
  · split
    · exact .refuses hidle
    · next hset => exact .switches hidle hset
  next hsw =>
  split
  · split
    · exact .refuses hidle
    · exact .takes hidle
  · next huse =>
    refine .misses hidle ?_
    have hmux := hcmd.resolve_left hsw
    rw [hmux, Bool.and_true, Bool.not_eq_true] at huse
    rw [huse, Bool.and_false]

variable {s' : ConfluxRecv}

lemma step_moves {lbl : RecvLabel} (h : s.step lbl = some s') : Moves s lbl s' := by
  cases lbl with
  | arrive l rc hopIdx =>
    simp only [step] at h
    split at h
    · next hidle =>
      split at h
      · next hcmd =>
        cases h
        exact arrive_moves hidle (by simpa using hcmd)
      · cases h
    · cases h
  | reorder l =>
    simp only [step] at h
    split at h
    · next rc hphase =>
      cases h
      unfold reorder
      split
      · next hset => exact .rejects hphase hset
      · next hset => exact .accepts hphase hset
    · cases h
  | enqueue l inTime =>
    simp only [step] at h
    split at h
    · -- a cell that is due
      next p rest hphase =>
      cases h
      unfold hand
      split
      · next hopen => exact .drops hphase (.inl (by simpa using hopen))
      split
      · next hlate => exact .drops hphase (.inr (by simpa using hlate))
      · next hlate =>
        obtain rfl : inTime = true := by simpa using hlate
        exact .hands hphase
    · -- a cell outside the set
      next rc hphase =>
      cases h
      unfold passBy
      split
      · next hpass =>
        simp only [Bool.and_eq_true, decide_eq_true_eq] at hpass
        obtain ⟨⟨hopen, rfl⟩, rfl⟩ := hpass
        exact .passes hphase hopen
      · exact .discards hphase
    · cases h
  | closeOp l =>
    simp only [step] at h
    split at h
    · next hphase =>
      cases h
      exact .closed hphase
    · next op ops hphase =>
      cases h
      exact .closes hphase
    · cases h
  | callClose l =>
    cases h
    exact .calls l
  | closer =>
    simp only [step] at h
    split at h
    · cases h
    · next op ops hops =>
      cases h
      exact .closesOther hops

/-- A section of a closing ends the set or a channel and leaves the rest. -/
structure Ends (s s' : ConfluxRecv) : Prop where
  phase : s'.phase = s.phase
  handed : s'.handed = s.handed
  arrived : s'.arrived = s.arrived
  lastRecv : s'.set.lastRecv = s.set.lastRecv
  ooo : s'.set.ooo = s.set.ooo
  closed : s.set.closed = true → s'.set.closed = true
  isOpen : s.isOpen .primary = false → s'.isOpen .primary = false

lemma close_ends (s : ConfluxRecv) (op : CloseOp) : Ends s (s.close op).1 := by
  cases op with
  | teardown => exact ⟨rfl, rfl, rfl, rfl, rfl, fun _ => rfl, id⟩
  | detach l => exact ⟨rfl, rfl, rfl, rfl, rfl, id, id⟩
  | close l =>
    simp only [close]
    split
    · refine ⟨rfl, rfl, rfl, rfl, rfl, id, fun h => ?_⟩
      show update s.isOpen l false .primary = false
      rw [update_apply]
      split
      · rfl
      · exact h
    · exact ⟨rfl, rfl, rfl, rfl, rfl, id, id⟩
  | onLegClosed l =>
    simp only [close, onLegClosed]
    split
    · exact ⟨rfl, rfl, rfl, rfl, rfl, id, id⟩
    · exact ⟨rfl, rfl, rfl, rfl, rfl, fun _ => rfl, id⟩

/-! ### The buffer in every run -/

lemma Moves.buffered {lbl : RecvLabel} (h : Moves s lbl s') (hs : s.set.Buffered) : s'.set.Buffered := by
  -- all but an accepted cell leave the buffer and the last number
  have hsame (hlast : s'.set.lastRecv = s.set.lastRecv) (hooo : s'.set.ooo = s.set.ooo) :
      s'.set.Buffered := ⟨by rw [hlast, hooo]; exact hs.ahead, by rw [hooo]; exact hs.room⟩
  cases h with
  | switches hidle hset =>
    obtain ⟨rel, -, rfl⟩ := onSwitch_ok hset
    exact hsame rfl rfl
  | accepts hphase hset => exact (reorder_ok hs hset).2.buffered hs
  | rejects hphase hset =>
    obtain ⟨hlast, hooo, -⟩ := reorder_error hset
    exact hsame hlast hooo
  | @closes l op ops hphase | @closesOther op ops hops =>
    exact hsame (s.close_ends op).lastRecv (s.close_ends op).ooo
  | refuses | takes | misses | hands | drops | passes | discards | closed | calls =>
    exact hsame rfl rfl

lemma buffered_of_run {ls : List RecvLabel} (hs : s.set.Buffered)
    (hrun : run step s ls = some s') : s'.set.Buffered := by
  have hstep : ∀ (s : ConfluxRecv) (lbl : RecvLabel) (s' : ConfluxRecv),
      s.set.Buffered → True → step s lbl = some s' → s'.set.Buffered :=
    fun _ _ _ hs _ h => (step_moves h).buffered hs
  exact run_inv hstep hs (RunMeets.of_forall (fun _ _ => trivial) _ _) hrun

end ConfluxRecv

lemma FreshRecv.buffered {s : ConfluxRecv} (h : FreshRecv s) : s.set.Buffered :=
  ⟨by rw [h.ooo]; exact Ahead.nil, by simp [h.ooo]⟩

end GoTor.Circuit
