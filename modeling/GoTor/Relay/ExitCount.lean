import GoTor.Relay.ExitTables

/-!
# Counters and slots of the exit

The counter of a circuit is the number of its streams in the table and the gate holds one slot for
each stream there, as long as no BEGIN_DIR opens a stream under a key that is in use: unlike BEGIN
it puts its stream in the place of the old one without counting that one down or giving its slot
back.  Handlers run in one piece here; for overlapping ones see `ExitReuse`.
-/

namespace GoTor.Relay

open GoTor.Lib Function List ExitTables Table

namespace ExitTables

def streamsOf (m : ExitTables) (circID : UInt32) : ℕ :=
  m.streams.entries.countP fun e => e.1.1 = circID

/-- **Counters and slots agree with the table.** -/
structure Exact (m : ExitTables) : Prop where
  counter : ∀ circID, m.circStreams circID = m.streamsOf circID
  slots : m.gateCur = m.streams.entries.countP fun e => (m.heap e.2).held

/-- A BEGIN_DIR cell that gets as far as opening its stream finds no stream under its key. -/
def UnusedDir (m : ExitTables) : ExitEvent → Prop
  | .beginDir key (.opened _) | .beginDir key (.unsent _) =>
    m.full key.1 = false → m.gateCur < m.gateMax → m.streams.get key = none
  | _ => True

/-- The invariant: every stream in the table is an object of its own that holds a slot. -/
structure Counted (m : ExitTables) : Prop where
  counter : ∀ circID, m.circStreams circID = m.streamsOf circID
  slots : m.gateCur = m.streams.size
  held : ∀ e ∈ m.streams.entries, (m.heap e.2).held = true
  objects : (m.streams.entries.map Prod.snd).Nodup
  born : ∀ e ∈ m.streams.entries, e.2 < m.fresh

variable {m : ExitTables} {key : StreamKey} {p : StreamPtr}

lemma Counted.exact (h : m.Counted) : m.Exact where
  counter := h.counter
  slots := by
    rw [h.slots]
    exact (countP_eq_length.2 fun e he => h.held e he).symm

lemma Counted.initial {gateMax : ℕ} : Counted { gateMax } where
  counter _ := rfl
  slots := rfl
  held _ h := by cases h
  objects := nodup_nil
  born _ h := by cases h

lemma Counted.frame (h : m.Counted) (pumps : Table StreamPtr StreamKey) (ends : List EndSent) :
    Counted { m with pumps, ends } :=
  { h with }

lemma Counted.sendEnd (h : m.Counted) (key : StreamKey) (pump : Option StreamPtr)
    (reason : UInt8) : (m.sendEnd key pump reason).Counted :=
  h.frame _ _

/-! ### A stream goes -/

lemma teardown_held (h : (m.heap p).held = true) :
    m.teardown p = { m with
      gateCur := m.gateCur - 1
      heap := update m.heap p { m.heap p with held := false } } :=
  if_pos h

lemma Counted.counter_pos (h : m.Counted) (hget : m.streams.get key = some p) : 0 < m.circStreams key.1 := by
  rw [h.counter]
  have hpos : 0 < m.streams.entries.countP fun e => e.1.1 = key.1 :=
    countP_pos_iff.2 ⟨(key, p), m.streams.get_eq_some_iff.1 hget, decide_eq_true rfl⟩
  exact Int.natCast_pos.2 hpos

lemma Counted.drop (h : m.Counted) (hget : m.streams.get key = some p) :
    (({ m with streams := m.streams.erase key }.addStream key.1 (-1)).teardown p).Counted := by
  have hperm := m.streams.perm_erase hget
  have hheld : (m.heap p).held = true := h.held _ (m.streams.get_eq_some_iff.1 hget)
  have hnodup := (hperm.map Prod.snd).nodup_iff.1 h.objects
  obtain ⟨hnew, hnodup⟩ := nodup_cons.1 hnodup
  have hsub : ∀ e ∈ (m.streams.erase key).entries, e ∈ m.streams.entries :=
    fun e he => hperm.mem_iff.2 (mem_cons_of_mem _ he)
  have hstate : ({ m with streams := m.streams.erase key }.addStream key.1 (-1)).teardown p = { m with
        gateCur := m.gateCur - 1
        heap := update m.heap p { m.heap p with held := false }
        streams := m.streams.erase key
        circStreams := update m.circStreams key.1 (m.circStreams key.1 + -1) } := by
    exact teardown_held hheld
  rw [hstate]
  refine ⟨fun circID => ?_, ?_, fun e he => ?_, hnodup, fun e he => h.born e (hsub e he)⟩
  · have hcount := h.counter circID
    rw [streamsOf, hperm.countP_eq, countP_cons] at hcount
    change update m.circStreams key.1 _ circID =
      ((m.streams.erase key).entries.countP fun e => e.1.1 = circID : ℕ)
    by_cases hc : circID = key.1
    · subst hc
      rw [update_self]
      simp only [decide_true, if_true] at hcount
      omega
    · rw [update_of_ne hc]
      simp only [Ne.symm hc, decide_false, Bool.false_eq_true, if_false] at hcount
      omega
  · have hlen := hperm.length_eq
    have hslots := h.slots
    rw [size, hlen, length_cons] at hslots
    change m.gateCur - 1 = (m.streams.erase key).entries.length
    omega
  · -- No other entry shares the object, so no other slot is freed.
    have hne : e.2 ≠ p := by
      rintro rfl
      exact hnew (mem_map.2 ⟨e, he, rfl⟩)
    change (update m.heap p _ e.2).held = true
    rw [update_of_ne hne]
    exact h.held e (hsub e he)

lemma Counted.dropOld (h : m.Counted) (key : StreamKey) : (m.dropOld key).Counted := by
  unfold ExitTables.dropOld
  split
  · exact h
  next p hget => exact h.drop hget

lemma dropOld_get (m : ExitTables) (key : StreamKey) : (m.dropOld key).streams.get key = none := by
  unfold dropOld
  split
  next hget => exact hget
  next p hget =>
    unfold teardown
    split <;> exact get_erase_self _

lemma Counted.delete (h : m.Counted) (hget : m.streams.get key = some p) : ((m.delete key).teardown p).Counted := by
  have hpos : { m with streams := m.streams.erase key }.circStreams key.1 > 0 := h.counter_pos hget
  rw [ExitTables.delete, countDown, if_pos hpos]
  exact h.drop hget

lemma Counted.removeStream (h : m.Counted) (key : StreamKey) : (m.removeStream key).Counted := by
  unfold ExitTables.removeStream
  split
  · exact h
  next p hget => exact h.delete hget

/-! ### A stream comes -/

lemma Counted.opened (h : m.Counted) (hget : m.streams.get key = none) {tcp : Bool} :
    ((insert { m with gateCur := m.gateCur + 1 } key tcp).addStream key.1 1).Counted := by
  have hentries : (m.streams.set key m.fresh).entries = (key, m.fresh) :: m.streams.entries := by
    change (key, m.fresh) :: (m.streams.erase key).entries = _
    rw [m.streams.entries_erase_of_none hget]
  have hcases : ∀ e ∈ (m.streams.set key m.fresh).entries, e = (key, m.fresh) ∨ e ∈ m.streams.entries := by
    intro e he
    rw [hentries] at he
    exact mem_cons.1 he
  refine ⟨fun circID => ?_, ?_, fun e he => ?_, ?_, fun e he => ?_⟩
  · change update m.circStreams key.1 (m.circStreams key.1 + 1) circID =
      ((m.streams.set key m.fresh).entries.countP fun e => e.1.1 = circID : ℕ)
    have hcount := h.counter circID
    unfold streamsOf at hcount
    rw [hentries, countP_cons]
    by_cases hc : circID = key.1
    · subst hc
      rw [update_self, if_pos (decide_eq_true rfl)]
      omega
    · rw [update_of_ne hc, if_neg (by simpa using Ne.symm hc)]
      exact hcount
  · change m.gateCur + 1 = (m.streams.set key m.fresh).entries.length
    rw [hentries, h.slots]
    rfl
  · change (update m.heap m.fresh { tcp } e.2).held = true
    rcases hcases e he with rfl | he
    · rw [update_self]
    · rw [update_of_ne (Nat.ne_of_lt (h.born e he))]
      exact h.held e he
  · change ((m.streams.set key m.fresh).entries.map Prod.snd).Nodup
    rw [hentries]
    refine nodup_cons.2 ⟨fun hmem => ?_, h.objects⟩
    obtain ⟨e, he, heq⟩ := mem_map.1 hmem
    exact Nat.ne_of_lt (h.born e he) heq
  · change e.2 < m.fresh + 1
    rcases hcases e he with rfl | he
    · exact Nat.lt_succ_self _
    · exact Nat.lt_succ_of_lt (h.born e he)

lemma acquire_eq_some {m' : ExitTables} (h : m.acquire = some m') :
    m.gateCur < m.gateMax ∧ m' = { m with gateCur := m.gateCur + 1 } := by
  unfold acquire at h
  split at h
  · cases h
  next hroom => exact ⟨Nat.lt_of_not_le hroom, (Option.some.inj h).symm⟩

variable {answer : OpenAnswer}

lemma Counted.handleBegin (h : m.Counted) : (m.handleBegin key answer).Counted := by
  have hd := h.dropOld key
  have hget := m.dropOld_get key
  unfold ExitTables.handleBegin
  split
  · exact h.sendEnd _ _ _
  dsimp only
  split
  · exact hd.sendEnd _ _ _
  split
  · exact hd.sendEnd _ _ _
  next m' hacq =>
  obtain ⟨-, rfl⟩ := acquire_eq_some hacq
  split
  · exact (hd.opened hget).frame _ _
  -- the slot is given back
  · exact hd.frame _ _
  · exact hd

lemma countDown_addStream (h : 0 ≤ m.circStreams key.1) : (m.addStream key.1 1).countDown key.1 = m := by
  have hpos : (m.addStream key.1 1).circStreams key.1 > 0 := by
    change update m.circStreams key.1 _ key.1 > 0
    rw [update_self]
    omega
  rw [countDown, if_pos hpos]
  unfold addStream
  simp

lemma Counted.handleBeginDir (h : m.Counted) (hgood : m.UnusedDir (.beginDir key answer)) :
    (m.handleBeginDir key answer).Counted := by
  have hcount : 0 ≤ m.circStreams key.1 := by
    rw [h.counter]
    exact Int.natCast_nonneg _
  unfold ExitTables.handleBeginDir
  split
  · exact h.sendEnd _ _ _
  split
  · exact h.sendEnd _ _ _
  next hroom =>
  dsimp only
  split
  · rw [countDown_addStream hcount]
    exact h.sendEnd _ _ _
  next m' hacq =>
  obtain ⟨hfree, rfl⟩ := acquire_eq_some hacq
  have hroom : m.full key.1 = false := by simpa using hroom
  split
  · exact (h.opened (hgood hroom hfree)).frame _ _
  · exact (h.opened (hgood hroom hfree)).removeStream key
  have hback : (release { m.addStream key.1 1 with
      gateCur := (m.addStream key.1 1).gateCur + 1 }).countDown key.1 = m :=
    countDown_addStream hcount
  rw [hback]
  exact h.sendEnd _ _ _

lemma Counted.handleEnd (h : m.Counted) : (m.handleEnd key).Counted := by
  unfold ExitTables.handleEnd
  split
  · exact h
  next p hget =>
  dsimp only
  split
  · exact h.delete hget
  -- shutting one side keeps the slot
  have hshut : Counted { m with
      heap := update m.heap p { m.heap p with halfClosed := true } } :=
    { h with
      held := fun e he => by
        change (update m.heap p _ e.2).held = true
        by_cases hp : e.2 = p
        · rw [hp, update_self]
          exact hp ▸ h.held e he
        · rw [update_of_ne hp]
          exact h.held e he }
  split
  · exact hshut
  · exact hshut.delete hget

lemma Counted.pumpEnds (h : m.Counted) {reason : Option UInt8} : (m.pumpEnds p reason).Counted := by
  unfold ExitTables.pumpEnds
  split
  · exact h
  next key hget =>
  refine Counted.removeStream ?_ key
  split
  · exact h.frame _ _
  · exact (h.frame _ _).sendEnd _ _ _

/-! ### A circuit is closed -/

lemma foldl_teardown (ps : List StreamPtr) (hnodup : ps.Nodup) (hheld : ∀ p ∈ ps, (m.heap p).held = true) :
    ∃ heap, ps.foldl teardown m = { m with gateCur := m.gateCur - ps.length, heap } ∧
      ∀ q, q ∉ ps → heap q = m.heap q := by
  induction ps generalizing m with
  | nil => exact ⟨m.heap, rfl, fun _ _ => rfl⟩
  | cons p ps ih =>
    obtain ⟨hp, hnodup⟩ := nodup_cons.1 hnodup
    rw [foldl_cons, teardown_held (hheld p (mem_cons_self ..))]
    have hrest : ∀ q ∈ ps,
        (update m.heap p { m.heap p with held := false } q).held = true := by
      intro q hq
      have hqp : q ≠ p := by
        rintro rfl
        exact hp hq
      rw [update_of_ne hqp]
      exact hheld q (mem_cons_of_mem _ hq)
    obtain ⟨heap, heq, hother⟩ := @ih { m with
      gateCur := m.gateCur - 1
      heap := update m.heap p { m.heap p with held := false } } hnodup hrest
    refine ⟨heap, ?_, fun q hq => ?_⟩
    · rw [heq]
      simp only [length_cons, Nat.sub_sub, Nat.add_comm]
    · obtain ⟨hqp, hq⟩ := ne_and_not_mem_of_not_mem_cons hq
      rw [hother q hq]
      exact update_of_ne hqp _ _

lemma Counted.closeCircuit (h : m.Counted) {circID : UInt32} : (m.closeCircuit circID).Counted := by
  set toClose := (m.streams.entries.filter fun e => e.1.1 = circID).map Prod.snd with hclose
  have hsub : toClose.Sublist (m.streams.entries.map Prod.snd) := filter_sublist.map _
  have hheld : ∀ p ∈ toClose, (m.heap p).held = true := by
    intro p hp
    obtain ⟨e, he, rfl⟩ := mem_map.1 hp
    exact h.held e (mem_filter.1 he).1
  obtain ⟨heap, heq, hother⟩ := @foldl_teardown { m with
      streams := m.streams.keep fun key _ => key.1 ≠ circID
      circStreams := update m.circStreams circID 0 } toClose
    (h.objects.sublist hsub) hheld
  have hkept : ∀ e ∈ (m.streams.keep fun key _ => key.1 ≠ circID).entries,
      e ∈ m.streams.entries ∧ e.1.1 ≠ circID := by
    intro e he
    obtain ⟨he, hne⟩ := mem_filter.1 he
    exact ⟨he, of_decide_eq_true hne⟩
  change Counted (toClose.foldl teardown _)
  rw [heq]
  refine ⟨fun c => ?_, ?_, fun e he => ?_, ?_, fun e he => h.born e (hkept e he).1⟩
  · -- the counters
    change update m.circStreams circID 0 c =
      ((m.streams.entries.filter fun e => e.1.1 ≠ circID).countP fun e => e.1.1 = c : ℕ)
    rw [countP_filter]
    by_cases hc : c = circID
    · subst hc
      rw [update_self, countP_eq_zero.2]
      · rfl
      · simp
    · rw [update_of_ne hc, h.counter]
      refine congrArg Nat.cast (countP_congr fun e _ => ?_)
      simp only [decide_eq_true_eq, Bool.and_eq_true, iff_self_and]
      exact fun hec => hec ▸ hc
  · -- the slots
    have hlen := length_eq_countP_add_countP (fun e : StreamKey × StreamPtr => e.1.1 = circID)
      (l := m.streams.entries)
    have hslots := h.slots
    rw [size, hlen, countP_eq_length_filter, countP_eq_length_filter] at hslots
    change m.gateCur - toClose.length = (m.streams.entries.filter fun e => e.1.1 ≠ circID).length
    rw [length_map]
    simp only [decide_not] at hslots ⊢
    simp only [Bool.decide_eq_true] at hslots
    omega
  · obtain ⟨hmem, hne⟩ := hkept e he
    -- streams of other circuits are other objects
    have hopen : e.2 ∉ toClose := by
      intro hmem'
      obtain ⟨e', he', heq'⟩ := mem_map.1 hmem'
      obtain ⟨he', hcirc⟩ := mem_filter.1 he'
      have hsame : e' = e := inj_on_of_nodup_map h.objects he' hmem heq'
      exact hne (hsame ▸ of_decide_eq_true hcirc)
    change (heap e.2).held = true
    rw [hother e.2 hopen]
    exact h.held e hmem
  · exact h.objects.sublist (filter_sublist.map Prod.snd)

lemma streams_closeCircuit (h : m.Counted) (circID : UInt32) :
    (m.closeCircuit circID).streams = m.streams.keep fun key _ => key.1 ≠ circID := by
  have hsub : ((m.streams.entries.filter fun e => e.1.1 = circID).map Prod.snd).Sublist
      (m.streams.entries.map Prod.snd) := filter_sublist.map _
  obtain ⟨heap, heq, -⟩ := @foldl_teardown { m with
      streams := m.streams.keep fun key _ => key.1 ≠ circID
      circStreams := update m.circStreams circID 0 }
    ((m.streams.entries.filter fun e => e.1.1 = circID).map Prod.snd) (h.objects.sublist hsub)
    fun p hp => by
      obtain ⟨e, he, rfl⟩ := mem_map.1 hp
      exact h.held e (mem_filter.1 he).1
  unfold closeCircuit
  rw [heq]

lemma Counted.foldl_closeCircuit (h : m.Counted) (circs : List UInt32)
    (hall : ∀ e ∈ m.streams.entries, e.1.1 ∈ circs) :
    (circs.foldl ExitTables.closeCircuit m).Counted ∧
      (circs.foldl ExitTables.closeCircuit m).streams.entries = [] := by
  induction circs generalizing m with
  | nil =>
    refine ⟨h, ?_⟩
    rw [eq_nil_iff_forall_not_mem]
    exact fun e he => not_mem_nil (hall e he)
  | cons circID circs ih =>
    refine ih h.closeCircuit fun e he => ?_
    rw [streams_closeCircuit h] at he
    obtain ⟨he, hne⟩ := mem_filter.1 he
    exact (mem_cons.1 (hall e he)).resolve_left (of_decide_eq_true hne)

/-! ### Runs -/

lemma Counted.step {m' : ExitTables} {e : ExitEvent} (h : m.Counted) (hgood : m.UnusedDir e)
    (hstep : m.step e = some m') : m'.Counted := by
  cases e with
  | beginCell key answer =>
    cases hstep
    exact h.handleBegin
  | beginDir key answer =>
    cases hstep
    exact h.handleBeginDir hgood
  | endCell key =>
    cases hstep
    exact h.handleEnd
  | pumpEnds p reason =>
    cases hstep
    exact h.pumpEnds
  | closeCircuit circID =>
    cases hstep
    exact h.closeCircuit

end ExitTables

/-- **The exit's counters.**  In every run in which no BEGIN_DIR opens a stream under a key in
use, the counter of each circuit is the number of its streams in the table and the gate has one
slot taken for each stream that holds one; once all circuits are closed both are zero. -/
theorem exit_counts_exact (gateMax : ℕ) (events : List ExitEvent) (m : ExitTables)
    (hrun : run step { gateMax } events = some m)
    (hgood : RunMeets step ExitTables.UnusedDir { gateMax } events) :
    m.Exact ∧ ∀ circs : List UInt32, (∀ e ∈ m.streams.entries, e.1.1 ∈ circs) →
      (∀ circID, (circs.foldl closeCircuit m).circStreams circID = 0) ∧
        (circs.foldl closeCircuit m).gateCur = 0 := by
  have h : m.Counted := run_inv (fun _ _ _ h hg hs => h.step hg hs) ExitTables.Counted.initial hgood hrun
  refine ⟨h.exact, fun circs hall => ?_⟩
  obtain ⟨hclosed, hempty⟩ := h.foldl_closeCircuit circs hall
  refine ⟨fun circID => ?_, ?_⟩
  · rw [hclosed.counter, ExitTables.streamsOf, hempty]
    rfl
  · rw [hclosed.slots, size, hempty]
    rfl

def reopened : List ExitEvent :=
  [.beginCell (7, 1) (.opened true), .beginCell (7, 1) (.opened true), .beginDir (7, 2) (.opened false),
    .endCell (7, 1), .pumpEnds 0 (some 6)]

instance (m : ExitTables) (e : ExitEvent) : Decidable (m.UnusedDir e) :=
  match e with
  | .beginDir key (.opened _) => inferInstanceAs (Decidable (_ → _ → m.streams.get key = none))
  | .beginDir key (.unsent _) => inferInstanceAs (Decidable (_ → _ → m.streams.get key = none))
  | .beginDir _ (.refused _) | .beginDir _ (.failed _) => isTrue trivial
  | .beginCell _ _ | .endCell _ | .pumpEnds _ _ | .closeCircuit _ => isTrue trivial

theorem exit_counts_exact_reopened :
    ∃ m, run step { gateMax := 1024 } reopened = some m ∧ m.circStreams 7 = 1 ∧ m.gateCur = 1 ∧ m.Exact :=
  exists_some_and2 (by decide +kernel) fun m hm _ _ =>
    (exit_counts_exact 1024 reopened m hm (by decide +kernel)).1

/-- BEGIN_DIR on a stream ID in use: two places and two slots for one stream, and after the
circuit is closed one slot stays taken. -/
theorem begin_dir_leaks_slot :
    ∃ m, run step { gateMax := 1024 }
        [.beginDir (7, 1) (.opened false), .beginDir (7, 1) (.opened false)] = some m ∧
      m.streamsOf 7 = 1 ∧ m.circStreams 7 = 2 ∧ m.gateCur = 2 ∧
      (m.closeCircuit 7).gateCur = 1 ∧ ¬ m.Exact := by
  refine exists_some_imp (P := fun m => m.streamsOf 7 = 1 ∧ m.circStreams 7 = 2 ∧ m.gateCur = 2 ∧
    (m.closeCircuit 7).gateCur = 1) (by decide +kernel) ?_
  rintro m - ⟨hstreams, hcount, hslots, hleft⟩
  refine ⟨hstreams, hcount, hslots, hleft, fun hexact => ?_⟩
  have hseven := hexact.counter 7
  rw [hcount, hstreams] at hseven
  cases hseven

end GoTor.Relay
