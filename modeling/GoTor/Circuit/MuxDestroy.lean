import GoTor.Circuit.CellMux

/-!
# DESTROY cells at the multiplexer

A DESTROY cell for a circuit that is being created goes into the channel of the waiter, and the
waiter reads one cell only.  So it is observed, by the waiter or by the circuit, in every run in
which it finds that channel empty and the waiter still to read from it; a CREATED2 that came
before it, read or unread, makes the mux lose it.
-/

namespace GoTor.Circuit

open GoTor.Lib GoTor.Cell Function Option CellMux List

def MuxReader.carries : MuxReader → Option MuxCell
  | .dispatching c => some c
  | .offering _ c => some c
  | .finding c => some c
  | .top | .receiving | .stopped => none

/-- The channel to which the reader is about to offer a cell. -/
def MuxReader.offers : MuxReader → Option (ℕ × MuxCell)
  | .offering ch c => some (ch, c)
  | _ => none

def CreatorPhase.isDone : CreatorPhase → Bool
  | .done _ => true
  | _ => false

/-- The CREATED2 with which the creation has succeeded. -/
def CreatorPhase.accepted : CreatorPhase → Option MuxCell
  | .done (.ok c) => some c
  | _ => none

namespace CellMux

variable (s : CellMux)

/-- The channel from which the creator of a circuit is still going to read. -/
def awaited (id : UInt32) : Option ℕ :=
  match s.creator id with
  | .expecting | .sent => s.created id
  | .waiting ch => some ch
  | _ => none

def holding (id : UInt32) : Option MuxCell := (s.awaited id).bind (s.chan id)

/-- A DESTROY cell is put only into an empty channel from which the waiter is still going to
read, and a waiter gives up only while its channel holds no DESTROY. -/
def Attentive : MuxLabel → Prop
  | .reader => ∀ p ∈ s.reader.offers, p.2.isDestroy = true →
      s.chan p.2.cell.circID p.1 = none ∧ s.awaited p.2.cell.circID = some p.1
  | .sendCreate2 id (some _) => ∀ c ∈ s.holding id, c.isDestroy = false
  | .select id (.ctxDone _) => ∀ c ∈ s.holding id, c.isDestroy = false
  | .select id .muxClosed => ∀ c ∈ s.holding id, c.isDestroy = false
  | _ => True

instance : DecidablePred s.Attentive
  | .reader => inferInstanceAs (Decidable (∀ p ∈ s.reader.offers, p.2.isDestroy = true →
      s.chan p.2.cell.circID p.1 = none ∧ s.awaited p.2.cell.circID = some p.1))
  | .sendCreate2 id (some _) | .select id (.ctxDone _) | .select id .muxClosed =>
    inferInstanceAs (Decidable (∀ c ∈ s.holding id, c.isDestroy = false))
  | .sendCreate2 _ none | .select _ .cell | .receive _ | .receiveFails | .closeMux | .creator _ =>
    isTrue trivial

/-- The waiter's `WaitCreated2` has returned an error for the cell, or the registered circuit
was told. -/
def Observed (c : MuxCell) : Prop :=
  (c.cell.circID, c) ∈ s.waitErrors ∨ c ∈ s.told

/-- The reader is dispatching the cell, or it is in a channel that is still going to be read. -/
def OnItsWay (c : MuxCell) : Prop :=
  s.reader.carries = some c ∨ s.holding c.cell.circID = some c

structure Tracked (s : CellMux) (c : MuxCell) : Prop where
  isDestroy : c.isDestroy = true
  registered : s.circuits c.cell.circID = true
  safe : s.Observed c ∨ s.OnItsWay c

section Frame

variable {s s' : CellMux} {c : MuxCell} {id : UInt32}

lemma holding_congr (hcreator : s'.creator id = s.creator id)
    (hcreated : s'.created id = s.created id) (hchan : s'.chan id = s.chan id) :
    s'.holding id = s.holding id := by
  rw [holding, holding, awaited, awaited, hcreator, hcreated, hchan]

lemma Tracked.step (h : s.Tracked c)
    (hreg : s.circuits c.cell.circID = true → s'.circuits c.cell.circID = true)
    (hwait : s.waitErrors ⊆ s'.waitErrors) (htold : s.told ⊆ s'.told)
    (hcarry : s.reader.carries = some c → s'.Observed c ∨ s'.OnItsWay c)
    (hhold : s.holding c.cell.circID = some c → s'.Observed c ∨ s'.OnItsWay c) : s'.Tracked c := by
  refine ⟨h.isDestroy, hreg h.registered, ?_⟩
  rcases h.safe with (hobs | hobs) | hway | hway
  · exact .inl (.inl (hwait hobs))
  · exact .inl (.inr (htold hobs))
  · exact hcarry hway
  · exact hhold hway

lemma Tracked.creatorStep (h : s.Tracked c) (hreader : s'.reader = s.reader)
    (hreg : ∀ i, s.circuits i = true → s'.circuits i = true)
    (hwait : s.waitErrors ⊆ s'.waitErrors) (htold : s'.told = s.told)
    (hothers : ∀ i, i ≠ id → s'.holding i = s.holding i)
    (hown : c.cell.circID = id → s.holding id = some c → s'.Observed c ∨ s'.holding id = some c) :
    s'.Tracked c := by
  refine h.step (hreg _) hwait (by rw [htold]; exact List.Subset.refl _) ?_ ?_
  · exact fun hc => .inr (.inl (by rw [hreader, hc]))
  intro hc
  by_cases hid : c.cell.circID = id
  · rcases hown hid (hid ▸ hc) with hobs | hheld
    · exact .inl hobs
    · exact .inr (.inr (by rw [hid]; exact hheld))
  · exact .inr (.inr (by rw [hothers _ hid]; exact hc))

lemma Tracked.moveReader (h : s.Tracked c) {r : MuxReader}
    (hr : s.reader.carries = some c → r.carries = some c) : { s with reader := r }.Tracked c :=
  h.step id (List.Subset.refl _) (List.Subset.refl _) (fun hc => .inr (.inl (hr hc))) fun hc => .inr (.inr hc)

end Frame

/-! ### The reader -/

section Reader

variable {s : CellMux} {c m : MuxCell} {ch : ℕ}

lemma dispatch_eq (s : CellMux) (m : MuxCell) :
    ∃ r : MuxReader, s.dispatch m = { s with reader := r } ∧ (m.isDestroy = true → r.carries = some m) := by
  unfold dispatch
  split
  · split
    · exact ⟨_, rfl, fun _ => rfl⟩
    · split
      · exact ⟨_, rfl, fun _ => rfl⟩
      · next hd => exact ⟨_, rfl, fun h => absurd h hd⟩
  · next hcmd =>
    refine ⟨_, rfl, fun h => absurd ?_ hcmd⟩
    exact .inr (by simpa [MuxCell.isDestroy] using h)

lemma Tracked.dispatch (h : s.Tracked c) (hr : s.reader = .dispatching m) : (s.dispatch m).Tracked c := by
  obtain ⟨r, hs', hcarry⟩ := s.dispatch_eq m
  rw [hs']
  refine h.moveReader fun hc => ?_
  rw [hr] at hc
  cases hc
  exact hcarry h.isDestroy

lemma holding_setChan_of_empty {i : UInt32} (hempty : s.chan i ch = none) (hc : s.holding c.cell.circID = some c) :
    (s.setChan i ch (some m)).holding c.cell.circID = some c := by
  obtain ⟨ch', hch', hheld⟩ := bind_eq_some_iff.1 hc
  refine bind_eq_some_iff.2 ⟨ch', hch', ?_⟩
  show update s.chan i _ c.cell.circID ch' = some c
  by_cases hi : c.cell.circID = i
  · subst hi
    rw [update_self]
    by_cases hch : ch' = ch
    · subst hch
      rw [hempty] at hheld
      cases hheld
    · rw [update_of_ne hch]
      exact hheld
  · rw [update_of_ne hi]
    exact hheld

lemma Tracked.offer (h : s.Tracked c) (hr : s.reader = .offering ch m)
    (hgood : s.Attentive .reader) : (s.offer ch m).Tracked c := by
  replace hgood := hgood (ch, m) (by rw [hr]; rfl)
  unfold CellMux.offer
  dsimp only
  split
  · next hempty =>
    refine h.step id (List.Subset.refl _) (List.Subset.refl _) (fun hc => ?_) fun hc => ?_
    · -- the channel was empty and will be read
      rw [hr] at hc
      obtain rfl := some.inj hc
      obtain ⟨-, hch⟩ := hgood h.isDestroy
      refine .inr (.inr (bind_eq_some_iff.2 ⟨ch, hch, ?_⟩))
      show update s.chan _ _ m.cell.circID ch = some m
      rw [update_self, update_self]
    · exact .inr (.inr (holding_setChan_of_empty (by simpa using hempty) hc))
  · next hfull =>
    refine h.moveReader fun hc => ?_
    rw [hr] at hc
    cases hc
    simp [(hgood h.isDestroy).1] at hfull

lemma Tracked.findCircuit (h : s.Tracked c) (hr : s.reader = .finding m) : (s.findCircuit m).Tracked c := by
  unfold CellMux.findCircuit
  split
  · refine h.step id (List.Subset.refl _) (subset_append_left _ _) (fun hc => ?_) fun hc => .inr (.inr hc)
    rw [hr] at hc
    cases hc
    exact .inl (.inr (by simp))
  · next hunknown =>
    refine h.moveReader fun hc => ?_
    rw [hr] at hc
    cases hc
    exact absurd h.registered hunknown

lemma Tracked.receive (h : s.Tracked c) (hr : s.reader = .receiving) (c' : Cell) : (s.receive c').Tracked c := by
  refine h.step id (List.Subset.refl _) (List.Subset.refl _) (fun hc => ?_) fun hc => .inr (.inr hc)
  rw [hr] at hc
  cases hc

end Reader

/-! ### The goroutine that creates a circuit -/

section Creator

variable {s s' : CellMux} {c : MuxCell} {id : UInt32}

/-- What a section of the goroutine of circuit `id` leaves to the other circuits. -/
structure OwnStep (s s' : CellMux) (id : UInt32) : Prop where
  reader : s'.reader = s.reader
  circuits : ∀ i, s.circuits i = true → s'.circuits i = true
  waitErrors : s.waitErrors ⊆ s'.waitErrors
  told : s'.told = s.told
  destroys : s'.destroys = s.destroys
  creator : ∀ i, i ≠ id → s'.creator i = s.creator i
  created : ∀ i, i ≠ id → s'.created i = s.created i
  chan : ∀ i, i ≠ id → s'.chan i = s.chan i

/-- … and that it does not lose a DESTROY for its own circuit. -/
structure Keeps (s s' : CellMux) (id : UInt32) : Prop extends OwnStep s s' id where
  own : ∀ c, c.isDestroy = true → c.cell.circID = id → s.holding id = some c → s'.Observed c ∨ s'.holding id = some c

lemma Keeps.tracked (h : Keeps s s' id) (hc : s.Tracked c) : s'.Tracked c :=
  hc.creatorStep h.reader h.circuits h.waitErrors h.told
    (fun i hi => holding_congr (h.creator i hi) (h.created i hi) (h.chan i hi))
    (h.own c hc.isDestroy)

lemma OwnStep.trans {s'' : CellMux} (h : OwnStep s s' id) (h' : OwnStep s' s'' id) : OwnStep s s'' id where
  reader := h'.reader.trans h.reader
  circuits i hi := h'.circuits i (h.circuits i hi)
  waitErrors := List.Subset.trans h.waitErrors h'.waitErrors
  told := h'.told.trans h.told
  destroys := h'.destroys.trans h.destroys
  creator i hi := (h'.creator i hi).trans (h.creator i hi)
  created i hi := (h'.created i hi).trans (h.created i hi)
  chan i hi := (h'.chan i hi).trans (h.chan i hi)

variable {p : CreatorPhase}

lemma ownStep_setCreator (s : CellMux) : OwnStep s (s.setCreator id p) id :=
  ⟨rfl, fun _ h => h, List.Subset.refl _, rfl, rfl, fun _ hi => update_of_ne hi .., fun _ _ => rfl, fun _ _ => rfl⟩

lemma ownStep_registerCircuit (s : CellMux) : OwnStep s (s.registerCircuit id) id := by
  refine ⟨rfl, fun i hi => ?_, List.Subset.refl _, rfl, rfl, fun _ _ => rfl, fun _ _ => rfl, fun _ _ => rfl⟩
  show update s.circuits id true i = true
  rw [update_apply]
  split
  · rfl
  · exact hi

lemma ownStep_expectCreated2 (s : CellMux) : OwnStep s (s.expectCreated2 id).1 id := by
  unfold expectCreated2
  split
  · exact ⟨rfl, fun _ h => h, List.Subset.refl _, rfl, rfl, fun _ _ => rfl, fun _ _ => rfl, fun _ _ => rfl⟩
  · exact ⟨rfl, fun _ h => h, List.Subset.refl _, rfl, rfl, fun _ _ => rfl,
      fun _ hi => update_of_ne hi .., fun _ _ => rfl⟩

lemma ownStep_forgetCreated2 (s : CellMux) : OwnStep s (s.forgetCreated2 id) id :=
  ⟨rfl, fun _ h => h, List.Subset.refl _, rfl, rfl, fun _ _ => rfl, fun _ hi => update_of_ne hi .., fun _ _ => rfl⟩

lemma holding_eq_none (h : s.awaited id = none) : s.holding id = none := by
  rw [holding, h, bind_none]

lemma OwnStep.keeps (h : OwnStep s s' id) (hnone : s.awaited id = none) : Keeps s s' id :=
  ⟨h, fun _ _ _ hheld => by rw [holding_eq_none hnone] at hheld; cases hheld⟩

lemma holding_fetch (hsent : s.creator id = .sent) (hheld : s.holding id = some c) :
    ((s.expectCreated2 id).1.setCreator id (.waiting (s.expectCreated2 id).2)).holding id = some c := by
  obtain ⟨ch, hch, hc⟩ := bind_eq_some_iff.1 hheld
  have hcreated : s.created id = some ch := by simpa [awaited, hsent] using hch
  have hexp : s.expectCreated2 id = (s, ch) := by simp [expectCreated2, hcreated]
  refine bind_eq_some_iff.2 ⟨ch, ?_, by rw [hexp]; exact hc⟩
  simp [awaited, setCreator, hexp]

lemma keeps_creator (hstep : s.step (.creator id) = some s') : Keeps s s' id := by
  simp only [step] at hstep
  split at hstep
  · next hp =>
    cases hstep
    exact (s.ownStep_registerCircuit.trans (ownStep_setCreator _)).keeps (by simp [awaited, hp])
  · next hp =>
    cases hstep
    exact (s.ownStep_expectCreated2.trans (ownStep_setCreator _)).keeps (by simp [awaited, hp])
  · next hp =>
    cases hstep
    exact ⟨s.ownStep_expectCreated2.trans (ownStep_setCreator _), fun _ _ _ hheld => .inr (holding_fetch hp hheld)⟩
  · next err hp =>
    cases hstep
    exact (s.ownStep_forgetCreated2.trans (ownStep_setCreator _)).keeps (by simp [awaited, hp])
  · next r hp =>
    cases hstep
    exact (s.ownStep_forgetCreated2.trans (ownStep_setCreator _)).keeps (by simp [awaited, hp])
  · cases hstep

lemma keeps_giveUp (hgood : ∀ m ∈ s.holding id, m.isDestroy = false) : Keeps s (s.setCreator id p) id := by
  refine ⟨s.ownStep_setCreator, fun c hd _ hheld => ?_⟩
  rw [hgood c hheld] at hd
  cases hd

lemma keeps_sendCreate2 {err : Option String} (hgood : s.Attentive (.sendCreate2 id err))
    (hstep : s.step (.sendCreate2 id err) = some s') : Keeps s s' id := by
  simp only [step] at hstep
  split at hstep
  · next hp =>
    cases hstep
    cases err with
    | some e => exact keeps_giveUp hgood
    | none =>
      refine ⟨s.ownStep_setCreator, fun c _ _ hheld => .inr ?_⟩
      rw [← hheld]
      simp [holding, awaited, setCreator, hp]
  · cases hstep

lemma ownStep_takeCreated (s : CellMux) {ch : ℕ} {m : MuxCell} : OwnStep s (s.takeCreated id ch m) id := by
  unfold takeCreated
  split
  · exact ⟨rfl, fun _ h => h, subset_append_left _ _, rfl, rfl, fun _ hi => update_of_ne hi .., fun _ _ => rfl,
      fun _ hi => update_of_ne hi ..⟩
  · exact ⟨rfl, fun _ h => h, List.Subset.refl _, rfl, rfl, fun _ hi => update_of_ne hi .., fun _ _ => rfl,
      fun _ hi => update_of_ne hi ..⟩

lemma keeps_select {choice : WaitChoice} (hgood : s.Attentive (.select id choice))
    (hstep : s.step (.select id choice) = some s') : Keeps s s' id := by
  simp only [step] at hstep
  split at hstep
  · next ch hp =>
    cases choice with
    | ctxDone err =>
      cases hstep
      exact keeps_giveUp hgood
    | muxClosed =>
      simp only [waitSelect] at hstep
      split at hstep
      · cases hstep
        exact keeps_giveUp hgood
      · cases hstep
    | cell =>
      obtain ⟨m, hm, rfl⟩ := map_eq_some_iff.1 hstep
      refine ⟨s.ownStep_takeCreated, fun c hd hid hheld => .inl (.inl ?_)⟩
      -- the cell taken is the one held: `WaitCreated2` returns an error for it
      obtain rfl : m = c := by
        simp only [holding, awaited, hp] at hheld
        exact some.inj (hm.symm.trans hheld)
      simp [takeCreated, hd, hid]
  · cases hstep

end Creator

/-! ### Every run -/

lemma tracked_step {s s' : CellMux} {lbl : MuxLabel} (h : ∀ c ∈ s.destroys, s.Tracked c)
    (hgood : s.Attentive lbl) (hstep : s.step lbl = some s') :
    ∀ c ∈ s'.destroys, s'.Tracked c := by
  cases lbl with
  | reader =>
    simp only [step] at hstep
    split at hstep
    · next hr =>
      cases hstep
      refine fun c hc => (h c hc).moveReader fun he => ?_
      rw [hr] at he
      cases he
    · next m hr =>
      cases hstep
      obtain ⟨r, hs', -⟩ := s.dispatch_eq m
      refine fun c hc => (h c ?_).dispatch hr
      rwa [hs'] at hc
    · next ch m hr =>
      cases hstep
      refine fun c hc => (h c ?_).offer hr hgood
      unfold offer at hc
      dsimp only at hc
      split at hc <;> exact hc
    · next m hr =>
      cases hstep
      refine fun c hc => (h c ?_).findCircuit hr
      unfold findCircuit at hc
      split at hc <;> exact hc
    · cases hstep
    · cases hstep
  | receive c' =>
    simp only [step] at hstep
    split at hstep
    · next hr =>
      cases hstep
      intro c hc
      by_cases hmem : c ∈ s.destroys
      · exact (h c hmem).receive hr c'
      -- the cell just read
      simp only [receive] at hc
      split at hc
      · next hnew =>
        obtain rfl := mem_singleton.1 ((mem_append.1 hc).resolve_left hmem)
        simp only [Bool.and_eq_true] at hnew
        exact ⟨hnew.1, hnew.2, .inr (.inl rfl)⟩
      · exact absurd hc hmem
    · cases hstep
  | receiveFails =>
    simp only [step] at hstep
    split at hstep
    · next hr =>
      cases hstep
      refine fun c hc => (h c hc).step id (List.Subset.refl _) (List.Subset.refl _) (fun he => ?_)
        fun he => .inr (.inr he)
      rw [hr] at he
      cases he
    · cases hstep
  | closeMux =>
    cases hstep
    exact fun c hc => (h c hc).step id (List.Subset.refl _) (List.Subset.refl _)
      (fun he => .inr (.inl he)) fun he => .inr (.inr he)
  | creator i =>
    have hk := keeps_creator hstep
    exact fun c hc => hk.tracked (h c (hk.destroys ▸ hc))
  | sendCreate2 i err =>
    have hk := keeps_sendCreate2 hgood hstep
    exact fun c hc => hk.tracked (h c (hk.destroys ▸ hc))
  | select i choice =>
    have hk := keeps_select hgood hstep
    exact fun c hc => hk.tracked (h c (hk.destroys ▸ hc))

/-- Nothing is on its way to a circuit while the reader is between two cells and the creation
of the circuit is over. -/
lemma not_onItsWay {s : CellMux} {c : MuxCell} (hreader : s.reader.carries = none)
    (hdone : (s.creator c.cell.circID).isDone = true) : ¬ s.OnItsWay c := by
  rintro (hc | hc)
  · rw [hreader] at hc
    cases hc
  have hnone : s.awaited c.cell.circID = none := by
    unfold awaited
    cases hp : s.creator c.cell.circID with
    | expecting | sent | waiting =>
      rw [hp] at hdone
      cases hdone
    | idle | registered | withdrawing | leaving | done => rfl
  rw [holding_eq_none hnone] at hc
  cases hc

end CellMux

/-- **No DESTROY is lost to an attentive waiter.**  In every run whose DESTROY cells find the
channel empty and the waiter still to read from it, each DESTROY read for a registered circuit
has been observed, by its `WaitCreated2` or by the circuit, or is on its way to one of them; it
has been observed once the reader is between two cells and the creation is over. -/
theorem mux_destroy_observed (s s' : CellMux) (ls : List MuxLabel) (hs : FreshMux s)
    (hgood : RunMeets step CellMux.Attentive s ls)
    (hrun : run step s ls = some s') :
    ∀ c ∈ s'.destroys, (s'.Observed c ∨ s'.OnItsWay c) ∧
      (s'.reader.carries = none → (s'.creator c.cell.circID).isDone = true → s'.Observed c) := by
  have hstep : ∀ (s : CellMux) (lbl : MuxLabel) (s' : CellMux),
      (∀ c ∈ s.destroys, s.Tracked c) → s.Attentive lbl → s.step lbl = some s' → ∀ c ∈ s'.destroys, s'.Tracked c :=
    fun _ _ _ h hg hstep => tracked_step h hg hstep
  have hinv := run_inv hstep (by simp [hs.destroys]) hgood hrun
  intro c hc
  have hsafe := (hinv c hc).safe
  exact ⟨hsafe, fun hreader hdone =>
    hsafe.resolve_right (not_onItsWay hreader hdone)⟩

/-! ### One circuit -/

theorem freshMux_default : FreshMux {} := ⟨fun _ => rfl, rfl, rfl⟩

/-- The goroutine of circuit 5 registers it, announces itself, sends CREATE2 and waits. -/
def createFive : List MuxLabel :=
  [.creator 5, .creator 5, .sendCreate2 5 none, .creator 5]

def readCell (c : Cell) : List MuxLabel := [.reader, .receive c, .reader, .reader]

def created2Cell : Cell := { circID := 5, command := Command.created2, payload := [0, 0] }

def destroyCell : Cell := { circID := 5, command := Command.destroy, payload := [1] }

def refused : List MuxLabel :=
  createFive ++ readCell destroyCell ++ [.select 5 .cell, .creator 5]

theorem mux_destroy_observed_refused :
    FreshMux {} ∧ RunMeets step CellMux.Attentive {} refused ∧
      ∃ s', run step {} refused = some s' ∧ s'.destroys = [⟨0, destroyCell⟩] ∧
        s'.Observed ⟨0, destroyCell⟩ := by
  have hgood : RunMeets step CellMux.Attentive {} refused := by decide +kernel
  obtain ⟨s', hrun, hd, hr, hdone⟩ : ∃ s', run step {} refused = some s' ∧
      s'.destroys = [⟨0, destroyCell⟩] ∧ s'.reader = .top ∧ (s'.creator 5).isDone = true := by
    decide +kernel
  have hobs := mux_destroy_observed {} s' refused freshMux_default hgood hrun ⟨0, destroyCell⟩
    (by rw [hd]; exact mem_singleton_self _)
  exact ⟨freshMux_default, hgood, s', hrun, hd, hobs.2 (by rw [hr]; rfl) hdone⟩

/-- The relay accepts the circuit and tears it down at once: the DESTROY finds the CREATED2
still in the channel. -/
def tornDownAtOnce : List MuxLabel :=
  createFive ++ readCell created2Cell ++ readCell destroyCell ++ [.select 5 .cell, .creator 5]

theorem mux_drops_destroy :
    FreshMux {} ∧
      ∃ s', run step {} tornDownAtOnce = some s' ∧ s'.destroys = [⟨1, destroyCell⟩] ∧
        s'.reader = .top ∧ (s'.creator 5).accepted = some ⟨0, created2Cell⟩ ∧
        s'.circuits 5 = true ∧ s'.waitErrors = [] ∧ s'.told = [] :=
  ⟨freshMux_default, by decide +kernel⟩

end GoTor.Circuit
