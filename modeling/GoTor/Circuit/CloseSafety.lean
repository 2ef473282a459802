import GoTor.Circuit.DeliverNet

/-!
# Closing a circuit under delivery

`Close` closes the receive channel and sets its field to nil in one critical section, so no
second `Close` finds a channel to close, and a delivery that looks for the channel later finds
none.  A delivery that has fetched the channel before is another matter: it sends without a
lock, and on a channel that was closed in between the send panics (`send_on_closed`).
-/

namespace GoTor.Circuit

open GoTor.Lib GoTor.Crypto GoTor.Cell GoTor.Relay Function DeliverState Shared Option

variable {ι : Type}

/-- How a delivery may end that started after a `Close` had returned: with an error, or
without the cell having been meant for a reader. -/
def LateOk : Except String Outcome → Prop
  | .error _ => True
  | .ok .unrecognised => True
  | .ok .sendme => True
  | .ok .conflux => False
  | .ok .queued => False

/-- The condition on a step: no `Close` closes a channel that a delivery has fetched and not
finished its `select` on. -/
def ClosesIdle {Tid : Type} (s : DeliverState Tid) (_ : Tid) (a : DeliverAct) (_ : DeliverChoice) : Prop :=
  match a with
  | .closeSection m => (s.shared.circ m).state ≠ .closed → (s.chan m).isSet = true → ∀ x ∈ s.sending, x.2 ≠ m
  | _ => True

instance {Tid : Type} (s : DeliverState Tid) (t : Tid) (a : DeliverAct) (ch : DeliverChoice) :
    Decidable (ClosesIdle s t a ch) := by
  unfold ClosesIdle
  split <;> infer_instance

/-! ### The contract of the goroutines -/

/-- What a goroutine knows: the circuit whose `Close` had returned when its delivery
started, the channel it has fetched, and the circuits whose `Close` section it has run. -/
structure CloseGhost where
  late : Option Leg := none
  ref : Option Leg := none
  ran : List Leg := []

/-- A goroutine sends only on a channel it has fetched, sets no circuit to closed but in
`Close`, and ends late deliveries as it should. -/
def closeContract : Contract DeliverAct DeliverAct.Resp CloseGhost where
  pre ℓ
    | .fetchChan _ => ℓ.ref = none
    | .offer m _ => ℓ.ref = some m
    | .setState _ state => state ≠ .closed
    | .deliveryEnds m late r => late = true → ℓ.late = some m ∧ LateOk r
    | .closeReturns m => m ∈ ℓ.ran
    | _ => True
  post ℓ
    | .deliveryStarts m, r, ℓ' => ℓ' = { ℓ with late := if r then some m else none }
    | .confluxSet m, r, ℓ' => ℓ' = ℓ ∧ (ℓ.late = some m → r = false)
    | .fetchChan m, r, ℓ' =>
      ℓ' = { ℓ with ref := if r then some m else none } ∧ (ℓ.late = some m → r = false)
    | .offer _ _, _, ℓ' => ℓ' = { ℓ with ref := none }
    | .closeSection m, _, ℓ' => ℓ' = { ℓ with ran := m :: ℓ.ran }
    | _, _, ℓ' => ℓ' = ℓ

section Meets

variable {m : Leg} {ℓ : CloseGhost} {rc : RelayCell}

lemma meets_reads {R : Type} {p : DeliverProg R} (hp : p.Always fun a => a.reads = true) :
    Meets closeContract ℓ p fun ℓ' _ => ℓ' = ℓ := by
  refine meets_of_always ?_ hp rfl
  rintro _ a rfl ha
  cases a with
  | quiet q | peekChan l | receive l sid opening chanSet => exact ⟨trivial, fun _ _ h => h⟩
  | _ => cases ha

/-- Between two sends a goroutine holds no channel, and keeps what it knows. -/
structure Keeps (ℓ ℓ' : CloseGhost) : Prop where
  late : ℓ'.late = ℓ.late
  ref : ℓ'.ref = none
  ran : ℓ.ran ⊆ ℓ'.ran

lemma Keeps.refl (hℓ : ℓ.ref = none) : Keeps ℓ ℓ := ⟨rfl, hℓ, fun _ h => h⟩

lemma Keeps.trans {ℓ1 ℓ2 ℓ3 : CloseGhost} (h1 : Keeps ℓ1 ℓ2) (h2 : Keeps ℓ2 ℓ3) : Keeps ℓ1 ℓ3 :=
  ⟨h2.late.trans h1.late, h2.ref, fun _ h => h2.ran (h1.ran h)⟩

open Keeps Prog

lemma meets_closeCircuit (depth : ℕ) (m : Leg) (hℓ : ℓ.ref = none) :
    Meets closeContract ℓ (closeCircuit depth m) fun ℓ' _ => Keeps ℓ ℓ' := by
  induction depth generalizing ℓ m with
  | zero => exact refl hℓ
  | succ depth ih =>
    refine ⟨trivial, ?_⟩
    rintro r _ rfl
    -- from here on the section of `Close` has run
    set ℓ1 : CloseGhost := { ℓ with ran := m :: ℓ.ran } with hℓ1
    have hran : Keeps ℓ ℓ1 := ⟨rfl, hℓ, fun _ h => List.mem_cons_of_mem m h⟩
    have hreturn : ∀ ℓ', Keeps ℓ1 ℓ' → Meets closeContract ℓ'
        (act (DeliverAct.closeReturns m) done) fun ℓ' _ => Keeps ℓ ℓ' := by
      intro ℓ' hkeeps
      refine ⟨hkeeps.ran (by simp [hℓ1]), ?_⟩
      rintro _ _ rfl
      exact hran.trans hkeeps
    rcases r with _ | inSet
    · exact hreturn ℓ1 (refl hℓ)
    refine ⟨trivial, ?_⟩
    rintro _ _ rfl
    cases inSet with
    | false => exact hreturn ℓ1 (refl hℓ)
    | true =>
      refine ⟨trivial, ?_⟩
      rintro others _ rfl
      show Meets _ _ ((forEach others _).bind _) _
      rw [meets_bind]
      refine (meets_forEach (I := Keeps ℓ1) ?_ others (refl hℓ)).imp ?_
      · intro o ℓ' hkeeps
        refine ⟨trivial, ?_⟩
        rintro _ _ rfl
        exact (ih o hkeeps.ref).imp fun _ _ h => hkeeps.trans h
      · exact fun ℓ' _ h => hreturn ℓ' h

lemma meets_failAndClose (hℓ : ℓ.ref = none) :
    Meets closeContract ℓ failAndClose fun ℓ' _ => Keeps ℓ ℓ' := by
  refine ⟨trivial, ?_⟩
  rintro legs _ rfl
  refine meets_forEach ?_ legs (refl hℓ)
  intro l ℓ' hkeeps
  refine ⟨trivial, ?_⟩
  rintro _ _ rfl
  exact (meets_closeCircuit 2 l hkeeps.ref).imp fun _ _ h => hkeeps.trans h

lemma meets_fetch_and_send (hℓ : ℓ.ref = none) :
    Meets closeContract ℓ (enqueueRelayCell m rc) fun ℓ' r =>
      ℓ' = ℓ ∧ (ℓ.late = some m → ∃ e, r = .error e) := by
  obtain ⟨late, ref, ran⟩ := ℓ
  obtain rfl : ref = none := hℓ
  refine ⟨rfl, ?_⟩
  rintro (_ | _) _ ⟨rfl, hlate⟩
  · exact ⟨rfl, fun _ => ⟨_, rfl⟩⟩
  · refine ⟨rfl, ?_⟩
    rintro r _ rfl
    exact ⟨rfl, fun h => absurd (hlate h) (by simp)⟩

lemma meets_enqueueAll (due : List RelayCell) (hℓ : ℓ.ref = none) :
    Meets closeContract ℓ (enqueueAll due) fun ℓ' _ => ℓ' = ℓ := by
  induction due with
  | nil => rfl
  | cons rc rest ih =>
    show Meets _ _ ((enqueueRelayCell .primary rc).bind _) _
    rw [meets_bind]
    refine (meets_fetch_and_send hℓ).imp ?_
    rintro _ (e | _) ⟨rfl, -⟩
    · rfl
    · exact ih

variable {l : Leg} {hopIdx : ℕ} {id : UInt32}

lemma meets_fromExit {handler : DeliverProg (Except String Unit)}
    (h : Meets closeContract ℓ handler fun ℓ' _ => ℓ' = ℓ) :
    Meets closeContract ℓ (fromExit l hopIdx handler) fun ℓ' _ => ℓ' = ℓ := by
  have hexit : (requireExitHop l hopIdx).Always fun a => a.reads = true := by
    refine ⟨rfl, fun n => ?_⟩
    simp only [done_bind]
    split <;> trivial
  unfold fromExit
  simp only [bind_eq, meets_bind]
  refine (meets_reads hexit).imp ?_
  rintro _ (e | _) rfl
  · rfl
  simp only [meets_bind]
  refine h.imp ?_
  rintro _ (e | _) rfl <;> rfl

lemma handleLinked_reads : (handleLinked l rc).Always fun a => a.reads = true := by
  unfold handleLinked
  split
  · trivial
  refine ⟨rfl, ?_⟩
  rintro (e | _)
  · trivial
  refine ⟨rfl, ?_⟩
  rintro (e | _)
  · trivial
  · exact ⟨rfl, fun _ => trivial⟩

lemma handleSwitch_reads : (handleSwitch l rc).Always fun a => a.reads = true := by
  unfold handleSwitch
  split
  · trivial
  split
  · trivial
  · exact ⟨rfl, fun _ => trivial⟩

lemma meets_onRelayCell (hℓ : ℓ.ref = none) :
    Meets closeContract ℓ (onRelayCell id l rc hopIdx) fun ℓ' _ => ℓ' = ℓ := by
  unfold onRelayCell
  split
  · exact meets_fromExit (meets_reads handleLinked_reads)
  split
  · exact meets_fromExit (meets_reads handleSwitch_reads)
  split
  · rfl
  split
  · rfl
  refine ⟨trivial, ?_⟩
  rintro linked _ rfl
  simp only [done_bind]
  split
  · refine meets_fromExit ⟨trivial, ?_⟩
    rintro (e | due) _ rfl
    · rfl
    · exact meets_enqueueAll due hℓ
  · rfl

/-- How a delivery ends: no channel in hand, and as it should if it was late. -/
def EndsWell (ℓ : CloseGhost) (m : Leg) (ℓ' : CloseGhost) (r : Except String Outcome) : Prop :=
  Keeps ℓ ℓ' ∧ (ℓ.late = some m → LateOk r)

lemma meets_passes_on (hℓ : ℓ.ref = none) :
    Meets closeContract ℓ (passToReader id m rc hopIdx) (EndsWell ℓ m) := by
  have henqueue : ∀ {k}, (∀ e, k (.error e) = done (.error e)) → (∀ u, k (.ok u) = done (.ok .queued)) →
      Meets closeContract ℓ ((enqueueRelayCell m rc).bind k) (EndsWell ℓ m) := by
    intro k herr hok
    rw [meets_bind]
    refine (meets_fetch_and_send hℓ).imp ?_
    rintro _ (e | u) ⟨rfl, hlate⟩
    · rw [herr]
      exact ⟨refl hℓ, fun _ => trivial⟩
    · rw [hok]
      refine ⟨refl hℓ, fun h => ?_⟩
      obtain ⟨e, he⟩ := hlate h
      cases he
  refine ⟨trivial, ?_⟩
  rintro (_ | _) ℓ ⟨rfl, hlate⟩
  · exact henqueue (fun _ => rfl) fun _ => rfl
  have hearly : ∀ r, ℓ.late = some m → LateOk r := fun r h => absurd (hlate h) (by simp)
  simp only [done_bind, if_true, bind_eq, meets_bind]
  refine (meets_onRelayCell hℓ).imp ?_
  rintro ℓ (e | _ | _) rfl
  · simp only [meets_bind]
    refine (meets_failAndClose hℓ).imp ?_
    intro ℓ' _ hkeeps
    refine ⟨trivial, ?_⟩
    rintro _ _ rfl
    exact ⟨hkeeps, fun _ => trivial⟩
  · exact henqueue (fun _ => rfl) fun _ => rfl
  · exact ⟨refl hℓ, hearly _⟩

lemma countData_reads {v1 : Bool} : (countData l v1 rc).Always fun a => a.reads = true := by
  refine ⟨rfl, ?_⟩
  rintro (e | _)
  · trivial
  split
  · refine ⟨rfl, ?_⟩
    rintro (e | _)
    · trivial
    · exact ⟨rfl, fun _ => trivial⟩
  · trivial

lemma meets_takeSendme (hℓ : ℓ.ref = none) :
    Meets closeContract ℓ (takeSendme l rc) (EndsWell ℓ m) := by
  unfold takeSendme
  split
  · refine ⟨trivial, ?_⟩
    rintro (e | _) ℓ rfl
    · refine ⟨nofun, ?_⟩
      rintro _ ℓ rfl
      refine ⟨trivial, ?_⟩
      rintro _ ℓ rfl
      exact ⟨refl hℓ, fun _ => trivial⟩
    · exact ⟨refl hℓ, fun _ => trivial⟩
  · refine ⟨trivial, ?_⟩
    rintro _ ℓ rfl
    exact ⟨refl hℓ, fun _ => trivial⟩

lemma meets_delivery {cd : LinkCell} (hℓ : ℓ.ref = none) :
    Meets closeContract ℓ (deliverRelayCell id m cd) (EndsWell ℓ m) := by
  have hstop : ∀ e, EndsWell ℓ m ℓ (.error e) := fun e => ⟨refl hℓ, fun _ => trivial⟩
  unfold deliverRelayCell
  split
  · exact hstop _
  refine ⟨trivial, ?_⟩
  rintro (e | o) ℓ rfl
  · exact hstop _
  refine ⟨trivial, ?_⟩
  rintro (e | _) ℓ rfl
  · exact hstop _
  simp only [done_bind]
  split
  · exact ⟨refl hℓ, fun _ => trivial⟩
  split
  · exact hstop _
  split
  · simp only [bind_eq, meets_bind]
    refine (meets_reads countData_reads).imp ?_
    rintro ℓ (e | _) rfl
    · exact hstop _
    · exact meets_passes_on hℓ
  split
  · exact meets_takeSendme hℓ
  · exact meets_passes_on hℓ

lemma meets_closers {start : Shared} {cells : Leg → List LoopCell} {calls : ι → List CircuitCall} (t : Goroutine ι) :
    Meets closeContract {} ((readersOf start cells calls).threads t) fun _ _ => True := by
  have hidle : ∀ {p : DeliverProg Unit},
      Meets closeContract {} p (fun ℓ' _ => ℓ'.ref = none) →
      Meets closeContract {} p fun _ _ => True := fun h => h.imp fun _ _ _ => trivial
  cases t with
  | loop m =>
    refine hidle (meets_forEach ?_ (cells m) rfl)
    rintro (cell | reason) ℓ hℓ
    · -- a relay cell
      refine ⟨trivial, ?_⟩
      rintro late _ rfl
      simp only [bind_eq, done_bind, meets_bind]
      refine Meets.imp (meets_delivery ?_) ?_
      · exact hℓ
      rintro ℓ' r ⟨hkeeps, hlate⟩
      refine ⟨?_, ?_⟩
      · rintro rfl
        exact ⟨hkeeps.late, hlate rfl⟩
      · rintro _ _ rfl
        exact hkeeps.ref
    · -- a DESTROY cell
      refine ⟨trivial, ?_⟩
      rintro _ _ rfl
      exact (meets_closeCircuit 2 m hℓ).imp fun _ _ h => h.ref
  | other i =>
    refine hidle (meets_forEach ?_ (calls i) rfl)
    rintro call ℓ hℓ
    cases call with
    | readFromStream l sid fuel =>
      refine (meets_bind ..).2 ((meets_reads (readFromStream_reads l fuel)).imp ?_)
      rintro _ _ rfl
      exact hℓ
    | waitStreamConnected l sid fuel =>
      refine (meets_bind ..).2 ((meets_reads (waitStreamConnected_reads l fuel)).imp ?_)
      rintro _ _ rfl
      exact hℓ
    | close l => exact (meets_closeCircuit 2 l hℓ).imp fun _ _ h => h.ref
    | setOpen l =>
      refine ⟨by rintro ⟨⟩, ?_⟩
      rintro _ _ rfl
      exact hℓ
    | sendCircuitSendme l ok =>
      refine ⟨trivial, ?_⟩
      rintro _ ℓ rfl
      cases ok with
      | true => exact hℓ
      | false =>
        refine ⟨by rintro ⟨⟩, ?_⟩
        rintro _ ℓ rfl
        refine ⟨trivial, ?_⟩
        rintro _ ℓ rfl
        exact hℓ
    | sendStreamSendme l sid =>
      refine ⟨trivial, ?_⟩
      rintro _ ℓ rfl
      exact hℓ

end Meets

/-! ### What holds in every run -/

/-- The circuit's channel field is nil and it is in no set, and stays so. -/
def DeliverState.Shut {Tid : Type} (s : DeliverState Tid) (m : Leg) : Prop :=
  (s.chan m).isSet = false ∧ (s.shared.circ m).conflux = false

/-- What the section of `Close` does to an open circuit. -/
structure DeliverState.Shuts {Tid : Type} (s : DeliverState Tid) (m : Leg)
    (s' : DeliverState Tid) : Prop where
  chan_ne : ∀ k, k ≠ m → s'.chan k = s.chan k
  circ_ne : ∀ k, k ≠ m → s'.shared.circ k = s.shared.circ k
  unset : (s'.chan m).isSet = false
  closed : (s'.chan m).closed = ((s.chan m).closed || (s.chan m).isSet)
  conflux : (s'.shared.circ m).conflux = false
  panicked : s'.panicked =
    if (s.chan m).isSet && (s.chan m).closed then some .closeOfClosed else s.panicked
  closeReturned : s'.closeReturned = s.closeReturned
  sending : s'.sending = s.sending
  deliveries : s'.deliveries = s.deliveries

lemma closeSection_shuts {Tid : Type} {s : DeliverState Tid} {m : Leg}
    (hstate : (s.shared.circ m).state ≠ .closed) :
    ∃ s', s.closeSection m = (some (s.shared.circ m).conflux, s') ∧ s.Shuts m s' := by
  unfold closeSection
  rw [if_neg hstate]
  have hcirc : ∀ (c : Circ) k, k ≠ m → (s.shared.setCirc m c).circ k = s.shared.circ k :=
    fun c k hk => by simp [setCirc, hk]
  split
  · next hset =>
    refine ⟨_, rfl, ?_⟩
    exact
      { chan_ne := fun k hk => by simp [setChan, hk]
        circ_ne := fun k hk => hcirc _ k hk
        unset := by simp [setChan]
        closed := by simp [setChan, hset]
        conflux := by simp [setChan, setCirc]
        panicked := by simp [hset]
        closeReturned := rfl
        sending := rfl
        deliveries := rfl }
  next hset =>
  refine ⟨_, rfl, ?_⟩
  exact
    { chan_ne := fun k hk => rfl
      circ_ne := fun k hk => hcirc _ k hk
      unset := by simpa using hset
      closed := by simp [hset]
      conflux := by simp [setCirc]
      panicked := by simp [hset]
      closeReturned := rfl
      sending := rfl
      deliveries := rfl }

section Safety

variable {P : Primitives} {sha256 : Bytes → Vector UInt8 32} {strict : Prop}
  {s s' : DeliverState (Goroutine ι)} {ℓ : Goroutine ι → CloseGhost} {t : Goroutine ι} {m : Leg}

/-- The invariant.  In runs that close no channel in use (`strict`) it also says that no one
is about to send on a closed channel. -/
structure CloseInv (strict : Prop) (s : DeliverState (Goroutine ι))
    (ℓ : Goroutine ι → CloseGhost) : Prop where
  closed_iff : ∀ m, (s.chan m).closed = !(s.chan m).isSet
  state : ∀ m, (s.shared.circ m).state = .closed → s.Shut m
  returned : ∀ m, s.closeReturned m = true → s.Shut m
  late : ∀ t m, (ℓ t).late = some m → s.Shut m
  ran : ∀ t, ∀ m ∈ (ℓ t).ran, s.Shut m
  ref : ∀ t m, (ℓ t).ref = some m → (t, m) ∈ s.sending
  deliveries : ∀ d ∈ s.deliveries, d.2.1 = true → LateOk d.2.2
  panicked : s.panicked ≠ some .closeOfClosed
  sending_open : strict → ∀ x ∈ s.sending, (s.chan x.2).closed = false
  no_panic : strict → s.panicked = none

variable (h : CloseInv strict s ℓ)
include h

lemma CloseInv.frame
    (hcirc : ∀ m, (s'.shared.circ m).conflux = (s.shared.circ m).conflux ∧
      (s'.shared.circ m).state = (s.shared.circ m).state)
    (hset : ∀ m, (s'.chan m).isSet = (s.chan m).isSet)
    (hclosed : ∀ m, (s'.chan m).closed = (s.chan m).closed)
    (hreturned : s'.closeReturned = s.closeReturned) (hsending : s'.sending = s.sending)
    (hdeliveries : s'.deliveries = s.deliveries) (hpanicked : s'.panicked = s.panicked) :
    CloseInv strict s' ℓ := by
  have hshut : ∀ m, s.Shut m → s'.Shut m := by
    rintro m ⟨hs, hc⟩
    exact ⟨(hset m).trans hs, (hcirc m).1.trans hc⟩
  exact
    { closed_iff := fun m => by rw [hclosed, hset]; exact h.closed_iff m
      state := fun m hm => hshut m (h.state m ((hcirc m).2 ▸ hm))
      returned := fun m hm => hshut m (h.returned m (hreturned ▸ hm))
      late := fun t m hm => hshut m (h.late t m hm)
      ran := fun t m hm => hshut m (h.ran t m hm)
      ref := by rw [hsending]; exact h.ref
      deliveries := by rw [hdeliveries]; exact h.deliveries
      panicked := by rw [hpanicked]; exact h.panicked
      sending_open := fun hs x hx => (hclosed x.2).trans (h.sending_open hs x (hsending ▸ hx))
      no_panic := by rw [hpanicked]; exact h.no_panic }

lemma CloseInv.closeSection
    (hgood : strict → (s.shared.circ m).state ≠ .closed → (s.chan m).isSet = true → ∀ x ∈ s.sending, x.2 ≠ m) :
    CloseInv strict (s.closeSection m).2 ℓ ∧ (s.closeSection m).2.Shut m := by
  by_cases hstate : (s.shared.circ m).state = .closed
  · -- it was closed before
    rw [show s.closeSection m = (none, s) by simp [DeliverState.closeSection, hstate]]
    exact ⟨h, h.state m hstate⟩
  obtain ⟨s', hs', hshuts⟩ := closeSection_shuts hstate
  rw [hs']
  have hm : s'.Shut m := ⟨hshuts.unset, hshuts.conflux⟩
  have hshut : ∀ k, s.Shut k → s'.Shut k := by
    intro k hk
    by_cases hkm : k = m
    · exact hkm ▸ hm
    · unfold DeliverState.Shut
      rw [hshuts.chan_ne k hkm, hshuts.circ_ne k hkm]
      exact hk
  -- the channel is closed only if the field is set, so never twice
  have hpanic : s'.panicked = s.panicked := by
    rw [hshuts.panicked, h.closed_iff m]
    cases (s.chan m).isSet <;> rfl
  refine ⟨?_, hm⟩
  exact
    { closed_iff := by
        intro k
        by_cases hkm : k = m
        · subst hkm
          rw [hshuts.closed, hshuts.unset, h.closed_iff k]
          cases (s.chan k).isSet <;> rfl
        · rw [hshuts.chan_ne k hkm]
          exact h.closed_iff k
      state := by
        intro k hk
        by_cases hkm : k = m
        · exact hkm ▸ hm
        · exact hshut k (h.state k (hshuts.circ_ne k hkm ▸ hk))
      returned := fun k hk => hshut k (h.returned k (hshuts.closeReturned ▸ hk))
      late := fun t k hk => hshut k (h.late t k hk)
      ran := fun t k hk => hshut k (h.ran t k hk)
      ref := by rw [hshuts.sending]; exact h.ref
      deliveries := by rw [hshuts.deliveries]; exact h.deliveries
      panicked := by rw [hpanic]; exact h.panicked
      sending_open := by
        intro hstrict x hx
        rw [hshuts.sending] at hx
        have hopen := h.sending_open hstrict x hx
        -- nobody is sending on it, by the condition
        by_cases hset : (s.chan m).isSet = true
        · rw [hshuts.chan_ne x.2 (hgood hstrict hstate hset x hx)]
          exact hopen
        · by_cases hxm : x.2 = m
          · have hclosed := h.closed_iff m
            rw [hxm, hclosed] at hopen
            simp [hset] at hopen
          · rw [hshuts.chan_ne x.2 hxm]
            exact hopen
      no_panic := by rw [hpanic]; exact h.no_panic }

lemma CloseInv.setCirc {c : Circ}
    (hconflux : (s.shared.circ m).conflux = false → c.conflux = false)
    (hstate : c.state = .closed → (s.shared.circ m).state = .closed) :
    CloseInv strict { s with shared := s.shared.setCirc m c } ℓ := by
  have hshut : ∀ k, s.Shut k →
      ({ s with shared := s.shared.setCirc m c } : DeliverState (Goroutine ι)).Shut k := by
    rintro k ⟨hset, hk⟩
    refine ⟨hset, ?_⟩
    by_cases hkm : k = m
    · subst hkm
      simpa [setCirc] using hconflux hk
    · simpa [Shared.setCirc, hkm] using hk
  exact
    { h with
      state := by
        intro k hk
        by_cases hkm : k = m
        · subst hkm
          exact hshut k (h.state k (hstate (by simpa [setCirc] using hk)))
        · exact hshut k (h.state k (by simpa [Shared.setCirc, hkm] using hk))
      returned := fun k hk => hshut k (h.returned k hk)
      late := fun t k hk => hshut k (h.late t k hk)
      ran := fun t k hk => hshut k (h.ran t k hk) }

lemma CloseInv.setQueue {queue : List RelayCell} :
    CloseInv strict (s.setChan m { s.chan m with queue }) ℓ := by
  have hkeep : ∀ k, ((s.setChan m { s.chan m with queue }).chan k).isSet = (s.chan k).isSet ∧
      ((s.setChan m { s.chan m with queue }).chan k).closed = (s.chan k).closed := by
    intro k
    by_cases hk : k = m
    · subst hk
      simp [setChan]
    · simp [setChan, hk]
  exact h.frame (fun _ => ⟨rfl, rfl⟩) (fun k => (hkeep k).1) (fun k => (hkeep k).2) rfl rfl rfl rfl

variable {ch : DeliverChoice}

lemma CloseInv.receive {i : UInt16} {opening chanSet : Bool} {r : Received}
    (hs : s.receive m i opening chanSet ch = some (r, s')) : CloseInv strict s' ℓ := by
  unfold DeliverState.receive at hs
  split at hs
  · cases hs
    exact h
  · obtain ⟨reason, -, hr⟩ := map_eq_some_iff.1 hs
    cases hr
    exact h
  split at hs
  · cases hs
  split at hs
  · next rc queue _ =>
    cases hs
    exact h.setQueue.frame (fun _ => ⟨rfl, rfl⟩) (fun _ => rfl) (fun _ => rfl) rfl rfl rfl rfl
  · split at hs
    · cases hs
      exact h
    · cases hs

omit h

variable [DecidableEq ι]

include h

lemma CloseInv.learn {ℓ' : CloseGhost}
    (hlate : ∀ m, ℓ'.late = some m → s.Shut m) (hran : ∀ m ∈ ℓ'.ran, s.Shut m)
    (href : ∀ m, ℓ'.ref = some m → (t, m) ∈ s.sending) :
    CloseInv strict s (update ℓ t ℓ') :=
  { h with
    late := (forall_update_iff ℓ fun _ g => ∀ m, g.late = some m → s.Shut m).2 ⟨hlate, fun u _ => h.late u⟩
    ran := (forall_update_iff ℓ fun _ g => ∀ m ∈ g.ran, s.Shut m).2 ⟨hran, fun u _ => h.ran u⟩
    ref := (forall_update_iff ℓ fun u g => ∀ m, g.ref = some m → (u, m) ∈ s.sending).2 ⟨href, fun u _ => h.ref u⟩ }

lemma CloseInv.endSend (t : Goroutine ι) (m : Leg) : CloseInv strict { s with
        sending := s.sending.filter (· ≠ (t, m))
        inHand := update s.inHand m none }
      (update ℓ t { ℓ t with ref := none }) := by
  have hnone : CloseInv strict s (update ℓ t { ℓ t with ref := none }) :=
    h.learn (h.late t) (h.ran t) (by simp)
  exact
    { hnone with
      ref := by
        intro u k hk
        by_cases hu : u = t
        · subst hu
          simp at hk
        · simp [hnone.ref u k hk, hu]
      sending_open := fun hstrict x hx => h.sending_open hstrict x (List.mem_of_mem_filter hx) }

lemma CloseInv.offer {rc : RelayCell} {r : Except String Unit} (href : (ℓ t).ref = some m)
    (hs : s.offer t m rc ch = some (r, s')) :
    CloseInv strict s' (update ℓ t { ℓ t with ref := none }) := by
  have hend := h.endSend t m
  unfold DeliverState.offer at hs
  split at hs
  · cases hs
    exact hend
  dsimp only at hs
  split at hs
  · next hclosed =>
    -- the send panics; in a strict run it cannot be
    cases hs
    have hloose : strict → False := fun hstrict =>
      absurd (h.sending_open hstrict _ (h.ref t m href)) (by simp [hclosed])
    exact
      { hend with
        panicked := by simp
        no_panic := fun hstrict => (hloose hstrict).elim }
  split at hs
  · cases hs
    exact hend.setQueue
  · cases hs

lemma CloseInv.fetchChan (hset : (s.chan m).isSet = true) :
    CloseInv strict { s with sending := s.sending ++ [(t, m)] } (update ℓ t { ℓ t with ref := some m }) := by
  have hfetched : CloseInv strict { s with sending := s.sending ++ [(t, m)] } ℓ :=
    { h with
      ref := fun u k hk => List.mem_append_left _ (h.ref u k hk)
      sending_open := by
        intro hstrict
        exact List.forall_mem_append.2 ⟨h.sending_open hstrict,
          List.forall_mem_singleton.2 (by simp [h.closed_iff m, hset])⟩ }
  refine hfetched.learn (hfetched.late t) (hfetched.ran t) ?_
  simp

lemma CloseInv.exec {a : DeliverAct}
    (hpre : closeContract.pre (ℓ t) a) (hgood : strict → ClosesIdle s t a ch)
    {r : a.Resp} (hs : exec P sha256 t a ch s = some (r, s')) :
    ∃ ℓ', closeContract.post (ℓ t) a r ℓ' ∧ CloseInv strict s' (update ℓ t ℓ') := by
  unfold DeliverState.exec at hs
  split at hs
  · cases hs
  have hself : CloseInv strict s (update ℓ t (ℓ t)) := by
    rwa [update_eq_self]
  have hrecord : ∀ {s'}, CloseInv strict s' ℓ →
      CloseInv strict s' (update ℓ t (ℓ t)) := by
    intro s' h'
    rwa [update_eq_self]
  cases a with
  | quiet q =>
    cases hs
    refine ⟨_, rfl, hself.frame ?_ (fun _ => rfl) (fun _ => rfl) rfl rfl rfl rfl⟩
    intro k
    have hq : (s.shared.circ k).Quietly ((q.exec sha256 ch s.shared).2.circ k) :=
      q.exec_quietly k
    exact ⟨hq.conflux, hq.state⟩
  | decryptOnion k cmd payload =>
    have hs' : s' = (s.decryptOnion P k cmd payload).2 :=
      (congrArg Prod.snd (some.inj hs)).symm
    subst hs'
    refine ⟨_, rfl, ?_⟩
    have hhops := hself.setCirc (c := { s.shared.circ k with
      hops := (Circuit.decryptOnion P (s.shared.circ k).hops (cgoAD cmd) payload).1 })
      (fun hk => hk) fun hk => hk
    exact hhops.frame (fun _ => ⟨rfl, rfl⟩) (fun _ => rfl) (fun _ => rfl) rfl rfl rfl rfl
  | confluxSet k =>
    cases hs
    exact ⟨_, ⟨rfl, fun hlate => (h.late t k hlate).2⟩, hself⟩
  | detachConflux k =>
    cases hs
    exact ⟨_, rfl, hself.setCirc (fun _ => rfl) fun hk => hk⟩
  | setState k state =>
    cases hs
    exact ⟨_, rfl, hself.setCirc (fun hk => hk) fun hk => absurd hk hpre⟩
  | fetchChan k =>
    dsimp only at hs
    split at hs
    · next hset =>
      cases hs
      refine ⟨_, ⟨rfl, fun hlate => ?_⟩, h.fetchChan hset⟩
      -- a late delivery would have found the field empty
      have := (h.late t k hlate).1
      simp [hset] at this
    · cases hs
      refine ⟨_, ⟨rfl, fun _ => rfl⟩, ?_⟩
      have hnone : CloseInv strict s (update ℓ t { ℓ t with ref := none }) :=
        h.learn (h.late t) (h.ran t) (by simp)
      exact hnone.frame (fun _ => ⟨rfl, rfl⟩) (fun _ => rfl) (fun _ => rfl) rfl rfl rfl rfl
  | peekChan k => cases hs; exact ⟨_, rfl, hself⟩
  | offer k rc => exact ⟨_, rfl, h.offer hpre hs⟩
  | closeSection k =>
    have hs' : s' = (s.closeSection k).2 := (congrArg Prod.snd (some.inj hs)).symm
    subst hs'
    obtain ⟨hinv, hshut⟩ := h.closeSection hgood
    refine ⟨_, rfl, hinv.learn (hinv.late t) ?_ (hinv.ref t)⟩
    intro n hn
    rcases List.mem_cons.1 hn with rfl | hn
    · exact hshut
    · exact hinv.ran t n hn
  | notifyDestroyed k reason =>
    cases hs
    exact ⟨_, rfl, hself.frame (fun _ => ⟨rfl, rfl⟩) (fun _ => rfl) (fun _ => rfl) rfl rfl rfl rfl⟩
  | receive k i opening chanSet => exact ⟨_, rfl, hself.receive hs⟩
  | deliveryStarts k =>
    cases hs
    refine ⟨_, rfl, h.learn ?_ (h.ran t) (h.ref t)⟩
    intro n hn
    -- a delivery is late if `Close` has returned before it
    by_cases hret : s.closeReturned k = true
    · obtain rfl : k = n := by simpa [hret] using hn
      exact h.returned k hret
    · simp [hret] at hn
  | deliveryEnds k late res =>
    cases hs
    refine ⟨_, rfl, hrecord { h with deliveries := ?_ }⟩
    exact List.forall_mem_append.2 ⟨h.deliveries, List.forall_mem_singleton.2 fun hlate =>
      (hpre hlate).2⟩
  | closeReturns k =>
    cases hs
    refine ⟨_, rfl, hrecord { h with returned := ?_ }⟩
    intro n hn
    -- the section of this call has run
    by_cases hnk : n = k
    · exact hnk ▸ h.ran t k hpre
    · exact h.returned n (by simpa [hnk] using hn)

omit h

/-- **Closing a circuit under delivery.**  In every run, no channel is closed twice, and a
delivery that starts after a `Close` of the circuit has returned ends with an error, unless
no hop recognises its cell or it is a SENDME.  As long as no `Close` closes a channel that a
delivery has fetched and not finished its `select` on, nothing panics. -/
theorem close_under_delivery {start : Shared} (cells : Leg → List LoopCell)
    (calls : ι → List CircuitCall) {sched : List (Goroutine ι × DeliverChoice)}
    {c : Config (Goroutine ι) DeliverAct DeliverAct.Resp (DeliverState (Goroutine ι))}
    (hopen : ∀ m, (start.circ m).state ≠ .closed)
    (hrun : run (stepThread (exec P sha256)) (readersOf start cells calls) sched = some c) :
    c.shared.panicked ≠ some .closeOfClosed ∧
    (∀ d ∈ c.shared.deliveries, d.2.1 = true → LateOk d.2.2) ∧
    (RunMeets (stepThread (exec P sha256)) (OnAction ClosesIdle)
      (readersOf start cells calls) sched → c.shared.panicked = none) := by
  have hstart : ∀ strict, Guarded (fun _ => closeContract) (CloseInv strict) (readersOf start cells calls) := by
    intro strict
    refine ⟨fun _ => {}, ?_, meets_closers⟩
    exact
      { closed_iff := fun _ => rfl
        state := fun m hm => absurd hm (hopen m)
        returned := nofun
        late := nofun
        ran := nofun
        ref := nofun
        deliveries := nofun
        panicked := nofun
        sending_open := fun _ => nofun
        no_panic := fun _ => rfl }
  have hinv : ∀ strict, RunMeets (stepThread (exec P sha256))
      (OnAction fun s t a ch => strict → ClosesIdle s t a ch) (readersOf start cells calls)
      sched → ∃ ℓ, CloseInv strict c.shared ℓ := by
    intro strict hgood
    obtain ⟨ℓ, h, -⟩ := run_meets (fun s ℓ t a ch r s' hi hpre hgood hex =>
      hi.exec hpre hgood hex) (hstart strict) hgood hrun
    exact ⟨ℓ, h⟩
  obtain ⟨ℓ, h⟩ := hinv False (RunMeets.of_forall (onAction_of_forall fun _ _ _ _ => False.elim) _ _)
  refine ⟨h.panicked, h.deliveries, fun hidle => ?_⟩
  obtain ⟨ℓ', h'⟩ := hinv True (hidle.mono fun _ _ => OnAction.imp fun _ _ _ _ hg _ => hg)
  exact h'.no_panic trivial

end Safety

/-! ### Three runs -/

abbrev runClosing (cells : List LoopCell) (sched : List (Goroutine Unit)) :=
  run (stepThread (exec xorPrimitives headHash))
    (readersOf oneHopShared (fun _ => cells) fun _ => [.close .primary]) (sched.map (·, .done))

def closeThenDeliver : List (Goroutine Unit) :=
  List.replicate 3 (.other ()) ++ List.replicate 9 (.loop .primary)

theorem close_under_delivery_late :
    ∃ c, runClosing (oneHopSends [dataCell 2 [98]]) closeThenDeliver = some c ∧
      c.shared.deliveries.map (fun d => (d.2.1, d.2.2.isOk)) = [(true, false)] ∧
      c.shared.panicked = none := by
  have hidle : RunMeets (stepThread (exec xorPrimitives headHash)) (OnAction ClosesIdle) (readersOf oneHopShared
        (fun _ => oneHopSends [dataCell 2 [98]]) fun _ => [.close .primary])
      (closeThenDeliver.map (·, .done)) := by
    decide +kernel
  have hopen : ∀ m, (oneHopShared.circ m).state ≠ .closed := by
    intro m
    show State.opened ≠ .closed
    decide
  exact exists_some_and (by decide +kernel) fun c hc _ =>
    (close_under_delivery (P := xorPrimitives) (fun _ => oneHopSends [dataCell 2 [98]])
      (fun _ => [.close .primary]) hopen hc).2.2 hidle

def closeWhileSending : List (Goroutine Unit) :=
  List.replicate 8 (.loop .primary) ++ [.other (), .loop .primary]

def closeThenDrop : List (Goroutine Unit) :=
  List.replicate 3 (.other ()) ++ List.replicate 4 (.loop .primary)

/-- **A delivery may send on a closed channel, and a late one may end without an error**: the
first when `Close` runs between its look at the channel and its send, the second when no hop
recognises the cell. -/
theorem send_on_closed :
    (∃ c, runClosing (oneHopSends [dataCell 2 [98]]) closeWhileSending = some c ∧
      c.shared.panicked = some .sendOnClosed) ∧
    ∃ c, runClosing [.relay ⟨7, .relay, zeros 509⟩] closeThenDrop = some c ∧
      c.shared.deliveries.map (fun d => (d.2.1, d.2.2.isOk)) = [(true, true)] := by
  decide +kernel

end GoTor.Circuit
