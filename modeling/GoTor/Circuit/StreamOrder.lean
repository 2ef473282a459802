import GoTor.Circuit.DeliverNet
import Mathlib.Data.Vector.Defs

/-!
# What the readers of a stream get

The cells of all streams of a circuit go through one receive channel.  A reader that takes a
cell of another stream passes it to the stream manager and goes on: without a manager the
cell is gone, and with one it ends up in a queue that `ReadFromStream` never looks at.
`read_in_arrival_order` says when the readers of a stream get its cells, in order and
complete; `read_skips_cell` is a run of two readers in which one loses a cell.
-/

namespace GoTor.Circuit

open GoTor.Lib GoTor.Crypto GoTor.Cell GoTor.Relay Function DeliverState Opened

def ofStream (sid : UInt16) (rc : RelayCell) : Bool := isStreamCell rc && rc.streamID == sid

def streamBytes (sid : UInt16) (cells : List RelayCell) : Bytes :=
  (cells.filter fun rc => rc.command == relayData && rc.streamID == sid).flatMap (·.data)

/-- Whether the choice lets a `select` take the receive channel. -/
def DeliverChoice.takesCell : DeliverChoice → Bool
  | .ctxDone => false
  | .destroyed => false
  | _ => true

def DeliverChoice.isFail : DeliverChoice → Bool
  | .fail _ => true
  | _ => false

variable {ι : Type} (sha256 : Bytes → Vector UInt8 32) (l : Leg) (sid : UInt16)

/-- The delivery in progress on circuit `l` is one of a cell of stream `sid`. -/
def DeliverState.Carries {Tid : Type} (s : DeliverState Tid) (m : Leg) : Prop :=
  m = l ∧ (s.inHand l).any (ofStream sid) = true

/-- The condition on a step, for stream `sid` of circuit `l`: its cells pass the replay
tracker and the deliver windows, find room in the channel before the timer fires, and are
taken from it only by calls for the stream (by one that waits for it to open, only the
END). -/
def KeepsStream {Tid : Type} (s : DeliverState Tid) (_ : Tid) (a : DeliverAct) (ch : DeliverChoice) : Prop :=
  match a with
  | .quiet (.validateAndTrack m payload) => s.Carries l sid m → ∀ r ∈ (s.shared.circ m).replay,
        (r.track .backward).digests.lookup (sha256 payload).toList = none
  | .quiet (.decrementDeliverWindow m) => s.Carries l sid m → 0 < (s.shared.circ m).deliverWindow
  | .quiet (.decrementStreamDeliverWindow m i) => s.Carries l sid m →
      ∀ st ∈ (s.shared.circ m).getStream i, 0 < st.deliverWindow
  | .offer m rc => m = l → ofStream sid rc = true → (s.chan m).closed = false → ch.isFail = false
  | .receive m i opening _ => m = l → ch.takesCell = true → ∀ rc ∈ (s.chan m).queue.head?,
      ofStream sid rc = true → i = sid ∧ (opening = true → rc.command = relayEnd)
  | _ => True

instance {Tid : Type} (s : DeliverState Tid) (m : Leg) : Decidable (s.Carries l sid m) :=
  inferInstanceAs (Decidable (_ ∧ _))

instance {Tid : Type} (s : DeliverState Tid) (t : Tid) (a : DeliverAct) (ch : DeliverChoice) :
    Decidable (KeepsStream sha256 l sid s t a ch) := by
  unfold KeepsStream
  split <;> infer_instance

/-! ### The contract of the goroutines -/

/-- What a section answers to the read loop when it delivers a cell of the stream. -/
def QuietAct.Passes (t : Goroutine ι) (held : Option RelayCell) : (q : QuietAct) → q.Resp → Prop
  | .validateAndTrack m _, r =>
    t = .loop m → m = l → held.any (ofStream sid) = true → r.isOk = true
  | .decrementDeliverWindow m, r =>
    t = .loop m → m = l → held.any (ofStream sid) = true → r.isOk = true
  | .decrementStreamDeliverWindow m _, r =>
    t = .loop m → m = l → held.any (ofStream sid) = true → r.isOk = true
  | _, _ => True

def heldOf (rc : RelayCell) : Option RelayCell := if isStreamCell rc then some rc else none

/-- The contract of goroutine `t`, whose ghost state is the stream cell it holds: only the
read loop of a circuit delivers to it, what it offers is the cell it holds, and a cell of
the stream is not let go. -/
def streamContract (t : Goroutine ι) : Contract DeliverAct DeliverAct.Resp (Option RelayCell) where
  pre held
    | .quiet (.validateAndTrack _ payload) => held ≠ none → payload ≠ []
    | .decryptOnion m _ _ => t = .loop m ∧ held = none
    | .fetchChan m => t = .loop m
    | .offer m rc => t = .loop m ∧ held = heldOf rc
    | .deliveryEnds m _ _ => t = .loop m ∧ (m = l → held.any (ofStream sid) = false)
    | _ => True
  post held
    | .quiet q, r, held' => held' = held ∧ q.Passes l sid t held r
    | .decryptOnion _ _ _, r, held' => held' = r.toOption.bind Opened.streamCell
    | .confluxSet _, r, held' => held' = held ∧ r = false
    | .fetchChan _, r, held' => held' = if r then held else none
    | .offer _ _, _, held' => held' = none
    | .deliveryEnds _ _ _, _, held' => held' = none
    | _, _, held' => held' = held

section Meets

variable {l sid} {t : Goroutine ι} {m : Leg} {held : Option RelayCell} {rc : RelayCell}

lemma meets_bystander {R : Type} {p : DeliverProg R} (hp : p.Always fun a => a.delivers = false) :
    Meets (streamContract l sid t) none p fun held' _ => held' = none := by
  refine meets_of_always ?_ hp rfl
  rintro _ a rfl ha
  cases a with
  | quiet q =>
    refine ⟨?_, fun _ _ h => h.1⟩
    cases q with
    | validateAndTrack m payload => exact fun h => absurd rfl h
    | _ => trivial
  | decryptOnion _ _ _ | confluxSet _ | fetchChan _ | offer _ _ | deliveryStarts _
  | deliveryEnds _ _ _ => cases ha
  | _ => exact ⟨trivial, fun _ _ h => h⟩

lemma filter_heldOf (sid : UInt16) (rc : RelayCell) :
    (heldOf rc).toList.filter (ofStream sid) = [rc].filter (ofStream sid) := by
  unfold heldOf
  split
  · rfl
  · next h => simp [ofStream, h]

lemma any_heldOf (sid : UInt16) (rc : RelayCell) :
    (heldOf rc).any (ofStream sid) = ofStream sid rc := by
  unfold heldOf
  split
  · rfl
  · next h => simp [ofStream, h]

variable {o : Opened}

lemma streamCell_of_unrecognised (h : o.hopIdx = none) : o.streamCell = none := by
  simp [streamCell, h]

lemma streamCell_of_error {e : String} (h : o.decode = .error e) : o.streamCell = none := by
  simp [streamCell, h, Except.toOption]

lemma streamCell_of_decoded {hopIdx : ℕ} (hhop : o.hopIdx = some hopIdx)
    (h : o.decode = .ok rc) : o.streamCell = heldOf rc := by
  simp [streamCell, heldOf, hhop, h, Except.toOption, Option.filter]

lemma ne_nil_of_streamCell (h : o.streamCell ≠ none) : o.out ≠ [] := by
  rintro hout
  have herr : ∃ e, o.decode = .error e := by
    unfold decode
    rw [hout]
    split <;> exact ⟨_, rfl⟩
  obtain ⟨e, he⟩ := herr
  exact h (streamCell_of_error he)

/-- A delivery may end with this in hand: it is no cell of the stream. -/
def Released (l : Leg) (sid : UInt16) (m : Leg) (held : Option RelayCell) : Prop :=
  m = l → held.any (ofStream sid) = false

lemma released_none : Released l sid m none := fun _ => rfl

lemma meets_enqueueRelayCell :
    Meets (streamContract l sid (.loop m : Goroutine ι)) (heldOf rc) (enqueueRelayCell m rc)
      fun held' _ => held' = none := by
  refine ⟨rfl, ?_⟩
  rintro (_ | _) held' rfl
  · rfl
  · exact ⟨⟨rfl, rfl⟩, fun _ _ h => h⟩

variable {id : UInt32}

lemma meets_passToReader {hopIdx : ℕ} :
    Meets (streamContract l sid (.loop m : Goroutine ι)) (heldOf rc) (passToReader id m rc hopIdx)
      fun held' _ => held' = none := by
  refine ⟨trivial, ?_⟩
  rintro _ held' ⟨rfl, rfl⟩
  show Meets _ _ ((enqueueRelayCell m rc).bind _) _
  rw [meets_bind]
  refine meets_enqueueRelayCell.imp ?_
  rintro _ (e | _) rfl <;> rfl

lemma released_of_error {ε α : Type} {r : Except ε α} {e : ε} (hr : r = .error e)
    (h : m = l → held.any (ofStream sid) = true → r.isOk = true) : Released l sid m held := by
  intro hm
  by_contra hheld
  have hok := h hm (by simpa using hheld)
  rw [hr] at hok
  cases hok

lemma meets_countData {v1 : Bool} :
    Meets (streamContract l sid (.loop m : Goroutine ι)) held (countData m v1 rc)
      fun held' r => held' = held ∧ (∀ e, r = .error e → Released l sid m held) := by
  refine ⟨trivial, ?_⟩
  rintro (e | _) held' ⟨rfl, hpass⟩
  · exact ⟨rfl, fun _ _ => released_of_error rfl (hpass rfl)⟩
  split
  · refine ⟨trivial, ?_⟩
    rintro (e | _) held' ⟨rfl, hpass⟩
    · exact ⟨rfl, fun _ _ => released_of_error rfl (hpass rfl)⟩
    · exact ⟨trivial, fun _ _ h => ⟨h.1, fun _ he => by cases he⟩⟩
  · exact ⟨rfl, fun _ he => by cases he⟩

lemma takeSendme_bystands : (takeSendme m rc).Always fun a => a.delivers = false := by
  unfold takeSendme
  split
  · refine ⟨rfl, ?_⟩
    rintro (e | _)
    · exact ⟨rfl, fun _ => ⟨rfl, fun _ => trivial⟩⟩
    · trivial
  · exact ⟨rfl, fun _ => trivial⟩

lemma meets_deliverRelayCell {cd : LinkCell} :
    Meets (streamContract l sid (.loop m : Goroutine ι)) none (deliverRelayCell id m cd)
      fun held' _ => Released l sid m held' := by
  unfold deliverRelayCell
  split
  · exact released_none
  refine ⟨⟨rfl, rfl⟩, ?_⟩
  rintro (e | o) held' rfl
  · exact released_none
  refine ⟨ne_nil_of_streamCell, ?_⟩
  rintro (e | _) held' ⟨rfl, hpass⟩
  · exact released_of_error rfl (hpass rfl)
  simp only [Prog.done_bind]
  rw [show (Except.ok o : Except String Opened).toOption.bind streamCell = o.streamCell from rfl]
  split
  · next hnone =>
    rw [streamCell_of_unrecognised hnone]
    exact released_none
  next hopIdx hhop =>
  split
  · next e hdec =>
    rw [streamCell_of_error hdec]
    exact released_none
  next rc hdec =>
  rw [streamCell_of_decoded hhop hdec]
  split
  · simp only [Prog.bind_eq, meets_bind]
    refine meets_countData.imp ?_
    rintro _ (e | _) ⟨rfl, herr⟩
    · exact herr e rfl
    · exact meets_passToReader.imp fun _ _ h => h ▸ released_none
  split
  · next hcmd =>
    -- A SENDME goes to the windows and is never queued for a stream.
    have hnone : heldOf rc = none := by
      simp [heldOf, isStreamCell, hcmd, relaySendme, relayData, relayEnd]
    rw [hnone]
    exact (meets_bystander takeSendme_bystands).imp fun _ _ h => h ▸ released_none
  · exact meets_passToReader.imp fun _ _ h => h ▸ released_none

lemma meets_readersOf {start : Shared} {cells : Leg → List LoopCell} {calls : ι → List CircuitCall} :
    Meets (streamContract l sid t) none ((readersOf start cells calls).threads t) fun _ _ => True := by
  have hstop : ∀ {p : DeliverProg Unit}, Meets (streamContract l sid t) none p
      (fun held' _ => held' = none) → Meets (streamContract l sid t) none p fun _ _ => True :=
    fun h => h.imp fun _ _ _ => trivial
  cases t with
  | other i =>
    exact hstop (meets_bystander (Prog.Always.forEach CircuitCall.prog_bystands (calls i)))
  | loop m =>
    refine hstop (meets_forEach ?_ (cells m) rfl)
    rintro (cell | reason) _ rfl
    · refine ⟨trivial, ?_⟩
      rintro late _ rfl
      simp only [Prog.bind_eq, meets_bind]
      refine meets_deliverRelayCell.imp ?_
      exact fun _ _ h => ⟨⟨rfl, h⟩, fun _ _ h => h⟩
    · exact meets_bystander ⟨rfl, fun _ => closeCircuit_bystands m 2⟩

end Meets

/-! ### Arrival order -/

section Order

open List hiding Vector

variable {P : Primitives} {sha256 l sid} {s s' : DeliverState (Goroutine ι)} {t : Goroutine ι}
  {held : Goroutine ι → Option RelayCell} {m : Leg}

/-- The invariant for stream `sid` of circuit `l`: what its readers took and what is in the
channel is the start of what arrived, and as long as the channel is open only the cell in
hand is missing. -/
structure StreamInv (l : Leg) (sid : UInt16) (s : DeliverState (Goroutine ι))
    (held : Goroutine ι → Option RelayCell) : Prop where
  hand : ∀ m, s.inHand m = held (.loop m)
  replay : ∀ m, (s.shared.circ m).ReplayOk
  conflux : ∀ m, (s.shared.circ m).conflux = false
  closed_of_unset : (s.chan l).isSet = false → (s.chan l).closed = true
  order : (s.taken l ++ (s.chan l).queue).filter (ofStream sid) <+: (s.arrived l).filter (ofStream sid)
  whole : (s.chan l).closed = false → (s.arrived l).filter (ofStream sid) =
    (s.taken l ++ (s.chan l).queue ++ (s.inHand l).toList).filter (ofStream sid)

variable (h : StreamInv l sid s held)
include h

lemma StreamInv.elsewhere {held' : Goroutine ι → Option RelayCell}
    (hhand : ∀ m, s'.inHand m = held' (.loop m)) (hreplay : ∀ m, (s'.shared.circ m).ReplayOk)
    (hconflux : ∀ m, (s'.shared.circ m).conflux = false) (hchan : s'.chan l = s.chan l)
    (harrived : s'.arrived l = s.arrived l) (htaken : s'.taken l = s.taken l)
    (hin : s'.inHand l = s.inHand l) : StreamInv l sid s' held' where
  hand := hhand
  replay := hreplay
  conflux := hconflux
  closed_of_unset := by rw [hchan]; exact h.closed_of_unset
  order := by rw [hchan, harrived, htaken]; exact h.order
  whole := by rw [hchan, harrived, htaken, hin]; exact h.whole

lemma StreamInv.frame (hcirc : ∀ m, (s.shared.circ m).Quietly (s'.shared.circ m))
    (hchan : s'.chan = s.chan) (harrived : s'.arrived = s.arrived) (htaken : s'.taken = s.taken)
    (hhand : s'.inHand = s.inHand) : StreamInv l sid s' held :=
  h.elsewhere (hhand ▸ h.hand) (fun m => (hcirc m).replay (h.replay m))
    (fun m => (hcirc m).conflux.trans (h.conflux m)) (congrFun hchan l) (congrFun harrived l)
    (congrFun htaken l) (congrFun hhand l)

lemma StreamInv.setCirc (m : Leg) {c : Circ}
    (hconflux : c.conflux = false) (hreplay : c.replay = (s.shared.circ m).replay) :
    StreamInv l sid { s with shared := s.shared.setCirc m c } held :=
  { h with
    replay k := by
      by_cases hk : k = m
      · subst hk
        intro r hr
        refine h.replay k r ?_
        rw [← hreplay, ← hr]
        simp [Shared.setCirc]
      · simpa [Shared.setCirc, hk] using h.replay k
    conflux k := by
      by_cases hk : k = m
      · subst hk
        simpa [Shared.setCirc] using hconflux
      · simpa [Shared.setCirc, hk] using h.conflux k }

lemma StreamInv.closeSection : StreamInv l sid (s.closeSection m).2 held := by
  have hc := h.setCirc m (c := { s.shared.circ m with state := .closed, conflux := false }) rfl rfl
  unfold DeliverState.closeSection
  dsimp only
  split
  · exact h
  split
  · -- the queue stays, and nothing more is sent
    by_cases hm : l = m
    · subst hm
      exact
        { hc with
          hand := h.hand
          closed_of_unset := by simp [setChan]
          order := by simpa [setChan] using h.order
          whole := by simp [setChan] }
    · exact h.elsewhere h.hand hc.replay hc.conflux (update_of_ne hm _ _) rfl rfl rfl
  · exact hc

lemma StreamInv.take {i : UInt16} {opening : Bool}
    {rc : RelayCell} {queue : List RelayCell} (hqueue : (s.chan m).queue = rc :: queue)
    (hgood : m = l → ofStream sid rc = true → i = sid ∧ (opening = true → rc.command = relayEnd)) :
    StreamInv l sid { s.setChan m { s.chan m with queue } with
      taken := update s.taken m
        (s.taken m ++ if returnsCell i opening rc then [rc] else []) } held := by
  by_cases hm : l = m
  · subst hm
    -- the cell moves from the channel to what was taken, or is of no interest here
    have hmove : ((s.taken l ++ if returnsCell i opening rc then [rc] else []) ++ queue).filter
        (ofStream sid) = (s.taken l ++ (s.chan l).queue).filter (ofStream sid) := by
      rw [hqueue]
      by_cases hrc : ofStream sid rc = true
      · obtain ⟨rfl, hend⟩ := hgood rfl hrc
        have hret : returnsCell i opening rc = true := by
          simp only [ofStream] at hrc
          cases opening <;> simp_all [returnsCell]
        simp [hret]
      · split <;> simp [hrc]
    exact
      { h with
        closed_of_unset := by simpa [setChan] using h.closed_of_unset
        order := by
          simp only [setChan, update_self]
          rw [hmove]
          exact h.order
        whole := by
          simp only [setChan, update_self]
          intro hopen
          rw [filter_append, hmove, ← filter_append]
          exact h.whole hopen }
  · exact h.elsewhere h.hand h.replay h.conflux (update_of_ne hm _ _) rfl (update_of_ne hm _ _) rfl

variable {ch : DeliverChoice}

lemma StreamInv.receive {i : UInt16} {opening chanSet : Bool} {r : Received}
    (hgood : m = l → ch.takesCell = true → ∀ rc ∈ (s.chan m).queue.head?,
      ofStream sid rc = true → i = sid ∧ (opening = true → rc.command = relayEnd))
    (hs : s.receive m i opening chanSet ch = some (r, s')) : StreamInv l sid s' held := by
  unfold DeliverState.receive at hs
  split at hs
  · cases hs
    exact h
  · obtain ⟨reason, -, hr⟩ := Option.map_eq_some_iff.1 hs
    cases hr
    exact h
  next hctx hdestroyed =>
  have htakes : ch.takesCell = true := by
    cases ch with
    | ctxDone => exact absurd rfl hctx
    | destroyed => exact absurd rfl hdestroyed
    | done | fail e | vegas v => rfl
  split at hs
  · cases hs
  split at hs
  · next rc queue hqueue =>
    cases hs
    exact h.take hqueue fun hm hrc => hgood hm htakes rc (by simp [hqueue]) hrc
  · split at hs
    · cases hs
      exact h
    · cases hs

lemma StreamInv.passes {q : QuietAct} (hpre : (streamContract l sid t).pre (held t) (.quiet q))
    (hgood : KeepsStream sha256 l sid s t (.quiet q) ch) :
    q.Passes l sid t (held t) (q.exec sha256 ch s.shared).1 := by
  cases q with
  | validateAndTrack m payload =>
    rintro rfl rfl hany
    have hne : payload ≠ [] := hpre (by intro hnone; simp [hnone] at hany)
    rw [← h.hand] at hany
    obtain ⟨c, hc⟩ := (h.replay m).accepts hne (hgood ⟨rfl, hany⟩)
    simp only [QuietAct.exec, hc]
    rfl
  | decrementDeliverWindow m =>
    rintro rfl rfl hany
    rw [← h.hand] at hany
    obtain ⟨⟨c, send⟩, hc⟩ := Circ.decrementDeliverWindow_accepts (hgood ⟨rfl, hany⟩)
    simp only [QuietAct.exec, hc]
    rfl
  | decrementStreamDeliverWindow m i =>
    rintro rfl rfl hany
    rw [← h.hand] at hany
    obtain ⟨c, hc⟩ := Circ.decrementStreamDeliverWindow_accepts (hgood ⟨rfl, hany⟩)
    simp only [QuietAct.exec, hc]
    rfl
  | _ => trivial

omit h

variable [DecidableEq ι]

lemma update_hand (h : ∀ m, s.inHand m = held (.loop m)) (m : Leg) (x : Option RelayCell) (k : Leg) :
    update s.inHand m x k = update held (Goroutine.loop m) x (.loop k) := by
  by_cases hk : k = m
  · subst hk
    simp
  · rw [update_of_ne hk, update_of_ne (by simpa using hk), h k]

include h

lemma StreamInv.decryptOnion (hnone : held (.loop m) = none) {cmd : LinkCmd} {payload : Bytes} :
    StreamInv l sid (s.decryptOnion P m cmd payload).2 (update held (.loop m)
        ((s.decryptOnion P m cmd payload).1.toOption.bind streamCell)) := by
  unfold DeliverState.decryptOnion
  dsimp only
  generalize Circuit.decryptOnion P (s.shared.circ m).hops (cgoAD cmd) payload = res
  obtain ⟨hops, r⟩ := res
  generalize r.toOption.bind streamCell = arriving
  have hquiet : ∀ k, (s.shared.circ k).Quietly
      ((s.shared.setCirc m { s.shared.circ m with hops }).circ k) := by
    refine Shared.setCirc_quietly ?_
    exact .of_replay rfl rfl rfl
  refine ⟨update_hand h.hand m arriving, fun k => (hquiet k).replay (h.replay k),
    fun k => (hquiet k).conflux.trans (h.conflux k), h.closed_of_unset, ?_, ?_⟩
  · by_cases hm : l = m
    · subst hm
      simp only [update_self, filter_append]
      exact (filter_append _ _ ▸ h.order).trans (prefix_append ..)
    · simpa [hm] using h.order
  intro hopen
  have hwhole := h.whole hopen
  by_cases hm : l = m
  · subst hm
    rw [h.hand l, hnone] at hwhole
    simp only [update_self, filter_append] at hwhole ⊢
    rw [hwhole]
    simp
  · simpa [hm] using hwhole

lemma StreamInv.letGo
    (hfree : m = l → (s.chan l).closed = false → (s.inHand l).any (ofStream sid) = false) :
    StreamInv l sid { s with inHand := update s.inHand m none } (update held (.loop m) none) :=
  { h with
    hand := update_hand h.hand m none
    whole := by
      intro hopen
      have hwhole := h.whole hopen
      by_cases hm : l = m
      · subst hm
        have hnone : (s.inHand l).toList.filter (ofStream sid) = [] := by
          have := hfree rfl hopen
          cases hh : s.inHand l with
          | none => rfl
          | some rc => simpa [hh] using this
        rw [filter_append, hnone] at hwhole
        simpa using hwhole
      · simpa [hm] using hwhole }

lemma StreamInv.offer {rc : RelayCell}
    {r : Except String Unit} (hheld : held (.loop m) = heldOf rc)
    (hgood : m = l → ofStream sid rc = true → (s.chan m).closed = false → ch.isFail = false)
    (hs : s.offer (.loop m) m rc ch = some (r, s')) :
    StreamInv l sid s' (update held (.loop m) none) := by
  have hhand : s.inHand m = heldOf rc := (h.hand m).trans hheld
  unfold DeliverState.offer at hs
  split at hs
  · -- the timer fired
    next e =>
    cases hs
    refine (h.letGo ?_).frame (fun _ => .refl _) rfl rfl rfl rfl
    rintro rfl hopen
    rw [hhand, any_heldOf]
    by_contra hrc
    exact absurd (hgood rfl (by simpa using hrc) hopen) (by simp [DeliverChoice.isFail])
  dsimp only at hs
  split at hs
  · -- the channel was closed since it was fetched
    next hclosed =>
    cases hs
    refine (h.letGo ?_).frame (fun _ => .refl _) rfl rfl rfl rfl
    rintro rfl hopen
    exact absurd hopen (by simp [hclosed])
  split at hs
  · next hopen _ =>
    cases hs
    have hupd := update_hand h.hand m none
    by_cases hm : l = m
    · subst hm
      have hwhole := h.whole (by simpa using hopen)
      rw [hhand, filter_append, filter_heldOf] at hwhole
      exact
        { h with
          hand := hupd
          closed_of_unset := by simpa [setChan] using h.closed_of_unset
          order := by simp [setChan, hwhole]
          whole := by simp [setChan, hwhole] }
    · exact h.elsewhere hupd h.replay h.conflux (update_of_ne hm _ _) rfl rfl (update_of_ne hm _ _)
  · cases hs

lemma StreamInv.exec {a : DeliverAct}
    (hpre : (streamContract l sid t).pre (held t) a) (hgood : KeepsStream sha256 l sid s t a ch)
    {r : a.Resp} (hs : exec P sha256 t a ch s = some (r, s')) :
    ∃ held', (streamContract l sid t).post (held t) a r held' ∧ StreamInv l sid s' (update held t held') := by
  unfold DeliverState.exec at hs
  split at hs
  · cases hs
  have hself : StreamInv l sid s (update held t (held t)) := by
    rwa [update_eq_self]
  cases a with
  | quiet q =>
    cases hs
    refine ⟨held t, ⟨rfl, h.passes hpre hgood⟩, ?_⟩
    exact hself.frame q.exec_quietly rfl rfl rfl rfl
  | decryptOnion m cmd payload =>
    cases hs
    obtain ⟨rfl, hnone⟩ := hpre
    exact ⟨_, rfl, h.decryptOnion hnone⟩
  | confluxSet m =>
    cases hs
    exact ⟨_, ⟨rfl, h.conflux m⟩, hself⟩
  | detachConflux m =>
    cases hs
    exact ⟨_, rfl, hself.setCirc m rfl rfl⟩
  | setState m state =>
    cases hs
    exact ⟨_, rfl, hself.setCirc m (h.conflux m) rfl⟩
  | fetchChan m =>
    obtain rfl := hpre
    dsimp only at hs
    split at hs
    · cases hs
      exact ⟨_, rfl, hself.frame (fun _ => .refl _) rfl rfl rfl rfl⟩
    · next hunset =>
      cases hs
      refine ⟨_, rfl, h.letGo ?_⟩
      -- the field is empty only after the circuit was closed
      rintro rfl hopen
      exact absurd (h.closed_of_unset (by simpa using hunset)) (by simp [hopen])
  | peekChan m | deliveryStarts m => cases hs; exact ⟨_, rfl, hself⟩
  | offer m rc =>
    obtain ⟨rfl, hheld⟩ := hpre
    exact ⟨none, rfl, h.offer hheld hgood hs⟩
  | closeSection m =>
    have hs' : s' = (s.closeSection m).2 := (congrArg Prod.snd (Option.some.inj hs)).symm
    subst hs'
    exact ⟨_, rfl, hself.closeSection⟩
  | notifyDestroyed m reason | closeReturns m =>
    cases hs
    exact ⟨_, rfl, hself.frame (fun _ => .refl _) rfl rfl rfl rfl⟩
  | receive m i opening chanSet => exact ⟨_, rfl, hself.receive hgood hs⟩
  | deliveryEnds m late res =>
    obtain ⟨rfl, hfree⟩ := hpre
    cases hs
    refine ⟨none, rfl, (h.letGo ?_).frame (fun _ => .refl _) rfl rfl rfl rfl⟩
    rintro rfl -
    rw [h.hand]
    exact hfree rfl

omit h

lemma streamBytes_filter (sid : UInt16) (cells : List RelayCell) :
    streamBytes sid (cells.filter (ofStream sid)) = streamBytes sid cells := by
  unfold streamBytes
  rw [filter_filter]
  congr 2
  funext rc
  by_cases h : rc.command = relayData <;> simp [ofStream, isStreamCell, h]

lemma streamBytes_mono {xs ys : List RelayCell} (h : xs <+: ys) : streamBytes sid xs <+: streamBytes sid ys := by
  obtain ⟨zs, rfl⟩ := h
  simp [streamBytes]

/-- **The readers of a stream get its cells in arrival order**, none missing, on a circuit
outside of Conflux sets, in every run whose steps keep the cells of the stream. -/
theorem read_in_arrival_order {start : Shared} (cells : Leg → List LoopCell)
    (calls : ι → List CircuitCall) {sched : List (Goroutine ι × DeliverChoice)}
    {c : Config (Goroutine ι) DeliverAct DeliverAct.Resp (DeliverState (Goroutine ι))}
    (hconflux : ∀ m, (start.circ m).conflux = false)
    (hreplay : ∀ m, (start.circ m).ReplayOk)
    (hkeeps : RunMeets (stepThread (exec P sha256))
      (OnAction (KeepsStream sha256 l sid)) (readersOf start cells calls) sched)
    (hrun : run (stepThread (exec P sha256)) (readersOf start cells calls) sched = some c) :
    (c.shared.taken l).filter (ofStream sid) <+: (c.shared.arrived l).filter (ofStream sid) ∧
    streamBytes sid (c.shared.taken l) <+: streamBytes sid (c.shared.arrived l) := by
  have hstart : Guarded (streamContract l sid) (StreamInv l sid) (readersOf start cells calls) := by
    refine ⟨fun _ => none, ?_, fun t => meets_readersOf⟩
    exact
      { hand := fun _ => rfl
        replay := hreplay
        conflux := hconflux
        closed_of_unset := by simp [readersOf]
        order := nil_prefix
        whole := fun _ => rfl }
  obtain ⟨held, hinv, -⟩ := run_meets (fun s ℓ t a ch r s' hi hpre hgood hex =>
    hi.exec hpre hgood hex) hstart hkeeps hrun
  have hcells : (c.shared.taken l).filter (ofStream sid) <+: (c.shared.arrived l).filter (ofStream sid) := by
    refine List.IsPrefix.trans ?_ hinv.order
    rw [filter_append]
    exact prefix_append ..
  refine ⟨hcells, ?_⟩
  rw [← streamBytes_filter sid (c.shared.taken l), ← streamBytes_filter sid (c.shared.arrived l)]
  exact streamBytes_mono hcells

end Order

/-! ### Two readers -/

def twoCells (l : Leg) : List LoopCell :=
  match l with
  | .primary => oneHopSends [dataCell 2 [98], dataCell 2 [99]]
  | .secondary => []

def twoReaders : Fin 2 → List CircuitCall
  | 0 => [.readFromStream .primary 1 2]
  | 1 => [.readFromStream .primary 2 2, .readFromStream .primary 2 2]

abbrev runReaders (sched : List (Goroutine (Fin 2))) :=
  run (stepThread (exec xorPrimitives headHash))
    (readersOf oneHopShared twoCells twoReaders) (sched.map (·, .done))

/-- The first cell is delivered, and then read by the reader of its stream. -/
def readByOwner : List (Goroutine (Fin 2)) :=
  List.replicate 10 (.loop .primary) ++ List.replicate 2 (.other 1)

theorem read_in_arrival_order_owner :
    ∃ c, runReaders readByOwner = some c ∧ streamBytes 2 (c.shared.taken .primary) = [98] ∧
      streamBytes 2 (c.shared.taken .primary) <+: streamBytes 2 (c.shared.arrived .primary) := by
  have hkeeps : RunMeets (stepThread (exec xorPrimitives headHash)) (OnAction (KeepsStream headHash .primary 2))
      (readersOf oneHopShared twoCells twoReaders) (readByOwner.map (·, .done)) := by
    decide +kernel
  refine exists_some_and (by decide +kernel) fun c hc _ =>
    (read_in_arrival_order twoCells twoReaders (fun _ => rfl) ?_ hkeeps hc).2
  rintro m r ⟨⟩ n hn
  cases hn

/-- The reader of stream 1 takes the first cell and drops it. -/
def readByOther : List (Goroutine (Fin 2)) :=
  List.replicate 20 (.loop .primary) ++ List.replicate 3 (.other 0) ++ List.replicate 2 (.other 1)

/-- **A reader loses a cell of another stream**: the reader of stream 2 gets only the second
of its cells. -/
theorem read_skips_cell :
    ∃ c, runReaders readByOther = some c ∧ streamBytes 2 (c.shared.arrived .primary) = [98, 99] ∧
      streamBytes 2 (c.shared.taken .primary) = [99] := by
  decide +kernel

end GoTor.Circuit
