import GoTor.Relay.ExitCount

/-!
# Pumps and reused stream IDs

The exit at the granularity of its critical sections: the handler of a circuit's cells opens and
ends streams while the pumps of earlier streams are still at work.  A pump knows its stream only
by circuit and stream ID; when it ends it sends its END cell and removes what stands under that key
then.  No pump touches a stream that is not its own as long as a key is not taken while a pump
with that key is still running.
-/

namespace GoTor.Relay

open GoTor.Lib Function Option Table List

/-- Where the goroutine that handles the cells of a circuit stands. -/
inductive Handling
  | idle
  /-- `HandleBegin`, with a slot of the gate: resolving, dialling, sending CONNECTED. -/
  | beginOpening (key : StreamKey)
  /-- `HandleBegin`, with the stream in the table: about to start the pump. -/
  | beginStarting (key : StreamKey) (p : StreamPtr)
  /-- `HandleBeginDir`, with a place and a slot: dialling. -/
  | dirOpening (key : StreamKey)
  /-- `HandleBeginDir`, with the stream in the table: sending CONNECTED. -/
  | dirConnecting (key : StreamKey) (p : StreamPtr)
  /-- `HandleEnd` before its second section. -/
  | ending (key : StreamKey) (p : StreamPtr)
  deriving DecidableEq

/-- The exit between two sections.  `removals` lists what the pumps have removed: the pump's
stream and the one that stood under its key. -/
structure ExitNet where
  m : ExitTables
  handlers : UInt32 → Handling := fun _ => .idle
  /-- The pumps that have left their loop. -/
  leaving : StreamPtr → Bool := fun _ => false
  removals : List (StreamPtr × StreamPtr) := []

inductive ReuseStep
  /-- A BEGIN or BEGIN_DIR cell that is refused at once. -/
  | refuse (key : StreamKey) (reason : UInt8)
  | beginFirst (key : StreamKey)
  | beginOpened (circID : UInt32) (tcp : Bool)
  | beginStarted (circID : UInt32)
  /-- `HandleBegin` gives up, with an END cell or because CONNECTED could not be written. -/
  | beginFailed (circID : UInt32) (reason : Option UInt8)
  | dirFirst (key : StreamKey)
  | dirOpened (circID : UInt32) (tcp : Bool)
  | dirFailed (circID : UInt32)
  | dirConnected (circID : UInt32)
  | dirUnsent (circID : UInt32)
  | endFirst (key : StreamKey)
  | endSecond (circID : UInt32)
  /-- The remote end of a pump's stream fails or is closed: an END cell, then out of the loop. -/
  | pumpEnd (p : StreamPtr) (reason : UInt8)
  /-- The pump leaves its loop without an END cell. -/
  | pumpLeave (p : StreamPtr)
  /-- The deferred `removeStream` of a pump. -/
  | pumpCleanup (p : StreamPtr)
  | closeCircuit (circID : UInt32)
  deriving DecidableEq

namespace ExitNet

variable (s : ExitNet)

def handle (circID : UInt32) (h : Handling) (m : ExitTables) : ExitNet :=
  { s with m, handlers := update s.handlers circID h }

def done (circID : UInt32) (m : ExitTables) : ExitNet := s.handle circID .idle m

def beginFirst (key : StreamKey) : ExitNet :=
  let m := s.m.dropOld key
  if m.full key.1 then s.done key.1 (m.sendEnd key none endReasonResourceLimit)
  else
    match m.acquire with
    | none => s.done key.1 (m.sendEnd key none endReasonResourceLimit)
    | some m => s.handle key.1 (.beginOpening key) m

def dirFirst (key : StreamKey) : ExitNet :=
  if s.m.full key.1 then s.done key.1 (s.m.sendEnd key none endReasonResourceLimit)
  else
    let m := s.m.addStream key.1 1
    match m.acquire with
    | none => s.done key.1 ((m.countDown key.1).sendEnd key none endReasonResourceLimit)
    | some m => s.handle key.1 (.dirOpening key) m

def endFirst (key : StreamKey) : ExitNet :=
  match s.m.streams.get key with
  | none => s
  | some p =>
    let es := s.m.heap p
    if es.halfClosed then s.done key.1 ((s.m.delete key).teardown p)
    else
      let m := { s.m with heap := update s.m.heap p { es with halfClosed := true } }
      if es.tcp then s.done key.1 m else s.handle key.1 (.ending key p) m

/-- `removeStream` of a pump, with the `teardown` of what it finds. -/
def cleanup (p : StreamPtr) (key : StreamKey) : ExitNet :=
  { s with
    m := ExitTables.removeStream { s.m with pumps := s.m.pumps.erase p } key
    removals := s.removals ++ (s.m.streams.get key).toList.map fun q => (p, q) }

def step (s : ExitNet) : ReuseStep → Option ExitNet
  | .refuse key reason =>
    if s.handlers key.1 = .idle then some (s.done key.1 (s.m.sendEnd key none reason)) else none
  | .beginFirst key => if s.handlers key.1 = .idle then some (s.beginFirst key) else none
  | .beginOpened circID tcp =>
    match s.handlers circID with
    | .beginOpening key =>
      some (s.handle circID (.beginStarting key s.m.fresh) ((s.m.insert key tcp).addStream key.1 1))
    | _ => none
  | .beginStarted circID =>
    match s.handlers circID with
    | .beginStarting key p => some (s.done circID (s.m.spawn p key))
    | _ => none
  | .beginFailed circID reason =>
    match s.handlers circID with
    | .beginOpening key =>
      some (s.done circID ((reason.elim s.m (s.m.sendEnd key none)).release))
    | _ => none
  | .dirFirst key => if s.handlers key.1 = .idle then some (s.dirFirst key) else none
  | .dirOpened circID tcp =>
    match s.handlers circID with
    | .dirOpening key =>
      some (s.handle circID (.dirConnecting key s.m.fresh) (s.m.insert key tcp))
    | _ => none
  | .dirFailed circID =>
    match s.handlers circID with
    | .dirOpening key =>
      some (s.done circID ((s.m.release.countDown key.1).sendEnd key none endReasonNotDirectory))
    | _ => none
  | .dirConnected circID =>
    match s.handlers circID with
    | .dirConnecting key p => some (s.done circID (s.m.spawn p key))
    | _ => none
  | .dirUnsent circID =>
    match s.handlers circID with
    | .dirConnecting key _ => some (s.done circID (s.m.removeStream key))
    | _ => none
  | .endFirst key => if s.handlers key.1 = .idle then some (s.endFirst key) else none
  | .endSecond circID =>
    match s.handlers circID with
    | .ending key p => some (s.done circID ((s.m.delete key).teardown p))
    | _ => none
  | .pumpEnd p reason =>
    match s.m.pumps.get p with
    | some key =>
      if s.leaving p then none
      else some { s with
        m := s.m.sendEnd key (some p) reason, leaving := update s.leaving p true }
    | none => none
  | .pumpLeave p =>
    if (s.m.pumps.get p).isSome && !s.leaving p then
      some { s with leaving := update s.leaving p true }
    else none
  | .pumpCleanup p =>
    match s.m.pumps.get p with
    | some key => if s.leaving p then some (s.cleanup p key) else none
    | none => none
  | .closeCircuit circID => some { s with m := s.m.closeCircuit circID }

/-- **No pump has acted on another stream**: none has removed one, and none has sent an END cell
for a key that another stream had taken. -/
structure Undisturbed (s : ExitNet) : Prop where
  removals : ∀ r ∈ s.removals, r.1 = r.2
  ends : ∀ e ∈ s.m.ends, ∀ p, e.pump = some p → ∀ q, e.holder = some q → q = p

end ExitNet

open ExitNet

/-- No running pump has the key of the stream this handler is about to put in the table. -/
def Handling.AtRest (m : ExitTables) : Handling → Prop
  | .beginOpening key | .dirOpening key => ∀ e ∈ m.pumps.entries, e.2 ≠ key
  | _ => True

instance Handling.decidableAtRest (m : ExitTables) : (h : Handling) → Decidable (h.AtRest m)
  | .beginOpening key | .dirOpening key =>
    inferInstanceAs (Decidable (∀ e ∈ m.pumps.entries, e.2 ≠ key))
  | .idle | .beginStarting _ _ | .dirConnecting _ _ | .ending _ _ => isTrue trivial

namespace ExitNet

/-- A stream is put in the table only when no pump with its key is running.  (The cells of a
circuit are handled one after the other, so none is about to be started either.) -/
def KeyAtRest (s : ExitNet) : ReuseStep → Prop
  | .beginOpened circID _ | .dirOpened circID _ => (s.handlers circID).AtRest s.m
  | _ => True

instance decidableKeyAtRest (s : ExitNet) : (e : ReuseStep) → Decidable (s.KeyAtRest e)
  | .beginOpened circID _ | .dirOpened circID _ =>
    inferInstanceAs (Decidable ((s.handlers circID).AtRest s.m))
  | .refuse _ _ | .beginFirst _ | .beginStarted _ | .beginFailed _ _ | .dirFirst _ | .dirFailed _
  | .dirConnected _ | .dirUnsent _ | .endFirst _ | .endSecond _ | .pumpEnd _ _ | .pumpLeave _
  | .pumpCleanup _ | .closeCircuit _ => isTrue trivial

end ExitNet

/-! ### Sections that open no stream -/

/-- What every section but the opening of a stream does to the tables: entries go away, the pumps
stay, and the END cells are those of a handler. -/
structure Calm (m m' : ExitTables) : Prop where
  streams : ∀ key q, m'.streams.get key = some q → m.streams.get key = some q
  pumps : m'.pumps = m.pumps
  ends : ∀ e ∈ m'.ends, e ∈ m.ends ∨ e.pump = none

namespace Calm

variable {m m' m'' : ExitTables}

lemma of_eq (hs : m'.streams = m.streams) (hp : m'.pumps = m.pumps) (he : m'.ends = m.ends) : Calm m m' :=
  ⟨fun _ _ h => hs ▸ h, hp, fun _ h => .inl (he ▸ h)⟩

lemma refl (m : ExitTables) : Calm m m := of_eq rfl rfl rfl

lemma trans (h : Calm m m') (h' : Calm m' m'') : Calm m m'' where
  streams key q hq := h.streams key q (h'.streams key q hq)
  pumps := h'.pumps.trans h.pumps
  ends e he := (h'.ends e he).elim (h.ends e) .inr

lemma acquire (h : m.acquire = some m') : Calm m m' := by
  unfold ExitTables.acquire at h
  split at h
  · cases h
  · cases h
    exact of_eq rfl rfl rfl

variable (m) {key : StreamKey} {p : StreamPtr}

lemma erase : Calm m { m with streams := m.streams.erase key } where
  streams key' q hq := by
    exact get_of_get_erase hq
  pumps := rfl
  ends _ he := .inl he

lemma addStream (circID : UInt32) (n : ℤ) : Calm m (m.addStream circID n) :=
  of_eq rfl rfl rfl

lemma countDown {circID : UInt32} : Calm m (m.countDown circID) := by
  unfold ExitTables.countDown
  split
  · exact addStream m circID (-1)
  · exact refl m

lemma release : Calm m m.release := of_eq rfl rfl rfl

lemma heap {heap : StreamPtr → ExitConn} : Calm m { m with heap } :=
  of_eq rfl rfl rfl

lemma teardown : Calm m (m.teardown p) := by
  unfold ExitTables.teardown
  split
  · exact of_eq rfl rfl rfl
  · exact refl m

lemma sendEnd {reason : UInt8} : Calm m (m.sendEnd key none reason) where
  streams _ _ hq := hq
  pumps := rfl
  ends := forall_mem_append.2 ⟨fun _ => .inl, forall_mem_singleton.2 (.inr rfl)⟩

lemma dropOld (key : StreamKey) : Calm m (m.dropOld key) := by
  unfold ExitTables.dropOld
  split
  · exact refl m
  · exact ((erase m).trans (addStream _ _ _)).trans (teardown _)

lemma delete : Calm m ((m.delete key).teardown p) :=
  ((erase m).trans (countDown _)).trans (teardown _)

lemma removeStream (key : StreamKey) : Calm m (m.removeStream key) := by
  unfold ExitTables.removeStream
  split
  · exact refl m
  · exact delete m

lemma closeCircuit (circID : UInt32) : Calm m (m.closeCircuit circID) := by
  have hfold : ∀ (ps : List StreamPtr) (m : ExitTables), Calm m (ps.foldl .teardown m) := by
    intro ps
    induction ps with
    | nil => exact refl
    | cons p ps ih => exact fun m => (teardown m).trans (ih _)
  have hkeep : Calm m { m with
      streams := m.streams.keep fun key _ => key.1 ≠ circID
      circStreams := update m.circStreams circID 0 } := by
    refine ⟨fun key q hq => ?_, rfl, fun e he => .inl he⟩
    rw [get_keep] at hq
    exact (filter_eq_some_iff.1 hq).1
  exact hkeep.trans (hfold _ _)

end Calm

open Calm

/-! ### Every pump finds its own stream -/

def Handling.Ok (m : ExitTables) (circID : UInt32) : Handling → Prop
  | .idle => True
  | .beginOpening key | .dirOpening key | .ending key _ => key.1 = circID
  | .beginStarting key p | .dirConnecting key p =>
    key.1 = circID ∧ ∀ q, m.streams.get key = some q → q = p

variable {m : ExitTables} {circID : UInt32}

lemma Handling.Ok.mono {m' : ExitTables} {h : Handling} (hok : h.Ok m circID)
    (hm : ∀ key q, key.1 = circID → m'.streams.get key = some q → m.streams.get key = some q) :
    h.Ok m' circID := by
  cases h with
  | idle => trivial
  | beginOpening key | dirOpening key | ending key p => exact hok
  | beginStarting key p | dirConnecting key p =>
    exact ⟨hok.1, fun q hq => hok.2 q (hm key q hok.1 hq)⟩

/-- Under the key of a running pump there is its stream or none. -/
structure Owned (s : ExitNet) : Prop where
  pumps : ∀ p key, s.m.pumps.get p = some key → ∀ q, s.m.streams.get key = some q → q = p
  handlers : ∀ circID, (s.handlers circID).Ok s.m circID
  undisturbed : s.Undisturbed

namespace Owned

variable {s : ExitNet}

lemma init {gateMax : ℕ} : Owned { m := { gateMax } } where
  pumps p key h := by cases h
  handlers _ := trivial
  undisturbed := ⟨fun _ hr => (not_mem_nil hr).elim, fun _ he => (not_mem_nil he).elim⟩

variable (h : Owned s)
include h

lemma handle (hm : Calm s.m m) {hd : Handling}
    (hok : hd.Ok m circID) : Owned (s.handle circID hd m) where
  pumps p key hp q hq := h.pumps p key (hm.pumps ▸ hp) q (hm.streams key q hq)
  handlers c := by
    change (update s.handlers circID hd c).Ok m c
    rcases eq_or_ne c circID with rfl | hne
    · rw [update_self]
      exact hok
    · rw [update_of_ne hne]
      exact (h.handlers c).mono fun key q _ => hm.streams key q
  undisturbed :=
    { removals := h.undisturbed.removals
      ends := by
        intro e he p hp
        rcases hm.ends e he with he | he
        · exact h.undisturbed.ends e he p hp
        · rw [he] at hp
          cases hp }

lemma done (hm : Calm s.m m) : Owned (s.done circID m) :=
  h.handle hm trivial

variable {key : StreamKey} {p : StreamPtr}

lemma opened (hcirc : key.1 = circID) (hrest : ∀ e ∈ s.m.pumps.entries, e.2 ≠ key)
    (hs : m.streams = s.m.streams.set key p) (hp : m.pumps = s.m.pumps) (he : m.ends = s.m.ends)
    {hd : Handling} (hd' : hd = .beginStarting key p ∨ hd = .dirConnecting key p) :
    Owned (s.handle circID hd m) where
  pumps p' key' hp' q hq := by
    have hp' : s.m.pumps.get p' = some key' := hp ▸ hp'
    have hne : key' ≠ key := hrest (p', key') ((get_eq_some_iff _).1 hp')
    have hq : m.streams.get key' = some q := hq
    rw [hs, get_set_of_ne _ hne] at hq
    exact h.pumps p' key' hp' q hq
  handlers c := by
    change (update s.handlers circID hd c).Ok m c
    rcases eq_or_ne c circID with rfl | hne
    · have hown : ∀ q, m.streams.get key = some q → q = p := fun q hq => by
        rw [hs, get_set_self] at hq
        exact (some.inj hq).symm
      rw [update_self]
      rcases hd' with rfl | rfl <;> exact ⟨hcirc, hown⟩
    · rw [update_of_ne hne]
      refine (h.handlers c).mono fun key' q hc hq => ?_
      -- another circuit has other keys
      have hkey : key' ≠ key := fun hk => hne (hc.symm.trans (hk ▸ hcirc))
      rwa [hs, get_set_of_ne _ hkey] at hq
  undisturbed :=
    { removals := h.undisturbed.removals
      ends := fun e hmem => h.undisturbed.ends e (he ▸ hmem) }

lemma started
    (hp : ∀ q, s.m.streams.get key = some q → q = p) : Owned (s.done circID (s.m.spawn p key)) where
  pumps p' key' hp' q hq := by
    have hp' : (s.m.pumps.set p key).get p' = some key' := hp'
    rcases eq_or_ne p' p with rfl | hne
    · rw [get_set_self] at hp'
      cases hp'
      exact hp q hq
    · rw [get_set_of_ne _ hne] at hp'
      exact h.pumps p' key' hp' q hq
  handlers c := by
    change (update s.handlers circID .idle c).Ok (s.m.spawn p key) c
    rcases eq_or_ne c circID with rfl | hne
    · rw [update_self]
      trivial
    · rw [update_of_ne hne]
      exact (h.handlers c).mono fun _ _ _ hq => hq
  undisturbed := ⟨h.undisturbed.removals, h.undisturbed.ends⟩

lemma pumpEnd (hp : s.m.pumps.get p = some key) {reason : UInt8} {leaving : StreamPtr → Bool} :
    Owned { s with m := s.m.sendEnd key (some p) reason, leaving } where
  pumps := h.pumps
  handlers c := (h.handlers c).mono fun _ _ _ hq => hq
  undisturbed :=
    { removals := h.undisturbed.removals
      ends := by
        refine forall_mem_append.2
          ⟨h.undisturbed.ends, forall_mem_singleton.2 fun p' hp' q hq => ?_⟩
        cases hp'
        exact h.pumps p key hp q hq }

lemma cleanup (hp : s.m.pumps.get p = some key) : Owned (s.cleanup p key) := by
  have hcalm := removeStream { s.m with pumps := s.m.pumps.erase p } key
  refine ⟨fun p' key' hp' q hq => ?_, fun c => ?_, ⟨fun r hr => ?_, fun e he p' hp' => ?_⟩⟩
  · have hpumps : (s.cleanup p key).m.pumps = s.m.pumps.erase p := hcalm.pumps
    rw [hpumps] at hp'
    exact h.pumps p' key' (get_of_get_erase hp') q (hcalm.streams key' q hq)
  · exact (h.handlers c).mono fun key' q _ => hcalm.streams key' q
  · rcases mem_append.1 hr with hr | hr
    · exact h.undisturbed.removals r hr
    · obtain ⟨q, hq, rfl⟩ := mem_map.1 hr
      exact (h.pumps p key hp q (mem_toList.1 hq)).symm
  · rcases hcalm.ends e he with he | he
    · exact h.undisturbed.ends e he p' hp'
    · rw [he] at hp'
      cases hp'

lemma beginFirst : Owned (s.beginFirst key) := by
  have hdrop := dropOld s.m key
  unfold ExitNet.beginFirst
  dsimp only
  split
  · exact h.done (hdrop.trans (.sendEnd _))
  · split
    · exact h.done (hdrop.trans (.sendEnd _))
    · next m hacq => exact h.handle (hdrop.trans (.acquire hacq)) rfl

lemma dirFirst : Owned (s.dirFirst key) := by
  have hadd := addStream s.m key.1 1
  unfold ExitNet.dirFirst
  dsimp only
  split
  · exact h.done (.sendEnd _)
  · split
    · exact h.done ((hadd.trans (.countDown _)).trans (.sendEnd _))
    · next m hacq => exact h.handle (hadd.trans (.acquire hacq)) rfl

lemma endFirst : Owned (s.endFirst key) := by
  unfold ExitNet.endFirst
  dsimp only
  split
  · exact h
  split
  · exact h.done (.delete _)
  · split
    · exact h.done (.heap _)
    · exact h.handle (.heap _) rfl

omit h

lemma beginFailed {reason : Option UInt8} :
    Calm m (reason.elim m (m.sendEnd key none)).release := by
  cases reason with
  | none => exact .release m
  | some reason => exact (Calm.sendEnd m).trans (.release _)

lemma step (h : Owned s) {e : ReuseStep} (hrest : s.KeyAtRest e) {s' : ExitNet}
    (hstep : s.step e = some s') : Owned s' := by
  have hok := h.handlers
  cases e with
  | refuse key reason =>
    obtain ⟨-, ⟨⟩⟩ := ite_none_right_eq_some.1 hstep
    exact h.done (.sendEnd _)
  | beginFirst key =>
    obtain ⟨-, ⟨⟩⟩ := ite_none_right_eq_some.1 hstep
    exact h.beginFirst
  | dirFirst key =>
    obtain ⟨-, ⟨⟩⟩ := ite_none_right_eq_some.1 hstep
    exact h.dirFirst
  | endFirst key =>
    obtain ⟨-, ⟨⟩⟩ := ite_none_right_eq_some.1 hstep
    exact h.endFirst
  | beginOpened circID tcp =>
    replace hok := hok circID
    simp only [ExitNet.step, ExitNet.KeyAtRest] at hstep hrest
    cases hd : s.handlers circID <;> rw [hd] at hstep hrest hok <;> cases hstep
    refine h.opened hok hrest ?_ ?_ ?_ (.inl rfl) <;> rfl
  | dirOpened circID tcp =>
    replace hok := hok circID
    simp only [ExitNet.step, ExitNet.KeyAtRest] at hstep hrest
    cases hd : s.handlers circID <;> rw [hd] at hstep hrest hok <;> cases hstep
    refine h.opened hok hrest ?_ ?_ ?_ (.inr rfl) <;> rfl
  | beginStarted circID | dirConnected circID =>
    replace hok := hok circID
    simp only [ExitNet.step] at hstep
    cases hd : s.handlers circID <;> rw [hd] at hstep hok <;> cases hstep
    exact h.started hok.2
  | beginFailed circID reason =>
    simp only [ExitNet.step] at hstep
    cases hd : s.handlers circID <;> rw [hd] at hstep <;> cases hstep
    exact h.done beginFailed
  | dirFailed circID =>
    simp only [ExitNet.step] at hstep
    cases hd : s.handlers circID <;> rw [hd] at hstep <;> cases hstep
    exact h.done (((Calm.release _).trans (.countDown _)).trans (.sendEnd _))
  | dirUnsent circID =>
    simp only [ExitNet.step] at hstep
    cases hd : s.handlers circID <;> rw [hd] at hstep <;> cases hstep
    exact h.done (.removeStream _ _)
  | endSecond circID =>
    simp only [ExitNet.step] at hstep
    cases hd : s.handlers circID <;> rw [hd] at hstep <;> cases hstep
    exact h.done (.delete _)
  | pumpEnd p reason =>
    simp only [ExitNet.step] at hstep
    split at hstep
    · next key hp =>
      obtain ⟨-, ⟨⟩⟩ := ite_none_left_eq_some.1 hstep
      exact h.pumpEnd hp
    · cases hstep
  | pumpLeave p =>
    obtain ⟨-, ⟨⟩⟩ := ite_none_right_eq_some.1 hstep
    exact ⟨h.pumps, h.handlers, h.undisturbed.removals, h.undisturbed.ends⟩
  | pumpCleanup p =>
    simp only [ExitNet.step] at hstep
    split at hstep
    · next key hp =>
      obtain ⟨-, ⟨⟩⟩ := ite_none_right_eq_some.1 hstep
      exact h.cleanup hp
    · cases hstep
  | closeCircuit circID =>
    cases hstep
    -- entries only go away
    have hcalm := closeCircuit s.m circID
    exact ⟨fun p key hp q hq => h.pumps p key (hcalm.pumps ▸ hp) q (hcalm.streams key q hq),
      fun c => (h.handlers c).mono fun key q _ => hcalm.streams key q,
      h.undisturbed.removals,
      fun e he p hp => (hcalm.ends e he).elim (h.undisturbed.ends e · p hp) (by simp [hp])⟩

end Owned

/-! ### Overlapping handlers and the counters

`ExitCount` runs every handler in one piece.  Where another section comes between those of END or
BEGIN_DIR, the counter of the circuit can fall below the number of its streams. -/

lemma teardown_kept (m : ExitTables) (p : StreamPtr) :
    (m.teardown p).streams = m.streams ∧ (m.teardown p).circStreams = m.circStreams := by
  unfold ExitTables.teardown
  split <;> exact ⟨rfl, rfl⟩

namespace ExitNet

variable {s s' : ExitNet} {key : StreamKey}

/-- A stream that its pump removes before the second section of END is counted down twice. -/
theorem end_counts_again {p : StreamPtr} (hending : s.handlers key.1 = .ending key p)
    (hgone : s.m.streams.get key = none) (hpos : s.m.circStreams key.1 > 0)
    (hstep : s.step (.endSecond key.1) = some s') :
    s'.m.streamsOf key.1 = s.m.streamsOf key.1 ∧ s'.m.circStreams key.1 = s.m.circStreams key.1 - 1 := by
  simp only [step, hending] at hstep
  cases hstep
  have hdelete : s.m.delete key = { s.m with streams := s.m.streams.erase key }.addStream key.1 (-1) :=
    if_pos hpos
  change countP _ ((s.m.delete key).teardown p).streams.entries = _ ∧
    ((s.m.delete key).teardown p).circStreams _ = _
  rw [(teardown_kept ..).1, (teardown_kept ..).2, hdelete]
  exact ⟨congrArg (countP _) (s.m.streams.entries_erase_of_none hgone), update_self ..⟩

example : (run step { m := { gateMax := 1024 } } [.beginFirst (7, 1), .beginOpened 7 false, .beginStarted 7,
      .beginFirst (7, 2), .beginOpened 7 true, .beginStarted 7, .endFirst (7, 1), .pumpLeave 0, .pumpCleanup 0,
      .endSecond 7]).map (fun s => (s.m.streamsOf 7, s.m.circStreams 7)) = some (1, 0) := by
  decide +kernel

/-- A circuit that is closed while BEGIN_DIR dials forgets the place of the stream, which is put
in the table nevertheless. -/
theorem dir_opens_uncounted {tcp : Bool} (hopening : s.handlers key.1 = .dirOpening key)
    (hrun : run step s [.closeCircuit key.1, .dirOpened key.1 tcp] = some s') :
    s'.m.circStreams key.1 = 0 ∧ s'.m.streams.get key = some (s.m.closeCircuit key.1).fresh := by
  simp only [run, step, bind_some, hopening] at hrun
  cases hrun
  refine ⟨foldlRecOn (motive := fun m : ExitTables => m.circStreams key.1 = 0) _ _
    (update_self ..) ?_, get_set_self ..⟩
  rintro m hm p -
  rw [(teardown_kept m p).2]
  exact hm

end ExitNet

/-! ### Whole runs -/

/-- **A pump leaves newer streams alone** in every run in which no stream is put in the table under
a key that a running pump has: none is removed by the pump of another, and no END cell is sent for
it on behalf of another. -/
theorem pumps_leave_newer (gateMax : ℕ) (es : List ReuseStep) {s : ExitNet}
    (hmeets : RunMeets step ExitNet.KeyAtRest { m := { gateMax } } es)
    (hrun : run step { m := { gateMax } } es = some s) : s.Undisturbed :=
  (run_inv (fun _ _ _ h hrest hstep => Owned.step h hrest hstep) (.init) hmeets hrun).undisturbed

/-- The stream ID is used again, and the old pump is done before the new stream is there. -/
def reusedInTime : List ReuseStep :=
  [.beginFirst (7, 1), .beginOpened 7 true, .beginStarted 7, .beginFirst (7, 1), .pumpEnd 0 6,
    .pumpCleanup 0, .beginOpened 7 true, .beginStarted 7, .pumpEnd 1 6, .pumpCleanup 1]

theorem pumps_leave_newer_in_time :
    ∃ s, run step { m := { gateMax := 1024 } } reusedInTime = some s ∧
      s.removals = [(1, 1)] ∧ s.Undisturbed :=
  exists_some_and (by decide +kernel) fun _ hs _ =>
    pumps_leave_newer 1024 reusedInTime (by decide +kernel) hs

/-- The old pump ends after the new stream has taken the stream ID: it sends an END cell for the
new stream and removes it. -/
theorem old_pump_ends_newer :
    ∃ s, run step { m := { gateMax := 1024 } }
        [.beginFirst (7, 1), .beginOpened 7 true, .beginStarted 7, .beginFirst (7, 1),
          .beginOpened 7 true, .beginStarted 7, .pumpEnd 0 6, .pumpCleanup 0] = some s ∧
      s.removals = [(0, 1)] ∧ s.m.ends = [⟨(7, 1), some 0, 6, some 1⟩] ∧
      s.m.streams.get (7, 1) = none ∧ ¬ s.Undisturbed := by
  refine exists_some_imp (P := fun s => s.removals = [(0, 1)] ∧
    s.m.ends = [⟨(7, 1), some 0, 6, some 1⟩] ∧ s.m.streams.get (7, 1) = none) (by decide +kernel) ?_
  rintro s - ⟨hremovals, hends, hgone⟩
  refine ⟨hremovals, hends, hgone, fun hun => ?_⟩
  have hown := hun.removals (0, 1) (hremovals ▸ mem_singleton_self _)
  cases hown

end GoTor.Relay
