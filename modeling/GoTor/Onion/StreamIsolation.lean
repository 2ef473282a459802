import GoTor.Onion.ServiceStream

/-!
# Streams of different circuits

The state behind the stream manager's actions, and what keeps the streams of one rendezvous
circuit apart from those of another.  Stream IDs are chosen by the client of each circuit, and
the table has one entry per stream ID: two circuits that use the same ID get at each other's
streams (`data_reaches_other_backend`).  As long as no circuit meets another circuit's entry,
the circuits are isolated (`streams_isolated`).
-/

namespace GoTor.Onion

open GoTor.Lib GoTor.Cell Function List

/-! ### State -/

structure ServiceStream (ι : Type) where
  streamID : UInt16
  /-- The circuit whose RELAY_BEGIN opened it. -/
  circuit : ι
  targetPort : ℕ
  targetAddr : String
  /-- Closed, together with its backend connection. -/
  closed : Bool := false
  started : Bool := false
  deriving DecidableEq

/-- Bytes of a RELAY_DATA of `circuit` with the ID `streamID` that reached the backend of
`stream`; `last` is the stream of the last successful RELAY_BEGIN of that circuit and ID. -/
structure BackendWrite (ι : Type) where
  circuit : ι
  streamID : UInt16
  stream : ℕ
  bytes : Bytes
  last : Option ℕ
  deriving DecidableEq

structure StreamState (ι : Type) where
  /-- `sm.streams`. -/
  table : UInt16 → Option ℕ := fun _ => none
  streams : List (ServiceStream ι) := []
  cancelled : Bool := false
  sent : List (ι × RelayCell) := []
  /-- The stream of the last successful RELAY_BEGIN of each circuit and ID. -/
  begun : ι → UInt16 → Option ℕ := fun _ _ => none
  writes : List (BackendWrite ι) := []
  /-- The streams a circuit's cells have replaced in the table, removed from it, or closed. -/
  touched : List (ι × ℕ) := []

inductive StreamChoice
  | done
  | fail
  /-- A write that fails after `n` bytes. -/
  | short (n : ℕ)
  | data (b : Bytes)
  | timeout
  deriving DecidableEq

namespace StreamState

variable {ι : Type} [DecidableEq ι] (s : StreamState ι)

def circuitOf (k : ℕ) : Option ι := (s.streams[k]?).map ServiceStream.circuit

def closedOf (k : ℕ) : Bool := (s.streams[k]?).all ServiceStream.closed

/-- The stream with the ID in the table, as touched by the circuit. -/
def touches (c : ι) (i : UInt16) : List (ι × ℕ) := (s.table i).toList.map (c, ·)

def register (c : ι) (i : UInt16) (targetPort : ℕ) (targetAddr : String) : StreamState ι :=
  { s with
    streams := s.streams ++ [⟨i, c, targetPort, targetAddr, false, false⟩]
    table := update s.table i (some s.streams.length)
    touched := s.touched ++ s.touches c i }

def delete (c : ι) (i : UInt16) : StreamState ι :=
  { s with table := update s.table i none, touched := s.touched ++ s.touches c i }

def closeStream (who : Option ι) (k : ℕ) : StreamState ι :=
  { s with
    streams := s.streams.modify k fun st => { st with closed := true }
    touched := s.touched ++ who.toList.map (·, k) }

def start (c : ι) (i : UInt16) (k : ℕ) : StreamState ι :=
  { s with
    streams := s.streams.modify k fun st => { st with started := true }
    begun := update s.begun c (update (s.begun c) i (some k)) }

def write (c : ι) (i : UInt16) (k : ℕ) (bytes : Bytes) : StreamState ι :=
  { s with writes := s.writes ++ [⟨c, i, k, bytes, s.begun c i⟩] }

def live : List ℕ := (List.range s.streams.length).filter fun k =>
  (s.streams[k]?).any fun st => s.table st.streamID = some k

def exec {Tid : Type} (_ : Tid) : (a : StreamAct ι) → StreamChoice → StreamState ι → Option (a.Resp × StreamState ι)
  | .dial _, .done, s => some (true, s)
  | .dial _, .fail, s => some (false, s)
  | .dial _, _, _ => none
  | .register c i targetPort targetAddr, _, s =>
    some (s.streams.length, s.register c i targetPort targetAddr)
  | .lookup _ i, _, s => some (s.table i, s)
  | .write c i k data, ch, s =>
    if s.closedOf k then some (false, s)
    else match ch with
      | .done => some (true, s.write c i k data)
      | .short n => if n ≤ data.length then some (false, s.write c i k (data.take n)) else none
      | _ => none
  | .close who k, _, s => some ((), s.closeStream who k)
  | .delete c i, _, s => some ((), s.delete c i)
  | .send c rc, .done, s => some (true, { s with sent := s.sent ++ [(c, rc)] })
  | .send _ _, .fail, s => some (false, s)
  | .send _ _, _, _ => none
  | .start c i k, _, s => some ((), s.start c i k)
  | .awaitStart k, _, s => if (s.streams[k]?).any ServiceStream.started then some ((), s) else none
  | .ctxDone k, _, s => some (s.cancelled || s.closedOf k, s)
  | .awaitDone k, _, s => if s.cancelled || s.closedOf k then some ((), s) else none
  | .read k, ch, s =>
    if s.closedOf k then some (.failed, s)
    else match ch with
      | .data b => if b.length ≤ 498 then some (.data b, s) else none
      | .timeout => some (.timeout, s)
      | .fail => some (.failed, s)
      | _ => none
  | .sendData k b, ch, s =>
    match s.streams[k]?, ch with
    | some st, .done =>
      some (true, { s with sent := s.sent ++ [(st.circuit, controlCell relayData st.streamID b)] })
    | some _, .fail => some (false, s)
    | _, _ => none
  | .takeAll, _, s => some (s.live, { s with table := fun _ => none })
  | .cancel, _, s => some ((), { s with cancelled := true })

end StreamState

/-! ### Goroutines -/

/-- The goroutines of a service: one for each circuit, two for each stream, and the one that
stops the service. -/
inductive StreamThread (ι : Type)
  | handler (c : ι)
  | forwardTo (stream : ℕ)
  | forwardFrom (stream : ℕ)
  | stop
  deriving DecidableEq

def StreamThread.circuit {ι : Type} : StreamThread ι → Option ι
  | .handler c => some c
  | _ => none

/-- A service whose circuits receive `cells`; `rounds` bounds the loops of the streams'
goroutines. -/
def service {ι : Type} (ports : ℕ → Option String) (cells : ι → List RelayCell) (rounds : ℕ → ℕ) :
    Config (StreamThread ι) (StreamAct ι) StreamAct.Resp (StreamState ι) where
  shared := {}
  threads
    | .handler c => handleRendezvousCircuitCells ports c (cells c)
    | .forwardTo k => forwardToCircuit k (rounds k)
    | .forwardFrom k => forwardFromCircuit k
    | .stop => Onion.stop

/-! ### The contract of the goroutines -/

/-- What the goroutine of a circuit knows: the entry its last look at the table gave, and the
stream it has registered and not yet started or closed. -/
structure StreamGhost where
  found : Option (UInt16 × ℕ) := none
  pending : Option (UInt16 × ℕ) := none

/-- Only the goroutine of a circuit acts for the circuit, on streams it has found or
registered itself. -/
def streamContract {ι : Type} (who : Option ι) :
    Contract (StreamAct ι) StreamAct.Resp StreamGhost where
  pre l
    | .register c _ _ _ => who = some c ∧ l.pending = none
    | .lookup c _ => who = some c ∧ l.pending = none
    | .write c i k _ => who = some c ∧ l.found = some (i, k)
    | .close (some c) k => who = some c ∧
      (l.pending = none ∧ (∃ i, l.found = some (i, k)) ∨ ∃ i, l.pending = some (i, k))
    | .delete c _ => who = some c ∧ l.pending = none
    | .start c i k => who = some c ∧ l.pending = some (i, k)
    | _ => True
  post l
    | .register _ i _ _, k, l' => l' = { found := none, pending := some (i, k) }
    | .lookup _ i, r, l' => l' = { l with found := r.map (i, ·) }
    | .close (some _) _, _, l' => l' = { l with pending := none }
    | .start _ _ _, _, l' => l' = {}
    | _, _, l' => l' = l

section Meets

variable {ι : Type} {c : ι} {l : StreamGhost} {ports : ℕ → Option String} {i : UInt16} {data : Bytes} {k : ℕ}

lemma meets_handleRelayBegin (hl : l.pending = none) :
    Meets (streamContract (some c)) l (handleRelayBegin ports c i data) fun l' _ =>
      l'.pending = none := by
  unfold handleRelayBegin
  split
  · exact ⟨trivial, fun _ _ h => h ▸ hl⟩
  refine ⟨trivial, ?_⟩
  rintro connected l rfl
  simp only [Prog.done_bind]
  split
  · exact ⟨trivial, fun _ _ h => h ▸ hl⟩
  refine ⟨⟨rfl, hl⟩, ?_⟩
  rintro k _ rfl
  refine ⟨trivial, ?_⟩
  rintro sent _ rfl
  simp only [Prog.done_bind]
  split
  · refine ⟨⟨rfl, rfl⟩, ?_⟩
    rintro _ _ rfl
    rfl
  · refine ⟨⟨rfl, .inr ⟨i, rfl⟩⟩, ?_⟩
    rintro _ _ rfl
    rfl

lemma meets_handleRelayData (hl : l.pending = none) :
    Meets (streamContract (some c)) l (handleRelayData c i data) fun l' _ =>
      l'.pending = none := by
  refine ⟨⟨rfl, hl⟩, ?_⟩
  rintro (_ | k) _ rfl
  · exact hl
  refine ⟨⟨rfl, rfl⟩, ?_⟩
  rintro written _ rfl
  simp only [Prog.done_bind]
  split
  · exact hl
  · refine ⟨⟨rfl, .inl ⟨hl, i, rfl⟩⟩, ?_⟩
    rintro _ _ rfl
    rfl

lemma meets_handleRelayEnd (hl : l.pending = none) :
    Meets (streamContract (some c)) l (handleRelayEnd c i) fun l' _ => l'.pending = none := by
  refine ⟨⟨rfl, hl⟩, ?_⟩
  rintro (_ | k) _ rfl
  · exact hl
  refine ⟨⟨rfl, .inl ⟨hl, i, rfl⟩⟩, ?_⟩
  rintro _ _ rfl
  refine ⟨⟨rfl, rfl⟩, ?_⟩
  rintro _ _ rfl
  rfl

lemma meets_handleCell (ports : ℕ → Option String) (rc : RelayCell) (hl : l.pending = none) :
    Meets (streamContract (some c)) l (handleCell ports c rc) fun l' _ => l'.pending = none := by
  unfold handleCell
  split
  · show Meets _ _ ((handleRelayBegin ports c _ _).bind _) _
    rw [meets_bind]
    exact meets_handleRelayBegin hl
  split
  · show Meets _ _ ((handleRelayData c _ _).bind _) _
    rw [meets_bind]
    exact meets_handleRelayData hl
  split
  · exact meets_handleRelayEnd hl
  · exact hl

/-- What the goroutines that act for no circuit do. -/
def StreamAct.Unowned : StreamAct ι → Prop
  | .awaitStart _ | .ctxDone _ | .awaitDone _ | .read _ | .sendData _ _ => True
  | .close none _ | .takeAll | .cancel => True
  | _ => False

lemma meets_unowned {p : StreamProg ι Unit} (hp : p.Always StreamAct.Unowned) :
    Meets (streamContract none) l p fun _ _ => True := by
  refine (meets_of_always (I := fun _ => True) ?_ hp trivial).imp fun _ _ h => h
  intro l a _ ha
  refine ⟨?_, fun _ _ _ => trivial⟩
  cases a with
  | close who k =>
    cases who with
    | none => trivial
    | some c => exact ha.elim
  | awaitStart k | ctxDone k | awaitDone k | read k | sendData k b | takeAll | cancel => trivial
  | _ => exact ha.elim

lemma forwardLoop_unowned (rounds : ℕ) :
    (forwardLoop k rounds : StreamProg ι Unit).Always StreamAct.Unowned := by
  induction rounds with
  | zero => trivial
  | succ rounds ih =>
    have hclose : (Prog.lift (StreamAct.close none k) : StreamProg ι Unit).Always
        StreamAct.Unowned := ⟨trivial, fun _ => trivial⟩
    refine ⟨trivial, fun isDone => ?_⟩
    simp only [Prog.done_bind]
    split
    · exact hclose
    refine ⟨trivial, ?_⟩
    rintro (b | _ | _)
    · simp only [Prog.done_bind]
      split
      · exact ih
      refine ⟨trivial, fun sent => ?_⟩
      simp only [Prog.done_bind]
      split
      · exact ih
      · exact hclose
    · exact ih
    · exact hclose

lemma forwardToCircuit_unowned {rounds : ℕ} :
    (forwardToCircuit k rounds : StreamProg ι Unit).Always StreamAct.Unowned :=
  ⟨trivial, fun _ => forwardLoop_unowned rounds⟩

lemma forwardFromCircuit_unowned :
    (forwardFromCircuit k : StreamProg ι Unit).Always StreamAct.Unowned :=
  ⟨trivial, fun _ => ⟨trivial, fun _ => ⟨trivial, fun _ => trivial⟩⟩⟩

lemma stop_unowned : (Onion.stop : StreamProg ι Unit).Always StreamAct.Unowned := by
  have hclose : (closeAll : StreamProg ι Unit).Always StreamAct.Unowned := by
    refine ⟨trivial, fun streams => ?_⟩
    have hone : ∀ k, (Prog.lift (StreamAct.close none k) : StreamProg ι Unit).Always
        StreamAct.Unowned := fun _ => ⟨trivial, fun _ => trivial⟩
    exact Prog.Always.forEach hone streams
  exact hclose.bind fun _ => ⟨trivial, fun _ => trivial⟩

lemma meets_service {cells : ι → List RelayCell} {rounds : ℕ → ℕ} (t : StreamThread ι) :
    Meets (streamContract t.circuit) {} ((service ports cells rounds).threads t) fun _ _ => True := by
  cases t with
  | handler c =>
    have hidle : ({} : StreamGhost).pending = none := rfl
    have hloop := meets_forEach (C := streamContract (some c)) (I := fun l => l.pending = none)
      (fun rc _ hl => meets_handleCell ports rc hl) (cells c) hidle
    exact hloop.imp fun _ _ _ => trivial
  | forwardTo k => exact meets_unowned forwardToCircuit_unowned
  | forwardFrom k => exact meets_unowned forwardFromCircuit_unowned
  | stop => exact meets_unowned stop_unowned

end Meets

/-! ### Isolation -/

section Isolation

variable {ι : Type} (s : StreamState ι)

/-- The table's entry for the ID, if there is one, is a stream of the circuit. -/
def StreamState.OwnEntry (c : ι) (i : UInt16) : Prop :=
  ∀ k ∈ s.table i, s.circuitOf k = some c

/-- The condition on a step: whenever a circuit registers, looks up or removes a stream ID, the
table has no entry for it or one of this circuit. -/
def MeetsOwnEntries (_ : StreamThread ι) (a : StreamAct ι) (_ : StreamChoice) : Prop :=
  match a with
  | .register c i _ _ => s.OwnEntry c i
  | .lookup c i => s.OwnEntry c i
  | .delete c i => s.OwnEntry c i
  | _ => True

instance [DecidableEq ι] (c : ι) (i : UInt16) : Decidable (s.OwnEntry c i) := by
  unfold StreamState.OwnEntry
  infer_instance

instance [DecidableEq ι] (t : StreamThread ι) (a : StreamAct ι) (ch : StreamChoice) :
    Decidable (MeetsOwnEntries s t a ch) := by
  unfold MeetsOwnEntries
  split <;> infer_instance

/-- The stream is the one of the last successful RELAY_BEGIN, or it is closed. -/
def StreamState.Current (c : ι) (i : UInt16) (k : ℕ) : Prop :=
  s.begun c i = some k ∨ s.closedOf k = true

structure StreamInv (s : StreamState ι) (l : StreamThread ι → StreamGhost) : Prop where
  valid : ∀ i k, s.table i = some k → k < s.streams.length
  entry : ∀ c i k, s.table i = some k → s.circuitOf k = some c →
    s.Current c i k ∨ (l (.handler c)).pending = some (i, k)
  found : ∀ c i k, (l (.handler c)).found = some (i, k) → s.circuitOf k = some c ∧ s.Current c i k
  pending : ∀ c i k, (l (.handler c)).pending = some (i, k) → s.circuitOf k = some c
  /-- No older stream of the circuit stands in the place of the registered one. -/
  newest : ∀ c i k m, (l (.handler c)).pending = some (i, k) → s.table i = some m → s.circuitOf m = some c → m = k
  writes : ∀ w ∈ s.writes, w.last = some w.stream
  touched : ∀ p ∈ s.touched, s.circuitOf p.2 = some p.1

variable {s s' : StreamState ι} {l : StreamThread ι → StreamGhost} {c : ι} {i : UInt16} {k : ℕ}

structure StreamState.Same (s s' : StreamState ι) : Prop where
  table : s'.table = s.table
  streams : s'.streams = s.streams
  begun : s'.begun = s.begun
  writes : s'.writes = s.writes
  touched : s'.touched = s.touched

open StreamState Option

lemma StreamInv.frame (h : StreamInv s l) (hsame : s.Same s') : StreamInv s' l := by
  obtain ⟨htable, hstreams, hbegun, hwrites, htouched⟩ := hsame
  have hcircuit : ∀ k, s'.circuitOf k = s.circuitOf k := by
    intro k
    unfold circuitOf
    rw [hstreams]
  have hcurrent : ∀ c i k, s'.Current c i k ↔ s.Current c i k := by
    intro c i k
    unfold StreamState.Current closedOf
    rw [hstreams, hbegun]
  constructor
  · rw [htable, hstreams]
    exact h.valid
  · intro c i k hk hc
    rw [htable] at hk
    rw [hcircuit] at hc
    rw [hcurrent]
    exact h.entry c i k hk hc
  · intro c i k hk
    rw [hcircuit, hcurrent]
    exact h.found c i k hk
  · intro c i k hk
    rw [hcircuit]
    exact h.pending c i k hk
  · intro c i k m hk hm hc
    rw [htable] at hm
    rw [hcircuit] at hc
    exact h.newest c i k m hk hm hc
  · rw [hwrites]
    exact h.writes
  · rw [htouched]
    intro p hp
    rw [hcircuit]
    exact h.touched p hp

/-! #### Registering -/

section Register

variable {targetPort : ℕ} {targetAddr : String}

lemma circuitOf_lt (hk : s.circuitOf k = some c) : k < s.streams.length := by
  unfold circuitOf at hk
  by_contra hge
  rw [getElem?_eq_none (Nat.le_of_not_lt hge)] at hk
  cases hk

lemma getElem?_register (hk : k < s.streams.length) :
    (s.register c i targetPort targetAddr).streams[k]? = s.streams[k]? :=
  getElem?_append_left hk

lemma circuitOf_register (hk : k < s.streams.length) :
    (s.register c i targetPort targetAddr).circuitOf k = s.circuitOf k := by
  unfold circuitOf
  rw [getElem?_register hk]

lemma circuitOf_register_new :
    (s.register c i targetPort targetAddr).circuitOf s.streams.length = some c := by
  simp [circuitOf, register]

lemma current_register {c' : ι} {j : UInt16} (hk : k < s.streams.length)
    (h : s.Current c' j k) : (s.register c i targetPort targetAddr).Current c' j k := by
  rcases h with h | h
  · exact .inl h
  right
  unfold closedOf at h ⊢
  rw [getElem?_register hk]
  exact h

lemma mem_touches {p : ι × ℕ} (hp : p ∈ s.touches c i) : p.1 = c ∧ s.table i = some p.2 := by
  obtain ⟨k, hk, rfl⟩ := mem_map.1 hp
  exact ⟨rfl, mem_toList.1 hk⟩

lemma StreamInv.register [DecidableEq ι] (h : StreamInv s l) (hown : s.OwnEntry c i)
    (hpre : (l (.handler c)).pending = none) :
    StreamInv (s.register c i targetPort targetAddr)
      (update l (.handler c) { pending := some (i, s.streams.length) }) := by
  have hold : ∀ {k c'}, s.circuitOf k = some c' →
      (s.register c i targetPort targetAddr).circuitOf k = some c' := by
    intro k c' hk
    rw [circuitOf_register (circuitOf_lt hk)]
    exact hk
  constructor
  · intro j k hk
    show k < (s.streams ++ [_]).length
    rw [length_append, length_singleton]
    by_cases hj : j = i
    · subst hj
      have : s.streams.length = k := some.inj (by simpa [register] using hk)
      omega
    · have : k < s.streams.length := h.valid j k (by simpa [StreamState.register, hj] using hk)
      omega
  · -- an entry is the open stream of its circuit, or the pending one
    intro c' j k hk hc'
    by_cases hj : j = i
    · subst hj
      have hnew : s.streams.length = k := some.inj (by simpa [register] using hk)
      subst hnew
      rw [circuitOf_register_new] at hc'
      cases hc'
      right
      simp
    have hk : s.table j = some k := by simpa [StreamState.register, hj] using hk
    have hlt := h.valid j k hk
    rw [circuitOf_register hlt] at hc'
    rcases h.entry c' j k hk hc' with hcur | hpend
    · exact .inl (current_register hlt hcur)
    right
    have hne : c' ≠ c := by
      rintro rfl
      rw [hpre] at hpend
      cases hpend
    simpa [hne] using hpend
  · -- what other handlers have found stays
    intro c' j k hk
    by_cases hc' : c' = c
    · subst hc'
      simp at hk
    · have hk : (l (.handler c')).found = some (j, k) := by simpa [hc'] using hk
      obtain ⟨hcirc, hcur⟩ := h.found c' j k hk
      exact ⟨hold hcirc, current_register (circuitOf_lt hcirc) hcur⟩
  · intro c' j k hk
    by_cases hc' : c' = c
    · subst hc'
      have hnew : (i, s.streams.length) = (j, k) := some.inj (by simpa using hk)
      cases hnew
      exact circuitOf_register_new
    · exact hold (h.pending c' j k (by simpa [hc'] using hk))
  · -- the entry in the table is the newest
    intro c' j k m hk hm hcm
    by_cases hj : j = i
    · subst hj
      have hnew : s.streams.length = m := some.inj (by simpa [register] using hm)
      subst hnew
      rw [circuitOf_register_new] at hcm
      cases hcm
      have heq : (j, s.streams.length) = (j, k) := some.inj (by simpa using hk)
      exact congrArg Prod.snd heq
    · have hm : s.table j = some m := by simpa [StreamState.register, hj] using hm
      rw [circuitOf_register (h.valid j m hm)] at hcm
      have hc' : c' ≠ c := by
        rintro rfl
        have heq : (i, s.streams.length) = (j, k) := some.inj (by simpa using hk)
        exact hj (congrArg Prod.fst heq).symm
      exact h.newest c' j k m (by simpa [hc'] using hk) hm hcm
  · exact h.writes
  · -- only entries of this circuit are touched
    intro p hp
    rcases mem_append.1 hp with hp | hp
    · exact hold (h.touched p hp)
    · obtain ⟨hp1, hp2⟩ := mem_touches hp
      rw [hp1]
      exact hold (hown p.2 hp2)

end Register

/-! #### The other actions of a circuit's goroutine -/

variable (h : StreamInv s l)
include h

lemma StreamInv.lookup [DecidableEq ι] (hown : s.OwnEntry c i) (hpre : (l (.handler c)).pending = none) :
    StreamInv s (update l (.handler c)
      { l (.handler c) with found := (s.table i).map (i, ·) }) := by
  have hpending : ∀ c' r, (update l (.handler c)
      { l (.handler c) with found := r } (.handler c')).pending = (l (.handler c')).pending := by
    intro c' r
    by_cases hc' : c' = c
    · subst hc'
      simp
    · simp [hc']
  refine ⟨h.valid, ?_, ?_, ?_, ?_, h.writes, h.touched⟩
  · intro c' j k hk hc'
    rw [hpending]
    exact h.entry c' j k hk hc'
  · intro c' j k hk
    by_cases hc' : c' = c
    · subst hc'
      obtain ⟨k', hk', heq⟩ := map_eq_some_iff.1 (show (s.table i).map (i, ·) = some (j, k) by
        simpa using hk)
      cases heq
      have hcirc := hown k hk'
      refine ⟨hcirc, (h.entry c' i k hk' hcirc).resolve_right ?_⟩
      rw [hpre]
      nofun
    · exact h.found c' j k (by simpa [hc'] using hk)
  · intro c' j k hk
    rw [hpending] at hk
    exact h.pending c' j k hk
  · intro c' j k m hk
    rw [hpending] at hk
    exact h.newest c' j k m hk

lemma StreamInv.write (hpre : (l (.handler c)).found = some (i, k)) (hopen : s.closedOf k = false)
    {bytes : Bytes} : StreamInv (s.write c i k bytes) l := by
  refine { h with writes := ?_ }
  refine forall_mem_append.2 ⟨h.writes, forall_mem_singleton.2 ?_⟩
  · rcases (h.found c i k hpre).2 with hbegun | hclosed
    · exact hbegun
    · rw [hopen] at hclosed
      cases hclosed

lemma StreamInv.delete (hown : s.OwnEntry c i) : StreamInv (s.delete c i) l := by
  have htable : ∀ {j k}, (s.delete c i).table j = some k → s.table j = some k := by
    intro j k hk
    by_cases hj : j = i
    · subst hj
      simp [delete] at hk
    · simpa [StreamState.delete, hj] using hk
  refine ⟨fun j k hk => h.valid j k (htable hk), fun c' j k hk => h.entry c' j k (htable hk),
    h.found, h.pending, fun c' j k m hk hm => h.newest c' j k m hk (htable hm), h.writes, ?_⟩
  intro p hp
  rcases mem_append.1 hp with hp | hp
  · exact h.touched p hp
  · obtain ⟨hp1, hp2⟩ := mem_touches hp
    rw [hp1]
    exact hown p.2 hp2

omit h

/-! #### Closing and starting a stream -/

lemma circuitOf_modify {f : ServiceStream ι → ServiceStream ι} (hf : ∀ st, (f st).circuit = st.circuit) (j k : ℕ) :
    ((s.streams.modify k f)[j]?).map ServiceStream.circuit = s.circuitOf j := by
  unfold circuitOf
  rw [getElem?_modify]
  by_cases hk : k = j
  · subst hk
    cases s.streams[k]? with
    | none => rfl
    | some st => simp [hf]
  · simp [hk]

lemma closedOf_closeStream {who : Option ι} {j : ℕ} (h : j = k ∨ s.closedOf j = true) :
    (s.closeStream who k).closedOf j = true := by
  unfold closedOf closeStream at *
  rw [getElem?_modify]
  by_cases hk : k = j
  · subst hk
    cases s.streams[k]? with
    | none => rfl
    | some st => simp
  · have h := h.resolve_left fun hj => hk hj.symm
    simpa [hk] using h

include h

lemma StreamInv.closeStream (who : Option ι)
    (hwho : ∀ c ∈ who, s.circuitOf k = some c) : StreamInv (s.closeStream who k) l := by
  have hcircuit : ∀ j, (s.closeStream who k).circuitOf j = s.circuitOf j :=
    fun j => circuitOf_modify (f := fun st => { st with closed := true }) (fun _ => rfl) j k
  have hcurrent : ∀ {c i j}, s.Current c i j → (s.closeStream who k).Current c i j := by
    intro c i j hcur
    rcases hcur with hcur | hcur
    · exact .inl hcur
    · exact .inr (closedOf_closeStream (.inr hcur))
  constructor
  · intro i j hj
    show j < (s.streams.modify k _).length
    rw [length_modify]
    exact h.valid i j hj
  · intro c i j hj hc
    rw [hcircuit] at hc
    rcases h.entry c i j hj hc with hcur | hpend
    · exact .inl (hcurrent hcur)
    · exact .inr hpend
  · intro c i j hj
    rw [hcircuit]
    obtain ⟨hcirc, hcur⟩ := h.found c i j hj
    exact ⟨hcirc, hcurrent hcur⟩
  · intro c i j hj
    rw [hcircuit]
    exact h.pending c i j hj
  · intro c i j m hj hm hc
    rw [hcircuit] at hc
    exact h.newest c i j m hj hm hc
  · exact h.writes
  · intro p hp
    rw [hcircuit]
    rcases mem_append.1 hp with hp | hp
    · exact h.touched p hp
    · obtain ⟨c, hc, rfl⟩ := mem_map.1 hp
      exact hwho c (mem_toList.1 hc)

lemma StreamInv.dropPending [DecidableEq ι]
    (hclosed : ∀ i k, (l (.handler c)).pending = some (i, k) → s.closedOf k = true) :
    StreamInv s (update l (.handler c) { l (.handler c) with pending := none }) := by
  have hpending : ∀ {c' i k}, (update l (.handler c)
      { l (.handler c) with pending := none } (.handler c')).pending = some (i, k) →
      (l (.handler c')).pending = some (i, k) := by
    intro c' i k hk
    by_cases hc' : c' = c
    · subst hc'
      simp at hk
    · simpa [hc'] using hk
  refine ⟨h.valid, ?_, ?_, fun c' i k hk => h.pending c' i k (hpending hk),
    fun c' i k m hk => h.newest c' i k m (hpending hk), h.writes, h.touched⟩
  · intro c' i k hk hc'
    rcases h.entry c' i k hk hc' with hcur | hpend
    · exact .inl hcur
    by_cases hne : c' = c
    · subst hne
      exact .inl (.inr (hclosed i k hpend))
    · right
      simpa [hne] using hpend
  · intro c' i k hk
    by_cases hc' : c' = c
    · subst hc'
      exact h.found c' i k (by simpa using hk)
    · exact h.found c' i k (by simpa [hc'] using hk)

lemma StreamInv.start [DecidableEq ι] (hpre : (l (.handler c)).pending = some (i, k)) :
    StreamInv (s.start c i k) (update l (.handler c) {}) := by
  have hcircuit : ∀ j, (s.start c i k).circuitOf j = s.circuitOf j :=
    fun j => circuitOf_modify (f := fun st => { st with started := true }) (fun _ => rfl) j k
  have hclosed : ∀ j, (s.start c i k).closedOf j = s.closedOf j := by
    intro j
    unfold StreamState.closedOf StreamState.start
    rw [getElem?_modify]
    cases s.streams[j]? with
    | none => rfl
    | some st => by_cases hk : k = j <;> simp [hk]
  have hbegun : ∀ c' j, c' ≠ c ∨ j ≠ i → (s.start c i k).begun c' j = s.begun c' j := by
    rintro c' j hne
    by_cases hc' : c' = c
    · subst hc'
      have hj : j ≠ i := hne.resolve_left fun hne => hne rfl
      simp [start, hj]
    · simp [StreamState.start, hc']
  -- nothing changes for other circuits and IDs
  have hcurrent : ∀ {c' j m}, c' ≠ c ∨ j ≠ i → s.Current c' j m → (s.start c i k).Current c' j m := by
    intro c' j m hne hcur
    unfold StreamState.Current at hcur ⊢
    rwa [hbegun c' j hne, hclosed]
  have hpending : ∀ {c' j m}, (update l (.handler c) {} (.handler c')).pending =
      some (j, m) → (l (.handler c')).pending = some (j, m) := by
    intro c' j m hm
    by_cases hc' : c' = c
    · subst hc'
      simp at hm
    · simpa [hc'] using hm
  constructor
  · intro j m hm
    show m < (s.streams.modify k _).length
    rw [length_modify]
    exact h.valid j m hm
  · intro c' j m hm hc'
    rw [hcircuit] at hc'
    by_cases hne : c' = c
    · subst hne
      left
      by_cases hj : j = i
      · subst hj
        -- the pending stream is the one in the table
        have hmk := h.newest c' j k m hpre hm hc'
        subst hmk
        left
        simp [start]
      · rcases h.entry c' j m hm hc' with hcur | hpend
        · exact hcurrent (.inr hj) hcur
        · rw [hpre] at hpend
          cases hpend
          exact absurd rfl hj
    · rcases h.entry c' j m hm hc' with hcur | hpend
      · exact .inl (hcurrent (.inl hne) hcur)
      · right
        simpa [hne] using hpend
  · intro c' j m hm
    by_cases hne : c' = c
    · subst hne
      simp at hm
    · obtain ⟨hcirc, hcur⟩ := h.found c' j m (by simpa [hne] using hm)
      rw [hcircuit]
      exact ⟨hcirc, hcurrent (.inl hne) hcur⟩
  · intro c' j m hm
    rw [hcircuit]
    exact h.pending c' j m (hpending hm)
  · intro c' j m n hm hn hc'
    rw [hcircuit] at hc'
    exact h.newest c' j m n (hpending hm) hn hc'
  · exact h.writes
  · intro p hp
    rw [hcircuit]
    exact h.touched p hp

omit h

/-! #### A step and a run -/

def StreamAct.Quiet : StreamAct ι → Prop
  | .dial _ | .send _ _ | .awaitStart _ | .ctxDone _ | .awaitDone _ | .read _ => True
  | .sendData _ _ | .cancel => True
  | _ => False

lemma handler_of_circuit {t : StreamThread ι} (h : t.circuit = some c) : t = .handler c := by
  cases t with
  | handler c' => rw [some.inj h]
  | forwardTo k | forwardFrom k | stop => cases h

lemma StreamInv.takeAll (h : StreamInv s l) : StreamInv { s with table := fun _ => none } l :=
  { h with valid := nofun, entry := nofun, newest := nofun }

lemma post_quiet {a : StreamAct ι} {r : a.Resp} {who : Option ι} {l : StreamGhost}
    (ha : a.Quiet) : (streamContract who).post l a r l := by
  cases a with
  | register c i targetPort targetAddr | lookup c i | close who k | start c i k => exact ha.elim
  | _ => rfl

variable [DecidableEq ι] {t : StreamThread ι} {a : StreamAct ι} {ch : StreamChoice} {r : a.Resp}

lemma exec_quiet (ha : a.Quiet) (hexec : exec t a ch s = some (r, s')) : s.Same s' := by
  have hrefl : s.Same s := ⟨rfl, rfl, rfl, rfl, rfl⟩
  cases a with
  | dial addr => cases ch <;> cases hexec <;> exact hrefl
  | send c rc =>
    cases ch <;> cases hexec
    · exact ⟨rfl, rfl, rfl, rfl, rfl⟩
    · exact hrefl
  | awaitStart k | awaitDone k =>
    simp only [exec] at hexec
    split at hexec <;> cases hexec
    exact hrefl
  | ctxDone k =>
    cases hexec
    exact hrefl
  | read k =>
    simp only [exec] at hexec
    split at hexec
    · cases hexec
      exact hrefl
    cases ch with
    | data b =>
      dsimp only at hexec
      split at hexec <;> cases hexec
      exact hrefl
    | timeout | fail =>
      cases hexec
      exact hrefl
    | done | short n => cases hexec
  | sendData k b =>
    simp only [exec] at hexec
    split at hexec <;> cases hexec
    · exact ⟨rfl, rfl, rfl, rfl, rfl⟩
    · exact hrefl
  | cancel =>
    cases hexec
    exact ⟨rfl, rfl, rfl, rfl, rfl⟩
  | _ => exact ha.elim

lemma StreamInv.stay (h : StreamInv s' l) : StreamInv s' (update l t (l t)) := by
  rwa [update_eq_self]

include h

lemma StreamInv.writeStep {data : Bytes} {r : Bool} (hfound : (l (.handler c)).found = some (i, k))
    (hexec : exec t (.write c i k data) ch s = some (r, s')) : StreamInv s' l := by
  simp only [exec] at hexec
  split at hexec
  · cases hexec
    exact h
  next hopen =>
  have hopen : s.closedOf k = false := Bool.eq_false_iff.2 hopen
  cases ch with
  | done =>
    cases hexec
    exact h.write hfound hopen
  | short n =>
    dsimp only at hexec
    split at hexec <;> cases hexec
    exact h.write hfound hopen
  | fail | data b | timeout => cases hexec

lemma StreamInv.closeStep
    (hwhich : (l (.handler c)).pending = none ∧ (∃ i, (l (.handler c)).found = some (i, k)) ∨
      ∃ i, (l (.handler c)).pending = some (i, k)) :
    StreamInv (s.closeStream (some c) k)
      (update l (.handler c) { l (.handler c) with pending := none }) := by
  have hmine : s.circuitOf k = some c := by
    rcases hwhich with ⟨-, i, hi⟩ | ⟨i, hi⟩
    · exact (h.found c i k hi).1
    · exact h.pending c i k hi
  have hclose : StreamInv (s.closeStream (some c) k) l := by
    refine h.closeStream (some c) ?_
    rintro c' ⟨⟩
    exact hmine
  refine hclose.dropPending ?_
  intro i m hm
  rcases hwhich with ⟨hnone, -⟩ | ⟨j, hj⟩
  · rw [hnone] at hm
    cases hm
  · rw [hj] at hm
    cases hm
    exact closedOf_closeStream (.inl rfl)

lemma StreamInv.exec (hpre : (streamContract t.circuit).pre (l t) a)
    (hgood : MeetsOwnEntries s t a ch) (hexec : exec t a ch s = some (r, s')) :
    ∃ l', (streamContract t.circuit).post (l t) a r l' ∧ StreamInv s' (update l t l') := by
  by_cases hquiet : a.Quiet
  · exact ⟨l t, post_quiet hquiet, (h.frame (exec_quiet hquiet hexec)).stay⟩
  cases a with
  | register c i targetPort targetAddr =>
    -- Only the handler of circuit `c` works on the entries of `c`.
    obtain ⟨ht, hpend⟩ := hpre
    rw [handler_of_circuit ht] at hpend ⊢
    cases hexec
    exact ⟨_, rfl, h.register hgood hpend⟩
  | lookup c i =>
    obtain ⟨ht, hpend⟩ := hpre
    rw [handler_of_circuit ht] at hpend ⊢
    cases hexec
    exact ⟨_, rfl, h.lookup hgood hpend⟩
  | write c i k data =>
    obtain ⟨ht, hfound⟩ := hpre
    rw [handler_of_circuit ht] at hfound
    exact ⟨_, rfl, (h.writeStep hfound hexec).stay⟩
  | close who k =>
    cases who with
    | none =>
      cases hexec
      exact ⟨_, rfl, (h.closeStream none nofun).stay⟩
    | some c =>
      obtain ⟨ht, hwhich⟩ := hpre
      rw [handler_of_circuit ht] at hwhich ⊢
      cases hexec
      exact ⟨_, rfl, h.closeStep hwhich⟩
  | delete c i =>
    cases hexec
    exact ⟨_, rfl, (h.delete hgood).stay⟩
  | start c i k =>
    obtain ⟨ht, hpend⟩ := hpre
    rw [handler_of_circuit ht] at hpend ⊢
    cases hexec
    exact ⟨_, rfl, h.start hpend⟩
  | takeAll =>
    cases hexec
    exact ⟨_, rfl, h.takeAll.stay⟩
  | _ => exact absurd trivial hquiet

omit h

/-- **Isolation of the rendezvous circuits.**  In every run in which no circuit meets another
circuit's entry in the table, the bytes of a RELAY_DATA reach only the backend of the last
successful RELAY_BEGIN of the same circuit and stream ID, and the cells of a circuit replace,
remove and close only streams of that circuit. -/
theorem streams_isolated (ports : ℕ → Option String) (cells : ι → List RelayCell)
    (rounds : ℕ → ℕ) {sched : List (StreamThread ι × StreamChoice)}
    {c : Config (StreamThread ι) (StreamAct ι) StreamAct.Resp (StreamState ι)}
    (hgood : RunMeets (stepThread exec) (OnAction MeetsOwnEntries) (service ports cells rounds) sched)
    (hrun : run (stepThread exec) (service ports cells rounds) sched = some c) :
    (∀ w ∈ c.shared.writes, w.last = some w.stream) ∧
    ∀ p ∈ c.shared.touched, c.shared.circuitOf p.2 = some p.1 := by
  have hstart : Guarded (fun t => streamContract t.circuit) StreamInv (service ports cells rounds) := by
    refine ⟨fun _ => {}, ?_, meets_service⟩
    exact ⟨nofun, nofun, nofun, nofun, nofun, nofun, nofun⟩
  obtain ⟨l, hinv, -⟩ := run_meets (fun _ _ _ _ _ _ _ hinv hpre hgood hexec =>
    hinv.exec hpre hgood hexec) hstart hgood hrun
  exact ⟨hinv.writes, hinv.touched⟩

end Isolation

/-! ### Two circuits -/

def beginCell (i : UInt16) : RelayCell := controlCell relayBegin i [58, 56, 48, 0]

abbrev runTwo (cells : Bool → List RelayCell) (sched : List Bool) :=
  run (stepThread StreamState.exec)
    (service (fun port => if port = 80 then some "127.0.0.1:8080" else none) cells fun _ => 0)
    (sched.map fun c => (.handler c, .done))

/-- Two circuits with IDs of their own. -/
def twoStreams : Bool → List RelayCell
  | false => [beginCell 1, controlCell relayData 1 [97], controlCell relayEnd 1 [6]]
  | true => [beginCell 2, controlCell relayData 2 [98]]

def twoStreamsSched : List Bool :=
  [false, true, false, true, false, true, false, true, false, true, true, false, false, false, false]

theorem streams_isolated_two :
    ∃ c, runTwo twoStreams twoStreamsSched = some c ∧ c.shared.writes.map (fun w => (w.circuit, w.stream, w.bytes)) =
        [(true, 1, [98]), (false, 0, [97])] ∧
      (∀ w ∈ c.shared.writes, w.last = some w.stream) ∧
      ∀ p ∈ c.shared.touched, c.shared.circuitOf p.2 = some p.1 :=
  exists_some_and (by decide +kernel) fun _ hc _ =>
    streams_isolated _ twoStreams _ (by decide +kernel) hc

/-- Two circuits that both use the ID 1. -/
def sameID : Bool → List RelayCell
  | false => [beginCell 1, controlCell relayData 1 [97]]
  | true => [beginCell 1]

/-- The second circuit's RELAY_BEGIN replaces the first one's stream, and the first circuit's
data goes to the second one's backend. -/
theorem data_reaches_other_backend :
    ∃ c, runTwo sameID [false, false, false, false, true, true, true, true, false, false] = some c ∧
      ¬ (∀ w ∈ c.shared.writes, w.last = some w.stream) ∧
      ¬ ∀ p ∈ c.shared.touched, c.shared.circuitOf p.2 = some p.1 := by
  decide +kernel

end GoTor.Onion
