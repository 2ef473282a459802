import GoTor.Socks.OnionHosts
import GoTor.Stream.Attribute

/-!
# Isolation of SOCKS streams

Connections run concurrently over one pool.  What decides which circuit a stream may get is
the isolation key of its request, made of one attribute: the first of user name, destination
and source port that the policy enables and the request has.  Streams on one circuit agree on
that attribute (`same_circuit_same_attribute`), and on no other (`circuit_shared`).
-/

namespace GoTor.Socks

open GoTor.Lib GoTor.Stream GoTor.Pool Function SocksAct

/-! ### State -/

structure PoolCircuit where
  id : UInt32
  isOpen : Bool := true
  isolationKey : Option IsolationKey := none
  /-- Built for one rendezvous, not for the pool. -/
  rendezvous : Bool := false
  deriving DecidableEq

structure Carried (Tid : Type) where
  circ : ℕ
  conn : Tid
  req : StreamRequest

structure SocksState (Tid : Type) where
  circs : List PoolCircuit := []
  pool : Option CircuitPool := none
  /-- Whether `circuitForExit` is set. -/
  hasBuilder : Bool := false
  policy : IsolationPolicy
  /-- `circuitKeys` of the enforcer. -/
  circuitKeys : CircuitKeys := fun _ => none
  carried : List (Carried Tid) := []

inductive SocksChoice
  | done
  | fail
  /-- A circuit is built and gets this ID. -/
  | built (id : UInt32)
  | streamID (id : UInt16)
  deriving DecidableEq

variable {r : Option ℕ}

open SocksState

namespace SocksState

variable {Tid : Type} (s : SocksState Tid)

def isOpen (circ : ℕ) : Bool := (s.circs[circ]?).any PoolCircuit.isOpen

def keyOf (circ : ℕ) : Option IsolationKey := (s.circs[circ]?).bind PoolCircuit.isolationKey

def idOf (circ : ℕ) : UInt32 := (s.circs[circ]?).elim 0 PoolCircuit.id

def newCircuit (rendezvous : Bool) : SocksChoice → Option (Option ℕ × SocksState Tid)
  | .built id => some (some s.circs.length, { s with circs := s.circs ++ [{ id, rendezvous }] })
  | .fail => some (none, s)
  | _ => none

def updateCircuit (circ : ℕ) (f : PoolCircuit → PoolCircuit) : SocksState Tid :=
  { s with circs := s.circs.modify circ f }

def carry (circ : ℕ) (conn : Tid) (req : StreamRequest) : SocksState Tid :=
  { s with carried := s.carried ++ [⟨circ, conn, req⟩] }

def answer : SocksChoice → Option Bool
  | .done => some true
  | .fail => some false
  | _ => none

variable (L : IsolationLib) (allows : ℕ → Option Bytes → UInt16 → Bool)

/-- What each action does; `allows` is what the circuits' exit policies say. -/
def exec (t : Tid) : (a : SocksAct) → SocksChoice → SocksState Tid → Option (a.Resp × SocksState Tid)
  | .connectToOnionService _, ch, s => s.newCircuit true ch
  | .relayOnionServiceData circ req _ _, _, s => some ((), s.carry circ t req)
  | .snapshot, _, s => some ((s.pool.isSome, s.hasBuilder), s)
  | .validateStreamRequest req, _, s => some (validateStreamRequest L s.policy req, s)
  | .getIf key destIP port, _, s =>
    match s.pool with
    | none => none
    | some pool =>
      let (found, pool) := pool.getIf s.isOpen (allows · destIP port) key
      some (found, { s with pool := some pool })
  | .build, ch, s => s.newCircuit false ch
  | .allowsExit circ destIP port, _, s => some (allows circ destIP port, s)
  | .put circ, _, s =>
    some ((), { s with pool := s.pool.map fun p => p.put (s.isOpen circ) (s.keyOf circ) circ })
  | .buildForExit _ _, ch, s => s.newCircuit false ch
  | .setIsolationKey circ key, _, s =>
    some ((), s.updateCircuit circ fun c => { c with isolationKey := some key })
  | .closeCircuit circ, _, s => some ((), s.updateCircuit circ fun c => { c with isOpen := false })
  | .checkCircuitCompatibility circ key, _, s =>
    some (checkCircuitCompatibility s.policy s.circuitKeys (s.idOf circ) key, s)
  | .registerCircuit circ key, _, s =>
    some ((), { s with circuitKeys := registerCircuit s.circuitKeys (s.idOf circ) key })
  | .allocateStreamID _, .streamID id, s => some (some id, s)
  | .allocateStreamID _, .fail, s => some (none, s)
  | .allocateStreamID _, _, _ => none
  | .createStream _ _ _ _, ch, s => (answer ch).map (·, s)
  | .openStream circ req _ _ _, ch, s => (answer ch).map (·, s.carry circ t req)
  | .rotate, _, s => some ((), { s with pool := s.pool.map CircuitPool.rotate })
  | .reply _, _, s => some ((), s)
  | .handleResolve _, _, s => some ((), s)
  | .handleResolvePTR _, _, s => some ((), s)
  | .registerStream _ _, _, s => some ((), s)
  | .relayDataThroughCircuit _ _, _, s => some ((), s)
  | .unregisterStream _ _, _, s => some ((), s)
  | .removeStream _ _, _, s => some ((), s)
  | .releaseStreamID _ _, _, s => some ((), s)

variable {L allows} {t : Tid} {s s' : SocksState Tid}

lemma getIf_eq_some {key : Option IsolationKey} {destIP : Option Bytes} {port : UInt16} {ch : SocksChoice}
    (hexec : exec L allows t (.getIf key destIP port) ch s = some (r, s')) :
    ∃ pool, s.pool = some pool ∧ (pool.getIf s.isOpen (allows · destIP port) key).1 = r ∧
      s' = { s with pool := some (pool.getIf s.isOpen (allows · destIP port) key).2 } := by
  obtain ⟨circs, pool, hasBuilder, fixed, circuitKeys, carried⟩ := s
  rcases pool with _ | pool
  · cases hexec
  · cases hexec
    exact ⟨pool, rfl, rfl, rfl⟩

end SocksState

/-! ### Goroutines -/

/-- The goroutines around the pool: one for each connection, the prebuild loop, rotation, and
the circuits that die. -/
inductive SocksThread (ι : Type)
  | conn (i : ι)
  | prebuild
  | rotate
  | network
  deriving DecidableEq

structure SocksClient where
  source : SourceAddr
  input : Bytes

/-- The stream request of a client that asks to CONNECT. -/
def SocksClient.request (L : SocksLib) (cfg : Config) (client : SocksClient) : Option StreamRequest :=
  match handshake client.input with
  | none => none
  | some (username, input) =>
    match readRequest L cfg input with
    | .error _ => none
    | .ok request => some
      { target := mappedTarget L cfg request.targetAddr, sourceAddr := client.source
        socksUsername := username }

/-- A server with its clients, with an empty pool if it has one; `prebuilt` circuits are built
for the pool, `rotations` times the pool is rotated, and the circuits of `dying` die. -/
def server {ι : Type} (L : SocksLib) (cfg : Config) (policy : IsolationPolicy)
    (maxCircuits : Option ℕ) (hasBuilder : Bool) (clients : ι → SocksClient)
    (prebuilt rotations : ℕ) (dying : List ℕ) :
    Lib.Config (SocksThread ι) SocksAct SocksAct.Resp (SocksState (SocksThread ι)) where
  shared := { pool := maxCircuits.map fun maxCircuits => { maxCircuits }, hasBuilder, policy }
  threads
    | .conn i => handleConnection L cfg (clients i).source (clients i).input
    | .prebuild => ensureMinCircuits prebuilt
    | .rotate => Prog.forEach (List.replicate rotations ()) fun _ => Prog.lift rotate
    | .network => Prog.forEach dying fun circ => Prog.lift (closeCircuit circ)

/-! ### The contract of the goroutines -/

/-- The circuit a goroutine holds. -/
inductive Holding
  | nothing
  /-- Built for the pool and not used yet. -/
  | fresh (circ : ℕ)
  /-- From the list `idx` of the pool, or meant for it. -/
  | held (circ : ℕ) (idx : Option Bytes)
  /-- A rendezvous circuit, not used yet. -/
  | rendezvous (circ : ℕ)

namespace Holding

def Exclusive (circ : ℕ) : Holding → Prop
  | .fresh c => c = circ
  | .rendezvous c => c = circ
  | _ => False

def On (circ : ℕ) : Holding → Prop
  | .nothing => False
  | .fresh c => c = circ
  | .held c _ => c = circ
  | .rendezvous c => c = circ

/-- The circuit can carry streams of the key. -/
def For (circ : ℕ) (key : Option IsolationKey) (l : Holding) : Prop :=
  l = .held circ (poolKey key) ∨ l = .fresh circ ∧ poolKey key = none

/-- What a search for a circuit leaves behind. -/
def Found (key : Option IsolationKey) (l : Holding) : Option ℕ → Prop
  | none => l = .nothing
  | some circ => l.For circ key

end Holding

section Contract

variable (L : IsolationLib) (policy : IsolationPolicy)

/-- The list of the pool for a request. -/
def listOf (req : StreamRequest) : Option Bytes :=
  poolKey (validateStreamRequest L policy req).key

/-- A goroutine that serves the request `own` opens streams for no other, on a circuit it has
from the list of the request. -/
def socksContract (own : Option StreamRequest) : Contract SocksAct SocksAct.Resp Holding where
  pre l
    | .connectToOnionService _ => l = .nothing
    | .relayOnionServiceData circ req _ _ => own = some req ∧ l = .rendezvous circ
    | .getIf _ _ _ => l = .nothing
    | .build => l = .nothing
    | .put circ => l = .fresh circ ∨ ∃ idx, l = .held circ idx
    | .buildForExit _ _ => l = .nothing
    | .setIsolationKey circ _ => l = .fresh circ
    | .openStream circ req _ _ _ =>
      own = some req ∧ l.For circ (validateStreamRequest L policy req).key
    | _ => True
  post l
    | .connectToOnionService _, r, l' => l' = r.elim .nothing .rendezvous
    | .relayOnionServiceData _ _ _ _, _, l' => l' = .nothing
    | .validateStreamRequest req, r, l' => r = validateStreamRequest L policy req ∧ l' = l
    | .getIf key _ _, r, l' => l' = r.elim .nothing (.held · (poolKey key))
    | .build, r, l' => l' = r.elim .nothing .fresh
    | .put _, _, l' => l' = .nothing
    | .buildForExit _ _, r, l' => l' = r.elim .nothing .fresh
    | .setIsolationKey circ key, _, l' => l' = .held circ (poolKey (some key))
    | .closeCircuit _, _, l' => l' = .nothing
    | .openStream circ req _ _ _, _, l' => l' = .held circ (listOf L policy req)
    | _, _, l' => l' = l

end Contract

variable {a : SocksAct} {req : StreamRequest}

section Meets

variable {L : IsolationLib} {policy : IsolationPolicy} {own : Option StreamRequest} {l : Holding}
  {key : Option IsolationKey} {circ : ℕ}

lemma For.put_pre (h : l.For circ key) : (socksContract L policy own).pre l (.put circ) := by
  rcases h with h | h
  · exact .inr ⟨_, h⟩
  · exact .inl h.1

lemma meets_keyed :
    Meets (socksContract L policy own) (.fresh circ) (match key with
        | none => return some circ
        | some key => do
          Prog.lift (setIsolationKey circ key)
          return some circ)
      (·.Found key) := by
  cases key with
  | none => exact .inr ⟨rfl, rfl⟩
  | some key =>
    refine ⟨rfl, ?_⟩
    rintro _ _ rfl
    exact .inl rfl

variable {destIP : Option Bytes} {port : UInt16} {host : Bytes} {S : SocksLib} {cfg : Config}

lemma meets_getCircuit :
    Meets (socksContract L policy own) .nothing (getCircuit key destIP port) (·.Found key) := by
  refine ⟨rfl, ?_⟩
  rintro (_ | circ) _ rfl
  · refine ⟨rfl, ?_⟩
    rintro (_ | circ) _ rfl
    · rfl
    · exact meets_keyed
  · exact .inl rfl

lemma meets_replaceIfExitRejected {canBuild : Bool} (h : l.For circ key) :
    Meets (socksContract L policy own) l (replaceIfExitRejected canBuild key destIP port circ) (·.Found key) := by
  refine ⟨trivial, ?_⟩
  rintro allowed l rfl
  simp only [Prog.done_bind]
  split
  · exact h
  refine ⟨For.put_pre h, ?_⟩
  rintro _ _ rfl
  split
  · rfl
  refine ⟨rfl, ?_⟩
  rintro (_ | built) _ rfl
  · rfl
  refine ⟨trivial, ?_⟩
  rintro allowed _ rfl
  simp only [Prog.done_bind]
  split
  · exact meets_keyed
  · refine ⟨trivial, ?_⟩
    rintro _ _ rfl
    rfl

lemma meets_admitCircuit :
    Meets (socksContract L policy own) l (admitCircuit key circ) fun l' _ => l' = l := by
  cases key with
  | none => rfl
  | some key =>
    refine ⟨trivial, ?_⟩
    rintro admitted l rfl
    simp only [Prog.done_bind]
    split
    · refine ⟨trivial, ?_⟩
      rintro _ _ rfl
      rfl
    · rfl

/-- Actions that no circuit changes hands in. -/
def SocksAct.Quiet : SocksAct → Prop
  | .reply _ | .handleResolve _ | .handleResolvePTR _ | .snapshot | .allowsExit _ _ _ => True
  | .checkCircuitCompatibility _ _ | .registerCircuit _ _ | .allocateStreamID _ => True
  | .createStream _ _ _ _ | .registerStream _ _ | .relayDataThroughCircuit _ _ => True
  | .unregisterStream _ _ | .removeStream _ _ | .releaseStreamID _ _ => True
  | _ => False

lemma quiet_pre (h : a.Quiet) : (socksContract L policy own).pre l a := by
  cases a <;> first | exact h.elim | trivial

lemma quiet_post (h : a.Quiet) {r : a.Resp} {l' : Holding} : (socksContract L policy own).post l a r l' ↔ l' = l := by
  cases a <;> first | exact h.elim | exact Iff.rfl

lemma meets_quiet {p : SocksProg Unit} (hp : p.Always SocksAct.Quiet) :
    Meets (socksContract L policy own) l p fun l' _ => l' = l := by
  refine meets_of_always (I := (· = l)) ?_ hp rfl
  rintro _ a rfl ha
  exact ⟨quiet_pre ha, fun r l' h => (quiet_post ha).1 h⟩

lemma meets_reply {code : UInt8} :
    Meets (socksContract L policy own) l (Prog.lift (reply code)) fun l' _ => l' = l :=
  ⟨trivial, fun _ _ h => h⟩

lemma meets_runStream {isolated : Bool} (hown : own = some req)
    (h : l.For circ (validateStreamRequest L policy req).key) :
    Meets (socksContract L policy own) l (runStream req isolated circ host port) fun l' _ =>
      l'.For circ (validateStreamRequest L policy req).key := by
  refine ⟨trivial, ?_⟩
  rintro (_ | streamID) l rfl
  · exact meets_reply.imp fun _ _ hl => hl ▸ h
  refine ⟨trivial, ?_⟩
  rintro created l rfl
  simp only [Prog.done_bind]
  split
  · -- only opening the stream is not quiet
    cases isolated
    case' true =>
      refine ⟨trivial, ?_⟩
      rintro _ l rfl
    all_goals
      refine ⟨⟨hown, h⟩, ?_⟩
      rintro opened _ rfl
      refine (meets_quiet ?_).imp fun _ _ hl => .inl hl
      cases opened <;> simp [Prog.Always, Prog.bind, Prog.lift, SocksAct.Quiet]
  · refine (meets_quiet ?_).imp fun _ _ hl => hl ▸ h
    exact ⟨trivial, fun _ => ⟨trivial, fun _ => trivial⟩⟩

lemma meets_connectToExit (hown : own = some req) :
    Meets (socksContract L policy own) .nothing (connectToExit req host destIP port) fun _ _ => True := by
  have hreply : ∀ l code, Meets (socksContract L policy own) l (Prog.lift (reply code))
      fun _ _ => True := fun _ _ => ⟨trivial, fun _ _ _ => trivial⟩
  refine ⟨trivial, ?_⟩
  rintro ⟨hasPool, canBuild⟩ _ rfl
  refine ⟨trivial, ?_⟩
  rintro _ _ ⟨rfl, rfl⟩
  simp only [Prog.done_bind]
  split
  · exact hreply _ _
  split
  · exact hreply _ _
  show Meets _ _ ((getCircuit _ destIP port).bind _) _
  rw [meets_bind]
  refine meets_getCircuit.imp ?_
  rintro l (_ | circ) hfound
  · exact hreply _ _
  show Meets _ _ ((replaceIfExitRejected canBuild _ destIP port circ).bind _) _
  rw [meets_bind]
  refine (meets_replaceIfExitRejected hfound).imp ?_
  rintro l (_ | circ) hfound
  · exact hreply _ _
  show Meets _ _ ((admitCircuit _ circ).bind _) _
  rw [meets_bind]
  refine meets_admitCircuit.imp ?_
  rintro l admitted rfl
  split
  · show Meets _ _ ((runStream req _ circ host port).bind _) _
    rw [meets_bind]
    refine (meets_runStream hown hfound).imp ?_
    rintro l _ hl
    exact ⟨For.put_pre hl, fun _ _ _ => trivial⟩
  · refine ⟨For.put_pre hfound, ?_⟩
    rintro _ _ rfl
    exact hreply _ _

lemma meets_connectToOnion (hown : own = some req) :
    Meets (socksContract L policy own) .nothing (connectToOnion S req host) fun _ _ => True := by
  unfold connectToOnion
  split
  · exact ⟨trivial, fun _ _ _ => trivial⟩
  refine ⟨rfl, ?_⟩
  rintro (_ | circ) _ rfl
  · exact ⟨trivial, fun _ _ _ => trivial⟩
  refine ⟨trivial, ?_⟩
  rintro _ _ rfl
  exact ⟨⟨hown, rfl⟩, fun _ _ _ => trivial⟩

lemma meets_handleConnection {client : SocksClient} : Meets (socksContract L policy (client.request S cfg)) .nothing
      (handleConnection S cfg client.source client.input) fun _ _ => True := by
  unfold handleConnection SocksClient.request
  cases handshake client.input with
  | none => trivial
  | some p =>
    obtain ⟨username, input⟩ := p
    dsimp only
    cases readRequest S cfg input with
    | error reply =>
      cases reply with
      | none => trivial
      | some code => exact ⟨trivial, fun _ _ _ => trivial⟩
    | ok request =>
      dsimp only
      split
      · exact ⟨trivial, fun _ _ _ => trivial⟩
      split
      · exact ⟨trivial, fun _ _ _ => trivial⟩
      unfold handleConnect
      dsimp only
      split
      · exact meets_connectToOnion rfl
      split
      · exact ⟨trivial, fun _ _ _ => trivial⟩
      · exact meets_connectToExit rfl

lemma meets_ensureMinCircuits (needed : ℕ) :
    Meets (socksContract L policy own) .nothing (ensureMinCircuits needed) fun _ _ => True := by
  induction needed with
  | zero => trivial
  | succ needed ih =>
    refine ⟨rfl, ?_⟩
    rintro (_ | circ) _ rfl
    · exact ih
    · refine ⟨.inl rfl, ?_⟩
      rintro _ _ rfl
      exact ih

def SocksThread.request {ι : Type} (S : SocksLib) (cfg : Config) (clients : ι → SocksClient) :
    SocksThread ι → Option StreamRequest
  | .conn i => (clients i).request S cfg
  | _ => none

lemma meets_server {ι : Type} {maxCircuits : Option ℕ} {hasBuilder : Bool}
    {clients : ι → SocksClient} {prebuilt rotations : ℕ} {dying : List ℕ} {t : SocksThread ι} :
    Meets (socksContract L policy (t.request S cfg clients)) .nothing
      ((server S cfg policy maxCircuits hasBuilder clients prebuilt rotations dying).threads t)
      fun _ _ => True := by
  cases t with
  | conn i => exact meets_handleConnection
  | prebuild => exact meets_ensureMinCircuits prebuilt
  | rotate =>
    refine (meets_forEach (I := (· = Holding.nothing)) ?_ _ rfl).imp fun _ _ _ => trivial
    rintro _ _ rfl
    exact ⟨trivial, fun _ _ h => h⟩
  | network =>
    refine (meets_forEach (I := (· = Holding.nothing)) ?_ _ rfl).imp fun _ _ _ => trivial
    rintro circ _ rfl
    exact ⟨trivial, fun _ _ h => h⟩

end Meets

/-! ### Isolation -/

section Isolation

open List

variable {Tid : Type}

namespace SocksState

def listAt (s : SocksState Tid) (idx : Option Bytes) : List ℕ := s.pool.elim [] (·.listAt idx)

/-- A circuit for the list `idx` of the pool. -/
def Labelled (s : SocksState Tid) (circ : ℕ) (idx : Option Bytes) : Prop :=
  ∃ c, s.circs[circ]? = some c ∧ c.rendezvous = false ∧ poolKey c.isolationKey = idx

def Rendezvous (s : SocksState Tid) (circ : ℕ) : Prop :=
  ∃ c, s.circs[circ]? = some c ∧ c.rendezvous = true

variable {s : SocksState Tid} {circ : ℕ} {idx : Option Bytes}

lemma Labelled.not_rendezvous (h : s.Labelled circ idx) : ¬ s.Rendezvous circ := by
  obtain ⟨c, hc, hr, -⟩ := h
  rintro ⟨c', hc', hr'⟩
  rw [hc, Option.some.injEq] at hc'
  rw [hc', hr'] at hr
  exact absurd hr (by decide)

lemma Labelled.poolKey_keyOf (h : s.Labelled circ idx) : poolKey (s.keyOf circ) = idx := by
  obtain ⟨c, hc, -, hkey⟩ := h
  rw [keyOf, hc]
  exact hkey

lemma Labelled.lt (h : s.Labelled circ idx) : circ < s.circs.length := by
  obtain ⟨c, hc, -⟩ := h
  exact (List.getElem?_eq_some_iff.1 hc).1

lemma Rendezvous.lt (h : s.Rendezvous circ) : circ < s.circs.length := by
  obtain ⟨c, hc, -⟩ := h
  exact (List.getElem?_eq_some_iff.1 hc).1

end SocksState

/-- The shared invariant. -/
structure SocksInv (L : IsolationLib) (policy : IsolationPolicy)
    (own : Tid → Option StreamRequest) (s : SocksState Tid) (l : Tid → Holding) : Prop where
  fixed : s.policy = policy
  pooled : ∀ idx, ∀ circ ∈ s.listAt idx, s.Labelled circ idx
  held : ∀ t circ idx, l t = .held circ idx → s.Labelled circ idx
  fresh : ∀ t circ, l t = .fresh circ → s.Labelled circ none
  rendezvous : ∀ t circ, l t = .rendezvous circ → s.Rendezvous circ
  /-- Nobody else has a circuit that is held exclusively. -/
  exclusive : ∀ t u circ, (l t).Exclusive circ → (l u).On circ → u = t
  unpooled : ∀ t circ, (l t).Exclusive circ → ∀ idx, circ ∉ s.listAt idx
  unused : ∀ t circ, (l t).Exclusive circ → ∀ x ∈ s.carried, x.circ ≠ circ
  /-- Streams are on a circuit of their list, or alone on a rendezvous circuit. -/
  carried : ∀ x ∈ s.carried, s.Labelled x.circ (listOf L policy x.req) ∨
    s.Rendezvous x.circ ∧ ∀ y ∈ s.carried, y.circ = x.circ → y.req = x.req
  own : ∀ x ∈ s.carried, own x.conn = some x.req

namespace SocksInv

variable {L : IsolationLib} {policy : IsolationPolicy} {own : Tid → Option StreamRequest}
  {s s' : SocksState Tid} {l : Tid → Holding} {t : Tid} {circ : ℕ} {idx : Option Bytes}
  {allows : ℕ → Option Bytes → UInt16 → Bool} {ch : SocksChoice}

lemma exec_quiet
    {r : a.Resp} (ha : a.Quiet) (hexec : exec L allows t a ch s = some (r, s')) :
    ∃ circuitKeys, s' = { s with circuitKeys } := by
  cases a with
  | allocateStreamID circ | createStream circ streamID host port =>
    cases ch <;> cases hexec <;> exact ⟨_, rfl⟩
  | _ => first | exact ha.elim | (cases hexec; exact ⟨_, rfl⟩)

variable (h : SocksInv L policy own s l)
include h

lemma weaken (hpolicy : s'.policy = s.policy)
    (hpool : ∀ idx, ∀ circ ∈ s'.listAt idx, circ ∈ s.listAt idx)
    (hlabel : ∀ circ idx, s.Labelled circ idx → s'.Labelled circ idx)
    (hrend : ∀ circ, s.Rendezvous circ → s'.Rendezvous circ)
    (hcarried : s'.carried = s.carried) : SocksInv L policy own s' l where
  fixed := hpolicy.trans h.fixed
  pooled idx circ hc := hlabel _ _ (h.pooled idx circ (hpool idx circ hc))
  held t circ idx ht := hlabel _ _ (h.held t circ idx ht)
  fresh t circ ht := hlabel _ _ (h.fresh t circ ht)
  rendezvous t circ ht := hrend _ (h.rendezvous t circ ht)
  exclusive := h.exclusive
  unpooled t circ ht idx hc := h.unpooled t circ ht idx (hpool idx circ hc)
  unused t circ ht := by
    rw [hcarried]
    exact h.unused t circ ht
  carried := by
    rw [hcarried]
    intro x hx
    rcases h.carried x hx with hl | ⟨hr, hy⟩
    · exact .inl (hlabel _ _ hl)
    · exact .inr ⟨hrend _ hr, hy⟩
  own := by
    rw [hcarried]
    exact h.own

lemma not_exclusive (ht : l t = .held circ idx) (u : Tid) : ¬ (l u).Exclusive circ := by
  intro hu
  have htu := h.exclusive u t circ hu (by rw [ht]; exact rfl)
  rwa [← htu, ht] at hu

lemma carry (hown : own t = some req) (ht : l t = .held circ (listOf L policy req)) :
    SocksInv L policy own (s.carry circ t req) l :=
  { h with
    unused u circ' hu := by
      refine forall_mem_append.2 ⟨h.unused u circ' hu, forall_mem_singleton.2 ?_⟩
      rintro rfl
      exact h.not_exclusive ht u hu
    carried x hx := by
      have hl := h.held t circ _ ht
      rcases mem_append.1 hx with hx | hx
      · rcases h.carried x hx with hx' | ⟨hr, hy⟩
        · exact .inl hx'
        · refine .inr ⟨hr, forall_mem_append.2 ⟨hy, forall_mem_singleton.2 fun hxy => ?_⟩⟩
          exact absurd hr (hxy ▸ hl.not_rendezvous)
      · rw [mem_singleton.1 hx]
        exact .inl hl
    own := forall_mem_append.2 ⟨h.own, forall_mem_singleton.2 hown⟩ }

lemma put (ht : l t = .held circ idx) :
    SocksInv L policy own
      { s with pool := s.pool.map fun p => p.put (s.isOpen circ) (s.keyOf circ) circ } l := by
  have hl := h.held t circ idx ht
  have hmem : ∀ idx', ∀ c ∈ (s.pool.map fun p => p.put (s.isOpen circ) (s.keyOf circ) circ).elim
      [] (·.listAt idx'), c ∈ s.listAt idx' ∨ c = circ ∧ idx' = idx := by
    intro idx' c hc
    unfold listAt
    cases hpool : s.pool with
    | none =>
      rw [hpool] at hc
      cases hc
    | some p =>
      rw [hpool] at hc
      have := CircuitPool.mem_listAt_of_put hc
      rwa [hl.poolKey_keyOf] at this
  refine { h with pooled := fun idx' c hc => ?_, unpooled := fun u c hu idx' hc => ?_ }
  · rcases hmem idx' c hc with hc | ⟨rfl, rfl⟩
    · exact h.pooled idx' c hc
    · exact hl
  · rcases hmem idx' c hc with hc | ⟨rfl, rfl⟩
    · exact h.unpooled u c hu idx' hc
    · exact h.not_exclusive ht u hu

lemma lt_of_on (ht : (l t).On circ) : circ < s.circs.length := by
  cases hl : l t with
  | nothing =>
    rw [hl] at ht
    exact ht.elim
  | fresh c =>
    rw [hl] at ht
    exact ht ▸ (h.fresh t c hl).lt
  | held c idx =>
    rw [hl] at ht
    exact ht ▸ (h.held t c idx hl).lt
  | rendezvous c =>
    rw [hl] at ht
    exact ht ▸ (h.rendezvous t c hl).lt

lemma lt_of_carried {x : Carried Tid} (hx : x ∈ s.carried) : x.circ < s.circs.length := by
  rcases h.carried x hx with hl | ⟨hr, -⟩
  · exact hl.lt
  · exact hr.lt

lemma updateCircuit (f : PoolCircuit → PoolCircuit)
    (hfree : ∀ u, ¬ (l u).On circ) (hpool : ∀ idx, circ ∉ s.listAt idx)
    (hcarried : ∀ x ∈ s.carried, x.circ ≠ circ) :
    SocksInv L policy own (s.updateCircuit circ f) l := by
  have hother : ∀ {c : ℕ}, c ≠ circ → (s.circs.modify circ f)[c]? = s.circs[c]? := by
    intro c hc
    simp [Ne.symm hc]
  have hlabel : ∀ {c : ℕ} {idx : Option Bytes}, c ≠ circ → s.Labelled c idx →
      (s.updateCircuit circ f).Labelled c idx :=
    fun hc ⟨x, hx, hrest⟩ => ⟨x, (hother hc).trans hx, hrest⟩
  have hrend : ∀ {c : ℕ}, c ≠ circ → s.Rendezvous c → (s.updateCircuit circ f).Rendezvous c :=
    fun hc ⟨x, hx, hrest⟩ => ⟨x, (hother hc).trans hx, hrest⟩
  have hne : ∀ {u : Tid} {c : ℕ}, (l u).On c → c ≠ circ := fun hu hc => hfree _ (hc ▸ hu)
  refine { h with pooled := ?_, held := ?_, fresh := ?_, rendezvous := ?_, carried := ?_ }
  · intro idx c hc
    exact hlabel (fun he => hpool idx (he ▸ hc)) (h.pooled idx c hc)
  · intro u c idx hu
    exact hlabel (hne (u := u) (by rw [hu]; exact rfl)) (h.held u c idx hu)
  · intro u c hu
    exact hlabel (hne (u := u) (by rw [hu]; exact rfl)) (h.fresh u c hu)
  · intro u c hu
    exact hrend (hne (u := u) (by rw [hu]; exact rfl)) (h.rendezvous u c hu)
  · intro x hx
    rcases h.carried x hx with hl | ⟨hr, hy⟩
    · exact .inl (hlabel (hcarried x hx) hl)
    · exact .inr ⟨hrend (hcarried x hx) hr, hy⟩

variable [DecidableEq Tid]

lemma drop (t : Tid) : SocksInv L policy own s (update l t .nothing) :=
  { h with
    held := fun u circ idx hu =>
      h.held u circ idx (eq_of_update_ghost (by nofun) hu).2
    fresh := fun u circ hu => h.fresh u circ (eq_of_update_ghost (by nofun) hu).2
    rendezvous := fun u circ hu =>
      h.rendezvous u circ (eq_of_update_ghost (by nofun) hu).2
    exclusive := fun u v circ hu hv => h.exclusive u v circ (of_update_ghost (P := Holding.Exclusive circ) id hu).2
      (of_update_ghost (P := Holding.On circ) id hv).2
    unpooled := fun u circ hu =>
      h.unpooled u circ (of_update_ghost (P := Holding.Exclusive circ) id hu).2
    unused := fun u circ hu =>
      h.unused u circ (of_update_ghost (P := Holding.Exclusive circ) id hu).2 }

lemma hold (hl : s.Labelled circ idx) (hfree : ∀ u, (l u).Exclusive circ → u = t) :
    SocksInv L policy own s (update l t (.held circ idx)) :=
  { h with
    held := fun u circ' idx' hu => by
      by_cases hut : u = t
      · rw [hut, update_self] at hu
        cases hu
        exact hl
      · rw [update_of_ne hut] at hu
        exact h.held u circ' idx' hu
    fresh := fun u circ' hu =>
      h.fresh u circ' (eq_of_update_ghost (by nofun) hu).2
    rendezvous := fun u circ' hu =>
      h.rendezvous u circ' (eq_of_update_ghost (by nofun) hu).2
    exclusive := fun u v circ' hu hv => by
      obtain ⟨hut, hu⟩ := of_update_ghost (P := Holding.Exclusive circ') id hu
      by_cases hvt : v = t
      · rw [hvt, update_self] at hv
        have hcirc : circ = circ' := hv
        rw [← hcirc] at hu
        exact absurd (hfree u hu) hut
      · rw [update_of_ne hvt] at hv
        exact h.exclusive u v circ' hu hv
    unpooled := fun u circ' hu =>
      h.unpooled u circ' (of_update_ghost (P := Holding.Exclusive circ') id hu).2
    unused := fun u circ' hu =>
      h.unused u circ' (of_update_ghost (P := Holding.Exclusive circ') id hu).2 }

lemma settle (ht : l t = .fresh circ) : SocksInv L policy own s (update l t (.held circ none)) := by
  refine h.hold (h.fresh t circ ht) fun u hu => ?_
  refine (h.exclusive u t circ hu ?_).symm
  rw [ht]
  exact rfl

/-- A thread takes a circuit that nobody has. -/
lemma holdExclusive {x : Holding} {c : ℕ}
    (hx : x = .fresh c ∧ s.Labelled c none ∨ x = .rendezvous c ∧ s.Rendezvous c)
    (hfree : ∀ u, ¬ (l u).On c) (hpool : ∀ idx, c ∉ s.listAt idx)
    (hcarried : ∀ x ∈ s.carried, x.circ ≠ c) :
    SocksInv L policy own s (update l t x) := by
  have hon : ∀ circ', x.On circ' → c = circ' := by
    rcases hx with ⟨rfl, -⟩ | ⟨rfl, -⟩ <;> exact fun _ h => h
  have hexcl : ∀ circ', x.Exclusive circ' → c = circ' := by
    rcases hx with ⟨rfl, -⟩ | ⟨rfl, -⟩ <;> exact fun _ h => h
  have hweak : ∀ {l : Holding} {circ' : ℕ}, l.Exclusive circ' → l.On circ' := by
    intro l circ' hl
    cases l <;> first | exact hl | exact hl.elim
  refine { h with held := ?_, fresh := ?_, rendezvous := ?_, exclusive := ?_, unpooled := ?_, unused := ?_ }
  · -- what the thread gets is not held for a list
    intro u circ' idx hu
    refine h.held u circ' idx (eq_of_update_ghost ?_ hu).2
    rcases hx with ⟨rfl, -⟩ | ⟨rfl, -⟩ <;> nofun
  · intro u circ' hu
    by_cases hut : u = t
    · rw [hut, update_self] at hu
      rcases hx with ⟨rfl, hl⟩ | ⟨rfl, -⟩ <;> cases hu
      exact hl
    · rw [update_of_ne hut] at hu
      exact h.fresh u circ' hu
  · intro u circ' hu
    by_cases hut : u = t
    · rw [hut, update_self] at hu
      rcases hx with ⟨rfl, -⟩ | ⟨rfl, hr⟩ <;> cases hu
      exact hr
    · rw [update_of_ne hut] at hu
      exact h.rendezvous u circ' hu
  · -- of two holders, one of them exclusive, at most one is the thread: nobody had the circuit
    intro u v circ' hu hv
    by_cases hut : u = t <;> by_cases hvt : v = t
    · rw [hut, hvt]
    · rw [hut, update_self] at hu
      rw [update_of_ne hvt, ← hexcl circ' hu] at hv
      exact absurd hv (hfree v)
    · rw [hvt, update_self] at hv
      rw [update_of_ne hut, ← hon circ' hv] at hu
      exact absurd (hweak hu) (hfree u)
    · rw [update_of_ne hut] at hu
      rw [update_of_ne hvt] at hv
      exact h.exclusive u v circ' hu hv
  · intro u circ' hu
    by_cases hut : u = t
    · rw [hut, update_self] at hu
      exact hexcl circ' hu ▸ hpool
    · rw [update_of_ne hut] at hu
      exact h.unpooled u circ' hu
  · intro u circ' hu
    by_cases hut : u = t
    · rw [hut, update_self] at hu
      exact hexcl circ' hu ▸ hcarried
    · rw [update_of_ne hut] at hu
      exact h.unused u circ' hu

variable {rendezvous : Bool}

lemma newCircuit {id : UInt32} :
    SocksInv L policy own { s with circs := s.circs ++ [{ id, rendezvous }] } (update l t
        (if rendezvous then .rendezvous s.circs.length else .fresh s.circs.length)) := by
  have hold : ∀ {circ : ℕ} {c : PoolCircuit}, s.circs[circ]? = some c →
      (s.circs ++ [({ id, rendezvous } : PoolCircuit)])[circ]? = some c := by
    intro circ c hc
    rw [List.getElem?_append_left (List.getElem?_eq_some_iff.1 hc).1]
    exact hc
  have hgrow : SocksInv L policy own { s with circs := s.circs ++ [{ id, rendezvous }] } l :=
    h.weaken rfl (fun _ _ hc => hc) (fun _ _ ⟨c, hc, hrest⟩ => ⟨c, hold hc, hrest⟩)
      (fun _ ⟨c, hc, hrest⟩ => ⟨c, hold hc, hrest⟩) rfl
  have hnew : (s.circs ++ [({ id, rendezvous } : PoolCircuit)])[s.circs.length]? =
      some { id, rendezvous } := getElem?_concat_length
  refine hgrow.holdExclusive (c := s.circs.length) ?_ ?_ ?_ ?_
  · cases rendezvous with
    | false => exact .inl ⟨rfl, _, hnew, rfl, rfl⟩
    | true => exact .inr ⟨rfl, _, hnew, rfl⟩
  · intro u hu
    exact absurd (h.lt_of_on hu) (Nat.lt_irrefl _)
  · intro idx hc
    exact absurd (h.pooled idx _ hc).lt (Nat.lt_irrefl _)
  · intro x hx
    exact Nat.ne_of_lt (h.lt_of_carried hx)

lemma not_on_drop (ht : (l t).Exclusive circ) (u : Tid) : ¬ (update l t .nothing u).On circ := by
  intro hu
  obtain ⟨hut, hu⟩ := of_update_ghost (P := Holding.On circ) id hu
  exact hut (h.exclusive t u circ ht hu)

lemma setIsolationKey (ht : l t = .fresh circ) {key : IsolationKey} :
    SocksInv L policy own (s.updateCircuit circ fun c => { c with isolationKey := some key })
      (update l t (.held circ (poolKey (some key)))) := by
  have hex : (l t).Exclusive circ := by
    rw [ht]
    exact rfl
  have hkeyed := (h.drop t).updateCircuit (fun c => { c with isolationKey := some key })
    (h.not_on_drop hex) (h.unpooled t circ hex) (h.unused t circ hex)
  obtain ⟨c, hc, hr, -⟩ := h.fresh t circ ht
  have hlabel : (s.updateCircuit circ fun c => { c with isolationKey := some key }).Labelled circ
      (poolKey (some key)) := by
    refine ⟨{ c with isolationKey := some key }, ?_, hr, rfl⟩
    show (s.circs.modify circ _)[circ]? = _
    rw [getElem?_modify, hc]
    simp
  have := hkeyed.hold (t := t) hlabel fun u hu => by
    by_cases hut : u = t
    · exact hut
    · rw [update_of_ne hut] at hu
      exact absurd (h.exclusive u t circ hu (by rw [ht]; exact rfl)).symm hut
  rwa [update_idem] at this

lemma carryRendezvous (hown : own t = some req) (ht : l t = .rendezvous circ) :
    SocksInv L policy own (s.carry circ t req) (update l t .nothing) := by
  have hex : (l t).Exclusive circ := by
    rw [ht]
    exact rfl
  have hunused := h.unused t circ hex
  have hd := h.drop t
  refine { hd with unused := ?_, carried := ?_, own := ?_ }
  · intro u c hu
    refine forall_mem_append.2 ⟨hd.unused u c hu, forall_mem_singleton.2 ?_⟩
    rintro rfl
    obtain ⟨hut, hu⟩ := of_update_ghost (P := Holding.Exclusive _) id hu
    exact hut (h.exclusive u t _ hu (by rw [ht]; exact rfl)).symm
  · intro x hx
    rcases mem_append.1 hx with hx | hx
    · rcases h.carried x hx with hl | ⟨hr, hy⟩
      · exact .inl hl
      · exact .inr ⟨hr, forall_mem_append.2 ⟨hy, forall_mem_singleton.2 fun hxy =>
          absurd hxy.symm (hunused x hx)⟩⟩
    · rw [mem_singleton.1 hx]
      exact .inr ⟨h.rendezvous t circ ht, forall_mem_append.2
        ⟨fun y hy hc => absurd hc (hunused y hy), forall_mem_singleton.2 fun _ => rfl⟩⟩
  · exact forall_mem_append.2 ⟨h.own, forall_mem_singleton.2 hown⟩

lemma exec_newCircuit (hexec : s.newCircuit rendezvous ch = some (r, s')) : SocksInv L policy own s' (update l t
      (r.elim .nothing fun circ => if rendezvous then .rendezvous circ else .fresh circ)) := by
  cases ch with
  | built id =>
    cases hexec
    exact h.newCircuit
  | fail =>
    cases hexec
    exact h.drop t
  | done | streamID id => cases hexec

lemma exec_getIf {key : Option IsolationKey} {destIP : Option Bytes} {port : UInt16}
    (hexec : exec L allows t (.getIf key destIP port) ch s = some (r, s')) :
    SocksInv L policy own s' (update l t
      (r.elim .nothing (.held · (poolKey key)))) := by
  obtain ⟨pool, hpool, hr, rfl⟩ := getIf_eq_some hexec
  have hlist : ∀ idx, s.listAt idx = pool.listAt idx := by
    intro idx
    rw [listAt, hpool]
    rfl
  have htaken : SocksInv L policy own s (update l t (r.elim .nothing (.held · (poolKey key)))) := by
    cases r with
    | none => exact h.drop t
    | some circ =>
      have hmem := CircuitPool.mem_of_getIf hr
      rw [← hlist] at hmem
      exact h.hold (h.pooled _ circ hmem) fun u hu => absurd hmem (h.unpooled u circ hu _)
  refine htaken.weaken rfl ?_ (fun _ _ hl => hl) (fun _ hl => hl) rfl
  intro idx circ hc
  rw [hlist]
  exact CircuitPool.mem_listAt_of_getIf hc

/-- **Every action keeps the invariant.** -/
theorem exec {r : a.Resp} (hpre : (socksContract L policy (own t)).pre (l t) a)
    (hexec : exec L allows t a ch s = some (r, s')) :
    ∃ l', (socksContract L policy (own t)).post (l t) a r l' ∧ SocksInv L policy own s' (update l t l') := by
  have hself : update l t (l t) = l := update_eq_self t l
  by_cases hquiet : a.Quiet
  · obtain ⟨circuitKeys, rfl⟩ := exec_quiet hquiet hexec
    refine ⟨l t, (quiet_post hquiet).2 rfl, ?_⟩
    rw [hself]
    exact { h with }
  cases a with
  | connectToOnionService addr | build | buildForExit destIP port =>
    exact ⟨_, rfl, h.exec_newCircuit hexec⟩
  | relayOnionServiceData circ req host port =>
    obtain ⟨hown, hl⟩ := hpre
    cases hexec
    exact ⟨_, rfl, h.carryRendezvous hown hl⟩
  | validateStreamRequest req =>
    cases hexec
    refine ⟨l t, ⟨by rw [h.fixed], rfl⟩, ?_⟩
    rw [hself]
    exact h
  | getIf key destIP port => exact ⟨_, rfl, h.exec_getIf hexec⟩
  | put circ =>
    cases hexec
    refine ⟨.nothing, rfl, ?_⟩
    rcases hpre with hl | ⟨idx, hl⟩
    · -- a circuit without a list gets its own first
      have hput := (h.settle hl).put (t := t) (update_self ..)
      have := hput.drop t
      rwa [update_idem] at this
    · exact (h.put hl).drop t
  | setIsolationKey circ key =>
    cases hexec
    exact ⟨_, rfl, h.setIsolationKey hpre⟩
  | closeCircuit circ =>
    cases hexec
    have hmodify : ∀ {c : ℕ} {x : PoolCircuit}, s.circs[c]? = some x →
        (s.circs.modify circ fun c => { c with isOpen := false })[c]? =
          some (if circ = c then { x with isOpen := false } else x) := by
      intro c x hx
      rw [getElem?_modify, hx]
      rfl
    refine ⟨.nothing, rfl, (h.drop t).weaken rfl (fun _ _ hc => hc) ?_ ?_ rfl⟩
    · rintro c idx ⟨x, hx, hr, hkey⟩
      refine ⟨_, hmodify hx, ?_⟩
      split <;> exact ⟨hr, hkey⟩
    · rintro c ⟨x, hx, hr⟩
      refine ⟨_, hmodify hx, ?_⟩
      split <;> exact hr
  | openStream circ req streamID host port =>
    obtain ⟨hown, hfor⟩ := hpre
    have hs' : s' = s.carry circ t req := by
      cases ch <;> cases hexec <;> rfl
    rw [hs']
    refine ⟨_, rfl, ?_⟩
    -- the thread has the circuit for the list of this request
    have hheld : SocksInv L policy own s
        (update l t (.held circ (listOf L policy req))) := by
      rcases hfor with hl | ⟨hl, hnone⟩
      · rw [listOf, ← hl, hself]
        exact h
      · rw [listOf, hnone]
        exact h.settle hl
    exact hheld.carry hown (update_self ..)
  | rotate =>
    cases hexec
    refine ⟨l t, rfl, ?_⟩
    rw [hself]
    refine h.weaken rfl ?_ (fun _ _ hl => hl) (fun _ hl => hl) rfl
    intro idx circ hc
    unfold listAt at hc
    cases hpool : s.pool with
    | none =>
      rw [hpool] at hc
      cases hc
    | some pool =>
      rw [hpool] at hc
      cases idx <;> cases hc
  | _ => exact absurd trivial hquiet

end SocksInv

end Isolation

lemma socksInv_init {ι : Type} {L : SocksLib} {cfg : Config} {policy : IsolationPolicy}
    {maxCircuits : Option ℕ} {hasBuilder : Bool} {clients : ι → SocksClient}
    {prebuilt rotations : ℕ} {dying : List ℕ} {own : SocksThread ι → Option StreamRequest} :
    SocksInv L.toIsolationLib policy own
      (server L cfg policy maxCircuits hasBuilder clients prebuilt rotations dying).shared
      fun _ => .nothing where
  fixed := rfl
  pooled idx circ hc := by
    cases maxCircuits <;> cases idx <;> cases hc
  held := nofun
  fresh := nofun
  rendezvous := nofun
  exclusive _ _ _ h := h.elim
  unpooled _ _ h := h.elim
  unused _ _ h := h.elim
  carried := nofun
  own := nofun

/-- **Streams that share a circuit agree on the attribute they are isolated by.**  In every run
of a server each stream is one of a client's request, and two streams on one circuit have the
same attribute under the policy: the user name, else the destination, else the source port, as
far as the policy enables them. -/
theorem same_circuit_same_attribute {ι : Type} [DecidableEq ι] (L : SocksLib) (cfg : Config)
    (policy : IsolationPolicy) (allows : ℕ → Option Bytes → UInt16 → Bool)
    (maxCircuits : Option ℕ) (hasBuilder : Bool) (clients : ι → SocksClient)
    (prebuilt rotations : ℕ) (dying : List ℕ) {ls : List (SocksThread ι × SocksChoice)}
    {c : Lib.Config (SocksThread ι) SocksAct SocksAct.Resp (SocksState (SocksThread ι))}
    (hrun : run (stepThread (exec L.toIsolationLib allows))
      (server L cfg policy maxCircuits hasBuilder clients prebuilt rotations dying) ls = some c) :
    (∀ x ∈ c.shared.carried, ∃ i, x.conn = .conn i ∧ (clients i).request L cfg = some x.req) ∧
    ∀ x ∈ c.shared.carried, ∀ y ∈ c.shared.carried, x.circ = y.circ →
      isolationAttribute L.toIsolationLib policy x.req = isolationAttribute L.toIsolationLib policy y.req := by
  have hstart : Guarded
      (fun t => socksContract L.toIsolationLib policy (SocksThread.request L cfg clients t))
      (SocksInv L.toIsolationLib policy (SocksThread.request L cfg clients))
      (server L cfg policy maxCircuits hasBuilder clients prebuilt rotations dying) :=
    ⟨fun _ => .nothing, socksInv_init .., fun t => meets_server ..⟩
  obtain ⟨l, hinv, -⟩ := run_meets
    (fun _ _ _ _ _ _ _ hinv hpre _ hexec => hinv.exec hpre hexec) hstart
    (RunMeets.of_forall (onAction_of_forall fun _ _ _ _ => trivial) _ _) hrun
  refine ⟨fun x hx => ?_, fun x hx y hy hxy => ?_⟩
  · have hown := hinv.own x hx
    cases hconn : x.conn with
    | conn i =>
      rw [hconn] at hown
      exact ⟨i, rfl, hown⟩
    | _ =>
      rw [hconn] at hown
      cases hown
  rw [← poolKey_eq_iff]
  rcases hinv.carried x hx with hlx | ⟨hrx, halone⟩
  · rcases hinv.carried y hy with hly | ⟨hry, -⟩
    · -- both are on a circuit of their list, and a circuit is of one list
      rw [hxy] at hlx
      exact hlx.poolKey_keyOf.symm.trans hly.poolKey_keyOf
    · rw [hxy] at hlx
      exact absurd hry hlx.not_rendezvous
  · rw [halone y hy hxy.symm]

/-! ### Two clients of one name -/

/-- The SHA-256 digest of the name both clients give. -/
def aliceDigest : Vector UInt8 32 := Vector.ofFn fun i => List.getD
  [0x2b, 0xd8, 0x06, 0xc9, 0x7f, 0x0e, 0x00, 0xaf, 0x1a, 0x1f, 0xc3, 0x32, 0x8f, 0xa7, 0x63, 0xa9,
    0x26, 0x97, 0x23, 0xc8, 0xdb, 0x8f, 0xac, 0x4f, 0x93, 0xaf, 0x71, 0xdb, 0x18, 0x6d, 0x6e, 0x90] i 0

def aliceLib : SocksLib := { plainLib with sha256 := fun _ => aliceDigest }

def alice (port : UInt16) (password host : Bytes) : SocksClient where
  source := .tcp port
  input := [5, 1, 2, 1, 5] ++ ascii "alice" ++ UInt8.ofNat password.length :: password ++ connectRequest host

/-- Two clients with one name and different passwords, destinations and ports. -/
def aliceTwice : Bool → SocksClient
  | false => alice 4000 (ascii "x") (ascii "a")
  | true => alice 4001 (ascii "y") (ascii "b")

def isolateAll : IsolationPolicy where
  mode := .warn
  isolateBySOCKSAuth := true
  isolateByDestination := true
  isolateBySourcePort := true

/-- The first client's stream on a new circuit, which is put into the pool, and the second
client's stream. -/
def aliceRun : List (SocksThread Bool × SocksChoice) :=
  [.done, .done, .done, .built 1, .done, .done, .done, .done, .streamID 1, .done, .done, .done,
    .done, .done, .done, .done, .done, .done].map (.conn false, ·) ++
  [.done, .done, .done, .done, .done, .done, .streamID 2, .done, .done, .done].map (.conn true, ·)

def aliceServer : Lib.Config (SocksThread Bool) SocksAct SocksAct.Resp (SocksState (SocksThread Bool)) :=
  server aliceLib {} isolateAll (some 10) false aliceTwice 0 0 []

lemma aliceRun_carried : ∃ c, run (stepThread (exec aliceLib.toIsolationLib
      fun _ _ _ => true)) aliceServer aliceRun = some c ∧
    ∃ x ∈ c.shared.carried, ∃ y ∈ c.shared.carried, x.circ = y.circ ∧ x.conn = .conn false ∧
      y.conn = .conn true ∧ x.req.target = ascii "a:80" ∧ y.req.target = ascii "b:80" := by
  decide +kernel

theorem same_circuit_same_attribute_alice : ∃ c, run (stepThread (exec
      aliceLib.toIsolationLib fun _ _ _ => true)) aliceServer aliceRun = some c ∧
    ∃ x ∈ c.shared.carried, ∃ y ∈ c.shared.carried, x.conn ≠ y.conn ∧ x.circ = y.circ ∧
      isolationAttribute aliceLib.toIsolationLib isolateAll x.req =
        isolationAttribute aliceLib.toIsolationLib isolateAll y.req := by
  obtain ⟨c, hc, x, hx, y, hy, hxy, hconnx, hconny, -⟩ := aliceRun_carried
  have hsame := same_circuit_same_attribute aliceLib {} isolateAll (fun _ _ _ => true) (some 10)
    false aliceTwice 0 0 [] hc
  refine ⟨c, hc, x, hx, y, hy, ?_, hxy, hsame.2 x hx y hy hxy⟩
  rw [hconnx, hconny]
  decide

/-- Under a policy that also isolates destinations, two destinations share a circuit. -/
theorem circuit_shared : isolateAll.mode ≠ .off ∧ isolateAll.isolateByDestination = true ∧
    ∃ c, run (stepThread (exec aliceLib.toIsolationLib fun _ _ _ => true)) aliceServer aliceRun = some c ∧
      ∃ x ∈ c.shared.carried, ∃ y ∈ c.shared.carried, x.circ = y.circ ∧ x.req.target ≠ y.req.target := by
  obtain ⟨c, hc, x, hx, y, hy, hxy, -, -, htx, hty⟩ := aliceRun_carried
  refine ⟨by decide, rfl, c, hc, x, hx, y, hy, hxy, ?_⟩
  rw [htx, hty]
  decide +kernel

end GoTor.Socks
