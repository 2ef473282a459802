import GoTor.Socks.StreamIsolation

/-!
# Strict isolation

With a strict policy that is enforced on existing circuits, an isolated stream is let onto a
circuit only if an equal key is registered for the circuit, and a connection registers a key only
after that check (`Checked`).  So no isolation key ever gets registered, and every isolated request
is refused, also on a circuit that was built for its own key.
-/

namespace GoTor.Socks

open GoTor.Lib GoTor.Stream SocksState

section Strict

/-- A key is registered only after the check let it pass; no check passes an isolation key. -/
def strictContract : Contract SocksAct SocksAct.Resp Unit where
  pre _
    | .registerCircuit _ key => key.level = .none
    | _ => True
  post _
    | .checkCircuitCompatibility _ key, r, _ => r = true → key.level = .none
    | _, _, _ => True

def Checked {R : Type} (p : SocksProg R) : Prop := Meets strictContract () p fun _ _ => True

lemma Checked.bind {R R' : Type} {p : SocksProg R} {f : R → SocksProg R'} (hp : Checked p)
    (hf : ∀ r, Checked (f r)) : Checked (p.bind f) := by
  unfold Checked
  rw [meets_bind]
  exact Meets.imp hp fun _ r _ => hf r

variable {key : Option IsolationKey} {destIP : Option Bytes} {port : UInt16} {circ : ℕ}
  {req : StreamRequest} {host : Bytes} {S : SocksLib} {cfg : Config}

lemma checked_getCircuit : Checked (getCircuit key destIP port) := by
  cases key <;> repeat' first | trivial | (refine ⟨trivial, ?_⟩; rintro (_ | _) _ _)

lemma checked_replaceIfExitRejected {canBuild : Bool} :
    Checked (replaceIfExitRejected canBuild key destIP port circ) := by
  cases key <;> cases canBuild <;>
    repeat' first | trivial | (refine ⟨trivial, ?_⟩; rintro (_ | _) _ _)

lemma checked_admitCircuit : Checked (admitCircuit key circ) := by
  cases key with
  | none => trivial
  | some key =>
    refine ⟨trivial, ?_⟩
    rintro (_ | _) _ hlevel
    · trivial
    · exact ⟨hlevel rfl, fun _ _ _ => trivial⟩

lemma checked_runStream {isolated : Bool} : Checked (runStream req isolated circ host port) := by
  cases isolated <;> repeat' first | trivial | (refine ⟨trivial, ?_⟩; rintro (_ | _) _ _)

lemma checked_connectToExit : Checked (connectToExit req host destIP port) := by
  have hlast : ∀ code, Checked (Prog.lift (SocksAct.reply code)) :=
    fun _ => ⟨trivial, fun _ _ _ => trivial⟩
  refine ⟨trivial, fun ⟨hasPool, canBuild⟩ _ _ => ⟨trivial, fun result _ _ => ?_⟩⟩
  simp only [Prog.done_bind]
  split
  · exact hlast _
  split
  · exact hlast _
  refine checked_getCircuit.bind ?_
  rintro (_ | circ)
  · exact hlast _
  refine checked_replaceIfExitRejected.bind ?_
  rintro (_ | circ)
  · exact hlast _
  refine checked_admitCircuit.bind ?_
  rintro (_ | _)
  · exact ⟨trivial, fun _ _ _ => hlast _⟩
  · exact (checked_runStream ..).bind fun _ => ⟨trivial, fun _ _ _ => trivial⟩

lemma checked_handleConnection {source : SourceAddr} {input : Bytes} :
    Checked (handleConnection S cfg source input) := by
  unfold handleConnection
  split
  · trivial
  split
  · trivial
  · exact ⟨trivial, fun _ _ _ => trivial⟩
  split
  · exact ⟨trivial, fun _ _ _ => trivial⟩
  split
  · exact ⟨trivial, fun _ _ _ => trivial⟩
  unfold handleConnect
  dsimp only
  split
  · unfold connectToOnion
    split <;> repeat' first | trivial | (refine ⟨trivial, ?_⟩; rintro (_ | _) _ _)
  split
  · exact ⟨trivial, fun _ _ _ => trivial⟩
  · exact checked_connectToExit ..

lemma checked_server {ι : Type} {policy : IsolationPolicy} {maxCircuits : Option ℕ}
    {hasBuilder : Bool} {clients : ι → SocksClient} {rotations : ℕ} (prebuilt : ℕ)
    {dying : List ℕ} {t : SocksThread ι} :
    Checked
      ((server S cfg policy maxCircuits hasBuilder clients prebuilt rotations dying).threads t) := by
  cases t with
  | conn i => exact checked_handleConnection ..
  | prebuild =>
    induction prebuilt with
    | zero => trivial
    | succ prebuilt ih =>
      refine ⟨trivial, ?_⟩
      rintro (_ | circ) _ _
      · exact ih
      · exact ⟨trivial, fun _ _ _ => ih⟩
  | rotate | network =>
    refine meets_forEach (I := fun _ => True) (fun _ _ _ => ?_) _ trivial
    exact ⟨trivial, fun _ _ _ => trivial⟩

structure Unregistered {Tid : Type} (policy : IsolationPolicy) (s : SocksState Tid) : Prop where
  fixed : s.policy = policy
  keys : ∀ id key, s.circuitKeys id = some key → key.level = .none

variable {Tid : Type} {policy : IsolationPolicy} {s s' : SocksState Tid}

lemma Unregistered.check (h : Unregistered policy s) (hmode : policy.mode = .strict)
    (henforce : policy.enforceOnExistingCircuits = true) {id : UInt32} {key : IsolationKey}
    (hpass : checkCircuitCompatibility policy s.circuitKeys id key = true) :
    key.level = .none := by
  unfold checkCircuitCompatibility at hpass
  cases hkey : s.circuitKeys id with
  | none => simpa [henforce, hkey, hmode] using hpass
  | some registered =>
    have hlevel := h.keys id registered hkey
    simp only [henforce, hkey, hmode, IsolationKey.equals, hlevel] at hpass
    by_contra hne
    simp [hne] at hpass

lemma Unregistered.exec {L : IsolationLib} {allows : ℕ → Option Bytes → UInt16 → Bool} {t : Tid}
    {a : SocksAct} {r : a.Resp} {ch : SocksChoice} (h : Unregistered policy s)
    (hmode : policy.mode = .strict) (henforce : policy.enforceOnExistingCircuits = true)
    (hpre : strictContract.pre () a) (hexec : exec L allows t a ch s = some (r, s')) :
    strictContract.post () a r () ∧ Unregistered policy s' := by
  cases a with
  | checkCircuitCompatibility circ key =>
    cases hexec
    rw [h.fixed]
    exact ⟨h.check hmode henforce, h⟩
  | registerCircuit circ key =>
    cases hexec
    refine ⟨trivial, h.fixed, fun id registered hid => ?_⟩
    simp only [registerCircuit] at hid
    split at hid
    · exact h.keys id registered hid
    dsimp only at hid
    split at hid
    · cases hid
      exact hpre
    · exact h.keys id registered hid
  | getIf key destIP port =>
    obtain ⟨pool, -, -, rfl⟩ := getIf_eq_some hexec
    exact ⟨trivial, { h with }⟩
  | connectToOnionService _ | build | buildForExit _ _ | allocateStreamID _ | createStream _ _ _ _
  | openStream _ _ _ _ _ => cases ch <;> cases hexec <;> exact ⟨trivial, { h with }⟩
  | _ =>
    cases hexec
    exact ⟨trivial, { h with }⟩

end Strict

lemma level_of_validateStreamRequest {L : IsolationLib} {policy : IsolationPolicy}
    {req : StreamRequest} {key : IsolationKey} (hmode : policy.mode ≠ .off)
    (h : (validateStreamRequest L policy req).key = some key) : key.level ≠ .none := by
  rw [validateStreamRequest_key L policy req hmode] at h
  cases hlevel : determineIsolationLevel policy req <;> rw [hlevel, buildKey] at h
  case credential | session => split at h <;> (try split at h) <;> cases h <;> simp
  all_goals
    cases h
    try simp

/-- **A strict policy refuses every isolated request.**  In every state that a server with a
strict policy on existing circuits reaches, the check refuses every circuit, be it one built for
an equal key, for every request with an isolation key. -/
theorem isolated_request_refused {ι : Type} [DecidableEq ι] (L : SocksLib) (cfg : Config)
    (policy : IsolationPolicy) (allows : ℕ → Option Bytes → UInt16 → Bool)
    (maxCircuits : Option ℕ) (hasBuilder : Bool) (clients : ι → SocksClient)
    (prebuilt rotations : ℕ) (dying : List ℕ) (hmode : policy.mode = .strict)
    (henforce : policy.enforceOnExistingCircuits = true)
    {ls : List (SocksThread ι × SocksChoice)}
    {c : Lib.Config (SocksThread ι) SocksAct SocksAct.Resp (SocksState (SocksThread ι))}
    (hrun : run (stepThread (exec L.toIsolationLib allows))
      (server L cfg policy maxCircuits hasBuilder clients prebuilt rotations dying) ls = some c)
    (req : StreamRequest) {key : IsolationKey}
    (hkey : (validateStreamRequest L.toIsolationLib policy req).key = some key) (circ : ℕ) :
    checkCircuitCompatibility policy c.shared.circuitKeys (c.shared.idOf circ) key = false := by
  have hstart : Guarded (fun _ => strictContract) (fun s _ => Unregistered policy s)
      (server L cfg policy maxCircuits hasBuilder clients prebuilt rotations dying) :=
    ⟨fun _ => (), ⟨rfl, nofun⟩, fun _ => checked_server ..⟩
  obtain ⟨-, hinv, -⟩ := run_meets
    (fun _ _ _ _ _ _ _ hinv hpre _ hexec => ⟨(), hinv.exec hmode henforce hpre hexec⟩) hstart
    (RunMeets.of_forall (onAction_of_forall fun _ _ _ _ => trivial) _ _) hrun
  refine Bool.eq_false_iff.2 fun hpass => ?_
  exact level_of_validateStreamRequest (by simp [hmode]) hkey (hinv.check hmode henforce hpass)

def isolateStrict : IsolationPolicy := { isolateAll with mode := .strict }

def strictServer : Lib.Config (SocksThread Bool) SocksAct SocksAct.Resp (SocksState (SocksThread Bool)) :=
  server aliceLib {} isolateStrict (some 10) false aliceTwice 0 0 []

/-- The first client: a circuit is built, gets the client's key, and is refused. -/
def strictRun : List (SocksThread Bool × SocksChoice) :=
  [.done, .done, .done, .built 1, .done, .done, .done, .done, .done].map (.conn false, ·)

def aliceRequest : StreamRequest :=
  { target := ascii "a:80", sourceAddr := .tcp 4000, socksUsername := ascii "alice" }

def aliceKey : IsolationKey :=
  { level := .credential, credentials := hexEncode aliceDigest.toList }

theorem isolated_request_refused_alice : ∃ c, run (stepThread (exec
      aliceLib.toIsolationLib fun _ _ _ => true)) strictServer strictRun = some c ∧
    c.shared.circs.length = 1 ∧ checkCircuitCompatibility isolateStrict
      c.shared.circuitKeys (c.shared.idOf 0) aliceKey = false :=
  exists_some_and (by decide +kernel) fun _ hc _ =>
    isolated_request_refused _ _ _ _ _ _ _ _ _ _ rfl rfl hc aliceRequest (by decide +kernel) 0

/-- The request is allowed, and its key is that of the circuit, which is refused. -/
theorem own_circuit_refused :
    (aliceTwice false).request aliceLib {} = some aliceRequest ∧
    validateStreamRequest aliceLib.toIsolationLib isolateStrict aliceRequest = { key := some aliceKey } ∧
    ∃ c, run (stepThread (exec aliceLib.toIsolationLib fun _ _ _ => true))
        strictServer strictRun = some c ∧
      c.shared.keyOf 0 = some aliceKey ∧
      checkCircuitCompatibility isolateStrict c.shared.circuitKeys (c.shared.idOf 0)
        aliceKey = false ∧ c.shared.carried = [] := by
  decide +kernel

end GoTor.Socks
