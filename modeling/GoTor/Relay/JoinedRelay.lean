import GoTor.Relay.HsRoles
import GoTor.Relay.LinkWriters

/-!
# Relay cells of joined circuits

What the relay does with a relay cell that arrives from a client: `ForwardRelayCell`, with the
ciphers of the circuits.  A circuit that ends here is decrypted first, and a cell that is not
recognised goes no further; only what is recognised is looked at, and on a joined circuit sent on
as a cell of the relay's own.  So no cell for the other end of a joined pair ever gets there.
-/

namespace GoTor.Relay

open GoTor.Lib GoTor.Cell GoTor.Crypto Command List

/-- Why `decryptInboundWithAD` gives no cell. -/
inductive InboundError
  | invalid (e : String)
  | notRecognized
  | digestMismatch
  deriving DecidableEq

def InboundError.text : InboundError → String
  | .invalid e => e
  | .notRecognized => "relay cell not recognized"
  | .digestMismatch => "relay digest mismatch"

/-- `decryptInboundWithAD`.  The relay's layer has advanced whether the cell is recognised or
not. -/
def CircuitCrypto.decryptInbound (P : Primitives) (cc : CircuitCrypto) (payload : Bytes)
    (ad : UInt8) : CircuitCrypto × Except InboundError (Bytes × Bytes) :=
  match cc.peelInbound P payload ad with
  | .error e => (cc, .error (.invalid e))
  | .ok (cc', peeled, some digest) => (cc', .ok (peeled, digest))
  | .ok (cc', peeled, none) =>
    match cc with
    | .cgo _ => (cc', .error .notRecognized)
    | .tor1 _ _ _ _ =>
      (cc', .error (if recognizedZero peeled then .digestMismatch else .notRecognized))

def CircuitCrypto.decodeRelay (cc : CircuitCrypto) (peeled : Bytes) : Except String RelayCell :=
  match cc with
  | .cgo _ => decodeRelayCellV1 peeled
  | .tor1 _ _ _ _ => decodeRelayCell peeled

/-- `ExtendedCircuit`, as far as it is read on the way out. -/
structure NextHop where
  nextHopCircuitID : UInt32
  relayEarlyCount : ℕ := 0
  deriving DecidableEq

/-- What goes out for a relay cell. -/
inductive RelayOut
  | client (conn : ConnPtr) (c : Cell)
  /-- A cell to the next hop of the circuit. -/
  | nextHop (circuitID : UInt32) (c : Cell)
  /-- What a handler writes, as `HsState` records it. -/
  | handler (o : HsOut)
  deriving DecidableEq

/-- The tables with the ciphers of the circuits and the extensions of the client IDs. -/
structure ForwardState where
  hs : HsState
  crypto : CircPtr → CircuitCrypto
  nextHop : UInt32 → NextHop

structure Forwarded where
  state : ForwardState
  out : List RelayOut := []
  err : Option String := none

namespace ForwardState

variable (P : Primitives) (verify : Bytes → Bytes → Option String) (s : ForwardState)

def setCrypto (p : CircPtr) (cc : CircuitCrypto) : ForwardState :=
  { s with crypto := Function.update s.crypto p cc }

def countEarly (circuitID : UInt32) : ForwardState :=
  let ext := s.nextHop circuitID
  let ext := { ext with relayEarlyCount := ext.relayEarlyCount + 1 }
  { s with nextHop := Function.update s.nextHop circuitID ext }

/-- Run a handler of the tables and note what it writes. -/
def withHs (hs : HsState) (err : Option String) : Forwarded where
  state := { s with hs }
  out := (hs.out.drop s.hs.out.length).map .handler
  err := err

/-- `sendRelayToClient`, with the circuit's cipher. -/
def sendRelayToClient (env : HsEnv) (p : CircPtr) (conn : ConnPtr) (streamID : UInt16)
    (cmd : UInt8) (data : Bytes) : Forwarded :=
  match (newRelayCell streamID cmd data).bind ((s.crypto p).originateRelayTag P) with
  | .error e => { state := s, err := some e }
  | .ok (cc, enc, _) =>
    let s := s.setCrypto p cc
    match env.write with
    | some e => { state := s, err := some e }
    | none =>
      let c : Cell := { circID := (s.hs.heap p).circuitID, command := relay, payload := enc }
      { state := s, out := [.client conn c] }

def handleLocalRelayCell (env : HsEnv) (circuitID : UInt32) (p : CircPtr) (cmd : LinkCmd)
    (payload : Bytes) (conn : ConnPtr) : Forwarded :=
  let (cc, result) := (s.crypto p).decryptInbound P payload (cgoAD cmd)
  let s := s.setCrypto p cc
  match result with
  | .error .digestMismatch =>
    let hs := (s.hs.emit (.destroy conn circuitID destroyReasonProtocol)).closeCircuit circuitID
    s.withHs hs (some InboundError.digestMismatch.text)
  -- dropped
  | .error _ => { state := s }
  | .ok (plain, _) =>
    match cc.decodeRelay plain with
    | .error e => { state := s, err := some s!"invalid relay cell: {e}" }
    | .ok rc =>
      match (s.hs.heap p).joined with
      | some (peer, peerConn) =>
        s.sendRelayToClient P env peer peerConn rc.streamID rc.command rc.data
      | none =>
        let (hs, err) := s.hs.handleRecognized verify env p conn rc.streamID rc.command rc.data
        s.withHs hs err

/-- `forwardExtendedFromClient`; what a SENDME cell does to the windows is left out. -/
def forwardExtendedFromClient (circuitID : UInt32) (p : CircPtr) (cmd : LinkCmd) (payload : Bytes) : Forwarded :=
  match (s.crypto p).peelInbound P payload (cgoAD cmd) with
  | .error e => { state := s, err := some e }
  | .ok (cc, peeled, some _) =>
    let s := s.setCrypto p cc
    match cc.decodeRelay peeled with
    | .error e => { state := s, err := some s!"invalid local relay cell: {e}" }
    | .ok rc =>
      if rc.command = relayTruncate then s.withHs (s.hs.handleDestroy circuitID) none
      else if rc.command = relayExtend2 then { state := s, err := some "circuit already extended" }
      else { state := s }
  | .ok (cc, peeled, none) =>
    let s := s.setCrypto p cc
    let ext := s.nextHop circuitID
    -- at most eight RELAY_EARLY cells go on
    let early := cmd = .relayEarly ∧ ext.relayEarlyCount < 8
    let s := if early then s.countEarly circuitID else s
    let c : Cell :=
      { circID := ext.nextHopCircuitID
        command := if early then relayEarly else relay
        payload := peeled }
    { state := s, out := [.nextHop circuitID c] }

/-- `handleRelay` and `ForwardRelayCell`, for a cell from a client. -/
def handleRelay (env : HsEnv) (circuitID : UInt32) (cmd : LinkCmd) (payload : Bytes) (conn : ConnPtr) : Forwarded :=
  match s.hs.circuits.get circuitID with
  | none => s.withHs (s.hs.emit (.destroy conn circuitID destroyReasonProtocol)) none
  | some p =>
    match s.hs.extended.get circuitID with
    | some _ => s.forwardExtendedFromClient P circuitID p cmd payload
    | none => s.handleLocalRelayCell P verify env circuitID p cmd payload conn

def onCircuit (conn : ConnPtr) (circuitID : UInt32) : RelayOut → Bool
  | .client conn' c => conn' = conn && c.circID = circuitID && c.command = relay
  | _ => false

/-- The peeled payload has gone out on circuit `q` once, with `q`'s layer and nothing else
there, and both circuits are still there. -/
def PassedOn (s : ForwardState) (p q : CircPtr) (conn : ConnPtr) (cmd : LinkCmd) (peeled : Bytes)
    (r : Forwarded) : Prop :=
  (∃ cc enc, (s.crypto q).wrapOutbound P peeled (cgoAD cmd) = .ok (cc, enc) ∧
    r.out.filter (onCircuit conn (s.hs.heap q).circuitID) =
      [.client conn ⟨(s.hs.heap q).circuitID, relay, enc⟩]) ∧
  r.state.hs.Live p ∧ r.state.hs.Live q

/-! ### Nothing is passed on -/

variable {P verify} {s : ForwardState} {env : HsEnv} {circuitID : UInt32} {p : CircPtr}
  {cmd : LinkCmd} {payload peeled : Bytes} {conn : ConnPtr} {cc : CircuitCrypto}
  (hpeel : (s.crypto p).peelInbound P payload (cgoAD cmd) = .ok (cc, peeled, none))
include hpeel

lemma handleLocalRelayCell_unrecognized :
    ∀ o ∈ (s.handleLocalRelayCell P verify env circuitID p cmd payload conn).out, ∃ o', o = .handler o' := by
  obtain ⟨e, hdec, hvalid⟩ : ∃ e, (s.crypto p).decryptInbound P payload (cgoAD cmd) =
      (cc, .error e) ∧ (e = .notRecognized ∨ e = .digestMismatch) := by
    unfold CircuitCrypto.decryptInbound
    rw [hpeel]
    cases s.crypto p with
    | cgo pair => exact ⟨_, rfl, .inl rfl⟩
    | tor1 fwdCipher bwdCipher fwdDigest bwdDigest =>
      refine ⟨_, rfl, ?_⟩
      split
      · exact .inr rfl
      · exact .inl rfl
  unfold handleLocalRelayCell
  rw [hdec]
  rcases hvalid with rfl | rfl
  · intro o ho
    cases ho
  · intro o ho
    obtain ⟨o', -, rfl⟩ := mem_map.1 ho
    exact ⟨o', rfl⟩

lemma forwardExtendedFromClient_unrecognized :
    ∀ o ∈ (s.forwardExtendedFromClient P circuitID p cmd payload).out, ∃ c, o = .nextHop circuitID c := by
  unfold forwardExtendedFromClient
  rw [hpeel]
  intro o ho
  exact ⟨_, mem_singleton.1 ho⟩

lemma filter_onCircuit_handleRelay {qConn : ConnPtr} {id : UInt32} (hget : s.hs.circuits.get circuitID = some p) :
    (s.handleRelay P verify env circuitID cmd payload conn).out.filter (onCircuit qConn id) = [] := by
  rw [filter_eq_nil_iff]
  intro o ho
  unfold handleRelay at ho
  rw [hget] at ho
  dsimp only at ho
  split at ho
  · obtain ⟨c, rfl⟩ := forwardExtendedFromClient_unrecognized hpeel o ho
    exact Bool.false_ne_true
  · obtain ⟨o', rfl⟩ := handleLocalRelayCell_unrecognized hpeel o ho
    exact Bool.false_ne_true

end ForwardState

/-- **Joined circuits do not forward.**  Whatever circuit one is joined to and whatever cell
arrives on it that is not recognised, it is not passed on to the other. -/
theorem joined_never_passes_on (P : Primitives) (verify : Bytes → Bytes → Option String)
    (s : ForwardState) (env : HsEnv) (circuitID : UInt32) (p q : CircPtr) (conn qConn : ConnPtr)
    (cmd : LinkCmd) (payload peeled : Bytes) (cc : CircuitCrypto)
    (hget : s.hs.circuits.get circuitID = some p)
    (hpeel : (s.crypto p).peelInbound P payload (cgoAD cmd) = .ok (cc, peeled, none)) :
    ¬ s.PassedOn P p q qConn cmd peeled
      (s.handleRelay P verify env circuitID cmd payload conn) := by
  rintro ⟨⟨cc', enc, -, hout⟩, -⟩
  rw [ForwardState.filter_onCircuit_handleRelay hpeel hget] at hout
  cases hout

def metState : ForwardState where
  hs := HsState.after (fun _ _ => none) meeting
  crypto _ := .tor1 { key := zeros 16, iv := Block.copyOf [] } { key := zeros 16, iv := Block.copyOf [] } [] []
  nextHop _ := { nextHopCircuitID := 0 }

def endToEnd : Bytes := replicate 509 255

private lemma endToEnd_unrecognized : ∃ cc peeled,
    (metState.crypto 1).peelInbound xorPrimitives endToEnd (cgoAD .relay) = .ok (cc, peeled, none) := by
  have hnone : (((metState.crypto 1).peelInbound xorPrimitives endToEnd
      (cgoAD .relay)).toOption.any fun r => r.2.2.isNone) = true := by
    decide +kernel
  obtain ⟨⟨cc, peeled, rc⟩, hpeel, hrc⟩ := (Option.any_eq_true _ _).1 hnone
  obtain rfl := Option.isNone_iff_eq_none.1 hrc
  exact ⟨cc, peeled, toOption_eq_some.1 hpeel⟩

private lemma metState_get : metState.hs.circuits.get 2 = some 1 := by decide +kernel

private lemma metState_joined : (metState.hs.heap 1).joined = some (0, 10) := by decide +kernel

theorem joined_never_passes_on_met :
    ∃ cc peeled, (metState.crypto 1).peelInbound xorPrimitives endToEnd (cgoAD .relay) = .ok (cc, peeled, none) ∧
      ¬ metState.PassedOn xorPrimitives 1 0 10 .relay peeled
        (metState.handleRelay xorPrimitives (fun _ _ => none) ⟨0, none⟩ 2 .relay endToEnd 20) := by
  obtain ⟨cc, peeled, hpeel⟩ := endToEnd_unrecognized
  exact ⟨cc, peeled, hpeel, joined_never_passes_on xorPrimitives (fun _ _ => none) metState
    ⟨0, none⟩ 2 1 0 20 10 .relay endToEnd peeled cc metState_get hpeel⟩

/-- The cell on the service's circuit is dropped: nothing goes out at all. -/
theorem end_to_end_dropped :
    metState.hs.circuits.get 2 = some 1 ∧ (metState.hs.heap 1).joined = some (0, 10) ∧
      ∃ cc peeled, (metState.crypto 1).peelInbound xorPrimitives endToEnd (cgoAD .relay) = .ok (cc, peeled, none) ∧
        (metState.handleRelay xorPrimitives (fun _ _ => none) ⟨0, none⟩ 2 .relay endToEnd 20).out = [] ∧
        ¬ metState.PassedOn xorPrimitives 1 0 10 .relay peeled
          (metState.handleRelay xorPrimitives (fun _ _ => none) ⟨0, none⟩ 2 .relay endToEnd 20) := by
  obtain ⟨cc, peeled, hpeel⟩ := endToEnd_unrecognized
  have hout : (metState.handleRelay xorPrimitives (fun _ _ => none) ⟨0, none⟩ 2 .relay endToEnd 20).out = [] := by
    decide +kernel
  refine ⟨metState_get, metState_joined, cc, peeled, hpeel, hout, ?_⟩
  rintro ⟨⟨cc', enc, -, hfilter⟩, -⟩
  rw [hout] at hfilter
  cases hfilter

end GoTor.Relay
