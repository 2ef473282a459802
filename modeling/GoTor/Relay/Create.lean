import GoTor.Cell.Link
import GoTor.Crypto.NtorV3Server
import GoTor.Relay.CircuitCrypto

/-!
# Creating a circuit at a relay

`handleCreate2Auth`: what the relay answers to a CREATE2 cell, and the circuit it stores.  A
refused cell is answered with a DESTROY cell and leaves the tables as they are.
-/

namespace GoTor.Cell

def destroyReasonProtocol : UInt8 := 1
def destroyReasonInternal : UInt8 := 2
def destroyReasonResourceLimit : UInt8 := 5

end GoTor.Cell

namespace GoTor.Relay

open GoTor.Lib GoTor.Cell GoTor.Crypto Command

structure ServerCircuit where
  circuitID : UInt32
  keyMaterial : Bytes
  crypto : CircuitCrypto
  ccEnabled : Bool
  sendmeInc : ℕ
  circNonce : Bytes
  linkAuthed : Bool
  peerRSA : String
  peerEd : Bytes
  deriving DecidableEq

/-- `RelayKeys`, as far as the handshakes read them; `rsaNodeID` is the value of `RSANodeID`. -/
structure RelayKeys where
  ed25519Public : Bytes
  ntorOnionKey : Bytes
  rsaNodeID : Bytes
  deriving DecidableEq

/-- `circFlow`: congestion control is on exactly when there is a Vegas state machine. -/
inductive CircFlow
  | classic (sendmeInc : ℕ)
  | vegas (sendmeInc : ℕ)
  deriving DecidableEq

def CircFlow.cc : CircFlow → Bool
  | .classic _ => false
  | .vegas _ => true

def exitCircSendmeInc : ℕ := 100
def ccSendmeIncDefault : ℕ := 31

/-- `ensureCCLocked`: an existing state machine is kept. -/
def ensureCC (circCC : UInt32 → Option CircFlow) (circID : UInt32) (sendmeInc : ℕ) : UInt32 → Option CircFlow :=
  match circCC circID with
  | some (.vegas _) => circCC
  | _ => Function.update circCC circID
      (some (.vegas (if sendmeInc = 0 then ccSendmeIncDefault else sendmeInc)))

lemma ensureCC_cc {circCC : UInt32 → Option CircFlow} {circID : UInt32} {sendmeInc : ℕ} :
    (ensureCC circCC circID sendmeInc circID).any (·.cc) = true := by
  unfold ensureCC
  cases hflow : circCC circID with
  | none => simp [CircFlow.cc]
  | some flow =>
    cases flow with
    | classic inc => simp [CircFlow.cc]
    | vegas inc => simp [CircFlow.cc, hflow]

def noteCircuitFlow (circCC : UInt32 → Option CircFlow) (circID : UInt32) (cc : Bool)
    (sendmeInc : ℕ) : UInt32 → Option CircFlow :=
  if cc then ensureCC circCC circID sendmeInc
  else Function.update circCC circID
    (some (.classic (if sendmeInc = 0 then exitCircSendmeInc else sendmeInc)))

/-- The tables of `CircuitHandler` that a CREATE2 cell touches; `circCC` is the exit stream
manager's. -/
structure CircuitHandler where
  keys : RelayKeys
  circuits : UInt32 → Option ServerCircuit
  circCC : UInt32 → Option CircFlow

/-- What the link handshake found out about the peer. -/
structure LinkPeer where
  linkAuthed : Bool
  rsaFP : String
  edID : Bytes
  deriving DecidableEq

/-! ### The answer cells -/

/-- `sendCreated2`: the cell it writes. -/
def created2Cell (circuitID : UInt32) (response : Bytes) : Res Cell :=
  if response.length > 0xFFFF then
    Res.err s!"CREATED2 handshake response too long: {response.length}"
  else .ok { circID := circuitID, command := created2, payload := bytesOfNat 2 response.length ++ response }

/-- `sendDestroyCell`: the cell it writes. -/
def destroyCell (circuitID : UInt32) (reason : UInt8) : Cell where
  circID := circuitID
  command := destroy
  payload := [reason]

/-! ### The handler -/

def create2Type (payload : Bytes) : ℕ := (payload.getD 0 0).toNat * 256 + (payload.getD 1 0).toNat

def create2Len (payload : Bytes) : ℕ := (payload.getD 2 0).toNat * 256 + (payload.getD 3 0).toNat

def create2Data (payload : Bytes) : Bytes := slice payload 4 (4 + create2Len payload)

variable (N : NtorPrimitives)

/-- The message of every answer to an ntor-v3 handshake. -/
def ccResponseMsg : Bytes := encodeNtorV3Extensions [⟨ntorV3ExtCCResponse, [31]⟩]

/-- The `switch` over the handshake type, with the relay's ephemeral key `y`.  `none` stands for
the branches that answer DESTROY at once. -/
def create2Handshake (keys : RelayKeys) (y : Key32) (htype : ℕ) (handshakeData : Bytes) :
    Option (Res (Bytes × Bytes × Bytes)) :=
  if htype = 0x0002 then
    if handshakeData.length ≠ 84 then none
    else some (ntorServerHandshakeWithNonce N handshakeData keys.ntorOnionKey keys.rsaNodeID y)
  else if htype = 0x0003 then
    if handshakeData.length < ntorV3FixedClientLen then none
    else some (ntorV3ServerHandshakeWithNonce N handshakeData keys.ed25519Public keys.ntorOnionKey
      ntorV3CircuitVerification (some ccResponseMsg) y)
  else none

/-- The circuit stored for a finished handshake. -/
def newServerCircuit (circID : UInt32) (htype : ℕ) (peer : LinkPeer) (keyMaterial circNonce : Bytes)
    (crypto : CircuitCrypto) : ServerCircuit where
  circuitID := circID
  keyMaterial
  crypto
  ccEnabled := htype == 0x0003
  sendmeInc := if htype = 0x0003 then 31 else 0
  circNonce
  linkAuthed := peer.linkAuthed
  peerRSA := peer.rsaFP
  peerEd := peer.edID

/-- `handleCreate2Auth` from the answer of the handshake on. -/
def finishCreate2 (peer : LinkPeer) (circID : UInt32) (htype : ℕ) (h : CircuitHandler)
    (answer : Bytes × Bytes × Bytes) : CircuitHandler × Res Cell :=
  let (response, keyMaterial, circNonce) := answer
  match newCircuitCrypto keyMaterial with
  | .error _ => (h, .ok (destroyCell circID destroyReasonInternal))
  | .ok crypto =>
    let circuit := newServerCircuit circID htype peer keyMaterial circNonce crypto
    ({ h with
        circuits := Function.update h.circuits circID (some circuit)
        circCC := if circuit.ccEnabled then noteCircuitFlow h.circCC circID true circuit.sendmeInc else h.circCC },
      created2Cell circID response)

/-- `handleCreate2Auth`: the tables afterwards and the cell written on the connection.  `refused`
says that `AllowCreate2` refuses the peer's address. -/
def handleCreate2Auth (refused : Bool) (peer : LinkPeer) (y : Key32) (c : Cell)
    (h : CircuitHandler) : CircuitHandler × Res Cell :=
  if refused then (h, .ok (destroyCell c.circID destroyReasonResourceLimit))
  else if (h.circuits c.circID).isSome then (h, .ok (destroyCell c.circID destroyReasonProtocol))
  else if c.payload.length < 4 then (h, .ok (destroyCell c.circID destroyReasonProtocol))
  else if c.payload.length < 4 + create2Len c.payload then
    (h, .ok (destroyCell c.circID destroyReasonProtocol))
  else
    -- The bound `4 + hlen` is computed in 16 bits.
    match sliceOf c.payload 4 ((4 + create2Len c.payload) % 2 ^ 16) with
    | .error fault => (h, .error fault)
    | .ok handshakeData =>
      match create2Handshake N h.keys y (create2Type c.payload) handshakeData with
      | none => (h, .ok (destroyCell c.circID destroyReasonProtocol))
      | some (.error (.err _)) => (h, .ok (destroyCell c.circID destroyReasonInternal))
      | some (.error .panic) => (h, .error .panic)
      | some (.ok answer) => finishCreate2 peer c.circID (create2Type c.payload) h answer

/-! ### What it can do -/

section Cases

variable {N} {refused : Bool} {peer : LinkPeer} {y : Key32} {c cell : Cell} {h : CircuitHandler}

lemma created2Cell_eq_ok {circID : UInt32} {response : Bytes} (hcell : created2Cell circID response = .ok cell) :
    cell = { circID, command := created2,
             payload := bytesOfNat 2 response.length ++ response } := by
  unfold created2Cell at hcell
  split at hcell
  · cases hcell
  · cases hcell
    rfl

lemma create2Len_lt (payload : Bytes) : create2Len payload < 2 ^ 16 := by
  have h2 := (payload.getD 2 0).toNat_lt
  have h3 := (payload.getD 3 0).toNat_lt
  unfold create2Len
  omega

lemma sliceOf_create2Data {payload data : Bytes}
    (hdata : sliceOf payload 4 ((4 + create2Len payload) % 2 ^ 16) = .ok data) :
    data = create2Data payload := by
  obtain ⟨hbounds, hslice⟩ := of_sliceOf_eq_ok hdata
  have hwrap : (4 + create2Len payload) % 2 ^ 16 = 4 + create2Len payload := by
    have := create2Len_lt payload
    omega
  rw [hslice, hwrap]
  rfl

lemma handleCreate2Auth_cases :
    (∃ reason, handleCreate2Auth N refused peer y c h = (h, .ok (destroyCell c.circID reason))) ∨
    (∃ fault, handleCreate2Auth N refused peer y c h = (h, .error fault)) ∨
    ∃ response keyMaterial circNonce crypto,
      h.circuits c.circID = none ∧
      create2Handshake N h.keys y (create2Type c.payload) (create2Data c.payload) =
        some (.ok (response, keyMaterial, circNonce)) ∧
      newCircuitCrypto keyMaterial = .ok crypto ∧
      handleCreate2Auth N refused peer y c h =
        ((finishCreate2 peer c.circID (create2Type c.payload) h
          (response, keyMaterial, circNonce)).1, created2Cell c.circID response) := by
  unfold handleCreate2Auth
  split
  next => exact .inl ⟨_, rfl⟩
  split
  next => exact .inl ⟨_, rfl⟩
  next hnone =>
  split
  next => exact .inl ⟨_, rfl⟩
  split
  next => exact .inl ⟨_, rfl⟩
  split
  next => exact .inr (.inl ⟨_, rfl⟩)
  next data hdata =>
  split
  next => exact .inl ⟨_, rfl⟩
  next => exact .inl ⟨_, rfl⟩
  next => exact .inr (.inl ⟨_, rfl⟩)
  next answer hanswer =>
  obtain ⟨response, keyMaterial, circNonce⟩ := answer
  rw [sliceOf_create2Data hdata] at hanswer
  cases hcrypto : newCircuitCrypto keyMaterial with
  | error msg => exact .inl ⟨destroyReasonInternal, by simp only [finishCreate2, hcrypto]⟩
  | ok crypto =>
    refine .inr (.inr ⟨response, keyMaterial, circNonce, crypto, by simpa using hnone, hanswer, hcrypto, ?_⟩)
    simp only [finishCreate2, hcrypto]

end Cases

end GoTor.Relay
