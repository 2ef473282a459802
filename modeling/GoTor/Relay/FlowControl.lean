import GoTor.Crypto.NtorV3Agreement
import GoTor.Relay.Create

/-!
# The flow control of a new circuit

An ntor-v3 client asks for congestion control with an extension of its message; the relay's
message carries the answer.  The relay never looks at the extension: every ntor-v3 handshake it
accepts is answered with a `CC_FIELD_RESPONSE`, and the circuit runs congestion control.
-/

namespace GoTor.Relay

open GoTor.Lib GoTor.Cell GoTor.Crypto Command ServerCircuit

def hasExtension (type : UInt8) (msg : Bytes) : Bool :=
  match parseNtorV3Extensions msg with
  | .ok exts => exts.any fun ext => ext.type == type
  | .error _ => false

/-- The increment of a circuit with congestion control. -/
def ServerCircuit.flowControl (circ : ServerCircuit) : Option ℕ :=
  if circ.ccEnabled then some circ.sendmeInc else none

/-- The relay runs congestion control on the circuit, towards the client and as an exit. -/
def CircuitHandler.ccOn (h : CircuitHandler) (circID : UInt32) : Bool :=
  (h.circuits circID).any (·.ccEnabled) && (h.circCC circID).any (·.cc)

section Answer

variable (N : NtorPrimitives)

/-- The relay's message in an answer, decrypted. -/
def answerMessage (o : OpenedSkin) (edID verification : Bytes) (y : Key32) (reply : Bytes) : Bytes :=
  let cgo := ntorV3ClientRequestedCGO o.cmPlain == .ok true
  ntorV3Mask N ((answerKeys N o edID verification y cgo).take 32) (reply.drop 64)

end Answer

section Accepted

variable {N : NtorPrimitives} {refused : Bool} {peer : LinkPeer} {y : Key32} {c cell : Cell} {h h' : CircuitHandler}

@[simp] lemma destroyCell_ne_created2 {circID : UInt32} {reason : UInt8} :
    (destroyCell circID reason).command ≠ created2 := by
  simp [destroyCell, destroy, created2]

lemma handleCreate2Auth_created (hh : handleCreate2Auth N refused peer y c h = (h', .ok cell))
    (hcreated : cell.command = created2) :
    ∃ response keyMaterial circNonce crypto,
      create2Handshake N h.keys y (create2Type c.payload) (create2Data c.payload) =
        some (.ok (response, keyMaterial, circNonce)) ∧
      newCircuitCrypto keyMaterial = .ok crypto ∧
      h' = (finishCreate2 peer c.circID (create2Type c.payload) h (response, keyMaterial, circNonce)).1 ∧
      cell.payload = bytesOfNat 2 response.length ++ response := by
  rcases @handleCreate2Auth_cases N refused peer y c h with ⟨reason, heq⟩ | ⟨fault, heq⟩ |
    ⟨response, keyMaterial, circNonce, crypto, -, hanswer, hcrypto, heq⟩
  · obtain ⟨-, hcell⟩ := Prod.mk.inj (heq.symm.trans hh)
    cases hcell
    exact absurd hcreated (by simp)
  · obtain ⟨-, hcell⟩ := Prod.mk.inj (heq.symm.trans hh)
    cases hcell
  · obtain ⟨hh', hcell⟩ := Prod.mk.inj (heq.symm.trans hh)
    refine ⟨response, keyMaterial, circNonce, crypto, hanswer, hcrypto, hh'.symm, ?_⟩
    rw [created2Cell_eq_ok hcell]

lemma finishCreate2_ccOn {response keyMaterial circNonce : Bytes} {crypto : CircuitCrypto}
    (hcrypto : newCircuitCrypto keyMaterial = .ok crypto) (circID : UInt32) :
    (finishCreate2 peer circID 3 h (response, keyMaterial, circNonce)).1.ccOn circID = true ∧
      ((finishCreate2 peer circID 3 h (response, keyMaterial, circNonce)).1.circuits circID).map
        flowControl = some (some 31) := by
  have hcc : (noteCircuitFlow h.circCC circID true 31 circID).any (·.cc) = true :=
    ensureCC_cc
  simp only [finishCreate2, hcrypto]
  constructor
  · simp [CircuitHandler.ccOn, newServerCircuit, hcc]
  · simp [newServerCircuit, flowControl]

lemma answerMessage_of_ok {o : OpenedSkin} {edID verification reply keyMaterial circNonce : Bytes}
    {serverMsg : Option Bytes}
    (hanswer : ntorV3Answer N o edID verification serverMsg y = .ok (reply, keyMaterial, circNonce)) :
    answerMessage N o edID verification y reply =
      serverMsg.getD (encodeNtorV3Extensions []) := by
  obtain ⟨cgo, auth, hcgo, hauth, rfl⟩ := ntorV3Answer_eq_ok hanswer
  have hwant : (ntorV3ClientRequestedCGO o.cmPlain == .ok true) = cgo := by
    rw [hcgo]
    cases cgo <;> rfl
  rw [answerMessage]
  simp only [hwant]
  rw [List.drop_left' (by simp [hauth]), ntorV3Mask_ntorV3Mask]

lemma create2Handshake_ntorV3 {keys : RelayKeys} {data : Bytes} {answer : Bytes × Bytes × Bytes}
    (hs : create2Handshake N keys y 3 data = some (.ok answer)) :
    ntorV3ServerHandshakeWithNonce N data keys.ed25519Public keys.ntorOnionKey
      ntorV3CircuitVerification (some ccResponseMsg) y = .ok answer := by
  unfold create2Handshake at hs
  rw [if_neg (by decide), if_pos rfl] at hs
  split at hs
  · cases hs
  · exact Option.some.inj hs

lemma identity_of_clientHandshake {edID onionKey verification cm priv : Bytes} {r : Bytes × NtorV3ClientState}
    (hc : ntorV3ClientHandshakeWithKey N edID onionKey verification cm priv = .ok r) :
    edID.length = 32 ∧ isAllZero edID = false := by
  simp only [ntorV3ClientHandshakeWithKey, Res.ite_err_eq_ok] at hc
  obtain ⟨hlen, -, -, hzero, -⟩ := hc
  have hzero : isAllZero edID = false ∧ isAllZero onionKey = false := by simpa using hzero
  exact ⟨Decidable.not_not.1 hlen, hzero.1⟩

/-- What a client that made the onion skin of a CREATE2 cell reads in the answer is the relay's
mode. -/
def ClientAgrees (N : NtorPrimitives) (h h' : CircuitHandler) (y : Key32) (c cell : Cell) : Prop :=
  ∀ (x b : Key32) (requestCC : Bool) (caps : List SubprotoCap) (cm : Bytes) (st : NtorV3ClientState),
    h.keys.ntorOnionKey = b.toList → CurveAt N x b y →
    encodeNtorV3ClientMsg requestCC caps = .ok cm →
    ntorV3ClientHandshakeWithKey N h.keys.ed25519Public (N.scalarBaseMult b).toList
      ntorV3CircuitVerification cm x.toList = .ok (create2Data c.payload, st) →
    ∃ keyMaterial serverMsg st' inc,
      ntorV3ProcessResponse N (cell.payload.drop 2) (some (st.expecting caps))
        ntorV3CircuitVerification = .ok (keyMaterial, serverMsg, st') ∧
      parseCCSendmeInc serverMsg = .ok inc ∧
      (h'.circuits c.circID).map flowControl = some inc

/-- Relay and client do what the client's message, opened to `o`, asks for. -/
structure NegotiatedAsAsked (N : NtorPrimitives) (h h' : CircuitHandler) (y : Key32)
    (c cell : Cell) (o : OpenedSkin) : Prop where
  answered : hasExtension ntorV3ExtCCResponse (answerMessage N o h.keys.ed25519Public
      ntorV3CircuitVerification y (cell.payload.drop 2)) = true ↔
    hasExtension ntorV3ExtCCRequest o.cmPlain = true
  enabled : h'.ccOn c.circID = true ↔ hasExtension ntorV3ExtCCRequest o.cmPlain = true
  agrees : ClientAgrees N h h' y c cell

/-- **The relay negotiates congestion control as asked exactly with the clients that ask for
it.** -/
theorem negotiated_as_asked_iff (N : NtorPrimitives) (refused : Bool) (peer : LinkPeer) (y : Key32)
    (c cell : Cell) (h h' : CircuitHandler)
    (hhandle : handleCreate2Auth N refused peer y c h = (h', .ok cell))
    (hcreated : cell.command = created2) (htype : create2Type c.payload = 3) :
    ∃ o, ntorV3OpenSkin N (create2Data c.payload) h.keys.ed25519Public h.keys.ntorOnionKey
        ntorV3CircuitVerification = .ok o ∧
      (NegotiatedAsAsked N h h' y c cell o ↔
        hasExtension ntorV3ExtCCRequest o.cmPlain = true) := by
  obtain ⟨response, keyMaterial, circNonce, crypto, hserver, hcrypto, rfl, hpayload⟩ :=
    handleCreate2Auth_created hhandle hcreated
  rw [htype] at hserver ⊢
  have hserver := create2Handshake_ntorV3 hserver
  obtain ⟨o, hopen, hanswer⟩ := bind_eq_ok.1 hserver
  have hdrop : cell.payload.drop 2 = response := by
    rw [hpayload]
    exact List.drop_left' (by simp)
  obtain ⟨hon, hmode⟩ :=
    @finishCreate2_ccOn peer h response keyMaterial circNonce crypto hcrypto c.circID
  have hmsg := answerMessage_of_ok hanswer
  have hresponse : hasExtension ntorV3ExtCCResponse ccResponseMsg = true := by decide
  refine ⟨o, hopen, fun hneg => hneg.enabled.1 hon, fun hasked => ⟨?_, ?_, ?_⟩⟩
  · rw [hdrop, hmsg]
    exact iff_of_true hresponse hasked
  · exact iff_of_true hon hasked
  intro x b requestCC caps cm st hb hcurve hcm hclient
  obtain ⟨hlen, hid⟩ := identity_of_clientHandshake hclient
  obtain ⟨skin, st', o', reply, km, nonce, hskin, -, hreply, hprocess, -⟩ :=
    @ntorV3_exchange N h.keys.ed25519Public ntorV3CircuitVerification cm x b y requestCC caps
      (some ccResponseMsg) hlen hid hcurve hcm
  obtain ⟨rfl, rfl⟩ := Prod.mk.inj (Except.ok.inj (hskin.symm.trans hclient))
  rw [hb] at hserver
  obtain ⟨rfl, -⟩ := Prod.mk.inj (Except.ok.inj (hreply.symm.trans hserver))
  rw [hdrop]
  exact ⟨km, ccResponseMsg, _, some 31, hprocess, by decide, hmode⟩

end Accepted

/-! ### Two handshakes -/

def vectorHandler : CircuitHandler where
  keys := { ed25519Public := vectorID, ntorOnionKey := vectorB.toList, rsaNodeID := zeros 20 }
  circuits _ := none
  circCC _ := none

def vectorPeer : LinkPeer where
  linkAuthed := false
  rsaFP := ""
  edID := []

/-- A CREATE2 cell with an ntor-v3 skin of the vectors: an encrypted message and its MAC. -/
def vectorCreate2 (encCM mac : Bytes) : Cell where
  circID := 7
  command := create2
  payload :=
    let skin := vectorID ++ vectorPubB.toList ++ vectorPubX.toList ++ encCM ++ mac
    bytesOfNat 2 3 ++ bytesOfNat 2 skin.length ++ skin

def askingCreate2 : Cell :=
  vectorCreate2 (bytesOfNat 7 0x1f4bea3ece4cf2)
    (bytesOfNat 32 0x48c23f0baa1046bf5a0479d7d134625bf5db07c0176386bccabe5f20fc8322c0)

theorem negotiated_as_asked_vector :
    ∃ h' cell o,
      handleCreate2Auth vectorPrimitives false vectorPeer vectorY askingCreate2 vectorHandler = (h', .ok cell) ∧
      ntorV3OpenSkin vectorPrimitives (create2Data askingCreate2.payload) vectorID vectorB.toList
        ntorV3CircuitVerification = .ok o ∧
      hasExtension ntorV3ExtCCRequest o.cmPlain = true ∧
      NegotiatedAsAsked vectorPrimitives vectorHandler h' vectorY askingCreate2 cell o := by
  have hrun : (match handleCreate2Auth vectorPrimitives false vectorPeer vectorY askingCreate2
        vectorHandler, ntorV3OpenSkin vectorPrimitives (create2Data askingCreate2.payload) vectorID
          vectorB.toList ntorV3CircuitVerification with
      | (_, .ok cell), .ok o => decide (cell.command = created2 ∧
          hasExtension ntorV3ExtCCRequest o.cmPlain = true)
      | (_, .ok _), .error _ => false
      | (_, .error _), _ => false) = true := by decide +kernel
  split at hrun
  next h' cell o hh hopen =>
    obtain ⟨hcreated, hasks⟩ := of_decide_eq_true hrun
    obtain ⟨o', hopen', hiff⟩ := negotiated_as_asked_iff vectorPrimitives false vectorPeer vectorY
      askingCreate2 cell vectorHandler h' hh hcreated (by decide +kernel)
    obtain rfl := Except.ok.inj (hopen.symm.trans hopen')
    exact ⟨h', cell, o, hh, hopen, hasks, hiff.2 hasks⟩
  all_goals cases hrun

/-- The primitives at the inputs of the handshake with an empty list of extensions: only the two
MACs depend on the client's message. -/
def silentPrimitives : NtorPrimitives :=
  { vectorPrimitives with
    sha3 := fun m =>
      if ntorV3Encap (ascii ntorV3TMsgMAC) <+: m then
        keyOfNat 0x440a5d1bcfc343b1c8f49c85a19ccff74f193fb9ab33c757b9ec49aa2981ec36
      else if ntorV3Encap (ascii ntorV3TAuth) <+: m then
        keyOfNat 0x7b73c9e07c64fa7a60819ef0f8300ab9392be22984112a4081cee2cca110c17c
      else vectorPrimitives.sha3 m }

def silentCreate2 : Cell :=
  vectorCreate2 (bytesOfNat 1 0x1d)
    (bytesOfNat 32 0x440a5d1bcfc343b1c8f49c85a19ccff74f193fb9ab33c757b9ec49aa2981ec36)

/-- A client that asks for nothing is answered with a `CC_FIELD_RESPONSE`, and its circuit runs
congestion control. -/
theorem congestion_control_unasked :
    ∃ h' cell o,
      handleCreate2Auth silentPrimitives false vectorPeer vectorY silentCreate2 vectorHandler = (h', .ok cell) ∧
      cell.command = created2 ∧ create2Type silentCreate2.payload = 3 ∧
      ntorV3OpenSkin silentPrimitives (create2Data silentCreate2.payload) vectorID vectorB.toList
        ntorV3CircuitVerification = .ok o ∧
      o.cmPlain = [0] ∧
      answerMessage silentPrimitives o vectorID ntorV3CircuitVerification vectorY
        (cell.payload.drop 2) = [1, 2, 1, 31] ∧
      h'.ccOn 7 = true ∧
      ¬ NegotiatedAsAsked silentPrimitives vectorHandler h' vectorY silentCreate2 cell o := by
  have hrun : (match handleCreate2Auth silentPrimitives false vectorPeer vectorY silentCreate2
        vectorHandler, ntorV3OpenSkin silentPrimitives (create2Data silentCreate2.payload) vectorID
          vectorB.toList ntorV3CircuitVerification with
      | (h', .ok cell), .ok o => decide (cell.command = created2 ∧ o.cmPlain = [0] ∧
          answerMessage silentPrimitives o vectorID ntorV3CircuitVerification vectorY
            (cell.payload.drop 2) = [1, 2, 1, 31] ∧ h'.ccOn 7 = true)
      | (_, .ok _), .error _ => false
      | (_, .error _), _ => false) = true := by decide +kernel
  split at hrun
  next h' cell o hh hopen =>
    obtain ⟨hcreated, hcm, hsm, hon⟩ := of_decide_eq_true hrun
    refine ⟨h', cell, o, hh, hcreated, by decide +kernel, hopen, hcm, hsm, hon, fun hneg => ?_⟩
    have hasked := hneg.enabled.1 hon
    rw [hcm] at hasked
    exact absurd hasked (by decide)
  all_goals cases hrun

end GoTor.Relay
