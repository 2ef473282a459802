import GoTor.Circuit.Extension
import GoTor.Crypto.NtorV3Agreement

/-!
# Flow control of a rendezvous

The two ends of a rendezvous run one end-to-end flow control over two circuits that were built
apart.  Each circuit inherits the mode its hops negotiated.  Before it adds the rendezvous layer,
the client sets the mode it asked for in INTRODUCE1; the service adds the layer and keeps what its
circuit inherited.
-/

namespace GoTor.Circuit

open GoTor.Lib GoTor.Crypto Circ GoM

def Circ.congestionControlEnabled (c : Circ) : Bool := c.vegas.isSome

/-- `SetCCParams`, of which the initial window is kept. -/
def Circ.setCCParams (c : Circ) (cwndInit : ℕ) : Circ := { c with cwndInit }

def Circ.disableCongestionControl (c : Circ) : Circ :=
  { c with
    vegas := none, sendmeInc := 0, packageWindow := 1000, deliverWindow := 1000
    sendmeReceived := 0, sendmeExpected := [] }

/-- The flow control of a circuit: whether it is congestion control, and the SENDME increment. -/
def Circ.flowMode (c : Circ) : Bool × ℕ := (c.congestionControlEnabled, c.sendmeIncrement)

/-- The mode for a negotiated increment; none stands for the classic windows. -/
def modeOf : Option ℕ → Bool × ℕ
  | some inc => (true, inc)
  | none => (false, 100)

lemma modeOf_injective : Function.Injective modeOf := by
  rintro (_ | a) (_ | b) h
  · rfl
  · cases h
  · cases h
  · exact congrArg some (Prod.mk.inj h).2

variable {inc : ℕ}

lemma flowMode_enable {c : Circ} (hlo : 1 ≤ inc) (hhi : inc ≤ 250) :
    (c.enableCongestionControl inc).flowMode = modeOf (some inc) := by
  unfold enableCongestionControl
  rw [if_neg (by omega)]
  simp [flowMode, congestionControlEnabled, sendmeIncrement, modeOf, Nat.pos_iff_ne_zero.1 hlo]

lemma flowMode_disable {c : Circ} : c.disableCongestionControl.flowMode = modeOf none := rfl

/-! ### What the hops negotiate -/

variable (N : NtorPrimitives)

def ccOf (serverMsg : Bytes) : Option ℕ :=
  if serverMsg.length > 0 then (parseCCSendmeInc serverMsg).toOption.join else none

def ccAnswer (e : Extension) (response : Bytes) : Option ℕ :=
  if e.handshakeType = handshakeTypeNtorV3 then
    match e.ntorv3State with
    | none => none
    | some st =>
      match ntorV3ProcessResponse N response (some st) ntorV3CircuitVerification with
      | .ok (_, serverMsg, _) => ccOf serverMsg
      | .error _ => none
  else none

/-- The hops of a circuit: the handshake under way with each, and its answer. -/
def buildHops (c : Circ) : List (Extension × Bytes) → Option Circ
  | [] => some c
  | (e, response) :: hops =>
    match finishHandshake N response { e with circuit := c } with
    | .ok _ e' => buildHops e'.circuit hops
    | .error _ _ => none

def lastCC (hops : List (Extension × Bytes)) : Option ℕ :=
  (hops.filterMap fun hop => ccAnswer N hop.1 hop.2).getLast?

section Hops

variable {N} {e e' : Extension} {response keyMaterial serverMsg circNonce : Bytes} {c c' : Circ}

lemma ccSendmeInc_range {exts : List NtorV3Extension}
    (h : ccSendmeInc exts = .ok (some inc)) : 1 ≤ inc ∧ inc ≤ 250 := by
  induction exts with
  | nil => cases h
  | cons ext exts ih =>
    unfold ccSendmeInc at h
    split at h
    · split at h
      · split at h
        · cases h
        · cases h
          omega
      · cases h
    · exact ih h

lemma ccOf_range (h : ccOf serverMsg = some inc) : 1 ≤ inc ∧ inc ≤ 250 := by
  unfold ccOf at h
  split at h
  · have hparse := toOption_eq_some.1 (Option.join_eq_some_iff.1 h)
    obtain ⟨exts, -, hcc⟩ := bind_eq_ok.1 hparse
    exact ccSendmeInc_range hcc
  · cases h

lemma verifyHandshake_ok
    (h : verifyHandshake N response e = .ok (keyMaterial, serverMsg, circNonce) e') :
    e'.circuit = e.circuit ∧ ccOf serverMsg = ccAnswer N e response := by
  obtain ⟨_, _, hget, h⟩ := estate_bind_eq_ok.1 h
  cases hget
  split at h
  next htype =>
    cases hst : e.ntorv3State with
    | none =>
      simp only [hst] at h
      cases h
    | some st =>
      simp only [hst] at h
      obtain ⟨_, e1, hmod, h⟩ := estate_bind_eq_ok.1 h
      cases hmod
      obtain ⟨⟨km, msg, st'⟩, e2, hlift, h⟩ := estate_bind_eq_ok.1 h
      obtain ⟨hwrap, rfl⟩ := lift_eq_ok.1 hlift
      cases h
      refine ⟨rfl, ?_⟩
      rw [ccAnswer, if_pos htype, hst]
      simp only [Res.of_wrap_eq_ok hwrap]
  next htype =>
  cases hpriv : e.ephemeralPrivate with
  | none =>
    simp only [hpriv] at h
    cases h
  | some priv =>
    simp only [hpriv] at h
    obtain ⟨_, e1, hmod, h⟩ := estate_bind_eq_ok.1 h
    cases hmod
    obtain ⟨⟨km, nonce⟩, e2, hlift, h⟩ := estate_bind_eq_ok.1 h
    obtain ⟨-, rfl⟩ := lift_eq_ok.1 hlift
    cases h
    refine ⟨rfl, ?_⟩
    rw [ccAnswer, if_neg htype]
    rfl

lemma addDerivedHop_ok (h : addDerivedHop keyMaterial circNonce e = .ok () e') :
    ∃ hops, e'.circuit = { e.circuit with hops } := by
  obtain ⟨_, _, hget, h⟩ := estate_bind_eq_ok.1 h
  cases hget
  obtain ⟨_, e1, hcheck, h⟩ := estate_bind_eq_ok.1 h
  obtain ⟨-, rfl⟩ := lift_eq_ok.1 hcheck
  obtain ⟨hop, e2, hderive, h⟩ := estate_bind_eq_ok.1 h
  obtain ⟨-, rfl⟩ := lift_eq_ok.1 hderive
  obtain ⟨sender, e3, hlift, h⟩ := estate_bind_eq_ok.1 h
  obtain ⟨hadd, rfl⟩ := lift_eq_ok.1 hlift
  cases h
  have hadd := Res.of_ofExcept_eq_ok (Res.of_wrap_eq_ok hadd)
  obtain ⟨hops, rfl⟩ := Sender.addHop_eq_ok hadd
  exact ⟨hops, rfl⟩

lemma enableNegotiatedCC_ok (h : enableNegotiatedCC serverMsg e = .ok () e') :
    e'.circuit = ((ccOf serverMsg).map e.circuit.enableCongestionControl).getD e.circuit := by
  unfold enableNegotiatedCC at h
  unfold ccOf
  split at h
  next hlen =>
    obtain ⟨inc, e1, hlift, h⟩ := estate_bind_eq_ok.1 h
    obtain ⟨hparse, rfl⟩ := lift_eq_ok.1 hlift
    rw [if_pos hlen, Res.of_wrap_eq_ok hparse]
    cases inc with
    | none | some inc =>
      cases h
      rfl
  next hlen =>
  cases h
  rw [if_neg hlen]
  rfl

lemma finishHandshake_ok (h : finishHandshake N response e = .ok () e') :
    ∃ hops, e'.circuit = ((ccAnswer N e response).map
      ({ e.circuit with hops } : Circ).enableCongestionControl).getD { e.circuit with hops } := by
  obtain ⟨_, e1, hmod, h⟩ := estate_bind_eq_ok.1 h
  cases hmod
  obtain ⟨⟨km, msg, nonce⟩, e2, hverify, h⟩ := estate_bind_eq_ok.1 h
  obtain ⟨_, e3, hhop, h⟩ := estate_bind_eq_ok.1 h
  obtain ⟨hcirc, hcc⟩ := verifyHandshake_ok hverify
  obtain ⟨hops, hadded⟩ := addDerivedHop_ok hhop
  rw [hcirc] at hadded
  have hcc : ccOf msg = ccAnswer N e response := hcc
  refine ⟨hops, ?_⟩
  rw [enableNegotiatedCC_ok h, hcc, hadded]

lemma ccAnswer_range (h : ccAnswer N e response = some inc) : 1 ≤ inc ∧ inc ≤ 250 := by
  unfold ccAnswer at h
  split at h
  · split at h
    · cases h
    · split at h
      · exact ccOf_range h
      · cases h
  · cases h

lemma finishHandshake_flowMode (h : finishHandshake N response e = .ok () e') :
    e'.circuit.flowMode = ((ccAnswer N e response).map (modeOf ∘ some)).getD e.circuit.flowMode := by
  obtain ⟨hops, hcirc⟩ := finishHandshake_ok h
  rw [hcirc]
  cases hinc : ccAnswer N e response with
  | none => rfl
  | some inc =>
    obtain ⟨hlo, hhi⟩ := ccAnswer_range hinc
    exact flowMode_enable hlo hhi

lemma lastCC_cons (hop : Extension × Bytes) (hops : List (Extension × Bytes)) :
    lastCC N (hop :: hops) = (lastCC N hops).or (ccAnswer N hop.1 hop.2) := by
  unfold lastCC
  rw [List.filterMap_cons]
  cases ccAnswer N hop.1 hop.2 with
  | none => simp
  | some inc =>
    simp only [List.getLast?_cons]
    cases (hops.filterMap fun hop => ccAnswer N hop.1 hop.2).getLast? with
    | none | some last => rfl

lemma buildHops_flowMode {hops : List (Extension × Bytes)} (h : buildHops N c hops = some c') :
    c'.flowMode = ((lastCC N hops).map (modeOf ∘ some)).getD c.flowMode := by
  induction hops generalizing c with
  | nil =>
    cases h
    rfl
  | cons hop hops ih =>
    unfold buildHops at h
    split at h
    next e' hfinish =>
      rw [ih h, lastCC_cons]
      cases lastCC N hops with
      | some inc => rfl
      | none => exact finishHandshake_flowMode hfinish
    next => cases h

end Hops

end GoTor.Circuit

namespace GoTor.Onion

open GoTor.Lib GoTor.Crypto GoTor.Circuit

/-! ### What the client asks for -/

/-- `FlowControlParams`: the `flow-control` line of a descriptor. -/
structure FlowControlParams where
  versionMin : ℕ
  versionMax : ℕ
  sendmeInc : ℕ
  deriving DecidableEq

def FlowControlParams.supportsFlowCtrl2 (p : FlowControlParams) : Bool :=
  p.versionMin ≤ 2 && p.versionMax ≥ 2 && p.sendmeInc ≥ 1 && p.sendmeInc ≤ 250

/-- `sendmeIncCompatible`: the two increments are within a factor of two. -/
def sendmeIncCompatible (descInc consensusInc : ℕ) : Bool :=
  if descInc < 1 || consensusInc < 1 then false
  else if descInc = consensusInc then true
  else max consensusInc descInc ≤ 2 * min consensusInc descInc

def validateFlowControlForRequest (fc : Option FlowControlParams) (ccAlg consensusInc : ℕ) : Except String Unit :=
  match fc with
  | none => .error "descriptor missing FlowCtrl=2"
  | some fc =>
    if !fc.supportsFlowCtrl2 then .error "descriptor missing FlowCtrl=2"
    else if ccAlg = 0 then .error "consensus cc_alg=0"
    else if !sendmeIncCompatible fc.sendmeInc consensusInc then
      .error s!"sendme-inc {fc.sendmeInc} incompatible with consensus {consensusInc}"
    else .ok ()

/-- `RendezvousState`, the part about flow control: whether INTRODUCE1 carried a
`CC_FIELD_REQUEST`, and the descriptor's increment. -/
structure RendezvousState where
  negotiateCC : Bool
  sendmeInc : ℕ
  deriving DecidableEq

/-- What `ConnectToOnionService` asks for and remembers. -/
def rendezvousState (fc : Option FlowControlParams) (ccAlg ccSendmeInc : ℕ) : RendezvousState :=
  match validateFlowControlForRequest fc ccAlg ccSendmeInc with
  | .ok () => { negotiateCC := true, sendmeInc := (fc.map (·.sendmeInc)).getD 0 }
  | .error _ => { negotiateCC := false, sendmeInc := 0 }

/-! ### The two ends -/

/-- `applyOnionFlowControl`, with the initial window of `onionCCParams`. -/
def applyOnionFlowControl (onionCwndInit : ℕ) (state : RendezvousState) (circ : Circ) : Circ :=
  if state.negotiateCC ∧ state.sendmeInc ≥ 1 then
    (circ.setCCParams onionCwndInit).enableCongestionControl state.sendmeInc
  else if circ.congestionControlEnabled then circ.disableCongestionControl
  else circ

def addHSHop (circ : Circ) (hop : Hop) : Except String Circ := do
  let sender ← circ.toSender.addHop true hop
  return { circ with toSender := sender }

/-- The end of `CompleteRendezvous`: the client's circuit with the rendezvous layer. -/
def completeRendezvous (onionCwndInit : ℕ) (state : RendezvousState) (circ : Circ) (hop : Hop) : Except String Circ :=
  addHSHop (applyOnionFlowControl onionCwndInit state circ) hop

/-- The end of `HandleIntroduce2`: the service's circuit with the rendezvous layer.  The
extensions of INTRODUCE2 are parsed and not looked at again. -/
def handleIntroduce2 (_extensions : List (UInt8 × Bytes)) (circ : Circ) (hop : Hop) : Except String Circ :=
  addHSHop circ hop

def requestedCC (fc : Option FlowControlParams) (ccAlg ccSendmeInc : ℕ) : Option ℕ :=
  match validateFlowControlForRequest fc ccAlg ccSendmeInc with
  | .ok () => fc.map (·.sendmeInc)
  | .error _ => none

section Ends

variable {fc : Option FlowControlParams} {ccAlg ccSendmeInc onionCwndInit : ℕ} {circ circ' : Circ} {hop : Hop}

lemma addHSHop_flowMode (h : addHSHop circ hop = .ok circ') : circ'.flowMode = circ.flowMode := by
  obtain ⟨sender, hadd, hret⟩ := bind_eq_ok.1 h
  obtain ⟨hops, rfl⟩ := Sender.addHop_eq_ok hadd
  cases hret
  rfl

lemma validate_range (h : validateFlowControlForRequest fc ccAlg ccSendmeInc = .ok ()) :
    ∃ fc', fc = some fc' ∧ 1 ≤ fc'.sendmeInc ∧ fc'.sendmeInc ≤ 250 := by
  unfold validateFlowControlForRequest at h
  split at h
  · cases h
  next fc =>
  split at h
  · cases h
  next hsupports =>
  simp only [FlowControlParams.supportsFlowCtrl2, Bool.not_eq_true, Bool.not_eq_false',
    Bool.and_eq_true, decide_eq_true_eq] at hsupports
  exact ⟨fc, rfl, by omega, by omega⟩

lemma applyOnionFlowControl_flowMode (hcirc : circ.congestionControlEnabled = false → circ.flowMode = modeOf none) :
    (applyOnionFlowControl onionCwndInit (rendezvousState fc ccAlg ccSendmeInc) circ).flowMode =
      modeOf (requestedCC fc ccAlg ccSendmeInc) := by
  unfold applyOnionFlowControl rendezvousState requestedCC
  cases hvalid : validateFlowControlForRequest fc ccAlg ccSendmeInc with
  | ok u =>
    obtain ⟨fc', rfl, hlo, hhi⟩ := validate_range hvalid
    simp only [Option.map_some, Option.getD_some, hlo]
    exact flowMode_enable hlo hhi
  | error msg =>
    simp only [Bool.false_eq_true, false_and, if_false]
    split
    next => exact flowMode_disable
    next hoff => exact hcirc (by simpa using hoff)

/-- **The two ends of a rendezvous agree on flow control exactly when the service's circuit
happened to inherit what the client asks for.** -/
theorem rendezvous_flow_control_iff (N : NtorPrimitives)
    (clientHops serviceHops : List (Extension × Bytes)) (fc : Option FlowControlParams)
    (ccAlg ccSendmeInc onionCwndInit : ℕ) (extensions : List (UInt8 × Bytes))
    (client0 service0 client1 service1 client2 service2 client3 service3 : Circ)
    (clientHop serviceHop : Hop)
    (hnewC : client0.flowMode = modeOf none) (hnewS : service0.flowMode = modeOf none)
    (hbuildC : buildHops N client0 clientHops = some client1)
    (hbuildS : buildHops N service0 serviceHops = some service1)
    (hkeepC : client2.flowMode = client1.flowMode) (hkeepS : service2.flowMode = service1.flowMode)
    (hclient : completeRendezvous onionCwndInit (rendezvousState fc ccAlg ccSendmeInc) client2
      clientHop = .ok client3)
    (hservice : handleIntroduce2 extensions service2 serviceHop = .ok service3) :
    client3.flowMode = service3.flowMode ↔
      lastCC N serviceHops = requestedCC fc ccAlg ccSendmeInc := by
  have hinherit : ∀ hops, ((lastCC N hops).map (modeOf ∘ some)).getD (modeOf none) = modeOf (lastCC N hops) := by
    intro hops
    cases lastCC N hops with
    | none | some inc => rfl
  have hmodeC : client2.flowMode = modeOf (lastCC N clientHops) := by
    rw [hkeepC, buildHops_flowMode hbuildC, hnewC, hinherit]
  have hmodeS : service3.flowMode = modeOf (lastCC N serviceHops) := by
    rw [addHSHop_flowMode hservice, hkeepS, buildHops_flowMode hbuildS, hnewS, hinherit]
  have hmode : client3.flowMode = modeOf (requestedCC fc ccAlg ccSendmeInc) := by
    rw [addHSHop_flowMode hclient]
    refine applyOnionFlowControl_flowMode fun hoff => ?_
    rw [hmodeC]
    cases hlast : lastCC N clientHops with
    | none => rfl
    | some inc =>
      rw [hlast] at hmodeC
      have := congrArg Prod.fst hmodeC
      simp only [Circ.flowMode, hoff] at this
      cases this
  rw [hmode, hmodeS]
  exact ⟨fun h => (modeOf_injective h).symm, fun h => by rw [h]⟩

end Ends

/-! ### A service on a circuit with congestion control -/

/-- The handshake of the test vectors, with its answer: a `CC_FIELD_RESPONSE` with increment 31. -/
def vectorHop : Extension × Bytes :=
  ({ circuit := { id := 1, conn := true, state := .building, hops := [] }
     handshakeType := handshakeTypeNtorV3
     requestCGO := true
     ntorv3State := some
      { x := vectorX, X := vectorPubX, B := vectorPubB, id := vectorID, Bx := vectorBx
        msgMAC := bytesOfNat 32 0x48c23f0baa1046bf5a0479d7d134625bf5db07c0176386bccabe5f20fc8322c0
        keyMaterialLen := cgoKeyMaterialLen } },
    vectorPubY.toList ++
      bytesOfNat 32 0xb7fadf17c99185b8871de35fa4bfdbcaf676f53a259fe1e02fc78aad23279ea7 ++
      bytesOfNat 4 0xd0627d1d)

def newCirc : Circ where
  id := 1
  conn := true
  state := .building
  hops := []

def vectorHops : List (Extension × Bytes) := List.replicate 3 vectorHop

lemma buildHops_vector :
    ∃ c, buildHops vectorPrimitives newCirc vectorHops = some c ∧ c.flowMode = (true, 31) := by
  decide +kernel

def rendezvousLayer : Hop where
  forwardCipher := some { key := zeros 32, iv := Block.copyOf [] }
  backwardCipher := some { key := zeros 32, iv := Block.copyOf [] }
  forwardDigest := some (zeros 32)
  backwardDigest := some (zeros 32)

/-- Both ends run congestion control with increment 31: the client asks for what the service's
circuit inherited. -/
theorem rendezvous_flow_control_vector :
    ∃ client service,
      completeRendezvous 124 (rendezvousState (some ⟨1, 2, 31⟩) 2 31)
        { newCirc with state := .opened } rendezvousLayer = .ok client ∧
      (∃ c, buildHops vectorPrimitives newCirc vectorHops = some c ∧
        handleIntroduce2 [(1, [])] { c with state := .opened } rendezvousLayer = .ok service) ∧
      client.flowMode = service.flowMode := by
  obtain ⟨c, hbuild, hmode⟩ := buildHops_vector
  have hcc : lastCC vectorPrimitives vectorHops = requestedCC (some ⟨1, 2, 31⟩) 2 31 := by
    decide +kernel
  have hiff := rendezvous_flow_control_iff vectorPrimitives [] vectorHops (some ⟨1, 2, 31⟩) 2 31 124
    [(1, [])] newCirc newCirc newCirc c { newCirc with state := .opened } { c with state := .opened }
    _ _ rendezvousLayer rendezvousLayer rfl rfl rfl hbuild rfl rfl rfl rfl
  exact ⟨_, _, rfl, ⟨c, hbuild, rfl⟩, hiff.2 hcc⟩

/-- The descriptor has no `flow-control` line: the client is back to the classic windows, and the
service still runs congestion control. -/
theorem rendezvous_modes_differ :
    ∃ c client service, buildHops vectorPrimitives newCirc vectorHops = some c ∧
      completeRendezvous 124 (rendezvousState none 2 31) { c with state := .opened } rendezvousLayer = .ok client ∧
      handleIntroduce2 [] { c with state := .opened } rendezvousLayer = .ok service ∧
      client.flowMode = (false, 100) ∧ service.flowMode = (true, 31) := by
  obtain ⟨c, hbuild, hmode⟩ := buildHops_vector
  have hon : c.vegas.isSome = true := (Prod.mk.inj hmode).1
  have happly : applyOnionFlowControl 124 (rendezvousState none 2 31) { c with state := .opened } =
      Circ.disableCongestionControl { c with state := .opened } := if_pos hon
  refine ⟨c, { c.disableCongestionControl with
    state := .opened, hops := c.hops ++ [rendezvousLayer] }, _, hbuild, ?_, rfl, rfl, hmode⟩
  rw [completeRendezvous, happly]
  rfl

end GoTor.Onion
