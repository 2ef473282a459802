import GoTor.Cell.Link
import GoTor.Circuit.Deliver
import GoTor.Crypto.NtorV3

/-!
# The answers to CREATE2 and EXTEND2

`ProcessCreated2` and `ProcessExtended2` take the handshake's answer out of a payload that
spells its length HLEN in the first two bytes, and finish the handshake with it.  The bound
`2 + hlen` is computed in 16 bits: for the two largest values of HLEN it wraps around to 0 or
1, passes the length check, and the slice `payload[2 : 2+hlen]` panics.
-/

namespace GoTor.Circuit

open GoTor.Lib GoTor.Crypto GoTor.Cell GoM Res Command List

def circWindowInit : ℕ := 124

def Circ.enableCongestionControl (c : Circ) (sendmeInc : ℕ) : Circ :=
  if sendmeInc < 1 ∨ sendmeInc > 250 then c
  else
    let cwndInit := if c.cwndInit < 1 then circWindowInit else c.cwndInit
    let vegas : VegasWindow := { inflight := 0, cwnd := max cwndInit sendmeInc }
    { c with
      sendmeInc, cwndInit, vegas := some vegas, packageWindow := vegas.cwnd
      deliverWindow := vegas.cwnd, sendmeReceived := 0, sendmeExpected := [] }

def handshakeTypeNtorV3 : UInt16 := 3
def handshakeTypeNTor : UInt16 := 2

/-- An `Extension` with its handshake under way. -/
structure Extension where
  circuit : Circ
  handshakeType : UInt16 := handshakeTypeNTor
  ephemeralPrivate : Option Bytes := none
  serverIdentity : Bytes := []
  serverNtorKey : Bytes := []
  ntorv3State : Option NtorV3ClientState := none
  requestCGO : Bool := false
  /-- The answers passed to `finishHandshake` so far. -/
  handshakes : List Bytes := []

variable (N : NtorPrimitives)

/-! ### Finishing the handshake -/

/-- The `switch` of `finishHandshake`: the key material, the relay's message and the circuit
nonce.  Either way the secret of the handshake is gone afterwards. -/
def verifyHandshake (response : Bytes) : GoM Extension (Bytes × Bytes × Bytes) := do
  let e ← get
  if e.handshakeType = handshakeTypeNtorV3 then
    match e.ntorv3State with
    | none => throw (.err "no ntor-v3 state stored")
    | some st =>
      let r := ntorV3ProcessResponse N response (some st) ntorV3CircuitVerification
      modify fun e => { e with ntorv3State := none }
      let (keyMaterial, serverMsg, st) ← lift (r.wrap "ntor-v3 handshake verification failed")
      let circNonce := if st.circNonce.length = ntorCircNonceLen then st.circNonce else []
      return (keyMaterial, serverMsg, circNonce)
  else
    match e.ephemeralPrivate with
    | none => throw (.err "no ephemeral private key stored - handshake not initiated properly")
    | some priv =>
      let r := ntorProcessResponseWithNonce N response priv e.serverNtorKey e.serverIdentity
      modify fun e => { e with ephemeralPrivate := none }
      let (keyMaterial, circNonce) ← lift (r.wrap "ntor handshake verification failed")
      return (keyMaterial, [], circNonce)

def checkKeyMaterial (requestCGO : Bool) (keyMaterial : Bytes) : Res Unit :=
  if requestCGO then
    if keyMaterial.length ≠ cgoKeyMaterialLen then
      err (s!"CGO requested: key material {keyMaterial.length}, want {cgoKeyMaterialLen} "
        ++ "(refusing AES-CTR fallback)")
    else .ok ()
  else if keyMaterial.length < 72 then
    err s!"insufficient key material: got {keyMaterial.length} bytes, need 72"
  else .ok ()

def addDerivedHop (keyMaterial circNonce : Bytes) : GoM Extension Unit := do
  let e ← get
  lift (checkKeyMaterial e.requestCGO keyMaterial)
  let hop ← lift ((ofExcept (deriveHopFromKeyMaterial e.requestCGO keyMaterial)).wrap
    "failed to derive hop crypto state")
  let hop :=
    if circNonce.length = ntorCircNonceLen then { hop with rendCircNonce := circNonce } else hop
  let sender ← lift ((ofExcept (e.circuit.addHop false hop)).wrap "failed to add hop to circuit")
  modify fun e => { e with circuit := { e.circuit with toSender := sender } }

/-- Turn congestion control on when the relay's message asks for it. -/
def enableNegotiatedCC (serverMsg : Bytes) : GoM Extension Unit := do
  if serverMsg.length > 0 then
    let inc ← lift ((parseCCSendmeInc serverMsg).wrap "ntor-v3 server extra data")
    match inc with
    | some inc => modify fun e => { e with circuit := e.circuit.enableCongestionControl inc }
    | none => pure ()
  else pure ()

def finishHandshake (response : Bytes) : GoM Extension Unit := do
  modify fun e => { e with handshakes := e.handshakes ++ [response] }
  let (keyMaterial, serverMsg, circNonce) ← verifyHandshake N response
  addDerivedHop keyMaterial circNonce
  enableNegotiatedCC serverMsg

/-! ### The two cells -/

/-- The answer in the payload of a cell named `what`: the bound is a 16-bit sum. -/
def handshakeResponse (what : String) (payload : Bytes) : Res Bytes :=
  if payload.length < 2 then err s!"{what} payload too short"
  else
    let hlen := uint16At payload 0
    if payload.length < (2 + hlen).toNat then err s!"{what} payload incomplete"
    else sliceOf payload 2 (2 + hlen).toNat

def processCreated2 : Option Cell → GoM Extension Unit
  | none => throw (.err "CREATED2 cell is nil")
  | some created2Cell => do
    if created2Cell.command ≠ created2 then
      throw (.err s!"expected CREATED2 cell, got {created2Cell.command.string}")
    else
      let response ← lift (handshakeResponse "CREATED2" created2Cell.payload)
      finishHandshake N response

/-- The deferred clearing of the ephemeral key. -/
def clearEphemeral (e : Extension) : Extension := { e with ephemeralPrivate := none }

def processExtended2 : Option RelayCell → GoM Extension Unit
  | none => throw (.err "EXTENDED2 relay cell is nil")
  | some extended2Cell => do
    if extended2Cell.command ≠ relayExtended2 then
      throw (.err s!"expected RELAY_EXTENDED2 cell, got {extended2Cell.command}")
    else
      deferring clearEphemeral do
        let response ← lift (handshakeResponse "EXTENDED2" extended2Cell.data)
        finishHandshake N response

/-! ### No panic in the handshake -/

section Handshake

variable {log : List Bytes} {response : Bytes} {keyMaterial : Bytes}

lemma checkKeyMaterial_safe {requestCGO : Bool} :
    (checkKeyMaterial requestCGO keyMaterial).Safe := by
  unfold checkKeyMaterial
  split
  next =>
    split
    next => exact safe_err
    next => exact safe_ok
  next =>
  split
  next => exact safe_err
  next => exact safe_ok

lemma verifyHandshake_keeps :
    GoM.Keeps (fun e => e.handshakes = log) (verifyHandshake N response) := by
  refine keeps_get.bind fun e => ?_
  split
  next =>
    split
    next => exact keeps_err
    next st _ =>
    have hsafe := ntorV3ProcessResponse_safe N response (some st) ntorV3CircuitVerification
    refine GoM.Keeps.bind (keeps_modify fun _ h => h) fun _ => ?_
    exact (keeps_lift (hsafe.wrap _)).bind fun _ => keeps_pure
  next =>
  split
  next => exact keeps_err
  next priv _ =>
  have hsafe := ntorProcessResponseWithNonce_safe N response priv e.serverNtorKey e.serverIdentity
  refine GoM.Keeps.bind (keeps_modify fun _ h => h) fun _ => ?_
  exact (keeps_lift (hsafe.wrap _)).bind fun _ => keeps_pure

lemma addDerivedHop_keeps {circNonce : Bytes} :
    GoM.Keeps (fun e => e.handshakes = log) (addDerivedHop keyMaterial circNonce) := by
  refine keeps_get.bind fun e => ?_
  refine (keeps_lift checkKeyMaterial_safe).bind fun _ => ?_
  refine (keeps_lift (safe_ofExcept.wrap _)).bind fun hop => ?_
  refine (keeps_lift (safe_ofExcept.wrap _)).bind fun sender => ?_
  exact keeps_modify fun _ h => h

lemma enableNegotiatedCC_keeps {serverMsg : Bytes} :
    GoM.Keeps (fun e => e.handshakes = log) (enableNegotiatedCC serverMsg) := by
  unfold enableNegotiatedCC
  split
  next =>
    refine (keeps_lift (parseCCSendmeInc_safe.wrap _)).bind fun inc => ?_
    split
    next => exact keeps_modify fun _ h => h
    next => exact keeps_pure
  next => exact keeps_pure

lemma finishHandshake_ends (e : Extension) :
    GoM.Ends (fun e' => e'.handshakes = e.handshakes ++ [response]) (finishHandshake N response e) := by
  have hrest : GoM.Keeps (fun e' => e'.handshakes = e.handshakes ++ [response])
      (verifyHandshake N response >>= fun r =>
        addDerivedHop r.1 r.2.2 >>= fun _ => enableNegotiatedCC r.2.1) := by
    refine (verifyHandshake_keeps N).bind fun r => ?_
    exact addDerivedHop_keeps.bind fun _ => enableNegotiatedCC_keeps
  exact hrest _ rfl

end Handshake

/-! ### The length check -/

variable (payload : Bytes)

def hlenOf : ℕ := (uint16At payload 0).toNat

/-- The payload is too short for the field, or HLEN is small enough for `2 + HLEN` to fit in
16 bits. -/
def HlenFits : Prop := payload.length < 2 ∨ hlenOf payload < 65534

/-- The handshake got one more answer: the HLEN bytes after the length field, all there. -/
def PassedOn (e e' : Extension) : Prop :=
  2 + hlenOf payload ≤ payload.length ∧
    e'.handshakes = e.handshakes ++ [slice payload 2 (2 + hlenOf payload)]

/-- How the answer in `payload` is to be taken: no panic; an error, or exactly the HLEN bytes
passed to the handshake. -/
def Handled (e : Extension) : EStateM.Result Fault Extension Unit → Prop
  | .ok _ e' => PassedOn payload e e'
  | .error (.err _) e' => e'.handshakes = e.handshakes ∨ PassedOn payload e e'
  | .error .panic _ => False

section Length

variable {payload : Bytes} {e : Extension}

lemma toNat_two_add (hlen : UInt16) : (2 + hlen).toNat = (2 + hlen.toNat) % 65536 := by
  rfl

lemma handshakeResponse_of_fits (what : String) (h : HlenFits payload) :
    (∃ msg, handshakeResponse what payload = err msg) ∨
    2 + hlenOf payload ≤ payload.length ∧
      handshakeResponse what payload = .ok (slice payload 2 (2 + hlenOf payload)) := by
  unfold handshakeResponse
  split
  next => exact .inl ⟨_, rfl⟩
  next hlen =>
  have hsmall : hlenOf payload < 65534 := h.resolve_left hlen
  have hsum : (2 + uint16At payload 0).toNat = 2 + hlenOf payload := by
    rw [toNat_two_add]
    exact Nat.mod_eq_of_lt (by unfold hlenOf at hsmall; omega)
  dsimp only
  rw [hsum]
  split
  next => exact .inl ⟨_, rfl⟩
  next hle =>
    have hle : 2 + hlenOf payload ≤ payload.length := Nat.le_of_not_lt hle
    exact .inr ⟨hle, sliceOf_eq_ok (by omega) hle⟩

lemma handshakeResponse_of_wraps {what : String} (h : ¬ HlenFits payload) :
    handshakeResponse what payload = .error .panic := by
  obtain ⟨hlen, hbig⟩ := not_or.1 h
  have hlt : hlenOf payload < 65536 := UInt16.toNat_lt _
  have hsum : (2 + uint16At payload 0).toNat = 2 + hlenOf payload - 65536 := by
    rw [toNat_two_add]
    unfold hlenOf at hbig hlt ⊢
    omega
  unfold handshakeResponse
  rw [if_neg hlen]
  rw [if_neg (by omega)]
  exact if_neg (by omega)

lemma handled_iff (what : String) :
    Handled payload e ((lift (handshakeResponse what payload) >>= finishHandshake N).run e) ↔
      HlenFits payload := by
  constructor
  · intro h
    by_contra hfits
    rwa [handshakeResponse_of_wraps hfits] at h
  intro hfits
  rcases handshakeResponse_of_fits what hfits with ⟨msg, hr⟩ | ⟨hle, hr⟩
  · rw [hr]
    exact .inl rfl
  · rw [hr]
    show Handled payload e (finishHandshake N _ e)
    have hends := @finishHandshake_ends N (slice payload 2 (2 + hlenOf payload)) e
    generalize finishHandshake N _ e = r at hends ⊢
    rcases r with ⟨⟨⟩, e'⟩ | ⟨⟨⟩ | ⟨⟩, e'⟩
    · exact ⟨hle, hends⟩
    · exact .inr ⟨hle, hends⟩
    · exact hends

lemma handled_clearEphemeral (x : GoM Extension Unit) :
    Handled payload e ((x.deferring clearEphemeral).run e) ↔ Handled payload e (x.run e) := by
  unfold deferring EStateM.run
  dsimp only
  generalize x e = r
  rcases r with ⟨⟨⟩, e'⟩ | ⟨⟨⟩ | ⟨⟩, e'⟩
  · exact Iff.rfl
  · exact Iff.rfl
  · exact Iff.rfl

lemma processCreated2_eq (circID : UInt32) (payload : Bytes) :
    processCreated2 N (some ⟨circID, created2, payload⟩) =
      lift (handshakeResponse "CREATED2" payload) >>= finishHandshake N := rfl

lemma processExtended2_eq (streamID : UInt16) (payload : Bytes) :
    processExtended2 N (some { command := relayExtended2, streamID, data := payload }) = deferring clearEphemeral
        (lift (handshakeResponse "EXTENDED2" payload) >>= finishHandshake N) := rfl

/-- **The answers to CREATE2 and EXTEND2.**  Whatever the payload of a CREATED2 cell or the
data of an EXTENDED2 cell, it is taken without a panic, and if it is passed to the handshake
then exactly the HLEN bytes after the length field are, if and only if `2 + HLEN` fits in 16
bits. -/
theorem answer_handled (circID : UInt32) (streamID : UInt16) (payload : Bytes) (e : Extension) :
    (Handled payload e ((processCreated2 N (some ⟨circID, created2, payload⟩)).run e) ↔ HlenFits payload) ∧
    (Handled payload e ((processExtended2 N
        (some { command := relayExtended2, streamID, data := payload })).run e) ↔
      HlenFits payload) := by
  rw [processExtended2_eq, handled_clearEphemeral]
  exact ⟨handled_iff N "CREATED2", handled_iff N "EXTENDED2"⟩

end Length

def constantNtor : NtorPrimitives where
  scalarMult _ _ := Vector.replicate 32 1
  scalarBaseMult x := x
  hmacSha256 _ _ := Vector.replicate 32 2
  hkdfSha256 _ _ _ n := Vector.replicate n 3
  sha3 _ := Vector.replicate 32 4
  shake256 _ n := Vector.replicate n 5
  aes256 _ := Equiv.refl _

def awaitingCreated2 : Extension where
  circuit := { id := 7, conn := true, state := .building, hops := [] }
  ephemeralPrivate := some (replicate 32 9)
  serverIdentity := replicate 20 8
  serverNtorKey := replicate 32 7

/-- A cell of 509 bytes with HLEN 65534 panics, as CREATED2 and as EXTENDED2. -/
theorem answer_panics :
    ¬ Handled ([255, 254] ++ zeros 507) awaitingCreated2 ((processCreated2 constantNtor
        (some ⟨7, created2, [255, 254] ++ zeros 507⟩)).run awaitingCreated2) ∧
    ¬ Handled ([255, 254] ++ zeros 496) awaitingCreated2 ((processExtended2 constantNtor
        (some { command := relayExtended2, streamID := 0, data := [255, 254] ++ zeros 496 })).run
        awaitingCreated2) := by
  have hcreated : handshakeResponse "CREATED2" ([255, 254] ++ zeros 507) = .error .panic := by
    decide +kernel
  have hextended : handshakeResponse "EXTENDED2" ([255, 254] ++ zeros 496) = .error .panic := by
    decide +kernel
  rw [processCreated2_eq, processExtended2_eq, hcreated, hextended]
  exact ⟨id, id⟩

/-- An honest answer of 64 bytes adds a hop. -/
example : (match processCreated2 constantNtor
    (some ⟨7, created2, [0, 64] ++ replicate 32 6 ++ replicate 32 2⟩)
    awaitingCreated2 with
    | .ok _ e => e.circuit.hops.length
    | .error _ _ => 0) = 1 := by
  decide +kernel

end GoTor.Circuit
