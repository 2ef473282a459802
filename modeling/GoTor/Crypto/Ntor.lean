import GoTor.Lib.Panic
import GoTor.Lib.BlockCipher

/-!
# The ntor handshake

The curve and the hash functions are parameters.  A `[32]byte` of the source is a vector, so
every key has its length by type.
-/

namespace GoTor.Crypto

open GoTor.Lib Res

abbrev Key32 := Vector UInt8 32

/-- Copy a byte string into a zeroed array of 32 bytes. -/
def copy32 (b : Bytes) : Key32 := Vector.ofFn fun i => b.getD i 0

/-- The curve, the hash functions and the cipher of the two handshakes. -/
structure NtorPrimitives where
  /-- The multiple of a point: the scalar first. -/
  scalarMult : Key32 → Key32 → Key32
  scalarBaseMult : Key32 → Key32
  /-- HMAC-SHA256 of a message under a key: the key first. -/
  hmacSha256 : Bytes → Bytes → Key32
  /-- The first `n` bytes of HKDF-SHA256 of a secret, a salt and an info string. -/
  hkdfSha256 : Bytes → Bytes → Bytes → (n : ℕ) → Vector UInt8 n
  sha3 : Bytes → Key32
  /-- The first `n` bytes of SHAKE256. -/
  shake256 : Bytes → (n : ℕ) → Vector UInt8 n
  aes256 : BlockCipher

def isAllZero (b : Bytes) : Bool := b.foldl (· ||| ·) 0 == 0

def ntorProtoID : String := "ntor-curve25519-sha256-1"
def ntorTMac : String := ntorProtoID ++ ":mac"
def ntorTKey : String := ntorProtoID ++ ":key_extract"
def ntorTVerify : String := ntorProtoID ++ ":verify"
def ntorMExpand : String := ntorProtoID ++ ":key_expand"
def ntorServerStr : String := "Server"
def ntorNodeIDLen : ℕ := 20
def ntorOnionKeyLen : ℕ := 32
def ntorResponseLen : ℕ := 64
def ntorKeyMaterialLen : ℕ := 72
def ntorCircNonceLen : ℕ := 20
def ntorExpandedLen : ℕ := ntorKeyMaterialLen + ntorCircNonceLen

variable (N : NtorPrimitives)

def ntorHMAC (key : String) (msg : Bytes) : Bytes := (N.hmacSha256 (ascii key) msg).toList

def ntorExpandKeyMaterial (secretInput : Bytes) : Bytes :=
  (N.hkdfSha256 secretInput (ascii ntorTKey) (ascii ntorMExpand) ntorExpandedLen).toList

def splitNtorExpanded (expanded : Bytes) : Res (Bytes × Bytes) :=
  if expanded.length < ntorExpandedLen then
    err s!"ntor expanded material too short: {expanded.length}"
  else do
    let km ← sliceOf expanded 0 ntorKeyMaterialLen
    let cn ← sliceOf expanded ntorKeyMaterialLen ntorExpandedLen
    return (km, cn)

def ntorBuildSecretInput (sharedXY sharedXB nodeID serverB clientX serverY : Bytes) : Bytes :=
  sharedXY ++ sharedXB ++ nodeID ++ serverB ++ clientX ++ serverY ++ ascii ntorProtoID

def ntorComputeAuth (verify nodeID serverB serverY clientX : Bytes) : Bytes :=
  ntorHMAC N ntorTMac
    (verify ++ nodeID ++ serverB ++ serverY ++ clientX ++ ascii ntorProtoID ++ ascii ntorServerStr)

/-- `ntorDerive`: the key seed and the verification value. -/
def ntorDerive (secretInput : Bytes) : Bytes × Bytes :=
  (ntorHMAC N ntorTKey secretInput, ntorHMAC N ntorTVerify secretInput)

/-- Check the server's answer and derive the circuit keys and the circuit nonce. -/
def ntorProcessResponseWithNonce (response clientPrivate serverNtorKey serverNodeID : Bytes) : Res (Bytes × Bytes) :=
  if response.length ≠ ntorResponseLen then
    err s!"invalid ntor response length: {response.length}, expected {ntorResponseLen}"
  else if clientPrivate.length ≠ 32 then
    err s!"invalid client ephemeral private key length: {clientPrivate.length}"
  else if serverNtorKey.length ≠ ntorOnionKeyLen then
    err s!"invalid ntor onion key length: {serverNtorKey.length}"
  else if serverNodeID.length ≠ ntorNodeIDLen then
    err s!"invalid ntor NODEID length: {serverNodeID.length}, expected {ntorNodeIDLen}"
  else do
    let serverY := copy32 (← sliceOf response 0 32)
    let auth := copy32 (← sliceOf response 32 64)
    let clientX := copy32 clientPrivate
    let serverB := copy32 serverNtorKey
    if isAllZero serverY.toList then
      err "ntor server ephemeral public key is the identity point"
    else
      let sharedXY := N.scalarMult clientX serverY
      let sharedXB := N.scalarMult clientX serverB
      if isAllZero sharedXY.toList || isAllZero sharedXB.toList then
        err "ntor EXP() produced the identity point"
      else
        let clientPub := N.scalarBaseMult clientX
        let secretInput := ntorBuildSecretInput sharedXY.toList sharedXB.toList serverNodeID
          serverNtorKey clientPub.toList serverY.toList
        let verify := (ntorDerive N secretInput).2
        let expectedAuth := ntorComputeAuth N verify serverNodeID serverNtorKey serverY.toList clientPub.toList
        if auth.toList ≠ expectedAuth then
          err "ntor AUTH verification failed: server authentication invalid"
        else splitNtorExpanded (ntorExpandKeyMaterial N secretInput)

/-! ### The relay's side -/

def ntorHandshakeLen : ℕ := 84

/-- `ntorServerHandshakeCore`, with the relay's ephemeral key `y`. -/
def ntorServerHandshakeCore (clientHandshake serverNtorPrivate serverNodeID : Bytes) (y : Key32) :
    Res (Bytes × Bytes) :=
  if clientHandshake.length ≠ ntorHandshakeLen then
    err s!"invalid client handshake length: {clientHandshake.length}, expected {ntorHandshakeLen}"
  else if serverNtorPrivate.length ≠ 32 then
    err s!"invalid server ntor key length: {serverNtorPrivate.length}"
  else if serverNodeID.length ≠ ntorNodeIDLen then
    err s!"invalid ntor NODEID length: {serverNodeID.length}, expected {ntorNodeIDLen}"
  else do
    let clientNodeID ← sliceOf clientHandshake 0 20
    let clientKeyID ← sliceOf clientHandshake 20 52
    let clientPK := copy32 (← sliceOf clientHandshake 52 84)
    if clientNodeID ≠ serverNodeID then err "ntor NODEID mismatch"
    else
      let serverB := copy32 serverNtorPrivate
      let serverPublic := N.scalarBaseMult serverB
      if clientKeyID ≠ serverPublic.toList then err "ntor KEYID mismatch"
      else
        let serverY := N.scalarBaseMult y
        let sharedXY := N.scalarMult y clientPK
        let sharedXB := N.scalarMult serverB clientPK
        if isAllZero sharedXY.toList || isAllZero sharedXB.toList then
          err "ntor EXP() produced the identity point"
        else
          let secretInput := ntorBuildSecretInput sharedXY.toList sharedXB.toList serverNodeID
            serverPublic.toList clientPK.toList serverY.toList
          let verify := (ntorDerive N secretInput).2
          let auth := ntorComputeAuth N verify serverNodeID serverPublic.toList serverY.toList clientPK.toList
          return (serverY.toList ++ auth, ntorExpandKeyMaterial N secretInput)

/-- `NtorServerHandshakeWithNonce`: the answer, the circuit keys and the circuit nonce. -/
def ntorServerHandshakeWithNonce (clientHandshake serverNtorPrivate serverNodeID : Bytes)
    (y : Key32) : Res (Bytes × Bytes × Bytes) := do
  let (resp, expanded) ← ntorServerHandshakeCore N clientHandshake serverNtorPrivate serverNodeID y
  let (km, cn) ← splitNtorExpanded expanded
  return (resp, km, cn)

lemma length_of_ntorServerHandshakeCore {N : NtorPrimitives}
    {clientHandshake serverNtorPrivate serverNodeID resp expanded : Bytes} {y : Key32}
    (h : ntorServerHandshakeCore N clientHandshake serverNtorPrivate serverNodeID y =
      .ok (resp, expanded)) : resp.length = 64 := by
  simp only [ntorServerHandshakeCore, ite_err_eq_ok] at h
  obtain ⟨-, -, -, h⟩ := h
  obtain ⟨nodeID, -, h⟩ := bind_eq_ok.1 h
  obtain ⟨keyID, -, h⟩ := bind_eq_ok.1 h
  obtain ⟨pk, -, h⟩ := bind_eq_ok.1 h
  simp only [ite_err_eq_ok] at h
  obtain ⟨-, -, -, h⟩ := h
  cases h
  simp [ntorComputeAuth, ntorHMAC]

/-! ### No panics -/

lemma splitNtorExpanded_safe {expanded : Bytes} : (splitNtorExpanded expanded).Safe := by
  unfold splitNtorExpanded
  split
  next => exact safe_err
  next h =>
  have hlen : ntorExpandedLen ≤ expanded.length := Nat.le_of_not_lt h
  have hkm : ntorKeyMaterialLen ≤ ntorExpandedLen := by decide
  refine Res.Safe.bind (sliceOf_safe (Nat.zero_le _) (Nat.le_trans hkm hlen)) fun km _ => ?_
  exact Res.Safe.bind (sliceOf_safe hkm hlen) fun cn _ => safe_pure

lemma ntorProcessResponseWithNonce_safe
    (response clientPrivate serverNtorKey serverNodeID : Bytes) :
    (ntorProcessResponseWithNonce N response clientPrivate serverNtorKey serverNodeID).Safe := by
  refine Res.Safe.guard fun hlen => ?_
  refine Res.Safe.guard fun _ => ?_
  split
  next => exact safe_err
  refine Res.Safe.guard fun _ => ?_
  have hresp : 64 ≤ response.length := by
    have : response.length = 64 := Decidable.not_not.1 hlen
    omega
  refine Res.Safe.bind (sliceOf_safe (by omega) (by omega)) fun y _ => ?_
  refine Res.Safe.bind (sliceOf_safe (by omega) hresp) fun auth _ => ?_
  dsimp only
  refine Res.Safe.guard fun _ => ?_
  split
  next => exact safe_err
  exact Res.Safe.guard fun _ => splitNtorExpanded_safe

end GoTor.Crypto
