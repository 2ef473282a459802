import GoTor.Crypto.Tor1

/-!
# The relay's side of a circuit's encryption

What a relay keeps for one circuit: streams and running digests of both directions (tor1) or
a pair of CGO directions.  `peelInbound` always advances the relay's layer and says whether
the cell is for this relay; `encryptOutbound` sends a cell of the relay's own towards the
client, and `wrapOutbound` only adds the relay's layer to a passing one.
-/

namespace GoTor.Relay

open GoTor.Lib GoTor.Crypto

/-- `circuitCrypto`: either the four tor1 fields are set or the CGO pair is. -/
inductive CircuitCrypto
  | tor1 (fwdCipher bwdCipher : Stream) (fwdDigest bwdDigest : Bytes)
  | cgo (pair : CGOPair)
  deriving DecidableEq

/-- The link command of a relay cell. -/
inductive LinkCmd
  | relay
  | relayEarly
  deriving DecidableEq

/-- `cgoAD`: the associated data is the command's number. -/
def cgoAD : LinkCmd → UInt8
  | .relay => 3
  | .relayEarly => 9

def newCircuitCrypto (keyMaterial : Bytes) : Except String CircuitCrypto :=
  if keyMaterial.length = cgoKeyMaterialLen then do
    let pair ← newCGOPairFromKeyMaterial keyMaterial
    return .cgo pair
  else if keyMaterial.length = 72 then
    .ok (.tor1 { key := slice keyMaterial 40 56, iv := Block.copyOf [] }
      { key := slice keyMaterial 56 72, iv := Block.copyOf [] }
      (slice keyMaterial 0 20) (slice keyMaterial 20 40))
  else
    .error s!"key material length {keyMaterial.length}, want 72 (tor1) or {cgoKeyMaterialLen} (CGO)"

namespace CircuitCrypto

variable (P : Primitives)

/-- `peelInboundWithAD`.  The last component is `some digest` exactly when the cell is for
this relay. -/
def peelInbound (cc : CircuitCrypto) (payload : Bytes) (ad : UInt8) :
    Except String (CircuitCrypto × Bytes × Option Bytes) :=
  if payload.length ≠ 509 then .error "invalid inbound payload"
  else match cc with
  | .cgo pair => do
    let (fwd, out, tag) ← pair.fwd.relayForward P.aes ad payload
    return (.cgo { pair with fwd }, out, tag)
  | .tor1 fwdCipher bwdCipher fwdDigest bwdDigest =>
    let (fwdCipher, out) := fwdCipher.xorKeyStream P.aes payload
    if !recognizedZero out then .ok (.tor1 fwdCipher bwdCipher fwdDigest bwdDigest, out, none)
    else
      let written := fwdDigest ++ zeroDigest out
      let sum := (P.sha1 written).toList
      if sum.take 4 ≠ digestField out then
        .ok (.tor1 fwdCipher bwdCipher fwdDigest bwdDigest, out, none)
      else .ok (.tor1 fwdCipher bwdCipher written bwdDigest, out, some sum)

/-- `encryptOutbound`, with the SENDME tag. -/
def encryptOutbound (cc : CircuitCrypto) (payload : Bytes) : Except String (CircuitCrypto × Bytes × Bytes) :=
  if payload.length ≠ 509 then .error "invalid outbound payload"
  else match cc with
  | .cgo pair => do
    let (back, out, tag) ← pair.back.relayOriginate P.aes (cgoAD .relay) payload
    return (.cgo { pair with back }, out, tag)
  | .tor1 fwdCipher bwdCipher fwdDigest bwdDigest =>
    let out := zeroDigest (overwrite 1 [0, 0] payload)
    let written := bwdDigest ++ out
    let sum := (P.sha1 written).toList
    let (bwdCipher, out) := bwdCipher.xorKeyStream P.aes (overwrite 5 (sum.take 4) out)
    .ok (.tor1 fwdCipher bwdCipher fwdDigest written, out, sum)

def wrapOutbound (cc : CircuitCrypto) (payload : Bytes) (ad : UInt8) : Except String (CircuitCrypto × Bytes) :=
  if payload.length ≠ 509 then .error "invalid outbound payload"
  else match cc with
  | .cgo pair => do
    let (back, out) ← pair.back.relayBackward P.aes ad payload
    return (.cgo { pair with back }, out)
  | .tor1 fwdCipher bwdCipher fwdDigest bwdDigest =>
    let (bwdCipher, out) := bwdCipher.xorKeyStream P.aes payload
    .ok (.tor1 fwdCipher bwdCipher fwdDigest bwdDigest, out)

/-! ### Lengths -/

variable {P} {cc cc' : CircuitCrypto} {payload out tag : Bytes} {ad : UInt8}

lemma length_of_encryptOutbound (h : cc.encryptOutbound P payload = .ok (cc', out, tag)) : out.length = 509 := by
  unfold encryptOutbound at h
  split at h
  · cases h
  next hlen =>
  have hlen : payload.length = 509 := Decidable.not_not.1 hlen
  cases cc with
  | cgo pair =>
    obtain ⟨r, horig, hret⟩ := bind_eq_ok.1 h
    obtain ⟨back, out', tag', hok, hout, -⟩ := CGODir.relayOriginate_ok P.aes pair.back _ hlen
    cases horig.symm.trans hok
    obtain ⟨-, heq⟩ := Prod.mk.inj (Except.ok.inj hret)
    cases heq
    exact hout
  | tor1 fwdCipher bwdCipher fwdDigest bwdDigest =>
    obtain ⟨-, heq⟩ := Prod.mk.inj (Except.ok.inj h)
    cases heq
    have hclear : (overwrite 1 [0, 0] payload).length = 509 := by
      rw [length_overwrite (by simp [hlen]), hlen]
    have hzero : (zeroDigest (overwrite 1 [0, 0] payload)).length = 509 := by
      rw [zeroDigest, length_overwrite (by simp [hclear]), hclear]
    refine (Stream.length_xorKeyStream bwdCipher _).trans ?_
    rw [length_overwrite (by simp [hzero]), hzero]

lemma length_of_wrapOutbound (h : cc.wrapOutbound P payload ad = .ok (cc', out)) : out.length = 509 := by
  unfold wrapOutbound at h
  split at h
  · cases h
  next hlen =>
  have hlen : payload.length = 509 := Decidable.not_not.1 hlen
  cases cc with
  | cgo pair =>
    obtain ⟨r, hwrap, hret⟩ := bind_eq_ok.1 h
    obtain ⟨back, out', hok, hout, -⟩ := pair.back.relayBackward_ok P.aes ad hlen
    cases hwrap.symm.trans hok
    cases hret
    exact hout
  | tor1 fwdCipher bwdCipher fwdDigest bwdDigest =>
    cases h
    exact (Stream.length_xorKeyStream bwdCipher payload).trans hlen

end CircuitCrypto

end GoTor.Relay
