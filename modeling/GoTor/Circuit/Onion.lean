import GoTor.Crypto.Tor1

/-!
# The client's onion

A client circuit keeps for every hop the layer it shares with that relay: a pair of AES-CTR
streams and running digests (tor1), or a pair of CGO directions.  `encryptOnion` originates a
cell at the destination hop and adds the layers of the hops before it, from the inside out;
`decryptOnion` takes the layers off from the guard on and stops at the hop that recognises
the cell.  Both run under the circuit's mutex, so each is one step; a failing call may have
advanced some hops already, which is why the hops are returned beside the result.
-/

namespace GoTor.Circuit

open GoTor.Lib GoTor.Crypto

/-- The cryptographic state of a hop.  A nil cipher or digest is `none`. -/
structure Hop where
  forwardCipher : Option Stream := none
  backwardCipher : Option Stream := none
  forwardDigest : Option Bytes := none
  backwardDigest : Option Bytes := none
  cgo : Option CGOPair := none
  /-- `RendCircNonce`: the circuit nonce of the hop's handshake. -/
  rendCircNonce : Bytes := []
  deriving DecidableEq

def deriveHopFromKeyMaterial (requestCGO : Bool) (keyMaterial : Bytes) : Except String Hop :=
  if requestCGO then do
    let pair ← newCGOPairFromKeyMaterial keyMaterial
    return { cgo := some pair }
  else if keyMaterial.length < 72 then
    .error s!"insufficient key material: got {keyMaterial.length} bytes, need 72"
  else
    .ok { forwardCipher := some { key := slice keyMaterial 40 56, iv := Block.copyOf [] }
          backwardCipher := some { key := slice keyMaterial 56 72, iv := Block.copyOf [] }
          forwardDigest := some (slice keyMaterial 0 20)
          backwardDigest := some (slice keyMaterial 20 40) }

variable (P : Primitives)

/-! ### Outbound -/

/-- The tor1 digest step of the destination hop: the digest field is filled in and the whole
running digest is the tag. -/
def Hop.stampForward (hop : Hop) (out : Bytes) : Hop × Bytes × Option Bytes :=
  match hop.forwardDigest with
  | some written =>
    if 9 ≤ out.length then
      let written' := written ++ zeroDigest out
      let sum := (P.sha1 written').toList
      ({ hop with forwardDigest := some written' }, overwrite 5 (sum.take 4) out, some sum)
    else (hop, out, none)
  | none => (hop, out, none)

def Hop.maskForward (hop : Hop) (out : Bytes) : Hop × Bytes :=
  match hop.forwardCipher with
  | some cipher =>
    let r := cipher.xorKeyStream P.aes out
    ({ hop with forwardCipher := some r.1 }, r.2)
  | none => (hop, out)

/-- The destination hop's part of `encryptOnion`. -/
def Hop.originate (ad : UInt8) (hop : Hop) (payload : Bytes) : Except String (Hop × Bytes × Option Bytes) :=
  match hop.cgo with
  | some pair =>
    if payload.length ≠ cgoMsgLen then .error s!"CGO payload length {payload.length}"
    else do
      let (fwd, out, tag) ← pair.fwd.clientOriginate P.aes ad payload
      return ({ hop with cgo := some { pair with fwd } }, out, some tag)
  | none =>
    let (hop, out, tag) := hop.stampForward P payload
    let (hop, out) := hop.maskForward P out
    .ok (hop, out, tag)

def Hop.passForward (ad : UInt8) (hop : Hop) (out : Bytes) : Except String (Hop × Bytes) :=
  match hop.cgo with
  | some pair => do
    let (fwd, out) ← pair.fwd.clientForward P.aes ad out
    return ({ hop with cgo := some { pair with fwd } }, out)
  | none => .ok (hop.maskForward P out)

/-- The loop `for i := dest - 1; i >= 0; i--` over the hops before the destination. -/
def wrapHops (ad : UInt8) : List Hop → Bytes → List Hop × Except String Bytes
  | [], out => ([], .ok out)
  | hop :: hops, out =>
    match wrapHops ad hops out with
    | (hops, .error e) => (hop :: hops, .error e)
    | (hops, .ok out) =>
      match hop.passForward P ad out with
      | .error e => (hop :: hops, .error e)
      | .ok (hop, out) => (hop :: hops, .ok out)

/-- The onion for hop `dest`, with the SENDME tag. -/
def encryptOnion (hops : List Hop) (ad : UInt8) (dest : ℤ) (payload : Bytes) :
    List Hop × Except String (Bytes × Option Bytes) :=
  if dest < 0 then (hops, .error s!"onion dest hop {dest} out of range")
  else match hops.drop dest.toNat with
  | [] => (hops, .error s!"onion dest hop {dest} out of range")
  | destHop :: behind =>
    match destHop.originate P ad payload with
    | .error e => (hops, .error e)
    | .ok (destHop, out, tag) =>
      let (front, r) := wrapHops P ad (hops.take dest.toNat) out
      (front ++ destHop :: behind, r.map fun out => (out, tag))

/-! ### Inbound -/

/-- `tor1Recognized`: the digest is advanced only when the cell is recognised. -/
def Hop.tor1Recognized (hop : Hop) (payload : Bytes) : Hop × Option Bytes :=
  match hop.backwardDigest with
  | none => (hop, none)
  | some written =>
    if payload.length < 11 then (hop, none)
    else if !recognizedZero payload then (hop, none)
    else
      let written' := written ++ zeroDigest payload
      let sum := (P.sha1 written').toList
      if sum.take 4 ≠ digestField payload then (hop, none)
      else ({ hop with backwardDigest := some written' }, some sum)

def Hop.maskBackward (hop : Hop) (out : Bytes) : Hop × Bytes :=
  match hop.backwardCipher with
  | some cipher =>
    let r := cipher.xorKeyStream P.aes out
    ({ hop with backwardCipher := some r.1 }, r.2)
  | none => (hop, out)

/-- One turn of the loop of `decryptOnion`. -/
def Hop.openBackward (ad : UInt8) (hop : Hop) (out : Bytes) : Except String (Hop × Bytes × Option Bytes) :=
  match hop.cgo with
  | some pair => do
    let (back, out, tag) ← pair.back.clientBackward P.aes ad out
    return ({ hop with cgo := some { pair with back } }, out, tag)
  | none =>
    let (hop, out) := hop.maskBackward P out
    let (hop, tag) := hop.tor1Recognized P out
    .ok (hop, out, tag)

/-- What `decryptOnion` returns: the payload, the hop that recognised it (`none` for `-1`),
its tag, and whether that hop speaks the v1 format. -/
structure Opened where
  out : Bytes
  hopIdx : Option ℕ
  tag : Option Bytes
  v1 : Bool
  deriving DecidableEq

/-- The loop of `decryptOnion`, from hop `i` on. -/
def decryptHops (ad : UInt8) : ℕ → List Hop → Bytes → List Hop × Except String Opened
  | _, [], out => ([], .ok ⟨out, none, none, false⟩)
  | i, hop :: hops, out =>
    match hop.openBackward P ad out with
    | .error e => (hop :: hops, .error e)
    | .ok (hop', out, some tag) => (hop' :: hops, .ok ⟨out, some i, some tag, hop.cgo.isSome⟩)
    | .ok (hop', out, none) =>
      let (hops, r) := decryptHops ad (i + 1) hops out
      (hop' :: hops, r)

def decryptOnion (hops : List Hop) (ad : UInt8) (payload : Bytes) : List Hop × Except String Opened :=
  decryptHops P ad 0 hops payload

end GoTor.Circuit
