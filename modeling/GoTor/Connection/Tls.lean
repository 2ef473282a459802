import GoTor.Protocol.Certs

/-!
# The TLS connection to a relay

What `Connect` checks about the certificates a relay presents in the TLS handshake.  Relays
have self-signed certificates, so no chain is verified.
-/

namespace GoTor.Connection

open GoTor.Lib GoTor.Protocol

/-- The part of `Config` that decides about a handshake. -/
structure Config where
  /-- The relay's Ed25519 identity, empty if unknown. -/
  expectedIdentity : Bytes := []
  /-- The fingerprint of the relay's RSA identity, empty if unknown. -/
  expectedFingerprint : String := ""
  requireCERTS : Bool := false
  deriving DecidableEq

variable (L : CertsLib) (now : Int)

def verifyTorRelayCertificate (rawCerts : List Bytes) : Except String Unit :=
  match rawCerts with
  | [] => .error "no certificates provided"
  | raw :: _ => do
    let cert ← wrapError "failed to parse certificate" (L.parseX509 raw)
    if now < cert.notBefore then .error "certificate not yet valid"
    else if now > cert.notAfter then .error "certificate has expired"
    else if cert.publicKey = none then .error "certificate has no public key"
    else if !cert.knownSignatureAlgorithm then
      .error "certificate has unknown signature algorithm"
    else .ok ()

/-- `verifyRelayIdentityPinning`: the certificate has a key, which is not compared with the
identity. -/
def verifyRelayIdentityPinning (rawCerts : List Bytes) (expectedIdentity : Bytes) : Except String Unit :=
  if expectedIdentity.length = 0 then .ok ()
  else
    match rawCerts with
    | [] => .error "no certificates provided for pinning verification"
    | raw :: _ => do
      let cert ← wrapError "failed to parse certificate for pinning" (L.parseX509 raw)
      match cert.publicKey with
      | none => .error "certificate contains no public key"
      | some (.rsa key) =>
        if key.e = 0 then .error "certificate RSA public key is malformed" else .ok ()
      | some (.ecdsa complete) =>
        if !complete then .error "certificate ECDSA public key is malformed" else .ok ()
      | some (.other typeName) => .error s!"unsupported public key type: {typeName}"

/-- `VerifyConnection` of the TLS configuration that `Connect` makes. -/
def verifyTorRelayConnection (cfg : Config) (rawCerts : List Bytes) : Except String Unit := do
  verifyTorRelayCertificate L now rawCerts
  if cfg.expectedIdentity.length > 0 ∨ cfg.expectedFingerprint ≠ "" then
    verifyRelayIdentityPinning L rawCerts cfg.expectedIdentity
  else .ok ()

end GoTor.Connection
