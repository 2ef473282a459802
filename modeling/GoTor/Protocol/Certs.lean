import GoTor.Cell.Link
import GoTor.Lib.Result
import GoTor.Lib.Text

/-!
# The CERTS cell

Parsing and checking of the certificates a relay sends after VERSIONS: X.509 certificates of
its RSA identity (types 1 to 3), Ed25519 certificates (types 4 to 6), and the certificate by
which the RSA identity vouches for the Ed25519 identity (type 7).  Times are nanoseconds since
the Unix epoch.
-/

namespace GoTor.Protocol

open GoTor.Lib GoTor.Cell

/-! ### Certificates -/

abbrev CertType := UInt8

namespace CertType

def tlsLink : CertType := 1
def rsaID : CertType := 2
def rsaAuth : CertType := 3
def ed25519Signing : CertType := 4
def ed25519TLSLink : CertType := 5
def ed25519Auth : CertType := 6
def ed25519Identity : CertType := 7
def ntorOnionKeyCrossCert : CertType := 10

def string (ct : CertType) : String :=
  if ct = tlsLink then "TLS_LINK"
  else if ct = rsaID then "RSA_ID"
  else if ct = rsaAuth then "RSA_AUTH"
  else if ct = ed25519Signing then "ED25519_SIGNING"
  else if ct = ed25519TLSLink then "ED25519_TLS_LINK"
  else if ct = ed25519Auth then "ED25519_AUTH"
  else if ct = ed25519Identity then "ED25519_IDENTITY"
  else if ct = ntorOnionKeyCrossCert then "NTOR_ONION_KEY_CROSSCERT"
  else s!"UNKNOWN({ct})"

end CertType

open CertType

structure RSAPublicKey where
  n : ℕ
  e : ℕ
  deriving DecidableEq

inductive PublicKey
  | rsa (key : RSAPublicKey)
  /-- Whether the curve and the point are set. -/
  | ecdsa (complete : Bool)
  | other (typeName : String)
  deriving DecidableEq

structure X509Certificate where
  notBefore : Int
  notAfter : Int
  publicKey : Option PublicKey
  /-- `SignatureAlgorithm` is not `UnknownSignatureAlgorithm`. -/
  knownSignatureAlgorithm : Bool := true
  deriving DecidableEq

structure Ed25519Extension where
  extType : UInt8
  flags : UInt8
  extData : Bytes
  deriving DecidableEq

structure Ed25519Certificate where
  version : UInt8 := 0
  /-- The type inside the certificate. -/
  certType : UInt8
  expiresAt : Int
  certKeyType : UInt8 := 0
  certifiedKey : Bytes
  extensions : List Ed25519Extension := []
  signature : Bytes
  /-- The bytes on the wire that the signature covers. -/
  signedBytes : Bytes
  deriving DecidableEq

structure Certificate where
  /-- The type under which the certificate is listed. -/
  certType : CertType
  certBody : Bytes
  x509Cert : Option X509Certificate := none
  ed25519Cert : Option Ed25519Certificate := none
  deriving DecidableEq

/-- What the checks call outside. -/
structure CertsLib where
  parseX509 : Bytes → Except String X509Certificate
  marshalPKCS1PublicKey : RSAPublicKey → Bytes
  sha1 : Bytes → Vector UInt8 20
  sha256 : Bytes → Vector UInt8 32
  /-- `rsa.VerifyPKCS1v15` without a hash identifier. -/
  verifyPKCS1v15 : RSAPublicKey → (digest sig : Bytes) → Except String Unit
  ed25519Verify : (key msg sig : Bytes) → Bool
  /-- A time in a message. -/
  formatTime : Int → String

/-- `time.Unix(hours*3600, 0)`. -/
def hoursToTime (hours : ℕ) : Int := hours * 3600 * 1000000000

def rsaEd25519CrossCertPrefix : Bytes := ascii "Tor TLS RSA/Ed25519 cross-certificate"

def rsaEd25519CrossCertSignedLen : ℕ := 36

def extTypeSignedWithEd25519Key : UInt8 := 4

/-! ### Parsing -/

def parseRSAEd25519CrossCert (data : Bytes) : Except String Ed25519Certificate :=
  if data.length < 37 then .error s!"cross-cert too short: {data.length}"
  else
    let sigLen := (data.getD 36 0).toNat
    if data.length < 37 + sigLen then
      .error s!"cross-cert truncated: need {37 + sigLen}, have {data.length}"
    else .ok
      { certType := 7
        expiresAt := hoursToTime (natOfBytes (slice data 32 36))
        certifiedKey := slice data 0 32
        signature := slice data 37 (37 + sigLen)
        signedBytes := data.take rsaEd25519CrossCertSignedLen }

/-- The extensions from `offset` on, and the offset behind them. -/
def parseExtensions (data : Bytes) : (n offset : ℕ) → Except String (List Ed25519Extension × ℕ)
  | 0, offset => .ok ([], offset)
  | n + 1, offset =>
    if offset + 4 > data.length then .error s!"truncated extension header at offset {offset}"
    else
      let extLen := (uint16At data offset).toNat
      let body := offset + 2
      if body + 2 + extLen > data.length then
        .error s!"truncated extension data: ExtLen={extLen} at offset {body}"
      else do
        let (exts, offset) ← parseExtensions data n (body + 2 + extLen)
        return (⟨data.getD body 0, data.getD (body + 1) 0, slice data (body + 2) (body + 2 + extLen)⟩ :: exts, offset)

def parseEd25519Certificate (data : Bytes) : Except String Ed25519Certificate :=
  if data.length < 40 then .error s!"Ed25519 certificate too short: {data.length} bytes"
  else
    let version := data.getD 0 0
    if version ≠ 1 then .error s!"unsupported Ed25519 certificate version: {version}"
    else do
      let (extensions, offset) ← parseExtensions data (data.getD 39 0).toNat 40
      if offset + 64 > data.length then .error s!"truncated signature at offset {offset}"
      else if offset + 64 ≠ data.length then
        .error s!"Ed25519 certificate has {data.length - offset - 64} trailing bytes after signature"
      else return {
        version
        certType := data.getD 1 0
        expiresAt := hoursToTime (natOfBytes (slice data 2 6))
        certKeyType := data.getD 6 0
        certifiedKey := slice data 7 39
        extensions
        signature := slice data offset (offset + 64)
        signedBytes := data.take offset }

variable (L : CertsLib)

/-- `fmt.Errorf("label: %w", err)` around a call. -/
def wrapError {α : Type} (label : String) : Except String α → Except String α
  | .error e => .error s!"{label}: {e}"
  | .ok a => .ok a

def parseCertificateBody (cert : Certificate) : Except String Certificate :=
  if cert.certType = .tlsLink ∨ cert.certType = .rsaID ∨ cert.certType = .rsaAuth then do
    let x ← wrapError s!"failed to parse X.509 certificate type {string cert.certType}"
      (L.parseX509 cert.certBody)
    return { cert with x509Cert := some x }
  else if cert.certType = .ed25519Identity then do
    let cross ← wrapError "failed to parse RSA→Ed25519 cross-cert" (parseRSAEd25519CrossCert cert.certBody)
    return { cert with ed25519Cert := some cross }
  else if cert.certType = .ed25519Signing ∨ cert.certType = .ed25519TLSLink ∨ cert.certType = .ed25519Auth then do
    let ed ← wrapError s!"failed to parse Ed25519 certificate type {string cert.certType}"
      (parseEd25519Certificate cert.certBody)
    return { cert with ed25519Cert := some ed }
  else .error s!"unknown certificate type: {cert.certType}"

/-- The types of Ed25519 certificates, whose parse errors refuse the cell. -/
def CertType.isEd25519 (ct : CertType) : Bool :=
  ct = .ed25519Signing || ct = .ed25519TLSLink || ct = .ed25519Auth || ct = .ed25519Identity

def parseEntry (i : ℕ) (certType : CertType) (certBody : Bytes) : Except String Certificate :=
  match parseCertificateBody L { certType, certBody } with
  | .ok cert => .ok cert
  | .error e =>
    if certType.isEd25519 then
      .error s!"failed to parse CERTS entry {i} ({string certType}): {e}"
    else .ok { certType, certBody }

/-- The entries from `i` on, which start at `offset`. -/
def parseEntries (payload : Bytes) : (n i offset : ℕ) → Except String (List Certificate)
  | 0, _, _ => .ok []
  | n + 1, i, offset =>
    if offset + 3 > payload.length then
      .error s!"truncated certificate header at offset {offset}"
    else
      let certType := payload.getD offset 0
      let certLen := (uint16At payload (offset + 1)).toNat
      let body := offset + 3
      if body + certLen > payload.length then
        .error s!"truncated certificate body: expected {certLen} bytes at offset {body}"
      else do
        let cert ← parseEntry L i certType (slice payload body (body + certLen))
        let certs ← parseEntries payload n (i + 1) (body + certLen)
        return cert :: certs

/-- `ParseCERTSCell`: the certificates in the order of the cell. -/
def parseCERTSCell (c : Cell) : Except String (List Certificate) :=
  if c.command ≠ .certs then .error s!"not a CERTS cell: got {Command.string c.command}"
  else if c.payload.length < 1 then
    .error s!"CERTS cell payload too short: {c.payload.length} bytes"
  else parseEntries L c.payload (c.payload.getD 0 0).toNat 0 1

/-! ### Encoding -/

def unixHoursUint32 (t : Int) : ℕ := min (t / 1000000000 / 3600).toNat (2 ^ 32 - 1)

namespace Ed25519Certificate

variable (e : Ed25519Certificate)

/-- `reconstructSignedBytes`: the fields that a signature covers. -/
def reconstructSignedBytes : Bytes :=
  [e.version, e.certType] ++ bytesOfNat 4 (unixHoursUint32 e.expiresAt) ++ [e.certKeyType] ++
    e.certifiedKey ++ [UInt8.ofNat (min e.extensions.length 255)] ++
    e.extensions.flatMap fun ext =>
      bytesOfNat 2 (min ext.extData.length 65535) ++ [ext.extType, ext.flags] ++ ext.extData

def signedMessage : Bytes :=
  if e.signedBytes.length > 0 then e.signedBytes else e.reconstructSignedBytes

/-- `reconstructRSAEd25519CrossCertFields`. -/
def reconstructCrossCertFields : Bytes :=
  if e.certifiedKey.length ≠ 32 then []
  else e.certifiedKey ++ bytesOfNat 4 (unixHoursUint32 e.expiresAt)

/-- `SignedWithEd25519Key`: the key in the first such extension. -/
def signedWithEd25519Key : Option Bytes :=
  (e.extensions.find? fun ext =>
    ext.extType = extTypeSignedWithEd25519Key && ext.extData.length = 32).map (·.extData)

/-! ### Checks -/

def verifySignature (signingKey : Bytes) : Except String Unit :=
  if signingKey.length ≠ 32 then
    .error s!"invalid signing key length: {signingKey.length}, expected 32"
  else if e.signature.length ≠ 64 then
    .error s!"invalid signature length: {e.signature.length}, expected 64"
  else if e.signedWithEd25519Key.any (· ≠ signingKey) then
    .error "signed-with-ed25519-key extension does not match verification key"
  else if !L.ed25519Verify signingKey e.signedMessage e.signature then
    .error "Ed25519 signature verification failed"
  else .ok ()

end Ed25519Certificate

/-- `FindCertificate`: the first certificate listed under the type. -/
def findCertificate (certs : List Certificate) (ct : CertType) : Option Certificate :=
  certs.find? fun cert => cert.certType = ct

def X509Certificate.rsaKey (x : X509Certificate) : Option RSAPublicKey :=
  match x.publicKey with
  | some (.rsa key) => some key
  | _ => none

def hexUpper (b : Bytes) : String :=
  String.ofList ((hexEncode b).map fun d => (Char.ofNat d.toNat).toUpper)

def rsaFingerprint (key : RSAPublicKey) : String :=
  hexUpper (L.sha1 (L.marshalPKCS1PublicKey key)).toList

variable (certs : List Certificate)

def ed25519IdentityKey : Except String Bytes :=
  let missing : Except String Bytes := .error "missing Ed25519 identity certificate"
  let fromType4 : Except String Bytes :=
    match (findCertificate certs .ed25519Signing).bind (·.ed25519Cert) with
    | some ed =>
      match ed.signedWithEd25519Key with
      | some key => if key.length = 32 then .ok key else missing
      | none => missing
    | none => missing
  match (findCertificate certs .ed25519Identity).bind (·.ed25519Cert) with
  | some cross =>
    if cross.certifiedKey.length ≠ 32 then
      .error s!"invalid Ed25519 certified key length: {cross.certifiedKey.length}"
    else .ok cross.certifiedKey
  | none => fromType4

/-- The RSA part of `ValidateRelayIdentity`. -/
def validateRSAIdentity (expectedRSAFingerprint : String) : Except String Unit :=
  if expectedRSAFingerprint = "" then .ok ()
  else
    match (findCertificate certs .rsaID).bind (·.x509Cert) with
    | none => .error "missing RSA identity certificate"
    | some x =>
      match x.rsaKey with
      | none => .error "RSA identity cert does not contain RSA public key"
      | some key =>
        let fingerprintHex := rsaFingerprint L key
        if fingerprintHex ≠ expectedRSAFingerprint then
          .error s!"RSA identity mismatch: expected {expectedRSAFingerprint}, got {fingerprintHex}"
        else .ok ()

def validateRelayIdentity (expectedRSAFingerprint : String) (expectedEd25519Identity : Bytes) :
    Except String Unit := do
  validateRSAIdentity L certs expectedRSAFingerprint
  if expectedEd25519Identity.length > 0 then
    if expectedEd25519Identity.length ≠ 32 then
      .error s!"invalid expected Ed25519 identity length: {expectedEd25519Identity.length}"
    else
      let identityKey ← ed25519IdentityKey certs
      if identityKey ≠ expectedEd25519Identity then .error "Ed25519 identity mismatch"
      else .ok ()
  else .ok ()

def validateX509Expiration (now : Int) (ct : CertType) (x : X509Certificate) : Except String Unit :=
  if now > x.notAfter then
    .error s!"X.509 certificate type {string ct} expired at {L.formatTime x.notAfter}"
  else if now < x.notBefore then
    .error <| s!"X.509 certificate type {string ct} not yet valid " ++
      s!"(valid from {L.formatTime x.notBefore})"
  else .ok ()

def validateEd25519Expiration (now : Int) (ct : CertType) (ed : Ed25519Certificate) : Except String Unit :=
  if now > ed.expiresAt then
    .error s!"Ed25519 certificate type {string ct} expired at {L.formatTime ed.expiresAt}"
  else .ok ()

/-- The part of `ValidateExpiration` for one certificate. -/
def validateExpirationOf (now : Int) (cert : Certificate) : Except String Unit := do
  cert.x509Cert.elim (.ok ()) (validateX509Expiration L now cert.certType)
  cert.ed25519Cert.elim (.ok ()) (validateEd25519Expiration L now cert.certType)

def validateExpiration (now : Int) (certs : List Certificate) : Except String Unit :=
  certs.forM (validateExpirationOf L now)

def verifyRSAEd25519CrossCert (cross : Ed25519Certificate) (rsaPub : RSAPublicKey) : Except String Unit :=
  let fields :=
    if cross.signedBytes.length = 0 then cross.reconstructCrossCertFields else cross.signedBytes
  if cross.certifiedKey.length ≠ 32 then
    .error s!"invalid Ed25519 identity length: {cross.certifiedKey.length}"
  else if cross.signature.length < 128 then
    .error s!"RSA signature too short: {cross.signature.length}"
  else if fields.length ≠ rsaEd25519CrossCertSignedLen then
    .error s!"invalid type 7 signed fields length: {fields.length}"
  else
    L.verifyPKCS1v15 rsaPub (L.sha256 <| rsaEd25519CrossCertPrefix ++ fields).toList cross.signature

def verifyType7RSACrossCert (certs : List Certificate) : Except String Unit :=
  match findCertificate certs .ed25519Identity with
  | none => .ok ()
  | some type7 =>
    match type7.ed25519Cert with
    | none => .error "type 7 RSA→Ed25519 cross-cert was present but not parsed"
    | some cross =>
      match (findCertificate certs .rsaID).bind (·.x509Cert) with
      | none => .error "type 7 RSA→Ed25519 cross-cert requires type 2 RSA identity certificate"
      | some x =>
        match x.rsaKey with
        | none => .error "type 2 certificate does not contain RSA public key"
        | some rsaPub =>
          wrapError "type 7 RSA→Ed25519 cross-cert verification failed" (verifyRSAEd25519CrossCert L cross rsaPub)

/-- The check of a type 4 certificate: the identity of type 7 signs it. -/
def validateSigningCert (certs : List Certificate) (ed : Ed25519Certificate) : Except String Unit :=
  match (findCertificate certs .ed25519Identity).bind (·.ed25519Cert) with
  | none => .error <| "type 7 (Ed25519 identity) certificate is required to verify type 4 " ++
      "(Ed25519 signing key) but was not found"
  | some identity =>
    if identity.certifiedKey.length ≠ 32 then
      .error <| "type 7 (Ed25519 identity) certified key has invalid length: " ++
        toString identity.certifiedKey.length
    else
      wrapError "type 4 (Ed25519 signing key) signature verification failed against identity key"
        (ed.verifySignature L identity.certifiedKey)

/-- The check of a certificate that the signing key of type 4 signs. -/
def validateSignedCert (label : String) (certs : List Certificate) (ed : Ed25519Certificate) : Except String Unit :=
  match (findCertificate certs .ed25519Signing).bind (·.ed25519Cert) with
  | none => .error s!"{label} requires type 4 signing key cert"
  | some signing =>
    wrapError s!"{label} signature verification failed" (ed.verifySignature L signing.certifiedKey)

/-- The part of `ValidateSignatures` for one certificate. -/
def validateSignatureOf (certs : List Certificate) (cert : Certificate) : Except String Unit :=
  match cert.ed25519Cert with
  | none =>
    if cert.certType = .ed25519Signing ∨ cert.certType = .ed25519TLSLink ∨ cert.certType = .ed25519Auth then
      .error s!"{string cert.certType} certificate was present but not parsed"
    else .ok ()
  | some ed =>
    if cert.certType = .ed25519Signing then validateSigningCert L certs ed
    else if cert.certType = .ed25519TLSLink then
      validateSignedCert L "type 5 (Ed25519 TLS link)" certs ed
    else if cert.certType = .ed25519Auth then
      validateSignedCert L "type 6 (Ed25519 auth)" certs ed
    else .ok ()

def validateSignatures (certs : List Certificate) : Except String Unit := do
  verifyType7RSACrossCert L certs
  certs.forM (validateSignatureOf L certs)

end GoTor.Protocol
