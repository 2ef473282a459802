import GoTor.Lib.Base64
import GoTor.Lib.Scan
import GoTor.Onion.Address
import GoTor.Onion.FlowControl
import GoTor.Onion.PoWSeeds
import GoTor.Onion.Publish

/-!
# Onion service descriptors

`ParseDescriptor` reads a descriptor line by line, from the first line to the last, and each line
may overwrite what an earlier one has set.  `VerifyDescriptorSignature` checks the certificate
and the signature that were read; what the signature covers is the text up to the first
occurrence of `signature `.
-/

namespace GoTor.Onion

open GoTor.Lib

/-! ### Descriptors -/

structure LinkSpecifier where
  type : UInt8
  data : Bytes
  deriving DecidableEq

structure IntroductionPoint where
  linkSpecifiers : List LinkSpecifier := []
  onionKey : Bytes := []
  authKey : Bytes := []
  encKey : Bytes := []
  legacyKeyID : Bytes := []
  deriving DecidableEq

/-- `Descriptor`; the lifetime in nanoseconds, as an `int64`. -/
structure Descriptor where
  introPoints : List IntroductionPoint := []
  blindedPubkey : Bytes := []
  revisionCounter : ℕ := 0
  signature : Bytes := []
  descriptorSigningKeyCert : Bytes := []
  rawDescriptor : Bytes := []
  lifetime : ℤ := 0
  powParams : Option PoWParams := none
  flowControl : Option FlowControlParams := none
  deriving DecidableEq

def minute : ℤ := 60 * 10 ^ 9

/-! ### Texts in a descriptor -/

def withoutLineEnds (s : Bytes) : Bytes := s.filter fun c => c ≠ 10 ∧ c ≠ 13

def decodeDescriptorBase64 (s : Bytes) : Except String Bytes :=
  let s := withoutLineEnds (trimUnicodeSpace s)
  if s = [] then .error "empty base64"
  else
    let pad := (4 - s.length % 4) % 4
    let padded := if pad > 0 then decodeStd (s ++ List.replicate pad 61) else none
    match (decodeStd s).or ((decodeRawStd s).or padded) with
    | some b => .ok b
    | none => .error "invalid base64"

def readLinkSpecifiers : (n : ℕ) → Bytes → List LinkSpecifier
  | n + 1, lstype :: lslen :: rest =>
    if lslen.toNat > rest.length then []
    else ⟨lstype, rest.take lslen.toNat⟩ :: readLinkSpecifiers n (rest.drop lslen.toNat)
  | _, _ => []

def parseLinkSpecifiers (data : Bytes) (intro : IntroductionPoint) : IntroductionPoint :=
  match data with
  | [] => intro
  | nspec :: rest =>
    { intro with
      linkSpecifiers := intro.linkSpecifiers ++ readLinkSpecifiers (min nspec.toNat 16) rest }

def beginMark : Bytes := ascii "-----BEGIN"
def endMark : Bytes := ascii "-----END"
def dashes : Bytes := ascii "-----"

/-- The lines of the first armored block; `stopAtText` says whether the search for it ends at
the first line of another kind. -/
def certLines (stopAtText : Bool) : (inCert : Bool) → List Bytes → List Bytes
  | _, [] => []
  | inCert, l :: lines =>
    let line := trimUnicodeSpace l
    if beginMark <+: line then certLines stopAtText true lines
    else if endMark <+: line then []
    else if inCert then
      if line = [] then certLines stopAtText true lines
      else line :: certLines stopAtText true lines
    else if stopAtText ∧ line ≠ [] ∧ ¬ dashes <+: line then []
    else certLines stopAtText false lines

/-- What the lines of a block decode to. -/
def decodeCertLines (lines : List Bytes) : Option Bytes :=
  if lines = [] then none else (decodeDescriptorBase64 lines.flatten).toOption

def extractFollowingEd25519Cert (following : List Bytes) : Option Bytes :=
  decodeCertLines (certLines true false following)

/-! ### Certificates -/

structure Certificate where
  certType : UInt8
  /-- In Unix seconds. -/
  expiresAt : ℤ
  signingKey : Bytes
  signature : Bytes
  signedData : Bytes
  signedWithKey : Bytes
  deriving DecidableEq

/-- The extensions of a certificate from `offset` on, `left` of them: where they end and the
`signed-with-ed25519-key`. -/
def readExtensions (certData : Bytes) :
    (left i offset : ℕ) → (signedWithKey : Bytes) → Except String (ℕ × Bytes)
  | 0, _, offset, signedWithKey => .ok (offset, signedWithKey)
  | left + 1, i, offset, signedWithKey =>
    if offset + 2 > certData.length then .error s!"certificate truncated in extension {i}"
    else
      let extLen := (uint16At certData offset).toNat
      let data := offset + 4
      if data + extLen > certData.length then
        .error s!"certificate truncated in extension {i} data"
      else
        let signedWithKey :=
          if certData.getD (offset + 2) 0 = 4 ∧ extLen = 32 then slice certData data (data + extLen)
          else signedWithKey
        readExtensions certData left (i + 1) (data + extLen) signedWithKey

/-- `parseCertificate`.  The fields before the extensions are within the first forty bytes. -/
def parseCertificate (certData : Bytes) : Except String Certificate :=
  if certData.length < 40 then .error s!"certificate too short: {certData.length} bytes"
  else if certData.getD 0 0 ≠ 1 then
    .error s!"unsupported certificate version: {certData.getD 0 0}"
  else if certData.getD 6 0 ≠ 1 then
    .error s!"unsupported key type: {certData.getD 6 0} (expected 1 for Ed25519)"
  else do
    let (offset, signedWithKey) ← readExtensions certData (certData.getD 39 0).toNat 0 40 []
    if offset + 64 > certData.length then .error "certificate truncated at signature field"
    else .ok {
      certType := certData.getD 1 0
      expiresAt := natOfBytes (slice certData 2 6) * 3600
      signingKey := slice certData 7 39
      signature := slice certData offset (offset + 64)
      signedData := certData.take offset
      signedWithKey }

/-! ### The fields of an introduction point -/

/-- The key of an `enc-key` line. -/
def ntorKey (args : Bytes) : Option Bytes :=
  match fields args with
  | keyType :: key :: _ =>
    if keyType = ascii "ntor" then (decodeDescriptorBase64 key).toOption else none
  | _ => none

/-- The key of an `onion-key` line, which may also stand on the next line. -/
def onionKeyOf (args : Bytes) (following : List Bytes) : Option Bytes :=
  if (fields args).length ≥ 2 ∧ (fields args).head? = some (ascii "ntor") then ntorKey args
  else match following with
    | [] => none
    | next :: _ =>
      let keyType := trimUnicodeSpace next
      if ascii "ntor " <+: keyType then
        (decodeDescriptorBase64 (trimStart (ascii "ntor ") keyType)).toOption
      else none

/-- The key of an `auth-key` line: what the certificate after it certifies. -/
def authKeyOf (following : List Bytes) : Option Bytes := do
  let cert ← extractFollowingEd25519Cert following
  let parsed ← (parseCertificate cert).toOption
  if parsed.signingKey.length = 32 then some parsed.signingKey else none

def openIntro (args : Bytes) : IntroductionPoint :=
  if args = [] then {}
  else match decodeDescriptorBase64 args with
    | .ok linkData => parseLinkSpecifiers linkData {}
    | .error _ => {}

/-! ### Parsing -/

/-- The keywords on which `ParseDescriptor` acts; `superencrypted` is passed over. -/
inductive Keyword where
  | hsDescriptor | descriptorLifetime | descriptorSigningKeyCert | revisionCounter
  | introductionPoint | onionKey | authKey | encKey | legacyKey | signature
  deriving DecidableEq

def Keyword.text : Keyword → Bytes
  | hsDescriptor => ascii "hs-descriptor"
  | descriptorLifetime => ascii "descriptor-lifetime"
  | descriptorSigningKeyCert => ascii "descriptor-signing-key-cert"
  | revisionCounter => ascii "revision-counter"
  | introductionPoint => ascii "introduction-point"
  | onionKey => ascii "onion-key"
  | authKey => ascii "auth-key"
  | encKey => ascii "enc-key"
  | legacyKey => ascii "legacy-key"
  | signature => ascii "signature"

def Keyword.all : List Keyword :=
  [hsDescriptor, descriptorLifetime, descriptorSigningKeyCert, revisionCounter, introductionPoint,
    onionKey, authKey, encKey, legacyKey, signature]

/-- Which of some keywords a line starts with. -/
def lookupKeyword {K : Type} (text : K → Bytes) (all : List K) (line : Bytes) : Option K :=
  all.find? fun k => text k = cutBefore 32 (trimUnicodeSpace line)

def keywordOf (line : Bytes) : Option Keyword := lookupKeyword Keyword.text Keyword.all line

def argsOf (line : Bytes) : Bytes := cutAfter 32 (trimUnicodeSpace line)

/-- What `ParseDescriptor` has read: the descriptor, and the introduction point that is open. -/
structure ParseState where
  desc : Descriptor
  current : Option IntroductionPoint := none
  deriving DecidableEq

namespace ParseState

/-- Add the open introduction point to the descriptor. -/
def close (st : ParseState) : ParseState :=
  { desc := { st.desc with introPoints := st.desc.introPoints ++ st.current.toList } }

/-- Set a field of the open introduction point, if there is one and the value was read. -/
def setIntro (st : ParseState) (value : Option Bytes)
    (set : Bytes → IntroductionPoint → IntroductionPoint) : ParseState :=
  match value with
  | none => st
  | some v => { st with current := st.current.map (set v) }

end ParseState

/-- A `time.Duration` of some minutes: the product wraps. -/
def minutes (n : ℤ) : ℤ := (n * minute).bmod (2 ^ 64)

/-- One round of the loop of `ParseDescriptor`: the line of index `i`, with the lines after it. -/
def parseLine (i : ℕ) (line : Bytes) (following : List Bytes) (st : ParseState) : Except String ParseState :=
  let args := argsOf line
  match keywordOf line with
  | none => .ok st
  | some .hsDescriptor =>
    if args ≠ ascii "3" then .error s!"unsupported descriptor version: {showBytes args}" else .ok st
  | some .descriptorLifetime =>
    match scanInt args with
    | .error err => .error s!"invalid descriptor-lifetime at line {i + 1}: {err}"
    | .ok n => .ok { st with desc := { st.desc with lifetime := minutes n } }
  | some .descriptorSigningKeyCert =>
    match decodeCertLines (certLines false false following) with
    | none => .ok st
    | some cert => .ok { st with desc := { st.desc with descriptorSigningKeyCert := cert } }
  | some .revisionCounter =>
    match scanUint64 args with
    | .error err => .error s!"invalid revision-counter at line {i + 1}: {err}"
    | .ok n => .ok { st with desc := { st.desc with revisionCounter := n } }
  | some .introductionPoint => .ok { st.close with current := some (openIntro args) }
  | some .onionKey =>
    .ok (st.setIntro (onionKeyOf args following) fun key intro => { intro with onionKey := key })
  | some .authKey =>
    .ok (st.setIntro (authKeyOf following) fun key intro => { intro with authKey := key })
  | some .encKey =>
    .ok (st.setIntro (ntorKey args) fun key intro => { intro with encKey := key })
  | some .legacyKey =>
    .ok (st.setIntro (decodeStd args) fun key intro => { intro with legacyKeyID := key })
  | some .signature =>
    match decodeDescriptorBase64 args with
    | .error _ => .ok st.close
    | .ok sig => .ok { st with desc := { st.desc with signature := sig } }.close

def parseLines : (i : ℕ) → List Bytes → ParseState → Except String ParseState
  | _, [], st => .ok st
  | i, line :: following, st => do parseLines (i + 1) following (← parseLine i line following st)

def parseDescriptor (raw : Bytes) : Except String Descriptor :=
  if raw = [] then .error "empty descriptor"
  else do
    let desc : Descriptor := { rawDescriptor := raw, lifetime := minutes 180 }
    let st ← parseLines 0 (raw.splitOn 10) { desc }
    .ok st.close.desc

/-! ### Verification -/

/-- The functions of outside packages: those for blinded keys, Ed25519 verification, SHAKE256,
AES-256 and `time.ParseInLocation`, in seconds since the year 0. -/
structure DescLib extends BlindLib where
  verify : (key message sig : Bytes) → Bool
  shake256 : Bytes → (n : ℕ) → Vector UInt8 n
  aes256 : BlockCipher
  parseTime : Bytes → Option ℕ

def signatureMarker : Bytes := ascii "signature "

def hsDescriptorSignedMaterial (body : Bytes) : Bytes :=
  ascii "Tor onion service descriptor sig v3" ++ body

/-- The time periods whose blinded key may have signed the certificate. -/
def signingPeriods (now : ℤ) : List ℕ :=
  let nowPeriod := getTimePeriod now
  [nowPeriod, nowPeriod + 1] ++ if nowPeriod > 0 then [nowPeriod - 1] else []

/-- Who signed the certificate: a blinded key of the address (type 8) or its own key (type 4). -/
def verifyCertificateSigner (L : DescLib) (now : ℤ) (blindedPubkey pubkey : Bytes)
    (cert : Certificate) : Except String Unit :=
  if cert.certType = 8 then
    let keys := ((signingPeriods now).map (computeBlindedPubkey L.toBlindLib pubkey)).filter
      fun b => blindedPubkey.length ≠ 32 ∨ blindedPubkey = b
    if blindedPubkey.length = 32 ∧ keys = [] then
      .error "descriptor BlindedPubkey does not match address"
    else if keys.any fun b => L.verify b cert.signedData cert.signature then .ok ()
    else .error "certificate signature verification failed: no matching blinded period"
  else if L.verify pubkey cert.signedData cert.signature then .ok ()
  else .error "certificate signature verification failed: signer did not sign certificate"

def verifyDescriptorSignature (L : DescLib) (now : ℤ) (descriptor : Descriptor)
    (address : Address) : Except String Unit :=
  let sig := descriptor.signature
  let raw := descriptor.rawDescriptor
  if address.pubkey.length ≠ 32 then
    .error s!"invalid public key length: {address.pubkey.length}"
  else if sig.length = 0 then .error "descriptor has no signature"
  else if sig.length ≠ 64 then .error s!"invalid signature length: {sig.length}, expected 64"
  else if raw = [] then .error "descriptor has no raw data"
  else match index signatureMarker raw with
    | none => .error "signature line not found in descriptor"
    | some signatureIdx =>
      let signedMessage := hsDescriptorSignedMaterial (raw.take signatureIdx)
      if descriptor.descriptorSigningKeyCert = [] then
        .error "descriptor has no signing key certificate"
      else match parseCertificate descriptor.descriptorSigningKeyCert with
        | .error err => .error s!"failed to parse descriptor signing key certificate: {err}"
        | .ok cert =>
          if cert.certType ≠ 8 ∧ cert.certType ≠ 4 then
            .error s!"invalid certificate type: {cert.certType}, expected 8 (HS blinded) or 4"
          else if now > cert.expiresAt then .error s!"certificate expired at {cert.expiresAt}"
          else do
            verifyCertificateSigner L now descriptor.blindedPubkey address.pubkey cert
            if cert.signingKey.length ≠ 32 then
              .error ("invalid descriptor signing key length in certificate: " ++ s!"{cert.signingKey.length}")
            else if L.verify cert.signingKey signedMessage sig then .ok ()
            else .error ("descriptor signature verification failed: " ++ "signing key did not sign descriptor")

def parseDescriptorWithVerification (L : DescLib) (now : ℤ) (raw : Bytes) (address : Address) :
    Except String Descriptor :=
  match parseDescriptor raw with
  | .error err => .error s!"descriptor parsing failed: {err}"
  | .ok desc =>
    match verifyDescriptorSignature L now desc address with
    | .error err => .error s!"descriptor signature verification failed: {err}"
    | .ok () => .ok desc

end GoTor.Onion
