import GoTor.Onion.Descriptor

/-!
# Decrypting a descriptor

The introduction points of a descriptor are in two layers of encryption.  `DecryptDescriptor`
looks for the armored outer layer anywhere in the document, and derives its keys from the blinded
key, the address and the revision counter that was read.
-/

namespace GoTor.Onion

open GoTor.Lib

/-! ### The decrypted layer -/

/-- The keywords on which `parseDecryptedLayer` acts. -/
inductive LayerKeyword where
  | introductionPoint | linkSpecifiers | onionKey | authKey | encKey | legacyKey | powParams | flowControl
  deriving DecidableEq

def LayerKeyword.text : LayerKeyword → Bytes
  | introductionPoint => ascii "introduction-point"
  | linkSpecifiers => ascii "link-specifiers"
  | onionKey => ascii "onion-key"
  | authKey => ascii "auth-key"
  | encKey => ascii "enc-key"
  | legacyKey => ascii "legacy-key"
  | powParams => ascii "pow-params"
  | flowControl => ascii "flow-control"

def LayerKeyword.all : List LayerKeyword :=
  [introductionPoint, linkSpecifiers, onionKey, authKey, encKey, legacyKey, powParams, flowControl]

def parseFlowControlLine (args : Bytes) : Option FlowControlParams :=
  match fields args with
  | versions :: inc :: _ =>
    if 45 ∉ versions then none
    else do
      let vmin ← atoi (cutBefore 45 versions)
      let vmax ← atoi (cutAfter 45 versions)
      let inc ← atoi inc
      if vmin < 1 ∨ vmax < vmin ∨ vmax > 255 ∨ inc < 1 ∨ inc > 250 then none
      else some ⟨vmin.toNat, vmax.toNat, inc.toNat⟩
  | _ => none

def ofLength (n : ℕ) (value : Option Bytes) : Option Bytes := value.filter (·.length = n)

variable (L : DescLib)

def parsePoWParamsLine (args : Bytes) : Option PoWParams :=
  match fields args with
  | version :: seed :: effort :: exp :: _ =>
    if version ≠ ascii "v1" then none
    else do
      let seed ← ofLength powSeedLen (decodeDescriptorBase64 seed).toOption
      -- `strconv.ParseUint`, for 32 bits
      if effort = [] ∨ ¬ effort.all isDigit ∨ decimalValue effort ≥ 2 ^ 32 then none
      else
        let expiration ← L.parseTime exp
        some ⟨seed, decimalValue effort, some expiration⟩
  | _ => none

/-- One round of the loop of `parseDecryptedLayer`. -/
def parseLayerLine (line : Bytes) (following : List Bytes) (st : ParseState) : ParseState :=
  let args := argsOf line
  match lookupKeyword LayerKeyword.text LayerKeyword.all line with
  | none => st
  | some .introductionPoint => { st.close with current := some (openIntro args) }
  | some .linkSpecifiers =>
    st.setIntro (if args = [] then none else (decodeDescriptorBase64 args).toOption) parseLinkSpecifiers
  | some .onionKey =>
    st.setIntro (ofLength 32 (onionKeyOf args following)) fun key intro =>
      { intro with onionKey := key }
  | some .authKey =>
    st.setIntro (authKeyOf following) fun key intro => { intro with authKey := key }
  | some .encKey =>
    st.setIntro (ofLength 32 (ntorKey args)) fun key intro => { intro with encKey := key }
  | some .legacyKey =>
    st.setIntro (if args = [] then none else ofLength 20 (decodeStd args)) fun key intro =>
      { intro with legacyKeyID := key }
  | some .powParams =>
    match parsePoWParamsLine L args with
    | none => st
    | some p => { st with desc := { st.desc with powParams := some p } }
  | some .flowControl =>
    match parseFlowControlLine args with
    | none => st
    | some p => { st with desc := { st.desc with flowControl := some p } }

def parseLayerLines : List Bytes → ParseState → ParseState
  | [], st => st
  | line :: following, st => parseLayerLines following (parseLayerLine L line following st)

/-- `parseDecryptedLayer`, which does not fail. -/
def parseDecryptedLayer (data : Bytes) : Descriptor :=
  (parseLayerLines L (data.splitOn 10) { desc := {} }).close.desc

def parseIntroPointsFromPlaintext (plain : Bytes) : List IntroductionPoint :=
  match parseDescriptor (ascii "hs-descriptor 3\nrevision-counter 0\n" ++ plain) with
  | .error _ => []
  | .ok d => d.introPoints

/-! ### The layers -/

def hsDescSaltLen : ℕ := 16
def hsDescMACLen : ℕ := 32
def hsDescKeyLen : ℕ := 32
def hsDescIVLen : ℕ := 16
def hsDescMACKeyLen : ℕ := 32

def messageBegin : Bytes := ascii "-----BEGIN MESSAGE-----"
def messageEnd : Bytes := ascii "-----END MESSAGE-----"

/-- The decoding at the end of `extractArmoredBlob`, with a second try. -/
def decodeArmored (text : Bytes) : Option Bytes :=
  let b64 := withoutLineEnds (trimUnicodeSpace text)
  (decodeDescriptorBase64 b64).toOption.or (decodeStd b64)

def extractArmoredBlob (doc : Bytes) (keyword : String) : Except String Bytes :=
  match index (ascii keyword) doc with
  | none => .error s!"{keyword} not found"
  | some idx =>
    let rest := doc.drop idx
    match index messageBegin rest with
    | none => .error s!"{keyword} missing BEGIN MESSAGE"
    | some b =>
      let body := rest.drop (b + messageBegin.length)
      match index messageEnd body with
      | none => .error s!"{keyword} missing END MESSAGE"
      | some e =>
        match decodeArmored (body.take e) with
        | some data => .ok data
        | none => .error s!"decode {keyword} blob: illegal base64 data"

def computeHSCredential (identityPubkey : Bytes) : Bytes :=
  (L.sha3 (ascii "credential" ++ identityPubkey)).toList

def computeHSSubcredential (identityPubkey blindedPubkey : Bytes) : Bytes :=
  (L.sha3 (ascii "subcredential" ++ computeHSCredential L identityPubkey ++ blindedPubkey)).toList

/-- `hsDescDeriveKeys`: the cipher's key, its initial counter and the key of the MAC. -/
def hsDescDeriveKeys (secretData subcred : Bytes) (revision : ℕ) (salt : Bytes)
    (stringConstant : String) : Bytes × Bytes × Bytes :=
  let kdfIn := secretData ++ subcred ++ putUint64 revision ++ salt ++ ascii stringConstant
  let keys := (L.shake256 kdfIn (hsDescKeyLen + hsDescIVLen + hsDescMACKeyLen)).toList
  (keys.take hsDescKeyLen, slice keys hsDescKeyLen (hsDescKeyLen + hsDescIVLen),
    keys.drop (hsDescKeyLen + hsDescIVLen))

def hsDescMAC (macKey salt encrypted : Bytes) : Bytes :=
  (L.sha3 (putUint64 macKey.length ++ macKey ++ putUint64 salt.length ++ salt ++ encrypted)).toList

def decryptHSDescLayer (blob secretData subcred : Bytes) (revision : ℕ) (stringConstant : String) :
    Except String Bytes :=
  if blob.length < hsDescSaltLen + hsDescMACLen then
    .error s!"ciphertext too short: {blob.length}"
  else
    let salt := blob.take hsDescSaltLen
    let mac := blob.drop (blob.length - hsDescMACLen)
    let encrypted := slice blob hsDescSaltLen (blob.length - hsDescMACLen)
    let (secretKey, secretIV, macKey) :=
      hsDescDeriveKeys L secretData subcred revision salt stringConstant
    if mac ≠ hsDescMAC L macKey salt encrypted then .error "layer MAC mismatch"
    else
      let stream : Stream := { key := secretKey, iv := Block.copyOf secretIV }
      .ok ((stream.xorKeyStream L.aes256 encrypted).2.rdropWhile (· = 0))

def decryptDescriptor (descriptor : Descriptor) (address : Address) (timePeriod : ℕ) : Except String Descriptor :=
  if address.pubkey.length ≠ 32 then
    .error s!"invalid public key length: {address.pubkey.length}"
  else
    let blinded :=
      if descriptor.blindedPubkey.length ≠ 32 then
        computeBlindedPubkey L.toBlindLib address.pubkey timePeriod
      else descriptor.blindedPubkey
    let subcred := computeHSSubcredential L address.pubkey blinded
    let rev := descriptor.revisionCounter
    let raw := descriptor.rawDescriptor
    match extractArmoredBlob raw "superencrypted" with
    | .error err =>
      -- without an encrypted part the descriptor counts as decrypted
      if (index (ascii "introduction-point") raw).isSome then .ok descriptor else .error err
    | .ok superBlob =>
      match decryptHSDescLayer L superBlob blinded subcred rev "hsdir-superencrypted-data" with
      | .error err => .error s!"superencrypted layer: {err}"
      | .ok outerPlain =>
        match extractArmoredBlob outerPlain "encrypted" with
        | .error err => .error s!"inner encrypted field: {err}"
        | .ok innerBlob =>
          match decryptHSDescLayer L innerBlob blinded subcred rev "hsdir-encrypted-data" with
          | .error err => .error s!"encrypted layer: {err}"
          | .ok innerPlain =>
            let parsed := parseDecryptedLayer L innerPlain
            .ok { descriptor with
              powParams := parsed.powParams
              flowControl := parsed.flowControl
              introPoints :=
                if parsed.introPoints ≠ [] then parsed.introPoints
                else parseIntroPointsFromPlaintext innerPlain }

end GoTor.Onion
