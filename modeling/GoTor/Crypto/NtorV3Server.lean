import GoTor.Crypto.Cgo
import GoTor.Crypto.NtorV3

/-!
# The ntor-v3 handshake: the client's onion skin and the relay's answer

The client encrypts a list of extensions to the relay's onion key; the relay checks the skin,
reads the extensions, and answers with a message of its own.  How long the circuit keys are, each
side finds out by itself: the client from what it asked for, the relay from what it decrypts.
-/

namespace GoTor.Crypto

open GoTor.Lib List Res

def ntorV3TMsgKDF : String := ntorV3ProtoID ++ ":kdf_phase1"
def ntorV3TMsgMAC : String := ntorV3ProtoID ++ ":msg_mac"
def ntorV3IDLen : ℕ := 32
def ntorV3PubLen : ℕ := 32
def ntorV3MACLen : ℕ := 32
def ntorV3FixedClientLen : ℕ := ntorV3IDLen + ntorV3PubLen + ntorV3PubLen + ntorV3MACLen

/-! ### Capabilities -/

structure SubprotoCap where
  protocolID : UInt8
  cap : UInt8
  deriving DecidableEq

def protoRelay : UInt8 := 2
def capRelayCGO : UInt8 := 6

def negotiableSubprotoCaps : List SubprotoCap := [⟨protoRelay, capRelayCGO⟩]

def capAllowed (c : SubprotoCap) : Bool := c ∈ negotiableSubprotoCaps

def protocolName (id : UInt8) : String :=
  let names := ["Link", "LinkAuth", "Relay", "DirCache", "HSDir", "HSIntro", "HSRend", "Desc",
    "Microdesc", "Cons", "Padding", "FlowCtrl", "Conflux"]
  names.getD id.toNat s!"Proto{id}"

def SubprotoCap.text (c : SubprotoCap) : String := s!"{protocolName c.protocolID}={c.cap}"

def SubprotoCap.le (a b : SubprotoCap) : Bool :=
  if a.protocolID ≠ b.protocolID then a.protocolID < b.protocolID else a.cap ≤ b.cap

def sortSubprotoCaps (caps : List SubprotoCap) : List SubprotoCap := caps.mergeSort SubprotoCap.le

/-- The loop of `EncodeSubprotoRequest` over the sorted capabilities, after `last`. -/
def encodeSortedCaps : Option SubprotoCap → List SubprotoCap → Res Bytes
  | _, [] => .ok []
  | last, c :: caps =>
    if ¬ capAllowed c then err s!"capability {c.text} is not in the negotiable table"
    else if last = some c then err s!"duplicate capability {c.text}"
    else do
      let rest ← encodeSortedCaps (some c) caps
      return c.protocolID :: c.cap :: rest

def encodeSubprotoRequest (caps : List SubprotoCap) : Res Bytes :=
  if caps = [] then err "subproto_request must list at least one capability"
  else encodeSortedCaps none (sortSubprotoCaps caps)

/-- The loop of `ParseSubprotoRequest`. -/
def parseCaps : (seen : List SubprotoCap) → Bytes → Res (List SubprotoCap)
  | seen, id :: cap :: rest =>
    let c : SubprotoCap := ⟨id, cap⟩
    if ¬ capAllowed c then err s!"capability {c.text} is not in the negotiable table"
    else if c ∈ seen then err s!"duplicate capability {c.text}"
    else do
      let caps ← parseCaps (c :: seen) rest
      return c :: caps
  | _, _ => .ok []

def parseSubprotoRequest (data : Bytes) : Res (List SubprotoCap) :=
  if data.length = 0 ∨ data.length % 2 ≠ 0 then
    err s!"subproto_request length {data.length} must be even and non-empty"
  else parseCaps [] data

/-! ### Extensions -/

/-- `EncodeNtorV3Extensions`: what is too long to be written is left out, but counted. -/
def encodeNtorV3Extensions (exts : List NtorV3Extension) : Bytes :=
  let exts := exts.take 255
  UInt8.ofNat exts.length :: exts.flatMap fun ext =>
    if ext.data.length > 255 then [] else ext.type :: UInt8.ofNat ext.data.length :: ext.data

/-! ### What the encoder writes, the parser reads -/

namespace NtorV3Extension

/-- One length byte is enough for the data. -/
def Fits (ext : NtorV3Extension) : Prop := ext.data.length ≤ 255

instance : DecidablePred Fits := fun _ => inferInstanceAs (Decidable (_ ≤ _))

/-- The extensions the encoder can write: of the first 255, those that fit. -/
def encodable (exts : List NtorV3Extension) : List NtorV3Extension :=
  (exts.take 255).filter (Fits ·)

/-- The first extension of each type, other than the types `seen`. -/
def firstOfEachType (seen : List UInt8) : List NtorV3Extension → List NtorV3Extension
  | [] => []
  | ext :: exts =>
    if ext.type ∈ seen then firstOfEachType seen exts
    else ext :: firstOfEachType (ext.type :: seen) exts

def bytes (ext : NtorV3Extension) : Bytes :=
  ext.type :: UInt8.ofNat ext.data.length :: ext.data

variable {exts out : List NtorV3Extension} {ext : NtorV3Extension} {seen : List UInt8}
  {msg rest : Bytes} {n left off : ℕ}

lemma encode_eq (exts : List NtorV3Extension) :
    encodeNtorV3Extensions exts =
      UInt8.ofNat (exts.take 255).length :: (encodable exts).flatMap bytes := by
  unfold encodeNtorV3Extensions encodable
  dsimp only
  congr 1
  induction exts.take 255 with
  | nil => rfl
  | cons ext exts ih =>
    rw [flatMap_cons, ih]
    by_cases hfit : ext.Fits
    · rw [filter_cons_of_pos (by simpa using hfit), if_neg (Nat.not_lt.2 hfit)]
      rfl
    · rw [filter_cons_of_neg (by simpa using hfit), if_pos (Nat.not_le.1 hfit)]
      rfl

/-- A turn of the parser at an extension. -/
lemma parse_at (hfit : ext.Fits) (h : msg.drop off = ext.bytes ++ rest) :
    parseNtorV3ExtensionsFrom msg n (left + 1) off seen out =
      parseNtorV3ExtensionsFrom msg n left (off + ext.bytes.length)
        (if ext.type ∈ seen then seen else ext.type :: seen)
        (if ext.type ∈ seen then out else out ++ [ext]) := by
  have hlen : msg.length - off = ext.bytes.length + rest.length := by
    rw [← length_drop, h, length_append]
  have hbytes : ext.bytes.length = 2 + ext.data.length := Nat.add_comm _ 2
  have hget : ∀ i, msg[off + i]? = (ext.bytes ++ rest)[i]? := by
    intro i
    rw [← h, getElem?_drop]
  have htype : indexOf msg off = .ok ext.type := by
    rw [indexOf, show msg[off]? = _ from hget 0]
    rfl
  have hln : indexOf msg (off + 1) = .ok (UInt8.ofNat ext.data.length) := by
    rw [indexOf, hget 1]
    rfl
  have hdata : slice msg (off + 2) (off + 2 + ext.data.length) = ext.data := by
    rw [slice, ← drop_drop, h]
    simp [bytes]
  rw [parseNtorV3ExtensionsFrom, if_neg (by omega), htype, ok_bind, hln, ok_bind]
  rw [UInt8.toNat_ofNat_of_lt' (Nat.lt_succ_of_le hfit), if_neg (by omega),
    sliceOf_eq_ok (by omega) (by omega), hdata, hbytes, ← Nat.add_assoc]
  split <;> rfl

lemma drop_bytes (h : msg.drop off = ext.bytes ++ rest) : msg.drop (off + ext.bytes.length) = rest := by
  rw [← drop_drop, h, drop_left]

lemma parse_entries (hfit : ∀ ext ∈ exts, ext.Fits) (h : msg.drop off = exts.flatMap bytes ++ rest) :
    ∃ seen', parseNtorV3ExtensionsFrom msg n (exts.length + left) off seen out =
      parseNtorV3ExtensionsFrom msg n left (off + (exts.flatMap bytes).length) seen'
        (out ++ firstOfEachType seen exts) := by
  induction exts generalizing off seen out with
  | nil => exact ⟨seen, by simp [firstOfEachType]⟩
  | cons ext exts ih =>
    obtain ⟨hext, hfit⟩ := forall_mem_cons.1 hfit
    rw [flatMap_cons, append_assoc] at h
    obtain ⟨seen', h'⟩ := @ih (if ext.type ∈ seen then out else out ++ [ext])
      (if ext.type ∈ seen then seen else ext.type :: seen) _ hfit (drop_bytes h)
    refine ⟨seen', ?_⟩
    rw [length_cons, Nat.succ_add, parse_at hext h, h', flatMap_cons, length_append, ← Nat.add_assoc, firstOfEachType]
    split <;> simp

/-- Where the parser takes an extension, there is one. -/
lemma exists_of_parse {r : List NtorV3Extension × ℕ}
    (h : parseNtorV3ExtensionsFrom msg n (left + 1) off seen out = .ok r) :
    ∃ ext rest, Fits ext ∧ msg.drop off = ext.bytes ++ rest := by
  obtain ⟨hoff, h⟩ := ite_err_eq_ok.1 h
  rw [indexOf_eq_ok (by omega), indexOf_eq_ok (by omega)] at h
  obtain ⟨hend, -⟩ := ite_err_eq_ok.1 h
  have hlen : ((msg.drop (off + 2)).take msg[off + 1].toNat).length = msg[off + 1].toNat := by
    rw [length_take, length_drop]
    omega
  refine ⟨⟨msg[off], _⟩, (msg.drop (off + 2)).drop msg[off + 1].toNat,
    Nat.le_trans (Nat.le_of_eq hlen) (Nat.le_of_lt_succ (UInt8.toNat_lt _)), ?_⟩
  rw [drop_eq_getElem_cons (by omega), drop_eq_getElem_cons (by omega), bytes, hlen,
    UInt8.ofNat_toNat, cons_append, cons_append, take_append_drop]

lemma exists_entries_of_parse {r : List NtorV3Extension × ℕ}
    (h : parseNtorV3ExtensionsFrom msg n left off seen out = .ok r) :
    ∃ (exts : List NtorV3Extension) (rest : Bytes), exts.length = left ∧ (∀ ext ∈ exts, ext.Fits) ∧
      msg.drop off = exts.flatMap bytes ++ rest := by
  induction left generalizing off seen out with
  | zero => exact ⟨[], msg.drop off, rfl, by simp, rfl⟩
  | succ left ih =>
    obtain ⟨ext, rest, hfit, hdrop⟩ := exists_of_parse h
    rw [parse_at hfit hdrop] at h
    obtain ⟨exts, rest', hlen, hfits, hnext⟩ := ih h
    refine ⟨ext :: exts, rest', congrArg (· + 1) hlen, forall_mem_cons.2 ⟨hfit, hfits⟩, ?_⟩
    rw [hdrop, ← drop_bytes hdrop, hnext, flatMap_cons, append_assoc]

/-- The parser on a count byte and extensions that fit. -/
lemma parse_count {count : UInt8} (hfit : ∀ ext ∈ exts, ext.Fits) (hcount : exts.length ≤ count.toNat) :
    parseNtorV3Extensions (count :: exts.flatMap bytes) = .ok (firstOfEachType [] exts) ↔
      exts.length = count.toNat := by
  obtain ⟨left, hleft⟩ := Nat.exists_eq_add_of_le hcount
  obtain ⟨seen', h⟩ := @parse_entries _ [] [] (count :: exts.flatMap bytes) [] count.toNat left 1 hfit (by simp)
  rw [parseNtorV3Extensions, if_neg (by simp), indexOf_eq_ok (by simp), ok_bind, getElem_cons_zero]
  nth_rewrite 2 [hleft]
  rw [h]
  cases left with
  | zero => simp [parseNtorV3ExtensionsFrom, ok_bind, hleft, Nat.add_comm, pure, Except.pure]
  | succ left =>
    rw [parseNtorV3ExtensionsFrom, if_pos (by rw [length_cons]; omega)]
    constructor <;> intro h
    · cases h
    · omega

lemma encode_of_parse (h : parseNtorV3Extensions msg = .ok out) :
    ∃ read : List NtorV3Extension, read.length ≤ 255 ∧ (∀ ext ∈ read, ext.Fits) ∧
      msg = encodeNtorV3Extensions read ∧ out = firstOfEachType [] read := by
  obtain ⟨hlen, h⟩ := ite_err_eq_ok.1 h
  obtain ⟨count, hcount, h⟩ := bind_eq_ok.1 h
  obtain ⟨⟨out', off⟩, hfrom, h⟩ := bind_eq_ok.1 h
  obtain ⟨hoff, h⟩ := ite_err_eq_ok.1 h
  cases h
  obtain ⟨read, rest, hread, hfit, hdrop⟩ := exists_entries_of_parse hfrom
  obtain ⟨seen', hend⟩ := @parse_entries _ [] [] _ _ count.toNat 0 1 hfit hdrop
  rw [Nat.add_zero, hread, hfrom] at hend
  cases hend
  obtain ⟨c, body, rfl⟩ := exists_cons_of_length_pos (Nat.not_lt.1 hlen)
  cases hcount
  obtain rfl : body = read.flatMap bytes ++ rest := hdrop
  obtain rfl : rest = [] := by simpa [Nat.add_comm] using hoff
  have hshort : read.length ≤ 255 := hread ▸ Nat.le_of_lt_succ (UInt8.toNat_lt _)
  refine ⟨read, hshort, hfit, ?_, rfl⟩
  rw [encode_eq, encodable, take_of_length_le hshort, hread, UInt8.ofNat_toNat,
    filter_eq_self.2 fun ext hext => decide_eq_true (hfit ext hext), append_nil]

end NtorV3Extension

open NtorV3Extension in
/-- **Extensions come back as they were written exactly when none of the first 255 is too long**:
one that is left out is still counted.  What the parser accepts it has read to the last byte. -/
theorem extensions_round_trip_iff (exts : List NtorV3Extension) :
    (parseNtorV3Extensions (encodeNtorV3Extensions exts) = .ok (firstOfEachType [] (encodable exts)) ∧
      ∀ msg out, parseNtorV3Extensions msg = .ok out →
        ∃ read : List NtorV3Extension, read.length ≤ 255 ∧ (∀ ext ∈ read, ext.Fits) ∧
          msg = encodeNtorV3Extensions read ∧ out = firstOfEachType [] read) ↔
      ∀ ext ∈ exts.take 255, ext.Fits := by
  have hcount : (UInt8.ofNat (exts.take 255).length).toNat = (exts.take 255).length :=
    UInt8.toNat_ofNat_of_lt' (Nat.lt_succ_of_le (length_take_le _ _))
  have hfit : ∀ ext ∈ encodable exts, ext.Fits := fun ext h =>
    of_decide_eq_true (mem_filter.1 h).2
  rw [and_iff_left fun msg out => encode_of_parse, encode_eq,
    parse_count hfit (by rw [hcount]; exact length_filter_le _ _), hcount, NtorV3Extension.encodable,
    length_filter_eq_length_iff]
  simp

theorem long_extension_counted :
    NtorV3Extension.encodable [⟨1, List.replicate 256 0⟩, ⟨2, []⟩] = [⟨2, []⟩] ∧
      parseNtorV3Extensions (encodeNtorV3Extensions [⟨1, List.replicate 256 0⟩, ⟨2, []⟩]) =
        err "ntor-v3 extra data truncated at extension 1" := by
  decide +kernel

def encodeNtorV3ClientMsg (requestCC : Bool) (caps : List SubprotoCap) : Res Bytes := do
  let cc : List NtorV3Extension := if requestCC then [⟨ntorV3ExtCCRequest, []⟩] else []
  if caps = [] then return encodeNtorV3Extensions cc
  else
    let body ← encodeSubprotoRequest caps
    return encodeNtorV3Extensions (cc ++ [⟨ntorV3ExtSubprotoRequest, body⟩])

/-- The loop of `NtorV3ClientRequestedCGO`. -/
def requestsCGO : List NtorV3Extension → Res Bool
  | [] => .ok false
  | ext :: exts =>
    if ext.type ≠ ntorV3ExtSubprotoRequest then requestsCGO exts
    else do
      let caps ← (parseSubprotoRequest ext.data).wrap "subproto_request"
      if ⟨protoRelay, capRelayCGO⟩ ∈ caps then return true else requestsCGO exts

def ntorV3ClientRequestedCGO (cm : Bytes) : Res Bool :=
  if cm.length = 0 then .ok false
  else do
    let exts ← parseNtorV3Extensions cm
    requestsCGO exts

/-! ### The handshake -/

variable (N : NtorPrimitives)

def ntorV3MAC (t : String) (key msg : Bytes) : Bytes :=
  (N.sha3 (ntorV3Encap (ascii t) ++ ntorV3Encap key ++ msg)).toList

/-- `ntorV3ClientHandshakeWithKey`: the onion skin, and what the client keeps. -/
def ntorV3ClientHandshakeWithKey (edID onionKey verification clientMsg priv : Bytes) :
    Res (Bytes × NtorV3ClientState) :=
  if edID.length ≠ ntorV3IDLen then
    err s!"ntor-v3 ID length {edID.length}, want {ntorV3IDLen} (Ed25519)"
  else if onionKey.length ≠ ntorV3PubLen then
    err s!"ntor-v3 onion key length {onionKey.length}"
  else if priv.length ≠ 32 then err s!"ntor-v3 ephemeral private length {priv.length}"
  else if isAllZero edID || isAllZero onionKey then
    err "ntor-v3 identity or onion key is all zeros"
  else
    let x := copy32 priv
    let B := copy32 onionKey
    let X := N.scalarBaseMult x
    let Bx := N.scalarMult x B
    if isAllZero Bx.toList then err "ntor-v3 EXP(B,x) produced the identity point"
    else do
      let phase1 := Bx.toList ++ edID ++ X.toList ++ B.toList ++ ascii ntorV3ProtoID ++ ntorV3Encap verification
      let keys := ntorV3KDF N ntorV3TMsgKDF phase1 (ntorV3EncKeyLen + ntorV3MACLen)
      let encK1 ← sliceOf keys 0 ntorV3EncKeyLen
      let macK1 ← sliceOf keys ntorV3EncKeyLen keys.length
      let encrypted ← ntorV3AESCTR N encK1 clientMsg
      let macMsg := edID ++ B.toList ++ X.toList ++ encrypted
      let msgMAC := ntorV3MAC N ntorV3TMsgMAC macK1 macMsg
      let skin := edID ++ B.toList ++ X.toList ++ encrypted ++ msgMAC
      return (skin, { x, X, B, id := edID, Bx, msgMAC })

structure OpenedSkin where
  B : Key32
  X : Key32
  Bx : Key32
  msgMAC : Bytes
  cmPlain : Bytes

/-- `ntorV3ServerHandshakeCore` up to the client's message. -/
def ntorV3OpenSkin (clientSkin edID onionPriv verification : Bytes) : Res OpenedSkin :=
  if edID.length ≠ ntorV3IDLen then err s!"ntor-v3 server ID length {edID.length}"
  else if onionPriv.length ≠ 32 then err s!"ntor-v3 onion private length {onionPriv.length}"
  else if clientSkin.length < ntorV3FixedClientLen then
    err s!"ntor-v3 client skin too short: {clientSkin.length}"
  else do
    let id ← sliceOf clientSkin 0 32
    let bClaimed ← sliceOf clientSkin 32 64
    let X := copy32 (← sliceOf clientSkin 64 96)
    let encCM ← sliceOf clientSkin 96 (clientSkin.length - ntorV3MACLen)
    let msgMAC ← sliceOf clientSkin (clientSkin.length - ntorV3MACLen) clientSkin.length
    if id ≠ edID then err "ntor-v3 identity mismatch"
    else
      let b := copy32 onionPriv
      let B := N.scalarBaseMult b
      if bClaimed ≠ B.toList then err "ntor-v3 onion KEYID mismatch"
      else if isAllZero X.toList then err "ntor-v3 client ephemeral is identity"
      else
        let Bx := N.scalarMult b X
        if isAllZero Bx.toList then err "ntor-v3 EXP(X,b) identity"
        else
          let phase1 := Bx.toList ++ edID ++ X.toList ++ B.toList ++ ascii ntorV3ProtoID ++ ntorV3Encap verification
          let keys1 := ntorV3KDF N ntorV3TMsgKDF phase1 (ntorV3EncKeyLen + ntorV3MACLen)
          let encK1 ← sliceOf keys1 0 ntorV3EncKeyLen
          let macK1 ← sliceOf keys1 ntorV3EncKeyLen keys1.length
          let macMsg := edID ++ B.toList ++ X.toList ++ encCM
          let expectedMAC := ntorV3MAC N ntorV3TMsgMAC macK1 macMsg
          if msgMAC ≠ expectedMAC then err "ntor-v3 client MSG MAC mismatch"
          else
            let cmPlain ← (ntorV3AESCTR N encK1 encCM).wrap "ntor-v3 decrypt CM"
            return { B, X, Bx, msgMAC, cmPlain }

/-- `ntorV3ServerHandshakeCore` from there on: the answer, the circuit keys and the nonce, with
the relay's ephemeral key `y`.  No message stands for an empty list of extensions. -/
def ntorV3Answer (skin : OpenedSkin) (edID verification : Bytes) (serverMsgPlain : Option Bytes)
    (y : Key32) : Res (Bytes × Bytes × Bytes) := do
  let wantCGO ← (ntorV3ClientRequestedCGO skin.cmPlain).wrap "ntor-v3 client extensions"
  let keyLen := if wantCGO then cgoKeyMaterialLen else ntorV3KeyMaterialLen
  let Y := N.scalarBaseMult y
  let Yx := N.scalarMult y skin.X
  if isAllZero Yx.toList then err "ntor-v3 EXP(X,y) identity"
  else
    let secret := Yx.toList ++ skin.Bx.toList ++ edID ++ skin.B.toList ++ skin.X.toList ++
      Y.toList ++ ascii ntorV3ProtoID ++ ntorV3Encap verification
    let keySeed := ntorV3Hash N ntorV3TKeySeed secret
    let verify := ntorV3Hash N ntorV3TVerify secret
    let serverMsg := serverMsgPlain.getD (encodeNtorV3Extensions [])
    let rawFinal := ntorV3KDF N ntorV3TFinal keySeed (ntorV3EncKeyLen + keyLen + ntorCircNonceLen)
    let encKey ← sliceOf rawFinal 0 ntorV3EncKeyLen
    let keyMaterial ← sliceOf rawFinal ntorV3EncKeyLen (ntorV3EncKeyLen + keyLen)
    let circNonce ← sliceOf rawFinal (ntorV3EncKeyLen + keyLen) rawFinal.length
    let encSM ← ntorV3AESCTR N encKey serverMsg
    let authInput := verify ++ edID ++ skin.B.toList ++ Y.toList ++ skin.X.toList ++ skin.msgMAC ++
      ntorV3Encap encSM ++ ascii ntorV3ProtoID ++ ascii ntorV3ServerStr
    let auth := ntorV3Hash N ntorV3TAuth authInput
    return (Y.toList ++ auth ++ encSM, keyMaterial, circNonce)

def ntorV3ServerHandshakeWithNonce (clientSkin edID onionPriv verification : Bytes)
    (serverMsgPlain : Option Bytes) (y : Key32) : Res (Bytes × Bytes × Bytes) := do
  let skin ← ntorV3OpenSkin N clientSkin edID onionPriv verification
  ntorV3Answer N skin edID verification serverMsgPlain y

end GoTor.Crypto
