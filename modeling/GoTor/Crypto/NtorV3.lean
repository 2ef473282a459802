import GoTor.Crypto.Ntor

/-!
# The ntor-v3 handshake, client side

The client checks the relay's answer against the state it kept, derives the circuit keys, and
decrypts the relay's message, a list of extensions.
-/

namespace GoTor.Crypto

open GoTor.Lib Res.Safe Res

def ntorV3ProtoID : String := "ntor3-curve25519-sha3_256-1"
def ntorV3TKeySeed : String := ntorV3ProtoID ++ ":key_seed"
def ntorV3TVerify : String := ntorV3ProtoID ++ ":verify"
def ntorV3TFinal : String := ntorV3ProtoID ++ ":kdf_final"
def ntorV3TAuth : String := ntorV3ProtoID ++ ":auth_final"
def ntorV3ServerStr : String := "Server"
def ntorV3EncKeyLen : ℕ := 32
def ntorV3FixedServerLen : ℕ := 64
def ntorV3KeyMaterialLen : ℕ := 72

/-- The verification string of CREATE2 and EXTEND2. -/
def ntorV3CircuitVerification : Bytes := ascii "circuit extend"

def ntorV3ExtCCRequest : UInt8 := 1
def ntorV3ExtCCResponse : UInt8 := 2
def ntorV3ExtSubprotoRequest : UInt8 := 3

structure NtorV3Extension where
  type : UInt8
  data : Bytes
  deriving DecidableEq

structure NtorV3ClientState where
  x : Key32
  X : Key32
  B : Key32
  id : Bytes
  Bx : Key32
  msgMAC : Bytes
  /-- 0 stands for the 72 bytes of tor1. -/
  keyMaterialLen : ℕ := 0
  circNonce : Bytes := []

variable (N : NtorPrimitives)

def ntorV3Encap (s : Bytes) : Bytes := bytesOfNat 8 s.length ++ s

def ntorV3Hash (t : String) (s : Bytes) : Bytes := (N.sha3 (ntorV3Encap (ascii t) ++ s)).toList

def ntorV3KDF (t : String) (s : Bytes) (n : ℕ) : Bytes :=
  (N.shake256 (ntorV3Encap (ascii t) ++ s) n).toList

def ntorV3AESCTR (key plaintext : Bytes) : Res Bytes :=
  if key.length ≠ ntorV3EncKeyLen then err s!"ntor-v3 AES key length {key.length}"
  else .ok (({ key, iv := Block.copyOf [] } : Stream).xorKeyStream N.aes256 plaintext).2

/-! ### Extensions -/

/-- The loop of `ParseNtorV3Extensions`, with `left` of the `n` extensions to go; returns the
extensions and the offset reached. -/
def parseNtorV3ExtensionsFrom (msg : Bytes) (n : ℕ) :
    (left off : ℕ) → List UInt8 → List NtorV3Extension → Res (List NtorV3Extension × ℕ)
  | 0, off, _, out => .ok (out, off)
  | left + 1, off, seen, out =>
    if off + 2 > msg.length then
      err s!"ntor-v3 extra data truncated at extension {n - (left + 1)}"
    else do
      let typ ← indexOf msg off
      let ln ← indexOf msg (off + 1)
      let off := off + 2
      if off + ln.toNat > msg.length then
        err s!"ntor-v3 extra data truncated body type={typ}"
      else
        let data ← sliceOf msg off (off + ln.toNat)
        let off := off + ln.toNat
        -- a repeated type is skipped
        if typ ∈ seen then parseNtorV3ExtensionsFrom msg n left off seen out
        else parseNtorV3ExtensionsFrom msg n left off (typ :: seen) (out ++ [⟨typ, data⟩])

def parseNtorV3Extensions (msg : Bytes) : Res (List NtorV3Extension) :=
  if msg.length < 1 then err "ntor-v3 extra data missing N_EXTENSIONS"
  else do
    let n ← indexOf msg 0
    let (out, off) ← parseNtorV3ExtensionsFrom msg n.toNat n.toNat 1 [] []
    if off ≠ msg.length then
      err s!"ntor-v3 extra data has {msg.length - off} trailing bytes"
    else return out

/-- The SENDME increment of the first `CC_FIELD_RESPONSE`, if there is one. -/
def ccSendmeInc : List NtorV3Extension → Res (Option ℕ)
  | [] => .ok none
  | ext :: exts =>
    if ext.type = ntorV3ExtCCResponse then
      match ext.data with
      | [b] =>
        if b.toNat < 1 ∨ b.toNat > 250 then err s!"sendme_inc {b} out of range"
        else .ok (some b.toNat)
      | data => err s!"CC_FIELD_RESPONSE length {data.length}, want 1"
    else ccSendmeInc exts

def parseCCSendmeInc (serverMsg : Bytes) : Res (Option ℕ) := do
  let exts ← parseNtorV3Extensions serverMsg
  ccSendmeInc exts

variable {msg : Bytes}

lemma parseNtorV3ExtensionsFrom_safe {n : ℕ} (left off : ℕ) (seen : List UInt8)
    (out : List NtorV3Extension) : (parseNtorV3ExtensionsFrom msg n left off seen out).Safe := by
  induction left generalizing off seen out with
  | zero => exact safe_ok
  | succ left ih =>
    refine guard fun hoff => ?_
    refine bind (indexOf_safe (by omega)) fun typ _ => ?_
    refine bind (indexOf_safe (by omega)) fun ln _ => ?_
    refine guard fun hln => ?_
    refine bind (sliceOf_safe (by omega) (by omega)) fun data _ => ?_
    split
    next => exact ih _ _ _
    next => exact ih _ _ _

lemma parseNtorV3Extensions_safe : (parseNtorV3Extensions msg).Safe := by
  refine guard fun h => ?_
  refine bind (indexOf_safe (by omega)) fun n _ => ?_
  refine bind (parseNtorV3ExtensionsFrom_safe _ _ _ _) ?_
  rintro ⟨out, off⟩ _
  exact guard fun _ => safe_pure

lemma ccSendmeInc_safe (exts : List NtorV3Extension) : (ccSendmeInc exts).Safe := by
  induction exts with
  | nil => exact safe_ok
  | cons ext exts ih =>
    unfold ccSendmeInc
    split
    next =>
      split
      next =>
        exact guard fun _ => safe_ok
      next => exact safe_err
    next => exact ih

lemma parseCCSendmeInc_safe {serverMsg : Bytes} : (parseCCSendmeInc serverMsg).Safe :=
  bind parseNtorV3Extensions_safe fun exts _ => ccSendmeInc_safe exts

/-! ### The relay's answer -/

/-- Check the relay's answer: the key material, the relay's message, and the state with the
circuit nonce stored in it. -/
def ntorV3ProcessResponse (reply : Bytes) (st : Option NtorV3ClientState) (verification : Bytes) :
    Res (Bytes × Bytes × NtorV3ClientState) :=
  match st with
  | none => err "missing ntor-v3 client state"
  | some st =>
    if reply.length < ntorV3FixedServerLen then
      err s!"ntor-v3 reply too short: {reply.length}"
    else do
      let Y := copy32 (← sliceOf reply 0 32)
      let auth ← sliceOf reply 32 64
      let encSM ← sliceOf reply 64 reply.length
      if isAllZero Y.toList then err "ntor-v3 server ephemeral is the identity point"
      else
        let Yx := N.scalarMult st.x Y
        if isAllZero Yx.toList then err "ntor-v3 EXP(Y,x) produced the identity point"
        else
          let secret := Yx.toList ++ st.Bx.toList ++ st.id ++ st.B.toList ++ st.X.toList ++
            Y.toList ++ ascii ntorV3ProtoID ++ ntorV3Encap verification
          let keySeed := ntorV3Hash N ntorV3TKeySeed secret
          let verify := ntorV3Hash N ntorV3TVerify secret
          let authInput := verify ++ st.id ++ st.B.toList ++ Y.toList ++ st.X.toList ++
            st.msgMAC ++ ntorV3Encap encSM ++ ascii ntorV3ProtoID ++ ascii ntorV3ServerStr
          let expected := ntorV3Hash N ntorV3TAuth authInput
          if auth ≠ expected then err "ntor-v3 AUTH verification failed"
          else
            let keyLen := if st.keyMaterialLen > 0 then st.keyMaterialLen else ntorV3KeyMaterialLen
            let raw := ntorV3KDF N ntorV3TFinal keySeed (ntorV3EncKeyLen + keyLen + ntorCircNonceLen)
            let encKey ← sliceOf raw 0 ntorV3EncKeyLen
            let full ← sliceOf raw ntorV3EncKeyLen raw.length
            let keyMaterial ← sliceOf full 0 keyLen
            let circNonce ← sliceOf full keyLen (keyLen + ntorCircNonceLen)
            let serverMsg ← ntorV3AESCTR N encKey encSM
            return (keyMaterial, serverMsg, { st with circNonce })

lemma ntorV3AESCTR_safe {key plaintext : Bytes} : (ntorV3AESCTR N key plaintext).Safe := by
  exact guard fun _ => safe_ok

lemma sliceOf_keyStream {raw : Bytes} {k : ℕ} (h : raw.length = 32 + k + 20) :
    sliceOf raw 0 ntorV3EncKeyLen = .ok (raw.take 32) ∧
    sliceOf raw ntorV3EncKeyLen (ntorV3EncKeyLen + k) = .ok (slice raw 32 (32 + k)) ∧
    sliceOf raw (ntorV3EncKeyLen + k) raw.length = .ok (raw.drop (32 + k)) ∧
    sliceOf raw ntorV3EncKeyLen raw.length = .ok (raw.drop 32) ∧
    sliceOf (raw.drop 32) 0 k = .ok (slice raw 32 (32 + k)) ∧
    sliceOf (raw.drop 32) k (k + ntorCircNonceLen) = .ok (raw.drop (32 + k)) := by
  have hdrop : (raw.drop 32).length = k + ntorCircNonceLen := by
    rw [List.length_drop, ntorCircNonceLen]
    omega
  rw [ntorV3EncKeyLen, sliceOf_eq_ok (by omega) (by omega), sliceOf_eq_ok (by omega) (by omega),
    sliceOf_eq_ok (by omega) (by omega), sliceOf_eq_ok (by omega) (by omega),
    sliceOf_eq_ok (by omega) (by omega), ← hdrop, sliceOf_eq_ok (by omega) (by omega), slice_zero, slice_to_end, slice_to_end, slice_to_end, List.drop_drop, slice,
    Nat.add_sub_cancel_left]
  exact ⟨rfl, rfl, rfl, rfl, rfl, rfl⟩

lemma ntorV3ProcessResponse_safe (reply : Bytes) (st : Option NtorV3ClientState)
    (verification : Bytes) : (ntorV3ProcessResponse N reply st verification).Safe := by
  unfold ntorV3ProcessResponse
  split
  next => exact safe_err
  next st =>
  split
  next => exact safe_err
  next hlen =>
  have hreply : 64 ≤ reply.length := Nat.le_of_not_lt hlen
  refine bind (sliceOf_safe (by omega) (by omega)) fun y _ => ?_
  refine bind (sliceOf_safe (by omega) hreply) fun auth _ => ?_
  refine bind (sliceOf_safe hreply (Nat.le_refl _)) fun encSM _ => ?_
  dsimp only
  refine Res.Safe.guard fun _ => ?_
  split
  next => exact safe_err
  refine guard fun _ => ?_
  -- the key stream has the length it was asked for
  generalize (if st.keyMaterialLen > 0 then st.keyMaterialLen else ntorV3KeyMaterialLen) = keyLen
  have hraw : ∀ seed, (ntorV3KDF N ntorV3TFinal seed
      (ntorV3EncKeyLen + keyLen + ntorCircNonceLen)).length = 32 + keyLen + 20 := by
    simp [ntorV3KDF, ntorV3EncKeyLen, ntorCircNonceLen]
  generalize hr : ntorV3KDF N ntorV3TFinal _ (ntorV3EncKeyLen + keyLen + ntorCircNonceLen) = raw
  have hrawlen : raw.length = 32 + keyLen + 20 := by
    rw [← hr]
    exact hraw _
  obtain ⟨henc, -, -, hfull, hkm, hnonce⟩ := sliceOf_keyStream hrawlen
  rw [henc, ok_bind, hfull, ok_bind, hkm, ok_bind, hnonce, ok_bind]
  refine bind (ntorV3AESCTR_safe N) fun msg _ => ?_
  exact safe_pure

end GoTor.Crypto
