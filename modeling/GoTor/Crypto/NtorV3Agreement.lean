import GoTor.Crypto.NtorV3Server
import Mathlib.Logic.Equiv.Basic
import Mathlib.Data.Vector.Defs

/-!
# Client and relay agree after an ntor-v3 handshake

Both sides build their hash inputs by themselves, from what they know.  The inputs are the same
bytes, so the relay takes the client's onion skin, the client takes the answer, and both have the
same keys.  A skin or an answer with one byte changed is refused.
-/

namespace GoTor.Crypto

open GoTor.Lib Res NtorV3ClientState
open List hiding Vector

lemma copy32_toList (k : Key32) : copy32 k.toList = k := by
  apply Vector.ext
  simp [copy32]

lemma toList_copy32 {b : Bytes} (h : b.length = 32) : (copy32 b).toList = b := by
  apply ext_getElem
  · simp [h]
  · intro i _ hi
    simp [copy32, hi]

/-! ### What each side hashes -/

section Inputs

variable (N : NtorPrimitives)

def ntorV3SkinKeys (Bx X B : Key32) (edID verification : Bytes) : Bytes :=
  ntorV3KDF N ntorV3TMsgKDF (Bx.toList ++ edID ++ X.toList ++ B.toList ++ ascii ntorV3ProtoID ++
    ntorV3Encap verification) (ntorV3EncKeyLen + ntorV3MACLen)

/-- What is hashed to the MAC of an onion skin: everything before the MAC, under its key. -/
def skinMACInput (skin edID verification : Bytes) (b : Key32) : Bytes :=
  let X := copy32 (slice skin 64 96)
  let keys1 := ntorV3SkinKeys N (N.scalarMult b X) X (N.scalarBaseMult b) edID verification
  ntorV3Encap (ascii ntorV3TMsgMAC) ++ ntorV3Encap (keys1.drop 32) ++ skin.take (skin.length - 32)

def ntorV3Secret (Yx Bx B X Y : Key32) (edID verification : Bytes) : Bytes :=
  Yx.toList ++ Bx.toList ++ edID ++ B.toList ++ X.toList ++ Y.toList ++ ascii ntorV3ProtoID ++
    ntorV3Encap verification

/-- What is hashed to the `AUTH` of an answer. -/
def replyAuthInput (reply : Bytes) (st : NtorV3ClientState) (verification : Bytes) : Bytes :=
  let Y := copy32 (slice reply 0 32)
  let secret := ntorV3Secret (N.scalarMult st.x Y) st.Bx st.B st.X Y st.id verification
  ntorV3Encap (ascii ntorV3TAuth) ++ (ntorV3Hash N ntorV3TVerify secret ++ st.id ++ st.B.toList ++
    Y.toList ++ st.X.toList ++ st.msgMAC ++ ntorV3Encap (slice reply 64 reply.length) ++
    ascii ntorV3ProtoID ++ ascii ntorV3ServerStr)

end Inputs

section Skin

variable {N : NtorPrimitives} {skin edID verification : Bytes} {b : Key32} {o : OpenedSkin}

@[simp] lemma length_ntorV3SkinKeys {Bx X B : Key32} : (ntorV3SkinKeys N Bx X B edID verification).length = 64 := by
  simp [ntorV3SkinKeys, ntorV3KDF, ntorV3EncKeyLen, ntorV3MACLen]

lemma skin_take {B : Key32} (hlen : 128 ≤ skin.length) (hid : slice skin 0 32 = edID)
    (hb : slice skin 32 64 = B.toList) : skin.take (skin.length - 32) =
      edID ++ B.toList ++ (copy32 (slice skin 64 96)).toList ++ slice skin 96 (skin.length - 32) := by
  have hX : (copy32 (slice skin 64 96)).toList = slice skin 64 96 :=
    toList_copy32 (length_slice (by omega))
  rw [hX, ← hid, ← hb, slice_append_slice _ (by omega) (by omega),
    slice_append_slice _ (by omega) (by omega), slice_append_slice _ (by omega) (by omega),
    slice_zero]

/-- **What an accepted onion skin is**: the relay's own identity and key, and the right MAC. -/
theorem ntorV3OpenSkin_eq_ok (h : ntorV3OpenSkin N skin edID b.toList verification = .ok o) :
    128 ≤ skin.length ∧ slice skin 0 32 = edID ∧ slice skin 32 64 = (N.scalarBaseMult b).toList ∧
    skin.drop (skin.length - 32) = (N.sha3 (skinMACInput N skin edID verification b)).toList := by
  simp only [ntorV3OpenSkin, ite_err_eq_ok] at h
  obtain ⟨-, -, hlen, h⟩ := h
  have hlen : 128 ≤ skin.length := by
    simp only [ntorV3FixedClientLen, ntorV3IDLen, ntorV3PubLen, ntorV3MACLen] at hlen
    omega
  obtain ⟨id, hid, h⟩ := bind_eq_ok.1 h
  obtain ⟨bClaimed, hb, h⟩ := bind_eq_ok.1 h
  obtain ⟨X, hX, h⟩ := bind_eq_ok.1 h
  obtain ⟨encCM, hcm, h⟩ := bind_eq_ok.1 h
  obtain ⟨msgMAC, hmac, h⟩ := bind_eq_ok.1 h
  rw [sliceOf_eq_ok (by omega) (by omega), Except.ok.injEq] at hid hb hX
  rw [sliceOf_eq_ok (by simp only [ntorV3MACLen]; omega) (by omega), Except.ok.injEq] at hcm hmac
  subst hid hb hX hcm hmac
  simp only [copy32_toList, ite_err_eq_ok] at h
  obtain ⟨hid, hb, -, -, h⟩ := h
  obtain ⟨encK1, hencK, h⟩ := bind_eq_ok.1 h
  obtain ⟨macK1, hmacK, h⟩ := bind_eq_ok.1 h
  rw [sliceOf_eq_ok (by simp [ntorV3KDF]) (by omega), Except.ok.injEq, slice_to_end] at hmacK
  subst hmacK
  obtain ⟨hmac, -⟩ := ite_err_eq_ok.1 h
  rw [Decidable.not_not] at hid hb hmac
  refine ⟨hlen, hid, hb, ?_⟩
  rw [← slice_to_end]
  refine hmac.trans ?_
  rw [skinMACInput, skin_take hlen hid hb]
  rfl

lemma ntorV3OpenSkin_safe {onionPriv : Bytes} :
    (ntorV3OpenSkin N skin edID onionPriv verification).Safe := by
  refine Res.Safe.guard fun _ => ?_
  refine Res.Safe.guard fun _ => ?_
  refine Res.Safe.guard fun hlen => ?_
  have hlen : 128 ≤ skin.length := by
    simp only [ntorV3FixedClientLen, ntorV3IDLen, ntorV3PubLen, ntorV3MACLen] at hlen
    omega
  have hend : 96 ≤ skin.length - ntorV3MACLen := by
    simp only [ntorV3MACLen]
    omega
  refine Res.Safe.bind (sliceOf_safe (by omega) (by omega)) fun id _ => ?_
  refine Res.Safe.bind (sliceOf_safe (by omega) (by omega)) fun bClaimed _ => ?_
  refine Res.Safe.bind (sliceOf_safe (by omega) (by omega)) fun X _ => ?_
  refine Res.Safe.bind (sliceOf_safe hend (by omega)) fun encCM _ => ?_
  refine Res.Safe.bind (sliceOf_safe (by omega) (by omega)) fun msgMAC _ => ?_
  refine Res.Safe.guard fun _ => ?_
  refine Res.Safe.guard fun _ => ?_
  refine Res.Safe.guard fun _ => ?_
  refine Res.Safe.guard fun _ => ?_
  refine Res.Safe.bind (sliceOf_safe (by omega) (by simp [ntorV3KDF])) fun encK1 _ => ?_
  refine Res.Safe.bind (sliceOf_safe (by simp [ntorV3KDF]) (by omega)) fun macK1 _ => ?_
  refine Res.Safe.guard fun _ => ?_
  exact Res.Safe.bind ((ntorV3AESCTR_safe N).wrap _) fun cm _ => safe_pure

end Skin

/-! ### One byte changed -/

def Refused {α : Type} (x : Res α) : Prop := ∃ msg, x = err msg

lemma refused_of_safe {α : Type} {x : Res α} (hsafe : x.Safe) (h : ∀ a, x ≠ .ok a) : Refused x := by
  cases x with
  | ok a => exact absurd rfl (h a)
  | error e =>
    cases e with
    | err msg => exact ⟨msg, rfl⟩
    | panic => exact absurd rfl hsafe

def NoCollision (hash : Bytes → Key32) (a b : Bytes) : Prop := hash a = hash b → a = b

section Changed

variable {N : NtorPrimitives} {skin edID verification : Bytes} {b : Key32} {o : OpenedSkin} {i : ℕ} {v : UInt8}

lemma take_of_skinMACInput {skin' : Bytes} (h : skinMACInput N skin' edID verification b =
    skinMACInput N skin edID verification b) :
    skin'.take (skin'.length - 32) = skin.take (skin.length - 32) := by
  exact (append_inj h (by simp [ntorV3Encap])).2

/-- **A relay refuses an onion skin it takes, once a byte of it is changed.** -/
theorem changed_skin_refused (hok : ntorV3OpenSkin N skin edID b.toList verification = .ok o)
    (hv : skin[i]? ≠ some v) (hi : i < skin.length)
    (hfree : NoCollision N.sha3 (skinMACInput N (skin.set i v) edID verification b)
      (skinMACInput N skin edID verification b)) :
    Refused (ntorV3OpenSkin N (skin.set i v) edID b.toList verification) := by
  refine refused_of_safe ntorV3OpenSkin_safe fun o' hok' => ?_
  obtain ⟨hlen, -, -, hmac⟩ := ntorV3OpenSkin_eq_ok hok
  obtain ⟨-, -, -, hmac'⟩ := ntorV3OpenSkin_eq_ok hok'
  rw [length_set] at hmac'
  -- both parts of the skin are the same, so nothing was changed
  have hsame : (skin.set i v).take (skin.length - 32) = skin.take (skin.length - 32) ∧
      (skin.set i v).drop (skin.length - 32) = skin.drop (skin.length - 32) := by
    by_cases hpart : i < skin.length - 32
    · have hdrop : (skin.set i v).drop (skin.length - 32) = skin.drop (skin.length - 32) :=
        drop_set_of_lt hpart
      have hinput := hfree (Vector.toList_inj.1 (by rw [← hmac, ← hmac', hdrop]))
      have htake := take_of_skinMACInput hinput
      rw [length_set] at htake
      exact ⟨htake, hdrop⟩
    · have htake : (skin.set i v).take (skin.length - 32) = skin.take (skin.length - 32) :=
        take_set_of_le (by omega)
      have hX : slice (skin.set i v) 64 96 = slice skin 64 96 := slice_set_of_le (by omega)
      refine ⟨htake, ?_⟩
      rw [hmac, hmac', skinMACInput, skinMACInput, hX, length_set, htake]
  have hskin : skin.set i v = skin := by
    rw [← take_append_drop (skin.length - 32) (skin.set i v), hsame.1, hsame.2, take_append_drop]
  apply hv
  rw [← hskin, getElem?_set_self hi]

variable {reply : Bytes} {st : NtorV3ClientState} {r : Bytes × Bytes × NtorV3ClientState}

lemma ntorV3ProcessResponse_eq_ok
    (h : ntorV3ProcessResponse N reply (some st) verification = .ok r) : 64 ≤ reply.length ∧
    slice reply 32 64 = (N.sha3 (replyAuthInput N reply st verification)).toList := by
  obtain ⟨hlen, h⟩ := ite_err_eq_ok.1 h
  have hlen : 64 ≤ reply.length := by
    simp only [ntorV3FixedServerLen] at hlen
    omega
  obtain ⟨Y, hY, h⟩ := bind_eq_ok.1 h
  obtain ⟨auth, hauth, h⟩ := bind_eq_ok.1 h
  obtain ⟨encSM, hencSM, h⟩ := bind_eq_ok.1 h
  rw [sliceOf_eq_ok (by omega) (by omega), Except.ok.injEq] at hY hauth hencSM
  subst hY hauth hencSM
  simp only [ite_err_eq_ok] at h
  obtain ⟨-, -, hauth, -⟩ := h
  exact ⟨hlen, Decidable.not_not.1 hauth⟩

lemma parts_of_replyAuthInput {reply' : Bytes} (hlen : 64 ≤ reply.length) (hlen' : reply'.length = reply.length)
    (h : replyAuthInput N reply' st verification = replyAuthInput N reply st verification) :
    slice reply' 0 32 = slice reply 0 32 ∧
      slice reply' 64 reply'.length = slice reply 64 reply.length := by
  simp only [replyAuthInput, append_assoc] at h
  obtain ⟨-, h⟩ := append_inj h rfl
  obtain ⟨-, h⟩ := append_inj h (by simp [ntorV3Hash])
  obtain ⟨-, h⟩ := append_inj h rfl
  obtain ⟨-, h⟩ := append_inj h rfl
  obtain ⟨hY, h⟩ := append_inj h (by simp)
  obtain ⟨-, h⟩ := append_inj h rfl
  obtain ⟨-, h⟩ := append_inj h rfl
  rw [toList_copy32 (length_slice (by omega)), toList_copy32 (length_slice (by omega))] at hY
  have hsm : (slice reply' 64 reply'.length).length = (slice reply 64 reply.length).length := by
    rw [length_slice (Nat.le_refl _), length_slice (Nat.le_refl _), hlen']
  obtain ⟨henc, -⟩ := append_inj h (by simp [ntorV3Encap, hsm])
  exact ⟨hY, (append_inj henc (by simp)).2⟩

/-- **A client refuses an answer it takes, once a byte of it is changed.** -/
theorem changed_reply_refused (hok : ntorV3ProcessResponse N reply (some st) verification = .ok r)
    (hv : reply[i]? ≠ some v) (hi : i < reply.length)
    (hfree : NoCollision N.sha3 (replyAuthInput N (reply.set i v) st verification)
      (replyAuthInput N reply st verification)) :
    Refused (ntorV3ProcessResponse N (reply.set i v) (some st) verification) := by
  refine refused_of_safe (ntorV3ProcessResponse_safe _ _ _ _) fun r' hok' => ?_
  obtain ⟨hlen, hauth⟩ := ntorV3ProcessResponse_eq_ok hok
  obtain ⟨-, hauth'⟩ := ntorV3ProcessResponse_eq_ok hok'
  -- all three parts of the answer are the same, so nothing was changed
  have hsame : slice (reply.set i v) 0 32 = slice reply 0 32 ∧ slice (reply.set i v) 32 64 = slice reply 32 64 ∧
      slice (reply.set i v) 64 (reply.set i v).length = slice reply 64 reply.length := by
    by_cases hpart : 32 ≤ i ∧ i < 64
    · have hY : slice (reply.set i v) 0 32 = slice reply 0 32 := slice_set_of_le hpart.1
      have hSM : slice (reply.set i v) 64 (reply.set i v).length = slice reply 64 reply.length := by
        rw [slice_set_of_lt hpart.2, length_set]
      refine ⟨hY, ?_, hSM⟩
      rw [hauth, hauth', replyAuthInput, replyAuthInput, hY, hSM]
    · have hA : slice (reply.set i v) 32 64 = slice reply 32 64 := by
        rcases Nat.lt_or_ge i 32 with hlt | hge
        · exact slice_set_of_lt hlt
        · exact slice_set_of_le (by omega)
      have hinput := hfree (Vector.toList_inj.1 (by rw [← hauth, ← hauth', hA]))
      obtain ⟨hY, hSM⟩ := parts_of_replyAuthInput hlen (by simp) hinput
      exact ⟨hY, hA, hSM⟩
  have hreply : reply.set i v = reply := by
    have hparts : ∀ l : Bytes, 64 ≤ l.length →
        l = slice l 0 32 ++ slice l 32 64 ++ slice l 64 l.length := by
      intro l hl
      rw [slice_append_slice _ (by omega) (by omega), slice_append_slice _ (by omega) hl,
        slice_zero, take_length]
    rw [hparts (reply.set i v) (by simpa using hlen), hsame.1, hsame.2.1, hsame.2.2, ← hparts reply hlen]
  apply hv
  rw [← hreply, getElem?_set_self hi]

end Changed

/-! ### Agreement -/

/-- Scalar multiplication commutes at the keys of a handshake, and gives no zero point. -/
structure CurveAt (N : NtorPrimitives) (x b y : Key32) : Prop where
  comm_b : N.scalarMult b (N.scalarBaseMult x) = N.scalarMult x (N.scalarBaseMult b)
  comm_y : N.scalarMult y (N.scalarBaseMult x) = N.scalarMult x (N.scalarBaseMult y)
  base_x : isAllZero (N.scalarBaseMult x).toList = false
  base_b : isAllZero (N.scalarBaseMult b).toList = false
  base_y : isAllZero (N.scalarBaseMult y).toList = false
  shared_b : isAllZero (N.scalarMult x (N.scalarBaseMult b)).toList = false
  shared_y : isAllZero (N.scalarMult x (N.scalarBaseMult y)).toList = false

section Agreement

variable {N : NtorPrimitives} {edID verification cm : Bytes} {x b y : Key32}

/-- AES-CTR with the counter at zero. -/
def ntorV3Mask (N : NtorPrimitives) (key msg : Bytes) : Bytes :=
  (({ key, iv := Block.copyOf [] } : Stream).xorKeyStream N.aes256 msg).2

lemma ntorV3AESCTR_eq_ok {key : Bytes} (h : key.length = 32) (msg : Bytes) :
    ntorV3AESCTR N key msg = .ok (ntorV3Mask N key msg) :=
  if_neg (by simp [h, ntorV3EncKeyLen])

@[simp] lemma ntorV3Mask_ntorV3Mask (key msg : Bytes) : ntorV3Mask N key (ntorV3Mask N key msg) = msg :=
  congrArg Prod.snd (Stream.xorKeyStream_xorKeyStream _ _)

@[simp] lemma length_ntorV3Mask (key msg : Bytes) : (ntorV3Mask N key msg).length = msg.length :=
  Stream.length_xorKeyStream _ _

variable (N) (edID) (verification)

def clientKeys (x b : Key32) : Bytes :=
  ntorV3SkinKeys N (N.scalarMult x (N.scalarBaseMult b)) (N.scalarBaseMult x) (N.scalarBaseMult b) edID verification

def clientBody (cm : Bytes) (x b : Key32) : Bytes :=
  edID ++ (N.scalarBaseMult b).toList ++ (N.scalarBaseMult x).toList ++
    ntorV3Mask N ((clientKeys N edID verification x b).take 32) cm

def clientMAC (cm : Bytes) (x b : Key32) : Bytes :=
  ntorV3MAC N ntorV3TMsgMAC ((clientKeys N edID verification x b).drop 32) (clientBody N edID verification cm x b)

def clientState (cm : Bytes) (x b : Key32) : NtorV3ClientState where
  x := x
  X := N.scalarBaseMult x
  B := N.scalarBaseMult b
  id := edID
  Bx := N.scalarMult x (N.scalarBaseMult b)
  msgMAC := clientMAC N edID verification cm x b

lemma sliceOf_clientKeys (x b : Key32) :
    sliceOf (clientKeys N edID verification x b) 0 ntorV3EncKeyLen =
      .ok ((clientKeys N edID verification x b).take 32) ∧
    sliceOf (clientKeys N edID verification x b) ntorV3EncKeyLen (clientKeys N edID verification x b).length =
        .ok ((clientKeys N edID verification x b).drop 32) := by
  have hkeys : (clientKeys N edID verification x b).length = 64 := length_ntorV3SkinKeys
  constructor
  · rw [sliceOf_eq_ok (by omega) (by rw [hkeys]; decide)]
    rfl
  · rw [sliceOf_eq_ok (by rw [hkeys]; decide) (by omega), slice_to_end]
    rfl

variable {verification} {edID} {N}

lemma clientHandshake_eq (hlen : edID.length = 32) (hid : isAllZero edID = false) (hcurve : CurveAt N x b y) :
    ntorV3ClientHandshakeWithKey N edID (N.scalarBaseMult b).toList verification cm x.toList =
      .ok (clientBody N edID verification cm x b ++ clientMAC N edID verification cm x b,
        clientState N edID verification cm x b) := by
  have hkeys : (clientKeys N edID verification x b).length = 64 := length_ntorV3SkinKeys
  obtain ⟨henc, hmac⟩ := sliceOf_clientKeys N edID verification x b
  rw [ntorV3ClientHandshakeWithKey, if_neg (by simp [hlen, ntorV3IDLen]),
    if_neg (by simp [ntorV3PubLen]), if_neg (by simp), if_neg (by simp [hid, hcurve.base_b])]
  simp only [copy32_toList]
  rw [if_neg (by simp [hcurve.shared_b])]
  change (sliceOf (clientKeys N edID verification x b) 0 ntorV3EncKeyLen >>= fun encK1 =>
    sliceOf (clientKeys N edID verification x b) ntorV3EncKeyLen
      (clientKeys N edID verification x b).length >>= fun macK1 =>
    ntorV3AESCTR N encK1 cm >>= _) = _
  rw [henc, hmac, ok_bind, ntorV3AESCTR_eq_ok (by simp [hkeys])]
  rfl

def openedSkin (N : NtorPrimitives) (edID verification cm : Bytes) (x b : Key32) : OpenedSkin where
  B := N.scalarBaseMult b
  X := N.scalarBaseMult x
  Bx := N.scalarMult x (N.scalarBaseMult b)
  msgMAC := clientMAC N edID verification cm x b
  cmPlain := cm

lemma openSkin_client (hlen : edID.length = 32) (hcurve : CurveAt N x b y) :
    ntorV3OpenSkin N (clientBody N edID verification cm x b ++ clientMAC N edID verification cm x b)
      edID b.toList verification = .ok (openedSkin N edID verification cm x b) := by
  have hkeys : (clientKeys N edID verification x b).length = 64 := length_ntorV3SkinKeys
  have hbody : (clientBody N edID verification cm x b).length = 96 + cm.length := by
    simp only [clientBody, length_append, hlen, Vector.length_toList, length_ntorV3Mask]
  have hmac : (clientMAC N edID verification cm x b).length = 32 := by simp [clientMAC, ntorV3MAC]
  generalize hskin : clientBody N edID verification cm x b ++ clientMAC N edID verification cm x b = skin
  have hskinlen : skin.length = 128 + cm.length := by
    rw [← hskin, length_append]
    omega
  -- the five parts of the skin
  have hparts : skin = edID ++ ((N.scalarBaseMult b).toList ++ ((N.scalarBaseMult x).toList ++
      (ntorV3Mask N ((clientKeys N edID verification x b).take 32) cm ++ clientMAC N edID verification cm x b))) := by
    rw [← hskin, clientBody]
    simp only [append_assoc]
  have hid : slice skin 0 32 = edID := by
    rw [hparts]
    exact slice_middle [] edID _ rfl (by simp [hlen])
  have hB : slice skin 32 64 = (N.scalarBaseMult b).toList := by
    rw [hparts]
    exact slice_middle edID _ _ hlen (by simp [hlen])
  have hX : slice skin 64 96 = (N.scalarBaseMult x).toList := by
    rw [hparts, ← append_assoc]
    exact slice_middle _ _ _ (by simp [hlen]) (by simp [hlen])
  have hCM : slice skin 96 (skin.length - ntorV3MACLen) =
      ntorV3Mask N ((clientKeys N edID verification x b).take 32) cm := by
    rw [hparts, ← append_assoc, ← append_assoc]
    exact slice_middle _ _ _ (by simp [hlen]) (by simp [ntorV3MACLen]; omega)
  have hMAC : slice skin (skin.length - ntorV3MACLen) skin.length = clientMAC N edID verification cm x b := by
    rw [slice_to_end, hskinlen, ← hskin]
    exact drop_left' (by rw [ntorV3MACLen]; omega)
  obtain ⟨henc, hmacK⟩ := sliceOf_clientKeys N edID verification x b
  rw [ntorV3OpenSkin, if_neg (by simp [hlen, ntorV3IDLen]), if_neg (by simp),
    if_neg (by simp [hskinlen, ntorV3FixedClientLen, ntorV3IDLen, ntorV3PubLen, ntorV3MACLen])]
  rw [sliceOf_eq_ok (by omega) (by omega), ok_bind, sliceOf_eq_ok (by omega) (by omega), ok_bind,
    sliceOf_eq_ok (by omega) (by omega), ok_bind,
    sliceOf_eq_ok (by simp only [ntorV3MACLen]; omega) (by omega), ok_bind,
    sliceOf_eq_ok (by omega) (by omega), ok_bind]
  rw [hid, hB, hX, hCM, hMAC, if_neg (by simp)]
  simp only [copy32_toList]
  rw [if_neg (by simp), if_neg (by simp [hcurve.base_x]), hcurve.comm_b, if_neg (by simp [hcurve.shared_b])]
  change (sliceOf (clientKeys N edID verification x b) 0 ntorV3EncKeyLen >>= fun encK1 =>
    sliceOf (clientKeys N edID verification x b) ntorV3EncKeyLen
      (clientKeys N edID verification x b).length >>= _) = _
  rw [henc, ok_bind, hmacK, ok_bind, if_neg (by simp [clientMAC, clientBody]),
    ntorV3AESCTR_eq_ok (by simp [hkeys]), ntorV3Mask_ntorV3Mask]
  rfl

def keyMaterialLenOf (cgo : Bool) : ℕ := if cgo then cgoKeyMaterialLen else ntorV3KeyMaterialLen

/-- The keys the relay derives with the ephemeral key `y` from an opened skin. -/
def answerKeys (N : NtorPrimitives) (o : OpenedSkin) (edID verification : Bytes) (y : Key32) (cgo : Bool) : Bytes :=
  ntorV3KDF N ntorV3TFinal (ntorV3Hash N ntorV3TKeySeed (ntorV3Secret (N.scalarMult y o.X) o.Bx o.B
    o.X (N.scalarBaseMult y) edID verification))
    (ntorV3EncKeyLen + keyMaterialLenOf cgo + ntorCircNonceLen)

variable {serverMsg : Option Bytes} {cgo : Bool}

lemma ntorV3Answer_eq_ok {o : OpenedSkin} {reply keyMaterial circNonce : Bytes}
    (h : ntorV3Answer N o edID verification serverMsg y = .ok (reply, keyMaterial, circNonce)) :
    ∃ cgo auth, ntorV3ClientRequestedCGO o.cmPlain = .ok cgo ∧ auth.length = 32 ∧
      reply = (N.scalarBaseMult y).toList ++ auth ++ ntorV3Mask N ((answerKeys N o edID verification y cgo).take 32)
          (serverMsg.getD (encodeNtorV3Extensions [])) := by
  obtain ⟨cgo, hcgo, hrest⟩ := bind_eq_ok.1 h
  obtain ⟨-, hrest⟩ := ite_err_eq_ok.1 hrest
  obtain ⟨encKey, hencKey, hrest⟩ := bind_eq_ok.1 hrest
  obtain ⟨km, -, hrest⟩ := bind_eq_ok.1 hrest
  obtain ⟨nonce, -, hrest⟩ := bind_eq_ok.1 hrest
  obtain ⟨encSM, hencSM, hrest⟩ := bind_eq_ok.1 hrest
  obtain ⟨hbounds, hkey⟩ := of_sliceOf_eq_ok hencKey
  have hkeyLen : encKey.length = 32 := by
    rw [hkey, length_slice hbounds.2]
    rfl
  rw [ntorV3AESCTR_eq_ok hkeyLen] at hencSM
  cases hencSM
  cases hrest
  rw [hkey]
  exact ⟨cgo, _, of_wrap_eq_ok hcgo, by simp [ntorV3Hash], rfl⟩

def finalKeys (N : NtorPrimitives) (edID verification : Bytes) (x b y : Key32) (cgo : Bool) : Bytes :=
  ntorV3KDF N ntorV3TFinal (ntorV3Hash N ntorV3TKeySeed (ntorV3Secret
    (N.scalarMult x (N.scalarBaseMult y)) (N.scalarMult x (N.scalarBaseMult b))
    (N.scalarBaseMult b) (N.scalarBaseMult x) (N.scalarBaseMult y) edID verification))
    (ntorV3EncKeyLen + keyMaterialLenOf cgo + ntorCircNonceLen)

@[simp] lemma length_finalKeys (cgo : Bool) : (finalKeys N edID verification x b y cgo).length =
    32 + keyMaterialLenOf cgo + 20 := by
  simp [finalKeys, ntorV3KDF, ntorV3EncKeyLen, ntorCircNonceLen]

lemma length_take_finalKeys : ((finalKeys N edID verification x b y cgo).take 32).length = 32 := by
  rw [length_take, length_finalKeys]
  omega

def answerBody (N : NtorPrimitives) (edID verification : Bytes) (x b y : Key32) (cgo : Bool)
    (serverMsg : Bytes) : Bytes :=
  ntorV3Mask N ((finalKeys N edID verification x b y cgo).take 32) serverMsg

def answerAuth (N : NtorPrimitives) (edID verification cm : Bytes) (x b y : Key32) (cgo : Bool)
    (serverMsg : Bytes) : Bytes :=
  ntorV3Hash N ntorV3TAuth (ntorV3Hash N ntorV3TVerify (ntorV3Secret
    (N.scalarMult x (N.scalarBaseMult y)) (N.scalarMult x (N.scalarBaseMult b))
    (N.scalarBaseMult b) (N.scalarBaseMult x) (N.scalarBaseMult y) edID verification) ++ edID ++
    (N.scalarBaseMult b).toList ++ (N.scalarBaseMult y).toList ++ (N.scalarBaseMult x).toList ++
    clientMAC N edID verification cm x b ++
    ntorV3Encap (answerBody N edID verification x b y cgo serverMsg) ++
    ascii ntorV3ProtoID ++ ascii ntorV3ServerStr)

lemma ntorV3Answer_eq (hcurve : CurveAt N x b y) (hcgo : ntorV3ClientRequestedCGO cm = .ok cgo) :
    ntorV3Answer N (openedSkin N edID verification cm x b) edID verification serverMsg y =
      .ok ((N.scalarBaseMult y).toList ++
          answerAuth N edID verification cm x b y cgo (serverMsg.getD (encodeNtorV3Extensions [])) ++
          answerBody N edID verification x b y cgo (serverMsg.getD (encodeNtorV3Extensions [])),
        slice (finalKeys N edID verification x b y cgo) 32 (32 + keyMaterialLenOf cgo),
        (finalKeys N edID verification x b y cgo).drop (32 + keyMaterialLenOf cgo)) := by
  have hkeys : (finalKeys N edID verification x b y cgo).length = 32 + keyMaterialLenOf cgo + 20 :=
    length_finalKeys cgo
  have hwrap : (ntorV3ClientRequestedCGO (openedSkin N edID verification cm x b).cmPlain).wrap
      "ntor-v3 client extensions" = .ok cgo := by
    rw [show (openedSkin N edID verification cm x b).cmPlain = cm from rfl, hcgo]
    rfl
  obtain ⟨henc, hkm, hnonce, -⟩ := sliceOf_keyStream hkeys
  rw [ntorV3Answer, hwrap, ok_bind]
  simp only [show (openedSkin N edID verification cm x b).X = N.scalarBaseMult x from rfl, hcurve.comm_y]
  rw [if_neg (by simp [hcurve.shared_y])]
  change (sliceOf (finalKeys N edID verification x b y cgo) 0 ntorV3EncKeyLen >>= fun encKey =>
    sliceOf (finalKeys N edID verification x b y cgo) ntorV3EncKeyLen
      (ntorV3EncKeyLen + keyMaterialLenOf cgo) >>= fun keyMaterial =>
    sliceOf (finalKeys N edID verification x b y cgo) (ntorV3EncKeyLen + keyMaterialLenOf cgo)
      (finalKeys N edID verification x b y cgo).length >>= _) = _
  rw [henc, hkm, hnonce, ok_bind, ntorV3AESCTR_eq_ok length_take_finalKeys]
  rfl

lemma ntorV3ProcessResponse_answer {keyMaterialLen : ℕ} (hcurve : CurveAt N x b y)
    (hlen : (if keyMaterialLen > 0 then keyMaterialLen else ntorV3KeyMaterialLen) =
      keyMaterialLenOf cgo) (serverMsg : Bytes) :
    ntorV3ProcessResponse N ((N.scalarBaseMult y).toList ++ answerAuth N edID verification cm x b y cgo serverMsg ++
        answerBody N edID verification x b y cgo serverMsg)
      (some { clientState N edID verification cm x b with keyMaterialLen }) verification =
      .ok (slice (finalKeys N edID verification x b y cgo) 32 (32 + keyMaterialLenOf cgo), serverMsg,
        { clientState N edID verification cm x b with
          keyMaterialLen
          circNonce := (finalKeys N edID verification x b y cgo).drop (32 + keyMaterialLenOf cgo) }) := by
  have hkeys : (finalKeys N edID verification x b y cgo).length = 32 + keyMaterialLenOf cgo + 20 :=
    length_finalKeys cgo
  have hauth : (answerAuth N edID verification cm x b y cgo serverMsg).length = 32 := by
    simp [answerAuth, ntorV3Hash]
  generalize hreply : (N.scalarBaseMult y).toList ++ answerAuth N edID verification cm x b y cgo serverMsg ++
    answerBody N edID verification x b y cgo serverMsg = reply
  have hreplylen : 64 ≤ reply.length := by
    rw [← hreply]
    simp only [length_append, Vector.length_toList]
    omega
  -- the three parts of the answer
  have hY : slice reply 0 32 = (N.scalarBaseMult y).toList := by
    rw [← hreply, append_assoc]
    exact slice_middle [] _ _ rfl (by simp)
  have hA : slice reply 32 64 = answerAuth N edID verification cm x b y cgo serverMsg := by
    rw [← hreply, append_assoc]
    exact slice_middle _ _ _ (by simp) (by simp [hauth])
  have hSM : slice reply 64 reply.length =
      answerBody N edID verification x b y cgo serverMsg := by
    rw [slice_to_end, ← hreply]
    exact drop_left' (by simp [hauth])
  obtain ⟨henc, -, -, hfull, hkm, hnonce⟩ := sliceOf_keyStream hkeys
  rw [ntorV3ProcessResponse, if_neg (by simp only [ntorV3FixedServerLen]; omega),
    sliceOf_eq_ok (by omega) (by omega), ok_bind, sliceOf_eq_ok (by omega) (by omega), ok_bind,
    sliceOf_eq_ok (by omega) (by omega), ok_bind, hY, hA, hSM]
  simp only [copy32_toList]
  rw [if_neg (by simp [hcurve.base_y])]
  simp only [clientState, hlen, hcurve.shared_y, Bool.false_eq_true, if_false]
  rw [if_neg (by simp [answerAuth, ntorV3Secret])]
  change (sliceOf (finalKeys N edID verification x b y cgo) 0 ntorV3EncKeyLen >>= fun encKey =>
    sliceOf (finalKeys N edID verification x b y cgo) ntorV3EncKeyLen
      (finalKeys N edID verification x b y cgo).length >>= fun full =>
    sliceOf full 0 (keyMaterialLenOf cgo) >>= _) = _
  rw [henc, ok_bind, hfull, ok_bind, hkm, hnonce,
    ntorV3AESCTR_eq_ok length_take_finalKeys, answerBody, ntorV3Mask_ntorV3Mask]
  rfl

end Agreement

/-! ### The client's message -/

section Message

variable {requestCC : Bool} {caps : List SubprotoCap} {cm : Bytes}

lemma encodeSortedCaps_eq_ok {last : Option SubprotoCap} {out : Bytes} (h : encodeSortedCaps last caps = .ok out) :
    caps = [] ∨ last ≠ some ⟨protoRelay, capRelayCGO⟩ ∧ caps = [⟨protoRelay, capRelayCGO⟩] := by
  induction caps generalizing last out with
  | nil => exact .inl rfl
  | cons c caps ih =>
    simp only [encodeSortedCaps, ite_err_eq_ok] at h
    obtain ⟨hallowed, hlast, h⟩ := h
    obtain ⟨rest, hrest, -⟩ := bind_eq_ok.1 h
    have hc : c = ⟨protoRelay, capRelayCGO⟩ := by
      simpa [capAllowed, negotiableSubprotoCaps] using hallowed
    subst hc
    rcases ih hrest with rfl | ⟨hne, -⟩
    · exact .inr ⟨hlast, rfl⟩
    · exact absurd rfl hne

lemma caps_of_encode (h : encodeNtorV3ClientMsg requestCC caps = .ok cm) :
    caps = [] ∨ caps = [⟨protoRelay, capRelayCGO⟩] := by
  by_cases hempty : caps = []
  · exact .inl hempty
  simp only [encodeNtorV3ClientMsg, hempty] at h
  obtain ⟨body, hbody, -⟩ := bind_eq_ok.1 h
  rw [encodeSubprotoRequest, if_neg hempty] at hbody
  have hperm : (sortSubprotoCaps caps).Perm caps := mergeSort_perm _ _
  rcases encodeSortedCaps_eq_ok hbody with hnil | ⟨-, hone⟩
  · rw [hnil] at hperm
    exact .inl hperm.symm.eq_nil
  · rw [hone] at hperm
    exact .inr (perm_singleton.1 hperm.symm)

lemma requestedCGO_of_encode (h : encodeNtorV3ClientMsg requestCC caps = .ok cm) :
    ntorV3ClientRequestedCGO cm = .ok (decide (⟨protoRelay, capRelayCGO⟩ ∈ caps)) := by
  rcases caps_of_encode h with rfl | rfl
  · cases requestCC <;> cases h <;> decide
  have hbody : encodeSubprotoRequest [⟨protoRelay, capRelayCGO⟩] = .ok [2, 6] := by
    simp only [encodeSubprotoRequest, sortSubprotoCaps, mergeSort_singleton]
    rfl
  simp only [encodeNtorV3ClientMsg, hbody] at h
  cases requestCC <;> cases h <;> decide

end Message

/-- What `generateHandshakeData` sets in the client's state after asking for capabilities. -/
def NtorV3ClientState.expecting (st : NtorV3ClientState) (caps : List SubprotoCap) : NtorV3ClientState :=
  { st with keyMaterialLen :=
      if ⟨protoRelay, capRelayCGO⟩ ∈ caps then cgoKeyMaterialLen else st.keyMaterialLen }

section Exchange

variable {N : NtorPrimitives} {edID verification cm : Bytes} {x b y : Key32} {requestCC : Bool}
  {caps : List SubprotoCap}

lemma length_expected (st : NtorV3ClientState) (hst : st.keyMaterialLen = 0) :
    (if (st.expecting caps).keyMaterialLen > 0 then (st.expecting caps).keyMaterialLen else ntorV3KeyMaterialLen) =
      keyMaterialLenOf (decide (⟨protoRelay, capRelayCGO⟩ ∈ caps)) := by
  by_cases hin : ⟨protoRelay, capRelayCGO⟩ ∈ caps
  · simp [expecting, keyMaterialLenOf, hin, cgoKeyMaterialLen]
  · simp [expecting, keyMaterialLenOf, hin, hst]

/-- One whole handshake: the client's skin, what the relay opens and answers, and what the client
makes of it. -/
lemma ntorV3_exchange (serverMsg : Option Bytes) (hlen : edID.length = 32)
    (hid : isAllZero edID = false) (hcurve : CurveAt N x b y)
    (hcm : encodeNtorV3ClientMsg requestCC caps = .ok cm) :
    ∃ skin st o reply keyMaterial circNonce,
      ntorV3ClientHandshakeWithKey N edID (N.scalarBaseMult b).toList verification cm x.toList = .ok (skin, st) ∧
      ntorV3OpenSkin N skin edID b.toList verification = .ok o ∧
      ntorV3ServerHandshakeWithNonce N skin edID b.toList verification serverMsg y =
        .ok (reply, keyMaterial, circNonce) ∧
      ntorV3ProcessResponse N reply (some (st.expecting caps)) verification =
        .ok (keyMaterial, serverMsg.getD (encodeNtorV3Extensions []), { st.expecting caps with circNonce }) ∧
      keyMaterial.length = keyMaterialLenOf (decide (⟨protoRelay, capRelayCGO⟩ ∈ caps)) := by
  have hopen : ntorV3OpenSkin N
      (clientBody N edID verification cm x b ++ clientMAC N edID verification cm x b) edID b.toList
      verification = .ok (openedSkin N edID verification cm x b) := openSkin_client hlen hcurve
  have hexp := @length_expected caps (clientState N edID verification cm x b) rfl
  refine ⟨_, _, _, _, _, _, clientHandshake_eq hlen hid hcurve, hopen, ?_,
    @ntorV3ProcessResponse_answer N edID verification cm x b y _ _ hcurve hexp
      (serverMsg.getD (encodeNtorV3Extensions [])), ?_⟩
  · rw [ntorV3ServerHandshakeWithNonce, hopen]
    exact ntorV3Answer_eq hcurve (requestedCGO_of_encode hcm)
  · rw [length_slice (by rw [length_finalKeys]; omega)]
    omega

end Exchange

/-- **Client and relay agree, and neither takes a message with a byte changed.** -/
theorem ntorV3_handshake (N : NtorPrimitives) (edID verification cm : Bytes) (x b y : Key32)
    (requestCC : Bool) (caps : List SubprotoCap) (serverMsg : Option Bytes)
    (hlen : edID.length = 32) (hid : isAllZero edID = false) (hcurve : CurveAt N x b y)
    (hcm : encodeNtorV3ClientMsg requestCC caps = .ok cm) :
    ∃ skin st reply keyMaterial circNonce,
      ntorV3ClientHandshakeWithKey N edID (N.scalarBaseMult b).toList verification cm x.toList = .ok (skin, st) ∧
      ntorV3ServerHandshakeWithNonce N skin edID b.toList verification serverMsg y =
        .ok (reply, keyMaterial, circNonce) ∧
      ntorV3ProcessResponse N reply (some (st.expecting caps)) verification =
        .ok (keyMaterial, serverMsg.getD (encodeNtorV3Extensions []), { st.expecting caps with circNonce }) ∧
      keyMaterial.length = (if ⟨protoRelay, capRelayCGO⟩ ∈ caps then 160 else 72) ∧
      (∀ i v, i < skin.length → skin[i]? ≠ some v →
        NoCollision N.sha3 (skinMACInput N (skin.set i v) edID verification b)
          (skinMACInput N skin edID verification b) →
        Refused (ntorV3ServerHandshakeWithNonce N (skin.set i v) edID b.toList verification serverMsg y)) ∧
      (∀ i v, i < reply.length → reply[i]? ≠ some v →
        NoCollision N.sha3 (replyAuthInput N (reply.set i v) (st.expecting caps) verification)
          (replyAuthInput N reply (st.expecting caps) verification) →
        Refused (ntorV3ProcessResponse N (reply.set i v) (some (st.expecting caps)) verification)) := by
  obtain ⟨skin, st, o, reply, keyMaterial, circNonce, hskin, hopen, hserver, hclient, hkm⟩ :=
    @ntorV3_exchange N edID verification cm x b y requestCC caps serverMsg hlen hid hcurve hcm
  refine ⟨skin, st, reply, keyMaterial, circNonce, hskin, hserver, hclient, ?_, ?_, ?_⟩
  · rw [hkm]
    simp only [keyMaterialLenOf, decide_eq_true_eq]
    rfl
  · intro i v hi hv hfree
    obtain ⟨msg, hmsg⟩ := changed_skin_refused hopen hv hi hfree
    refine ⟨msg, ?_⟩
    rw [ntorV3ServerHandshakeWithNonce, hmsg]
    rfl
  · intro i v hi hv hfree
    exact changed_reply_refused hclient hv hi hfree

/-! ### One handshake -/

def keyOfNat (n : ℕ) : Key32 := vectorOfNat 32 n

def vectorX : Key32 := keyOfNat 0xb825a3719147bcbe5fb1d0b0fcb9c09e51948048e2e3283d2ab7b45b5ef38b49
def vectorB : Key32 := keyOfNat 0x4051daa5921cfa2a1c27b08451324919538e79e788a81b38cbed097a5dff454a
def vectorY : Key32 := keyOfNat 0x4865a5b7689dafd978f529291c7171bc159be076b92186405d13220b80e2a053
def vectorPubX : Key32 := keyOfNat 0x252fe9ae91264c91d4ecb8501f79d0387e34ad8ca0f7c995184f7d11d5da4f46
def vectorPubB : Key32 := keyOfNat 0xf8307a2bc1870b00b828bb74dbb8fd88e632a6375ab3bcd1ae706aaa8b6cdd1d
def vectorPubY : Key32 := keyOfNat 0x4bf4814326fdab45ad5184f5518bd7fae25dc59374062698201a50a22954246d
def vectorBx : Key32 := keyOfNat 0x0584df6b288a7974a861aba01a2d4d5b008c2f7a0ae4c80cd13acd288748cb1f
def vectorYx : Key32 := keyOfNat 0x61c8d9e5290ec7f3f0c84aa29e0d751bb7c3b473b376c0ea9fd38bd1d3ee1a31
def vectorID : Bytes := bytesOfNat 32 0x9fad2af287ef942632833d21f946c6260c33fae6172b60006e86e4a6911753a2

/-- The two key streams, of the client's message and of the circuit keys. -/
def vectorPhase1 : Bytes :=
  bytesOfNat 32 0x5d5d90c0d559340a9f4c105063bdd0162d074dfab444e7bd54882aaf953d4fec ++
    bytesOfNat 32 0xd7b2497227a173119e54642203712ea1e5d300cba688db5afb2b802f19b35cf2

def vectorFinal : Bytes :=
  bytesOfNat 32 0x49319d0290fe5b3565d99a4fb4695246eb57af7e9f058cbb5f2eeb057fbc6aa6 ++
    bytesOfNat 32 0x2c1ab7f069893275b092398965822cc84bac1af9d8a6d6e7689eb686d41a4a40 ++
    bytesOfNat 32 0xf02b425fed583d7bc64d6d241489eb0eeddfa0302b599154de0b0b73c34df7bc ++
    bytesOfNat 32 0x2281827ab6e75cf5a9f231aae0789abcf531759b655e904c80b747e058e21ec3 ++
    bytesOfNat 32 0x0be7ff07a2c2c6882ef402b33fa5b94aa78020170f5dc289cea1986a21482db6 ++
    bytesOfNat 32 0x457700664f5691093078cfe6380a3be1a834c83033a210bef70d0cd83b8ea255 ++
    bytesOfNat 20 0x60ad4720772a52ed9f4d692982108eca45148966

def vectorBlock (n : ℕ) : Block := ⟨(bytesOfNat 16 n).toArray, by simp⟩

/-- The curve, the hashes and the cipher at the inputs of a handshake for congestion control and
CGO; the hash inputs are told apart by what they are hashed for. -/
def vectorPrimitives : NtorPrimitives where
  scalarMult k P :=
    if k = vectorX ∧ P = vectorPubB ∨ k = vectorB ∧ P = vectorPubX then vectorBx
    else if k = vectorX ∧ P = vectorPubY ∨ k = vectorY ∧ P = vectorPubX then vectorYx
    else Vector.replicate 32 0
  scalarBaseMult k :=
    if k = vectorX then vectorPubX else if k = vectorB then vectorPubB
    else if k = vectorY then vectorPubY else Vector.replicate 32 0
  hmacSha256 _ _ := Vector.replicate 32 0
  hkdfSha256 _ _ _ n := Vector.replicate n 0
  sha3 m :=
    if ntorV3Encap (ascii ntorV3TMsgMAC) <+: m then
      keyOfNat 0x48c23f0baa1046bf5a0479d7d134625bf5db07c0176386bccabe5f20fc8322c0
    else if ntorV3Encap (ascii ntorV3TKeySeed) <+: m then
      keyOfNat 0x3f1b78e0f4da54bd2333c44aedb1b81e7e67a71ebad7606fe581c0150c694a0c
    else if ntorV3Encap (ascii ntorV3TVerify) <+: m then
      keyOfNat 0x6058effb99dbae63299579e90817cafc57b6dbf6f5a232e6686f0edea58eb017
    else keyOfNat 0xb7fadf17c99185b8871de35fa4bfdbcaf676f53a259fe1e02fc78aad23279ea7
  shake256 m _ :=
    if ntorV3Encap (ascii ntorV3TMsgKDF) <+: m then Vector.ofFn fun i => vectorPhase1.getD i 0
    else Vector.ofFn fun i => vectorFinal.getD i 0
  aes256 key :=
    if key = vectorPhase1.take 32 then
      Equiv.swap (Block.copyOf []) (vectorBlock 0x1d4aea3dcc4ef4c8d59d76fdb1b8f830)
    else Equiv.swap (Block.copyOf []) (vectorBlock 0xd1607c02d3b64c5b0d44b1b35a305092)

lemma curveAt_vector : CurveAt vectorPrimitives vectorX vectorB vectorY where
  comm_b := by decide +kernel
  comm_y := by decide +kernel
  base_x := by decide +kernel
  base_b := by decide +kernel
  base_y := by decide +kernel
  shared_b := by decide +kernel
  shared_y := by decide +kernel

/-- A handshake for congestion control and CGO, answered with a `CC_FIELD_RESPONSE`. -/
theorem ntorV3_handshake_vector :
    ∃ skin st reply keyMaterial circNonce,
      ntorV3ClientHandshakeWithKey vectorPrimitives vectorID vectorPubB.toList
        ntorV3CircuitVerification [2, 1, 0, 3, 2, 2, 6] vectorX.toList = .ok (skin, st) ∧
      ntorV3ServerHandshakeWithNonce vectorPrimitives skin vectorID vectorB.toList
        ntorV3CircuitVerification (some [1, 2, 1, 31]) vectorY = .ok (reply, keyMaterial, circNonce) ∧
      ntorV3ProcessResponse vectorPrimitives reply
        (some (st.expecting [⟨protoRelay, capRelayCGO⟩])) ntorV3CircuitVerification = .ok (keyMaterial, [1, 2, 1, 31],
            { st.expecting [⟨protoRelay, capRelayCGO⟩] with circNonce }) ∧
      keyMaterial.length = 160 := by
  have hcm : encodeNtorV3ClientMsg true [⟨protoRelay, capRelayCGO⟩] = .ok [2, 1, 0, 3, 2, 2, 6] := by
    simp only [encodeNtorV3ClientMsg, encodeSubprotoRequest, sortSubprotoCaps, mergeSort_singleton]
    rfl
  obtain ⟨skin, st, reply, keyMaterial, circNonce, hclient, hserver, hprocess, hlen, -⟩ :=
    ntorV3_handshake vectorPrimitives vectorID ntorV3CircuitVerification [2, 1, 0, 3, 2, 2, 6]
      vectorX vectorB vectorY true [⟨protoRelay, capRelayCGO⟩] (some [1, 2, 1, 31])
      (by decide +kernel) (by decide +kernel) curveAt_vector hcm
  have hpub : vectorPrimitives.scalarBaseMult vectorB = vectorPubB := by decide +kernel
  exact ⟨skin, st, reply, keyMaterial, circNonce, hclient, hserver, hprocess, hlen⟩

end GoTor.Crypto
