import GoTor.Circuit.Onion
import GoTor.Lib.Onion
import GoTor.Relay.CircuitCrypto

/-!
# The code's layers as onion layers

The client's and the relay's code keep the same data for one direction of one hop: a stream
and a running digest, or one CGO direction (`Side`).  Read on that data, the two pieces of
code for the outbound direction form one `Lib.Layer` (`outbound`), and so do the two for the
inbound direction (`inbound`); the laws of a layer are what makes the client and the relay
fit together.  The second half says that the code does just this to a hop: `Hop.originate`
and `Hop.passForward` on the client, `peelInbound`, `encryptOutbound` and `wrapOutbound` on
the relay.
-/

namespace GoTor.Circuit

open GoTor.Lib GoTor.Crypto CGODir

/-- One direction of one hop, as either party keeps it. -/
inductive Side
  | tor1 (cipher : Stream) (digest : Bytes)
  | cgo (dir : CGODir)
  deriving DecidableEq

variable (P : Primitives)

/-! ### The tor1 layer -/

section Tor1

/-- The bytes a tor1 hop would have to find in the digest field. -/
def tor1Sum (digest payload : Bytes) : Bytes := (P.sha1 (digest ++ zeroDigest payload)).toList

def tor1Pass (cipher : Stream) (digest cell : Bytes) : Side × Bytes :=
  (.tor1 (cipher.xorKeyStream P.aes cell).1 digest, (cipher.xorKeyStream P.aes cell).2)

def tor1Stamp (digest payload : Bytes) : Bytes :=
  overwrite 5 ((tor1Sum P digest payload).take 4) payload

def tor1Orig (cipher : Stream) (digest payload : Bytes) : Side × Bytes × Bytes :=
  let r := cipher.xorKeyStream P.aes (tor1Stamp P digest payload)
  (.tor1 r.1 (digest ++ zeroDigest payload), r.2, tor1Sum P digest payload)

/-- The decrypted cell looks like one for this hop. -/
def Tor1Looks (digest cell : Bytes) : Prop :=
  recognizedZero cell = true ∧ (tor1Sum P digest cell).take 4 = digestField cell

instance (digest cell : Bytes) : Decidable (Tor1Looks P digest cell) :=
  inferInstanceAs (Decidable (_ ∧ _))

def tor1Recv (cipher : Stream) (digest cell : Bytes) : Side × Bytes × Option Bytes :=
  let r := cipher.xorKeyStream P.aes cell
  if Tor1Looks P digest r.2 then
    (.tor1 r.1 (digest ++ zeroDigest r.2), r.2, some (tor1Sum P digest r.2))
  else (.tor1 r.1 digest, r.2, none)

variable {P} {cipher : Stream} {digest payload cell : Bytes}

lemma length_take_tor1Sum : ((tor1Sum P digest payload).take 4).length = 4 := by
  simp [tor1Sum]

lemma length_tor1Stamp (h : payload.length = payloadLen) : (tor1Stamp P digest payload).length = payloadLen :=
  length_stamped h length_take_tor1Sum

lemma tor1Sum_stamp (h : payload.length = payloadLen) :
    tor1Sum P digest (tor1Stamp P digest payload) = tor1Sum P digest payload := by
  rw [tor1Sum, tor1Stamp, zeroDigest_stamped h length_take_tor1Sum, tor1Sum]

lemma tor1Recv_tor1Pass (h : ¬ Tor1Looks P digest cell) : tor1Recv P cipher digest (tor1Pass P cipher digest cell).2 =
      ((tor1Pass P cipher digest cell).1, cell, none) := by
  simp only [tor1Recv, tor1Pass, Stream.xorKeyStream_xorKeyStream]
  exact if_neg h

lemma tor1Recv_tor1Orig (h : payload.length = payloadLen) (hrec : recognizedZero payload = true) :
    tor1Recv P cipher digest (tor1Orig P cipher digest payload).2.1 =
      ((tor1Orig P cipher digest payload).1, tor1Stamp P digest payload,
        some (tor1Orig P cipher digest payload).2.2) := by
  have hlooks : Tor1Looks P digest (tor1Stamp P digest payload) := by
    refine ⟨?_, ?_⟩
    · rw [tor1Stamp, recognizedZero_stamped h, hrec]
    · rw [tor1Sum_stamp h, tor1Stamp, digestField_stamped h length_take_tor1Sum]
  have hzero : zeroDigest (tor1Stamp P digest payload) = zeroDigest payload :=
    zeroDigest_stamped h length_take_tor1Sum
  simp only [tor1Recv, tor1Orig, Stream.xorKeyStream_xorKeyStream]
  rw [if_pos hlooks, hzero, tor1Sum_stamp h]

end Tor1

/-! ### The two directions -/

/-- A successful answer of a CGO operation, or the given one. -/
def orElse {α : Type} (x : Except String α) (y : α) : α :=
  match x with
  | .ok a => a
  | .error _ => y

namespace Side

/-- The cell, taken off its layer, looks like one for this hop. -/
def Looks : Side → Bytes → Prop
  | .tor1 _ digest, cell => Tor1Looks P digest cell
  | .cgo dir, cell => Block.copyOf cell = dir.nonce

instance (s : Side) (cell : Bytes) : Decidable (s.Looks P cell) :=
  match s with
  | .tor1 _ digest => inferInstanceAs (Decidable (Tor1Looks P digest cell))
  | .cgo dir => inferInstanceAs (Decidable (Block.copyOf cell = dir.nonce))

/-- What the hop gets to see of a payload: its digest field filled in, or the nonce in its
first block. -/
def stamp : Side → Bytes → Bytes
  | .tor1 _ digest, payload => tor1Stamp P digest payload
  | .cgo dir, payload => overwrite 0 dir.nonce.toList payload

variable (s : Side) (ad : UInt8)

def passOut (cell : Bytes) : Side × Bytes :=
  match s with
  | .tor1 cipher digest => tor1Pass P cipher digest cell
  | .cgo dir =>
    let r := orElse (dir.clientForward P.aes ad cell) (dir, cell)
    (.cgo r.1, r.2)

def origOut (payload : Bytes) : Side × Bytes × Bytes :=
  match s with
  | .tor1 cipher digest => tor1Orig P cipher digest payload
  | .cgo dir =>
    let r := orElse (dir.clientOriginate P.aes ad payload) (dir, payload, [])
    (.cgo r.1, r.2)

def recvOut (cell : Bytes) : Side × Bytes × Option Bytes :=
  match s with
  | .tor1 cipher digest => tor1Recv P cipher digest cell
  | .cgo dir =>
    let r := orElse (dir.relayForward P.aes ad cell) (dir, cell, none)
    (.cgo r.1, r.2)

def passIn (cell : Bytes) : Side × Bytes :=
  match s with
  | .tor1 cipher digest => tor1Pass P cipher digest cell
  | .cgo dir =>
    let r := orElse (dir.relayBackward P.aes ad cell) (dir, cell)
    (.cgo r.1, r.2)

def origIn (payload : Bytes) : Side × Bytes × Bytes :=
  match s with
  | .tor1 cipher digest => tor1Orig P cipher digest (overwrite 1 [0, 0] payload)
  | .cgo dir =>
    let r := orElse (dir.relayOriginate P.aes ad payload) (dir, payload, [])
    (.cgo r.1, r.2)

def recvIn (cell : Bytes) : Side × Bytes × Option Bytes :=
  match s with
  | .tor1 cipher digest => tor1Recv P cipher digest cell
  | .cgo dir =>
    let r := orElse (dir.clientBackward P.aes ad cell) (dir, cell, none)
    (.cgo r.1, r.2)

/-- What the client gets to see of a relay's payload; the relay clears the `recognized` field
itself. -/
def stampIn : Side → Bytes → Bytes
  | .tor1 _ digest, payload => tor1Stamp P digest (overwrite 1 [0, 0] payload)
  | .cgo dir, payload => overwrite 0 dir.nonce.toList payload

/-- The payloads the client may send to the hop: the code does not clear the `recognized`
field of a tor1 cell. -/
def Sendable : Side → Bytes → Prop
  | .tor1 _ _, payload => payload.length = payloadLen ∧ recognizedZero payload = true
  | .cgo _, payload => payload.length = payloadLen

instance (s : Side) (payload : Bytes) : Decidable (s.Sendable payload) :=
  match s with
  | .tor1 _ _ => inferInstanceAs (Decidable (_ ∧ _))
  | .cgo _ => inferInstanceAs (Decidable (_ = _))

end Side

open Side

lemma payloadLen_eq : payloadLen = cgoMsgLen := rfl

lemma recognizedZero_cleared {payload : Bytes} (h : payload.length = payloadLen) :
    recognizedZero (overwrite 1 [0, 0] payload) = true := by
  match payload, h with
  | _ :: _ :: _ :: _, _ => rfl

lemma length_cleared {payload : Bytes} (h : payload.length = payloadLen) :
    (overwrite 1 [0, 0] payload).length = payloadLen := by
  rw [length_overwrite (by simp [h, payloadLen]), h]

variable {cell : Bytes}

lemma length_tor1Recv {cipher : Stream} {digest : Bytes} (h : cell.length = payloadLen) :
    (tor1Recv P cipher digest cell).2.1.length = payloadLen := by
  simp only [tor1Recv]
  split <;> simp [h]

lemma Side.length_recvOut (s : Side) (ad : UInt8) (h : cell.length = payloadLen) :
    (s.recvOut P ad cell).2.1.length = payloadLen := by
  cases s with
  | tor1 cipher digest => exact length_tor1Recv P h
  | cgo dir =>
    obtain ⟨out, hout, hlen⟩ := exists_encUIV P.aes dir ad h
    rw [← payloadLen_eq] at hlen
    simp only [recvOut, relayForward, hout, bind, Except.bind]
    split <;> simpa [orElse, pure, Except.pure] using hlen

lemma Side.length_recvIn (s : Side) (ad : UInt8) (h : cell.length = payloadLen) :
    (s.recvIn P ad cell).2.1.length = payloadLen := by
  cases s with
  | tor1 cipher digest => exact length_tor1Recv P h
  | cgo dir =>
    obtain ⟨out, hout, hlen⟩ := exists_decUIV P.aes dir ad h
    rw [← payloadLen_eq] at hlen
    simp only [recvIn, clientBackward, hout, bind, Except.bind]
    split <;> simpa [orElse, pure, Except.pure] using hlen

/-- **The outbound layer**: the client's `encryptOnion` against the relay's
`peelInbound`. -/
def outbound : Layer Side UInt8 Bytes Bytes where
  pass := passOut P
  orig := origOut P
  recv := recvOut P
  Ok cell := cell.length = payloadLen
  Plain := Side.Sendable
  stamp := stamp P
  Looks := Side.Looks P
  pass_ok := by
    intro s ad cell hok
    cases s with
    | tor1 cipher digest => simp [passOut, tor1Pass, hok]
    | cgo dir =>
      obtain ⟨dir', out, hr, hlen, -⟩ := dir.clientForward_ok P.aes ad hok
      simpa [passOut, orElse, hr, payloadLen_eq] using hlen
  orig_ok := by
    intro s ad payload hplain
    cases s with
    | tor1 cipher digest => simp [origOut, tor1Orig, length_tor1Stamp hplain.1]
    | cgo dir =>
      obtain ⟨dir', out, tag, hr, hlen, -⟩ := dir.clientOriginate_ok P.aes ad hplain
      simpa [origOut, orElse, hr, payloadLen_eq] using hlen
  recv_ok s ad _ hok := s.length_recvOut P ad hok
  recv_pass := by
    intro s ad cell hok hlooks
    cases s with
    | tor1 cipher digest => exact tor1Recv_tor1Pass hlooks
    | cgo dir =>
      obtain ⟨dir', out, hr, -, hrecv⟩ := dir.clientForward_ok P.aes ad hok
      simp [passOut, recvOut, orElse, hr, hrecv hlooks]
  recv_orig := by
    intro s ad payload hplain
    cases s with
    | tor1 cipher digest => exact tor1Recv_tor1Orig hplain.1 hplain.2
    | cgo dir =>
      obtain ⟨dir', out, tag, hr, -, hrecv⟩ := dir.clientOriginate_ok P.aes ad hplain
      simp [origOut, recvOut, stamp, orElse, hr, hrecv]

/-- **The inbound layer**: the relay's `encryptOutbound` and `wrapOutbound` against the
client's `decryptOnion`. -/
def inbound : Layer Side UInt8 Bytes Bytes where
  pass := passIn P
  orig := origIn P
  recv := recvIn P
  Ok cell := cell.length = payloadLen
  Plain _ payload := payload.length = payloadLen
  stamp := stampIn P
  Looks := Side.Looks P
  pass_ok := by
    intro s ad cell hok
    cases s with
    | tor1 cipher digest => simp [passIn, tor1Pass, hok]
    | cgo dir =>
      obtain ⟨dir', out, hr, hlen, -⟩ := dir.relayBackward_ok P.aes ad hok
      simpa [passIn, orElse, hr, payloadLen_eq] using hlen
  orig_ok := by
    intro s ad payload hplain
    cases s with
    | tor1 cipher digest => simp [origIn, tor1Orig, length_tor1Stamp (length_cleared hplain)]
    | cgo dir =>
      obtain ⟨dir', out, tag, hr, hlen, -⟩ := dir.relayOriginate_ok P.aes ad hplain
      simpa [origIn, orElse, hr, payloadLen_eq] using hlen
  recv_ok s ad _ hok := s.length_recvIn P ad hok
  recv_pass := by
    intro s ad cell hok hlooks
    cases s with
    | tor1 cipher digest => exact tor1Recv_tor1Pass hlooks
    | cgo dir =>
      obtain ⟨dir', out, hr, -, hrecv⟩ := dir.relayBackward_ok P.aes ad hok
      simp [passIn, recvIn, orElse, hr, hrecv hlooks]
  recv_orig := by
    intro s ad payload hplain
    cases s with
    | tor1 cipher digest =>
      exact tor1Recv_tor1Orig (length_cleared hplain) (recognizedZero_cleared hplain)
    | cgo dir =>
      obtain ⟨dir', out, tag, hr, -, hrecv⟩ := dir.relayOriginate_ok P.aes ad hplain
      simp [origIn, recvIn, stampIn, orElse, hr, hrecv]

end GoTor.Circuit

/-! ### What the code does to a hop -/

namespace GoTor.Relay.CircuitCrypto

open GoTor.Circuit

def fwd : CircuitCrypto → Side
  | .tor1 fwdCipher _ fwdDigest _ => .tor1 fwdCipher fwdDigest
  | .cgo pair => .cgo pair.fwd

def bwd : CircuitCrypto → Side
  | .tor1 _ bwdCipher _ bwdDigest => .tor1 bwdCipher bwdDigest
  | .cgo pair => .cgo pair.back

end GoTor.Relay.CircuitCrypto

namespace GoTor.Circuit

open GoTor.Lib GoTor.Crypto GoTor.Relay Hop

/-- The client's hop that holds the same data as a relay. -/
def Hop.ofCrypto : CircuitCrypto → Hop
  | .tor1 fwdCipher bwdCipher fwdDigest bwdDigest =>
    { forwardCipher := some fwdCipher
      backwardCipher := some bwdCipher
      forwardDigest := some fwdDigest
      backwardDigest := some bwdDigest }
  | .cgo pair => { cgo := some pair }

lemma deriveHop_eq_ofCrypto {keyMaterial : Bytes} {cc : CircuitCrypto} (h : newCircuitCrypto keyMaterial = .ok cc) :
    deriveHopFromKeyMaterial (keyMaterial.length = cgoKeyMaterialLen) keyMaterial = .ok (ofCrypto cc) := by
  unfold newCircuitCrypto at h
  split at h
  · rename_i hlen
    obtain ⟨pair, hpair, heq⟩ := bind_eq_ok.1 h
    cases heq
    simp [deriveHopFromKeyMaterial, hlen, hpair, ofCrypto, bind, Except.bind, pure, Except.pure]
  · split at h
    · rename_i hne h72
      cases h
      simp [deriveHopFromKeyMaterial, h72, ofCrypto, cgoKeyMaterialLen]
    · cases h

section Client

variable {P : Primitives} {cell : Bytes}

open CircuitCrypto

lemma Hop.passForward_ofCrypto (cc : CircuitCrypto) (ad : UInt8) (h : cell.length = payloadLen) :
    ∃ cc', (ofCrypto cc).passForward P ad cell = .ok (ofCrypto cc', (cc.fwd.passOut P ad cell).2) ∧
      cc'.fwd = (cc.fwd.passOut P ad cell).1 ∧ cc'.bwd = cc.bwd := by
  cases cc with
  | tor1 fwdCipher bwdCipher fwdDigest bwdDigest =>
    exact ⟨.tor1 (fwdCipher.xorKeyStream P.aes cell).1 bwdCipher fwdDigest bwdDigest, rfl, rfl, rfl⟩
  | cgo pair =>
    obtain ⟨dir, out, hr, -⟩ := pair.fwd.clientForward_ok P.aes ad h
    refine ⟨.cgo { pair with fwd := dir }, ?_, ?_, rfl⟩
    · refine bind_eq_ok.2 ⟨_, hr, ?_⟩
      simp [ofCrypto, fwd, Side.passOut, orElse, hr, pure, Except.pure]
    · simp [fwd, Side.passOut, orElse, hr]

variable {payload : Bytes}

lemma Hop.originate_ofCrypto (cc : CircuitCrypto) (ad : UInt8) (h : payload.length = payloadLen) :
    ∃ cc', (ofCrypto cc).originate P ad payload =
        .ok (ofCrypto cc', (cc.fwd.origOut P ad payload).2.1, some (cc.fwd.origOut P ad payload).2.2) ∧
      cc'.fwd = (cc.fwd.origOut P ad payload).1 ∧ cc'.bwd = cc.bwd := by
  cases cc with
  | tor1 fwdCipher bwdCipher fwdDigest bwdDigest =>
    have h9 : 9 ≤ payload.length := by simp [h, payloadLen]
    refine ⟨.tor1 (fwdCipher.xorKeyStream P.aes (tor1Stamp P fwdDigest payload)).1 bwdCipher
      (fwdDigest ++ zeroDigest payload) bwdDigest, ?_, rfl, rfl⟩
    simp [ofCrypto, originate, stampForward, maskForward, h9, fwd, Side.origOut, tor1Orig, tor1Stamp, tor1Sum]
  | cgo pair =>
    obtain ⟨dir, out, tag, hr, -⟩ := pair.fwd.clientOriginate_ok P.aes ad h
    refine ⟨.cgo { pair with fwd := dir }, ?_, ?_, rfl⟩
    · have hlen : ¬ payload.length ≠ cgoMsgLen := not_not.2 h
      simp only [ofCrypto, originate]
      rw [if_neg hlen]
      refine bind_eq_ok.2 ⟨_, hr, ?_⟩
      simp [fwd, Side.origOut, orElse, hr, pure, Except.pure]
    · simp [fwd, Side.origOut, orElse, hr]

lemma encryptOnion_zero (hop : Hop) (hops : List Hop) (ad : UInt8) (payload : Bytes) :
    encryptOnion P (hop :: hops) ad 0 payload =
      match hop.originate P ad payload with
      | .error e => (hop :: hops, .error e)
      | .ok (hop', out, tag) => (hop' :: hops, .ok (out, tag)) := by
  rfl

lemma encryptOnion_succ {hops hops' : List Hop} {ad : UInt8} {d : ℕ} {out : Bytes} {tag : Option Bytes}
    (h : encryptOnion P hops ad d payload = (hops', .ok (out, tag))) (hop : Hop) :
    encryptOnion P (hop :: hops) ad (d + 1 : ℕ) payload = match hop.passForward P ad out with
      | .error e => (hop :: hops', .error e)
      | .ok (hop', out') => (hop' :: hops', .ok (out', tag)) := by
  have hneg : ∀ n : ℕ, ¬ (n : ℤ) < 0 := by
    omega
  simp only [encryptOnion, if_neg (hneg _), Int.toNat_natCast, List.drop_succ_cons, List.take_succ_cons] at h ⊢
  cases hdrop : hops.drop d with
  | nil => simp [hdrop] at h
  | cons destHop behind =>
    simp only [hdrop] at h ⊢
    cases horig : destHop.originate P ad payload with
    | error e => simp [horig] at h
    | ok r =>
      obtain ⟨destHop', out0, tag0⟩ := r
      simp only [horig] at h ⊢
      rcases hw : wrapHops P ad (hops.take d) out0 with ⟨front, res⟩
      simp only [hw, Prod.mk.injEq] at h
      obtain ⟨rfl, hres⟩ := h
      cases res with
      | error e => cases hres
      | ok out1 =>
        cases hres
        simp only [wrapHops, hw]
        cases hop.passForward P ad out with
        | error e | ok r => rfl

/-- **`encryptOnion` is the abstract onion**, and it leaves the inbound layers alone. -/
theorem encryptOnion_ofCrypto (ad : UInt8) {ccs : List CircuitCrypto} {d : ℕ} (hd : d < ccs.length)
    (hplain : ∀ s, (ccs.map fwd)[d]? = some s → s.Sendable payload) :
    ∃ (ccs' : List CircuitCrypto) (ss' : List Side) (out tag : Bytes),
      (outbound P).encrypt ad payload (ccs.map fwd) d = some (ss', out, tag) ∧
      encryptOnion P (ccs.map ofCrypto) ad d payload = (ccs'.map ofCrypto, .ok (out, some tag)) ∧
      ccs'.map fwd = ss' ∧
      ccs'.map bwd = ccs.map bwd := by
  induction ccs generalizing d with
  | nil => exact absurd hd (Nat.not_lt_zero d)
  | cons cc ccs ih =>
    cases d with
    | zero =>
      have hlen : payload.length = payloadLen := by
        cases hs : cc.fwd <;> simp_all [Side.Sendable]
      obtain ⟨cc', horig, hfwd, hbwd⟩ := originate_ofCrypto (P := P) cc ad hlen
      refine ⟨cc' :: ccs, _, _, _, rfl, ?_, ?_, ?_⟩
      · change encryptOnion P (ofCrypto cc :: ccs.map ofCrypto) ad 0 payload = _
        rw [encryptOnion_zero, horig]
        rfl
      · simp [hfwd, outbound]
      · simp [hbwd]
    | succ d =>
      have hplain' : ∀ s, (ccs.map fwd)[d]? = some s → s.Sendable payload := hplain
      obtain ⟨ccs', ss', out, tag, habs, henc, hfwd, hbwd⟩ :=
        ih (Nat.lt_of_succ_lt_succ hd) hplain'
      have hok : out.length = payloadLen := Layer.encrypt_ok hplain' habs
      obtain ⟨cc', hpass, hf, hb⟩ := passForward_ofCrypto (P := P) cc ad hok
      refine ⟨cc' :: ccs', (cc.fwd.passOut P ad out).1 :: ss', (cc.fwd.passOut P ad out).2, tag, ?_, ?_, ?_, ?_⟩
      · simp only [List.map_cons, Layer.encrypt, habs]
        rfl
      · rw [List.map_cons, encryptOnion_succ henc, hpass]
        rfl
      · simp [hf, hfwd]
      · simp [hb, hbwd]

lemma Hop.tor1Recognized_eq {hop : Hop} {written : Bytes}
    (hdigest : hop.backwardDigest = some written) (hlen : 11 ≤ payload.length) :
    hop.tor1Recognized P payload =
      if Tor1Looks P written payload then
        ({ hop with backwardDigest := some (written ++ zeroDigest payload) }, some (tor1Sum P written payload))
      else (hop, none) := by
  simp only [tor1Recognized, hdigest, if_neg (Nat.not_lt.2 hlen), Tor1Looks, tor1Sum]
  by_cases hrec : recognizedZero payload = true
  · by_cases hsum : ((P.sha1 (written ++ zeroDigest payload)).toList).take 4 = digestField payload
    · simp [hrec]
    · simp [hsum]
  · simp [hrec]

lemma Hop.openBackward_ofCrypto (cc : CircuitCrypto) (ad : UInt8) (h : cell.length = payloadLen) :
    ∃ cc', (ofCrypto cc).openBackward P ad cell =
        .ok (ofCrypto cc', (cc.bwd.recvIn P ad cell).2) ∧
      cc'.bwd = (cc.bwd.recvIn P ad cell).1 ∧ cc'.fwd = cc.fwd := by
  cases cc with
  | tor1 fwdCipher bwdCipher fwdDigest bwdDigest =>
    have hlen : 11 ≤ (bwdCipher.xorKeyStream P.aes cell).2.length := by
      simp [h, payloadLen]
    have hrec := tor1Recognized_eq (P := P) (show (ofCrypto (.tor1 fwdCipher
      (bwdCipher.xorKeyStream P.aes cell).1 fwdDigest bwdDigest)).backwardDigest = some bwdDigest from rfl) hlen
    simp only [ofCrypto] at hrec
    simp only [ofCrypto, openBackward, maskBackward, hrec, bwd, Side.recvIn, tor1Recv]
    by_cases hlooks : Tor1Looks P bwdDigest (bwdCipher.xorKeyStream P.aes cell).2
    · refine ⟨.tor1 fwdCipher (bwdCipher.xorKeyStream P.aes cell).1 fwdDigest
        (bwdDigest ++ zeroDigest (bwdCipher.xorKeyStream P.aes cell).2), ?_, ?_, rfl⟩
      · simp only [if_pos hlooks]
      · simp only [if_pos hlooks]
    · refine ⟨.tor1 fwdCipher (bwdCipher.xorKeyStream P.aes cell).1 fwdDigest bwdDigest, ?_, ?_, rfl⟩
      · simp only [if_neg hlooks]
      · simp only [if_neg hlooks]
  | cgo pair =>
    obtain ⟨out, hout, -⟩ := CGODir.exists_decUIV P.aes pair.back ad h
    cases hr : pair.back.clientBackward P.aes ad cell with
    | error e =>
      simp only [CGODir.clientBackward, hout] at hr
      simp only [bind, Except.bind] at hr
      split at hr <;> cases hr
    | ok r =>
      refine ⟨.cgo { pair with back := r.1 }, ?_, ?_, rfl⟩
      · refine bind_eq_ok.2 ⟨_, hr, ?_⟩
        simp [ofCrypto, bwd, Side.recvIn, orElse, hr, pure, Except.pure]
      · simp [bwd, Side.recvIn, orElse, hr]

/-- What `decryptOnion` reports, in the terms of the abstract onion. -/
def Opened.report (r : Opened) : Layer.Opened Bytes Bytes :=
  match r.hopIdx, r.tag with
  | some i, some tag => some (i, r.out, tag)
  | _, _ => none

/-- **`decryptOnion` is the abstract opening**, and it leaves the outbound layers alone. -/
theorem decryptHops_ofCrypto (ad : UInt8) (i : ℕ) (ccs : List CircuitCrypto) (h : cell.length = payloadLen) :
    ∃ (ccs' : List CircuitCrypto) (r : Opened), decryptHops P ad i (ccs.map ofCrypto) cell =
        (ccs'.map ofCrypto, .ok r) ∧
      ccs'.map bwd =
        ((inbound P).openOne i (ccs.map bwd) ad cell).1 ∧
      ccs'.map fwd = ccs.map fwd ∧
      r.report = ((inbound P).openOne i (ccs.map bwd) ad cell).2 := by
  induction ccs generalizing i cell with
  | nil => exact ⟨[], _, rfl, rfl, rfl, rfl⟩
  | cons cc ccs ih =>
    obtain ⟨cc', hopen, hbwd, hfwd⟩ := openBackward_ofCrypto (P := P) cc ad h
    have hlen := cc.bwd.length_recvIn P ad h
    have hrecv : (inbound P).recv = Side.recvIn P := rfl
    rcases hr : cc.bwd.recvIn P ad cell with ⟨s', out, tag⟩
    rw [hr] at hopen hbwd hlen
    cases tag with
    | some tag =>
      refine ⟨cc' :: ccs, ⟨out, some i, some tag, (ofCrypto cc).cgo.isSome⟩, ?_, ?_, ?_, ?_⟩
      · simp [decryptHops, hopen]
      · simp [Layer.openOne, hrecv, hr, hbwd]
      · simp [hfwd]
      · simp [Layer.openOne, hrecv, hr, Opened.report]
    | none =>
      obtain ⟨ccs', r, hdec, hb, hf, hrep⟩ := ih (i + 1) hlen
      refine ⟨cc' :: ccs', r, ?_, ?_, ?_, ?_⟩
      · simp [decryptHops, hopen, hdec]
      · simp [Layer.openOne, hrecv, hr, hbwd, hb]
      · simp [hfwd, hf]
      · simp [Layer.openOne, hrecv, hr, hrep]

end Client

end GoTor.Circuit

namespace GoTor.Relay.CircuitCrypto

open GoTor.Lib GoTor.Crypto GoTor.Circuit

variable {P : Primitives} {cell : Bytes}

lemma exists_relayForward (dir : CGODir) (ad : UInt8) (h : cell.length = payloadLen) :
    ∃ r, dir.relayForward P.aes ad cell = .ok r := by
  obtain ⟨out, hout, -⟩ := CGODir.exists_encUIV P.aes dir ad h
  simp only [CGODir.relayForward, hout, bind, Except.bind]
  split <;> exact ⟨_, rfl⟩

/-- **`peelInbound` is the receiving end of the outbound layer.** -/
theorem peelInbound_eq (cc : CircuitCrypto) (ad : UInt8) (h : cell.length = payloadLen) :
    ∃ cc', cc.peelInbound P cell ad = .ok (cc', (cc.fwd.recvOut P ad cell).2) ∧
      cc'.fwd = (cc.fwd.recvOut P ad cell).1 ∧ cc'.bwd = cc.bwd := by
  have hlen : ¬ cell.length ≠ 509 := not_not.2 h
  cases cc with
  | tor1 fwdCipher bwdCipher fwdDigest bwdDigest =>
    simp only [peelInbound, if_neg hlen, fwd, Side.recvOut, tor1Recv, Tor1Looks, tor1Sum]
    generalize fwdCipher.xorKeyStream P.aes cell = r
    by_cases hrec : recognizedZero r.2 = true
    · by_cases hsum : (P.sha1 (fwdDigest ++ zeroDigest r.2)).toList.take 4 = digestField r.2
      · exact ⟨.tor1 r.1 bwdCipher (fwdDigest ++ zeroDigest r.2) bwdDigest,
          by simp [hrec, hsum], by simp [hrec, hsum], rfl⟩
      · exact ⟨.tor1 r.1 bwdCipher fwdDigest bwdDigest, by simp [hsum], by simp [hsum], rfl⟩
    · exact ⟨.tor1 r.1 bwdCipher fwdDigest bwdDigest, by simp [hrec], by simp [hrec], rfl⟩
  | cgo pair =>
    obtain ⟨r, hr⟩ := exists_relayForward pair.fwd ad h
    refine ⟨.cgo { pair with fwd := r.1 }, ?_, ?_, rfl⟩
    · simp only [peelInbound, if_neg hlen]
      refine bind_eq_ok.2 ⟨_, hr, ?_⟩
      simp [fwd, Side.recvOut, orElse, hr, pure, Except.pure]
    · simp [fwd, Side.recvOut, orElse, hr]

/-- **`encryptOutbound` is the originating end of the inbound layer.** -/
theorem encryptOutbound_eq (cc : CircuitCrypto) {payload : Bytes} (h : payload.length = payloadLen) :
    ∃ cc', cc.encryptOutbound P payload =
        .ok (cc', (cc.bwd.origIn P (cgoAD .relay) payload).2) ∧
      cc'.bwd = (cc.bwd.origIn P (cgoAD .relay) payload).1 ∧ cc'.fwd = cc.fwd := by
  have hlen : ¬ payload.length ≠ 509 := not_not.2 h
  cases cc with
  | tor1 fwdCipher bwdCipher fwdDigest bwdDigest =>
    have hstamp : ∀ sum : Bytes, sum.length = 4 →
        overwrite 5 sum (zeroDigest (overwrite 1 [0, 0] payload)) = overwrite 5 sum (overwrite 1 [0, 0] payload) := by
      intro sum hsum
      exact overwrite_overwrite (by simp [hsum]) (by simp [length_cleared h, payloadLen])
    refine ⟨.tor1 fwdCipher (bwdCipher.xorKeyStream P.aes
      (tor1Stamp P bwdDigest (overwrite 1 [0, 0] payload))).1 fwdDigest
      (bwdDigest ++ zeroDigest (overwrite 1 [0, 0] payload)), ?_, rfl, rfl⟩
    simp only [encryptOutbound, if_neg hlen, bwd, Side.origIn, tor1Orig, tor1Stamp, tor1Sum]
    rw [hstamp _ (by simp)]
  | cgo pair =>
    obtain ⟨back, out, tag, hr, -⟩ := pair.back.relayOriginate_ok P.aes (cgoAD .relay) h
    refine ⟨.cgo { pair with back }, ?_, ?_, rfl⟩
    · simp only [encryptOutbound, if_neg hlen]
      refine bind_eq_ok.2 ⟨_, hr, ?_⟩
      simp [bwd, Side.origIn, orElse, hr, pure, Except.pure]
    · simp [bwd, Side.origIn, orElse, hr]

/-- **`wrapOutbound` is the passing end of the inbound layer.** -/
theorem wrapOutbound_eq (cc : CircuitCrypto) (ad : UInt8) (h : cell.length = payloadLen) :
    ∃ cc', cc.wrapOutbound P cell ad = .ok (cc', (cc.bwd.passIn P ad cell).2) ∧
      cc'.bwd = (cc.bwd.passIn P ad cell).1 ∧ cc'.fwd = cc.fwd := by
  have hlen : ¬ cell.length ≠ 509 := not_not.2 h
  cases cc with
  | tor1 fwdCipher bwdCipher fwdDigest bwdDigest =>
    refine ⟨.tor1 fwdCipher (bwdCipher.xorKeyStream P.aes cell).1 fwdDigest bwdDigest, ?_, rfl, rfl⟩
    simp only [wrapOutbound, if_neg hlen]
    rfl
  | cgo pair =>
    obtain ⟨back, out, hr, -⟩ := pair.back.relayBackward_ok P.aes ad h
    refine ⟨.cgo { pair with back }, ?_, ?_, rfl⟩
    · simp only [wrapOutbound, if_neg hlen]
      refine bind_eq_ok.2 ⟨_, hr, ?_⟩
      simp [bwd, Side.passIn, orElse, hr, pure, Except.pure]
    · simp [bwd, Side.passIn, orElse, hr]

end GoTor.Relay.CircuitCrypto
