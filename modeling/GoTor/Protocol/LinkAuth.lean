import GoTor.Lib.Run
import GoTor.Protocol.CertsFormat
import GoTor.Protocol.Handshake

/-!
# What a handshake proves about the relay

The chain of certificates that would tie the TLS connection to the relay's identities, and
what a client that requires CERTS has checked when the handshake succeeds.  The RSA identity
and the Ed25519 identity are checked.  The certificates behind them are checked if they are
there, but they need not be there, the types inside them are not compared, and the certified
key of type 5 is not compared with the certificate of the TLS connection; so the chain is
there exactly if the relay has sent it (`chain_iff`), and a handshake succeeds without it
(`accepted_without_chain`).
-/

namespace GoTor.Protocol

open GoTor.Lib GoTor.Cell Option CertType LinkM

/-! ### The chain -/

section Chain

variable (L : CertsLib)

/-- The signature of `key` on the fields of a certificate. -/
def Ed25519Certificate.SignedBy (key : Bytes) (e : Ed25519Certificate) : Prop :=
  L.ed25519Verify key e.reconstructSignedBytes e.signature = true

/-- The signature of an RSA key on the fields of a cross-certificate. -/
def Ed25519Certificate.CrossSignedBy (key : RSAPublicKey) (cross : Ed25519Certificate) : Prop :=
  L.verifyPKCS1v15 key
    (L.sha256 <| rsaEd25519CrossCertPrefix ++ cross.reconstructCrossCertFields).toList
    cross.signature = .ok ()

/-- The certificate is not expired, and an X.509 certificate is valid already. -/
def Certificate.Unexpired (now : Int) (cert : Certificate) : Prop :=
  (∀ x ∈ cert.x509Cert, x.notBefore ≤ now ∧ now ≤ x.notAfter) ∧ ∀ ed ∈ cert.ed25519Cert, now ≤ ed.expiresAt

variable (now : Int) (certs : List Certificate)

def Listed (ct : CertType) (cert : Certificate) : Prop :=
  cert ∈ certs ∧ cert.certType = ct ∧ cert.Unexpired now

/-- The RSA identity has the fingerprint, and vouches for the Ed25519 identity. -/
def IdentityVouched (fingerprint : String) (identity : Bytes) : Prop :=
  ∃ type2 type7 x key cross, Listed now certs .rsaID type2 ∧ type2.x509Cert = some x ∧
    x.rsaKey = some key ∧ rsaFingerprint L key = fingerprint ∧
    Listed now certs .ed25519Identity type7 ∧ type7.ed25519Cert = some cross ∧
    cross.CrossSignedBy L key ∧ cross.certifiedKey = identity

def SigningKeyCertified (identity signingKey : Bytes) : Prop :=
  ∃ type4 ed, Listed now certs .ed25519Signing type4 ∧ type4.ed25519Cert = some ed ∧
    ed.certType = ed25519Signing ∧ ed.SignedBy L identity ∧ ed.certifiedKey = signingKey

def TLSCertified (signingKey tlsCert : Bytes) : Prop :=
  ∃ type5 ed, Listed now certs .ed25519TLSLink type5 ∧ type5.ed25519Cert = some ed ∧
    ed.certType = ed25519TLSLink ∧ ed.SignedBy L signingKey ∧
    ed.certifiedKey = (L.sha256 tlsCert).toList

/-- The chain from the relay's identities to the TLS connection. -/
def Chain (fingerprint : String) (identity tlsCert : Bytes) : Prop :=
  IdentityVouched L now certs fingerprint identity ∧
    ∃ signingKey, SigningKeyCertified L now certs identity signingKey ∧ TLSCertified L now certs signingKey tlsCert

/-- What the relay must have sent for the chain: certificates of types 4 and 5 with these
types inside, of which the second one is for the TLS connection and signed with the key of the
first one. -/
def SendsTLSBinding (tlsCert : Bytes) : Prop :=
  ∃ type4 ∈ certs, ∃ type5 ∈ certs, ∃ signing ∈ type4.ed25519Cert, ∃ link ∈ type5.ed25519Cert,
    type4.certType = .ed25519Signing ∧ signing.certType = ed25519Signing ∧
    type5.certType = .ed25519TLSLink ∧ link.certType = ed25519TLSLink ∧
    link.certifiedKey = (L.sha256 tlsCert).toList ∧ link.SignedBy L signing.certifiedKey

instance (key : Bytes) (e : Ed25519Certificate) : Decidable (e.SignedBy L key) :=
  inferInstanceAs (Decidable (_ = true))

instance (tlsCert : Bytes) : Decidable (SendsTLSBinding L certs tlsCert) := by
  unfold SendsTLSBinding
  infer_instance

variable {L now certs} in
lemma Chain.sendsTLSBinding {fingerprint : String} {identity tlsCert : Bytes}
    (h : Chain L now certs fingerprint identity tlsCert) : SendsTLSBinding L certs tlsCert := by
  obtain ⟨-, key, ⟨type4, signing, h4, hed4, hin4, -, rfl⟩, type5, link, h5, hed5, hin5, hsig5, hdigest⟩ := h
  exact ⟨type4, h4.1, type5, h5.1, signing, hed4, link, hed5, h4.2.1, hin4, h5.2.1, hin5, hdigest, hsig5⟩

end Chain

/-! ### What the checks establish -/

section Checks

variable {L : CertsLib} {now : Int} {certs : List Certificate} {cert : Certificate} {cross : Ed25519Certificate}

lemma mem_of_findCertificate {ct : CertType} (h : findCertificate certs ct = some cert) :
    cert ∈ certs ∧ cert.certType = ct :=
  ⟨List.mem_of_find?_eq_some h, by simpa using List.find?_some h⟩

lemma find_bind_eq_some {α : Type} {ct : CertType} {f : Certificate → Option α} {a : α}
    (h : (findCertificate certs ct).bind f = some a) :
    ∃ cert ∈ certs, cert.certType = ct ∧ f cert = some a := by
  obtain ⟨cert, hcert, ha⟩ := bind_eq_some_iff.1 h
  obtain ⟨hmem, hct⟩ := mem_of_findCertificate hcert
  exact ⟨cert, hmem, hct, ha⟩

lemma unexpired_of_validateExpirationOf (h : validateExpirationOf L now cert = .ok ()) : cert.Unexpired now := by
  obtain ⟨_, hx, hed⟩ := bind_eq_ok.1 h
  refine ⟨fun x hx' => ?_, fun ed hed' => ?_⟩
  · simp only [mem_def.1 hx', elim_some, validateX509Expiration, ite_error_eq_ok] at hx
    omega
  · simp only [mem_def.1 hed', elim_some, validateEd25519Expiration, ite_error_eq_ok] at hed
    omega

lemma verify_of_verifySignature {e : Ed25519Certificate} {key : Bytes} (h : e.verifySignature L key = .ok ()) :
    L.ed25519Verify key e.signedMessage e.signature = true := by
  simp only [Ed25519Certificate.verifySignature, ite_error_eq_ok] at h
  simpa using h.2.2.2.1

lemma of_verifyType7RSACrossCert (hwf : ∀ cert ∈ certs, cert.WellFormed L)
    (h : verifyType7RSACrossCert L certs = .ok ()) {type7 : Certificate}
    (h7 : findCertificate certs .ed25519Identity = some type7)
    (hcross : type7.ed25519Cert = some cross) {x : X509Certificate} {key : RSAPublicKey}
    (h2 : (findCertificate certs .rsaID).bind (·.x509Cert) = some x) (hkey : x.rsaKey = some key) :
    cross.CrossSignedBy L key := by
  obtain ⟨hmem, hct⟩ := mem_of_findCertificate h7
  obtain ⟨hfields, hlen⟩ := signedBytes_of_parseCross ((hwf type7 hmem).cross cross hcross hct)
  unfold verifyType7RSACrossCert at h
  rw [h7] at h
  simp only [hcross, h2, hkey] at h
  have hverify := wrapError_eq_ok.1 h
  unfold verifyRSAEd25519CrossCert at hverify
  simp only [show ¬ cross.signedBytes.length = 0 by omega] at hverify
  simp only [ite_error_eq_ok] at hverify
  obtain ⟨-, -, -, hverify⟩ := hverify
  rwa [hfields] at hverify

lemma of_validateSigningCert {type4 : Certificate} {ed : Ed25519Certificate}
    (hwf : type4.WellFormed L) (hct : type4.certType = .ed25519Signing)
    (hed : type4.ed25519Cert = some ed) (h : validateSignatureOf L certs type4 = .ok ())
    (h7 : (findCertificate certs .ed25519Identity).bind (·.ed25519Cert) = some cross) :
    ed.SignedBy L cross.certifiedKey := by
  have hparse := hwf.ed25519 ed hed (by rw [hct]; decide)
  simp only [validateSignatureOf, hed, hct, validateSigningCert, h7] at h
  have hverify := verify_of_verifySignature (wrapError_eq_ok.1 (ite_error_eq_ok.1 h).2)
  rwa [signedMessage_of_parse hparse] at hverify

variable {identity : Bytes}

lemma type7_of_ed25519IdentityKey
    (hsig : ∀ cert ∈ certs, validateSignatureOf L certs cert = .ok ())
    (h : ed25519IdentityKey certs = .ok identity) :
    ∃ cross, (findCertificate certs .ed25519Identity).bind (·.ed25519Cert) = some cross ∧
      cross.certifiedKey = identity := by
  unfold ed25519IdentityKey at h
  cases h7 : (findCertificate certs .ed25519Identity).bind (·.ed25519Cert) with
  | some cross =>
    simp only [h7] at h
    cases (ite_error_eq_ok.1 h).2
    exact ⟨cross, rfl, rfl⟩
  | none =>
    simp only [h7] at h
    cases h4 : (findCertificate certs .ed25519Signing).bind (·.ed25519Cert) with
    | none =>
      rw [h4] at h
      cases h
    | some ed =>
      obtain ⟨type4, hmem, hct, hed⟩ := find_bind_eq_some h4
      have hval := hsig type4 hmem
      simp only [validateSignatureOf, hed, hct, validateSigningCert, h7] at hval
      cases hval

variable {fingerprint : String}

lemma rsaKey_of_validateRSAIdentity (hfp : fingerprint ≠ "") (h : validateRSAIdentity L certs fingerprint = .ok ()) :
    ∃ x key, (findCertificate certs .rsaID).bind (·.x509Cert) = some x ∧ x.rsaKey = some key ∧
      rsaFingerprint L key = fingerprint := by
  rw [validateRSAIdentity, if_neg hfp] at h
  split at h
  · cases h
  next x hx =>
  split at h
  · cases h
  next key hkey =>
  exact ⟨x, key, hx, hkey, not_not.1 (ite_error_eq_ok.1 h).1⟩

lemma identityKey_of_validateRelayIdentity
    (hid : identity ≠ []) (h : validateRelayIdentity L certs fingerprint identity = .ok ()) :
    validateRSAIdentity L certs fingerprint = .ok () ∧ ed25519IdentityKey certs = .ok identity := by
  obtain ⟨_, hrsa, h⟩ := bind_eq_ok.1 h
  refine ⟨hrsa, ?_⟩
  rw [if_pos (List.length_pos_iff.2 hid)] at h
  obtain ⟨key, hkey, h⟩ := bind_eq_ok.1 (ite_error_eq_ok.1 h).2
  rw [hkey, not_not.1 (ite_error_eq_ok.1 h).1]

/-- **The identities are checked**: the RSA identity has the expected fingerprint and vouches
for the expected Ed25519 identity, which has signed every type 4 certificate of the cell. -/
theorem identityVouched_of_validated (hwf : ∀ cert ∈ certs, cert.WellFormed L)
    (hfp : fingerprint ≠ "") (hid : identity ≠ [])
    (hexp : validateExpiration L now certs = .ok ()) (hsig : validateSignatures L certs = .ok ())
    (hval : validateRelayIdentity L certs fingerprint identity = .ok ()) :
    IdentityVouched L now certs fingerprint identity ∧ ∀ type4 ∈ certs, type4.certType = .ed25519Signing →
        ∀ ed, type4.ed25519Cert = some ed → ed.SignedBy L identity := by
  obtain ⟨_, h7ok, hsigs⟩ := bind_eq_ok.1 hsig
  have hsigs := forM_eq_ok.1 hsigs
  have hunexpired : ∀ cert ∈ certs, cert.Unexpired now := fun cert hmem =>
    unexpired_of_validateExpirationOf (forM_eq_ok.1 hexp cert hmem)
  obtain ⟨hrsa, hkey⟩ := identityKey_of_validateRelayIdentity hid hval
  obtain ⟨x, key, h2, hxkey, hfinger⟩ := rsaKey_of_validateRSAIdentity hfp hrsa
  obtain ⟨cross, h7, hcross⟩ := type7_of_ed25519IdentityKey hsigs hkey
  refine ⟨?_, fun type4 hmem hct ed hed => ?_⟩
  · obtain ⟨type2, hmem2, hct2, hx⟩ := find_bind_eq_some h2
    obtain ⟨type7, hfind7, hed7⟩ := bind_eq_some_iff.1 h7
    obtain ⟨hmem7, hct7⟩ := mem_of_findCertificate hfind7
    exact ⟨type2, type7, x, key, cross, ⟨hmem2, hct2, hunexpired type2 hmem2⟩, hx, hxkey, hfinger,
      ⟨hmem7, hct7, hunexpired type7 hmem7⟩, hed7,
      of_verifyType7RSACrossCert hwf h7ok hfind7 hed7 h2 hxkey, hcross⟩
  · rw [← hcross]
    exact of_validateSigningCert (hwf type4 hmem) hct hed (hsigs type4 hmem) h7

end Checks

/-! ### The handshake -/

section Handshake

variable {env : HandshakeEnv} {link link' : Link}

lemma lift_eq_ok {α : Type} {x : Except String α} {a : α} :
    lift x link = .ok a link' ↔ x = .ok a ∧ link' = link := by
  cases x with
  | error e => simp [lift]
  | ok b =>
    simp only [lift, EStateM.Result.ok.injEq, Except.ok.injEq]
    exact and_congr_right fun _ => eq_comm

lemma wrap_eq_ok {α : Type} {label : String} {x : LinkM α} {a : α} :
    wrap label x link = .ok a link' ↔ x link = .ok a link' := by
  unfold wrap
  cases x link with
  | error e s | ok b s => simp

lemma sendCell_incoming {c : Cell} (h : sendCell env c link = .ok () link') : link'.incoming = link.incoming := by
  unfold sendCell at h
  split at h
  · cases h
  · cases h
    rfl

lemma receiveCell_incoming {what : String} {skip : Command → Bool} {c : Cell}
    (h : receiveCell what skip link = .ok c link') :
    receiveFrom what skip link.incoming = (.ok c, link'.incoming) := by
  unfold receiveCell at h
  split at h
  next hrecv =>
    cases h
    exact hrecv
  · cases h

/-- The cell that a client takes for the CERTS cell of the relay: the first one after VERSIONS
that is not PADDING. -/
def certsCell (incoming : List (Except String Cell)) : Option Cell :=
  (receiveFrom "CERTS" (· = .padding) incoming.tail).1.toOption

lemma receiveVersions_incoming {version : ℕ}
    (h : receiveVersions link = .ok version link') : link'.incoming = link.incoming.tail := by
  obtain ⟨c, link1, hrecv, h⟩ := estate_bind_eq_ok.1 h
  have hfrom := receiveCell_incoming hrecv
  have hlink : link' = link1 := by
    split at h
    · cases h
    split at h
    · cases h
    split at h
    · cases h
    · cases h
      rfl
  rw [hlink]
  cases hin : link.incoming with
  | nil =>
    rw [hin] at hfrom
    cases hfrom
  | cons r rest =>
    rw [hin] at hfrom
    cases r with
    | error e => cases hfrom
    | ok c' => exact (Prod.mk.inj hfrom).2.symm

lemma receiveCERTS_checked (h : receiveCERTS env link = .ok () link') :
    ∃ c certs, (receiveFrom "CERTS" (· = .padding) link.incoming).1 = .ok c ∧
      parseCERTSCell env.certs c = .ok certs ∧ checkCERTS env certs = .ok () := by
  obtain ⟨c, link1, hrecv, h⟩ := estate_bind_eq_ok.1 h
  have hfrom := receiveCell_incoming hrecv
  split at h
  · cases h
  obtain ⟨certs, link2, hparse, h⟩ := estate_bind_eq_ok.1 h
  exact ⟨c, certs, congrArg Prod.fst hfrom, wrapError_eq_ok.1 (lift_eq_ok.1 hparse).1, (lift_eq_ok.1 h).1⟩

lemma performHandshake_checked (hrequire : env.cfg.requireCERTS = true) {version : ℕ}
    (h : performHandshake env link = .ok version link') :
    ∃ c certs, certsCell link.incoming = some c ∧ parseCERTSCell env.certs c = .ok certs ∧
      checkCERTS env certs = .ok () := by
  obtain ⟨_, link1, hsend, h⟩ := estate_bind_eq_ok.1 h
  obtain ⟨v, link2, hversions, h⟩ := estate_bind_eq_ok.1 h
  obtain ⟨_, link3, hmodify, h⟩ := estate_bind_eq_ok.1 h
  obtain ⟨_, link4, hcerts, -⟩ := estate_bind_eq_ok.1 h
  have h1 := sendCell_incoming (wrap_eq_ok.1 hsend)
  have h2 := receiveVersions_incoming (wrap_eq_ok.1 hversions)
  have h3 : link3.incoming = link2.incoming := by
    cases hmodify
    rfl
  have hreceive : receiveCERTS env link3 = .ok () link4 := by
    have hcatch : EStateM.tryCatch (receiveCERTS env) _ link3 = .ok () link4 := hcerts
    unfold EStateM.tryCatch at hcatch
    dsimp only at hcatch
    split at hcatch
    next e s heq =>
      rw [if_pos (.inr hrequire)] at hcatch
      cases hcatch
    · exact hcatch
  obtain ⟨c, certs, hfrom, hparse, hcheck⟩ := receiveCERTS_checked hreceive
  refine ⟨c, certs, ?_, hparse, hcheck⟩
  rw [certsCell, ← h1, ← h2, ← h3, hfrom]
  rfl

lemma checkCERTS_validated (hrequire : env.cfg.requireCERTS = true)
    (hidentity : env.cfg.expectedIdentity ≠ []) {certs : List Certificate}
    (h : checkCERTS env certs = .ok ()) :
    validateExpiration env.certs env.now certs = .ok () ∧ validateSignatures env.certs certs = .ok () ∧
      validateRelayIdentity env.certs certs env.cfg.expectedFingerprint env.cfg.expectedIdentity = .ok () := by
  have henforce : ∀ {label : String} {x : Except String Unit}, enforce env label x = .ok () → x = .ok () := by
    intro label x hx
    cases x with
    | ok _ => rfl
    | error e =>
      rw [enforce, if_pos hrequire] at hx
      cases hx
  obtain ⟨_, hexp, h⟩ := bind_eq_ok.1 h
  obtain ⟨_, hsig, h⟩ := bind_eq_ok.1 h
  rw [if_pos (.inl hidentity)] at h
  exact ⟨henforce hexp, henforce hsig, henforce h⟩

/-- **What an accepted handshake says about the TLS connection.**  When a client that requires
CERTS and knows both identities of the relay ends the handshake successfully, the chain of
certificates to the TLS connection is there exactly if the relay has sent the certificates
that bind it. -/
theorem chain_iff (env : HandshakeEnv) (hrequire : env.cfg.requireCERTS = true)
    (hfp : env.cfg.expectedFingerprint ≠ "") (hid : env.cfg.expectedIdentity ≠ [])
    (rawCerts : List Bytes) {version : ℕ} {link link' : Link}
    (h : connectAndHandshake env rawCerts link = .ok version link') :
    ∃ tlsCert c certs, rawCerts.head? = some tlsCert ∧ certsCell link.incoming = some c ∧
      parseCERTSCell env.certs c = .ok certs ∧
      (Chain env.certs env.now certs env.cfg.expectedFingerprint env.cfg.expectedIdentity tlsCert ↔
        SendsTLSBinding env.certs certs tlsCert) := by
  obtain ⟨_, link1, htls, hperform⟩ := estate_bind_eq_ok.1 h
  obtain ⟨htls, rfl⟩ := lift_eq_ok.1 htls
  obtain ⟨c, certs, hcell, hparse, hcheck⟩ := performHandshake_checked hrequire hperform
  obtain ⟨hexp, hsig, hval⟩ := checkCERTS_validated hrequire hid hcheck
  have hwf := wellFormed_of_parse hparse
  obtain ⟨hvouched, hsigned⟩ := identityVouched_of_validated hwf hfp hid hexp hsig hval
  have hunexpired : ∀ cert ∈ certs, cert.Unexpired env.now := fun cert hmem =>
    unexpired_of_validateExpirationOf (forM_eq_ok.1 hexp cert hmem)
  cases rawCerts with
  | nil => cases htls
  | cons tlsCert rest =>
    refine ⟨tlsCert, c, certs, rfl, hcell, hparse, Chain.sendsTLSBinding, ?_⟩
    rintro ⟨type4, hmem4, type5, hmem5, signing, hed4, link, hed5, hct4, hin4, hct5, hin5, hdigest, hsig5⟩
    exact ⟨hvouched, signing.certifiedKey,
      ⟨type4, signing, ⟨hmem4, hct4, hunexpired type4 hmem4⟩, hed4, hin4, hsigned type4 hmem4 hct4 signing hed4, rfl⟩,
      type5, link, ⟨hmem5, hct5, hunexpired type5 hmem5⟩, hed5, hin5, hsig5, hdigest⟩

end Handshake

/-! ### A relay and an impostor -/

/-- Bytes in pieces: the length of each piece, and the number it spells. -/
def wire (pieces : List (ℕ × ℕ)) : Bytes := pieces.flatMap fun p => bytesOfNat p.1 p.2

def relayRSACert : Bytes := wire [
  (44, 0x308201863081f0020101300d06092a864886f70d01010b0500300c310a300806035504030c0172301e170d32),
  (44, 0x36313131353231343435315a170d3336313131323231343435315a300c310a300806035504030c017230819f),
  (44, 0x300d06092a864886f70d010101050003818d0030818902818100ef739d69f9bb250a6e31e5a2f63d5f0a557a),
  (44, 0x5b49497d7bfe43ca42f4e5d5c37da11d4a2eaebe6d01cb846f0938d1242a4ff682d62c4f43bb31e3683291ab),
  (44, 0xc4de401cbf033e1203a98faeadb66fcb0b7a919af46d832a4a3e60370f96d8d753750b0ee5b46c53c9280b12),
  (44, 0x37240f381163baa5cd4efc4ca4c51bd889664b5ae7610203010001300d06092a864886f70d01010b05000381),
  (44, 0x81006b16596d460d3f066df54eb262e09f8ffce996802b8f2ee402faba14748bbc3415a92e713f2a508394c9),
  (44, 0x6df081e41dad98bc76e34e739b0a32555d8d18b649f9e2f331cf2d2b6a8aeb8a88c018be01cc789b2fe55b6d),
  (42, 0x03a05529913583873ae21fed9a3a8638e6923216e74fa3bf5b2ac2016aaabb489b6965ccef222976235e)]

def relayCrossCert : Bytes := wire [
  (44, 0x0466cd72b65f876e066aafc5e663bfeccb9fe3b1102634d162dc54e34cf5aca70007bdad80656834c2dd0cc3),
  (44, 0xe0e111ae0ce0f1c2e32e4a54b44399ca6dc871ab545fc0c6db0bdc32284170376b68f9a0f8f921dec5b2420e),
  (44, 0x367aedfaec3dca7fb5b0a5438042b42f523bd40236a320a4a5c9cb63ee63c530ed689eddfeb411f9ba42517a),
  (33, 0x6a12f200195f2969d174881e567a551f1e8782398879c14b2aa1337a97d62fa758)]

def relaySigningCert : Bytes := wire [
  (44, 0x01040007bdad01832dc0bcea0710f5ac89ef9b844d22fe9f94cf43e6a17c995b08c2cc1ebd20d20100200400),
  (44, 0x0466cd72b65f876e066aafc5e663bfeccb9fe3b1102634d162dc54e34cf5aca7171f51b92771622cedda3abb),
  (44, 0x8985451b711fec5b8189989bfc95b943ae39f50325b943805fe2be0b1f92de91d0ffa3c5cbecb88ac209b4b7),
  (8, 0x6165b75fedf20f0a)]

def relayLinkCert : Bytes := wire [
  (44, 0x01050007bdad036b63948166b3937feca6e75bc1018f78134f4836e803dbc93a83092eed8bbaf800b28d8525),
  (44, 0x885da58f79cc7cad79e8942b8723e8c8ef2985dc249fb9af499a73e422a1fcec5df427e74dedbfb8cb149c81),
  (16, 0xdeba1097ace50c1fd9c4f5344ad17e00)]

def relayTLSCert : Bytes := wire [
  (44, 0x3081fe3081a6020101300a06082a8648ce3d040302300c310a300806035504030c0161301e170d3236313131),
  (44, 0x353231343435315a170d3336313131323231343435315a300c310a300806035504030c01613059301306072a),
  (44, 0x8648ce3d020106082a8648ce3d03010703420004dc9f571b5a5476baffa98cfbb1eef15ca0de920bb73215b2),
  (44, 0x35d92b4613334a9a55d16c0e5d4f872db213dc7cfd9c78a4dd863bb45917bf95b39c61e72d5acdd9300a0608),
  (44, 0x2a8648ce3d040302034700304402206f1716e0f09bcbf6e8b232b004d5c2576e4c95b0c8de453d3aa4948891),
  (37, 0xca69220220322d02fd1d8530326570c9c3938c5aa1bb184c3da958c419f1f0a51c3752aae9)]

def impostorTLSCert : Bytes := wire [
  (44, 0x3081ff3081a6020101300a06082a8648ce3d040302300c310a300806035504030c0162301e170d3236313131),
  (44, 0x353231343435315a170d3336313131323231343435315a300c310a300806035504030c01623059301306072a),
  (44, 0x8648ce3d020106082a8648ce3d030107034200045c10349478b187735289b467633ea160a46f4c5e05145066),
  (44, 0x68eb35d548eb217e06f48b4080d48389eb71fe66a2729ca43ed3f26c3f178b06382e730f84fcdb7c300a0608),
  (44, 0x2a8648ce3d040302034800304502206093bbcc4ec9e3f0a8462a149b1f79d089c71d92c9092c026ee735db5a),
  (38, 0xe01f9c022100bfc2b96971af2bd6debe4ea6d07b2e55e5aab1cd337fada469a9b8f94c0fb51b)]

def seconds (s : Int) : Int := s * 1000000000

def relayX509 (publicKey : PublicKey) : X509Certificate where
  notBefore := seconds 1794779091
  notAfter := seconds 2110139091
  publicKey := some publicKey

/-- The modulus stands in the certificate. -/
def relayRSAKey : RSAPublicKey := ⟨natOfBytes (slice relayRSACert 114 242), 65537⟩

def digestOf (n value : ℕ) : Vector UInt8 n := Vector.ofFn fun i => (bytesOfNat n value).getD i 0

/-- The library's answers on the certificates of the relay and of the impostor. -/
def relayLib : CertsLib where
  parseX509 b :=
    if b = relayRSACert then .ok (relayX509 (.rsa relayRSAKey))
    else if b = relayTLSCert ∨ b = impostorTLSCert then .ok (relayX509 (.ecdsa true))
    else .error "x509: malformed certificate"
  marshalPKCS1PublicKey key := wire [(7, 0x30818902818100), (128, key.n), (5, 0x0203010001)]
  sha1 _ := digestOf 20 0xc0e3231c032b6bcf9e88c43499d89c5df316b8d3
  sha256 b :=
    if b = relayTLSCert then
      digestOf 32 0x6b63948166b3937feca6e75bc1018f78134f4836e803dbc93a83092eed8bbaf8
    else if b = impostorTLSCert then
      digestOf 32 0x697fca722e7c2133d43b7260a5120ffa54c12482121103d6a90f0e0783ada358
    else digestOf 32 0xff41c2fe18f1381bbf8d0c0bc34fbf80502f799e9d58b335e83ddfdae54b9eef
  verifyPKCS1v15 key digest sig :=
    if key = relayRSAKey ∧ sig = relayCrossCert.drop 37 ∧
      digest = bytesOfNat 32 0xff41c2fe18f1381bbf8d0c0bc34fbf80502f799e9d58b335e83ddfdae54b9eef then .ok ()
    else .error "crypto/rsa: verification error"
  ed25519Verify key msg sig :=
    (key, msg ++ sig) = (relayCrossCert.take 32, relaySigningCert) ||
      (key, msg ++ sig) = (slice relaySigningCert 7 39, relayLinkCert)
  formatTime _ := ""

def relayClient : HandshakeEnv where
  certs := relayLib
  cfg := {
    expectedIdentity := relayCrossCert.take 32
    expectedFingerprint := "C0E3231C032B6BCF9E88C43499D89C5DF316B8D3"
    requireCERTS := true }
  now := seconds 1794865491
  sendError _ := none

def certsEntry (ct : CertType) (body : Bytes) : Bytes := ct :: bytesOfNat 2 body.length ++ body

def relayCERTS : Cell :=
  ⟨0, .certs, 4 :: certsEntry .rsaID relayRSACert ++ certsEntry .ed25519Identity relayCrossCert ++
    certsEntry .ed25519Signing relaySigningCert ++ certsEntry .ed25519TLSLink relayLinkCert⟩

/-- What arrives from the relay, or from an impostor that repeats it. -/
def relayLink : Link where
  incoming := [.ok ⟨0, .versions, [0, 4, 0, 5]⟩, .ok relayCERTS, .ok ⟨0, .netinfo, zeros 11⟩]

lemma certsCell_relayLink : certsCell relayLink.incoming = some relayCERTS := rfl

lemma relay_accepted {tlsCert : Bytes} (h : tlsCert = relayTLSCert ∨ tlsCert = impostorTLSCert) :
    ∃ link', connectAndHandshake relayClient [tlsCert] relayLink = .ok 5 link' := by
  have hrun : [relayTLSCert, impostorTLSCert].all (fun tlsCert =>
      match connectAndHandshake relayClient [tlsCert] relayLink with
      | .ok version _ => version == 5
      | .error _ _ => false) = true := by
    decide +kernel
  have hacc := List.all_eq_true.1 hrun tlsCert (by rcases h with rfl | rfl <;> simp)
  generalize connectAndHandshake relayClient [tlsCert] relayLink = r at hacc
  cases r with
  | ok version link' => exact ⟨link', by rw [show version = 5 from eq_of_beq hacc]⟩
  | error e link' => cases hacc

lemma relay_binding {certs : List Certificate}
    (h : parseCERTSCell relayLib relayCERTS = .ok certs) :
    SendsTLSBinding relayLib certs relayTLSCert ∧
      ¬ SendsTLSBinding relayLib certs impostorTLSCert := by
  have hrun : (parseCERTSCell relayLib relayCERTS).toOption.all (fun certs =>
      decide (SendsTLSBinding relayLib certs relayTLSCert ∧
        ¬ SendsTLSBinding relayLib certs impostorTLSCert)) = true := by
    decide +kernel
  rw [h] at hrun
  exact of_decide_eq_true hrun

theorem chain_iff_relay : ∃ certs, parseCERTSCell relayLib relayCERTS = .ok certs ∧
    Chain relayLib relayClient.now certs relayClient.cfg.expectedFingerprint
      relayClient.cfg.expectedIdentity relayTLSCert := by
  obtain ⟨link', haccepted⟩ := relay_accepted (.inl rfl)
  obtain ⟨tlsCert, c, certs, htls, hcell, hparse, hiff⟩ :=
    chain_iff relayClient rfl (by decide) (by decide +kernel) [relayTLSCert] haccepted
  cases htls
  cases hcell.symm.trans certsCell_relayLink
  exact ⟨certs, hparse, hiff.2 (relay_binding hparse).1⟩

/-- An impostor that repeats the CERTS cell of the relay is accepted with its own TLS
certificate. -/
theorem accepted_without_chain : ∃ version link' certs,
    connectAndHandshake relayClient [impostorTLSCert] relayLink = .ok version link' ∧
      certsCell relayLink.incoming = some relayCERTS ∧
      parseCERTSCell relayLib relayCERTS = .ok certs ∧
      ¬ Chain relayLib relayClient.now certs relayClient.cfg.expectedFingerprint
        relayClient.cfg.expectedIdentity impostorTLSCert := by
  obtain ⟨link', haccepted⟩ := relay_accepted (.inr rfl)
  have hparsed : (parseCERTSCell relayLib relayCERTS).toOption.isSome = true := by
    decide +kernel
  cases hparse : parseCERTSCell relayLib relayCERTS with
  | error e =>
    rw [hparse] at hparsed
    cases hparsed
  | ok certs =>
    exact ⟨5, link', certs, haccepted, certsCell_relayLink, rfl, fun hchain =>
      (relay_binding hparse).2 hchain.sendsTLSBinding⟩

end GoTor.Protocol
