import GoTor.Protocol.Certs

/-!
# What the parser of certificates accepts

A parsed certificate is the one on the wire: writing its fields again gives the bytes that the
signature covers (`signedBytes_of_parse`, `signedBytes_of_parseCross`).  So a signature on
those bytes is one on the fields.  A parsed cell holds, for each entry, the certificate of its
body (`wellFormed_of_parse`).
-/

namespace GoTor.Protocol

open GoTor.Lib Ed25519Certificate List

/-! ### Ed25519 certificates -/

lemma unixHoursUint32_hoursToTime {hours : ℕ} (h : hours < 2 ^ 32) : unixHoursUint32 (hoursToTime hours) = hours := by
  unfold unixHoursUint32 hoursToTime
  omega

variable {data : Bytes}

lemma parseExtensions_encode {n offset offset' : ℕ} {exts : List Ed25519Extension} (hoff : offset ≤ data.length)
    (h : parseExtensions data n offset = .ok (exts, offset')) :
    offset ≤ offset' ∧ exts.length = n ∧
      slice data offset offset' = exts.flatMap fun ext =>
        bytesOfNat 2 (min ext.extData.length 65535) ++ [ext.extType, ext.flags] ++ ext.extData := by
  induction n generalizing offset exts with
  | zero =>
    cases h
    simp [slice]
  | succ n ih =>
    simp only [parseExtensions, ite_error_eq_ok] at h
    obtain ⟨hheader, hbody, h⟩ := h
    obtain ⟨⟨exts, off⟩, hrest, h⟩ := bind_eq_ok.1 h
    cases h
    obtain ⟨hle, hlen, henc⟩ := ih (by omega) hrest
    have hlt := (uint16At data offset).toNat_lt
    refine ⟨by omega, by simp [hlen], ?_⟩
    generalize hlenExt : (uint16At data offset).toNat = extLen at *
    have hdata : (slice data (offset + 2 + 2) (offset + 2 + 2 + extLen)).length = extLen := by
      rw [length_slice (by omega)]
      omega
    have hnum : bytesOfNat 2 extLen = slice data offset (offset + 2) := by
      rw [← hlenExt]
      exact bytesOfNat_uint16At (by omega)
    rw [flatMap_cons, ← henc, hdata, Nat.min_eq_left (by omega), hnum]
    rw [← slice_append_slice data (show offset ≤ offset + 2 by omega) (by omega),
      ← slice_append_slice data (show offset + 2 ≤ offset + 2 + 1 by omega) (by omega),
      ← slice_append_slice data (show offset + 2 + 1 ≤ offset + 2 + 2 by omega) (by omega),
      ← slice_append_slice data (show offset + 2 + 2 ≤ offset + 2 + 2 + extLen by omega) hle,
      slice_succ (by omega), slice_succ (by omega)]
    simp

variable {e : Ed25519Certificate} {certs : List Certificate}

/-- **Writing a parsed certificate again gives the signed bytes.** -/
theorem signedBytes_of_parse (h : parseEd25519Certificate data = .ok e) :
    e.signedBytes = e.reconstructSignedBytes ∧ e.signedBytes ≠ [] := by
  simp only [parseEd25519Certificate, ite_error_eq_ok] at h
  obtain ⟨hlen, -, h⟩ := h
  obtain ⟨⟨exts, offset⟩, hexts, h⟩ := bind_eq_ok.1 h
  simp only [ite_error_eq_ok] at h
  obtain ⟨-, htrailing, h⟩ := h
  cases h
  obtain ⟨hle, hcount, henc⟩ := parseExtensions_encode (by omega) hexts
  have hcountLt := (data.getD 39 0).toNat_lt
  have hhoursLen : (slice data 2 6).length = 4 := length_slice (by omega)
  have hhoursLt := natOfBytes_lt (slice data 2 6)
  have hhours := bytesOfNat_natOfBytes (slice data 2 6)
  rw [hhoursLen] at hhoursLt hhours
  refine ⟨?_, ?_⟩
  · -- field by field, in the order of the wire
    have hfields : slice data 0 offset = [data.getD 0 0, data.getD 1 0] ++ slice data 2 6 ++
        [data.getD 6 0] ++ slice data 7 39 ++ [data.getD 39 0] ++ slice data 40 offset := by
      rw [← slice_append_slice data (show 0 ≤ 1 by omega) (show 1 ≤ offset by omega),
        ← slice_append_slice data (show 1 ≤ 2 by omega) (show 2 ≤ offset by omega),
        ← slice_append_slice data (show 2 ≤ 6 by omega) (show 6 ≤ offset by omega),
        ← slice_append_slice data (show 6 ≤ 7 by omega) (show 7 ≤ offset by omega),
        ← slice_append_slice data (show 7 ≤ 39 by omega) (show 39 ≤ offset by omega),
        ← slice_append_slice data (show 39 ≤ 40 by omega) hle,
        slice_succ (show 0 < data.length by omega), slice_succ (show 1 < data.length by omega),
        slice_succ (show 6 < data.length by omega), slice_succ (show 39 < data.length by omega)]
      simp
    have hcountByte : UInt8.ofNat (min exts.length 255) = data.getD 39 0 := by
      rw [hcount, Nat.min_eq_left (by omega)]
      exact UInt8.ofNat_toNat
    simp only [reconstructSignedBytes]
    rw [unixHoursUint32_hoursToTime (by omega), hhours, hcountByte, ← henc, ← hfields, slice_zero]
  · intro hnil
    have := congrArg length hnil
    simp only [length_take, length_nil] at this
    omega

lemma signedMessage_of_parse (h : parseEd25519Certificate data = .ok e) :
    e.signedMessage = e.reconstructSignedBytes := by
  obtain ⟨heq, hne⟩ := signedBytes_of_parse h
  rw [signedMessage, if_pos (length_pos_iff.2 hne), heq]

/-! ### Cross-certificates -/

theorem signedBytes_of_parseCross {cross : Ed25519Certificate} (h : parseRSAEd25519CrossCert data = .ok cross) :
    cross.signedBytes = cross.reconstructCrossCertFields ∧ cross.signedBytes.length = 36 := by
  simp only [parseRSAEd25519CrossCert, ite_error_eq_ok] at h
  obtain ⟨hlen, -, h⟩ := h
  cases h
  have hkey : (slice data 0 32).length = 32 := length_slice (by omega)
  have hhoursLen : (slice data 32 36).length = 4 := length_slice (by omega)
  have hhoursLt := natOfBytes_lt (slice data 32 36)
  have hhours := bytesOfNat_natOfBytes (slice data 32 36)
  rw [hhoursLen] at hhoursLt hhours
  refine ⟨?_, ?_⟩
  · simp only [reconstructCrossCertFields]
    rw [if_neg (by rw [hkey]; decide), unixHoursUint32_hoursToTime (by omega), hhours,
      slice_append_slice data (by omega) (by omega)]
    rfl
  · simp only [length_take, rsaEd25519CrossCertSignedLen]
    omega

/-! ### Cells -/

/-- The parsed parts of a certificate are those of its body. -/
structure Certificate.WellFormed (L : CertsLib) (cert : Certificate) : Prop where
  x509 : ∀ x, cert.x509Cert = some x → L.parseX509 cert.certBody = .ok x
  ed25519 : ∀ ed, cert.ed25519Cert = some ed → cert.certType ≠ .ed25519Identity →
    parseEd25519Certificate cert.certBody = .ok ed
  cross : ∀ ed, cert.ed25519Cert = some ed → cert.certType = .ed25519Identity →
    parseRSAEd25519CrossCert cert.certBody = .ok ed

lemma wrapError_eq_ok {α : Type} {label : String} {x : Except String α} {a : α} :
    wrapError label x = .ok a ↔ x = .ok a := by
  cases x with
  | error e => exact ⟨nofun, nofun⟩
  | ok a => exact Iff.rfl

variable {L : CertsLib}

lemma wellFormed_of_parseEntry {i : ℕ} {certType : CertType} {certBody : Bytes}
    {cert : Certificate} (h : parseEntry L i certType certBody = .ok cert) :
    cert.WellFormed L := by
  unfold parseEntry at h
  split at h
  next hbody =>
    cases h
    unfold parseCertificateBody at hbody
    split at hbody
    · obtain ⟨x, hx, hbody⟩ := bind_eq_ok.1 hbody
      cases hbody
      exact ⟨fun _ h => by cases h; exact wrapError_eq_ok.1 hx, nofun, nofun⟩
    split at hbody
    next hid =>
      obtain ⟨ed, hed, hbody⟩ := bind_eq_ok.1 hbody
      cases hbody
      exact ⟨nofun, fun _ _ h => absurd hid h,
        fun _ h _ => by cases h; exact wrapError_eq_ok.1 hed⟩
    next hid =>
    split at hbody
    · obtain ⟨ed, hed, hbody⟩ := bind_eq_ok.1 hbody
      cases hbody
      exact ⟨nofun, fun _ h _ => by cases h; exact wrapError_eq_ok.1 hed, fun _ _ h => absurd h hid⟩
    · cases hbody
  next =>
  split at h
  · cases h
  · cases h
    exact ⟨nofun, nofun, nofun⟩

lemma wellFormed_of_parseEntries {payload : Bytes} {n i offset : ℕ}
    (h : parseEntries L payload n i offset = .ok certs) : ∀ cert ∈ certs, cert.WellFormed L := by
  induction n generalizing i offset certs with
  | zero =>
    cases h
    nofun
  | succ n ih =>
    simp only [parseEntries, ite_error_eq_ok] at h
    obtain ⟨-, -, h⟩ := h
    obtain ⟨cert, hcert, h⟩ := bind_eq_ok.1 h
    obtain ⟨rest, hrest, h⟩ := bind_eq_ok.1 h
    cases h
    intro c hc
    rcases mem_cons.1 hc with rfl | hc
    · exact wellFormed_of_parseEntry hcert
    · exact ih hrest c hc

/-- **A parsed CERTS cell holds the certificates of its entries.** -/
theorem wellFormed_of_parse {c : Cell} (h : parseCERTSCell L c = .ok certs) : ∀ cert ∈ certs, cert.WellFormed L := by
  simp only [parseCERTSCell, ite_error_eq_ok] at h
  exact wellFormed_of_parseEntries h.2.2

end GoTor.Protocol
