import GoTor.Onion.DescriptorDecrypt

/-!
# What stands after the signature

The signature of a descriptor covers the text before the signature line, and `ParseDescriptor`
reads on behind it.  Text there changes nothing as long as no line of it has a keyword and it
opens no armored block; a line `revision-counter` or `descriptor-lifetime` overwrites the signed
value, and the document is accepted all the same.
-/

namespace GoTor.Onion

open GoTor.Lib Descriptor ParseState
open List hiding Vector

/-! ### The signature line -/

/-- A signature line with a letter of base64 in its argument, before any dash. -/
def IsSignatureLine (line : Bytes) : Prop :=
  keywordOf line = some .signature ∧
    ∃ c ∈ (argsOf line).takeWhile (· ≠ 45), base64Value c ≠ none

instance : DecidablePred IsSignatureLine := fun _ => inferInstanceAs (Decidable (_ ∧ _))

/-- The text from the signature line on: no further line has a keyword, no armored block starts
and there is no mention of an introduction point. -/
structure Quiet (s : Bytes) : Prop where
  signature : ∃ line ∈ (s.splitOn 10).head?, IsSignatureLine line
  keywords : ∀ line ∈ (s.splitOn 10).tail, keywordOf line = none
  noBegin : ¬ beginMark <:+: s
  noIntro : ¬ ascii "introduction-point" <:+: s

instance : DecidablePred Quiet := fun s =>
  decidable_of_iff ((∃ line ∈ (s.splitOn 10).head?, IsSignatureLine line) ∧
      (∀ line ∈ (s.splitOn 10).tail, keywordOf line = none) ∧ ¬ beginMark <:+: s ∧
      ¬ ascii "introduction-point" <:+: s)
    ⟨fun ⟨h1, h2, h3, h4⟩ => ⟨h1, h2, h3, h4⟩, fun h => ⟨h.1, h.2, h.3, h.4⟩⟩

lemma solid_of_base64Value {c : UInt8} (h : base64Value c ≠ none) : Solid c := by
  have hall : ∀ n : Fin 256, base64Value (UInt8.ofNat n) ≠ none → Solid (UInt8.ofNat n) := by
    decide +kernel
  have hc := hall ⟨c.toNat, c.toNat_lt⟩
  rw [UInt8.ofNat_toNat] at hc
  exact hc h

variable {line : Bytes}

lemma IsSignatureLine.shape (h : IsSignatureLine line) :
    ∃ m c w, trimUnicodeSpace line = ascii "signature" ++ 32 :: (m ++ c :: w) ∧ 45 ∉ m ∧ c ≠ 45 ∧ Solid c := by
  obtain ⟨hkey, c, hc, hletter⟩ := h
  have hbefore : cutBefore 32 (trimUnicodeSpace line) = ascii "signature" := by
    have hfound := find?_some hkey
    exact (of_decide_eq_true hfound).symm
  obtain ⟨m, w, hsplit⟩ := append_of_mem hc
  have hclean : ∀ x ∈ m ++ c :: w, x ≠ 45 := by
    intro x hx
    rw [← hsplit] at hx
    simpa using mem_takeWhile_imp hx
  obtain ⟨w', hargs⟩ : ∃ w', argsOf line = m ++ c :: w' := by
    have := @List.takeWhile_append_dropWhile _ (fun c : UInt8 => decide (c ≠ 45)) (argsOf line)
    rw [hsplit, append_assoc] at this
    exact ⟨_, this.symm⟩
  have hne : cutAfter 32 (trimUnicodeSpace line) ≠ [] := by
    rw [← argsOf, hargs]
    simp
  refine ⟨m, c, w', ?_, fun hm => hclean 45 (by simp [hm]) rfl, hclean c (by simp), solid_of_base64Value hletter⟩
  rw [← hargs, ← hbefore]
  exact cutBefore_append_cutAfter hne

lemma IsSignatureLine.spaced (h : IsSignatureLine line) : Spaced (trimUnicodeSpace line) := by
  obtain ⟨m, c, w, hline, -, -, hc⟩ := h.shape
  exact ⟨ascii "signatur", 101, 32 :: m, c, w, by decide, hc, by simp, by rw [hline]; rfl⟩

lemma IsSignatureLine.not_mark (h : IsSignatureLine line) (mark : Bytes)
    (hmark : mark.head? ≠ some 115) (hne : mark ≠ []) : ¬ mark <+: trimUnicodeSpace line := by
  obtain ⟨m, c, w, hline, -⟩ := h.shape
  intro hpre
  obtain ⟨d, rest, rfl⟩ := exists_cons_of_ne_nil hne
  have hascii : ascii "signature" = 115 :: ascii "ignature" := by decide
  rw [hline, hascii, cons_append, cons_prefix_cons] at hpre
  exact hmark (congrArg some hpre.1)

/-! ### Looking ahead -/

variable {s : Bytes}

lemma spaced_withoutLineEnds (h : Spaced s) : Spaced (withoutLineEnds (trimUnicodeSpace s)) := by
  refine h.trimUnicodeSpace.filter ?_ (by decide)
  intro c hc
  have h10 : c ≠ 10 := by
    rintro rfl
    exact absurd hc (by decide)
  have h13 : c ≠ 13 := by
    rintro rfl
    exact absurd hc (by decide)
  simp [h10, h13]

lemma decodeDescriptorBase64_of_spaced (h : Spaced s) : (decodeDescriptorBase64 s).toOption = none := by
  have hclean := spaced_withoutLineEnds h
  generalize hs : withoutLineEnds (trimUnicodeSpace s) = s' at hclean
  have hstd : ∀ pad, decodeStd (s' ++ pad) = none := fun pad =>
    decodeStd_of_space (mem_append_left _ hclean.mem)
  have hself := hstd []
  rw [append_nil] at hself
  simp only [decodeDescriptorBase64, hs, hstd, hself, decodeRawStd_of_space hclean.mem]
  split <;> simp [Except.toOption]

lemma decodeCertLines_of_spaced {lines : List Bytes} (hmem : line ∈ lines)
    (h : Spaced line) : decodeCertLines lines = none := by
  have hin : line <:+: lines.flatten := infix_of_mem_flatten hmem
  unfold decodeCertLines
  split
  · rfl
  · exact decodeDescriptorBase64_of_spaced (h.of_infix hin)

/-- A signature line, and lines behind it that open no block. -/
structure EndLines (sig : Bytes) (rest : List Bytes) : Prop where
  signature : IsSignatureLine sig
  noBegin : ∀ line ∈ rest, ¬ beginMark <+: trimUnicodeSpace line

lemma certLines_of_noBegin {stopAtText : Bool} {lines : List Bytes}
    (h : ∀ line ∈ lines, ¬ beginMark <+: trimUnicodeSpace line) :
    certLines stopAtText false lines = [] := by
  induction lines with
  | nil => rfl
  | cons line lines ih =>
    rw [forall_mem_cons] at h
    simp only [certLines, if_neg h.1, Bool.false_eq_true, if_false, ih h.2, ite_self]

section Lookahead

open List

variable {sig sig' : Bytes} {rest rest' : List Bytes} (h : EndLines sig rest) (h' : EndLines sig' rest')

include h h'

lemma decodeCertLines_tail (stopAtText inCert : Bool) (read lines : List Bytes) :
    decodeCertLines (read ++ certLines stopAtText inCert (lines ++ sig :: rest)) =
      decodeCertLines (read ++ certLines stopAtText inCert (lines ++ sig' :: rest')) := by
  induction lines generalizing inCert read with
  | nil =>
    have hline : ∀ {sig rest}, EndLines sig rest → certLines stopAtText inCert (sig :: rest) =
        if inCert then trimUnicodeSpace sig :: certLines stopAtText true rest else [] := by
      intro sig rest h
      have hne : trimUnicodeSpace sig ≠ [] := by
        intro hnil
        have := h.signature.spaced.mem
        simp [hnil] at this
      have hbegin := h.signature.not_mark beginMark (by decide) (by decide)
      have hend := h.signature.not_mark endMark (by decide) (by decide)
      have hdashes := h.signature.not_mark dashes (by decide) (by decide)
      simp only [certLines, hbegin, hend, if_false, certLines_of_noBegin h.noBegin]
      split <;> simp
    rw [nil_append, nil_append, hline h, hline h']
    -- An open certificate block swallows the signature line, whose spaces spoil the base64.
    cases inCert with
    | false => rfl
    | true =>
      rw [decodeCertLines_of_spaced (by simp) h.signature.spaced,
        decodeCertLines_of_spaced (by simp) h'.signature.spaced]
  | cons line lines ih =>
    simp only [cons_append, certLines]
    split
    · exact ih _ _
    split
    · rfl
    split
    · split
      · exact ih _ _
      · have := ih true (read ++ [trimUnicodeSpace line])
        simpa using this
    · split
      · rfl
      · exact ih _ _

lemma authKeyOf_tail (lines : List Bytes) :
    authKeyOf (lines ++ sig :: rest) = authKeyOf (lines ++ sig' :: rest') := by
  simp only [authKeyOf, extractFollowingEd25519Cert]
  rw [← nil_append (certLines _ _ (lines ++ sig :: rest)), decodeCertLines_tail h h' true false [] lines, nil_append]

lemma onionKeyOf_tail {args : Bytes} (lines : List Bytes) :
    onionKeyOf args (lines ++ sig :: rest) = onionKeyOf args (lines ++ sig' :: rest') := by
  cases lines with
  | cons line lines => rfl
  | nil =>
    have hntor := h.signature.not_mark (ascii "ntor ") (by decide) (by decide)
    have hntor' := h'.signature.not_mark (ascii "ntor ") (by decide) (by decide)
    simp only [onionKeyOf, nil_append, hntor, hntor', if_false]

/-- **No line before the signature line reads what is behind it.** -/
theorem parseLine_tail (i : ℕ) (line : Bytes) (lines : List Bytes) (st : ParseState) :
    parseLine i line (lines ++ sig :: rest) st = parseLine i line (lines ++ sig' :: rest') st := by
  have hcert := decodeCertLines_tail h h' false false [] lines
  rw [nil_append, nil_append] at hcert
  simp only [parseLine, onionKeyOf_tail h h' lines, authKeyOf_tail h h' lines, hcert]

end Lookahead

/-! ### Whole documents -/

def ParseState.setRaw (raw : Bytes) (st : ParseState) : ParseState :=
  { st with desc := { st.desc with rawDescriptor := raw } }

lemma parseLine_setRaw (raw : Bytes) (i : ℕ) (line : Bytes) (lines : List Bytes) (st : ParseState) :
    parseLine i line lines (st.setRaw raw) = (parseLine i line lines st).map (·.setRaw raw) := by
  have hset : ∀ value set, (st.setRaw raw).setIntro value set = (st.setIntro value set).setRaw raw := by
    intro value set
    cases value <;> rfl
  simp only [parseLine, hset]
  cases keywordOf line with
  | none => rfl
  | some k =>
    cases k with
    | hsDescriptor | descriptorLifetime | descriptorSigningKeyCert | revisionCounter | signature =>
      dsimp only; split <;> rfl
    | introductionPoint | onionKey | authKey | encKey | legacyKey => rfl

lemma parseLines_setRaw (raw : Bytes) (i : ℕ) (lines : List Bytes) (st : ParseState) :
    parseLines i lines (st.setRaw raw) = (parseLines i lines st).map (·.setRaw raw) := by
  induction lines generalizing i st with
  | nil => rfl
  | cons line lines ih =>
    simp only [parseLines, parseLine_setRaw]
    cases parseLine i line lines st with
    | error err => rfl
    | ok st' => exact ih _ _

/-- The state in which `ParseDescriptor` starts, but for the document. -/
def parseStart : ParseState := { desc := { lifetime := minutes 180 } }

lemma parseDescriptor_eq {raw : Bytes} (hne : raw ≠ []) :
    parseDescriptor raw = (parseLines 0 (raw.splitOn 10) parseStart).map fun st =>
      { st.close.desc with rawDescriptor := raw } := by
  have hset := parseLines_setRaw raw 0 (raw.splitOn 10) parseStart
  unfold parseDescriptor
  rw [if_neg hne]
  change (parseLines 0 (raw.splitOn 10) (setRaw raw parseStart) >>= _) = _
  rw [hset]
  cases parseLines 0 (raw.splitOn 10) parseStart <;> rfl

lemma parseLines_of_keywords {lines : List Bytes} (h : ∀ line ∈ lines, keywordOf line = none)
    (i : ℕ) (st : ParseState) : parseLines i lines st = .ok st := by
  induction lines generalizing i with
  | nil => rfl
  | cons line lines ih =>
    rw [forall_mem_cons] at h
    simp only [parseLines, parseLine, h.1]
    exact ih h.2 _

/-- What the signature line does: it closes the introduction point and sets the signature, or
keeps the one there was. -/
def ParseState.sign (sig : Bytes) (st : ParseState) : ParseState :=
  { desc := { st.close.desc with
    signature := (decodeDescriptorBase64 (argsOf sig)).toOption.getD st.desc.signature } }

lemma parseLine_signature {sig : Bytes} (h : IsSignatureLine sig) (i : ℕ) (lines : List Bytes)
    (st : ParseState) : parseLine i sig lines st = .ok (st.sign sig) := by
  simp only [parseLine, h.1]
  cases hdec : decodeDescriptorBase64 (argsOf sig) <;> simp [sign, hdec, Except.toOption, close]

lemma parseLines_tail {sig sig' : Bytes} {rest rest' : List Bytes} (h : EndLines sig rest)
    (h' : EndLines sig' rest') (i : ℕ) (lines : List Bytes) (st : ParseState) :
    ∃ read : Except String ParseState,
      parseLines i (lines ++ sig :: rest) st =
        (read >>= fun st => parseLines (i + lines.length + 1) rest (st.sign sig)) ∧
      parseLines i (lines ++ sig' :: rest') st =
        (read >>= fun st => parseLines (i + lines.length + 1) rest' (st.sign sig')) := by
  induction lines generalizing i st with
  | nil =>
    refine ⟨.ok st, ?_, ?_⟩
    · simp only [nil_append, parseLines, parseLine_signature h.signature]
      rfl
    · simp only [nil_append, parseLines, parseLine_signature h'.signature]
      rfl
  | cons line lines ih =>
    have hline := parseLine_tail h h' i line lines st
    simp only [cons_append, parseLines]
    rw [hline]
    cases parseLine i line (lines ++ sig' :: rest') st with
    | error err => exact ⟨.error err, rfl, rfl⟩
    | ok st' =>
      obtain ⟨read, hread, hread'⟩ := ih (i + 1) st'
      refine ⟨read, ?_, ?_⟩
      · rw [ok_bind, hread, length_cons, Nat.add_right_comm i 1, Nat.add_assoc i _ 1]
      · rw [ok_bind, hread', length_cons, Nat.add_right_comm i 1, Nat.add_assoc i _ 1]

lemma parseDescriptor_tail {before s' sig sig' : Bytes} {rest rest' : List Bytes}
    (hbefore : EndsWith 10 before) (hs : s.splitOn 10 = sig :: rest) (h : EndLines sig rest)
    (hs' : s'.splitOn 10 = sig' :: rest') (h' : EndLines sig' rest')
    (hne : s ≠ []) (hne' : s' ≠ []) :
    ∃ (read : Except String ParseState) (i : ℕ),
      parseDescriptor (before ++ s) = ((read >>= fun st => parseLines i rest (st.sign sig)).map
        fun st => { st.close.desc with rawDescriptor := before ++ s }) ∧
      parseDescriptor (before ++ s') = ((read >>= fun st => parseLines i rest' (st.sign sig')).map
        fun st => { st.close.desc with rawDescriptor := before ++ s' }) := by
  obtain ⟨lines, hlines⟩ := hbefore.splitOn_append
  obtain ⟨read, hread, hread'⟩ := parseLines_tail h h' 0 lines parseStart
  refine ⟨read, 0 + lines.length + 1, ?_, ?_⟩
  · rw [parseDescriptor_eq (by simp [hne]), hlines, hs, hread]
  · rw [parseDescriptor_eq (by simp [hne']), hlines, hs', hread']

namespace Quiet

variable {s : Bytes} (h : Quiet s)

include h

lemma lines : ∃ sig rest, s.splitOn 10 = sig :: rest ∧ EndLines sig rest ∧ ∀ line ∈ rest, keywordOf line = none := by
  obtain ⟨sig, hhead, hsig⟩ := h.signature
  obtain ⟨rest, hs⟩ := head?_eq_some_iff.1 hhead
  refine ⟨sig, rest, hs, ⟨hsig, ?_⟩, ?_⟩
  · intro line hline hbegin
    obtain ⟨x, y, hxy, -⟩ := trimUnicodeSpace_spec line
    have htrim : trimUnicodeSpace line <:+: line := ⟨x, y, hxy.symm⟩
    have hmem : line ∈ s.splitOn 10 := by simp [hs, hline]
    exact h.noBegin ((hbegin.isInfix.trans htrim).trans (infix_of_mem_splitOn hmem))
  · have hkeys := h.keywords
    rwa [hs] at hkeys

lemma ne_nil : s ≠ [] := by
  rintro rfl
  obtain ⟨sig, hhead, hsig⟩ := h.signature
  cases hhead
  exact absurd hsig (by decide)

lemma front : ∃ front, front <+: s ∧ 45 ∉ front ∧ Spaced front := by
  obtain ⟨sig, rest, hs, hend, -⟩ := h.lines
  obtain ⟨m, c, w, hline, hm, hc45, hc⟩ := hend.signature.shape
  obtain ⟨x, y, hxy, hx⟩ := trimUnicodeSpace_spec sig
  refine ⟨x ++ (ascii "signature" ++ 32 :: (m ++ [c])), ?_, ?_, ?_⟩
  · refine List.IsPrefix.trans ?_ (prefix_of_splitOn hs)
    rw [hxy, hline]
    exact ⟨w ++ y, by simp⟩
  · have hx45 : 45 ∉ x := fun hmem => hx 45 hmem (by decide)
    have hword : (45 : UInt8) ∉ ascii "signature" := by decide
    simp [hx45, hword, hm, hc45.symm]
  · exact ⟨x ++ ascii "signatur", 101, 32 :: m, c, [], by decide, hc, by simp,
      by simp [show ascii "signature" = ascii "signatur" ++ [101] by decide]⟩

end Quiet

/-! ### The armored layer -/

lemma not_infix_messageBegin (h : ¬ beginMark <:+: s) : ¬ messageBegin <:+: s := by
  have hpre : beginMark <+: messageBegin := by decide
  exact fun hin => h (hpre.isInfix.trans hin)

lemma decodeArmored_of_spaced (h : Spaced s) : decodeArmored s = none := by
  have hclean := spaced_withoutLineEnds h
  simp only [decodeArmored, decodeDescriptorBase64_of_spaced hclean]
  exact decodeStd_of_space hclean.mem

lemma decodeArmored_take {body : Bytes} {e : ℕ} (h : Quiet s) (hbody : body.length ≤ e)
    (hend : messageEnd <+: (body ++ s).drop e) : decodeArmored ((body ++ s).take e) = none := by
  obtain ⟨front, hfront, hdash, hspaced⟩ := h.front
  have hmark : messageEnd = 45 :: messageEnd.tail := by decide
  rw [drop_append, drop_of_length_le hbody] at hend
  have hle := length_le_of_drop hfront hdash hend
  have hin : front <:+: (body ++ s).take e := by
    rw [take_append]
    have htake : front <+: s.take (e - body.length) :=
      prefix_take_iff.2 ⟨hfront, hle⟩
    exact htake.isInfix.trans (suffix_append _ _).isInfix
  exact decodeArmored_of_spaced (hspaced.of_infix hin)

/-- **The armored layer is found in the part before the signature line, or not at all.** -/
theorem extractArmoredBlob_append {before : Bytes} {keyword : String}
    (hbefore : EndsWith 10 before) (h : Quiet s) (hkey : 10 ∉ ascii keyword) :
    (extractArmoredBlob (before ++ s) keyword).toOption = (extractArmoredBlob before keyword).toOption := by
  unfold extractArmoredBlob
  cases hidx : index (ascii keyword) before with
  | none =>
    cases hidx' : index (ascii keyword) (before ++ s) with
    | none => rfl
    | some idx =>
      -- the keyword only behind the signature line, where no message begins
      have hle := hbefore.length_le_index hkey hidx hidx'
      have hrest : index messageBegin ((before ++ s).drop idx) = none := by
        rw [index_eq_none, drop_append, drop_of_length_le hle]
        exact fun hin => not_infix_messageBegin h.noBegin (hin.trans (drop_suffix _ s).isInfix)
      simp only [hrest]
      rfl
  | some idx =>
    rw [index_append hidx]
    have hdrop : (before ++ s).drop idx = before.drop idx ++ s :=
      drop_append_of_le_length (index_le_length hidx)
    have hrest := hbefore.drop idx
    simp only [hdrop]
    generalize before.drop idx = rest at hrest
    rw [hrest.index_append (by decide) (not_infix_messageBegin h.noBegin)]
    cases hb : index messageBegin rest with
    | none => rfl
    | some b =>
      have hfits : b + messageBegin.length ≤ rest.length := by
        have hlen := (prefix_of_index hb).length_le
        have hle := index_le_length hb
        rw [length_drop] at hlen
        omega
      have hbody := hrest.drop (b + messageBegin.length)
      simp only [drop_append_of_le_length hfits]
      generalize rest.drop (b + messageBegin.length) = body at hbody
      cases he : index messageEnd body with
      | some e =>
        simp only [index_append he, take_append_of_le_length (index_le_length he)]
      | none =>
        cases he' : index messageEnd (body ++ s) with
        | none => rfl
        | some e =>
          -- the end only there: what is between does not decode
          have hle := hbody.length_le_index (by decide) he he'
          simp only [decodeArmored_take h hle (prefix_of_index he')]
          rfl

/-! ### Decryption -/

/-- What a client takes from a decrypted descriptor. -/
def Descriptor.introData (d : Descriptor) : List IntroductionPoint × Option PoWParams × Option FlowControlParams :=
  (d.introPoints, d.powParams, d.flowControl)

variable {d' : Descriptor}

lemma decryptDescriptor_congr {L : DescLib} {d : Descriptor} {address : Address}
    {timePeriod : ℕ} (hblinded : d'.blindedPubkey = d.blindedPubkey)
    (hrev : d'.revisionCounter = d.revisionCounter) (hdata : d'.introData = d.introData)
    (hblob : (extractArmoredBlob d'.rawDescriptor "superencrypted").toOption =
      (extractArmoredBlob d.rawDescriptor "superencrypted").toOption)
    (hintro : (index (ascii "introduction-point") d'.rawDescriptor).isSome =
      (index (ascii "introduction-point") d.rawDescriptor).isSome) :
    (decryptDescriptor L d' address timePeriod).toOption.map introData =
      (decryptDescriptor L d address timePeriod).toOption.map introData := by
  simp only [decryptDescriptor, hblinded, hrev, hintro]
  split
  · rfl
  cases hb : extractArmoredBlob d.rawDescriptor "superencrypted" with
  | error err =>
    rw [hb] at hblob
    cases hb' : extractArmoredBlob d'.rawDescriptor "superencrypted" with
    | ok blob => simp [hb', Except.toOption] at hblob
    | error err' =>
      dsimp only
      split
      · exact congrArg some hdata
      · rfl
  | ok blob =>
    rw [hb] at hblob
    cases hb' : extractArmoredBlob d'.rawDescriptor "superencrypted" with
    | error err' => simp [hb', Except.toOption] at hblob
    | ok blob' =>
      simp only [hb'] at hblob
      cases hblob
      dsimp only
      split
      · rfl
      · split
        · rfl
        · split <;> rfl

/-! ### A further line -/

variable (k : Keyword)

def numberLine (n : ℕ) : Bytes := k.text ++ 32 :: itoa n

lemma Keyword.text_spec :
    32 ∉ k.text ∧ 10 ∉ k.text ∧ ∃ c rest, k.text = c :: rest ∧ Solid c ∧ c ≠ 45 := by
  have hhead : ∀ k : Keyword, Solid (k.text.headD 0) ∧ k.text.headD 0 ≠ 45 ∧ k.text ≠ [] := by
    intro k
    cases k <;> decide
  obtain ⟨hsolid, hdash, hne⟩ := hhead k
  obtain ⟨c, rest, hk⟩ := exists_cons_of_ne_nil hne
  rw [hk] at hsolid hdash
  exact ⟨by cases k <;> decide, by cases k <;> decide, c, rest, hk, hsolid, hdash⟩

lemma trimUnicodeSpace_numberLine (n : ℕ) : trimUnicodeSpace (numberLine k n) = numberLine k n := by
  obtain ⟨-, -, c, rest, hk, hc, -⟩ := k.text_spec
  obtain ⟨hdigits, hne⟩ := itoa_spec n
  obtain ⟨init, e, hn⟩ := (eq_nil_or_concat (itoa n)).resolve_left hne
  have he : Solid e := (solid_of_isDigit (hdigits e (by simp [hn]))).1
  have hline : numberLine k n = c :: ((rest ++ 32 :: init) ++ [e]) := by
    simp [numberLine, hk, hn]
  rw [hline]
  exact trimUnicodeSpace_eq_self hc he

lemma keywordOf_numberLine (n : ℕ) : keywordOf (numberLine k n) = some k := by
  have hfind : Keyword.all.find? (fun k' => k'.text = k.text) = some k := by
    cases k <;> decide
  rw [keywordOf, lookupKeyword, trimUnicodeSpace_numberLine, numberLine, cutBefore_append k.text_spec.1]
  exact hfind

lemma argsOf_numberLine (n : ℕ) : argsOf (numberLine k n) = itoa n := by
  rw [argsOf, trimUnicodeSpace_numberLine, numberLine, cutAfter_append k.text_spec.1]

lemma newline_not_mem_numberLine {k : Keyword} {n : ℕ} : 10 ∉ numberLine k n := by
  have hn : 10 ∉ itoa n := fun hmem =>
    absurd (solid_of_isDigit ((itoa_spec n).1 10 hmem)).1 (by decide)
  simp [numberLine, k.text_spec.2.1, hn]

lemma parseLines_concat {lines : List Bytes} (h : ∀ line ∈ lines, keywordOf line = none)
    (i : ℕ) (line : Bytes) (st : ParseState) :
    parseLines i (lines ++ [line]) st = parseLine (i + lines.length) line [] st := by
  induction lines generalizing i with
  | nil =>
    simp only [nil_append, parseLines]
    cases parseLine i line [] st <;> rfl
  | cons l lines ih =>
    rw [forall_mem_cons] at h
    simp only [cons_append, parseLines, parseLine, h.1, ok_bind]
    rw [ih h.2, Nat.add_right_comm]
    rfl

lemma verifyDescriptorSignature_append {L : DescLib} {now : ℤ} {d : Descriptor}
    {address : Address} (h : verifyDescriptorSignature L now d address = .ok ()) (revision : ℕ)
    (lifetime : ℤ) (appended : Bytes) :
    verifyDescriptorSignature L now { d with
      revisionCounter := revision, lifetime, rawDescriptor := d.rawDescriptor ++ appended } address = .ok () := by
  unfold verifyDescriptorSignature at h ⊢
  dsimp only at h ⊢
  cases hidx : index signatureMarker d.rawDescriptor with
  | none =>
    rw [hidx] at h
    repeat (split at h <;> try cases h)
  | some idx =>
    have hraw : d.rawDescriptor ≠ [] := by
      intro hnil
      rw [hnil] at hidx
      exact absurd hidx (by decide +revert)
    have htake : (d.rawDescriptor ++ appended).take idx = d.rawDescriptor.take idx :=
      take_append_of_le_length (index_le_length hidx)
    simp only [hidx, hraw] at h
    simp only [index_append hidx, append_eq_nil_iff, hraw, htake]
    exact h

/-! ### The main result -/

/-- The client gets the same from two descriptors. -/
structure SameForClient (L : DescLib) (address : Address) (d d' : Descriptor) : Prop where
  revisionCounter : d'.revisionCounter = d.revisionCounter
  lifetime : d'.lifetime = d.lifetime
  signingKeyCert : d'.descriptorSigningKeyCert = d.descriptorSigningKeyCert
  introData : ∀ timePeriod,
    (decryptDescriptor L d' address timePeriod).toOption.map introData =
      (decryptDescriptor L d address timePeriod).toOption.map introData

section Appended

open List

variable {L : DescLib} {now : ℤ} {address : Address} {before s : Bytes} {d : Descriptor}
  (hbefore : EndsWith 10 before)

lemma parse_of_accepted {raw : Bytes}
    (h : parseDescriptorWithVerification L now raw address = .ok d) :
    parseDescriptor raw = .ok d ∧ verifyDescriptorSignature L now d address = .ok () := by
  unfold parseDescriptorWithVerification at h
  split at h
  · cases h
  next desc hparse =>
  split at h
  · cases h
  · next hverify =>
    cases h
    exact ⟨hparse, hverify⟩

include hbefore

lemma parseDescriptor_quiet {s' : Bytes} (hs : Quiet s) (hs' : Quiet s')
    (h : parseDescriptor (before ++ s) = .ok d) (h' : parseDescriptor (before ++ s') = .ok d') :
    d.rawDescriptor = before ++ s ∧
      ∃ sig, d' = { d with signature := sig, rawDescriptor := before ++ s' } := by
  obtain ⟨sig, rest, hlines, hend, hkeys⟩ := hs.lines
  obtain ⟨sig', rest', hlines', hend', hkeys'⟩ := hs'.lines
  obtain ⟨read, i, hparse, hparse'⟩ :=
    parseDescriptor_tail hbefore hlines hend hlines' hend' hs.ne_nil hs'.ne_nil
  simp only [parseLines_of_keywords hkeys] at hparse
  simp only [parseLines_of_keywords hkeys'] at hparse'
  rw [hparse] at h
  rw [hparse'] at h'
  cases read with
  | error err => cases h
  | ok st =>
    cases h
    cases h'
    exact ⟨rfl, _, rfl⟩

lemma same_of_quiet {s' : Bytes} (hs : Quiet s) (hs' : Quiet s')
    (h : parseDescriptor (before ++ s) = .ok d) (h' : parseDescriptor (before ++ s') = .ok d') :
    SameForClient L address d d' := by
  obtain ⟨hraw, sig, rfl⟩ := parseDescriptor_quiet hbefore hs hs' h h'
  refine ⟨rfl, rfl, rfl, fun timePeriod => decryptDescriptor_congr rfl rfl rfl ?_ ?_⟩
  · rw [hraw, extractArmoredBlob_append hbefore hs (by decide)]
    exact extractArmoredBlob_append hbefore hs' (by decide)
  · rw [hraw, hbefore.index_append (by decide) hs.noIntro]
    exact congrArg Option.isSome (hbefore.index_append (by decide) hs'.noIntro)

variable (hs : Quiet s) (h : parseDescriptorWithVerification L now (before ++ s) address = .ok d)
include hs h

lemma accepted_numberLine {k : Keyword} {n : ℕ} {revision : ℕ} {lifetime : ℤ}
    (hline : ∀ i st, (st.desc.revisionCounter, st.desc.lifetime) = (d.revisionCounter, d.lifetime) →
      parseLine i (numberLine k n) [] st =
        .ok { st with desc := { st.desc with revisionCounter := revision, lifetime } }) :
    parseDescriptorWithVerification L now (before ++ (s ++ 10 :: numberLine k n)) address = .ok { d with
        revisionCounter := revision, lifetime
        rawDescriptor := before ++ (s ++ 10 :: numberLine k n) } := by
  obtain ⟨hparsed, hverified⟩ := parse_of_accepted h
  obtain ⟨sig, rest, hlines, hend, hkeys⟩ := hs.lines
  have hlines' : (s ++ 10 :: numberLine k n).splitOn 10 = sig :: (rest ++ [numberLine k n]) := by
    rw [splitOn_append_cons_self, hlines,
      splitOn_eq_singleton newline_not_mem_numberLine, cons_append]
  -- The added line starts with a letter, so it opens no certificate block.
  have hend' : EndLines sig (rest ++ [numberLine k n]) := by
    refine ⟨hend.signature, ?_⟩
    intro line hmem
    rcases mem_append.1 hmem with hmem | hmem
    · exact hend.noBegin line hmem
    obtain ⟨-, -, c, tail, hk, -, hc⟩ := k.text_spec
    rw [mem_singleton.1 hmem, trimUnicodeSpace_numberLine, numberLine, hk,
      show beginMark = 45 :: beginMark.tail by decide, cons_append, cons_prefix_cons]
    exact fun hpre => hc hpre.1.symm
  obtain ⟨read, i, hparse, hparse'⟩ :=
    parseDescriptor_tail hbefore hlines hend hlines' hend' hs.ne_nil (by simp)
  simp only [parseLines_of_keywords hkeys] at hparse
  simp only [parseLines_concat hkeys] at hparse'
  rw [hparse] at hparsed
  cases read with
  | error err => cases hparsed
  | ok st =>
    cases hparsed
    rw [ok_bind, hline (i + rest.length) (st.sign sig) rfl] at hparse'
    -- Verification covers the text before the signature only.
    have hverify := verifyDescriptorSignature_append hverified revision lifetime (10 :: numberLine k n)
    simp only [append_assoc] at hverify
    simp only [parseDescriptorWithVerification, hparse', Except.map]
    split
    · next err herr => exact absurd (herr.symm.trans hverify) (by simp)
    · rfl

lemma accepted_revisionCounter {n : ℕ} (hn : n < 2 ^ 64) : parseDescriptorWithVerification L now
        (before ++ (s ++ 10 :: numberLine .revisionCounter n)) address =
      .ok { d with
        revisionCounter := n
        rawDescriptor := before ++ (s ++ 10 :: numberLine .revisionCounter n) } := by
  refine accepted_numberLine hbefore hs h ?_
  intro i st hst
  obtain ⟨-, hlifetime⟩ := Prod.mk.inj hst
  simp only [parseLine, keywordOf_numberLine, argsOf_numberLine, scanUint64_itoa hn, ← hlifetime]

lemma accepted_descriptorLifetime {n : ℕ} (hn : n < 2 ^ 63) : parseDescriptorWithVerification L now
        (before ++ (s ++ 10 :: numberLine .descriptorLifetime n)) address =
      .ok { d with
        lifetime := minutes n
        rawDescriptor := before ++ (s ++ 10 :: numberLine .descriptorLifetime n) } := by
  refine accepted_numberLine hbefore hs h ?_
  intro i st hst
  obtain ⟨hrevision, -⟩ := Prod.mk.inj hst
  simp only [parseLine, keywordOf_numberLine, argsOf_numberLine, scanInt_itoa hn, ← hrevision]

omit hs h

/-- **Text behind the signature line.**  Text without keywords changes nothing that the client
uses.  One line after any accepted document gives it any revision counter, or any lifetime. -/
theorem appended_after_signature (hs : Quiet s)
    (h : parseDescriptorWithVerification L now (before ++ s) address = .ok d) :
    (∀ appended now' d', Quiet (s ++ appended) →
      parseDescriptorWithVerification L now' (before ++ (s ++ appended)) address = .ok d' →
      SameForClient L address d d') ∧
    (∀ n < 2 ^ 64, parseDescriptorWithVerification L now
        (before ++ (s ++ 10 :: numberLine .revisionCounter n)) address =
      .ok { d with
        revisionCounter := n
        rawDescriptor := before ++ (s ++ 10 :: numberLine .revisionCounter n) }) ∧
    ∀ n < 2 ^ 63, parseDescriptorWithVerification L now
        (before ++ (s ++ 10 :: numberLine .descriptorLifetime n)) address =
      .ok { d with
        lifetime := minutes n
        rawDescriptor := before ++ (s ++ 10 :: numberLine .descriptorLifetime n) } := by
  refine ⟨?_, fun n hn => accepted_revisionCounter hbefore hs h hn,
    fun n hn => accepted_descriptorLifetime hbefore hs h hn⟩
  intro appended now' d' hquiet h'
  exact same_of_quiet hbefore hs hquiet (parse_of_accepted h).1 (parse_of_accepted h').1

end Appended

/-! ### One document -/

/-- The text before the signature line of a descriptor; the certificate is one of type 8. -/
def vectorSigned : Bytes :=
  ["hs-descriptor 3", "descriptor-lifetime 180", "descriptor-signing-key-cert",
    "-----BEGIN ED25519 CERT-----", "AQgABzTUAemNPTwA", "nTR0Z1ALLp1pLsle",
    "wv24G+WMv3JkYJzv", "BbblAQAgBACguUVD", "AKEPE6/25TqqmKct", "MpTS5cD6bSVeQ45O",
    "DKhHok2RzxgTvbRq", "+bknaXHXe2FAUgYu", "CkS9pV2OReJ97E2q", "oPOqaeQEPcCO1VSd",
    "jLK6SQm9ay6rY8W1", "xkT7tvaFfw8=", "-----END ED25519 CERT-----", "revision-counter 42",
    "introduction-point"].flatMap
      fun line => ascii line ++ [10]

def vectorSignature : Bytes :=
  ["signature ", "6G2MtDvpd59Yq2si", "l9mlcWzx9xQie5v6", "V0U7zTXTh/yWJ/99",
    "W8oJedOVWHgWGf9Q", "wCMwZ9AQG7JnODR7", "rANRBA"].flatMap ascii

def vectorAddress : Address where
  pubkey := bytesOfNat 32 0xb94ab8f343d7794ce50f1865238acf4d04ae66ebb5e46a9418d238ee8d80b84e
  raw := []

/-- Blinding in three time periods, and the two signatures, at the values of this descriptor. -/
def vectorDescLib : DescLib where
  sha3 := digestOf
    [(blindMessage vectorAddress.pubkey 19675 1440,
        0x6b0eff0d15dcc045e04aac8bf2711c620ab634a99a5e58298602a6df47446e00),
      (blindMessage vectorAddress.pubkey 19676 1440,
        0x84e5b4a3530786c10799e8613b46ff088274bd7cd481cac4cbcaa346752dda9e),
      (blindMessage vectorAddress.pubkey 19674 1440,
        0x4676b9eb4adae850aa56efa8d645f04f92e4b9f6996e135bc282afe2f3120166)]
  scalarMult factor _ := some (digestOf
    [(bytesOfNat 32 0x6b0eff0d15dcc045e04aac8bf2711c620ab634a99a5e58298602a6df47446e00,
        0xa0b9454300a10f13aff6e53aaa98a72d3294d2e5c0fa6d255e438e4e0ca847a2),
      (bytesOfNat 32 0x84e5b4a3530786c10799e8613b46ff088274bd7cd481cac4cbcaa346752dda9e,
        0x7c21ea9e319f75d7a0407eaca543e88bd726ea3a68f345684d4635b6d147d784),
      (bytesOfNat 32 0x4676b9eb4adae850aa56efa8d645f04f92e4b9f6996e135bc282afe2f3120166,
        0xfbba8fb6cb07aa3bce8730ad6500d80c9365dd7adf60e7b8f7402e63b6168f85)] factor)
  verify key message sig :=
    (key = bytesOfNat 32 0xa0b9454300a10f13aff6e53aaa98a72d3294d2e5c0fa6d255e438e4e0ca847a2 ∧ message =
          bytesOfNat 38 0x108000734d401e98d3d3c009d347467500b2e9d692ec95ec2fdb81be58cbf7264609cef05b6 ++
          bytesOfNat 38 0xe50100200400a0b9454300a10f13aff6e53aaa98a72d3294d2e5c0fa6d255e438e4e0ca847a2 ∧
        sig = bytesOfNat 32 0x4d91cf1813bdb46af9b9276971d77b614052062e0a44bda55d8e45e27dec4daa ++
          bytesOfNat 32 0xa0f3aa69e4043dc08ed5549d8cb2ba4909bd6b2eab63c5b5c644fbb6f6857f0f) ∨
      (key = bytesOfNat 32 0xe98d3d3c009d347467500b2e9d692ec95ec2fdb81be58cbf7264609cef05b6e5 ∧
        message = hsDescriptorSignedMaterial vectorSigned ∧
        sig = bytesOfNat 32 0xe86d8cb43be9779f58ab6b2297d9a5716cf1f714227b9bfa57453bcd35d387fc ++
          bytesOfNat 32 0x9627ff7d5bca0979d39558781619ff50c0233067d0101bb26738347bac035104)
  shake256 _ n := Vector.replicate n 0
  aes256 _ := Equiv.refl _
  parseTime _ := none

lemma vectorSigned_lines : EndsWith 10 vectorSigned := by
  intro c hc
  rw [vectorSigned, getLast?_flatMap] at hc
  simpa using hc.symm

lemma quiet_vectorSignature : Quiet vectorSignature := by
  decide +kernel

lemma vector_accepted :
    ∃ d, parseDescriptorWithVerification vectorDescLib 1700000000
      (vectorSigned ++ vectorSignature) vectorAddress = .ok d ∧
      d.revisionCounter = 42 ∧ d.lifetime = minutes 180 := by
  have heval : ((parseDescriptorWithVerification vectorDescLib 1700000000
      (vectorSigned ++ vectorSignature) vectorAddress).toOption.map fun d =>
        (d.revisionCounter, d.lifetime)) = some (42, minutes 180) := by
    decide +kernel
  obtain ⟨d, hd, hfields⟩ := Option.map_eq_some_iff.1 heval
  exact ⟨d, toOption_eq_some.1 hd, congrArg Prod.fst hfields, congrArg Prod.snd hfields⟩

theorem appended_after_signature_vector :
    ∃ d, parseDescriptorWithVerification vectorDescLib 1700000000
      (vectorSigned ++ vectorSignature) vectorAddress = .ok d ∧
      d.revisionCounter = 42 ∧
      (∀ now' d', parseDescriptorWithVerification vectorDescLib now'
        (vectorSigned ++ (vectorSignature ++ ascii "\nreceived\n")) vectorAddress = .ok d' →
        SameForClient vectorDescLib vectorAddress d d') ∧
      ∃ d', parseDescriptorWithVerification vectorDescLib 1700000000
        (vectorSigned ++ (vectorSignature ++ 10 :: numberLine .revisionCounter 99))
        vectorAddress = .ok d' ∧ d'.revisionCounter = 99 := by
  have hquiet : Quiet (vectorSignature ++ ascii "\nreceived\n") := by
    decide +kernel
  obtain ⟨d, hd, hrevision, -⟩ := vector_accepted
  obtain ⟨hsame, hcounter, -⟩ :=
    appended_after_signature vectorSigned_lines quiet_vectorSignature hd
  exact ⟨d, hd, hrevision, fun now' d' => hsame _ now' d' hquiet, _, hcounter 99 (by decide), rfl⟩

/-- A line after the signature line shortens the lifetime from three hours to a minute. -/
theorem descriptor_lifetime_changed :
    ∃ d d', parseDescriptorWithVerification vectorDescLib 1700000000
        (vectorSigned ++ vectorSignature) vectorAddress = .ok d ∧
      parseDescriptorWithVerification vectorDescLib 1700000000
        (vectorSigned ++ (vectorSignature ++ 10 :: ascii "descriptor-lifetime 1"))
        vectorAddress = .ok d' ∧
      d.lifetime = minutes 180 ∧ d'.lifetime = minutes 1 := by
  obtain ⟨d, hd, -, hlifetime⟩ := vector_accepted
  have hline : ascii "descriptor-lifetime 1" = numberLine .descriptorLifetime 1 := by decide
  have hd' := @accepted_descriptorLifetime _ _ _ _ _ _ vectorSigned_lines quiet_vectorSignature hd 1 (by decide)
  exact ⟨d, _, hd, hd', hlifetime, rfl⟩

end GoTor.Onion
