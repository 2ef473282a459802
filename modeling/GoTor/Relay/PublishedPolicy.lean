import GoTor.Relay.ExitPolicy

/-!
# The published exit policy

A relay enforces the rules parsed from its list of lines and publishes the lines themselves:
trimmed, without those for `*6`, each once.  Clients parse what is published.  A rule for `*6`
matches no IPv4 address, and of two equal rules the second never decides, so for IPv4 the two
policies agree.
-/

namespace GoTor.Relay

open GoTor.Lib GoTor.Directory List Option Directory.ExitPolicy PolicyLine

/-! ### What the exit enforces -/

/-- The decision of `CheckExitAllowed` about an address. -/
def ExitPolicy.allowsIP (p : ExitPolicy) (ip : Bytes) (port : UInt16) : Bool :=
  if !p.allowExit || port = 0 then false
  else if (to4 ip).isNone && !p.ipv6OK then false
  else p.rules.any fun rules => rules.allows ip port.toNat

/-- The address that `CheckExitAllowed` reads off the text of a request. -/
def requestIP (address : Bytes) : Option Bytes :=
  let host := match splitHostPort address with
    | .ok (host, _) => host
    | .error _ => address
  parseIP (trim (fun c => c = 91 || c = 93) host)

/-- `CheckExitAllowed`, without its counter and the reason. -/
def ExitPolicy.checkExitAllowed (p : ExitPolicy) (address : Bytes) (port : UInt16) : Bool :=
  match requestIP address with
  | some ip => p.allowsIP ip port
  | none =>
    if !p.allowExit || port = 0 then false
    else p.rules.any fun rules => rules.allowsUnknown port.toNat

/-! ### What the descriptor holds -/

def ExitPolicy.descriptorLines (p : ExitPolicy) : List Bytes :=
  if p.descLines = [] then [ascii "reject *:*"] else p.descLines

/-- The exit policy in the configuration of a descriptor. -/
def exitPolicyText (lines : List Bytes) : Bytes :=
  if lines = [] then ascii "reject *:*" else (lines.intersperse [10]).flatten

/-- The lines of the exit policy that a descriptor is encoded with. -/
def encodedPolicyLines (exitPolicy : Bytes) : List Bytes :=
  if 10 ∈ exitPolicy ∨ ascii "accept" <+: exitPolicy ∨ ascii "reject" <+: exitPolicy then
    ((exitPolicy.splitOn 10).map trimUnicodeSpace).filter (· ≠ [])
  else [ascii "reject *:*"]

/-! ### Lines that decide about IPv4 -/

def lineMatches (ip : Bytes) (port : ℤ) (l : Bytes) : Bool :=
  (lineRule l).any fun r => r.matches ip port

section Lines

variable {l ip v4 : Bytes} {port : ℤ} {r : ExitRule}

lemma parsePolicyLine_trim (l : Bytes) :
    parsePolicyLine (trimUnicodeSpace l) = parsePolicyLine l := by
  unfold parsePolicyLine
  rw [trimUnicodeSpace_idem]

lemma lineRule_trim (l : Bytes) : lineRule (trimUnicodeSpace l) = lineRule l := by
  rw [lineRule, parsePolicyLine_trim, lineRule]

lemma firstMatch_filterMap (lines : List Bytes) (ip : Bytes) (port : ℤ) :
    (⟨lines.filterMap lineRule⟩ : Directory.ExitPolicy).firstMatch ip port =
      (lines.find? (lineMatches ip port)).bind lineRule := by
  rw [firstMatch, find?_filterMap]
  rfl

lemma parseExitRule_of_line (h : lineRule l = some r) : parseExitRule (fields (trimUnicodeSpace l)) = some r := by
  obtain ⟨what, hwhat, hr⟩ := bind_eq_some_iff.1 h
  unfold parsePolicyLine at hwhat
  dsimp only at hwhat
  split at hwhat
  · cases hwhat
    cases hr
  split at hwhat
  · cases hwhat
    cases hr
  next verb words hfields =>
  split at hwhat
  · obtain ⟨r', hr', rfl⟩ := map_eq_some_iff.1 hwhat
    cases hr
    rwa [hfields]
  split at hwhat
  · obtain ⟨s, -, rfl⟩ := map_eq_some_iff.1 hwhat
    cases hr
  · cases hwhat

lemma lastIndexByte_append (u t : Bytes) (c : UInt8) :
    ∃ k, lastIndexByte (u ++ c :: t) c = some (u.length + k) ∧ k ≤ t.length := by
  have hmem : c ∈ (u ++ c :: t).reverse := by simp
  obtain ⟨j, hj⟩ := isSome_iff_exists.1 (isSome_idxOf?.2 hmem)
  have hle : j ≤ t.length := by
    obtain ⟨_, -, hfirst⟩ := idxOf?_eq_some_iff.1 hj
    by_contra hlt
    exact hfirst t.length (by omega) (by simp)
  refine ⟨t.length - j, ?_, Nat.sub_le _ _⟩
  rw [lastIndexByte, hj, map_some]
  congr 1
  simp only [length_append, length_cons]
  omega

lemma cutPattern_star6 {t addr ports : Bytes}
    (h : cutPattern (ascii "*6:" ++ t) = some (addr, ports)) :
    addr = ascii "*6" ∨ ∃ t', addr = ascii "*6:" ++ t' := by
  obtain ⟨k, hk, -⟩ := lastIndexByte_append (ascii "*6") t 58
  have hcut : cutPattern (ascii "*6:" ++ t) =
      (lastIndexByte (ascii "*6" ++ 58 :: t) 58).map fun i =>
        ((ascii "*6:" ++ t).take i, (ascii "*6:" ++ t).drop (i + 1)) := rfl
  rw [hcut, hk] at h
  cases h
  cases k with
  | zero => exact .inl rfl
  | succ k =>
    refine .inr ⟨t.take k, ?_⟩
    exact take_length_add_append (k + 1)

lemma parseAddrSpec_star6 (t : Bytes) : parseAddrSpec (ascii "*6:" ++ t) = none := by
  have hcut : cutBefore 47 (ascii "*6:" ++ t) = ascii "*6:" ++ cutBefore 47 t := rfl
  have hip : parseIP (ascii "*6:" ++ cutBefore 47 t) = none := by
    have hgroups : parseIPv6 (ascii "*6:" ++ cutBefore 47 t) = none := rfl
    have hcases : parseIP (ascii "*6:" ++ cutBefore 47 t) = if 37 ∈ ascii "*6:" ++ cutBefore 47 t then none
        else parseIPv6 (ascii "*6:" ++ cutBefore 47 t) := rfl
    rw [hcases, hgroups, ite_self]
  have hfour : parseAddrSpec (ascii "*6:" ++ t) = parseIPv4AddrSpec (ascii "*6:" ++ t) := rfl
  rw [hfour, parseIPv4AddrSpec, hcut, hip]
  rfl

lemma parseExitRule_star6 {verb t : Bytes} {words : List Bytes}
    (h : parseExitRule (verb :: (ascii "*6:" ++ t) :: words) = some r) :
    r.allV4 = false ∧ r.net = none := by
  simp only [parseExitRule] at h
  split at h
  · cases h
  obtain ⟨⟨addr, lo, hi⟩, hpattern, h⟩ := bind_eq_some_iff.1 h
  have haddr : addr = ascii "*6" := by
    unfold parseExitPattern at hpattern
    obtain ⟨⟨addr', ports⟩, hcut, hpattern⟩ := bind_eq_some_iff.1 hpattern
    obtain ⟨⟨lo', hi'⟩, -, hpattern⟩ := bind_eq_some_iff.1 hpattern
    cases hpattern
    rcases cutPattern_star6 hcut with rfl | ⟨t', rfl⟩
    · rfl
    simp only [parseAddrSpec_star6] at h
    split at h
    next heq =>
      rcases heq with heq | heq
      · exact absurd (congrArg length heq) (by simp [ascii])
      · exact absurd (congrArg length heq) (by simp [ascii])
    split at h
    next heq => exact absurd (congrArg length heq) (by simp [ascii])
    · cases h
  subst haddr
  cases h
  exact ⟨rfl, rfl⟩

lemma published_of_matches (hip : to4 ip = some v4) (h : lineMatches ip port l = true) :
    trimUnicodeSpace l ≠ [] ∧ ∀ verb pattern words,
      fields (trimUnicodeSpace l) = verb :: pattern :: words → ¬ ascii "*6:" <+: pattern := by
  obtain ⟨r, hr, hmatch⟩ := (any_eq_true _ _).1 h
  have hrule := parseExitRule_of_line hr
  refine ⟨?_, ?_⟩
  · intro hnil
    rw [hnil] at hrule
    cases hrule
  · rintro verb pattern words hfields ⟨t, rfl⟩
    rw [hfields] at hrule
    obtain ⟨hall, hnet⟩ := parseExitRule_star6 hrule
    rw [ExitRule.matches, ExitRule.matchesFamily, hip, hall, hnet] at hmatch
    cases hmatch

end Lines

/-! ### The published list -/

lemma find?_eraseDups {α : Type*} [BEq α] [LawfulBEq α] (p : α → Bool) (l : List α) :
    l.eraseDups.find? p = l.find? p := by
  induction hn : l.length using Nat.strong_induction_on generalizing l with
  | _ n ih =>
    cases l with
    | nil => rfl
    | cons a l =>
      rw [eraseDups_cons, find?_cons, find?_cons]
      cases hp : p a with
      | true => rfl
      | false =>
        have hlt : (l.filter fun b => !b == a).length < n := by
          have := length_filter_le (fun b => !b == a) l
          simp only [length_cons] at hn
          omega
        rw [ih _ hlt _ rfl, find?_filter]
        refine find?_congr fun b _ => ?_
        by_cases hb : b = a
        · simp [hb, hp]
        · simp [hb]

section Published

variable {lines : List Bytes} {pol : Option Directory.ExitPolicy} {ipv6 : Option ExitPolicySummary}
  {ip v4 : Bytes}

lemma find?_published (hip : to4 ip = some v4) (port : ℤ) (lines : List Bytes) :
    ((((lines.map trimUnicodeSpace).filter keepLine).eraseDups).find? (lineMatches ip port)).bind
      lineRule = (lines.find? (lineMatches ip port)).bind lineRule := by
  have hmatches : ∀ l, lineMatches ip port (trimUnicodeSpace l) = lineMatches ip port l := by
    intro l
    rw [lineMatches, lineRule_trim, lineMatches]
  have hkeep : ∀ l, (keepLine (trimUnicodeSpace l) && lineMatches ip port (trimUnicodeSpace l)) =
      lineMatches ip port l := by
    intro l
    rw [hmatches]
    cases h : lineMatches ip port l with
    | false => rw [Bool.and_false]
    | true =>
      obtain ⟨hne, hsix⟩ := published_of_matches hip h
      rw [Bool.and_true, keepLine, Bool.and_eq_true, decide_eq_true_eq, Bool.not_eq_true']
      refine ⟨hne, ?_⟩
      split
      next verb pattern words heq => exact decide_eq_false (hsix verb pattern words heq)
      · rfl
  rw [find?_eraseDups, find?_filter, find?_map]
  have hcomp : ((fun l => decide (keepLine l = true ∧ lineMatches ip port l = true)) ∘
      trimUnicodeSpace) = lineMatches ip port := by
    funext l
    simpa using hkeep l
  rw [hcomp]
  cases lines.find? (lineMatches ip port) with
  | none => rfl
  | some l => exact lineRule_trim l

lemma find?_covers (hfour : CoversIPv4 lines) (hip : to4 ip = some v4) {port : ℤ} (h1 : 1 ≤ port)
    (h2 : port ≤ 65535) : ((lines.find? (lineMatches ip port)).bind lineRule).isSome := by
  obtain ⟨l, hl, r, hr, hmatch⟩ := hfour.match (by rw [hip]; exact some_ne_none _) h1 h2
  have hsome : (lines.find? (lineMatches ip port)).isSome := by
    refine find?_isSome.2 ⟨l, hl, ?_⟩
    rw [lineMatches, hr]
    exact hmatch
  obtain ⟨l', hl'⟩ := isSome_iff_exists.1 hsome
  have hmatches : lineMatches ip port l' = true := find?_some hl'
  obtain ⟨r', hr', -⟩ := (any_eq_true _ _).1 hmatches
  rw [hl', bind_some, hr']
  rfl

lemma publish_of_parse (hparse : parseExitPolicyLines lines = some (pol, ipv6)) (hfour : CoversIPv4 lines) :
    descriptorPublishLines lines = ((lines.map trimUnicodeSpace).filter keepLine).eraseDups ∧
      ∃ ipv6', parseExitPolicyLines (descriptorPublishLines lines) =
        some (some ⟨(descriptorPublishLines lines).filterMap lineRule⟩, ipv6') := by
  -- some line decides about 0.0.0.0:1, and it is published
  have hmatch : ((((lines.map trimUnicodeSpace).filter keepLine).eraseDups).find?
      (lineMatches (zeros 4) 1)).bind lineRule |>.isSome := by
    rw [find?_published rfl]
    exact find?_covers hfour rfl (by decide) (by decide)
  have hne : ((lines.map trimUnicodeSpace).filter keepLine).eraseDups ≠ [] := by
    intro hnil
    rw [hnil] at hmatch
    cases hmatch
  have heq : descriptorPublishLines lines =
      ((lines.map trimUnicodeSpace).filter keepLine).eraseDups := by
    rw [descriptorPublishLines, if_neg hne]
  refine ⟨heq, ?_⟩
  rw [heq]
  have hall : ∀ l ∈ ((lines.map trimUnicodeSpace).filter keepLine).eraseDups,
      ∃ what, parsePolicyLine l = some what := by
    intro l hl
    obtain ⟨l', hl', rfl⟩ := mem_map.1 (mem_filter.1 (mem_eraseDups.1 hl)).1
    rw [parsePolicyLine_trim]
    exact line_parses hparse hl'
  obtain ⟨parsed, hparsed⟩ := exists_mapM hall
  have hrules := filterMap_of_mapM hparsed rule?
  obtain ⟨r, hr⟩ := isSome_iff_exists.1 hmatch
  obtain ⟨l, hl, hlr⟩ := bind_eq_some_iff.1 hr
  have hcons : parsed.filterMap rule? ≠ [] := by
    rw [hrules]
    exact ne_nil_of_mem (mem_filterMap.2 ⟨l, mem_of_find?_eq_some hl, hlr⟩)
  refine ⟨(parsed.filterMap ipv6?).getLast?, ?_⟩
  rw [parseExitPolicyLines, hparsed]
  simp only [bind_eq_bind, bind_some, hcons]
  rw [hrules]
  rfl

lemma allows_published (hparse : parseExitPolicyLines lines = some (pol, ipv6))
    (hfour : CoversIPv4 lines) (hip : to4 ip = some v4) (port : ℤ) :
    ∃ rules, pol = some rules ∧
      (⟨(descriptorPublishLines lines).filterMap lineRule⟩ : Directory.ExitPolicy).allows ip port =
        rules.allows ip port := by
  have hsome : ∃ l ∈ lines, (lineRule l).isSome := by
    obtain ⟨l, hl, r, hr, -⟩ := hfour
    exact ⟨l, hl, by rw [hr]; rfl⟩
  refine ⟨_, rules_of_parse hparse hsome, ?_⟩
  unfold allows
  rw [firstMatch_filterMap, firstMatch_filterMap, (publish_of_parse hparse hfour).1, find?_published hip]

end Published

/-! ### Lines of text -/

section Text

variable {l : Bytes}

lemma encodedPolicyLines_text {lines : List Bytes} (hline : ∀ l ∈ lines, 10 ∉ l)
    (htrim : ∀ l ∈ lines, trimUnicodeSpace l = l ∧ l ≠ [])
    (hrule : ∃ l ∈ lines, ascii "accept" <+: l ∨ ascii "reject" <+: l) :
    encodedPolicyLines (exitPolicyText lines) = lines := by
  obtain ⟨l, hl, hverb⟩ := hrule
  have hne : lines ≠ [] := ne_nil_of_mem hl
  have hsplit : (exitPolicyText lines).splitOn 10 = lines := by
    rw [exitPolicyText, if_neg hne]
    exact splitOn_intercalate 10 hline hne
  have hkind : 10 ∈ exitPolicyText lines ∨ ascii "accept" <+: exitPolicyText lines ∨
      ascii "reject" <+: exitPolicyText lines := by
    rw [exitPolicyText]
    match lines, hl with
    | [l'], hl =>
      obtain rfl := mem_singleton.1 hl
      exact .inr (by simpa using hverb)
    | l1 :: l2 :: rest, _ => exact .inl (by simp [intersperse])
  rw [encodedPolicyLines, if_pos hkind, hsplit]
  have hmap : lines.map trimUnicodeSpace = lines := by
    conv_rhs => rw [← map_id lines]
    exact map_congr_left fun l hl => (htrim l hl).1
  rw [hmap]
  exact filter_eq_self.2 fun l hl => decide_eq_true (htrim l hl).2

lemma verb_prefix {r : ExitRule} (htrim : trimUnicodeSpace l = l) (h : lineRule l = some r) :
    ascii "accept" <+: l ∨ ascii "reject" <+: l := by
  have hrule := parseExitRule_of_line h
  rw [htrim] at hrule
  unfold parseExitRule at hrule
  split at hrule
  next verb pattern words hfields =>
    have hpre := prefix_of_fields htrim hfields
    split at hrule
    · cases hrule
    next hverb =>
    rcases Decidable.not_and_iff_not_or_not.1 hverb with hverb | hverb
    · exact .inl (Decidable.not_not.1 hverb ▸ hpre)
    · exact .inr (Decidable.not_not.1 hverb ▸ hpre)
  · cases hrule

end Text

/-! ### The two policies -/

section Agree

variable (interfaceLines : List Bytes) (opt : ExitPolicyOptions)

open ExitPolicy

lemma reject_all_agrees (p : ExitPolicy) (hno : p.allowExit = false) (hlines : p.descLines = [ascii "reject *:*"]) :
    ∃ pub, parseExitPolicyLines p.descriptorLines = some (some pub, none) ∧
      (∀ ip v4, to4 ip = some v4 → ∀ port : UInt16, pub.allows ip port.toNat = p.allowsIP ip port) ∧
      encodedPolicyLines (exitPolicyText p.descriptorLines) = p.descriptorLines := by
  have hlines : p.descriptorLines = [ascii "reject *:*"] := by
    rw [descriptorLines, hlines]
    rfl
  refine ⟨⟨[{ accept := false, allV4 := true, lo := 1, hi := 65535 }]⟩, ?_, ?_, ?_⟩
  · rw [hlines]
    decide
  · intro ip v4 hip port
    have hallows : p.allowsIP ip port = false := by simp [allowsIP, hno]
    rw [hallows, allows]
    split
    · rfl
    next hport =>
    obtain ⟨h1, h2⟩ := not_or.1 hport
    have hmatch : ExitRule.matches { accept := false, allV4 := true, lo := 1, hi := 65535 } ip
        port.toNat = true := by
      rw [ExitRule.matches, ExitRule.matchesFamily, hip, matchesPort_all rfl rfl (not_lt.1 h1) (not_lt.1 h2)]
      rfl
    simp [firstMatch, hmatch]
  · rw [hlines]
    decide

lemma parsed_agrees {pol : Option Directory.ExitPolicy} {ipv6 : Option ExitPolicySummary}
    (hparse : parseExitPolicyLines (policyLines interfaceLines opt) = some (pol, ipv6))
    {p : ExitPolicy} (hexit : p.allowExit = true) (hrules : p.rules = pol)
    (hlines : p.descLines = descriptorPublishLines (policyLines interfaceLines opt)) :
    ∃ pub ipv6', parseExitPolicyLines p.descriptorLines = some (some pub, ipv6') ∧
      (∀ ip v4, to4 ip = some v4 → ∀ port : UInt16, pub.allows ip port.toNat = p.allowsIP ip port) ∧
      ((∀ l ∈ p.descriptorLines, 10 ∉ l) →
        encodedPolicyLines (exitPolicyText p.descriptorLines) = p.descriptorLines) := by
  have hfour := covers_ipv4 hparse
  obtain ⟨hpublish, ipv6', hpub⟩ := publish_of_parse hparse hfour
  have hdesc : p.descriptorLines = descriptorPublishLines (policyLines interfaceLines opt) := by
    rw [descriptorLines, hlines]
    split
    next hnil =>
      rw [hnil] at hpub
      cases hpub
    · rfl
  rw [hdesc]
  refine ⟨_, ipv6', hpub, ?_, ?_⟩
  · intro ip v4 hip port
    obtain ⟨rules, rfl, hallows⟩ := allows_published hparse hfour hip port.toNat
    rw [hallows, allowsIP, hexit, hrules, hip]
    split
    next hport =>
      have hzero : port = 0 := by simpa using hport
      rw [hzero]
      rfl
    · rfl
  intro hnewline
  have hmem : ∀ l ∈ descriptorPublishLines (policyLines interfaceLines opt),
      ∃ raw, trimUnicodeSpace raw = l ∧ l ≠ [] := by
    intro l hl
    rw [hpublish] at hl
    obtain ⟨hmap, hkeep⟩ := mem_filter.1 (mem_eraseDups.1 hl)
    obtain ⟨raw, -, hl⟩ := mem_map.1 hmap
    exact ⟨raw, hl, of_decide_eq_true (Bool.and_eq_true_iff.1 hkeep).1⟩
  refine encodedPolicyLines_text hnewline ?_ ?_
  · intro l hl
    obtain ⟨raw, rfl, hne⟩ := hmem l hl
    exact ⟨trimUnicodeSpace_idem raw, hne⟩
  -- a rule decides about 0.0.0.0:1
  have hsome : ((⟨(descriptorPublishLines (policyLines interfaceLines opt)).filterMap
      lineRule⟩ : Directory.ExitPolicy).firstMatch (zeros 4) 1).isSome := by
    rw [firstMatch_filterMap, hpublish, find?_published rfl]
    exact find?_covers hfour rfl (by decide) (by decide)
  obtain ⟨r, hr, -⟩ := find?_isSome.1 hsome
  obtain ⟨l, hl, hlr⟩ := mem_filterMap.1 hr
  obtain ⟨raw, rfl, -⟩ := hmem l hl
  exact ⟨_, hl, verb_prefix (trimUnicodeSpace_idem raw) hlr⟩

/-- **What is published is what is enforced.**  The lines in a relay's descriptor parse, and the
policy they make allows an IPv4 address and a port iff `CheckExitAllowed` does, for every text of a
request that holds the address.  When none of them has a line break in it, these are the lines of
the encoded descriptor. -/
theorem published_policy_agrees :
    ∃ pub ipv6, parseExitPolicyLines (newExitPolicyFromOptions interfaceLines opt).descriptorLines =
        some (some pub, ipv6) ∧
      (∀ ip v4, to4 ip = some v4 → ∀ port : UInt16, pub.allows ip port.toNat =
        (newExitPolicyFromOptions interfaceLines opt).allowsIP ip port) ∧
      (∀ address ip v4, requestIP address = some ip → to4 ip = some v4 → ∀ port : UInt16, pub.allows ip port.toNat =
          (newExitPolicyFromOptions interfaceLines opt).checkExitAllowed address port) ∧
      ((∀ l ∈ (newExitPolicyFromOptions interfaceLines opt).descriptorLines, 10 ∉ l) → encodedPolicyLines
            (exitPolicyText (newExitPolicyFromOptions interfaceLines opt).descriptorLines) =
          (newExitPolicyFromOptions interfaceLines opt).descriptorLines) := by
  have hagree : ∃ pub ipv6,
      parseExitPolicyLines (newExitPolicyFromOptions interfaceLines opt).descriptorLines = some (some pub, ipv6) ∧
      (∀ ip v4, to4 ip = some v4 → ∀ port : UInt16, pub.allows ip port.toNat =
        (newExitPolicyFromOptions interfaceLines opt).allowsIP ip port) ∧
      ((∀ l ∈ (newExitPolicyFromOptions interfaceLines opt).descriptorLines, 10 ∉ l) → encodedPolicyLines
            (exitPolicyText (newExitPolicyFromOptions interfaceLines opt).descriptorLines) =
          (newExitPolicyFromOptions interfaceLines opt).descriptorLines) := by
    unfold newExitPolicyFromOptions
    split
    · obtain ⟨pub, hpub, hallows, htext⟩ :=
        reject_all_agrees { newExitPolicy with ipv6OK := opt.ipv6Exit } rfl rfl
      exact ⟨pub, none, hpub, hallows, fun _ => htext⟩
    split
    · obtain ⟨pub, hpub, hallows, htext⟩ := reject_all_agrees newExitPolicy rfl rfl
      exact ⟨pub, none, hpub, hallows, fun _ => htext⟩
    next pol ipv6 hparse => exact parsed_agrees interfaceLines opt hparse rfl rfl rfl
  obtain ⟨pub, ipv6, hpub, hallows, htext⟩ := hagree
  refine ⟨pub, ipv6, hpub, hallows, ?_, htext⟩
  intro address ip v4 haddress hip port
  rw [hallows ip v4 hip, checkExitAllowed, haddress]

end Agree

/-- An exit for the web and for nothing else. -/
def webExit : ExitPolicyOptions where
  exitRelay := true
  lines := [ascii "accept *:80", ascii " accept *:443 ", ascii "accept *:80", ascii "reject *:*"]
  reduce := false
  ipv6Exit := true
  rejectPrivate := true
  rejectLocalInterfaces := false

theorem published_policy_agrees_web :
    ∃ pub ipv6, parseExitPolicyLines (newExitPolicyFromOptions [] webExit).descriptorLines = some (some pub, ipv6) ∧
      pub.allows (v4InV6 ++ [9, 9, 9, 9]) 80 =
        (newExitPolicyFromOptions [] webExit).checkExitAllowed (ascii "9.9.9.9:80") 80 ∧
      pub.allows [9, 9, 9, 9] 25 = (newExitPolicyFromOptions [] webExit).allowsIP [9, 9, 9, 9] 25 ∧
      encodedPolicyLines (exitPolicyText (newExitPolicyFromOptions [] webExit).descriptorLines) =
        (newExitPolicyFromOptions [] webExit).descriptorLines := by
  obtain ⟨pub, ipv6, hparse, hip, hrequest, htext⟩ := published_policy_agrees [] webExit
  refine ⟨pub, ipv6, hparse, ?_, hip _ [9, 9, 9, 9] (by decide) 25, htext (by decide +kernel)⟩
  exact hrequest _ _ [9, 9, 9, 9] (by decide) (by decide) 80

end GoTor.Relay
