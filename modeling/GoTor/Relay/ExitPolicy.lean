import GoTor.Directory.ExitRules
import GoTor.Lib.Run

/-!
# The relay's exit policy

`NewExitPolicyFromOptions` assembles a list of lines: private networks and the addresses of the
host, the lines of the configuration, and a default or reduced policy unless these end in a rule
for everything; with `IPv6Exit` every line for `*` is followed by one for `*6`, without it the list
ends in `reject *6:*`.  A list that does not parse leaves the policy of a relay that is no exit.
-/

namespace GoTor.Relay

open GoTor.Lib GoTor.Directory List Directory.ExitPolicy ExitRule Option

def privateRejectLines : List Bytes :=
  ["reject 0.0.0.0/8:*", "reject 127.0.0.0/8:*", "reject 10.0.0.0/8:*", "reject 172.16.0.0/12:*",
    "reject 192.168.0.0/16:*", "reject 169.254.0.0/16:*", "reject 100.64.0.0/10:*",
    "reject 192.0.2.0/24:*", "reject 198.51.100.0/24:*", "reject 203.0.113.0/24:*",
    "reject 224.0.0.0/4:*", "reject 240.0.0.0/4:*", "reject 255.255.255.255/32:*",
    "reject [::]/128:*", "reject [::1]/128:*", "reject [fe80::]/10:*", "reject [fc00::]/7:*",
    "reject [2001:db8::]/32:*", "reject [ff00::]/8:*"].map ascii

def defaultExitPolicyLines : List Bytes :=
  ["reject *:25", "reject *:119", "reject *:135-139", "reject *:445", "reject *:563",
    "reject *:1214", "reject *:4661-4666", "reject *:6346-6429", "reject *:6699",
    "reject *:6881-6999", "accept *:*"].map ascii

def reducedExitPorts : List String :=
  ["20-23", "43", "53", "79-81", "88", "110", "143", "194", "220", "389", "443", "464", "465",
    "531", "543-544", "554", "563", "587", "636", "706", "749", "873", "902-904", "981", "989-995",
    "1194", "1220", "1293", "1500", "1533", "1677", "1723", "1755", "1863", "2082-2083",
    "2086-2087", "2095-2096", "2102-2104", "3128", "3389", "3690", "4321", "4643", "5050", "5190",
    "5222-5223", "5228", "5900", "6660-6669", "6679", "6697", "8000", "8008", "8074", "8080",
    "8082", "8087-8088", "8232-8233", "8332-8333", "8443", "8888", "9418", "9999", "10000",
    "11371", "18080-18081", "18089", "19294", "19638", "50002", "64738"]

def reducedExitPolicyLines : List Bytes :=
  reducedExitPorts.map (fun ports => ascii "accept *:" ++ ascii ports) ++ [ascii "reject *:*"]

def defaultRejectAll : List Bytes := [ascii "reject *:*", ascii "reject *6:*"]

structure ExitPolicyOptions where
  exitRelay : Bool
  lines : List Bytes
  reduce : Bool
  ipv6Exit : Bool
  rejectPrivate : Bool
  rejectLocalInterfaces : Bool
  deriving DecidableEq

/-- `ExitPolicy`, without its counter and logger. -/
structure ExitPolicy where
  allowExit : Bool := false
  rules : Option Directory.ExitPolicy
  ipv6OK : Bool := false
  descLines : List Bytes := [ascii "reject *:*"]
  ipv6Line : Bytes := []
  deriving DecidableEq

def newExitPolicy : ExitPolicy where
  rules := (parseExitPolicyLines defaultRejectAll).bind Prod.fst

/-! ### Assembling the lines -/

def normalizePolicyLines (lines : List Bytes) : List Bytes :=
  (lines.map trimUnicodeSpace).filter fun s => s ≠ [] && s.head? ≠ some 35

/-- The second word of the last line that has one. -/
def lastPattern (lines : List Bytes) : Option Bytes :=
  lines.reverse.findSome? fun l =>
    match fields l with
    | _ :: pattern :: _ => some pattern
    | _ => none

def endsWithAbsolutePolicy (lines : List Bytes) : Bool :=
  lastPattern lines = some (ascii "*:*") || lastPattern lines = some (ascii "*4:*")

def starIPv6Mirror (l : Bytes) : Option Bytes :=
  match fields l with
  | verb :: pattern :: _ =>
    if ascii "*:" <+: pattern then some (verb ++ ascii " *6:" ++ pattern.drop 2) else none
  | _ => none

def withMirror (l : Bytes) : List Bytes := l :: (starIPv6Mirror l).toList

def interleaveStarIPv6 (lines : List Bytes) : List Bytes := lines.flatMap withMirror

/-- The lines before any policy is appended; `interfaceLines` are those of
`localInterfaceRejectLines` on this host. -/
def givenLines (interfaceLines : List Bytes) (opt : ExitPolicyOptions) : List Bytes :=
  (if opt.rejectPrivate then privateRejectLines else []) ++
    (if opt.rejectLocalInterfaces then interfaceLines else []) ++ normalizePolicyLines opt.lines

/-- The policy that is appended. -/
def appendedLines (opt : ExitPolicyOptions) : List Bytes :=
  if endsWithAbsolutePolicy (normalizePolicyLines opt.lines) then []
  else if opt.reduce then reducedExitPolicyLines
  else defaultExitPolicyLines

def policyLines (interfaceLines : List Bytes) (opt : ExitPolicyOptions) : List Bytes :=
  let use := givenLines interfaceLines opt ++ appendedLines opt
  if opt.ipv6Exit then interleaveStarIPv6 use else use ++ [ascii "reject *6:*"]

/-! ### What is published -/

/-- The lines that are not for `*6`. -/
def keepLine (l : Bytes) : Bool :=
  l ≠ [] && !(match fields l with
    | _ :: pattern :: _ => decide (ascii "*6:" <+: pattern)
    | _ => false)

def descriptorPublishLines (lines : List Bytes) : List Bytes :=
  let out := ((lines.map trimUnicodeSpace).filter keepLine).eraseDups
  if out = [] then [ascii "reject *:*"] else out

def formatPolicyPortRange (lo hi : ℕ) : Bytes :=
  if lo = hi then itoa lo else itoa lo ++ [45] ++ itoa hi

/-- The ranges of ports from `p` on that are allowed, `n` ports in all; `start` is the first port
of the range at work. -/
def allowedRanges (allowed : ℕ → Bool) : (n p : ℕ) → (start : Option ℕ) → List Bytes
  | 0, p, start => (start.map fun lo => formatPolicyPortRange lo (p - 1)).toList
  | n + 1, p, start =>
    if allowed p then allowedRanges allowed n (p + 1) (some (start.getD p))
    else (start.map fun lo => formatPolicyPortRange lo (p - 1)).toList ++ allowedRanges allowed n (p + 1) none

/-- The address that `ipv6PolicySummaryLine` asks about, 2001:4860:4860::8888. -/
def probeIPv6 : Bytes := [0x20, 0x01, 0x48, 0x60, 0x48, 0x60] ++ zeros 8 ++ [0x88, 0x88]

def ipv6PolicySummaryLine : Option Directory.ExitPolicy → Bytes
  | none => ascii "ipv6-policy reject 1-65535"
  | some pol =>
    match allowedRanges (fun p => pol.allows probeIPv6 p) 65535 1 none with
    | [] => ascii "ipv6-policy reject 1-65535"
    | parts => ascii "ipv6-policy accept " ++ (parts.intersperse [44]).flatten

def newExitPolicyFromOptions (interfaceLines : List Bytes) (opt : ExitPolicyOptions) : ExitPolicy :=
  if !opt.exitRelay then { newExitPolicy with ipv6OK := opt.ipv6Exit }
  else
    match parseExitPolicyLines (policyLines interfaceLines opt) with
    | none => newExitPolicy
    | some (pol, _) =>
      { allowExit := true
        rules := pol
        ipv6OK := opt.ipv6Exit
        descLines := descriptorPublishLines (policyLines interfaceLines opt)
        ipv6Line := if opt.ipv6Exit then ipv6PolicySummaryLine pol else ascii "ipv6-policy reject 1-65535" }

/-! ### Rules for everything -/

/-- **Every pair of an address and a port is decided by a rule.**  (Port 0 is refused before the
list is looked at.) -/
def ExitPolicy.Decides (p : ExitPolicy) : Prop :=
  ∃ pol, p.rules = some pol ∧ ∀ ip, IsIP ip → ∀ port : ℤ, 1 ≤ port → port ≤ 65535 → (pol.firstMatch ip port).isSome

def IsIPv6 (ip : Bytes) : Prop := IsIP ip ∧ to4 ip = none

/-- A line of the configuration, taken for both families if it is one for `*`, decides this
pair. -/
def LineDecides (l ip : Bytes) (port : ℤ) : Prop :=
  ∃ l' ∈ withMirror l, ∃ r, lineRule l' = some r ∧ r.matches ip port = true

/-- Among the lines is one for every port of every IPv4 address. -/
def CoversIPv4 (lines : List Bytes) : Prop :=
  ∃ l ∈ lines, ∃ r, lineRule l = some r ∧ r.allV4 = true ∧ r.lo = 1 ∧ r.hi = 65535

/-- Among the lines is one for every port of every IPv6 address. -/
def CoversIPv6 (lines : List Bytes) : Prop :=
  ∃ l ∈ lines, ∃ r, lineRule l = some r ∧ r.allV6 = true ∧ r.lo = 1 ∧ r.hi = 65535

section Coverage

variable {lines : List Bytes} {l : Bytes} {r : ExitRule} {ip : Bytes} {port : ℤ}

lemma matchesPort_all (hlo : r.lo = 1) (hhi : r.hi = 65535) (h1 : 1 ≤ port) (h2 : port ≤ 65535) :
    r.matchesPort port = true := by
  simp [matchesPort, hlo, hhi, h1, h2]

lemma CoversIPv4.match (h : CoversIPv4 lines) (hip : to4 ip ≠ none) (h1 : 1 ≤ port)
    (h2 : port ≤ 65535) : ∃ l ∈ lines, ∃ r, lineRule l = some r ∧ r.matches ip port = true := by
  obtain ⟨l, hl, r, hr, hall, hlo, hhi⟩ := h
  obtain ⟨v4, hv4⟩ := ne_none_iff_exists'.1 hip
  refine ⟨l, hl, r, hr, ?_⟩
  rw [ExitRule.matches, matchesPort_all hlo hhi h1 h2, ExitRule.matchesFamily, hv4]
  simp [hall]

lemma CoversIPv6.match (h : CoversIPv6 lines) (hip : to4 ip = none) (h1 : 1 ≤ port)
    (h2 : port ≤ 65535) : ∃ l ∈ lines, ∃ r, lineRule l = some r ∧ r.matches ip port = true := by
  obtain ⟨l, hl, r, hr, hall, hlo, hhi⟩ := h
  refine ⟨l, hl, r, hr, ?_⟩
  rw [ExitRule.matches, matchesPort_all hlo hhi h1 h2, ExitRule.matchesFamily, hip]
  simp [hall]

lemma decides_iff_lines {pol : Option Directory.ExitPolicy} {ipv6 : Option ExitPolicySummary}
    (hparse : parseExitPolicyLines lines = some (pol, ipv6)) (hfour : CoversIPv4 lines)
    {p : ExitPolicy} (hp : p.rules = pol) :
    p.Decides ↔ ∀ ip, IsIPv6 ip → ∀ port : ℤ, 1 ≤ port → port ≤ 65535 →
      ∃ l ∈ lines, ∃ r, lineRule l = some r ∧ r.matches ip port = true := by
  have hsome : ∃ l ∈ lines, (lineRule l).isSome := by
    obtain ⟨l, hl, r, hr, -⟩ := hfour
    exact ⟨l, hl, by rw [hr]; rfl⟩
  have hrules : p.rules = some ⟨lines.filterMap lineRule⟩ := hp.trans (rules_of_parse hparse hsome)
  have hmatch : ∀ (ip : Bytes) (port : ℤ),
      ((⟨lines.filterMap lineRule⟩ : Directory.ExitPolicy).firstMatch ip port).isSome ↔
        ∃ l ∈ lines, ∃ r, lineRule l = some r ∧ r.matches ip port = true := by
    intro ip port
    rw [firstMatch, List.find?_isSome]
    constructor
    · rintro ⟨r, hr, hmatch⟩
      obtain ⟨l, hl, hlr⟩ := mem_filterMap.1 hr
      exact ⟨l, hl, r, hlr, hmatch⟩
    · rintro ⟨l, hl, r, hlr, hmatch⟩
      exact ⟨r, mem_filterMap.2 ⟨l, hl, hlr⟩, hmatch⟩
  constructor
  · rintro ⟨pol', hpol', hall⟩ ip hip port h1 h2
    obtain rfl := some.inj (hpol'.symm.trans hrules)
    exact (hmatch ip port).1 (hall ip hip.1 port h1 h2)
  · intro hall
    refine ⟨_, hrules, fun ip hip port h1 h2 => (hmatch ip port).2 ?_⟩
    by_cases hfam : to4 ip = none
    · exact hall ip ⟨hip, hfam⟩ port h1 h2
    · exact hfour.match hfam h1 h2

lemma mem_interleaveStarIPv6 (hl : l ∈ lines) : l ∈ interleaveStarIPv6 lines :=
  mem_flatMap.2 ⟨l, hl, mem_cons_self⟩

lemma mirror_mem {m : Bytes} (hl : l ∈ lines) (hm : starIPv6Mirror l = some m) : m ∈ interleaveStarIPv6 lines :=
  mem_flatMap.2 ⟨l, hl, mem_cons_of_mem _ (mem_toList.2 hm)⟩

lemma of_mem_normalize {raw : List Bytes} (hl : l ∈ normalizePolicyLines raw) :
    trimUnicodeSpace l = l ∧ l.head? ≠ some 35 := by
  obtain ⟨hmem, hkeep⟩ := mem_filter.1 hl
  obtain ⟨s, -, rfl⟩ := mem_map.1 hmem
  refine ⟨trimUnicodeSpace_idem s, ?_⟩
  simp only [Bool.and_eq_true, decide_eq_true_eq] at hkeep
  exact hkeep.2

lemma of_lastPattern {pattern : Bytes} (h : lastPattern lines = some pattern) :
    ∃ l ∈ lines, ∃ verb words, fields l = verb :: pattern :: words := by
  obtain ⟨l, hl, hpattern⟩ := exists_of_findSome?_eq_some h
  refine ⟨l, mem_reverse.1 hl, ?_⟩
  split at hpattern
  next verb pattern' words heq =>
    cases hpattern
    exact ⟨verb, words, heq⟩
  · cases hpattern

def IsVerb (verb : Bytes) : Prop := verb = ascii "accept" ∨ verb = ascii "reject"

variable {words : List Bytes}

lemma star_line {raw : List Bytes} {verb pattern : Bytes} {what : PolicyLine}
    (hl : l ∈ normalizePolicyLines raw) (hfields : fields l = verb :: pattern :: words)
    (hstar : pattern = ascii "*:*" ∨ pattern = ascii "*4:*")
    (hparse : parsePolicyLine l = some what) :
    IsVerb verb ∧
      ∃ r, lineRule l = some r ∧ r.allV4 = true ∧ r.lo = 1 ∧ r.hi = 65535 := by
  obtain ⟨htrim, hcomment⟩ := of_mem_normalize hl
  rcases parsePolicyLine_cases htrim hcomment hfields hparse with ⟨hverb, r, hr, rfl⟩ | hverb
  · refine ⟨hverb, r, by rw [lineRule, hparse]; rfl, ?_⟩
    have hno : ¬ (verb ≠ ascii "accept" ∧ verb ≠ ascii "reject") := by
      rintro ⟨h1, h2⟩
      exact hverb.elim h1 h2
    have hpattern : ∃ addr, parseExitPattern pattern = some (addr, 1, 65535) ∧
        (addr = ascii "*" ∨ addr = ascii "*4") := by
      rcases hstar with rfl | rfl
      · exact ⟨ascii "*", by decide, .inl rfl⟩
      · exact ⟨ascii "*4", by decide, .inr rfl⟩
    obtain ⟨addr, hpat, haddr⟩ := hpattern
    simp only [parseExitRule, if_neg hno, hpat, bind_eq_bind, bind_some, if_pos haddr] at hr
    cases hr
    exact ⟨rfl, rfl, rfl⟩
  · rcases hstar with rfl | rfl
    · exact absurd hverb (by decide)
    · exact absurd hverb (by decide)

lemma mirror_star {verb : Bytes} (hverb : IsVerb verb) (hfields : fields l = verb :: ascii "*:*" :: words) :
    ∃ m, starIPv6Mirror l = some m ∧
      ∃ r, lineRule m = some r ∧ r.allV6 = true ∧ r.lo = 1 ∧ r.hi = 65535 := by
  refine ⟨verb ++ ascii " *6:" ++ ascii "*", ?_, ?_⟩
  · unfold starIPv6Mirror
    rw [hfields]
    exact if_pos (by decide)
  · rcases hverb with rfl | rfl
    · exact ⟨{ accept := true, allV6 := true, lo := 1, hi := 65535 }, by decide, rfl, rfl, rfl⟩
    · exact ⟨{ accept := false, allV6 := true, lo := 1, hi := 65535 }, by decide, rfl, rfl, rfl⟩

end Coverage

/-! ### The assembled list -/

section Assembled

variable {interfaceLines : List Bytes} {opt : ExitPolicyOptions} {l : Bytes}
  {pol : Option Directory.ExitPolicy} {ipv6 : Option ExitPolicySummary}

lemma mem_policyLines (hl : l ∈ givenLines interfaceLines opt ++ appendedLines opt) :
    l ∈ policyLines interfaceLines opt := by
  unfold policyLines
  split
  · exact mem_interleaveStarIPv6 hl
  · exact mem_append_left _ hl

lemma mem_policyLines_of_user (hl : l ∈ normalizePolicyLines opt.lines) : l ∈ policyLines interfaceLines opt :=
  mem_policyLines (mem_append_left _ (mem_append_right _ hl))

lemma appended_star (h : endsWithAbsolutePolicy (normalizePolicyLines opt.lines) = false) :
    ∃ verb, IsVerb verb ∧ verb ++ ascii " *:*" ∈ appendedLines opt := by
  unfold appendedLines
  rw [if_neg (by simp [h])]
  split
  · exact ⟨ascii "reject", .inr rfl, mem_append_right _ mem_cons_self⟩
  · exact ⟨ascii "accept", .inl rfl, by decide⟩

lemma fields_star {verb : Bytes} (h : IsVerb verb) : fields (verb ++ ascii " *:*") = [verb, ascii "*:*"] := by
  rcases h with rfl | rfl <;> decide

variable (hparse : parseExitPolicyLines (policyLines interfaceLines opt) = some (pol, ipv6))
include hparse

/-- **Every IPv4 pair is decided.** -/
theorem covers_ipv4 : CoversIPv4 (policyLines interfaceLines opt) := by
  cases hends : endsWithAbsolutePolicy (normalizePolicyLines opt.lines) with
  | false =>
    obtain ⟨verb, hverb, hmem⟩ := appended_star hends
    refine ⟨_, mem_policyLines (mem_append_right _ hmem), ?_⟩
    rcases hverb with rfl | rfl
    · exact ⟨{ accept := true, allV4 := true, lo := 1, hi := 65535 }, by decide, rfl, rfl, rfl⟩
    · exact ⟨{ accept := false, allV4 := true, lo := 1, hi := 65535 }, by decide, rfl, rfl, rfl⟩
  | true =>
    have hstar : ∃ pattern, lastPattern (normalizePolicyLines opt.lines) = some pattern ∧
        (pattern = ascii "*:*" ∨ pattern = ascii "*4:*") := by
      simp only [endsWithAbsolutePolicy, Bool.or_eq_true, decide_eq_true_eq] at hends
      rcases hends with h | h
      · exact ⟨_, h, .inl rfl⟩
      · exact ⟨_, h, .inr rfl⟩
    obtain ⟨pattern, hlast, hstar⟩ := hstar
    obtain ⟨l, hl, verb, words, hfields⟩ := of_lastPattern hlast
    have hmem := @mem_policyLines_of_user interfaceLines opt l hl
    obtain ⟨what, hwhat⟩ := line_parses hparse hmem
    obtain ⟨-, hr⟩ := star_line hl hfields hstar hwhat
    exact ⟨l, hmem, hr⟩

/-- **Every IPv6 pair is decided** unless `IPv6Exit` is set and the configuration ends in a line
for `*4:*`. -/
theorem covers_ipv6 (h : opt.ipv6Exit = true →
      lastPattern (normalizePolicyLines opt.lines) ≠ some (ascii "*4:*")) :
    CoversIPv6 (policyLines interfaceLines opt) := by
  cases hsix : opt.ipv6Exit with
  | false =>
    refine ⟨ascii "reject *6:*", ?_, { accept := false, allV6 := true, lo := 1, hi := 65535 },
      by decide, rfl, rfl, rfl⟩
    simp [policyLines, hsix]
  | true =>
    -- a line for `*:*` stands in the list, and its mirror behind it
    have hstar : ∃ l ∈ givenLines interfaceLines opt ++ appendedLines opt, ∃ verb words,
        IsVerb verb ∧ fields l = verb :: ascii "*:*" :: words := by
      cases hends : endsWithAbsolutePolicy (normalizePolicyLines opt.lines) with
      | false =>
        obtain ⟨verb, hverb, hmem⟩ := appended_star hends
        exact ⟨_, mem_append_right _ hmem, verb, [], hverb, fields_star hverb⟩
      | true =>
        simp only [endsWithAbsolutePolicy, Bool.or_eq_true, decide_eq_true_eq] at hends
        have hlast := hends.resolve_right (h hsix)
        obtain ⟨l, hl, verb, words, hfields⟩ := of_lastPattern hlast
        obtain ⟨what, hwhat⟩ := line_parses hparse (mem_policyLines_of_user hl)
        obtain ⟨hverb, -⟩ := star_line hl hfields (.inl rfl) hwhat
        exact ⟨l, mem_append_left _ (mem_append_right _ hl), verb, words, hverb, hfields⟩
    obtain ⟨l, hl, verb, words, hverb, hfields⟩ := hstar
    obtain ⟨m, hm, hr⟩ := mirror_star hverb hfields
    refine ⟨m, ?_, hr⟩
    unfold policyLines
    rw [if_pos hsix]
    exact mirror_mem hl hm

omit hparse

lemma newExitPolicy_decides : newExitPolicy.Decides := by
  have hparse : ∃ pol ipv6, parseExitPolicyLines defaultRejectAll = some (pol, ipv6) ∧ newExitPolicy.rules = pol := by
    refine ⟨_, none, ?_, rfl⟩
    decide
  obtain ⟨pol, ipv6, hparse, hrules⟩ := hparse
  have hfour : CoversIPv4 defaultRejectAll := ⟨ascii "reject *:*", by decide,
    { accept := false, allV4 := true, lo := 1, hi := 65535 }, by decide, rfl, rfl, rfl⟩
  have hsix : CoversIPv6 defaultRejectAll := ⟨ascii "reject *6:*", by decide,
    { accept := false, allV6 := true, lo := 1, hi := 65535 }, by decide, rfl, rfl, rfl⟩
  exact (decides_iff_lines hparse hfour hrules).2 fun ip hip port h1 h2 => hsix.match hip.2 h1 h2

lemma policyLines_of_star4 (hsix : opt.ipv6Exit = true)
    (hlast : lastPattern (normalizePolicyLines opt.lines) = some (ascii "*4:*")) :
    policyLines interfaceLines opt = interleaveStarIPv6 (givenLines interfaceLines opt) := by
  have happended : appendedLines opt = [] := if_pos (by simp [endsWithAbsolutePolicy, hlast])
  unfold policyLines
  rw [happended, append_nil, if_pos hsix]

lemma mem_interleave_iff {lines : List Bytes} {ip : Bytes} {port : ℤ} :
    (∃ l ∈ interleaveStarIPv6 lines, ∃ r, lineRule l = some r ∧ r.matches ip port = true) ↔
      ∃ l ∈ lines, LineDecides l ip port := by
  constructor
  · rintro ⟨l', hl', hr⟩
    obtain ⟨l, hl, hmem⟩ := mem_flatMap.1 hl'
    exact ⟨l, hl, l', hmem, hr⟩
  · rintro ⟨l, hl, l', hmem, hr⟩
    exact ⟨l', mem_flatMap.2 ⟨l, hl, hmem⟩, hr⟩

/-- **Which policies decide everything**: all but those of an exit with `IPv6Exit` whose lines parse,
end in a line for `*4:*`, and leave an IPv6 pair to none of the lines given. -/
theorem exit_policy_decides_iff (interfaceLines : List Bytes) (opt : ExitPolicyOptions) :
    (newExitPolicyFromOptions interfaceLines opt).Decides ↔ (opt.exitRelay = true → opt.ipv6Exit = true →
        lastPattern (normalizePolicyLines opt.lines) = some (ascii "*4:*") →
        (parseExitPolicyLines (interleaveStarIPv6 (givenLines interfaceLines opt))).isSome →
        ∀ ip, IsIPv6 ip → ∀ port : ℤ, 1 ≤ port → port ≤ 65535 →
          ∃ l ∈ givenLines interfaceLines opt, LineDecides l ip port) := by
  unfold newExitPolicyFromOptions
  cases hexit : opt.exitRelay with
  | false =>
    have hdecides : ExitPolicy.Decides { newExitPolicy with ipv6OK := opt.ipv6Exit } :=
      newExitPolicy_decides
    simpa using hdecides
  | true =>
    -- The one case where the appended lines cover no IPv6 address.
    by_cases hbad : opt.ipv6Exit = true ∧
        lastPattern (normalizePolicyLines opt.lines) = some (ascii "*4:*")
    · obtain ⟨hsix, hlast⟩ := hbad
      have hlines := @policyLines_of_star4 interfaceLines opt hsix hlast
      cases hparse : parseExitPolicyLines (policyLines interfaceLines opt) with
      | none =>
        refine iff_of_true newExitPolicy_decides fun _ _ _ hok => ?_
        rw [← hlines, hparse] at hok
        cases hok
      | some parsed =>
        have hok : (parseExitPolicyLines
            (interleaveStarIPv6 (givenLines interfaceLines opt))).isSome = true := by
          rw [← hlines, hparse]
          rfl
        rw [decides_iff_lines hparse (covers_ipv4 hparse) rfl, hlines]
        simp only [mem_interleave_iff]
        exact ⟨fun h _ _ _ _ => h, fun h => h trivial hsix hlast hok⟩
    · refine iff_of_true ?_ fun _ hsix hlast => absurd ⟨hsix, hlast⟩ hbad
      cases hparse : parseExitPolicyLines (policyLines interfaceLines opt) with
      | none => exact newExitPolicy_decides
      | some parsed =>
        have hsix := covers_ipv6 hparse fun hsix hlast => hbad ⟨hsix, hlast⟩
        exact (decides_iff_lines hparse (covers_ipv4 hparse) rfl).2 fun ip hip port h1 h2 => hsix.match hip.2 h1 h2

/-- An exit for IPv6 too, whose configuration speaks of IPv4 alone. -/
def acceptIPv4 : ExitPolicyOptions where
  exitRelay := true
  lines := [ascii "reject *4:25", ascii "accept *4:*"]
  reduce := false
  ipv6Exit := true
  rejectPrivate := true
  rejectLocalInterfaces := false

/-- Port 25 of 2001:4860:4860::8888 is decided by no rule, and so it is allowed. -/
theorem ipv6_falls_through :
    ∃ pol, (newExitPolicyFromOptions [] acceptIPv4).rules = some pol ∧
      pol.firstMatch probeIPv6 25 = none ∧ pol.allows probeIPv6 25 = true ∧
      ¬ (newExitPolicyFromOptions [] acceptIPv4).Decides := by
  refine exists_some_and2 (by decide +kernel) fun pol hpol hnone _ => ?_
  rintro ⟨pol', hpol', hdecides⟩
  obtain rfl := some.inj (hpol.symm.trans hpol')
  have hsome := hdecides probeIPv6 (.inr rfl) 25 (by decide) (by decide)
  rw [hnone] at hsome
  cases hsome

end Assembled

/-! ### The filter of RESOLVE answers -/

/-- A method of `net.IP` looks at an IPv4 address by its four bytes. -/
def byFamily (four six : Bytes → Bool) (ip : Bytes) : Bool :=
  match to4 ip with
  | some v4 => four v4
  | none => six ip

@[simp] def isUnspecified : Bytes → Bool := byFamily (· = zeros 4) (· = zeros 16)

@[simp] def isLoopback : Bytes → Bool := byFamily (fun a => a.getD 0 0 = 127) (· = zeros 15 ++ [1])

@[simp] def isLinkLocalUnicast : Bytes → Bool :=
  byFamily (fun a => a.getD 0 0 = 169 && a.getD 1 0 = 254) fun a => a.getD 0 0 = 0xfe && a.getD 1 0 &&& 0xc0 = 0x80

@[simp] def isLinkLocalMulticast : Bytes → Bool :=
  byFamily (fun a => a.getD 0 0 = 224 && a.getD 1 0 = 0 && a.getD 2 0 = 0)
    fun a => a.getD 0 0 = 0xff && a.getD 1 0 &&& 0x0f = 0x02

@[simp] def isMulticast : Bytes → Bool := byFamily (fun a => a.getD 0 0 &&& 0xf0 = 0xe0) fun a => a.getD 0 0 = 0xff

@[simp] def isPrivate : Bytes → Bool :=
  byFamily (fun a => a.getD 0 0 = 10 || a.getD 0 0 = 172 && a.getD 1 0 &&& 0xf0 = 16 ||
    a.getD 0 0 = 192 && a.getD 1 0 = 168) fun a => a.getD 0 0 &&& 0xfe = 0xfc

def dangerousExitIP (ip : Bytes) : Bool :=
  isUnspecified ip || isLoopback ip || isLinkLocalUnicast ip || isLinkLocalMulticast ip ||
    isMulticast ip || isPrivate ip ||
    byFamily (fun a => a.getD 0 0 = 100 && a.getD 1 0 &&& 0xc0 = 64 ||
        a.getD 0 0 = 192 && a.getD 1 0 = 0 && a.getD 2 0 = 2 ||
        a.getD 0 0 = 198 && a.getD 1 0 = 51 && a.getD 2 0 = 100 ||
        a.getD 0 0 = 203 && a.getD 1 0 = 0 && a.getD 2 0 = 113 || 240 ≤ a.getD 0 0)
      (fun a => a.getD 0 0 = 0x20 && a.getD 1 0 = 0x01 && a.getD 2 0 = 0x0d && a.getD 3 0 = 0xb8) ip

def privateRules : Directory.ExitPolicy := ⟨privateRejectLines.filterMap lineRule⟩

section Filter

variable {ip : Bytes}

lemma rules_private : privateRules.rules =
    [(8, [0, 0, 0, 0]), (8, [127, 0, 0, 0]), (8, [10, 0, 0, 0]), (12, [172, 16, 0, 0]), (16, [192, 168, 0, 0]),
      (16, [169, 254, 0, 0]), (10, [100, 64, 0, 0]), (24, [192, 0, 2, 0]), (24, [198, 51, 100, 0]),
      (24, [203, 0, 113, 0]), (4, [224, 0, 0, 0]), (4, [240, 0, 0, 0]), (32, [255, 255, 255, 255]),
      (128, zeros 16), (128, zeros 15 ++ [1]), (10, [0xfe, 0x80] ++ zeros 14), (7, [0xfc] ++ zeros 15),
      (32, [0x20, 1, 0xd, 0xb8] ++ zeros 12), (8, [0xff] ++ zeros 15)].map fun (bits, net) =>
        { accept := false, net := some ⟨net, cidrMask bits (8 * net.length)⟩, lo := 1, hi := 65535 } := by
  decide +kernel

/-- The rules all reject, on every port. -/
lemma allows_private (ip : Bytes) {port : ℤ} (h1 : 1 ≤ port) (h2 : port ≤ 65535) :
    privateRules.allows ip port = false ↔ ∃ r ∈ privateRules.rules, r.matchesFamily ip = true := by
  have hrule : ∀ r ∈ privateRules.rules, r.accept = false ∧ r.matchesPort port = true := by
    simp [rules_private, matchesPort, h1, h2]
  unfold allows firstMatch
  rw [if_neg (by omega)]
  split
  next r hfirst =>
    have hr := mem_of_find?_eq_some hfirst
    have hmatch := find?_some hfirst
    exact ⟨fun _ => ⟨r, hr, (Bool.and_eq_true_iff.1 hmatch).1⟩, fun _ => (hrule r hr).1⟩
  next hfirst =>
    simp only [Bool.true_eq_false, false_iff]
    rintro ⟨r, hr, hfam⟩
    exact find?_eq_none.1 hfirst r hr (Bool.and_eq_true_iff.2 ⟨hfam, (hrule r hr).2⟩)

lemma contains_eq (n : IPNet) (ip : Bytes) : n.contains ip = n.numberAndMask.any fun nm =>
    ((to4 ip).getD ip).length = nm.1.length && maskIP ((to4 ip).getD ip) nm.2 = maskIP nm.1 nm.2 := by
  unfold IPNet.contains
  cases n.numberAndMask <;> simp [eq_comm]

lemma and_240 (a : UInt8) : a &&& 240 = 240 ↔ 240 ≤ a := by
  rw [← UInt8.toNat_inj]
  have hall : ∀ n < 256, n &&& 240 = 240 ↔ 240 ≤ n := by decide +kernel
  exact hall _ a.toNat_lt

lemma private_four {a b c d : UInt8} (h4 : to4 ip = some [a, b, c, d]) :
    (∃ r ∈ privateRules.rules, r.matchesFamily ip = true) ↔ dangerousExitIP ip = true ∨ a = 0 := by
  have hones : ∀ a : UInt8, a &&& 255 = a := fun a => UInt8.and_neg_one
  have h16 : (16 : UInt8) &&& 240 = 16 := rfl
  have h64 : (64 : UInt8) &&& 192 = 64 := rfl
  have h224 : (224 : UInt8) &&& 240 = 224 := rfl
  simp [rules_private, matchesFamily, h4, contains_eq, dangerousExitIP, byFamily]
  simp [to4, IPNet.numberAndMask, IsIP, maskIP, cidrMask, bytesOfNat, zeros, v4InV6, hones, h16, h64, h224, and_240]
  constructor
  · rintro (h | h | h | h | h | h | h | h | h | h | h | h | h) <;> simp [h]
  · rintro (((((((h | h) | h) | h) | h) | (h | h) | h) | (((h | h) | h) | h) | h) | h) <;> simp [h, h224]

lemma private_six (h : ip.length = 16) (h6 : to4 ip = none) :
    (∃ r ∈ privateRules.rules, r.matchesFamily ip = true) ↔ dangerousExitIP ip = true := by
  have hones : ∀ a : UInt8, a &&& 255 = a := fun a => UInt8.and_neg_one
  have h128 : (128 : UInt8) &&& 192 = 128 := rfl
  have h252 : (252 : UInt8) &&& 254 = 252 := rfl
  simp [rules_private, matchesFamily, h6, contains_eq, dangerousExitIP, byFamily]
  clear h6
  iterate 16 (rcases ip with _ | ⟨a, ip⟩; · simp at h)
  obtain rfl : ip = [] := by simpa using h
  simp [to4, IPNet.numberAndMask, IsIP, maskIP, cidrMask, bytesOfNat, zeros, v4InV6, hones, h128, h252]
  constructor
  · rintro (h | h | h | h | h | h) <;> simp [h]
  · rintro ((((((h | h) | h) | h) | h) | h) | h) <;> simp [h]

/-- **The filter rejects what the private rules reject on every port**, but for the addresses of
`0.0.0.0/8`, of which it knows `0.0.0.0` only. -/
theorem dangerousExitIP_iff_private (hip : IsIP ip) :
    (dangerousExitIP ip = true ↔ ∀ port : ℤ, 1 ≤ port → port ≤ 65535 → privateRules.allows ip port = false) ↔
      ¬ ∃ v4, to4 ip = some v4 ∧ v4.head? = some 0 ∧ v4 ≠ zeros 4 := by
  have hports : (∀ port : ℤ, 1 ≤ port → port ≤ 65535 → privateRules.allows ip port = false) ↔
      ∃ r ∈ privateRules.rules, r.matchesFamily ip = true :=
    ⟨fun h => (allows_private ip le_rfl (by decide)).1 (h 1 le_rfl (by decide)),
      fun h port h1 h2 => (allows_private ip h1 h2).2 h⟩
  rw [hports]
  cases hv4 : to4 ip with
  | none =>
    have hlen : ip.length = 16 := hip.resolve_left fun h4 => by simp [to4, h4] at hv4
    simp [private_six hlen hv4]
  | some v4 =>
    have hlen : v4.length = 4 := by
      unfold to4 at hv4
      grind
    obtain ⟨a, b, c, d, rfl⟩ := length_eq_four.1 hlen
    rw [private_four hv4]
    by_cases ha : a = 0
    · simp [ha, hv4, dangerousExitIP, byFamily]
    · simp [ha]

/-- `0.0.0.1` is rejected by a rule, and passes the filter. -/
theorem dangerousExitIP_zero_net : dangerousExitIP [0, 0, 0, 1] = false ∧
    ∀ port : ℤ, 1 ≤ port → port ≤ 65535 → privateRules.allows [0, 0, 0, 1] port = false :=
  ⟨by decide, fun _ h1 h2 => (allows_private _ h1 h2).2 (by decide +kernel)⟩

theorem dangerousExitIP_iff_private_ten : dangerousExitIP [10, 0, 0, 1] = true ↔
    ∀ port : ℤ, 1 ≤ port → port ≤ 65535 → privateRules.allows [10, 0, 0, 1] port = false :=
  (dangerousExitIP_iff_private (by decide)).2 (by simp [to4])

end Filter

end GoTor.Relay
