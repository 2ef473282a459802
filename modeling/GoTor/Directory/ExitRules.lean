import GoTor.Lib.IPAddr
import GoTor.Lib.Scan
import Mathlib.Data.List.Find

/-!
# Exit rules

The accept and reject lines of a server descriptor: how a line is read, and how a list of rules
decides about an address and a port.  The first rule that matches decides; an exhausted list
accepts.
-/

namespace GoTor.Directory

open GoTor.Lib GoTor.Lib.HostPort List

/-! ### Ports -/

/-- A port number, not below `least`. -/
def portFrom (least : ℤ) (s : Bytes) : Option ℤ :=
  match atoi s with
  | none => none
  | some n => if n < least ∨ n > 65535 then none else some n

def parsePolicyPort : Bytes → Option ℤ := portFrom 0

def parsePort : Bytes → Option ℤ := portFrom 1

def portRange (parse : Bytes → Option ℤ) (s : Bytes) : Option (ℤ × ℤ) :=
  if 45 ∈ s then do
    let a ← parse (cutBefore 45 s)
    let b ← parse (cutAfter 45 s)
    if a > b then none else some (a, b)
  else do
    let p ← parse s
    return (p, p)

def parsePortSpec (s : Bytes) : Option (ℤ × ℤ) :=
  if s = ascii "*" then some (1, 65535) else portRange parsePolicyPort s

def parsePortOrRange : Bytes → Option (ℤ × ℤ) := portRange parsePort

/-! ### Addresses -/

/-- `simpleMaskLength`: the leading ones of a mask, `-1` when ones follow a zero. -/
def simpleMaskLength : Bytes → ℤ
  | [] => 0
  | v :: mask =>
    if v = 0xFF then
      let n := simpleMaskLength mask
      if n = -1 then -1 else n + 8
    else
      match (List.range 8).find? fun ones => v = UInt8.ofNat (256 - 2 ^ (8 - ones)) with
      | some ones => if mask.all (· = 0) then ones else -1
      | none => -1

/-- The ones that `IPMask.Size` reports. -/
def maskOnes (mask : Bytes) : ℤ := if simpleMaskLength mask = -1 then 0 else simpleMaskLength mask

def parseIPv6AddrSpec (addr : Bytes) : Option IPNet := do
  let stop ← addr.idxOf? rightBracket
  if addr.head? ≠ some leftBracket then none
  else
    let rest := addr.drop (stop + 1)
    let bits ←
      if rest = [] then some 128
      else if rest.head? ≠ some 47 then none
      else match atoi (rest.drop 1) with
        | none => none
        | some n => if n < 0 ∨ n > 128 then none else some n.toNat
    let ip ← parseIP (slice addr 1 stop)
    if (to4 ip).isSome then none
    else some { ip := maskIP ip (cidrMask bits 128), mask := cidrMask bits 128 }

def parseIPv4AddrSpec (addr : Bytes) : Option IPNet := do
  let ip ← parseIP (cutBefore 47 addr)
  let ip4 ← to4 ip
  if 47 ∈ addr then
    let maskPart := cutAfter 47 addr
    match parseIP maskPart with
    | some dotted =>
      let m4 ← to4 dotted
      if maskOnes m4 < 0 then none else some { ip := maskIP ip4 m4, mask := m4 }
    | none =>
      match atoi maskPart with
      | none => none
      | some n =>
        if n < 0 ∨ n > 32 then none
        else some { ip := maskIP ip4 (cidrMask n.toNat 32), mask := cidrMask n.toNat 32 }
  else some { ip := maskIP ip4 (cidrMask 32 32), mask := cidrMask 32 32 }

def parseAddrSpec (addr : Bytes) : Option IPNet :=
  if addr.head? = some leftBracket then parseIPv6AddrSpec addr else parseIPv4AddrSpec addr

/-! ### Rules -/

structure ExitRule where
  accept : Bool
  allV4 : Bool := false
  allV6 : Bool := false
  net : Option IPNet := none
  lo : ℤ
  hi : ℤ
  deriving DecidableEq

/-- What `parseExitPattern` cuts a pattern into: the address and the ports. -/
def cutPattern (pattern : Bytes) : Option (Bytes × Bytes) :=
  if pattern.head? = some leftBracket then do
    let stop ← pattern.idxOf? rightBracket
    let addr := pattern.take (stop + 1)
    let rest := pattern.drop (stop + 1)
    let (addr, rest) ←
      if rest.head? = some 47 then
        (rest.idxOf? colon).map fun i => (addr ++ rest.take i, rest.drop i)
      else some (addr, rest)
    if rest.head? ≠ some colon then none else some (addr, rest.drop 1)
  else (lastIndexByte pattern colon).map fun i => (pattern.take i, pattern.drop (i + 1))

def parseExitPattern (pattern : Bytes) : Option (Bytes × ℤ × ℤ) :=
  if pattern = [] then none
  else do
    let (addr, portspec) ← cutPattern pattern
    let (lo, hi) ← parsePortSpec portspec
    return (addr, lo, hi)

/-- `parseExitRule`: further words are ignored. -/
def parseExitRule : List Bytes → Option ExitRule
  | verb :: pattern :: _ =>
    if verb ≠ ascii "accept" ∧ verb ≠ ascii "reject" then none
    else do
      let (addr, lo, hi) ← parseExitPattern pattern
      let accept : Bool := verb = ascii "accept"
      if addr = ascii "*" ∨ addr = ascii "*4" then return { accept, allV4 := true, lo, hi }
      else if addr = ascii "*6" then return { accept, allV6 := true, lo, hi }
      else
        let net ← parseAddrSpec addr
        return { accept, net, lo, hi }
  | _ => none

/-! ### Port summaries -/

structure ExitPolicySummary where
  acceptList : Bool
  ranges : List (ℤ × ℤ)
  deriving DecidableEq

def parsePortList (list : Bytes) : Option (List (ℤ × ℤ)) :=
  if list = [] then none
  else do
    let ranges ← (((list.splitOn 44).map trimUnicodeSpace).filter (· ≠ [])).mapM parsePortOrRange
    if ranges = [] then none else some ranges

def parseExitPolicySummary (line : Bytes) : Option ExitPolicySummary :=
  let words := fields (trimUnicodeSpace line)
  let words := if words.head? ∈ [some (ascii "p"), some (ascii "p6"), some (ascii "ipv6-policy")] ∧
    2 ≤ words.length then words.drop 1 else words
  match words with
  | verb :: port :: ports =>
    if verb ≠ ascii "accept" ∧ verb ≠ ascii "reject" then none
    else do
      let ranges ← parsePortList (port :: ports).flatten
      return { acceptList := verb = ascii "accept", ranges }
  | _ => none

def ExitPolicySummary.allows (p : ExitPolicySummary) (port : ℤ) : Bool :=
  if port < 1 ∨ port > 65535 then false
  else
    let listed := p.ranges.any fun r => r.1 ≤ port && port ≤ r.2
    if p.acceptList then listed else !listed

/-! ### Policies -/

structure ExitPolicy where
  rules : List ExitRule
  deriving DecidableEq

inductive PolicyLine
  | blank
  | rule (r : ExitRule)
  | ipv6 (s : ExitPolicySummary)
  deriving DecidableEq

def PolicyLine.rule? : PolicyLine → Option ExitRule
  | .rule r => some r
  | _ => none

def PolicyLine.ipv6? : PolicyLine → Option ExitPolicySummary
  | .ipv6 s => some s
  | _ => none

/-- One round of the loop of `ParseExitPolicyLines`. -/
def parsePolicyLine (raw : Bytes) : Option PolicyLine :=
  let line := trimUnicodeSpace raw
  if line = [] ∨ line.head? = some 35 then some .blank
  else
    match fields line with
    | [] => some .blank
    | verb :: words =>
      if verb = ascii "accept" ∨ verb = ascii "reject" then
        (parseExitRule (verb :: words)).map .rule
      else if verb = ascii "ipv6-policy" then (parseExitPolicySummary line).map .ipv6
      else none

def parseExitPolicyLines (lines : List Bytes) :
    Option (Option ExitPolicy × Option ExitPolicySummary) := do
  let parsed ← lines.mapM parsePolicyLine
  let rules := parsed.filterMap PolicyLine.rule?
  let ipv6 := (parsed.filterMap PolicyLine.ipv6?).getLast?
  if rules = [] ∧ ipv6 = none then none
  else return (if rules = [] then none else some ⟨rules⟩, ipv6)

def ExitRule.matchesFamily (r : ExitRule) (ip : Bytes) : Bool :=
  match to4 ip with
  | some v4 => r.allV4 || r.net.any fun n => (to4 n.ip).isSome && n.contains v4
  | none => r.allV6 || r.net.any fun n => (to4 n.ip).isNone && n.contains ip

def ExitRule.matchesPort (r : ExitRule) (port : ℤ) : Bool := r.lo ≤ port && port ≤ r.hi

def ExitRule.matches (r : ExitRule) (ip : Bytes) (port : ℤ) : Bool :=
  r.matchesFamily ip && r.matchesPort port

def ExitPolicy.firstMatch (p : ExitPolicy) (ip : Bytes) (port : ℤ) : Option ExitRule :=
  p.rules.find? fun r => r.matches ip port

/-- `Allows`: an exhausted list accepts. -/
def ExitPolicy.allows (p : ExitPolicy) (ip : Bytes) (port : ℤ) : Bool :=
  if port < 1 ∨ port > 65535 then false
  else
    match p.firstMatch ip port with
    | some r => r.accept
    | none => true

/-- A rule for IPv4 networks. -/
def ExitRule.isNet4 (r : ExitRule) : Bool := r.net.any fun n => (to4 n.ip).isSome

/-- `AllowsUnknown`, for a host name: a rule for all of IPv4 decides; without one, one accepting
network is enough. -/
def ExitPolicy.allowsUnknown (p : ExitPolicy) (port : ℤ) : Bool :=
  if port < 1 ∨ port > 65535 then false
  else
    let rules := p.rules.filter fun r => r.matchesPort port
    match rules.find? fun r => r.allV4 with
    | some r => r.accept
    | none =>
      if rules.any fun r => r.isNet4 && r.accept then true
      else if rules.any fun r => r.isNet4 && !r.accept then false
      else true

/-! ### Lines and rules -/

def lineRule (line : Bytes) : Option ExitRule := (parsePolicyLine line).bind PolicyLine.rule?

section Lines

variable {lines : List Bytes} {line : Bytes} {r : ExitRule} {pol : Option ExitPolicy}
  {ipv6 : Option ExitPolicySummary}

lemma rules_of_parse (h : parseExitPolicyLines lines = some (pol, ipv6))
    (hsome : ∃ line ∈ lines, (lineRule line).isSome) : pol = some ⟨lines.filterMap lineRule⟩ := by
  obtain ⟨parsed, hparsed, h⟩ := Option.bind_eq_some_iff.1 h
  have hrules : parsed.filterMap PolicyLine.rule? = lines.filterMap lineRule :=
    filterMap_of_mapM hparsed _
  obtain ⟨line, hline, hrule⟩ := hsome
  obtain ⟨r, hr⟩ := Option.isSome_iff_exists.1 hrule
  have hne : lines.filterMap lineRule ≠ [] :=
    ne_nil_of_mem (mem_filterMap.2 ⟨line, hline, hr⟩)
  rw [hrules] at h
  rw [if_neg fun hnil => hne hnil.1, if_neg hne] at h
  exact (Prod.mk.inj (Option.some.inj h)).1.symm

lemma line_parses (h : parseExitPolicyLines lines = some (pol, ipv6)) (hline : line ∈ lines) :
    ∃ what, parsePolicyLine line = some what := by
  obtain ⟨parsed, hparsed, -⟩ := Option.bind_eq_some_iff.1 h
  exact isSome_of_mapM hparsed hline

lemma parsePolicyLine_cases {what : PolicyLine} {verb pattern : Bytes} {words : List Bytes}
    (htrim : trimUnicodeSpace line = line) (hcomment : line.head? ≠ some 35)
    (hfields : fields line = verb :: pattern :: words) (h : parsePolicyLine line = some what) :
    ((verb = ascii "accept" ∨ verb = ascii "reject") ∧
      ∃ r, parseExitRule (verb :: pattern :: words) = some r ∧ what = .rule r) ∨
    (pattern = ascii "accept" ∨ pattern = ascii "reject") := by
  unfold parsePolicyLine at h
  have hne : line ≠ [] := by
    rintro rfl
    cases hfields
  simp only [htrim, hne, hcomment, or_self, if_false, hfields] at h
  split at h
  next hverb =>
    obtain ⟨r, hr, rfl⟩ := Option.map_eq_some_iff.1 h
    exact .inl ⟨hverb, r, hr, rfl⟩
  split at h
  next hverb hsix =>
    obtain ⟨s, hs, -⟩ := Option.map_eq_some_iff.1 h
    refine .inr ?_
    unfold parseExitPolicySummary at hs
    have hhead : (verb :: pattern :: words).head? ∈
        [some (ascii "p"), some (ascii "p6"), some (ascii "ipv6-policy")] := by
      rw [hsix]
      simp
    simp only [htrim, hfields, hhead] at hs
    split at hs
    next verb' port ports heq =>
      cases heq
      split at hs
      · cases hs
      next hno =>
      rcases Decidable.not_and_iff_not_or_not.1 hno with hno | hno
      · exact .inl (Decidable.not_not.1 hno)
      · exact .inr (Decidable.not_not.1 hno)
    · cases hs
  · cases h

end Lines

/-! ### Unknown addresses -/

section Unknown

variable {p : ExitPolicy} {ip v4 : Bytes} {port : ℤ}

/-- Where no rule for a network matches, the first match is a rule for all of IPv4. -/
lemma firstMatch_of_isNet4 (hv4 : to4 ip = some v4)
    (hnone : ∀ r ∈ p.rules, r.isNet4 = true → r.matches ip port = false) :
    p.firstMatch ip port = (p.rules.filter fun r => r.matchesPort port).find? fun r => r.allV4 := by
  rw [find?_filter]
  refine find?_congr fun r hr => ?_
  have hnone := hnone r hr
  simp only [ExitRule.matches, ExitRule.matchesFamily, ExitRule.isNet4, hv4] at hnone ⊢
  cases hnet : r.net with
  | none => simp [Bool.and_comm]
  | some n =>
    rw [hnet] at hnone
    cases hip : (to4 n.ip).isSome
    · simp [hip, Bool.and_comm]
    · have hnone := hnone hip
      revert hnone
      cases r.allV4 <;> cases r.matchesPort port <;> simp

/-- **A host name is decided like an IPv4 address that no network rule matches**, but for a port
that only rejecting network rules cover.  Where the two differ, the host name is refused. -/
theorem allowsUnknown_eq_allows_iff (hv4 : to4 ip = some v4)
    (hnone : ∀ r ∈ p.rules, r.isNet4 = true → r.matches ip port = false) :
    (p.allowsUnknown port = p.allows ip port ↔
      (1 ≤ port ∧ port ≤ 65535 → ∀ r ∈ p.rules, r.matchesPort port = true → r.isNet4 = true →
        ∃ r' ∈ p.rules, r'.matchesPort port = true ∧
          (r'.allV4 = true ∨ r'.isNet4 = true ∧ r'.accept = true))) ∧
    (p.allowsUnknown port ≠ p.allows ip port → p.allowsUnknown port = false) := by
  unfold ExitPolicy.allowsUnknown ExitPolicy.allows
  rw [firstMatch_of_isNet4 hv4 hnone]
  split
  next hport => exact ⟨⟨fun _ hin => absurd hin (by omega), fun _ => rfl⟩, fun _ => rfl⟩
  next hport =>
  dsimp only
  split
  next r hfind =>
    -- a rule for all of IPv4 decides both
    have hr := mem_filter.1 (mem_of_find?_eq_some hfind)
    refine ⟨⟨fun _ _ _ _ _ _ => ?_, fun _ => rfl⟩, fun hne => absurd rfl hne⟩
    exact ⟨r, hr.1, hr.2, .inl (find?_some hfind)⟩
  next hfind =>
  simp only [any_filter, any_eq_true, Bool.and_eq_true]
  split
  next haccept =>
    obtain ⟨r', hr', hp', hnet'⟩ := haccept
    refine ⟨⟨fun _ _ _ _ _ _ => ?_, fun _ => rfl⟩, fun hne => absurd rfl hne⟩
    exact ⟨r', hr', hp', .inr hnet'⟩
  next haccept =>
  split
  next hreject =>
    -- the only case in which they differ
    obtain ⟨r, hr, hp, hnet, -⟩ := hreject
    refine ⟨⟨fun hsame => Bool.noConfusion hsame, fun h => ?_⟩, fun _ => rfl⟩
    obtain ⟨r', hr', hp', hall' | hnet'⟩ := h (by omega) r hr hp hnet
    · exact absurd hall' (find?_eq_none.1 hfind r' (mem_filter.2 ⟨hr', hp'⟩))
    · exact absurd ⟨r', hr', hp', hnet'⟩ haccept
  next hreject =>
  refine ⟨⟨fun _ _ r hr hp hnet => absurd ⟨r, hr, hp, hnet, ?_⟩ hreject, fun _ => rfl⟩,
    fun hne => absurd rfl hne⟩
  rw [Bool.not_eq_true', Bool.eq_false_iff]
  exact fun haccept' => haccept ⟨r, hr, hp, hnet, haccept'⟩

/-- A list that only rejects a network refuses every host name, and accepts the addresses outside
the network. -/
theorem host_name_refused :
    ∃ p, parseExitPolicyLines [ascii "reject 10.0.0.0/8:*"] = some (some p, none) ∧
      (∀ r ∈ p.rules, r.isNet4 = true → r.matches [1, 2, 3, 4] 80 = false) ∧
      p.allowsUnknown 80 = false ∧ p.allows [1, 2, 3, 4] 80 = true :=
  ⟨⟨[{ accept := false, net := some ⟨[10, 0, 0, 0], [255, 0, 0, 0]⟩, lo := 1, hi := 65535 }]⟩,
    by decide +kernel⟩

theorem host_name_like_address :
    ∃ p, parseExitPolicyLines [ascii "accept 10.0.0.0/8:80"] = some (some p, none) ∧
      p.allowsUnknown 80 = p.allows [1, 2, 3, 4] 80 :=
  ⟨⟨[{ accept := true, net := some ⟨[10, 0, 0, 0], [255, 0, 0, 0]⟩, lo := 80, hi := 80 }]⟩,
    by decide +kernel, (allowsUnknown_eq_allows_iff rfl (by decide)).1.2 (by decide)⟩

end Unknown

end GoTor.Directory
