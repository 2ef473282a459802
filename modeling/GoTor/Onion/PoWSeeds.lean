import GoTor.Lib.Bytes
import GoTor.Lib.Run

/-!
# Proof-of-work seeds of a hosted service

`ensurePoWParams` draws a seed on demand, when the last one has expired, and keeps the one before
without a time.  Publications and introductions call it in any order, also between the steps of
one `verifyIntroducePoW`.  Equi-X and BLAKE2b are parameters: no result depends on them.
-/

namespace GoTor.Onion

open GoTor.Lib

def powSeedLen : ℕ := 32

/-- Two hours.  Times are nanoseconds since the service was made. -/
def powSeedLifetime : ℕ := 2 * 3600 * 10 ^ 9

def defaultHostPoWEffort : ℕ := 1

structure PoWProof where
  nonce : Bytes
  effort : ℕ
  seedHead : Bytes
  solution : Bytes

/-- An absent `expiration` is the zero time. -/
structure PoWParams where
  seed : Bytes
  suggestedEffort : ℕ
  expiration : Option ℕ
  deriving DecidableEq

structure PoWLib where
  /-- `New`, `SolutionFromBytes` and `Verify` of a challenge and a solution. -/
  equix : Bytes → Bytes → Except String Unit
  /-- The digest of four bytes, as a number. -/
  blake2b : Bytes → UInt32

def parsePoWProof (field : Bytes) : Option PoWProof :=
  if field.length ≠ 41 ∨ field.headD 0 ≠ 1 then none
  else some
    { nonce := slice field 1 17, effort := natOfBytes (slice field 17 21)
      seedHead := slice field 21 25, solution := slice field 25 41 }

def buildPoWChallenge (blindedID seed nonce : Bytes) (effort : ℕ) : Bytes :=
  ascii "Tor hs intro v1\x00" ++ blindedID ++ seed ++ nonce ++ bytesOfNat 4 effort

variable (lib : PoWLib)

def effortSatisfied (challenge solution : Bytes) (effort : ℕ) : Bool :=
  effort = 0 || (lib.blake2b (challenge ++ solution)).toNat * effort ≤ 2 ^ 32 - 1

def verifyOnionPoW (proof : PoWProof) (params : PoWParams) (blindedID : Bytes) (now : ℕ) : Except String Unit :=
  let ch := buildPoWChallenge blindedID params.seed proof.nonce proof.effort
  if params.seed.length ≠ powSeedLen then .error "pow seed 长度必须为 32"
  else if blindedID.length ≠ 32 then .error "致盲公钥必须为 32 字节"
  else if proof.seedHead ≠ params.seed.take 4 then .error "seed-head 与当前种子不符"
  else if params.expiration.any (· < now) then .error "pow-params 种子已过期"
  else if proof.effort < params.suggestedEffort then
    .error s!"effort {proof.effort} 低于 suggested-effort {params.suggestedEffort}"
  else do
    lib.equix ch proof.solution
    if effortSatisfied lib ch proof.solution proof.effort then .ok ()
    else .error "工作量检查失败"

/-- The proof solves the challenge that the seed sets, with the work it claims. -/
def PoWProof.Valid (proof : PoWProof) (seed blindedID : Bytes) : Prop :=
  let ch := buildPoWChallenge blindedID seed proof.nonce proof.effort
  blindedID.length = 32 ∧ proof.seedHead = seed.take 4 ∧
    lib.equix ch proof.solution = .ok () ∧ effortSatisfied lib ch proof.solution proof.effort

instance (proof : PoWProof) (seed blindedID : Bytes) : Decidable (proof.Valid lib seed blindedID) :=
  inferInstanceAs (Decidable (_ ∧ _ ∧ _ ∧ _))

lemma verifyOnionPoW_eq_ok {proof : PoWProof} {params : PoWParams} {blindedID : Bytes} {now : ℕ} :
    verifyOnionPoW lib proof params blindedID now = .ok () ↔
      params.seed.length = powSeedLen ∧ proof.Valid lib params.seed blindedID ∧
        (∀ e ∈ params.expiration, now ≤ e) ∧ params.suggestedEffort ≤ proof.effort := by
  simp only [verifyOnionPoW, PoWProof.Valid]
  cases lib.equix (buildPoWChallenge blindedID params.seed proof.nonce proof.effort) proof.solution
    <;> cases params.expiration <;> simp [bind, Except.bind] <;> grind

/-- The seed fields of `Service`. -/
structure PoWState where
  powSeed : Bytes := []
  powSeedPrev : Bytes := []
  powExpire : ℕ := 0
  /-- Every seed drawn so far with its time, the latest first. -/
  drawn : List (Bytes × ℕ) := []
  /-- When `ensurePoWParams` last ran. -/
  clock : ℕ := 0

namespace PoWState

variable {s s' : PoWState} {a : ℕ × Option (Vector UInt8 32)} {now : ℕ}

def params (s : PoWState) : PoWParams := ⟨s.powSeed, defaultHostPoWEffort, some s.powExpire⟩

/-- `rand` is what the random source fills the new seed with, if it does. -/
def ensurePoWParams (s : PoWState) (now : ℕ) (rand : Option (Vector UInt8 32)) : PoWState × Option PoWParams :=
  let s := { s with clock := now }
  if s.powSeed.length ≠ powSeedLen ∨ s.powExpire ≤ now then
    let s := if s.powSeed.length = powSeedLen then { s with powSeedPrev := s.powSeed } else s
    match rand with
    | none => (s, none)
    | some seed =>
      let s := { s with
        powSeed := seed.toList, powExpire := now + powSeedLifetime
        drawn := (seed.toList, now) :: s.drawn }
      (s, some s.params)
  else (s, some s.params)

def paramsForPoWProof (s : PoWState) (proof : PoWProof) : Option PoWParams :=
  if s.powSeed.length = powSeedLen ∧ proof.seedHead = s.powSeed.take 4 then some s.params
  else if s.powSeedPrev.length = powSeedLen ∧ proof.seedHead = s.powSeedPrev.take 4 then
    some ⟨s.powSeedPrev, defaultHostPoWEffort, none⟩
  else none

/-- One call of `ensurePoWParams`, by anyone; the clock does not go back. -/
def step (s : PoWState) (a : ℕ × Option (Vector UInt8 32)) : Option PoWState :=
  if s.clock ≤ a.1 then some (s.ensurePoWParams a.1 a.2).1 else none

/-- `verifyIntroducePoW` with the defences on: `ensured` is what its call of `ensurePoWParams`
returned, `s` what `paramsForPoWProof` finds later.  Without the extension `field` is empty. -/
def verifyIntroducePoW (ensured : Option PoWParams) (field blinded : Bytes) (s : PoWState)
    (now : ℕ) : Except String Unit :=
  match ensured with
  | none => .error "无法生成 pow 种子"
  | some params =>
    if field = [] then
      if params.suggestedEffort = 0 then .ok () else .error "缺少 EXT 0x02"
    else match parsePoWProof field with
      | none => .error "无法解析 EXT 0x02"
      | some proof =>
        match s.paramsForPoWProof proof with
        | none => .error "seed-head 与服务种子不符"
        | some matched => verifyOnionPoW lib proof matched blinded now

/-- The current seed is the last drawn, all others have expired, and the previous one is the last
of them; after a failed draw it is the current one. -/
def Inv (s : PoWState) : Prop :=
  (s.drawn = [] ∧ s.powSeed = [] ∧ s.powSeedPrev = [] ∧ s.powExpire = 0) ∨
    ∃ t l, s.drawn = (s.powSeed, t) :: l ∧ s.powSeed.length = powSeedLen ∧
      s.powExpire = t + powSeedLifetime ∧ (∀ p ∈ l, p.2 + powSeedLifetime ≤ s.clock) ∧
      (s.powSeedPrev = [] ∨ s.powSeedPrev = s.powSeed ∨ ∃ t' l', l = (s.powSeedPrev, t') :: l')

lemma Inv.step (hi : s.Inv) (h : s.step a = some s') : s'.Inv ∧ s.clock ≤ a.1 ∧
    s'.clock = a.1 ∧ s.powExpire ≤ s'.powExpire ∧ s.drawn ⊆ s'.drawn := by
  obtain ⟨hc, rfl⟩ : s.clock ≤ a.1 ∧ (s.ensurePoWParams a.1 a.2).1 = s' := by
    simpa [PoWState.step] using h
  obtain ⟨hd, hs, hp, he⟩ | ⟨t, l, hd, hs, he, hl, hp⟩ := hi
  · cases a.2 <;> simp [Inv, ensurePoWParams, hd, hs, hp, he, hc, powSeedLen]
  have hl' (p) (h : p ∈ l) : p.2 + powSeedLifetime ≤ a.1 := Nat.le_trans (hl p h) hc
  by_cases hx : s.powExpire ≤ a.1
  · cases a.2 with
    | none =>
      simp only [ensurePoWParams, hx, hs, or_true, if_true]
      exact ⟨.inr ⟨t, l, hd, hs, he, hl', .inr (.inl rfl)⟩, hc, trivial, Nat.le_refl _, fun _ h => h⟩
    | some seed =>
      simp only [ensurePoWParams, hx, hs, or_true, if_true]
      refine ⟨.inr ⟨a.1, s.drawn, rfl, by simp [powSeedLen], rfl, ?_, .inr (.inr ⟨t, l, hd⟩)⟩, hc,
        trivial, Nat.le_add_right_of_le hx, List.subset_cons_self _ _⟩
      simpa [hd, ← he, hx] using hl'
  · simp only [ensurePoWParams, hx, hs, ne_eq, not_true, or_self, if_false]
    exact ⟨.inr ⟨t, l, hd, hs, he, hl', hp⟩, hc, trivial, Nat.le_refl _, fun _ h => h⟩

lemma Inv.reaches (hi : s.Inv) (h : Reaches PoWState.step s s') :
    s'.Inv ∧ s.clock ≤ s'.clock ∧ s.powExpire ≤ s'.powExpire ∧ s.drawn ⊆ s'.drawn := by
  obtain ⟨as, h⟩ := h
  induction as generalizing s with
  | nil =>
    cases h
    exact ⟨hi, Nat.le_refl _, Nat.le_refl _, fun _ h => h⟩
  | cons a as ih =>
    obtain ⟨s1, h1, h⟩ := run_cons_eq_some.1 h
    obtain ⟨hi1, hc, hc1, he, hd⟩ := hi.step h1
    obtain ⟨hi', hc', he', hd'⟩ := ih hi1 h
    exact ⟨hi', by omega, Nat.le_trans he he', List.Subset.trans hd hd'⟩

/-- Only the current seed can be one that has not expired. -/
lemma Inv.current {seed : Bytes} {t : ℕ} (hi : s.Inv) (h : (seed, t) ∈ s.drawn) (ht : s.clock < t + powSeedLifetime) :
    seed = s.powSeed ∧ s.powSeed.length = powSeedLen ∧ s.powExpire = t + powSeedLifetime := by
  obtain ⟨hd, -⟩ | ⟨t', l, hd, hs, he, hl, -⟩ := hi
  · simp [hd] at h
  rw [hd, List.mem_cons] at h
  obtain ⟨rfl, rfl⟩ | h := h
  · exact ⟨rfl, hs, he⟩
  · have := hl _ h
    omega

/-- The current seed is returned, unless there is none or it has expired. -/
lemma ensurePoWParams_snd (s : PoWState) (now : ℕ) (rand : Option (Vector UInt8 32)) :
    let s' := (s.ensurePoWParams now rand).1
    (s.ensurePoWParams now rand).2 =
      if s'.powSeed.length = powSeedLen ∧ now < s'.powExpire then some s'.params else none := by
  unfold ensurePoWParams
  by_cases h : s.powSeed.length ≠ powSeedLen ∨ s.powExpire ≤ now
  · cases rand <;> by_cases h' : s.powSeed.length = powSeedLen <;> simp_all [powSeedLen, powSeedLifetime]
  · simp [h]
    grind

lemma verifyIntroducePoW_eq_ok {field blinded : Bytes} :
    verifyIntroducePoW lib (some s'.params) field blinded s now = .ok () ↔
      ∃ proof ∈ parsePoWProof field, ∃ matched ∈ s.paramsForPoWProof proof,
        verifyOnionPoW lib proof matched blinded now = .ok () := by
  by_cases hfield : field = []
  · simp [verifyIntroducePoW, hfield, params, defaultHostPoWEffort, parsePoWProof]
  simp only [verifyIntroducePoW, hfield]
  cases parsePoWProof field with
  | none => simp
  | some proof => cases hmatched : s.paramsForPoWProof proof <;> simp [hmatched]

/-- A proof is accepted only for a seed that has not expired or whose successor was drawn less than
a lifetime before the call; and for a seed that has not expired, it is. -/
theorem accepted_window {s0 s1 : PoWState} {field blinded : Bytes}
    (h0 : Reaches step {} s0) (h1 : s0.step a = some s1) (h : Reaches step s1 s)
    (hnow : s.clock ≤ now) :
    let answer := verifyIntroducePoW lib (s0.ensurePoWParams a.1 a.2).2 field blinded s now
    (answer = .ok () → ∃ proof seed t, parsePoWProof field = some proof ∧ (seed, t) ∈ s.drawn ∧
      proof.Valid lib seed blinded ∧ defaultHostPoWEffort ≤ proof.effort ∧
      (now ≤ t + powSeedLifetime ∨ ∃ seed' t', [(seed', t'), (seed, t)] <:+: s.drawn ∧ a.1 < t' + powSeedLifetime)) ∧
    ∀ proof seed t, parsePoWProof field = some proof → (seed, t) ∈ s1.drawn →
      now < t + powSeedLifetime → proof.Valid lib seed blinded →
      defaultHostPoWEffort ≤ proof.effort → answer = .ok () := by
  obtain ⟨hi1, -, hc1, -⟩ := (Inv.reaches (.inl ⟨rfl, rfl, rfl, rfl⟩) h0).1.step h1
  obtain ⟨hi, hc, he, hd⟩ := hi1.reaches h
  obtain ⟨-, rfl⟩ : _ ∧ (s0.ensurePoWParams a.1 a.2).1 = s1 := by simpa [PoWState.step] using h1
  simp only [ensurePoWParams_snd]
  constructor
  · intro hok
    split at hok
    next hen =>
      obtain ⟨proof, hproof, matched, hmatched, hok⟩ := (verifyIntroducePoW_eq_ok lib).1 hok
      obtain ⟨-, hvalid, hexpired, heffort⟩ := (verifyOnionPoW_eq_ok lib).1 hok
      obtain ⟨-, -, -, he0⟩ | ⟨t, l, hdrawn, -, hexp, -, hprev⟩ := hi
      · omega
      rw [paramsForPoWProof] at hmatched
      split_ifs at hmatched with hcur hold <;> cases hmatched
      · refine ⟨proof, _, t, hproof, ?_, hvalid, heffort, .inl (hexp ▸ hexpired _ rfl)⟩
        simp [hdrawn, params]
      -- the current seed is looked up first, so the previous one is another
      · obtain hp | hp | ⟨t', l', rfl⟩ := hprev
        · simp [hp, powSeedLen] at hold
        · exact absurd (hp ▸ hold) hcur
        · refine ⟨proof, _, t', hproof, by simp [hdrawn], hvalid, heffort, .inr ⟨s.powSeed, t, ?_⟩⟩
          exact ⟨⟨[], l', by simp [hdrawn]⟩, by omega⟩
    next => cases hok
  · intro proof seed t hproof hseed ht hvalid heffort
    obtain ⟨-, hlen1, he1⟩ := hi1.current hseed (by omega)
    obtain ⟨rfl, hlen, he⟩ := hi.current (hd hseed) (by omega)
    rw [if_pos ⟨hlen1, by omega⟩, verifyIntroducePoW_eq_ok]
    refine ⟨proof, hproof, s.params, if_pos ⟨hlen, hvalid.2.1⟩, (verifyOnionPoW_eq_ok lib).2 ?_⟩
    exact ⟨hlen, hvalid, by simp [params]; omega, heffort⟩

/-- Any solution will do, with any effort. -/
def easyPoW : PoWLib := ⟨fun _ _ => .ok (), fun _ => 0⟩

/-- A proof of effort one for the seed of ones. -/
def onesProof : PoWProof := ⟨zeros 16, 1, .replicate 4 1, zeros 16⟩

def onesField : Bytes := [1] ++ zeros 16 ++ [0, 0, 0, 1] ++ .replicate 4 1 ++ zeros 16

theorem accepted_window_ones : ∃ s, step {} (0, some (.replicate 32 1)) = some s ∧
    verifyIntroducePoW easyPoW (ensurePoWParams {} 0 (some (.replicate 32 1))).2 onesField
      (zeros 32) s 5 = .ok () := by
  refine exists_some_imp (P := fun s => s.clock ≤ 5 ∧ (.replicate 32 1, 0) ∈ s.drawn) (by decide +kernel) ?_
  rintro s hs ⟨hclock, hdrawn⟩
  exact (accepted_window easyPoW (.refl) hs (.refl) hclock).2 onesProof _ 0 rfl hdrawn
    (by decide) ⟨rfl, rfl, rfl, rfl⟩ (by decide)

/-- The second call comes fifty lifetimes after the first. -/
theorem old_seed_accepted :
    ∃ s0, step {} (0, some (.replicate 32 1)) = some s0 ∧
      ∃ s, s0.step (50 * powSeedLifetime, some (.replicate 32 2)) = some s ∧ verifyIntroducePoW easyPoW
            (s0.ensurePoWParams (50 * powSeedLifetime) (some (.replicate 32 2))).2 onesField
            (zeros 32) s (50 * powSeedLifetime) = .ok () ∧
          ∀ p ∈ s.drawn, onesProof.Valid easyPoW p.1 (zeros 32) →
            p.2 + powSeedLifetime + powSeedLifetime < 50 * powSeedLifetime := by
  decide +kernel

end PoWState

open PoWState

end GoTor.Onion
