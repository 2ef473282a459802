import GoTor.Lib.Run
import GoTor.Lib.TokenBucket

/-!
# The connection rate of a client

`DoSGuard` admits the connections of an address out of a token bucket.  The bucket is kept with
the count of open connections: when the last one closes, or when entries are purged, it is
forgotten, and the next connection finds a full one.
-/

namespace GoTor.Relay

open GoTor.Lib Function Option

/-- What `DoSGuard` is set to, with durations in seconds. -/
structure DosSettings where
  connOn : Bool
  maxConns : ℕ
  defense : ℚ
  connRate : ℚ
  connBurst : ℚ
  connDef : ℚ
  rate_nonneg : 0 ≤ connRate
  burst_nonneg : 0 ≤ connBurst

/-- `dosIP`; the time 0 is Go's zero time. -/
structure DosIP where
  conns : ℕ := 0
  lastRefill : ℚ
  markedUntil : ℚ := 0
  connTokens : ℚ
  connLast : ℚ
  connMarked : ℚ := 0

structure DosGuard where
  ips : String → Option DosIP := fun _ => none
  lastPurge : ℚ

def DosIP.idle (st : DosIP) (now : ℚ) : Bool :=
  st.conns == 0 && st.markedUntil < now && st.connMarked < now

section

variable (cfg : DosSettings)

def DosIP.purgeable (st : DosIP) (now : ℚ) : Bool :=
  st.idle now && cfg.defense < now - st.lastRefill

def DosIP.refillConnLocked (st : DosIP) (now : ℚ) : DosIP :=
  let elapsed := now - st.connLast
  if 0 < elapsed then
    let tokens := st.connTokens + elapsed * cfg.connRate
    { st with connTokens := if cfg.connBurst < tokens then cfg.connBurst else tokens
              connLast := now }
  else st

namespace DosGuard

variable (g : DosGuard)

def put (ip : String) (st : DosIP) : DosGuard :=
  { g with ips := update g.ips ip (some st) }

def maybePurgeLocked (now : ℚ) : DosGuard :=
  if now - g.lastPurge < 600 then g
  else { ips := fun ip => (g.ips ip).filter fun st => !st.purgeable cfg now, lastPurge := now }

def getLocked (now : ℚ) (ip : String) : DosIP :=
  (g.ips ip).getD { lastRefill := now, connTokens := cfg.connBurst, connLast := now }

/-- The error, if the connection is refused, and the guard. -/
def onConnect (now : ℚ) (ip : String) : Option String × DosGuard :=
  if ip = "" then (none, g)
  else
    let g := g.maybePurgeLocked cfg now
    let st := g.getLocked cfg now ip
    if cfg.connOn then
      if cfg.maxConns ≤ st.conns then
        (some "DoS: concurrent OR connections from this address", g.put ip st)
      else if now < st.connMarked then (some "DoS: connection rate exceeded", g.put ip st)
      else
        let st := st.refillConnLocked cfg now
        if st.connTokens < 1 then
          (some "DoS: connection rate exceeded",
            g.put ip { st with connMarked := now + cfg.connDef })
        else (none, g.put ip { st with connTokens := st.connTokens - 1, conns := st.conns + 1 })
    else (none, g.put ip { st with conns := st.conns + 1 })

def onDisconnect (now : ℚ) (ip : String) : DosGuard :=
  if ip = "" then g
  else match g.ips ip with
    | none => g
    | some st =>
      let st := { st with conns := st.conns - 1 }
      if st.idle now then { g with ips := update g.ips ip none } else g.put ip st

end DosGuard

/-! ### Runs -/

inductive DosOp
  | onConnect
  | onDisconnect

structure DosRun where
  guard : DosGuard
  clock : ℚ
  accepted : List ℚ := []

namespace DosRun

variable (ip : String)

/-- An event of the address at a time; the clock does not go back. -/
def step (s : DosRun) (e : ℚ × DosOp) : Option DosRun :=
  if e.1 < s.clock then none
  else match e.2 with
    | .onConnect =>
      let (err, guard) := s.guard.onConnect cfg e.1 ip
      some ⟨guard, e.1, if err.isSome then s.accepted else s.accepted ++ [e.1]⟩
    | .onDisconnect => some ⟨s.guard.onDisconnect e.1 ip, e.1, s.accepted⟩

/-- Whether the event makes the guard forget the entry `st` of the address. -/
def forgets (s : DosRun) (st : DosIP) (now : ℚ) : DosOp → Bool
  | .onConnect => 600 ≤ now - s.guard.lastPurge && st.purgeable cfg now
  | .onDisconnect => { st with conns := st.conns - 1 }.idle now

/-- A bucket that is forgotten would be full by now. -/
def ForgetsFull (s : DosRun) (e : ℚ × DosOp) : Prop :=
  ∀ st ∈ s.guard.ips ip, s.forgets cfg st e.1 e.2 = true →
    cfg.connBurst ≤ st.connTokens + (e.1 - st.connLast) * cfg.connRate

instance (s : DosRun) (e : ℚ × DosOp) : Decidable (ForgetsFull cfg ip s e) :=
  inferInstanceAs (Decidable (∀ st ∈ _, _))

end DosRun

end

/-! ### The bucket of an address -/

/-- The tokens at a time, with those that have come in. -/
def DosIP.level (cfg : DosSettings) (now : ℚ) (st : DosIP) : ℚ :=
  min cfg.connBurst (st.connTokens + (now - st.connLast) * cfg.connRate)

/-- An entry of the past stands for a bucket with `level` tokens, and no entry for a full one. -/
def Holds (cfg : DosSettings) (now level : ℚ) : Option DosIP → Prop
  | none => level = cfg.connBurst
  | some st => st.connLast ≤ now ∧ st.connTokens ≤ cfg.connBurst ∧ st.level cfg now = level

section

variable {cfg : DosSettings} {st : DosIP} {o : Option DosIP} {g g' : DosGuard} {now now' level : ℚ} {ip : String}

lemma holds_now (hlast : st.connLast = now) (htokens : st.connTokens = level)
    (hle : level ≤ cfg.connBurst) : Holds cfg now level (some st) := by
  refine ⟨hlast.le, htokens.trans_le hle, ?_⟩
  simp [DosIP.level, hlast, htokens, hle]

lemma Holds.le_burst (h : Holds cfg now level o) : level ≤ cfg.connBurst := by
  cases o with
  | none => exact h.le
  | some st => exact h.2.2 ▸ min_le_left _ _

lemma Holds.wait (h : Holds cfg now level o) (hnow : now ≤ now') :
    ∃ level', Holds cfg now' level' o ∧ level' ≤ level + cfg.connRate * (now' - now) := by
  have hgain := mul_nonneg cfg.rate_nonneg (sub_nonneg.2 hnow)
  cases o with
  | none => exact ⟨_, rfl, by linarith [show level = _ from h]⟩
  | some st =>
    obtain ⟨hlast, hle, rfl⟩ := h
    refine ⟨_, ⟨hlast.trans hnow, hle, rfl⟩, ?_⟩
    rw [DosIP.level, DosIP.level, min_add]
    exact le_min ((min_le_left _ _).trans (by linarith)) ((min_le_right _ _).trans (by linarith))

variable (h : Holds cfg now level (some st))
include h

lemma Holds.forget (hfull : cfg.connBurst ≤ st.connTokens + (now - st.connLast) * cfg.connRate) :
    Holds cfg now level none :=
  h.2.2.symm.trans (min_eq_left hfull)

lemma Holds.refill :
    (st.refillConnLocked cfg now).connLast = now ∧
      (st.refillConnLocked cfg now).connTokens = level := by
  obtain ⟨hlast, hle, rfl⟩ := h
  unfold DosIP.refillConnLocked
  dsimp only
  split
  · exact ⟨rfl, (min_def_lt _ _).symm⟩
  · have hnow : st.connLast = now := by linarith
    exact ⟨hnow, (holds_now hnow rfl hle).2.2.symm⟩

lemma Holds.put : Holds cfg now level ((g.put ip st).ips ip) := by
  show Holds cfg now level (update g.ips ip (some st) ip)
  rwa [update_self]

omit h

lemma Holds.getLocked (h : Holds cfg now level (g.ips ip)) : Holds cfg now level (some (g.getLocked cfg now ip)) := by
  unfold DosGuard.getLocked
  cases hip : g.ips ip with
  | none =>
    rw [hip] at h
    exact holds_now rfl h.symm h.le
  | some st => rwa [hip] at h

lemma Holds.maybePurgeLocked (h : Holds cfg now level (g.ips ip))
    (hfull : ∀ st ∈ g.ips ip, (600 ≤ now - g.lastPurge && st.purgeable cfg now) = true →
      cfg.connBurst ≤ st.connTokens + (now - st.connLast) * cfg.connRate) :
    Holds cfg now level ((g.maybePurgeLocked cfg now).ips ip) := by
  unfold DosGuard.maybePurgeLocked
  split
  · exact h
  next hlate =>
  cases hst : g.ips ip with
  | none => simpa [hst] using h
  | some st =>
    rw [hst] at h
    cases hp : st.purgeable cfg now with
    | false => simpa [hst, hp, filter_some] using h
    | true =>
      have hforget := h.forget (hfull st hst (by simp [hp, not_lt.1 hlate]))
      simpa [hst, hp, filter_some] using hforget

lemma Holds.onConnect {err : Option String}
    (h : Holds cfg now level ((g.maybePurgeLocked cfg now).ips ip)) (hon : cfg.connOn = true)
    (hip : ip ≠ "") (hcall : g.onConnect cfg now ip = (err, g')) :
    if err.isSome then Holds cfg now level (g'.ips ip)
    else 1 ≤ level ∧ Holds cfg now (level - 1) (g'.ips ip) := by
  have hst := h.getLocked
  obtain ⟨hlast, htokens⟩ := hst.refill
  unfold DosGuard.onConnect at hcall
  rw [if_neg hip, if_pos hon] at hcall
  dsimp only at hcall
  split at hcall
  · cases hcall
    exact hst.put
  split at hcall
  · cases hcall
    exact hst.put
  split at hcall
  · cases hcall
    exact Holds.put (holds_now hlast htokens h.le_burst)
  next hone =>
  cases hcall
  rw [htokens, not_lt] at hone
  refine ⟨hone, Holds.put (holds_now hlast (congrArg (· - 1) htokens) ?_)⟩
  linarith [h.le_burst]

lemma Holds.onDisconnect (h : Holds cfg now level (g.ips ip))
    (hfull : ∀ st ∈ g.ips ip, { st with conns := st.conns - 1 }.idle now = true →
      cfg.connBurst ≤ st.connTokens + (now - st.connLast) * cfg.connRate) :
    Holds cfg now level ((g.onDisconnect now ip).ips ip) := by
  unfold DosGuard.onDisconnect
  split
  · exact h
  split
  · exact h
  next st hst =>
  rw [hst] at h
  dsimp only
  split
  next hidle => simpa using h.forget (hfull st hst hidle)
  · exact Holds.put h

end

namespace DosRun

variable {cfg : DosSettings} {ip : String} {s s' : DosRun} {e : ℚ × DosOp}

def Accounted (cfg : DosSettings) (ip : String) (s : DosRun) : Prop :=
  ∃ level, Holds cfg s.clock level (s.guard.ips ip) ∧
    Paid cfg.connRate cfg.connBurst s.clock level s.accepted

lemma Accounted.step (h : s.Accounted cfg ip) (hon : cfg.connOn = true) (hip : ip ≠ "")
    (hfull : ForgetsFull cfg ip s e) (hs : step cfg ip s e = some s') : s'.Accounted cfg ip := by
  obtain ⟨level, hholds, hpaid⟩ := h
  obtain ⟨hnow, hs⟩ := ite_none_left_eq_some.1 hs
  obtain ⟨level', hholds', hle⟩ := hholds.wait (not_lt.1 hnow)
  have hpaid' := hpaid.wait cfg.rate_nonneg (not_lt.1 hnow) hle hholds'.le_burst
  obtain ⟨now, _ | _⟩ := e
  · cases hcall : s.guard.onConnect cfg now ip with
    | mk err g =>
    have hspec := (hholds'.maybePurgeLocked hfull).onConnect hon hip hcall
    simp only [hcall] at hs
    cases hs
    cases err with
    | some e => exact ⟨level', hspec, hpaid'⟩
    | none => exact ⟨_, hspec.2, hpaid'.pay cfg.rate_nonneg hspec.1⟩
  · cases hs
    exact ⟨level', hholds'.onDisconnect hfull, hpaid'⟩

/-- **The connection rate of an address is bounded.**  In every run in which a bucket is only
forgotten when it would be full, the connections accepted in an interval are at most the burst
and what comes in meanwhile. -/
theorem connections_bounded (cfg : DosSettings) (ip : String) (start lastPurge : ℚ)
    (es : List (ℚ × DosOp)) (s : DosRun) (hon : cfg.connOn = true) (hip : ip ≠ "")
    (hfull : RunMeets (step cfg ip) (ForgetsFull cfg ip) ⟨{ lastPurge }, start, []⟩ es)
    (hrun : run (step cfg ip) ⟨{ lastPurge }, start, []⟩ es = some s) (a T : ℚ) (hT : 0 ≤ T) :
    countWithin s.accepted a (a + T) ≤ cfg.connBurst + cfg.connRate * T + 1 := by
  have hinit : Accounted cfg ip ⟨{ lastPurge }, start, []⟩ :=
    ⟨_, rfl, Paid.full cfg.rate_nonneg cfg.burst_nonneg⟩
  obtain ⟨_, -, hpaid⟩ :=
    run_inv (fun _ _ _ h hfull hs => h.step hon hip hfull hs) hinit hfull hrun
  have := hpaid.within a (a + T) (by linarith)
  linarith

def onePerSecond : DosSettings where
  connOn := true
  maxConns := 100
  defense := 3600
  connRate := 1
  connBurst := 1
  connDef := 86400
  rate_nonneg := by decide
  burst_nonneg := by decide

def slowClient : List (ℚ × DosOp) := [(10, .onConnect), (11, .onDisconnect), (11, .onConnect)]

theorem connections_bounded_slow :
    ∃ s, run (step onePerSecond "a") ⟨{ lastPurge := 0 }, 0, []⟩ slowClient = some s ∧
      s.accepted = [10, 11] ∧ countWithin s.accepted 10 (10 + 1) ≤
        onePerSecond.connBurst + onePerSecond.connRate * 1 + 1 :=
  exists_some_and (by decide +kernel) fun s hs _ => connections_bounded onePerSecond "a" 0 0
    slowClient s rfl (by decide) (by decide +kernel) hs 10 1 (by decide)

/-- A client that closes each connection finds a full bucket for the next. -/
theorem connections_unbounded :
    ∃ s, run (step onePerSecond "a") ⟨{ lastPurge := 0 }, 0, []⟩ [(10, .onConnect),
        (10, .onDisconnect), (10, .onConnect), (10, .onDisconnect), (10, .onConnect)] = some s ∧
      ¬ (countWithin s.accepted 10 (10 + 0) : ℚ) ≤
        onePerSecond.connBurst + onePerSecond.connRate * 0 + 1 := by
  decide +kernel

end DosRun

end GoTor.Relay
