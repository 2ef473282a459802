import Mathlib.Data.List.Nodup
import GoTor.Lib.Run
import GoTor.Pool.CircuitPool

/-!
# Runs of the circuit pool

Circuits are built, checked out, put back and rotated away in any order.  An open circuit whose
list is full and a circuit that has failed are neither kept nor closed by `Put`, and a circuit that
is checked out during a rotation comes back into the pool afterwards.
-/

namespace GoTor.Pool

open GoTor.Lib GoTor.Stream Function List CircuitPool

namespace CircuitPool

variable (p : CircuitPool)

/-- The loop of `GetWithIsolation`: circuits are dropped until one is open. -/
def takeFirst (isOpen : ℕ → Bool) : List ℕ → Option ℕ × List ℕ
  | [] => (none, [])
  | circ :: circs => if isOpen circ then (some circ, circs) else takeFirst isOpen circs

/-- `GetWithIsolation`, up to the call of `buildFunc`. -/
def getWithIsolation (isOpen : ℕ → Bool) (key : Option IsolationKey) : Option ℕ × CircuitPool :=
  let (found, rest) := takeFirst isOpen (p.listAt (poolKey key))
  (found, p.setListAt (poolKey key) rest)

end CircuitPool

/-- A circuit is closed once `Close` has run, and failed in `StateFailed` before that. -/
inductive CircuitHealth
  | opened | failed | closed
  deriving DecidableEq

/-- The pool, the circuits and who has them. -/
structure PoolRun where
  pool : CircuitPool := {}
  state : ℕ → CircuitHealth := fun _ => .closed
  /-- The circuits are numbered in the order in which they are built. -/
  built : ℕ := 0
  /-- The circuits that are checked out. -/
  out : List ℕ := []
  /-- The lists that have been used. -/
  lists : List (Option Bytes) := []
  /-- How many circuits were built before the last `Rotate`. -/
  rotated : ℕ := 0
  /-- The circuits handed out, each with `rotated` as it was then. -/
  handed : List (ℕ × ℕ) := []

inductive PoolOp
  /-- `buildFunc` returns a circuit, to a `Get` that found none or to `ensureMinCircuits`. -/
  | build
  | getIf (key : Option IsolationKey) (allow : ℕ → Bool)
  | getWithIsolation (key : Option IsolationKey)
  /-- `Put` of a circuit that carries `key` by then. -/
  | put (circ : ℕ) (key : Option IsolationKey)
  /-- `SetState(StateFailed)`, when a circuit SENDME cannot be sent or is not valid. -/
  | fail (circ : ℕ)
  /-- `Close` of a circuit, by its borrower or by the manager. -/
  | closeCircuit (circ : ℕ)
  /-- `Rotate`, and `Close` of the pool.  Nobody else has the circuits it closes. -/
  | rotate

namespace PoolRun

def isOpen (s : PoolRun) (circ : ℕ) : Bool := s.state circ = .opened

def close (s : PoolRun) (circs : List ℕ) : PoolRun :=
  { s with state := fun circ => if circ ∈ circs then .closed else s.state circ }

def checkOut (s : PoolRun) (circ : ℕ) : PoolRun :=
  { s with out := circ :: s.out, handed := (circ, s.rotated) :: s.handed }

def take (s : PoolRun) : Option ℕ × CircuitPool → PoolRun
  | (none, pool) => { s with pool }
  | (some circ, pool) => { s with pool }.checkOut circ

def touch (s : PoolRun) (idx : Option Bytes) : PoolRun := { s with lists := s.lists.insert idx }

/-- The searches close the circuits that they drop. -/
def step (s : PoolRun) : PoolOp → Option PoolRun
  | .build =>
    some ({ s with state := update s.state s.built .opened, built := s.built + 1 }.checkOut s.built)
  | .getIf key allow =>
    some (((s.touch (poolKey key)).take (s.pool.getIf s.isOpen allow key)).close
      ((s.pool.listAt (poolKey key)).filter fun circ => !s.isOpen circ))
  | .getWithIsolation key =>
    some (((s.touch (poolKey key)).take (s.pool.getWithIsolation s.isOpen key)).close
      ((s.pool.listAt (poolKey key)).takeWhile fun circ => !s.isOpen circ))
  | .put circ key =>
    if circ ∈ s.out then
      some { s.touch (poolKey key) with
        pool := s.pool.put (s.isOpen circ) key circ
        out := s.out.erase circ }
    else none
  | .fail circ => some { s with state := update s.state circ (if s.state circ = .closed then .closed else .failed) }
  | .closeCircuit circ => some (s.close [circ])
  | .rotate =>
    some { s.close (s.lists.flatMap s.pool.listAt) with
      pool := s.pool.rotate
      rotated := s.built }

end PoolRun

open PoolRun

/-! ### What a search takes out of a list -/

section Search

variable {isOpen : ℕ → Bool} {circs : List ℕ}

lemma takeFirst_perm : circs.Perm ((takeFirst isOpen circs).1.toList ++ (takeFirst isOpen circs).2 ++
    circs.takeWhile fun circ => !isOpen circ) := by
  induction circs with
  | nil => exact .nil
  | cons circ circs ih =>
    unfold takeFirst
    cases hopen : isOpen circ with
    | true => simp [hopen]
    | false => simpa [hopen] using (ih.cons circ).trans perm_middle.symm

lemma select_perm {allow : ℕ → Bool} (found : Option ℕ) : (found.toList ++ circs).Perm
    ((select isOpen allow found circs).1.toList ++ (select isOpen allow found circs).2 ++
      circs.filter fun circ => !isOpen circ) := by
  induction circs generalizing found with
  | nil => simp [select]
  | cons circ circs ih =>
    have hfront : (found.toList ++ circ :: circs).Perm (circ :: (found.toList ++ circs)) :=
      perm_middle
    unfold select
    cases hopen : isOpen circ with
    | false => simpa [hopen] using hfront.trans (((ih found).cons circ).trans perm_middle.symm)
    | true =>
      rw [if_neg (by simp), filter_cons_of_neg (by simp [hopen])]
      split
      next hfound =>
        obtain rfl : found = none := Option.isNone_iff_eq_none.1 (Bool.and_eq_true_iff.1 hfound).1
        exact ih (some circ)
      · -- kept, in front of what the rest of the loop keeps
        refine hfront.trans (((ih found).cons circ).trans ?_)
        simpa using perm_middle.symm

end Search

/-! ### Where the circuits are -/

inductive Place
  | checkedOut
  | pooled
  | closed

namespace PoolRun

variable (s : PoolRun)

/-- Where a circuit is: with one borrower, once in one list, or closed and in no hands. -/
def At (circ : ℕ) : Place → Prop
  | .checkedOut => s.out.count circ = 1 ∧ ∀ idx, circ ∉ s.pool.listAt idx
  | .pooled => circ ∉ s.out ∧ ∃ idx, (s.pool.listAt idx).count circ = 1 ∧ ∀ idx' ≠ idx, circ ∉ s.pool.listAt idx'
  | .closed => circ ∉ s.out ∧ (∀ idx, circ ∉ s.pool.listAt idx) ∧ s.state circ = .closed

/-- A circuit that is put back has not failed without being closed, and if it is open, there is
room in its list. -/
def PutsSafely : PoolOp → Prop
  | .put circ key => s.state circ ≠ .failed ∧
      (s.isOpen circ = true → (s.pool.listAt (poolKey key)).length < s.pool.maxCircuits)
  | _ => True

/-- No open circuit is put back that was built before the last `Rotate`. -/
def PutsNew : PoolOp → Prop
  | .put circ _ => s.isOpen circ = true → s.rotated ≤ circ
  | _ => True

instance decidablePutsSafely : (a : PoolOp) → Decidable (s.PutsSafely a)
  | .put _ _ => inferInstanceAs (Decidable (_ ∧ _))
  | .build | .getIf _ _ | .getWithIsolation _ | .fail _ | .closeCircuit _ | .rotate => isTrue trivial

instance decidablePutsNew : (a : PoolOp) → Decidable (s.PutsNew a)
  | .put _ _ => inferInstanceAs (Decidable (_ → _))
  | .build | .getIf _ _ | .getWithIsolation _ | .fail _ | .closeCircuit _ | .rotate => isTrue trivial

/-- The circuits that are checked out or in a list. -/
def holdings : List ℕ := s.out ++ s.lists.flatMap s.pool.listAt

/-- Nothing is held twice, and every circuit that is not closed is held. -/
structure Placed (s : PoolRun) : Prop where
  nodup : s.lists.Nodup
  unused : ∀ idx ∉ s.lists, s.pool.listAt idx = []
  once : ∀ c, s.holdings.count c ≤ 1
  built : ∀ c, 0 < s.holdings.count c → c < s.built
  held : ∀ c, s.state c ≠ .closed → 0 < s.holdings.count c

variable {s s' : PoolRun} {idx : Option Bytes} {found : Option ℕ} {kept dropped : List ℕ} {circ : ℕ}
  {key : Option IsolationKey}

/-- The state after a search of a list. -/
def taken (s : PoolRun) (idx : Option Bytes) (found : Option ℕ) (kept : List ℕ) : PoolRun :=
  { s with
    pool := s.pool.setListAt idx kept
    out := found.toList ++ s.out
    handed := found.toList.map (fun circ => (circ, s.rotated)) ++ s.handed }

lemma ne_closed_of_close {circs : List ℕ} (h : (s.close circs).state circ ≠ .closed) :
    circ ∉ circs ∧ s.state circ ≠ .closed := by
  unfold close at h
  dsimp only at h
  split at h
  · exact absurd rfl h
  next hnot => exact ⟨hnot, h⟩

lemma take_eq {r : Option ℕ × List ℕ} :
    s.take (r.1, s.pool.setListAt idx r.2) = s.taken idx r.1 r.2 := by
  obtain ⟨_ | _, _⟩ := r <;> rfl

lemma count_setListAt {lists : List (Option Bytes)} (hnodup : lists.Nodup)
    (hidx : idx ∈ lists) (p : CircuitPool) (circs : List ℕ) (c : ℕ) :
    (lists.flatMap (p.setListAt idx circs).listAt).count c + (p.listAt idx).count c =
      (lists.flatMap p.listAt).count c + circs.count c := by
  have hrest : (lists.erase idx).flatMap (p.setListAt idx circs).listAt = (lists.erase idx).flatMap p.listAt := by
    refine flatMap_congr fun j hj => ?_
    rw [listAt_setListAt, if_neg]
    rintro rfl
    exact hnodup.not_mem_erase hj
  have hperm := perm_cons_erase hidx
  rw [(hperm.flatMap_right (p.setListAt idx circs).listAt).count_eq,
    (hperm.flatMap_right p.listAt).count_eq, flatMap_cons, flatMap_cons, hrest,
    listAt_setListAt, if_pos rfl, count_append, count_append]
  omega

namespace Placed

variable (h : s.Placed)
include h

lemma of_le (hnodup : s'.lists.Nodup) (hunused : ∀ idx ∉ s'.lists, s'.pool.listAt idx = [])
    (hle : ∀ c, s'.holdings.count c ≤ s.holdings.count c) (hbuilt : s'.built = s.built)
    (hheld : ∀ c, s'.state c ≠ .closed → 0 < s'.holdings.count c) : s'.Placed := by
  refine ⟨hnodup, hunused, fun c => Nat.le_trans (hle c) (h.once c), fun c hc => ?_, hheld⟩
  rw [hbuilt]
  exact h.built c (Nat.lt_of_lt_of_le hc (hle c))

lemma touch : (s.touch idx).Placed := by
  have hsame : (s.touch idx).holdings = s.holdings := by
    unfold holdings PoolRun.touch
    by_cases hidx : idx ∈ s.lists
    · rw [insert_of_mem hidx]
    · simp only [insert_of_not_mem hidx, flatMap_cons, h.unused idx hidx, nil_append]
  refine h.of_le h.nodup.insert ?_ (fun c => Nat.le_of_eq (by rw [hsame])) rfl fun c hc => ?_
  · exact fun j hj => h.unused j fun hmem => hj (mem_insert_of_mem hmem)
  · rw [hsame]
    exact h.held c hc

lemma unused_set (hidx : idx ∈ s.lists) {circs : List ℕ} :
    ∀ j ∉ s.lists, (s.pool.setListAt idx circs).listAt j = [] := by
  intro j hj
  rw [listAt_setListAt, if_neg (ne_of_mem_of_not_mem hidx hj).symm]
  exact h.unused j hj

lemma taken (hidx : idx ∈ s.lists) (hperm : (s.pool.listAt idx).Perm (found.toList ++ kept ++ dropped)) :
    ((s.taken idx found kept).close dropped).Placed := by
  have hcount : ∀ c, ((s.taken idx found kept).close dropped).holdings.count c + dropped.count c =
      s.holdings.count c := by
    intro c
    have hset := count_setListAt h.nodup hidx s.pool kept c
    have hlist := hperm.count_eq c
    simp only [holdings, PoolRun.close, PoolRun.taken, count_append] at hset hlist ⊢
    omega
  refine h.of_le h.nodup (h.unused_set hidx) (fun c => ?_) rfl fun c hc => ?_
  · rw [← hcount c]
    exact Nat.le_add_right _ _
  · obtain ⟨hnot, hstate⟩ := ne_closed_of_close hc
    have hheld := h.held c hstate
    rwa [← hcount c, count_eq_zero.2 hnot] at hheld

lemma put (hidx : poolKey key ∈ s.lists) (hout : circ ∈ s.out) (hsafe : s.PutsSafely (.put circ key)) :
    ({ s with pool := s.pool.put (s.isOpen circ) key circ, out := s.out.erase circ } : PoolRun).Placed := by
  have herase : ∀ c, (s.out.erase circ).count c + [circ].count c = s.out.count c := by
    intro c
    rw [(perm_cons_erase hout).count_eq c, count_cons, count_cons, count_nil]
    omega
  cases hopen : s.isOpen circ with
  | false =>
    have hcount : ∀ c, ({ s with out := s.out.erase circ } : PoolRun).holdings.count c +
        [circ].count c = s.holdings.count c := by
      intro c
      have hc := herase c
      simp only [holdings, count_append]
      omega
    refine h.of_le h.nodup h.unused (fun c => ?_) rfl fun c hc => ?_
    · rw [← hcount c]
      exact Nat.le_add_right _ _
    · have hne : circ ≠ c := by
        rintro rfl
        -- neither open nor failed
        have hopen : s.state circ ≠ .opened := of_decide_eq_false hopen
        cases hstate : s.state circ with
        | opened => exact hopen hstate
        | failed => exact hsafe.1 hstate
        | closed => exact hc hstate
      have hheld := h.held c hc
      rwa [← hcount c, count_singleton, if_neg (by simpa using hne)] at hheld
  | true =>
    have hput : s.pool.put true key circ =
        s.pool.setListAt (poolKey key) (s.pool.listAt (poolKey key) ++ [circ]) := by
      rw [CircuitPool.put, if_neg (by simp), if_neg (Nat.not_le.2 (hsafe.2 hopen))]
    rw [hput]
    have hcount : ∀ c, ({ s with
        pool := s.pool.setListAt (poolKey key) (s.pool.listAt (poolKey key) ++ [circ])
        out := s.out.erase circ } : PoolRun).holdings.count c = s.holdings.count c := by
      intro c
      have hc := herase c
      have hset := count_setListAt h.nodup hidx s.pool (s.pool.listAt (poolKey key) ++ [circ]) c
      simp only [holdings, count_append] at hset ⊢
      omega
    refine h.of_le h.nodup (h.unused_set hidx) (fun c => Nat.le_of_eq (hcount c)) rfl fun c hc => ?_
    rw [hcount c]
    exact h.held c hc

lemma step {a : PoolOp} (hsafe : s.PutsSafely a) (hs : s.step a = some s') : s'.Placed := by
  cases a with
  | build =>
    cases hs
    -- the name is new
    have hnew : s.holdings.count s.built = 0 := by
      refine Nat.eq_zero_of_not_pos fun hpos => ?_
      exact Nat.lt_irrefl _ (h.built _ hpos)
    have hcons : ∀ c, (s.built :: s.holdings).count c = if c = s.built then 1 else s.holdings.count c := by
      intro c
      split
      next heq => rw [heq, count_cons_self, hnew]
      next hne => rw [count_cons_of_ne (Ne.symm hne)]
    refine ⟨h.nodup, h.unused, fun c => ?_, fun c hc => ?_, fun c hc => ?_⟩
    · rw [show holdings _ = s.built :: s.holdings from rfl, hcons]
      split
      · exact Nat.le_refl 1
      · exact h.once c
    · rw [show holdings _ = s.built :: s.holdings from rfl, hcons] at hc
      split at hc
      next heq => exact heq ▸ Nat.lt_succ_self _
      · exact Nat.lt_succ_of_lt (h.built c hc)
    · rw [show holdings _ = s.built :: s.holdings from rfl, hcons]
      split
      · exact Nat.one_pos
      next hne => exact h.held c (by simpa [checkOut, hne] using hc)
  | getIf key allow =>
    cases hs
    exact take_eq .. ▸ h.touch.taken (by simp [PoolRun.touch]) (select_perm none)
  | getWithIsolation key =>
    cases hs
    exact take_eq .. ▸ h.touch.taken (by simp [PoolRun.touch]) takeFirst_perm
  | put circ key =>
    simp only [PoolRun.step] at hs
    split at hs
    next hout =>
      cases hs
      exact h.touch.put (by simp [PoolRun.touch]) hout hsafe
    · cases hs
  | fail circ =>
    -- a circuit that was closed stays so
    cases hs
    refine h.of_le h.nodup h.unused (fun c => Nat.le_refl _) rfl fun c hc => h.held c fun hclosed => hc ?_
    dsimp only
    rw [update_apply]
    split
    next heq => rw [if_pos (heq ▸ hclosed)]
    · exact hclosed
  | closeCircuit circ =>
    cases hs
    refine h.of_le h.nodup h.unused (fun c => Nat.le_refl _) rfl fun c hc => ?_
    exact h.held c (ne_closed_of_close hc).2
  | rotate =>
    cases hs
    refine h.of_le h.nodup (fun idx _ => by cases idx <;> rfl) (fun c => ?_) rfl fun c hc => ?_
    · -- no list is left
      have hempty : s.lists.flatMap s.pool.rotate.listAt = [] :=
        flatMap_eq_nil_iff.2 fun idx _ => by cases idx <;> rfl
      simp [holdings, close, hempty]
    · -- what is not closed was in no list
      obtain ⟨hnot, hstate⟩ := ne_closed_of_close hc
      have hheld := h.held c hstate
      simp only [holdings, close, count_append, count_eq_zero.2 hnot] at hheld ⊢
      omega

lemma existsUnique (circ : ℕ) : ∃! p, s.At circ p := by
  have honce : s.out.count circ + (s.lists.flatMap s.pool.listAt).count circ ≤ 1 := by
    simpa only [holdings, count_append] using h.once circ
  have hused : ∀ {idx}, circ ∈ s.pool.listAt idx → idx ∈ s.lists := by
    intro idx hmem
    by_contra hidx
    rw [h.unused idx hidx] at hmem
    cases hmem
  have hlist : ∀ {idx}, circ ∈ s.pool.listAt idx → circ ∈ s.lists.flatMap s.pool.listAt :=
    fun hmem => mem_flatMap.2 ⟨_, hused hmem, hmem⟩
  by_cases hout : circ ∈ s.out
  · -- checked out: it is in no list
    have hcount := count_pos_iff.2 hout
    have hnot : ∀ idx, circ ∉ s.pool.listAt idx := by
      intro idx hmem
      have := count_pos_iff.2 (hlist hmem)
      omega
    refine ⟨.checkedOut, ⟨by omega, hnot⟩, ?_⟩
    rintro (_ | _ | _) hp
    · rfl
    · exact absurd hout hp.1
    · exact absurd hout hp.1
  have hzero := count_eq_zero.2 hout
  by_cases hflat : circ ∈ s.lists.flatMap s.pool.listAt
  · -- in one list, and once
    obtain ⟨idx, hidx, hmem⟩ := mem_flatMap.1 hflat
    have hperm := (perm_cons_erase hidx).flatMap_right s.pool.listAt
    rw [hperm.count_eq, flatMap_cons, count_append] at honce
    have hcount := count_pos_iff.2 hmem
    have hother : ∀ idx' ≠ idx, circ ∉ s.pool.listAt idx' := by
      intro idx' hne hmem'
      have hrest : circ ∈ (s.lists.erase idx).flatMap s.pool.listAt := by
        exact mem_flatMap.2 ⟨idx', (mem_erase_of_ne hne).2 (hused hmem'), hmem'⟩
      have := count_pos_iff.2 hrest
      omega
    refine ⟨.pooled, ⟨hout, idx, by omega, hother⟩, ?_⟩
    rintro (_ | _ | _) hp
    · exact absurd hp.1 (by omega)
    · rfl
    · exact absurd hmem (hp.2.1 idx)
  -- nowhere: then it is closed
  have hnot : ∀ idx, circ ∉ s.pool.listAt idx := fun idx hmem => hflat (hlist hmem)
  refine ⟨.closed, ⟨hout, hnot, by_contra fun hstate => ?_⟩, ?_⟩
  · have := h.held circ hstate
    rw [holdings, count_append, hzero, count_eq_zero.2 hflat] at this
    exact Nat.lt_irrefl _ this
  · rintro (_ | _ | _) hp
    · exact absurd hp.1 (by omega)
    · obtain ⟨idx, hcount, -⟩ := hp.2
      exact absurd (count_pos_iff.1 (hcount ▸ Nat.one_pos)) (hnot idx)
    · rfl

end Placed

/-- **Every circuit is in one place.**  In every run in which each circuit that is put back has
not failed and has room in its list or was closed, each circuit is checked out to one borrower,
once in one list, or closed. -/
theorem circuits_in_one_place (maxCircuits : ℕ) (ops : List PoolOp) (s : PoolRun)
    (hsafe : RunMeets step PutsSafely { pool := { maxCircuits } } ops)
    (hrun : run step { pool := { maxCircuits } } ops = some s) (circ : ℕ) :
    ∃! p, s.At circ p := by
  have hempty : ∀ idx, ({ maxCircuits } : CircuitPool).listAt idx = [] := fun idx => by
    cases idx <;> rfl
  have hstart : Placed { pool := { maxCircuits } } := by
    constructor <;> simp [holdings, hempty]
  exact (run_inv (fun _ _ _ h hsafe hs => h.step hsafe hs) hstart hsafe hrun).existsUnique circ

theorem circuits_in_one_place_two : ∃ s, run step { pool := { maxCircuits := 1 } }
    [.build, .put 0 none, .getWithIsolation none, .put 0 none, .fail 0, .build, .rotate] = some s ∧
      s.built = 2 ∧ ∃! p, s.At 1 p :=
  exists_some_and (by decide +kernel) fun s hs _ =>
    circuits_in_one_place 1 _ s (by decide +kernel) hs 1

lemma not_at (hout : circ ∉ s.out) (hnot : ∀ idx, circ ∉ s.pool.listAt idx) (hstate : s.state circ ≠ .closed) :
    ¬ ∃ p, s.At circ p := by
  rintro ⟨_ | _ | _, hp⟩
  · exact hout (count_pos_iff.1 (hp.1 ▸ Nat.one_pos))
  · obtain ⟨-, idx, hcount, -⟩ := hp
    exact hnot idx (count_pos_iff.1 (hcount ▸ Nat.one_pos))
  · exact hstate hp.2.2

/-- The second circuit finds its list full, the other one has failed: neither is closed, and neither
is in a place. -/
theorem put_loses_circuit :
    (∃ s, run step { pool := { maxCircuits := 1 } } [.build, .build, .put 0 none, .put 1 none] = some s ∧
      s.state 1 = .opened ∧ ¬ ∃ p, s.At 1 p) ∧
    ∃ s, run step { pool := { maxCircuits := 1 } } [.build, .fail 0, .put 0 none] = some s ∧
      s.state 0 = .failed ∧ ¬ ∃ p, s.At 0 p := by
  constructor <;> refine ⟨_, rfl, rfl, not_at (by decide) (fun idx => ?_) (by decide)⟩ <;>
    cases idx <;> first | exact not_mem_nil | decide

/-! ### What a rotation leaves -/

/-- Only circuits built since the last rotation are listed, and every circuit that was handed
out had been built since the rotation before. -/
structure Rotated (s : PoolRun) : Prop where
  le_built : s.rotated ≤ s.built
  listed : ∀ idx, ∀ c ∈ s.pool.listAt idx, s.rotated ≤ c
  handed : ∀ x ∈ s.handed, x.2 ≤ x.1

namespace Rotated

lemma taken (h : s.Rotated) (hperm : (s.pool.listAt idx).Perm (found.toList ++ kept ++ dropped)) :
    ((s.taken idx found kept).close dropped).Rotated := by
  have hnew : ∀ c ∈ found.toList ++ kept ++ dropped, s.rotated ≤ c :=
    fun c hc => h.listed idx c (hperm.mem_iff.2 hc)
  refine ⟨h.le_built, fun j c hc => ?_, fun x hx => ?_⟩
  · simp only [PoolRun.close, PoolRun.taken, listAt_setListAt] at hc
    split at hc
    · exact hnew c (by simp [hc])
    · exact h.listed j c hc
  · rcases mem_append.1 hx with hx | hx
    · obtain ⟨c, hc, rfl⟩ := mem_map.1 hx
      exact hnew c (by simp_all)
    · exact h.handed x hx

lemma step (h : s.Rotated) {a : PoolOp} (hnew : s.PutsNew a) (hs : s.step a = some s') : s'.Rotated := by
  cases a with
  | build =>
    cases hs
    refine ⟨Nat.le_succ_of_le h.le_built, h.listed, ?_⟩
    exact forall_mem_cons.2 ⟨h.le_built, h.handed⟩
  | getIf key allow =>
    cases hs
    have ht : (s.touch (poolKey key)).Rotated := { h with }
    exact take_eq .. ▸ ht.taken (select_perm none)
  | getWithIsolation key =>
    cases hs
    have ht : (s.touch (poolKey key)).Rotated := { h with }
    exact take_eq .. ▸ ht.taken takeFirst_perm
  | put circ key =>
    simp only [PoolRun.step] at hs
    split at hs
    · cases hs
      refine ⟨h.le_built, fun idx c hc => ?_, h.handed⟩
      cases hopen : s.isOpen circ with
      | false =>
        rw [hopen] at hc
        exact h.listed idx c hc
      | true =>
        rcases mem_listAt_of_put hc with hc | ⟨rfl, -⟩
        · exact h.listed idx c hc
        · exact hnew hopen
    · cases hs
  | fail circ | closeCircuit circ =>
    cases hs
    exact { h with }
  | rotate =>
    cases hs
    refine ⟨Nat.le_refl _, fun idx c hc => ?_, h.handed⟩
    cases idx <;> cases hc

end Rotated

/-- **A rotated circuit is not handed out.**  In every run in which no open circuit is put back
that was built before the last `Rotate`, each circuit handed out was built after the last
`Rotate` before it. -/
theorem handed_out_since_rotate (maxCircuits : ℕ) (ops : List PoolOp) (s : PoolRun)
    (hnew : RunMeets step PutsNew { pool := { maxCircuits } } ops)
    (hrun : run step { pool := { maxCircuits } } ops = some s) :
    ∀ circ rotated, (circ, rotated) ∈ s.handed → rotated ≤ circ := by
  have hstart : Rotated { pool := { maxCircuits } } := by
    refine ⟨Nat.le_refl 0, fun idx c hc => ?_, nofun⟩
    cases idx <;> cases hc
  have hend := run_inv (fun _ _ _ h hnew hs => h.step hnew hs) hstart hnew hrun
  exact fun circ rotated hmem => hend.handed _ hmem

theorem handed_out_since_rotate_one : ∃ s, run step { pool := { maxCircuits := 10 } }
    [.build, .put 0 none, .rotate, .build, .put 1 none, .getWithIsolation none] = some s ∧
      (1, 1) ∈ s.handed ∧ ∀ circ rotated, (circ, rotated) ∈ s.handed → rotated ≤ circ :=
  exists_some_and (by decide +kernel) fun s hs _ =>
    handed_out_since_rotate 10 _ s (by decide +kernel) hs

/-- A circuit that is checked out during the rotation is put back and handed out again. -/
theorem put_after_rotate_handed_out : ∃ s, run step { pool := { maxCircuits := 10 } }
    [.build, .rotate, .put 0 none, .getWithIsolation none] = some s ∧ (0, 1) ∈ s.handed :=
  ⟨_, rfl, by decide⟩

end PoolRun

end GoTor.Pool
