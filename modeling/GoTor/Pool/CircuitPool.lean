import GoTor.Stream.Isolation

/-!
# The circuit pool

Idle circuits are kept in one list, and those with an isolation key in a list for each key.
A circuit is referred to by its number; whether it is open, whether its exit allows a target
and which key it carries are read from the circuit.
-/

namespace GoTor.Pool

open GoTor.Lib GoTor.Stream

structure CircuitPool where
  circuits : List ℕ := []
  isolatedCircuits : Bytes → List ℕ := fun _ => []
  maxCircuits : ℕ := 10

/-- The list a circuit or a request with this key belongs to: none for the list of circuits
without isolation. -/
def poolKey : Option IsolationKey → Option Bytes
  | none => none
  | some k => if k.level = .none then none else some k.key

namespace CircuitPool

variable (p : CircuitPool)

def listAt : Option Bytes → List ℕ
  | none => p.circuits
  | some key => p.isolatedCircuits key

def setListAt (idx : Option Bytes) (circs : List ℕ) : CircuitPool :=
  match idx with
  | none => { p with circuits := circs }
  | some key => { p with isolatedCircuits := Function.update p.isolatedCircuits key circs }

/-- The loop of `GetIf`: the first open circuit that is allowed is taken, circuits that are
not open are dropped, the others are kept. -/
def select (isOpen allow : ℕ → Bool) : (found : Option ℕ) → List ℕ → Option ℕ × List ℕ
  | found, [] => (found, [])
  | found, circ :: circs =>
    if !isOpen circ then select isOpen allow found circs
    else if found.isNone && allow circ then select isOpen allow (some circ) circs
    else
      let (found, kept) := select isOpen allow found circs
      (found, circ :: kept)

def getIf (isOpen allow : ℕ → Bool) (key : Option IsolationKey) : Option ℕ × CircuitPool :=
  let (found, kept) := select isOpen allow none (p.listAt (poolKey key))
  (found, p.setListAt (poolKey key) kept)

/-- `Put` of a circuit that carries `key`. -/
def put (isOpen : Bool) (key : Option IsolationKey) (circ : ℕ) : CircuitPool :=
  if !isOpen then p
  else if (p.listAt (poolKey key)).length ≥ p.maxCircuits then p
  else p.setListAt (poolKey key) (p.listAt (poolKey key) ++ [circ])

/-- `Rotate`: every list is emptied. -/
def rotate : CircuitPool := { p with circuits := [], isolatedCircuits := fun _ => [] }

section

variable {p}

lemma listAt_setListAt (i j : Option Bytes) (circs : List ℕ) :
    (p.setListAt i circs).listAt j = if j = i then circs else p.listAt j := by
  cases i with
  | none => cases j <;> simp [setListAt, listAt]
  | some key =>
    cases j with
    | none => simp [setListAt, listAt]
    | some key' =>
      by_cases h : key' = key
      · subst h
        simp [setListAt, listAt]
      · simp [setListAt, listAt, h]

variable {isOpen allow : ℕ → Bool}

open List

lemma mem_of_select {found : Option ℕ} {circs : List ℕ} :
    (∀ c ∈ (select isOpen allow found circs).1, c ∈ found ∨ c ∈ circs) ∧
    ∀ c ∈ (select isOpen allow found circs).2, c ∈ circs := by
  induction circs generalizing found with
  | nil => exact ⟨fun c hc => .inl hc, nofun⟩
  | cons circ circs ih =>
    unfold select
    split
    · obtain ⟨h1, h2⟩ := @ih found
      refine ⟨fun c hc => ?_, fun c hc => mem_cons_of_mem _ (h2 c hc)⟩
      rcases h1 c hc with h | h
      · exact .inl h
      · exact .inr (mem_cons_of_mem _ h)
    split
    · obtain ⟨h1, h2⟩ := @ih (some circ)
      refine ⟨fun c hc => ?_, fun c hc => mem_cons_of_mem _ (h2 c hc)⟩
      rcases h1 c hc with h | h
      · right
        rw [Option.mem_some_iff.1 h]
        exact mem_cons_self
      · exact .inr (mem_cons_of_mem _ h)
    obtain ⟨h1, h2⟩ := @ih found
    refine ⟨fun c hc => ?_, fun c hc => ?_⟩
    · rcases h1 c hc with h | h
      · exact .inl h
      · exact .inr (mem_cons_of_mem _ h)
    · rcases mem_cons.1 hc with h | h
      · rw [h]
        exact mem_cons_self
      · exact mem_cons_of_mem _ (h2 c h)

variable {key : Option IsolationKey} {circ : ℕ} {idx : Option Bytes}

lemma mem_of_getIf (h : (p.getIf isOpen allow key).1 = some circ) : circ ∈ p.listAt (poolKey key) := by
  have hmem : circ ∈ (select isOpen allow none (p.listAt (poolKey key))).1 := h
  rcases mem_of_select.1 circ hmem with hnone | hlist
  · cases hnone
  · exact hlist

lemma mem_listAt_of_getIf (h : circ ∈ (p.getIf isOpen allow key).2.listAt idx) : circ ∈ p.listAt idx := by
  simp only [getIf, listAt_setListAt] at h
  split at h
  · next hidx =>
    rw [hidx]
    exact mem_of_select.2 circ h
  · exact h

lemma mem_listAt_of_put {isOpen : Bool} {c : ℕ} (h : c ∈ (p.put isOpen key circ).listAt idx) :
    c ∈ p.listAt idx ∨ c = circ ∧ idx = poolKey key := by
  unfold put at h
  split at h
  · exact .inl h
  split at h
  · exact .inl h
  rw [listAt_setListAt] at h
  split at h
  · next hidx =>
    rw [hidx]
    rcases mem_append.1 h with h | h
    · exact .inl h
    · exact .inr ⟨mem_singleton.1 h, rfl⟩
  · exact .inl h

end

end CircuitPool

end GoTor.Pool
