import GoTor.Lib.Run
import GoTor.Lib.Table

/-!
# The circuit manager's table

`BuildCircuit` enters its circuit in the manager's table before it knows whether the build succeeds.
Builds exclude each other; a circuit can be closed while one is going on.
-/

namespace GoTor.Circuit

open GoTor.Lib Function Table

inductive CircuitState
  | building | opened | closed | failed
  deriving DecidableEq

/-- What the manager knows of a circuit, and whether it holds an open OR connection. -/
structure TableCircuit where
  state : CircuitState := .building
  connected : Bool := false

/-- `Circuit.Close`; a circuit that was closed before keeps the connection it has got since. -/
def TableCircuit.close (c : TableCircuit) : TableCircuit := if c.state = .closed then c else ⟨.closed, false⟩

structure Manager where
  circuits : Table UInt32 ℕ := {}
  heap : ℕ → TableCircuit := fun _ => {}
  next : ℕ := 0
  /-- The circuit under construction, and whether its guard is connected. -/
  building : Option (ℕ × Bool) := none

inductive TableOp
  /-- `BuildCircuit` up to `CreateCircuit`: rate limit, path, a closed manager. -/
  | refuse
  | create (id : UInt32)
  | missingKeys
  /-- `connectToRelay` or the link handshake fails. -/
  | connectFails
  | connect
  /-- `CreateFirstHop` or an `ExtendCircuit` fails. -/
  | hopFails
  | finish
  | closeCircuit (id : UInt32)

/-- A build that fails after `CreateCircuit`. -/
def TableOp.fails : TableOp → Bool
  | .missingKeys | .connectFails | .hopFails => true
  | _ => false

/-- `BuildCircuit` changes its circuit, before or after the guard is connected. -/
def Manager.advance (m : Manager) (connected : Bool) (building : ℕ → Option (ℕ × Bool))
    (f : TableCircuit → TableCircuit) : Option Manager :=
  match m.building with
  | none => none
  | some (k, b) =>
    if b = connected then some { m with heap := update m.heap k (f (m.heap k)), building := building k }
    else none

def Manager.sweepClosed (m : Manager) : Manager :=
  { m with circuits := m.circuits.keep fun _ k => (m.heap k).state ≠ .closed }

def Manager.step (m : Manager) : TableOp → Option Manager
  | .refuse => some m
  | .create id =>
    if m.building = none ∧ id ≠ 0 ∧ m.circuits.get id = none then
      some { circuits := m.circuits.set id m.next, heap := update m.heap m.next {}, next := m.next + 1,
             building := some (m.next, false) }
    else none
  | .missingKeys => m.advance false (fun _ => none) fun c => { c with state := .failed }
  | .connectFails => m.advance false (fun _ => none) TableCircuit.close
  | .connect => m.advance false (fun k => some (k, true)) fun c => { c with connected := true }
  | .hopFails => m.advance true (fun _ => none) TableCircuit.close
  | .finish => m.advance true (fun _ => none) fun c => { c with state := .opened }
  | .closeCircuit id =>
    match m.circuits.get id with
    | none => some m
    | some k => some { m with
        circuits := m.circuits.erase id
        heap := update m.heap k (m.heap k).close }.sweepClosed

/-- Between builds, the table holds open circuits only, and only they hold OR connections. -/
def Manager.Clean (m : Manager) : Prop :=
  m.building = none → (∀ id k, m.circuits.get id = some k → (m.heap k).state = .opened) ∧
    ∀ k, (m.heap k).connected = true → (m.heap k).state = .opened

section Runs

variable {m m' : Manager} {k : ℕ}

/-- The circuit is open or under construction. -/
def Manager.Fine (m : Manager) (k : ℕ) : Prop := (m.heap k).state = .opened ∨ ∃ b, m.building = some (k, b)

structure Manager.Inv (m : Manager) : Prop where
  table : ∀ id k, m.circuits.get id = some k → m.Fine k
  conn : ∀ k, (m.heap k).connected = true → m.Fine k

/-- A step that changes one circuit keeps the invariant if it leaves that circuit fine. -/
lemma Manager.Inv.change (hinv : m.Inv) (k : ℕ)
    (htable : ∀ id j, j ≠ k → m'.circuits.get id = some j → m.circuits.get id = some j)
    (hheap : ∀ j, j ≠ k → m'.heap j = m.heap j)
    (hbuilding : ∀ j b, j ≠ k → m.building = some (j, b) → m'.building = some (j, b))
    (hk : (∃ id, m'.circuits.get id = some k) ∨ (m'.heap k).connected = true → m'.Fine k) : m'.Inv := by
  have hfine : ∀ j, j ≠ k → m.Fine j → m'.Fine j := by
    rintro j hj (hopen | ⟨b, hb⟩)
    · exact .inl ((congrArg _ (hheap j hj)).trans hopen)
    · exact .inr ⟨b, hbuilding j b hj hb⟩
  constructor
  · intro id j h
    by_cases hj : j = k
    · subst hj
      exact hk (.inl ⟨id, h⟩)
    · exact hfine j hj (hinv.table id j (htable id j hj h))
  · intro j h
    by_cases hj : j = k
    · subst hj
      exact hk (.inr h)
    · rw [hheap j hj] at h
      exact hfine j hj (hinv.conn j h)

lemma Manager.Inv.advance {connected : Bool} {building : ℕ → Option (ℕ × Bool)} {f : TableCircuit → TableCircuit}
    (hinv : m.Inv) (hf : ∀ k c, (f c).state = .opened ∨ ∃ b, building k = some (k, b))
    (h : m.advance connected building f = some m') : m'.Inv := by
  unfold Manager.advance at h
  split at h
  · cases h
  next k b hbuilding =>
  split at h
  next =>
    cases h
    refine hinv.change k (fun _ _ _ h => h) (fun j hj => update_of_ne hj _ _) (fun j b hj hb => ?_) fun _ => ?_
    · rw [hbuilding] at hb
      cases hb
      exact absurd rfl hj
    · simpa [Fine] using hf k (m.heap k)
  next => cases h

lemma TableCircuit.state_close (c : TableCircuit) : c.close.state = .closed := by
  unfold close
  split
  next h => exact h
  next => rfl

lemma Manager.Inv.step {a : TableOp} (hinv : m.Inv) (hgood : a.fails = false) (h : m.step a = some m') :
    m'.Inv := by
  cases a with
  | refuse =>
    cases h
    exact hinv
  | missingKeys | connectFails | hopFails => cases hgood
  | connect =>
    simp only [Manager.step] at h
    exact hinv.advance (fun k _ => .inr ⟨true, rfl⟩) h
  | finish =>
    simp only [Manager.step] at h
    exact hinv.advance (fun _ _ => .inl rfl) h
  | create id =>
    simp only [Manager.step] at h
    split at h
    next hcreate =>
      cases h
      refine hinv.change m.next (fun id' j hj hget => ?_) (fun j hj => update_of_ne hj _ _)
        (fun j b _ hb => ?_) fun _ => .inr ⟨false, rfl⟩
      · rw [get_set] at hget
        split at hget
        · exact absurd (Option.some.inj hget).symm hj
        · exact hget
      · rw [hcreate.1] at hb
        cases hb
    · cases h
  | closeCircuit id =>
    simp only [Manager.step] at h
    split at h
    · cases h
      exact hinv
    next k hk =>
    cases h
    refine hinv.change k (fun id' j _ hget => get_of_get_erase (get_of_get_keep hget))
      (fun j hj => update_of_ne hj _ _) (fun j b _ hb => hb) ?_
    -- a closed circuit is swept out of the table
    rintro (⟨id', hget⟩ | hconn)
    · rw [sweepClosed, get_keep] at hget
      simp [TableCircuit.state_close] at hget
    · have hclosed : (m.heap k).state = .closed ∧ (m.heap k).connected = true := by
        simpa [sweepClosed, TableCircuit.close, apply_ite TableCircuit.connected] using hconn
      refine (hinv.conn k hclosed.2).imp_left fun hopen => ?_
      rw [hclosed.1] at hopen
      cases hopen

/-- **If no build fails once its circuit is entered**, the table holds open circuits only. -/
theorem table_holds_open {as : List TableOp} (hgood : RunMeets Manager.step (fun _ a => a.fails = false) {} as)
    (hrun : run Manager.step {} as = some m) : m.Clean := by
  have hinit : Manager.Inv {} := by constructor <;> simp [Table.get]
  have hinv : m.Inv := run_inv (fun _ _ _ hinv hgood hs => hinv.step hgood hs) hinit hgood hrun
  intro hidle
  have hopen : ∀ k, m.Fine k → (m.heap k).state = .opened := by
    rintro k (hopen | ⟨b, hb⟩)
    · exact hopen
    · rw [hidle] at hb
      cases hb
  exact ⟨fun id k h => hopen k (hinv.table id k h), fun k h => hopen k (hinv.conn k h)⟩

/-- A build whose guard lacks its keys leaves a failed circuit in the table. -/
theorem failed_build_listed : ∃ m, run Manager.step {} [.create 0x80000001, .missingKeys] = some m ∧
    m.building = none ∧ m.circuits.get 0x80000001 = some 0 ∧ (m.heap 0).state = .failed := by
  decide +kernel

theorem table_holds_open_two : ∃ m, run Manager.step {} [.create 0x80000001, .connect, .finish,
      .create 0x80000002, .connect, .finish, .closeCircuit 0x80000001] = some m ∧
    m.circuits.get 0x80000002 = some 1 ∧ m.Clean :=
  exists_some_and (by decide +kernel) fun _ hm _ => table_holds_open (by decide +kernel) hm

end Runs

end GoTor.Circuit
