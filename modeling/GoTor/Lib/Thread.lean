import GoTor.Lib.Run

/-!
# Threads of atomic actions

Concurrent code with locks is modelled as a family of sequential programs over *atomic
actions*: one action is one critical section (or one channel operation), and between two
actions any other thread may run.  A program is a tree: an action together with what to do
for each of its answers.  The scheduler is the label of a run: it names the thread that
moves and resolves whatever the action leaves open (which branch of a `select` fires, what a
peer answers).  An action that is not enabled (an empty channel, a held lock) does not move.

To reason about all interleavings at once a thread gets a *contract*: a private ghost state,
what the thread may do in it, and how an answer moves it.  `Meets` checks one program
against its contract, by recursion on the program; `run_meets` says that if every single
action keeps a shared invariant under the contracts, every run does.
-/

namespace GoTor.Lib

open Function

variable {Act : Type} {Resp : Act → Type} {R S : Type}

/-- A sequential program over atomic actions, with a result. -/
inductive Prog (Act : Type) (Resp : Act → Type) (R : Type) : Type
  | done (r : R)
  | act (a : Act) (k : Resp a → Prog Act Resp R)

variable {p : Prog Act Resp R}

namespace Prog

/-- Sequencing: run the first program, then the one its result selects. -/
def bind : Prog Act Resp R → (R → Prog Act Resp S) → Prog Act Resp S
  | done r, f => f r
  | act a k, f => act a fun r => (k r).bind f

instance : Monad (Prog Act Resp) where
  pure := done
  bind := bind

/-- The program that performs one action and returns its answer. -/
def lift (a : Act) : Prog Act Resp (Resp a) := act a done

@[simp] lemma pure_eq (r : R) : (pure r : Prog Act Resp R) = done r := rfl

@[simp] lemma bind_eq (p : Prog Act Resp R) (f : R → Prog Act Resp S) : (p >>= f) = p.bind f := rfl

@[simp] lemma done_bind (r : R) (f : R → Prog Act Resp S) : (done r).bind f = f r := rfl

@[simp] lemma lift_bind (a : Act) (f : Resp a → Prog Act Resp S) : (lift a).bind f = act a f := rfl

def forEach {α : Type} : List α → (α → Prog Act Resp Unit) → Prog Act Resp Unit
  | [], _ => done ()
  | x :: xs, f => (f x).bind fun _ => forEach xs f

/-- Every action the program can perform, whatever the answers, satisfies `P`. -/
def Always (P : Act → Prop) : Prog Act Resp R → Prop
  | done _ => True
  | act a k => P a ∧ ∀ r, (k r).Always P

/-- For some answers the program comes to perform an action that satisfies `P`. -/
def May (P : Act → Prop) : Prog Act Resp R → Prop
  | done _ => False
  | act a k => P a ∨ ∃ r, (k r).May P

/-- Whatever the answers, the program comes to perform an action that satisfies `P`. -/
def Surely (P : Act → Prop) : Prog Act Resp R → Prop
  | done _ => False
  | act a k => P a ∨ ∀ r, (k r).Surely P

variable {P : Act → Prop}

lemma not_always_of_may (h : p.May fun a => ¬ P a) : ¬ p.Always P := by
  induction p with
  | done r => exact fun _ => h
  | act a k ih =>
    rcases h with h | ⟨r, h⟩
    · exact fun hp => h hp.1
    · exact fun hp => ih r h (hp.2 r)

lemma Always.bind {f : R → Prog Act Resp S}
    (hp : p.Always P) (hf : ∀ r, (f r).Always P) : (p.bind f).Always P := by
  induction p with
  | done r => exact hf r
  | act a k ih => exact ⟨hp.1, fun r => ih r (hp.2 r)⟩

lemma Always.lift_bind {a : Act} {f : Resp a → Prog Act Resp S} (ha : P a)
    (hf : ∀ r, (f r).Always P) : ((lift a).bind f).Always P := ⟨ha, hf⟩

lemma Always.imp {Q : Act → Prop} (hp : p.Always P) (h : ∀ a, P a → Q a) : p.Always Q := by
  induction p with
  | done r => trivial
  | act a k ih => exact ⟨h a hp.1, fun r => ih r (hp.2 r)⟩

lemma Always.forEach {α : Type} {f : α → Prog Act Resp Unit}
    (hf : ∀ x, (f x).Always P) (xs : List α) : (Prog.forEach xs f).Always P := by
  induction xs with
  | nil => trivial
  | cons x xs ih => exact (hf x).bind fun _ => ih

end Prog

/-! ### Contracts -/

/-- What a thread may do, relative to a private ghost state `L`: the actions it may perform
in a ghost state, and the ghost states an answer may lead to. -/
structure Contract (Act : Type) (Resp : Act → Type) (L : Type) where
  pre : L → Act → Prop
  post : L → (a : Act) → Resp a → L → Prop

section Meets

variable {L : Type} (C : Contract Act Resp L)

/-- From ghost state `ℓ` the program respects the contract and ends only with `Q`. -/
def Meets : L → Prog Act Resp R → (L → R → Prop) → Prop
  | ℓ, .done r, Q => Q ℓ r
  | ℓ, .act a k, Q => C.pre ℓ a ∧ ∀ r ℓ', C.post ℓ a r ℓ' → Meets ℓ' (k r) Q

variable {C} {ℓ : L} {Q : L → R → Prop}

@[simp] lemma meets_done {r : R} : Meets C ℓ (.done r) Q ↔ Q ℓ r := Iff.rfl

@[simp] lemma meets_act (ℓ : L) (a : Act) (k : Resp a → Prog Act Resp R) (Q : L → R → Prop) :
    Meets C ℓ (.act a k) Q ↔ C.pre ℓ a ∧ ∀ r ℓ', C.post ℓ a r ℓ' → Meets C ℓ' (k r) Q :=
  Iff.rfl

@[simp] lemma meets_lift {a : Act} {Q : L → Resp a → Prop} :
    Meets C ℓ (Prog.lift a) Q ↔ C.pre ℓ a ∧ ∀ r ℓ', C.post ℓ a r ℓ' → Q ℓ' r :=
  Iff.rfl

/-- Sequencing composes contracts: the rule every program is checked with. -/
@[simp] lemma meets_bind (ℓ : L) (p : Prog Act Resp R) (f : R → Prog Act Resp S) (Q : L → S → Prop) :
    Meets C ℓ (p.bind f) Q ↔ Meets C ℓ p fun ℓ' r => Meets C ℓ' (f r) Q := by
  induction p generalizing ℓ with
  | done r => exact Iff.rfl
  | act a k ih =>
    exact and_congr_right fun _ => forall_congr' fun r => forall_congr' fun ℓ' =>
      imp_congr_right fun _ => ih r ℓ'

lemma Meets.imp {Q' : L → R → Prop} (h : Meets C ℓ p Q) (hQ : ∀ ℓ r, Q ℓ r → Q' ℓ r) : Meets C ℓ p Q' := by
  induction p generalizing ℓ with
  | done r => exact hQ ℓ r h
  | act a k ih => exact ⟨h.1, fun r ℓ' hr => ih r (h.2 r ℓ' hr)⟩

lemma meets_of_always {I : L → Prop} {P : Act → Prop}
    (hP : ∀ ℓ a, I ℓ → P a → C.pre ℓ a ∧ ∀ r ℓ', C.post ℓ a r ℓ' → I ℓ') (hp : p.Always P)
    (hℓ : I ℓ) : Meets C ℓ p fun ℓ' _ => I ℓ' := by
  induction p generalizing ℓ with
  | done r => exact hℓ
  | act a k ih =>
    obtain ⟨hpre, hpost⟩ := hP ℓ a hℓ hp.1
    exact ⟨hpre, fun r ℓ' h => ih r (hp.2 r) (hpost r ℓ' h)⟩

lemma meets_forEach {α : Type} {I : L → Prop} {f : α → Prog Act Resp Unit}
    (hf : ∀ x ℓ, I ℓ → Meets C ℓ (f x) fun ℓ' _ => I ℓ') (xs : List α) (hℓ : I ℓ) :
    Meets C ℓ (Prog.forEach xs f) fun ℓ' _ => I ℓ' := by
  induction xs generalizing ℓ with
  | nil => exact hℓ
  | cons x xs ih =>
    rw [Prog.forEach, meets_bind]
    exact (hf x ℓ hℓ).imp fun _ _ => ih

end Meets

/-! ### Interleavings -/

/-- A configuration: the shared state and what each thread still has to do. -/
structure Config (Tid Act : Type) (Resp : Act → Type) (σ : Type) where
  shared : σ
  threads : Tid → Prog Act Resp Unit

section System

variable {Tid Ch σ : Type} [DecidableEq Tid]

/-- The scheduler lets thread `l.1` perform its next action; `l.2` resolves what the action
leaves open. -/
def stepThread (exec : Tid → (a : Act) → Ch → σ → Option (Resp a × σ))
    (c : Config Tid Act Resp σ) (l : Tid × Ch) : Option (Config Tid Act Resp σ) :=
  match c.threads l.1 with
  | .done _ => none
  | .act a k => (exec l.1 a l.2 c.shared).map fun p =>
      ⟨p.2, update c.threads l.1 (k p.1)⟩

/-- A condition on single actions, read as a condition on the scheduler's steps. -/
def OnAction (Good : σ → Tid → Act → Ch → Prop) (c : Config Tid Act Resp σ) (l : Tid × Ch) : Prop :=
  match c.threads l.1 with
  | .done _ => True
  | .act a _ => Good c.shared l.1 a l.2

variable {Good : σ → Tid → Act → Ch → Prop} {c : Config Tid Act Resp σ}

omit [DecidableEq Tid] in
lemma onAction_of_forall
    (h : ∀ s t a ch, Good s t a ch) (c : Config Tid Act Resp σ) (l : Tid × Ch) :
    OnAction Good c l := by
  unfold OnAction
  split
  · trivial
  · exact h _ _ _ _

omit [DecidableEq Tid] in
lemma OnAction.imp {Good' : σ → Tid → Act → Ch → Prop} (h : ∀ s t a ch, Good s t a ch → Good' s t a ch) {l : Tid × Ch}
    (hc : OnAction Good c l) : OnAction Good' c l := by
  unfold OnAction at hc ⊢
  split
  · trivial
  · next hp =>
    rw [hp] at hc
    exact h _ _ _ _ hc

instance (Good : σ → Tid → Act → Ch → Prop) [∀ s t a ch, Decidable (Good s t a ch)]
    (c : Config Tid Act Resp σ) (l : Tid × Ch) : Decidable (OnAction Good c l) :=
  match h : c.threads l.1 with
  | .done _ => isTrue (by simp [OnAction, h])
  | .act a _ => decidable_of_iff (Good c.shared l.1 a l.2) (by simp [OnAction, h])

variable {exec : Tid → (a : Act) → Ch → σ → Option (Resp a × σ)} {c' : Config Tid Act Resp σ} {t : Tid} {L : Type}

lemma stepThread_eq_some {ch : Ch} (h : stepThread exec c (t, ch) = some c') :
    ∃ a k r, c.threads t = .act a k ∧ exec t a ch c.shared = some (r, c'.shared) ∧
      c'.threads = update c.threads t (k r) := by
  unfold stepThread at h
  cases hp : c.threads t with
  | done r => simp [hp] at h
  | act a k =>
    simp only [hp, Option.map_eq_some_iff] at h
    obtain ⟨⟨r, s'⟩, hex, rfl⟩ := h
    exact ⟨a, k, r, rfl, hex, rfl⟩

lemma of_update_ghost {ℓ : Tid → L} {u : Tid} {x : L} {P : L → Prop} (hx : ¬ P x)
    (h : P (update ℓ t x u)) : u ≠ t ∧ P (ℓ u) := by
  by_cases hut : u = t
  · rw [hut, update_self] at h
    exact absurd h hx
  · rw [update_of_ne hut] at h
    exact ⟨hut, h⟩

lemma eq_of_update_ghost {ℓ : Tid → L} {u : Tid} {x y : L} (hxy : x ≠ y) (h : update ℓ t x u = y) : u ≠ t ∧ ℓ u = y :=
  of_update_ghost (P := fun z => z = y) hxy h

/-- The invariant of a whole configuration: the shared invariant together with, for every
thread, what it still has to do meeting its contract. -/
def Guarded {L : Type} (C : Tid → Contract Act Resp L) (Inv : σ → (Tid → L) → Prop)
    (c : Config Tid Act Resp σ) : Prop :=
  ∃ ℓ : Tid → L, Inv c.shared ℓ ∧ ∀ t, Meets (C t) (ℓ t) (c.threads t) fun _ _ => True

/-- **Soundness of contracts.**  If every action a contract allows keeps the shared
invariant and answers as the contract says, then every run keeps the invariant, and what
each thread still has to do meets its contract. -/
theorem run_meets {C : Tid → Contract Act Resp L} {Inv : σ → (Tid → L) → Prop}
    (hact : ∀ s ℓ t a ch r s', Inv s ℓ → (C t).pre (ℓ t) a → Good s t a ch → exec t a ch s = some (r, s') →
      ∃ ℓ', (C t).post (ℓ t) a r ℓ' ∧ Inv s' (update ℓ t ℓ')) {ls : List (Tid × Ch)}
    (hc : Guarded C Inv c) (hgood : RunMeets (stepThread exec) (OnAction Good) c ls)
    (hrun : run (stepThread exec) c ls = some c') : Guarded C Inv c' := by
  refine run_inv ?_ hc hgood hrun
  rintro c ⟨t, ch⟩ c' ⟨ℓ, hinv, hmeets⟩ hg hstep
  obtain ⟨a, k, r, hp, hex, hthreads⟩ := stepThread_eq_some hstep
  have hmt := hmeets t
  rw [hp] at hmt
  simp only [OnAction, hp] at hg
  obtain ⟨ℓ', hpost, hinv'⟩ := hact _ _ _ _ _ _ _ hinv hmt.1 hg hex
  refine ⟨update ℓ t ℓ', hinv', fun u => ?_⟩
  rw [hthreads]
  by_cases hu : u = t
  · subst hu
    simpa using hmt.2 r ℓ' hpost
  · simpa [hu] using hmeets u

end System

end GoTor.Lib
