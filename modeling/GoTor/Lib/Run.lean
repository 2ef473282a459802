import Mathlib.Data.List.Basic

/-!
# Runs of a labelled step function

A system is given by a step function `step : σ → α → Option σ`: the label `α` is what the
environment chooses (who moves, what arrives), and `none` says the step is not enabled.
A run is a list of labels.  Safety statements have the shape "in every run whose steps all
meet a condition, every reached state satisfies an invariant"; the condition looks at the
state *before* the step and at its label only.  `run_inv` packages the induction once.
-/

namespace GoTor.Lib

variable {σ α : Type*} (step : σ → α → Option σ)

/-- The state a list of labels leads to, provided every step of it is enabled. -/
def run : σ → List α → Option σ
  | s, [] => some s
  | s, a :: as => (step s a).bind fun s' => run s' as

/-- Every step of the run from `s` meets `Good`, read off the state before the step. -/
def RunMeets (Good : σ → α → Prop) : σ → List α → Prop
  | _, [] => True
  | s, a :: as => Good s a ∧ ∀ s', step s a = some s' → RunMeets Good s' as

instance decidableRunMeets (Good : σ → α → Prop) [∀ s a, Decidable (Good s a)] :
    (s : σ) → (as : List α) → Decidable (RunMeets step Good s as)
  | _, [] => isTrue trivial
  | s, a :: as =>
    match h : step s a with
    | none => decidable_of_iff (Good s a) (by simp [RunMeets, h])
    | some s' =>
      have := decidableRunMeets Good s' as
      decidable_of_iff (Good s a ∧ RunMeets step Good s' as) (by simp [RunMeets, h])

variable {step}

variable {s : σ} {as : List α}

lemma run_cons_eq_some {s' : σ} {a : α} :
    run step s (a :: as) = some s' ↔ ∃ s1, step s a = some s1 ∧ run step s1 as = some s' := by
  simp [run, Option.bind_eq_some_iff]

lemma run_append (s : σ) (as bs : List α) :
    run step s (as ++ bs) = (run step s as).bind fun s' => run step s' bs := by
  induction as generalizing s with
  | nil => rfl
  | cons a as ih =>
    simp only [List.cons_append, run]
    cases step s a with
    | none => rfl
    | some s1 => exact ih s1

lemma exists_of_run_eq_none (h : run step s as = none) :
    ∃ before a after s', as = before ++ a :: after ∧ run step s before = some s' ∧ step s' a = none := by
  induction as generalizing s with
  | nil => cases h
  | cons a as ih =>
    cases ha : step s a with
    | none => exact ⟨[], a, as, s, rfl, rfl, ha⟩
    | some s1 =>
      rw [run, ha] at h
      obtain ⟨before, b, after, s', rfl, hrun, hb⟩ := ih h
      exact ⟨a :: before, b, after, s', rfl, run_cons_eq_some.2 ⟨s1, ha, hrun⟩, hb⟩

variable (step) in
/-- Some run leads from one state to the other. -/
def Reaches (s s' : σ) : Prop := ∃ as, run step s as = some s'

lemma Reaches.refl : Reaches step s s := ⟨[], rfl⟩

lemma Reaches.trans {s1 s2 s3 : σ} (h : Reaches step s1 s2) (h' : Reaches step s2 s3) : Reaches step s1 s3 := by
  obtain ⟨as, has⟩ := h
  obtain ⟨bs, hbs⟩ := h'
  refine ⟨as ++ bs, ?_⟩
  rw [run_append, has]
  exact hbs

lemma Reaches.of_step {s' : σ} {a : α} (h : step s a = some s') : Reaches step s s' :=
  ⟨[a], run_cons_eq_some.2 ⟨s', h, rfl⟩⟩

variable {Good : σ → α → Prop}

lemma RunMeets.mono {Good' : σ → α → Prop} (h : ∀ s a, Good s a → Good' s a)
    (hr : RunMeets step Good s as) : RunMeets step Good' s as := by
  induction as generalizing s with
  | nil => trivial
  | cons a as ih => exact ⟨h s a hr.1, fun s' hs' => ih (hr.2 s' hs')⟩

lemma RunMeets.of_forall (h : ∀ s a, Good s a) (s : σ) (as : List α) : RunMeets step Good s as := by
  induction as generalizing s with
  | nil => trivial
  | cons a as ih => exact ⟨h s a, fun s' _ => ih s'⟩

/-- **The invariant rule.**  What one enabled step that meets `Good` preserves holds at the
end of every run all of whose steps meet `Good`. -/
theorem run_inv {Inv : σ → Prop} (hstep : ∀ s a s', Inv s → Good s a → step s a = some s' → Inv s')
    {s' : σ} (hs : Inv s) (hgood : RunMeets step Good s as)
    (hrun : run step s as = some s') : Inv s' := by
  induction as generalizing s with
  | nil =>
    cases hrun
    exact hs
  | cons a as ih =>
    obtain ⟨s1, h1, hrest⟩ := run_cons_eq_some.1 hrun
    exact ih (hstep s a s1 hs hgood.1 h1) (hgood.2 s1 h1) hrest

/-! ### What a fixed run leads to -/

/-- Where a computation leads can be looked up. -/
instance decidableExistsSome {P : σ → Prop} [DecidablePred P] : (o : Option σ) → Decidable (∃ s, o = some s ∧ P s)
  | none => isFalse (by simp)
  | some s => decidable_of_iff (P s) (by simp)

section

variable {o : Option σ} {P P' Q : σ → Prop}

lemma exists_some_and (h : ∃ s, o = some s ∧ P s) (hq : ∀ s, o = some s → P s → Q s) :
    ∃ s, o = some s ∧ P s ∧ Q s := by
  obtain ⟨s, hs, hp⟩ := h
  exact ⟨s, hs, hp, hq s hs hp⟩

lemma exists_some_imp (h : ∃ s, o = some s ∧ P s) (hq : ∀ s, o = some s → P s → Q s) : ∃ s, o = some s ∧ Q s := by
  obtain ⟨s, hs, hp⟩ := h
  exact ⟨s, hs, hq s hs hp⟩

lemma exists_some_and2 (h : ∃ s, o = some s ∧ P s ∧ P' s)
    (hq : ∀ s, o = some s → P s → P' s → Q s) : ∃ s, o = some s ∧ P s ∧ P' s ∧ Q s := by
  obtain ⟨s, hs, hp, hp'⟩ := h
  exact ⟨s, hs, hp, hp', hq s hs hp hp'⟩

end

end GoTor.Lib
