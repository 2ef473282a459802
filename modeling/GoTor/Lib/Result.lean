import Mathlib.Tactic.Common

/-!
# Results of fallible code

A function that returns an error returns an `Except` with the error, and one that also changes
a state an `EStateM`; the rules say when a sequence of such calls succeeds.
-/

namespace GoTor.Lib

section Except

variable {ε α β : Type}

lemma ok_bind (a : α) (f : α → Except ε β) : (Except.ok a >>= f) = f a := rfl

variable {x : Except ε α}

lemma bind_eq_ok {f : α → Except ε β} {b : β} :
    (x >>= f) = .ok b ↔ ∃ a, x = .ok a ∧ f a = .ok b := by
  cases x with
  | error e | ok a => simp [bind, Except.bind]

lemma ite_error_eq_ok {c : Prop} [Decidable c] {e : ε} {a : α} :
    (if c then .error e else x) = .ok a ↔ ¬ c ∧ x = .ok a := by
  by_cases h : c <;> simp [h]

lemma toOption_eq_some {a : α} : x.toOption = some a ↔ x = .ok a := by
  cases x with
  | error e | ok b => simp [Except.toOption]

end Except

lemma map_eq_ok {ε α β : Type*} {x : Except ε α} {f : α → β} {b : β} :
    x.map f = .ok b ↔ ∃ a, x = .ok a ∧ f a = b := by
  cases x with
  | error e | ok a => simp [Except.map]

variable {α β : Type}

open List Option

lemma forM_eq_ok {ε : Type} {f : α → Except ε Unit} {xs : List α} : xs.forM f = .ok () ↔ ∀ x ∈ xs, f x = .ok () := by
  induction xs with
  | nil => exact ⟨nofun, fun _ => rfl⟩
  | cons x xs ih =>
    show (f x >>= fun _ => xs.forM f) = .ok () ↔ _
    rw [bind_eq_ok]
    refine ⟨?_, fun h => ⟨(), h x mem_cons_self, ih.2 fun y hy =>
      h y (mem_cons_of_mem _ hy)⟩⟩
    rintro ⟨_, hx, hxs⟩ y hy
    rcases mem_cons.1 hy with rfl | hy
    · exact hx
    · exact ih.1 hxs y hy

lemma filterMap_of_mapM {γ : Type} {f : α → Option β} {xs : List α} {ys : List β}
    (h : xs.mapM f = some ys) (g : β → Option γ) :
    ys.filterMap g = xs.filterMap fun x => (f x).bind g := by
  induction xs generalizing ys with
  | nil =>
    cases h
    rfl
  | cons x xs ih =>
    rw [mapM_cons] at h
    obtain ⟨y, hy, h⟩ := bind_eq_some_iff.1 h
    obtain ⟨ys', hys, h⟩ := bind_eq_some_iff.1 h
    cases h
    rw [filterMap_cons, filterMap_cons, hy, bind_some, ih hys]

lemma isSome_of_mapM {f : α → Option β} {xs : List α} {ys : List β} (h : xs.mapM f = some ys)
    {x : α} (hx : x ∈ xs) : ∃ y, f x = some y := by
  induction xs generalizing ys with
  | nil => cases hx
  | cons x' xs ih =>
    rw [mapM_cons] at h
    obtain ⟨y, hy, h⟩ := bind_eq_some_iff.1 h
    obtain ⟨ys', hys, h⟩ := bind_eq_some_iff.1 h
    rcases mem_cons.1 hx with rfl | hx
    · exact ⟨y, hy⟩
    · exact ih hys hx

lemma exists_mapM {f : α → Option β} {xs : List α} (h : ∀ x ∈ xs, ∃ y, f x = some y) : ∃ ys, xs.mapM f = some ys := by
  induction xs with
  | nil => exact ⟨[], rfl⟩
  | cons x xs ih =>
    obtain ⟨y, hy⟩ := h x mem_cons_self
    obtain ⟨ys, hys⟩ := ih fun x hx => h x (mem_cons_of_mem _ hx)
    refine ⟨y :: ys, ?_⟩
    rw [mapM_cons, hy, hys]
    rfl

/-! ### Calls with a state -/

section EStateM

variable {ε σ α β : Type}

lemma estate_bind_eq_ok {x : EStateM ε σ α} {f : α → EStateM ε σ β} {s s'' : σ} {b : β} :
    (x >>= f) s = .ok b s'' ↔ ∃ a s', x s = .ok a s' ∧ f a s' = .ok b s'' := by
  show EStateM.bind x f s = _ ↔ _
  unfold EStateM.bind
  cases x s with
  | error e s' | ok a s' => simp

end EStateM

end GoTor.Lib
