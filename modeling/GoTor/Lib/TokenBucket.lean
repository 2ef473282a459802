import Mathlib.Tactic.Linarith

/-!
# Token buckets

A bucket gains `rate` tokens a second, holds `burst` at most, and pays one for each admission.
`Paid` relates what it holds at a time to what it has paid: since any earlier time no more than
the burst and what came in, less what is left.
-/

namespace GoTor.Lib

def countWithin (times : List ℚ) (a b : ℚ) : ℕ := times.countP fun t => a ≤ t ∧ t ≤ b

/-- What a bucket that holds `level` tokens at the time `now` has paid. -/
structure Paid (rate burst now level : ℚ) (times : List ℚ) : Prop where
  since : ∀ a ≤ now, times.countP (a ≤ ·) + level ≤ burst + rate * (now - a)
  within : ∀ a b, a ≤ b → countWithin times a b ≤ burst + rate * (b - a)
  past : ∀ t ∈ times, t ≤ now

namespace Paid

variable {rate burst now level : ℚ} {times : List ℚ}

lemma full (hrate : 0 ≤ rate) (hburst : 0 ≤ burst) : Paid rate burst now burst [] where
  since a ha := by simpa using mul_nonneg hrate (sub_nonneg.2 ha)
  within a b hab := by
    simpa [countWithin] using add_nonneg hburst (mul_nonneg hrate (sub_nonneg.2 hab))
  past := by simp

lemma wait (h : Paid rate burst now level times) {now' level' : ℚ} (hrate : 0 ≤ rate)
    (hnow : now ≤ now') (hgain : level' ≤ level + rate * (now' - now)) (hcap : level' ≤ burst) :
    Paid rate burst now' level' times where
  since a ha := by
    rcases le_or_gt a now with ha' | ha'
    · have := h.since a ha'
      linarith
    · have hnone : times.countP (a ≤ ·) = 0 :=
        List.countP_eq_zero.2 fun t ht => by simpa using (h.past t ht).trans_lt ha'
      have := mul_nonneg hrate (sub_nonneg.2 ha)
      rw [hnone, Nat.cast_zero]
      linarith
  within := h.within
  past t ht := (h.past t ht).trans hnow

lemma pay (h : Paid rate burst now level times) (hrate : 0 ≤ rate) (hlevel : 1 ≤ level) :
    Paid rate burst now (level - 1) (times ++ [now]) where
  since a ha := by
    have := h.since a ha
    simp only [List.countP_append, List.countP_singleton, ha, decide_true, if_true, Nat.cast_add, Nat.cast_one]
    linarith
  within a b hab := by
    by_cases hin : a ≤ now ∧ now ≤ b
    · have hle : countWithin times a b ≤ times.countP (a ≤ ·) := by
        refine List.countP_mono_left fun t _ ht => ?_
        exact decide_eq_true (of_decide_eq_true ht).1
      have hsince := h.since a hin.1
      have hmul := mul_le_mul_of_nonneg_left (sub_le_sub_right hin.2 a) hrate
      simp only [countWithin, List.countP_append, List.countP_singleton, hin, and_self,
        decide_true, if_true, Nat.cast_add, Nat.cast_one] at hle ⊢
      have : ((times.countP fun t => a ≤ t ∧ t ≤ b : ℕ) : ℚ) ≤ times.countP (a ≤ ·) := by
        exact_mod_cast hle
      linarith
    · simpa [countWithin, hin] using h.within a b hab
  past := List.forall_mem_append.2 ⟨h.past, List.forall_mem_singleton.2 le_rfl⟩

end Paid

end GoTor.Lib
