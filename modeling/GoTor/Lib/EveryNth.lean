import Mathlib.Data.List.Induction
import Mathlib.Data.Nat.ModEq

/-!
# Every n-th element

The elements of a list whose number, counted from one, is a multiple of `n`: what a counter that
fires every `n` elements picks out.
-/

namespace GoTor.Lib

variable {α : Type*}

/-- The elements with the numbers `n`, `2 * n`, … -/
def everyNth (n : ℕ) (l : List α) : List α :=
  ((l.zipIdx 1).filter fun x => x.2 % n = 0).map Prod.fst

variable {n : ℕ}

@[simp] lemma everyNth_nil : everyNth n ([] : List α) = [] := rfl

open List

lemma everyNth_concat (n : ℕ) (l : List α) (x : α) : everyNth n (l ++ [x]) =
      if (l.length + 1) % n = 0 then everyNth n l ++ [x] else everyNth n l := by
  unfold everyNth
  rw [zipIdx_append]
  simp only [Nat.add_comm 1 l.length]
  split
  next h => simp [h]
  next h => simp [h]

lemma length_everyNth (n : ℕ) (l : List α) : (everyNth n l).length = l.length / n := by
  induction l using reverseRecOn with
  | nil => simp
  | append_singleton l x ih =>
    rw [everyNth_concat, length_append, length_singleton, Nat.succ_div]
    split
    next h => rw [if_pos (Nat.dvd_of_mod_eq_zero h), length_append, ih]; rfl
    next h => rw [if_neg fun hd => h (Nat.mod_eq_zero_of_dvd hd), ih]; rfl

lemma everyNth_starts {l' : List α} (l : List α) : everyNth n l <+: everyNth n (l ++ l') := by
  induction l' using reverseRecOn with
  | nil => simp
  | append_singleton l' x ih =>
    rw [← append_assoc, everyNth_concat]
    split
    · exact ih.trans (prefix_append _ _)
    · exact ih

lemma mem_of_mem_everyNth {l : List α} {x : α} (h : x ∈ everyNth n l) : x ∈ l := by
  obtain ⟨⟨y, i⟩, hmem, rfl⟩ := mem_map.1 h
  exact fst_mem_of_mem_zipIdx (mem_filter.1 hmem).1

lemma drop_everyNth_concat {k : ℕ} {l : List α} (hk : k ≤ l.length / n) (x : α) : (everyNth n (l ++ [x])).drop k =
      if (l.length + 1) % n = 0 then (everyNth n l).drop k ++ [x] else (everyNth n l).drop k := by
  rw [everyNth_concat]
  split
  · exact drop_append_of_le_length (by rw [length_everyNth]; exact hk)
  · rfl

end GoTor.Lib
