import Mathlib.Data.List.Sort

/-!
# Rings

A ring is a list that is walked from some position on, back to its beginning, up to that
position.  A greedy choice along several walks takes from each the first few elements that no
walk before it took; taking more from each loses none of them.
-/

namespace GoTor.Lib

open List

/-! ### Walking a ring -/

section Walk

variable {α : Type}

/-- The elements of a ring in the order of a walk from position `start`. -/
def walkFrom (ring : List α) (start : ℕ) : List α := ring.drop start ++ ring.take start

/-- The position after `i` on a ring of `n` elements. -/
def nextPos (n i : ℕ) : ℕ := if i + 1 = n then 0 else i + 1

lemma length_walkFrom (ring : List α) (start : ℕ) : (walkFrom ring start).length = ring.length := by
  rw [walkFrom, length_append, Nat.add_comm, ← length_append, take_append_drop]

variable {ring : List α}

lemma mem_walkFrom {start : ℕ} {x : α} : x ∈ walkFrom ring start ↔ x ∈ ring := by
  have h : x ∈ ring.take start ++ ring.drop start ↔ x ∈ ring := by
    rw [take_append_drop]
  rw [walkFrom, mem_append, Or.comm, ← mem_append]
  exact h

/-- The part of the walk that is left at position `i` on the way to `start`. -/
def restOf (ring : List α) (start i : ℕ) : List α :=
  if start ≤ i then ring.drop i ++ ring.take start else (ring.take start).drop i

lemma restOf_start (ring : List α) (start : ℕ) : restOf ring start start = walkFrom ring start :=
  if_pos le_rfl

lemma restOf_eq_cons {start i : ℕ} {x : α} (hs : start < ring.length) (hx : ring[i]? = some x) : restOf ring start i =
      x :: if nextPos ring.length i = start then [] else restOf ring start (nextPos ring.length i) := by
  obtain ⟨hi, rfl⟩ := List.getElem?_eq_some_iff.1 hx
  unfold restOf nextPos
  by_cases hsi : start ≤ i
  · rw [if_pos hsi, drop_eq_getElem_cons hi, cons_append]
    by_cases hlast : i + 1 = ring.length
    · rw [if_pos hlast, drop_of_length_le (by omega), nil_append]
      by_cases h0 : start = 0
      · simp [h0]
      · rw [if_neg (by omega), if_neg (by omega), drop_zero]
    · rw [if_neg hlast, if_neg (by omega), if_pos (by omega)]
  have hit : i < (ring.take start).length := by
    rw [length_take]
    omega
  have hmid : i + 1 ≠ ring.length := by omega
  rw [if_neg hsi, drop_eq_getElem_cons hit, getElem_take]
  simp only [if_neg hmid]
  by_cases hnext : i + 1 = start
  · rw [if_pos hnext, drop_of_length_le]
    rw [length_take]
    omega
  · rw [if_neg hnext, if_neg (by omega)]

/-- On a ring sorted by `p`, the walk from the first position that meets `p` reads the elements
that meet it, then the others. -/
lemma walkFrom_findIdx {p : α → Bool} (h : ring.Pairwise fun a b => p a = true → p b = true) :
    walkFrom ring (ring.findIdx p) = ring.filter p ++ ring.filter (!p ·) := by
  have hsplit : ring.drop (ring.findIdx p) = ring.filter p ∧ ring.take (ring.findIdx p) = ring.filter (!p ·) := by
    induction ring with
    | nil => exact ⟨rfl, rfl⟩
    | cons a ring ih =>
      rw [pairwise_cons] at h
      obtain ⟨hdrop, htake⟩ := ih h.2
      by_cases ha : p a = true
      · have hall : ∀ b ∈ ring, p b = true := fun b hb => h.1 b hb ha
        rw [findIdx_cons, ha, cond_true]
        constructor
        · rw [drop_zero, eq_comm, filter_eq_self]
          intro b hb
          rcases mem_cons.1 hb with rfl | hb
          · exact ha
          · exact hall b hb
        · rw [take_zero, eq_comm, filter_eq_nil_iff]
          intro b hb
          rcases mem_cons.1 hb with rfl | hb
          · simp [ha]
          · simp [hall b hb]
      · rw [Bool.not_eq_true] at ha
        rw [findIdx_cons, ha, cond_false, take_succ_cons,
          filter_cons_of_neg (by simp [ha]), filter_cons_of_pos (by simp [ha])]
        exact ⟨hdrop, by rw [htake]⟩
  rw [walkFrom, hsplit.1, hsplit.2]

lemma walkFrom_length (ring : List α) : walkFrom ring ring.length = walkFrom ring 0 := by
  simp [walkFrom]

end Walk

/-! ### Greedy choice -/

section Pick

variable {α : Type} [DecidableEq α]

/-- What is chosen, and the first `k` of `walk` that are not. -/
def pick (k : ℕ) (walk chosen : List α) : List α :=
  chosen ++ (walk.filter (· ∉ chosen)).take k

/-- The choice along several walks, one after the other. -/
def pickAlong (k : ℕ) (walks : List (List α)) (chosen : List α) : List α :=
  walks.foldl (fun chosen walk => pick k walk chosen) chosen

variable {k k' : ℕ} {chosen' : List α}

lemma mem_take_filter_of_imp {p q : α → Bool} (hpq : ∀ x, q x = true → p x = true) (hk : k ≤ k')
    {l : List α} {x : α} (hx : x ∈ (l.filter p).take k) (hq : q x = true) :
    x ∈ (l.filter q).take k' := by
  induction l generalizing k k' with
  | nil => simp at hx
  | cons a l ih =>
    by_cases hp : p a = true
    · rw [filter_cons_of_pos hp] at hx
      -- `a` uses up one of the `k`; it uses up one of the `k'` only if it meets `q`
      rcases k with _ | k
      · simp at hx
      rcases k' with _ | k'
      · omega
      rw [take_succ_cons, mem_cons] at hx
      by_cases hqa : q a = true
      · rw [filter_cons_of_pos hqa, take_succ_cons, mem_cons]
        rcases hx with hx | hx
        · exact .inl hx
        · exact .inr (ih (by omega) hx)
      · rw [filter_cons_of_neg hqa]
        rcases hx with rfl | hx
        · exact absurd hq hqa
        · exact ih (by omega) hx
    · have hqa : ¬ q a = true := fun h => hp (hpq a h)
      rw [filter_cons_of_neg hp] at hx
      rw [filter_cons_of_neg hqa]
      exact ih hk hx

lemma pick_subset (hk : k ≤ k') {walk : List α} {chosen : List α} (h : chosen ⊆ chosen') :
    pick k walk chosen ⊆ pick k' walk chosen' := by
  intro x hx
  rw [pick, mem_append] at hx ⊢
  by_cases hx' : x ∈ chosen'
  · exact .inl hx'
  rcases hx with hx | hx
  · exact absurd (h hx) hx'
  · refine .inr (mem_take_filter_of_imp ?_ hk hx (decide_eq_true hx'))
    intro y hy
    exact decide_eq_true fun hyc => of_decide_eq_true hy (h hyc)

/-- **Taking more from each walk loses nothing.** -/
theorem pickAlong_subset (hk : k ≤ k') (walks : List (List α)) {chosen : List α}
    (h : chosen ⊆ chosen') : pickAlong k walks chosen ⊆ pickAlong k' walks chosen' := by
  induction walks generalizing chosen chosen' with
  | nil => exact h
  | cons walk walks ih => exact ih (pick_subset hk h)

end Pick

end GoTor.Lib
