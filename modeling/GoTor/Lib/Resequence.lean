import Mathlib.Data.List.Range

/-!
# Resequencing numbered elements

A receiver that gets numbered elements out of order keeps those ahead of their turn in a
buffer, and releases the run of elements that follow the last one released without a gap.
`release` is that loop; `release_perm` says that it loses and invents nothing, and
`release_ahead` that afterwards everything still buffered lies beyond the next number.
-/

namespace GoTor.Lib

open List

variable {α : Type*}

/-- The elements of a list with their numbers, counted from `n`. -/
def numbered (n : ℕ) (l : List α) : List (ℕ × α) := (l.zipIdx n).map Prod.swap

variable {n last : ℕ}

@[simp] lemma numbered_nil : numbered n ([] : List α) = [] := rfl

@[simp] lemma numbered_cons (n : ℕ) (x : α) (l : List α) : numbered n (x :: l) = (n, x) :: numbered (n + 1) l := rfl

lemma numbered_append (n : ℕ) (l l' : List α) :
    numbered n (l ++ l') = numbered n l ++ numbered (n + l.length) l' := by
  simp [numbered, zipIdx_append]

@[simp] lemma map_fst_numbered (n : ℕ) (l : List α) : (numbered n l).map Prod.fst = List.range' n l.length := by
  induction l generalizing n with
  | nil => rfl
  | cons x l ih => simp [ih, range'_succ]

lemma fst_of_mem_numbered {l : List α} {p : ℕ × α} (h : p ∈ numbered n l) : n ≤ p.1 ∧ p.1 < n + l.length := by
  have hp := mem_map_of_mem (f := Prod.fst) h
  rwa [map_fst_numbered, mem_range'_1] at hp

lemma nodup_fst_numbered (n : ℕ) (l : List α) : ((numbered n l).map Prod.fst).Nodup := by
  rw [map_fst_numbered]
  exact nodup_range'

lemma numbered_starts {l l' : List α} (h : ∀ p ∈ numbered n l, p ∈ numbered n l') : l <+: l' := by
  induction l generalizing n l' with
  | nil => exact ⟨l', rfl⟩
  | cons x l ih =>
    cases l' with
    | nil => simpa using h (n, x) (by simp)
    | cons y l' =>
      obtain rfl : x = y := by
        have hx := h (n, x) (by simp)
        rw [numbered_cons, mem_cons] at hx
        rcases hx with hx | hx
        · exact congrArg Prod.snd hx
        · exact absurd (fst_of_mem_numbered hx).1 (Nat.not_succ_le_self n)
      have hrest (p : ℕ × α) (hp : p ∈ numbered (n + 1) l) : p ∈ numbered (n + 1) l' := by
        have hn := (fst_of_mem_numbered hp).1
        have hp' := h p (mem_cons_of_mem _ hp)
        rw [numbered_cons, mem_cons] at hp'
        rcases hp' with rfl | hp'
        · exact absurd hn (Nat.not_succ_le_self n)
        · exact hp'
      obtain ⟨t, ht⟩ := ih hrest
      exact ⟨t, by rw [cons_append, ht]⟩

/-! ### The buffer -/

/-- The buffer of a receiver that has released everything up to `last`: one element a number,
and none whose turn has come. -/
structure Ahead (last : ℕ) (buf : List (ℕ × α)) : Prop where
  nodup : (buf.map Prod.fst).Nodup
  beyond : ∀ p ∈ buf, last + 1 < p.1

lemma Ahead.nil : Ahead last ([] : List (ℕ × α)) := ⟨nodup_nil, by simp⟩

variable {buf : List (ℕ × α)}

lemma Ahead.insert {x : α} (h : Ahead last buf) (hn : last + 1 < n) (hfree : buf.lookup n = none) :
    Ahead last ((n, x) :: buf) where
  nodup := by
    rw [map_cons, nodup_cons]
    refine ⟨fun hmem => ?_, h.nodup⟩
    obtain ⟨p, hp, rfl⟩ := mem_map.1 hmem
    simpa using lookup_eq_none_iff.1 hfree p hp
  beyond := by
    rintro p (_ | ⟨_, hp⟩)
    · exact hn
    · exact h.beyond p hp

lemma perm_cons_filter_of_lookup {x : α} (hnodup : (buf.map Prod.fst).Nodup)
    (h : buf.lookup n = some x) : buf.Perm ((n, x) :: buf.filter (·.1 ≠ n)) := by
  induction buf with
  | nil => simp at h
  | cons p buf ih =>
    obtain ⟨m, y⟩ := p
    rw [map_cons, nodup_cons] at hnodup
    by_cases hm : n = m
    · subst hm
      have hxy : y = x := by simpa [lookup_cons] using h
      have hrest : buf.filter (·.1 ≠ n) = buf := by
        refine filter_eq_self.2 fun q hq => ?_
        have hmem : q.1 ∈ buf.map Prod.fst := mem_map_of_mem hq
        have hqn : q.1 ≠ n := fun he => hnodup.1 (he ▸ hmem)
        simpa using hqn
      rw [hxy, filter_cons_of_neg (by simp), hrest]
    · have hlook : buf.lookup n = some x := by
        rwa [lookup_cons, beq_eq_false_iff_ne.2 hm] at h
      rw [filter_cons_of_pos (by simpa using Ne.symm hm)]
      exact ((ih hnodup.2 hlook).cons _).trans (List.Perm.swap _ _ _)

lemma perm_exchange {x : ℕ × α} {buf' due : List (ℕ × α)} (h : (x :: buf).Perm (due ++ buf')) (l : List (ℕ × α)) :
    (due ++ (l ++ buf')).Perm (x :: (l ++ buf)) :=
  calc List.Perm (due ++ (l ++ buf')) (l ++ (due ++ buf')) := perm_append_comm_assoc _ _ _
    List.Perm _ (l ++ (x :: buf)) := h.symm.append_left l
    List.Perm _ (x :: (l ++ buf)) := perm_middle

/-- The elements that follow `last` without a gap, and what stays in the buffer. -/
def release : ℕ → ℕ → List (ℕ × α) → List α × List (ℕ × α)
  | 0, _, buf => ([], buf)
  | fuel + 1, last, buf =>
    match buf.lookup (last + 1) with
    | none => ([], buf)
    | some x =>
      let r := release fuel (last + 1) (buf.filter (·.1 ≠ last + 1))
      (x :: r.1, r.2)

lemma nodup_fst_filter (h : (buf.map Prod.fst).Nodup) {p : ℕ × α → Bool} : ((buf.filter p).map Prod.fst).Nodup :=
  h.sublist (filter_sublist.map _)

/-- **Nothing is lost or invented.**  The released elements carry the numbers after `last`. -/
theorem release_perm (fuel last : ℕ) (h : (buf.map Prod.fst).Nodup) :
    buf.Perm (numbered (last + 1) (release fuel last buf).1 ++ (release fuel last buf).2) := by
  induction fuel generalizing last buf with
  | zero => exact List.Perm.refl _
  | succ fuel ih =>
    unfold release
    split
    · exact List.Perm.refl _
    · next x hx =>
      exact (perm_cons_filter_of_lookup h hx).trans ((ih (last + 1) (nodup_fst_filter h)).cons _)

/-- **The buffer is ahead again.**  With a turn of the loop for every element, what stays
lies beyond the next number. -/
theorem release_ahead {fuel : ℕ} (h : (buf.map Prod.fst).Nodup) (hbuf : ∀ p ∈ buf, last < p.1)
    (hfuel : buf.length ≤ fuel) :
    Ahead (last + (release fuel last buf).1.length) (release fuel last buf).2 := by
  induction fuel generalizing last buf with
  | zero =>
    obtain rfl := List.length_eq_zero_iff.1 (Nat.le_zero.1 hfuel)
    exact Ahead.nil
  | succ fuel ih =>
    unfold release
    split
    · next hnone =>
      refine ⟨h, fun p hp => ?_⟩
      have hne : last + 1 ≠ p.1 := by simpa using lookup_eq_none_iff.1 hnone p hp
      have := hbuf p hp
      simp only [length_nil]
      omega
    next x hx =>
    have hlen := (perm_cons_filter_of_lookup h hx).length_eq
    rw [length_cons] at hlen
    have hkeep : ∀ p ∈ buf.filter (·.1 ≠ last + 1), last + 1 < p.1 := by
      intro p hp
      obtain ⟨hp, hne⟩ := mem_filter.1 hp
      have := hbuf p hp
      have : p.1 ≠ last + 1 := by simpa using hne
      omega
    have hih := ih (nodup_fst_filter h) hkeep (by omega)
    rw [length_cons, Nat.add_comm _ 1, ← Nat.add_assoc]
    exact hih

end GoTor.Lib
