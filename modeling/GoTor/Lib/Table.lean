import Mathlib.Data.List.Nodup

/-!
# Finite maps that can be listed

A map of the program as an association list in which no key stands twice: what it holds under a
key, its size, and the entries one after the other.
-/

namespace GoTor.Lib

structure Table (κ ν : Type*) where
  entries : List (κ × ν) := []
  nodup : (entries.map Prod.fst).Nodup := by simp

namespace Table

variable {κ ν : Type*}

def empty : Table κ ν := {}

def size (t : Table κ ν) : ℕ := t.entries.length

def keep (t : Table κ ν) (p : κ → ν → Bool) : Table κ ν where
  entries := t.entries.filter fun e => p e.1 e.2
  nodup := t.nodup.sublist (List.filter_sublist.map Prod.fst)

variable [DecidableEq κ] (t : Table κ ν) {k k' : κ} {v : ν}

def get (k : κ) : Option ν := (t.entries.find? fun e => e.1 = k).map Prod.snd

def erase (k : κ) : Table κ ν := t.keep fun k' _ => k' ≠ k

def set (k : κ) (v : ν) : Table κ ν where
  entries := (k, v) :: (t.erase k).entries
  nodup := by
    refine List.nodup_cons.2 ⟨fun h => ?_, (t.erase k).nodup⟩
    obtain ⟨e, he, hk⟩ := List.mem_map.1 h
    have hne := (List.mem_filter.1 he).2
    exact of_decide_eq_true hne hk

/-! ### What the map holds after a change -/

open List Option

lemma get_eq_some_iff : t.get k = some v ↔ (k, v) ∈ t.entries := by
  unfold get
  rw [map_eq_some_iff]
  constructor
  · rintro ⟨⟨k', v'⟩, hfind, rfl⟩
    have hk : k' = k := by simpa using find?_some hfind
    subst hk
    exact mem_of_find?_eq_some hfind
  intro hmem
  cases hfind : t.entries.find? fun e => e.1 = k with
  | none => exact absurd (decide_eq_true rfl) (find?_eq_none.1 hfind _ hmem)
  | some e =>
    refine ⟨e, rfl, ?_⟩
    have hk : e.1 = k := by simpa using find?_some hfind
    have heq : e = (k, v) :=
      inj_on_of_nodup_map t.nodup (mem_of_find?_eq_some hfind) hmem hk
    rw [heq]

lemma get_keep (p : κ → ν → Bool) (k : κ) : (t.keep p).get k = (t.get k).filter (p k) := by
  apply ext
  intro v
  rw [get_eq_some_iff, filter_eq_some_iff, get_eq_some_iff]
  exact mem_filter

variable {t} in
lemma get_of_get_keep {p : κ → ν → Bool} (h : (t.keep p).get k = some v) : t.get k = some v := by
  rw [get_keep] at h
  exact (filter_eq_some_iff.1 h).1

variable {t} in
lemma get_of_get_erase (h : (t.erase k').get k = some v) : t.get k = some v :=
  get_of_get_keep h

lemma get_erase (k k' : κ) : (t.erase k).get k' = if k' = k then none else t.get k' := by
  rw [erase, get_keep]
  split
  next h => subst h; cases t.get k' <;> simp
  next h => cases t.get k' <;> simp [h]

lemma get_ite_erase {c : Prop} [Decidable c] :
    (if c then t.erase k else t).get k' = if c ∧ k' = k then none else t.get k' := by
  split
  next h => simp only [get_erase, h, true_and]
  next h => simp only [h, false_and, if_false]

@[simp] lemma get_erase_self : (t.erase k).get k = none := by
  rw [get_erase, if_pos rfl]

lemma get_erase_of_ne (h : k' ≠ k) : (t.erase k).get k' = t.get k' := by
  rw [get_erase, if_neg h]

lemma get_set (k : κ) (v : ν) (k' : κ) :
    (t.set k v).get k' = if k' = k then some v else t.get k' := by
  apply ext
  intro w
  rw [get_eq_some_iff]
  change (k', w) ∈ (k, v) :: (t.erase k).entries ↔ _
  rw [mem_cons, ← get_eq_some_iff, get_erase]
  by_cases h : k' = k
  · subst h
    simp [eq_comm]
  · simp [h]

@[simp] lemma get_set_self (k : κ) (v : ν) : (t.set k v).get k = some v := by
  rw [get_set, if_pos rfl]

lemma get_set_of_ne (h : k' ≠ k) : (t.set k v).get k' = t.get k' := by
  rw [get_set, if_neg h]

variable {t} in
lemma mem_of_mem_erase {e : κ × ν} (h : e ∈ (t.erase k).entries) : e ∈ t.entries :=
  mem_of_mem_filter h

variable {t} in
lemma mem_set {e : κ × ν} (h : e ∈ (t.set k v).entries) : e = (k, v) ∨ e ∈ t.entries :=
  (mem_cons.1 h).imp_right mem_of_mem_erase

lemma perm_erase (h : t.get k = some v) : List.Perm t.entries ((k, v) :: (t.erase k).entries) := by
  have hmem := t.get_eq_some_iff.1 h
  have hset : ((k, v) :: (t.erase k).entries).Nodup := (t.set k v).nodup.of_map
  refine (perm_ext_iff_of_nodup t.nodup.of_map hset).2 fun e => ?_
  rw [mem_cons]
  change _ ↔ e = (k, v) ∨ e ∈ t.entries.filter _
  rw [mem_filter]
  constructor
  · intro he
    by_cases hk : e.1 = k
    · exact .inl (inj_on_of_nodup_map t.nodup he hmem hk)
    · exact .inr ⟨he, decide_eq_true hk⟩
  · rintro (rfl | ⟨he, -⟩)
    · exact hmem
    · exact he

lemma entries_erase_of_none (h : t.get k = none) : (t.erase k).entries = t.entries := by
  refine filter_eq_self.2 fun e he => decide_eq_true fun hk => ?_
  have hget : t.get e.1 = some e.2 := t.get_eq_some_iff.2 he
  rw [hk, h] at hget
  cases hget

lemma size_erase_lt (h : t.get k = some v) : (t.erase k).size < t.size := by
  refine length_filter_lt_length_iff_exists.2 ⟨(k, v), t.get_eq_some_iff.1 h, ?_⟩
  simp

end Table

end GoTor.Lib
