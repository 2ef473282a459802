import GoTor.Lib.Bytes
import Mathlib.Data.List.DropRight
import Mathlib.Data.List.Infix

/-!
# Cutting byte strings

What Go's `strings` and `bytes` packages cut texts with.
-/

namespace GoTor.Lib

open List

/-- `strings.TrimPrefix`. -/
def trimStart (p s : Bytes) : Bytes := if p <+: s then s.drop p.length else s

/-- `strings.TrimSuffix`. -/
def trimEnd (p s : Bytes) : Bytes := if p <:+ s then s.take (s.length - p.length) else s

/-- `strings.Trim`, with a set of bytes given by a predicate. -/
def trim (drop : UInt8 → Bool) (s : Bytes) : Bytes := (s.dropWhile drop).rdropWhile drop

/-- The white space of ASCII. -/
def isSpace (c : UInt8) : Bool := c = 32 || (9 ≤ c && c ≤ 13)

def trimSpace (s : Bytes) : Bytes := trim isSpace s

def lowerLetter (c : UInt8) : UInt8 := if 65 ≤ c ∧ c ≤ 90 then c + 32 else c

def toLower (s : Bytes) : Bytes := s.map lowerLetter

/-- The part of `strings.Cut` before the separator. -/
def cutBefore (sep : UInt8) (s : Bytes) : Bytes := s.takeWhile (· ≠ sep)

/-- The part of `strings.Cut` after the separator. -/
def cutAfter (sep : UInt8) (s : Bytes) : Bytes := (s.dropWhile (· ≠ sep)).drop 1

/-- `bytes.Index`: where a pattern occurs first. -/
def index (p : Bytes) : Bytes → Option ℕ
  | [] => if p = [] then some 0 else none
  | c :: s => if p <+: c :: s then some 0 else (index p s).map (· + 1)

section Trim

variable {drop : UInt8 → Bool} {s p : Bytes}

lemma trim_eq_self (hhead : ∀ c, s.head? = some c → drop c = false)
    (hlast : ∀ c, s.getLast? = some c → drop c = false) : trim drop s = s := by
  have hfront : s.dropWhile drop = s := by
    cases s with
    | nil => rfl
    | cons c s => simp [hhead c rfl]
  rw [trim, hfront, rdropWhile_eq_self_iff]
  intro hne
  rw [hlast _ (getLast?_eq_some_getLast hne)]
  simp

@[simp] lemma trimStart_append (p s : Bytes) : trimStart p (p ++ s) = s := by
  simp [trimStart]

end Trim

variable {s : Bytes} {c : UInt8}

lemma not_infix_of_not_mem {p : Bytes} (hc : c ∈ p) (h : c ∉ s) : ¬ p <:+: s :=
  fun hin => h (hin.subset hc)

variable {sep : UInt8}

lemma cutBefore_append_cutAfter (h : cutAfter sep s ≠ []) : s = cutBefore sep s ++ sep :: cutAfter sep s := by
  induction s with
  | nil => exact absurd rfl h
  | cons c s ih =>
    by_cases hc : c = sep
    · simp [hc, cutBefore, cutAfter]
    have hafter : cutAfter sep (c :: s) = cutAfter sep s := by simp [cutAfter, hc]
    have hbefore : cutBefore sep (c :: s) = c :: cutBefore sep s := by simp [cutBefore, hc]
    rw [hafter] at h ⊢
    rw [hbefore, cons_append, ← ih h]

lemma cutBefore_append {a : Bytes} (h : sep ∉ a) (b : Bytes) : cutBefore sep (a ++ sep :: b) = a := by
  have ha : a.takeWhile (· ≠ sep) = a := takeWhile_eq_self_iff.2 fun c hc => by
    simp only [decide_eq_true_eq]
    exact fun hcs => h (hcs ▸ hc)
  rw [cutBefore, takeWhile_append, ha]
  simp

lemma cutAfter_append {a : Bytes} (h : sep ∉ a) (b : Bytes) : cutAfter sep (a ++ sep :: b) = b := by
  have ha : a.dropWhile (· ≠ sep) = [] := dropWhile_eq_nil_iff.2 fun c hc => by
    simp only [decide_eq_true_eq]
    exact fun hcs => h (hcs ▸ hc)
  rw [cutAfter, dropWhile_append, ha]
  simp

/-! ### Occurrences -/

section Index

variable {p s t : Bytes} {i : ℕ}

lemma index_eq_zero (h : p <+: s) : index p s = some 0 := by
  cases s with
  | nil => simp [index, prefix_nil.1 h]
  | cons c s => simp [index, h]

lemma prefix_of_index (h : index p s = some i) : p <+: s.drop i := by
  induction s generalizing i with
  | nil =>
    unfold index at h
    split at h
    · next hp => simp [hp]
    · cases h
  | cons c s ih =>
    unfold index at h
    split at h
    · next hpre =>
      cases h
      exact hpre
    · obtain ⟨j, hj, rfl⟩ := Option.map_eq_some_iff.1 h
      exact ih hj

lemma index_eq_none : index p s = none ↔ ¬ p <:+: s := by
  induction s with
  | nil => simp [index]
  | cons c s ih =>
    unfold index
    split
    · next hpre => simp [hpre.isInfix]
    · next hpre => simp [infix_cons_iff, hpre, ih]

lemma index_append (h : index p s = some i) (t : Bytes) : index p (s ++ t) = some i := by
  induction s generalizing i with
  | nil =>
    unfold index at h
    split at h
    · next hp =>
      cases h
      exact index_eq_zero (by simp [hp])
    · cases h
  | cons c s ih =>
    unfold index at h
    split at h
    · next hpre =>
      cases h
      exact index_eq_zero (hpre.trans (prefix_append _ _))
    · next hpre =>
      obtain ⟨j, hj, rfl⟩ := Option.map_eq_some_iff.1 h
      have hlong : ¬ p <+: c :: (s ++ t) := by
        intro hpre'
        have hlen := (prefix_of_index hj).length_le
        rw [length_drop] at hlen
        exact hpre (prefix_of_prefix_length_le hpre' (prefix_append (c :: s) t) (by simp only [length_cons]; omega))
      simp [index, hlong, ih hj]

lemma index_le_length (h : index p s = some i) : i ≤ s.length := by
  by_contra hlt
  have hpre := prefix_of_index h
  rw [drop_of_length_le (by omega), prefix_nil] at hpre
  rw [index_eq_zero (by simp [hpre])] at h
  cases h
  omega

end Index

def EndsWith (c : UInt8) (s : Bytes) : Prop := ∀ d, s.getLast? = some d → d = c

section EndsWith

variable {c : UInt8} {p s t : Bytes} {i : ℕ} (h : EndsWith c s)
include h

lemma EndsWith.drop (n : ℕ) : EndsWith c (s.drop n) := by
  intro d hd
  rw [getLast?_drop] at hd
  split at hd
  · cases hd
  · exact h d hd

lemma EndsWith.prefix_append (hne : s ≠ []) (hc : c ∉ p) (hpre : p <+: s ++ t) : p <+: s := by
  rcases prefix_or_prefix_of_prefix hpre (List.prefix_append s t) with hps | hsp
  · exact hps
  · have hlast := h _ (getLast?_eq_some_getLast hne)
    exact absurd (hsp.subset (hlast ▸ getLast_mem hne)) hc

lemma EndsWith.length_le_index (hc : c ∉ p) (hs : index p s = none)
    (hi : index p (s ++ t) = some i) : s.length ≤ i := by
  by_contra hlt
  have hpre := prefix_of_index hi
  rw [drop_append_of_le_length (by omega)] at hpre
  have hne : s.drop i ≠ [] := by
    rw [Ne, drop_eq_nil_iff]
    omega
  have hin := ((h.drop i).prefix_append hne hc hpre).isInfix.trans (drop_suffix i s).isInfix
  exact index_eq_none.1 hs hin

lemma EndsWith.infix_append (hc : c ∉ p) (ht : ¬ p <:+: t) : p <:+: s ++ t ↔ p <:+: s := by
  refine ⟨fun hin => ?_, fun hin => hin.trans (List.prefix_append s t).isInfix⟩
  by_contra hs
  cases hi : index p (s ++ t) with
  | none => exact index_eq_none.1 hi hin
  | some i =>
    have hle := h.length_le_index hc (index_eq_none.2 hs) hi
    have hpre := prefix_of_index hi
    rw [drop_append, drop_of_length_le hle] at hpre
    exact ht (hpre.isInfix.trans (drop_suffix _ t).isInfix)

lemma EndsWith.index_append (hc : c ∉ p) (ht : ¬ p <:+: t) : index p (s ++ t) = index p s := by
  cases hi : index p s with
  | some i => exact Lib.index_append hi t
  | none => rw [index_eq_none, h.infix_append hc ht, ← index_eq_none, hi]

lemma EndsWith.splitOn_append :
    ∃ lines, ∀ t : Bytes, (s ++ t).splitOn c = lines ++ t.splitOn c := by
  rcases eq_nil_or_concat s with rfl | ⟨init, d, rfl⟩
  · exact ⟨[], fun t => rfl⟩
  obtain rfl := h d (by simp)
  refine ⟨init.splitOn d, fun t => ?_⟩
  rw [concat_eq_append, append_assoc]
  exact splitOn_append_cons_self init t

end EndsWith

/-! ### Lines -/

lemma infix_of_mem_splitOn {line : Bytes} (h : line ∈ s.splitOn c) : line <:+: s := by
  have hjoin : ∀ lines : List Bytes, line ∈ lines → line <:+: intercalate [c] lines := by
    intro lines hmem
    induction lines with
    | nil => cases hmem
    | cons l lines ih =>
      rcases lines with _ | ⟨l', lines⟩
      · rw [mem_singleton.1 hmem, intercalate_singleton]
      · rw [intercalate_cons_of_ne_nil (by simp)]
        rcases mem_cons.1 hmem with rfl | hmem
        · exact IsPrefix.isInfix <| prefix_append_of_prefix (prefix_append _ _)
        · exact (ih hmem).trans (suffix_append _ _).isInfix
  have hin := hjoin _ h
  rwa [intercalate_splitOn] at hin

lemma prefix_of_splitOn {line : Bytes} {lines : List Bytes} (h : s.splitOn c = line :: lines) : line <+: s := by
  rw [← @intercalate_splitOn _ s _ _ c, h]
  cases lines with
  | nil => rw [intercalate_singleton]
  | cons l lines =>
    rw [intercalate_cons_of_ne_nil (by simp)]
    exact prefix_append_of_prefix (prefix_append _ _)

lemma length_le_of_drop {front p : Bytes} {k : ℕ} (hfront : front <+: s)
    (hc : c ∉ front) (h : c :: p <+: s.drop k) : front.length ≤ k := by
  by_contra hlt
  obtain ⟨w, rfl⟩ := hfront
  rw [drop_append_of_le_length (by omega), drop_eq_getElem_cons (by omega), cons_append, cons_prefix_cons] at h
  exact hc (h.1 ▸ getElem_mem _)

end GoTor.Lib
