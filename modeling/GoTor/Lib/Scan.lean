import GoTor.Lib.Result
import GoTor.Lib.Strings
import GoTor.Lib.Text

/-!
# Reading words and numbers

`bytes.TrimSpace` and `strings.Fields` cut texts at the white space of Unicode.  Texts are UTF-8,
so a white space character is one to three bytes long, and its bytes stand in no other character:
trimming cuts at bytes and never passes a printing ASCII character.  `fmt.Sscanf` reads a number
and leaves unread what follows it.
-/

namespace GoTor.Lib

open List

/-! ### White space -/

/-- The white space characters of three bytes: U+1680, U+2000 to U+200A, U+2028, U+2029, U+202F,
U+205F and U+3000. -/
def isWideSpace (a b c : UInt8) : Bool :=
  (a = 0xE1 && b = 0x9A && c = 0x80) ||
    (a = 0xE2 && b = 0x80 && ((0x80 ≤ c && c ≤ 0x8A) || c = 0xA8 || c = 0xA9 || c = 0xAF)) ||
    (a = 0xE2 && b = 0x81 && c = 0x9F) || (a = 0xE3 && b = 0x80 && c = 0x80)

/-- The length of the white space character at the start of a text, 0 if there is none. -/
def spaceLen : Bytes → ℕ
  | a :: rest =>
    if isSpace a then 1
    else match rest with
      | b :: rest =>
        if a = 0xC2 && (b = 0x85 || b = 0xA0) then 2
        else match rest with
          | c :: _ => if isWideSpace a b c then 3 else 0
          | [] => 0
      | [] => 0
  | [] => 0

/-- The length of the white space character at the end of a text given backwards. -/
def spaceLenBack : Bytes → ℕ
  | c :: rest =>
    if isSpace c then 1
    else match rest with
      | b :: rest =>
        if b = 0xC2 && (c = 0x85 || c = 0xA0) then 2
        else match rest with
          | a :: _ => if isWideSpace a b c then 3 else 0
          | [] => 0
      | [] => 0
  | [] => 0

/-- Cut characters off the start as long as `len` finds one. -/
def cutStart (len : Bytes → ℕ) : (fuel : ℕ) → Bytes → Bytes
  | 0, s => s
  | fuel + 1, s => if len s = 0 then s else cutStart len fuel (s.drop (len s))

def trimSpaceLeft (s : Bytes) : Bytes := cutStart spaceLen s.length s

def trimSpaceRight (s : Bytes) : Bytes := (cutStart spaceLenBack s.length s.reverse).reverse

/-- `bytes.TrimSpace`. -/
def trimUnicodeSpace (s : Bytes) : Bytes := trimSpaceRight (trimSpaceLeft s)

/-- The words of a text, the first of which has begun with `word`, last byte first. -/
def fieldsFrom : (fuel : ℕ) → (word : Bytes) → Bytes → List Bytes
  | 0, word, _ => if word = [] then [] else [word.reverse]
  | _ + 1, word, [] => if word = [] then [] else [word.reverse]
  | fuel + 1, word, c :: rest =>
    match spaceLen (c :: rest) with
    | 0 => fieldsFrom fuel (c :: word) rest
    | k + 1 =>
      if word = [] then fieldsFrom fuel [] (rest.drop k)
      else word.reverse :: fieldsFrom fuel [] (rest.drop k)

def fields (s : Bytes) : List Bytes := fieldsFrom (s.length + 1) [] s

/-! ### Numbers -/

/-- A text as it is printed in an error. -/
def showBytes (s : Bytes) : String := String.ofList (s.map fun c => Char.ofNat c.toNat)

/-- The digits that `fmt.Sscanf` reads for `%d`, after white space and a sign. -/
def scanDigits (s : Bytes) : Except String Bytes :=
  if s = [] then .error "EOF"
  else if s.takeWhile isDigit = [] then .error "expected integer"
  else .ok (s.takeWhile isDigit)

/-- `fmt.Sscanf(s, "%d", &n)` for a `uint64`. -/
def scanUint64 (s : Bytes) : Except String ℕ := do
  let digits ← scanDigits (trimSpaceLeft s)
  if decimalValue digits < 2 ^ 64 then .ok (decimalValue digits)
  else .error s!"strconv.ParseUint: parsing {(showBytes digits).quote}: value out of range"

/-- The sign of a number, if it has one, and what follows it. -/
def cutSign : Bytes → Bytes × Bytes
  | 45 :: s => ([45], s)
  | 43 :: s => ([43], s)
  | s => ([], s)

def signedValue (sign digits : Bytes) : ℤ :=
  if sign = [45] then -decimalValue digits else decimalValue digits

def inInt64 (n : ℤ) : Bool := -2 ^ 63 ≤ n && n < 2 ^ 63

/-- `fmt.Sscanf(s, "%d", &n)` for an `int`. -/
def scanInt (s : Bytes) : Except String ℤ := do
  let signed := cutSign (trimSpaceLeft s)
  let digits ← scanDigits signed.2
  let n := signedValue signed.1 digits
  if inInt64 n then .ok n
  else
    let tok := showBytes (signed.1 ++ digits)
    .error s!"strconv.ParseInt: parsing {tok.quote}: value out of range"

def atoi (s : Bytes) : Option ℤ :=
  let signed := cutSign s
  let n := signedValue signed.1 signed.2
  if signed.2 ≠ [] ∧ signed.2.all isDigit ∧ inInt64 n then some n else none

/-! ### What trimming keeps -/

/-- A printing ASCII character. -/
def Solid (c : UInt8) : Prop := c < 128 ∧ isSpace c = false

instance : DecidablePred Solid := fun c => inferInstanceAs (Decidable (c < 128 ∧ _))

lemma cutStart_suffix {len : Bytes → ℕ} (fuel : ℕ) (s : Bytes) : cutStart len fuel s <:+ s := by
  induction fuel generalizing s with
  | zero => exact suffix_rfl
  | succ fuel ih =>
    unfold cutStart
    split
    · exact suffix_rfl
    · exact (ih _).trans (drop_suffix _ _)

variable {len : Bytes → ℕ}

lemma cutStart_append {v : Bytes} (hlen : ∀ u, len (u ++ v) ≤ u.length) (fuel : ℕ) (u : Bytes) :
    ∃ u', cutStart len fuel (u ++ v) = u' ++ v := by
  induction fuel generalizing u with
  | zero => exact ⟨u, rfl⟩
  | succ fuel ih =>
    unfold cutStart
    split
    · exact ⟨u, rfl⟩
    · rw [drop_append_of_le_length (hlen u)]
      exact ih _

variable {c : UInt8}

section Solid

variable {c : UInt8} {v : Bytes} (h : Solid c)
include h

lemma Solid.not_wide (a b : UInt8) :
    isWideSpace c a b = false ∧ isWideSpace a c b = false ∧ isWideSpace a b c = false := by
  obtain ⟨hlt, -⟩ := h
  have hne : ∀ k : UInt8, 128 ≤ k → ¬ c = k := by
    rintro k hk rfl
    exact absurd hlt (UInt8.not_lt.2 hk)
  have hge : ∀ k : UInt8, 128 ≤ k → ¬ k ≤ c := fun k hk hle =>
    absurd hlt (UInt8.not_lt.2 (UInt8.le_trans hk hle))
  refine ⟨?_, ?_, ?_⟩ <;>
    simp [isWideSpace, hne 0xE1 (by decide), hne 0xE2 (by decide), hne 0xE3 (by decide),
      hne 0x9A (by decide), hne 0x80 (by decide), hne 0x81 (by decide), hne 0xA8 (by decide),
      hne 0xA9 (by decide), hne 0xAF (by decide), hne 0x9F (by decide), hge 0x80 (by decide)]

lemma Solid.not_narrow : c ≠ 0xC2 ∧ c ≠ 0x85 ∧ c ≠ 0xA0 := by
  refine ⟨?_, ?_, ?_⟩ <;> rintro rfl <;> exact absurd h (by decide)

lemma spaceLen_append_solid (u : Bytes) : spaceLen (u ++ c :: v) ≤ u.length := by
  obtain ⟨hC2, h85, hA0⟩ := h.not_narrow
  rcases u with _ | ⟨x, _ | ⟨y, _ | ⟨z, u⟩⟩⟩
  · cases v with
    | nil => simp [spaceLen, h.2]
    | cons w v => cases v <;> simp [spaceLen, h.2, hC2, h.not_wide]
  · cases v <;> simp [spaceLen, h85, hA0, h.not_wide] <;> split <;> omega
  · simp only [cons_append, nil_append, spaceLen, h.not_wide]
    grind
  · simp only [spaceLen]
    grind

lemma spaceLenBack_append_solid (u : Bytes) : spaceLenBack (u ++ c :: v) ≤ u.length := by
  obtain ⟨hC2, h85, hA0⟩ := h.not_narrow
  rcases u with _ | ⟨x, _ | ⟨y, _ | ⟨z, u⟩⟩⟩
  · cases v with
    | nil => simp [spaceLenBack, h.2]
    | cons w v => cases v <;> simp [spaceLenBack, h.2, h85, hA0, h.not_wide]
  · cases v <;> simp [spaceLenBack, hC2, h.not_wide] <;> split <;> omega
  · simp only [cons_append, nil_append, spaceLenBack, h.not_wide]
    grind
  · simp only [spaceLenBack]
    grind

lemma trimSpaceLeft_append_solid (u : Bytes) : ∃ u', trimSpaceLeft (u ++ c :: v) = u' ++ c :: v :=
  cutStart_append (spaceLen_append_solid h) _ u

lemma trimSpaceRight_append_solid (u w : Bytes) :
    ∃ w', trimSpaceRight (u ++ c :: w) = u ++ c :: w' := by
  have hrev : (u ++ c :: w).reverse = w.reverse ++ c :: u.reverse := by simp
  obtain ⟨w', hw'⟩ := cutStart_append (@spaceLenBack_append_solid c u.reverse h) (u ++ c :: w).length w.reverse
  rw [trimSpaceRight, hrev, hw']
  simp

omit h

/-- **Trimming keeps what stands between two printing characters.** -/
theorem trimUnicodeSpace_between {d : UInt8} (hc : Solid c) (hd : Solid d) (u m w : Bytes) :
    ∃ u' w', trimUnicodeSpace (u ++ c :: (m ++ d :: w)) = u' ++ c :: (m ++ d :: w') := by
  obtain ⟨u', hu'⟩ := @trimSpaceLeft_append_solid c (m ++ d :: w) hc u
  obtain ⟨w', hw'⟩ := trimSpaceRight_append_solid hd (u' ++ c :: m) w
  refine ⟨u', w', ?_⟩
  rw [trimUnicodeSpace, hu']
  simpa using hw'

end Solid

lemma trimSpaceLeft_spec (s : Bytes) : ∃ x, s = x ++ trimSpaceLeft s ∧ ∀ c ∈ x, ¬ Solid c := by
  obtain ⟨x, hx⟩ : trimSpaceLeft s <:+ s := cutStart_suffix _ _
  refine ⟨x, hx.symm, ?_⟩
  intro c hc hsolid
  obtain ⟨x1, x2, rfl⟩ := append_of_mem hc
  -- otherwise trimming would have kept the text from `c` on, which is longer than what it left
  obtain ⟨u, hu⟩ := @trimSpaceLeft_append_solid c (x2 ++ trimSpaceLeft s) hsolid x1
  rw [← cons_append, ← append_assoc, hx] at hu
  have := congrArg length hu
  simp only [length_append, length_cons] at this
  omega

lemma trimUnicodeSpace_left (s : Bytes) : trimUnicodeSpace s <+: trimSpaceLeft s := by
  rw [← reverse_suffix, trimUnicodeSpace, trimSpaceRight, reverse_reverse]
  exact cutStart_suffix _ _

lemma trimUnicodeSpace_spec (s : Bytes) :
    ∃ x y, s = x ++ trimUnicodeSpace s ++ y ∧ ∀ c ∈ x, ¬ Solid c := by
  obtain ⟨x, hx, hsolid⟩ := trimSpaceLeft_spec s
  obtain ⟨y, hy⟩ := trimUnicodeSpace_left s
  exact ⟨x, y, by rw [append_assoc, hy]; exact hx, hsolid⟩

lemma trimUnicodeSpace_eq_self {d : UInt8} (hc : Solid c) (hd : Solid d) {m : Bytes} :
    trimUnicodeSpace (c :: (m ++ [d])) = c :: (m ++ [d]) := by
  obtain ⟨u, w, huw⟩ := trimUnicodeSpace_between hc hd [] m []
  obtain ⟨x, y, hxy, -⟩ := trimUnicodeSpace_spec (c :: (m ++ [d]))
  rw [nil_append] at huw
  rw [huw] at hxy ⊢
  have hlen := congrArg length hxy
  simp only [length_append, length_cons, length_nil] at hlen
  have hu : u = [] := eq_nil_of_length_eq_zero (by omega)
  have hw : w = [] := eq_nil_of_length_eq_zero (by omega)
  simp [hu, hw]

variable {s : Bytes}

lemma len_cutStart (hnil : len [] = 0) {fuel : ℕ} (hfuel : s.length ≤ fuel) : len (cutStart len fuel s) = 0 := by
  induction fuel generalizing s with
  | zero =>
    rw [eq_nil_of_length_eq_zero (Nat.le_zero.1 hfuel)]
    exact hnil
  | succ fuel ih =>
    unfold cutStart
    split
    · assumption
    next hlen =>
    refine ih ?_
    rw [length_drop]
    omega

lemma cutStart_eq_self (h : len s = 0) (fuel : ℕ) : cutStart len fuel s = s := by
  cases fuel with
  | zero => rfl
  | succ fuel => rw [cutStart, if_pos h]

lemma spaceLen_of_append {t : Bytes} (h : spaceLen (s ++ t) = 0) : spaceLen s = 0 := by
  match s with
  | [] => rfl
  | [a] =>
    simp only [spaceLen, cons_append] at h ⊢
    split at h
    · cases h
    next ha => rw [if_neg ha]
  | [a, b] =>
    simp only [spaceLen, cons_append] at h ⊢
    split at h
    · cases h
    next ha =>
    rw [if_neg ha]
    split at h
    · cases h
    next hb => rw [if_neg hb]
  | a :: b :: c :: s => exact h

lemma trimUnicodeSpace_idem (s : Bytes) :
    trimUnicodeSpace (trimUnicodeSpace s) = trimUnicodeSpace s := by
  have hleft : spaceLen (trimSpaceLeft s) = 0 := len_cutStart rfl le_rfl
  have hright : spaceLenBack (trimUnicodeSpace s).reverse = 0 := by
    rw [trimUnicodeSpace, trimSpaceRight, reverse_reverse]
    exact len_cutStart rfl (by rw [length_reverse])
  obtain ⟨t, ht⟩ := trimUnicodeSpace_left s
  have hstart : trimSpaceLeft (trimUnicodeSpace s) = trimUnicodeSpace s :=
    cutStart_eq_self (spaceLen_of_append (ht ▸ hleft)) _
  conv_lhs => rw [trimUnicodeSpace, hstart, trimSpaceRight, cutStart_eq_self hright, reverse_reverse]

lemma trimSpaceLeft_cons_solid (hc : Solid c) : trimSpaceLeft (c :: s) = c :: s := by
  obtain ⟨u, hu⟩ := @trimSpaceLeft_append_solid c s hc []
  obtain ⟨x, hx, -⟩ := trimSpaceLeft_spec (c :: s)
  rw [nil_append] at hu
  rw [hu] at hx ⊢
  have hlen := congrArg length hx
  simp only [length_append] at hlen
  have hnil : u = [] := eq_nil_of_length_eq_zero (by omega)
  rw [hnil, nil_append]

/-! ### Reading a number back -/

theorem solid_of_isDigit (h : isDigit c) : Solid c ∧ c ≠ 45 ∧ c ≠ 43 := by
  have hall : ∀ n : Fin 256, isDigit (UInt8.ofNat n) →
      Solid (UInt8.ofNat n) ∧ UInt8.ofNat n ≠ 45 ∧ UInt8.ofNat n ≠ 43 := by
    decide +kernel
  have hc := hall ⟨c.toNat, c.toNat_lt⟩
  rw [UInt8.ofNat_toNat] at hc
  exact hc h

lemma trimSpaceLeft_itoa (n : ℕ) : trimSpaceLeft (itoa n) = itoa n := by
  obtain ⟨hdigits, hne⟩ := itoa_spec n
  obtain ⟨c, s, hs⟩ := exists_cons_of_ne_nil hne
  rw [hs] at hdigits ⊢
  exact trimSpaceLeft_cons_solid (solid_of_isDigit (hdigits c (by simp))).1

lemma scanDigits_itoa (n : ℕ) : scanDigits (itoa n) = .ok (itoa n) := by
  obtain ⟨hdigits, hne⟩ := itoa_spec n
  have htake : (itoa n).takeWhile isDigit = itoa n := takeWhile_eq_self_iff.2 hdigits
  rw [scanDigits, htake, if_neg hne, if_neg hne]

lemma scanUint64_itoa {n : ℕ} (h : n < 2 ^ 64) : scanUint64 (itoa n) = .ok n := by
  simp only [scanUint64, trimSpaceLeft_itoa, scanDigits_itoa, ok_bind, decimalValue_itoa, h, if_true]

lemma cutSign_itoa (n : ℕ) : cutSign (itoa n) = ([], itoa n) := by
  obtain ⟨hdigits, hne⟩ := itoa_spec n
  obtain ⟨c, s, hs⟩ := exists_cons_of_ne_nil hne
  rw [hs] at hdigits ⊢
  obtain ⟨-, hminus, hplus⟩ := solid_of_isDigit (hdigits c (by simp))
  unfold cutSign
  split
  · next heq => exact absurd (cons.inj heq).1 hminus
  · next heq => exact absurd (cons.inj heq).1 hplus
  · rfl

lemma scanInt_itoa {n : ℕ} (h : n < 2 ^ 63) : scanInt (itoa n) = .ok (n : ℤ) := by
  have hvalue : signedValue [] (itoa n) = n := by
    rw [signedValue, if_neg (by decide), decimalValue_itoa]
  have hin : inInt64 (n : ℤ) := by
    simp only [inInt64, Bool.and_eq_true, decide_eq_true_eq]
    omega
  rw [scanInt, trimSpaceLeft_itoa, cutSign_itoa]
  rw [scanDigits_itoa, ok_bind, hvalue, if_pos hin]

/-! ### Texts with a space inside -/

/-- A space between two printing characters: trimming does not remove it. -/
def Spaced (s : Bytes) : Prop :=
  ∃ u a m b w, Solid a ∧ Solid b ∧ 32 ∈ m ∧ s = u ++ a :: (m ++ b :: w)

section Spaced

variable {s : Bytes}

lemma Spaced.mem (h : Spaced s) : 32 ∈ s := by
  obtain ⟨u, a, m, b, w, -, -, hm, rfl⟩ := h
  simp [hm]

lemma Spaced.of_infix {t : Bytes} (h : Spaced s) (hin : s <:+: t) : Spaced t := by
  obtain ⟨u, a, m, b, w, ha, hb, hm, rfl⟩ := h
  obtain ⟨x, y, rfl⟩ := hin
  exact ⟨x ++ u, a, m, b, w ++ y, ha, hb, hm, by simp⟩

lemma Spaced.trimUnicodeSpace (h : Spaced s) : Spaced (trimUnicodeSpace s) := by
  obtain ⟨u, a, m, b, w, ha, hb, hm, rfl⟩ := h
  obtain ⟨u', w', htrim⟩ := trimUnicodeSpace_between ha hb u m w
  exact ⟨u', a, m, b, w', ha, hb, hm, htrim⟩

lemma Spaced.filter {p : UInt8 → Bool} (h : Spaced s) (hp : ∀ c, Solid c → p c)
    (hspace : p 32) : Spaced (s.filter p) := by
  obtain ⟨u, a, m, b, w, ha, hb, hm, rfl⟩ := h
  refine ⟨u.filter p, a, m.filter p, b, w.filter p, ha, hb, mem_filter.2 ⟨hm, hspace⟩, ?_⟩
  simp [hp a ha, hp b hb]

end Spaced

/-! ### The first word of a text -/

lemma spaceLen_trim (s : Bytes) : spaceLen (trimUnicodeSpace s) = 0 := by
  obtain ⟨t, ht⟩ := trimUnicodeSpace_left s
  refine spaceLen_of_append (t := t) ?_
  rw [ht]
  exact len_cutStart rfl le_rfl

lemma prefix_of_fieldsFrom {fuel : ℕ} {word s w : Bytes} {ws : List Bytes} (hword : word ≠ [])
    (h : fieldsFrom fuel word s = w :: ws) : ∃ t, w = word.reverse ++ t ∧ t <+: s := by
  have hlast : ∀ {s : Bytes}, (if word = [] then [] else [word.reverse]) = w :: ws →
      ∃ t, w = word.reverse ++ t ∧ t <+: s := by
    intro s h
    rw [if_neg hword] at h
    exact ⟨[], by rw [append_nil, (cons.inj h).1], nil_prefix⟩
  induction fuel generalizing word s with
  | zero => exact hlast h
  | succ fuel ih =>
    cases s with
    | nil => exact hlast h
    | cons c rest =>
      simp only [fieldsFrom] at h
      split at h
      · have hcons : c :: word ≠ [] := cons_ne_nil _ _
        obtain ⟨t, rfl, ht⟩ := ih hcons h fun {s} h => by
          exact ⟨[], by rw [append_nil, (cons.inj h).1], nil_prefix⟩
        refine ⟨c :: t, by simp, ?_⟩
        exact cons_prefix_cons.2 ⟨rfl, ht⟩
      · rw [if_neg hword] at h
        exact ⟨[], by rw [append_nil, (cons.inj h).1], nil_prefix⟩

lemma prefix_of_fields {s w : Bytes} {ws : List Bytes} (htrim : trimUnicodeSpace s = s)
    (h : fields s = w :: ws) : w <+: s := by
  have hspace : spaceLen s = 0 := htrim ▸ spaceLen_trim s
  cases s with
  | nil => cases h
  | cons c rest =>
    rw [fields, fieldsFrom, hspace] at h
    obtain ⟨t, rfl, ht⟩ := prefix_of_fieldsFrom (cons_ne_nil _ _) h
    exact cons_prefix_cons.2 ⟨rfl, ht⟩

end GoTor.Lib
