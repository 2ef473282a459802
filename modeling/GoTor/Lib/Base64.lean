import GoTor.Lib.Bytes

/-!
# Base64

The standard base64 alphabet. A text is read in quanta of four letters, each of them six bits;
the last quantum may be short. Decoding what was encoded gives the bytes back.
-/

namespace GoTor.Lib

open Option List

def base64Letter (v : ℕ) : UInt8 :=
  if v < 26 then UInt8.ofNat (65 + v)
  else if v < 52 then UInt8.ofNat (71 + v)
  else if v < 62 then UInt8.ofNat (v - 4)
  else if v = 62 then 43
  else 47

def base64Value (c : UInt8) : Option ℕ :=
  if 65 ≤ c ∧ c ≤ 90 then some (c.toNat - 65)
  else if 97 ≤ c ∧ c ≤ 122 then some (c.toNat - 71)
  else if 48 ≤ c ∧ c ≤ 57 then some (c.toNat + 4)
  else if c = 43 then some 62
  else if c = 47 then some 63
  else none

/-- `base64.RawStdEncoding.EncodeToString`. -/
def encodeRawStd : Bytes → Bytes
  | [] => []
  | [x] =>
    let n := x.toNat * 16
    [base64Letter (n / 64), base64Letter (n % 64)]
  | [x, y] =>
    let n := (x.toNat * 256 + y.toNat) * 4
    [base64Letter (n / 4096), base64Letter (n / 64 % 64), base64Letter (n % 64)]
  | x :: y :: z :: rest =>
    let n := x.toNat * 65536 + y.toNat * 256 + z.toNat
    base64Letter (n / 262144) :: base64Letter (n / 4096 % 64) :: base64Letter (n / 64 % 64) ::
      base64Letter (n % 64) :: encodeRawStd rest

/-- The bytes of a text without line ends, the last quantum being short where it is. The bits of
a short quantum that make no byte are dropped unread. -/
def decodeQuanta : Bytes → Option Bytes
  | [] => some []
  | [_] => none
  | [a, b] => do
    let n := (← base64Value a) * 64 + (← base64Value b)
    some [UInt8.ofNat (n / 16)]
  | [a, b, c] => do
    let n := (← base64Value a) * 4096 + (← base64Value b) * 64 + (← base64Value c)
    some [UInt8.ofNat (n / 1024), UInt8.ofNat (n / 4)]
  | a :: b :: c :: d :: rest => do
    let n := (← base64Value a) * 262144 + (← base64Value b) * 4096 + (← base64Value c) * 64 + (← base64Value d)
    let tail ← decodeQuanta rest
    some (UInt8.ofNat (n / 65536) :: UInt8.ofNat (n / 256) :: UInt8.ofNat n :: tail)

/-- `base64.RawStdEncoding.DecodeString`: line ends are skipped wherever they stand. -/
def decodeRawStd (s : Bytes) : Option Bytes := decodeQuanta (s.filter fun c => c ≠ 10 ∧ c ≠ 13)

def unpad (s : Bytes) : Bytes :=
  if [61, 61] <:+ s then s.take (s.length - 2)
  else if [61] <:+ s then s.take (s.length - 1)
  else s

/-- `base64.StdEncoding.DecodeString`: the last quantum is filled up with `=`. -/
def decodeStd (s : Bytes) : Option Bytes :=
  let letters := s.filter fun c => c ≠ 10 ∧ c ≠ 13
  if letters.length % 4 ≠ 0 then none else decodeQuanta (unpad letters)

/-! ### The alphabet -/

variable {v : ℕ} {b : Bytes}

lemma base64Value_letter (h : v < 64) : base64Value (base64Letter v) = some v := by
  revert v
  decide

lemma base64Letter_clean (h : v < 64) : base64Letter v ∉ ([10, 13, 45, 46] : Bytes) := by
  revert v
  decide

lemma base64Letter_ne_slash (h : v < 63) : base64Letter v ≠ 47 := by
  revert v
  decide

/-! ### What is decoded has only letters -/

variable {s : Bytes}

lemma base64Value_of_decodeQuanta (h : decodeQuanta s = some b) : ∀ c ∈ s, base64Value c ≠ none := by
  induction s using decodeQuanta.induct generalizing b with
  | case1 => simp
  | case2 a => simp [decodeQuanta] at h
  | case3 a b' =>
    simp only [decodeQuanta, bind_eq_bind, bind_eq_some_iff] at h
    obtain ⟨x, hx, y, hy, -⟩ := h
    simp [hx, hy]
  | case4 a b' c =>
    simp only [decodeQuanta, bind_eq_bind, bind_eq_some_iff] at h
    obtain ⟨x, hx, y, hy, z, hz, -⟩ := h
    simp [hx, hy, hz]
  | case5 a b' c d rest ih =>
    simp only [decodeQuanta, bind_eq_bind, bind_eq_some_iff] at h
    obtain ⟨x, hx, y, hy, z, hz, w, hw, tail, htail, -⟩ := h
    simp only [forall_mem_cons]
    exact ⟨by simp [hx], by simp [hy], by simp [hz], by simp [hw], ih htail⟩

lemma mem_unpad {c : UInt8} (h : c ∈ s) (hc : c ≠ 61) : c ∈ unpad s := by
  unfold unpad
  split
  · next hsuf =>
    obtain ⟨init, rfl⟩ := hsuf
    simpa [hc] using h
  · split
    · next hsuf =>
      obtain ⟨init, rfl⟩ := hsuf
      simpa [hc] using h
    · exact h

lemma decodeStd_of_space (h : 32 ∈ s) : decodeStd s = none := by
  have hletter : 32 ∈ unpad (s.filter fun c => c ≠ 10 ∧ c ≠ 13) :=
    mem_unpad (mem_filter.2 ⟨h, by decide⟩) (by decide)
  simp only [decodeStd]
  split
  · rfl
  · cases hdec : decodeQuanta (unpad (s.filter fun c => c ≠ 10 ∧ c ≠ 13)) with
    | none => rfl
    | some b => exact absurd (by decide) (base64Value_of_decodeQuanta hdec _ hletter)

lemma decodeRawStd_of_space (h : 32 ∈ s) : decodeRawStd s = none := by
  unfold decodeRawStd
  cases hdec : decodeQuanta (s.filter fun c => c ≠ 10 ∧ c ≠ 13) with
  | none => rfl
  | some b =>
    exact absurd (by decide)
      (base64Value_of_decodeQuanta hdec 32 (mem_filter.2 ⟨h, by decide⟩))

/-! ### Round trip -/

lemma ofNat_eq_of_mod {x : UInt8} {n : ℕ} (h : n % 256 = x.toNat) : UInt8.ofNat n = x := by
  rw [← UInt8.toNat_inj]
  exact h

lemma decodeQuanta_encodeRawStd (b : Bytes) : decodeQuanta (encodeRawStd b) = some b := by
  induction b using encodeRawStd.induct with
  | case1 => rfl
  | case2 x =>
    have hx := x.toNat_lt
    simp only [encodeRawStd, decodeQuanta]
    rw [base64Value_letter (by omega), base64Value_letter (by omega)]
    have hbyte : UInt8.ofNat ((x.toNat * 16 / 64 * 64 + x.toNat * 16 % 64) / 16) = x :=
      ofNat_eq_of_mod (by omega)
    simp [hbyte]
  | case3 x y =>
    have hx := x.toNat_lt
    have hy := y.toNat_lt
    simp only [encodeRawStd, decodeQuanta]
    rw [base64Value_letter (by omega), base64Value_letter (by omega), base64Value_letter (by omega)]
    simp only [bind_eq_bind, bind_some, some.injEq, cons.injEq, and_true]
    exact ⟨ofNat_eq_of_mod (by omega), ofNat_eq_of_mod (by omega)⟩
  | case4 x y z rest ih =>
    have hx := x.toNat_lt
    have hy := y.toNat_lt
    have hz := z.toNat_lt
    simp only [encodeRawStd, decodeQuanta]
    rw [base64Value_letter (by omega), base64Value_letter (by omega),
      base64Value_letter (by omega), base64Value_letter (by omega), ih]
    simp only [bind_eq_bind, bind_some, some.injEq, cons.injEq, and_true]
    exact ⟨ofNat_eq_of_mod (by omega), ofNat_eq_of_mod (by omega), ofNat_eq_of_mod (by omega)⟩

lemma mem_encodeRawStd {c : UInt8} (h : c ∈ encodeRawStd b) : ∃ v < 64, c = base64Letter v := by
  induction b using encodeRawStd.induct with
  | case1 => simp [encodeRawStd] at h
  | case2 x =>
    have hx := x.toNat_lt
    simp only [encodeRawStd, mem_cons, not_mem_nil, or_false] at h
    rcases h with rfl | rfl <;> exact ⟨_, by omega, rfl⟩
  | case3 x y =>
    have hx := x.toNat_lt
    have hy := y.toNat_lt
    simp only [encodeRawStd, mem_cons, not_mem_nil, or_false] at h
    rcases h with rfl | rfl | rfl <;> exact ⟨_, by omega, rfl⟩
  | case4 x y z rest ih =>
    have hx := x.toNat_lt
    have hy := y.toNat_lt
    have hz := z.toNat_lt
    simp only [encodeRawStd, mem_cons] at h
    rcases h with rfl | rfl | rfl | rfl | h
    · exact ⟨_, by omega, rfl⟩
    · exact ⟨_, by omega, rfl⟩
    · exact ⟨_, by omega, rfl⟩
    · exact ⟨_, by omega, rfl⟩
    · exact ih h

/-- **What was encoded is decoded.** -/
theorem decodeRawStd_encodeRawStd (b : Bytes) : decodeRawStd (encodeRawStd b) = some b := by
  have hclean : (encodeRawStd b).filter (fun c => c ≠ 10 ∧ c ≠ 13) = encodeRawStd b := by
    rw [filter_eq_self]
    intro c hc
    obtain ⟨v, hv, rfl⟩ := mem_encodeRawStd hc
    have hne := base64Letter_clean hv
    simp only [mem_cons, not_or] at hne
    simp [hne.1, hne.2.1]
  rw [decodeRawStd, hclean, decodeQuanta_encodeRawStd]

lemma getLast?_encodeRawStd (h : b.length % 3 ≠ 0) : ∃ v < 63, (encodeRawStd b).getLast? = some (base64Letter v) := by
  induction b using encodeRawStd.induct with
  | case1 => simp at h
  | case2 x => exact ⟨x.toNat * 16 % 64, by omega, rfl⟩
  | case3 x y => exact ⟨(x.toNat * 256 + y.toNat) * 4 % 64, by omega, rfl⟩
  | case4 x y z rest ih =>
    have hrest : rest.length % 3 ≠ 0 := by
      simp only [length_cons] at h
      omega
    obtain ⟨v, hv, hlast⟩ := ih hrest
    refine ⟨v, hv, ?_⟩
    simp only [encodeRawStd, getLast?_cons, hlast, getD_some]

lemma length_encodeRawStd (b : Bytes) : (encodeRawStd b).length = (b.length * 4 + 2) / 3 := by
  induction b using encodeRawStd.induct with
  | case1 => rfl
  | case2 x | case3 x y => simp [encodeRawStd]
  | case4 x y z rest ih =>
    simp only [encodeRawStd, length_cons]
    omega

end GoTor.Lib
