import GoTor.Lib.Bytes

/-!
# Numbers, bytes and addresses as text

The decimal form of a number and the hexadecimal form of a byte string, each with the value
that is read back from it; so neither form is that of two values.  In an address `host:port` the
port follows the last colon, and a host that holds a colon stands in brackets.
-/

namespace GoTor.Lib

/-! ### Decimal numbers -/

/-- The decimal digits of a number below `10 ^ fuel`. -/
def decimalDigits : (fuel n : ℕ) → Bytes
  | 0, _ => []
  | fuel + 1, n =>
    if n < 10 then [UInt8.ofNat (48 + n)]
    else decimalDigits fuel (n / 10) ++ [UInt8.ofNat (48 + n % 10)]

def itoa (n : ℕ) : Bytes := decimalDigits (n + 1) n

/-- Horner's rule on decimal digits. -/
def decimalValue (b : Bytes) : ℕ := b.foldl (fun v d => 10 * v + (d.toNat - 48)) 0

@[simp] lemma decimalValue_append (b : Bytes) (d : UInt8) :
    decimalValue (b ++ [d]) = 10 * decimalValue b + (d.toNat - 48) := by
  simp [decimalValue]

variable {n : ℕ}

lemma toNat_digit (h : n < 10) : (UInt8.ofNat (48 + n)).toNat = 48 + n := by
  rw [UInt8.toNat_ofNat']
  omega

lemma decimalValue_decimalDigits {fuel : ℕ} (h : n < fuel) : decimalValue (decimalDigits fuel n) = n := by
  induction fuel generalizing n with
  | zero => omega
  | succ fuel ih =>
    unfold decimalDigits
    split
    · next hn =>
      have := decimalValue_append [] (UInt8.ofNat (48 + n))
      rw [toNat_digit hn] at this
      simpa [decimalValue] using this
    · next hn =>
      rw [decimalValue_append, ih (by omega), toNat_digit (Nat.mod_lt n (by omega))]
      omega

lemma decimalValue_itoa (n : ℕ) : decimalValue (itoa n) = n :=
  decimalValue_decimalDigits (Nat.lt_succ_self n)

lemma itoa_injective : Function.Injective itoa := by
  intro m n h
  rw [← decimalValue_itoa m, h, decimalValue_itoa]

def isDigit (c : UInt8) : Bool := 48 ≤ c && c ≤ 57

lemma isDigit_ofNat (h : n < 10) : isDigit (UInt8.ofNat (48 + n)) := by
  have hn := toNat_digit h
  simp only [isDigit, Bool.and_eq_true, decide_eq_true_eq, UInt8.le_iff_toNat_le]
  constructor
  · change 48 ≤ _
    omega
  · change _ ≤ 57
    omega

lemma itoa_spec (n : ℕ) : (∀ c ∈ itoa n, isDigit c) ∧ itoa n ≠ [] := by
  have hdigits : ∀ fuel n, ∀ c ∈ decimalDigits fuel n, isDigit c := by
    intro fuel
    induction fuel with
    | zero => simp [decimalDigits]
    | succ fuel ih =>
      intro n
      unfold decimalDigits
      split
      · next hn => simpa using isDigit_ofNat hn
      · simp only [List.mem_append, List.mem_singleton]
        rintro c (hc | rfl)
        · exact ih _ c hc
        · exact isDigit_ofNat (Nat.mod_lt n (by omega))
  refine ⟨hdigits _ _, ?_⟩
  unfold itoa decimalDigits
  split <;> simp

/-! ### Hexadecimal bytes -/

def hexDigit (n : UInt8) : UInt8 := if n < 10 then 48 + n else 87 + n

/-- `hex.EncodeToString`. -/
def hexEncode (b : Bytes) : Bytes := b.flatMap fun x => [hexDigit (x / 16), hexDigit (x % 16)]

lemma hexDigit_inj {m n : UInt8} (hm : m < 16) (hn : n < 16) (h : hexDigit m = hexDigit n) : m = n := by
  have hnum : ∀ d : UInt8, d < 16 →
      (hexDigit d).toNat = if d.toNat < 10 then 48 + d.toNat else 87 + d.toNat := by
    intro d hd
    have hd' : d.toNat < 16 := UInt8.lt_iff_toNat_lt.1 hd
    simp only [hexDigit, UInt8.lt_iff_toNat_lt, UInt8.reduceToNat]
    split <;> rw [UInt8.toNat_add] <;> simp only [UInt8.reduceToNat] <;> omega
  have hval := congrArg UInt8.toNat h
  rw [hnum m hm, hnum n hn] at hval
  rw [← UInt8.toNat_inj]
  split at hval <;> split at hval <;> omega

lemma hexEncode_injective : Function.Injective hexEncode := by
  intro a b h
  induction a generalizing b with
  | nil =>
    cases b with
    | nil => rfl
    | cons y b => simp [hexEncode] at h
  | cons x a ih =>
    cases b with
    | nil => simp [hexEncode] at h
    | cons y b =>
      simp only [hexEncode, List.flatMap_cons, List.cons_append, List.cons.injEq] at h
      obtain ⟨hhi, hlo, hrest⟩ := h
      have hlt : ∀ z : UInt8, z / 16 < 16 ∧ z % 16 < 16 := by
        intro z
        have := z.toNat_lt
        simp only [UInt8.lt_iff_toNat_lt, UInt8.toNat_div, UInt8.toNat_mod, UInt8.reduceToNat]
        omega
      have hdiv := hexDigit_inj (hlt x).1 (hlt y).1 hhi
      have hmod := hexDigit_inj (hlt x).2 (hlt y).2 hlo
      have hxy : x = y := by
        rw [← UInt8.toNat_inj] at hdiv
        rw [← UInt8.toNat_inj] at hmod
        rw [← UInt8.toNat_inj, ← Nat.div_add_mod x.toNat 16, ← Nat.div_add_mod y.toNat 16]
        exact congrArg₂ (fun q r => 16 * q + r) hdiv hmod
      rw [hxy, ih hrest]

/-! ### Network addresses -/

/-- The index of the last occurrence of a byte. -/
def lastIndexByte (b : Bytes) (x : UInt8) : Option ℕ :=
  (b.reverse.idxOf? x).map fun i => b.length - 1 - i

namespace HostPort

def colon : UInt8 := 58
def leftBracket : UInt8 := 91
def rightBracket : UInt8 := 93

end HostPort

open HostPort

/-- The host part of an address whose last colon is at `i`, and the offsets behind which no
bracket may follow. -/
def splitHost (hostport : Bytes) (i : ℕ) : Except String (Bytes × ℕ × ℕ) :=
  if hostport.head? = some leftBracket then
    match hostport.idxOf? rightBracket with
    | none => .error "missing ']' in address"
    | some stop =>
      if stop + 1 = hostport.length then .error "missing port in address"
      else if stop + 1 = i then .ok (slice hostport 1 stop, 1, stop + 1)
      else if hostport[stop + 1]? = some colon then .error "too many colons in address"
      else .error "missing port in address"
  else if colon ∈ hostport.take i then .error "too many colons in address"
  else .ok (hostport.take i, 0, 0)

/-- `net.SplitHostPort`, with the reason for which an address is refused. -/
def splitHostPort (hostport : Bytes) : Except String (Bytes × Bytes) :=
  match lastIndexByte hostport colon with
  | none => .error "missing port in address"
  | some i => do
    let (host, j, k) ← splitHost hostport i
    if leftBracket ∈ hostport.drop j then .error "unexpected '[' in address"
    else if rightBracket ∈ hostport.drop k then .error "unexpected ']' in address"
    else return (host, hostport.drop (i + 1))

def joinHostPort (host port : Bytes) : Bytes :=
  if colon ∈ host then leftBracket :: host ++ [rightBracket, colon] ++ port
  else host ++ colon :: port

end GoTor.Lib
