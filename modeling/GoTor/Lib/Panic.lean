import GoTor.Lib.Bytes
import GoTor.Lib.Result

/-!
# Code that may panic

A call ends with a result, with an error, or in a panic: an index or a slice bound was out of
range.  `Res` is the type of such calls; `GoM σ` that of calls that also change a state, which
stays changed when the call fails.  `Keeps` is the rule for them: no panic, and an invariant
of the state holds after success and after failure.
-/

namespace GoTor.Lib

/-- How a call may end other than with a result. -/
inductive Fault
  | err (msg : String)
  | panic
  deriving DecidableEq

abbrev Res := Except Fault

namespace Res

variable {α β : Type}

def err (msg : String) : Res α := .error (.err msg)

def ofExcept : Except String α → Res α
  | .ok a => .ok a
  | .error msg => err msg

/-- `fmt.Errorf("label: %w", err)` around a call. -/
def wrap (label : String) : Res α → Res α
  | .error (.err msg) => err s!"{label}: {msg}"
  | r => r

def Safe (x : Res α) : Prop := x ≠ .error .panic

lemma safe_ok {a : α} : Safe (.ok a) := nofun

lemma safe_pure {a : α} : Safe (pure a) := nofun

lemma safe_err {msg : String} : Safe (err msg : Res α) := nofun

lemma safe_ofExcept {x : Except String α} : Safe (ofExcept x) := by
  cases x with
  | error msg => exact safe_err
  | ok a => exact safe_ok

lemma of_ofExcept_eq_ok {x : Except String α} {a : α} (h : ofExcept x = .ok a) : x = .ok a := by
  cases x with
  | error msg => cases h
  | ok b =>
    cases h
    rfl

lemma Safe.bind {x : Res α} {f : α → Res β} (hx : x.Safe) (hf : ∀ a, x = .ok a → (f a).Safe) : (x >>= f).Safe := by
  cases x with
  | error e => exact fun h => hx (by cases h; rfl)
  | ok a => exact hf a rfl

lemma Safe.wrap {x : Res α} (hx : x.Safe) (label : String) : (x.wrap label).Safe := by
  cases x with
  | error e =>
    cases e with
    | err msg => exact safe_err
    | panic => exact absurd rfl hx
  | ok a => exact safe_ok

lemma Safe.guard {c : Prop} [Decidable c] {msg : String} {x : Res α} (hx : ¬ c → x.Safe) :
    Safe (if c then err msg else x) := by
  split
  next => exact safe_err
  next hc => exact hx hc

lemma ite_err_eq_ok {c : Prop} [Decidable c] {msg : String} {x : Res α} {a : α} :
    (if c then err msg else x) = .ok a ↔ ¬ c ∧ x = .ok a := ite_error_eq_ok

lemma of_wrap_eq_ok {x : Res α} {label : String} {a : α} (h : x.wrap label = .ok a) : x = .ok a := by
  cases x with
  | error e => cases e <;> cases h
  | ok b => exact h

end Res

/-! ### Checked access -/

/-- `b[lo:hi]`, which panics unless `lo ≤ hi ≤ len(b)`. -/
def sliceOf (b : Bytes) (lo hi : ℕ) : Res Bytes :=
  if lo ≤ hi ∧ hi ≤ b.length then .ok (slice b lo hi) else .error .panic

/-- `b[i]`, which panics unless `i < len(b)`. -/
def indexOf (b : Bytes) (i : ℕ) : Res UInt8 :=
  match b[i]? with
  | some x => .ok x
  | none => .error .panic

section Access

variable {b : Bytes} {lo hi i : ℕ}

lemma sliceOf_eq_ok (h : lo ≤ hi) (hb : hi ≤ b.length) : sliceOf b lo hi = .ok (slice b lo hi) :=
  if_pos ⟨h, hb⟩

lemma of_sliceOf_eq_ok {c : Bytes} (h : sliceOf b lo hi = .ok c) : (lo ≤ hi ∧ hi ≤ b.length) ∧ c = slice b lo hi := by
  unfold sliceOf at h
  split at h
  next hbounds =>
    cases h
    exact ⟨hbounds, rfl⟩
  next => cases h

lemma sliceOf_safe (h : lo ≤ hi) (hb : hi ≤ b.length) : (sliceOf b lo hi).Safe := by
  rw [sliceOf_eq_ok h hb]
  exact Res.safe_ok

lemma indexOf_eq_ok (h : i < b.length) : indexOf b i = .ok b[i] := by
  rw [indexOf, List.getElem?_eq_getElem h]

lemma indexOf_safe (h : i < b.length) : (indexOf b i).Safe := by
  rw [indexOf_eq_ok h]
  exact Res.safe_ok

end Access

/-! ### Calls with a state -/

/-- A call that may fail and changes a state of type `σ`. -/
abbrev GoM (σ α : Type) := EStateM Fault σ α

namespace GoM

variable {σ α β : Type} {I : σ → Prop}

def lift (x : Res α) : GoM σ α := fun s =>
  match x with
  | .ok a => .ok a s
  | .error e => .error e s

lemma lift_eq_ok {x : Res α} {a : α} {s s' : σ} :
    (lift x : GoM σ α) s = .ok a s' ↔ x = .ok a ∧ s = s' := by
  cases x with
  | error e | ok b => simp [lift]

/-- Run `x`, and whatever it ends with, apply `f` to the state (`defer`). -/
def deferring (f : σ → σ) (x : GoM σ α) : GoM σ α := fun s =>
  match x s with
  | .ok a s' => .ok a (f s')
  | .error e s' => .error e (f s')

/-- The call has not panicked, and the state it leaves is in `I`. -/
def Ends (I : σ → Prop) : EStateM.Result Fault σ α → Prop
  | .ok _ s => I s
  | .error (.err _) s => I s
  | .error .panic _ => False

/-- The call does not panic, and keeps `I` whether it succeeds or fails. -/
def Keeps (I : σ → Prop) (x : GoM σ α) : Prop := ∀ s, I s → Ends I (x s)

lemma keeps_pure {a : α} : Keeps I (pure a : GoM σ α) := fun _ h => h

lemma keeps_get : Keeps I (get : GoM σ σ) := fun _ h => h

lemma keeps_modify {f : σ → σ} (hf : ∀ s, I s → I (f s)) : Keeps I (modify f : GoM σ Unit) :=
  fun s h => hf s h

lemma keeps_err {msg : String} : Keeps I (throw (.err msg) : GoM σ α) := fun _ h => h

lemma keeps_lift {x : Res α} (hx : x.Safe) : Keeps I (lift x : GoM σ α) := by
  intro s h
  cases x with
  | ok a => exact h
  | error e =>
    cases e with
    | err msg => exact h
    | panic => exact absurd rfl hx

lemma Keeps.bind {x : GoM σ α} {f : α → GoM σ β} (hx : Keeps I x) (hf : ∀ a, Keeps I (f a)) : Keeps I (x >>= f) := by
  intro s h
  have hxs := hx s h
  show Ends I (EStateM.bind x f s)
  unfold EStateM.bind
  generalize x s = r at hxs
  cases r with
  | ok a s' => exact hf a s' hxs
  | error e s' =>
    cases e with
    | err msg | panic => exact hxs

end GoM

end GoTor.Lib
