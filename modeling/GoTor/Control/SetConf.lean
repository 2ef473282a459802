import GoTor.Lib.Run
import GoTor.Lib.Scan

/-!
# `SETCONF`

The assignments of a `SETCONF` are applied one at a time, each as soon as it is read.  The
configuration belongs to the client, which takes an assignment or refuses it.
-/

namespace GoTor.Control

open GoTor.Lib

variable {σ : Type*} (setConfigValue : σ → (key value : Bytes) → Except String σ)

/-- The body of the loop of `handleSetConf`.  An error is the code and the text of a reply. -/
def setOne (conf : σ) (arg : Bytes) : Except (ℕ × String) σ :=
  if 61 ∉ arg then .error (552, s!"Invalid argument: {showBytes arg}")
  else
    let key := trimUnicodeSpace (cutBefore 61 arg)
    let value := trimUnicodeSpace (cutAfter 61 arg)
    (setConfigValue conf key value).mapError fun err =>
      (553, s!"Failed to set {showBytes key}: {err}")

def setAll (conf : σ) : List Bytes → (ℕ × String) × σ
  | [] => ((250, "OK"), conf)
  | arg :: args =>
    match setOne setConfigValue conf arg with
    | .error reply => (reply, conf)
    | .ok conf' => setAll conf' args

/-- Without a configuration the command is acknowledged and nothing is set. -/
def handleSetConf (authenticated : Bool) (args : List Bytes)
    (configProvider : Option (σ → Bytes → Bytes → Except String σ)) (conf : σ) :
    (ℕ × String) × σ :=
  if !authenticated then ((514, "Authentication required"), conf)
  else if args.length = 0 then ((552, "Missing argument"), conf)
  else match configProvider with
    | none => ((250, "OK"), conf)
    | some setConfigValue => setAll setConfigValue conf args

/-- What one assignment makes of the configuration, if it is taken. -/
def assign (conf : σ) (arg : Bytes) : Option σ := (setOne setConfigValue conf arg).toOption

/-- The assignments before the first that is malformed or refused, taken together, leave the
configuration as it was. -/
def NothingBeforeFailure (conf : σ) (args : List Bytes) : Prop :=
  ∀ before arg after conf', args = before ++ arg :: after → run (assign setConfigValue) conf before = some conf' →
    assign setConfigValue conf' arg = none → conf' = conf

/-- A reply with an error leaves the configuration as it was; a 250 says that every assignment
has been made. -/
def AllOrNothing (conf : σ) (args : List Bytes) (r : (ℕ × String) × σ) : Prop :=
  (r.1.1 ≠ 250 → r.2 = conf) ∧ (r.1.1 = 250 → run (assign setConfigValue) conf args = some r.2)

variable {setConfigValue}

section

variable {conf conf' : σ}

lemma setAll_append {before : List Bytes} (h : run (assign setConfigValue) conf before = some conf')
    (args : List Bytes) :
    setAll setConfigValue conf (before ++ args) = setAll setConfigValue conf' args := by
  induction before generalizing conf with
  | nil => cases h; rfl
  | cons arg before ih =>
    obtain ⟨conf1, hassign, hrun⟩ := run_cons_eq_some.1 h
    cases hset : setOne setConfigValue conf arg <;> rw [assign, hset] at hassign <;> cases hassign
    rw [List.cons_append, setAll, hset]
    exact ih hrun

lemma setAll_cons {arg : Bytes} (h : assign setConfigValue conf arg = none) (args : List Bytes) :
    ∃ reply : ℕ × String,
      reply.1 ≠ 250 ∧ setAll setConfigValue conf (arg :: args) = (reply, conf) := by
  cases hset : setOne setConfigValue conf arg with
  | ok conf' => rw [assign, hset] at h; cases h
  | error reply =>
    refine ⟨reply, ?_, by rw [setAll, hset]⟩
    unfold setOne at hset
    split at hset
    · cases hset
      nofun
    dsimp only at hset
    generalize setConfigValue conf _ _ = r at hset
    cases r <;> cases hset
    nofun

lemma allOrNothing_setAll (args : List Bytes) :
    AllOrNothing setConfigValue conf args (setAll setConfigValue conf args) ↔
      NothingBeforeFailure setConfigValue conf args := by
  constructor
  · rintro ⟨herror, -⟩ before arg after conf' rfl hbefore hfail
    obtain ⟨reply, hreply, hset⟩ := setAll_cons hfail after
    rw [setAll_append hbefore, hset] at herror
    exact herror hreply
  intro h
  cases hrun : run (assign setConfigValue) conf args with
  | some conf' =>
    have hset := setAll_append hrun []
    rw [List.append_nil] at hset
    rw [AllOrNothing, hset, hrun]
    exact ⟨fun hne => absurd rfl hne, fun _ => rfl⟩
  | none =>
    obtain ⟨before, arg, after, conf', rfl, hbefore, hfail⟩ := exists_of_run_eq_none hrun
    obtain ⟨reply, hreply, hset⟩ := setAll_cons hfail after
    rw [setAll_append hbefore, hset]
    exact ⟨fun _ => h before arg after conf' rfl hbefore hfail, fun heq => absurd heq hreply⟩

end

/-- **When `SETCONF` is all or nothing.**  It is if and only if the assignments before the first
one that is malformed or refused change nothing. -/
theorem setconf_all_or_nothing_iff (authenticated : Bool) (args : List Bytes)
    (setConfigValue : σ → Bytes → Bytes → Except String σ) (conf : σ) :
    AllOrNothing setConfigValue conf args
        (handleSetConf authenticated args (some setConfigValue) conf) ↔
      (authenticated = true → NothingBeforeFailure setConfigValue conf args) := by
  unfold handleSetConf
  cases authenticated with
  | false => simp [AllOrNothing]
  | true =>
    cases args with
    | nil => simp [AllOrNothing, NothingBeforeFailure]
    | cons arg args => simpa using allOrNothing_setAll (arg :: args)

/-- The second assignment is refused, and the first one stays. -/
theorem refused_setconf_changes : ∃ set : Bytes → Bytes → Bytes → Except String Bytes,
    let r := handleSetConf true [ascii "a=1", ascii "b=2"] (some set) []
    r = ((553, "Failed to set b: unknown"), ascii "1") ∧ ¬ AllOrNothing set [] [ascii "a=1", ascii "b=2"] r := by
  refine ⟨fun _ key value => if key = ascii "a" then .ok value else .error "unknown", ?_, ?_⟩
  · decide +kernel
  · exact fun h => absurd (h.1 (by decide +kernel)) (by decide +kernel)

end GoTor.Control
