import GoTor.Lib.Wire

/-!
# A byte stream read message by message, with a timeout

Every message is asked for with a call that starts a reader of its own; the reader takes bytes off
the stream until they decode.  A call that times out returns without its reader, which stays at
the stream and takes bytes that belong to the messages of later calls.  `Readers.step` has all
interleavings, byte by byte.  As long as no call times out while the stream has bytes to come,
the messages returned are the first ones written (`Readers.returned_in_order`).
-/

namespace GoTor.Lib

variable {M D : Type}

structure Readers (D : Type) where
  /-- What no reader has taken yet, whether it has arrived or not. -/
  rest : Bytes
  /-- What the reader of the present call has taken. -/
  current : Bytes := []
  /-- The message of the present call, before the call returns it. -/
  ready : Option D := none
  /-- What the readers of the calls that have timed out have taken. -/
  abandoned : List Bytes := []
  returned : List D := []
  /-- There will be no further call. -/
  stopped : Bool := false
  deriving DecidableEq

inductive ReadStep
  | read
  /-- The `i`-th of the abandoned readers takes a byte. -/
  | stale (i : ℕ)
  /-- The present call returns its message, and the next one starts. -/
  | collect
  /-- The present call times out, and the next one starts. -/
  | timeout
  | stop
  deriving DecidableEq

namespace Readers

variable (decode : Bytes → Option (D × Bytes))

def step (s : Readers D) : ReadStep → Option (Readers D)
  | .read =>
    match s.rest with
    | [] => none
    | b :: rest =>
      if s.stopped || s.ready.isSome then none
      else
        match decode (s.current ++ [b]) with
        | some (d, _) => some { s with rest, current := [], ready := some d }
        | none => some { s with rest, current := s.current ++ [b] }
  | .stale i =>
    match s.rest, s.abandoned[i]? with
    | b :: rest, some buf =>
      match decode (buf ++ [b]) with
      -- the message goes to a channel that nobody reads
      | some _ => some { s with rest, abandoned := s.abandoned.eraseIdx i }
      | none => some { s with rest, abandoned := s.abandoned.set i (buf ++ [b]) }
    | _, _ => none
  | .collect =>
    match s.ready with
    | some d =>
      if s.stopped then none else some { s with ready := none, returned := s.returned ++ [d] }
    | none => none
  | .timeout =>
    if s.stopped then none
    else some { s with
      current := []
      ready := none
      -- a reader that has its message already is done
      abandoned := if s.ready.isSome then s.abandoned else s.abandoned ++ [s.current] }
  | .stop => some { s with stopped := true }

/-- No call times out while there are bytes to come. -/
def InTime (s : Readers D) : ReadStep → Prop
  | .timeout => s.rest = []
  | _ => True

instance decidableInTime (s : Readers D) : (e : ReadStep) → Decidable (s.InTime e)
  | .timeout => inferInstanceAs (Decidable (s.rest = []))
  | .read | .stale _ | .collect | .stop => isTrue trivial

end Readers

/-! ### Messages in order -/

section Messages

variable {Ok : M → Prop} {writes : M → List Bytes} {value : M → D} {decode : Bytes → Option (D × Bytes)}

/-- A reader is inside the first of the messages to come: it has taken `current`, and `rest` is
what remains. -/
inductive Within (writes : M → List Bytes) : List M → Bytes → Bytes → Prop
  | done : Within writes [] [] []
  | inside (m : M) (todo : List M) (current tail : Bytes) (htail : tail ≠ [])
      (hcut : (writes m).flatten = current ++ tail) :
      Within writes (m :: todo) current (tail ++ todo.flatMap fun m => (writes m).flatten)

open List Option Readers

lemma Framing.within (F : Framing Ok writes value decode) {todo : List M} (htodo : ∀ m ∈ todo, Ok m) :
    Within writes todo [] (todo.flatMap fun m => (writes m).flatten) := by
  cases todo with
  | nil => exact .done
  | cons m todo =>
    refine .inside m todo [] _ (fun hnil => ?_) rfl
    have hm := htodo m mem_cons_self
    have hwhole := F.whole m hm
    rw [show (writes m).flatten = [] from hnil, F.nil] at hwhole
    cases hwhole

lemma Within.read (F : Framing Ok writes value decode) {todo : List M} (htodo : ∀ m ∈ todo, Ok m)
    {current rest : Bytes} {b : UInt8} (h : Within writes todo current (b :: rest)) :
    (decode (current ++ [b]) = none ∧ Within writes todo (current ++ [b]) rest) ∨
      ∃ m todo', todo = m :: todo' ∧ decode (current ++ [b]) = some (value m, []) ∧
        rest = todo'.flatMap fun m => (writes m).flatten := by
  generalize hall : b :: rest = all at h
  cases h with
  | done => cases hall
  | inside m todo current tail htail hcut =>
    obtain ⟨b', tail, rfl⟩ := exists_cons_of_ne_nil htail
    cases hall
    have hm := htodo m mem_cons_self
    have hcut : (writes m).flatten = (current ++ [b]) ++ tail := by
      rw [hcut, append_assoc, singleton_append]
    by_cases hlast : tail = []
    · subst hlast
      rw [append_nil] at hcut
      exact .inr ⟨m, todo, rfl, hcut ▸ F.whole m hm, rfl⟩
    · exact .inl ⟨F.short hm hlast hcut, .inside m todo _ tail hlast hcut⟩

namespace Readers

/-- The messages returned, and where the present reader stands; once the stream has run dry nothing
can be returned any more but the message at hand. -/
inductive Aligned (writes : M → List Bytes) (value : M → D) (ms : List M) (s : Readers D) : Prop
  | reading (done todo : List M) (hms : ms = done ++ todo) (hret : s.returned = done.map value)
      (hready : s.ready = none) (hnone : s.abandoned = [])
      (hcur : Within writes todo s.current s.rest)
  | ready (done : List M) (m : M) (todo : List M) (hms : ms = done ++ m :: todo)
      (hret : s.returned = done.map value) (hready : s.ready = some (value m))
      (hnone : s.abandoned = []) (hcur : s.current = [])
      (hrest : s.rest = todo.flatMap fun m => (writes m).flatten)
  | ended (hret : s.returned <+: ms.map value) (hready : s.ready = none) (hrest : s.rest = [])

namespace Aligned

variable {ms : List M} {s s' : Readers D}

lemma returned_le (h : Aligned writes value ms s) : s.returned <+: ms.map value := by
  cases h with
  | reading done todo hms hret _ _ _ | ready done m todo hms hret _ _ _ _ =>
    rw [hret, hms, map_append]
    exact prefix_append _ _
  | ended hret _ _ => exact hret

lemma init (F : Framing Ok writes value decode) (hok : ∀ m ∈ ms, Ok m) :
    Aligned writes value ms { rest := ms.flatMap fun m => (writes m).flatten } :=
  .reading [] ms rfl rfl rfl rfl (F.within hok)

variable (h : Aligned writes value ms s)
include h

lemma read (F : Framing Ok writes value decode) (hok : ∀ m ∈ ms, Ok m)
    (hstep : s.step decode .read = some s') : Aligned writes value ms s' := by
  simp only [step] at hstep
  split at hstep
  · cases hstep
  next b rest hrest =>
  obtain ⟨hfree, hstep⟩ := ite_none_left_eq_some.1 hstep
  cases h with
  | ready done m todo hms hret hready _ _ _ => simp [hready] at hfree
  | ended _ _ hdry =>
    rw [hdry] at hrest
    cases hrest
  | reading done todo hms hret hready hnone hcur =>
    have htodo : ∀ m ∈ todo, Ok m := fun m hm => hok m (hms ▸ mem_append_right _ hm)
    rw [hrest] at hcur
    rcases hcur.read F htodo with ⟨hdec, hwithin⟩ | ⟨m, todo', rfl, hdec, hleft⟩
    · rw [hdec] at hstep
      cases hstep
      exact .reading done todo hms hret hready hnone hwithin
    · rw [hdec] at hstep
      cases hstep
      exact .ready done m todo' hms hret rfl hnone rfl hleft

lemma stale {i : ℕ} (hstep : s.step decode (.stale i) = some s') : Aligned writes value ms s' := by
  simp only [step] at hstep
  split at hstep
  next b rest buf hrest hbuf =>
    -- there are abandoned readers only when there are no bytes
    cases h with
    | reading _ _ _ _ _ hnone _ | ready _ _ _ _ _ _ hnone _ _ => simp [hnone] at hbuf
    | ended _ _ hdry => simp [hdry] at hrest
  · cases hstep

lemma collect (F : Framing Ok writes value decode) (hok : ∀ m ∈ ms, Ok m)
    (hstep : s.step decode .collect = some s') : Aligned writes value ms s' := by
  simp only [step] at hstep
  split at hstep
  next d hd =>
    obtain ⟨-, ⟨⟩⟩ := ite_none_left_eq_some.1 hstep
    cases h with
    | reading _ _ _ _ hready _ _ | ended _ hready _ => simp [hready] at hd
    | ready done m todo hms hret hready hnone hcur hrest =>
      obtain rfl := some.inj (hready.symm.trans hd)
      have htodo : ∀ m ∈ todo, Ok m := fun m' hm' =>
        hok m' (hms ▸ mem_append_right _ (mem_cons_of_mem _ hm'))
      refine .reading (done ++ [m]) todo (by simp [hms]) ?_ rfl hnone ?_
      · simp [hret]
      · change Within writes todo s.current s.rest
        rw [hcur, hrest]
        exact F.within htodo
  · cases hstep

lemma timeout (hdry : s.rest = []) (hstep : s.step decode .timeout = some s') : Aligned writes value ms s' := by
  obtain ⟨-, ⟨⟩⟩ := ite_none_left_eq_some.1 hstep
  exact .ended h.returned_le rfl hdry

lemma stop : Aligned writes value ms { s with stopped := true } := by
  cases h with
  | reading done todo hms hret hready hnone hcur =>
    exact .reading done todo hms hret hready hnone hcur
  | ready done m todo hms hret hready hnone hcur hrest =>
    exact .ready done m todo hms hret hready hnone hcur hrest
  | ended hret hready hrest => exact .ended hret hready hrest

lemma step (F : Framing Ok writes value decode) (hok : ∀ m ∈ ms, Ok m) {e : ReadStep}
    (htime : s.InTime e) (hstep : s.step decode e = some s') : Aligned writes value ms s' := by
  cases e with
  | read => exact h.read F hok hstep
  | stale i => exact h.stale hstep
  | collect => exact h.collect F hok hstep
  | timeout => exact h.timeout htime hstep
  | stop =>
    cases hstep
    exact h.stop

end Aligned

/-- **The messages returned are the first ones written**, in their order, in every run in which no
call times out while there are bytes to come. -/
theorem returned_in_order (F : Framing Ok writes value decode) {ms : List M}
    (hok : ∀ m ∈ ms, Ok m) {es : List ReadStep} {s : Readers D}
    (htime : RunMeets (step decode) InTime
      { rest := ms.flatMap fun m => (writes m).flatten } es)
    (hrun : run (step decode) { rest := ms.flatMap fun m => (writes m).flatten } es = some s) :
    s.returned <+: ms.map value := by
  have haligned : Aligned writes value ms s :=
    run_inv (fun _ _ _ h htime hstep => h.step F hok htime hstep) (Aligned.init F hok) htime hrun
  exact haligned.returned_le

end Readers

end Messages

end GoTor.Lib
