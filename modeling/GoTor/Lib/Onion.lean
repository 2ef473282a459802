import Mathlib.Data.List.Basic

/-!
# Onion layers over first-in first-out links

A chain of relays, each holding one *layer* state; the party at the other end holds a copy of
every one of them.  In one direction of the chain a sender puts layers on and a receiver takes
them off, and every cell moves the states of both on.  This file says what the two sides must
have in common (`Layer`) and proves that they stay in step when the cells travel through
queues, for the two ways a chain is used:

* **outbound**: one client puts on all the layers at once, and the relays take them off one
  after the other, much later (`flush_send`, `flush_peelAt`);
* **inbound**: each relay puts its own layer on as a cell passes, and the client takes them
  all off at the end (`drain_receive`, `drain_wrapAt`, `drain_originateAt`).

Both arguments look at what would happen if the queues now ran empty.  Outbound, letting the
relays work off their queues would lead each relay to the state the client already has
(`flush`).  Inbound, letting the client work off all cells in flight would lead each of its
layers to the state its relay already has (`drain`).  A step of a relay or of the client
only does a part of that work earlier, so the outcome does not change.
-/

namespace GoTor.Lib

open List Option

/-- One layer of an onion, in one direction: states `S`, associated data `A`, cells `C` and
tags `T`.  The sender's operations are `pass` (the cell goes to a party further out) and
`orig` (it goes to this layer's party); the receiver's is `recv`, which answers with a tag
when it takes the cell to be its own. -/
structure Layer (S A C T : Type) where
  pass : S → A → C → S × C
  orig : S → A → C → S × C × T
  recv : S → A → C → S × C × Option T
  /-- The cells the operations are meant for. -/
  Ok : C → Prop
  /-- The cells that may be originated. -/
  Plain : S → C → Prop
  /-- The cell as its party gets to see it. -/
  stamp : S → C → C
  /-- The passing cell happens to look like one for this layer's party. -/
  Looks : S → C → Prop
  pass_ok : ∀ s a c, Ok c → Ok (pass s a c).2
  orig_ok : ∀ s a c, Plain s c → Ok (orig s a c).2.1
  recv_ok : ∀ s a c, Ok c → Ok (recv s a c).2.1
  recv_pass : ∀ s a c, Ok c → ¬ Looks s c → recv s a (pass s a c).2 = ((pass s a c).1, c, none)
  recv_orig : ∀ s a c, Plain s c →
    recv s a (orig s a c).2.1 = ((orig s a c).1, stamp s c, some (orig s a c).2.2)

namespace Layer

variable {S A C T : Type} (Λ : Layer S A C T)

/-! ### Outbound: one sender, a chain of receivers -/

/-- The client's onion for hop `d`: the innermost layer is that of `d`. -/
def encrypt (a : A) (c : C) : List S → ℕ → Option (List S × C × T)
  | [], _ => none
  | s :: ss, 0 => some ((Λ.orig s a c).1 :: ss, (Λ.orig s a c).2.1, (Λ.orig s a c).2.2)
  | s :: ss, d + 1 => (encrypt a c ss d).map fun r =>
      ((Λ.pass s a r.2.1).1 :: r.1, (Λ.pass s a r.2.1).2, r.2.2)

/-- No layer the cell passes on its way to hop `d` takes it for its own. -/
def Unmistaken (a : A) (c : C) : List S → ℕ → Prop
  | [], _ => True
  | _ :: _, 0 => True
  | s :: ss, d + 1 => (∀ r, encrypt Λ a c ss d = some r → ¬ Λ.Looks s r.2.1) ∧ Unmistaken a c ss d

/-- What a relay makes of a cell: it passes it on, or it keeps it and reports it. -/
abbrev Report (C T : Type) := Option (C × T)

/-- A relay: the cells on the link to it, oldest first, its layer and what it reported. -/
structure Stage (S A C T : Type) where
  queue : List (A × C)
  state : S
  log : List (Report C T)

/-- A relay works off a list of cells; the cells it passes on come last. -/
def feed : S → List (A × C) → S × List (Report C T) × List (A × C)
  | s, [] => (s, [], [])
  | s, (a, c) :: ms =>
    let r := Λ.recv s a c
    let rest := feed r.1 ms
    match r.2.2 with
    | some t => (rest.1, some (r.2.1, t) :: rest.2.1, rest.2.2)
    | none => (rest.1, none :: rest.2.1, (a, r.2.1) :: rest.2.2)

/-- Where every relay would end up, and what it would have reported, if all of them worked
off their queues, the first one also `inc`. -/
def flush : List (Stage S A C T) → List (A × C) → List (S × List (Report C T))
  | [], _ => []
  | st :: rest, inc =>
    let r := feed Λ st.state (st.queue ++ inc)
    (r.1, st.log ++ r.2.1) :: flush rest r.2.2

/-- One cell on its way through relays with empty queues. -/
def traverse : List (S × List (Report C T)) → A → C → List (S × List (Report C T))
  | [], _, _ => []
  | (s, log) :: rest, a, c =>
    let r := Λ.recv s a c
    match r.2.2 with
    | some t => (r.1, log ++ [some (r.2.1, t)]) :: rest
    | none => (r.1, log ++ [none]) :: traverse rest a r.2.1

variable {Λ}

lemma feed_append (s : S) (ms ns : List (A × C)) :
    feed Λ s (ms ++ ns) =
      ((feed Λ (feed Λ s ms).1 ns).1,
        (feed Λ s ms).2.1 ++ (feed Λ (feed Λ s ms).1 ns).2.1,
        (feed Λ s ms).2.2 ++ (feed Λ (feed Λ s ms).1 ns).2.2) := by
  induction ms generalizing s with
  | nil => rfl
  | cons m ms ih =>
    obtain ⟨a, c⟩ := m
    simp only [cons_append, feed, ih]
    cases (Λ.recv s a c).2.2 <;> rfl

@[simp] lemma flush_nil_queue (stages : List (Stage S A C T)) (h : ∀ st ∈ stages, st.queue = []) :
    flush Λ stages [] = stages.map fun st => (st.state, st.log) := by
  induction stages with
  | nil => rfl
  | cons st rest ih =>
    have hq : st.queue = [] := h st (mem_cons_self ..)
    have hrest := ih fun st' hst' => h st' (mem_cons_of_mem _ hst')
    simp [flush, hq, feed, hrest]

variable {i : ℕ} {ss : List S} {qs : List (List (A × C))} {stages : List (Stage S A C T)}

lemma getElem?_flush {st : Stage S A C T} (h : stages[i]? = some st) (inc : List (A × C)) :
    ∃ rest, ((flush Λ stages inc).map Prod.snd)[i]? = some (st.log ++ rest) := by
  induction stages generalizing i inc with
  | nil => cases h
  | cons st' stages ih =>
    cases i with
    | zero =>
      obtain rfl : st' = st := some.inj h
      exact ⟨_, rfl⟩
    | succ i => exact ih h _

lemma flush_snoc (stages : List (Stage S A C T)) (inc : List (A × C)) (a : A) (c : C) :
    flush Λ stages (inc ++ [(a, c)]) = traverse Λ (flush Λ stages inc) a c := by
  induction stages generalizing inc a c with
  | nil => rfl
  | cons st rest ih =>
    simp only [flush, ← append_assoc]
    rw [feed_append st.state (st.queue ++ inc)]
    generalize feed Λ st.state (st.queue ++ inc) = r
    -- what the first relay makes of the last cell decides whether the others see it
    cases hr : (Λ.recv r.1 a c).2.2 with
    | some t => simp [feed, traverse, hr]
    | none => simp [feed, traverse, hr, ih]

variable {a : A} {c : C} {d : ℕ} {r : List S × C × T} {stages' : List (Stage S A C T)}

lemma encrypt_ok (hc : ∀ s, ss[d]? = some s → Λ.Plain s c) (h : encrypt Λ a c ss d = some r) : Λ.Ok r.2.1 := by
  induction ss generalizing d r with
  | nil => cases h
  | cons s ss ih =>
    cases d with
    | zero =>
      cases h
      exact Λ.orig_ok s a c (hc s rfl)
    | succ d =>
      simp only [encrypt, map_eq_some_iff] at h
      obtain ⟨q, hq, rfl⟩ := h
      exact Λ.pass_ok s a _ (ih hc hq)

/-- What relay `i` has to report of a cell meant for hop `d`, as a list: nothing behind `d`,
the cell with its tag at `d`, and "not mine" before. -/
def due (d : ℕ) (c : C) (t : T) (i : ℕ) : List (Report C T) :=
  if i < d then [none] else if i = d then [some (c, t)] else []

/-- Add to the log of every relay, from index `i` on, what it has to report. -/
def addDue (d : ℕ) (c : C) (t : T) : ℕ → List (S × List (Report C T)) → List (S × List (Report C T))
  | _, [] => []
  | i, p :: ps => (p.1, p.2 ++ due d c t i) :: addDue d c t (i + 1) ps

lemma addDue_of_lt (h : d < i) (c : C) (t : T) (ps : List (S × List (Report C T))) : addDue d c t i ps = ps := by
  induction ps generalizing i with
  | nil => rfl
  | cons p ps ih =>
    have hdue : due d c t i = [] := by
      simp only [due]
      rw [if_neg (by omega), if_neg (by omega)]
    simp [addDue, hdue, ih (Nat.lt_succ_of_lt h)]

lemma addDue_succ (d i : ℕ) (c : C) (t : T) (ps : List (S × List (Report C T))) :
    addDue (d + 1) c t (i + 1) ps = addDue d c t i ps := by
  induction ps generalizing i with
  | nil => rfl
  | cons p ps ih =>
    have hdue : due (d + 1) c t (i + 1) = due d c t i := by simp [due]
    simp [addDue, hdue, ih]

lemma getElem?_addDue (d : ℕ) (c : C) (t : T) (j i : ℕ) (ps : List (S × List (Report C T))) :
    ((addDue d c t j ps).map Prod.snd)[i]? =
      (ps.map Prod.snd)[i]?.map (· ++ due d c t (j + i)) := by
  induction ps generalizing i j with
  | nil => rfl
  | cons p ps ih =>
    cases i with
    | zero => simp [addDue]
    | succ i =>
      have hij : j + 1 + i = j + (i + 1) := by omega
      simpa [addDue, hij] using ih (j + 1) i

/-- The client's onion on its way through relays that are in step with the client: relays
before `d` pass it on, `d` keeps it, and all are in step again. -/
lemma traverse_encrypt {ps : List (S × List (Report C T))} (hps : ps.map Prod.fst = ss)
    (hc : ∀ s, ss[d]? = some s → Λ.Plain s c) (henc : encrypt Λ a c ss d = some r)
    (hun : Unmistaken Λ a c ss d) :
    ∃ sd, ss[d]? = some sd ∧
      (traverse Λ ps a r.2.1).map Prod.fst = r.1 ∧
      (traverse Λ ps a r.2.1).map Prod.snd =
        (addDue d (Λ.stamp sd c) r.2.2 0 ps).map Prod.snd := by
  induction ss generalizing ps d r with
  | nil => cases henc
  | cons s ss ih =>
    match ps, hps with
    | (s', log) :: ps, hps =>
      obtain ⟨rfl, rfl⟩ : s' = s ∧ ps.map Prod.fst = ss := by simpa using hps
      cases d with
      | zero =>
        cases henc
        have hrecv := Λ.recv_orig s' a c (hc s' rfl)
        refine ⟨s', rfl, ?_, ?_⟩
        · simp [traverse, hrecv]
        · simp [traverse, hrecv, addDue, due, addDue_of_lt]
      | succ d =>
        simp only [encrypt, map_eq_some_iff] at henc
        obtain ⟨q, hq, rfl⟩ := henc
        have hc : ∀ s, (ps.map Prod.fst)[d]? = some s → Λ.Plain s c := hc
        obtain ⟨sd, hsd, hfst, hsnd⟩ := ih rfl hc hq hun.2
        have hrecv := Λ.recv_pass s' a q.2.1 (encrypt_ok hc hq) (hun.1 q hq)
        refine ⟨sd, by simpa using hsd, ?_, ?_⟩
        · simp [traverse, hrecv, hfst]
        · simp [traverse, hrecv, hsnd, addDue, due, addDue_succ]

/-- The cell at the head of the queue of relay `i` is taken off and either reported or put
on the link to the next relay. -/
def peelAt (Λ : Layer S A C T) : ℕ → List (Stage S A C T) → Option (List (Stage S A C T))
  | _, [] => none
  | 0, st :: rest =>
    match st.queue with
    | [] => none
    | (a, c) :: q =>
      let r := Λ.recv st.state a c
      match r.2.2, rest with
      | some t, rest => some (⟨q, r.1, st.log ++ [some (r.2.1, t)]⟩ :: rest)
      | none, [] => some [⟨q, r.1, st.log ++ [none]⟩]
      | none, nx :: rest =>
        some (⟨q, r.1, st.log ++ [none]⟩ :: { nx with queue := nx.queue ++ [(a, r.2.1)] } :: rest)
  | i + 1, st :: rest => (peelAt Λ i rest).map (st :: ·)

/-- **A relay's step changes nothing about the outcome.** -/
theorem flush_peelAt (h : peelAt Λ i stages = some stages') (inc : List (A × C)) :
    flush Λ stages' inc = flush Λ stages inc := by
  fun_induction peelAt Λ i stages generalizing stages' inc with
  | case1 | case2 => cases h
  | case6 i st rest ih =>
    obtain ⟨rest', hrest, rfl⟩ := map_eq_some_iff.1 h
    simp only [flush, ih hrest]
  | _ =>
    cases h
    simp_all +zetaDelta [flush, feed]

def push (a : A) (c : C) : List (Stage S A C T) → List (Stage S A C T)
  | [] => []
  | st :: rest => { st with queue := st.queue ++ [(a, c)] } :: rest

lemma flush_push (a : A) (c : C) (stages : List (Stage S A C T)) :
    flush Λ (push a c stages) [] = traverse Λ (flush Λ stages []) a c := by
  cases stages with
  | nil => rfl
  | cons st rest =>
    rw [← flush_snoc]
    simp [push, flush]

def AllOk (Λ : Layer S A C T) (qs : List (List (A × C))) : Prop := ∀ q ∈ qs, ∀ m ∈ q, Λ.Ok m.2

variable {q : List (A × C)}

lemma allOk_cons : AllOk Λ (q :: qs) ↔ (∀ m ∈ q, Λ.Ok m.2) ∧ AllOk Λ qs := by
  simp [AllOk]

lemma allOk_push (hc : Λ.Ok c) (h : AllOk Λ (stages.map Stage.queue)) :
    AllOk Λ ((push a c stages).map Stage.queue) := by
  cases stages with
  | nil => exact h
  | cons st rest =>
    obtain ⟨hst, hrest⟩ := allOk_cons.1 h
    exact allOk_cons.2
      ⟨forall_mem_append.2 ⟨hst, forall_mem_singleton.2 hc⟩, hrest⟩

lemma allOk_peelAt (hpeel : peelAt Λ i stages = some stages')
    (h : AllOk Λ (stages.map Stage.queue)) : AllOk Λ (stages'.map Stage.queue) := by
  fun_induction peelAt Λ i stages generalizing stages' with
  | case1 | case2 => cases hpeel
  | case3 st a c q hq | case4 st a c q hq =>
    cases hpeel
    rw [map_cons, hq, allOk_cons, forall_mem_cons] at h
    exact allOk_cons.2 ⟨h.1.2, h.2⟩
  | case5 st a c q hq =>
    cases hpeel
    rw [map_cons, hq, allOk_cons, forall_mem_cons] at h
    exact allOk_cons.2 ⟨h.1.2, allOk_push (Λ.recv_ok st.state a c h.1.1) h.2⟩
  | case6 i st rest ih =>
    obtain ⟨rest', hrest, rfl⟩ := map_eq_some_iff.1 hpeel
    obtain ⟨hst, hbehind⟩ := allOk_cons.1 h
    exact allOk_cons.2 ⟨hst, ih hrest hbehind⟩

/-! ### Inbound: a chain of senders, one receiver -/

/-- What the client makes of an inbound cell: the hop it takes it to come from, the cell and
its tag, or nothing. -/
abbrev Opened (C T : Type) := Option (ℕ × C × T)

/-- The client takes layers off, from hop `i` on, until one of them knows the cell. -/
def openOne (Λ : Layer S A C T) : ℕ → List S → A → C → List S × Opened C T
  | _, [], _, _ => ([], none)
  | i, s :: ss, a, c =>
    let r := Λ.recv s a c
    match r.2.2 with
    | some t => (r.1 :: ss, some (i, r.2.1, t))
    | none =>
      let q := openOne Λ (i + 1) ss a r.2.1
      (r.1 :: q.1, q.2)

def openAll (Λ : Layer S A C T) (i : ℕ) : List S → List (A × C) → List S × List (Opened C T)
  | ss, [] => (ss, [])
  | ss, (a, c) :: ms =>
    let r := openOne Λ i ss a c
    let q := openAll Λ i r.1 ms
    (q.1, r.2 :: q.2)

/-- What the client would make of all cells in flight.  A cell on the link behind relay `i`
has no layer of the relays before `i` yet, so the client takes off the layers from `i` on
only; the cells on nearer links come first. -/
def drain (Λ : Layer S A C T) : ℕ → List S → List (List (A × C)) → List S × List (Opened C T)
  | _, ss, [] => (ss, [])
  | i, ss, q :: qs =>
    let r := openAll Λ i ss q
    match r.1 with
    | [] => ([], r.2)
    | s :: tl =>
      let d := drain Λ (i + 1) tl qs
      (s :: d.1, r.2 ++ d.2)

/-- A relay: the cells on the link from it towards the client, oldest first, and its layer. -/
structure Source (S A C : Type) where
  queue : List (A × C)
  state : S

/-- Relay `k` sends a cell of its own. -/
def originateAt (Λ : Layer S A C T) (a : A) (c : C) : ℕ → List (Source S A C) → Option (List (Source S A C))
  | _, [] => none
  | 0, st :: rest =>
    let r := Λ.orig st.state a c
    some (⟨st.queue ++ [(a, r.2.1)], r.1⟩ :: rest)
  | k + 1, st :: rest => (originateAt Λ a c k rest).map (st :: ·)

/-- Relay `i` puts its layer on the next cell of the relay behind it. -/
def wrapAt (Λ : Layer S A C T) : ℕ → List (Source S A C) → Option (List (Source S A C))
  | 0, st :: nx :: rest =>
    match nx.queue with
    | [] => none
    | (a, c) :: q =>
      let r := Λ.pass st.state a c
      some (⟨st.queue ++ [(a, r.2)], r.1⟩ :: { nx with queue := q } :: rest)
  | i + 1, st :: rest => (wrapAt Λ i rest).map (st :: ·)
  | _, _ => none

/-- The cell relay `i` puts its layer on next, with the layer. -/
def nextAt : ℕ → List (Source S A C) → Option (S × A × C)
  | 0, st :: nx :: _ => nx.queue.head?.map fun m => (st.state, m.1, m.2)
  | i + 1, _ :: rest => nextAt i rest
  | _, _ => none

variable {stages stages' : List (Source S A C)}

open Source

lemma allOk_originateAt {k : ℕ} (hc : ∀ st, stages[k]? = some st → Λ.Plain st.state c)
    (horig : originateAt Λ a c k stages = some stages')
    (h : AllOk Λ (stages.map queue)) : AllOk Λ (stages'.map queue) := by
  fun_induction originateAt Λ a c k stages generalizing stages' with
  | case1 => cases horig
  | case2 st rest =>
    cases horig
    obtain ⟨hst, hbehind⟩ := allOk_cons.1 h
    exact allOk_cons.2 ⟨forall_mem_append.2
      ⟨hst, forall_mem_singleton.2 (Λ.orig_ok st.state a c (hc st rfl))⟩, hbehind⟩
  | case3 k st rest ih =>
    obtain ⟨rest', hrest, rfl⟩ := map_eq_some_iff.1 horig
    obtain ⟨hst, hbehind⟩ := allOk_cons.1 h
    exact allOk_cons.2 ⟨hst, ih hc hrest hbehind⟩

lemma allOk_wrapAt
    (hwrap : wrapAt Λ i stages = some stages') (h : AllOk Λ (stages.map queue)) :
    AllOk Λ (stages'.map queue) := by
  fun_induction wrapAt Λ i stages generalizing stages' with
  | case1 | case4 => cases hwrap
  | case2 st nx rest a c q hq =>
    cases hwrap
    rw [map_cons, map_cons, hq, allOk_cons, allOk_cons, forall_mem_cons] at h
    obtain ⟨hst, ⟨hc, hnx⟩, hbehind⟩ := h
    exact allOk_cons.2 ⟨forall_mem_append.2
      ⟨hst, forall_mem_singleton.2 (Λ.pass_ok st.state a c hc)⟩, allOk_cons.2 ⟨hnx, hbehind⟩⟩
  | case3 i st rest ih =>
    obtain ⟨rest', hrest, rfl⟩ := map_eq_some_iff.1 hwrap
    obtain ⟨hst, hbehind⟩ := allOk_cons.1 h
    exact allOk_cons.2 ⟨hst, ih hrest hbehind⟩

lemma ok_of_nextAt {s : S}
    (hnext : nextAt i stages = some (s, a, c)) (h : AllOk Λ (stages.map queue)) :
    Λ.Ok c := by
  fun_induction nextAt i stages with
  | case1 st nx rest =>
    obtain ⟨m, hm, heq⟩ := map_eq_some_iff.1 hnext
    cases heq
    exact (allOk_cons.1 (allOk_cons.1 h).2).1 m (mem_of_head? hm)
  | case2 i st rest ih => exact ih hnext (allOk_cons.1 h).2
  | case3 => cases hnext

lemma openAll_append (i : ℕ) (ss : List S) (ms ns : List (A × C)) : openAll Λ i ss (ms ++ ns) =
      ((openAll Λ i (openAll Λ i ss ms).1 ns).1,
        (openAll Λ i ss ms).2 ++ (openAll Λ i (openAll Λ i ss ms).1 ns).2) := by
  induction ms generalizing ss with
  | nil => rfl
  | cons m ms ih => simp only [cons_append, openAll, ih]

lemma drain_receive (i : ℕ) (ss : List S) (a : A) (c : C) (q : List (A × C)) (qs : List (List (A × C))) :
    drain Λ i ss (((a, c) :: q) :: qs) =
      ((drain Λ i (openOne Λ i ss a c).1 (q :: qs)).1,
        (openOne Λ i ss a c).2 :: (drain Λ i (openOne Λ i ss a c).1 (q :: qs)).2) := by
  simp only [drain, openAll]
  cases (openAll Λ i (openOne Λ i ss a c).1 q).1 <;> rfl

variable {o : ℕ × C × T}

lemma le_of_openOne (h : (openOne Λ i ss a c).2 = some o) : i ≤ o.1 := by
  induction ss generalizing i c with
  | nil => cases h
  | cons s ss ih =>
    cases hr : (Λ.recv s a c).2.2 with
    | some t =>
      simp only [openOne, hr, some.injEq] at h
      subst h
      exact Nat.le_refl i
    | none =>
      simp only [openOne, hr] at h
      exact Nat.le_of_succ_le (ih h)

lemma le_of_openAll {ms : List (A × C)} (h : some o ∈ (openAll Λ i ss ms).2) : i ≤ o.1 := by
  induction ms generalizing ss with
  | nil => cases h
  | cons m ms ih =>
    simp only [openAll, mem_cons] at h
    rcases h with h | h
    · exact le_of_openOne h.symm
    · exact ih h

lemma le_of_drain (h : some o ∈ (drain Λ i ss qs).2) : i ≤ o.1 := by
  induction qs generalizing i ss with
  | nil => cases h
  | cons q qs ih =>
    cases hr : (openAll Λ i ss q).1 with
    | nil =>
      simp only [drain, hr] at h
      exact le_of_openAll h
    | cons s tl =>
      simp only [drain, hr, mem_append] at h
      rcases h with h | h
      · exact le_of_openAll h
      · exact Nat.le_of_succ_le (ih h)

lemma drain_cons {tl : List S} {s : S} (h : (openAll Λ i ss q).1 = s :: tl) : drain Λ i ss (q :: qs) =
      (s :: (drain Λ (i + 1) tl qs).1, (openAll Λ i ss q).2 ++ (drain Λ (i + 1) tl qs).2) := by
  simp only [drain, h]

/-- Taking the first link apart: the layer of the first relay is, after its own link, the one
that `drain` ends with, and the other links only move the other layers. -/
lemma drain_cons_eq {ss' : List S} {s : S} (h : (drain Λ i ss (q :: qs)).1 = s :: ss') :
    ∃ tl, (openAll Λ i ss q).1 = s :: tl ∧ (drain Λ (i + 1) tl qs).1 = ss' ∧
      (drain Λ i ss (q :: qs)).2 = (openAll Λ i ss q).2 ++ (drain Λ (i + 1) tl qs).2 := by
  cases hr : (openAll Λ i ss q).1 with
  | nil => simp [drain, hr] at h
  | cons s1 tl =>
    simp only [drain, hr, List.cons.injEq] at h ⊢
    exact ⟨tl, ⟨h.1, rfl⟩, h.2, rfl⟩

lemma drain_empty (i : ℕ) (ss : List S) (qs : List (List (A × C))) (h : ∀ q ∈ qs, q = []) :
    drain Λ i ss qs = (ss, []) := by
  induction qs generalizing i ss with
  | nil => rfl
  | cons q qs ih =>
    obtain rfl : q = [] := h q (mem_cons_self ..)
    cases ss with
    | nil => rfl
    | cons s tl =>
      have hrest := ih (i + 1) tl fun q' hq' => h q' (mem_cons_of_mem _ hq')
      simp [drain, openAll, hrest]

/-- **A relay's layer on a passing cell changes nothing about the outcome**: the client's
layer is in step with it and takes it off again. -/
theorem drain_wrapAt {j : ℕ} (h : wrapAt Λ i stages = some stages')
    (hstep : (drain Λ j ss (stages.map queue)).1 = stages.map state)
    (hnext : ∀ s a c, nextAt i stages = some (s, a, c) → Λ.Ok c ∧ ¬ Λ.Looks s c) :
    drain Λ j ss (stages'.map queue) =
      (stages'.map state, (drain Λ j ss (stages.map queue)).2) := by
  fun_induction wrapAt Λ i stages generalizing j ss stages' with
  | case1 | case4 => cases h
  | case2 st nx rest a c q hq =>
    cases h
    obtain ⟨tl, hhead, htail, hreps⟩ := drain_cons_eq hstep
    obtain ⟨hok, hlooks⟩ := hnext st.state a c (by simp [nextAt, hq])
    have hrecv := Λ.recv_pass st.state a c hok hlooks
    -- the cell that was first behind the next relay is now last behind this one
    have hfirst : openAll Λ j ss (st.queue ++ [(a, (Λ.pass st.state a c).2)]) =
        ((Λ.pass st.state a c).1 :: (openOne Λ (j + 1) tl a c).1,
          (openAll Λ j ss st.queue).2 ++ [(openOne Λ (j + 1) tl a c).2]) := by
      simp [openAll_append, hhead, openAll, openOne, hrecv]
    simp only [map_cons, hq, drain_receive] at htail hreps ⊢
    rw [hreps, drain_cons (congrArg Prod.fst hfirst), hfirst, htail]
    simp +zetaDelta
  | case3 i st rest ih =>
    obtain ⟨rest', hrest, rfl⟩ := map_eq_some_iff.1 h
    obtain ⟨tl, hhead, htail, hreps⟩ := drain_cons_eq hstep
    have hih := ih hrest htail fun s a c hn => hnext s a c hn
    simp [drain, hhead, hih]

/-- **A relay's own cell is opened by the client at exactly that relay's layer**, after
everything the relay sent before and before anything of the relays behind it. -/
theorem drain_originateAt {k j : ℕ}
    (hc : ∀ st, stages[k]? = some st → Λ.Plain st.state c) (h : originateAt Λ a c k stages = some stages')
    (hstep : (drain Λ j ss (stages.map queue)).1 = stages.map state) :
    ∃ st xs ys, stages[k]? = some st ∧
      (drain Λ j ss (stages.map queue)).2 = xs ++ ys ∧
      drain Λ j ss (stages'.map queue) =
        (stages'.map state,
          xs ++ some (j + k, Λ.stamp st.state c, (Λ.orig st.state a c).2.2) :: ys) ∧
      ∀ o, some o ∈ ys → j + k < o.1 := by
  fun_induction originateAt Λ a c k stages generalizing j ss stages' with
  | case1 => cases h
  | case2 st rest =>
    cases h
    obtain ⟨tl, hhead, htail, hreps⟩ := drain_cons_eq hstep
    have hrecv := Λ.recv_orig st.state a c (hc st rfl)
    refine ⟨st, (openAll Λ j ss st.queue).2, (drain Λ (j + 1) tl (rest.map queue)).2, rfl, hreps, ?_, ?_⟩
    · simp +zetaDelta [drain, openAll_append, hhead, openAll, openOne, hrecv, htail]
    · intro o ho
      exact le_of_drain ho
  | case3 k st rest ih =>
    obtain ⟨rest', hrest, rfl⟩ := map_eq_some_iff.1 h
    obtain ⟨tl, hhead, htail, hreps⟩ := drain_cons_eq hstep
    obtain ⟨st', xs, ys, hget, hxy, hdrain, hlt⟩ := ih hc hrest htail
    refine ⟨st', (openAll Λ j ss st.queue).2 ++ xs, ys, by simpa using hget, ?_, ?_, ?_⟩
    · rw [map_cons, hreps, hxy, append_assoc]
    · simp [drain, hhead, hdrain, Nat.add_assoc, Nat.add_comm 1 k]
    · intro o ho
      have := hlt o ho
      omega

end Layer

end GoTor.Lib
