import GoTor.Relay.JoinedRelay

/-!
# RELAY_EARLY cells on one circuit

The relay counts the RELAY_EARLY cells it forwards with the extension of the circuit; a further
extension counts from zero again.
-/

namespace GoTor.Relay

open GoTor.Lib GoTor.Cell GoTor.Crypto Function ForwardState RelayOut List

/-- The relay, and the number of RELAY_EARLY cells it has sent on for the circuit. -/
structure EarlyRun where
  fwd : ForwardState
  early : ℕ := 0

inductive EarlyStep
  | cell (env : HsEnv) (cmd : LinkCmd) (payload : Bytes) (conn : ConnPtr)
  /-- `registerExtended`, when an EXTEND2 has succeeded. -/
  | extended (nextHopCircuitID : UInt32)
  /-- DESTROY from the next hop. -/
  | nextHopDestroy

def EarlyStep.isExtended : EarlyStep → Bool
  | .extended _ => true
  | _ => false

def RelayOut.isEarly : RelayOut → Bool
  | .nextHop _ c => c.command = Command.relayEarly
  | _ => false

section Early

variable (P : Primitives) (verify : Bytes → Bytes → Option String) (circuitID : UInt32)

def EarlyRun.step (s : EarlyRun) : EarlyStep → Option EarlyRun
  | .cell env cmd payload conn =>
    let r := s.fwd.handleRelay P verify env circuitID cmd payload conn
    some ⟨r.state, s.early + r.out.countP isEarly⟩
  | .extended nextHopCircuitID =>
    match s.fwd.hs.extended.get circuitID with
    | some _ => some s
    | none => some { s with fwd := { s.fwd with
        hs := s.fwd.hs.extend circuitID
        nextHop := update s.fwd.nextHop circuitID { nextHopCircuitID } } }
  | .nextHopDestroy =>
    some { s with fwd := { s.fwd with hs := (s.fwd.hs.handleDestroy circuitID).closeCircuit circuitID } }

/-- No extension is registered once a RELAY_EARLY cell has been sent on. -/
def EarlyRun.ExtendsFirst (s : EarlyRun) (a : EarlyStep) : Prop := a.isExtended = true → s.early = 0

instance (s : EarlyRun) (a : EarlyStep) : Decidable (s.ExtendsFirst a) := inferInstanceAs (Decidable (_ → _))

variable {P verify circuitID} {s : ForwardState}

/-- The count of the extension goes on by the RELAY_EARLY cells that are sent, up to eight. -/
def Counts (circuitID : UInt32) (s : ForwardState) (r : Forwarded) : Prop :=
  (r.state.nextHop circuitID).relayEarlyCount = (s.nextHop circuitID).relayEarlyCount + r.out.countP isEarly ∧
  ((s.nextHop circuitID).relayEarlyCount ≤ 8 → (r.state.nextHop circuitID).relayEarlyCount ≤ 8)

lemma Counts.of_quiet {r : Forwarded} (hnext : r.state.nextHop = s.nextHop)
    (hout : ∀ o ∈ r.out, o.isEarly = false) : Counts circuitID s r := by
  have hcount : r.out.countP isEarly = 0 := countP_eq_zero.2 fun o ho => by simp [hout o ho]
  rw [Counts, hnext, hcount]
  exact ⟨rfl, id⟩

lemma isEarly_withHs (hs : HsState) (err : Option String) : ∀ o ∈ (s.withHs hs err).out, o.isEarly = false := by
  intro o ho
  obtain ⟨o', -, rfl⟩ := mem_map.1 ho
  rfl

lemma Counts.handleLocal (env : HsEnv) (p : CircPtr) (cmd : LinkCmd) (payload : Bytes) (conn : ConnPtr) :
    Counts circuitID s (s.handleLocalRelayCell P verify env circuitID p cmd payload conn) := by
  unfold handleLocalRelayCell
  dsimp only
  split
  · exact .of_quiet rfl (isEarly_withHs _ _)
  · exact .of_quiet rfl (by simp)
  split
  · exact .of_quiet rfl (by simp)
  split
  · unfold sendRelayToClient
    split
    · exact .of_quiet rfl (by simp)
    split
    · exact .of_quiet rfl (by simp)
    · exact .of_quiet rfl (by simp [isEarly])
  · exact .of_quiet rfl (isEarly_withHs _ _)

lemma Counts.forwardExtended (p : CircPtr) (cmd : LinkCmd) (payload : Bytes) :
    Counts circuitID s (s.forwardExtendedFromClient P circuitID p cmd payload) := by
  fun_cases s.forwardExtendedFromClient P circuitID p cmd payload
  case case3 => exact .of_quiet rfl (isEarly_withHs _ _)
  case case6 =>
    dsimp +zetaDelta only
    split
    next hearly =>
      simp only [Counts, countEarly, setCrypto, update_self, countP_singleton,
        isEarly, decide_true, if_true, true_and]
      exact fun _ => hearly.2
    next => exact .of_quiet rfl (by simp [isEarly]; decide)
  all_goals exact .of_quiet rfl (by simp)

lemma Counts.handleRelay (env : HsEnv) (cmd : LinkCmd) (payload : Bytes) (conn : ConnPtr) :
    Counts circuitID s (s.handleRelay P verify env circuitID cmd payload conn) := by
  unfold ForwardState.handleRelay
  split
  · exact .of_quiet rfl (isEarly_withHs _ _)
  split
  · exact .forwardExtended _ _ _
  · exact .handleLocal _ _ _ _ _

/-- **At most eight RELAY_EARLY cells go on** over the lifetime of the circuit, if none has gone on
when an extension is registered. -/
theorem early_cells_bounded {as : List EarlyStep} {t : EarlyRun} (h0 : (s.nextHop circuitID).relayEarlyCount = 0)
    (hgood : RunMeets (EarlyRun.step P verify circuitID) EarlyRun.ExtendsFirst ⟨s, 0⟩ as)
    (hrun : run (EarlyRun.step P verify circuitID) ⟨s, 0⟩ as = some t) : t.early ≤ 8 := by
  refine (run_inv (fun (t : EarlyRun) a t' (h : (t.fwd.nextHop circuitID).relayEarlyCount = t.early ∧ t.early ≤ 8)
    hfirst hstep => ?_) ⟨h0, Nat.zero_le 8⟩ hgood hrun).2
  obtain ⟨hcount, hle⟩ := h
  cases a with
  | cell env cmd payload conn =>
    cases hstep
    obtain ⟨hadd, hroom⟩ : Counts circuitID t.fwd (t.fwd.handleRelay P verify env circuitID cmd payload conn) :=
      .handleRelay env cmd payload conn
    rw [hcount] at hadd hroom
    exact ⟨hadd, hadd ▸ hroom hle⟩
  | extended nextHopCircuitID =>
    simp only [EarlyRun.step] at hstep
    split at hstep
    · cases hstep
      exact ⟨hcount, hle⟩
    · cases hstep
      exact ⟨by simpa using (hfirst rfl).symm, hle⟩
  | nextHopDestroy =>
    cases hstep
    exact ⟨hcount, hle⟩

end Early

def earlyStart : EarlyRun where
  fwd := { metState with hs := HsState.create2 {} 1 (zeros 20) }

def earlyCells (n : ℕ) : List EarlyStep := replicate n (.cell ⟨0, none⟩ .relayEarly endToEnd 10)

/-- The second cell of the client, a TRUNCATE. -/
def truncateCell : Bytes := [relayTruncate, 0, 31, 0, 0, 253, 253, 253, 253] ++ zeros 500

/-- After a TRUNCATE and a further EXTEND2, a ninth RELAY_EARLY cell goes on. -/
theorem ninth_early_cell : ∃ t, run (EarlyRun.step xorPrimitives (fun _ _ => none) 1) earlyStart
      ([.extended 5] ++ earlyCells 1 ++ [.cell ⟨0, none⟩ .relay truncateCell 10, .extended 6] ++ earlyCells 8) = some t ∧
    t.early = 9 := by
  decide +kernel

theorem early_cells_bounded_ten : ∃ t, run (EarlyRun.step xorPrimitives (fun _ _ => none) 1) earlyStart
      ([.extended 5] ++ earlyCells 10) = some t ∧ t.early = 8 ∧ t.early ≤ 8 :=
  exists_some_and (by decide +kernel) fun _ ht _ => early_cells_bounded rfl (by decide +kernel) ht

end GoTor.Relay
