import GoTor.Circuit.Send

/-!
# The order of the cells on the connection

The relays open the cells in the order in which they arrive, so a circuit stays in step only
if its cells are written in the order in which `encryptOnion` advanced the forward ciphers
and digests.  The state of a run records both orders.  `sent_in_onion_order` says they agree
in every run in which no goroutine encrypts while another one holds an encrypted cell it has
not written yet; `sent_out_of_onion_order` is a run of two senders without that restriction.
-/

namespace GoTor.Circuit

open GoTor.Lib GoTor.Crypto GoTor.Cell GoTor.Relay Function List Sender

/-- What is left open in a critical section: the random bytes, or that it fails. -/
inductive SendChoice
  | done
  | bytes (b : Bytes)
  | fail (e : String)
  deriving DecidableEq

/-- What changed the hops of the circuit. -/
inductive HopEvent
  | addHop (hop : Hop)
  | onion (cmd : LinkCmd) (dest : ℤ) (payload : Bytes)
  deriving DecidableEq

/-- The circuit, its connection, and the history of both. -/
structure SendState (Tid : Type) where
  circ : Sender
  /-- A connection on which a write failed takes no further cell. -/
  connOpen : Bool := true
  /-- The cells written, with a mark on those that went through `encryptOnion`. -/
  wire : List (Bool × LinkCell) := []
  events : List HopEvent := []
  /-- Encrypted cells that their goroutine has not passed to the connection yet. -/
  inHand : List (Tid × LinkCmd × Bytes) := []

namespace SendState

variable {Tid : Type}

def onionWire (s : SendState Tid) : List (LinkCmd × Bytes) :=
  (s.wire.filter (·.1)).map fun w => (w.2.command, w.2.payload)

variable [DecidableEq Tid]

/-- What is still in hand once goroutine `t` has passed its cell on. -/
def restInHand (t : Tid) (onion : Bool) (s : SendState Tid) : List (Tid × LinkCmd × Bytes) :=
  if onion then s.inHand.filter (·.1 ≠ t) else s.inHand

def sendCell (t : Tid) (onion : Bool) (cell : LinkCell) (ch : SendChoice) (s : SendState Tid) :
    Option (Except String Unit × SendState Tid) :=
  let inHand := s.restInHand t onion
  match ch with
  | .fail e => some (.error e, { s with connOpen := false, inHand })
  | _ => if s.connOpen then some (.ok (), { s with wire := s.wire ++ [(onion, cell)], inHand }) else none

variable (P : Primitives)

/-- `encryptOnion` under the circuit's mutex. -/
def encryptOnion (t : Tid) (cmd : LinkCmd) (dest : ℤ) (payload : Bytes) (s : SendState Tid) :
    Except String (Bytes × Option Bytes) × SendState Tid :=
  let (hops, r) := Circuit.encryptOnion P s.circ.hops (cgoAD cmd) dest payload
  let held := match r with
    | .ok (out, _) => [(t, cmd, out)]
    | .error _ => []
  (r, { s with
    circ := { s.circ with hops }
    events := s.events ++ [.onion cmd dest payload]
    inHand := s.inHand ++ held })

def exec (t : Tid) : (a : SendAct) → SendChoice → SendState Tid → Option (a.Resp × SendState Tid)
  | .snapshot, _, s =>
    let c := s.circ
    some (⟨c.id, c.conn, c.state, c.hops.length, c.hops.getLast?.any Hop.usesCGO⟩, s)
  | .hopUsesCGO i, _, s => some (s.circ.hops[i]?.any Hop.usesCGO, s)
  | .randRead n, .bytes b, s => if b.length = n then some (.ok b, s) else none
  | .randRead _, .fail e, s => some (.error e, s)
  | .randRead _, .done, _ => none
  | .encryptOnion cmd dest payload, _, s => some (s.encryptOnion P t cmd dest payload)
  | .sendCell onion cell, ch, s => s.sendCell t onion cell ch
  | .refundPackageWindow, _, s => some ((), { s with circ := s.circ.refundPackageWindow })
  | .refundStreamPackageWindow i, _, s =>
    some ((), { s with circ := s.circ.refundStreamPackageWindow i })
  | .recordSendmeTag tag, _, s => some ((), { s with circ := s.circ.recordSendmeTag tag })
  | .addHop hs hop, _, s =>
    match s.circ.addHop hs hop with
    | .ok circ => some (.ok (), { s with circ, events := s.events ++ [.addHop hop] })
    | .error e => some (.error e, s)
  | .setState state, _, s => some ((), { s with circ := { s.circ with state } })
  | .setConnection, _, s => some ((), { s with circ := { s.circ with conn := true } })

end SendState

/-! ### Goroutines -/

inductive SendCall
  | emitRelayCell (rc : RelayCell) (recordSendme reserved : Bool)
  | sendRelayCellToHop (rc : Option RelayCell) (hopIndex : ℤ)
  | addHop (hs : Bool) (hop : Hop)
  | setState (state : State)
  | setConnection

def SendCall.prog : SendCall → SendProg Unit
  | .emitRelayCell rc recordSendme reserved => do
    let _ ← Circuit.emitRelayCell rc recordSendme reserved
  | .sendRelayCellToHop rc hopIndex => do
    let _ ← Circuit.sendRelayCellToHop rc hopIndex
  | .addHop hs hop => do
    let _ ← Prog.lift (SendAct.addHop hs hop)
  | .setState state => Prog.lift (SendAct.setState state)
  | .setConnection => Prog.lift SendAct.setConnection

def goroutine : List SendCall → SendProg Unit
  | [] => pure ()
  | call :: calls => do
    call.prog
    goroutine calls

/-! ### The order of encryption -/

section Replay

variable (P : Primitives)

/-- One event on the hops, and the cell it gave. -/
def replayStep (st : List Hop × List (LinkCmd × Bytes)) : HopEvent → List Hop × List (LinkCmd × Bytes)
  | .addHop hop => (st.1 ++ [hop], st.2)
  | .onion cmd dest payload =>
    match Circuit.encryptOnion P st.1 (cgoAD cmd) dest payload with
    | (hops, .ok (out, _)) => (hops, st.2 ++ [(cmd, out)])
    | (hops, .error _) => (hops, st.2)

/-- The hops and the cells of a client that performs the events one after the other: the
cells come in the order in which they advanced the ciphers and digests. -/
def replay (hops : List Hop) (events : List HopEvent) : List Hop × List (LinkCmd × Bytes) :=
  events.foldl (replayStep P) (hops, [])

variable {P} {hops : List Hop} {events : List HopEvent}

lemma replay_snoc (ev : HopEvent) :
    replay P hops (events ++ [ev]) = replayStep P (replay P hops events) ev := by
  simp [replay]

end Replay

/-! ### What a goroutine holds -/

/-- The contract of a sender: it encrypts with nothing in hand, and what it passes to the
connection is the cell it holds. -/
def sendContract : Contract SendAct SendAct.Resp (Option (LinkCmd × Bytes)) where
  pre held
    | .encryptOnion _ _ _ => held = none
    | .sendCell onion cell => held = if onion then some (cell.command, cell.payload) else none
    | _ => True
  post held
    | .encryptOnion cmd _ _, .ok (out, _), held' => held' = some (cmd, out)
    | .encryptOnion _ _ _, .error _, held' => held' = none
    | .sendCell _ _, _, held' => held' = none
    | _, _, held' => held' = held

section Meets

variable {rc : RelayCell} {destCGO : Bool}

lemma meets_refund {streamID : UInt16} :
    Meets sendContract none (refundReservedWindows streamID destCGO) fun held _ =>
      held = none := by
  unfold refundReservedWindows
  by_cases h : (!destCGO && decide (streamID > 0)) = true <;> simp [h, sendContract]

lemma meets_randomize {what : String} {start : ℕ} {payload : Bytes} :
    Meets sendContract none (randomize what start payload) fun held _ => held = none := by
  unfold randomize
  split
  · simp only [Prog.bind_eq]
    refine ⟨trivial, ?_⟩
    rintro (e | pad) held' rfl <;> rfl
  · rfl

lemma meets_encodeFor {padData : Bool} :
    Meets sendContract none (encodeFor destCGO padData rc) fun held _ => held = none := by
  unfold encodeFor
  split
  · split
    · rfl
    · exact meets_randomize
  · split
    · rfl
    · split
      · exact meets_randomize
      · rfl

lemma meets_refund_if (reserved : Bool) (streamID : UInt16) (destCGO : Bool) : Meets sendContract none
      (if reserved then refundReservedWindows streamID destCGO else pure ())
      fun held _ => held = none := by
  split
  · exact meets_refund
  · rfl

variable {refund : SendProg Unit}
  (hrefund : Meets sendContract none refund fun held _ => held = none)
include hrefund

lemma meets_refuse {r : Except String Unit} :
    Meets sendContract none (refund.bind fun _ => Prog.done r) fun held _ => held = none := by
  rw [meets_bind]
  exact hrefund.imp fun _ _ h => h

lemma meets_emitCell (recordSendme onion : Bool) (cell : LinkCell) (tag : Option Bytes) :
    Meets sendContract (if onion then some (cell.command, cell.payload) else none)
      (emitCell refund recordSendme onion cell tag) fun held _ => held = none := by
  unfold emitCell
  refine ⟨rfl, ?_⟩
  rintro (e | _) held' rfl
  · exact meets_refuse hrefund
  · cases recordSendme <;> simp [sendContract]

omit hrefund

lemma meets_emitRelayCell {recordSendme reserved : Bool} :
    Meets sendContract none (emitRelayCell rc recordSendme reserved) fun held _ =>
      held = none := by
  unfold emitRelayCell
  simp only [Prog.bind_eq, Prog.lift_bind, meets_act]
  refine ⟨trivial, ?_⟩
  rintro snap held' rfl
  have hrefund := meets_refund_if reserved rc.streamID snap.destCGO
  split
  · exact meets_refuse hrefund
  split
  · exact meets_refuse hrefund
  rw [meets_bind]
  refine meets_encodeFor.imp ?_
  rintro held' (e | payload) rfl
  · exact meets_refuse hrefund
  dsimp only
  split
  · refine ⟨rfl, ?_⟩
    rintro (e | ⟨out, tag⟩) held' rfl
    · exact meets_refuse hrefund
    · exact meets_emitCell hrefund recordSendme true ⟨snap.id, _, out⟩ tag
  · exact meets_emitCell hrefund recordSendme false _ none

lemma meets_sendRelayCellToHop {rc : Option RelayCell} {hopIndex : ℤ} :
    Meets sendContract none (sendRelayCellToHop rc hopIndex) fun held _ => held = none := by
  unfold sendRelayCellToHop
  cases rc with
  | none => rfl
  | some rc =>
    simp only [Prog.bind_eq, Prog.lift_bind, meets_act]
    refine ⟨trivial, ?_⟩
    rintro snap held' rfl
    split
    · rfl
    split
    · rfl
    split
    · rfl
    refine ⟨trivial, ?_⟩
    rintro destCGO held' rfl
    rw [meets_bind]
    refine meets_encodeFor.imp ?_
    rintro held' (e | payload) rfl
    · rfl
    refine ⟨rfl, ?_⟩
    rintro (e | ⟨out, tag⟩) held' rfl
    · rfl
    refine ⟨rfl, ?_⟩
    rintro (e | _) held' rfl <;> rfl

lemma meets_goroutine (calls : List SendCall) :
    Meets sendContract none (goroutine calls) fun _ _ => True := by
  induction calls with
  | nil => trivial
  | cons call calls ih =>
    have hcall : Meets sendContract none call.prog fun held _ => held = none := by
      cases call with
      | emitRelayCell rc recordSendme reserved =>
        exact (meets_bind ..).2 (meets_emitRelayCell.imp fun _ _ h => h)
      | sendRelayCellToHop rc hopIndex =>
        exact (meets_bind ..).2 (meets_sendRelayCellToHop.imp fun _ _ h => h)
      | addHop hs hop | setState state | setConnection => exact ⟨trivial, fun _ _ h => h⟩
    refine (meets_bind ..).2 (hcall.imp ?_)
    rintro held _ rfl
    exact ih

end Meets

/-! ### Written in the order of encryption -/

/-- The condition on a step: no goroutine encrypts while another one holds an encrypted cell
that it has not passed to the connection. -/
def EncryptsAlone {Tid : Type} (s : SendState Tid) (t : Tid) (a : SendAct) (_ : SendChoice) : Prop :=
  match a with
  | .encryptOnion _ _ _ => ∀ h ∈ s.inHand, h.1 = t
  | _ => True

instance {Tid : Type} [DecidableEq Tid] (s : SendState Tid) (t : Tid) (a : SendAct)
    (ch : SendChoice) : Decidable (EncryptsAlone s t a ch) := by
  unfold EncryptsAlone
  split <;> infer_instance

open SendState

section Order

variable {Tid : Type} {P : Primitives} {hops0 : List Hop} {s : SendState Tid} {held : Tid → Option (LinkCmd × Bytes)}
  {t : Tid}

/-- The shared invariant: the hops are those of the history, at most one cell is in hand, and
what was written is the history's cells, up to the one in hand and, on a dead connection, the
lost ones. -/
structure SendInv (P : Primitives) (hops0 : List Hop) (s : SendState Tid)
    (held : Tid → Option (LinkCmd × Bytes)) : Prop where
  hops : (replay P hops0 s.events).1 = s.circ.hops
  held_iff : ∀ t x, held t = some x ↔ (t, x) ∈ s.inHand
  alone : s.inHand.length ≤ 1
  order : s.onionWire <+: (replay P hops0 s.events).2
  whole : s.connOpen → (replay P hops0 s.events).2 = s.onionWire ++ s.inHand.map (·.2)

variable (h : SendInv P hops0 s held)
include h

lemma SendInv.frame {circ : Sender} (hcirc : circ.hops = s.circ.hops) : SendInv P hops0 { s with circ } held :=
  { h with
    hops := h.hops.trans hcirc.symm }

lemma SendInv.inHand_eq_nil (ht : held t = none)
    (halone : ∀ x ∈ s.inHand, x.1 = t) : s.inHand = [] := by
  rw [eq_nil_iff_forall_not_mem]
  rintro ⟨u, x⟩ hx
  obtain rfl := halone _ hx
  rw [← h.held_iff, ht] at hx
  exact absurd hx (by simp)

lemma SendInv.inHand_eq {x : LinkCmd × Bytes} (ht : held t = some x) : s.inHand = [(t, x)] := by
  have hx := (h.held_iff t x).1 ht
  obtain ⟨y, hy⟩ := length_eq_one_iff.1
    (Nat.le_antisymm h.alone (length_pos_of_mem hx))
  rw [hy, mem_singleton] at hx
  rw [hy, hx]

lemma SendInv.addHop {hs : Bool} {hop : Hop} {circ : Sender} (hadd : s.circ.addHop hs hop = .ok circ) :
    SendInv P hops0 { s with circ, events := s.events ++ [.addHop hop] } held := by
  have hhops : circ.hops = s.circ.hops ++ [hop] := by
    unfold Sender.addHop at hadd
    split at hadd
    · cases hadd; rfl
    · split at hadd <;> cases hadd
  have hrep : replay P hops0 (s.events ++ [.addHop hop]) =
      ((replay P hops0 s.events).1 ++ [hop], (replay P hops0 s.events).2) := replay_snoc _
  exact
    { h with
      hops := by rw [hrep, h.hops, hhops]
      order := by rw [hrep]; exact h.order
      whole := by rw [hrep]; exact h.whole }

omit h

variable [DecidableEq Tid]

lemma SendInv.encryptOnion (h : SendInv P hops0 s held) (ht : held t = none)
    (halone : ∀ x ∈ s.inHand, x.1 = t) {cmd : LinkCmd} {dest : ℤ} {payload : Bytes} :
    ∃ held', sendContract.post none (.encryptOnion cmd dest payload) (s.encryptOnion P t cmd dest payload).1 held' ∧
      SendInv P hops0 (s.encryptOnion P t cmd dest payload).2 (update held t held') := by
  have hnil := h.inHand_eq_nil ht halone
  have hnone : ∀ u x, held u ≠ some x := by
    intro u x hx
    rw [h.held_iff, hnil] at hx
    exact absurd hx (by simp)
  have hrep : replay P hops0 (s.events ++ [.onion cmd dest payload]) =
      replayStep P (s.circ.hops, (replay P hops0 s.events).2) (.onion cmd dest payload) := by
    rw [replay_snoc, ← h.hops]
  simp only [replayStep] at hrep
  unfold SendState.encryptOnion
  generalize Circuit.encryptOnion P s.circ.hops (cgoAD cmd) dest payload = res at hrep ⊢
  obtain ⟨hops, e | ⟨out, tag⟩⟩ := res
  · -- no cell came out, and none is in hand
    refine ⟨none, rfl, ?_⟩
    rw [← ht]
    exact
      { hops := by rw [hrep]
        held_iff := by simpa using h.held_iff
        alone := by simpa using h.alone
        order := by rw [hrep]; exact h.order
        whole := by rw [hrep]; simpa [onionWire] using h.whole }
  refine ⟨some (cmd, out), rfl, ?_⟩
  exact
    { hops := by rw [hrep]
      held_iff := by
        intro u x
        by_cases hu : u = t
        · subst hu
          simp [hnil, eq_comm]
        · simp [hnil, hu, hnone u x]
      alone := by simp [hnil]
      order := by rw [hrep]; exact h.order.trans (prefix_append ..)
      whole := by
        intro hopen
        rw [hrep, h.whole hopen]
        simp [onionWire] }

variable {ch : SendChoice} {s' : SendState Tid} {r : Except String Unit}

lemma SendState.sendCell_cases {onion : Bool} {cell : LinkCell} (hs : s.sendCell t onion cell ch = some (r, s')) :
    s' = { s with connOpen := false, inHand := s.restInHand t onion } ∨
    (s.connOpen = true ∧
      s' = { s with wire := s.wire ++ [(onion, cell)], inHand := s.restInHand t onion }) := by
  unfold sendCell at hs
  split at hs
  · exact .inl (by cases hs; rfl)
  · split at hs
    · next hopen => exact .inr ⟨hopen, by cases hs; rfl⟩
    · cases hs

include h

lemma SendInv.sendCell {onion : Bool} {cell : LinkCell}
    (ht : held t = if onion then some (cell.command, cell.payload) else none)
    (hs : s.sendCell t onion cell ch = some (r, s')) : SendInv P hops0 s' (update held t none) := by
  have hiff : ∀ u x, update held t none u = some x ↔ (u, x) ∈ s.restInHand t onion := by
    intro u x
    unfold restInHand
    by_cases hu : u = t
    · subst hu
      cases onion with
      | false => simp [← h.held_iff, show held u = none from ht]
      | true => simp
    · cases onion <;> simp [hu, h.held_iff]
  have hlen : (s.restInHand t onion).length ≤ 1 := by
    unfold restInHand
    split
    · exact Nat.le_trans (length_filter_le _ _) h.alone
    · exact h.alone
  have hhand : s.inHand.map (·.2) =
      (if onion then [(cell.command, cell.payload)] else []) ++ (s.restInHand t onion).map (·.2) := by
    unfold restInHand
    cases onion with
    | false => rfl
    | true => simp [h.inHand_eq ht]
  obtain rfl | ⟨hopen, rfl⟩ := sendCell_cases hs
  · -- the write failed: the connection takes no further cell
    exact ⟨h.hops, hiff, hlen, h.order, fun hopen => absurd hopen (by simp)⟩
  · have hwire : ∀ rest, ({ s with wire := s.wire ++ [(onion, cell)], inHand := rest } : SendState Tid).onionWire =
        s.onionWire ++ if onion then [(cell.command, cell.payload)] else [] := by
      cases onion <;> simp [onionWire]
    have hwhole := h.whole hopen
    rw [hhand, ← append_assoc, ← hwire] at hwhole
    exact ⟨h.hops, hiff, hlen, ⟨_, hwhole.symm⟩, fun _ => hwhole⟩

lemma SendInv.exec {a : SendAct}
    (hpre : sendContract.pre (held t) a) (hgood : EncryptsAlone s t a ch) {r : a.Resp}
    (hs : exec P t a ch s = some (r, s')) :
    ∃ held', sendContract.post (held t) a r held' ∧ SendInv P hops0 s' (update held t held') := by
  -- Every other action leaves the hops alone, and the order is about them.
  have hquiet : ∀ circ : Sender, circ.hops = s.circ.hops →
      SendInv P hops0 { s with circ } (update held t (held t)) := by
    intro circ hcirc
    rw [update_eq_self]
    exact h.frame hcirc
  cases a with
  | encryptOnion cmd dest payload =>
    cases hs
    rw [show held t = none from hpre]
    exact h.encryptOnion hpre hgood
  | sendCell onion cell => exact ⟨none, rfl, h.sendCell hpre hs⟩
  | snapshot | hopUsesCGO i | refundStreamPackageWindow i | setState state | setConnection =>
    cases hs; exact ⟨_, rfl, hquiet _ rfl⟩
  | randRead n =>
    refine ⟨held t, rfl, ?_⟩
    have hsame : s' = s := by
      cases ch with
      | done => cases hs
      | bytes b =>
        simp only [exec] at hs
        split at hs
        · cases hs; rfl
        · cases hs
      | fail e => cases hs; rfl
    rw [hsame]
    exact hquiet s.circ rfl
  | refundPackageWindow =>
    cases hs
    refine ⟨_, rfl, hquiet _ ?_⟩
    unfold refundPackageWindow
    split <;> rfl
  | recordSendmeTag tag =>
    cases hs
    refine ⟨_, rfl, hquiet _ ?_⟩
    unfold recordSendmeTag
    split <;> rfl
  | addHop toHS hop =>
    refine ⟨held t, by cases r <;> rfl, ?_⟩
    simp only [SendState.exec] at hs
    split at hs
    · next circ hadd =>
      cases hs
      rw [update_eq_self]
      exact h.addHop hadd
    · cases hs
      exact hquiet s.circ rfl

omit h

def sendersOf (circ : Sender) (connOpen : Bool) (calls : Tid → List SendCall) :
    Config Tid SendAct SendAct.Resp (SendState Tid) :=
  ⟨{ circ, connOpen }, fun t => goroutine (calls t)⟩

/-- **The cells are written in the order of their encryption**, in every run in which no
goroutine encrypts while another one holds an encrypted cell: what is on the connection is
the start of what a client puts there that performs the same encryptions one after the
other, and the circuit's ciphers and digests are that client's. -/
theorem sent_in_onion_order (circ : Sender) (connOpen : Bool) (calls : Tid → List SendCall)
    {sched : List (Tid × SendChoice)} {c : Config Tid SendAct SendAct.Resp (SendState Tid)}
    (halone : RunMeets (stepThread (exec P)) (OnAction EncryptsAlone) (sendersOf circ connOpen calls) sched)
    (hrun : run (stepThread (exec P)) (sendersOf circ connOpen calls) sched = some c) :
    c.shared.onionWire <+: (replay P circ.hops c.shared.events).2 ∧
    c.shared.circ.hops = (replay P circ.hops c.shared.events).1 := by
  have hstart : Guarded (fun _ => sendContract) (SendInv P circ.hops) (sendersOf circ connOpen calls) := by
    refine ⟨fun _ => none, ?_, fun t => meets_goroutine (calls t)⟩
    exact
      { hops := rfl
        held_iff := by simp [sendersOf]
        alone := by simp [sendersOf]
        order := nil_prefix
        whole := fun _ => rfl }
  obtain ⟨held, hinv, -⟩ := run_meets (fun s l t a ch r s' hi hpre hgood hex =>
    hi.exec hpre hgood hex) hstart halone hrun
  exact ⟨hinv.order, hinv.hops.symm⟩

end Order

/-! ### Two senders -/

def endCalls (second : Bool) : List SendCall :=
  [.emitRelayCell { command := relayEnd, streamID := if second then 2 else 1, data := [1] } false false]

/-- The first sender encrypts and writes its cell, then the second one. -/
def oneAfterTheOther : List (Bool × SendChoice) :=
  [false, false, false, true, true, true].map (·, .done)

theorem sent_in_onion_order_two :
    ∃ c, run (stepThread (exec xorPrimitives)) (sendersOf oneHop true endCalls)
        oneAfterTheOther = some c ∧ c.shared.wire.length = 2 ∧
      c.shared.onionWire <+: (replay xorPrimitives oneHop.hops c.shared.events).2 := by
  have hgood : RunMeets (stepThread (exec xorPrimitives)) (OnAction EncryptsAlone)
      (sendersOf oneHop true endCalls) oneAfterTheOther := by
    decide +kernel
  exact exists_some_and (by decide +kernel) fun c hc _ => (sent_in_onion_order _ _ _ hgood hc).1

/-- The second sender encrypts between the first one's encryption and its write, and writes
first. -/
def overtaking : List (Bool × SendChoice) :=
  [false, false, true, true, true, false].map (·, .done)

/-- **Two senders overtake each other**: no lock is held from the encryption to the write. -/
theorem sent_out_of_onion_order :
    ∃ c, run (stepThread (exec xorPrimitives)) (sendersOf oneHop true endCalls)
        overtaking = some c ∧ c.shared.wire.length = 2 ∧
      ¬ c.shared.onionWire <+: (replay xorPrimitives oneHop.hops c.shared.events).2 := by
  decide +kernel

end GoTor.Circuit
