import GoTor.Relay.LinkWriters

/-!
# Backward cells on the client's connection

Cells for the client come from exit pumps (`sendRelay`), readers of next hops
(`forwardCellToClient`), hidden-service and policy answers (`sendRelayToClient` and the like), the
answer to EXTEND2 and senders of DESTROY.  The layer of a relay cell is applied first, the cell is
written afterwards, in several calls of `Write`.  `circ.mu` spans both only in
`sendRelayToClient`, `sendStreamDoSEnd` and `rejectExitAttempt`; `sendRelay` gives it back before
it writes, the others do not take it.  No lock spans the calls of different circuits.
-/

namespace GoTor.Relay

open GoTor.Lib GoTor.Cell GoTor.Crypto Function List Option Command CircuitCrypto

structure Outgoing where
  cell : Cell
  /-- The place of its layer among all layers applied; `none` for a cell without one. -/
  layer : Option ℕ := none
  /-- Its sender holds `circ.mu` until the cell is written. -/
  locks : Bool := false
  deriving DecidableEq

/-- The place of the cell's layer, if it is a cell of this circuit. -/
def Outgoing.layerOn (circID : UInt32) (o : Outgoing) : Option ℕ :=
  if o.cell.circID = circID then o.layer else none

/-- The client's connection after the handshake. -/
structure BackwardLink where
  /-- The circuits of the connection, with their keys. -/
  crypto : UInt32 → Option CircuitCrypto := fun _ => none
  /-- `circ.mu` is held by a sender that writes. -/
  locked : UInt32 → Bool := fun _ => false
  clock : ℕ := 0
  /-- Cells with their layer, not yet begun, in the order of their layers. -/
  waiting : List Outgoing := []
  wire : Wire Outgoing := {}

inductive Sender
  /-- `sendRelay` of the exit. -/
  | exit (rc : RelayCell)
  /-- `sendRelayToClient`, `sendStreamDoSEnd` or `rejectExitAttempt`. -/
  | answer (rc : RelayCell)
  /-- `sendExtended2`. -/
  | extended (rc : RelayCell)
  deriving DecidableEq

inductive BackwardStep
  | circuit (circID : UInt32) (crypto : Option CircuitCrypto)
  /-- A sender applies the layer to its cell. -/
  | originate (circID : UInt32) (sender : Sender)
  /-- `forwardCellToClient`, up to its call of `Encode`: a cell read from a next hop, with that
  link's width. -/
  | forward (circID : UInt32) (width : ℕ) (input : Bytes)
  | destroy (circID : UInt32) (reason : UInt8)
  /-- The sender of the `i`-th waiting cell calls `Encode`. -/
  | encode (i : ℕ)
  /-- The `i`-th writer at work makes its next call of `Write`. -/
  | write (i : ℕ)
  deriving DecidableEq

namespace BackwardLink

variable (P : Primitives) (s : BackwardLink)

/-- A cell with its layer is ready to be written. -/
def layered (circID : UInt32) (locks : Bool) : Option (CircuitCrypto × Bytes) → BackwardLink
  -- no keys, or the encryption failed
  | none => s
  | some (cc, enc) =>
    { s with
      crypto := update s.crypto circID (some cc)
      locked := if locks then update s.locked circID true else s.locked
      clock := s.clock + 1
      waiting := s.waiting ++ [{
        cell := { circID, command := relay, payload := enc }
        layer := some s.clock
        locks }] }

/-- `circ.crypto.originateRelayTag`. -/
def originated (circID : UInt32) (rc : RelayCell) : Option (CircuitCrypto × Bytes) := do
  let cc ← s.crypto circID
  let (cc, enc, _) ← (cc.originateRelayTag P rc).toOption
  return (cc, enc)

/-- `circ.crypto.wrapOutbound`, with the check of the length before it. -/
def wrapped (circID : UInt32) (c : Cell) : Option (CircuitCrypto × Bytes) := do
  let cc ← s.crypto circID
  if c.payload.length ≠ 509 then none
  else (cc.wrapOutbound P c.payload c.command).toOption

/-- `Encode`: a writer starts. -/
def start (o : Outgoing) : BackwardLink :=
  { s with wire := s.wire.start o (o.cell.linkWrites 4) o.cell.encode.2.isNone }

def forwardCellToClient (circID : UInt32) (c : Cell) : BackwardLink :=
  if c.command = relay ∨ c.command = relayEarly then
    s.layered circID false (s.wrapped P circID c)
  else s.start { cell := { c with circID } }

def unlock (i : ℕ) (wire : Wire Outgoing) : BackwardLink :=
  match s.wire.writing[i]? with
  | some (o, [_], _) =>
    { s with
      wire
      locked := if o.locks then update s.locked o.cell.circID false else s.locked }
  | _ => { s with wire }

def step (s : BackwardLink) : BackwardStep → Option BackwardLink
  | .circuit circID crypto =>
    some { s with crypto := update s.crypto circID crypto }
  | .originate circID (.exit rc) =>
    if s.locked circID then none else some (s.layered circID false (s.originated P circID rc))
  | .originate circID (.answer rc) =>
    if s.locked circID then none else some (s.layered circID true (s.originated P circID rc))
  | .originate circID (.extended rc) => some (s.layered circID false (s.originated P circID rc))
  | .forward circID width input =>
    match decodeCellLink width input with
    | some (c, _) => some (s.forwardCellToClient P circID c)
    | none => none
  | .destroy circID reason => some (s.start { cell := destroyCell circID reason })
  | .encode i =>
    match s.waiting[i]? with
    | some o => some { s.start o with waiting := s.waiting.eraseIdx i }
    | none => none
  | .write i => (s.wire.write i).map (s.unlock i)

/-- The bytes are the cells written and part of one more, and the layers of the cells of a circuit
were applied in the order in which they are written. -/
structure InOrder (s : BackwardLink) : Prop where
  whole : ∃ part, s.wire.out =
    s.wire.sent.flatMap (fun o => (o.cell.linkWrites 4).flatten) ++ part ∧
      decodeCellLink 4 part = none ∧ (s.wire.writing = [] → part = [])
  layers : ∀ circID, (s.wire.sent.filterMap (Outgoing.layerOn circID)).Pairwise (· < ·)

/-- No sender begins inside another cell, or before a cell of its circuit whose layer was applied
earlier. -/
def OneAtATime (s : BackwardLink) : BackwardStep → Prop
  | .encode i => s.wire.writing = [] ∧
      ∀ o ∈ s.waiting[i]?, ∀ o' ∈ s.waiting.take i, o'.cell.circID ≠ o.cell.circID
  | .destroy _ _ => s.wire.writing = []
  -- a cell without a layer is written at once
  | .forward _ width input =>
    ∀ r ∈ decodeCellLink width input,
      ¬ (r.1.command = relay ∨ r.1.command = relayEarly) → s.wire.writing = []
  | _ => True

/-! ### One step -/

def begun (s : BackwardLink) : List Outgoing := s.wire.sent ++ s.wire.writing.map Prod.fst

/-- One cell is written at a time, and the cells of each circuit were begun, and wait, in the order
of their layers. -/
structure Sequenced (s : BackwardLink) : Prop where
  wire : s.wire.Exclusive (fun o => o.cell.Fits 4) (fun o => o.cell.linkWrites 4)
  fits : ∀ o ∈ s.waiting, o.cell.Fits 4
  layers : ∀ circID, ((s.begun ++ s.waiting).filterMap (Outgoing.layerOn circID)).Pairwise (· < ·)
  clock : ∀ circID, ∀ x ∈ (s.begun ++ s.waiting).filterMap (Outgoing.layerOn circID), x < s.clock

namespace Sequenced

variable {P : Primitives} {s s' : BackwardLink}

open Outgoing

lemma framing : Framing (fun o : Outgoing => o.cell.Fits 4) (fun o => o.cell.linkWrites 4)
    (fun o => o.cell.padded) (decodeCellLink 4) :=
  (framing_link 4).comap cell

lemma init : Sequenced {} :=
  ⟨Wire.exclusive_empty, fun _ h => (not_mem_nil h).elim, fun _ => .nil, fun _ _ h => (not_mem_nil h).elim⟩

/-- What counts of the link: its stream, the cells begun and waiting for each circuit, and the
clock. -/
lemma of_eq (h : Sequenced s)
    (hwire : s'.wire.Exclusive (fun o => o.cell.Fits 4) (fun o => o.cell.linkWrites 4))
    (hfits : ∀ o ∈ s'.waiting, o.cell.Fits 4)
    (hlayers : ∀ circID, (s'.begun ++ s'.waiting).filterMap (layerOn circID) =
      (s.begun ++ s.waiting).filterMap (layerOn circID))
    (hclock : s'.clock = s.clock) : Sequenced s' where
  wire := hwire
  fits := hfits
  layers circID := hlayers circID ▸ h.layers circID
  clock circID := hlayers circID ▸ hclock ▸ h.clock circID

lemma exclusive_start (h : Sequenced s) {o : Outgoing} (hfree : s.wire.writing = []) (ho : o.cell.Fits 4) :
    (s.start o).wire.Exclusive (fun o => o.cell.Fits 4) (fun o => o.cell.linkWrites 4) := by
  rw [start, OrLink.encode_isNone ho]
  exact h.wire.start framing hfree ho

lemma begun_start (o : Outgoing) : (s.start o).begun = s.begun ++ [o] := by
  simp [begun, start, Wire.start]

lemma start (h : Sequenced s) {c : Cell} (hfree : s.wire.writing = []) (hc : c.Fits 4) :
    Sequenced (s.start { cell := c }) := by
  refine h.of_eq (h.exclusive_start hfree hc) h.fits (fun circID => ?_) rfl
  rw [begun_start]
  have hnone : layerOn circID { cell := c } = none := by
    unfold layerOn
    split <;> rfl
  simp [hnone, BackwardLink.start]

variable {circID : UInt32}

lemma layered (h : Sequenced s) {locks : Bool} {r : Option (CircuitCrypto × Bytes)}
    (hr : ∀ cc enc, r = some (cc, enc) → enc.length = 509) :
    Sequenced (s.layered circID locks r) := by
  cases r with
  | none => exact h
  | some r =>
    obtain ⟨cc, enc⟩ := r
    have hfits : (Cell.mk circID relay enc).Fits 4 :=
      fits_of_length (Nat.le_of_eq (hr cc enc rfl))
    set o : Outgoing := ⟨⟨circID, relay, enc⟩, some s.clock, locks⟩ with ho
    -- The new cell carries the current clock, which is above every earlier layer.
    have hlast : ∀ c, ∀ x ∈ [o].filterMap (layerOn c), x = s.clock := by
      intro c x hx
      obtain ⟨o', ho', hx⟩ := mem_filterMap.1 hx
      rw [mem_singleton.1 ho'] at hx
      obtain ⟨-, hx⟩ := ite_none_right_eq_some.1 hx
      exact (some.inj hx).symm
    have hall : ∀ c, ((s.layered circID locks (some (cc, enc))).begun ++
        (s.layered circID locks (some (cc, enc))).waiting).filterMap (layerOn c) =
        (s.begun ++ s.waiting).filterMap (layerOn c) ++ [o].filterMap (layerOn c) := by
      intro c
      rw [← filterMap_append, append_assoc]
      rfl
    refine ⟨h.wire, fun o' ho' => ?_, fun c => ?_, fun c x hx => ?_⟩
    · exact forall_mem_append.2 ⟨h.fits, forall_mem_singleton.2 hfits⟩ o' ho'
    · rw [hall]
      have hone : ([o].filterMap (layerOn c)).Pairwise (· < ·) := by
        rw [filterMap_cons]
        split <;> simp
      refine pairwise_append.2 ⟨h.layers c, hone, fun x hx y hy => ?_⟩
      rw [hlast c y hy]
      exact h.clock c x hx
    · change x < s.clock + 1
      rw [hall] at hx
      rcases mem_append.1 hx with hx | hx
      · exact Nat.lt_succ_of_lt (h.clock c x hx)
      · rw [hlast c x hx]
        exact Nat.lt_succ_self _

lemma encode (h : Sequenced s) {i : ℕ} {o : Outgoing} (ho : s.waiting[i]? = some o) (hfree : s.wire.writing = [])
    (hfirst : ∀ o' ∈ s.waiting.take i, o'.cell.circID ≠ o.cell.circID) :
    Sequenced { s.start o with waiting := s.waiting.eraseIdx i } := by
  have hmem : o ∈ s.waiting := mem_of_getElem? ho
  have hsplit : s.waiting = s.waiting.take i ++ o :: s.waiting.drop (i + 1) := by
    obtain ⟨hlt, rfl⟩ := List.getElem?_eq_some_iff.1 ho
    rw [← drop_eq_getElem_cons hlt, take_append_drop]
  refine h.of_eq (h.exclusive_start hfree (h.fits o hmem)) (fun o' ho' => ?_) (fun c => ?_) rfl
  · exact h.fits o' (mem_of_mem_eraseIdx ho')
  have hbegun : begun { s.start o with waiting := s.waiting.eraseIdx i } = s.begun ++ [o] :=
    begun_start o
  rw [hbegun]
  rw [eraseIdx_eq_take_drop_succ]
  conv_rhs => rw [hsplit]
  simp only [filterMap_append, filterMap_cons, filterMap_nil, append_assoc]
  by_cases hc : o.cell.circID = c
  · -- no cell of its circuit waits in front of it
    have hnil : (s.waiting.take i).filterMap (layerOn c) = [] := by
      refine filterMap_eq_nil_iff.2 fun o' ho' => if_neg fun hc' => ?_
      exact hfirst o' ho' (hc'.trans hc.symm)
    rw [hnil]
    cases layerOn c o <;> rfl
  · have hnone : layerOn c o = none := if_neg hc
    simp only [hnone, nil_append]

lemma write (h : Sequenced s) {i : ℕ} {wire : Wire Outgoing}
    (hw : s.wire.write i = some wire) : Sequenced (s.unlock i wire) := by
  have hwire : (s.unlock i wire).wire = wire := by
    unfold unlock
    split <;> rfl
  have hwaiting : (s.unlock i wire).waiting = s.waiting := by
    unfold unlock
    split <;> rfl
  have hclock : (s.unlock i wire).clock = s.clock := by
    unfold unlock
    split <;> rfl
  refine h.of_eq ?_ (hwaiting ▸ h.fits) (fun c => ?_) hclock
  · rw [hwire]
    exact (h.wire.write hw).1
  · rw [hwaiting, begun, hwire, (h.wire.write hw).2]
    rfl

lemma length_originated {rc : RelayCell} (cc : CircuitCrypto) (enc : Bytes)
    (h : s.originated P circID rc = some (cc, enc)) : enc.length = 509 := by
  simp only [originated, bind_eq_bind, bind_eq_some_iff] at h
  obtain ⟨cc0, -, ⟨cc1, enc', tag⟩, horig, hret⟩ := h
  cases hret
  obtain ⟨plain, -, henc⟩ := bind_eq_ok.1 (toOption_eq_some.1 horig)
  exact length_of_encryptOutbound henc

lemma length_wrapped {c : Cell} (cc : CircuitCrypto) (enc : Bytes)
    (h : s.wrapped P circID c = some (cc, enc)) : enc.length = 509 := by
  simp only [wrapped, bind_eq_bind, bind_eq_some_iff] at h
  obtain ⟨cc0, -, hwrap⟩ := h
  obtain ⟨-, hwrap⟩ := ite_none_left_eq_some.1 hwrap
  exact length_of_wrapOutbound (toOption_eq_some.1 hwrap)

lemma step (h : Sequenced s) {e : BackwardStep} (hone : s.OneAtATime e)
    (hstep : s.step P e = some s') : Sequenced s' := by
  cases e with
  | circuit circID crypto =>
    cases hstep
    exact { h with }
  | originate circID sender =>
    cases sender with
    | exit rc =>
      obtain ⟨-, ⟨⟩⟩ := ite_none_left_eq_some.1 hstep
      exact h.layered length_originated
    | answer rc =>
      obtain ⟨-, ⟨⟩⟩ := ite_none_left_eq_some.1 hstep
      exact h.layered length_originated
    | extended rc =>
      cases hstep
      exact h.layered length_originated
  | forward circID width input =>
    simp only [BackwardLink.step] at hstep
    split at hstep
    · next c rest hdec =>
      cases hstep
      unfold forwardCellToClient
      split
      · -- a relay cell gets the layer
        exact h.layered length_wrapped
      next hplain =>
        -- any other cell goes on as it is
        have hfits : c.Fits 4 := fits_of_decode hdec
        exact h.start (hone (c, rest) hdec hplain) ⟨.inl rfl, hfits.2⟩
    · cases hstep
  | destroy circID reason =>
    cases hstep
    exact h.start hone fits_destroyCell
  | encode i =>
    simp only [BackwardLink.step] at hstep
    split at hstep
    · next o ho =>
      cases hstep
      exact h.encode ho hone.1 (hone.2 o ho)
    · cases hstep
  | write i =>
    obtain ⟨wire, hwire, rfl⟩ := map_eq_some_iff.1 hstep
    exact h.write hwire

lemma inOrder (h : Sequenced s) : s.InOrder where
  whole := by
    by_cases hfree : s.wire.writing = []
    · refine ⟨[], ?_, (framing_link 4).nil, fun _ => rfl⟩
      rw [append_nil]
      exact h.wire.out_eq_of_free hfree
    · obtain ⟨part, hout, hpart⟩ := h.wire.out_eq framing
      exact ⟨part, hout, hpart, fun hnil => absurd hnil hfree⟩
  layers circID := by
    have hall := h.layers circID
    rw [begun, append_assoc, filterMap_append] at hall
    exact (pairwise_append.1 hall).1

end Sequenced

/-! ### Whole runs -/

/-- **The client's connection carries whole cells, those of each circuit in the order of their
layers**, in every run in which no cell is begun inside another one, or before a cell of its
circuit whose layer was applied earlier. -/
theorem backward_in_order (P : Primitives) (es : List BackwardStep) (s : BackwardLink)
    (hone : RunMeets (step P) OneAtATime {} es) (hrun : run (step P) {} es = some s) :
    s.InOrder := by
  have hseq : Sequenced s :=
    run_inv (fun _ _ _ h hone hstep => Sequenced.step h hone hstep) .init hone hrun
  exact hseq.inOrder

instance decidableOneAtATime (s : BackwardLink) : (e : BackwardStep) → Decidable (s.OneAtATime e)
  | .encode _ => inferInstanceAs (Decidable (_ ∧ _))
  | .destroy _ _ => inferInstanceAs (Decidable (s.wire.writing = []))
  | .forward _ width input => inferInstanceAs (Decidable (∀ r ∈ decodeCellLink width input, _ → _))
  | .circuit _ _ | .originate _ _ | .write _ => isTrue trivial

/-- A circuit, and the END cells of two of its streams, with their layers. -/
def twoLayered : List BackwardStep :=
  [.circuit 7 (some (.tor1 { key := zeros 16, iv := Block.copyOf [] }
      { key := zeros 16, iv := Block.copyOf [] } [] [])),
    .originate 7 (.exit { command := relayEnd, streamID := 1, data := [6] }),
    .originate 7 (.exit { command := relayEnd, streamID := 2, data := [6] })]

def oneCell : List BackwardStep := .replicate 3 (.write 0)

theorem backward_in_order_two :
    ∃ s, run (step xorPrimitives) {} (twoLayered ++ .encode 0 :: oneCell ++ .encode 0 :: oneCell) =
        some s ∧ s.wire.sent.length = 2 ∧ s.InOrder :=
  exists_some_and (by decide +kernel) fun s hs _ =>
    backward_in_order xorPrimitives _ s (by decide +kernel) hs

/-- The second cell is written first; and two DESTROY cells whose calls alternate are not whole. -/
theorem backward_out_of_order :
    (∃ s, run (step xorPrimitives) {}
        (twoLayered ++ .encode 1 :: oneCell ++ .encode 0 :: oneCell) = some s ∧
      s.wire.sent.filterMap (Outgoing.layerOn 7) = [1, 0] ∧ ¬ s.InOrder) ∧
    ∃ s, run (step xorPrimitives) {}
        ([.destroy 7 1, .destroy 8 1, .write 0, .write 1] ++ .replicate 6 (.write 0)) = some s ∧
      s.wire.writing = [] ∧ ¬ s.InOrder := by
  constructor
  · refine exists_some_and (by decide +kernel) fun s hs hlayers hin => ?_
    have hpair := hin.layers 7
    rw [hlayers] at hpair
    exact absurd hpair (by decide)
  · refine exists_some_imp (P := fun s => s.wire.writing = [] ∧ s.wire.out ≠
      s.wire.sent.flatMap fun o => (o.cell.linkWrites 4).flatten) (by decide +kernel) ?_
    rintro s - ⟨hfree, hne⟩
    refine ⟨hfree, fun hin => ?_⟩
    obtain ⟨part, hout, -, hpart⟩ := hin.whole
    rw [hpart hfree, append_nil] at hout
    exact hne hout

end BackwardLink

end GoTor.Relay
