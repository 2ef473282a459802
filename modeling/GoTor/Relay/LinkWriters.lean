import GoTor.Cell.LinkCodec
import GoTor.Crypto.NtorV3Agreement
import GoTor.Relay.Create

/-!
# What a relay writes on an inbound link

After the link handshake every part of the relay that answers on a connection holds the bare
connection and calls `Encode` on it: the CREATE2 handler, the forwarder, the exit streams, the
readers of the next hops.  `Encode` writes circuit IDs of four bytes, in several calls of `Write`,
and no lock spans them.  The cells come out as a peer of the negotiated version reads them as long
as that version has circuit IDs of four bytes and no cell is begun inside another one.
-/

namespace GoTor.Relay

open GoTor.Lib GoTor.Cell GoTor.Crypto Option Command CircuitCrypto

/-! ### The cells -/

section Cells

variable (P : Primitives)

def CircuitCrypto.plainRelay (cc : CircuitCrypto) (rc : RelayCell) : Except String Bytes :=
  match cc with
  | .cgo _ => (encodeRelayCellV1 rc).map (·.2)
  | .tor1 _ _ _ _ => rc.encode.map fun (_, plain) =>
      if plain.length ≠ 509 then plain.take 509 ++ zeros (509 - plain.length) else plain

def CircuitCrypto.originateRelayTag (cc : CircuitCrypto) (rc : RelayCell) :
    Except String (CircuitCrypto × Bytes × Bytes) := do
  let plain ← cc.plainRelay rc
  cc.encryptOutbound P plain

/-- The cell of `sendRelay`, `sendRelayToClient`, `sendStreamDoSEnd`, `rejectExitAttempt` and
`sendExtended2`, for a circuit with these keys. -/
def relayCellOut (circID : UInt32) (cc : CircuitCrypto) (rc : RelayCell) : Except String Cell := do
  let (_, enc, _) ← cc.originateRelayTag P rc
  return { circID, command := relay, payload := enc }

/-- The cell of `forwardCellToClient`: a cell of the next hop on its way back. -/
def forwardedCell (clientCircuitID : UInt32) (cc : CircuitCrypto) (c : Cell) : Except String Cell :=
  if c.command = relay ∨ c.command = relayEarly then
    if c.payload.length ≠ 509 then .error s!"invalid relay payload len {c.payload.length}"
    else do
      let (_, enc) ← cc.wrapOutbound P c.payload c.command
      return { circID := clientCircuitID, command := relay, payload := enc }
  else .ok { c with circID := clientCircuitID }

end Cells

/-! ### The connection -/

/-- `selectVersion`: the highest version both sides speak, `0` for none. -/
def selectVersion (clientVersions : List ℕ) : ℕ :=
  (([5, 4, 3] : List ℕ).find? fun v => clientVersions.contains v).getD 0

/-- The width of circuit IDs at a link version, as `HandleConnection` sets it. -/
def circIDLenOf (version : ℕ) : ℕ := if version ≥ 4 then 4 else 2

/-- An inbound connection after the handshake, with the tables of the relay. -/
structure OrLink where
  version : ℕ
  peer : LinkPeer
  handler : CircuitHandler
  wire : Wire Cell

/-- `HandleConnection`, for a client that offers these versions. -/
def OrLink.established (clientVersions : List ℕ) (peer : LinkPeer) (handler : CircuitHandler) : Option OrLink :=
  let version := selectVersion clientVersions
  if version = 0 then none else some { version, peer, handler, wire := {} }

inductive LinkStep
  /-- The connection's own loop handles a received cell; a circuit is created with the
  ephemeral key `y`, unless its address is refused. -/
  | receive (refused : Bool) (y : Key32) (c : Cell)
  /-- Another part of the relay sends a DESTROY cell. -/
  | destroy (circID : UInt32) (reason : UInt8)
  /-- A part of the relay sends a relay cell of its own on a circuit with these keys. -/
  | relay (circID : UInt32) (cc : CircuitCrypto) (rc : RelayCell)
  /-- A cell read from a next hop, with that link's width, is passed back. -/
  | forward (circID : UInt32) (cc : CircuitCrypto) (width : ℕ) (input : Bytes)
  | write (i : ℕ)

namespace OrLink

variable (N : NtorPrimitives) (P : Primitives) (s : OrLink)

/-- `c.Encode(conn)`: a writer starts. -/
def send (c : Cell) : OrLink :=
  { s with wire := s.wire.start c (c.linkWrites 4) c.encode.2.isNone }

/-- `handleIncomingCell`: the tables afterwards and the cell answered, if any.  The answers of the
forwarder are steps of their own. -/
def handleIncomingCell (refused : Bool) (y : Key32) (c : Cell) : CircuitHandler × Res (Option Cell) :=
  if c.command = create2 then
    let (h, r) := handleCreate2Auth N refused s.peer y c s.handler
    (h, r.map some)
  else if c.command = relay ∨ c.command = relayEarly then
    match s.handler.circuits c.circID with
    | none => (s.handler, .ok (some (destroyCell c.circID destroyReasonProtocol)))
    | some _ => (s.handler, .ok none)
  else if c.command = destroy then
    ({ s.handler with
        circuits := Function.update s.handler.circuits c.circID none
        circCC := Function.update s.handler.circCC c.circID none }, .ok none)
  else (s.handler, .ok none)

def cellOf : LinkStep → Option Cell
  | .receive refused y c => (s.handleIncomingCell N refused y c).2.toOption.join
  | .destroy circID reason => some (destroyCell circID reason)
  | .relay circID cc rc => (relayCellOut P circID cc rc).toOption
  | .forward circID cc width input => do
    let (c, _) ← decodeCellLink width input
    (forwardedCell P circID cc c).toOption
  | .write _ => none

def step (a : LinkStep) : Option OrLink :=
  match a with
  | .write i => (s.wire.write i).map fun wire => { s with wire }
  | .receive refused y c =>
    let s' := { s with handler := (s.handleIncomingCell N refused y c).1 }
    some (((s.cellOf N P a).map s'.send).getD s')
  | _ => some (((s.cellOf N P a).map s.send).getD s)

/-- No cell is begun on a link with narrow circuit IDs, or inside another cell. -/
def Orderly (a : LinkStep) : Prop :=
  s.cellOf N P a ≠ none → 4 ≤ s.version ∧ s.wire.writing = []

/-- A peer that reads with the width of the negotiated version finds the cells sent. -/
structure Recovered (s : OrLink) : Prop where
  width : ∃ part, s.wire.out =
    s.wire.sent.flatMap (fun c => (c.linkWrites (circIDLenOf s.version)).flatten) ++ part ∧
      decodeCellLink (circIDLenOf s.version) part = none
  decoded : decodeAll (decodeCellLink (circIDLenOf s.version)) s.wire.out.length s.wire.out =
    s.wire.sent.map Cell.padded

end OrLink

open OrLink

/-! ### Every cell fits the wide format -/

variable {c : Cell}

section Fits

variable {N : NtorPrimitives} {P : Primitives}

lemma fits_of_length (h : c.payload.length ≤ 509) : c.Fits 4 := by
  refine ⟨.inl rfl, ?_⟩
  split
  · omega
  · exact h

variable {circID : UInt32} {cc : CircuitCrypto} {y : Key32}

lemma fits_destroyCell {reason : UInt8} : (destroyCell circID reason).Fits 4 :=
  fits_of_length (by simp [destroyCell])

variable {cell : Cell}

lemma fits_relayCellOut {rc : RelayCell} (h : relayCellOut P circID cc rc = .ok cell) : cell.Fits 4 := by
  obtain ⟨⟨cc', enc, tag⟩, horig, hret⟩ := bind_eq_ok.1 h
  obtain ⟨plain, -, henc⟩ := bind_eq_ok.1 horig
  cases hret
  exact fits_of_length (Nat.le_of_eq (length_of_encryptOutbound henc))

lemma fits_of_decode {width : ℕ} {input rest : Bytes} (h : decodeCellLink width input = some (c, rest)) : c.Fits 4 :=
  ⟨.inl rfl, (encode_of_decodeCellLink h).1.2⟩

lemma fits_forwardedCell (hc : c.Fits 4) (h : forwardedCell P circID cc c = .ok cell) : cell.Fits 4 := by
  unfold forwardedCell at h
  split at h
  · split at h
    · cases h
    · obtain ⟨⟨cc', enc⟩, hwrap, hret⟩ := bind_eq_ok.1 h
      cases hret
      exact fits_of_length (Nat.le_of_eq (length_of_wrapOutbound hwrap))
  · cases h
    exact ⟨.inl rfl, hc.2⟩

lemma length_response {keys : RelayKeys} {htype : ℕ} {data response keyMaterial circNonce : Bytes}
    (h : create2Handshake N keys y htype data = some (.ok (response, keyMaterial, circNonce))) :
    response.length ≤ 68 := by
  unfold create2Handshake at h
  split at h
  · split at h
    · cases h
    obtain ⟨⟨resp, expanded⟩, hcore, hrest⟩ := bind_eq_ok.1 (some.inj h)
    obtain ⟨⟨km, cn⟩, -, hret⟩ := bind_eq_ok.1 hrest
    cases hret
    rw [length_of_ntorServerHandshakeCore hcore]
    omega
  split at h
  · split at h
    · cases h
    obtain ⟨o, -, hanswer⟩ := bind_eq_ok.1 (some.inj h)
    obtain ⟨cgo, auth, -, hauth, rfl⟩ := ntorV3Answer_eq_ok hanswer
    have hmsg : ccResponseMsg.length = 4 := by decide
    simp only [List.length_append, Vector.length_toList, length_ntorV3Mask, getD_some]
    omega
  · cases h

lemma fits_handleCreate2Auth {refused : Bool} {peer : LinkPeer} {h : CircuitHandler}
    (hcell : (handleCreate2Auth N refused peer y c h).2 = .ok cell) : cell.Fits 4 := by
  rcases @handleCreate2Auth_cases N refused peer y c h with ⟨reason, heq⟩ | ⟨fault, heq⟩ |
    ⟨response, keyMaterial, circNonce, crypto, -, hanswer, -, heq⟩
  · rw [heq] at hcell
    cases hcell
    exact fits_destroyCell
  · rw [heq] at hcell
    cases hcell
  · rw [heq] at hcell
    rw [created2Cell_eq_ok hcell]
    have := length_response hanswer
    refine fits_of_length ?_
    simp only [List.length_append, length_bytesOfNat]
    omega

lemma OrLink.fits_handleIncomingCell {s : OrLink} {refused : Bool}
    (h : (s.handleIncomingCell N refused y c).2 = .ok (some cell)) : cell.Fits 4 := by
  unfold handleIncomingCell at h
  split at h
  · obtain ⟨cell', hcell, heq⟩ := map_eq_ok.1 h
    cases heq
    exact fits_handleCreate2Auth hcell
  split at h
  · split at h
    · cases h
      exact fits_destroyCell
    · cases h
  split at h
  · cases h
  · cases h

/-- **Every cell the relay writes can be written with wide circuit IDs.** -/
theorem OrLink.fits_cellOf {s : OrLink} {a : LinkStep} (h : s.cellOf N P a = some cell) : cell.Fits 4 := by
  cases a with
  | receive refused y c =>
    exact fits_handleIncomingCell (toOption_eq_some.1 (join_eq_some_iff.1 h))
  | destroy circID reason =>
    cases h
    exact fits_destroyCell
  | relay circID cc rc => exact fits_relayCellOut (toOption_eq_some.1 h)
  | forward circID cc width input =>
    simp only [cellOf, bind_eq_bind, bind_eq_some_iff] at h
    obtain ⟨⟨c, rest⟩, hdec, hfwd⟩ := h
    exact fits_forwardedCell (fits_of_decode hdec) (toOption_eq_some.1 hfwd)
  | write i => cases h

end Fits

/-! ### Runs -/

namespace OrLink

section Runs

variable {N : NtorPrimitives} {P : Primitives} {s s' : OrLink} {a : LinkStep}

/-- The stream of a link with wide circuit IDs that one writer at a time has used; a link with
narrow ones has not been used. -/
def Proper (s : OrLink) : Prop :=
  (4 ≤ s.version → s.wire.Exclusive (Cell.Fits 4) (Cell.linkWrites 4)) ∧ (s.version < 4 → s.wire = {})

lemma encode_isNone (h : c.Fits 4) : c.encode.2.isNone = true := by
  rw [Cell.encode, encodeLink_accepts.2 h]
  rfl

lemma Proper.send (h : s.Proper) (hc : c.Fits 4) (hversion : 4 ≤ s.version)
    (hfree : s.wire.writing = []) : (s.send c).Proper := by
  refine ⟨fun _ => ?_, fun hlt => absurd hversion (Nat.not_le.2 hlt)⟩
  rw [OrLink.send, encode_isNone hc]
  exact (h.1 hversion).start (framing_link 4) hfree hc

lemma step_cases (hs : s.step N P a = some s') :
    (∃ i wire, s.wire.write i = some wire ∧ s' = { s with wire }) ∨
    (∃ handler, s' = { s with handler }) ∨
    ∃ handler c, s.cellOf N P a = some c ∧ s' = send { s with handler } c := by
  cases a with
  | write i =>
    obtain ⟨wire, hwire, rfl⟩ := map_eq_some_iff.1 hs
    exact .inl ⟨i, wire, hwire, rfl⟩
  | receive refused y c =>
    have hs := some.inj hs
    cases hcell : s.cellOf N P (.receive refused y c) with
    | none =>
      rw [hcell] at hs
      exact .inr (.inl ⟨_, hs.symm⟩)
    | some cell =>
      rw [hcell] at hs
      exact .inr (.inr ⟨_, cell, rfl, hs.symm⟩)
  | _ =>
    have hs := some.inj hs
    generalize s.cellOf N P _ = cell at hs ⊢
    cases cell with
    | none => exact .inr (.inl ⟨s.handler, hs.symm⟩)
    | some cell => exact .inr (.inr ⟨s.handler, cell, rfl, hs.symm⟩)

lemma Proper.step (h : s.Proper) (ha : s.Orderly N P a) (hs : s.step N P a = some s') : s'.Proper := by
  rcases step_cases hs with ⟨i, wire, hwire, rfl⟩ | ⟨handler, rfl⟩ | ⟨handler, c, hcell, rfl⟩
  · refine ⟨fun hversion => ((h.1 hversion).write hwire).1, fun hlt => ?_⟩
    rw [h.2 hlt] at hwire
    cases hwire
  · exact h
  · obtain ⟨hversion, hfree⟩ := ha (by simp [hcell])
    have h' : OrLink.Proper { s with handler } := h
    exact h'.send (fits_cellOf hcell) hversion hfree

lemma Proper.recovered (h : s.Proper) : s.Recovered := by
  by_cases hversion : 4 ≤ s.version
  · have hwidth : circIDLenOf s.version = 4 := if_pos hversion
    have hwire := h.1 hversion
    refine ⟨?_, ?_⟩
    · rw [hwidth]
      exact hwire.out_eq (framing_link 4)
    · rw [hwidth]
      exact hwire.decodeAll (framing_link 4)
  · have hwire := h.2 (Nat.lt_of_not_le hversion)
    refine ⟨⟨[], ?_, (framing_link _).nil⟩, ?_⟩
    · rw [hwire]
      rfl
    · rw [hwire]
      rfl

/-- **A peer of the negotiated version recovers exactly the cells sent**, in every run in which no
cell is begun on a link of version 3 or inside another cell. -/
theorem cells_recovered (N : NtorPrimitives) (P : Primitives) (clientVersions : List ℕ)
    (peer : LinkPeer) (handler : CircuitHandler) (s s' : OrLink) (steps : List LinkStep)
    (hest : established clientVersions peer handler = some s)
    (hrun : run (step N P) s steps = some s') (hgood : RunMeets (step N P) (Orderly N P) s steps) :
    s'.Recovered := by
  have hproper : s.Proper := by
    unfold established at hest
    dsimp only at hest
    split at hest
    · cases hest
    · cases hest
      exact ⟨fun _ => Wire.exclusive_empty, fun _ => rfl⟩
  exact (run_inv (fun _ _ _ h ha hs => Proper.step h ha hs) hproper hgood hrun).recovered

end Runs

/-! ### Runs on two links -/

instance (N : NtorPrimitives) (P : Primitives) (s : OrLink) (a : LinkStep) : Decidable (s.Orderly N P a) :=
  inferInstanceAs (Decidable (_ → _))

def idlePrimitives : Primitives where
  aes _ := Equiv.refl _
  sha1 _ := Vector.replicate 20 0

def emptyHandler : CircuitHandler where
  keys := { ed25519Public := vectorID, ntorOnionKey := vectorB.toList, rsaNodeID := zeros 20 }
  circuits _ := none
  circCC _ := none

def anyPeer : LinkPeer where
  linkAuthed := false
  rsaFP := ""
  edID := []

/-- A CREATE2 cell of an unknown handshake type is answered with DESTROY, in four calls. -/
def unknownCreate2 : List LinkStep :=
  [.receive false vectorY ⟨7, create2, [0, 9] ++ zeros 507⟩, .write 0, .write 0, .write 0, .write 0]

theorem cells_recovered_destroy :
    ∃ s s', established [3, 4] anyPeer emptyHandler = some s ∧
      run (step vectorPrimitives idlePrimitives) s unknownCreate2 = some s' ∧
      s'.wire.sent = [destroyCell 7 destroyReasonProtocol] ∧ s'.Recovered := by
  have hrun : (run (step vectorPrimitives idlePrimitives)
      { version := 4, peer := anyPeer, handler := emptyHandler, wire := {} } unknownCreate2).map
      (·.wire.sent) = some [destroyCell 7 destroyReasonProtocol] := by decide +kernel
  obtain ⟨s', hs', hsent⟩ := map_eq_some_iff.1 hrun
  exact ⟨_, s', rfl, hs', hsent, cells_recovered vectorPrimitives idlePrimitives [3, 4] anyPeer
    emptyHandler _ s' unknownCreate2 rfl hs' (by decide +kernel)⟩

/-- On a link of version 3 the peer reads the DESTROY cell of circuit 7 as a PADDING cell. -/
theorem destroy_misread :
    ∃ s s', established [3] anyPeer emptyHandler = some s ∧
      run (step vectorPrimitives idlePrimitives) s unknownCreate2 = some s' ∧
      s'.wire.sent = [destroyCell 7 destroyReasonProtocol] ∧ s'.wire.writing = [] ∧
      decodeAll (decodeCellLink (circIDLenOf s'.version)) s'.wire.out.length s'.wire.out =
        [⟨0, padding, [7, 4, 1] ++ zeros 506⟩] ∧ ¬ s'.Recovered := by
  have hrun : (run (step vectorPrimitives idlePrimitives)
      { version := 3, peer := anyPeer, handler := emptyHandler, wire := {} } unknownCreate2).map
      (fun s' => (s'.wire.sent, s'.wire.writing.length,
        decodeAll (decodeCellLink (circIDLenOf s'.version)) s'.wire.out.length s'.wire.out)) =
      some ([destroyCell 7 destroyReasonProtocol], 0,
        [⟨0, padding, [7, 4, 1] ++ zeros 506⟩]) := by decide +kernel
  obtain ⟨s', hs', hall⟩ := map_eq_some_iff.1 hrun
  obtain ⟨hsent, hall⟩ := Prod.mk.inj hall
  obtain ⟨hwriting, hdecoded⟩ := Prod.mk.inj hall
  refine ⟨_, s', rfl, hs', hsent, List.length_eq_zero_iff.1 hwriting, hdecoded, fun hrec => ?_⟩
  have := hrec.decoded
  rw [hdecoded, hsent] at this
  exact absurd this (by decide +kernel)

end OrLink

end GoTor.Relay
