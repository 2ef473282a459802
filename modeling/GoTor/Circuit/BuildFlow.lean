import GoTor.Onion.FlowControl

/-!
# Flow control of a built circuit

The circuit has one flow control, and every handshake of its hops may write it.  The mode of the
built circuit should be the one negotiated with the last hop, which is the other end of the
windows.  No handshake ever takes congestion control back.
-/

namespace GoTor.Circuit

open GoTor.Lib GoTor.Crypto List Circ

/-- What the circuit's flow control consists of. -/
structure FlowState where
  vegas : Option VegasWindow
  sendmeInc : ℕ
  packageWindow : ℤ
  deliverWindow : ℤ
  sendmeReceived : ℕ
  sendmeExpected : List Bytes
  deriving DecidableEq

def Circ.flowState (c : Circ) : FlowState where
  vegas := c.vegas
  sendmeInc := c.sendmeInc
  packageWindow := c.packageWindow
  deliverWindow := c.deliverWindow
  sendmeReceived := c.sendmeReceived
  sendmeExpected := c.sendmeExpected

/-- The flow control right after `EnableCongestionControl` with an initial window `cwnd`. -/
def FlowState.enabled (cwnd inc : ℕ) : FlowState :=
  ⟨some { inflight := 0, cwnd := cwnd }, inc, cwnd, cwnd, 0, []⟩

def Circ.cwndStart (c : Circ) : ℕ := if c.cwndInit < 1 then circWindowInit else c.cwndInit

/-- The circuit with the flow control that was negotiated: none stands for what it has. -/
def Circ.negotiate (c : Circ) (cc : Option ℕ) : Circ :=
  (cc.map c.enableCongestionControl).getD c

/-- The handshake with a hop: whether the client asked for congestion control (`requestCC`), and
the answer. -/
structure HopHandshake where
  extension : Extension
  requestCC : Bool
  response : Bytes

namespace HopHandshake

variable (N : NtorPrimitives) (hop : HopHandshake)

def answered : Extension × Bytes := (hop.extension, hop.response)

def answer : Option ℕ := ccAnswer N hop.extension hop.response

/-- The increment the two sides agreed on: the client asked, and the relay answered. -/
def negotiated : Option ℕ := if hop.requestCC then hop.answer N else none

end HopHandshake

open HopHandshake

section Flow

variable {N : NtorPrimitives} {c c' : Circ} {inc : ℕ}

/-! ### One handshake -/

lemma flowState_enable (c : Circ) (hlo : 1 ≤ inc) (hhi : inc ≤ 250) :
    (c.enableCongestionControl inc).flowState = .enabled (max c.cwndStart inc) inc := by
  unfold enableCongestionControl
  rw [if_neg (by omega)]
  rfl

lemma cwndStart_enable : (c.enableCongestionControl inc).cwndStart = c.cwndStart := by
  unfold enableCongestionControl
  split
  · rfl
  unfold cwndStart
  split
  · rfl
  · rfl

lemma finishHandshake_flowState {e e' : Extension} {response : Bytes} (h : finishHandshake N response e = .ok () e') :
    e'.circuit.flowState = (e.circuit.negotiate (ccAnswer N e response)).flowState ∧
      e'.circuit.cwndStart = e.circuit.cwndStart := by
  obtain ⟨hops, hcirc⟩ := finishHandshake_ok h
  rw [hcirc]
  cases hinc : ccAnswer N e response with
  | none => exact ⟨rfl, rfl⟩
  | some inc =>
    obtain ⟨hlo, hhi⟩ := ccAnswer_range hinc
    refine ⟨?_, cwndStart_enable⟩
    exact (flowState_enable _ hlo hhi).trans (flowState_enable e.circuit hlo hhi).symm

/-! ### The hops of a circuit -/

lemma lastCC_range {hops : List (Extension × Bytes)} (h : lastCC N hops = some inc) : 1 ≤ inc ∧ inc ≤ 250 := by
  obtain ⟨hop, -, hinc⟩ := mem_filterMap.1 (mem_of_getLast? h)
  exact ccAnswer_range hinc

/-- **A built circuit has the flow control of the last hop that answered with one.** -/
theorem buildHops_flowState {hops : List (Extension × Bytes)} (h : buildHops N c hops = some c') :
    c'.flowState = (c.negotiate (lastCC N hops)).flowState := by
  induction hops generalizing c with
  | nil =>
    cases h
    rfl
  | cons hop hops ih =>
    unfold buildHops at h
    split at h
    next e' hfinish =>
      obtain ⟨hflow, hinit⟩ := finishHandshake_flowState hfinish
      rw [ih h, lastCC_cons]
      cases hlast : lastCC N hops with
      | none => exact hflow
      | some inc =>
        obtain ⟨hlo, hhi⟩ := lastCC_range hlast
        calc (e'.circuit.enableCongestionControl inc).flowState
            = .enabled (max e'.circuit.cwndStart inc) inc := flowState_enable _ hlo hhi
          _ = .enabled (max c.cwndStart inc) inc := by rw [hinit]
          _ = (c.enableCongestionControl inc).flowState := (flowState_enable c hlo hhi).symm
    next => cases h

/-! ### The last hop -/

/-- What the last hop negotiated is what the circuit keeps: it asked for the answer it got, or no
hop answered. -/
def KeptByLast (N : NtorPrimitives) (hops : List HopHandshake) (last : HopHandshake) : Prop :=
  if (last.answer N).isSome then last.requestCC = true else ∀ hop ∈ hops, hop.answer N = none

instance (hops : List HopHandshake) (last : HopHandshake) : Decidable (KeptByLast N hops last) := by
  unfold KeptByLast
  infer_instance

lemma lastCC_answered (hops : List HopHandshake) (last : HopHandshake) : lastCC N ((hops ++ [last]).map answered) =
      (last.answer N).or (lastCC N (hops.map answered)) := by
  induction hops with
  | nil =>
    rw [nil_append, map_singleton, lastCC_cons]
    show (none : Option ℕ).or (last.answer N) = (last.answer N).or none
    rw [Option.none_or, Option.or_none]
  | cons hop hops ih =>
    rw [cons_append, map_cons, lastCC_cons, ih, map_cons, lastCC_cons, Option.or_assoc]

lemma lastCC_eq_none {hops : List HopHandshake} :
    lastCC N (hops.map answered) = none ↔ ∀ hop ∈ hops, hop.answer N = none := by
  unfold lastCC
  rw [getLast?_eq_none_iff, filterMap_eq_nil_iff, forall_mem_map]
  rfl

lemma keptByLast_iff {hops : List HopHandshake} {last : HopHandshake} : KeptByLast N hops last ↔
      lastCC N ((hops ++ [last]).map answered) = last.negotiated N := by
  rw [lastCC_answered]
  unfold KeptByLast negotiated
  cases hanswer : last.answer N with
  | none =>
    rw [Option.none_or, ite_self, lastCC_eq_none]
    rfl
  | some inc =>
    cases last.requestCC with
    | true | false => simp

/-- **The flow control of a built circuit is the one negotiated with its last hop exactly when the
last hop answered what it was asked for, or when no hop answered at all.**  Whatever the hops
before it did then leaves no trace in the windows or in the queue of tags. -/
theorem built_flow_control_iff (N : NtorPrimitives) (c c' : Circ) (hops : List HopHandshake)
    (last : HopHandshake) (hnew : c.flowMode = modeOf none)
    (hbuild : buildHops N c ((hops ++ [last]).map answered) = some c') :
    (c'.flowMode = modeOf (last.negotiated N) ∧
      c'.flowState = (c.negotiate (last.negotiated N)).flowState) ↔ KeptByLast N hops last := by
  have hmode := buildHops_flowMode hbuild
  have hstate := buildHops_flowState hbuild
  rw [hnew] at hmode
  have hmode : c'.flowMode =
      modeOf (lastCC N ((hops ++ [last]).map answered)) := by
    rw [hmode]
    cases lastCC N ((hops ++ [last]).map answered) with
    | none | some inc => rfl
  rw [hmode, keptByLast_iff]
  constructor
  · rintro ⟨h, -⟩
    exact modeOf_injective h
  · intro h
    rw [hstate, h]
    exact ⟨rfl, rfl⟩

end Flow

/-! ### Circuits built with the vectors -/

section Example

open GoTor.Onion

/-- The curve and the hashes at the inputs of the ntor-v3 handshake of the vectors, and at those
of an ntor handshake with the same keys. -/
def twoHandshakes : NtorPrimitives :=
  { vectorPrimitives with
    hmacSha256 := fun key _ =>
      if key = ascii ntorTVerify then
        keyOfNat 0x0eeba363d6011f96f4840d6df93c9a5f50177dc2079754222ec581abe5cc7ed8
      else if key = ascii ntorTMac then
        keyOfNat 0xde7d690aeb5e9400d878d2e446b358abb05d1836e234896a5080f45dc4ba0ff1
      else keyOfNat 0x2aaefea9d5032f755b179e8303420eaff2b1ae0f14583646583fb6bcf00a3d1a
    hkdfSha256 := fun _ _ _ _ => Vector.ofFn fun i =>
      (bytesOfNat 32 0x0c474b37157f7ea3bf6d428f2f69afee0a6b5adc889cab392b622ae186cb03fb ++
        bytesOfNat 32 0x6d1d660d7442a9df7548e4513a5af2d4dcbe659f510dd704bfa2bf329c9c69fc ++
        bytesOfNat 28 0x56b7d9b9ef9c482c7af0e208cb6eb4b17e26d650870be8f9e1ec1563).getD i 0 }

def askedHop : HopHandshake := ⟨vectorHop.1, true, vectorHop.2⟩

def ntorHop : HopHandshake where
  extension :=
    { circuit := newCirc
      handshakeType := handshakeTypeNTor
      ephemeralPrivate := some vectorX.toList
      serverIdentity := bytesOfNat 20 0x6a6b6c6d6e6f707172737475767778797a7b7c7d
      serverNtorKey := vectorPubB.toList }
  requestCC := false
  response := vectorPubY.toList ++
    bytesOfNat 32 0xde7d690aeb5e9400d878d2e446b358abb05d1836e234896a5080f45dc4ba0ff1

lemma twoHandshakes_built :
    askedHop.answer twoHandshakes = some 31 ∧
      (buildHops twoHandshakes newCirc (([ntorHop] ++ [askedHop]).map answered)).isSome ∧
      (buildHops twoHandshakes newCirc (([askedHop] ++ [ntorHop]).map answered)).map
        flowMode = some (true, 31) := by
  decide +kernel

/-- A guard that only knows ntor, then a hop with congestion control: the circuit has what the last
one negotiated. -/
theorem built_flow_control_vector :
    ∃ c, buildHops twoHandshakes newCirc
        (([ntorHop] ++ [askedHop]).map answered) = some c ∧
      c.flowMode = (true, 31) ∧ c.flowState = .enabled 124 31 := by
  obtain ⟨hanswer, hbuild, -⟩ := twoHandshakes_built
  have hnegotiated : askedHop.negotiated twoHandshakes = some 31 := by
    unfold negotiated
    rw [hanswer]
    rfl
  have hkept : KeptByLast twoHandshakes [ntorHop] askedHop ↔ True := by
    unfold KeptByLast
    rw [hanswer]
    exact ⟨fun _ => trivial, fun _ => rfl⟩
  obtain ⟨c, hbuild⟩ := Option.isSome_iff_exists.1 hbuild
  have hiff := built_flow_control_iff twoHandshakes newCirc c [ntorHop] askedHop rfl hbuild
  rw [hkept, iff_true, hnegotiated] at hiff
  have hstate := hiff.2.trans (@flowState_enable 31 newCirc (by decide) (by decide))
  exact ⟨c, hbuild, hiff.1, hstate⟩

/-- A guard with congestion control, and a last hop that only knows ntor: the circuit counts by 31
towards a relay that counts by 100. -/
theorem built_flow_control_of_earlier_hop :
    ∃ c, buildHops twoHandshakes newCirc
        (([askedHop] ++ [ntorHop]).map answered) = some c ∧
      ntorHop.negotiated twoHandshakes = none ∧ c.flowMode = (true, 31) := by
  obtain ⟨-, -, hbuild⟩ := twoHandshakes_built
  obtain ⟨c, hbuild, hmode⟩ := Option.map_eq_some_iff.1 hbuild
  exact ⟨c, hbuild, rfl, hmode⟩

end Example

end GoTor.Circuit
