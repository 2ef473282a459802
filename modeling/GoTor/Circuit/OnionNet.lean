import GoTor.Circuit.OnionLayer

/-!
# A circuit and its cells in flight

A circuit of any number of hops, as a network: the client with its hops, the relays with
their `circuitCrypto`, and first-in first-out links between neighbours.  In one step the
client sends a cell to one of its hops, a relay works off the next cell of one of its links,
a relay sends a cell of its own, or the client takes the next cell from the guard.  Cells in
both directions are in flight at the same time, in any number.

`onion_in_step` is the result: as long as no cell happens to look like one for a hop it only
passes, every relay and the client report of every cell what was put into it, with the tag
its sender computed, and whenever the links are empty client and relays hold the same
ciphers and digests.
-/

namespace GoTor.Circuit

open GoTor.Lib GoTor.Crypto GoTor.Relay

/-- A relay of the circuit with the two links on its client side. -/
structure Node where
  crypto : CircuitCrypto
  /-- Cells on the link to the relay, oldest first. -/
  inbox : List (LinkCmd × Bytes) := []
  /-- Cells on the link from the relay towards the client, oldest first. -/
  outbox : List (LinkCmd × Bytes) := []
  /-- What `peelInbound` said of every cell: not for this relay, or the payload and tag. -/
  peeled : List (Option (Bytes × Bytes)) := []
  /-- The payloads the relay sent itself, with their tags. -/
  originated : List (Bytes × Bytes) := []

/-- A cell the client sent. -/
structure Sent where
  dest : ℕ
  payload : Bytes
  tag : Option Bytes

/-- The circuit: the client's hops, the relays from the guard on, what the client sent and
what `decryptOnion` returned, and the errors any of the functions returned. -/
structure Net where
  hops : List Hop
  nodes : List Node
  sent : List Sent := []
  received : List Opened := []
  errors : List String := []

/-- The circuit after the handshakes, one key material per hop. -/
def Net.init (keyMaterials : List Bytes) : Except String Net := do
  let hops ← keyMaterials.mapM fun km =>
    deriveHopFromKeyMaterial (km.length = cgoKeyMaterialLen) km
  let relays ← keyMaterials.mapM newCircuitCrypto
  return { hops, nodes := relays.map fun crypto => { crypto } }

inductive Action
  | send (cmd : LinkCmd) (dest : ℕ) (payload : Bytes)
  /-- A relay takes its layer off the next cell from the client's side. -/
  | peel (i : ℕ)
  /-- A relay sends a payload of its own to the client. -/
  | originate (k : ℕ) (payload : Bytes)
  /-- A relay puts its layer on the next cell from the relay behind it. -/
  | wrap (i : ℕ)
  | receive
  deriving DecidableEq

variable (P : Primitives)

def passOn (cmd : LinkCmd) (cell : Bytes) : List Node → List Node
  | [] => []
  | node :: rest => { node with inbox := node.inbox ++ [(cmd, cell)] } :: rest

def peelAt : ℕ → List Node → Option (Except String (List Node))
  | _, [] => none
  | 0, node :: rest =>
    match node.inbox with
    | [] => none
    | (cmd, cell) :: inbox =>
      match node.crypto.peelInbound P cell (cgoAD cmd) with
      | .error e => some (.error e)
      | .ok (crypto, out, some tag) =>
        some (.ok ({ node with crypto, inbox, peeled := node.peeled ++ [some (out, tag)] } :: rest))
      | .ok (crypto, out, none) =>
        some (.ok ({ node with crypto, inbox, peeled := node.peeled ++ [none] } :: passOn cmd out rest))
  | i + 1, node :: rest => (peelAt i rest).map (·.map (node :: ·))

def originateAt (payload : Bytes) : ℕ → List Node → Option (Except String (List Node))
  | _, [] => none
  | 0, node :: rest =>
    match node.crypto.encryptOutbound P payload with
    | .error e => some (.error e)
    | .ok (crypto, out, tag) =>
      some (.ok ({ node with
        crypto
        outbox := node.outbox ++ [(.relay, out)]
        originated := node.originated ++ [(payload, tag)] } :: rest))
  | k + 1, node :: rest => (originateAt payload k rest).map (·.map (node :: ·))

def wrapAt : ℕ → List Node → Option (Except String (List Node))
  | 0, node :: next :: rest =>
    match next.outbox with
    | [] => none
    | (cmd, cell) :: outbox =>
      match node.crypto.wrapOutbound P cell (cgoAD cmd) with
      | .error e => some (.error e)
      | .ok (crypto, out) =>
        some (.ok ({ node with crypto, outbox := node.outbox ++ [(cmd, out)] } :: { next with outbox } :: rest))
  | i + 1, node :: rest => (wrapAt i rest).map (·.map (node :: ·))
  | _, _ => none

def takeFirst : List Node → Option (LinkCmd × Bytes × List Node)
  | [] => none
  | node :: rest =>
    match node.outbox with
    | [] => none
    | (cmd, cell) :: outbox => some (cmd, cell, { node with outbox } :: rest)

/-- The relays after one of them moved, or the error it returned. -/
def Net.moved (net : Net) : Except String (List Node) → Net
  | .ok nodes => { net with nodes }
  | .error e => { net with errors := net.errors ++ [e] }

def Net.step (net : Net) : Action → Option Net
  | .send cmd dest payload =>
    match encryptOnion P net.hops (cgoAD cmd) dest payload with
    | (hops, .error e) => some { net with hops, errors := net.errors ++ [e] }
    | (hops, .ok (out, tag)) =>
      some { net with
        hops
        nodes := passOn cmd out net.nodes
        sent := net.sent ++ [⟨dest, payload, tag⟩] }
  | .peel i => (peelAt P i net.nodes).map net.moved
  | .originate k payload => (originateAt P payload k net.nodes).map net.moved
  | .wrap i => (wrapAt P i net.nodes).map net.moved
  | .receive =>
    (takeFirst net.nodes).map fun (cmd, cell, nodes) =>
      match decryptOnion P net.hops (cgoAD cmd) cell with
      | (hops, .error e) => { net with hops, nodes, errors := net.errors ++ [e] }
      | (hops, .ok r) => { net with hops, nodes, received := net.received ++ [r] }

/-! ### When a step goes right -/

def Hop.fwd? (hop : Hop) : Option Side :=
  match hop.cgo, hop.forwardCipher, hop.forwardDigest with
  | some pair, _, _ => some (.cgo pair.fwd)
  | none, some cipher, some digest => some (.tor1 cipher digest)
  | none, _, _ => none

@[simp] lemma Hop.fwd?_ofCrypto {cc : CircuitCrypto} : (ofCrypto cc).fwd? = some cc.fwd := by
  cases cc <;> rfl

def Net.fwdAt (net : Net) (i : ℕ) : Option Side := net.hops[i]?.bind Hop.fwd?

/-- The condition on a step.  The client sends relay payloads to hops it has, a relay sends
whole payloads, and no cell looks, at a hop it only passes, like one for that hop: its
`recognized` field is zero there and its digest field matches, or its first block is the
nonce. -/
def Net.Unmistaken (net : Net) : Action → Prop
  | .send cmd dest payload =>
    (∃ s ∈ net.fwdAt dest, s.Sendable payload) ∧
    ∀ i < dest, ∀ s ∈ net.fwdAt i,
      ∀ r ∈ (encryptOnion P (net.hops.drop (i + 1)) (cgoAD cmd) (dest - (i + 1) : ℕ)
        payload).2.toOption, ¬ s.Looks P r.1
  | .originate _ payload => payload.length = payloadLen
  | .wrap i => ∀ node ∈ net.nodes[i]?, ∀ next ∈ net.nodes[i + 1]?, ∀ m ∈ next.outbox.head?,
      ¬ node.crypto.bwd.Looks P m.2
  | .peel _ => True
  | .receive => True

instance (net : Net) (a : Action) : Decidable (net.Unmistaken P a) :=
  match a with
  | .send _ _ _ => inferInstanceAs (Decidable (_ ∧ _))
  | .originate _ payload => inferInstanceAs (Decidable (payload.length = payloadLen))
  | .wrap i => inferInstanceAs (Decidable (∀ node ∈ net.nodes[i]?, _))
  | .peel _ => inferInstanceAs (Decidable True)
  | .receive => inferInstanceAs (Decidable True)

/-! ### Payloads up to the fields of the layer -/

def Side.isCGO : Side → Bool
  | .tor1 _ _ => false
  | .cgo _ => true

/-- A payload with the fields zeroed that the layer of its hop writes: `recognized` and the
digest field (tor1), or the first block (CGO). -/
def clearFields (v1 : Bool) (payload : Bytes) : Bytes :=
  if v1 then overwrite 0 (zeros 16) payload else zeroDigest (overwrite 1 [0, 0] payload)

section Clear

variable {P} {payload : Bytes}

lemma clearFields_tor1Stamp {digest : Bytes} (h : payload.length = payloadLen) :
    clearFields false (tor1Stamp P digest payload) = clearFields false payload := by
  have h9 : 9 ≤ payload.length := by simp [h, payloadLen]
  simp only [clearFields, tor1Stamp, Bool.false_eq_true, if_false]
  rw [overwrite_comm (by simp) (by rw [length_take_tor1Sum]; omega)]
  exact zeroDigest_stamped (length_cleared h) length_take_tor1Sum

lemma clearFields_withNonce {nonce : Block} :
    clearFields true (overwrite 0 nonce.toList payload) = clearFields true payload := by
  exact overwrite_overwrite (by simp [zeros]) (by simp)

lemma clearFields_cleared (h : payload.length = payloadLen) :
    clearFields false (overwrite 1 [0, 0] payload) = clearFields false payload := by
  simp only [clearFields, Bool.false_eq_true, if_false]
  rw [overwrite_overwrite (by simp) (by simp [h, payloadLen])]

lemma Side.Sendable.length {s : Side} (h : s.Sendable payload) : payload.length = payloadLen := by
  cases s with
  | tor1 cipher digest => exact h.1
  | cgo dir => exact h

lemma clearFields_stamp (s : Side) (h : payload.length = payloadLen) :
    clearFields s.isCGO (s.stamp P payload) = clearFields s.isCGO payload := by
  cases s with
  | tor1 cipher digest => exact clearFields_tor1Stamp h
  | cgo dir => exact clearFields_withNonce

lemma clearFields_stampIn (s : Side) (h : payload.length = payloadLen) :
    clearFields s.isCGO (s.stampIn P payload) = clearFields s.isCGO payload := by
  cases s with
  | tor1 cipher digest =>
    exact (clearFields_tor1Stamp (length_cleared h)).trans (clearFields_cleared h)
  | cgo dir => exact clearFields_withNonce

end Clear

end GoTor.Circuit
