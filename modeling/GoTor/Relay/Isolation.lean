import GoTor.Relay.HsMoves
import GoTor.Relay.SharedRelay

/-!
# Connections keep apart

As long as every cell names a circuit of its own connection or none, the connections that are
stored with circuits are those the circuits were created on, so every RELAY cell goes out where
its circuit came from; and a cell of one connection leaves the circuits of the others alone, unless
the two have to do with each other as introduction point, rendezvous point or pair.
-/

namespace GoTor.Relay

open GoTor.Lib GoTor.Cell GoTor.Crypto Function List

def LinkCell.circuitID : LinkCell → UInt32
  | .create2 circuitID _ _ => circuitID
  | .relay _ circuitID _ _ => circuitID
  | .destroy circuitID => circuitID

def CircuitCrypto.recognized (P : Primitives) (cc : CircuitCrypto) (cmd : LinkCmd)
    (payload : Bytes) : Option RelayCell :=
  match cc.decryptInbound P payload (cgoAD cmd) with
  | (cc, .ok (plain, _)) => (cc.decodeRelay plain).toOption
  | (_, .error _) => none

namespace SharedRelay

variable {P : Primitives} {verify : Bytes → Bytes → Option String} {s s' s'' : SharedRelay}
  {p q : CircPtr} {c conn : ConnPtr} {circuitID : UInt32}

def initial (crypto : CircPtr → CircuitCrypto) (nextHop : UInt32 → NextHop) : SharedRelay where
  fwd := { hs := {}, crypto, nextHop }

/-- The circuit of this ID, if there is one, was created on connection `c`. -/
def Holds (s : SharedRelay) (c : ConnPtr) (circuitID : UInt32) : Prop :=
  ∀ p ∈ s.fwd.hs.circuits.get circuitID, s.owner p = c

instance : Decidable (s.Holds c circuitID) :=
  inferInstanceAs (Decidable (∀ p ∈ s.fwd.hs.circuits.get circuitID, s.owner p = c))

/-- **The condition on a step**: what comes from a connection names no circuit of another one. -/
def Own (s : SharedRelay) : SharedStep → Prop
  | .cell c m => s.Holds c m.circuitID
  | .extended c circuitID _ => s.Holds c circuitID
  | _ => True

instance : (e : SharedStep) → Decidable (s.Own e)
  | .cell c m => inferInstanceAs (Decidable (s.Holds c m.circuitID))
  | .extended c circuitID _ => inferInstanceAs (Decidable (s.Holds c circuitID))
  | .backward _ _ _ => isTrue trivial
  | .nextHopDestroy _ => isTrue trivial
  | .exitWrites _ _ _ _ => isTrue trivial

/-- INTRODUCE1 with the key of the introduction point `p`. -/
def Introduces (s : SharedRelay) (p : CircPtr) (rc : RelayCell) : Prop :=
  rc.command = relayIntroduce1 ∧ ∃ auth ∈ parseIntroduce1AuthKey rc.data,
    ∃ slot ∈ s.fwd.hs.introByAuth.get (hexEncode auth), slot.circ = p

instance (p : CircPtr) (rc : RelayCell) : Decidable (s.Introduces p rc) :=
  inferInstanceAs (Decidable (_ ∧ ∃ auth ∈ parseIntroduce1AuthKey rc.data,
    ∃ slot ∈ s.fwd.hs.introByAuth.get (hexEncode auth), slot.circ = p))

/-- A recognised cell of another circuit that is about circuit `p`: it carries `p`'s cookie or key,
or makes the relay look through the cookies when `p`'s has expired. -/
def Addresses (s : SharedRelay) (env : CellEnv) (p : CircPtr) (rc : RelayCell) : Prop :=
  ((rc.command = relayEstablishRendezvous ∨ rc.command = relayRendezvous1) ∧ s.fwd.hs.Expired env.hs.now p) ∨
  s.fwd.hs.Meets rc.command rc.data p ∨ s.Introduces p rc

instance (env : CellEnv) (p : CircPtr) (rc : RelayCell) : Decidable (s.Addresses env p rc) :=
  inferInstanceAs (Decidable ((_ ∧ _) ∨ _ ∨ _))

/-- The cells that are about circuit `p` although they name another one. -/
def Concerns (P : Primitives) (s : SharedRelay) (p : CircPtr) : LinkCell → Prop
  | .create2 _ _ _ => False
  | .relay env circuitID cmd payload =>
    s.fwd.hs.MateOf circuitID p ∨
      ∃ q ∈ s.fwd.hs.circuits.get circuitID,
        ∃ rc ∈ (s.fwd.crypto q).recognized P cmd payload, s.Addresses env p rc
  | .destroy circuitID => s.fwd.hs.MateOf circuitID p

instance decidableConcerns (p : CircPtr) : (m : LinkCell) → Decidable (s.Concerns P p m)
  | .create2 _ _ _ => isFalse id
  | .relay env circuitID cmd payload =>
    inferInstanceAs (Decidable (_ ∨ ∃ q ∈ s.fwd.hs.circuits.get circuitID,
      ∃ rc ∈ (s.fwd.crypto q).recognized P cmd payload, s.Addresses env p rc))
  | .destroy circuitID => inferInstanceAs (Decidable (s.fwd.hs.MateOf circuitID p))

/-- **The circuit has been left alone.** -/
structure Kept (s s' : SharedRelay) (p : CircPtr) : Prop where
  hs : HsState.Kept s.fwd.hs s'.fwd.hs p
  crypto : s'.fwd.crypto p = s.fwd.crypto p
  nextHop : s'.fwd.nextHop (s.fwd.hs.heap p).circuitID = s.fwd.nextHop (s.fwd.hs.heap p).circuitID
  extConn : s'.extConn = s.extConn
  owner : s'.owner p = s.owner p
  sent : ∃ os, s'.sent = s.sent ++ os ∧ ∀ o ∈ os, o.2 ≠ p

/-! ### The invariant -/

def Of (s : SharedRelay) (p : CircPtr) (c : ConnPtr) : Prop := c = s.owner p ∧ p < s.fwd.hs.fresh

/-- **The invariant**: whatever is stored with a circuit or written on it belongs to it. -/
structure Inv (s : SharedRelay) : Prop where
  hs : HsInv s.fwd.hs
  stores : s.fwd.hs.Stores s.Of
  ext : ∀ id, s.fwd.hs.extended.get id ≠ none →
    ∃ p, s.fwd.hs.circuits.get id = some p ∧ s.Of p (s.extConn id)
  writers : ∀ w ∈ s.writers, s.Of w.1 w.2
  sent : ∀ o ∈ s.sent, s.Of o.2 o.1

lemma Inv.initial (crypto : CircPtr → CircuitCrypto) (nextHop : UInt32 → NextHop) : (initial crypto nextHop).Inv where
  hs := HsInv.initial
  stores := ⟨nofun, nofun, nofun, nofun⟩
  ext _ hid := absurd rfl hid
  writers := nofun
  sent := nofun

lemma Inv.of_get (h : s.Inv) (hget : s.fwd.hs.circuits.get circuitID = some q)
    (hown : s.Holds c circuitID) : s.Of q c :=
  ⟨(hown q hget).symm, (h.hs.named circuitID q hget).2⟩

/-- A handler has run, and circuits and connections still belong together as before. -/
structure Goes (s s' : SharedRelay) : Prop where
  hs : HsInv s'.fwd.hs
  moves : HsState.Moves s.Of s.fwd.hs s'.fwd.hs
  owner : s'.owner = s.owner
  extConn : s'.extConn = s.extConn
  writers : ∀ w ∈ s'.writers, s.Of w.1 w.2
  sent : ∀ o ∈ s'.sent, s.Of o.2 o.1

lemma Goes.of_eq (h : Goes s s') : s'.Of = s.Of := by
  unfold Of
  rw [h.owner, h.moves.fresh]

lemma Goes.refl (h : s.Inv) : Goes s s := ⟨h.hs, .refl h.stores, rfl, rfl, h.writers, h.sent⟩

lemma Goes.inv (hg : Goes s s') (h : s.Inv) : s'.Inv where
  hs := hg.hs
  stores := hg.of_eq ▸ hg.moves.stores
  ext id hid := by
    obtain ⟨hold, hsame⟩ := hg.moves.ext id hid
    obtain ⟨p, hp, hof⟩ := h.ext id hold
    rw [hg.of_eq, hg.extConn]
    exact ⟨p, hsame.trans hp, hof⟩
  writers := hg.of_eq ▸ hg.writers
  sent := hg.of_eq ▸ hg.sent

lemma Goes.trans (h : Goes s s') (h' : Goes s' s'') : Goes s s'' where
  hs := h'.hs
  moves := h.moves.trans (h.of_eq ▸ h'.moves)
  owner := h'.owner.trans h.owner
  extConn := h'.extConn.trans h.extConn
  writers := h.of_eq ▸ h'.writers
  sent := h.of_eq ▸ h'.sent

variable {hs : HsState}

lemma Goes.setHs (h : s.Inv) (hinv : HsInv hs)
    (hmoves : HsState.Moves s.Of s.fwd.hs hs) : Goes s (s.setHs hs) :=
  ⟨hinv, hmoves, rfl, rfl, h.writers, h.sent⟩

lemma Goes.setCrypto (h : s.Inv) (p : CircPtr) (cc : CircuitCrypto) : Goes s (s.setCrypto p cc) :=
  ⟨h.hs, .refl h.stores, rfl, rfl, h.writers, h.sent⟩

lemma Goes.send (h : s.Inv) (hq : s.Of q conn) :
    Goes s { s with sent := s.sent ++ [(conn, q)] } := by
  exact ⟨h.hs, .refl h.stores, rfl, rfl, h.writers, forall_mem_append.2 ⟨h.sent, forall_mem_singleton.2 hq⟩⟩

/-! ### The handlers keep the invariant -/

variable (h : s.Inv)
include h

lemma Goes.sendRelayToClient (hq : s.Of q conn) (write : Option String)
    (streamID : UInt16) (cmd : UInt8) (data : Bytes) :
    Goes s (s.sendRelayToClient P write q conn streamID cmd data).1 := by
  unfold SharedRelay.sendRelayToClient
  split
  · exact .refl h
  next cc _ _ _ =>
  have hcrypto := Goes.setCrypto h q cc
  split
  · exact hcrypto
  · exact hcrypto.trans (.send (hcrypto.inv h) (hcrypto.of_eq ▸ hq))

lemma Goes.writeOut {o : HsOut}
    (ho : ∀ p conn streamID cmd data, o = .relay p conn streamID cmd data → s.Of p conn) :
    Goes s (s.writeOut P o) := by
  cases o with
  | destroy conn circID reason => exact .refl h
  | relay p conn streamID cmd data =>
    exact .sendRelayToClient h (ho p conn streamID cmd data rfl) _ _ _ _

lemma Goes.runHs (hinv : HsInv hs)
    (hmoves : HsState.Moves s.Of s.fwd.hs hs) : Goes s (s.runHs P hs) := by
  have hfold : ∀ (os : List HsOut) {t : SharedRelay}, t.Inv →
      (∀ p conn streamID cmd data, HsOut.relay p conn streamID cmd data ∈ os → t.Of p conn) →
      Goes t (os.foldl (SharedRelay.writeOut P) t) := by
    intro os
    induction os with
    | nil => exact fun ht _ => .refl ht
    | cons o os ih =>
      intro t ht hos
      have hone : Goes t (t.writeOut P o) := .writeOut ht fun p conn streamID cmd data ho =>
        hos p conn streamID cmd data (ho ▸ mem_cons_self)
      refine hone.trans (ih (hone.inv ht) fun p conn streamID cmd data ho => ?_)
      rw [hone.of_eq]
      exact hos p conn streamID cmd data (mem_cons_of_mem _ ho)
  have hset := Goes.setHs h hinv hmoves
  refine hset.trans (hfold _ (hset.inv h) fun p conn streamID cmd data ho => ?_)
  rw [hset.of_eq]
  exact hmoves.stores.out p conn streamID cmd data (mem_of_mem_drop ho)

lemma Goes.closeCircuit : Goes s (s.setHs (s.fwd.hs.closeCircuit circuitID)) :=
  .setHs h (h.hs.closeCircuit circuitID) (.closeCircuit h.stores)

lemma Goes.emit (conn : ConnPtr) (circuitID : UInt32) (reason : UInt8) :
    Goes s (s.setHs (s.fwd.hs.emit (.destroy conn circuitID reason))) :=
  .setHs h h.hs.emit (.of_stores (h.stores.destroy conn circuitID reason) rfl rfl rfl)

lemma Goes.closeFor {reason : UInt8} : Goes s (s.closeFor conn circuitID reason) := by
  have hemit := Goes.emit h conn circuitID reason
  exact hemit.trans (.closeCircuit (hemit.inv h))

lemma Goes.destroyHSCircuit {reason : String} :
    Goes s (s.setHs (s.fwd.hs.destroyHSCircuit p conn reason).1) :=
  .setHs h (h.hs.destroyHSCircuit p conn reason) (.destroyHSCircuit h.stores)

variable {payload : Bytes} {env : CellEnv} {cmd : LinkCmd}

lemma Goes.handleIntroduce1 (hq : s.Of q conn) :
    Goes s (s.handleIntroduce1 P env q conn payload) := by
  have hack : ∀ status, Goes s (s.sendRelayToClient P env.answer q conn 0 relayIntroduceAck
      (introAckPayload status)).1 := fun status => .sendRelayToClient h hq _ _ _ _
  fun_cases s.handleIntroduce1 P env q conn payload
  case case1 => exact .destroyHSCircuit h
  case case5 slot hslot _ t _ hsend | case6 slot hslot _ t hsend =>
    have hintro := Goes.sendRelayToClient (P := P) h (h.stores.intro _ slot hslot) env.hs.write 0
      relayIntroduce2 payload
    rw [hsend] at hintro
    exact hintro.trans (.sendRelayToClient (hintro.inv h) (hintro.of_eq ▸ hq) _ _ _ _)
  all_goals exact hack _

lemma Goes.handleLocal (hq : s.Of q conn) (hlive : s.fwd.hs.Live q) {rc : RelayCell} :
    Goes s (s.handleLocal P verify env circuitID q conn rc) := by
  unfold SharedRelay.handleLocal
  split
  · split
    · exact .closeFor h
    · exact ⟨h.hs, .refl h.stores, rfl, rfl,
        forall_mem_append.2 ⟨h.writers, forall_mem_singleton.2 hq⟩, h.sent⟩
  split
  · split
    · exact .closeFor h
    · exact .refl h
  split
  · split
    · exact .destroyHSCircuit h
    · exact .handleIntroduce1 h hq
  · exact .runHs h (h.hs.handleRecognized hlive)
      (.handleRecognized h.stores hq)

lemma Goes.handleLocalRelayCell (hq : s.Of q conn) (hlive : s.fwd.hs.Live q) :
    Goes s (s.handleLocalRelayCell P verify env circuitID q cmd payload conn) := by
  unfold SharedRelay.handleLocalRelayCell
  cases hdec : (s.fwd.crypto q).decryptInbound P payload (cgoAD cmd) with
  | mk cc result =>
  have hcrypto := Goes.setCrypto h q cc
  have hinv := hcrypto.inv h
  dsimp only
  split
  · exact hcrypto.trans (.closeFor hinv)
  · exact hcrypto
  split
  · exact hcrypto
  split
  next peer peerConn hpeer =>
    exact hcrypto.trans (.sendRelayToClient hinv (hinv.stores.joined q peer peerConn hpeer) _ _ _ _)
  · exact hcrypto.trans (.handleLocal hinv hq hlive)

omit h

lemma forwardExtendedFromClient_cases (fwd : ForwardState) (circuitID : UInt32) (p : CircPtr)
    (cmd : LinkCmd) (payload : Bytes) :
    let fwd' := (fwd.forwardExtendedFromClient P circuitID p cmd payload).state
    (fwd'.hs = fwd.hs ∨ fwd'.hs = fwd.hs.handleDestroy circuitID) ∧ (∀ q, q ≠ p → fwd'.crypto q = fwd.crypto q) ∧
      ∀ id, id ≠ circuitID → fwd'.nextHop id = fwd.nextHop id := by
  have hcrypto : ∀ cc q, q ≠ p → (fwd.setCrypto p cc).crypto q = fwd.crypto q :=
    fun cc q hne => update_of_ne hne _ _
  fun_cases fwd.forwardExtendedFromClient P circuitID p cmd payload
  case case1 => exact ⟨.inl rfl, fun _ _ => rfl, fun _ _ => rfl⟩
  case case3 => exact ⟨.inr rfl, hcrypto _, fun _ _ => rfl⟩
  case case6 =>
    dsimp +zetaDelta only
    split
    · exact ⟨.inl rfl, hcrypto _, fun _ hne => update_of_ne hne _ _⟩
    · exact ⟨.inl rfl, hcrypto _, fun _ _ => rfl⟩
  all_goals exact ⟨.inl rfl, hcrypto _, fun _ _ => rfl⟩

include h

lemma Goes.forwardExtended : Goes s (s.forwardExtended P env circuitID p cmd payload conn) := by
  have hfwd : Goes s { s with
      fwd := (s.fwd.forwardExtendedFromClient P circuitID p cmd payload).state } := by
    rcases (forwardExtendedFromClient_cases (P := P) s.fwd circuitID p cmd payload).1 with hhs | hhs
    · refine ⟨hhs ▸ h.hs, ?_, rfl, rfl, h.writers, h.sent⟩
      rw [hhs]
      exact .refl h.stores
    · refine ⟨hhs ▸ h.hs.handleDestroy circuitID, ?_, rfl, rfl, h.writers, h.sent⟩
      rw [hhs]
      exact .handleDestroy h.stores rfl (fun _ _ hget => hget) (fun _ hid => hid) fun _ _ _ => rfl
  unfold SharedRelay.forwardExtended
  split
  · split
    · split
      · exact hfwd.trans (.closeFor (hfwd.inv h))
      · exact hfwd
    · exact hfwd
  · exact hfwd

lemma Goes.handleRelay (hown : s.Holds conn circuitID) :
    Goes s (s.handleRelay P verify env circuitID cmd payload conn) := by
  unfold SharedRelay.handleRelay
  split
  · exact .emit h _ _ _
  next q hget =>
  split
  · exact .forwardExtended h
  · exact .handleLocalRelayCell h (h.of_get hget hown) (h.hs.live_of_get hget)

lemma Goes.forwardCellToClient (hext : s.fwd.hs.extended.get circuitID ≠ none) :
    Goes s (s.forwardCellToClient P circuitID cmd payload) := by
  obtain ⟨p, hp, hof⟩ := h.ext circuitID hext
  unfold SharedRelay.forwardCellToClient
  rw [hp]
  dsimp only
  split
  · exact .refl h
  next cc _ _ =>
    have hcrypto := Goes.setCrypto h p cc
    exact hcrypto.trans (.send (hcrypto.inv h) (hcrypto.of_eq ▸ hof))

lemma Inv.create2 (hget : s.fwd.hs.circuits.get circuitID = none) {circNonce : Bytes} {crypto : CircuitCrypto} :
    Inv { (s.setCrypto s.fwd.hs.fresh crypto).setHs (s.fwd.hs.create2 circuitID circNonce) with
      owner := update s.owner s.fwd.hs.fresh conn } := by
  have hhs := h.hs.create2 circuitID circNonce
  unfold HsState.create2 at hhs ⊢
  rw [hget] at hhs ⊢
  have hof : ∀ {p c}, s.Of p c → Of { (s.setCrypto s.fwd.hs.fresh crypto).setHs { s.fwd.hs with
        heap := update s.fwd.hs.heap s.fwd.hs.fresh { circuitID, circNonce }
        fresh := s.fwd.hs.fresh + 1
        circuits := s.fwd.hs.circuits.set circuitID s.fwd.hs.fresh } with
      owner := update s.owner s.fwd.hs.fresh conn } p c := by
    rintro p c ⟨rfl, hlt⟩
    exact ⟨(update_of_ne (Nat.ne_of_lt hlt) _ _).symm, Nat.lt_succ_of_lt hlt⟩
  refine ⟨hhs, ⟨fun key slot hs => hof (h.stores.intro key slot hs),
    fun key slot hs => hof (h.stores.rend key slot hs), fun r q c hr => ?_,
    fun r c streamID cmd data ho => hof (h.stores.out r c streamID cmd data ho)⟩,
    fun id hid => ?_, fun w hw => hof (h.writers w hw), fun o ho => hof (h.sent o ho)⟩
  · have hr : (update s.fwd.hs.heap s.fwd.hs.fresh { circuitID, circNonce } r).joined = some (q, c) := hr
    rw [update_apply] at hr
    split at hr
    · cases hr
    · exact hof (h.stores.joined r q c hr)
  · obtain ⟨p, hp, hext⟩ := h.ext id hid
    have hne : id ≠ circuitID := by
      rintro rfl
      rw [hget] at hp
      cases hp
    exact ⟨p, (Table.get_set_of_ne _ hne).trans hp, hof hext⟩

variable {m : LinkCell}

lemma Inv.handleIncomingCell (hown : s.Holds c m.circuitID) : (s.handleIncomingCell P verify c m).Inv := by
  cases m with
  | create2 circuitID circNonce crypto =>
    unfold handleIncomingCell
    dsimp only
    split
    · exact (Goes.emit h _ _ _).inv h
    next hget => exact h.create2 hget
  | relay env circuitID cmd payload => exact (Goes.handleRelay h hown).inv h
  | destroy circuitID => exact (Goes.closeCircuit h).inv h

lemma Inv.extended (hown : s.Holds c circuitID) (hget : s.fwd.hs.circuits.get circuitID = some q)
    (hnone : s.fwd.hs.extended.get circuitID = none) {nextHop : UInt32 → NextHop} :
    Inv { s with
      fwd := { s.fwd with hs := s.fwd.hs.extend circuitID, nextHop }
      extConn := update s.extConn circuitID c } := by
  have hhs := h.hs.extend circuitID
  unfold HsState.extend at hhs ⊢
  rw [hnone] at hhs ⊢
  dsimp only at hhs ⊢
  rw [hget] at hhs ⊢
  have hmodify := h.stores.modify q (f := fun c => { c with didExtend := true }) fun _ => rfl
  refine ⟨hhs, { hmodify with }, fun id hid => ?_, h.writers, h.sent⟩
  have hid : (s.fwd.hs.extended.set circuitID ()).get id ≠ none := hid
  rw [Table.get_set] at hid
  split at hid
  next heq =>
    subst heq
    refine ⟨q, hget, ?_⟩
    change update s.extConn id c id = _ ∧ _
    rw [update_self]
    exact h.of_get hget hown
  next hne =>
  obtain ⟨p, hp, hof⟩ := h.ext id hid
  refine ⟨p, hp, ?_⟩
  change update s.extConn circuitID c id = _ ∧ _
  rw [update_of_ne hne]
  exact hof

/-- **Every step keeps circuits and connections together**, if it names no foreign circuit. -/
theorem Inv.step {e : SharedStep} (hown : s.Own e)
    (hstep : step P verify s e = some s') : s'.Inv := by
  cases e with
  | cell c m =>
    cases hstep
    exact h.handleIncomingCell hown
  | extended c circuitID nextHopCircuitID =>
    simp only [SharedRelay.step] at hstep
    split at hstep
    next q hget hnone =>
      cases hstep
      exact h.extended hown hget hnone
    · cases hstep
  | backward circuitID cmd payload =>
    simp only [SharedRelay.step] at hstep
    split at hstep
    next hext =>
      cases hstep
      exact (Goes.forwardCellToClient h (hext ▸ Option.some_ne_none _)).inv h
    · cases hstep
  | nextHopDestroy circuitID =>
    cases hstep
    exact (Goes.closeCircuit h).inv h
  | exitWrites i streamID cmd data =>
    simp only [SharedRelay.step] at hstep
    split at hstep
    next p conn hw =>
      cases hstep
      exact (Goes.sendRelayToClient h (h.writers _ (mem_of_getElem? hw)) _ _ _ _).inv h
    · cases hstep

omit h

/-! ### What a cell leaves alone -/

theorem Kept.refl (hp : s.fwd.hs.Live p) : Kept s s p :=
  ⟨.refl hp, rfl, rfl, rfl, rfl, [], (append_nil _).symm, nofun⟩

lemma Kept.trans (h : Kept s s' p) (h' : Kept s' s'' p) : Kept s s'' p where
  hs := h.hs.trans h'.hs
  crypto := h'.crypto.trans h.crypto
  nextHop := by
    have hid := congrArg HsCircuit.circuitID h.hs.heap
    exact (hid ▸ h'.nextHop).trans h.nextHop
  extConn := h'.extConn.trans h.extConn
  owner := h'.owner.trans h.owner
  sent := by
    obtain ⟨os, hos, hne⟩ := h.sent
    obtain ⟨os', hos', hne'⟩ := h'.sent
    refine ⟨os ++ os', by rw [hos', hos, append_assoc], fun o ho => ?_⟩
    exact (mem_append.1 ho).elim (hne o) (hne' o)

lemma Kept.setHs (h : HsState.Kept s.fwd.hs hs p) : Kept s (s.setHs hs) p :=
  ⟨h, rfl, rfl, rfl, rfl, [], (append_nil _).symm, nofun⟩

lemma Kept.setCrypto (hp : s.fwd.hs.Live p) (hne : q ≠ p) (cc : CircuitCrypto) : Kept s (s.setCrypto q cc) p :=
  ⟨.refl hp, update_of_ne hne.symm _ _, rfl, rfl, rfl, [], (append_nil _).symm, nofun⟩

lemma Kept.sendRelayToClient (hp : s.fwd.hs.Live p) (hne : q ≠ p) (write : Option String)
    (conn : ConnPtr) (streamID : UInt16) (cmd : UInt8) (data : Bytes) :
    Kept s (s.sendRelayToClient P write q conn streamID cmd data).1 p := by
  unfold SharedRelay.sendRelayToClient
  split
  · exact .refl hp
  next cc _ _ _ =>
  have hcrypto := Kept.setCrypto hp hne cc
  split
  · exact hcrypto
  · refine ⟨hcrypto.hs, hcrypto.crypto, rfl, rfl, rfl, [(conn, q)], rfl, ?_⟩
    exact forall_mem_singleton.2 hne

lemma Kept.runHs (h : HsState.Kept s.fwd.hs hs p) : Kept s (s.runHs P hs) p := by
  have hfold : ∀ (os : List HsOut) (id : UInt32) {t : SharedRelay}, t.fwd.hs.Live p →
      (∀ o ∈ os, ¬ o.Names p id) → Kept t (os.foldl (writeOut P) t) p := by
    intro os id
    induction os with
    | nil => exact fun ht _ => .refl ht
    | cons o os ih =>
      intro t ht hos
      have hone : Kept t (t.writeOut P o) p := by
        have ho := hos o mem_cons_self
        cases o with
        | destroy conn circID reason => exact .refl ht
        | relay q conn streamID cmd data => exact .sendRelayToClient ht ho _ _ _ _ _
      exact hone.trans (ih hone.hs.live fun o ho => hos o (mem_cons_of_mem _ ho))
  obtain ⟨os, hos, hnames⟩ := h.out
  have hset := Kept.setHs h
  have hdrop : hs.out.drop s.fwd.hs.out.length = os := by rw [hos, drop_left]
  unfold SharedRelay.runHs
  rw [hdrop]
  exact hset.trans (hfold os _ hset.hs.live hnames)

lemma Kept.closeFor (h : HsInv s.fwd.hs) (hp : s.fwd.hs.Live p)
    (hid : circuitID ≠ (s.fwd.hs.heap p).circuitID) (hmate : ¬ s.fwd.hs.MateOf circuitID p)
    (conn : ConnPtr) (reason : UInt8) : Kept s (s.closeFor conn circuitID reason) p := by
  have hemit : HsState.Kept s.fwd.hs (s.fwd.hs.emit (.destroy conn circuitID reason)) p :=
    .emit hp hid
  exact .setHs (hemit.trans (.closeCircuit h.emit hemit.live hid hmate))

variable {rc : RelayCell}

lemma Kept.handleIntroduce1 (h : HsInv s.fwd.hs) (hp : s.fwd.hs.Live p) (ha : s.fwd.hs.Apart q p)
    (hcmd : rc.command = relayIntroduce1) (hintro : ¬ s.Introduces p rc) :
    Kept s (s.handleIntroduce1 P env q conn rc.data) p := by
  have hack : ∀ {t : SharedRelay} (status : UInt16), t.fwd.hs.Live p →
      Kept t (t.sendRelayToClient P env.answer q conn 0 relayIntroduceAck (introAckPayload status)).1 p :=
    fun status ht => .sendRelayToClient ht ha.ne _ _ _ _ _
  fun_cases s.handleIntroduce1 P env q conn rc.data
  case case1 => exact .setHs (.destroyHSCircuit h hp ha _ _)
  case case5 auth hauth slot hslot _ t _ hsend | case6 auth hauth slot hslot _ t hsend =>
    have hsent := Kept.sendRelayToClient (P := P) hp
      (fun heq => hintro ⟨hcmd, auth, hauth, slot, hslot, heq⟩) env.hs.write slot.conn 0
      relayIntroduce2 rc.data
    rw [hsend] at hsent
    exact hsent.trans (hack _ hsent.hs.live)
  all_goals exact hack _ hp

lemma apart_of_mate (h : HsInv s.fwd.hs) (hget : s.fwd.hs.circuits.get circuitID = some q)
    (hid : circuitID ≠ (s.fwd.hs.heap p).circuitID) (hmate : ¬ s.fwd.hs.MateOf circuitID p) :
    s.fwd.hs.Apart q p := by
  have hqid := (h.named circuitID q hget).1
  exact ⟨hqid ▸ hid, hqid ▸ hmate⟩

variable {cmd : LinkCmd} {payload : Bytes}

lemma recognized_of_ok {cc cc' : CircuitCrypto} {plain tag : Bytes}
    (hdec : cc.decryptInbound P payload (cgoAD cmd) = (cc', .ok (plain, tag)))
    (hrc : cc'.decodeRelay plain = .ok rc) : rc ∈ cc.recognized P cmd payload := by
  unfold CircuitCrypto.recognized
  rw [hdec]
  dsimp only
  rw [hrc]
  rfl

variable {env : CellEnv}

section Elsewhere

variable (hr : HsInv s.fwd.hs) (hp : s.fwd.hs.Live p) (hget : s.fwd.hs.circuits.get circuitID = some q)
  (hid : circuitID ≠ (s.fwd.hs.heap p).circuitID) (hmate : ¬ s.fwd.hs.MateOf circuitID p)
include hr hp hget hid hmate

lemma Kept.handleLocal (haddr : ¬ s.Addresses env p rc) (conn : ConnPtr) :
    Kept s (s.handleLocal P verify env circuitID q conn rc) p := by
  obtain ⟨hexp, haddr⟩ := not_or.1 haddr
  obtain ⟨hmeets, hintro⟩ := not_or.1 haddr
  have ha := apart_of_mate hr hget hid hmate
  have hclose : ∀ reason, Kept s (s.closeFor conn circuitID reason) p :=
    fun reason => .closeFor hr hp hid hmate conn reason
  unfold SharedRelay.handleLocal
  split
  · split
    · exact hclose _
    · exact ⟨.refl hp, rfl, rfl, rfl, rfl, [], (append_nil _).symm, nofun⟩
  split
  · split
    · exact hclose _
    · exact .refl hp
  split
  next hcmd =>
    split
    · exact .setHs (.destroyHSCircuit hr hp ha _ _)
    · exact .handleIntroduce1 hr hp ha hcmd hintro
  · exact .runHs (.handleRecognized hr hp (hr.live_of_get hget) ha.ne
      (fun hj => hmate ⟨q, hget, hj⟩) (fun hcmd hnow => hexp ⟨hcmd, hnow⟩) hmeets)

lemma Kept.handleLocalRelayCell
    (haddr : ∀ rc ∈ (s.fwd.crypto q).recognized P cmd payload, ¬ s.Addresses env p rc) :
    Kept s (s.handleLocalRelayCell P verify env circuitID q cmd payload conn) p := by
  have hne := (apart_of_mate hr hget hid hmate).ne
  unfold SharedRelay.handleLocalRelayCell
  cases hdec : (s.fwd.crypto q).decryptInbound P payload (cgoAD cmd) with
  | mk cc result =>
  have hcrypto := Kept.setCrypto hp hne cc
  dsimp only
  split
  · exact hcrypto.trans (.closeFor (s := s.setCrypto q cc) hr hp hid hmate _ _)
  · exact hcrypto
  split
  · exact hcrypto
  next rc hrc =>
  have hrc' := haddr rc (recognized_of_ok hdec hrc)
  split
  next peer peerConn hpeer =>
    have hpeerne : peer ≠ p := by
      rintro rfl
      exact hmate ⟨q, hget, peerConn, hpeer⟩
    exact hcrypto.trans (.sendRelayToClient (s := s.setCrypto q cc) hp hpeerne _ _ _ _ _)
  · exact hcrypto.trans (.handleLocal (s := s.setCrypto q cc) hr hp hget hid hmate hrc' _)

lemma Kept.forwardExtended : Kept s (s.forwardExtended P env circuitID q cmd payload conn) p := by
  have hne := (apart_of_mate hr hget hid hmate).ne
  obtain ⟨hhs, hcrypto, hnext⟩ :=
    forwardExtendedFromClient_cases (P := P) s.fwd circuitID q cmd payload
  obtain ⟨hkept, hinv, hmate'⟩ : Kept s { s with
        fwd := (s.fwd.forwardExtendedFromClient P circuitID q cmd payload).state } p ∧
      HsInv (s.fwd.forwardExtendedFromClient P circuitID q cmd payload).state.hs ∧
      ¬ (s.fwd.forwardExtendedFromClient P circuitID q cmd payload).state.hs.MateOf circuitID p := by
    refine ⟨⟨?_, hcrypto p hne.symm, hnext _ hid.symm, rfl, rfl, [], (append_nil _).symm, nofun⟩, ?_, ?_⟩
    all_goals
      rcases hhs with hhs | hhs
      all_goals rw [hhs]
    · exact .refl hp
    · exact .handleDestroy hp hid
    · exact hr
    · exact hr.handleDestroy circuitID
    · exact hmate
    · exact hmate
  unfold SharedRelay.forwardExtended
  split
  · split
    · split
      · exact hkept.trans (.closeFor hinv hkept.hs.live (hkept.hs.heap ▸ hid) hmate' _ _)
      · exact hkept
    · exact hkept
  · exact hkept

end Elsewhere

lemma Kept.handleRelay (h : HsInv s.fwd.hs) (hp : s.fwd.hs.Live p) (hid : circuitID ≠ (s.fwd.hs.heap p).circuitID)
    (hc : ¬ s.Concerns P p (.relay env circuitID cmd payload)) :
    Kept s (s.handleRelay P verify env circuitID cmd payload conn) p := by
  obtain ⟨hmate, haddr⟩ := not_or.1 hc
  unfold SharedRelay.handleRelay
  split
  · exact .setHs (.emit hp hid)
  next q hget =>
  split
  · exact .forwardExtended h hp hget hid hmate
  · exact .handleLocalRelayCell h hp hget hid hmate (fun rc hrc ha => haddr ⟨q, hget, rc, hrc, ha⟩)

lemma circuitID_ne (hp : s.fwd.hs.Live p) (hown : s.Holds c circuitID) (hne : s.owner p ≠ c) :
    circuitID ≠ (s.fwd.hs.heap p).circuitID := by
  rintro rfl
  exact hne (hown p hp)

/-- **A cell of one connection leaves the circuits of the others alone**, unless it is about one. -/
theorem Kept.handleIncomingCell (h : s.Inv) (hp : s.fwd.hs.Live p) (hown : s.Holds c m.circuitID)
    (hne : s.owner p ≠ c) (hc : ¬ s.Concerns P p m) :
    Kept s (s.handleIncomingCell P verify c m) p := by
  have hid := circuitID_ne hp hown hne
  cases m with
  | create2 circuitID circNonce crypto =>
    have hfresh : p ≠ s.fwd.hs.fresh := Nat.ne_of_lt (h.hs.named _ p hp).2
    unfold handleIncomingCell
    dsimp only
    split
    · exact .setHs (.emit hp hid)
    · exact ⟨.create2 h.hs hp, update_of_ne hfresh _ _, rfl, rfl,
        update_of_ne hfresh _ _, [], (append_nil _).symm, nofun⟩
  | relay env circuitID cmd payload => exact .handleRelay h.hs hp hid hc
  | destroy circuitID => exact .setHs (.closeCircuit h.hs hp hid hc)

lemma get_handleIncomingCell_none (h : s.Inv) {id : UInt32} (hown : s.Holds c m.circuitID)
    (hfree : s.fwd.hs.circuits.get id = none)
    (hm : ∀ circNonce crypto, m ≠ .create2 id circNonce crypto) :
    (s.handleIncomingCell P verify c m).fwd.hs.circuits.get id = none := by
  have hgoes : ∀ {t : SharedRelay}, Goes s t → t.fwd.hs.circuits.get id = none := by
    intro t hg
    refine Option.eq_none_iff_forall_ne_some.2 fun p hget => ?_
    have hold := hg.moves.sub id p hget
    rw [hfree] at hold
    cases hold
  cases m with
  | create2 circuitID circNonce crypto =>
    unfold handleIncomingCell
    dsimp only
    split
    · exact hfree
    next hget =>
    have hne : id ≠ circuitID := by
      rintro rfl
      exact hm circNonce crypto rfl
    unfold HsState.create2
    rw [hget]
    exact (Table.get_set_of_ne _ hne).trans hfree
  | relay env circuitID cmd payload => exact hgoes (.handleRelay h hown)
  | destroy circuitID => exact hgoes (.closeCircuit h)

/-! ### Every run -/

theorem Inv.run {events : List SharedStep} (h : s.Inv) (hown : RunMeets (SharedRelay.step P verify) Own s events)
    (hrun : Lib.run (SharedRelay.step P verify) s events = some s') : s'.Inv :=
  run_inv (fun _ _ _ h hown hstep => h.step hown hstep) h hown hrun

/-- A circuit whose directions have the same keys, so that it accepts what it would send. -/
def mirrorCrypto : CircuitCrypto :=
  .tor1 { key := zeros 16, iv := Block.copyOf [] } { key := zeros 16, iv := Block.copyOf [] } [] []

/-- The first cell of such a circuit's client. -/
def mirrorCell (cmd : UInt8) (data : Bytes) : Bytes :=
  match (newRelayCell 0 cmd data).bind (mirrorCrypto.originateRelayTag xorPrimitives) with
  | .ok (_, enc, _) => enc
  | .error _ => []

def quietEnv : CellEnv := { hs := ⟨0, none⟩ }

/-- Connections 10 and 20 each create a circuit, and that of connection 10 waits with a cookie. -/
def waiting : List SharedStep :=
  [.cell 10 (.create2 1 (zeros 20) mirrorCrypto), .cell 20 (.create2 2 (zeros 20) mirrorCrypto),
    .cell 10 (.relay quietEnv 1 .relay (mirrorCell relayEstablishRendezvous (zeros 20)))]

def startState : SharedRelay := initial (fun _ => mirrorCrypto) fun _ => { nextHopCircuitID := 0 }

end SharedRelay

end GoTor.Relay
