import GoTor.Relay.HsFrame

/-!
# Circuits and the connections stored with them

The tables keep a connection beside a circuit in three places: the slots of introduction points,
the slots of rendezvous points, and the joined pairs.  A handler that is called with a circuit and
the connection it belongs to stores and writes only what belongs together, whatever belonging
means; and it adds no circuit.
-/

namespace GoTor.Relay

open GoTor.Lib GoTor.Cell HsState HsCircuit List

/-! ### What the tables store -/

namespace HsState

variable {K : CircPtr → ConnPtr → Prop} {s s' s'' : HsState} {p q : CircPtr} {conn : ConnPtr}

/-- Every connection in the tables belongs to the circuit it is stored with. -/
structure Stores (K : CircPtr → ConnPtr → Prop) (s : HsState) : Prop where
  intro : ∀ key slot, s.introByAuth.get key = some slot → K slot.circ slot.conn
  rend : ∀ key slot, s.rendByCookie.get key = some slot → K slot.circ slot.conn
  joined : ∀ r q conn, (s.heap r).joined = some (q, conn) → K q conn
  out : ∀ r conn streamID cmd data, HsOut.relay r conn streamID cmd data ∈ s.out → K r conn

/-- A handler has run: what is stored still belongs together, no circuit has been added, and an
extension that is left is one of a circuit that has not changed. -/
structure Moves (K : CircPtr → ConnPtr → Prop) (s s' : HsState) : Prop where
  stores : s'.Stores K
  fresh : s'.fresh = s.fresh
  sub : ∀ id p, s'.circuits.get id = some p → s.circuits.get id = some p
  ext : ∀ id, s'.extended.get id ≠ none →
    s.extended.get id ≠ none ∧ s'.circuits.get id = s.circuits.get id

lemma Moves.refl (h : s.Stores K) : Moves K s s :=
  ⟨h, rfl, fun _ _ hget => hget, fun _ hid => ⟨hid, rfl⟩⟩

lemma Moves.trans (h : Moves K s s') (h' : Moves K s' s'') : Moves K s s'' :=
  ⟨h'.stores, h'.fresh.trans h.fresh, fun id p hget => h.sub id p (h'.sub id p hget), fun id hid =>
    ⟨(h.ext id (h'.ext id hid).1).1, (h'.ext id hid).2.trans (h.ext id (h'.ext id hid).1).2⟩⟩

variable (h : s.Stores K)
include h

lemma Stores.shrink
    (hintro : ∀ key slot, s'.introByAuth.get key = some slot → s.introByAuth.get key = some slot)
    (hrend : ∀ key slot, s'.rendByCookie.get key = some slot → s.rendByCookie.get key = some slot)
    (hjoined : ∀ r q conn, (s'.heap r).joined = some (q, conn) → (s.heap r).joined = some (q, conn))
    (hout : ∀ r conn streamID cmd data, HsOut.relay r conn streamID cmd data ∈ s'.out →
      HsOut.relay r conn streamID cmd data ∈ s.out) : s'.Stores K :=
  ⟨fun key slot hs => h.intro key slot (hintro key slot hs), fun key slot hs => h.rend key slot (hrend key slot hs),
    fun r q conn hr => h.joined r q conn (hjoined r q conn hr),
    fun r conn streamID cmd data ho => h.out r conn streamID cmd data (hout _ _ _ _ _ ho)⟩

lemma Stores.destroy (conn : ConnPtr) (id : UInt32) (reason : UInt8) :
    (s.emit (.destroy conn id reason)).Stores K := by
  refine h.shrink (fun _ _ hs => hs) (fun _ _ hs => hs) (fun _ _ _ hr => hr) ?_
  intro r conn' streamID cmd data ho
  exact (mem_append.1 ho).resolve_right fun ho => nomatch mem_singleton.1 ho

lemma Stores.drop (p : CircPtr) (id : UInt32) : (s.drop p id).Stores K := by
  refine h.shrink (fun key slot hs => ?_) (fun key slot hs => ?_) (fun _ _ _ hr => hr) fun _ _ _ _ _ ho => ho
  · rw [introByAuth_drop] at hs
    exact (Option.ite_none_left_eq_some.1 hs).2
  · rw [rendByCookie_drop] at hs
    exact (Option.ite_none_left_eq_some.1 hs).2

lemma Stores.unjoin (p : CircPtr) : (s.unjoin p).1.Stores K := by
  cases hjoined : (s.heap p).joined with
  | none =>
    rw [HsState.unjoin, hjoined]
    exact h
  | some pair =>
    obtain ⟨q, conn⟩ := pair
    have hfields : (s.unjoin p).1 = ({ s with heap := (s.unjoin p).1.heap } : HsState).emit
        (.destroy conn (((s.modify p unlinked).modify q unlinked).heap
          q).circuitID destroyReasonDestroyed) := by
      unfold HsState.unjoin
      rw [hjoined]
      rfl
    have hheap : Stores K { s with heap := (s.unjoin p).1.heap } := by
      refine h.shrink (fun _ _ hs => hs) (fun _ _ hs => hs) (fun r t c hr => ?_) fun _ _ _ _ _ ho => ho
      rw [heap_unjoin hjoined] at hr
      split at hr
      · cases hr
      · exact hr
    rw [hfields]
    exact hheap.destroy _ _ _

omit h

open Table

lemma Moves.handleDestroy (h : s'.Stores K) {id : UInt32} (hfresh : s'.fresh = s.fresh)
    (hsub : ∀ id' p, s'.circuits.get id' = some p → s.circuits.get id' = some p)
    (hext : ∀ id', s'.extended.get id' ≠ none → s.extended.get id' ≠ none)
    (hcircuits : ∀ id', id' ≠ id → s'.extended.get id' ≠ none →
      s'.circuits.get id' = s.circuits.get id') : Moves K s (s'.handleDestroy id) := by
  refine ⟨h.shrink (fun _ _ hs => hs) (fun _ _ hs => hs) (fun _ _ _ hr => hr)
    fun _ _ _ _ _ ho => ho, hfresh, hsub, fun id' hid' => ?_⟩
  have hid' : (s'.extended.erase id).get id' ≠ none := hid'
  rw [get_erase] at hid'
  split at hid'
  · exact absurd rfl hid'
  next hne => exact ⟨hext id' hid', hcircuits id' hne hid'⟩

/-- **Closing.**  The entries of the circuit and of its extension go together. -/
theorem Moves.closeWithin (fuel : ℕ) (h : s.Stores K) (id : UInt32) : Moves K s (closeWithin fuel s id) := by
  induction fuel generalizing s id with
  | zero => exact .refl h
  | succ fuel ih =>
    cases hget : s.circuits.get id with
    | none =>
      rw [closeWithin_unknown hget]
      exact .handleDestroy h rfl (fun _ _ hget => hget) (fun _ hid => hid) fun _ _ _ => rfl
    | some p =>
      cases hjoined : (s.heap p).joined with
      | none =>
        rw [closeWithin_unjoined hget hjoined]
        exact .handleDestroy (h.drop p id) rfl (fun _ _ hget => get_of_get_erase hget)
          (fun _ hid => hid) fun id' hne _ => get_erase_of_ne _ hne
      | some pair =>
        obtain ⟨q, conn⟩ := pair
        rw [closeWithin_joined hget hjoined]
        have hinner := ih ((h.unjoin p).drop p id) (s.heap q).circuitID
        have hextended : ((s.unjoin p).1.drop p id).extended = s.extended :=
          field_unjoin extended fun _ _ => rfl
        have hcircuits : ((s.unjoin p).1.drop p id).circuits = s.circuits.erase id :=
          congrArg (erase · id) (field_unjoin circuits fun _ _ => rfl)
        refine .handleDestroy hinner.stores (hinner.fresh.trans (field_unjoin HsState.fresh fun _ _ => rfl))
          (fun id' r hr => ?_) (fun id' hid' => ?_) fun id' hne hid' => ?_
        · have hr := hinner.sub id' r hr
          rw [hcircuits] at hr
          exact get_of_get_erase hr
        · rw [← hextended]
          exact (hinner.ext id' hid').1
        · refine (hinner.ext id' hid').2.trans ?_
          rw [hcircuits, get_erase_of_ne _ hne]

lemma Moves.closeCircuit (h : s.Stores K) {id : UInt32} : Moves K s (s.closeCircuit id) :=
  .closeWithin _ h id

lemma Moves.of_stores (h : s'.Stores K) (hfresh : s'.fresh = s.fresh)
    (hext : s'.extended = s.extended) (hcircuits : s'.circuits = s.circuits) : Moves K s s' :=
  ⟨h, hfresh, fun _ _ hget => hcircuits ▸ hget, fun id hid => ⟨hext ▸ hid, by rw [hcircuits]⟩⟩

lemma Moves.closeHSCircuit (h : s.Stores K) (p : CircPtr) (conn : ConnPtr) (reason : String)
    (dest : UInt8) : Moves K s (s.closeHSCircuit p conn reason dest).1 := by
  have hemit := h.destroy conn (s.heap p).circuitID dest
  have hout : Moves K s (s.emit _) := .of_stores hemit rfl rfl rfl
  exact hout.trans (.closeCircuit hemit)

lemma Moves.reapExpiredRend (h : s.Stores K) (now : ℤ) : Moves K s (s.reapExpiredRend now) := by
  have hfold : ∀ (dead : List HsRoleSlot) {t : HsState}, t.Stores K →
      Moves K t (dead.foldl (fun t slot => (t.closeHSCircuit slot.circ slot.conn
        "unjoined rendezvous expired" destroyReasonTimeout).1) t) := by
    intro dead
    induction dead with
    | nil => exact fun h => .refl h
    | cons slot dead ih =>
      intro t h
      have hone := Moves.closeHSCircuit h slot.circ slot.conn "unjoined rendezvous expired" destroyReasonTimeout
      exact hone.trans (ih hone.stores)
  have hkeep : Stores K { s with
      rendByCookie := s.rendByCookie.keep fun _ slot => !expired now slot } :=
    h.shrink (fun _ _ hs => hs) (fun _ _ hs => get_of_get_keep hs) (fun _ _ _ hr => hr) fun _ _ _ _ _ ho => ho
  have hreap : Moves K s { s with rendByCookie := _ } := .of_stores hkeep rfl rfl rfl
  exact hreap.trans (hfold _ hkeep)

/-! ### The handlers -/

include h

lemma Moves.destroyHSCircuit {reason : String} : Moves K s (s.destroyHSCircuit p conn reason).1 :=
  .closeHSCircuit h _ _ _ _

lemma Moves.relay (hq : K q conn) (streamID : UInt16) (cmd : UInt8)
    (data : Bytes) : Moves K s (s.emit (.relay q conn streamID cmd data)) := by
  refine .of_stores { h with out := fun r conn' streamID' cmd' data' ho => ?_ } rfl rfl rfl
  rcases mem_append.1 ho with ho | ho
  · exact h.out _ _ _ _ _ ho
  · cases mem_singleton.1 ho
    exact hq

variable {env : HsEnv} {streamID : UInt16} {cmd : UInt8} {data payload : Bytes}
  {verify : Bytes → Bytes → Option String}

lemma Moves.sendRelayToClient (hq : K q conn) :
    Moves K s (s.sendRelayToClient env q conn streamID cmd data).1 := by
  unfold HsState.sendRelayToClient
  split
  · exact .refl h
  · exact .relay h hq _ _ _

lemma Stores.modify (p : CircPtr) {f : HsCircuit → HsCircuit}
    (hf : ∀ c, (f c).joined = c.joined) : (s.modify p f).Stores K :=
  h.shrink (fun _ _ hs => hs) (fun _ _ hs => hs)
    (fun r _ _ hr => (field_modify s p r HsCircuit.joined hf).symm.trans hr)
    fun _ _ _ _ _ ho => ho

lemma Moves.registerRend (hq : K q conn) {cookie : Bytes} {now : ℤ}
    (hreg : s.registerRend q conn cookie now = .ok s') : Moves K s s' := by
  obtain ⟨-, -, -, rfl⟩ := HsInv.registerRend_eq_ok hreg
  have hmodify := h.modify q (f := fun c => { c with rendCookie := cookie }) fun _ => rfl
  refine .of_stores { hmodify with rend := fun key slot hs => ?_ } rfl rfl rfl
  rw [get_set] at hs
  split at hs
  · cases hs
    exact hq
  · exact h.rend key slot hs

lemma Moves.registerIntro (hq : K q conn) {auth : Bytes} {now : ℤ}
    (hreg : s.registerIntro q conn auth now = .ok s') : Moves K s s' := by
  obtain ⟨-, -, -, -, rfl⟩ := HsInv.registerIntro_eq_ok hreg
  have hmodify := h.modify q (f := fun c => { c with introAuth := auth }) fun _ => rfl
  refine .of_stores { hmodify with intro := fun key slot hs => ?_ } rfl rfl rfl
  rw [get_set] at hs
  split at hs
  · cases hs
    exact hq
  · exact h.intro key slot hs

lemma Moves.restoreRend {slot : HsRoleSlot} (hslot : K slot.circ slot.conn)
    (key : Bytes) : Moves K s (s.restoreRend key slot) := by
  unfold HsState.restoreRend
  split
  · refine .of_stores { h with rend := fun key' slot' hs => ?_ } rfl rfl rfl
    rw [get_set] at hs
    split at hs
    · cases hs
      exact hslot
    · exact h.rend key' slot' hs
  · exact .refl h

lemma Moves.joinHSCircuits {a b : CircPtr} {aConn bConn : ConnPtr}
    (ha : K a aConn) (hb : K b bConn) : Moves K s (s.joinHSCircuits a aConn b bConn) := by
  refine .of_stores { h with joined := fun r q conn hr => ?_ } rfl rfl rfl
  have hr : (((s.modify a fun c => { c with joined := some (b, bConn) }).modify b
      fun c => { c with joined := some (a, aConn) }).heap r).joined = some (q, conn) := hr
  rw [heap_modify, heap_modify] at hr
  split at hr
  · cases hr
    exact ha
  · split at hr
    · cases hr
      exact hb
    · exact h.joined r q conn hr

lemma Moves.handleEstablishRendezvous (hq : K q conn) :
    Moves K s (s.handleEstablishRendezvous env q conn payload).1 := by
  have hreap := Moves.reapExpiredRend h env.now
  fun_cases s.handleEstablishRendezvous env q conn payload
  case case1 => exact .destroyHSCircuit h
  case case4 s' hreg =>
    have hmoves := hreap.trans (.registerRend hreap.stores hq hreg)
    exact hmoves.trans (.sendRelayToClient hmoves.stores hq)
  all_goals exact hreap.trans (.destroyHSCircuit hreap.stores)

lemma Moves.handleRendezvous1 (hq : K q conn) :
    Moves K s (s.handleRendezvous1 env q conn payload).1 := by
  have hreap := Moves.reapExpiredRend h env.now
  unfold HsState.handleRendezvous1
  split
  · exact .destroyHSCircuit h
  dsimp only
  split
  · exact hreap.trans (.destroyHSCircuit hreap.stores)
  split
  · exact hreap.trans (.destroyHSCircuit hreap.stores)
  next slot hget =>
  have hslot : K slot.circ slot.conn := hreap.stores.rend _ slot hget
  have herase : Moves K s { s.reapExpiredRend env.now with
      rendByCookie := (s.reapExpiredRend env.now).rendByCookie.erase (hexEncode (payload.take rendCookieLen)) } :=
    hreap.trans (.of_stores (hreap.stores.shrink (fun _ _ hs => hs)
      (fun _ _ hs => get_of_get_erase hs) (fun _ _ _ hr => hr) fun _ _ _ _ _ ho => ho)
      rfl rfl rfl)
  have hrestore := herase.trans (.restoreRend herase.stores hslot (hexEncode (payload.take rendCookieLen)))
  split
  · exact herase.trans (.destroyHSCircuit herase.stores)
  split
  · exact hrestore.trans (.destroyHSCircuit hrestore.stores)
  unfold HsState.sendRelayToClient
  cases env.write with
  | some e => exact hrestore.trans (.destroyHSCircuit hrestore.stores)
  | none =>
    have hemit := herase.trans (.relay herase.stores hslot 0 relayRendezvous2 (payload.drop rendCookieLen))
    exact hemit.trans (.joinHSCircuits hemit.stores hq hslot)

lemma Moves.handleEstablishIntro (hq : K q conn) :
    Moves K s (s.handleEstablishIntro verify env q conn payload).1 := by
  fun_cases s.handleEstablishIntro verify env q conn payload
  case case7 s' hreg =>
    have hmoves := Moves.registerIntro h hq hreg
    exact hmoves.trans (.sendRelayToClient hmoves.stores hq)
  all_goals exact .destroyHSCircuit h

/-- **A recognised cell keeps what is stored together**, if it came on the connection of its
circuit. -/
theorem Moves.handleRecognized (hq : K q conn) :
    Moves K s (s.handleRecognized verify env q conn streamID cmd data).1 := by
  fun_cases s.handleRecognized verify env q conn streamID cmd data
  case case1 peer peerConn hpeer => exact .sendRelayToClient h (h.joined _ _ _ hpeer)
  case case3 => exact .handleEstablishIntro h hq
  case case5 => exact .handleEstablishRendezvous h hq
  case case7 => exact .handleRendezvous1 h hq
  case case8 =>
    exact .handleDestroy h rfl (fun _ _ hget => hget) (fun _ hid => hid) fun _ _ _ => rfl
  case case9 => exact .refl h
  all_goals exact .destroyHSCircuit h

end HsState

end GoTor.Relay
