import GoTor.Relay.HsRoles

/-!
# What closing a circuit takes out of the hidden-service tables

A circuit keeps the cookie it once registered when its slot is consumed, and `forgetHS` erases
what stands under that cookie, whoever put it there.  So closing a circuit takes out exactly its
own registrations as long as nobody else has registered a cookie it remembers.
-/

namespace GoTor.Relay

open GoTor.Lib GoTor.Cell HsState Option List

namespace HsState

variable {s : HsState} {p q : CircPtr} {circuitID : UInt32}

/-- The circuits that are closed with a circuit: itself and the one it is joined to. -/
def ClosedWith (s : HsState) (p r : CircPtr) : Prop := r = p ∨ s.Joined p r

/-- Closing the circuit takes out the slots of the circuit and leaves all others. -/
structure CloseIsExact (s : HsState) (p : CircPtr) (circuitID : UInt32) : Prop where
  intro_exact : ∀ key, (s.closeCircuit circuitID).introByAuth.get key =
    (s.introByAuth.get key).filter fun slot => slot.circ ≠ p
  rend_exact : ∀ key, (s.closeCircuit circuitID).rendByCookie.get key =
    (s.rendByCookie.get key).filter fun slot => slot.circ ≠ p

/-- What the circuit and its partner remember as their cookie is registered by none but
themselves. -/
def CookiesOwn (s : HsState) (p : CircPtr) : Prop :=
  ∀ r, s.ClosedWith p r → ∀ slot,
    s.rendByCookie.get (hexEncode (s.heap r).rendCookie) = some slot → slot.circ = r

lemma closedWith_unjoined (h : (s.heap p).joined = none) (r : CircPtr) : s.ClosedWith p r ↔ r = p := by
  simp [ClosedWith, Joined, h]

lemma closedWith_joined {conn : ConnPtr} (h : (s.heap p).joined = some (q, conn)) (r : CircPtr) :
    s.ClosedWith p r ↔ r = p ∨ r = q := by
  simp [ClosedWith, Joined, h, eq_comm]

lemma unlinked_unjoin {r : CircPtr} : ((s.unjoin p).1.heap r).unlinked = (s.heap r).unlinked := by
  cases hjoined : (s.heap p).joined with
  | none => rw [unjoin, hjoined]
  | some pair =>
    rw [heap_unjoin hjoined]
    split <;> rfl

variable (h : HsInv s) (hget : s.circuits.get circuitID = some p)
include h hget

open Classical in
/-- The two maps are treated alike: `T` is the map and `G` the field that names the keys. -/
lemma get_closeCircuit (T : HsState → Table Bytes HsRoleSlot) (G : HsCircuit → Bytes) {n : ℕ} {key : Bytes}
    (hdrop : ∀ s p id, (T (HsState.drop s p id)).get key =
      if (G (s.heap p)).length = n ∧ key = hexEncode (G (s.heap p)) then none else (T s).get key)
    (hunjoin : T (s.unjoin p).1 = T s) (hdestroy : ∀ s id, T (handleDestroy s id) = T s)
    (hfield : ∀ c, G c.unlinked = G c) :
    (T (s.closeCircuit circuitID)).get key =
      if ∃ r, s.ClosedWith p r ∧ (G (s.heap r)).length = n ∧ key = hexEncode (G (s.heap r))
      then none else (T s).get key := by
  rcases closeCircuit_cases h hget with ⟨hunjoined, heq⟩ | ⟨q, conn, hjoined, -, -, heq⟩
  · rw [heq, hdestroy, hdrop]
    simp only [closedWith_unjoined hunjoined, exists_eq_left]
  · have hG : ∀ r, G ((s.unjoin p).1.heap r) = G (s.heap r) := fun r => by
      rw [← hfield, unlinked_unjoin, hfield]
    have hheap : ((s.unjoin p).1.drop p circuitID).heap = (s.unjoin p).1.heap := rfl
    rw [heq, hdestroy, hdestroy, hdrop, hdrop, hheap, hG, hG, hunjoin]
    simp only [closedWith_joined hjoined, or_and_right, exists_or, exists_eq_left]
    by_cases hq : (G (s.heap q)).length = n ∧ key = hexEncode (G (s.heap q))
    · rw [if_pos hq, if_pos (.inr hq)]
    · simp only [hq, or_false, if_false]

lemma intro_exact (key : Bytes) :
    (s.closeCircuit circuitID).introByAuth.get key = (s.introByAuth.get key).filter fun slot => slot.circ ≠ p := by
  rw [get_closeCircuit h hget introByAuth HsCircuit.introAuth (introByAuth_drop · · key ·) (field_unjoin _ fun _ _ => rfl)
    (fun _ _ => rfl) fun _ => rfl]
  split
  next hkey =>
    obtain ⟨r, hr, hlen, rfl⟩ := hkey
    have hne : (s.heap r).introAuth ≠ [] := ne_nil_of_length_eq_add_one hlen
    rcases hr with rfl | hjoined
    · obtain ⟨slot, hslot, hcirc⟩ := h.intro_held r (h.live_of_get hget) hne
      rw [hslot, filter_some, if_neg (by simp [hcirc])]
    · exact absurd (h.joined_live r p (h.joined_symm p r hjoined)).2 hne
  next hkey =>
    cases hslot : s.introByAuth.get key with
    | none => rfl
    | some slot =>
      have hs := h.intro_slot key slot hslot
      have hcirc : slot.circ ≠ p := by
        rintro rfl
        exact hkey ⟨slot.circ, .inl rfl, hs.key_length, hs.key_eq⟩
      rw [filter_some, if_pos (decide_eq_true hcirc)]

lemma rend_exact_iff :
    (∀ key, (s.closeCircuit circuitID).rendByCookie.get key =
      (s.rendByCookie.get key).filter fun slot => slot.circ ≠ p) ↔ s.CookiesOwn p := by
  have hclose := fun key => get_closeCircuit h hget rendByCookie HsCircuit.rendCookie
    (rendByCookie_drop · · key ·) (field_unjoin _ fun _ _ => rfl) (fun _ _ => rfl) fun _ => rfl
  -- a partner holds no slot
  have hpartner : ∀ r, s.Joined p r → ∀ key slot, s.rendByCookie.get key = some slot →
      slot.circ ≠ r ∧ slot.circ ≠ p := by
    rintro r hpr key slot hslot
    have hs := h.rend_slot key slot hslot
    refine ⟨?_, ?_⟩
    · rintro rfl
      obtain ⟨conn, hrp⟩ := h.joined_symm p _ hpr
      exact absurd (hs.unjoined.symm.trans hrp) (by simp)
    · rintro rfl
      obtain ⟨conn, hpr⟩ := hpr
      exact absurd (hs.unjoined.symm.trans hpr) (by simp)
  constructor
  · intro hexact r hr slot hslot
    have hs := h.rend_slot _ slot hslot
    have hsame := hexEncode_injective hs.key_eq
    have hgone := hexact (hexEncode (s.heap r).rendCookie)
    rw [hclose, if_pos ⟨r, hr, hsame ▸ hs.key_length, rfl⟩, hslot] at hgone
    have hcirc : slot.circ = p := by
      by_contra hne
      rw [filter_some, if_pos (decide_eq_true hne)] at hgone
      cases hgone
    rcases hr with rfl | hjoined
    · exact hcirc
    · exact absurd hcirc (hpartner r hjoined _ slot hslot).2
  · intro hown key
    rw [hclose]
    split
    next hkey =>
      obtain ⟨r, hr, -, rfl⟩ := hkey
      cases hslot : s.rendByCookie.get (hexEncode (s.heap r).rendCookie) with
      | none => rfl
      | some slot =>
        have hcirc := hown r hr slot hslot
        rcases hr with rfl | hjoined
        · rw [filter_some, if_neg (by simp [hcirc])]
        · exact absurd hcirc (hpartner r hjoined _ slot hslot).1
    next hkey =>
      cases hslot : s.rendByCookie.get key with
      | none => rfl
      | some slot =>
        have hs := h.rend_slot key slot hslot
        have hcirc : slot.circ ≠ p := by
          rintro rfl
          exact hkey ⟨slot.circ, .inl rfl, hs.key_length, hs.key_eq⟩
        rw [filter_some, if_pos (decide_eq_true hcirc)]

end HsState

/-- **Closing a circuit** takes out exactly the registrations it holds if and only if neither it
nor the circuit joined to it remembers a cookie that another circuit has registered. -/
theorem hs_close_exact_iff (verify : Bytes → Bytes → Option String) (events : List HsEvent)
    (circuitID : UInt32) (p : CircPtr)
    (hget : (after verify events).circuits.get circuitID = some p) :
    (after verify events).CloseIsExact p circuitID ↔ (after verify events).CookiesOwn p := by
  have h := HsInv.after verify events
  rw [← rend_exact_iff h hget]
  exact ⟨fun hexact => hexact.rend_exact, fun hrend => ⟨intro_exact h hget, hrend⟩⟩

/-- After two circuits have met, a third one registers the cookie the first remembers. -/
def cookieReused : List HsEvent :=
  meeting ++ [.create2 3 [],
    .relay ⟨0, none⟩ 3 30 0 relayEstablishRendezvous (replicate 20 90)]

private lemma cookieReused_slot :
    (after (fun _ _ => none) cookieReused).rendByCookie.get
      (hexEncode (replicate 20 90)) = some ⟨2, 30, 0⟩ := by
  decide +kernel

theorem hs_close_exact_iff_holder :
    (after (fun _ _ => none) cookieReused).circuits.get 3 = some 2 ∧
      (after (fun _ _ => none) cookieReused).CloseIsExact 2 3 := by
  have hget : (after (fun _ _ => none) cookieReused).circuits.get 3 = some 2 := by
    decide +kernel
  refine ⟨hget, (hs_close_exact_iff (fun _ _ => none) cookieReused 3 2 hget).2 ?_⟩
  have hunjoined : ((after (fun _ _ => none) cookieReused).heap 2).joined = none := by
    decide +kernel
  have hcookie : ((after (fun _ _ => none) cookieReused).heap 2).rendCookie = replicate 20 90 := by
    decide +kernel
  intro r hr slot hslot
  rw [closedWith_unjoined hunjoined] at hr
  subst hr
  rw [hcookie, cookieReused_slot] at hslot
  rw [← some.inj hslot]

theorem hs_close_erases_other :
    (after (fun _ _ => none) cookieReused).circuits.get 1 = some 0 ∧
      ¬ (after (fun _ _ => none) cookieReused).CloseIsExact 0 1 := by
  refine ⟨by decide +kernel, fun h => ?_⟩
  have hexact := h.rend_exact (hexEncode (replicate 20 90))
  cases hexact

end GoTor.Relay
