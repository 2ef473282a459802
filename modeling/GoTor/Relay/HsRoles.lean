import GoTor.Relay.HsTables

/-!
# Roles of circuits at introduction and rendezvous points

Whatever happens at the relay, a circuit is an introduction point, waits at a rendezvous point or
is joined to exactly one other circuit, and never two of these.  `HsInv` says how the maps and the
circuits' fields belong together; every handler keeps it.  Handlers run in one piece;
`join_after_close` says what a circuit closed within RENDEZVOUS1 leads to.
-/

namespace GoTor.Relay

open GoTor.Lib GoTor.Cell List HsState HsCircuit Table Option

def HsCircuit.unlinked (c : HsCircuit) : HsCircuit := { c with joined := none }

namespace HsState

/-- The circuit is the one its ID names. -/
def Live (s : HsState) (p : CircPtr) : Prop := s.circuits.get (s.heap p).circuitID = some p

def Joined (s : HsState) (p q : CircPtr) : Prop := ∃ conn, (s.heap p).joined = some (q, conn)

end HsState

inductive HsRole
  | introduction
  | waiting
  | joined
  deriving DecidableEq

def HsState.HasRole (s : HsState) (p : CircPtr) : HsRole → Prop
  | .introduction => ∃ key slot, s.introByAuth.get key = some slot ∧ slot.circ = p
  | .waiting => ∃ key slot, s.rendByCookie.get key = some slot ∧ slot.circ = p
  | .joined => ∃ q, s.Joined p q

/-! ### The invariant -/

/-- A slot of `introByAuth` is that of a live circuit with that key. -/
structure IntroSlot (s : HsState) (key : Bytes) (slot : HsRoleSlot) : Prop where
  key_eq : key = hexEncode (s.heap slot.circ).introAuth
  key_length : (s.heap slot.circ).introAuth.length = ed25519AuthKeyLen
  live : s.Live slot.circ

/-- A slot of `rendByCookie` is that of a live circuit with that cookie, which nobody has met. -/
structure RendSlot (s : HsState) (key : Bytes) (slot : HsRoleSlot) : Prop where
  key_eq : key = hexEncode (s.heap slot.circ).rendCookie
  key_length : (s.heap slot.circ).rendCookie.length = rendCookieLen
  live : s.Live slot.circ
  unjoined : (s.heap slot.circ).joined = none
  registered : slot.circ ∈ s.established
  unconsumed : slot.circ ∉ s.consumed.map Prod.snd

section Carry

variable {s s' : HsState} {key : Bytes} {slot : HsRoleSlot}

lemma IntroSlot.auth_ne (h : IntroSlot s key slot) : (s.heap slot.circ).introAuth ≠ [] :=
  ne_nil_of_length_eq_add_one h.key_length

lemma RendSlot.cookie_ne (h : RendSlot s key slot) : (s.heap slot.circ).rendCookie ≠ [] :=
  ne_nil_of_length_eq_add_one h.key_length

lemma IntroSlot.carry (h : IntroSlot s key slot)
    (hheap : (s'.heap slot.circ).introAuth = (s.heap slot.circ).introAuth)
    (hlive : s'.Live slot.circ) : IntroSlot s' key slot :=
  ⟨by rw [hheap]; exact h.key_eq, by rw [hheap]; exact h.key_length, hlive⟩

lemma RendSlot.carry (h : RendSlot s key slot)
    (hheap : (s'.heap slot.circ).rendCookie = (s.heap slot.circ).rendCookie)
    (hlive : s'.Live slot.circ) (hunjoined : (s'.heap slot.circ).joined = none)
    (hestablished : s.established ⊆ s'.established)
    (hconsumed : slot.circ ∉ s'.consumed.map Prod.snd) : RendSlot s' key slot :=
  ⟨by rw [hheap]; exact h.key_eq, by rw [hheap]; exact h.key_length, hlive, hunjoined,
    hestablished h.registered, hconsumed⟩

end Carry

/-- **How the tables belong together.** -/
structure HsInv (s : HsState) : Prop where
  named : ∀ id p, s.circuits.get id = some p → (s.heap p).circuitID = id ∧ p < s.fresh
  unborn : ∀ p, s.fresh ≤ p → s.heap p = {}
  joined_symm : ∀ p q, s.Joined p q → s.Joined q p
  joined_ne : ∀ p q, s.Joined p q → p ≠ q
  joined_live : ∀ p q, s.Joined p q → s.Live p ∧ (s.heap p).introAuth = []
  one_key : ∀ p, (s.heap p).introAuth = [] ∨ (s.heap p).rendCookie = []
  intro_slot : ∀ key slot, s.introByAuth.get key = some slot → IntroSlot s key slot
  intro_held : ∀ p, s.Live p → (s.heap p).introAuth ≠ [] →
    ∃ slot, s.introByAuth.get (hexEncode (s.heap p).introAuth) = some slot ∧ slot.circ = p
  rend_slot : ∀ key slot, s.rendByCookie.get key = some slot → RendSlot s key slot
  established_cookie : ∀ p ∈ s.established, (s.heap p).rendCookie ≠ []
  established_nodup : s.established.Nodup
  consumed_established : ∀ c ∈ s.consumed, c.2 ∈ s.established
  consumed_nodup : (s.consumed.map Prod.snd).Nodup

namespace HsInv

variable {s : HsState} {p q : CircPtr}

lemma initial : HsInv {} where
  named _ _ h := by cases h
  unborn _ _ := rfl
  joined_symm _ _ h := by obtain ⟨_, h⟩ := h; cases h
  joined_ne _ _ h := by obtain ⟨_, h⟩ := h; cases h
  joined_live _ _ h := by obtain ⟨_, h⟩ := h; cases h
  one_key _ := .inl rfl
  intro_slot _ _ h := by cases h
  intro_held _ h := by cases h
  rend_slot _ _ h := by cases h
  established_cookie _ h := by cases h
  established_nodup := nodup_nil
  consumed_established _ h := by cases h
  consumed_nodup := nodup_nil

lemma frame (h : HsInv s) {out : List HsOut} {extended : Table UInt32 Unit} : HsInv { s with out, extended } :=
  { h with
    intro_slot := fun key slot hget =>
      have hs := h.intro_slot key slot hget
      hs.carry rfl hs.live
    rend_slot := fun key slot hget =>
      have hs := h.rend_slot key slot hget
      hs.carry rfl hs.live hs.unjoined (List.Subset.refl _) hs.unconsumed }

lemma emit (h : HsInv s) {o : HsOut} : HsInv (s.emit o) := h.frame

lemma handleDestroy (h : HsInv s) (circuitID : UInt32) : HsInv (s.handleDestroy circuitID) :=
  h.frame

lemma shrink (h : HsInv s) {rendByCookie : Table Bytes HsRoleSlot}
    (hsub : ∀ key slot, rendByCookie.get key = some slot → s.rendByCookie.get key = some slot) :
    HsInv { s with rendByCookie } :=
  { h with
    intro_slot := fun key slot hget =>
      have hs := h.intro_slot key slot hget
      hs.carry rfl hs.live
    rend_slot := fun key slot hget =>
      have hs := h.rend_slot key slot (hsub key slot hget)
      hs.carry rfl hs.live hs.unjoined (List.Subset.refl _) hs.unconsumed }

lemma live_unique (hp : s.Live p) (hq : s.Live q)
    (hid : (s.heap p).circuitID = (s.heap q).circuitID) : p = q := by
  unfold HsState.Live at hp hq
  rw [hid, hq] at hp
  exact (some.inj hp).symm

lemma live_of_get (h : HsInv s) {id : UInt32} (hget : s.circuits.get id = some p) : s.Live p := by
  have hid := (h.named id p hget).1
  unfold HsState.Live
  rw [hid]
  exact hget

lemma rend_circ_unique (h : HsInv s) {key key' : Bytes} {slot slot' : HsRoleSlot}
    (hget : s.rendByCookie.get key = some slot) (hget' : s.rendByCookie.get key' = some slot')
    (hcirc : slot.circ = slot'.circ) : key = key' := by
  rw [(h.rend_slot key slot hget).key_eq, (h.rend_slot key' slot' hget').key_eq, hcirc]

end HsInv

/-! ### Closing a circuit -/

namespace HsState

variable (s : HsState) (p q r : CircPtr) (key : Bytes)

lemma heap_modify (f : HsCircuit → HsCircuit) :
    (s.modify p f).heap r = if r = p then f (s.heap r) else s.heap r := by
  unfold modify
  by_cases h : r = p
  · subst h
    simp
  · simp [h]

lemma heap_modify_self (f : HsCircuit → HsCircuit) : (s.modify p f).heap p = f (s.heap p) := by
  rw [heap_modify, if_pos rfl]

variable {f : HsCircuit → HsCircuit}

variable {p r} in
lemma heap_modify_of_ne (h : r ≠ p) : (s.modify p f).heap r = s.heap r := by
  rw [heap_modify, if_neg h]

lemma field_modify {β : Type*} (g : HsCircuit → β) (hg : ∀ c, g (f c) = g c) :
    g ((s.modify p f).heap r) = g (s.heap r) := by
  rw [heap_modify]
  split
  · exact hg _
  · rfl

variable {s p r} in
lemma live_modify (hid : ∀ c, (f c).circuitID = c.circuitID) : (s.modify p f).Live r ↔ s.Live r := by
  unfold Live
  rw [s.field_modify p r circuitID hid]
  rfl

/-- The state without a circuit's ID and what is registered under its keys. -/
def drop (circuitID : UInt32) : HsState :=
  { s with circuits := s.circuits.erase circuitID }.forgetSlots p

lemma introByAuth_drop (circuitID : UInt32) :
    (s.drop p circuitID).introByAuth.get key =
      if (s.heap p).introAuth.length = ed25519AuthKeyLen ∧ key = hexEncode (s.heap p).introAuth
      then none else s.introByAuth.get key :=
  s.introByAuth.get_ite_erase

lemma rendByCookie_drop (circuitID : UInt32) :
    (s.drop p circuitID).rendByCookie.get key =
      if (s.heap p).rendCookie.length = rendCookieLen ∧ key = hexEncode (s.heap p).rendCookie
      then none else s.rendByCookie.get key :=
  s.rendByCookie.get_ite_erase

variable {s p q r}

lemma live_drop (h : HsInv s) {circuitID : UInt32} (hget : s.circuits.get circuitID = some p) :
    (s.drop p circuitID).Live r ↔ s.Live r ∧ r ≠ p := by
  change (s.circuits.erase circuitID).get (s.heap r).circuitID = some r ↔ _
  rw [get_erase]
  constructor
  · intro hr
    split at hr
    · cases hr
    next hne =>
    refine ⟨hr, ?_⟩
    rintro rfl
    exact hne (h.named circuitID r hget).1
  · rintro ⟨hr, hne⟩
    rw [if_neg]
    · exact hr
    intro hid
    unfold Live at hr
    rw [hid, hget] at hr
    exact hne (some.inj hr).symm

end HsState

namespace HsInv

variable {s : HsState} {p q : CircPtr}

lemma drop (h : HsInv s) {circuitID : UInt32} (hget : s.circuits.get circuitID = some p)
    (hunjoined : (s.heap p).joined = none) : HsInv (s.drop p circuitID) :=
  { h with
    named := fun id r hr => h.named id r (get_of_get_erase hr)
    joined_live := fun r q hr => by
      obtain ⟨hlive, hauth⟩ := h.joined_live r q hr
      refine ⟨(live_drop h hget).2 ⟨hlive, ?_⟩, hauth⟩
      rintro rfl
      obtain ⟨conn, hr⟩ := hr
      exact absurd (hunjoined.symm.trans hr) (by simp)
    intro_slot := fun key slot hslot => by
      rw [introByAuth_drop] at hslot
      split at hslot
      · cases hslot
      next hkey =>
      have hs := h.intro_slot key slot hslot
      refine hs.carry rfl ((live_drop h hget).2 ⟨hs.live, ?_⟩)
      rintro rfl
      exact hkey ⟨hs.key_length, hs.key_eq⟩
    intro_held := fun r hr hauth => by
      obtain ⟨hlive, hne⟩ := (live_drop h hget).1 hr
      obtain ⟨slot, hslot, hcirc⟩ := h.intro_held r hlive hauth
      refine ⟨slot, ?_, hcirc⟩
      rw [introByAuth_drop, if_neg]
      · exact hslot
      rintro ⟨hlen, hkey⟩
      -- both would hold the key
      have hp : (s.heap p).introAuth ≠ [] := ne_nil_of_length_eq_add_one hlen
      obtain ⟨slot', hslot', hcirc'⟩ := h.intro_held p (h.live_of_get hget) hp
      have hkey : hexEncode (s.heap r).introAuth = hexEncode (s.heap p).introAuth := hkey
      have hsame : slot = slot' := by
        rw [hkey, hslot'] at hslot
        exact (some.inj hslot).symm
      rw [← hsame] at hcirc'
      exact hne (hcirc.symm.trans hcirc')
    rend_slot := fun key slot hslot => by
      rw [rendByCookie_drop] at hslot
      split at hslot
      · cases hslot
      next hkey =>
      have hs := h.rend_slot key slot hslot
      refine hs.carry rfl ((live_drop h hget).2 ⟨hs.live, ?_⟩) hs.unjoined (List.Subset.refl _) hs.unconsumed
      rintro rfl
      exact hkey ⟨hs.key_length, hs.key_eq⟩ }

section Remake

variable (h : HsInv s) {heap : CircPtr → HsCircuit} {circuits : Table UInt32 CircPtr}
  {fresh : ℕ} (hauth : ∀ r, (heap r).introAuth = (s.heap r).introAuth)
  (hcookie : ∀ r, (heap r).rendCookie = (s.heap r).rendCookie)
  (hnamed : ∀ id r, circuits.get id = some r → (heap r).circuitID = id ∧ r < fresh)
  (hlives : ∀ r, s.Live r → circuits.get (heap r).circuitID = some r)
  (hheld : ∀ r, circuits.get (heap r).circuitID = some r → (s.heap r).introAuth ≠ [] → s.Live r)
  (hunborn : ∀ r, fresh ≤ r → heap r = {})
include h hauth hcookie hnamed hlives hheld hunborn

/-- The circuits may change as long as they keep their keys, those that are named stay so, and
pairs are made of live circuits that have no slot. -/
lemma remake {consumed : List (CircPtr × CircPtr)}
    (hsymm : ∀ r q, HsState.Joined { s with heap } r q → HsState.Joined { s with heap } q r)
    (hne : ∀ r q, HsState.Joined { s with heap } r q → r ≠ q)
    (hlive : ∀ r q, HsState.Joined { s with heap } r q → s.Live r ∧ (s.heap r).introAuth = [])
    (hrend : ∀ key slot, s.rendByCookie.get key = some slot →
      (heap slot.circ).joined = none ∧ slot.circ ∉ consumed.map Prod.snd)
    (hestablished : ∀ c ∈ consumed, c.2 ∈ s.established)
    (hnodup : (consumed.map Prod.snd).Nodup) :
    HsInv { s with heap, circuits, fresh, consumed } where
  named := hnamed
  unborn := hunborn
  joined_symm := hsymm
  joined_ne := hne
  joined_live r q hr := ⟨hlives r (hlive r q hr).1, (hauth r).trans (hlive r q hr).2⟩
  one_key r := by
    rw [hauth, hcookie]
    exact h.one_key r
  intro_slot key slot hslot :=
    have hs := h.intro_slot key slot hslot
    hs.carry (hauth _) (hlives _ hs.live)
  intro_held r hr hne := by
    rw [hauth] at hne ⊢
    exact h.intro_held r (hheld r hr hne) hne
  rend_slot key slot hslot :=
    have hs := h.rend_slot key slot hslot
    hs.carry (hcookie _) (hlives _ hs.live) (hrend key slot hslot).1 (List.Subset.refl _) (hrend key slot hslot).2
  established_cookie r hr := by
    rw [hcookie]
    exact h.established_cookie r hr
  established_nodup := h.established_nodup
  consumed_established := hestablished
  consumed_nodup := hnodup

lemma remake_same (hjoined : ∀ r, (heap r).joined = (s.heap r).joined) : HsInv { s with heap, circuits, fresh } := by
  have hJ : ∀ r t, HsState.Joined { s with heap } r t ↔ s.Joined r t := by
    intro r t
    unfold HsState.Joined
    rw [hjoined]
  refine h.remake hauth hcookie hnamed hlives hheld hunborn ?_ ?_ ?_ ?_ h.consumed_established h.consumed_nodup
  · exact fun r t hrt => (hJ t r).2 (h.joined_symm r t ((hJ r t).1 hrt))
  · exact fun r t hrt => h.joined_ne r t ((hJ r t).1 hrt)
  · exact fun r t hrt => h.joined_live r t ((hJ r t).1 hrt)
  · intro key slot hslot
    have hs := h.rend_slot key slot hslot
    exact ⟨(hjoined _).trans hs.unjoined, hs.unconsumed⟩

end Remake

end HsInv

namespace HsState

variable {s : HsState} {p q r : CircPtr} {conn : ConnPtr} {circuitID : UInt32}

lemma heap_unjoin (hjoined : (s.heap p).joined = some (q, conn)) (r : CircPtr) :
    (s.unjoin p).1.heap r = if r = p ∨ r = q then (s.heap r).unlinked else s.heap r := by
  unfold unjoin
  rw [hjoined]
  change ((s.modify p unlinked).modify q unlinked).heap r = _
  rw [heap_modify, heap_modify]
  by_cases hp : r = p
  · have hpq : r = p ∨ r = q := .inl hp
    split <;> rfl
  · rw [if_neg hp]
    simp only [hp, false_or]

lemma joined_unjoin (h : HsInv s) (hjoined : (s.heap p).joined = some (q, conn)) {t : CircPtr} :
    (s.unjoin p).1.Joined r t ↔ s.Joined r t ∧ r ≠ p ∧ r ≠ q ∧ t ≠ p ∧ t ≠ q := by
  unfold Joined
  rw [heap_unjoin hjoined]
  split
  next hr =>
    constructor
    · rintro ⟨_, hnone⟩
      cases hnone
    · rintro ⟨-, hp, hq, -⟩
      exact absurd hr (not_or.2 ⟨hp, hq⟩)
  next hr =>
  refine ⟨fun hrt => ⟨hrt, fun hp => hr (.inl hp), fun hq => hr (.inr hq), ?_, ?_⟩, fun h => h.1⟩
  · rintro rfl
    obtain ⟨conn', htr⟩ := h.joined_symm r t hrt
    rw [hjoined] at htr
    cases htr
    exact hr (.inr rfl)
  · rintro rfl
    obtain ⟨conn', htr⟩ := h.joined_symm r t hrt
    obtain ⟨conn'', htp⟩ := h.joined_symm p t ⟨conn, hjoined⟩
    rw [htr] at htp
    cases htp
    exact hr (.inl rfl)

end HsState

namespace HsInv

variable {s : HsState} {p q : CircPtr} {conn : ConnPtr}

lemma unjoin (h : HsInv s) (hjoined : (s.heap p).joined = some (q, conn)) : HsInv (s.unjoin p).1 := by
  have hstate : (s.unjoin p).1 =
      { s with heap := (s.unjoin p).1.heap, out := (s.unjoin p).1.out } := by
    unfold HsState.unjoin
    rw [hjoined]
    rfl
  have hlink : HsInv { s with heap := (s.unjoin p).1.heap } := by
    have hsame : ∀ r, ((s.unjoin p).1.heap r).unlinked = (s.heap r).unlinked := by
      intro r
      rw [heap_unjoin hjoined]
      split <;> rfl
    have hid := fun r => (mk.inj (hsame r)).1
    refine h.remake (fun r => (mk.inj (hsame r)).2.2.2.1) (fun r => (mk.inj (hsame r)).2.2.2.2.1)
      (fun id r hr => (hid r).symm ▸ h.named id r hr) (fun r hr => (hid r).symm ▸ hr)
      (fun r hr _ => (congrArg s.circuits.get (hid r)).symm.trans hr) ?_ ?_ ?_ ?_ ?_
      h.consumed_established h.consumed_nodup
    · intro r hr
      rw [heap_unjoin hjoined, h.unborn r hr]
      split <;> rfl
    · intro r t hrt
      obtain ⟨hrt, hrp, hrq, htp, htq⟩ := (joined_unjoin h hjoined).1 hrt
      exact (joined_unjoin h hjoined).2 ⟨h.joined_symm r t hrt, htp, htq, hrp, hrq⟩
    · intro r t hrt
      exact h.joined_ne r t ((joined_unjoin h hjoined).1 hrt).1
    · intro r t hrt
      exact h.joined_live r t ((joined_unjoin h hjoined).1 hrt).1
    · intro key slot hslot
      have hs := h.rend_slot key slot hslot
      refine ⟨?_, hs.unconsumed⟩
      rw [heap_unjoin hjoined]
      split
      · rfl
      · exact hs.unjoined
  rw [hstate]
  exact hlink.frame

end HsInv

namespace HsState

variable {s : HsState} {p q : CircPtr} {conn : ConnPtr} {circuitID : UInt32} {fuel : ℕ}

lemma closeWithin_unknown (hget : s.circuits.get circuitID = none) :
    closeWithin (fuel + 1) s circuitID = s.handleDestroy circuitID := by
  rw [closeWithin, hget]

lemma closeWithin_unjoined (hget : s.circuits.get circuitID = some p) (hunjoined : (s.heap p).joined = none) :
    closeWithin (fuel + 1) s circuitID = (s.drop p circuitID).handleDestroy circuitID := by
  have hun : (s.drop p circuitID).unjoin p = (s.drop p circuitID, none) := by
    unfold unjoin
    rw [show ((s.drop p circuitID).heap p).joined = none from hunjoined]
  rw [drop] at hun
  simp only [closeWithin, hget, hun]
  rfl

lemma closeWithin_joined (hget : s.circuits.get circuitID = some p) (hjoined : (s.heap p).joined = some (q, conn)) :
    closeWithin (fuel + 1) s circuitID =
      (closeWithin fuel ((s.unjoin p).1.drop p circuitID) (s.heap q).circuitID).handleDestroy circuitID := by
  -- the two changes touch different fields
  have hun : (s.drop p circuitID).unjoin p = ((s.unjoin p).1.drop p circuitID, some q) := by
    have hsame : ((s.unjoin p).1.heap p).unlinked = (s.heap p).unlinked := by
      rw [heap_unjoin hjoined, if_pos (.inl rfl)]
      rfl
    have hauth : ((s.unjoin p).1.heap p).introAuth = (s.heap p).introAuth :=
      (HsCircuit.mk.inj hsame).2.2.2.1
    have hcookie : ((s.unjoin p).1.heap p).rendCookie = (s.heap p).rendCookie :=
      (HsCircuit.mk.inj hsame).2.2.2.2.1
    have hrhs : (s.unjoin p).1.drop p circuitID =
        { (s.unjoin p).1 with
          circuits := (s.drop p circuitID).circuits
          introByAuth := (s.drop p circuitID).introByAuth
          rendByCookie := (s.drop p circuitID).rendByCookie } := by
      unfold drop forgetSlots
      dsimp only
      rw [hauth, hcookie]
      unfold unjoin
      rw [hjoined]
      rfl
    rw [hrhs]
    unfold unjoin
    rw [show ((s.drop p circuitID).heap p).joined = some (q, conn) from hjoined, hjoined]
    rfl
  rw [drop] at hun
  simp only [closeWithin, hget, hun]
  have hid : (((s.unjoin p).1.drop p circuitID).heap q).circuitID = (s.heap q).circuitID := by
    change ((s.unjoin p).1.heap q).circuitID = _
    rw [heap_unjoin hjoined]
    split <;> rfl
  rw [hid]

lemma unjoined_unjoin (hjoined : (s.heap p).joined = some (q, conn)) {r : CircPtr}
    (hr : r = p ∨ r = q) : ((s.unjoin p).1.heap r).joined = none := by
  rw [heap_unjoin hjoined, if_pos hr]
  rfl

lemma field_unjoin {β : Type*} (g : HsState → β) (hg : ∀ heap out, g { s with heap, out } = g s) :
    g (s.unjoin p).1 = g s := by
  unfold unjoin
  split
  · rfl
  · exact hg _ _

/-- **What closing does.**  The circuit is dropped, and if it was joined, its partner after it. -/
theorem closeCircuit_cases (h : HsInv s) (hget : s.circuits.get circuitID = some p) : ((s.heap p).joined = none ∧
      s.closeCircuit circuitID = (s.drop p circuitID).handleDestroy circuitID) ∨
    ∃ q conn, (s.heap p).joined = some (q, conn) ∧
      (s.unjoin p).1.circuits.get circuitID = some p ∧
      ((s.unjoin p).1.drop p circuitID).circuits.get (s.heap q).circuitID = some q ∧
      s.closeCircuit circuitID =
        ((((s.unjoin p).1.drop p circuitID).drop q (s.heap q).circuitID).handleDestroy
          (s.heap q).circuitID).handleDestroy circuitID := by
  unfold closeCircuit
  cases hjoined : (s.heap p).joined with
  | none => exact .inl ⟨rfl, closeWithin_unjoined hget hjoined⟩
  | some pair =>
    obtain ⟨q, conn⟩ := pair
    -- the pair is taken apart before either circuit goes
    have hpq : s.Joined p q := ⟨conn, hjoined⟩
    have hgetp : (s.unjoin p).1.circuits.get circuitID = some p := by
      rw [field_unjoin circuits fun _ _ => rfl]
      exact hget
    have hid : ((s.unjoin p).1.heap q).circuitID = (s.heap q).circuitID := by
      rw [heap_unjoin hjoined, if_pos (.inr rfl)]
      rfl
    have hlive : (s.unjoin p).1.Live q := by
      unfold Live
      rw [field_unjoin circuits fun _ _ => rfl, hid]
      exact (h.joined_live q p (h.joined_symm p q hpq)).1
    have hgetq : ((s.unjoin p).1.drop p circuitID).circuits.get (s.heap q).circuitID = some q := by
      rw [← hid]
      exact (live_drop (h.unjoin hjoined) hgetp).2 ⟨hlive, (h.joined_ne p q hpq).symm⟩
    obtain ⟨fuel, hfuel⟩ : ∃ fuel, s.circuits.size = fuel + 1 :=
      Nat.exists_eq_succ_of_ne_zero (Nat.ne_of_gt (Nat.lt_of_le_of_lt (Nat.zero_le _)
        (s.circuits.size_erase_lt hget)))
    refine .inr ⟨q, conn, rfl, hgetp, hgetq, ?_⟩
    rw [closeWithin_joined hget hjoined, hfuel,
      closeWithin_unjoined hgetq (unjoined_unjoin hjoined (.inr rfl))]

end HsState

namespace HsInv

variable {s : HsState} {p q : CircPtr} {conn : ConnPtr} {circuitID : UInt32}

/-- **Closing a circuit keeps the invariant.** -/
theorem closeCircuit (h : HsInv s) (circuitID : UInt32) : HsInv (s.closeCircuit circuitID) := by
  cases hget : s.circuits.get circuitID with
  | none =>
    rw [HsState.closeCircuit, HsState.closeWithin_unknown hget]
    exact h.handleDestroy circuitID
  | some p =>
    rcases closeCircuit_cases h hget with
      ⟨hunjoined, heq⟩ | ⟨q, conn, hjoined, hgetp, hgetq, heq⟩
    · rw [heq]
      exact (h.drop hget hunjoined).handleDestroy circuitID
    · rw [heq]
      have hp := unjoined_unjoin hjoined (.inl rfl)
      have hq := unjoined_unjoin hjoined (.inr rfl)
      have hd := ((h.unjoin hjoined).drop hgetp hp).drop hgetq hq
      exact (hd.handleDestroy _).handleDestroy circuitID

lemma closeHSCircuit (h : HsInv s) (p : CircPtr) (conn : ConnPtr) (reason : String)
    (dest : UInt8) : HsInv (s.closeHSCircuit p conn reason dest).1 :=
  h.emit.closeCircuit _

lemma destroyHSCircuit (h : HsInv s) (p : CircPtr) (conn : ConnPtr) (reason : String) :
    HsInv (s.destroyHSCircuit p conn reason).1 :=
  h.closeHSCircuit p conn reason _

/-! ### Reaping -/

/-- What a run of closings of waiting circuits leaves alone. -/
structure Reaped (s s' : HsState) : Prop where
  inv : HsInv s'
  heap_eq : s'.heap = s.heap
  circuits_sub : ∀ id r, s'.circuits.get id = some r → s.circuits.get id = some r
  live : ∀ r, (s.heap r).rendCookie = [] → s.Live r → s'.Live r

lemma Reaped.refl (h : HsInv s) : Reaped s s := ⟨h, rfl, fun _ _ h => h, fun _ _ h => h⟩

lemma Reaped.trans {s1 s2 s3 : HsState} (h : Reaped s1 s2) (h' : Reaped s2 s3) : Reaped s1 s3 where
  inv := h'.inv
  heap_eq := h'.heap_eq.trans h.heap_eq
  circuits_sub id r hr := h.circuits_sub id r (h'.circuits_sub id r hr)
  live r hr hlive := h'.live r (by rw [h.heap_eq]; exact hr) (h.live r hr hlive)

lemma reaped_closeHSCircuit (h : HsInv s)
    (hown : ∀ r, s.circuits.get (s.heap p).circuitID = some r → r = p)
    (hunjoined : (s.heap p).joined = none) (hcookie : (s.heap p).rendCookie ≠ [])
    (conn : ConnPtr) (reason : String) (dest : UInt8) :
    Reaped s (s.closeHSCircuit p conn reason dest).1 := by
  have hinv := h.closeHSCircuit p conn reason dest
  generalize hid : (s.heap p).circuitID = id at hown
  have hclose : (s.closeHSCircuit p conn reason dest).1 =
      closeWithin (s.circuits.size + 1) (s.emit (.destroy conn id dest)) id := by
    unfold HsState.closeHSCircuit
    rw [hid]
    rfl
  cases hget : s.circuits.get id with
  | none =>
    have hgete : (s.emit (.destroy conn id dest)).circuits.get id = none := hget
    rw [hclose, closeWithin_unknown hgete] at hinv ⊢
    exact ⟨hinv, rfl, fun _ _ h => h, fun _ _ h => h⟩
  | some r =>
    obtain rfl := hown r hget
    have hgete : (s.emit (.destroy conn id dest)).circuits.get id = some r := hget
    rw [hclose, closeWithin_unjoined hgete hunjoined] at hinv ⊢
    refine ⟨hinv, rfl, fun i t ht => ?_, fun t hempty hlive => ?_⟩
    · exact get_of_get_erase ht
    · refine (live_drop h.emit hgete).2 ⟨hlive, ?_⟩
      rintro rfl
      exact hcookie hempty

lemma reaped_foldl (dead : List HsRoleSlot) (h : HsInv s) (hdead : ∀ slot ∈ dead, (s.heap slot.circ).joined = none ∧
      (s.heap slot.circ).rendCookie ≠ [] ∧
      ∀ r, s.circuits.get (s.heap slot.circ).circuitID = some r → r = slot.circ)
    (reason : String) (dest : UInt8) :
    Reaped s (dead.foldl (fun s slot => (s.closeHSCircuit slot.circ slot.conn reason dest).1) s) := by
  induction dead generalizing s with
  | nil => exact Reaped.refl h
  | cons slot dead ih =>
    obtain ⟨hunjoined, hcookie, hown⟩ := hdead slot (mem_cons_self ..)
    have hone := h.reaped_closeHSCircuit hown hunjoined hcookie slot.conn reason dest
    refine hone.trans (ih hone.inv fun slot' hmem => ?_)
    rw [hone.heap_eq]
    obtain ⟨hunjoined', hcookie', hown'⟩ := hdead slot' (mem_cons_of_mem _ hmem)
    exact ⟨hunjoined', hcookie', fun r hr => hown' r (hone.circuits_sub _ r hr)⟩

/-- **Reaping closes waiting circuits only.** -/
theorem reapExpiredRend (h : HsInv s) (now : ℤ) : Reaped s (s.reapExpiredRend now) := by
  have hkeep : HsInv { s with
      rendByCookie := s.rendByCookie.keep fun _ slot => !expired now slot } :=
    h.shrink fun _ _ => get_of_get_keep
  have hfold := hkeep.reaped_foldl
    ((s.rendByCookie.entries.map Prod.snd).filter (expired now)) ?_
    "unjoined rendezvous expired" destroyReasonTimeout
  · exact { hfold with }
  intro slot hslot
  obtain ⟨⟨key, slot'⟩, hmem, rfl⟩ := mem_map.1 (mem_filter.1 hslot).1
  have hs := h.rend_slot key slot' ((s.rendByCookie.get_eq_some_iff).2 hmem)
  refine ⟨hs.unjoined, hs.cookie_ne, fun r hr => ?_⟩
  exact (some.inj (Eq.trans (Eq.symm hs.live) hr)).symm

/-! ### The handlers -/

variable {s' : HsState} {now : ℤ}

lemma registerRend_eq_ok {cookie : Bytes} (hreg : s.registerRend p conn cookie now = .ok s') :
    cookie.length = rendCookieLen ∧ (s.heap p).introAuth = [] ∧ (s.heap p).rendCookie = [] ∧ s' = { s with
        heap := (s.modify p fun c => { c with rendCookie := cookie }).heap
        rendByCookie := s.rendByCookie.set (hexEncode cookie) ⟨p, conn, now⟩
        established := s.established ++ [p] } := by
  simp only [registerRend, ite_error_eq_ok, not_not] at hreg
  obtain ⟨hlen, hauth, hcookie, -, -, hok⟩ := hreg
  exact ⟨hlen, hauth, hcookie, (Except.ok.inj hok).symm⟩

lemma rekey (h : HsInv s) (hlive : s.Live p) {f : HsCircuit → HsCircuit}
    {introByAuth rendByCookie : Table Bytes HsRoleSlot} {established : List CircPtr}
    (hid : ∀ c, (f c).circuitID = c.circuitID) (hlink : ∀ c, (f c).joined = c.joined)
    (hauth : ∀ t, s.Joined p t → (f (s.heap p)).introAuth = [])
    (hone : (f (s.heap p)).introAuth = [] ∨ (f (s.heap p)).rendCookie = [])
    (hintro : ∀ key slot, introByAuth.get key = some slot → IntroSlot (s.modify p f) key slot)
    (hheld : ∀ r, s.Live r → ((s.modify p f).heap r).introAuth ≠ [] → ∃ slot,
      introByAuth.get (hexEncode ((s.modify p f).heap r).introAuth) = some slot ∧ slot.circ = r)
    (hrend : ∀ key slot, rendByCookie.get key = some slot → RendSlot { s.modify p f with established } key slot)
    (hcookie : ∀ r ∈ established, ((s.modify p f).heap r).rendCookie ≠ [])
    (hnodup : established.Nodup) (hsub : s.established ⊆ established) :
    HsInv { s with heap := (s.modify p f).heap, introByAuth, rendByCookie, established } := by
  have hids := fun r => s.field_modify p r circuitID hid
  have hjoined : ∀ r t, (s.modify p f).Joined r t ↔ s.Joined r t := by
    intro r t
    unfold HsState.Joined
    rw [s.field_modify p r joined hlink]
  refine
    { named := fun id r hr => by
        rw [hids]
        exact h.named id r hr
      unborn := fun r hr => by
        -- the circuit is there, this one is not yet
        have hrp : r ≠ p := Nat.ne_of_gt (Nat.lt_of_lt_of_le (h.named _ p hlive).2 hr)
        rw [heap_modify, if_neg hrp]
        exact h.unborn r hr
      joined_symm := fun r t hrt => (hjoined t r).2 (h.joined_symm r t ((hjoined r t).1 hrt))
      joined_ne := fun r t hrt => h.joined_ne r t ((hjoined r t).1 hrt)
      joined_live := fun r t hrt => by
        have hrt := (hjoined r t).1 hrt
        obtain ⟨hr, hempty⟩ := h.joined_live r t hrt
        refine ⟨(live_modify hid).2 hr, ?_⟩
        rw [heap_modify]
        split
        next heq => exact heq ▸ hauth t (heq ▸ hrt)
        · exact hempty
      one_key := fun r => by
        rw [heap_modify]
        split
        next heq => exact heq ▸ hone
        · exact h.one_key r
      intro_slot := fun key slot hslot =>
        have hs := hintro key slot hslot
        hs.carry rfl hs.live
      intro_held := fun r hr => hheld r ((live_modify hid).1 hr)
      rend_slot := fun key slot hslot =>
        have hs := hrend key slot hslot
        hs.carry rfl hs.live hs.unjoined (List.Subset.refl _) hs.unconsumed
      established_cookie := hcookie
      established_nodup := hnodup
      consumed_established := fun c hc => hsub (h.consumed_established c hc)
      consumed_nodup := h.consumed_nodup }

lemma registerRend {cookie : Bytes} (h : HsInv s)
    (hunjoined : (s.heap p).joined = none) (hlive : (s.heap p).rendCookie = [] → s.Live p)
    (hreg : s.registerRend p conn cookie now = .ok s') : HsInv s' := by
  obtain ⟨hlen, hauth, hempty, rfl⟩ := registerRend_eq_ok hreg
  have hlive := hlive hempty
  have hcookie : cookie ≠ [] := by
    rintro rfl
    cases hlen
  have hnew : p ∉ s.established := fun hp => h.established_cookie p hp hempty
  have hlives : ∀ r, s.Live r → (s.modify p fun c => { c with rendCookie := cookie }).Live r :=
    fun r hr => (live_modify (by intro c; rfl)).2 hr
  have hkey := fun r => s.field_modify p r (f := fun c => { c with rendCookie := cookie }) introAuth fun _ => rfl
  refine h.rekey hlive (fun _ => rfl) (fun _ => rfl) (fun _ _ => hauth) (.inl hauth)
    (fun key slot hslot => ?_) (fun r hr hne => ?_) (fun key slot hslot => ?_) (fun r hr => ?_) ?_
    (subset_append_left _ _)
  · have hs := h.intro_slot key slot hslot
    exact hs.carry (hkey _) (hlives _ hs.live)
  · rw [hkey] at hne ⊢
    exact h.intro_held r hr hne
  · rw [get_set] at hslot
    split at hslot
    next hk =>
      cases hslot
      refine ⟨?_, ?_, hlives p hlive, ?_,
        mem_append_right _ (mem_singleton_self p), ?_⟩
      · rw [hk, heap_modify_self]
      · rw [heap_modify_self]
        exact hlen
      · rw [heap_modify_self]
        exact hunjoined
      · intro hmem
        obtain ⟨c, hc, rfl : c.2 = p⟩ := mem_map.1 hmem
        exact hnew (h.consumed_established c hc)
    next hk =>
    have hs := h.rend_slot key slot hslot
    -- the slot is not the circuit's, which had no cookie
    have hne : slot.circ ≠ p := by
      rintro rfl
      exact hs.cookie_ne hempty
    have hheap := s.heap_modify_of_ne (f := fun c => { c with rendCookie := cookie }) hne
    exact hs.carry (congrArg rendCookie hheap)
      (hlives _ hs.live)
      ((congrArg joined hheap).trans hs.unjoined) (subset_append_left _ _)
      hs.unconsumed
  · rw [heap_modify]
    split
    · exact hcookie
    next hrp =>
      refine h.established_cookie r ((mem_append.1 hr).resolve_right fun hr => ?_)
      exact hrp (mem_singleton.1 hr)
  · exact nodup_append.2 ⟨h.established_nodup, nodup_singleton p,
      fun a ha b hb hab => hnew (mem_singleton.1 hb ▸ hab ▸ ha)⟩

lemma registerIntro_eq_ok {auth : Bytes} (hreg : s.registerIntro p conn auth now = .ok s') :
    auth.length = ed25519AuthKeyLen ∧ (s.heap p).rendCookie = [] ∧
      (∀ slot, s.introByAuth.get (hexEncode auth) = some slot → (s.heap slot.circ).circuitID = (s.heap p).circuitID) ∧
      (s.heap p).introAuth = [] ∧
      s' = { s with
        heap := (s.modify p fun c => { c with introAuth := auth }).heap
        introByAuth := s.introByAuth.set (hexEncode auth) ⟨p, conn, now⟩ } := by
  simp only [registerIntro, ite_error_eq_ok, not_not] at hreg
  obtain ⟨hlen, hcookie, hfree, hauth, hok⟩ := hreg
  refine ⟨hlen, hcookie, fun slot hslot => ?_, hauth, (Except.ok.inj hok).symm⟩
  rw [hslot] at hfree
  simpa using hfree

variable (h : HsInv s)
include h

lemma registerIntro {auth : Bytes} (hunjoined : (s.heap p).joined = none) (hlive : s.Live p)
    (hreg : s.registerIntro p conn auth now = .ok s') : HsInv s' := by
  obtain ⟨hlen, hcookie, hfree, hempty, rfl⟩ := registerIntro_eq_ok hreg
  have hlives : ∀ r, s.Live r → (s.modify p fun c => { c with introAuth := auth }).Live r :=
    fun r hr => (live_modify (by intro c; rfl)).2 hr
  have hkey := fun r => s.field_modify p r (f := fun c => { c with introAuth := auth }) rendCookie fun _ => rfl
  refine h.rekey hlive (fun _ => rfl) (fun _ => rfl) (fun t hpt => ?_) (.inr hcookie)
    (fun key slot hslot => ?_) (fun r hr hne => ?_) (fun key slot hslot => ?_) (fun r hr => ?_)
    h.established_nodup (List.Subset.refl _)
  · obtain ⟨conn, hpt⟩ := hpt
    rw [hunjoined] at hpt
    cases hpt
  · rw [get_set] at hslot
    split at hslot
    next hk =>
      cases hslot
      refine ⟨?_, ?_, hlives p hlive⟩
      · rw [hk, heap_modify_self]
      · rw [heap_modify_self]
        exact hlen
    next hk =>
    have hs := h.intro_slot key slot hslot
    have hne : slot.circ ≠ p := by
      rintro rfl
      exact hs.auth_ne hempty
    exact hs.carry (congrArg introAuth (s.heap_modify_of_ne hne)) (hlives _ hs.live)
  · rw [heap_modify] at hne ⊢
    split at hne
    next heq =>
      rw [if_pos heq]
      exact ⟨_, get_set_self _ _ _, heq.symm⟩
    next hrp =>
    obtain ⟨slot, hget, hcirc⟩ := h.intro_held r hr hne
    refine ⟨slot, ?_, hcirc⟩
    rw [if_neg hrp, get_set_of_ne]
    · exact hget
    -- the key is not held by another circuit
    intro hkey
    rw [hkey] at hget
    have hids := hfree slot hget
    rw [hcirc] at hids
    exact hrp (live_unique hr hlive hids)
  · have hs := h.rend_slot key slot hslot
    refine hs.carry (hkey _) (hlives _ hs.live) ?_
      (List.Subset.refl _) hs.unconsumed
    rw [field_modify _ _ _ joined (by intro c; rfl)]
    exact hs.unjoined
  · rw [hkey]
    exact h.established_cookie r hr

lemma joinHSCircuits {a b : CircPtr} {aConn bConn : ConnPtr} (hab : a ≠ b)
    (ha : s.Live a) (hb : s.Live b) (haj : (s.heap a).joined = none)
    (hbj : (s.heap b).joined = none) (haa : (s.heap a).introAuth = [])
    (hba : (s.heap b).introAuth = [])
    (hslot : ∀ key slot, s.rendByCookie.get key = some slot → slot.circ ≠ a ∧ slot.circ ≠ b)
    (hb_established : b ∈ s.established) (hb_consumed : b ∉ s.consumed.map Prod.snd) :
    HsInv (s.joinHSCircuits a aConn b bConn) := by
  set heap := (s.joinHSCircuits a aConn b bConn).heap with hheap
  have hmod : ∀ r, heap r = ((s.modify a fun c => { c with joined := some (b, bConn) }).modify b
      fun c => { c with joined := some (a, aConn) }).heap r := fun _ => rfl
  have hjoined : ∀ r, (heap r).joined =
      if r = b then some (a, aConn) else if r = a then some (b, bConn) else (s.heap r).joined := by
    intro r
    rw [hmod, heap_modify, heap_modify]
    split
    · rfl
    · split <;> rfl
  have hfield : ∀ {β : Type} (g : HsCircuit → β)
      (_ : ∀ c j, g { c with joined := j } = g c) (r : CircPtr), g (heap r) = g (s.heap r) := by
    intro β g hg r
    rw [hmod]
    rw [field_modify _ _ _ g fun c => hg c _, field_modify _ _ _ g fun c => hg c _]
  -- the pairs are the new one, both ways, and those there were
  have hJ : ∀ r t, HsState.Joined { s with heap } r t ↔
      (r = b ∧ t = a) ∨ (r = a ∧ t = b) ∨ (r ≠ a ∧ r ≠ b ∧ s.Joined r t) := by
    intro r t
    change (∃ conn, (heap r).joined = some (t, conn)) ↔ _
    rw [hjoined]
    by_cases hrb : r = b
    · subst hrb
      simp [hab.symm, eq_comm]
    · by_cases hra : r = a
      · subst hra
        simp [hrb, eq_comm]
      · simp [hrb, hra, HsState.Joined]
  have hold : ∀ r t, s.Joined r t → r ≠ a ∧ r ≠ b := by
    rintro r t ⟨conn, hrt⟩
    refine ⟨?_, ?_⟩
    · rintro rfl
      exact absurd (haj.symm.trans hrt) (by simp)
    · rintro rfl
      exact absurd (hbj.symm.trans hrt) (by simp)
  have hid := fun r => hfield circuitID (fun _ _ => rfl) r
  refine h.remake (fun r => hfield introAuth (fun _ _ => rfl) r) (fun r => hfield rendCookie (fun _ _ => rfl) r)
    (fun id r hr => (hid r).symm ▸ h.named id r hr) (fun r hr => (hid r).symm ▸ hr)
    (fun r hr _ => (congrArg s.circuits.get (hid r)).symm.trans hr) ?_ ?_ ?_ ?_ ?_ ?_ ?_
  · intro r hr
    have hra : r ≠ a := Nat.ne_of_gt (Nat.lt_of_lt_of_le (h.named _ a ha).2 hr)
    have hrb : r ≠ b := Nat.ne_of_gt (Nat.lt_of_lt_of_le (h.named _ b hb).2 hr)
    rw [hmod, heap_modify, heap_modify, if_neg hrb, if_neg hra]
    exact h.unborn r hr
  · -- a pair is joined both ways
    intro r t hrt
    rw [hJ] at hrt ⊢
    rcases hrt with ⟨rfl, rfl⟩ | ⟨rfl, rfl⟩ | ⟨-, -, hrt⟩
    · exact .inr (.inl ⟨rfl, rfl⟩)
    · exact .inl ⟨rfl, rfl⟩
    · have htr := h.joined_symm r t hrt
      exact .inr (.inr ⟨(hold t r htr).1, (hold t r htr).2, htr⟩)
  · -- no circuit is joined to itself
    intro r t hrt
    rcases (hJ r t).1 hrt with ⟨rfl, rfl⟩ | ⟨rfl, rfl⟩ | ⟨-, -, hrt⟩
    · exact hab.symm
    · exact hab
    · exact h.joined_ne r t hrt
  · -- both are live and no introduction points
    intro r t hrt
    rcases (hJ r t).1 hrt with ⟨rfl, rfl⟩ | ⟨rfl, rfl⟩ | ⟨-, -, hrt⟩
    · exact ⟨hb, hba⟩
    · exact ⟨ha, haa⟩
    · exact h.joined_live r t hrt
  · -- the slots that are left belong to neither
    intro key slot hget
    have hs := h.rend_slot key slot hget
    obtain ⟨hna, hnb⟩ := hslot key slot hget
    refine ⟨?_, ?_⟩
    · rw [hjoined, if_neg hnb, if_neg hna]
      exact hs.unjoined
    · simp only [map_append, map_cons, map_nil, mem_append, mem_singleton]
      exact not_or.2 ⟨hs.unconsumed, hnb⟩
  · exact forall_mem_append.2
      ⟨h.consumed_established, forall_mem_singleton.2 hb_established⟩
  · -- the waiting circuit is consumed once
    rw [map_append]
    refine nodup_append.2 ⟨h.consumed_nodup, nodup_singleton _, ?_⟩
    intro x hx y hy hxy
    have hyb : y = b := mem_singleton.1 hy
    rw [hxy, hyb] at hx
    exact hb_consumed hx

lemma sendRelayToClient (env : HsEnv) (p : CircPtr) (conn : ConnPtr)
    (streamID : UInt16) (cmd : UInt8) (data : Bytes) :
    HsInv (s.sendRelayToClient env p conn streamID cmd data).1 := by
  unfold HsState.sendRelayToClient
  split
  · exact h
  · exact h.emit

variable {env : HsEnv} {payload : Bytes} {verify : Bytes → Bytes → Option String}

lemma handleEstablishRendezvous (hunjoined : (s.heap p).joined = none) (hlive : s.Live p) :
    HsInv (s.handleEstablishRendezvous env p conn payload).1 := by
  have hr := h.reapExpiredRend env.now
  fun_cases s.handleEstablishRendezvous env p conn payload
  case case1 => exact h.destroyHSCircuit _ _ _
  case case4 s' hreg =>
    refine HsInv.sendRelayToClient (hr.inv.registerRend ?_ ?_ hreg) _ _ _ _ _ _
    · rw [hr.heap_eq]
      exact hunjoined
    · intro hempty
      rw [hr.heap_eq] at hempty
      exact hr.live p hempty hlive
  all_goals exact hr.inv.destroyHSCircuit _ _ _

lemma restoreRend {key : Bytes} {slot : HsRoleSlot} (hget : s.rendByCookie.get key = some slot) :
    HsInv ({ s with rendByCookie := s.rendByCookie.erase key }.restoreRend key slot) := by
  unfold HsState.restoreRend
  rw [if_pos (get_erase_self _)]
  refine h.shrink fun key' slot' hslot' => ?_
  rw [get_set, get_erase] at hslot'
  split at hslot'
  next hk =>
    cases hslot'
    rw [hk]
    exact hget
  · exact hslot'

lemma handleRendezvous1 (hunjoined : (s.heap p).joined = none) (hlive : s.Live p) :
    HsInv (s.handleRendezvous1 env p conn payload).1 := by
  unfold HsState.handleRendezvous1
  split
  · exact h.destroyHSCircuit _ _ _
  have hr := h.reapExpiredRend env.now
  dsimp only
  split
  · exact hr.inv.destroyHSCircuit _ _ _
  split
  · exact hr.inv.destroyHSCircuit _ _ _
  next slot hget =>
  have hslot := hr.inv.rend_slot _ slot hget
  have herase : HsInv { s.reapExpiredRend env.now with
      rendByCookie := (s.reapExpiredRend env.now).rendByCookie.erase (hexEncode (payload.take rendCookieLen)) } :=
    hr.inv.shrink fun _ _ => get_of_get_erase
  split
  · exact herase.destroyHSCircuit _ _ _
  next hids =>
  split
  · exact (hr.inv.restoreRend hget).destroyHSCircuit _ _ _
  next hfree =>
  unfold HsState.sendRelayToClient
  cases hw : env.write with
  | some e => exact (hr.inv.restoreRend hget).destroyHSCircuit _ _ _
  | none =>
    -- the circuit has no role yet, so reaping has left it alone
    simp only [occupied, Bool.or_eq_true, not_or, Bool.not_eq_true', Bool.not_eq_false, List.isEmpty_iff] at hfree
    obtain ⟨⟨-, hauth⟩, hcookie⟩ := hfree
    have hcookie : (s.heap p).rendCookie = [] := by
      rw [← hr.heap_eq]
      exact hcookie
    have hne : p ≠ slot.circ := by
      rintro rfl
      exact hids rfl
    refine herase.emit.joinHSCircuits hne (hr.live p hcookie hlive) hslot.live ?_
      hslot.unjoined hauth ?_ ?_ hslot.registered hslot.unconsumed
    · change ((s.reapExpiredRend env.now).heap p).joined = none
      rw [hr.heap_eq]
      exact hunjoined
    · exact (hr.inv.one_key slot.circ).resolve_right hslot.cookie_ne
    · intro key' slot' hget'
      change ((s.reapExpiredRend env.now).rendByCookie.erase _).get key' = some slot' at hget'
      rw [get_erase] at hget'
      obtain ⟨hk, hget'⟩ := ite_none_left_eq_some.1 hget'
      refine ⟨fun hcirc => (hr.inv.rend_slot key' slot' hget').cookie_ne ?_,
        fun hcirc => hk (hr.inv.rend_circ_unique hget' hget hcirc)⟩
      rw [hcirc, hr.heap_eq, hcookie]

lemma handleEstablishIntro (hunjoined : (s.heap p).joined = none) (hlive : s.Live p) :
    HsInv (s.handleEstablishIntro verify env p conn payload).1 := by
  fun_cases s.handleEstablishIntro verify env p conn payload
  case case7 s' hreg => exact (h.registerIntro hunjoined hlive hreg).sendRelayToClient _ _ _ _ _ _
  all_goals exact h.destroyHSCircuit _ _ _

/-- **A recognised cell keeps the invariant.** -/
theorem handleRecognized {streamID : UInt16} {cmd : UInt8} {data : Bytes} (hlive : s.Live p) :
    HsInv (s.handleRecognized verify env p conn streamID cmd data).1 := by
  fun_cases s.handleRecognized verify env p conn streamID cmd data
  case case1 => exact h.sendRelayToClient _ _ _ _ _ _
  case case3 hjoined _ _ => exact h.handleEstablishIntro hjoined hlive
  case case5 hjoined _ _ _ => exact h.handleEstablishRendezvous hjoined hlive
  case case7 hjoined _ _ _ _ => exact h.handleRendezvous1 hjoined hlive
  case case8 => exact h.handleDestroy _
  case case9 => exact h
  all_goals exact h.destroyHSCircuit _ _ _

omit h

/-! ### New and extended circuits -/

include h

lemma create2 (circuitID : UInt32) (circNonce : Bytes) : HsInv (s.create2 circuitID circNonce) := by
  unfold HsState.create2
  cases hget : s.circuits.get circuitID with
  -- An id in use is refused.
  | some p => exact h
  | none =>
    set heap := Function.update s.heap s.fresh { circuitID, circNonce } with hheap
    have hother : ∀ r, r ≠ s.fresh → heap r = s.heap r :=
      fun r hr => Function.update_of_ne hr _ _
    have hnew : heap s.fresh = { circuitID, circNonce } := Function.update_self _ _ _
    have hblank : s.heap s.fresh = {} := h.unborn _ (Nat.le_refl _)
    -- The fresh object differs from a blank one in id and nonce only.
    have hfield : ∀ {β : Type} (g : HsCircuit → β) (_ : g { circuitID, circNonce } = g {})
        (r : CircPtr), g (heap r) = g (s.heap r) := by
      intro β g hg r
      by_cases hr : r = s.fresh
      · rw [hr, hnew, hblank, hg]
      · rw [hother r hr]
    refine h.remake_same (hfield introAuth rfl) (hfield rendCookie rfl)
      (fun id r hr => ?_) (fun r hr => ?_) (fun r hr hne => ?_)
      (fun r hr => (hother r (Nat.ne_of_gt hr)).trans (h.unborn r (Nat.le_of_lt hr)))
      (hfield joined rfl)
    · rw [get_set] at hr
      split at hr
      next hk =>
        cases hr
        exact ⟨(congrArg HsCircuit.circuitID hnew).trans hk.symm, Nat.lt_succ_self _⟩
      next hk =>
        obtain ⟨hrid, hlt⟩ := h.named id r hr
        exact ⟨(congrArg HsCircuit.circuitID (hother r (Nat.ne_of_lt hlt))).trans hrid, Nat.lt_succ_of_lt hlt⟩
    · rw [hother r (Nat.ne_of_lt (h.named _ r hr).2), get_set_of_ne]
      · exact hr
      · intro hrid
        rw [HsState.Live, hrid, hget] at hr
        cases hr
    · have hrf : r ≠ s.fresh := by
        rintro rfl
        exact hne (congrArg introAuth hblank)
      rw [hother r hrf, get_set] at hr
      split at hr
      · exact absurd (some.inj hr).symm hrf
      · exact hr

lemma extend (circuitID : UInt32) : HsInv (s.extend circuitID) := by
  unfold HsState.extend
  split
  · exact h
  dsimp only
  split
  · exact h.frame
  next p hget =>
  have hp : s.Live p := h.live_of_get hget
  have hid := fun r => s.field_modify p r (f := fun c => { c with didExtend := true })
    HsCircuit.circuitID fun _ => rfl
  have hmade : HsInv { s with
      heap := (s.modify p fun c => { c with didExtend := true }).heap } := by
    refine h.remake_same (fun r => s.field_modify p r introAuth fun _ => rfl)
      (fun r => s.field_modify p r rendCookie fun _ => rfl)
      (fun id r hr => (hid r).symm ▸ h.named id r hr) (fun r hr => (hid r).symm ▸ hr)
      (fun r hr _ => (congrArg s.circuits.get (hid r)).symm.trans hr) (fun r hr => ?_)
      (fun r => s.field_modify p r joined fun _ => rfl)
    have hrp : r ≠ p := Nat.ne_of_gt (Nat.lt_of_lt_of_le (h.named _ p hp).2 hr)
    rw [s.heap_modify_of_ne hrp]
    exact h.unborn r hr
  exact hmade.frame

lemma step (verify : Bytes → Bytes → Option String) (e : HsEvent) : HsInv (step verify s e) := by
  cases e with
  | create2 circuitID circNonce => exact h.create2 circuitID circNonce
  | relay env circuitID conn streamID cmd data =>
    change HsInv (relayCell verify s env circuitID conn streamID cmd data)
    unfold relayCell
    split
    · exact h.emit
    next p hget =>
    split
    · split
      · exact h.handleDestroy _
      · exact h
    · exact h.handleRecognized (h.live_of_get hget)
  | extended circuitID => exact h.extend circuitID
  | close circuitID => exact h.closeCircuit circuitID
  | reap now => exact (h.reapExpiredRend now).inv

omit h

/-- **Every state that a sequence of events leads to satisfies the invariant.** -/
theorem after (verify : Bytes → Bytes → Option String) (events : List HsEvent) : HsInv (after verify events) := by
  unfold HsState.after
  generalize hs : ({} : HsState) = s
  have h : HsInv s := hs ▸ initial
  clear hs
  induction events generalizing s with
  | nil => exact h
  | cons e events ih => exact ih _ (h.step verify e)

lemma role_unique (h : HsInv s) {role role' : HsRole} (hrole : s.HasRole p role)
    (hrole' : s.HasRole p role') : role = role' := by
  have hintro : s.HasRole p .introduction → (s.heap p).introAuth ≠ [] := by
    rintro ⟨key, slot, hget, rfl⟩
    exact (h.intro_slot key slot hget).auth_ne
  have hwaiting : s.HasRole p .waiting →
      (s.heap p).rendCookie ≠ [] ∧ (s.heap p).joined = none := by
    rintro ⟨key, slot, hget, rfl⟩
    have hs := h.rend_slot key slot hget
    exact ⟨hs.cookie_ne, hs.unjoined⟩
  have hiw : s.HasRole p .introduction → s.HasRole p .waiting → False := fun hi hw =>
    (h.one_key p).elim (hintro hi) (hwaiting hw).1
  have hij : s.HasRole p .introduction → s.HasRole p .joined → False := by
    rintro hi ⟨q, hpq⟩
    exact hintro hi (h.joined_live p q hpq).2
  have hwj : s.HasRole p .waiting → s.HasRole p .joined → False := by
    rintro hw ⟨q, conn, hpq⟩
    have hnone := (hwaiting hw).2
    rw [hpq] at hnone
    cases hnone
  cases role <;> cases role'
  · rfl
  · exact (hiw hrole hrole').elim
  · exact (hij hrole hrole').elim
  · exact (hiw hrole' hrole).elim
  · rfl
  · exact (hwj hrole hrole').elim
  · exact (hij hrole' hrole).elim
  · exact (hwj hrole' hrole).elim
  · rfl

end HsInv

/-- **The rendezvous roles of a relay.**  After any sequence of events the join relation is
symmetric and irreflexive and joins a circuit to one other at most, no circuit has two roles, and
of the accepted ESTABLISH_RENDEZVOUS cells, one for a circuit, none is consumed twice. -/
theorem hs_roles_consistent (verify : Bytes → Bytes → Option String) (events : List HsEvent) :
    (∀ p q, (after verify events).Joined p q → (after verify events).Joined q p) ∧
    (∀ p, ¬ (after verify events).Joined p p) ∧
    (∀ p q q', (after verify events).Joined p q → (after verify events).Joined p q' → q = q') ∧
    (∀ p role role', (after verify events).HasRole p role →
      (after verify events).HasRole p role' → role = role') ∧
    (after verify events).established.Nodup ∧
    ((after verify events).consumed.map Prod.snd).Nodup ∧
    ∀ c ∈ (after verify events).consumed, c.2 ∈ (after verify events).established := by
  have h := HsInv.after verify events
  refine ⟨h.joined_symm, fun p hp => h.joined_ne p p hp rfl, ?_, fun p _ _ => h.role_unique,
    h.established_nodup, h.consumed_nodup, h.consumed_established⟩
  rintro p q q' ⟨conn, hq⟩ ⟨conn', hq'⟩
  rw [hq] at hq'
  exact congrArg Prod.fst (some.inj hq')

/-- Two circuits meet: the first waits with a cookie, the second names it. -/
def meeting : List HsEvent :=
  [.create2 1 [], .create2 2 [],
    .relay ⟨0, none⟩ 1 10 0 relayEstablishRendezvous (List.replicate 20 90),
    .relay ⟨0, none⟩ 2 20 0 relayRendezvous1 (List.replicate 20 90 ++ [1, 2])]

theorem hs_roles_consistent_meeting :
    (after (fun _ _ => none) meeting).Joined 1 0 ∧ (after (fun _ _ => none) meeting).Joined 0 1 ∧
      (after (fun _ _ => none) meeting).consumed = [(1, 0)] := by
  have hjoined : (after (fun _ _ => none) meeting).Joined 1 0 := ⟨10, by decide +kernel⟩
  exact ⟨hjoined, (hs_roles_consistent (fun _ _ => none) meeting).1 1 0 hjoined, by decide +kernel⟩

/-- **A join can be too late.**  RENDEZVOUS1 takes the slot, sends RENDEZVOUS2 and joins in sections
of their own: if the waiting circuit is closed before the last, the join is with a circuit that is
gone. -/
theorem join_after_close {s : HsState} (h : HsInv s) {p q : CircPtr} (hlive : s.Live q)
    (hunjoined : (s.heap q).joined = none) (hne : p ≠ q) (conn qConn : ConnPtr) :
    ((s.closeCircuit (s.heap q).circuitID).joinHSCircuits p conn q qConn).Joined p q ∧
      ¬ ((s.closeCircuit (s.heap q).circuitID).joinHSCircuits p conn q qConn).Live q := by
  have hgone : ¬ (s.closeCircuit (s.heap q).circuitID).Live q := by
    rw [HsState.closeCircuit, closeWithin_unjoined hlive hunjoined]
    exact fun hq => ((live_drop h hlive).1 hq).2 rfl
  refine ⟨⟨qConn, by simp [joinHSCircuits, HsState.modify, hne]⟩, ?_⟩
  simpa [joinHSCircuits, HsState.modify, HsState.Live, hne.symm] using hgone

/-- **The introduction points are the live circuits that hold a key**, after any sequence of events. -/
theorem introduction_iff (verify : Bytes → Bytes → Option String) (events : List HsEvent) (p : CircPtr) :
    (after verify events).HasRole p .introduction ↔
      (after verify events).Live p ∧ ((after verify events).heap p).introAuth ≠ [] := by
  have h := HsInv.after verify events
  constructor
  · rintro ⟨key, slot, hget, rfl⟩
    have hslot := h.intro_slot key slot hget
    exact ⟨hslot.live, hslot.auth_ne⟩
  · rintro ⟨hlive, hne⟩
    exact ⟨_, h.intro_held p hlive hne⟩

end GoTor.Relay
