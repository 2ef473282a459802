import GoTor.Relay.HsClose

/-!
# What a cell leaves alone

A relay cell, an extension or the closing of a circuit concerns the circuit it names and those
that this one is connected with: the circuit it is joined to, the one whose cookie a RENDEZVOUS1
cell carries, and those whose cookie has expired.  Every other circuit keeps its fields, its
place in the table, its key and its next hop, and nothing is written on it.
-/

namespace GoTor.Relay

open GoTor.Lib GoTor.Cell Table List

/-- The cell is one of circuit `p`, whose ID is `id`. -/
def HsOut.Names (p : CircPtr) (id : UInt32) : HsOut → Prop
  | .destroy _ circID _ => circID = id
  | .relay circ _ _ _ _ => circ = p

namespace HsState

variable {s s' s'' : HsState} {p q : CircPtr}

instance (p : CircPtr) : Decidable (s.Live p) := inferInstanceAs (Decidable (_ = some p))

instance (p q : CircPtr) : Decidable (s.Joined p q) :=
  decidable_of_iff ((s.heap p).joined.map Prod.fst = some q) <| by
    unfold Joined
    cases (s.heap p).joined with
    | none => simp
    | some pair => simp [Prod.ext_iff]

def Expired (s : HsState) (now : ℤ) (p : CircPtr) : Prop :=
  ∃ e ∈ s.rendByCookie.entries, e.2.circ = p ∧ expired now e.2 = true

instance (now : ℤ) (p : CircPtr) : Decidable (s.Expired now p) :=
  inferInstanceAs (Decidable (∃ e ∈ s.rendByCookie.entries, _))

def MateOf (s : HsState) (circuitID : UInt32) (p : CircPtr) : Prop :=
  ∃ q, s.circuits.get circuitID = some q ∧ s.Joined q p

instance (circuitID : UInt32) (p : CircPtr) : Decidable (s.MateOf circuitID p) :=
  match h : s.circuits.get circuitID with
  | none => isFalse fun ⟨q, hq, _⟩ => by rw [h] at hq; cases hq
  | some q => decidable_of_iff (s.Joined q p) <| by
      unfold MateOf
      rw [h]
      simp

/-- RENDEZVOUS1 with the cookie that `p` waits with. -/
def Meets (s : HsState) (cmd : UInt8) (data : Bytes) (p : CircPtr) : Prop :=
  cmd = relayRendezvous1 ∧
    (s.rendByCookie.get (hexEncode (data.take rendCookieLen))).any (fun slot => slot.circ = p) = true

instance (cmd : UInt8) (data : Bytes) (p : CircPtr) : Decidable (s.Meets cmd data p) :=
  inferInstanceAs (Decidable (_ ∧ _))

def Concerns (s : HsState) (p : CircPtr) : HsEvent → Prop
  | .create2 _ _ => False
  | .relay env circuitID _ _ cmd data =>
    circuitID = (s.heap p).circuitID ∨ s.MateOf circuitID p ∨ s.Expired env.now p ∨ s.Meets cmd data p
  | .extended circuitID => circuitID = (s.heap p).circuitID
  | .close circuitID => circuitID = (s.heap p).circuitID ∨ s.MateOf circuitID p
  | .reap now => s.Expired now p

instance decidableConcerns (p : CircPtr) : (e : HsEvent) → Decidable (s.Concerns p e)
  | .create2 _ _ => isFalse id
  | .relay _ _ _ _ _ _ => inferInstanceAs (Decidable (_ ∨ _ ∨ _ ∨ _))
  | .extended _ => inferInstanceAs (Decidable (_ = _))
  | .close _ => inferInstanceAs (Decidable (_ ∨ _))
  | .reap _ => inferInstanceAs (Decidable (s.Expired _ p))

/-- **The circuit has been left alone.** -/
structure Kept (s s' : HsState) (p : CircPtr) : Prop where
  heap : s'.heap p = s.heap p
  live : s'.Live p
  extended : s'.extended.get (s.heap p).circuitID = s.extended.get (s.heap p).circuitID
  intro : ∀ key slot, s.introByAuth.get key = some slot → slot.circ = p → s'.introByAuth.get key = some slot
  out : ∃ os, s'.out = s.out ++ os ∧ ∀ o ∈ os, ¬ o.Names p (s.heap p).circuitID

lemma Kept.refl (hp : s.Live p) : Kept s s p :=
  ⟨rfl, hp, rfl, fun _ _ h _ => h, [], by simp⟩

open HsCircuit Option

lemma Kept.trans (h : Kept s s' p) (h' : Kept s' s'' p) : Kept s s'' p where
  heap := h'.heap.trans h.heap
  live := h'.live
  extended := by
    have hid := congrArg circuitID h.heap
    exact (hid ▸ h'.extended).trans h.extended
  intro key slot hget hcirc := h'.intro key slot (h.intro key slot hget hcirc) hcirc
  out := by
    obtain ⟨os, hos, hnames⟩ := h.out
    obtain ⟨os', hos', hnames'⟩ := h'.out
    rw [h.heap] at hnames'
    refine ⟨os ++ os', by rw [hos', hos, append_assoc], fun o ho => ?_⟩
    exact (mem_append.1 ho).elim (hnames o) (hnames' o)

lemma ids_ne (hp : s.Live p) (hq : s.Live q) (hne : q ≠ p) : (s.heap q).circuitID ≠ (s.heap p).circuitID := fun hid =>
  hne (HsInv.live_unique hq hp hid)

/-! ### Closing -/

theorem Kept.emit (hp : s.Live p) {o : HsOut} (ho : ¬ o.Names p (s.heap p).circuitID) : Kept s (s.emit o) p :=
  ⟨rfl, hp, rfl, fun _ _ h _ => h, [o], rfl, fun o' ho' => by rwa [mem_singleton.1 ho']⟩

variable {id : UInt32}

lemma Kept.handleDestroy (hp : s.Live p) (hid : id ≠ (s.heap p).circuitID) : Kept s (s.handleDestroy id) p :=
  ⟨rfl, hp, get_erase_of_ne _ hid.symm, fun _ _ h _ => h, [], by simp [HsState.handleDestroy]⟩

lemma Kept.drop (h : HsInv s) (hp : s.Live p) (hget : s.circuits.get id = some q)
    (hne : q ≠ p) : Kept s (s.drop q id) p where
  heap := rfl
  live := (live_drop h hget).2 ⟨hp, hne.symm⟩
  extended := rfl
  intro key slot hslot hcirc := by
    rw [introByAuth_drop, if_neg]
    · exact hslot
    rintro ⟨hlen, hkey⟩
    have hq : (s.heap q).introAuth ≠ [] := ne_nil_of_length_eq_add_one hlen
    obtain ⟨slot', hslot', hcirc'⟩ := h.intro_held q (h.live_of_get hget) hq
    rw [← hkey, hslot] at hslot'
    rw [← some.inj hslot', hcirc] at hcirc'
    exact hne hcirc'.symm
  out := ⟨[], by simp [HsState.drop, forgetSlots]⟩

variable {conn : ConnPtr}

lemma Kept.unjoin (h : HsInv s) (hp : s.Live p) {t : CircPtr}
    (hjoined : (s.heap q).joined = some (t, conn)) (hqp : q ≠ p) (htp : t ≠ p) :
    Kept s (s.unjoin q).1 p := by
  have hheap : (s.unjoin q).1.heap p = s.heap p := by
    rw [heap_unjoin hjoined, if_neg]
    exact fun hp => hp.elim (fun h => hqp h.symm) fun h => htp h.symm
  have ht : s.Live t := (h.joined_live t q (h.joined_symm q t ⟨conn, hjoined⟩)).1
  refine ⟨hheap, ?_, ?_, ?_, [.destroy conn (s.heap t).circuitID destroyReasonDestroyed], ?_, ?_⟩
  · unfold Live
    rw [hheap, field_unjoin circuits fun _ _ => rfl]
    exact hp
  · unfold HsState.unjoin
    rw [hjoined]
    rfl
  · intro key slot hslot _
    unfold HsState.unjoin
    rw [hjoined]
    exact hslot
  · have hid : (((s.modify q unlinked).modify t unlinked).heap t).circuitID =
        (s.heap t).circuitID :=
      (field_modify (f := unlinked) _ _ _ circuitID fun _ => rfl).trans
        (field_modify (f := unlinked) _ _ _ circuitID fun _ => rfl)
    rw [← hid]
    unfold HsState.unjoin
    rw [hjoined]
    rfl
  · intro o ho
    rw [mem_singleton.1 ho]
    exact ids_ne hp ht htp

/-- **Closing another circuit**, unless the two are joined. -/
theorem Kept.closeCircuit (h : HsInv s) (hp : s.Live p) (hid : id ≠ (s.heap p).circuitID) (hmate : ¬ s.MateOf id p) :
    Kept s (s.closeCircuit id) p := by
  cases hget : s.circuits.get id with
  | none =>
    rw [HsState.closeCircuit, closeWithin_unknown hget]
    exact .handleDestroy hp hid
  | some q =>
    have hqp : q ≠ p := by
      rintro rfl
      exact hid (h.named id q hget).1.symm
    rcases closeCircuit_cases h hget with ⟨-, heq⟩ | ⟨t, conn, hjoined, hgetq, hgett, heq⟩
    · rw [heq]
      have hdrop := drop h hp hget hqp
      exact hdrop.trans (.handleDestroy hdrop.live (hdrop.heap ▸ hid))
    rw [heq]
    have htp : t ≠ p := by
      rintro rfl
      exact hmate ⟨q, hget, conn, hjoined⟩
    have ht : s.Live t := (h.joined_live t q (h.joined_symm q t ⟨conn, hjoined⟩)).1
    have hidt := ids_ne hp ht htp
    have hinv := h.unjoin hjoined
    have hunjoin := unjoin h hp hjoined hqp htp
    have hdropq := hunjoin.trans (.drop hinv hunjoin.live hgetq hqp)
    have hdropt := hdropq.trans
      (.drop (hinv.drop hgetq (unjoined_unjoin hjoined (.inl rfl))) hdropq.live hgett htp)
    have hforgett := hdropt.trans (.handleDestroy hdropt.live (hdropt.heap ▸ hidt))
    exact hforgett.trans (.handleDestroy hforgett.live (hforgett.heap ▸ hid))

lemma Kept.closeHSCircuit (h : HsInv s) (hp : s.Live p)
    (hid : (s.heap q).circuitID ≠ (s.heap p).circuitID) (hmate : ¬ s.MateOf (s.heap q).circuitID p)
    (conn : ConnPtr) (reason : String) (dest : UInt8) :
    Kept s (s.closeHSCircuit q conn reason dest).1 p := by
  have hemit : Kept s (s.emit (.destroy conn (s.heap q).circuitID dest)) p := .emit hp hid
  exact hemit.trans (.closeCircuit h.emit hemit.live hid hmate)

/-! ### Reaping -/

theorem Kept.reaped_foldl (dead : List HsRoleSlot) (h : HsInv s) (hp : s.Live p)
    (hdead : ∀ slot ∈ dead, slot.circ ≠ p ∧ (s.heap slot.circ).joined = none ∧ (s.heap slot.circ).rendCookie ≠ [] ∧
      (s.heap slot.circ).circuitID ≠ (s.heap p).circuitID ∧
      ∀ r, s.circuits.get (s.heap slot.circ).circuitID = some r → r = slot.circ) {reason : String}
    {dest : UInt8} :
    Kept s (dead.foldl (fun s slot => (s.closeHSCircuit slot.circ slot.conn reason dest).1) s) p := by
  induction dead generalizing s with
  | nil => exact .refl hp
  | cons slot dead ih =>
    obtain ⟨-, hunjoined, hcookie, hid, hown⟩ := hdead slot mem_cons_self
    have hmate : ¬ s.MateOf (s.heap slot.circ).circuitID p := by
      rintro ⟨r, hr, conn, hjoined⟩
      rw [hown r hr, hunjoined] at hjoined
      cases hjoined
    have hone := closeHSCircuit h hp hid hmate slot.conn reason dest
    have hreaped := h.reaped_closeHSCircuit hown hunjoined hcookie slot.conn reason dest
    refine hone.trans (ih hreaped.inv hone.live fun slot' hmem => ?_)
    rw [hreaped.heap_eq]
    obtain ⟨hne', hunjoined', hcookie', hid', hown'⟩ := hdead slot' (mem_cons_of_mem _ hmem)
    exact ⟨hne', hunjoined', hcookie', hid', fun r hr => hown' r (hreaped.circuits_sub _ r hr)⟩

variable {rendByCookie : Table Bytes HsRoleSlot} {streamID : UInt16} {env : HsEnv} {payload : Bytes}
  {verify : Bytes → Bytes → Option String}

lemma Kept.cookies (hp : s.Live p) : Kept s { s with rendByCookie } p :=
  ⟨rfl, hp, rfl, fun _ _ h _ => h, [], by simp⟩

variable {now : ℤ}

lemma Kept.reapExpiredRend (h : HsInv s) (hp : s.Live p) (hexp : ¬ s.Expired now p) :
    Kept s (s.reapExpiredRend now) p := by
  have hkeep : HsInv { s with
      rendByCookie := s.rendByCookie.keep fun _ slot => !expired now slot } := by
    refine h.shrink fun key slot hslot => ?_
    rw [get_keep] at hslot
    exact (filter_eq_some_iff.1 hslot).1
  refine (cookies hp).trans (reaped_foldl _ hkeep hp (fun slot hslot => ?_))
  obtain ⟨hmem, hexpired⟩ := mem_filter.1 hslot
  obtain ⟨⟨key, slot'⟩, hentry, rfl⟩ := mem_map.1 hmem
  have hne : slot'.circ ≠ p := fun hcirc => hexp ⟨(key, slot'), hentry, hcirc, hexpired⟩
  have hs := h.rend_slot key slot' ((s.rendByCookie.get_eq_some_iff).2 hentry)
  refine ⟨hne, hs.unjoined, hs.cookie_ne, ids_ne hp hs.live hne, fun r hr => ?_⟩
  exact (some.inj (hs.live.symm.trans hr)).symm

/-! ### The handlers -/

/-- The circuit of a cell, or what reaping has left of it, in relation to another one. -/
structure Apart (s : HsState) (q p : CircPtr) : Prop where
  id_ne : (s.heap q).circuitID ≠ (s.heap p).circuitID
  mate : ¬ s.MateOf (s.heap q).circuitID p

lemma Apart.ne (h : s.Apart q p) : q ≠ p := fun heq => h.id_ne (heq ▸ rfl)

lemma Apart.reap (h : HsInv s) (ha : s.Apart q p) (now : ℤ) : (s.reapExpiredRend now).Apart q p := by
  have hr := h.reapExpiredRend now
  refine ⟨by rw [hr.heap_eq]; exact ha.id_ne, ?_⟩
  rintro ⟨r, hget, conn, hjoined⟩
  rw [hr.heap_eq] at hget hjoined
  exact ha.mate ⟨r, hr.circuits_sub _ r hget, conn, hjoined⟩

lemma Apart.cookies (ha : s.Apart q p) : Apart { s with rendByCookie } q p :=
  ⟨ha.id_ne, ha.mate⟩

lemma Kept.destroyHSCircuit (h : HsInv s) (hp : s.Live p) (ha : s.Apart q p) (conn : ConnPtr)
    (reason : String) : Kept s (s.destroyHSCircuit q conn reason).1 p :=
  .closeHSCircuit h hp ha.id_ne ha.mate _ _ _

variable {cmd : UInt8} {data : Bytes} {circuitID : UInt32}

lemma Kept.sendRelayToClient (hp : s.Live p) (hne : q ≠ p) :
    Kept s (s.sendRelayToClient env q conn streamID cmd data).1 p := by
  unfold HsState.sendRelayToClient
  split
  · exact .refl hp
  · exact .emit hp hne

lemma Kept.modify (hp : s.Live p) (hne : q ≠ p) (f : HsCircuit → HsCircuit) : Kept s (s.modify q f) p := by
  have hheap : (s.modify q f).heap p = s.heap p := by rw [heap_modify, if_neg hne.symm]
  refine ⟨hheap, ?_, rfl, fun _ _ h _ => h, [], by simp [HsState.modify]⟩
  unfold Live
  rw [hheap]
  exact hp

lemma Kept.registerRend (hp : s.Live p) (hne : q ≠ p) {cookie : Bytes}
    (hreg : s.registerRend q conn cookie now = .ok s') : Kept s s' p := by
  obtain ⟨-, -, -, rfl⟩ := HsInv.registerRend_eq_ok hreg
  have hmodify := modify hp hne fun c => { c with rendCookie := cookie }
  exact { hmodify with extended := rfl }

variable {env : HsEnv}

lemma Kept.handleEstablishRendezvous (h : HsInv s) (hp : s.Live p) (ha : s.Apart q p) (hexp : ¬ s.Expired env.now p) :
    Kept s (s.handleEstablishRendezvous env q conn payload).1 p := by
  have hreap := reapExpiredRend h hp hexp
  fun_cases s.handleEstablishRendezvous env q conn payload
  case case1 => exact .destroyHSCircuit h hp ha _ _
  case case4 s' hreg =>
    have hkept := hreap.trans (.registerRend hreap.live ha.ne hreg)
    exact hkept.trans (.sendRelayToClient hkept.live ha.ne)
  all_goals
    exact hreap.trans (.destroyHSCircuit (h.reapExpiredRend _).inv hreap.live (ha.reap h _) _ _)

lemma Kept.restoreRend (hp : s.Live p) (key : Bytes) (slot : HsRoleSlot) : Kept s (s.restoreRend key slot) p := by
  unfold HsState.restoreRend
  split
  · exact .cookies hp
  · exact .refl hp

lemma Apart.restoreRend (ha : s.Apart q p) (key : Bytes) (slot : HsRoleSlot) :
    (s.restoreRend key slot).Apart q p := by
  unfold HsState.restoreRend
  split
  · exact ha.cookies
  · exact ha

variable {slot : HsRoleSlot}

lemma rendByCookie_closeWithin_sub (fuel : ℕ) {key : Bytes}
    (hget : (closeWithin fuel s id).rendByCookie.get key = some slot) :
    s.rendByCookie.get key = some slot := by
  induction fuel generalizing s id with
  | zero => exact hget
  | succ fuel ih =>
    cases hc : s.circuits.get id with
    | none =>
      rwa [closeWithin_unknown hc] at hget
    | some q =>
      have hdrop : ∀ {s' : HsState} {t : CircPtr} {id' : UInt32}, (s'.drop t id').rendByCookie.get key = some slot →
          s'.rendByCookie.get key = some slot := fun hd => by
        rw [rendByCookie_drop] at hd
        exact (ite_none_left_eq_some.1 hd).2
      cases hjoined : (s.heap q).joined with
      | none =>
        rw [closeWithin_unjoined hc hjoined] at hget
        exact hdrop hget
      | some pair =>
        rw [closeWithin_joined hc hjoined] at hget
        have hunjoin := hdrop (ih hget)
        rwa [field_unjoin rendByCookie fun _ _ => rfl] at hunjoin

lemma rendByCookie_reap_sub {key : Bytes}
    (hget : (s.reapExpiredRend now).rendByCookie.get key = some slot) :
    s.rendByCookie.get key = some slot := by
  have hfold : ∀ (dead : List HsRoleSlot) (t : HsState),
      (dead.foldl (fun t slot => (t.closeHSCircuit slot.circ slot.conn "unjoined rendezvous expired"
        destroyReasonTimeout).1) t).rendByCookie.get key = some slot →
      t.rendByCookie.get key = some slot := by
    intro dead
    induction dead with
    | nil => exact fun _ h => h
    | cons slot' dead ih =>
      intro t h
      have hclose := ih _ h
      exact rendByCookie_closeWithin_sub (s := t.emit _) _ hclose
  have hkept := hfold _ _ hget
  rw [get_keep] at hkept
  exact (filter_eq_some_iff.1 hkept).1

lemma Meets.of_reap
    (hget : (s.reapExpiredRend now).rendByCookie.get (hexEncode (data.take rendCookieLen)) =
      some slot) : s.Meets relayRendezvous1 data slot.circ := by
  refine ⟨rfl, ?_⟩
  rw [rendByCookie_reap_sub hget]
  exact decide_eq_true rfl

lemma Kept.handleRendezvous1 (h : HsInv s) (hp : s.Live p) (ha : s.Apart q p)
    (hexp : ¬ s.Expired env.now p) (hmeets : ¬ s.Meets relayRendezvous1 payload p) :
    Kept s (s.handleRendezvous1 env q conn payload).1 p := by
  unfold HsState.handleRendezvous1
  split
  · exact .destroyHSCircuit h hp ha _ _
  have hr := h.reapExpiredRend env.now
  have hreap := reapExpiredRend h hp hexp
  have ha' := ha.reap h env.now
  dsimp only
  split
  · exact hreap.trans (.destroyHSCircuit hr.inv hreap.live ha' _ _)
  split
  · exact hreap.trans (.destroyHSCircuit hr.inv hreap.live ha' _ _)
  next slot hget =>
  -- the circuit that waits for the cookie is another one
  have hslot : slot.circ ≠ p := by
    rintro rfl
    exact hmeets (.of_reap hget)
  have herase : Kept s { s.reapExpiredRend env.now with
      rendByCookie := (s.reapExpiredRend env.now).rendByCookie.erase
        (hexEncode (payload.take rendCookieLen)) } p := hreap.trans (.cookies hreap.live)
  have herased : HsInv { s.reapExpiredRend env.now with
      rendByCookie := (s.reapExpiredRend env.now).rendByCookie.erase (hexEncode (payload.take rendCookieLen)) } := by
    refine hr.inv.shrink fun key' slot' hslot' => ?_
    rw [get_erase] at hslot'
    exact (ite_none_left_eq_some.1 hslot').2
  have hrestore := herase.trans (.restoreRend herase.live (hexEncode (payload.take rendCookieLen)) slot)
  have hrestored := hrestore.trans (.destroyHSCircuit (hr.inv.restoreRend hget) hrestore.live
    (ha'.cookies.restoreRend _ _) conn "RENDEZVOUS1 on occupied circuit")
  split
  · exact herase.trans (.destroyHSCircuit herased herase.live ha'.cookies _ _)
  split
  · exact hrestored
  unfold HsState.sendRelayToClient
  cases env.write with
  | some e => exact hrestore.trans (.destroyHSCircuit (hr.inv.restoreRend hget) hrestore.live
      (ha'.cookies.restoreRend _ _) _ _)
  | none =>
    have hemit := herase.trans (.emit herase.live (o := .relay slot.circ slot.conn 0 relayRendezvous2
      (payload.drop rendCookieLen)) hslot)
    have hself := hemit.trans (.modify hemit.live ha.ne fun c =>
      { c with joined := some (slot.circ, slot.conn) })
    have hboth := hself.trans (.modify hself.live hslot fun c => { c with joined := some (q, conn) })
    exact { hboth with }

lemma Kept.registerIntro (hp : s.Live p) (ha : s.Apart q p) {auth : Bytes}
    (hreg : s.registerIntro q conn auth now = .ok s') : Kept s s' p := by
  obtain ⟨-, -, hfree, -, rfl⟩ := HsInv.registerIntro_eq_ok hreg
  have hmodify := modify hp ha.ne fun c => { c with introAuth := auth }
  refine { hmodify with extended := rfl, intro := fun key slot hslot hcirc => ?_ }
  have hne : key ≠ hexEncode auth := by
    rintro rfl
    have hid := hfree slot hslot
    rw [hcirc] at hid
    exact ha.id_ne hid.symm
  exact (get_set_of_ne _ hne).trans hslot

lemma Kept.handleEstablishIntro (h : HsInv s) (hp : s.Live p) (ha : s.Apart q p) :
    Kept s (s.handleEstablishIntro verify env q conn payload).1 p := by
  fun_cases s.handleEstablishIntro verify env q conn payload
  case case7 s' hreg =>
    have hkept := registerIntro hp ha hreg
    exact hkept.trans (.sendRelayToClient hkept.live ha.ne)
  all_goals exact .destroyHSCircuit h hp ha _ _

lemma Kept.handleRecognized (h : HsInv s) (hp : s.Live p) (hq : s.Live q) (hne : q ≠ p) (hjoined : ¬ s.Joined q p)
    (hexp : cmd = relayEstablishRendezvous ∨ cmd = relayRendezvous1 → ¬ s.Expired env.now p)
    (hmeets : ¬ s.Meets cmd data p) :
    Kept s (s.handleRecognized verify env q conn streamID cmd data).1 p := by
  have ha : s.Apart q p := by
    refine ⟨ids_ne hp hq hne, fun ⟨r, hr, hmate⟩ => ?_⟩
    rw [some.inj (hr.symm.trans hq)] at hmate
    exact hjoined hmate
  fun_cases s.handleRecognized verify env q conn streamID cmd data
  case case1 peer peerConn hpeer =>
    refine .sendRelayToClient hp ?_
    rintro rfl
    exact hjoined ⟨peerConn, hpeer⟩
  case case3 => exact .handleEstablishIntro h hp ha
  case case5 hcmd _ => exact .handleEstablishRendezvous h hp ha (hexp (.inl hcmd))
  case case7 hcmd _ => exact .handleRendezvous1 h hp ha (hexp (.inr hcmd)) (hcmd ▸ hmeets)
  case case8 => exact .handleDestroy hp ha.id_ne
  case case9 => exact .refl hp
  all_goals exact .destroyHSCircuit h hp ha _ _

/-! ### Every event -/

lemma Kept.relayCell (h : HsInv s) (hp : s.Live p) (hid : circuitID ≠ (s.heap p).circuitID)
    (hmate : ¬ s.MateOf circuitID p) (hexp : ¬ s.Expired env.now p)
    (hmeets : ¬ s.Meets cmd data p) :
    Kept s (relayCell verify s env circuitID conn streamID cmd data) p := by
  unfold HsState.relayCell
  split
  · exact .emit hp hid
  next q hget =>
  have hqid := (h.named circuitID q hget).1
  have hne : q ≠ p := fun heq => hid (heq ▸ hqid.symm)
  split
  · split
    · exact .handleDestroy hp hid
    · exact .refl hp
  · exact .handleRecognized h hp (h.live_of_get hget) hne (fun hj => hmate ⟨q, hget, hj⟩) (fun _ => hexp) hmeets

lemma Kept.create2 (h : HsInv s) (hp : s.Live p) {circNonce : Bytes} : Kept s (s.create2 circuitID circNonce) p := by
  unfold HsState.create2
  split
  · exact .refl hp
  next hnone =>
  have hne : p ≠ s.fresh := Nat.ne_of_lt (h.named _ p hp).2
  have hheap : Function.update s.heap s.fresh { circuitID, circNonce } p = s.heap p :=
    Function.update_of_ne hne _ _
  have hid : (s.heap p).circuitID ≠ circuitID := by
    rintro hid
    rw [Live, hid, hnone] at hp
    cases hp
  refine ⟨hheap, ?_, rfl, fun _ _ h _ => h, [], by simp⟩
  change (s.circuits.set circuitID s.fresh).get (Function.update s.heap s.fresh _ p).circuitID = _
  rw [hheap, get_set_of_ne _ hid]
  exact hp

lemma Kept.extend (hp : s.Live p) (h : HsInv s) (hid : circuitID ≠ (s.heap p).circuitID) :
    Kept s (s.extend circuitID) p := by
  unfold HsState.extend
  split
  · exact .refl hp
  have hset : Kept s { s with extended := s.extended.set circuitID () } p :=
    ⟨rfl, hp, get_set_of_ne _ hid.symm, fun _ _ h _ => h, [], by simp⟩
  dsimp only
  split
  · exact hset
  next q hget =>
    have hne : q ≠ p := fun heq => hid (heq ▸ (h.named circuitID q hget).1.symm)
    exact hset.trans (.modify hset.live hne _)

end HsState

end GoTor.Relay
