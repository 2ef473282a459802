import GoTor.Onion.HsdirSelect

/-!
# Does a client find the descriptor?

A service uploads the descriptor of the time period in which it was made.  A client asks for the
blinded key of the period it is in.  The two meet as soon as the service has published in that
period, also across a change of the shared random value; from a change of period to the next
publication they do not.
-/

namespace GoTor.Onion

open GoTor.Lib
open List hiding Vector

/-! ### Blinded keys -/

/-- The functions of outside packages: SHA3-256, and the point arithmetic that multiplies a
public key by a clamped factor. -/
structure BlindLib where
  sha3 : Bytes → Vector UInt8 32
  scalarMult : (factor pubkey : Bytes) → Option (Vector UInt8 32)

def ed25519BasepointString : Bytes := ascii
  ("(15112221349535400772501151409588531511454012693041857206046113283949847762202, " ++
    "46316835694926478169428394003475163141307993866256225615783033603165251855960)")

def blindNonce (periodNum periodLength : ℕ) : Bytes :=
  ascii "key-blind" ++ putUint64 periodNum ++ putUint64 periodLength

/-- The message that is hashed to the blinding factor. -/
def blindMessage (pubkey : Bytes) (periodNum periodLength : ℕ) : Bytes :=
  ascii "Derive temporary signing key" ++ [0] ++ pubkey ++ ed25519BasepointString ++ blindNonce periodNum periodLength

/-- `BuildBlindedKeyParam`, without a secret. -/
def buildBlindedKeyParam (L : BlindLib) (pubkey : Bytes) (periodNum periodLength : ℕ) : Except String Bytes :=
  if pubkey.length ≠ 32 then .error "pubkey must be 32 bytes"
  else .ok (L.sha3 (blindMessage pubkey periodNum periodLength)).toList

def computeBlindedPubkey (L : BlindLib) (pubkey : Bytes) (timePeriod : ℕ) : Bytes :=
  match buildBlindedKeyParam L pubkey timePeriod hsdirIntervalDefaultMinutes with
  | .error _ => zeros 32
  | .ok param =>
    match L.scalarMult param pubkey with
    | none => zeros 32
    | some blinded => blinded.toList

variable {L : BlindLib} {pubkey : Bytes}

lemma length_computeBlindedPubkey {timePeriod : ℕ} : (computeBlindedPubkey L pubkey timePeriod).length = 32 := by
  unfold computeBlindedPubkey
  split
  · simp [zeros]
  · split
    · simp [zeros]
    · simp

/-! ### Publications -/

/-- One round of `createDescriptor` and `publishDescriptor`. -/
structure Publication where
  created : ℤ
  published : ℤ
  view : HSDirView
  reached : List HSDirectory

/-- The blinded key of a public key at a time. -/
def blindedAt (L : BlindLib) (pubkey : Bytes) (now : ℤ) : Bytes :=
  computeBlindedPubkey L pubkey (getTimePeriod now)

namespace Publication

variable (L : BlindLib) (pubkey : Bytes) (pub : Publication)

def targets : List HSDirectory :=
  uploadTargets L.sha3 pub.published pub.view (blindedAt L pubkey pub.created)

def uploads : List (HSDirectory × Bytes) :=
  ((pub.targets L pubkey).filter (· ∈ pub.reached)).map (·, blindedAt L pubkey pub.created)

structure Complete : Prop where
  order : pub.created ≤ pub.published
  nonempty : pub.targets L pubkey ≠ []
  reached : ∀ d ∈ pub.targets L pubkey, d ∈ pub.reached

end Publication

/-- The client uses the consensus of the publication, or the one after the next change of the
shared random value. -/
structure SameConsensus (service client : HSDirView) : Prop where
  hsdirs : client.hsdirs = service.hsdirs
  ringParams : client.ringParams = service.ringParams
  values : (client.sharedRandCurrent = service.sharedRandCurrent ∧ client.sharedRandPrev = service.sharedRandPrev) ∨
    (client.sharedRandPrev = service.sharedRandCurrent ∧ service.sharedRandCurrent.length = 32)

/-- The client asks a directory for a key that was uploaded to it. -/
def Finds (L : BlindLib) (pubkey : Bytes) (pubs : Set Publication) (view : HSDirView) (now : ℤ) : Prop :=
  ∃ d ∈ fetchTargets L.sha3 now view (blindedAt L pubkey now), ∃ pub ∈ pubs,
    pub.published ≤ now ∧ (d, blindedAt L pubkey now) ∈ pub.uploads L pubkey

/-- From `start` on, the last publication is never more than `interval` old, complete, and of the
consensus that the client uses. -/
def RepublishesEvery (L : BlindLib) (pubkey : Bytes) (pubs : Set Publication)
    (view : ℤ → HSDirView) (interval start : ℤ) : Prop :=
  ∀ now, start ≤ now → ∃ pub ∈ pubs, pub.Complete L pubkey ∧ now - interval ≤ pub.created ∧
    pub.published ≤ now ∧ SameConsensus pub.view (view now)

/-! ### Both sides choose alike -/

lemma getTimePeriod_mono {a b : ℤ} (h : a ≤ b) : getTimePeriod a ≤ getTimePeriod b := by
  by_cases ha : a < 0
  · simp [getTimePeriod, ha]
  have hb : ¬ b < 0 := by omega
  simp only [getTimePeriod, ha, if_false]
  split
  · exact Nat.zero_le _
  · rw [if_neg (by omega)]
    exact Nat.div_le_div_right (by omega)

section Choice

variable {sha3 : Bytes → Vector UInt8 32} {choose choose' : Bytes → List HSDirectory}
  {descriptorID : Bytes} {now : ℤ} {view : HSDirView} {srv : Bytes} {d : HSDirectory}

lemma mem_mergeSelected_of_right {selected extra : List HSDirectory}
    (hfp : ∀ x ∈ selected ++ extra, x.fingerprint = d.fingerprint → x = d) (hd : d ∈ extra) :
    d ∈ mergeSelected selected extra := by
  unfold mergeSelected
  induction extra generalizing selected with
  | nil => cases hd
  | cons x extra ih =>
    rw [foldl_cons]
    rcases mem_cons.1 hd with rfl | hd
    · -- `d` is there already, or is added now; later directories leave it
      split
      · next hseen =>
        obtain ⟨y, hy, hfy⟩ := mem_map.1 hseen
        obtain rfl := hfp y (mem_append_left _ hy) hfy
        obtain ⟨more, hmore⟩ := subset_mergeSelected selected extra
        unfold mergeSelected at hmore
        rw [hmore]
        exact mem_append_left _ hy
      · obtain ⟨more, hmore⟩ := subset_mergeSelected (selected ++ [d]) extra
        unfold mergeSelected at hmore
        rw [hmore]
        simp
    refine ih ?_ hd
    intro y hy hfy
    refine hfp y ?_ hfy
    rcases mem_append.1 hy with hy | hy
    · split at hy
      · exact mem_append_left _ hy
      · rcases mem_append.1 hy with hy | hy
        · exact mem_append_left _ hy
        · exact mem_append_right _ (mem_cons.2 (.inl (mem_singleton.1 hy)))
    · exact mem_append_right _ (mem_cons_of_mem _ hy)

lemma SrvInUse.eq_other (h : SrvInUse sha3 view (getTimePeriod now) srv)
    (hne : srv ≠ selectSRVForFetch sha3 now (getTimePeriod now) view.sharedRandCurrent
      view.sharedRandPrev) : srv = view.other now := by
  unfold HSDirView.other
  rcases h with ⟨rfl, hlen⟩ | ⟨rfl, hlen⟩ | ⟨rfl, hc, hp⟩
  · by_cases hw : useCurrentSRVForFetch now = true
    · exact absurd (by simp [selectSRVForFetch, hw, hlen]) hne
    · rw [if_neg hw]
  · by_cases hw : useCurrentSRVForFetch now = true
    · rw [if_pos hw]
    · exact absurd (by simp [selectSRVForFetch, hw, hlen]) hne
  · exact absurd (by simp [selectSRVForFetch, hc, hp]) hne

lemma mem_selectAcrossSRVs_of_inUse (hne : ∀ srv, srv.length = 32 → choose srv ≠ [])
    (hsub : ∀ srv, choose srv ⊆ view.hsdirs) (hfp : (view.hsdirs.map (·.fingerprint)).Nodup)
    (huse : SrvInUse sha3 view (getTimePeriod now) srv) (hd : d ∈ choose srv) :
    d ∈ selectAcrossSRVs sha3 choose descriptorID now view := by
  have hsel := (@srvInUse_selectSRVForFetch sha3 view now (getTimePeriod now)).length
  have hother := huse.eq_other
  simp only [selectAcrossSRVs]
  generalize selectSRVForFetch sha3 now (getTimePeriod now) view.sharedRandCurrent
    view.sharedRandPrev = srv0 at hsel hother ⊢
  have hon : selectOn choose srv0 (view.usual now) = choose srv0 :=
    if_neg fun h => hne srv0 hsel h.1
  rw [hon, if_neg (hne srv0 hsel)]
  by_cases hsrv : srv = srv0
  · subst hsrv
    split
    · obtain ⟨more, hmore⟩ := subset_mergeSelected (choose srv) (choose (view.other now))
      rw [hmore]
      exact mem_append_left _ hd
    · exact hd
  · obtain rfl := hother hsrv
    rw [if_pos huse.length]
    refine mem_mergeSelected_of_right ?_ hd
    intro x hx hfx
    refine inj_on_of_nodup_map hfp ?_ (hsub _ hd) hfx
    rcases mem_append.1 hx with hx | hx
    · exact hsub _ hx
    · exact hsub _ hx

lemma selectAcrossSRVs_of_nil (h : ∀ srv, choose srv = []) : selectAcrossSRVs sha3 choose descriptorID now view =
      selectHSDirs sha3 descriptorID view.hsdirs 0 ++ selectHSDirs sha3 descriptorID view.hsdirs 1 := by
  simp [selectAcrossSRVs, selectOn, h]

end Choice

/-! ### The descriptor is found -/

section Found

variable {L : BlindLib} {pubkey : Bytes} {pub : Publication} {view : HSDirView} {now : ℤ}

lemma SameConsensus.common (h : SameConsensus pub.view view) (sha3 : Bytes → Vector UInt8 32)
    (now : ℤ) (p : ℕ) : ∃ srv, SrvInUse sha3 pub.view p srv ∧ SrvInUse sha3 view p srv := by
  rcases h.values with ⟨hcur, hprev⟩ | ⟨hturn, hlen⟩
  · refine ⟨_, ?_, srvInUse_selectSRVForFetch view now p⟩
    rw [hcur, hprev]
    exact srvInUse_selectSRVForFetch pub.view now p
  · exact ⟨pub.view.sharedRandCurrent, .inl ⟨rfl, hlen⟩, .inr (.inl ⟨hturn.symm, hlen⟩)⟩

lemma select_subset (sha3 : Bytes → Vector UInt8 32) (blinded : Bytes)
    (hsdirs : List HSDirectory) (srv : Bytes) (p n k : ℕ) :
    selectResponsibleHSDirsWith sha3 blinded hsdirs srv p n k ⊆ hsdirs := by
  intro d hd
  obtain ⟨e, he, rfl⟩ := mem_ring_of_select hd
  exact (mem_ringOf he).1

lemma finds_of_published (hcomplete : pub.Complete L pubkey)
    (hperiod : getTimePeriod pub.created = getTimePeriod now) (hle : pub.published ≤ now)
    (hsame : SameConsensus pub.view view) (hfp : (view.hsdirs.map (·.fingerprint)).Nodup) :
    ∃ d ∈ fetchTargets L.sha3 now view (blindedAt L pubkey now),
      (d, blindedAt L pubkey now) ∈ pub.uploads L pubkey := by
  have hpub : getTimePeriod pub.published = getTimePeriod now :=
    le_antisymm (getTimePeriod_mono hle) (hperiod ▸ getTimePeriod_mono hcomplete.order)
  have hkey : blindedAt L pubkey pub.created = blindedAt L pubkey now := by
    rw [blindedAt, hperiod, blindedAt]
  have hb : (blindedAt L pubkey now).length = 32 := length_computeBlindedPubkey ..
  suffices h : ∃ d ∈ fetchTargets L.sha3 now view (blindedAt L pubkey now), d ∈ pub.targets L pubkey by
    obtain ⟨d, hd, hd'⟩ := h
    refine ⟨d, hd, mem_map.2 ⟨d, mem_filter.2 ⟨hd', ?_⟩, by rw [hkey]⟩⟩
    exact decide_eq_true (hcomplete.reached d hd')
  have hnonempty := hcomplete.nonempty
  simp only [Publication.targets, uploadTargets, fetchTargets, hpub, hkey, hsame.hsdirs,
    hsame.ringParams] at hnonempty ⊢
  by_cases hring : ∃ d ∈ pub.view.hsdirs, d.hsDir = true ∧ d.ed25519Identity ≠ []
  · -- the first directory on the ring of a common value is chosen on both sides
    obtain ⟨x, hx, hflag, hid⟩ := hring
    obtain ⟨srv, huse, huse'⟩ := hsame.common L.sha3 now (getTimePeriod now)
    have hhead := fun (srv : Bytes) (hlen : srv.length = 32) =>
      select_head hb (@ringOf_ne_nil L.sha3 pub.view.hsdirs srv (getTimePeriod now) x hx hflag hid hlen)
    have hne : ∀ n k : ℕ, 0 < n → 0 < k → ∀ srv : Bytes, srv.length = 32 →
        selectResponsibleHSDirsWith L.sha3 (blindedAt L pubkey now) pub.view.hsdirs srv
          (getTimePeriod now) n k ≠ [] := by
      intro n k hn hk srv hlen
      obtain ⟨d, hd⟩ := hhead srv hlen
      obtain ⟨more, hmore⟩ := hd n k hn hk
      rw [hmore]
      exact cons_ne_nil _ _
    obtain ⟨d, hd⟩ := hhead srv huse.length
    have hmem : ∀ n k : ℕ, 0 < n → 0 < k → d ∈
        selectResponsibleHSDirsWith L.sha3 (blindedAt L pubkey now) pub.view.hsdirs srv (getTimePeriod now) n k := by
      intro n k hn hk
      obtain ⟨more, hmore⟩ := hd n k hn hk
      rw [hmore]
      exact mem_cons_self
    have hn := orDefault_pos pub.view.ringParams.withDefaults.nReplicas hsdirNReplicasDefault (by decide)
    refine ⟨d, ?_, ?_⟩
    · have hk := orDefault_pos pub.view.ringParams.withDefaults.spreadFetch hsdirSpreadFetchDefault (by decide)
      refine mem_selectAcrossSRVs_of_inUse (hne _ _ hn hk) ?_ hfp huse' (hmem _ _ hn hk)
      intro srv
      rw [hsame.hsdirs]
      exact select_subset ..
    · have hk := orDefault_pos pub.view.ringParams.withDefaults.spreadStore hsdirSpreadStoreDefault (by decide)
      rw [hsame.hsdirs] at hfp
      rw [← hpub] at huse
      exact mem_selectAcrossSRVs_of_inUse (hne _ _ hn hk) (fun _ => select_subset ..) hfp huse (hmem _ _ hn hk)
  -- nobody is on a ring, and both sides choose by distance
  have hnil : ∀ (srv : Bytes) (n k : ℕ), selectResponsibleHSDirsWith L.sha3
      (blindedAt L pubkey now) pub.view.hsdirs srv (getTimePeriod now) n k = [] := by
    intro srv n k
    refine eq_nil_iff_forall_not_mem.2 fun d hd => hring ?_
    obtain ⟨e, he, rfl⟩ := mem_ring_of_select hd
    exact ⟨e.dir, (mem_ringOf he).1, identity_of_ringOf he⟩
  obtain ⟨d, hd⟩ := exists_mem_of_ne_nil _ hnonempty
  refine ⟨d, ?_, hd⟩
  simp only [selectResponsibleHSDirs, selectResponsibleHSDirsStore] at hd ⊢
  rw [selectAcrossSRVs_of_nil fun srv => hnil srv _ _] at hd ⊢
  rwa [hsame.hsdirs]

/-- **The client finds the descriptor**, at every time at which the service has made and published
one in the time period of that time; so at every time that is at least the refresh interval after
the last change of period. -/
theorem descriptor_found (L : BlindLib) (pubkey : Bytes) (pubs : Set Publication)
    (view : ℤ → HSDirView) (interval start : ℤ)
    (hrefresh : RepublishesEvery L pubkey pubs view interval start)
    (hfp : ∀ now, ((view now).hsdirs.map (·.fingerprint)).Nodup) (now : ℤ) (hnow : start ≤ now) :
    ((∃ pub ∈ pubs, pub.Complete L pubkey ∧ pub.published ≤ now ∧ SameConsensus pub.view (view now) ∧
        getTimePeriod pub.created = getTimePeriod now) →
      Finds L pubkey pubs (view now) now) ∧
    (getTimePeriod (now - interval) = getTimePeriod now → Finds L pubkey pubs (view now) now) := by
  have hfound : ∀ pub ∈ pubs, pub.Complete L pubkey → pub.published ≤ now →
      SameConsensus pub.view (view now) → getTimePeriod pub.created = getTimePeriod now →
      Finds L pubkey pubs (view now) now := by
    intro pub hpub hcomplete hle hsame hperiod
    obtain ⟨d, hd, hup⟩ := finds_of_published hcomplete hperiod hle hsame (hfp now)
    exact ⟨d, hd, pub, hpub, hle, hup⟩
  constructor
  · rintro ⟨pub, hpub, hcomplete, hle, hsame, hperiod⟩
    exact hfound pub hpub hcomplete hle hsame hperiod
  · intro hperiod
    obtain ⟨pub, hpub, hcomplete, hfresh, hle, hsame⟩ := hrefresh now hnow
    refine hfound pub hpub hcomplete hle hsame (le_antisymm ?_ ?_)
    · exact getTimePeriod_mono (hcomplete.order.trans hle)
    · rw [← hperiod]
      exact getTimePeriod_mono hfresh

variable {sha3 : Bytes → Vector UInt8 32}

lemma uploadTargets_subset {blinded : Bytes} {d : HSDirectory}
    (h : d ∈ uploadTargets sha3 now view blinded) : d ∈ view.hsdirs := by
  rcases mem_selectAcrossSRVs h with ⟨srv, -, hd⟩ | ⟨-, hd⟩
  · exact select_subset _ _ _ _ _ _ _ hd
  · exact hd

lemma uploadTargets_ne_nil {blinded : Bytes} {d : HSDirectory} (hb : blinded.length = 32)
    (hd : d ∈ view.hsdirs) (hflag : d.hsDir = true) (hid : d.ed25519Identity ≠ [])
    (hfp : (view.hsdirs.map (·.fingerprint)).Nodup) : uploadTargets sha3 now view blinded ≠ [] := by
  have hhead : ∀ srv : Bytes, srv.length = 32 → ∃ d more, selectResponsibleHSDirsStore sha3 blinded
      view.hsdirs srv (getTimePeriod now) view.ringParams.withDefaults.nReplicas
      view.ringParams.withDefaults.spreadStore = d :: more := by
    intro srv hlen
    obtain ⟨first, hfirst⟩ := select_head hb
      (@ringOf_ne_nil sha3 view.hsdirs srv (getTimePeriod now) d hd hflag hid hlen)
    exact ⟨first, hfirst _ _ (orDefault_pos _ _ (by decide)) (orDefault_pos _ _ (by decide))⟩
  have huse := @srvInUse_selectSRVForFetch sha3 view now (getTimePeriod now)
  obtain ⟨first, more, hfirst⟩ := hhead _ huse.length
  refine ne_nil_of_mem (mem_selectAcrossSRVs_of_inUse ?_ ?_ hfp huse (d := first) ?_)
  · intro srv hlen
    obtain ⟨first, more, hfirst⟩ := hhead srv hlen
    rw [hfirst]
    exact cons_ne_nil _ _
  · exact fun srv => select_subset ..
  · rw [hfirst]
    exact mem_cons_self

end Found

/-! ### A service that publishes every hour at half past -/

def hourlyDir : HSDirectory where
  fingerprint := [65]
  relay := some { identityKey := replicate 32 65 }

def hourlyView : HSDirView where
  hsdirs := [hourlyDir]
  sharedRandCurrent := replicate 32 9
  sharedRandPrev := replicate 32 8

lemma nodup_hourlyView : (hourlyView.hsdirs.map (·.fingerprint)).Nodup := by decide

/-- 15 November 2026, 11:30 UTC; the time period changes at noon. -/
def firstPublication : ℤ := 1794742200

def hourlyPublications : Set Publication :=
  {pub | pub.published = pub.created ∧ firstPublication ≤ pub.created ∧
    pub.created % 3600 = 1800 ∧ pub.view = hourlyView ∧ pub.reached = [hourlyDir]}

lemma republishesEvery_hour :
    RepublishesEvery L pubkey hourlyPublications (fun _ => hourlyView) 3600 firstPublication := by
  intro now hnow
  -- the last half past
  set created := now - (now - firstPublication) % 3600 with hcreated
  refine ⟨⟨created, created, hourlyView, [hourlyDir]⟩, ⟨rfl, ?_, ?_, rfl, rfl⟩, ⟨le_rfl, ?_, ?_⟩,
    ?_, ?_, ⟨rfl, rfl, .inl ⟨rfl, rfl⟩⟩⟩
  · show firstPublication ≤ created
    omega
  · show created % 3600 = 1800
    simp only [firstPublication] at *
    omega
  · exact uploadTargets_ne_nil (length_computeBlindedPubkey ..)
      (mem_singleton_self hourlyDir) rfl (by decide) nodup_hourlyView
  · intro d hd
    exact uploadTargets_subset hd
  · show now - 3600 ≤ created
    omega
  · show created ≤ now
    omega

/-- The public key of the service and what blinding makes of it in two periods. -/
def hourlyKey : Bytes :=
  bytesOfNat 32 0xb94ab8f343d7794ce50f1865238acf4d04ae66ebb5e46a9418d238ee8d80b84e

/-- SHA3-256 and the point arithmetic on the inputs for periods 20771 and 20772. -/
def hourlyLib : BlindLib where
  sha3 := digestOf
    [(blindMessage hourlyKey 20771 1440,
        0x0af5fb28792b68c3fa4c7905a57fc0f6b4b6b529df8070d9db69b39910df4d21),
      (blindMessage hourlyKey 20772 1440,
        0xcb6350ac521d3bee0f6550762cf5b533fbb537eee86519e582e556669084c6a0)]
  scalarMult factor pubkey :=
    some (digestOf
      [(bytesOfNat 32 0x0af5fb28792b68c3fa4c7905a57fc0f6b4b6b529df8070d9db69b39910df4d21 ++ hourlyKey,
          0x9e9e47700b82baad8ebc3e15a1ebf89d6aacd3bce6e5a241e0a0c30876c11d4d),
        (bytesOfNat 32 0xcb6350ac521d3bee0f6550762cf5b533fbb537eee86519e582e556669084c6a0 ++ hourlyKey,
          0x8292dc50929a973e931027b47660593be0578cdd643b6ad2aecc721dd7f5884c)]
      (factor ++ pubkey))

theorem descriptor_found_hourly :
    Finds hourlyLib hourlyKey hourlyPublications hourlyView (firstPublication + 7200) :=
  (descriptor_found hourlyLib hourlyKey hourlyPublications (fun _ => hourlyView) 3600
    firstPublication republishesEvery_hour (fun _ => nodup_hourlyView) (firstPublication + 7200)
    (by decide)).2 (by decide)

/-- At noon it does not: the key it asks for is one the service has not used yet. -/
theorem descriptor_missed_at_noon :
    ∃ (L : BlindLib) (pubkey : Bytes) (pubs : Set Publication) (view : ℤ → HSDirView)
      (start now : ℤ), RepublishesEvery L pubkey pubs view 3600 start ∧
      (∀ now, ((view now).hsdirs.map (·.fingerprint)).Nodup) ∧ start ≤ now ∧
      ¬ Finds L pubkey pubs (view now) now := by
  refine ⟨hourlyLib, hourlyKey, hourlyPublications, fun _ => hourlyView, firstPublication,
    firstPublication + 1800, republishesEvery_hour, fun _ => nodup_hourlyView, by decide, ?_⟩
  rintro ⟨d, -, pub, ⟨hpub, hfirst, hhalf, -⟩, hle, hup⟩
  have hcreated : pub.created = firstPublication := by
    simp only [firstPublication] at *
    omega
  obtain ⟨x, -, hx⟩ := mem_map.1 hup
  have hkey := (Prod.mk.inj hx).2
  rw [hcreated] at hkey
  have hne : blindedAt hourlyLib hourlyKey firstPublication ≠
      blindedAt hourlyLib hourlyKey (firstPublication + 1800) := by
    decide +kernel
  exact hne hkey

end GoTor.Onion
