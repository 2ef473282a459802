import GoTor.Onion.HsdirSelect

/-!
# Is this relay responsible?

The directory side: a relay that stores descriptors asks, for each of the three time periods
around its own, whether it is among the directories the descriptor is uploaded to.  It does so
with the shared random values of the consensus; without any, with the disaster value of its own
period, for all three.
-/

namespace GoTor.Relay

open GoTor.Lib GoTor.Onion
open List hiding Vector

structure HsDirRingSnapshot where
  dirs : List HSDirectory
  srvCurrent : Bytes
  srvPrev : Bytes
  nReplicas : ℤ
  spreadStore : ℤ

/-- What the store needs to know of the relay and the consensus. -/
structure HsDirStanding where
  selfID : Bytes := []
  ring : Option HsDirRingSnapshot := none

namespace HsDirStanding

def setIdentity (s : HsDirStanding) (id : Bytes) : HsDirStanding :=
  { s with selfID := if id.length ≠ 32 then [] else id }

def keepSRV (srv : Bytes) : Bytes := if srv.length = 32 then srv else []

def snapshot (view : HSDirView) : HsDirRingSnapshot where
  dirs := view.hsdirs
  srvCurrent := keepSRV view.sharedRandCurrent
  srvPrev := keepSRV view.sharedRandPrev
  nReplicas := view.ringParams.withDefaults.nReplicas
  spreadStore := view.ringParams.withDefaults.spreadStore

def setRing (s : HsDirStanding) (view : HSDirView) : HsDirStanding :=
  { s with ring := some (snapshot view) }

variable (sha3 : Bytes → Vector UInt8 32)

def periodsAround (period : ℕ) : List ℕ :=
  [period, period + 1] ++ if period > 0 then [period - 1] else []

def srvsOf (ring : HsDirRingSnapshot) (period : ℕ) : List Bytes :=
  let srvs := (if ring.srvCurrent.length = 32 then [ring.srvCurrent] else []) ++
    if ring.srvPrev.length = 32 then [ring.srvPrev] else []
  if srvs = [] then [disasterSRV sha3 period] else srvs

def responsible (s : HsDirStanding) (now : ℤ) (blinded : Bytes) : Bool :=
  match s.ring with
  | none => true
  | some ring =>
    if s.selfID.length ≠ 32 || ring.dirs.isEmpty then true
    else
      let period := getTimePeriod now
      (periodsAround period).any fun p => (srvsOf sha3 ring period).any fun srv =>
        isResponsibleHSDir sha3 s.selfID blinded ring.dirs srv p ring.nReplicas ring.spreadStore

end HsDirStanding

/-- The relay a directory entry stands for, with a consensus. -/
def standingOf (d : HSDirectory) (view : HSDirView) : HsDirStanding :=
  (HsDirStanding.setIdentity {} d.ed25519Identity).setRing view

/-! ### What the service uploads, the relay takes -/

variable {p : ℕ} {srv : Bytes}

open HsDirStanding

section Agreement

variable {sha3 : Bytes → Vector UInt8 32} {view : HSDirView} {blinded : Bytes} {d : HSDirectory} {now now' : ℤ}

/-- The time periods of two times are the same or adjacent. -/
def AdjacentPeriods (now now' : ℤ) : Prop :=
  getTimePeriod now ≤ getTimePeriod now' + 1 ∧ getTimePeriod now' ≤ getTimePeriod now + 1

lemma mem_periodsAround {p' : ℕ} (h : p ≤ p' + 1) (h' : p' ≤ p + 1) : p ∈ periodsAround p' := by
  simp only [periodsAround, mem_append, mem_cons]
  by_cases hz : p' > 0
  · simp only [hz, if_true, mem_cons]
    omega
  · simp only [hz]
    omega

lemma responsible_of_no_identity (h : d.ed25519Identity = []) :
    (standingOf d view).responsible sha3 now blinded = true := by
  simp [standingOf, responsible, setRing, setIdentity, h]

lemma responsible_standingOf (hid : d.ed25519Identity.length = 32) (hdirs : view.hsdirs ≠ [])
    (now : ℤ) : (standingOf d view).responsible sha3 now blinded = (periodsAround (getTimePeriod now)).any fun p =>
        (srvsOf sha3 (snapshot view) (getTimePeriod now)).any fun srv =>
          isResponsibleHSDir sha3 d.ed25519Identity blinded view.hsdirs srv p
            view.ringParams.withDefaults.nReplicas view.ringParams.withDefaults.spreadStore := by
  have hself : (setIdentity {} d.ed25519Identity).selfID = d.ed25519Identity :=
    if_neg (by simpa using hid)
  have hguard : (decide (d.ed25519Identity.length ≠ 32) || view.hsdirs.isEmpty) = false := by
    simp [hid, hdirs]
  simp only [standingOf, responsible, setRing, hself, snapshot, hguard]
  rfl

lemma responsible_of_chosen (hb : blinded.length = 32) (hp : p ∈ periodsAround (getTimePeriod now))
    (hsrv : srv ∈ srvsOf sha3 (snapshot view) (getTimePeriod now))
    (hd : d ∈ selectResponsibleHSDirsStore sha3 blinded view.hsdirs srv p
      view.ringParams.withDefaults.nReplicas view.ringParams.withDefaults.spreadStore) :
    (standingOf d view).responsible sha3 now blinded = true := by
  by_cases hid : d.ed25519Identity = []
  · exact responsible_of_no_identity hid
  have hlen := length_ed25519Identity hid
  have hself : isResponsibleHSDir sha3 d.ed25519Identity blinded view.hsdirs srv p
      view.ringParams.withDefaults.nReplicas view.ringParams.withDefaults.spreadStore = true := by
    simp only [isResponsibleHSDir, hlen, hb, ne_eq, not_true_eq_false, decide_false, Bool.or_self,
      Bool.false_eq_true, if_false, any_eq_true, beq_iff_eq]
    exact ⟨d, hd, rfl⟩
  have hdirs : view.hsdirs ≠ [] := by
    obtain ⟨e, he, -⟩ := mem_ring_of_select hd
    exact ne_nil_of_mem (mem_ringOf he).1
  rw [responsible_standingOf hlen hdirs]
  simp only [any_eq_true]
  exact ⟨p, hp, srv, hsrv, hself⟩

lemma mem_srvsOf (h : SrvInUse sha3 view p srv)
    (hknown : view.sharedRandCurrent.length = 32 ∨ view.sharedRandPrev.length = 32 ∨ p = getTimePeriod now) :
    srv ∈ srvsOf sha3 (snapshot view) (getTimePeriod now) := by
  simp only [srvsOf, snapshot, keepSRV]
  rcases h with ⟨rfl, hlen⟩ | ⟨rfl, hlen⟩ | ⟨rfl, hc, hp⟩
  · simp [hlen]
  · simp [hlen]
  rcases hknown with h | h | rfl
  · exact absurd h hc
  · exact absurd h hp
  · simp [hc, hp]

lemma responsible_of_upload (hb : blinded.length = 32) (hadj : AdjacentPeriods now now')
    (hknown : view.sharedRandCurrent.length = 32 ∨ view.sharedRandPrev.length = 32 ∨
      getTimePeriod now = getTimePeriod now')
    (hflag : d.hsDir = true) (hd : d ∈ uploadTargets sha3 now view blinded) :
    (standingOf d view).responsible sha3 now' blinded = true := by
  rcases mem_selectAcrossSRVs hd with ⟨srv, huse, hchosen⟩ | ⟨hnone, hmem⟩
  · exact responsible_of_chosen hb (mem_periodsAround hadj.1 hadj.2) (mem_srvsOf huse hknown) hchosen
  -- the choice by distance: no directory is on the ring, so this one has no identity
  by_cases hid : d.ed25519Identity = []
  · exact responsible_of_no_identity hid
  have hring : ringOf sha3 view.hsdirs (selectSRVForFetch sha3 now (getTimePeriod now)
      view.sharedRandCurrent view.sharedRandPrev) (getTimePeriod now) ≠ [] :=
    ringOf_ne_nil hmem hflag hid (srvInUse_selectSRVForFetch view now _).length
  obtain ⟨first, hfirst⟩ := select_head hb hring
  obtain ⟨more, hmore⟩ := hfirst _ _
    (orDefault_pos view.ringParams.withDefaults.nReplicas hsdirNReplicasDefault (by decide))
    (orDefault_pos view.ringParams.withDefaults.spreadStore hsdirSpreadStoreDefault (by decide))
  rw [selectResponsibleHSDirsStore, hmore] at hnone
  cases hnone

end Agreement

/-! ### Without shared random values -/

section Disaster

lemma slice_nodeMessage {id : Bytes} (h : id.length = 32) (srv : Bytes) (p : ℕ) :
    slice (nodeMessage id srv p) 8 40 = id := by
  simp only [slice, nodeMessage, append_assoc]
  rw [drop_left' (by decide), take_left' (by omega)]

lemma srv_of_nodeMessage {id srv' : Bytes} {p' : ℕ}
    (h : nodeMessage id srv p = nodeMessage id srv' p') (hlen : srv.length = srv'.length) :
    srv = srv' := by
  simp only [nodeMessage, append_assoc] at h
  exact append_inj_left (append_cancel_left (append_cancel_left h)) hlen

lemma disasterMessage_ne {p' : ℕ} (h : p' = p + 1 ∨ p = p' + 1) : disasterMessage p' ≠ disasterMessage p := by
  intro heq
  have hput : putUint64 p' = putUint64 p := by
    simp only [disasterMessage, append_assoc] at heq
    exact append_cancel_left (append_cancel_left heq)
  have hlast : UInt8.ofNat p' = UInt8.ofNat p := by
    have := congrArg getLast? hput
    simpa [putUint64, bytesOfNat] using this
  have hmod := congrArg UInt8.toNat hlast
  simp only [UInt8.toNat_ofNat'] at hmod
  omega

/-- A hash that puts `A` first on the ring of the disaster value of period `p`, and `B` first on
every other ring. -/
def turningHash (p : ℕ) (m : Bytes) : Vector UInt8 32 :=
  match m with
  | 110 :: _ =>
    if m = nodeMessage dirA.ed25519Identity (replicate 32 1) p then Vector.replicate 32 0
    else if slice m 8 40 = dirB.ed25519Identity then Vector.replicate 32 1
    else Vector.replicate 32 2
  | 115 :: 116 :: _ => Vector.replicate 32 0
  | _ => if m = disasterMessage p then Vector.replicate 32 1 else Vector.replicate 32 2

variable {p : ℕ}

lemma turningHash_disaster (q : ℕ) : turningHash p (disasterMessage q) =
    if disasterMessage q = disasterMessage p then Vector.replicate 32 1
    else Vector.replicate 32 2 := rfl

lemma turningHash_node (id srv : Bytes) (q : ℕ) : turningHash p (nodeMessage id srv q) =
    if nodeMessage id srv q = nodeMessage dirA.ed25519Identity (replicate 32 1) p then
      Vector.replicate 32 0
    else if slice (nodeMessage id srv q) 8 40 = dirB.ed25519Identity then Vector.replicate 32 1
    else Vector.replicate 32 2 := rfl

lemma turningHash_B (srv : Bytes) (q : ℕ) :
    turningHash p (nodeMessage dirB.ed25519Identity srv q) = Vector.replicate 32 1 := by
  have hslice := slice_nodeMessage (show dirB.ed25519Identity.length = 32 by decide) srv q
  have hne : nodeMessage dirB.ed25519Identity srv q ≠ nodeMessage dirA.ed25519Identity (replicate 32 1) p := by
    intro h
    rw [h, slice_nodeMessage (by decide)] at hslice
    exact absurd hslice (by decide)
  rw [turningHash_node, if_neg hne, if_pos hslice]

lemma turningHash_A (hlen : srv.length = 32) (hsrv : srv ≠ replicate 32 1) (q : ℕ) :
    turningHash p (nodeMessage dirA.ed25519Identity srv q) = Vector.replicate 32 2 := by
  have hslice := slice_nodeMessage (show dirA.ed25519Identity.length = 32 by decide) srv q
  have hne : nodeMessage dirA.ed25519Identity srv q ≠ nodeMessage dirA.ed25519Identity (replicate 32 1) p :=
    fun h => hsrv (srv_of_nodeMessage h (by simpa using hlen))
  rw [turningHash_node, if_neg hne, hslice, if_neg (by decide)]

lemma ringOf_two {sha3 : Bytes → Vector UInt8 32} (hlen : srv.length = 32) (q : ℕ) :
    ringOf sha3 [dirA, dirB] srv q = insertionSort HsdirRingEntry.Before
      [⟨dirA, (sha3 (nodeMessage dirA.ed25519Identity srv q)).toList⟩,
        ⟨dirB, (sha3 (nodeMessage dirB.ed25519Identity srv q)).toList⟩] := by
  have hA := @ringEntryOf_of_identity sha3 srv q dirA rfl (by decide) hlen
  have hB := @ringEntryOf_of_identity sha3 srv q dirB rfl (by decide) hlen
  rw [ringOf, filterMap_cons_some hA, filterMap_cons_some hB, filterMap_nil]

lemma chosen_own : selectResponsibleHSDirsStore (turningHash p) (replicate 32 5)
    [dirA, dirB] (replicate 32 1) p 1 1 = [dirA] := by
  have hA : turningHash p (nodeMessage dirA.ed25519Identity (replicate 32 1) p) = Vector.replicate 32 0 := by
    rw [turningHash_node, if_pos rfl]
  have hring : ringOf (turningHash p) [dirA, dirB] (replicate 32 1) p =
      [⟨dirA, replicate 32 0⟩, ⟨dirB, replicate 32 1⟩] := by
    rw [ringOf_two (by decide), hA, turningHash_B]
    decide
  simp only [selectResponsibleHSDirsStore, selectResponsibleHSDirsWith, hring]
  rfl

lemma chosen_other (q : ℕ) : selectResponsibleHSDirsStore (turningHash p) (replicate 32 5)
    [dirA, dirB] (replicate 32 2) q 1 1 = [dirB] := by
  have hring : ringOf (turningHash p) [dirA, dirB] (replicate 32 2) q =
      [⟨dirB, replicate 32 1⟩, ⟨dirA, replicate 32 2⟩] := by
    rw [ringOf_two (by decide), turningHash_A (by decide) (by decide), turningHash_B]
    decide
  rfl

lemma refused_of_disaster {now now' : ℤ} {view : HSDirView} (hadj : AdjacentPeriods now now')
    (hne : getTimePeriod now ≠ getTimePeriod now') (hdirs : view.hsdirs = [dirA, dirB])
    (hparams : view.ringParams = ⟨1, 1, 1⟩) (hcur : view.sharedRandCurrent.length ≠ 32)
    (hprev : view.sharedRandPrev.length ≠ 32) :
    dirA ∈ uploadTargets (turningHash (getTimePeriod now)) now view (replicate 32 5) ∧
    (standingOf dirA view).responsible (turningHash (getTimePeriod now)) now' (replicate 32 5) = false := by
  set p := getTimePeriod now with hp
  have hown : disasterSRV (turningHash p) p = replicate 32 1 := by
    rw [disasterSRV, turningHash_disaster, if_pos rfl]
    rfl
  have hother : disasterSRV (turningHash p) (getTimePeriod now') = replicate 32 2 := by
    rw [disasterSRV, turningHash_disaster, if_neg (disasterMessage_ne ?_)]
    · rfl
    · have := hadj.1
      have := hadj.2
      omega
  have hrp : (⟨1, 1, 1⟩ : HSDirRingParams).withDefaults = ⟨1, 1, 1⟩ := by decide
  constructor
  · -- the service
    have hsrv : selectSRVForFetch (turningHash p) now p view.sharedRandCurrent
        view.sharedRandPrev = replicate 32 1 := by
      simp [selectSRVForFetch, hcur, hprev, hown]
    have hnext : (view.other now).length ≠ 32 := by
      unfold HSDirView.other
      split
      · exact hprev
      · exact hcur
    have hsel : uploadTargets (turningHash p) now view (replicate 32 5) = [dirA] := by
      simp only [uploadTargets, selectAcrossSRVs, ← hp, hparams, hrp, hsrv, selectOn, hdirs, chosen_own, if_neg hnext]
      simp
    rw [hsel]
    exact mem_singleton_self _
  -- the directory, a period apart
  have hself : ∀ q, isResponsibleHSDir (turningHash p) dirA.ed25519Identity
      (replicate 32 5) [dirA, dirB] (replicate 32 2) q 1 1 = false := by
    intro q
    rw [isResponsibleHSDir, chosen_other]
    decide
  have hsrvs : srvsOf (turningHash p) (snapshot view) (getTimePeriod now') = [replicate 32 2] := by
    simp [srvsOf, snapshot, keepSRV, hcur, hprev, hother]
  rw [responsible_standingOf (by decide) (by simp [hdirs]), hsrvs, hdirs, hparams, hrp]
  simp only [any_cons, hself]
  simp

end Disaster

/-! ### The exact condition -/

/-- Every directory a service uploads to at `now` answers at `now'` that it is responsible,
whatever the hash, the ring and its parameters and the blinded key. -/
def UploadsTaken (current prev : Bytes) (now now' : ℤ) : Prop :=
  ∀ (sha3 : Bytes → Vector UInt8 32) (hsdirs : List HSDirectory) (ringParams : HSDirRingParams)
    (blinded : Bytes) (d : HSDirectory), blinded.length = 32 → d.hsDir = true →
    d ∈ uploadTargets sha3 now ⟨hsdirs, current, prev, ringParams⟩ blinded →
    (standingOf d ⟨hsdirs, current, prev, ringParams⟩).responsible sha3 now' blinded = true

/-- **Every upload is taken**, in the same or an adjacent period, if and only if there is a shared
random value or the period is the same. -/
theorem uploads_taken_iff (current prev : Bytes) {now now' : ℤ} (hadj : AdjacentPeriods now now') :
    UploadsTaken current prev now now' ↔
      current.length = 32 ∨ prev.length = 32 ∨ getTimePeriod now = getTimePeriod now' := by
  constructor
  · intro h
    by_contra hnone
    simp only [not_or] at hnone
    obtain ⟨hcur, hprev, hne⟩ := hnone
    obtain ⟨hup, hrefused⟩ := @refused_of_disaster now now'
      ⟨[dirA, dirB], current, prev, ⟨1, 1, 1⟩⟩ hadj hne rfl rfl hcur hprev
    have := h _ _ _ _ dirA (by decide) rfl hup
    rw [hrefused] at this
    cases this
  · intro hknown sha3 hsdirs ringParams blinded d hb hflag hd
    exact responsible_of_upload hb hadj hknown hflag hd

/-! ### One minute before noon, and one after -/

def beforeNoon : ℤ := 1794743940
def afterNoon : ℤ := 1794744060

/-- The ring of `A` and `B`, with no shared random value. -/
def bareView : HSDirView where
  hsdirs := [dirA, dirB]
  ringParams := ⟨1, 1, 1⟩

def bareKey : Bytes := replicate 32 3
def bareSRV : Bytes :=
  bytesOfNat 32 0x7b9e55c85f264489c54601bb14c3971ad7fc01f97f111f19f911b0438b1f207b
def nextSRV : Bytes :=
  bytesOfNat 32 0x6af0eda3c5c719ae0cb5d36027b2dc90eeee26446c014ee1e684df143bda39a8

/-- The SHA3-256 digests of the ring around the change from period 20771 to period 20772. -/
def bareHash : Bytes → Vector UInt8 32 := digestOf
  [(disasterMessage 20771, 0x7b9e55c85f264489c54601bb14c3971ad7fc01f97f111f19f911b0438b1f207b),
    (disasterMessage 20772, 0x6af0eda3c5c719ae0cb5d36027b2dc90eeee26446c014ee1e684df143bda39a8),
    (nodeMessage dirA.ed25519Identity bareSRV 20771,
      0xbeffeb838e4051ecf012d4f48ccbf1d59d1b984ae17799a32b0bfbb0fd88a424),
    (nodeMessage dirB.ed25519Identity bareSRV 20771,
      0x41be24cac0d6ed6143ca71be3144845f1668628fd5d5cba98fb515ac07ac3d07),
    (nodeMessage dirA.ed25519Identity nextSRV 20771,
      0xb9cef09d7f0bf6b9684713eaf78e80a5e42adf5004d6afa43cf4ff2848a8c99f),
    (nodeMessage dirB.ed25519Identity nextSRV 20771,
      0x706ff533ff865dfdba6aca4c90cd4e4eb1ee1680c4c16bf7db4f5bc0485269d7),
    (nodeMessage dirA.ed25519Identity nextSRV 20772,
      0x14b27724aa64c36b9513db29c0e87005dfc1feecb15d691872bfa04eb01290c3),
    (nodeMessage dirB.ed25519Identity nextSRV 20772,
      0x09e2f55c9f17ed3218b6575d146abb34b43ddca72374f1e24e42f504661a02cd),
    (nodeMessage dirA.ed25519Identity nextSRV 20773,
      0x3a9adf2e431e88adff00144b0866569303cf137a95a98ce9051e75d9bd71ee02),
    (nodeMessage dirB.ed25519Identity nextSRV 20773,
      0x0f69c723ce2a443ba0b0d64e56ca6e8a8d4e8e8971f1d47999410a7db2448676),
    (storeMessage bareKey 1 20771,
      0x45603b6d38c107b423fd07cbb786980efd50e2cfdc6fe8c4bbad571ad26f7586),
    (storeMessage bareKey 1 20772,
      0x8404cc62d51ee5ce3a25be35d2ac1cd34fe8b563a226ca71fee7a2e43029b9a9),
    (storeMessage bareKey 1 20773,
      0xd9bea9b8291e8b8ed3287ea9e5053c8e6391a0c85bd3fcf08a92c907f7ee3c2a)]

/-- Before noon the service uploads to `A`; after noon `A` answers that it is not responsible. -/
theorem upload_refused : AdjacentPeriods beforeNoon afterNoon ∧ dirA.hsDir = true ∧
    dirA ∈ uploadTargets bareHash beforeNoon bareView bareKey ∧
    (standingOf dirA bareView).responsible bareHash afterNoon bareKey = false := by
  refine ⟨⟨by decide, by decide⟩, rfl, ?_, ?_⟩
  · decide +kernel
  · decide +kernel

/-- With a shared random value there is no such refusal across noon. -/
theorem uploads_taken_across_noon : UploadsTaken (replicate 32 9) [] beforeNoon afterNoon :=
  (@uploads_taken_iff (replicate 32 9) [] beforeNoon afterNoon ⟨by decide, by decide⟩).2 (.inl (by decide))

end GoTor.Relay
