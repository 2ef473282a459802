import GoTor.Onion.HsdirIndex
import Mathlib.Data.Vector.Defs

/-!
# Which directories are responsible

Along the sorted ring, each replica in turn takes the first directories clockwise from its index
that no replica before it took.  So a wider spread chooses every directory a narrower one does,
and the order of the input list plays no part.
-/

namespace GoTor.Onion

open GoTor.Lib Std.OrientedCmp Std.LawfulEqCmp HsdirRingEntry
open List hiding Vector

/-! ### The order of the ring -/

lemma compareBytes_eq_compare (a b : Bytes) : compareBytes a b = compare a b := by
  induction a generalizing b with
  | nil => cases b <;> rfl
  | cons x a ih =>
    cases b with
    | nil => rfl
    | cons y b =>
      have hxy : compare x y = if x < y then .lt else if x = y then .eq else .gt := rfl
      rw [List.compare_cons_cons, ← ih b, hxy, compareBytes]
      by_cases hlt : x < y
      · rw [if_pos hlt, if_pos hlt]
        rfl
      by_cases heq : x = y
      · subst heq
        simp
      · have hgt : y < x := by
          rw [UInt8.lt_iff_toNat_lt] at hlt ⊢
          have : x.toNat ≠ y.toNat := fun h => heq (UInt8.toNat_inj.1 h)
          omega
        rw [if_neg hlt, if_neg hlt, if_neg heq, if_pos hgt]
        rfl

namespace HsdirRingEntry

variable {a b : HsdirRingEntry}

lemma before_iff : a.Before b ↔ (compare a.index b.index).isLE = true := by
  rw [Before, compareBytes_eq_compare]

instance : IsTrans HsdirRingEntry Before where
  trans a b c hab hbc := by
    rw [before_iff] at hab hbc ⊢
    exact Std.TransCmp.isLE_trans hab hbc

instance : Std.Total Before where
  total a b := by
    rw [before_iff, before_iff, ← isGE_iff_isLE (a := a.index)]
    rcases compare a.index b.index with _ | _ | _
    · exact .inl rfl
    · exact .inl rfl
    · exact .inr rfl

lemma index_eq_of_before (hab : a.Before b) (hba : b.Before a) : a.index = b.index := by
  rw [before_iff] at hab hba
  exact eq_of_compare (isLE_antisymm hab hba)

end HsdirRingEntry

/-! ### The sorted ring -/

section Ring

variable {sha3 : Bytes → Vector UInt8 32} {hsdirs : List HSDirectory} {srv : Bytes} {periodNum : ℕ}
  {d : HSDirectory} {e : HsdirRingEntry}

lemma ringEntryOf_eq_some (h : ringEntryOf sha3 srv periodNum d = some e) :
    e.dir = d ∧ d.ed25519Identity.length = 32 ∧
      e.index = (sha3 (nodeMessage d.ed25519Identity srv periodNum)).toList := by
  unfold ringEntryOf buildHSDirIndex at h
  by_cases hflag : d.hsDir = true
  · by_cases hid : d.ed25519Identity.length = 32
    · by_cases hsrv : srv.length = 32
      · simp only [hflag, hid, hsrv] at h
        cases h
        exact ⟨rfl, hid, rfl⟩
      · simp [hid, hsrv] at h
    · simp [hid] at h
  · simp [hflag] at h

lemma ringEntryOf_of_identity (hflag : d.hsDir = true)
    (hid : d.ed25519Identity.length = 32) (hsrv : srv.length = 32) :
    ringEntryOf sha3 srv periodNum d =
      some ⟨d, (sha3 (nodeMessage d.ed25519Identity srv periodNum)).toList⟩ := by
  simp [ringEntryOf, buildHSDirIndex, hflag, hid, hsrv]

lemma ringOf_perm :
    (ringOf sha3 hsdirs srv periodNum).Perm (hsdirs.filterMap (ringEntryOf sha3 srv periodNum)) :=
  perm_insertionSort ..

lemma ringOf_pairwise (sha3 : Bytes → Vector UInt8 32) (hsdirs : List HSDirectory) (srv : Bytes)
    (periodNum : ℕ) : (ringOf sha3 hsdirs srv periodNum).Pairwise HsdirRingEntry.Before :=
  pairwise_insertionSort ..

/-- The directories of a list are told apart by their fingerprints, which are hexadecimal text,
and by their identities, as far as they have one. -/
structure Distinct (hsdirs : List HSDirectory) : Prop where
  fingerprints : (hsdirs.map (·.fingerprint)).Nodup
  hexadecimal : ∀ d ∈ hsdirs, 58 ∉ d.fingerprint
  identities : ∀ d ∈ hsdirs, ∀ d' ∈ hsdirs, d.ed25519Identity ≠ [] → d.ed25519Identity = d'.ed25519Identity → d = d'

/-- The hash has no collision on the directories of a list. -/
def CollisionFree (sha3 : Bytes → Vector UInt8 32) (hsdirs : List HSDirectory) (srv : Bytes) (periodNum : ℕ) : Prop :=
  Set.InjOn sha3 {m | ∃ d ∈ hsdirs, m = nodeMessage d.ed25519Identity srv periodNum}

variable {hsdirs' : List HSDirectory}

lemma Distinct.perm (h : Distinct hsdirs) (hp : hsdirs.Perm hsdirs') : Distinct hsdirs' where
  fingerprints := (hp.map _).nodup h.fingerprints
  hexadecimal d hd := h.hexadecimal d (hp.mem_iff.2 hd)
  identities d hd d' hd' := h.identities d (hp.mem_iff.2 hd) d' (hp.mem_iff.2 hd')

open HSDirectory

lemma Distinct.eq_of_key (h : Distinct hsdirs) {d' : HSDirectory} (hd : d ∈ hsdirs)
    (hd' : d' ∈ hsdirs) (hkey : d.key = d'.key) : d = d' := by
  have hinj := inj_on_of_nodup_map h.fingerprints hd hd'
  have hcolon : ∀ x : HSDirectory, x.fingerprint = [] → (58 : UInt8) ∈ x.key := by
    intro x hx
    rw [key, if_pos hx]
    simp
  by_cases hf : d.fingerprint = []
  · by_cases hf' : d'.fingerprint = []
    · exact hinj (hf.trans hf'.symm)
    -- the key of `d` has a colon, the fingerprint of `d'` does not
    have := hcolon d hf
    rw [hkey, key, if_neg hf'] at this
    exact absurd this (h.hexadecimal d' hd')
  · by_cases hf' : d'.fingerprint = []
    · have := hcolon d' hf'
      rw [← hkey, key, if_neg hf] at this
      exact absurd this (h.hexadecimal d hd)
    · rw [key, key, if_neg hf, if_neg hf'] at hkey
      exact hinj hkey

lemma mem_ringOf (he : e ∈ ringOf sha3 hsdirs srv periodNum) :
    e.dir ∈ hsdirs ∧ ringEntryOf sha3 srv periodNum e.dir = some e := by
  rw [(ringOf_perm ..).mem_iff, mem_filterMap] at he
  obtain ⟨d, hd, hentry⟩ := he
  obtain rfl := (ringEntryOf_eq_some hentry).1
  exact ⟨hd, hentry⟩

lemma length_ed25519Identity (h : d.ed25519Identity ≠ []) : d.ed25519Identity.length = 32 := by
  unfold ed25519Identity at h ⊢
  split at h
  · exact absurd rfl h
  · split at h
    · next hlen => rw [if_pos hlen, hlen]
    · exact absurd rfl h

lemma ringOf_ne_nil (hd : d ∈ hsdirs) (hflag : d.hsDir = true)
    (hid : d.ed25519Identity ≠ []) (hsrv : srv.length = 32) :
    ringOf sha3 hsdirs srv periodNum ≠ [] := by
  intro hnil
  have hmem : (⟨d, (sha3 (nodeMessage d.ed25519Identity srv periodNum)).toList⟩ :
      HsdirRingEntry) ∈ ringOf sha3 hsdirs srv periodNum := by
    rw [(ringOf_perm ..).mem_iff, mem_filterMap]
    exact ⟨d, hd, ringEntryOf_of_identity hflag (length_ed25519Identity hid) hsrv⟩
  rw [hnil] at hmem
  cases hmem

lemma identity_of_ringOf (he : e ∈ ringOf sha3 hsdirs srv periodNum) :
    e.dir.hsDir = true ∧ e.dir.ed25519Identity ≠ [] := by
  have hentry := (mem_ringOf he).2
  refine ⟨?_, ?_⟩
  · by_contra hflag
    simp [ringEntryOf, hflag] at hentry
  · exact ne_nil_of_length_eq_add_one (ringEntryOf_eq_some hentry).2.1

variable (hdist : Distinct hsdirs)
include hdist

lemma eq_of_index (hfree : CollisionFree sha3 hsdirs srv periodNum) {e' : HsdirRingEntry}
    (he : e ∈ ringOf sha3 hsdirs srv periodNum) (he' : e' ∈ ringOf sha3 hsdirs srv periodNum)
    (hindex : e.index = e'.index) : e = e' := by
  obtain ⟨hd, hentry⟩ := mem_ringOf he
  obtain ⟨hd', hentry'⟩ := mem_ringOf he'
  obtain ⟨-, hlen, hidx⟩ := ringEntryOf_eq_some hentry
  obtain ⟨-, -, hidx'⟩ := ringEntryOf_eq_some hentry'
  have hhash := hfree ⟨_, hd, rfl⟩ ⟨_, hd', rfl⟩
    (Vector.toList_inj.1 (hidx.symm.trans (hindex.trans hidx')))
  have hid : e.dir.ed25519Identity = e'.dir.ed25519Identity := by
    simp only [nodeMessage, append_assoc] at hhash
    exact append_inj_left' (append_cancel_left hhash) rfl
  have hne : e.dir.ed25519Identity ≠ [] := by
    intro h0
    simp [h0] at hlen
  have hdir := hdist.identities _ hd _ hd' hne hid
  rw [hdir, hentry'] at hentry
  exact (Option.some.inj hentry).symm

lemma ringOf_eq_of_perm (hfree : CollisionFree sha3 hsdirs srv periodNum) (hp : hsdirs.Perm hsdirs') :
    ringOf sha3 hsdirs' srv periodNum = ringOf sha3 hsdirs srv periodNum := by
  have hperm : (ringOf sha3 hsdirs' srv periodNum).Perm (ringOf sha3 hsdirs srv periodNum) :=
    (ringOf_perm ..).trans ((hp.symm.filterMap _).trans (ringOf_perm ..).symm)
  refine List.Perm.eq_of_pairwise ?_ (ringOf_pairwise ..) (ringOf_pairwise ..) hperm
  intro e e' he he' hle hge
  exact eq_of_index hdist hfree (hperm.mem_iff.1 he) he' (index_eq_of_before hle hge)

lemma nodup_ringOf : ((ringOf sha3 hsdirs srv periodNum).map (·.dir)).Nodup := by
  rw [((ringOf_perm ..).map _).nodup_iff, map_filterMap]
  refine hdist.fingerprints.of_map.filterMap ?_
  intro d d' b hb hb'
  rw [Option.mem_def, Option.map_eq_some_iff] at hb hb'
  obtain ⟨e, he, rfl⟩ := hb
  obtain ⟨e', he', hdir⟩ := hb'
  exact (ringEntryOf_eq_some he).1.symm.trans (hdir.symm.trans (ringEntryOf_eq_some he').1)

lemma ringOf_strict (hfree : CollisionFree sha3 hsdirs srv periodNum) : (ringOf sha3 hsdirs srv periodNum).Pairwise
      (fun e e' => compareBytes e.index e'.index = .lt) := by
  have hnodup : (ringOf sha3 hsdirs srv periodNum).Nodup := (nodup_ringOf hdist).of_map
  have hsorted := (ringOf_pairwise sha3 hsdirs srv periodNum).and hnodup
  refine hsorted.imp_of_mem ?_
  rintro e e' he he' ⟨hle, hne⟩
  rcases hc : compareBytes e.index e'.index with _ | _ | _
  · rfl
  · rw [compareBytes_eq_compare] at hc
    exact absurd (eq_of_index hdist hfree he he' (eq_of_compare hc)) hne
  · rw [HsdirRingEntry.Before, hc] at hle
    cases hle

end Ring

/-! ### The scan for one replica -/

variable {spread : ℕ} {s : Selection}

section Scan

/-- The scan for one replica, over the directories in the order they are visited. -/
def scan (spread : ℕ) : (dirs : List HSDirectory) → (added : ℕ) → Selection → Selection
  | [], _, s => s
  | d :: dirs, added, s =>
    if added < spread then
      if d.key ∈ s.seen then scan spread dirs added s
      else scan spread dirs (added + 1) { seen := d.key :: s.seen, out := s.out ++ [d] }
    else s

@[simp] lemma scan_of_full {added : ℕ} (h : spread ≤ added) (dirs : List HSDirectory)
    (s : Selection) : scan spread dirs added s = s := by
  cases dirs with
  | nil => rfl
  | cons d dirs => exact if_neg (by omega)

variable {ring : List HsdirRingEntry}

lemma selectFrom_eq_scan {start : ℕ} (hs : start < ring.length) {fuel i : ℕ}
    (hi : i < ring.length) (hfuel : (restOf ring start i).length ≤ fuel) (added : ℕ)
    (s : Selection) :
    selectFrom ring spread start fuel i added s =
      scan spread ((restOf ring start i).map (·.dir)) added s := by
  induction fuel generalizing i added s with
  | zero =>
    rw [restOf_eq_cons hs (getElem?_eq_getElem hi)] at hfuel
    simp at hfuel
  | succ fuel ih =>
    have hrest := restOf_eq_cons hs (getElem?_eq_getElem hi)
    unfold selectFrom
    by_cases hadd : added < spread
    · rw [if_pos hadd, getElem?_eq_getElem hi]
      rw [hrest] at hfuel ⊢
      rw [map_cons, scan, if_pos hadd]
      by_cases hback : nextPos ring.length i = start
      · by_cases hseen : ring[i].dir.key ∈ s.seen <;> simp [hback, scan]
      rw [if_neg hback] at hfuel ⊢
      have hnext : nextPos ring.length i < ring.length := by
        unfold nextPos
        split <;> omega
      have hlen : (restOf ring start (nextPos ring.length i)).length ≤ fuel := by
        simpa using hfuel
      by_cases hseen : ring[i].dir.key ∈ s.seen
      · simp only [hseen, if_neg hback]
        exact ih hnext hlen _ _
      · simp only [hseen, if_neg hback]
        exact ih hnext hlen _ _
    · rw [if_neg hadd, scan_of_full (by omega)]

lemma selectFrom_start {start : ℕ} (hs : start < ring.length) (s : Selection) :
    selectFrom ring spread start ring.length start 0 s = scan spread ((walkFrom ring start).map (·.dir)) 0 s := by
  rw [selectFrom_eq_scan hs hs, restOf_start]
  rw [restOf_start, length_walkFrom]

def Selection.Ok (s : Selection) : Prop := s.seen = (s.out.map (·.key)).reverse

lemma Selection.Ok.mem_seen (h : s.Ok) {k : Bytes} : k ∈ s.seen ↔ ∃ d ∈ s.out, d.key = k := by
  rw [h, mem_reverse, mem_map]

lemma scan_ok (dirs : List HSDirectory) (added : ℕ) (h : s.Ok) : (scan spread dirs added s).Ok := by
  induction dirs generalizing added s with
  | nil => exact h
  | cons d dirs ih =>
    unfold scan
    split
    · split
      · exact ih added h
      · refine ih (added + 1) ?_
        simp [Selection.Ok, show s.seen = _ from h]
    · exact h

lemma scan_out {added : ℕ} {dirs : List HSDirectory} (hok : s.Ok)
    (hnodup : dirs.Nodup) (hkey : ∀ d ∈ dirs, ∀ d' ∈ s.out ++ dirs, d.key = d'.key → d = d') :
    (scan spread dirs added s).out =
      s.out ++ (dirs.filter (· ∉ s.out)).take (spread - added) := by
  induction dirs generalizing added s with
  | nil => simp [scan]
  | cons d dirs ih =>
    rw [nodup_cons] at hnodup
    by_cases hadd : added < spread
    · have hseen : d.key ∈ s.seen ↔ d ∈ s.out := by
        rw [hok.mem_seen]
        constructor
        · rintro ⟨d', hd', hk⟩
          have := hkey d mem_cons_self d' (mem_append_left _ hd') hk.symm
          rwa [this]
        · intro hd
          exact ⟨d, hd, rfl⟩
      unfold scan
      rw [if_pos hadd]
      by_cases hd : d ∈ s.out
      · rw [if_pos (hseen.2 hd), filter_cons_of_neg (by simpa using hd)]
        refine ih hok hnodup.2 fun x hx y hy => hkey x (mem_cons_of_mem _ hx) y ?_
        rw [mem_append] at hy ⊢
        exact hy.imp id (mem_cons_of_mem _)
      rw [if_neg (fun h => hd (hseen.1 h)), filter_cons_of_pos (by simpa using hd)]
      obtain ⟨room, hroom⟩ : ∃ room, spread - added = room + 1 := ⟨spread - added - 1, by omega⟩
      rw [hroom, take_succ_cons, show room = spread - (added + 1) by omega]
      rw [ih (by simp [Selection.Ok, show s.seen = _ from hok]) hnodup.2]
      · -- `d` does not come up again, so the rest is filtered as before
        have hfilter : dirs.filter (· ∉ s.out ++ [d]) = dirs.filter (· ∉ s.out) := by
          refine filter_congr fun x hx => ?_
          have : x ≠ d := fun h => hnodup.1 (h ▸ hx)
          simp [this]
        rw [hfilter, append_assoc, singleton_append]
      · intro x hx y hy
        refine hkey x (mem_cons_of_mem _ hx) y ?_
        simp only [mem_append, mem_cons, not_mem_nil, or_false] at hy ⊢
        rcases hy with (hy | hy) | hy
        · exact .inl hy
        · exact .inr (.inl hy)
        · exact .inr (.inr hy)
    · rw [scan_of_full (by omega), show spread - added = 0 by omega]
      simp

lemma scan_append (spread : ℕ) (dirs : List HSDirectory) (added : ℕ) (s : Selection) :
    ∃ more, (scan spread dirs added s).out = s.out ++ more ∧ ∀ d ∈ more, d ∈ dirs := by
  induction dirs generalizing added s with
  | nil => exact ⟨[], by simp [scan], by simp⟩
  | cons d dirs ih =>
    unfold scan
    split
    · split
      · obtain ⟨more, hout, hmore⟩ := ih added s
        exact ⟨more, hout, fun x hx => mem_cons_of_mem _ (hmore x hx)⟩
      · obtain ⟨more, hout, hmore⟩ :=
          ih (added + 1) { seen := d.key :: s.seen, out := s.out ++ [d] }
        refine ⟨d :: more, by rw [hout, append_assoc, singleton_append], ?_⟩
        intro x hx
        rcases mem_cons.1 hx with rfl | hx
        · exact mem_cons_self
        · exact mem_cons_of_mem _ (hmore x hx)
    · exact ⟨[], by simp, by simp⟩

end Scan

/-! ### All replicas -/

section Choice

/-- The directories of a ring clockwise from an index. -/
def clockwise (ring : List HsdirRingEntry) (hsIdx : Bytes) : List HSDirectory :=
  (ring.filter (fun e => (compareBytes e.index hsIdx).isGE) ++
    ring.filter (fun e => (compareBytes e.index hsIdx).isLT)).map (·.dir)

/-- For each replica in turn, the first `spread` directories clockwise from its index that are
not chosen yet. -/
def chosenOn (sha3 : Bytes → Vector UInt8 32) (blindedPubkey : Bytes)
    (ring : List HsdirRingEntry) (periodNum nReplicas spread : ℕ) : List HSDirectory :=
  pickAlong spread ((range' 1 nReplicas).map fun replica =>
    clockwise ring (sha3 (storeMessage blindedPubkey replica periodNum)).toList) []

variable {sha3 : Bytes → Vector UInt8 32} {hsdirs : List HSDirectory} {blindedPubkey srv : Bytes}
  {periodNum : ℕ} {ring : List HsdirRingEntry}

lemma startOf_lt (hne : ring ≠ []) (hsIdx : Bytes) : startOf ring hsIdx < ring.length := by
  have hpos := length_pos_iff.2 hne
  have hle : ring.findIdx (fun e => (compareBytes e.index hsIdx).isGE) ≤ ring.length :=
    findIdx_le_length
  simp only [startOf]
  split <;> omega

lemma walkFrom_startOf (hsorted : ring.Pairwise HsdirRingEntry.Before) (hsIdx : Bytes) :
    (walkFrom ring (startOf ring hsIdx)).map (·.dir) = clockwise ring hsIdx := by
  have hstart : walkFrom ring (startOf ring hsIdx) =
      walkFrom ring (ring.findIdx fun e => (compareBytes e.index hsIdx).isGE) := by
    simp only [startOf]
    split
    · next h => rw [h, walkFrom_length]
    · rfl
  rw [hstart, walkFrom_findIdx, clockwise]
  · simp only [Ordering.not_isGE_eq_isLT]
  -- what comes after an entry at or past the index is so too
  refine hsorted.imp fun {e e'} hle hge => ?_
  rw [before_iff] at hle
  rw [compareBytes_eq_compare] at hge ⊢
  exact Std.TransCmp.isGE_trans (isGE_of_isLE hle) hge

lemma foldl_selectReplica_append (hne : ring ≠ []) (spread : ℕ) (replicas : List ℕ) (s : Selection) :
    ∃ more, (replicas.foldl (selectReplica sha3 blindedPubkey ring periodNum spread) s).out =
      s.out ++ more ∧ ∀ d ∈ more, ∃ e ∈ ring, e.dir = d := by
  induction replicas generalizing s with
  | nil => exact ⟨[], by simp, by simp⟩
  | cons r replicas ih =>
    have hstep : ∃ more, (selectReplica sha3 blindedPubkey ring periodNum spread s r).out =
        s.out ++ more ∧ ∀ d ∈ more, ∃ e ∈ ring, e.dir = d := by
      unfold selectReplica
      split
      · exact ⟨[], by simp, by simp⟩
      next hsIdx hindex =>
      rw [selectFrom_start (startOf_lt hne hsIdx)]
      obtain ⟨more, hout, hmore⟩ := scan_append spread ((walkFrom ring (startOf ring hsIdx)).map (·.dir)) 0 s
      refine ⟨more, hout, fun d hd => ?_⟩
      obtain ⟨e, he, rfl⟩ := mem_map.1 (hmore d hd)
      exact ⟨e, mem_walkFrom.1 he, rfl⟩
    obtain ⟨more, hout, hmore⟩ := hstep
    obtain ⟨more', hout', hmore'⟩ :=
      ih (selectReplica sha3 blindedPubkey ring periodNum spread s r)
    refine ⟨more ++ more', by rw [foldl_cons, hout', hout, append_assoc], ?_⟩
    intro d hd
    rcases mem_append.1 hd with hd | hd
    · exact hmore d hd
    · exact hmore' d hd

lemma mem_ring_of_select {nReplicas : ℕ} {d : HSDirectory}
    (h : d ∈ selectResponsibleHSDirsWith sha3 blindedPubkey hsdirs srv periodNum nReplicas spread) :
    ∃ e ∈ ringOf sha3 hsdirs srv periodNum, e.dir = d := by
  simp only [selectResponsibleHSDirsWith] at h
  split at h
  · cases h
  next hne =>
  obtain ⟨more, hout, hmore⟩ := foldl_selectReplica_append hne spread (range' 1 nReplicas) {}
  rw [hout] at h
  exact hmore d (by simpa using h)

variable (hb : blindedPubkey.length = 32)
include hb

/-- The first choice does not depend on the counts: it is the first directory clockwise from the
index of the first replica. -/
lemma select_head (hne : ringOf sha3 hsdirs srv periodNum ≠ []) :
    ∃ d, ∀ nReplicas spread, 0 < nReplicas → 0 < spread →
      ∃ more, selectResponsibleHSDirsWith sha3 blindedPubkey hsdirs srv periodNum nReplicas spread = d :: more := by
  set ring := ringOf sha3 hsdirs srv periodNum with hring
  set hsIdx := (sha3 (storeMessage blindedPubkey 1 periodNum)).toList with hhsIdx
  have hindex : buildHSIndex sha3 blindedPubkey 1 periodNum = .ok hsIdx := by
    rw [buildHSIndex, if_neg (by simpa using hb), if_neg (by omega)]
  obtain ⟨e, walk, hwalk⟩ : ∃ e walk, walkFrom ring (startOf ring hsIdx) = e :: walk := by
    refine exists_cons_of_ne_nil fun h => hne ?_
    have := length_walkFrom ring (startOf ring hsIdx)
    rw [h] at this
    exact length_eq_zero_iff.1 this.symm
  refine ⟨e.dir, ?_⟩
  intro nReplicas spread hn hk
  obtain ⟨n, rfl⟩ : ∃ n, nReplicas = n + 1 := ⟨nReplicas - 1, by omega⟩
  have hfirst : selectReplica sha3 blindedPubkey ring periodNum spread {} 1 =
      scan spread (walk.map (·.dir)) 1 { seen := [e.dir.key], out := [e.dir] } := by
    rw [selectReplica, hindex]
    show selectFrom ring spread (startOf ring hsIdx) ring.length (startOf ring hsIdx) 0 {} = _
    rw [selectFrom_start (startOf_lt hne hsIdx), hwalk, map_cons, scan, if_pos hk]
    rfl
  simp only [selectResponsibleHSDirsWith, ← hring, if_neg hne]
  rw [range'_succ, foldl_cons, hfirst]
  obtain ⟨more, hout, -⟩ := foldl_selectReplica_append hne spread (range' (1 + 1) n)
    (scan spread (walk.map (·.dir)) 1 { seen := [e.dir.key], out := [e.dir] })
  obtain ⟨more', hout', -⟩ := scan_append spread (walk.map (·.dir)) 1 { seen := [e.dir.key], out := [e.dir] }
  rw [hout, hout']
  exact ⟨more' ++ more, by simp⟩

lemma foldl_selectReplica (hne : ring ≠ []) (hsorted : ring.Pairwise HsdirRingEntry.Before)
    (hnodup : (ring.map (·.dir)).Nodup)
    (hkey : ∀ e ∈ ring, ∀ e' ∈ ring, e.dir.key = e'.dir.key → e.dir = e'.dir) {replicas : List ℕ}
    (hpos : ∀ r ∈ replicas, r ≠ 0) (hok : s.Ok) (hout : ∀ d ∈ s.out, ∃ e ∈ ring, e.dir = d) :
    (replicas.foldl (selectReplica sha3 blindedPubkey ring periodNum spread) s).out =
      pickAlong spread (replicas.map fun replica =>
        clockwise ring (sha3 (storeMessage blindedPubkey replica periodNum)).toList) s.out := by
  induction replicas generalizing s with
  | nil => rfl
  | cons r replicas ih =>
    set hsIdx := (sha3 (storeMessage blindedPubkey r periodNum)).toList with hhsIdx
    -- the walk of one replica
    have hstep : selectReplica sha3 blindedPubkey ring periodNum spread s r =
        scan spread (clockwise ring hsIdx) 0 s := by
      have hindex : buildHSIndex sha3 blindedPubkey r periodNum = .ok hsIdx := by
        rw [buildHSIndex, if_neg (by simpa using hb), if_neg (hpos r mem_cons_self)]
      rw [selectReplica, hindex]
      show selectFrom ring spread (startOf ring hsIdx) ring.length (startOf ring hsIdx) 0 s = _
      rw [selectFrom_start (startOf_lt hne hsIdx), walkFrom_startOf hsorted]
    have hmem : ∀ {d : HSDirectory}, d ∈ clockwise ring hsIdx → ∃ e ∈ ring, e.dir = d := by
      intro d hd
      rw [← walkFrom_startOf hsorted, mem_map] at hd
      obtain ⟨e, he, rfl⟩ := hd
      exact ⟨e, mem_walkFrom.1 he, rfl⟩
    have hwalk : (clockwise ring hsIdx).Nodup := by
      have hperm : (walkFrom ring (startOf ring hsIdx)).Perm ring := by
        refine perm_append_comm.trans ?_
        rw [take_append_drop]
      rw [← walkFrom_startOf hsorted]
      exact (hperm.map _).nodup_iff.2 hnodup
    -- different directories on the ring have different keys
    have hscan : (scan spread (clockwise ring hsIdx) 0 s).out = pick spread (clockwise ring hsIdx) s.out := by
      rw [scan_out hok hwalk, Nat.sub_zero, pick]
      intro d hd d' hd' hk
      have hon : ∃ e ∈ ring, e.dir = d' :=
        (mem_append.1 hd').elim (hout d') hmem
      obtain ⟨e, he, rfl⟩ := hmem hd
      obtain ⟨e', he', rfl⟩ := hon
      exact hkey e he e' he' hk
    rw [foldl_cons, hstep, ih (fun r hr => hpos r (mem_cons_of_mem _ hr))
      (scan_ok _ _ hok), hscan]
    · rfl
    rw [hscan]
    intro d hd
    rcases mem_append.1 hd with hd | hd
    · exact hout d hd
    · exact hmem (mem_of_mem_filter (mem_of_mem_take hd))

lemma selectResponsibleHSDirsWith_eq (hdist : Distinct hsdirs) (nReplicas spread : ℕ) :
    selectResponsibleHSDirsWith sha3 blindedPubkey hsdirs srv periodNum nReplicas spread =
      chosenOn sha3 blindedPubkey (ringOf sha3 hsdirs srv periodNum) periodNum nReplicas spread := by
  set ring := ringOf sha3 hsdirs srv periodNum with hring
  have hunfold : selectResponsibleHSDirsWith sha3 blindedPubkey hsdirs srv periodNum nReplicas
      spread = if ring = [] then [] else ((range' 1 nReplicas).foldl
        (selectReplica sha3 blindedPubkey ring periodNum spread) {}).out := rfl
  rw [hunfold]
  by_cases hne : ring = []
  · have hnil : ∀ walks : List (List HSDirectory), (∀ w ∈ walks, w = []) → pickAlong spread walks [] = [] := by
      intro walks hw
      induction walks with
      | nil => rfl
      | cons w walks ih =>
        obtain rfl := hw w mem_cons_self
        have hpick : pick spread ([] : List HSDirectory) [] = [] := by simp [pick]
        show pickAlong spread walks (pick spread [] []) = []
        rw [hpick]
        exact ih fun w hw' => hw w (mem_cons_of_mem _ hw')
    rw [if_pos hne, chosenOn, hnil]
    intro w hw
    obtain ⟨r, -, rfl⟩ := mem_map.1 hw
    rw [hne]
    rfl
  · rw [if_neg hne]
    refine foldl_selectReplica hb hne (ringOf_pairwise ..) (nodup_ringOf hdist) ?_ ?_ rfl ?_
    · intro e he e' he' hk
      exact hdist.eq_of_key (mem_ringOf he).1 (mem_ringOf he').1 hk
    · intro r hr
      have := (mem_range'_1.1 hr).1
      omega
    · simp

omit hb

/-! ### Fetching and storing -/

/-- **The directories asked for a descriptor are among those it is stored at.**  Both are the
choice on the sorted ring, which no order of the input list changes; a spread that is not
positive stands for its default. -/
theorem fetched_from_stored (hsdirs : List HSDirectory) (blindedPubkey srv : Bytes)
    (periodNum : ℕ) (nReplicas spreadFetch spreadStore : ℤ) (hb : blindedPubkey.length = 32)
    (hdist : Distinct hsdirs) (hfree : CollisionFree sha3 hsdirs srv periodNum)
    (hle : orDefault spreadFetch hsdirSpreadFetchDefault ≤ orDefault spreadStore hsdirSpreadStoreDefault) :
    selectResponsibleHSDirs sha3 blindedPubkey hsdirs srv periodNum nReplicas spreadFetch ⊆
      selectResponsibleHSDirsStore sha3 blindedPubkey hsdirs srv periodNum nReplicas spreadStore ∧
    (∃ ring, ring.Perm (hsdirs.filterMap (ringEntryOf sha3 srv periodNum)) ∧
      ring.Pairwise (fun e e' => compareBytes e.index e'.index = .lt) ∧
      selectResponsibleHSDirs sha3 blindedPubkey hsdirs srv periodNum nReplicas spreadFetch =
        chosenOn sha3 blindedPubkey ring periodNum
          (orDefault nReplicas hsdirNReplicasDefault).toNat
          (orDefault spreadFetch hsdirSpreadFetchDefault).toNat ∧
      selectResponsibleHSDirsStore sha3 blindedPubkey hsdirs srv periodNum nReplicas spreadStore =
        chosenOn sha3 blindedPubkey ring periodNum
          (orDefault nReplicas hsdirNReplicasDefault).toNat
          (orDefault spreadStore hsdirSpreadStoreDefault).toNat) ∧
    ∀ hsdirs' : List HSDirectory, hsdirs.Perm hsdirs' →
      selectResponsibleHSDirs sha3 blindedPubkey hsdirs' srv periodNum nReplicas spreadFetch =
        selectResponsibleHSDirs sha3 blindedPubkey hsdirs srv periodNum nReplicas spreadFetch ∧
      selectResponsibleHSDirsStore sha3 blindedPubkey hsdirs' srv periodNum nReplicas spreadStore =
        selectResponsibleHSDirsStore sha3 blindedPubkey hsdirs srv periodNum nReplicas spreadStore := by
  have heq : ∀ n k, selectResponsibleHSDirsWith sha3 blindedPubkey hsdirs srv periodNum n k =
      chosenOn sha3 blindedPubkey (ringOf sha3 hsdirs srv periodNum) periodNum n k :=
    selectResponsibleHSDirsWith_eq hb hdist
  refine ⟨?_, ⟨ringOf sha3 hsdirs srv periodNum, ringOf_perm .., ?_, heq _ _, heq _ _⟩, ?_⟩
  · rw [selectResponsibleHSDirs, selectResponsibleHSDirsStore, heq, heq]
    exact pickAlong_subset (Int.toNat_le_toNat hle) _ (List.Subset.refl _)
  · exact ringOf_strict hdist hfree
  · intro hsdirs' hp
    have heq' : ∀ n k, selectResponsibleHSDirsWith sha3 blindedPubkey hsdirs' srv periodNum n k =
        chosenOn sha3 blindedPubkey (ringOf sha3 hsdirs srv periodNum) periodNum n k := by
      rw [← ringOf_eq_of_perm hdist hfree hp]
      exact selectResponsibleHSDirsWith_eq hb (hdist.perm hp)
    simp only [selectResponsibleHSDirs, selectResponsibleHSDirsStore, heq, heq', and_self]

end Choice

/-! ### Two directories -/

def digestOf (table : List (Bytes × ℕ)) (m : Bytes) : Vector UInt8 32 :=
  match table.lookup m with
  | none => Vector.replicate 32 0
  | some n => vectorOfNat 32 n

def letterDir (letter : UInt8) : HSDirectory where
  fingerprint := [letter]
  relay := some { identityKey := replicate 32 letter }

def dirA : HSDirectory := letterDir 65
def dirB : HSDirectory := letterDir 66
def twoSRV : Bytes := replicate 32 9
def twoKey : Bytes := replicate 32 5

/-- The SHA3-256 digests of the ring of `A` and `B` in period 7. -/
def twoHash : Bytes → Vector UInt8 32 := digestOf
  [(nodeMessage dirA.ed25519Identity twoSRV 7,
      0x14dae4f99817dd10e5e534fb315f055b093acc297051e9c8b7b6fe0868916427),
    (nodeMessage dirB.ed25519Identity twoSRV 7,
      0x1ec61678ea74819504ccd8a8e2d8e627f7837322765bb3558b7f57028d4428df),
    (storeMessage twoKey 1 7,
      0xdc35a9094def7a41cde0cacb19451567f743618a35c23b653760d8b067999dea),
    (storeMessage twoKey 2 7,
      0x5c9d1cd4da407cc885d577fa06ac72df45ebb627d72b1414a2fa49aa479bfe75)]

lemma distinct_two : Distinct [dirA, dirB] where
  fingerprints := by decide
  hexadecimal := by decide
  identities := by decide

lemma collisionFree_two : CollisionFree twoHash [dirA, dirB] twoSRV 7 := by
  have hinj : ∀ d ∈ [dirA, dirB], ∀ d' ∈ [dirA, dirB], twoHash (nodeMessage d.ed25519Identity twoSRV 7) =
        twoHash (nodeMessage d'.ed25519Identity twoSRV 7) →
      nodeMessage d.ed25519Identity twoSRV 7 = nodeMessage d'.ed25519Identity twoSRV 7 := by
    decide +kernel
  rintro m ⟨d, hd, rfl⟩ m' ⟨d', hd', rfl⟩ h
  exact hinj d hd d' hd' h

theorem fetched_from_stored_two :
    selectResponsibleHSDirs twoHash twoKey [dirA, dirB] twoSRV 7 1 1 = [dirA] ∧
    selectResponsibleHSDirs twoHash twoKey [dirA, dirB] twoSRV 7 1 1 ⊆
      selectResponsibleHSDirsStore twoHash twoKey [dirA, dirB] twoSRV 7 1 4 :=
  ⟨by decide +kernel, (fetched_from_stored _ _ _ 7 1 1 4 (by decide) distinct_two collisionFree_two (by decide)).1⟩

/-- A fetch spread of zero stands for three, which is more than a store spread of one. -/
theorem fetched_beyond_stored : ∃ (sha3 : Bytes → Vector UInt8 32) (hsdirs : List HSDirectory)
    (blindedPubkey srv : Bytes) (periodNum : ℕ) (nReplicas spreadFetch spreadStore : ℤ),
    blindedPubkey.length = 32 ∧ Distinct hsdirs ∧ CollisionFree sha3 hsdirs srv periodNum ∧
    spreadFetch ≤ spreadStore ∧
    ¬ selectResponsibleHSDirs sha3 blindedPubkey hsdirs srv periodNum nReplicas spreadFetch ⊆
      selectResponsibleHSDirsStore sha3 blindedPubkey hsdirs srv periodNum nReplicas spreadStore := by
  refine ⟨twoHash, [dirA, dirB], twoKey, twoSRV, 7, 1, 0, 1, by decide, distinct_two,
    collisionFree_two, by decide, ?_⟩
  have hfetch : dirB ∈ selectResponsibleHSDirs twoHash twoKey [dirA, dirB] twoSRV 7 1 0 := by
    decide +kernel
  have hstore : dirB ∉ selectResponsibleHSDirsStore twoHash twoKey [dirA, dirB] twoSRV 7 1 1 := by
    decide +kernel
  exact fun hsub => hstore (hsub hfetch)

end GoTor.Onion
