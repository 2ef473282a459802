import GoTor.Relay.Hsdir

/-!
# The descriptors a relay stores

The store of a relay that serves as a hidden-service directory: one entry for each blinded key,
under its hexadecimal text, for three hours.
-/

namespace GoTor.Relay

open GoTor.Lib List

structure HsDirEntry where
  body : Bytes
  mod : ℤ
  revision : ℕ
  deriving DecidableEq

inductive HsDirPutStatus
  | ok | bad | notResponsible
  deriving DecidableEq

/-- `byBlind`: a map, so no key stands twice. -/
structure HsDirStore where
  byBlind : List (Bytes × HsDirEntry) := []
  nodup : (byBlind.map Prod.fst).Nodup := by simp

def maxHSDirEntries : ℕ := 64

def hsDirTTL : ℤ := 3 * 60 * 60

namespace HsDirStore

variable (s : HsDirStore) (now : ℤ) (blinded : Bytes)

def entry (key : Bytes) : Option HsDirEntry := s.byBlind.lookup key

def filter (keep : Bytes × HsDirEntry → Bool) : HsDirStore where
  byBlind := s.byBlind.filter keep
  nodup := s.nodup.sublist (filter_sublist.map Prod.fst)

/-- `expireLocked`. -/
def expire : HsDirStore := s.filter fun e => ¬ now - e.2.mod ≥ hsDirTTL

/-- `evictOldestLocked`. -/
def evictOldest : HsDirStore :=
  match s.byBlind.minOn? fun e => e.2.mod with
  | none => s
  | some (oldest, _) => s.filter fun e => e.1 ≠ oldest

def insert (key : Bytes) (e : HsDirEntry) : HsDirStore where
  byBlind := (key, e) :: (s.filter fun e => e.1 ≠ key).byBlind
  nodup := by
    rw [map_cons, nodup_cons]
    refine ⟨?_, (s.filter _).nodup⟩
    simp [filter]

/-- The locked part of `put`, for a document with its blinded key and revision. -/
def putEntry (revision : ℕ) (canonical : Bytes) : HsDirStore × HsDirPutStatus :=
  let key := hexEncode blinded
  let s := s.expire now
  let e : HsDirEntry := ⟨canonical, now, revision⟩
  match s.entry key with
  | some existing => if revision ≤ existing.revision then (s, .bad) else (s.insert key e, .ok)
  | none =>
    let s := if s.byBlind.length ≥ maxHSDirEntries then s.evictOldest else s
    (s.insert key e, .ok)

/-- `get`: the store after it, and the document and its time where there is one. -/
def get : HsDirStore × Option (Bytes × ℤ) :=
  if blinded.length ≠ 32 then (s, none)
  else
    let s := s.expire now
    (s, (s.entry (hexEncode blinded)).map fun e => (e.body, e.mod))

end HsDirStore

section Entries

variable {s : HsDirStore} {now : ℤ} {key : Bytes} {e : HsDirEntry}

lemma HsDirStore.entry_eq_some_iff : s.entry key = some e ↔ (key, e) ∈ s.byBlind := by
  obtain ⟨l, hl⟩ := s
  simp only [HsDirStore.entry]
  induction l with
  | nil => simp
  | cons p l ih =>
    obtain ⟨k, e'⟩ := p
    rw [map_cons, nodup_cons] at hl
    by_cases hk : key = k
    · subst hk
      have hout : (key, e) ∉ l := fun hin => hl.1 (mem_map.2 ⟨_, hin, rfl⟩)
      simp [hout, eq_comm]
    · have hb : (key == k) = false := by simpa using hk
      simp only [lookup_cons, hb, mem_cons, Prod.mk.injEq, hk, false_and, false_or]
      exact ih hl.2

lemma HsDirStore.entry_filter {keep : Bytes × HsDirEntry → Bool} :
    (s.filter keep).entry key = some e ↔ s.entry key = some e ∧ keep (key, e) = true := by
  simp only [entry_eq_some_iff, filter, mem_filter]

/-- The store holds an entry that has not expired. -/
def HsDirStore.Holds (s : HsDirStore) (now : ℤ) (blinded : Bytes) (e : HsDirEntry) : Prop :=
  s.entry (hexEncode blinded) = some e ∧ now - e.mod < hsDirTTL

lemma HsDirStore.get_of_holds {blinded : Bytes} (hlen : blinded.length = 32)
    (h : s.Holds now blinded e) : (s.get now blinded).2 = some (e.body, e.mod) := by
  have hkept : (s.expire now).entry (hexEncode blinded) = some e := by
    rw [expire, entry_filter]
    exact ⟨h.1, by simpa using h.2⟩
  simp [get, hlen, hkept]

end Entries

end GoTor.Relay
