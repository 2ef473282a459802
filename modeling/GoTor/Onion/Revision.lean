import GoTor.Lib.Run
import GoTor.Relay.HsdirStore

/-!
# The revision counter of a service

A service with a data directory counts its publications.  The counter goes into the descriptor,
is raised after the uploads and is then saved; after a restart it is read back.  Directories take
a descriptor only with a higher counter than the one they hold, and forget what they hold after
three hours.  The process may end between any two steps.

Publications are goroutines of their own: stopping and starting the service leaves the old
maintenance loop running.
-/

namespace GoTor.Onion

open GoTor.Lib GoTor.Relay List

/-- A descriptor as `createDescriptor` makes it; `serial` tells two of them apart. -/
structure Desc where
  serial : ℕ
  blinded : Bytes
  revision : ℕ
  raw : Bytes
  deriving DecidableEq

/-- Where a goroutine is that makes and publishes a descriptor. -/
inductive Publishing
  /-- `createDescriptor` has read the counter. -/
  | made (d : Desc)
  /-- `createDescriptor` has returned. -/
  | stored
  /-- The loop over the directories: whether one of them took it, and how many uploads succeeded. -/
  | uploading (d : Desc) (taken : Bool) (published : ℕ)
  /-- The counter is raised, the state not saved yet. -/
  | saving
  deriving DecidableEq

namespace Publishing

def taken : Publishing → Bool
  | uploading _ true _ => true
  | _ => false

/-- A directory took the descriptor, but no upload was reported to have succeeded. -/
def unnoticed : Publishing → Bool
  | uploading _ true 0 => true
  | _ => false

end Publishing

open Publishing

/-- The part of `Service` that publications share. -/
structure Process where
  descriptorRev : ℕ
  descriptor : Option Desc := none
  pubs : List Publishing := []

structure ServiceRun where
  /-- `none` while the service does not run. -/
  process : Option Process
  /-- The counter in `state.json`. -/
  disk : Option ℕ
  dirs : ℕ → HsDirStore
  created : ℕ
  accepted : List Desc

inductive ServiceStep
  /-- `NewService`; reading the state file may fail. -/
  | newService (loads : Bool)
  | crash
  | createDescriptor (blinded raw : Bytes)
  | createFails (i : ℕ)
  | storeDescriptor (i : ℕ)
  | publishDescriptor (i : ℕ)
  /-- One upload: whether the request arrives, and whether success is reported. -/
  | uploadDescriptor (i dir : ℕ) (now : ℤ) (arrives reported : Bool)
  | finishUploads (i : ℕ)
  | saveState (i : ℕ) (ok : Bool)
  /-- `Stop` saves the state, too. -/
  | stop (ok : Bool)

namespace ServiceRun

def loadRev (disk : Option ℕ) : ℕ := disk.getD 1

def initial (dirs : ℕ → HsDirStore) : ServiceRun := ⟨none, none, dirs, 0, []⟩

def setPub (p : Process) (i : ℕ) (q : Publishing) : Process := { p with pubs := p.pubs.set i q }

def endPub (p : Process) (i : ℕ) : Process := { p with pubs := p.pubs.eraseIdx i }

def give (s : ServiceRun) (d : Desc) (dir : ℕ) (now : ℤ) : (ℕ → HsDirStore) × HsDirPutStatus :=
  let (store, status) := (s.dirs dir).putEntry now d.blinded d.revision d.raw
  (Function.update s.dirs dir store, status)

def step (s : ServiceRun) : ServiceStep → Option ServiceRun
  | .newService loads =>
    match s.process with
    | some _ => none
    | none =>
      let rev := if loads then loadRev s.disk else 1
      some { s with process := some ⟨rev, none, []⟩ }
  | .crash => s.process.map fun _ => { s with process := none }
  | .createDescriptor blinded raw => s.process.map fun p =>
    let d : Desc := ⟨s.created, blinded, p.descriptorRev, raw⟩
    { s with process := some { p with pubs := p.pubs ++ [.made d] }, created := s.created + 1 }
  | .createFails i => s.process.bind fun p =>
    match p.pubs[i]? with
    | some (.made _) => some { s with process := some (endPub p i) }
    | _ => none
  | .storeDescriptor i => s.process.bind fun p =>
    match p.pubs[i]? with
    | some (.made d) =>
      some { s with process := some { setPub p i .stored with descriptor := some d } }
    | _ => none
  | .publishDescriptor i => s.process.bind fun p =>
    match p.pubs[i]?, p.descriptor with
    | some .stored, some d => some { s with process := some (setPub p i (.uploading d false 0)) }
    | some .stored, none => some { s with process := some (endPub p i) }
    | _, _ => none
  | .uploadDescriptor i dir now arrives reported => s.process.bind fun p =>
    match p.pubs[i]? with
    | some (.uploading d taken n) =>
      let n := if reported then n + 1 else n
      let (dirs, status) := if arrives then s.give d dir now else (s.dirs, .bad)
      if status = .ok then
        some { s with process := some (setPub p i (.uploading d true n)), dirs := dirs,
                      accepted := s.accepted ++ [d] }
      else some { s with process := some (setPub p i (.uploading d taken n)), dirs := dirs }
    | _ => none
  | .finishUploads i => s.process.bind fun p =>
    match p.pubs[i]? with
    | some (.uploading _ _ n) =>
      if n = 0 then some { s with process := some (endPub p i) }
      else
        let rev := (p.descriptorRev + 1) % 2 ^ 64
        some { s with process := some { setPub p i .saving with descriptorRev := rev } }
    | _ => none
  | .saveState i ok => s.process.bind fun p =>
    match p.pubs[i]? with
    | some .saving =>
      let disk := if ok then some p.descriptorRev else s.disk
      some { s with process := some (endPub p i), disk := disk }
    | _ => none
  | .stop ok => s.process.map fun p =>
    { s with disk := if ok then some p.descriptorRev else s.disk }

/-- The steps after which the counter still exceeds all counters that were published: the
process ends only with the counter saved and without a publication under way that a directory
took, the state file can be read, publications do not overlap, an upload that a directory took
is not reported to have failed together with all others, and the counter is not at its end. -/
def sound (s : ServiceRun) (a : ServiceStep) : Bool :=
  match s.process, a with
  | none, .newService loads => loads
  | some p, .crash => loadRev s.disk = p.descriptorRev && p.pubs.all fun q => !q.taken
  | some p, .createDescriptor _ _ => p.pubs.isEmpty
  | some p, .finishUploads i => p.descriptorRev + 1 < 2 ^ 64 && p.pubs[i]?.all fun q => !q.unnoticed
  | _, _ => true

/-! ### What the counter exceeds -/

section Counter

variable {s s' : ServiceRun} {p : Process} {q : Publishing} {i : ℕ} {accepted : List Desc}

def Current (p : Process) : Publishing → Prop
  | .made d => d.revision = p.descriptorRev
  | .stored => ∀ d, p.descriptor = some d → d.revision = p.descriptorRev
  | .uploading d _ _ => d.revision = p.descriptorRev
  | .saving => True

/-- One publication at a time, and the counter exceeds all counters that were published, but for
the one of the descriptor that is being uploaded. -/
structure Running (accepted : List Desc) (p : Process) : Prop where
  single : p.pubs.length ≤ 1
  current : ∀ q ∈ p.pubs, Current p q
  below : ∀ e ∈ accepted, e.revision < p.descriptorRev ∨ ∃ n, .uploading e true n ∈ p.pubs

lemma Running.of_idle (hpubs : p.pubs = [])
    (hbelow : ∀ e ∈ accepted, e.revision < p.descriptorRev) : Running accepted p where
  single := by simp [hpubs]
  current := by simp [hpubs]
  below e he := .inl (hbelow e he)

lemma Running.of_single (hpubs : p.pubs = [q]) (hcur : Current p q)
    (hbelow : ∀ e ∈ accepted, e.revision < p.descriptorRev ∨ ∃ n, q = .uploading e true n) :
    Running accepted p where
  single := by simp [hpubs]
  current := by simpa [hpubs] using hcur
  below e he := by
    rcases hbelow e he with hlt | ⟨n, rfl⟩
    · exact .inl hlt
    · exact .inr ⟨n, by simp [hpubs]⟩

variable (h : Running accepted p)
include h

lemma Running.alone (hq : p.pubs[i]? = some q) : p.pubs = [q] ∧ i = 0 := by
  obtain ⟨hi, rfl⟩ := List.getElem?_eq_some_iff.1 hq
  have hsingle := h.single
  have hlen : p.pubs.length = 1 := by omega
  obtain ⟨q', hq'⟩ := length_eq_one_iff.1 hlen
  have hzero : i = 0 := by omega
  subst hzero
  exact ⟨by simp [hq'], rfl⟩

lemma Running.current_of_get (hq : p.pubs[i]? = some q) : Current p q :=
  h.current q (mem_of_getElem? hq)

lemma Running.below_of_not_taken (hq : ∀ q ∈ p.pubs, q.taken = false) :
    ∀ e ∈ accepted, e.revision < p.descriptorRev := by
  intro e he
  rcases h.below e he with hlt | ⟨n, hin⟩
  · exact hlt
  · exact absurd (hq _ hin) (by simp [taken])

lemma Running.below_of_get (hq : p.pubs[i]? = some q) (hnot : q.taken = false) :
    ∀ e ∈ accepted, e.revision < p.descriptorRev := by
  apply h.below_of_not_taken
  intro q' hq'
  rw [(h.alone hq).1, mem_singleton] at hq'
  rw [hq', hnot]

lemma Running.ended (hq : p.pubs[i]? = some q) (hnot : q.taken = false) : Running accepted (endPub p i) := by
  obtain ⟨hpubs, rfl⟩ := h.alone hq
  exact .of_idle (by simp [endPub, hpubs]) (h.below_of_get hq hnot)

omit h

/-- Different descriptors of one blinded key were taken with rising counters. -/
def Increasing (accepted : List Desc) : Prop :=
  accepted.Pairwise fun d e => d ≠ e → d.blinded = e.blinded → d.revision < e.revision

instance (accepted : List Desc) : Decidable (Increasing accepted) :=
  inferInstanceAs (Decidable (List.Pairwise _ _))

structure Counted (s : ServiceRun) : Prop where
  increasing : Increasing s.accepted
  running : ∀ p, s.process = some p → Running s.accepted p
  saved : s.process = none → ∀ e ∈ s.accepted, e.revision < loadRev s.disk

variable {dirs : ℕ → HsDirStore}

lemma Counted.of_process {p' : Process} {disk : Option ℕ} {created : ℕ} (h : Counted s)
    (hrun : Running s.accepted p') :
    Counted { s with process := some p', disk := disk, dirs := dirs, created := created } where
  increasing := h.increasing
  running p hp := by
    cases hp
    exact hrun
  saved hnone := by cases hnone

open Running

lemma Counted.of_taken {d : Desc} {taken : Bool} {m n : ℕ} (h : Counted s)
    (hp : s.process = some p) (hq : p.pubs[i]? = some (.uploading d taken m)) :
    Counted { s with process := some (setPub p i (.uploading d true n)), dirs := dirs,
                     accepted := s.accepted ++ [d] } := by
  have hrun := h.running p hp
  obtain ⟨hpubs, rfl⟩ := hrun.alone hq
  have hrev : d.revision = p.descriptorRev := hrun.current_of_get hq
  have hbelow : ∀ e ∈ s.accepted, e.revision < p.descriptorRev ∨ e = d := by
    intro e he
    rcases hrun.below e he with hlt | ⟨k, hin⟩
    · exact .inl hlt
    · rw [hpubs, mem_singleton] at hin
      cases hin
      exact .inr rfl
  constructor
  · -- all that were taken before have a lower counter, or are this descriptor
    rw [Increasing, pairwise_append]
    refine ⟨h.increasing, pairwise_singleton _ _, ?_⟩
    intro e he d' hd' hne _
    rw [mem_singleton] at hd'
    subst hd'
    rcases hbelow e he with hlt | rfl
    · rw [hrev]
      exact hlt
    · exact absurd rfl hne
  · rintro p' hp'
    cases hp'
    refine of_single (q := .uploading d true n) (by simp [setPub, hpubs]) hrev ?_
    intro e he
    rcases mem_append.1 he with he | he
    · rcases hbelow e he with hlt | rfl
      · exact .inl hlt
      · exact .inr ⟨n, rfl⟩
    · rw [mem_singleton.1 he]
      exact .inr ⟨n, rfl⟩
  · intro hnone
    cases hnone

lemma Counted.step {a : ServiceStep} (h : Counted s) (hsound : sound s a = true)
    (hs : s.step a = some s') : Counted s' := by
  cases hp : s.process with
  | none =>
    cases a with
    | newService loads =>
      simp only [sound, hp] at hsound
      simp only [ServiceRun.step, hp, hsound] at hs
      cases hs
      refine h.of_process (of_idle rfl ?_)
      exact h.saved hp
    | _ => simp [ServiceRun.step, hp] at hs
  | some p =>
    have hrun := h.running p hp
    cases a with
    | newService loads => simp [ServiceRun.step, hp] at hs
    | crash =>
      -- what was saved is the number in use, and no upload under it was taken
      simp only [sound, hp, Bool.and_eq_true, decide_eq_true_eq, all_eq_true, Bool.not_eq_true'] at hsound
      simp only [ServiceRun.step, hp] at hs
      cases hs
      refine ⟨h.increasing, by simp, fun _ => ?_⟩
      rw [hsound.1]
      exact hrun.below_of_not_taken hsound.2
    | createDescriptor blinded raw =>
      -- no other publication is under way
      simp only [sound, hp, List.isEmpty_iff] at hsound
      simp only [ServiceRun.step, hp] at hs
      cases hs
      refine h.of_process (of_single
        (q := .made ⟨s.created, blinded, p.descriptorRev, raw⟩) (by simp [hsound]) rfl ?_)
      intro e he
      exact .inl (hrun.below_of_not_taken (by simp [hsound]) e he)
    | createFails i =>
      simp only [ServiceRun.step, hp, Option.bind_some] at hs
      split at hs
      · next d hq =>
        cases hs
        exact h.of_process (hrun.ended hq rfl)
      · cases hs
    | storeDescriptor i =>
      simp only [ServiceRun.step, hp, Option.bind_some] at hs
      split at hs
      · next d hq =>
        cases hs
        obtain ⟨hpubs, rfl⟩ := hrun.alone hq
        have hrev : d.revision = p.descriptorRev := hrun.current_of_get hq
        refine h.of_process (of_single (q := .stored) (by simp [setPub, hpubs]) ?_ ?_)
        · intro d' hd'
          cases hd'
          exact hrev
        · intro e he
          exact .inl (hrun.below_of_get hq rfl e he)
      · cases hs
    | publishDescriptor i =>
      simp only [ServiceRun.step, hp, Option.bind_some] at hs
      split at hs
      · next d hq hd =>
        cases hs
        obtain ⟨hpubs, rfl⟩ := hrun.alone hq
        refine h.of_process (of_single (q := .uploading d false 0)
          (by simp [setPub, hpubs]) (hrun.current_of_get hq d hd) ?_)
        intro e he
        exact .inl (hrun.below_of_get hq rfl e he)
      · next hq _ =>
        cases hs
        exact h.of_process (hrun.ended hq rfl)
      · cases hs
    | uploadDescriptor i dir now arrives reported =>
      simp only [ServiceRun.step, hp, Option.bind_some] at hs
      split at hs
      · next d taken n hq =>
        generalize (if arrives then s.give d dir now else (s.dirs, .bad)) = answer at hs
        obtain ⟨dirs, status⟩ := answer
        split at hs
        · cases hs
          exact h.of_taken hp hq
        cases hs
        obtain ⟨hpubs, rfl⟩ := hrun.alone hq
        refine h.of_process (of_single
          (q := .uploading d taken (if reported then n + 1 else n)) (by simp [setPub, hpubs]) (hrun.current_of_get hq) ?_)
        intro e he
        rcases hrun.below e he with hlt | ⟨k, hin⟩
        · exact .inl hlt
        · rw [hpubs, mem_singleton] at hin
          cases hin
          exact .inr ⟨_, rfl⟩
      · cases hs
    | finishUploads i =>
      simp only [sound, hp, Bool.and_eq_true, decide_eq_true_eq] at hsound
      simp only [ServiceRun.step, hp, Option.bind_some] at hs
      split at hs
      · next d taken n hq =>
        obtain ⟨hpubs, rfl⟩ := hrun.alone hq
        split at hs
        · next hn =>
          cases hs
          -- no answer came back: by the condition nothing was taken either
          have hnot : (uploading d taken n).taken = false := by
            cases taken
            · rfl
            · subst hn
              simp [hpubs, unnoticed] at hsound
          exact h.of_process (hrun.ended hq hnot)
        cases hs
        -- the number moves on without wrapping
        have hnext : (p.descriptorRev + 1) % 2 ^ 64 = p.descriptorRev + 1 :=
          Nat.mod_eq_of_lt hsound.1
        refine h.of_process (of_single (q := .saving) (by simp [setPub, hpubs]) trivial ?_)
        intro e he
        refine .inl ?_
        show e.revision < (p.descriptorRev + 1) % 2 ^ 64
        rcases hrun.below e he with hlt | ⟨k, hin⟩
        · omega
        · have hrev : e.revision = p.descriptorRev := hrun.current _ hin
          omega
      · cases hs
    | saveState i ok =>
      simp only [ServiceRun.step, hp, Option.bind_some] at hs
      split at hs
      · next hq =>
        cases hs
        exact h.of_process (hrun.ended hq rfl)
      · cases hs
    | stop ok =>
      simp only [ServiceRun.step, hp] at hs
      cases hs
      exact h.of_process hrun

lemma counted_initial : Counted (initial dirs) where
  increasing := List.Pairwise.nil
  running p hp := by cases hp
  saved _ e he := by cases he

end Counter

/-- A publication, to two directories; both take it where it is new to them. -/
def publication (now : ℤ) : List ServiceStep :=
  [.createDescriptor (zeros 32) (ascii "hs-descriptor 3"), .storeDescriptor 0, .publishDescriptor 0,
   .uploadDescriptor 0 0 now true true, .uploadDescriptor 0 1 now true true, .finishUploads 0,
   .saveState 0 true]

/-- Two publications with a crash after the first, one hour apart. -/
def orderlyRun : List ServiceStep :=
  [.newService true] ++ publication 0 ++ [.crash, .newService true] ++ publication 3600

/-- The process ends after the first upload; the next one publishes with the same counter. -/
def crashedRun : List ServiceStep :=
  [.newService true, .createDescriptor (zeros 32) (ascii "hs-descriptor 3"), .storeDescriptor 0,
   .publishDescriptor 0, .uploadDescriptor 0 0 0 true true, .crash, .newService true,
   .createDescriptor (zeros 32) (ascii "hs-descriptor 3"), .storeDescriptor 0, .publishDescriptor 0,
   .uploadDescriptor 0 0 60 true true, .uploadDescriptor 0 1 60 true true]

end ServiceRun

end GoTor.Onion
