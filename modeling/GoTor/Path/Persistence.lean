import Mathlib.Algebra.Order.Group.Int
import GoTor.Lib.Result
import GoTor.Lib.Text

/-!
# Loading the guard state

`Load` takes the main file if its checksum verifies and otherwise looks through the backups, the
newest first.  States of an older schema have no checksum: a main file without a version is
migrated, and a backup of a version below the current one is taken as it is.
-/

namespace GoTor.Path

open GoTor.Lib

variable {Guard : Type}

structure GuardStateV2 (Guard : Type) where
  version : ℤ
  guards : List Guard
  /-- In nanoseconds. -/
  updatedAt : ℤ
  checksum : Bytes

def currentSchemaVersion : ℤ := 2

/-- `encoding/json` on the two schemas, and SHA-256. -/
structure GuardCodec (Guard : Type) where
  unmarshal : Bytes → Option (GuardStateV2 Guard)
  /-- `json.Unmarshal` to `GuardState`: its guards. -/
  unmarshalV1 : Bytes → Option (List Guard)
  marshal : GuardStateV2 Guard → Option Bytes
  sum256 : Bytes → Vector UInt8 32

namespace GuardCodec

variable (C : GuardCodec Guard)

def verifyChecksum (state : GuardStateV2 Guard) : Bool :=
  state.checksum ≠ [] && (C.marshal { state with checksum := [] }).any fun data =>
    hexEncode (C.sum256 data).toList = state.checksum

def backupState (data : Bytes) : Option (GuardStateV2 Guard) :=
  (C.unmarshal data).filter fun state =>
    !(decide (state.version ≥ currentSchemaVersion) && !C.verifyChecksum state)

/-- The answers of `os.ReadFile` for the backups, from `.backup.1` on. -/
def loadFromBackup : List (Except String Bytes) → Except String (List Guard)
  | [] => .error "no valid backup found"
  | .error _ :: files => loadFromBackup files
  | .ok data :: files =>
    match C.backupState data with
    | some state => .ok state.guards
    | none => loadFromBackup files

/-- `Load`, once it has the locks. -/
def load (main : Except String Bytes) (backups : List (Except String Bytes)) : Except String (List Guard) := do
  let data ← main
  match C.unmarshal data with
  | none => throw "failed to parse guard state"
  | some state =>
    if state.version = 0 then
      match C.unmarshalV1 data with
      | none => throw "failed to parse legacy guard state"
      | some guards => return guards
    else if !C.verifyChecksum state then C.loadFromBackup backups
    else return state.guards

/-- A main file that `Load` takes: one whose checksum verifies, or one without a version, which is
migrated from V1. -/
def Vouched (file : Except String Bytes) (guards : List Guard) : Prop :=
  ∃ data state, file = .ok data ∧ C.unmarshal data = some state ∧
    if state.version = 0 then C.unmarshalV1 data = some guards
    else state.guards = guards ∧ C.verifyChecksum state = true

/-- A backup that can be taken: one whose checksum verifies, or one of an older schema. -/
def Recoverable (file : Except String Bytes) (guards : List Guard) : Prop :=
  ∃ data state, file = .ok data ∧ C.unmarshal data = some state ∧ state.guards = guards ∧
    (C.verifyChecksum state = true ∨ state.version < currentSchemaVersion)

variable {C} {backups : List (Except String Bytes)} {file : Except String Bytes} {guards : List Guard}
  {data : Bytes} {state : GuardStateV2 Guard}

lemma backupState_eq_some : C.backupState data = some state ↔ C.unmarshal data = some state ∧
    (C.verifyChecksum state = true ∨ state.version < currentSchemaVersion) := by
  rw [backupState, Option.filter_eq_some_iff]
  cases C.verifyChecksum state <;> simp

lemma loadFromBackup_append {newer older : List (Except String Bytes)}
    (hnewer : ∀ f ∈ newer, ∀ g, ¬ C.Recoverable f g) :
    C.loadFromBackup (newer ++ older) = C.loadFromBackup older := by
  induction newer with
  | nil => rfl
  | cons f newer ih =>
    obtain ⟨hf, hrest⟩ := List.forall_mem_cons.1 hnewer
    cases f with
    | error e => exact ih hrest
    | ok data =>
      cases hstate : C.backupState data with
      | none => simpa [loadFromBackup, hstate] using ih hrest
      | some state =>
        obtain ⟨hparse, hok⟩ := backupState_eq_some.1 hstate
        exact absurd ⟨data, state, rfl, hparse, rfl, hok⟩ (hf state.guards)

lemma loadFromBackup_cons (h : C.Recoverable file guards) {older : List (Except String Bytes)} :
    C.loadFromBackup (file :: older) = .ok guards := by
  obtain ⟨data, state, rfl, hparse, rfl, hok⟩ := h
  rw [loadFromBackup, backupState_eq_some.2 ⟨hparse, hok⟩]

lemma loadFromBackup_cases (backups : List (Except String Bytes)) :
    (∃ f ∈ backups, ∃ g, C.Recoverable f g ∧ C.loadFromBackup backups = .ok g) ∨
      (∀ f ∈ backups, ∀ g, ¬ C.Recoverable f g) ∧ ∃ e, C.loadFromBackup backups = .error e := by
  induction backups with
  | nil => exact .inr ⟨nofun, _, rfl⟩
  | cons f files ih =>
    by_cases hf : ∃ g, C.Recoverable f g
    · obtain ⟨g, hg⟩ := hf
      exact .inl ⟨f, List.mem_cons_self, g, hg, loadFromBackup_cons hg⟩
    · have hskip := @loadFromBackup_append _ C [f] files (by simpa using not_exists.1 hf)
      rw [List.singleton_append] at hskip
      rw [hskip]
      refine ih.imp (fun ⟨f', hmem, h⟩ => ⟨f', List.mem_cons_of_mem _ hmem, h⟩) fun h => ⟨?_, h.2⟩
      exact List.forall_mem_cons.2 ⟨not_exists.1 hf, h.1⟩

lemma load_of_unmarshal (hparse : C.unmarshal data = some state) :
    C.load (.ok data) backups =
      if state.version = 0 then
        (C.unmarshalV1 data).elim (.error "failed to parse legacy guard state") .ok
      else if C.verifyChecksum state then .ok state.guards else C.loadFromBackup backups := by
  rw [load, ok_bind, hparse]
  dsimp only
  split
  · cases C.unmarshalV1 data <;> rfl
  · cases C.verifyChecksum state <;> rfl

lemma load_of_vouched (h : C.Vouched file guards) : C.load file backups = .ok guards := by
  obtain ⟨data, state, rfl, hparse, hok⟩ := h
  rw [load_of_unmarshal hparse]
  split at hok
  next hver => rw [if_pos hver, hok, Option.elim_some]
  next hver => rw [if_neg hver, if_pos hok.2, hok.1]

lemma of_load {main : Except String Bytes} (h : C.load main backups = .ok guards) :
    C.Vouched main guards ∨ ∃ f ∈ backups, C.Recoverable f guards := by
  cases main with
  | error e => cases h
  | ok data =>
    cases hparse : C.unmarshal data with
    | none => simp [load, ok_bind, hparse] at h
    | some state =>
      rw [load_of_unmarshal hparse] at h
      split at h
      next hver =>
        -- migrated from V1
        cases hold : C.unmarshalV1 data with
        | none => simp [hold] at h
        | some old =>
          rw [hold] at h
          cases h
          exact .inl ⟨data, state, rfl, hparse, by rwa [if_pos hver]⟩
      next hver =>
      split at h
      next hsum =>
        cases h
        exact .inl ⟨data, state, rfl, hparse, by rw [if_neg hver]; exact ⟨rfl, hsum⟩⟩
      rcases @loadFromBackup_cases _ C backups with ⟨f, hf, g, hg, hload⟩ | ⟨-, e, hload⟩
      · cases hload.symm.trans h
        exact .inr ⟨f, hf, hg⟩
      · cases hload.symm.trans h

/-- **Recovery.**  A main file that cannot be read is an error, whatever the backups hold.  What is
loaded are the guards of a main file that is vouched for, or of a backup that can be taken; the
main file is loaded if it is vouched for.  Where its checksum does not verify, the newest backup
that can be taken is loaded, and there is an error only if there is none. -/
theorem load_recovers (C : GuardCodec Guard) (main : Except String Bytes) (backups : List (Except String Bytes)) :
    (∀ e, main = .error e → C.load main backups = .error e) ∧
    (∀ guards, C.load main backups = .ok guards → C.Vouched main guards ∨ ∃ f ∈ backups, C.Recoverable f guards) ∧
    (∀ guards, C.Vouched main guards → C.load main backups = .ok guards) ∧
    ∀ data state, main = .ok data → C.unmarshal data = some state → state.version ≠ 0 →
      C.verifyChecksum state = false →
        (∀ newer file older guards, backups = newer ++ file :: older →
          (∀ f ∈ newer, ∀ g, ¬ C.Recoverable f g) → C.Recoverable file guards →
          C.load main backups = .ok guards) ∧
        ((∃ e, C.load main backups = .error e) → ∀ f ∈ backups, ∀ g, ¬ C.Recoverable f g) := by
  refine ⟨?_, fun _ => of_load, fun _ => load_of_vouched, ?_⟩
  · rintro e rfl
    rfl
  rintro data state rfl hparse hver hsum
  rw [load_of_unmarshal hparse, if_neg hver, hsum]
  refine ⟨?_, ?_⟩
  · rintro newer file older guards rfl hnewer hfile
    exact (loadFromBackup_append hnewer).trans (loadFromBackup_cons hfile)
  · rintro ⟨e, he⟩
    rcases @loadFromBackup_cases _ C backups with ⟨f, hf, g, hg, hload⟩ | ⟨hnone, -⟩
    · cases hload.symm.trans he
    · exact hnone

/-- What `encoding/json` makes of an empty object. -/
def emptyObject : GuardCodec String where
  unmarshal data := if data = ascii "\x7b\x7d" then some ⟨0, [], 0, []⟩ else none
  unmarshalV1 data := if data = ascii "\x7b\x7d" then some [] else none
  marshal _ := some []
  sum256 _ := Vector.replicate 32 0

/-- An empty object in the main file is loaded, and no checksum verifies. -/
theorem load_unverified :
    emptyObject.load (.ok (ascii "\x7b\x7d")) [] = .ok [] ∧
      (emptyObject.unmarshal (ascii "\x7b\x7d")).any emptyObject.verifyChecksum = false := by
  decide

end GuardCodec

end GoTor.Path
