import GoTor.Onion.HsdirRing

/-!
# Where a descriptor is uploaded to and fetched from

`FetchDescriptor` and `publishDescriptor` choose directories in the same way, one with the fetch
spread and the other with the store spread: on the ring of the shared random value in use, joined
with the ring of the other one, and by the distance of fingerprints where there is no ring.
-/

namespace GoTor.Onion

open GoTor.Lib

section Select

variable (sha3 : Bytes → Vector UInt8 32)

/-! ### The choice by distance -/

def computeDescriptorID (blindedPubkey : Bytes) : Bytes := (sha3 blindedPubkey).toList

def computeReplicaDescriptorID (baseDescriptorID : Bytes) (replica : UInt8) : Bytes :=
  (sha3 (baseDescriptorID ++ [replica])).toList

/-- One sweep of the exchange sort: the least element comes to the front. -/
def sweep (closer : Bytes → Bytes → Bool) :
    HSDirectory × Bytes → List (HSDirectory × Bytes) → (HSDirectory × Bytes) × List (HSDirectory × Bytes)
  | x, [] => (x, [])
  | x, y :: rest =>
    if closer y.2 x.2 then
      let (m, rest) := sweep closer y rest
      (m, x :: rest)
    else
      let (m, rest) := sweep closer x rest
      (m, y :: rest)

/-- The exchange sort of `SelectHSDirs`; `n` is the length of the list. -/
def exchangeSort (closer : Bytes → Bytes → Bool) :
    (n : ℕ) → List (HSDirectory × Bytes) → List (HSDirectory × Bytes)
  | 0, l => l
  | _, [] => []
  | n + 1, x :: rest =>
    let (m, rest) := sweep closer x rest
    m :: exchangeSort closer n rest

def selectHSDirs (descriptorID : Bytes) (hsdirs : List HSDirectory) (replica : UInt8) : List HSDirectory :=
  let replicaDescID := computeReplicaDescriptorID sha3 descriptorID replica
  let distances := hsdirs.map fun d => (d, xorBytes d.fingerprint replicaDescID)
  let sorted := exchangeSort (fun a b => compareBytes b a == .gt) distances.length distances
  (sorted.take 3).map (·.1)

/-! ### The choice on two rings -/

/-- The directories of `extra` whose fingerprint is new are added. -/
def mergeSelected (selected extra : List HSDirectory) : List HSDirectory :=
  extra.foldl (fun out d => if d.fingerprint ∈ out.map (·.fingerprint) then out else out ++ [d]) selected

/-- What the directory protocol is told of the consensus. -/
structure HSDirView where
  hsdirs : List HSDirectory
  sharedRandCurrent : Bytes := []
  sharedRandPrev : Bytes := []
  ringParams : HSDirRingParams := {}

/-- The shared random value that goes with the time of day, whether it is there or not. -/
def HSDirView.usual (view : HSDirView) (now : ℤ) : Bytes :=
  if useCurrentSRVForFetch now then view.sharedRandCurrent else view.sharedRandPrev

def HSDirView.other (view : HSDirView) (now : ℤ) : Bytes :=
  if useCurrentSRVForFetch now then view.sharedRandPrev else view.sharedRandCurrent

/-- The choice on the ring of `srv`; if there is none, on the ring of `alt`. -/
def selectOn (choose : Bytes → List HSDirectory) (srv alt : Bytes) : List HSDirectory :=
  let selected := choose srv
  if selected = [] ∧ alt.length = 32 ∧ (srv.length ≠ 32 ∨ alt ≠ srv) then choose alt else selected

/-- What `FetchDescriptor` and `publishDescriptor` have in common; `choose` is the choice on the
ring of a shared random value. -/
def selectAcrossSRVs (choose : Bytes → List HSDirectory) (descriptorID : Bytes) (now : ℤ)
    (view : HSDirView) : List HSDirectory :=
  let srv := selectSRVForFetch sha3 now (getTimePeriod now) view.sharedRandCurrent view.sharedRandPrev
  let selected := selectOn choose srv (view.usual now)
  if selected = [] then
    selectHSDirs sha3 descriptorID view.hsdirs 0 ++ selectHSDirs sha3 descriptorID view.hsdirs 1
  else if (view.other now).length = 32 then mergeSelected selected (choose (view.other now))
  else selected

/-- The directories `FetchDescriptor` asks for a blinded key, in turn. -/
def fetchTargets (now : ℤ) (view : HSDirView) (blindedPubkey : Bytes) : List HSDirectory :=
  let rp := view.ringParams.withDefaults
  selectAcrossSRVs sha3 (fun srv => selectResponsibleHSDirs sha3 blindedPubkey view.hsdirs srv
    (getTimePeriod now) rp.nReplicas rp.spreadFetch) (computeDescriptorID sha3 blindedPubkey) now
    view

/-- The directories `publishDescriptor` uploads the descriptor of a blinded key to. -/
def uploadTargets (now : ℤ) (view : HSDirView) (blindedPubkey : Bytes) : List HSDirectory :=
  let rp := view.ringParams.withDefaults
  selectAcrossSRVs sha3 (fun srv => selectResponsibleHSDirsStore sha3 blindedPubkey view.hsdirs
    srv (getTimePeriod now) rp.nReplicas rp.spreadStore)
    (computeDescriptorID sha3 blindedPubkey) now view

end Select

/-! ### What is chosen -/

section Facts

variable {sha3 : Bytes → Vector UInt8 32} {d : HSDirectory}

lemma mem_mergeSelected {selected extra : List HSDirectory}
    (h : d ∈ mergeSelected selected extra) : d ∈ selected ∨ d ∈ extra := by
  unfold mergeSelected at h
  induction extra generalizing selected with
  | nil => exact .inl h
  | cons x extra ih =>
    rw [List.foldl_cons] at h
    rcases ih h with h | h
    · split at h
      · exact .inl h
      · rcases List.mem_append.1 h with h | h
        · exact .inl h
        · exact .inr (List.mem_cons.2 (.inl (List.mem_singleton.1 h)))
    · exact .inr (List.mem_cons_of_mem _ h)

lemma subset_mergeSelected (selected extra : List HSDirectory) :
    ∃ more, mergeSelected selected extra = selected ++ more := by
  unfold mergeSelected
  induction extra generalizing selected with
  | nil => exact ⟨[], (List.append_nil _).symm⟩
  | cons x extra ih =>
    rw [List.foldl_cons]
    obtain ⟨more, hmore⟩ := ih (if x.fingerprint ∈ selected.map (·.fingerprint) then selected else selected ++ [x])
    rw [hmore]
    split
    · exact ⟨more, rfl⟩
    · exact ⟨x :: more, by rw [List.append_assoc, List.singleton_append]⟩

lemma selectSRVForFetch_cases (sha3 : Bytes → Vector UInt8 32) (now : ℤ) (periodNum : ℕ) (current previous : Bytes) :
    (selectSRVForFetch sha3 now periodNum current previous = current ∧ current.length = 32) ∨
    (selectSRVForFetch sha3 now periodNum current previous = previous ∧ previous.length = 32) ∨
    (selectSRVForFetch sha3 now periodNum current previous = disasterSRV sha3 periodNum ∧
      current.length ≠ 32 ∧ previous.length ≠ 32) := by
  by_cases hc : current.length = 32 <;> by_cases hp : previous.length = 32 <;>
    cases hw : useCurrentSRVForFetch now <;> simp [selectSRVForFetch, hc, hp, hw]

/-- The shared random values whose ring a directory may be chosen on. -/
def SrvInUse (sha3 : Bytes → Vector UInt8 32) (view : HSDirView) (periodNum : ℕ) (srv : Bytes) : Prop :=
  (srv = view.sharedRandCurrent ∧ srv.length = 32) ∨ (srv = view.sharedRandPrev ∧ srv.length = 32) ∨
    (srv = disasterSRV sha3 periodNum ∧ view.sharedRandCurrent.length ≠ 32 ∧ view.sharedRandPrev.length ≠ 32)

lemma srvInUse_selectSRVForFetch (view : HSDirView) (now : ℤ) (periodNum : ℕ) :
    SrvInUse sha3 view periodNum (selectSRVForFetch sha3 now periodNum view.sharedRandCurrent
      view.sharedRandPrev) := by
  rcases selectSRVForFetch_cases sha3 now periodNum view.sharedRandCurrent view.sharedRandPrev with
    ⟨h, hlen⟩ | ⟨h, hlen⟩ | ⟨h, hlen⟩
  · exact .inl ⟨h, by rw [h, hlen]⟩
  · exact .inr (.inl ⟨h, by rw [h, hlen]⟩)
  · exact .inr (.inr ⟨h, hlen⟩)

variable {view : HSDirView}

lemma SrvInUse.length {periodNum : ℕ} {srv : Bytes} (h : SrvInUse sha3 view periodNum srv) : srv.length = 32 := by
  rcases h with ⟨-, h⟩ | ⟨-, h⟩ | ⟨rfl, -⟩
  · exact h
  · exact h
  · exact Vector.length_toList

variable {closer : Bytes → Bytes → Bool} {y : HSDirectory × Bytes} {l : List (HSDirectory × Bytes)}
  {descriptorID : Bytes} {now : ℤ}

lemma mem_sweep {x : HSDirectory × Bytes}
    (h : y = (sweep closer x l).1 ∨ y ∈ (sweep closer x l).2) : y ∈ x :: l := by
  induction l generalizing x with
  | nil => simpa [sweep] using h
  | cons z l ih =>
    unfold sweep at h
    split at h
    · have := @ih z
      simp only [List.mem_cons] at h this ⊢
      rcases h with h | h | h
      · exact .inr (this (.inl h))
      · exact .inl h
      · exact .inr (this (.inr h))
    · have := @ih x
      simp only [List.mem_cons] at h this ⊢
      rcases h with h | h | h
      · exact (this (.inl h)).imp id .inr
      · exact .inr (.inl h)
      · exact (this (.inr h)).imp id .inr

lemma mem_exchangeSort {n : ℕ} (h : y ∈ exchangeSort closer n l) : y ∈ l := by
  induction n generalizing l with
  | zero => exact h
  | succ n ih =>
    cases l with
    | nil => exact h
    | cons x l =>
      rcases List.mem_cons.1 h with h | h
      · exact mem_sweep (.inl h)
      · exact mem_sweep (.inr (ih h))

lemma mem_selectHSDirs {hsdirs : List HSDirectory} {replica : UInt8}
    (h : d ∈ selectHSDirs sha3 descriptorID hsdirs replica) : d ∈ hsdirs := by
  simp only [selectHSDirs, List.mem_map] at h
  obtain ⟨x, hx, rfl⟩ := h
  have hmem := mem_exchangeSort (List.mem_of_mem_take hx)
  rw [List.mem_map] at hmem
  obtain ⟨d, hd, rfl⟩ := hmem
  exact hd

variable {periodNum : ℕ}

lemma srvInUse_usual (h : (view.usual now).length = 32) : SrvInUse sha3 view periodNum (view.usual now) := by
  by_cases hw : useCurrentSRVForFetch now = true
  · exact .inl ⟨if_pos hw, h⟩
  · exact .inr (.inl ⟨if_neg hw, h⟩)

lemma srvInUse_other (h : (view.other now).length = 32) : SrvInUse sha3 view periodNum (view.other now) := by
  by_cases hw : useCurrentSRVForFetch now = true
  · exact .inr (.inl ⟨if_pos hw, h⟩)
  · exact .inl ⟨if_neg hw, h⟩

lemma mem_selectAcrossSRVs {choose : Bytes → List HSDirectory}
    (h : d ∈ selectAcrossSRVs sha3 choose descriptorID now view) :
    (∃ srv, SrvInUse sha3 view (getTimePeriod now) srv ∧ d ∈ choose srv) ∨
      (choose (selectSRVForFetch sha3 now (getTimePeriod now) view.sharedRandCurrent
        view.sharedRandPrev) = [] ∧ d ∈ view.hsdirs) := by
  have hsel := @srvInUse_selectSRVForFetch sha3 view now (getTimePeriod now)
  simp only [selectAcrossSRVs] at h
  generalize selectSRVForFetch sha3 now (getTimePeriod now) view.sharedRandCurrent
    view.sharedRandPrev = srv at h hsel ⊢
  have hon : d ∈ selectOn choose srv (view.usual now) →
      ∃ srv, SrvInUse sha3 view (getTimePeriod now) srv ∧ d ∈ choose srv := by
    intro hd
    simp only [selectOn] at hd
    split at hd
    · next hc => exact ⟨_, srvInUse_usual hc.2.1, hd⟩
    · exact ⟨_, hsel, hd⟩
  split at h
  · next hnil =>
    have hempty : choose srv = [] := by
      by_contra hne
      rw [selectOn, if_neg (fun hc => hne hc.1)] at hnil
      exact hne hnil
    rcases List.mem_append.1 h with h | h
    · exact .inr ⟨hempty, mem_selectHSDirs h⟩
    · exact .inr ⟨hempty, mem_selectHSDirs h⟩
  · split at h
    · next hlen =>
      rcases mem_mergeSelected h with h | h
      · exact .inl (hon h)
      · exact .inl ⟨_, srvInUse_other hlen, h⟩
    · exact .inl (hon h)

end Facts

end GoTor.Onion
