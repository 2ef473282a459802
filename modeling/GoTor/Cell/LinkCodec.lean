import GoTor.Cell.Link
import GoTor.Cell.Relay
import GoTor.Lib.Wire

/-!
# Cells on the wire

A cell is written with a circuit ID of two or four bytes, and a reader that uses the same width
reads the cell back, its payload padded to the fixed length (`cells_round_trip`).
-/

namespace GoTor.Cell

def Command.isVariableLength (c : Command) : Bool := c ≥ 128 || c == Command.versions

end GoTor.Cell

namespace GoTor

open GoTor.Lib GoTor.Crypto GoTor.Cell List Command

/-- `EncodeLink`: the arguments of its calls of `Write`, and the error it may end with. -/
def Cell.encodeLink (c : Cell) (circIDLen : ℕ) : List Bytes × Option String :=
  if circIDLen ≠ 2 ∧ circIDLen ≠ 4 then
    ([], some s!"invalid CircID length {circIDLen}, want 2 or 4")
  else if circIDLen = 2 ∧ c.circID > 0xFFFF then
    ([], some s!"CircID {c.circID} exceeds 2-byte CIRCID_LEN")
  else
    let head := [bytesOfNat circIDLen c.circID.toNat, [c.command]]
    if c.command.isVariableLength then
      match safeLenToUint16 c.payload with
      | .error msg => (head, some s!"payload too large for variable-length cell: {msg}")
      | .ok len => (head ++ [putUint16 len, c.payload], none)
    else if c.payload.length > payloadLen then
      (head, some s!"fixed cell payload too large: {c.payload.length} > {payloadLen}")
    else
      let padding := payloadLen - c.payload.length
      (head ++ c.payload :: if padding > 0 then [zeros padding] else [], none)

def Cell.encode (c : Cell) : List Bytes × Option String := c.encodeLink 4

/-- The calls of `Write` that put bytes on the stream. -/
def Cell.linkWrites (circIDLen : ℕ) (c : Cell) : List Bytes :=
  (c.encodeLink circIDLen).1.filter fun chunk => !chunk.isEmpty

/-- `io.ReadFull` off the front of a stream; `none` when the stream is too short. -/
def readFull (n : ℕ) (b : Bytes) : Option (Bytes × Bytes) :=
  if b.length < n then none else some (b.take n, b.drop n)

/-- The payload length `DecodeCellLink` reads or knows. -/
def decodePayloadLen (command : Command) (b : Bytes) : Option (ℕ × Bytes) :=
  if command.isVariableLength then (readFull 2 b).map fun (len, b) => (natOfBytes len, b)
  else some (payloadLen, b)

def decodeCellLink (circIDLen : ℕ) (b : Bytes) : Option (Cell × Bytes) := do
  if circIDLen ≠ 2 ∧ circIDLen ≠ 4 then none
  else
    let (id, b) ← readFull circIDLen b
    let (command, b) ← readFull 1 b
    let (len, b) ← decodePayloadLen (command.headD 0) b
    let (payload, b) ← readFull len b
    return ({ circID := UInt32.ofNat (natOfBytes id), command := command.headD 0, payload }, b)

/-- The cell as a reader sees it. -/
def Cell.padded (c : Cell) : Cell :=
  if c.command.isVariableLength then c
  else { c with payload := c.payload ++ zeros (payloadLen - c.payload.length) }

/-- The cell can be written with circuit IDs of this width. -/
def Cell.Fits (circIDLen : ℕ) (c : Cell) : Prop :=
  (circIDLen = 4 ∨ circIDLen = 2 ∧ c.circID ≤ 0xFFFF) ∧
    c.payload.length ≤ if c.command.isVariableLength then 65535 else payloadLen

section Codec

variable {c : Cell} {circIDLen n : ℕ} {b more : Bytes} {rest : Bytes}

lemma readFull_eq_some {r : Bytes} :
    readFull n b = some (r, rest) ↔ r.length = n ∧ b = r ++ rest := by
  unfold readFull
  constructor
  · intro h
    split at h
    · cases h
    · cases h
      exact ⟨length_take_of_le (by omega), (take_append_drop n b).symm⟩
  · rintro ⟨rfl, rfl⟩
    simp

lemma readFull_mono {r : Bytes} (h : readFull n b = some (r, rest)) :
    readFull n (b ++ more) = some (r, rest ++ more) := by
  obtain ⟨hlen, rfl⟩ := readFull_eq_some.1 h
  exact readFull_eq_some.2 ⟨hlen, append_assoc _ _ _⟩

variable {command : Command}

open Option

lemma decodePayloadLen_mono (h : decodePayloadLen command b = some (n, rest)) :
    decodePayloadLen command (b ++ more) = some (n, rest ++ more) := by
  unfold decodePayloadLen at h ⊢
  split at h
  next hvar =>
    rw [if_pos hvar]
    obtain ⟨⟨len, b'⟩, hread, hpair⟩ := map_eq_some_iff.1 h
    cases hpair
    rw [readFull_mono hread]
    rfl
  next hvar =>
  rw [if_neg hvar]
  cases h
  rfl

lemma decodeCellLink_mono (h : decodeCellLink circIDLen b = some (c, rest)) :
    decodeCellLink circIDLen (b ++ more) = some (c, rest ++ more) := by
  unfold decodeCellLink at h ⊢
  split at h
  · cases h
  next hwidth =>
  simp only [bind_eq_bind, bind_eq_some_iff] at h
  obtain ⟨⟨id, b1⟩, hid, ⟨command, b2⟩, hcommand, ⟨len, b3⟩, hlen, ⟨payload, b4⟩, hpayload, h⟩ := h
  cases h
  rw [if_neg hwidth]
  simp only [readFull_mono hid, readFull_mono hcommand, decodePayloadLen_mono hlen,
    readFull_mono hpayload, bind_eq_bind, bind_some]
  rfl

/-- The first two checks of `EncodeLink`. -/
lemma id_fits_iff {id : UInt32} : circIDLen = 4 ∨ circIDLen = 2 ∧ id ≤ 0xFFFF ↔
    ¬ (circIDLen ≠ 2 ∧ circIDLen ≠ 4) ∧ ¬ (circIDLen = 2 ∧ id > 0xFFFF) := by
  rw [gt_iff_lt, ← UInt32.not_le]
  by_cases hle : id ≤ 0xFFFF
  · simp only [hle, and_true, not_true, and_false, not_false_iff]
    omega
  · simp only [hle, and_false, not_false_iff, and_true, or_false]
    omega

lemma flatten_linkWrites (hfits : c.Fits circIDLen) :
    (c.linkWrites circIDLen).flatten = bytesOfNat circIDLen c.circID.toNat ++ ([c.command] ++
      ((if c.command.isVariableLength then bytesOfNat 2 c.payload.length else []) ++ c.padded.payload)) := by
  obtain ⟨hwidth, hlen⟩ := hfits
  obtain ⟨hwidths, hnarrow⟩ := id_fits_iff.1 hwidth
  rw [linkWrites, flatten_filter_not_isEmpty, encodeLink, if_neg hwidths, if_neg hnarrow]
  by_cases hvar : c.command.isVariableLength = true
  · rw [if_pos hvar] at hlen
    have hlen16 : (UInt16.ofNat c.payload.length).toNat = c.payload.length := by
      rw [UInt16.toNat_ofNat']
      omega
    simp only [hvar, safeLenToUint16, if_neg (Nat.not_lt.2 hlen), padded, putUint16, hlen16]
    simp
  · rw [if_neg hvar] at hlen
    simp only [hvar, if_neg (Nat.not_lt.2 hlen), padded]
    -- a full payload is not padded
    by_cases hfull : payloadLen - c.payload.length > 0
    · simp [hfull]
    · simp [Nat.eq_zero_of_not_pos hfull, zeros]

lemma eq_padded :
    { circID := c.circID, command := c.command, payload := c.padded.payload } = c.padded := by
  unfold padded
  split <;> rfl

lemma decodePayloadLen_padded (hfits : c.Fits circIDLen) : decodePayloadLen c.command
      ((if c.command.isVariableLength then bytesOfNat 2 c.payload.length else []) ++
        c.padded.payload) = some (c.padded.payload.length, c.padded.payload) := by
  have hlen := hfits.2
  unfold decodePayloadLen
  by_cases hvar : c.command.isVariableLength = true
  · rw [if_pos hvar] at hlen
    have hnum : natOfBytes (bytesOfNat 2 c.payload.length) = c.payload.length :=
      natOfBytes_bytesOfNat (by omega)
    have hpadded : c.padded = c := if_pos hvar
    rw [if_pos hvar, if_pos hvar, hpadded]
    exact congrArg (fun len => some (len, c.payload)) hnum
  · rw [if_neg hvar] at hlen
    have hpadded : c.padded.payload = c.payload ++ zeros (payloadLen - c.payload.length) := by
      rw [padded, if_neg hvar]
    have hpad : c.padded.payload.length = payloadLen := by
      rw [hpadded, length_append, zeros, length_replicate]
      omega
    rw [if_neg hvar, if_neg hvar, nil_append, hpad]

lemma linkWrites_whole (hfits : c.Fits circIDLen) :
    decodeCellLink circIDLen (c.linkWrites circIDLen).flatten = some (c.padded, []) := by
  have hwidth : ¬ (circIDLen ≠ 2 ∧ circIDLen ≠ 4) := by
    have := hfits.1
    omega
  have hnum : UInt32.ofNat (natOfBytes (bytesOfNat circIDLen c.circID.toNat)) = c.circID := by
    rw [natOfBytes_bytesOfNat, UInt32.ofNat_toNat]
    rcases hfits.1 with rfl | ⟨rfl, hle⟩
    · exact c.circID.toNat_lt
    · exact Nat.lt_succ_of_le (UInt32.le_iff_toNat_le.1 hle)
  have hread {n : ℕ} {r rest : Bytes} (h : r.length = n) : readFull n (r ++ rest) = some (r, rest) :=
    readFull_eq_some.2 ⟨h, rfl⟩
  have hpayload : readFull c.padded.payload.length c.padded.payload = some (c.padded.payload, []) := by
    simp [readFull]
  rw [flatten_linkWrites hfits, decodeCellLink, if_neg hwidth]
  simp only [hread (length_bytesOfNat _ _), hread (length_singleton), headD_cons, decodePayloadLen_padded hfits, hpayload, hnum,
    bind_eq_bind, bind_some]
  exact congrArg (fun cell => some (cell, [])) eq_padded

lemma framing_link (circIDLen : ℕ) :
    Framing (Cell.Fits circIDLen) (linkWrites circIDLen) padded (decodeCellLink circIDLen) where
  nonempty c hfits := by
    intro hnil
    have := flatten_linkWrites hfits
    rw [hnil] at this
    simp at this
  chunk_ne c _ chunk hchunk := by
    have := (mem_filter.1 hchunk).2
    simpa using this
  whole c hfits := linkWrites_whole hfits
  mono b c rest more h := decodeCellLink_mono h
  nil := by
    unfold decodeCellLink
    split
    · rfl
    next hwidth =>
    have hpos : ([] : Bytes).length < circIDLen := by
      rw [length_nil]
      omega
    rw [readFull, if_pos hpos]
    rfl

/-! ### Reading a list of cells back -/

/-- As many calls of `DecodeCellLink`, one after the other. -/
def decodeCellsLink (circIDLen : ℕ) : ℕ → Bytes → Option (List Cell × Bytes)
  | 0, b => some ([], b)
  | n + 1, b => do
    let (c, b) ← decodeCellLink circIDLen b
    let (cells, b) ← decodeCellsLink circIDLen n b
    return (c :: cells, b)

lemma encodeLink_accepts : (c.encodeLink circIDLen).2 = none ↔ c.Fits circIDLen := by
  unfold encodeLink Cell.Fits safeLenToUint16
  by_cases hwidth : circIDLen ≠ 2 ∧ circIDLen ≠ 4
  · rw [if_pos hwidth]
    simp [hwidth.1, hwidth.2]
  rw [if_neg hwidth]
  by_cases hnarrow : circIDLen = 2 ∧ c.circID > 0xFFFF
  · rw [if_pos hnarrow]
    simp [hnarrow.1, UInt32.not_le.2 hnarrow.2]
  have hid := id_fits_iff.2 ⟨hwidth, hnarrow⟩
  rw [if_neg hnarrow]
  by_cases hvar : c.command.isVariableLength = true
  · by_cases hlen : c.payload.length > 65535 <;> simp [hvar, hlen, hid]
    omega
  · by_cases hlen : c.payload.length > payloadLen <;> simp [hvar, hlen, hid]
    omega

lemma of_decodePayloadLen (h : decodePayloadLen command b = some (n, rest)) :
    (if command.isVariableLength then n ≤ 65535 else n = payloadLen) ∧
      (if command.isVariableLength then bytesOfNat 2 n else []) ++ rest = b := by
  unfold decodePayloadLen at h
  split at h
  next hvar =>
    obtain ⟨⟨len, b'⟩, hread, hpair⟩ := map_eq_some_iff.1 h
    cases hpair
    obtain ⟨hlen, hb⟩ := readFull_eq_some.1 hread
    have hlt := natOfBytes_lt len
    have hbytes := bytesOfNat_natOfBytes len
    rw [hlen] at hlt hbytes
    rw [if_pos hvar, if_pos hvar, hbytes]
    exact ⟨Nat.le_of_lt_succ hlt, hb.symm⟩
  next hvar =>
  cases h
  rw [if_neg hvar, if_neg hvar]
  exact ⟨rfl, rfl⟩

lemma encode_of_decodeCellLink (h : decodeCellLink circIDLen b = some (c, rest)) :
    c.Fits circIDLen ∧ (c.linkWrites circIDLen).flatten ++ rest = b := by
  unfold decodeCellLink at h
  split at h
  · cases h
  next hwidth =>
  simp only [bind_eq_bind, bind_eq_some_iff] at h
  obtain ⟨⟨id, b1⟩, hid, ⟨command, b2⟩, hcommand, ⟨len, b3⟩, hlen, ⟨payload, b4⟩, hpayload, h⟩ := h
  cases h
  dsimp only at hcommand hlen hpayload
  obtain ⟨hidLen, hb⟩ := readFull_eq_some.1 hid
  obtain ⟨hone, hb1⟩ := readFull_eq_some.1 hcommand
  obtain ⟨hpayloadLen, hb3⟩ := readFull_eq_some.1 hpayload
  obtain ⟨cmd, rfl⟩ := length_eq_one_iff.1 hone
  rw [headD_cons] at hlen ⊢
  obtain ⟨hbound, hb2⟩ := of_decodePayloadLen hlen
  rw [← hpayloadLen] at hbound hb2
  have hlt : natOfBytes id < 256 ^ circIDLen := hidLen ▸ natOfBytes_lt id
  have hsmall : natOfBytes id < 2 ^ 32 ∧ (circIDLen = 2 → natOfBytes id ≤ 0xFFFF) := by
    rcases (by omega : circIDLen = 4 ∨ circIDLen = 2) with rfl | rfl <;> omega
  have hnum : (UInt32.ofNat (natOfBytes id)).toNat = natOfBytes id :=
    UInt32.toNat_ofNat_of_lt' hsmall.1
  -- the ID fits the width it was read with
  have hfits : Cell.Fits circIDLen ⟨UInt32.ofNat (natOfBytes id), cmd, payload⟩ := by
    constructor
    · rcases (by omega : circIDLen = 4 ∨ circIDLen = 2) with hfour | htwo
      · exact .inl hfour
      · refine .inr ⟨htwo, UInt32.le_iff_toNat_le.2 ?_⟩
        rw [hnum]
        exact hsmall.2 htwo
    · show payload.length ≤ if isVariableLength cmd then 65535 else payloadLen
      split at hbound
      next hvar => rwa [if_pos hvar]
      next hvar =>
        rw [if_neg hvar]
        exact Nat.le_of_eq hbound
  have hpadded : (padded ⟨UInt32.ofNat (natOfBytes id), cmd, payload⟩).payload = payload := by
    unfold padded
    split at hbound
    next hvar => rw [if_pos hvar]
    next hvar => simp [hbound, zeros]
  refine ⟨hfits, ?_⟩
  rw [flatten_linkWrites hfits, hpadded, hnum, ← hidLen, bytesOfNat_natOfBytes, hb, hb1, ← hb2, hb3]
  simp

/-- **Cells and their encodings determine each other.**  The encodings of accepted cells, one after
the other, decode to these cells, padded, and nothing is left over; and a decoded cell is encoded
as the bytes it was read from. -/
theorem cells_round_trip (circIDLen : ℕ) :
    (∀ cells : List Cell, (∀ c ∈ cells, (c.encodeLink circIDLen).2 = none) → decodeCellsLink circIDLen cells.length
          (cells.flatMap fun c => (c.encodeLink circIDLen).1.flatten) =
        some (cells.map Cell.padded, [])) ∧
    ∀ b c rest, decodeCellLink circIDLen b = some (c, rest) →
      (c.encodeLink circIDLen).2 = none ∧ (c.encodeLink circIDLen).1.flatten ++ rest = b := by
  have hwrites : ∀ c : Cell, (c.linkWrites circIDLen).flatten = (c.encodeLink circIDLen).1.flatten :=
    fun c => by rw [linkWrites, flatten_filter_not_isEmpty]
  refine ⟨fun cells hcells => ?_, fun b c rest hdecode => ?_⟩
  · induction cells with
    | nil => rfl
    | cons c cells ih =>
      have hfits := encodeLink_accepts.1 (hcells c mem_cons_self)
      have hfirst := (framing_link circIDLen).mono _ _ _
        (cells.flatMap fun c => (c.encodeLink circIDLen).1.flatten) (linkWrites_whole hfits)
      rw [flatMap_cons, length_cons, decodeCellsLink, ← hwrites, hfirst]
      simp [ih fun c' hc' => hcells c' (mem_cons_of_mem c hc')]
  · obtain ⟨hfits, hbytes⟩ := encode_of_decodeCellLink hdecode
    exact ⟨encodeLink_accepts.2 hfits, hwrites c ▸ hbytes⟩

def greeting : List Cell := [⟨0, versions, [0, 4]⟩, ⟨0x8001, create2, [0, 2]⟩]

theorem cells_round_trip_greeting :
    decodeCellsLink 2 greeting.length (greeting.flatMap fun c => (c.encodeLink 2).1.flatten) =
      some (greeting.map Cell.padded, []) :=
  (cells_round_trip 2).1 greeting (by decide)

/-- **A cell is refused before its first byte is written exactly when something other than the
payload's length is wrong with it**: the length is looked at after the circuit ID and the command
are written. -/
theorem refused_unwritten_iff (c : Cell) (circIDLen : ℕ) :
    ((c.encodeLink circIDLen).2 ≠ none → (c.encodeLink circIDLen).1.flatten = []) ↔
      c.payload.length ≤ (if c.command.isVariableLength then 65535 else payloadLen) ∨
        ¬ (circIDLen = 4 ∨ circIDLen = 2 ∧ c.circID ≤ 0xFFFF) := by
  rw [ne_eq, encodeLink_accepts, Cell.Fits]
  by_cases hid : circIDLen = 4 ∨ circIDLen = 2 ∧ c.circID ≤ 0xFFFF
  · have hwritten : (c.encodeLink circIDLen).1.flatten ≠ [] := by
      obtain ⟨hwidths, hnarrow⟩ := id_fits_iff.1 hid
      rw [encodeLink, if_neg hwidths, if_neg hnarrow]
      split
      · split <;> simp
      · split <;> simp
    simp [hid, hwritten]
  · have hnothing : (c.encodeLink circIDLen).1 = [] := by
      unfold encodeLink
      split
      · rfl
      split
      · rfl
      next hwidths hnarrow => exact absurd (id_fits_iff.2 ⟨hwidths, hnarrow⟩) hid
    simp [hid, hnothing]

/-- A RELAY cell with one byte too many: its circuit ID and its command are written. -/
theorem long_cell_begun :
    (Cell.encodeLink ⟨1, relay, zeros 510⟩ 4).1 = [[0, 0, 0, 1], [relay]] ∧
      (Cell.encodeLink ⟨1, relay, zeros 510⟩ 4).2 ≠ none := by
  decide +kernel

end Codec

end GoTor
