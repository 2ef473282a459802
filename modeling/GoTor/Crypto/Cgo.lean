import GoTor.Lib.BlockCipher
import GoTor.Lib.Result
import GoTor.Lib.Run

/-!
# Counter Galois Onion encryption

One direction of one hop keeps a key of the rugged pseudorandom permutation (`UIV`), a nonce
and the tag of the previous cell.  The relay runs the permutation forwards (`encUIV`), the
client backwards (`decUIV`); the party a cell is meant for finds the nonce in its first
block, and both then move on to fresh keys.

The functions below are those of `polyval.go` and `cgo.go`.  A failing call leaves the direction as it was:
the only failure is a cell of the wrong length, and it is found before anything is written.
-/

namespace GoTor.Crypto

open GoTor.Lib List

/-! ### POLYVAL

The field multiplication is carried out with 64-bit integer products on operands whose bits are
spread out, once on the operands and once on their bit reversals. -/

def reverse64 (x : UInt64) : UInt64 := UInt64.ofBitVec x.toBitVec.reverse

/-- `binary.LittleEndian.Uint64` of the eight bytes of `b` from offset `off` on. -/
def leUint64 (b : Bytes) (off : ℕ) : UInt64 :=
  (range 8).foldr (fun i n => n <<< 8 ||| (b.getD (off + i) 0).toUInt64) 0

/-- `binary.LittleEndian.PutUint64`. -/
def putLeUint64 (x : UInt64) : Bytes :=
  (range 8).map fun i => (x >>> (8 * i).toUInt64).toUInt8

def bmul64 (x y : UInt64) : UInt64 :=
  let x0 := x &&& 0x1111111111111111
  let x1 := x &&& 0x2222222222222222
  let x2 := x &&& 0x4444444444444444
  let x3 := x &&& 0x8888888888888888
  let y0 := y &&& 0x1111111111111111
  let y1 := y &&& 0x2222222222222222
  let y2 := y &&& 0x4444444444444444
  let y3 := y &&& 0x8888888888888888
  let z0 := (x0 * y0) ^^^ (x1 * y3) ^^^ (x2 * y2) ^^^ (x3 * y1)
  let z1 := (x0 * y1) ^^^ (x1 * y0) ^^^ (x2 * y3) ^^^ (x3 * y2)
  let z2 := (x0 * y2) ^^^ (x1 * y1) ^^^ (x2 * y0) ^^^ (x3 * y3)
  let z3 := (x0 * y3) ^^^ (x1 * y2) ^^^ (x2 * y1) ^^^ (x3 * y0)
  (z0 &&& 0x1111111111111111) ||| (z1 &&& 0x2222222222222222) |||
    (z2 &&& 0x4444444444444444) ||| (z3 &&& 0x8888888888888888)

def polyvalMul64 (y0 y1 h0 h1 : UInt64) : UInt64 × UInt64 :=
  let h0r := reverse64 h0
  let h1r := reverse64 h1
  let h2 := h0 ^^^ h1
  let h2r := h0r ^^^ h1r
  let y0r := reverse64 y0
  let y1r := reverse64 y1
  let y2 := y0 ^^^ y1
  let y2r := y0r ^^^ y1r
  let z0 := bmul64 y0 h0
  let z1 := bmul64 y1 h1
  let z2 := bmul64 y2 h2 ^^^ (z0 ^^^ z1)
  let z0h := bmul64 y0r h0r
  let z1h := bmul64 y1r h1r
  let z2h := bmul64 y2r h2r ^^^ (z0h ^^^ z1h)
  let z0h := reverse64 z0h >>> 1
  let z1h := reverse64 z1h >>> 1
  let z2h := reverse64 z2h >>> 1
  let v0 := z0
  let v1 := z0h ^^^ z2
  let v2 := z1 ^^^ z2h
  let v3 := z1h
  let v2 := v2 ^^^ (v0 ^^^ (v0 >>> 1) ^^^ (v0 >>> 2) ^^^ (v0 >>> 7))
  let v1 := v1 ^^^ ((v0 <<< 63) ^^^ (v0 <<< 62) ^^^ (v0 <<< 57))
  let v3 := v3 ^^^ (v1 ^^^ (v1 >>> 1) ^^^ (v1 >>> 2) ^^^ (v1 >>> 7))
  let v2 := v2 ^^^ ((v1 <<< 63) ^^^ (v1 <<< 62) ^^^ (v1 <<< 57))
  (v2, v3)

/-- The 16-byte blocks the hash loop reads, the last one padded with zeros. -/
def polyvalBlocks (data : Bytes) : List Bytes :=
  (range ((data.length + 15) / 16)).map fun i =>
    (Block.copyOf (data.drop (16 * i))).toList

/-- POLYVAL of `data` under the key `h`; a key of the wrong length gives the zero block. -/
def polyval (h data : Bytes) : Block :=
  if h.length ≠ 16 then Block.copyOf []
  else
    let y := (polyvalBlocks data).foldl (fun (y : UInt64 × UInt64) blk =>
      polyvalMul64 (y.1 ^^^ leUint64 blk 0) (y.2 ^^^ leUint64 blk 8) (leUint64 h 0) (leUint64 h 8))
      (0, 0)
    Block.copyOf (putLeUint64 y.1 ++ putLeUint64 y.2)

/-! ### One direction -/

def cgoMsgLen : ℕ := 509

def cgoPayloadLen : ℕ := 493

def cgoDirKeyLen : ℕ := 80

def cgoKeyMaterialLen : ℕ := 160

/-- The state of one direction: the four keys of the permutation, the nonce `N` and the
chained tag `T'`. -/
structure CGODir where
  etKB : Bytes
  etKU : Bytes
  prfK : Bytes
  prfB : Bytes
  nonce : Block
  tprime : Block
  deriving DecidableEq

/-- The two directions of one hop. -/
@[ext]
structure CGOPair where
  fwd : CGODir
  back : CGODir
  deriving DecidableEq

def newCGODir (keys : Bytes) : Except String CGODir :=
  if keys.length ≠ cgoDirKeyLen then
    .error s!"CGO direction key length {keys.length}, want {cgoDirKeyLen}"
  else
    .ok { etKB := slice keys 0 16
          etKU := slice keys 16 32
          prfK := slice keys 32 48
          prfB := slice keys 48 64
          nonce := Block.copyOf (slice keys 64 80)
          tprime := Block.copyOf [] }

/-- `NewCGOPairFromKeyMaterial` and `NewCGORelayPairFromKeyMaterial`: the two differ only in
a flag that no operation reads. -/
def newCGOPairFromKeyMaterial (keys : Bytes) : Except String CGOPair :=
  if keys.length ≠ cgoKeyMaterialLen then
    .error s!"CGO key material length {keys.length}, want {cgoKeyMaterialLen}"
  else do
    let fwd ← newCGODir (keys.take cgoDirKeyLen)
    let back ← newCGODir (keys.drop cgoDirKeyLen)
    return { fwd, back }

def cellLengthError (cell : Bytes) : String :=
  s!"CGO cell length {cell.length}, want {cgoMsgLen}"

namespace CGODir

variable (aes : BlockCipher) (d : CGODir) (ad : UInt8)

/-- The mask of the tweakable block cipher, over the tweak `T' || AD || X_R`. -/
def etMask (tprime : Block) (xr : Bytes) : Block :=
  polyval d.etKU (tprime.toList ++ ad :: xr)

def encET (tprime : Block) (xr : Bytes) (m : Block) : Block :=
  (aes d.etKB (m.xor (d.etMask ad tprime xr))).xor (d.etMask ad tprime xr)

def decET (tprime : Block) (xr : Bytes) (m : Block) : Block :=
  ((aes d.etKB).symm (m.xor (d.etMask ad tprime xr))).xor (d.etMask ad tprime xr)

def prfCTR (t : Block) (bit : UInt8) (n : ℕ) : Bytes :=
  let h := polyval d.prfB t.toList
  let h15 := (h.get 15 &&& 0xC0) + if bit ≠ 0 then 31 else 0
  keyStream (aes d.prfK) (h.set 15 h15) 0 n

def prfXOR0 (yl : Block) (xr : Bytes) : Bytes := xorBytes xr (d.prfCTR aes yl 0 cgoPayloadLen)

/-- Move on to the keys and the nonce the pseudorandom function gives on the old nonce. -/
def updateUIV : CGODir :=
  let ks := d.prfCTR aes d.nonce 1 80
  { d with
    etKB := slice ks 0 16
    etKU := slice ks 16 32
    prfK := slice ks 32 48
    prfB := slice ks 48 64
    nonce := Block.copyOf (ks.drop 64) }

variable (cell : Bytes)

def encUIV : Except String Bytes :=
  if cell.length ≠ cgoMsgLen then .error (cellLengthError cell)
  else
    let xr := cell.drop 16
    let yl := d.encET aes ad d.tprime xr (Block.copyOf cell)
    .ok (yl.toList ++ d.prfXOR0 aes yl xr)

def decUIV : Except String Bytes :=
  if cell.length ≠ cgoMsgLen then .error (cellLengthError cell)
  else
    let yl := Block.copyOf cell
    let xr := d.prfXOR0 aes yl (cell.drop 16)
    .ok ((d.decET aes ad d.tprime xr yl).toList ++ xr)

/-- The client's layer for a hop the cell only passes. -/
def clientForward : Except String (CGODir × Bytes) := do
  let out ← d.decUIV aes ad cell
  return ({ d with tprime := Block.copyOf cell }, out)

/-- The client's innermost layer, for the hop the cell is meant for, with the SENDME tag. -/
def clientOriginate : Except String (CGODir × Bytes × Bytes) :=
  if cell.length ≠ cgoMsgLen then .error (cellLengthError cell)
  else do
    let (d', out) ← d.clientForward aes ad (overwrite 0 d.nonce.toList cell)
    return (d'.updateUIV aes, out, out.take 16)

/-- The client takes one layer off an inbound cell; a tag comes with a recognised one. -/
def clientBackward : Except String (CGODir × Bytes × Option Bytes) := do
  let tOrig := Block.copyOf cell
  let out ← d.decUIV aes ad cell
  let d' := { d with tprime := tOrig }
  if Block.copyOf out = d.nonce then
    return (updateUIV aes { d' with nonce := tOrig }, out, some tOrig.toList)
  else return (d', out, none)

/-- The relay takes its layer off an outbound cell; a tag comes with a recognised one. -/
def relayForward : Except String (CGODir × Bytes × Option Bytes) := do
  let lastTag := Block.copyOf cell
  let out ← d.encUIV aes ad cell
  let d' := { d with tprime := Block.copyOf out }
  if Block.copyOf out = d.nonce then return (d'.updateUIV aes, out, some lastTag.toList)
  else return (d', out, none)

/-- The relay adds its layer to an inbound cell that only passes it. -/
def relayBackward : Except String (CGODir × Bytes) := do
  let out ← d.encUIV aes ad cell
  return ({ d with tprime := Block.copyOf out }, out)

/-- The relay sends an inbound cell of its own, with the SENDME tag. -/
def relayOriginate : Except String (CGODir × Bytes × Bytes) :=
  if cell.length ≠ cgoMsgLen then .error (cellLengthError cell)
  else do
    let out ← d.encUIV aes ad (overwrite 0 d.nonce.toList cell)
    let t := Block.copyOf out
    return (updateUIV aes { d with tprime := t, nonce := t }, out, t.toList)

end CGODir

/-! ### The permutation and its inverse -/

namespace CGODir

variable {aes : BlockCipher} {d d' : CGODir} {ad : UInt8} {cell out tag : Bytes}

@[simp] lemma encET_decET (tprime : Block) (xr : Bytes) (m : Block) :
    d.encET aes ad tprime xr (d.decET aes ad tprime xr m) = m := by
  simp [encET, decET]

@[simp] lemma decET_encET (tprime : Block) (xr : Bytes) (m : Block) :
    d.decET aes ad tprime xr (d.encET aes ad tprime xr m) = m := by
  simp [encET, decET]

variable {yl : Block} {xr : Bytes}

lemma length_prfXOR0 (h : xr.length = cgoPayloadLen) : (d.prfXOR0 aes yl xr).length = cgoPayloadLen := by
  simp [prfXOR0, prfCTR, h]

lemma prfXOR0_prfXOR0 (h : xr.length = cgoPayloadLen) : d.prfXOR0 aes yl (d.prfXOR0 aes yl xr) = xr := by
  exact xorBytes_xorBytes (by simp [prfCTR, h])

lemma length_drop_of_msgLen (h : cell.length = cgoMsgLen) : (cell.drop 16).length = cgoPayloadLen := by
  simp [h, cgoMsgLen, cgoPayloadLen]

lemma length_append_payload (h : xr.length = cgoPayloadLen) : (yl.toList ++ xr).length = cgoMsgLen := by
  simp [h, cgoMsgLen, cgoPayloadLen]

open Block

lemma split_cell (h : cell.length = cgoMsgLen) : (copyOf cell).toList ++ cell.drop 16 = cell :=
  copyOf_append_drop (by simp [h, cgoMsgLen])

lemma encUIV_eq_ok : d.encUIV aes ad cell = .ok out ↔ cell.length = cgoMsgLen ∧
    out = (d.encET aes ad d.tprime (cell.drop 16) (copyOf cell)).toList ++
      d.prfXOR0 aes (d.encET aes ad d.tprime (cell.drop 16) (copyOf cell)) (cell.drop 16) := by
  simp only [encUIV, ite_error_eq_ok, not_not, Except.ok.injEq, eq_comm (a := out)]

lemma decUIV_eq_ok : d.decUIV aes ad cell = .ok out ↔ cell.length = cgoMsgLen ∧
    out = (d.decET aes ad d.tprime (d.prfXOR0 aes (copyOf cell) (cell.drop 16))
      (copyOf cell)).toList ++ d.prfXOR0 aes (copyOf cell) (cell.drop 16) := by
  simp only [decUIV, ite_error_eq_ok, not_not, Except.ok.injEq, eq_comm (a := out)]

lemma encUIV_of_decUIV (h : d.decUIV aes ad cell = .ok out) : d.encUIV aes ad out = .ok cell := by
  obtain ⟨hcell, rfl⟩ := decUIV_eq_ok.1 h
  have hxr := length_drop_of_msgLen hcell
  refine encUIV_eq_ok.2 ⟨length_append_payload (length_prfXOR0 hxr), ?_⟩
  simp only [copyOf_append, drop_left' (length_toList _), encET_decET, prfXOR0_prfXOR0 hxr, split_cell hcell]

lemma decUIV_of_encUIV (h : d.encUIV aes ad cell = .ok out) : d.decUIV aes ad out = .ok cell := by
  obtain ⟨hcell, rfl⟩ := encUIV_eq_ok.1 h
  have hxr := length_drop_of_msgLen hcell
  refine decUIV_eq_ok.2 ⟨length_append_payload (length_prfXOR0 hxr), ?_⟩
  simp only [copyOf_append, drop_left' (length_toList _), decET_encET, prfXOR0_prfXOR0 hxr, split_cell hcell]

lemma exists_encUIV (aes : BlockCipher) (d : CGODir) (ad : UInt8) (h : cell.length = cgoMsgLen) :
    ∃ out, d.encUIV aes ad cell = .ok out ∧ out.length = cgoMsgLen := by
  have henc : d.encUIV aes ad cell = .ok _ := encUIV_eq_ok.2 ⟨h, rfl⟩
  exact ⟨_, henc, (decUIV_eq_ok.1 (decUIV_of_encUIV henc)).1⟩

lemma exists_decUIV (aes : BlockCipher) (d : CGODir) (ad : UInt8) (h : cell.length = cgoMsgLen) :
    ∃ out, d.decUIV aes ad cell = .ok out ∧ out.length = cgoMsgLen := by
  have hdec : d.decUIV aes ad cell = .ok _ := decUIV_eq_ok.2 ⟨h, rfl⟩
  exact ⟨_, hdec, (encUIV_eq_ok.1 (encUIV_of_decUIV hdec)).1⟩

/-! ### The two parties of a direction

In each lemma both parties start from the same state `d` and end in the same state again. -/

lemma length_withNonce (h : cell.length = cgoMsgLen) (nonce : Block) :
    (overwrite 0 nonce.toList cell).length = cgoMsgLen := by
  rw [length_overwrite (by simp [h, cgoMsgLen]), h]

lemma copyOf_withNonce (nonce : Block) (cell : Bytes) : copyOf (overwrite 0 nonce.toList cell) = nonce := by
  rw [overwrite_zero, copyOf_append]

variable (aes d ad) (h : cell.length = cgoMsgLen)
include h

lemma clientForward_ok :
    ∃ d' out, d.clientForward aes ad cell = .ok (d', out) ∧ out.length = cgoMsgLen ∧
      (copyOf cell ≠ d.nonce → d.relayForward aes ad out = .ok (d', cell, none)) := by
  obtain ⟨out, hdec, hout⟩ := exists_decUIV aes d ad h
  refine ⟨_, out, bind_eq_ok.2 ⟨out, hdec, rfl⟩, hout, fun hne => ?_⟩
  refine bind_eq_ok.2 ⟨cell, encUIV_of_decUIV hdec, ?_⟩
  rw [if_neg hne]
  rfl

lemma clientOriginate_ok :
    ∃ d' out tag, d.clientOriginate aes ad cell = .ok (d', out, tag) ∧ out.length = cgoMsgLen ∧
      d.relayForward aes ad out = .ok (d', overwrite 0 d.nonce.toList cell, some tag) := by
  obtain ⟨out, hdec, hout⟩ := exists_decUIV aes d ad (length_withNonce h d.nonce)
  rw [clientOriginate, if_neg (not_not.2 h)]
  refine ⟨_, _, _, bind_eq_ok.2 ⟨_, bind_eq_ok.2 ⟨out, hdec, rfl⟩, rfl⟩, hout, ?_⟩
  refine bind_eq_ok.2 ⟨_, encUIV_of_decUIV hdec, ?_⟩
  rw [if_pos (copyOf_withNonce d.nonce cell), toList_copyOf (by simp [hout, cgoMsgLen])]
  rfl

lemma relayBackward_ok :
    ∃ d' out, d.relayBackward aes ad cell = .ok (d', out) ∧ out.length = cgoMsgLen ∧
      (copyOf cell ≠ d.nonce → d.clientBackward aes ad out = .ok (d', cell, none)) := by
  obtain ⟨out, henc, hout⟩ := exists_encUIV aes d ad h
  refine ⟨_, out, bind_eq_ok.2 ⟨out, henc, rfl⟩, hout, fun hne => ?_⟩
  refine bind_eq_ok.2 ⟨cell, decUIV_of_encUIV henc, ?_⟩
  rw [if_neg hne]
  rfl

lemma relayOriginate_ok :
    ∃ d' out tag, d.relayOriginate aes ad cell = .ok (d', out, tag) ∧ out.length = cgoMsgLen ∧
      d.clientBackward aes ad out = .ok (d', overwrite 0 d.nonce.toList cell, some tag) := by
  obtain ⟨out, henc, hout⟩ := exists_encUIV aes d ad (length_withNonce h d.nonce)
  rw [relayOriginate, if_neg (not_not.2 h)]
  refine ⟨_, _, _, bind_eq_ok.2 ⟨out, henc, rfl⟩, hout, ?_⟩
  refine bind_eq_ok.2 ⟨_, decUIV_of_encUIV henc, ?_⟩
  rw [if_pos (copyOf_withNonce d.nonce cell)]
  rfl

end CGODir

/-! ### A sequence of cells -/

/-- The two ends of a direction, and for every cell so far the SENDME tag of the sender, if it
originated the cell, and that of the receiver, if it recognised it. -/
structure CGOLink where
  client : CGODir
  relay : CGODir
  tags : List (Option Bytes × Option Bytes) := []
  deriving DecidableEq

/-- A cell that one end processes and the other receives. -/
inductive CGOAct
  | clientOriginate (ad : UInt8) (cell : Bytes)
  | clientForward (ad : UInt8) (cell : Bytes)
  | relayOriginate (ad : UInt8) (cell : Bytes)
  | relayBackward (ad : UInt8) (cell : Bytes)

namespace CGOLink

def step (aes : BlockCipher) (w : CGOLink) : CGOAct → Option CGOLink
  | .clientOriginate ad cell => do
    let (client, out, tag) ← (w.client.clientOriginate aes ad cell).toOption
    let (relay, _, tag') ← (w.relay.relayForward aes ad out).toOption
    some { client, relay, tags := w.tags ++ [(some tag, tag')] }
  | .clientForward ad cell => do
    let (client, out) ← (w.client.clientForward aes ad cell).toOption
    let (relay, _, tag') ← (w.relay.relayForward aes ad out).toOption
    some { client, relay, tags := w.tags ++ [(none, tag')] }
  | .relayOriginate ad cell => do
    let (relay, out, tag) ← (w.relay.relayOriginate aes ad cell).toOption
    let (client, _, tag') ← (w.client.clientBackward aes ad out).toOption
    some { client, relay, tags := w.tags ++ [(some tag, tag')] }
  | .relayBackward ad cell => do
    let (relay, out) ← (w.relay.relayBackward aes ad cell).toOption
    let (client, _, tag') ← (w.client.clientBackward aes ad out).toOption
    some { client, relay, tags := w.tags ++ [(none, tag')] }

/-- The cell has 509 bytes, and one that is only passed on does not begin with the nonce. -/
def Meets (w : CGOLink) : CGOAct → Prop
  | .clientOriginate _ cell | .relayOriginate _ cell => cell.length = cgoMsgLen
  | .clientForward _ cell => cell.length = cgoMsgLen ∧ Block.copyOf cell ≠ w.client.nonce
  | .relayBackward _ cell => cell.length = cgoMsgLen ∧ Block.copyOf cell ≠ w.relay.nonce

instance (w : CGOLink) : (a : CGOAct) → Decidable (w.Meets a)
  | .clientOriginate _ _ | .relayOriginate _ _ => inferInstanceAs (Decidable (_ = _))
  | .clientForward _ _ | .relayBackward _ _ => inferInstanceAs (Decidable (_ ∧ _))

/-- Both ends are in the same state, and have reported the same of every cell. -/
structure InStep (w : CGOLink) : Prop where
  states : w.client = w.relay
  tags : ∀ t ∈ w.tags, t.1 = t.2

variable {aes : BlockCipher} {w : CGOLink}

lemma InStep.next (h : w.InStep) (d : CGODir) (tag : Option Bytes) : InStep ⟨d, d, w.tags ++ [(tag, tag)]⟩ :=
  ⟨rfl, forall_mem_append.2 ⟨h.tags, by simp⟩⟩

lemma InStep.step (h : w.InStep) {a : CGOAct} (hmeets : w.Meets a) : ∃ w', step aes w a = some w' ∧ w'.InStep := by
  obtain ⟨d, d', tags⟩ := w
  obtain rfl : d = d' := h.states
  cases a with
  | clientOriginate ad cell =>
    obtain ⟨d', out, tag, hout, -, hin⟩ := d.clientOriginate_ok aes ad hmeets
    exact ⟨_, by simp [step, hout, hin, Except.toOption], h.next d' (some tag)⟩
  | clientForward ad cell =>
    obtain ⟨d', out, hout, -, hin⟩ := d.clientForward_ok aes ad hmeets.1
    exact ⟨_, by simp [step, hout, hin hmeets.2, Except.toOption], h.next d' none⟩
  | relayOriginate ad cell =>
    obtain ⟨d', out, tag, hout, -, hin⟩ := d.relayOriginate_ok aes ad hmeets
    exact ⟨_, by simp [step, hout, hin, Except.toOption], h.next d' (some tag)⟩
  | relayBackward ad cell =>
    obtain ⟨d', out, hout, -, hin⟩ := d.relayBackward_ok aes ad hmeets.1
    exact ⟨_, by simp [step, hout, hin hmeets.2, Except.toOption], h.next d' none⟩

lemma InStep.run (h : w.InStep) {acts : List CGOAct} (hmeets : RunMeets (CGOLink.step aes) Meets w acts) :
    ∃ w', run (CGOLink.step aes) w acts = some w' ∧ w'.InStep := by
  induction acts generalizing w with
  | nil => exact ⟨w, rfl, h⟩
  | cons a acts ih =>
    obtain ⟨w1, hstep, h1⟩ := h.step hmeets.1
    obtain ⟨w', hrun, h'⟩ := ih h1 (hmeets.2 w1 hstep)
    exact ⟨w', run_cons_eq_some.2 ⟨w1, hstep, hrun⟩, h'⟩

end CGOLink

open CGOLink

/-- **The two ends of a direction stay in step**, as long as no cell that is only passed on begins
with the nonce; and `decUIV` inverts `encUIV`. -/
theorem cgo_in_step (aes : BlockCipher) {keys : Bytes} (hkeys : keys.length = cgoDirKeyLen) (acts : List CGOAct) :
    (∃ d, newCGODir keys = .ok d ∧
      (RunMeets (step aes) CGOLink.Meets ⟨d, d, []⟩ acts →
        ∃ w, run (step aes) ⟨d, d, []⟩ acts = some w ∧ w.client = w.relay ∧ ∀ t ∈ w.tags, t.1 = t.2)) ∧
    ∀ (d : CGODir) (ad : UInt8) (cell : Bytes), cell.length = cgoMsgLen →
      ∃ out, d.encUIV aes ad cell = .ok out ∧ d.decUIV aes ad out = .ok cell := by
  refine ⟨⟨_, if_neg (not_not.2 hkeys), fun hmeets => ?_⟩, fun d ad cell hcell => ?_⟩
  · obtain ⟨w, hrun, h⟩ := CGOLink.InStep.run ⟨rfl, by simp⟩ hmeets
    exact ⟨w, hrun, h.states, h.tags⟩
  · obtain ⟨out, hout, -⟩ := CGODir.exists_encUIV aes d ad hcell
    exact ⟨out, hout, CGODir.decUIV_of_encUIV hout⟩

theorem cgo_in_step_three :
    ∃ d, newCGODir (zeros 80) = .ok d ∧
      ∃ w, run (step fun _ => .refl _) ⟨d, d, []⟩
        [.clientForward 0 (1 :: zeros 508), .clientOriginate 0 (zeros 509), .relayOriginate 0 (zeros 509)] = some w ∧
        w.client = w.relay ∧ ∀ t ∈ w.tags, t.1 = t.2 := by
  obtain ⟨⟨d, hd, h⟩, -⟩ := @cgo_in_step (fun _ => .refl _) (zeros 80) rfl _
  cases hd
  have hlen : (zeros 509).length = cgoMsgLen := length_replicate
  exact ⟨_, rfl, h ⟨by decide +kernel, fun _ _ => ⟨hlen, fun _ _ => ⟨hlen, fun _ _ => trivial⟩⟩⟩⟩

/-- A cell that is passed on and begins with the nonce: the relay takes it for its own. -/
theorem cgo_out_of_step :
    ∃ d, newCGODir (zeros 80) = .ok d ∧
      ∃ w, run (step fun _ => .refl _) ⟨d, d, []⟩ [.clientForward 0 (zeros 509)] = some w ∧
        w.client ≠ w.relay ∧ w.tags = [(none, some (zeros 16))] := by
  refine ⟨_, rfl, ?_⟩
  decide +kernel

end GoTor.Crypto
