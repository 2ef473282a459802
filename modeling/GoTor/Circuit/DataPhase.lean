import GoTor.Circuit.DataSend

/-!
# The phases of a DATA cell

What a goroutine does with the cell it has reserved: it gives it back, or encrypts it under a tag
that a SENDME can carry, writes it, and records the tag of a marked one.
-/

namespace GoTor.Circuit

open GoTor.Lib GoTor.Crypto GoTor.Cell List Prog Sender Hop CGODir

/-! ### Tags -/

section Tags

variable {P : Primitives} {ad : UInt8} {hop hop' : Hop} {hops hops' : List Hop} {dest : ℤ}
  {payload out : Bytes} {tag : Option Bytes}

def IsTag (tag : Option Bytes) : Prop := ∃ auth, sendmeAuthTag (tag.getD []) = some auth

lemma tagging_maskForward (h : hop.Tagging) (out : Bytes) : (hop.maskForward P out).1.Tagging := by
  unfold maskForward
  split
  · exact h
  · exact h

lemma tagging_stampForward (h : hop.Tagging) : (hop.stampForward P out).1.Tagging := by
  unfold stampForward
  split
  · split
    · exact .inr rfl
    · exact h
  · exact h

lemma isTag_stampForward (hcgo : hop.cgo = none) (h : hop.Tagging) (hlen : 9 ≤ out.length) :
    IsTag (hop.stampForward P out).2.2 := by
  obtain hpair | hdigest := h
  · rw [hcgo] at hpair
    cases hpair
  · obtain ⟨written, hwritten⟩ := Option.isSome_iff_exists.1 hdigest
    unfold stampForward
    rw [hwritten]
    dsimp only
    rw [if_pos hlen]
    refine ⟨(P.sha1 (written ++ zeroDigest out)).toList.take 20, ?_⟩
    simp [sendmeAuthTag]

lemma isTag_clientOriginate {d d' : CGODir} {aes : BlockCipher} {tag : Bytes}
    (h : d.clientOriginate aes ad payload = .ok (d', out, tag)) : IsTag (some tag) := by
  unfold clientOriginate at h
  split at h
  · cases h
  obtain ⟨⟨d'', out'⟩, hforward, hret⟩ := bind_eq_ok.1 h
  cases hret
  obtain ⟨out', hdec, hret⟩ := bind_eq_ok.1 hforward
  cases hret
  have hlen := (encUIV_eq_ok.1 (encUIV_of_decUIV hdec)).1
  exact ⟨out.take 16, by simp [sendmeAuthTag, hlen, cgoMsgLen]⟩

lemma tagging_originate (h : hop.Tagging)
    (hok : hop.originate P ad payload = .ok (hop', out, tag)) :
    hop'.Tagging ∧ (9 ≤ payload.length → IsTag tag) := by
  unfold originate at hok
  cases hcgo : hop.cgo with
  | some pair =>
    simp only [hcgo] at hok
    split at hok
    · cases hok
    · obtain ⟨⟨fwd, out', tag'⟩, horig, hret⟩ := bind_eq_ok.1 hok
      cases hret
      exact ⟨.inl rfl, fun _ => isTag_clientOriginate horig⟩
  | none =>
    simp only [hcgo] at hok
    cases hok
    exact ⟨tagging_maskForward (tagging_stampForward h) _, isTag_stampForward hcgo h⟩

lemma tagging_passForward (h : hop.Tagging)
    (hok : hop.passForward P ad payload = .ok (hop', out)) : hop'.Tagging := by
  unfold passForward at hok
  split at hok
  · obtain ⟨⟨fwd, out'⟩, -, hret⟩ := bind_eq_ok.1 hok
    cases hret
    exact .inl rfl
  · have hmask : hop.maskForward P payload = (hop', out) := Except.ok.inj hok
    have htagging := @tagging_maskForward P hop h payload
    rwa [hmask] at htagging

lemma tagging_wrapHops (h : ∀ hop ∈ hops, hop.Tagging) : (∀ hop ∈ (wrapHops P ad hops payload).1, hop.Tagging) ∧
      (wrapHops P ad hops payload).1.length = hops.length := by
  induction hops with
  | nil => exact ⟨h, rfl⟩
  | cons hop hops ih =>
    obtain ⟨hhop, hrest⟩ := forall_mem_cons.1 h
    obtain ⟨htagging, hlen⟩ := ih hrest
    unfold wrapHops
    split
    next hops' e hw =>
      rw [hw] at htagging hlen
      exact ⟨forall_mem_cons.2 ⟨hhop, htagging⟩, by rw [length_cons, hlen]; rfl⟩
    next hops' out hw =>
    rw [hw] at htagging hlen
    split
    · exact ⟨forall_mem_cons.2 ⟨hhop, htagging⟩, by rw [length_cons, hlen]; rfl⟩
    next hop' out' hpass =>
      exact ⟨forall_mem_cons.2 ⟨tagging_passForward hhop hpass, htagging⟩, by rw [length_cons, hlen]; rfl⟩

lemma tagging_encryptOnion (h : ∀ hop ∈ hops, hop.Tagging) :
    (∀ hop ∈ (encryptOnion P hops ad dest payload).1, hop.Tagging) ∧
      (encryptOnion P hops ad dest payload).1.length = hops.length ∧
      ∀ out tag, (encryptOnion P hops ad dest payload).2 = .ok (out, tag) → 9 ≤ payload.length → IsTag tag := by
  unfold encryptOnion
  split
  · exact ⟨h, rfl, nofun⟩
  split
  · exact ⟨h, rfl, nofun⟩
  next destHop behind hdrop =>
  have hback : ∀ hop ∈ destHop :: behind, hop.Tagging := fun hop hmem =>
    h hop (mem_of_mem_drop (hdrop ▸ hmem))
  have hfront : ∀ hop ∈ hops.take dest.toNat, hop.Tagging := fun hop hmem =>
    h hop (mem_of_mem_take hmem)
  have hlen : hops.length = (hops.take dest.toNat).length + (destHop :: behind).length := by
    rw [← hdrop, ← length_append, take_append_drop]
  split
  · exact ⟨h, rfl, nofun⟩
  next destHop' out' tag' horig =>
  obtain ⟨hdest, htag⟩ := tagging_originate (hback destHop mem_cons_self) horig
  obtain ⟨hwrapped, hwlen⟩ := @tagging_wrapHops P ad _ out' hfront
  refine ⟨?_, ?_, ?_⟩
  · dsimp only
    intro hop hmem
    obtain hmem | hmem := mem_append.1 hmem
    · exact hwrapped hop hmem
    · obtain rfl | hmem := mem_cons.1 hmem
      · exact hdest
      · exact hback hop (mem_cons_of_mem _ hmem)
  · dsimp only
    rw [length_append, hwlen, hlen]
    rfl
  dsimp only
  intro out tag hr
  -- the layers of the other hops leave the tag as it is
  cases hw : (wrapHops P ad (hops.take dest.toNat) out').2 with
  | error e =>
    rw [hw] at hr
    cases hr
  | ok out'' =>
    rw [hw] at hr
    cases hr
    exact htag

end Tags

/-! ### What a sender does with its reservation -/

/-- Where a goroutine is with a DATA cell: nothing reserved, a cell reserved (with its mark), the
cell encrypted, a boundary cell written and not yet recorded. -/
inductive Phase
  | idle
  | holding (record : Bool)
  | tagged (record : Bool) (auth : Bytes)
  | written (auth : Bytes)
  deriving DecidableEq

/-- The sections of `emitRelayCell` for a reserved DATA cell. -/
def emitContract : Contract SendAct SendAct.Resp Phase where
  pre ph
    | .snapshot => True
    | .randRead _ => True
    | .encryptOnion _ _ payload => (∃ b, ph = .holding b) ∧ 9 ≤ payload.length
    | .sendCell onion _ => onion = true ∧ ∃ b auth, ph = .tagged b auth
    | .refundPackageWindow => ∃ b, ph = .holding b
    | .refundStreamPackageWindow _ => True
    | .recordSendmeTag tag =>
      ∃ auth, ph = .written auth ∧ sendmeAuthTag (tag.getD []) = some auth
    | _ => False
  post ph
    | .snapshot, r, ph' => ph' = ph ∧ r.nHops ≠ 0
    | .randRead n, r, ph' => ph' = ph ∧ ∀ b, r = .ok b → b.length = n
    | .encryptOnion _ _ _, .ok (_, tag), ph' =>
      ∃ b auth, ph = .holding b ∧ sendmeAuthTag (tag.getD []) = some auth ∧ ph' = .tagged b auth
    | .sendCell _ _, .ok _, ph' =>
      ∃ b auth, ph = .tagged b auth ∧ ph' = if b then .written auth else .idle
    | .sendCell _ _, .error _, ph' => ∃ b auth, ph = .tagged b auth ∧ ph' = .holding b
    | .refundPackageWindow, _, ph' => ph' = .idle
    | .recordSendmeTag _, _, ph' => ph' = .idle
    | _, _, ph' => ph' = ph

/-- A section that touches neither the window nor the queue. -/
def Plain : SendAct → Prop
  | .refundPackageWindow => False
  | .refundStreamPackageWindow _ => False
  | .recordSendmeTag _ => False
  | .addHop _ hop => hop.Tagging
  | _ => True

/-- The contract of every goroutine. -/
def dataContract : Contract DataAct DataAct.Resp Phase where
  pre ph
    | .reserve => ph = .idle
    | .reserveStream _ => ∃ b, ph = .holding b
    | .waitForSendWake => True
    | .emit true a => emitContract.pre ph a
    | .emit false a => Plain a
    | .processSendme => True
  post ph
    | .reserve, .ok b, ph' => ph' = .holding b
    | .emit true a, r, ph' => emitContract.post ph a r ph'
    | _, _, ph' => ph' = ph

section Meets

variable {rc : RelayCell} {ph : Phase} {R : Type}

lemma le_length_overwrite {off n : ℕ} {v b : Bytes} (hoff : off ≤ b.length) (h : n ≤ b.length) :
    n ≤ (overwrite off v b).length := by
  simp only [overwrite, length_append, length_take, length_drop]
  omega

lemma length_zeros_payload : (zeros payloadLen).length = 509 := by
  unfold zeros
  rw [length_replicate]
  rfl

variable {payload : Bytes} {what : String} {destCGO padData b : Bool} {streamID : UInt16} {cell : LinkCell}

lemma meets_randomize_len {start : ℕ} (hlen : 9 ≤ payload.length) :
    Meets emitContract ph (randomize what start payload) fun ph' r =>
      ph' = ph ∧ ∀ out, r = .ok out → 9 ≤ out.length := by
  unfold randomize
  split
  next hstart =>
    refine ⟨trivial, ?_⟩
    rintro (e | pad) ph' ⟨rfl, -⟩
    · refine ⟨rfl, ?_⟩
      rintro out ⟨⟩
    · refine ⟨rfl, ?_⟩
      rintro out ⟨⟩
      exact le_length_overwrite hstart.le hlen
  next =>
  refine ⟨rfl, ?_⟩
  rintro out ⟨⟩
  exact hlen

lemma length_of_encode {rc' : RelayCell} (h : rc.encode = .ok (rc', payload)) : 9 ≤ payload.length := by
  unfold RelayCell.encode at h
  dsimp only at h
  split at h
  · cases h
  · obtain ⟨length, -, hret⟩ := bind_eq_ok.1 h
    cases hret
    exact le_length_overwrite (Nat.zero_le _) (by rw [length_zeros_payload]; decide)

lemma length_of_encodeRelayCellV1 {rc' : RelayCell}
    (h : encodeRelayCellV1 rc = .ok (rc', payload)) : 9 ≤ payload.length := by
  unfold encodeRelayCellV1 at h
  dsimp only at h
  split at h
  · cases h
  split at h
  · cases h
  obtain ⟨length, -, hret⟩ := bind_eq_ok.1 h
  split at hret
  · cases hret
  · cases hret
    exact le_length_overwrite (by rw [length_zeros_payload]; decide) (by rw [length_zeros_payload]; decide)

lemma meets_encodeFor_len :
    Meets emitContract ph (encodeFor destCGO padData rc) fun ph' r =>
      ph' = ph ∧ ∀ out, r = .ok out → 9 ≤ out.length := by
  unfold encodeFor
  split
  · split
    · exact ⟨rfl, nofun⟩
    next hv1 => exact meets_randomize_len (length_of_encodeRelayCellV1 hv1)
  · split
    · exact ⟨rfl, nofun⟩
    next hv0 =>
    split
    · exact meets_randomize_len (length_of_encode hv0)
    · refine ⟨rfl, ?_⟩
      rintro out ⟨⟩
      exact length_of_encode hv0

lemma meets_refundReserved {r : R} :
    Meets emitContract (.holding b)
      ((refundReservedWindows streamID destCGO).bind fun _ => Prog.done r)
      fun ph' _ => ph' = .idle := by
  refine ⟨⟨b, rfl⟩, ?_⟩
  rintro _ ph' rfl
  split
  · exact ⟨trivial, fun _ _ h => h⟩
  · rfl

variable {tag : Option Bytes}

lemma meets_emitCell_tagged {auth : Bytes} (htag : sendmeAuthTag (tag.getD []) = some auth) :
    Meets emitContract (.tagged b auth)
      (emitCell (refundReservedWindows streamID destCGO) b true cell tag)
      fun ph' _ => ph' = .idle := by
  refine ⟨⟨rfl, b, auth, rfl⟩, ?_⟩
  rintro (e | _) ph' ⟨b', auth', heq, rfl⟩
  · cases heq
    exact meets_refundReserved
  · cases heq
    cases b with
    | false => rfl
    | true =>
      refine ⟨⟨auth, rfl, htag⟩, ?_⟩
      rintro _ ph' rfl
      rfl

lemma meets_emitRelayCell_reserved :
    Meets emitContract (.holding b) (emitRelayCell rc b true) fun ph' _ => ph' = .idle := by
  unfold emitRelayCell
  simp only [bind_eq, lift_bind, meets_act]
  refine ⟨trivial, ?_⟩
  rintro snap ph' ⟨rfl, hhops⟩
  split
  · exact meets_refundReserved
  split
  · exact meets_refundReserved
  rw [meets_bind]
  refine meets_encodeFor_len.imp ?_
  rintro ph' (e | payload) ⟨rfl, hlen⟩
  · exact meets_refundReserved
  dsimp only
  split
  · refine ⟨⟨⟨b, rfl⟩, hlen payload rfl⟩, ?_⟩
    rintro (e | ⟨out, tag⟩) ph' hpost
    · obtain rfl : ph' = .holding b := hpost
      exact meets_refundReserved
    · obtain ⟨b', auth, heq, htag, rfl⟩ := hpost
      cases heq
      exact meets_emitCell_tagged htag
  next hdest => omega

lemma meets_hoist_true {p : SendProg R} {Q : Phase → R → Prop} (h : Meets emitContract ph p Q) :
    Meets dataContract ph (hoist true p) Q := by
  induction p generalizing ph with
  | done r => exact h
  | act a k ih => exact ⟨h.1, fun r ph' hpost => ih r (h.2 r ph' hpost)⟩

lemma meets_hoist_false {p : SendProg R} (h : p.Always Plain) :
    Meets dataContract ph (hoist false p) fun ph' _ => ph' = ph := by
  induction p generalizing ph with
  | done r => rfl
  | act a k ih =>
    refine ⟨h.1, fun r ph' hpost => ?_⟩
    obtain rfl : ph' = ph := hpost
    exact ih r (h.2 r)

def Phase.reserved : Except String Bool → Phase
  | .ok b => .holding b
  | .error _ => .idle

lemma meets_reserveDataWindows (tries : ℕ) :
    Meets dataContract .idle (reserveDataWindows streamID destCGO tries) fun ph' r =>
      ph' = .reserved r := by
  induction tries with
  | zero => rfl
  | succ tries ih =>
    refine ⟨rfl, ?_⟩
    have hwait : ∀ {k}, (∀ e, k (.error e) = Prog.done (.error e)) →
        (∀ u, k (.ok u) = reserveDataWindows streamID destCGO tries) →
        Meets dataContract .idle (Prog.act DataAct.waitForSendWake k) fun ph' r =>
          ph' = .reserved r := by
      intro k herr hok
      refine ⟨trivial, ?_⟩
      rintro (e | u) ph' rfl
      · rw [herr]
        rfl
      · rw [hok]
        exact ih
    rintro (e | b) ph' hpost
    · obtain rfl : ph' = .idle := hpost
      exact hwait (fun _ => rfl) fun _ => rfl
    obtain rfl : ph' = .holding b := hpost
    split
    · rfl
    refine ⟨⟨b, rfl⟩, ?_⟩
    rintro (e | _) ph' rfl
    · refine ⟨⟨b, rfl⟩, ?_⟩
      rintro _ ph' rfl
      exact hwait (fun _ => rfl) fun _ => rfl
    · rfl

lemma plain_randomize {start : ℕ} : (randomize what start payload).Always Plain := by
  unfold randomize
  split
  · refine ⟨trivial, ?_⟩
    rintro (e | pad)
    · trivial
    · trivial
  · trivial

lemma plain_encodeFor : (encodeFor destCGO padData rc).Always Plain := by
  unfold encodeFor
  split
  · split
    · trivial
    · exact plain_randomize
  · split
    · trivial
    · split
      · exact plain_randomize
      · trivial

lemma plain_emitCell {onion : Bool} : (emitCell (pure ()) false onion cell tag).Always Plain := by
  refine ⟨trivial, ?_⟩
  rintro (e | _)
  · trivial
  · trivial

lemma plain_emitRelayCell : (emitRelayCell rc false false).Always Plain := by
  refine ⟨trivial, fun snap => ?_⟩
  dsimp only [done_bind]
  split
  · trivial
  split
  · trivial
  refine plain_encodeFor.bind ?_
  rintro (e | payload)
  · trivial
  dsimp only
  split
  · refine ⟨trivial, ?_⟩
    rintro (e | ⟨out, tag⟩)
    · trivial
    · exact plain_emitCell
  · exact plain_emitCell

lemma plain_sendRelayCellToHop {rc : Option RelayCell} {hopIndex : ℤ} :
    (sendRelayCellToHop rc hopIndex).Always Plain := by
  unfold sendRelayCellToHop
  cases rc with
  | none => trivial
  | some rc =>
    simp only [bind_eq, lift_bind]
    refine ⟨trivial, fun snap => ?_⟩
    dsimp only
    split
    · trivial
    split
    · trivial
    split
    · trivial
    refine ⟨trivial, fun destCGO => ?_⟩
    refine plain_encodeFor.bind ?_
    rintro (e | payload)
    · trivial
    refine ⟨trivial, ?_⟩
    rintro (e | ⟨out, tag⟩)
    · trivial
    refine ⟨trivial, ?_⟩
    rintro (e | _)
    · trivial
    · trivial

lemma meets_sendRelayCellLocal {tries : ℕ} :
    Meets dataContract .idle (sendRelayCellLocal rc tries) fun ph' _ => ph' = .idle := by
  unfold sendRelayCellLocal
  split
  · simp only [bind_eq, lift_bind]
    refine ⟨trivial, ?_⟩
    rintro snap ph' ⟨rfl, -⟩
    refine (meets_bind ..).2 ((meets_reserveDataWindows _).imp ?_)
    rintro ph' (e | b) rfl
    · rfl
    · exact meets_hoist_true meets_emitRelayCell_reserved
  · exact meets_hoist_false plain_emitRelayCell

lemma meets_dataGoroutine (calls : List DataCall) :
    Meets dataContract .idle (dataGoroutine calls) fun _ _ => True := by
  induction calls with
  | nil => trivial
  | cons call calls ih =>
    have hcall : Meets dataContract .idle call.prog fun ph' _ => ph' = .idle := by
      cases call with
      | sendRelayCell rc tries =>
        exact (meets_bind ..).2 (meets_sendRelayCellLocal.imp fun _ _ h => h)
      | sendRelayCellToHop rc hopIndex =>
        exact (meets_bind ..).2 ((meets_hoist_false plain_sendRelayCellToHop).imp fun _ _ h => h)
      | addHop hs hop => exact ⟨hop.2, fun _ _ h => h⟩
      | setState state | setConnection | processSendme => exact ⟨trivial, fun _ _ h => h⟩
    refine (meets_bind ..).2 (hcall.imp ?_)
    rintro ph' _ rfl
    exact ih

end Meets

end GoTor.Circuit
