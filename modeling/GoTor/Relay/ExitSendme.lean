import GoTor.Relay.ExitReader

/-!
# The circuit-level SENDMEs of an exit

The client counts the DATA cells it sends; the exit counts those it has passed on.  `HandleData`
returns before it counts a cell when the stream is not there, its window is used up or the remote
end cannot be written to, and from then on every SENDME carries the digest of a later cell than
the one the client waits for.
-/

namespace GoTor.Relay

open GoTor.Lib GoTor.Cell List GoTor.Circuit Option
open GoTor.Crypto (payloadLen)
open GoTor.Circuit (VegasWindow encodeSendmeV1 TagLen)

/-! ### The count -/

/-- The condition on a step of the reader: a DATA cell names a stream other than 0 that is open
with room in its window, and the limiter and the remote end take its bytes. -/
def PassedOn (s : ExitState) (t : ExitTid) (a : ExitAct) (ch : ExitChoice) : Prop :=
  match t, a with
  | .reader, .takeData i => i ≠ 0 ∧ (s.circ.streams i).any (0 < ·.deliverWindow) = true
  | .reader, .outside .bwWait => ch.failed = false
  | .reader, .outside (.writeRemote _) => ch.failed = false
  | _, _ => True

instance (s : ExitState) (t : ExitTid) (a : ExitAct) (ch : ExitChoice) : Decidable (PassedOn s t a ch) :=
  match t, a with
  | .pump _, _ => isTrue trivial
  | .reader, .takeData _ => inferInstanceAs (Decidable (_ ∧ _))
  | .reader, .outside .bwWait => inferInstanceAs (Decidable (_ = _))
  | .reader, .outside (.writeRemote _) => inferInstanceAs (Decidable (_ = _))
  | .reader, .outside .beginAllowed | .reader, .outside .dial | .reader, .outside .readRemote
  | .reader, .outside .ctxDone | .reader, .circuitGone | .reader, .noteFwdDigest _ _
  | .reader, .countData _ | .reader, .handleSendme _ _ | .reader, .closeCircuit
  | .reader, .endFirst _ | .reader, .deleteStream _ | .reader, .dropOld _ | .reader, .streamLimit
  | .reader, .takeSlot | .reader, .releaseSlot | .reader, .insertStream _ _ _ | .reader, .spawn _ _
  | .reader, .start _ | .reader, .mayPump _ | .reader, .originate _ | .reader, .writeCell _
  | .reader, .afterOutboundDATA _ _ | .reader, .removeStream _ => isTrue trivial

/-- The SENDMEs written are those for the first of the cells, and on an open connection for all. -/
def SendmesFor (s : ExitState) (inc : ℕ) (cells : List Bytes) : Prop :=
  s.sendmes.map Except.ok <+: (everyNth inc cells).map encodeSendmeV1 ∧
    (s.connOpen = true → s.sendmes.map Except.ok = (everyNth inc cells).map encodeSendmeV1)

/-- The reader's count, in each of its phases. -/
inductive ReadInv (inc : ℕ) (s : ExitState) : ReadPhase → Prop
  | idle (here : s.gone = false) (flow : s.circ.FlowIs inc) (count : s.circ.circInCount = s.recognised.length % inc)
      (sent : SendmesFor s inc s.recognised) : ReadInv inc s .idle
  | noted (here : s.gone = false) (flow : s.circ.FlowIs inc) (cells : List Bytes) (digest : Bytes)
      (last : s.recognised = cells ++ [digest]) (len : TagLen digest)
      (note : s.circ.lastFwdDigest = digest) (count : s.circ.circInCount = cells.length % inc)
      (sent : SendmesFor s inc cells) : ReadInv inc s .noted
  | owing (here : s.gone = false) (flow : s.circ.FlowIs inc) (cells : List Bytes) (digest : Bytes)
      (last : s.recognised = cells ++ [digest]) (len : TagLen digest)
      (count : s.circ.circInCount = 0) (due : (cells.length + 1) % inc = 0)
      (sent : SendmesFor s inc cells) : ReadInv inc s (.owing digest)
  | closed (gone : s.gone = true)
      (sent : s.sendmes.map Except.ok <+: (everyNth inc s.recognised).map encodeSendmeV1) :
      ReadInv inc s .closed

structure SameRead (s s' : ExitState) : Prop where
  circ : s.circ.SameCount s'.circ
  gone : s'.gone = s.gone
  recognised : s'.recognised = s.recognised
  sendmes : s'.sendmes = s.sendmes
  connOpen : s'.connOpen = true → s.connOpen = true

variable {ch : ExitChoice} {digest : Bytes}

open ExitState

section Count

variable {inc : ℕ} {s s' : ExitState} {ph : ReadPhase} {t : ExitTid}

lemma SameRead.of_circ {circ : ExitCircuit} (h : s.circ.SameCount circ) :
    SameRead s { s with circ } := ⟨h, rfl, rfl, rfl, id⟩

lemma SendmesFor.frame {cells : List Bytes} (h : SendmesFor s inc cells) (hsame : SameRead s s') :
    SendmesFor s' inc cells := by
  unfold SendmesFor
  rw [hsame.sendmes]
  exact ⟨h.1, fun hopen => h.2 (hsame.connOpen hopen)⟩

lemma ReadInv.frame (h : ReadInv inc s ph) (hsame : SameRead s s') : ReadInv inc s' ph := by
  obtain ⟨⟨hcount, hdigest, hflow⟩, hgone, hrecognised, hsendmes, -⟩ := id hsame
  cases h with
  | idle here flow count sent =>
    refine .idle (hgone.trans here) (hflow inc flow) ?_ ?_
    · rw [hcount, hrecognised]; exact count
    · rw [hrecognised]; exact sent.frame hsame
  | noted here flow cells digest last len note count sent =>
    exact .noted (hgone.trans here) (hflow inc flow) cells digest (hrecognised.trans last) len
      (hdigest.trans note) (hcount.trans count) (sent.frame hsame)
  | owing here flow cells digest last len count due sent =>
    exact .owing (hgone.trans here) (hflow inc flow) cells digest (hrecognised.trans last) len
      (hcount.trans count) due (sent.frame hsame)
  | closed gone sent =>
    refine .closed (hgone.trans gone) ?_
    rw [hsendmes, hrecognised]
    exact sent

variable {rc : RelayCell} {i : UInt16}

lemma sameRead_writeFailed : SameRead s (s.writeFailed t rc) := by
  unfold writeFailed
  dsimp only
  split
  · split
    · exact ⟨.refl, rfl, rfl, rfl, nofun⟩
    · exact ⟨.refl, rfl, rfl, rfl, nofun⟩
  · exact ⟨.refl, rfl, rfl, rfl, nofun⟩

lemma sameRead_mayPump : SameRead s (s.mayPump t i).2 := by
  unfold mayPump
  split
  · exact ⟨.refl, rfl, rfl, rfl, id⟩
  · exact ⟨.refl, rfl, rfl, rfl, id⟩

lemma sameRead_originate {tag : Bytes} : SameRead s (s.originate t rc tag) := by
  unfold originate
  split
  · exact ⟨.refl, rfl, rfl, rfl, id⟩
  · exact ⟨.refl, rfl, rfl, rfl, id⟩

lemma sameRead_handleSendme {payload : Bytes} {cwnd : ℕ} : SameRead s (s.handleSendme i payload cwnd).2 := by
  unfold handleSendme
  split
  · exact ⟨.refl, rfl, rfl, rfl, id⟩
  next circ hok => exact ⟨sameCount_handleSendme hok, rfl, rfl, rfl, id⟩

lemma sameRead_exec {a : ExitAct} {r : a.Resp} (hq : Quiet a)
    (h : exec t a ch s = some (r, s')) : SameRead s s' := by
  have hrefl : SameRead s s := .of_circ (.refl)
  cases a with
  | noteFwdDigest data digest | countData i | closeCircuit | circuitGone => exact hq.elim
  | outside o | streamLimit => cases h; exact hrefl
  | takeData i => cases h; exact .of_circ sameCount_takeData
  | handleSendme i payload =>
    cases ch with
    | cwnd n =>
      obtain rfl := congrArg Prod.snd (some.inj h)
      exact sameRead_handleSendme
    | _ => cases h
  | endFirst i => cases h; exact .of_circ sameCount_endFirst
  | deleteStream i | releaseSlot => cases h; exact .of_circ ⟨rfl, rfl, fun _ h => h⟩
  | dropOld i => cases h; exact .of_circ sameCount_dropOld
  | takeSlot =>
    simp only [exec] at h
    split at h
    · cases h; exact hrefl
    · cases h; exact .of_circ ⟨rfl, rfl, fun _ h => h⟩
  | insertStream i tcp counted =>
    cases h
    obtain ⟨hcount, hdigest, hflow⟩ := sameCount_insertStream (c := s.circ) i tcp
    exact .of_circ ⟨hcount, hdigest, hflow⟩
  | spawn n i => cases h; exact ⟨.refl, rfl, rfl, rfl, id⟩
  | start n =>
    obtain ⟨i, -, heq⟩ := map_eq_some_iff.1 h
    cases heq
    exact hrefl
  | mayPump i =>
    obtain rfl := congrArg Prod.snd (some.inj h)
    exact sameRead_mayPump
  | originate rc =>
    obtain ⟨e, -, -, rfl⟩ | ⟨tag, -, -, rfl⟩ := exec_originate h
    · exact hrefl
    · exact sameRead_originate
  | writeCell rc =>
    obtain ⟨e, -, rfl⟩ | ⟨-, -, rfl⟩ := exec_writeCell h
    · exact sameRead_writeFailed
    · have hkeep : s.written rc = s := if_neg hq
      rw [hkeep]
      exact hrefl
  | afterOutboundDATA i tag =>
    cases h
    exact ⟨sameCount_afterOutboundDATA, rfl, rfl, rfl, id⟩
  | removeStream i =>
    cases h
    exact ⟨sameCount_removeStream, rfl, rfl, rfl, id⟩

lemma encodeRelay_circSendme {c : ExitCircuit} (hcirc : CircSendme rc)
    (hlen : rc.data.length ≤ 23) : ∃ payload, c.encodeRelay rc = .ok payload := by
  obtain ⟨hcmd, hstream⟩ := hcirc
  have hsafe : safeLenToUint16 rc.data = .ok (UInt16.ofNat rc.data.length) :=
    if_neg (by omega)
  unfold ExitCircuit.encodeRelay
  split
  · unfold encodeRelayCellV1
    rw [hcmd, hstream, hsafe]
    have hexpects : relayCmdExpectsStreamID relaySendme = false := by decide
    have hfit : ¬ v1PayloadOffset relaySendme + (UInt16.ofNat rc.data.length).toNat > payloadLen := by
      have hoff : v1PayloadOffset relaySendme = 19 := by decide
      have hnat : (UInt16.ofNat rc.data.length).toNat = rc.data.length :=
        UInt16.toNat_ofNat_of_lt' (hlen.trans_lt (by decide))
      rw [hnat]
      show ¬ 19 + rc.data.length > 509
      omega
    simp only [Except.mapError, ok_bind]
    rw [if_neg hfit]
    exact ⟨_, rfl⟩
  · have hfit : ¬ rc.data.length > payloadLen - relayCellHeaderLen := by
      show ¬ rc.data.length > 498
      omega
    unfold RelayCell.encode
    rw [hsafe, if_neg hfit]
    exact ⟨_, rfl⟩

lemma ReadInv.note {data : Bool} (h : ReadInv inc s .idle) (hlen : TagLen digest) (hs : s' = { s with
      circ := s.circ.noteFwdDigest digest
      recognised := if data then s.recognised ++ [digest] else s.recognised }) :
    ReadInv inc s' (if data then .noted else .idle) := by
  have hnote : s.circ.noteFwdDigest digest = { s.circ with lastFwdDigest := digest } := by
    unfold ExitCircuit.noteFwdDigest
    rw [if_neg]
    rintro ⟨h20, h16⟩
    exact hlen.elim h20 h16
  rw [hnote] at hs
  subst hs
  cases h with
  | idle here flow count sent =>
    cases data with
    | true => exact .noted here flow s.recognised digest rfl hlen rfl count sent
    | false => exact .idle here flow count sent

lemma countData_eq (c : ExitCircuit) (i : UInt16) :
    (c.countData i).1.1 = (if c.circInCount + 1 ≥ c.flowOf.increment then some c.lastFwdDigest else none) ∧
    (c.countData i).2.circInCount =
      (if c.circInCount + 1 ≥ c.flowOf.increment then 0 else c.circInCount + 1) ∧
    (c.countData i).2.lastFwdDigest = c.lastFwdDigest ∧
    ∀ inc, c.FlowIs inc → (c.countData i).2.FlowIs inc := by
  unfold ExitCircuit.countData
  split
  · exact ⟨rfl, rfl, rfl, fun _ h => h⟩
  · exact ⟨rfl, rfl, rfl, fun _ h => h⟩

lemma count_due {n m : ℕ} (hinc : 0 < inc) (hm : m = n % inc) :
    (m + 1 ≥ inc ↔ (n + 1) % inc = 0) ∧ (¬ m + 1 ≥ inc → m + 1 = (n + 1) % inc) := by
  have hlt := Nat.mod_lt n hinc
  have hsucc : (n + 1) % inc = (m + 1) % inc := by
    rw [hm]
    conv_lhs => rw [← Nat.div_add_mod n inc, Nat.add_assoc, Nat.mul_add_mod]
  rw [hsucc]
  refine ⟨⟨fun hge => ?_, fun hzero => ?_⟩, fun hlow => ?_⟩
  · have heq : m + 1 = inc := by omega
    rw [heq, Nat.mod_self]
  · by_contra hlow
    rw [Nat.mod_eq_of_lt (by omega)] at hzero
    cases hzero
  · rw [Nat.mod_eq_of_lt (by omega)]

lemma ReadInv.count (hinc : 0 < inc) (h : ReadInv inc s .noted) (i : UInt16) : match (s.circ.countData i).1.1 with
    | some digest => TagLen digest ∧
        ReadInv inc { s with circ := (s.circ.countData i).2 } (.owing digest)
    | none => ReadInv inc { s with circ := (s.circ.countData i).2 } .idle := by
  obtain ⟨hdigest, hcount, -, hflow⟩ := countData_eq s.circ i
  cases h with
  | noted here flow cells digest last len note count sent =>
    obtain ⟨hdue, hnot⟩ := count_due hinc count
    rw [flow.1] at hdigest hcount
    by_cases hfire : s.circ.circInCount + 1 ≥ inc
    · rw [if_pos hfire] at hdigest hcount
      rw [hdigest, note]
      exact ⟨len, .owing (s := { s with circ := (s.circ.countData i).2 }) here (hflow inc flow) cells
        digest last len hcount (hdue.1 hfire) sent⟩
    rw [if_neg hfire] at hdigest hcount
    rw [hdigest]
    refine .idle (s := { s with circ := (s.circ.countData i).2 }) here (hflow inc flow) ?_ ?_
    · show (s.circ.countData i).2.circInCount = s.recognised.length % inc
      rw [hcount, last, length_append]
      exact hnot hfire
    · show SendmesFor _ inc s.recognised
      unfold SendmesFor
      rw [last, everyNth_concat, if_neg fun hzero => hfire (hdue.2 hzero)]
      exact sent

lemma ReadInv.write {r : Except String Unit} (h : ReadInv inc s (.owing digest))
    (hcirc : CircSendme rc) (hencode : encodeSendmeV1 digest = .ok rc.data)
    (hs : exec t (.writeCell rc) ch s = some (r, s')) : ReadInv inc s' .idle := by
  cases h with
  | owing here flow cells digest last len count due sent =>
    have hcount : s.circ.circInCount = s.recognised.length % inc := by
      rw [count, last, length_append]
      exact due.symm
    have hnext : (everyNth inc s.recognised).map encodeSendmeV1 =
        (everyNth inc cells).map encodeSendmeV1 ++ [.ok rc.data] := by
      rw [last, everyNth_concat, if_pos due, map_append, ← hencode]
      rfl
    obtain ⟨e, -, rfl⟩ | ⟨hopen, -, rfl⟩ := exec_writeCell hs
    · have hfailed : s.writeFailed t rc = { s with connOpen := false } := by
        unfold writeFailed
        rw [hcirc.1]
        rfl
      rw [hfailed]
      refine .idle (s := { s with connOpen := false }) here flow hcount ⟨?_, nofun⟩
      rw [hnext]
      exact sent.1.trans (prefix_append _ _)
    · have hwritten : s.written rc = { s with sendmes := s.sendmes ++ [rc.data] } := if_pos hcirc
      rw [hwritten]
      refine .idle (s := { s with sendmes := s.sendmes ++ [rc.data] }) here flow hcount ?_
      have hall : (s.sendmes ++ [rc.data]).map Except.ok = (everyNth inc s.recognised).map encodeSendmeV1 := by
        rw [hnext, map_append, sent.2 hopen]
        rfl
      exact ⟨hall ▸ prefix_refl _, fun _ => hall⟩

lemma takeData_opened {c : ExitCircuit} (h : (c.streams i).any (0 < ·.deliverWindow) = true) :
    (c.takeData i).1 = .opened := by
  obtain ⟨es, hes, hroom⟩ := (any_eq_true _ _).1 h
  unfold ExitCircuit.takeData
  rw [hes]
  dsimp only
  rw [if_neg (not_le.2 (of_decide_eq_true hroom))]

lemma ReadInv.step_reader {a : ExitAct} {r : a.Resp} (hinc : 0 < inc)
    (h : ReadInv inc s ph) (hpre : readContract.pre ph a) (hgood : PassedOn s .reader a ch)
    (hs : exec .reader a ch s = some (r, s')) :
    ∃ ph', readContract.post ph a r ph' ∧ ReadInv inc s' ph' := by
  have hquiet (hq : Quiet a) : ReadInv inc s' ph := h.frame (sameRead_exec hq hs)
  cases a with
  | noteFwdDigest data digest =>
    obtain ⟨rfl, hlen⟩ := hpre
    cases hs
    exact ⟨_, rfl, h.note hlen rfl⟩
  | countData i =>
    obtain rfl : ph = .noted := hpre
    have hcount := h.count hinc i
    cases hs
    cases hdigest : (s.circ.countData i).1.1 with
    | some digest =>
      rw [hdigest] at hcount
      refine ⟨.owing digest, ?_, hcount.2⟩
      change match (s.circ.countData i).1.1 with
        | some digest' => ReadPhase.owing digest = .owing digest' ∧ TagLen digest'
        | none => ReadPhase.owing digest = .idle
      rw [hdigest]
      exact ⟨rfl, hcount.1⟩
    | none =>
      rw [hdigest] at hcount
      refine ⟨.idle, ?_, hcount⟩
      change match (s.circ.countData i).1.1 with
        | some digest => ReadPhase.idle = .owing digest ∧ TagLen digest
        | none => ReadPhase.idle = .idle
      rw [hdigest]
  | closeCircuit =>
    obtain rfl : ph = .idle := hpre
    cases hs
    cases h with
    | idle here flow count sent =>
      exact ⟨.closed, rfl, .closed (s := { s with circ := s.circ.closeCircuit, gone := true }) rfl sent.1⟩
  | circuitGone =>
    cases hs
    refine ⟨ph, ⟨rfl, ?_⟩, h⟩
    cases h with
    | idle here _ _ _ | noted here _ _ _ _ _ _ _ _ | owing here _ _ _ _ _ _ _ _ => simp [here]
    | closed gone _ => simp [gone]
  | writeCell rc =>
    by_cases hcirc : CircSendme rc
    · -- the SENDME that was owed
      obtain ⟨digest, rfl, hencode⟩ := hpre hcirc
      exact ⟨.idle, (if_pos hcirc).symm, h.write hcirc hencode hs⟩
    · exact ⟨ph, (if_neg hcirc).symm, hquiet hcirc⟩
  | takeData i =>
    refine ⟨ph, ⟨rfl, ?_, hgood.1⟩, hquiet trivial⟩
    cases hs
    exact takeData_opened hgood.2
  | outside o =>
    refine ⟨ph, ⟨rfl, ?_⟩, hquiet trivial⟩
    cases hs
    rintro (rfl | ⟨data, rfl⟩)
    · exact hgood
    · exact hgood
  | originate rc =>
    refine ⟨ph, ⟨rfl, fun hcirc hlen => ?_⟩, hquiet trivial⟩
    obtain ⟨e, he, -, -⟩ | ⟨tag, -, hr, -⟩ := exec_originate hs
    · -- a circuit SENDME can always be encoded
      obtain ⟨payload, hok⟩ := encodeRelay_circSendme (c := s.circ) hcirc hlen
      rw [hok] at he
      cases he
    · exact ⟨tag, hr⟩
  | _ => exact ⟨ph, rfl, hquiet trivial⟩

end Count

/-! ### Whole runs -/

def exitContract : ExitTid → Contract ExitAct ExitAct.Resp ReadPhase
  | .reader => readContract
  | .pump _ => pumpContract

lemma ReadInv.step {inc : ℕ} (hinc : 0 < inc) {s s' : ExitState} {l : ExitTid → ReadPhase}
    {t : ExitTid} {a : ExitAct} {r : a.Resp} (h : ReadInv inc s (l .reader))
    (hpre : (exitContract t).pre (l t) a) (hgood : PassedOn s t a ch)
    (hs : exec t a ch s = some (r, s')) :
    ∃ ph', (exitContract t).post (l t) a r ph' ∧
      ReadInv inc s' (Function.update l t ph' .reader) := by
  cases t with
  | reader =>
    obtain ⟨ph', hpost, hinv⟩ := h.step_reader hinc hpre hgood hs
    refine ⟨ph', hpost, ?_⟩
    exact hinv
  | pump n =>
    refine ⟨l (.pump n), rfl, ?_⟩
    exact h.frame (sameRead_exec hpre hs)

def ExitCircuit.increment (c : ExitCircuit) : ℕ := c.flowOf.increment

lemma ExitFlow.increment_pos (flow : ExitFlow) : 0 < flow.increment := by
  unfold ExitFlow.increment
  split
  next h => exact h
  next => decide

lemma FreshExit.flowIs {circ : ExitCircuit} (h : FreshExit circ) : circ.FlowIs circ.increment := by
  refine ⟨rfl, fun hcc => ?_⟩
  obtain ⟨inc, -, hflow⟩ := h.flow hcc
  unfold ExitCircuit.flowOf
  rw [hflow]
  rfl

lemma ReadInv.sendmes {inc : ℕ} {s : ExitState} {ph : ReadPhase} (h : ReadInv inc s ph) :
    s.sendmes.map Except.ok <+: (everyNth inc s.recognised).map encodeSendmeV1 := by
  cases h with
  | idle here flow count sent => exact sent.1
  | noted here flow cells digest last len note count sent
  | owing here flow cells digest last len count due sent =>
    rw [last]
    exact sent.1.trans ((everyNth_starts cells).map _)
  | closed gone sent => exact sent

lemma tagLen_of_encodeSendmeV1 {payload : Bytes}
    (h : encodeSendmeV1 digest = .ok payload) : TagLen digest := by
  unfold encodeSendmeV1 at h
  split at h
  · cases h
  next hlen =>
    unfold TagLen
    omega

lemma client_accepts {client : Circuit.Circ} {payload : Bytes} {rest : List Bytes}
    (hencode : encodeSendmeV1 digest = .ok payload)
    (hhead : client.sendmeExpected = digest :: rest) {vegas' : VegasWindow} :
    ∃ client', client.processCircuitSendme payload vegas' = .ok client' ∧ client'.sendmeExpected = rest := by
  obtain ⟨payload', hencode', hdecode⟩ :=
    decodeSendme_encodeSendmeV1 (tagLen_of_encodeSendmeV1 hencode)
  obtain rfl : payload' = payload := Except.ok.inj (hencode'.symm.trans hencode)
  refine ⟨_, processCircuitSendme_eq hdecode hhead vegas', ?_⟩
  cases client.vegas with
  | some v | none => rfl

/-- The running SHA-1 of the cells below, from the seed `07…07`. -/
def forwardDigests : List ℕ :=
  [
    0x56a9cf4a969ee9ca0497a841e45acf05d8fc9c91, 0x4a8a016c82e8ce7faf7e4ede85351327421814e5,
    0x38170fc9fdf43555b709d036da44aed7ec2d57a0, 0x14fb50c1160ebbd0a749fa27b63d3636c703360d,
    0x1dde4646e312100f98f0be288d3455babb3b284f, 0x335ed174f30af52694c81bd11089d9955caffa21,
    0xc86841ef99f07a928708a423d96655fb1cff02ff, 0xabb9b0a0a2868e835f399486a23e8636394a6923,
    0x700badda5e70325d2156f981af71d70144a88e7f, 0x51ffba2741d58a84aef886750dbc87894c81370f,
    0x1fe24f201d6152e9ad5dd1e5fc4cbac18a5fa8d3, 0xc15be2e84caf2b0155c0343809680c5aba651b7b,
    0x87e584739fbd0f9d8f18bae11e0a5f6a3f43cadd, 0xc9b677a6292fee5343dac9ad3701b9a86c9bdc5e,
    0xc7c9a0e398e9c8d6727f241accccece29fff9efa, 0xb9c825076ab2737897b4e04b3af50091b517f915,
    0x78e33d284dbc558e7a270aee64c1af2a7eeb0331, 0x7b633e274c733ebe562a6b8f8f4487a03e7511eb,
    0x2ab338690ad2e46a04379a654cf52c9408f76ab4, 0xa9369b4d0f3834c1ddd23557f3f364efbde87048,
    0x1f421a9d5ff9de1e1702111437f3e42a6860005f, 0x4695495b27d0b3441d0acc2fff755dddc413bbc6,
    0x7c965831ababe2415378ea5945118d85565a8288, 0x4913aee5d28be40d44b9f2ec717c4638a573e697,
    0xc428949bce5fe4a55e493d920c6e0a866a4c9dc1, 0xe65aff4397d140987e2f8d0a8ed0806cbbbf8dbd,
    0x7d59b6f5c6b8cac994e3fa8f84938b26a8d28110, 0x15338e117fa2b19767883d1a62659f1f0e923d19,
    0x20b3fbf41e298678fef3a1a4e745e5835e42f34c, 0x711ddd85bf8bb5ab6cc320e824a8927945120823,
    0x59bad76c047dc0c13ed838a6144a02ab4ec9f71e, 0xa49079b5ab7456ce22b284bcacea163671c466ef,
    0x9b96c940170c576a302966a481280b3d9a905e85, 0xb09bca3068bf99bcdc756286dd522a44fd1edddf]

def beginCell (streamID : UInt16) : RelayCell :=
  { command := relayBegin, streamID, data := "example.com:80".toUTF8.toList ++ [0] }

/-- BEGIN cells for the streams 1 and 9, a DATA cell for stream 9 and 31 for stream 1. -/
def twoStreamCells : List ExitCell :=
  let cells := [(beginCell 1, 0), (beginCell 9, 1), (dataCell 9 [97], 0)] ++
    replicate 31 (dataCell 1 [97], 0)
  zipWith (fun digest cell =>
    { digest := bytesOfNat 20 digest, rc := cell.1, pump := cell.2,
      digest_len := .inl (length_bytesOfNat 20 digest) }) forwardDigests cells

def ccCircuit : ExitCircuit where
  circuitID := 7
  ccEnabled := true
  sendmeInc := 31
  usesCGO := false
  cwndInit := 124
  circCC := some ⟨31, some ⟨0, 124⟩⟩
  circOutWindow := some 124

def readerDoes (n : ℕ) : List (ExitTid × ExitChoice) := replicate n (.reader, .done)

def readerSends (tag : ℕ) : List (ExitTid × ExitChoice) :=
  [(.reader, .bytes (bytesOfNat 20 tag)), (.reader, .done)]

def connectedPayload : Bytes := [93, 184, 216, 34, 0, 0, 14, 16]

def readerOpens (tag : ℕ) : List (ExitTid × ExitChoice) :=
  readerDoes 5 ++ [(.reader, .bytes connectedPayload)] ++ readerSends tag ++ readerDoes 2

/-- Both streams are opened, and all DATA cells are passed on. -/
def bothOpened : List (ExitTid × ExitChoice) :=
  readerOpens 0x25da4d49a1d5464daecddc87a645b591d595daf5 ++
  readerOpens 0x815a2a7254ec2613cab10364d10dc247f1697243 ++
  readerDoes (6 * 31) ++ readerSends 0x032b29b8531d5ee41ffafd60271313db9f3bda7e ++ readerDoes 6

/-- The second stream is refused when its first DATA cell is already on its way. -/
def secondRefused : List (ExitTid × ExitChoice) :=
  readerOpens 0x25da4d49a1d5464daecddc87a645b591d595daf5 ++
  readerDoes 5 ++ [(.reader, .refuse 3)] ++ readerSends 0x231474a9e8f5da9101621fbbb32539732b8f806d ++
  readerDoes 3 ++ readerDoes (6 * 31) ++ readerSends 0x0bc9d85d7012d7437c2b9796c4959c4947ae1c50

lemma freshExit_ccCircuit : FreshExit ccCircuit where
  streams _ := rfl
  outWindow := nofun
  flow _ := ⟨31, by decide, rfl⟩
  classic := nofun
  inCount := rfl
  expected := rfl

end GoTor.Relay
