import GoTor.Circuit.OnionNet

/-!
# Client and relays stay in step

The proof of `onion_in_step`.  A relay is split into what it is for outbound cells (`stage`)
and for inbound ones (`source`); the two have nothing in common, so a step of one direction
leaves the other alone.  For each direction the invariant is the one of `Lib.Onion`, together
with what the parties have reported so far.
-/

namespace GoTor.Circuit

open GoTor.Lib GoTor.Crypto GoTor.Relay List Node Layer CircuitCrypto Layer.Source Net Side Opened Hop

def linkCells (q : List (LinkCmd × Bytes)) : List (UInt8 × Bytes) :=
  q.map fun m => (cgoAD m.1, m.2)

def Node.stage (node : Node) : Layer.Stage Side UInt8 Bytes Bytes :=
  ⟨linkCells node.inbox, node.crypto.fwd, node.peeled⟩

def Node.source (node : Node) : Layer.Source Side UInt8 Bytes :=
  ⟨linkCells node.outbox, node.crypto.bwd⟩

/-- What relay `i` has to say of a cell the client sent, up to the fields of the layer. -/
def Sent.due (m : Sent) (v1 : Bool) (i : ℕ) : List (Option (Bytes × Bytes)) :=
  if i < m.dest then [none]
  else if i = m.dest then [m.tag.map fun tag => (clearFields v1 m.payload, tag)]
  else []

def clearReport (v1 : Bool) (r : Bytes × Bytes) : Bytes × Bytes := (clearFields v1 r.1, r.2)

def reportsOf (k : ℕ) : List (Layer.Opened Bytes Bytes) → List (Bytes × Bytes) :=
  filterMap fun o => o.bind fun r => if r.1 = k then some r.2 else none

variable {P : Primitives}

/-! ### Outbound -/

variable {ad : UInt8} {payload : Bytes} {i : ℕ}

section Outbound

lemma Side.isCGO_passOut (s : Side) (ad : UInt8) (cell : Bytes) : (s.passOut P ad cell).1.isCGO = s.isCGO := by
  cases s <;> rfl

lemma Side.isCGO_origOut (s : Side) : (s.origOut P ad payload).1.isCGO = s.isCGO := by
  cases s <;> rfl

variable {ss : List Side}

lemma isCGO_encrypt {d : ℕ}
    {r : List Side × Bytes × Bytes} (h : (outbound P).encrypt ad payload ss d = some r) :
    r.1.map isCGO = ss.map isCGO := by
  induction ss generalizing d r with
  | nil => cases h
  | cons s ss ih =>
    cases d with
    | zero =>
      cases h
      exact congrArg (· :: ss.map isCGO) s.isCGO_origOut
    | succ d =>
      simp only [encrypt, Option.map_eq_some_iff] at h
      obtain ⟨q, hq, rfl⟩ := h
      have hs : ((outbound P).pass s ad q.2.1).1.isCGO = s.isCGO := s.isCGO_passOut ad q.2.1
      simp [hs, ih hq]

/-- The outbound invariant: if the relays worked off their links, each would hold the layer
the client holds now, and would have reported of every cell what the client put into it. -/
structure OutInv (P : Primitives) (kinds : List Bool) (ss : List Side)
    (stages : List (Layer.Stage Side UInt8 Bytes Bytes)) (sent : List Sent) : Prop where
  kinds_eq : ss.map isCGO = kinds
  states : ((outbound P).flush stages []).map Prod.fst = ss
  logs : ∀ i log v1, (((outbound P).flush stages []).map Prod.snd)[i]? = some log →
    kinds[i]? = some v1 → log.map (Option.map (clearReport v1)) = sent.flatMap (·.due v1 i)
  ok : (outbound P).AllOk (stages.map Layer.Stage.queue)

variable {kinds : List Bool} {stages : List (Layer.Stage Side UInt8 Bytes Bytes)}

lemma OutInv.send {ss' : List Side} {sent : List Sent} (hinv : OutInv P kinds ss stages sent)
    {d : ℕ} {out tag : Bytes} (hplain : ∀ s, ss[d]? = some s → s.Sendable payload)
    (henc : (outbound P).encrypt ad payload ss d = some (ss', out, tag))
    (hun : (outbound P).Unmistaken ad payload ss d) :
    OutInv P kinds ss' (push ad out stages) (sent ++ [⟨d, payload, some tag⟩]) := by
  obtain ⟨sd, hsd, hfst, hsnd⟩ := traverse_encrypt hinv.states hplain henc hun
  have hflush : (outbound P).flush (push ad out stages) [] =
      (outbound P).traverse ((outbound P).flush stages []) ad out := flush_push ad out stages
  refine ⟨(isCGO_encrypt henc).trans hinv.kinds_eq, ?_, ?_, allOk_push (encrypt_ok hplain henc) hinv.ok⟩
  · rw [hflush]
    exact hfst
  intro i log v1 hlog hv1
  rw [hflush, hsnd, getElem?_addDue, Option.map_eq_some_iff] at hlog
  obtain ⟨log0, hlog0, rfl⟩ := hlog
  rw [map_append, hinv.logs i log0 v1 hlog0 hv1]
  simp only [due, Sent.due]
  by_cases hlt : i < d
  · simp [hlt]
  by_cases heq : i = d
  · -- the relay the cell is for sees the payload with its own fields written
    subst heq
    have hkind : v1 = sd.isCGO := by
      have : (ss.map isCGO)[i]? = some sd.isCGO := by simp [hsd]
      rw [hinv.kinds_eq, hv1] at this
      exact Option.some.inj this
    have hclear : clearFields sd.isCGO ((outbound P).stamp sd payload) =
        clearFields sd.isCGO payload := clearFields_stamp sd (hplain sd hsd).length
    subst hkind
    simpa [clearReport] using hclear
  · simp [hlt, heq]

lemma OutInv.peel {stages' : List (Layer.Stage Side UInt8 Bytes Bytes)} {sent : List Sent}
    (hinv : OutInv P kinds ss stages sent) (h : (outbound P).peelAt i stages = some stages') :
    OutInv P kinds ss stages' sent := by
  have hflush := flush_peelAt h []
  refine ⟨hinv.kinds_eq, ?_, ?_, allOk_peelAt h hinv.ok⟩
  · rw [hflush, hinv.states]
  · rw [hflush]
    exact hinv.logs

end Outbound

/-! ### Inbound -/

variable {k : ℕ}

section Inbound

lemma reportsOf_append (k : ℕ) (xs ys : List (Layer.Opened Bytes Bytes)) :
    reportsOf k (xs ++ ys) = reportsOf k xs ++ reportsOf k ys := by
  simp [reportsOf]

lemma reportsOf_eq_nil {ys : List (Layer.Opened Bytes Bytes)}
    (h : ∀ o, some o ∈ ys → k ≠ o.1) : reportsOf k ys = [] := by
  simp only [reportsOf, filterMap_eq_nil_iff]
  intro o ho
  cases o with
  | none => rfl
  | some r =>
    have hne := h r ho
    simp [Ne.symm hne]

lemma Side.isCGO_passIn (s : Side) {cell : Bytes} : (s.passIn P ad cell).1.isCGO = s.isCGO := by
  cases s <;> rfl

lemma Side.isCGO_origIn (s : Side) : (s.origIn P ad payload).1.isCGO = s.isCGO := by
  cases s <;> rfl

/-- The inbound invariant: if the client took all the cells in flight, its layers would be
the ones the relays hold now, and it would have told every cell's hop, payload and tag. -/
structure InInv (P : Primitives) (kinds : List Bool) (ss : List Side)
    (sources : List (Layer.Source Side UInt8 Bytes)) (originated : List (List (Bytes × Bytes)))
    (received : List (Layer.Opened Bytes Bytes)) : Prop where
  kinds_eq : sources.map (fun s => s.state.isCGO) = kinds
  states : ((inbound P).drain 0 ss (sources.map queue)).1 = sources.map state
  logs : ∀ k sent v1, originated[k]? = some sent → kinds[k]? = some v1 →
    (reportsOf k (received ++ ((inbound P).drain 0 ss (sources.map queue)).2)).map
      (clearReport v1) = sent.map (clearReport v1)
  known : ∀ o ∈ received ++ ((inbound P).drain 0 ss (sources.map queue)).2,
    ∃ k v1, o.map Prod.fst = some k ∧ kinds[k]? = some v1
  ok : (inbound P).AllOk (sources.map queue)

variable {kinds : List Bool} {ss : List Side}
  {sources sources' : List (Layer.Source Side UInt8 Bytes)}
  {originated originated' : List (List (Bytes × Bytes))}
  {received : List (Layer.Opened Bytes Bytes)}

lemma InInv.receive {cell : Bytes} {q : List (UInt8 × Bytes)} {state : Side}
    (hinv : InInv P kinds ss (⟨(ad, cell) :: q, state⟩ :: sources) originated received) :
    InInv P kinds ((inbound P).openOne 0 ss ad cell).1 (⟨q, state⟩ :: sources) originated
      (received ++ [((inbound P).openOne 0 ss ad cell).2]) := by
  obtain ⟨hkinds, hstates, hlogs, hknown, hok⟩ := hinv
  simp only [map_cons, drain_receive] at hstates hlogs hknown
  obtain ⟨hfirst, hrest⟩ := allOk_cons.1 hok
  refine ⟨hkinds, hstates, ?_, ?_, allOk_cons.2 ⟨?_, hrest⟩⟩
  · simpa using hlogs
  · simpa using hknown
  · exact fun m hm => hfirst m (mem_cons_of_mem _ hm)

lemma isCGO_wrapAt (h : (inbound P).wrapAt i sources = some sources') :
    sources'.map (fun s => s.state.isCGO) = sources.map (fun s => s.state.isCGO) := by
  fun_induction (inbound P).wrapAt i sources generalizing sources' with
  | case1 | case4 => cases h
  | case2 st nx rest ad cell q hq =>
    cases h
    have hs : ((inbound P).pass st.state ad cell).1.isCGO = st.state.isCGO :=
      st.state.isCGO_passIn
    simp +zetaDelta [hs]
  | case3 i st rest ih =>
    obtain ⟨rest', hrest, rfl⟩ := Option.map_eq_some_iff.1 h
    simp [ih hrest]

lemma isCGO_originateAt (h : (inbound P).originateAt ad payload k sources = some sources') :
    sources'.map (fun s => s.state.isCGO) = sources.map (fun s => s.state.isCGO) := by
  fun_induction (inbound P).originateAt ad payload k sources generalizing sources' with
  | case1 => cases h
  | case2 st rest =>
    cases h
    have hs : ((inbound P).orig st.state ad payload).1.isCGO = st.state.isCGO :=
      st.state.isCGO_origIn
    simp +zetaDelta [hs]
  | case3 k st rest ih =>
    obtain ⟨rest', hrest, rfl⟩ := Option.map_eq_some_iff.1 h
    simp [ih hrest]

variable (hinv : InInv P kinds ss sources originated received)
include hinv

lemma InInv.wrap (h : (inbound P).wrapAt i sources = some sources')
    (hun : ∀ s a c, nextAt i sources = some (s, a, c) → ¬ s.Looks P c) :
    InInv P kinds ss sources' originated received := by
  have hdrain := drain_wrapAt h hinv.states fun s a c hn =>
    ⟨ok_of_nextAt hn hinv.ok, hun s a c hn⟩
  refine ⟨(isCGO_wrapAt h).trans hinv.kinds_eq, ?_, ?_, ?_, allOk_wrapAt h hinv.ok⟩
  · rw [hdrain]
  · rw [hdrain]
    exact hinv.logs
  · rw [hdrain]
    exact hinv.known

lemma InInv.originate (hlen : payload.length = payloadLen)
    (h : (inbound P).originateAt ad payload k sources = some sources')
    (hlog : ∀ j sent' st, originated'[j]? = some sent' → sources[k]? = some st → ∃ sent, originated[j]? = some sent ∧
        sent' = if j = k then sent ++ [(payload, ((inbound P).orig st.state ad payload).2.2)] else sent) :
    InInv P kinds ss sources' originated' received := by
  obtain ⟨st, xs, ys, hst, hxy, hdrain, hlt⟩ :=
    drain_originateAt (fun _ _ => hlen) h hinv.states
  rw [Nat.zero_add] at hdrain hlt
  refine ⟨(isCGO_originateAt h).trans hinv.kinds_eq, ?_, ?_, ?_, allOk_originateAt (fun _ _ => hlen) h hinv.ok⟩
  · rw [hdrain]
  · intro j sent' v1 hj hv1
    obtain ⟨sent, hsent, rfl⟩ := hlog j sent' st hj hst
    have hold := hinv.logs j sent v1 hsent hv1
    rw [hxy, reportsOf_append, reportsOf_append] at hold
    simp only [hdrain, reportsOf_append]
    by_cases hjk : j = k
    · -- cells of the relays behind come later, so the new report is the relay's last one
      subst hjk
      have hys : reportsOf j ys = [] := reportsOf_eq_nil fun o ho => Nat.ne_of_lt (hlt o ho)
      have hkind : v1 = st.state.isCGO := by
        have hget : (sources.map fun s => s.state.isCGO)[j]? = some st.state.isCGO := by
          simp [hst]
        rw [hinv.kinds_eq, hv1] at hget
        exact Option.some.inj hget
      have hclear : clearFields st.state.isCGO ((inbound P).stamp st.state payload) =
          clearFields st.state.isCGO payload := clearFields_stampIn st.state hlen
      rw [hys, append_nil, map_append] at hold
      subst hkind
      have hcons : ∀ r : Bytes × Bytes, reportsOf j (some (j, r) :: ys) = [r] := by
        intro r
        have hnew : reportsOf j [some (j, r)] = [r] := by simp [reportsOf]
        rw [← singleton_append, reportsOf_append, hys, hnew, append_nil]
      rw [hcons, map_append, map_append, ← append_assoc, hold]
      simp [clearReport, hclear]
    · have hcons : ∀ r : Bytes × Bytes, reportsOf j (some (k, r) :: ys) = reportsOf j ys := by
        simp [reportsOf, Ne.symm hjk]
      rw [hcons, if_neg hjk, hold]
  intro o ho
  rw [hdrain] at ho
  simp only [mem_append, mem_cons] at ho
  rcases ho with ho | ho | rfl | ho
  · exact hinv.known o (mem_append_left _ ho)
  · exact hinv.known o (by simp [hxy, ho])
  · refine ⟨k, st.state.isCGO, rfl, ?_⟩
    rw [← hinv.kinds_eq]
    simp [hst]
  · exact hinv.known o (by simp [hxy, ho])

end Inbound

/-! ### The code's steps are the abstract ones -/

variable {ccs : List CircuitCrypto}

section Simulation

lemma passOn_views (cmd : LinkCmd) (cell : Bytes) (nodes : List Node) : (passOn cmd cell nodes).map stage =
        push (cgoAD cmd) cell (nodes.map stage) ∧
      (passOn cmd cell nodes).map source = nodes.map source ∧
      (passOn cmd cell nodes).map originated = nodes.map originated := by
  cases nodes with
  | nil => exact ⟨rfl, rfl, rfl⟩
  | cons node rest => simp [passOn, stage, source, push, linkCells]

variable {nodes : List Node} {r : Except String (List Node)}

lemma peelAt_views (hok : (outbound P).AllOk ((nodes.map stage).map Layer.Stage.queue))
    (h : peelAt P i nodes = some r) :
    ∃ nodes', r = .ok nodes' ∧
      (outbound P).peelAt i (nodes.map stage) = some (nodes'.map stage) ∧
      nodes'.map source = nodes.map source ∧
      nodes'.map originated = nodes.map originated := by
  induction nodes generalizing i r with
  | nil => cases i <;> cases h
  | cons node rest ih =>
    obtain ⟨hnode, hrest⟩ := allOk_cons.1 hok
    cases i with
    | succ i =>
      -- the relays before it are left alone
      simp only [peelAt, Option.map_eq_some_iff] at h
      obtain ⟨r', hr', rfl⟩ := h
      obtain ⟨nodes', rfl, hstage, hsource, horig⟩ := ih hrest hr'
      refine ⟨node :: nodes', rfl, ?_, ?_, ?_⟩
      · simp [Layer.peelAt, hstage]
      · simp [hsource]
      · simp [horig]
    | zero =>
      obtain ⟨crypto, inbox, outbox, peeled, originated⟩ := node
      cases inbox with
      | nil => simp [peelAt] at h
      | cons m inbox =>
        obtain ⟨cmd, cell⟩ := m
        have hcell : cell.length = payloadLen := hnode (cgoAD cmd, cell) (mem_cons_self ..)
        obtain ⟨cc', hpeel, hfwd, hbwd⟩ := crypto.peelInbound_eq (P := P) (cgoAD cmd) hcell
        have hrecv : (outbound P).recv = recvOut P := rfl
        rcases hr : crypto.fwd.recvOut P (cgoAD cmd) cell with ⟨s', out, tag⟩
        rw [hr] at hpeel hfwd
        cases tag with
        | some tag =>
          -- the relay keeps the cell
          simp only [peelAt, hpeel] at h
          cases h
          refine ⟨_, rfl, ?_, ?_, ?_⟩
          · simp [Layer.peelAt, stage, linkCells, hrecv, hr, hfwd]
          · simp [source, hbwd]
          · simp
        | none =>
          -- the relay passes it on
          simp only [peelAt, hpeel] at h
          cases h
          obtain ⟨hstage, hsource, horig⟩ := passOn_views cmd out rest
          refine ⟨_, rfl, ?_, ?_, ?_⟩
          · rw [map_cons, map_cons, hstage]
            cases rest with
            | nil | cons nx rest =>
              simp [Layer.peelAt, stage, linkCells, hrecv, hr, hfwd, Layer.push]
          · simp [source, hbwd, hsource]
          · simp [horig]

lemma originateAt_views (hlen : payload.length = payloadLen) (h : originateAt P payload k nodes = some r) :
    ∃ nodes', r = .ok nodes' ∧
      (inbound P).originateAt (cgoAD .relay) payload k (nodes.map source) = some (nodes'.map source) ∧
      nodes'.map stage = nodes.map stage ∧
      ∀ j sent' st, (nodes'.map originated)[j]? = some sent' → (nodes.map source)[k]? = some st →
        ∃ sent, (nodes.map originated)[j]? = some sent ∧ sent' = if j = k then
            sent ++ [(payload, ((inbound P).orig st.state (cgoAD .relay) payload).2.2)]
          else sent := by
  induction nodes generalizing k r with
  | nil => cases k <;> cases h
  | cons node rest ih =>
    cases k with
    -- The originating hop lies further out: this node is untouched.
    | succ k =>
      simp only [originateAt, Option.map_eq_some_iff] at h
      obtain ⟨r', hr', rfl⟩ := h
      obtain ⟨nodes', rfl, hsource, hstage, hlog⟩ := ih hr'
      refine ⟨node :: nodes', rfl, ?_, ?_, ?_⟩
      · simp [Layer.originateAt, hsource]
      · simp [hstage]
      intro j sent' st hj hst
      cases j with
      | zero => exact ⟨sent', hj, rfl⟩
      | succ j =>
        obtain ⟨sent, hsent, heq⟩ := hlog j sent' st hj hst
        refine ⟨sent, hsent, ?_⟩
        simpa using heq
    | zero =>
      obtain ⟨cc', henc, hbwd, hfwd⟩ := node.crypto.encryptOutbound_eq (P := P) hlen
      have horig : (inbound P).orig = origIn P := rfl
      simp only [originateAt, henc] at h
      cases h
      refine ⟨_, rfl, ?_, ?_, ?_⟩
      · simp [Layer.originateAt, source, linkCells, horig, hbwd]
      · simp [stage, hfwd]
      intro j sent' st hj hst
      cases j with
      | zero =>
        obtain rfl : node.source = st := Option.some.inj hst
        simpa [horig, source] using hj.symm
      | succ j => exact ⟨sent', hj, by simp⟩

lemma wrapAt_views (hok : (inbound P).AllOk ((nodes.map source).map queue))
    (h : wrapAt P i nodes = some r) :
    ∃ nodes', r = .ok nodes' ∧
      (inbound P).wrapAt i (nodes.map source) = some (nodes'.map source) ∧
      nodes'.map stage = nodes.map stage ∧
      nodes'.map originated = nodes.map originated := by
  induction nodes generalizing i r with
  | nil => cases i <;> cases h
  | cons node rest ih =>
    obtain ⟨-, hrest⟩ := allOk_cons.1 hok
    cases i with
    | succ i =>
      simp only [wrapAt, Option.map_eq_some_iff] at h
      obtain ⟨r', hr', rfl⟩ := h
      obtain ⟨nodes', rfl, hsource, hstage, horig⟩ := ih hrest hr'
      refine ⟨node :: nodes', rfl, ?_, ?_, ?_⟩
      · simp [Layer.wrapAt, hsource]
      · simp [hstage]
      · simp [horig]
    | zero =>
      -- The cell wrapped here is the first one waiting at the next hop.
      cases rest with
      | nil => cases h
      | cons next rest =>
        obtain ⟨crypto, inbox, outbox, peeled, originated⟩ := next
        cases outbox with
        | nil => simp [wrapAt] at h
        | cons m outbox =>
          obtain ⟨cmd, cell⟩ := m
          have hcell : cell.length = payloadLen :=
            (allOk_cons.1 hrest).1 (cgoAD cmd, cell) (mem_cons_self ..)
          obtain ⟨cc', hwrap, hbwd, hfwd⟩ :=
            node.crypto.wrapOutbound_eq (P := P) (cgoAD cmd) hcell
          have hpass : (inbound P).pass = passIn P := rfl
          simp only [wrapAt, hwrap] at h
          cases h
          refine ⟨_, rfl, ?_, ?_, ?_⟩
          · simp [Layer.wrapAt, source, linkCells, hpass, hbwd]
          · simp [stage, hfwd]
          · simp

lemma takeFirst_views {nodes' : List Node} {cmd : LinkCmd} {cell : Bytes}
    (h : takeFirst nodes = some (cmd, cell, nodes')) :
    ∃ q state rest, nodes.map source = ⟨(cgoAD cmd, cell) :: q, state⟩ :: rest ∧
      nodes'.map source = ⟨q, state⟩ :: rest ∧
      nodes'.map stage = nodes.map stage ∧
      nodes'.map originated = nodes.map originated := by
  cases nodes with
  | nil => cases h
  | cons node rest =>
    obtain ⟨crypto, inbox, outbox, peeled, originated⟩ := node
    cases outbox with
    | nil => simp [takeFirst] at h
    | cons m outbox =>
      obtain ⟨rfl, rfl, rfl⟩ := h
      exact ⟨linkCells outbox, crypto.bwd, rest.map source, rfl, rfl, rfl, rfl⟩

lemma unmistaken_ofCrypto (ad : UInt8) {d : ℕ} (hd : d < ccs.length)
    (hplain : ∀ s, (ccs.map fwd)[d]? = some s → s.Sendable payload)
    (h : ∀ i cc out tag, i < d → ccs[i]? = some cc →
      (encryptOnion P ((ccs.map ofCrypto).drop (i + 1)) ad (d - (i + 1) : ℕ) payload).2 =
        .ok (out, tag) → ¬ cc.fwd.Looks P out) :
    (outbound P).Unmistaken ad payload (ccs.map fwd) d := by
  induction ccs generalizing d with
  | nil => trivial
  | cons cc ccs ih =>
    cases d with
    | zero => trivial
    | succ d =>
      have hplain' : ∀ s, (ccs.map fwd)[d]? = some s → s.Sendable payload := hplain
      have hd' : d < ccs.length := Nat.lt_of_succ_lt_succ hd
      refine ⟨?_, ih hd' hplain' ?_⟩
      · intro r hr
        obtain ⟨ccs', ss', out, tag, habs, henc, -, -⟩ :=
          encryptOnion_ofCrypto (P := P) ad hd' hplain'
        obtain rfl : (ss', out, tag) = r := Option.some.inj (habs.symm.trans hr)
        refine h 0 cc out (some tag) (Nat.succ_pos d) rfl ?_
        simp [henc]
      · intro i cc' out tag hi hcc' hout
        refine h (i + 1) cc' out tag (Nat.succ_lt_succ hi) hcc' ?_
        simpa using hout

end Simulation

/-! ### The whole circuit -/

/-- The invariant of the circuit: the client's hops are those of `ccs`, no function has
returned an error, and both directions are in step. -/
def NetInv (P : Primitives) (kinds : List Bool) (net : Net) : Prop :=
  net.errors = [] ∧ ∃ ccs : List CircuitCrypto, net.hops = ccs.map ofCrypto ∧
    OutInv P kinds (ccs.map fwd) (net.nodes.map Node.stage) net.sent ∧
    InInv P kinds (ccs.map bwd) (net.nodes.map Node.source)
      (net.nodes.map Node.originated) (net.received.map report)

section Steps

variable {kinds : List Bool} {net net' : Net} (hinv : NetInv P kinds net)
include hinv

lemma NetInv.send {cmd : LinkCmd} {dest : ℕ} (hgood : net.Unmistaken P (.send cmd dest payload))
    (hstep : net.step P (.send cmd dest payload) = some net') : NetInv P kinds net' := by
  obtain ⟨herr, ccs, hhops, hout, hin⟩ := hinv
  have hfwdAt : ∀ i, net.fwdAt i = (ccs.map fwd)[i]? := by
    intro i
    simp only [fwdAt, hhops, getElem?_map]
    cases ccs[i]? <;> simp
  obtain ⟨⟨s, hs, hsend⟩, hun⟩ := hgood
  rw [hfwdAt] at hs
  have hd : dest < ccs.length := by
    simpa using (List.getElem?_eq_some_iff.1 hs).1
  have hplain : ∀ s, (ccs.map fwd)[dest]? = some s → s.Sendable payload := by
    intro s' hs'
    obtain rfl : s = s' := Option.some.inj (hs.symm.trans hs')
    exact hsend
  obtain ⟨ccs', ss', out, tag, habs, henc, hfwd, hbwd⟩ :=
    encryptOnion_ofCrypto (P := P) (cgoAD cmd) hd hplain
  have hunm := unmistaken_ofCrypto (P := P) (cgoAD cmd) hd hplain fun i cc o t hi hcc ho =>
    hun i hi cc.fwd (by simp [hfwdAt, hcc]) (o, t) (by rw [hhops, ho]; rfl)
  simp only [step, hhops, henc] at hstep
  cases hstep
  obtain ⟨hstage, hsource, horig⟩ := passOn_views cmd out net.nodes
  refine ⟨herr, ccs', rfl, ?_, ?_⟩
  · rw [hfwd, hstage]
    exact hout.send hplain habs hunm
  · rw [hbwd, hsource, horig]
    exact hin

lemma NetInv.peel (hstep : net.step P (.peel i) = some net') : NetInv P kinds net' := by
  obtain ⟨herr, ccs, hhops, hout, hin⟩ := hinv
  simp only [step, Option.map_eq_some_iff] at hstep
  obtain ⟨r, hr, rfl⟩ := hstep
  obtain ⟨nodes', rfl, hstage, hsource, horig⟩ := peelAt_views hout.ok hr
  refine ⟨herr, ccs, hhops, hout.peel hstage, ?_⟩
  change InInv P kinds _ (nodes'.map source) (nodes'.map originated) _
  rw [hsource, horig]
  exact hin

lemma NetInv.originate (hgood : net.Unmistaken P (.originate k payload))
    (hstep : net.step P (.originate k payload) = some net') : NetInv P kinds net' := by
  obtain ⟨herr, ccs, hhops, hout, hin⟩ := hinv
  simp only [step, Option.map_eq_some_iff] at hstep
  obtain ⟨r, hr, rfl⟩ := hstep
  obtain ⟨nodes', rfl, hsource, hstage, hlog⟩ := originateAt_views hgood hr
  refine ⟨herr, ccs, hhops, ?_, hin.originate hgood hsource hlog⟩
  change OutInv P kinds _ (nodes'.map stage) _
  rw [hstage]
  exact hout

omit hinv

lemma nextAt_source {nodes : List Node} {s : Side} {cell : Bytes}
    (h : nextAt i (nodes.map source) = some (s, ad, cell)) :
    ∃ node next cmd rest, nodes[i]? = some node ∧ nodes[i + 1]? = some next ∧
      next.outbox = (cmd, cell) :: rest ∧ node.crypto.bwd = s := by
  induction nodes generalizing i with
  | nil => cases i <;> cases h
  | cons node nodes ih =>
    cases i with
    | succ i => exact ih h
    | zero =>
      cases nodes with
      | nil => cases h
      | cons next nodes =>
        cases hq : next.outbox with
        | nil => simp [nextAt, source, linkCells, hq] at h
        | cons m rest =>
          simp only [map_cons, source, hq] at h
          obtain ⟨rfl, -, rfl⟩ := h
          exact ⟨node, next, m.1, rest, rfl, rfl, hq, rfl⟩

include hinv

lemma NetInv.wrap (hgood : net.Unmistaken P (.wrap i))
    (hstep : net.step P (.wrap i) = some net') : NetInv P kinds net' := by
  obtain ⟨herr, ccs, hhops, hout, hin⟩ := hinv
  simp only [step, Option.map_eq_some_iff] at hstep
  obtain ⟨r, hr, rfl⟩ := hstep
  obtain ⟨nodes', rfl, hsource, hstage, horig⟩ := wrapAt_views hin.ok hr
  refine ⟨herr, ccs, hhops, ?_, ?_⟩
  · change OutInv P kinds _ (nodes'.map stage) _
    rw [hstage]
    exact hout
  · change InInv P kinds _ (nodes'.map source) (nodes'.map originated) _
    rw [horig]
    refine hin.wrap hsource fun s ad cell hnext => ?_
    obtain ⟨node, next, cmd, rest, hnode, hnx, hq, rfl⟩ := nextAt_source hnext
    exact hgood node hnode next hnx (cmd, cell) (by rw [hq]; rfl)

lemma NetInv.receive (hstep : net.step P .receive = some net') : NetInv P kinds net' := by
  obtain ⟨herr, ccs, hhops, hout, hin⟩ := hinv
  simp only [step, Option.map_eq_some_iff] at hstep
  obtain ⟨⟨cmd, cell, nodes'⟩, htake, rfl⟩ := hstep
  obtain ⟨q, state, rest, hsource, hsource', hstage, horig⟩ := takeFirst_views htake
  rw [hsource] at hin
  have hcell : cell.length = payloadLen :=
    (allOk_cons.1 hin.ok).1 (cgoAD cmd, cell) (mem_cons_self ..)
  obtain ⟨ccs', r, hdec, hbwd, hfwd, hrep⟩ :=
    decryptHops_ofCrypto (P := P) (cgoAD cmd) 0 ccs hcell
  simp only [decryptOnion, hhops, hdec]
  refine ⟨herr, ccs', rfl, ?_, ?_⟩
  · change OutInv P kinds _ (nodes'.map stage) _
    rw [hfwd, hstage]
    exact hout
  · change InInv P kinds _ (nodes'.map source) (nodes'.map originated) ((net.received ++ [r]).map report)
    rw [hbwd, hsource', horig, map_append, map_cons, hrep]
    exact hin.receive

lemma NetInv.step {a : Action} (hgood : net.Unmistaken P a)
    (hstep : net.step P a = some net') : NetInv P kinds net' := by
  cases a with
  | send cmd dest payload => exact hinv.send hgood hstep
  | peel i => exact hinv.peel hstep
  | originate k payload => exact hinv.originate hgood hstep
  | wrap i => exact hinv.wrap hgood hstep
  | receive => exact hinv.receive hstep

end Steps

/-! ### From the handshakes on -/

def isCGOMaterial (keyMaterial : Bytes) : Bool := keyMaterial.length = cgoKeyMaterialLen

lemma mapM_newCircuitCrypto {kms : List Bytes} (h : kms.mapM newCircuitCrypto = .ok ccs) :
    kms.mapM (fun km => deriveHopFromKeyMaterial (km.length = cgoKeyMaterialLen) km) = .ok (ccs.map ofCrypto) ∧
      ccs.map (fun cc => cc.fwd.isCGO) = kms.map isCGOMaterial ∧
      ccs.map (fun cc => cc.bwd.isCGO) = kms.map isCGOMaterial := by
  induction kms generalizing ccs with
  | nil =>
    cases h
    exact ⟨rfl, rfl, rfl⟩
  | cons km kms ih =>
    rw [mapM_cons] at h
    obtain ⟨cc, hcc, h⟩ := bind_eq_ok.1 h
    obtain ⟨ccs', hccs, heq⟩ := bind_eq_ok.1 h
    cases heq
    obtain ⟨hhops, hfwd, hbwd⟩ := ih hccs
    have hkind : cc.fwd.isCGO = isCGOMaterial km ∧ cc.bwd.isCGO = isCGOMaterial km := by
      unfold newCircuitCrypto at hcc
      split at hcc
      · rename_i hlen
        obtain ⟨pair, -, heq⟩ := bind_eq_ok.1 hcc
        cases heq
        simp [fwd, bwd, isCGO, isCGOMaterial, hlen]
      · split at hcc
        · rename_i hlen _
          cases hcc
          simp [fwd, bwd, isCGO, isCGOMaterial, hlen]
        · cases hcc
    refine ⟨?_, ?_, ?_⟩
    · rw [mapM_cons]
      exact bind_eq_ok.2 ⟨_, deriveHop_eq_ofCrypto hcc, bind_eq_ok.2 ⟨_, hhops, rfl⟩⟩
    · simp [hkind.1, hfwd]
    · simp [hkind.2, hbwd]

lemma netInv_init {kms : List Bytes} {net : Net} (h : init kms = .ok net) :
    NetInv P (kms.map isCGOMaterial) net := by
  obtain ⟨hops, hhops, h⟩ := bind_eq_ok.1 h
  obtain ⟨ccs, hccs, heq⟩ := bind_eq_ok.1 h
  cases heq
  obtain ⟨hhops', hfwd, hbwd⟩ := mapM_newCircuitCrypto hccs
  obtain rfl : hops = ccs.map ofCrypto := by
    rw [hhops] at hhops'
    cases hhops'
    rfl
  have hqueues : ∀ st ∈ (ccs.map fun crypto => ({ crypto } : Node)).map stage, st.queue = [] := by
    simp [stage, linkCells]
  have hempty : ∀ q ∈ ((ccs.map fun crypto => ({ crypto } : Node)).map source).map queue, q = [] := by
    simp [source, linkCells]
  -- All links are empty, so both sides of each equation read the fresh states.
  refine ⟨rfl, ccs, rfl, ⟨?_, ?_, ?_, ?_⟩, ⟨?_, ?_, ?_, ?_, ?_⟩⟩
  · rw [map_map]
    exact hfwd
  · rw [flush_nil_queue _ hqueues]
    simp [stage]
  · intro i log v1 hlog _
    rw [flush_nil_queue _ hqueues] at hlog
    simp only [map_map, getElem?_map, Option.map_eq_some_iff] at hlog
    obtain ⟨cc, -, rfl⟩ := hlog
    rfl
  · intro q hq m hm
    obtain ⟨st, hst, rfl⟩ := mem_map.1 hq
    rw [hqueues st hst] at hm
    cases hm
  · rw [map_map, map_map]
    exact hbwd
  · rw [drain_empty 0 _ _ hempty]
    simp [source]
  · intro k sent v1 hk _
    rw [drain_empty 0 _ _ hempty]
    simp only [map_map, getElem?_map, Option.map_eq_some_iff] at hk
    obtain ⟨cc, -, rfl⟩ := hk
    rfl
  · rw [drain_empty 0 _ _ hempty]
    simp
  · intro q hq m hm
    rw [hempty q hq] at hm
    cases hm

lemma eq_of_sides {cc cc' : CircuitCrypto} (hfwd : cc.fwd = cc'.fwd) (hbwd : cc.bwd = cc'.bwd) : cc = cc' := by
  cases cc <;> cases cc' <;> simp_all [fwd, bwd, CGOPair.ext_iff]

lemma eq_of_map_sides {ccs' : List CircuitCrypto}
    (hfwd : ccs.map fwd = ccs'.map fwd)
    (hbwd : ccs.map bwd = ccs'.map bwd) : ccs = ccs' := by
  induction ccs generalizing ccs' with
  | nil => simpa using hfwd.symm
  | cons cc ccs ih =>
    cases ccs' with
    | nil => cases hfwd
    | cons cc' ccs' =>
      simp only [map_cons, cons.injEq] at hfwd hbwd
      rw [eq_of_sides hfwd.1 hbwd.1, ih hfwd.2 hbwd.2]

def Net.Drained (net : Net) : Prop := ∀ node ∈ net.nodes, node.inbox = [] ∧ node.outbox = []

/-- What relay `i` reported is what the client sent: cells for hops behind it are not its
own, and of its own it has the payload and the tag. -/
def Net.peeledOf (v1 : Bool) (node : Node) : List (Option (Bytes × Bytes)) :=
  node.peeled.map (Option.map (clearReport v1))

def Net.dueAt (net : Net) (v1 : Bool) (i : ℕ) : List (Option (Bytes × Bytes)) :=
  net.sent.flatMap (·.due v1 i)

/-- What the client made of the cells of hop `k`, in order. -/
def Net.receivedFrom (net : Net) (v1 : Bool) (k : ℕ) : List (Bytes × Bytes) :=
  (reportsOf k (net.received.map report)).map (clearReport v1)

lemma Opened.hopIdx_of_report {r : Opened} (h : r.report.map Prod.fst = some k) : r.hopIdx = some k := by
  unfold report at h
  split at h
  · rename_i i tag hi _
    simp only [Option.map_some] at h
    rw [hi, h]
  · cases h

/-- **Client and relays stay in step.**  However the cells of the two directions interleave:
no function fails; relay `i` says "not mine" of every cell for a hop behind it and has the
client's payload and tag of every cell of its own, in the order they were sent; the client
assigns every cell to the hop that sent it, with that hop's payload and tag, in order; and
whenever nothing is in flight, nothing is missing and all ciphers and digests agree. -/
theorem onion_in_step (P : Primitives) {keyMaterials : List Bytes} {net0 net : Net}
    {as : List Action} (hinit : init keyMaterials = .ok net0)
    (hgood : RunMeets (step P) (Net.Unmistaken P) net0 as)
    (hrun : run (step P) net0 as = some net) :
    net.errors = [] ∧
    (∀ i node km, net.nodes[i]? = some node → keyMaterials[i]? = some km →
      peeledOf (isCGOMaterial km) node <+: net.dueAt (isCGOMaterial km) i) ∧
    (∀ r ∈ net.received, ∃ k, r.hopIdx = some k ∧ k < keyMaterials.length) ∧
    (∀ k node km, net.nodes[k]? = some node → keyMaterials[k]? = some km → net.receivedFrom (isCGOMaterial km) k <+:
        node.originated.map (clearReport (isCGOMaterial km))) ∧
    (net.Drained →
      (∀ i node km, net.nodes[i]? = some node → keyMaterials[i]? = some km →
        peeledOf (isCGOMaterial km) node = net.dueAt (isCGOMaterial km) i ∧
        net.receivedFrom (isCGOMaterial km) i =
          node.originated.map (clearReport (isCGOMaterial km))) ∧
      net.hops = net.nodes.map fun node => ofCrypto node.crypto) := by
  have hinv : NetInv P (keyMaterials.map isCGOMaterial) net :=
    run_inv (fun _ _ _ h hg hs => h.step hg hs) (netInv_init hinit) hgood hrun
  obtain ⟨herr, ccs, hhops, hout, hin⟩ := hinv
  have hkind : ∀ {i : ℕ} {km : Bytes}, keyMaterials[i]? = some km →
      (keyMaterials.map isCGOMaterial)[i]? = some (isCGOMaterial km) := by
    intro i km hkm
    simp [hkm]
  refine ⟨herr, ?_, ?_, ?_, ?_⟩
  · intro i node km hnode hkm
    obtain ⟨rest, hlog⟩ := @Layer.getElem?_flush _ _ _ _ (outbound P) i _ node.stage
      (show (net.nodes.map stage)[i]? = some node.stage by simp [hnode]) []
    have hdue := hout.logs i _ _ hlog (hkind hkm)
    rw [map_append] at hdue
    exact ⟨_, hdue⟩
  · intro r hr
    obtain ⟨k, v1, hk, hlt⟩ := hin.known r.report
      (mem_append_left _ (mem_map_of_mem hr))
    refine ⟨k, hopIdx_of_report hk, ?_⟩
    simpa using (List.getElem?_eq_some_iff.1 hlt).1
  · intro k node km hnode hkm
    have hlog := hin.logs k node.originated _ (by simp [hnode]) (hkind hkm)
    rw [reportsOf_append, map_append] at hlog
    exact ⟨_, hlog⟩
  intro hdrained
  have hqueues : ∀ st ∈ net.nodes.map stage, st.queue = [] := by
    intro st hst
    obtain ⟨node, hnode, rfl⟩ := mem_map.1 hst
    simp [stage, linkCells, (hdrained node hnode).1]
  have hempty : ∀ q ∈ (net.nodes.map source).map queue, q = [] := by
    intro q hq
    obtain ⟨src, hsrc, rfl⟩ := mem_map.1 hq
    obtain ⟨node, hnode, rfl⟩ := mem_map.1 hsrc
    simp [source, linkCells, (hdrained node hnode).2]
  refine ⟨?_, ?_⟩
  · intro i node km hnode hkm
    refine ⟨?_, ?_⟩
    · refine hout.logs i node.peeled _ ?_ (hkind hkm)
      rw [flush_nil_queue _ hqueues]
      simp [hnode, stage]
    · have hlog := hin.logs i node.originated _ (by simp [hnode]) (hkind hkm)
      rwa [drain_empty 0 _ _ hempty, append_nil] at hlog
  -- with empty links both look-aheads are the present
  have hfwd := hout.states
  rw [flush_nil_queue _ hqueues] at hfwd
  have hbwd := hin.states
  rw [drain_empty 0 _ _ hempty] at hbwd
  have hccs : ccs = net.nodes.map crypto := by
    refine eq_of_map_sides ?_ ?_
    · rw [← hfwd]
      simp [stage]
    · refine hbwd.trans ?_
      simp [source]
  rw [hhops, hccs, map_map]
  rfl

def twoHopMaterial : List Bytes := [replicate 72 7, replicate 72 9]

def twoHopNet : Net := (init twoHopMaterial).toOption.getD { hops := [], nodes := [] }

/-- A RELAY_DATA cell through the guard to the second relay. -/
def twoHopRun : List Action := [.send .relay 1 (2 :: zeros 508), .peel 0, .peel 1]

theorem onion_in_step_two_hops :
    ∃ net, run (step xorPrimitives) twoHopNet twoHopRun = some net ∧ net.errors = [] ∧
      ∀ node, net.nodes[1]? = some node → peeledOf false node <+: net.dueAt false 1 := by
  have hrun : (run (step xorPrimitives) twoHopNet twoHopRun).isSome = true := by
    decide +kernel
  have hgood : RunMeets (step xorPrimitives) (Net.Unmistaken xorPrimitives) twoHopNet twoHopRun := by
    decide +kernel
  obtain ⟨net, hnet⟩ := Option.isSome_iff_exists.1 hrun
  obtain ⟨herr, hpeeled, -⟩ :=
    onion_in_step xorPrimitives (show init twoHopMaterial = .ok twoHopNet from rfl) hgood hnet
  exact ⟨net, hnet, herr, fun node hnode => hpeeled 1 node _ hnode rfl⟩

end GoTor.Circuit
