import GoTor.Relay.ReplyInvariant

/-!
# Answers reach their requests

The steps of the readers and of the next hops keep the invariant of waiting requests, and so
does a new request.  It follows that every answer is taken by its own request.
-/

namespace GoTor.Relay

open GoTor.Lib Function List Table Option ReplyNet

namespace ReplyNet

variable {keyOf : NextConnPtr → Bytes} {s s' : ReplyNet}

/-! ### The steps of a reader -/

variable {conn : NextConnPtr} {r : Reply}

lemma get_set_eq_none_iff {c : NextConnPtr} {held : Option Reply} (hreader : s.readers.get conn ≠ none) :
    (s.readers.set conn held).get c = none ↔ s.readers.get c = none := by
  rcases eq_or_ne c conn with rfl | hne
  · rw [get_set_self]
    exact ⟨nofun, fun hc => absurd hc hreader⟩
  · rw [get_set_of_ne _ hne]

lemma Sound.readerTake (h : Sound keyOf s) {rest : List Reply}
    (hreader : s.readers.get conn = some none) (hstream : s.stream conn = r :: rest) :
    Sound keyOf { s with
      readers := s.readers.set conn (some r)
      stream := update s.stream conn rest } := by
  have hruns : s.readers.get conn ≠ none := by rw [hreader]; nofun
  refine h.shrink (h.links.mono rfl (fun c => get_set_eq_none_iff hruns) fun c hc => ?_)
    (fun _ hc => hc) (fun c => (get_set_eq_none_iff hruns).2)
    (fun c hc => .inr (mt (get_set_eq_none_iff hruns).1 hc)) fun c => ?_
  · obtain ⟨hempty, hnone⟩ := h.links.closed c hc
    have hne : c ≠ conn := by
      rintro rfl
      exact hruns hnone
    exact ⟨(update_of_ne hne _ _).trans hempty, hnone⟩
  · rcases eq_or_ne c conn with rfl | hne
    · rw [inFlight, hreader, hstream, get_set_self, update_self]
      exact List.Sublist.refl _
    · rw [get_set_of_ne _ hne, update_of_ne hne]
      exact List.Sublist.refl _

lemma Sound.release (h : Sound keyOf s) (hreader : s.readers.get conn = some (some r)) :
    Sound keyOf { s with readers := s.readers.set conn none } := by
  have hruns : s.readers.get conn ≠ none := by rw [hreader]; nofun
  refine h.shrink (h.links.mono rfl (fun c => get_set_eq_none_iff hruns) h.links.closed)
    (fun _ hc => hc) (fun c => (get_set_eq_none_iff hruns).2)
    (fun c hc => .inr (mt (get_set_eq_none_iff hruns).1 hc)) fun c => ?_
  refine List.Sublist.append ?_ (List.Sublist.refl _)
  rcases eq_or_ne c conn with rfl | hne
  · rw [get_set_self]
    exact nil_sublist _
  · rw [get_set_of_ne _ hne]

lemma Sound.readerEnd (h : Sound keyOf s)
    (hreader : s.readers.get conn = some none) (hstream : s.stream conn = []) :
    Sound keyOf { s with
      readers := s.readers.erase conn
      flags := update s.flags (keyOf conn) false
      closed := update s.closed conn true } := by
  have hruns : s.readers.get conn ≠ none := by rw [hreader]; nofun
  have hget : ∀ c, (s.readers.erase conn).get c ≠ none ↔ c ≠ conn ∧ s.readers.get c ≠ none :=
    fun c => by
      rw [get_erase]
      split
      next heq => exact ⟨fun hc => absurd rfl hc, fun hc => absurd heq hc.1⟩
      next hne => exact ⟨fun hc => ⟨hne, hc⟩, And.right⟩
  refine h.shrink ⟨fun c hc => ?_, fun k hk => ?_, fun c c' hc hc' hkey => ?_, fun c hc => ?_⟩
    (fun c hc => closed_update_iff.2 (.inr hc)) (fun c hc => ?_) (fun c hc => ?_)
    fun c => ?_
  · -- One reader per key, so clearing its flag leaves the other readers theirs.
    obtain ⟨hne, hc⟩ := (hget c).1 hc
    have hkey : keyOf c ≠ keyOf conn := fun heq => hne (h.links.oneReader c conn hc hruns heq)
    exact (update_of_ne hkey _ _).trans (h.links.flagged c hc)
  · have hk : update s.flags (keyOf conn) false k = true := hk
    have hne : k ≠ keyOf conn := by
      rintro rfl
      rw [update_self] at hk
      cases hk
    rw [update_of_ne hne] at hk
    obtain ⟨c, hc, rfl⟩ := h.links.flag k hk
    exact ⟨c, (hget c).2 ⟨fun heq => hne (congrArg keyOf heq), hc⟩, rfl⟩
  · exact h.links.oneReader c c' ((hget c).1 hc).2 ((hget c').1 hc').2 hkey
  · rcases closed_update_iff.1 hc with rfl | hc
    · exact ⟨hstream, get_erase_self _⟩
    · obtain ⟨hempty, hnone⟩ := h.links.closed c hc
      exact ⟨hempty, not_not.1 fun hr => ((hget c).1 hr).2 hnone⟩
  · exact not_not.1 fun hr => ((hget c).1 hr).2 hc
  · rcases eq_or_ne c conn with rfl | hne
    · exact .inl (closed_update_iff.2 (.inl rfl))
    · exact .inr ((hget c).2 ⟨hne, hc⟩)
  · refine List.Sublist.append ?_ (List.Sublist.refl _)
    rw [get_erase]
    split
    · exact nil_sublist _
    · exact List.Sublist.refl _

lemma Advances.of_taken {w : Waiter} (hw : w.answered = true) {channel : Option Reply} :
    Advances w { w with taken := true, channel := channel } where
  conn := rfl
  id := rfl
  answered := rfl
  taken hf := nomatch hf
  waiting hf := hf
  honest hf := absurd (hw.symm.trans hf) (by decide)

variable (h : Sound keyOf s)
include h

variable {y : ExtPtr}

lemma Sound.entry_origin (hreader : s.readers.get conn ≠ none) (hcell : CellOk s conn r)
    (hy : s.pending.get (keyOf conn, r.id) = some y) : r.origin = some y := by
  obtain ⟨hphase, hentry⟩ := h.pending _ y hy
  obtain ⟨hkey, hid⟩ := Prod.mk.inj hentry
  have huns : s.Unsettled y := unsettled_of_waiting (by rw [hphase]; rfl)
  have hconn := h.keys.reader y conn huns hreader hkey
  rw [CellOk] at hcell
  cases ho : r.origin with
  | none =>
    rw [ho] at hcell
    exact absurd hid.symm (hcell y huns hconn.symm)
  | some o =>
    rw [ho] at hcell
    obtain ⟨hoconn, hoid, -, htaken, -⟩ := hcell
    have hokey : s.key keyOf o = s.key keyOf y := by rw [key, hoconn, hkey]
    rw [h.keys.ids o y (.inr htaken) huns hokey (hoid.trans hid)]

lemma Sound.deliverPending (hphase : (s.exts y).phase = .onChannel) (ho : r.origin = some y)
    (hanswered : (s.exts y).answered = true) (htaken : (s.exts y).taken = false)
    (hno : ∀ c, ∀ r' ∈ s.inFlight c, r'.origin ≠ some y) :
    Sound keyOf (s.move y { s.exts y with taken := true, channel := (s.exts y).channel.or (some r) }
      (s.pending.erase (s.key keyOf y, (s.exts y).id)) s.delivered) := by
  have hok := h.phases y
  rw [PhaseOk, hphase] at hok
  obtain ⟨hserved, -, hchannel⟩ := hok
  have hempty : (s.exts y).channel = none := by
    cases hc : (s.exts y).channel with
    | none => rfl
    | some r' => exact absurd ((hchannel r' hc).2.symm.trans htaken) (by decide)
  rw [hempty]
  refine h.progress (.of_taken hanswered) h.delivered (.inl hno) ?_
    (fun z hz => h.erased_others (.inr htaken) hz) fun k z => h.erased_entry
  refine .of_onChannel exts_move_self hphase hserved (.inr (some_ne_none r)) fun r' hr' => ?_
  cases hr'
  exact ⟨ho, rfl⟩

lemma Sound.discard {o : ExtPtr} (hanswered : (s.exts o).answered = true)
    (hphase : (s.exts o).phase = .created ∨ (s.exts o).phase = .ended)
    (hno : ∀ c, ∀ r ∈ s.inFlight c, r.origin ≠ some o) :
    Sound keyOf (s.put o { s.exts o with taken := true }) := by
  refine h.progress (.of_taken hanswered) h.delivered (.inl hno) (.of_done exts_move_self hphase) (fun _ _ _ hp => hp)
    fun k y hk => h.entry_of_ne ?_ hk
  rcases hphase with hp | hp <;> rw [hp] <;> decide

lemma Sound.phase_of_no_entry {o : ExtPtr}
    (hreader : s.readers.get conn ≠ none) (hcell : CellOk s conn r) (ho : r.origin = some o)
    (hentry : s.pending.get (keyOf conn, r.id) = none) :
    (s.exts o).phase = .created ∨ (s.exts o).phase = .ended := by
  obtain ⟨hconn, hid, -, htaken, hsent, hregister⟩ := hcell.answer ho
  have hok := h.phases o
  rw [PhaseOk, key, hconn, hid, hentry, htaken] at hok
  cases hphase : (s.exts o).phase with
  | sent => exact absurd hphase hsent
  | toRegister => exact absurd hphase hregister
  | onChannel =>
    rw [hphase] at hok
    obtain ⟨-, hwait, hchannel⟩ := hok
    obtain ⟨r', hr'⟩ := ne_none_iff_exists'.1 (hwait.resolve_left (by simp))
    exact absurd (hchannel r' hr').2 (by decide)
  | direct =>
    rw [hphase] at hok
    rcases hok with hclosed | ⟨hnone, -⟩
    · exact absurd (h.links.closed conn hclosed).2 hreader
    · exact absurd hnone hreader
  | created => exact .inl rfl
  | ended => exact .inr rfl

omit h

lemma deliver_of_entry
    (hentry : s.pending.get (keyOf conn, r.id) = some y) (ho : r.origin = some y) :
    s.deliver keyOf conn r = { s with
      readers := s.readers.set conn none
      pending := s.pending.erase (keyOf conn, r.id)
      exts := update s.exts y
        { s.exts y with taken := true, channel := (s.exts y).channel.or (some r) } } := by
  simp only [deliver, hentry, take, ho, put, update_self, update_idem]

lemma deliver_of_no_entry (hentry : s.pending.get (keyOf conn, r.id) = none)
    (hover : ∀ o, r.origin = some o → (s.exts o).phase.waiting = false) :
    s.deliver keyOf conn r = take { s with readers := s.readers.set conn none } r := by
  have hlost : (r.origin.toList.filter fun o => (s.exts o).phase.waiting) = [] := by
    refine filter_eq_nil_iff.2 fun o ho => ?_
    rw [hover o (mem_toList.1 ho)]
    decide
  simp only [deliver, hentry, hlost, append_nil]
  unfold take
  split <;> rfl

include h

lemma Sound.readerDeliver
    (hreader : s.readers.get conn = some (some r)) : Sound keyOf (s.deliver keyOf conn r) := by
  have hc : s.inFlight conn = r :: s.stream conn := by
    rw [inFlight, hreader]
    rfl
  have hruns : s.readers.get conn ≠ none := hreader ▸ some_ne_none _
  have hcell : CellOk s conn r := h.cells conn r (hc ▸ mem_cons_self)
  have h' := h.release hreader
  have hself : inFlight { s with readers := s.readers.set conn none } conn = s.stream conn := by
    change ((s.readers.set conn none).get conn).join.toList ++ s.stream conn = s.stream conn
    rw [get_set_self]
    rfl
  have hno : ∀ o, r.origin = some o → ∀ c,
      ∀ r' ∈ inFlight { s with readers := s.readers.set conn none } c, r'.origin ≠ some o :=
    fun o ho => h.no_other_cell hc ho hself
      fun c' hne => inFlight_congr (get_set_of_ne _ hne) rfl
  cases hentry : s.pending.get (keyOf conn, r.id) with
  | some y =>
    have ho := h.entry_origin hruns hcell hentry
    obtain ⟨hphase, hkey⟩ := h.pending _ y hentry
    obtain ⟨-, -, hanswered, htaken, -⟩ := hcell.answer ho
    rw [deliver_of_entry hentry ho, hkey]
    exact h'.deliverPending hphase ho hanswered htaken (hno y ho)
  | none =>
    have hdone : ∀ o, r.origin = some o → (s.exts o).phase = .created ∨ (s.exts o).phase = .ended :=
      fun o ho => h.phase_of_no_entry hruns hcell ho hentry
    rw [deliver_of_no_entry hentry fun o ho => by rcases hdone o ho with hp | hp <;> rw [hp] <;> rfl]
    unfold take
    cases ho : r.origin with
    | none => exact h'
    | some o => exact h'.discard (hcell.answer ho).2.2.1 (hdone o ho) (hno o ho)

lemma Sound.startReader (hflag : s.flags (keyOf conn) = false) (hopen : s.closed conn = false)
    (hothers : ∀ y, s.Unsettled y → s.key keyOf y = keyOf conn →
      (s.exts y).conn = conn ∧ (s.exts y).phase ≠ .direct) :
    Sound keyOf { s with
      flags := update s.flags (keyOf conn) true
      readers := s.readers.set conn none } := by
  -- the flag is down, so no reader has the key
  have hnokey : ∀ c, s.readers.get c ≠ none → keyOf c ≠ keyOf conn := fun c hc heq => by
    have hflagged := h.links.flagged c hc
    rw [heq, hflag] at hflagged
    cases hflagged
  have hnone : s.readers.get conn = none := not_not.1 fun hc => hnokey conn hc rfl
  have hget : ∀ c, (s.readers.set conn none).get c ≠ none ↔ c = conn ∨ s.readers.get c ≠ none :=
    fun c => by
      rw [get_set]
      split
      next heq => exact ⟨fun _ => .inl heq, fun _ => some_ne_none _⟩
      next hne => exact ⟨.inr, fun hc => hc.resolve_left hne⟩
  have hflight : ∀ c, inFlight { s with
      flags := update s.flags (keyOf conn) true
      readers := s.readers.set conn none } c = s.inFlight c := fun c => by
    rcases eq_or_ne c conn with rfl | hne
    · change ((s.readers.set c none).get c).join.toList ++ s.stream c = _
      rw [inFlight, hnone, get_set_self]
      rfl
    · exact inFlight_congr (get_set_of_ne _ hne) rfl
  refine ⟨⟨fun c hc => ?_, fun k hk => ?_, fun c c' hc hc' hkey => ?_, fun c hc => ?_⟩,
    { h.keys with reader := fun x c hx hc hkey => ?_ }, fun y => ?_,
    h.pending, fun c r hr => h.cells c r (hflight c ▸ hr), fun c => (hflight c).symm ▸ h.nodup c,
    h.delivered, h.lost⟩
  · change update s.flags (keyOf conn) true (keyOf c) = true
    rw [update_apply]
    split
    · rfl
    next hne =>
      exact h.links.flagged c (((hget c).1 hc).resolve_left fun heq => hne (congrArg keyOf heq))
  · have hk : update s.flags (keyOf conn) true k = true := hk
    rw [update_apply] at hk
    split at hk
    next heq => exact ⟨conn, (hget conn).2 (.inl rfl), heq.symm⟩
    next hne =>
      obtain ⟨c, hc, hkey⟩ := h.links.flag k hk
      exact ⟨c, (hget c).2 (.inr hc), hkey⟩
  · rcases (hget c).1 hc with rfl | hr <;> rcases (hget c').1 hc' with rfl | hr'
    · rfl
    · exact absurd hkey.symm (hnokey c' hr')
    · exact absurd hkey (hnokey c hr)
    · exact h.links.oneReader c c' hr hr' hkey
  · obtain ⟨hempty, hcnone⟩ := h.links.closed c hc
    have hne : c ≠ conn := by
      rintro rfl
      exact absurd (hopen.symm.trans hc) (by decide)
    exact ⟨hempty, (get_set_of_ne _ hne).trans hcnone⟩
  · rcases (hget c).1 hc with rfl | hc
    · exact (hothers x hx hkey.symm).1.symm
    · exact h.keys.reader x c hx hc hkey
  · refine (h.phases y).mono (a := (s.exts y).answered) rfl (fun _ => rfl) (fun _ hz => hz)
      (fun _ hc => hc) (fun c hc => .inr ((hget c).2 (.inr hc))) (fun hphase hc => ?_)
      fun _ hp => hp
    -- whoever reads the connection directly has settled
    have hne : (s.exts y).conn ≠ conn := fun heq =>
      (hothers y (unsettled_of_waiting (by rw [hphase]; rfl)) (congrArg keyOf heq)).2 hphase
    exact (get_set_of_ne _ hne).trans hc

omit h

/-! ### The steps of the next hop -/

include h

lemma Sound.enqueue (hopen : s.closed conn = false) (hcell : CellOk s conn r)
    (hnew : ∀ o, r.origin = some o → ∀ r' ∈ s.inFlight conn, r'.origin ≠ some o) :
    Sound keyOf { s with stream := update s.stream conn (s.stream conn ++ [r]) } := by
  have hself : inFlight { s with stream := update s.stream conn (s.stream conn ++ [r]) }
      conn = s.inFlight conn ++ [r] := by
    change _ ++ update s.stream conn (s.stream conn ++ [r]) conn = _
    rw [update_self, inFlight, append_assoc]
  have hother : ∀ c, c ≠ conn →
      inFlight { s with stream := update s.stream conn (s.stream conn ++ [r]) } c =
        s.inFlight c := fun c hne => inFlight_congr rfl (update_of_ne hne _ _)
  refine ⟨h.links.mono rfl (fun _ => Iff.rfl) fun c hc => ?_,
    { h.keys with }, h.phases, h.pending,
    fun c r' hr' => ?_, fun c => ?_, h.delivered, h.lost⟩
  · obtain ⟨hempty, hnone⟩ := h.links.closed c hc
    have hne : c ≠ conn := by
      rintro rfl
      exact absurd (hopen.symm.trans hc) (by decide)
    exact ⟨(update_of_ne hne _ _).trans hempty, hnone⟩
  · rcases eq_or_ne c conn with rfl | hne
    · rw [hself] at hr'
      exact forall_mem_append.2 ⟨h.cells c, forall_mem_singleton.2 hcell⟩ r' hr'
    · rw [hother c hne] at hr'
      exact h.cells c r' hr'
  rcases eq_or_ne c conn with rfl | hne
  · rw [hself, filterMap_append]
    refine nodup_append'.2 ⟨h.nodup c, ?_, fun o ho ho' => ?_⟩
    · cases hr : r.origin <;> simp [hr]
    obtain ⟨r', hr', horigin⟩ := mem_filterMap.1 ho
    obtain ⟨r'', hr'', horigin'⟩ := mem_filterMap.1 ho'
    rw [mem_singleton.1 hr''] at horigin'
    exact hnew o horigin' r' hr' horigin
  · rw [hother c hne]
    exact h.nodup c

lemma Sound.markAnswered {x : ExtPtr} :
    Sound keyOf (s.put x { s.exts x with answered := true }) := by
  have hexts : ∀ y, ∃ a, (s.put x { s.exts x with answered := true }).exts y =
      { s.exts y with answered := a } ∧ (a = true ∨ a = (s.exts y).answered) := fun y => by
    rcases eq_or_ne y x with rfl | hne
    · exact ⟨true, exts_put_self _ _, .inl rfl⟩
    · exact ⟨(s.exts y).answered, exts_put_of_ne hne _, .inr rfl⟩
  have hids : ∀ y, ((s.put x { s.exts x with answered := true }).exts y).conn = (s.exts y).conn ∧
      ((s.put x { s.exts x with answered := true }).exts y).id = (s.exts y).id := fun y => by
    obtain ⟨a, ha, -⟩ := hexts y
    rw [ha]
    exact ⟨rfl, rfl⟩
  have hunsettled : ∀ y, (s.put x { s.exts x with answered := true }).Unsettled y → s.Unsettled y :=
    fun y hy => by
      obtain ⟨a, ha, -⟩ := hexts y
      rwa [Unsettled, ha] at hy
  refine ⟨{ h.links with },
    h.keys.mono hids hunsettled rfl (fun _ hc => hc) fun y hy => ?_, fun y => ?_, fun k y hk => ?_,
    fun c r hr => ?_, h.nodup, h.delivered, h.lost⟩
  · obtain ⟨a, ha, htrue | hold⟩ := hexts y <;> rw [ha] at hy ⊢
    · exact absurd (htrue.symm.trans hy) (by decide)
    · exact h.keys.answered y (hold.symm.trans hy)
  · obtain ⟨a, ha, -⟩ := hexts y
    exact (h.phases y).mono ha (fun z => (hids z).1) hunsettled (fun _ hc => hc)
      (fun _ hc => .inr hc) (fun _ hc => hc) fun _ hp => hp
  · obtain ⟨a, ha, -⟩ := hexts y
    rw [key, ha]
    exact h.pending k y hk
  · refine (h.cells c r hr).mono hids hunsettled fun o _ hanswered htaken => ?_
    obtain ⟨a, ha, hcase⟩ := hexts o
    rw [ha]
    exact ⟨hcase.elim id fun hold => hold.trans hanswered, htaken, fun h1 h2 => ⟨h1, h2⟩⟩

lemma Sound.answer {x : ExtPtr} {kind : ReplyKind}
    (hanswered : (s.exts x).answered = false) (hopen : s.closed (s.exts x).conn = false)
    (hsent : (s.exts x).phase ≠ .sent) (hregister : (s.exts x).phase ≠ .toRegister) :
    Sound keyOf { s.put x { s.exts x with answered := true } with
      stream := update s.stream (s.exts x).conn
        (s.stream (s.exts x).conn ++ [⟨some x, (s.exts x).id, kind⟩]) } := by
  refine h.markAnswered.enqueue hopen ?_ fun o ho r hr horigin => ?_
  · exact .of_answer (exts_put_self _ _) rfl
      ⟨rfl, rfl, rfl, h.keys.answered x hanswered, hsent, hregister⟩
  · cases ho
    have hwritten := ((h.cells _ r hr).answer horigin).2.2.1
    exact absurd (hanswered.symm.trans hwritten) (by decide)

variable {id : UInt32}

lemma Sound.noise {kind : ReplyKind} (hopen : s.closed conn = false)
    (hid : ∀ y, s.Unsettled y → (s.exts y).conn = conn → (s.exts y).id ≠ id) :
    Sound keyOf { s with
      stream := update s.stream conn (s.stream conn ++ [⟨none, id, kind⟩]) } :=
  h.enqueue hopen hid nofun

omit h

/-! ### A new request -/

structure Opened (s s' : ReplyNet) (conn : NextConnPtr) (id : UInt32) : Prop where
  self : s'.exts s.fresh = ⟨conn, id, .sent, none, false, false⟩
  other : ∀ y, y ≠ s.fresh → s'.exts y = s.exts y
  fresh : s'.fresh = s.fresh + 1
  readers : s'.readers = s.readers
  stream : s'.stream = s.stream

lemma Opened.unsettled (ho : Opened s s' conn id)
    (hy : s'.Unsettled y) : y = s.fresh ∨ s.Unsettled y ∧ s'.exts y = s.exts y := by
  rcases eq_or_ne y s.fresh with heq | hne
  · exact .inl heq
  · rw [Unsettled, ho.other y hne] at hy
    exact .inr ⟨hy, ho.other y hne⟩

lemma Keys.opened (h : Keys keyOf s) (ho : Opened s s' conn id)
    (hroom : ∀ y, s.Unsettled y → s.key keyOf y = keyOf conn → s.RoomFor conn id y)
    (hreader : ∀ c, s.readers.get c ≠ none → keyOf c = keyOf conn → c = conn) :
    Keys keyOf s' where
  bound x hx := by
    rw [ho.fresh]
    rcases ho.unsettled hx with rfl | ⟨hx, -⟩
    · exact Nat.lt_succ_self _
    · exact Nat.lt_succ_of_lt (h.bound x hx)
  -- The new circuit against an old one: `hroom` keeps their ids apart.
  ids x y hx hy hkey hid := by
    rcases ho.unsettled hx with rfl | ⟨hx, hxe⟩ <;> rcases ho.unsettled hy with rfl | ⟨hy, hye⟩
    · rfl
    · rw [key, key, ho.self, hye] at hkey
      rw [ho.self, hye] at hid
      exact absurd hid.symm (hroom y hy hkey.symm).2.1
    · rw [key, key, ho.self, hxe] at hkey
      rw [ho.self, hxe] at hid
      exact absurd hid (hroom x hx hkey).2.1
    · rw [key, key, hxe, hye] at hkey
      rw [hxe, hye] at hid
      exact h.ids x y hx hy hkey hid
  conn x y hx hy hkey := by
    rcases ho.unsettled hx with rfl | ⟨hx, hxe⟩ <;> rcases ho.unsettled hy with rfl | ⟨hy, hye⟩
    · rfl
    · rw [key, key, ho.self, hye] at hkey
      rw [ho.self, hye]
      exact (hroom y hy hkey.symm).1.symm
    · rw [key, key, ho.self, hxe] at hkey
      rw [ho.self, hxe]
      exact (hroom x hx hkey).1
    · rw [key, key, hxe, hye] at hkey
      rw [hxe, hye]
      exact h.conn x y hx hy hkey
  reader x c hx hc hkey := by
    rw [ho.readers] at hc
    rcases ho.unsettled hx with rfl | ⟨hx, hxe⟩
    · rw [key, ho.self] at hkey
      rw [ho.self]
      exact hreader c hc hkey
    · rw [key, hxe] at hkey
      rw [hxe]
      exact h.reader x c hx hc hkey
  answered x hx := by
    rcases eq_or_ne x s.fresh with rfl | hne
    · rw [ho.self]
    · rw [ho.other x hne] at hx ⊢
      exact h.answered x hx

include h

lemma PhaseOk.opened
    (ho : Opened s s' conn id) (hclosed : s'.closed = s.closed) (hpending : s'.pending = s.pending)
    (hroom : ∀ y, s.Unsettled y → s.key keyOf y = keyOf conn → s.RoomFor conn id y) (y : ExtPtr) :
    PhaseOk keyOf s' y := by
  rcases eq_or_ne y s.fresh with rfl | hne
  · rw [PhaseOk, ho.self]
    by_cases hreader : s.readers.get conn = none
    · refine .inr fun z hz hconn => ?_
      rw [ho.self] at hconn
      refine (ho.unsettled hz).resolve_right ?_
      rintro ⟨hz, hze⟩
      rw [hze] at hconn
      exact (hroom z hz (congrArg keyOf hconn)).2.2.2 hreader
    · exact .inl (.inr (by rwa [ho.readers]))
  have hserved : ∀ c, s.Served c → s'.Served c := fun c hc => by
    rwa [Served, hclosed, ho.readers]
  -- the new request is on another connection, or this one has a reader
  have halone : (s.exts y).phase.waiting = true → s.Alone y →
      (s.readers.get (s.exts y).conn ≠ none ∧ (s.exts y).phase ≠ .direct) ∨ s'.Alone y := by
    intro hwait ha
    by_cases hconn : (s.exts y).conn = conn
    · obtain ⟨-, -, hphase, hreader⟩ := hroom y (.inl hwait) (congrArg keyOf hconn)
      exact .inl ⟨by rwa [hconn], hphase⟩
    · refine .inr fun z hz hzc => ?_
      rw [ho.other y hne] at hzc
      rcases ho.unsettled hz with rfl | ⟨hz, hze⟩
      · rw [ho.self] at hzc
        exact absurd hzc.symm hconn
      · rw [hze] at hzc
        exact ha z hz hzc
  refine (h.phases y).keep (a := (s.exts y).answered) (ho.other y hne) (hserved _)
    (fun hphase ha => ?_) (fun hphase hd => ?_) (fun _ hp => hpending ▸ hp)
  · exact (halone (by rw [hphase]; rfl) ha).imp (fun hr => hserved _ (.inr hr.1)) fun ha => ha
  · rw [hclosed, ho.readers]
    refine hd.imp (fun hc => hc) fun hd => ⟨hd.1, ?_⟩
    exact (halone (by rw [hphase]; rfl) hd.2).resolve_left fun hr => hr.1 hd.1

lemma Sound.send (hroom : ∀ y, s.Unsettled y → s.key keyOf y = keyOf conn → s.RoomFor conn id y)
    (hreader : ∀ c, s.readers.get c ≠ none → keyOf c = keyOf conn → c = conn)
    (hid : ∀ r ∈ s.inFlight conn, r.id ≠ id) :
    Sound keyOf { s.put s.fresh ⟨conn, id, .sent, none, false, false⟩ with
      fresh := s.fresh + 1 } := by
  have ho : Opened s { s.put s.fresh ⟨conn, id, .sent, none, false, false⟩ with
      fresh := s.fresh + 1 } conn id :=
    ⟨exts_put_self _ _, fun y hy => exts_put_of_ne hy _, rfl, rfl, rfl⟩
  refine ⟨{ h.links with },
    h.keys.opened ho hroom hreader, PhaseOk.opened h ho rfl rfl hroom, fun k y hk => ?_,
    fun c r hr => ?_, h.nodup, h.delivered, h.lost⟩
  · obtain ⟨hphase, hkey⟩ := h.pending k y hk
    have hy : s.Unsettled y := unsettled_of_waiting (by rw [hphase]; rfl)
    rw [key, ho.other y (Nat.ne_of_lt (h.keys.bound y hy))]
    exact ⟨hphase, hkey⟩
  have hcell := h.cells c r hr
  rw [CellOk] at hcell
  cases hr' : r.origin with
  | none =>
    rw [hr'] at hcell
    rw [CellOk, hr']
    intro x hx hconn
    rcases ho.unsettled hx with rfl | ⟨hx, hxe⟩
    · rw [ho.self] at hconn ⊢
      obtain rfl : conn = c := hconn
      exact (hid r hr).symm
    · rw [hxe] at hconn ⊢
      exact hcell x hx hconn
  | some o =>
    rw [hr'] at hcell
    have hne : o ≠ s.fresh := Nat.ne_of_lt (h.keys.bound o (.inr hcell.2.2.2.1))
    exact .of_answer (ho.other o hne) hr' hcell

omit h

/-! ### Every run -/

lemma Sound.init : Sound keyOf {} where
  links := ⟨fun _ hc => absurd rfl hc, nofun, fun _ _ hc => absurd rfl hc, nofun⟩
  keys := by
    have hsettled : ∀ x, ¬ Unsettled {} x := fun x hx => hx.elim nofun nofun
    exact ⟨fun x hx => absurd hx (hsettled x), fun x _ hx => absurd hx (hsettled x),
      fun x _ hx => absurd hx (hsettled x), fun x _ hx => absurd hx (hsettled x), nofun⟩
  phases _ := trivial
  pending := nofun
  cells := nofun
  nodup _ := nodup_nil
  delivered := nofun
  lost := rfl

include h

/-- **Every step that meets the condition keeps the invariant.** -/
theorem Sound.step {e : ReplyStep} (hturn : InTurn keyOf s e)
    (hstep : step keyOf s e = some s') : Sound keyOf s' := by
  cases e with
  | send conn draw =>
    obtain ⟨-, ⟨⟩⟩ := ite_none_left_eq_some.1 hstep
    obtain ⟨hroom, hreader, hid⟩ := hturn
    refine h.send (fun y hy => hroom y (h.keys.bound y hy) hy) (fun c hc hkey => ?_) hid
    obtain ⟨held, hheld⟩ := ne_none_iff_exists'.1 hc
    exact hreader (c, held) ((get_eq_some_iff _).1 hheld) hkey
  | answer x created =>
    obtain ⟨hcond, ⟨⟩⟩ := ite_none_left_eq_some.1 hstep
    obtain ⟨hanswered, hopen⟩ := Bool.or_eq_false_iff.1 (Bool.eq_false_iff.2 hcond)
    exact h.answer hanswered hopen hturn.1 hturn.2
  | noise conn id kind =>
    obtain ⟨hopen, ⟨⟩⟩ := ite_none_left_eq_some.1 hstep
    exact h.noise (Bool.eq_false_iff.2 hopen) fun y hy => hturn y (h.keys.bound y hy) hy
  | readFlag x =>
    obtain ⟨hx, ⟨⟩⟩ := ite_none_right_eq_some.1 hstep
    exact h.readFlag hx
  | register x =>
    obtain ⟨hx, ⟨⟩⟩ := ite_none_right_eq_some.1 hstep
    exact h.register hx
  | channelTake x =>
    simp only [ReplyNet.step] at hstep
    split at hstep
    next r hr =>
      obtain ⟨hx, ⟨⟩⟩ := ite_none_right_eq_some.1 hstep
      exact h.channelTake hr hx
    · cases hstep
  | directTake x =>
    simp only [ReplyNet.step] at hstep
    split at hstep
    next r rest hstream =>
      obtain ⟨hx, ⟨⟩⟩ := ite_none_right_eq_some.1 hstep
      exact h.directTake hx hstream
    · cases hstep
  | timeout x =>
    simp only [ReplyNet.step] at hstep
    split at hstep
    next hx =>
      cases hstep
      exact h.timeoutChannel hx
    next hx =>
      cases hstep
      exact h.timeoutDirect hx
    · cases hstep
  | ensure x registered =>
    simp only [ReplyNet.step] at hstep
    obtain ⟨hx, hstep⟩ := ite_none_right_eq_some.1 hstep
    have hover := h.giveUp (x := x) (by rw [hx]; decide)
    split at hstep
    · cases hstep
      exact hover
    next hcond =>
    cases hstep
    simp only [Bool.or_eq_true, not_or, Bool.not_eq_true] at hcond
    -- a reader starts: those who wait on the key are on its connection
    refine hover.startReader hcond.1.2 hcond.2 fun y hy hkey => ?_
    have hw := h.advances_over x
    have hyuns : s.Unsettled y := hw.unsettled y hy
    have hyconn : ((s.put x _).exts y).conn = (s.exts y).conn := (hw.ids y).1
    rw [key, hyconn] at hkey
    obtain ⟨hconn, hphase⟩ := hturn y (h.keys.bound y hyuns) hyuns hkey
    refine ⟨hyconn.trans hconn, ?_⟩
    rcases eq_or_ne y x with rfl | hne
    · rw [exts_put_self]
      simp
    · rwa [exts_put_of_ne hne]
  | readerTake conn =>
    simp only [ReplyNet.step] at hstep
    split at hstep
    next r rest hreader hstream =>
      cases hstep
      exact h.readerTake hreader hstream
    · cases hstep
  | readerDeliver conn =>
    simp only [ReplyNet.step] at hstep
    split at hstep
    next r hreader =>
      cases hstep
      exact h.readerDeliver hreader
    · cases hstep
  | readerEnd conn =>
    obtain ⟨⟨hreader, hstream⟩, ⟨⟩⟩ := ite_none_right_eq_some.1 hstep
    exact h.readerEnd hreader hstream

lemma Sound.matched : s.Matched where
  delivered := h.delivered
  lost := h.lost
  served conn r hr o ho hwait := by
    obtain ⟨hconn, -, -, -, hsent, hregister⟩ := (h.cells conn r hr).answer ho
    have hok := h.phases o
    rw [PhaseOk, hconn] at hok
    cases hphase : (s.exts o).phase with
    | sent => exact absurd hphase hsent
    | toRegister => exact absurd hphase hregister
    | onChannel =>
      rw [hphase] at hok
      refine .inl (hok.1.resolve_left fun hclosed => ?_)
      rw [inFlight_of_closed h.links hclosed] at hr
      cases hr
    | direct => exact .inr rfl
    | created | ended =>
      rw [hphase] at hwait
      cases hwait

omit h

/-- A first extension over a fresh connection, after which the connection has a reader. -/
def firstExtension : List ReplyStep :=
  [.send 0 (some 5), .readFlag 0, .answer 0 true, .directTake 0, .ensure 0 true]

/-- Two more requests over the connection, answered in the other order. -/
def twoMore : List ReplyStep :=
  [.send 0 (some 6), .send 0 (some 7), .readFlag 1, .readFlag 2, .register 2, .register 1,
    .answer 2 true, .answer 1 false, .readerTake 0, .readerDeliver 0, .readerTake 0,
    .readerDeliver 0, .channelTake 1, .channelTake 2]

end ReplyNet

end GoTor.Relay
