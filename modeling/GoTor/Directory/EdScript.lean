import Mathlib.Tactic.Linarith

/-!
# Limited ed scripts

A consensus diff is a list of the commands `d`, `c` and `a` of ed, from the end of the document to
its start.  `applyEdCommand` works on the lines as they are after the commands before it;
`applyToOriginal` says what a list of commands means when every number is one of the original
document.  `checkEdReverseOrder` is to make the two the same.
-/

namespace GoTor.Directory

open List

inductive EdOp
  | d
  | c
  | a
  deriving DecidableEq

/-- `edCommand`.  `parseEdRange` takes `$` for the end of a deletion only. -/
structure EdCommand (α : Type) where
  op : EdOp
  n1 : ℤ
  n2 : ℤ := n1
  endToEOF : Bool := false
  block : List α := []
  op_of_end : endToEOF = true → op = .d := by decide
  deriving DecidableEq

variable {α : Type}

/-! ### One command after the other -/

def checkEdSpan (n : ℕ) (n1 n2 : ℤ) : Bool := !(n1 < 1 || n2 < n1 || n2 > n)

def spliceLines (lines : List α) (n1 n2 : ℤ) (insert : List α) : List α :=
  lines.take (n1 - 1).toNat ++ insert ++ lines.drop n2.toNat

def applyEdCommand (lines : List α) (cmd : EdCommand α) : Option (List α) :=
  if cmd.endToEOF = true ∧
      (cmd.n1 > lines.length + 1 ∨ cmd.n1 > lines.length ∧ 0 < lines.length) then none
  else if cmd.endToEOF = true ∧ cmd.n1 > lines.length then some lines
  else
    let n2 := if cmd.endToEOF then (lines.length : ℤ) else cmd.n2
    match cmd.op with
    | .d =>
      if checkEdSpan lines.length cmd.n1 n2 then some (spliceLines lines cmd.n1 n2 []) else none
    | .c =>
      if checkEdSpan lines.length cmd.n1 n2 then some (spliceLines lines cmd.n1 n2 cmd.block)
      else none
    | .a =>
      if cmd.n1 < 0 ∨ cmd.n1 > lines.length then none
      else some (lines.take cmd.n1.toNat ++ cmd.block ++ lines.drop cmd.n1.toNat)

/-- The loop of `applyConsensusDiff`. -/
def applyEdCommands (lines : List α) (cmds : List (EdCommand α)) : Option (List α) :=
  cmds.foldlM applyEdCommand lines

/-- The last line that a command concerns, in a document of `origLen` lines. -/
def EdCommand.last (cmd : EdCommand α) (origLen : ℕ) : ℤ :=
  if cmd.endToEOF then origLen else if cmd.op = .a then cmd.n1 else cmd.n2

/-- The last line that a command behind this one may concern. -/
def EdCommand.front (cmd : EdCommand α) : ℤ := if cmd.op = .a then cmd.n1 else cmd.n1 - 1

/-- The loop of `checkEdReverseOrder`. -/
def inReverseOrder (origLen : ℕ) : (j : ℤ) → List (EdCommand α) → Bool
  | _, [] => true
  | j, cmd :: cmds => if cmd.last origLen > j then false else inReverseOrder origLen cmd.front cmds

def checkEdReverseOrder (cmds : List (EdCommand α)) (origLen : ℕ) : Bool :=
  inReverseOrder origLen origLen cmds

/-! ### All commands on the original -/

/-- The numbers of a command are numbers of lines of the document.  (`1,$d` is taken on an empty
document, and does nothing.) -/
def EdCommand.Fits (cmd : EdCommand α) (origLen : ℕ) : Prop :=
  0 ≤ cmd.front ∧ cmd.front ≤ cmd.last origLen ∧ cmd.last origLen ≤ origLen ∧
    (cmd.front = cmd.last origLen → cmd.op = .a ∨ cmd.endToEOF = true ∧ origLen = 0)

instance (cmd : EdCommand α) (origLen : ℕ) : Decidable (cmd.Fits origLen) :=
  inferInstanceAs (Decidable (_ ∧ _ ∧ _ ∧ (_ → _)))

/-- What stands in the place of the lines that a command covers. -/
def EdCommand.text (cmd : EdCommand α) : List α := if cmd.op = .d then [] else cmd.block

/-- What becomes of the first `j` lines of the document: those that no command covers are kept, and
the text of a command stands in the place of the lines behind its front up to its last. -/
def originalLines (doc : List α) : (j : ℕ) → List (EdCommand α) → List α
  | j, [] => doc.take j
  | j, cmd :: cmds =>
    originalLines doc cmd.front.toNat cmds ++ cmd.text ++ (doc.take j).drop (cmd.last doc.length).toNat

/-- The result of commands in reverse order, each at the line numbers of the original document. -/
def applyToOriginal (doc : List α) (cmds : List (EdCommand α)) : Option (List α) :=
  if ∀ cmd ∈ cmds, cmd.Fits doc.length then some (originalLines doc doc.length cmds) else none

/-- No command that ends in `$` stands behind one that appends lines after the last line. -/
def NoEndAfterAppend (n : ℕ) (cmds : List (EdCommand α)) : Prop :=
  cmds.Pairwise fun c d => c.op = .a → c.n1 = (n : ℤ) → c.block ≠ [] → d.endToEOF = false

instance [DecidableEq α] (n : ℕ) (cmds : List (EdCommand α)) : Decidable (NoEndAfterAppend n cmds) :=
  inferInstanceAs (Decidable (List.Pairwise _ _))

/-! ### One command -/

open EdCommand

section Command

variable {doc rest : List α} {cmd : EdCommand α} {n j : ℕ}

lemma checkEdSpan_iff {n1 n2 : ℤ} : checkEdSpan n n1 n2 = true ↔ 1 ≤ n1 ∧ n1 ≤ n2 ∧ n2 ≤ n := by
  simp only [checkEdSpan, Bool.not_eq_true', Bool.or_eq_false_iff, decide_eq_false_iff_not]
  omega

lemma EdCommand.end_of_append (cmd : EdCommand α) (h : cmd.op = .a) : cmd.endToEOF = false := by
  by_contra hend
  have := cmd.op_of_end (by simpa using hend)
  rw [h] at this
  cases this

lemma EdCommand.front_of_append (h : cmd.op = .a) : cmd.front = cmd.n1 := if_pos h

lemma EdCommand.front_of_ne (h : cmd.op ≠ .a) : cmd.front = cmd.n1 - 1 := if_neg h

lemma EdCommand.last_of_append (h : cmd.op = .a) : cmd.last n = cmd.n1 := by
  rw [last, cmd.end_of_append h, if_neg (by decide), if_pos h]

lemma EdCommand.last_of_end (h : cmd.endToEOF = true) : cmd.last n = n := if_pos h

lemma EdCommand.last_of_ne (h : cmd.op ≠ .a) (hend : cmd.endToEOF = false) : cmd.last n = cmd.n2 := by
  rw [last, hend, if_neg (by decide), if_neg h]

/-- **One command**: it is taken iff its numbers are numbers of lines that are there, and puts its
text in the place of the lines behind its front up to its last. -/
theorem applyEdCommand_eq (lines : List α) (cmd : EdCommand α) : applyEdCommand lines cmd =
      if cmd.Fits lines.length then some (lines.take cmd.front.toNat ++ cmd.text ++
        lines.drop (cmd.last lines.length).toNat)
      else none := by
  unfold applyEdCommand
  cases hend : cmd.endToEOF with
  | true =>
    -- `$` stands only with `d`
    have hop : cmd.op = .d := cmd.op_of_end hend
    simp only [EdCommand.Fits, text, last_of_end hend,
      front_of_ne (show cmd.op ≠ .a by simp [hop]), hop, hend, true_and, reduceCtorEq,
      false_or, if_true, checkEdSpan_iff, spliceLines, append_nil, Int.toNat_natCast,
      drop_length]
    split
    · rw [if_neg (by omega)]
    · split
      next hgt hone =>
        have hnil : lines.length = 0 := by omega
        rw [if_pos (by omega), eq_nil_of_length_eq_zero hnil, take_nil]
      · by_cases hspan : 1 ≤ cmd.n1
        · rw [if_pos (by omega), if_pos (by omega)]
        · rw [if_neg (by omega), if_neg (by omega)]
  | false =>
    simp only [Bool.false_eq_true, false_and, if_false]
    by_cases hop : cmd.op = .a
    · simp only [EdCommand.Fits, text, last_of_append hop, front_of_append hop, hop, reduceCtorEq, if_false]
      by_cases hrange : cmd.n1 < 0 ∨ cmd.n1 > lines.length
      · rw [if_pos hrange, if_neg (by omega)]
      · rw [if_neg hrange, if_pos (by simp; omega)]
    have hfits : cmd.Fits lines.length ↔ checkEdSpan lines.length cmd.n1 cmd.n2 = true := by
      rw [EdCommand.Fits, front_of_ne hop, last_of_ne hop hend, hend, checkEdSpan_iff]
      simp only [hop, Bool.false_eq_true, false_and, or_self, imp_false]
      omega
    simp only [hfits, front_of_ne hop, last_of_ne hop hend]
    cases hcmd : cmd.op with
    | d => simp only [text, hcmd, spliceLines, if_true]
    | c => simp only [text, hcmd, spliceLines, reduceCtorEq, if_false]
    | a => exact absurd hcmd hop

end Command

/-! ### Whole scripts -/

section Scripts

variable {doc rest : List α} {cmds : List (EdCommand α)} {n j : ℕ}

/-- Every command finds the lines it names; `n` lines are there for the first one. -/
def runsThrough : (n : ℕ) → List (EdCommand α) → Prop
  | _, [] => True
  | n, cmd :: cmds => cmd.Fits n ∧
      runsThrough (cmd.front.toNat + cmd.text.length + (n - (cmd.last n).toNat)) cmds

lemma isSome_applyEdCommands (lines : List α) (cmds : List (EdCommand α)) :
    (applyEdCommands lines cmds).isSome = true ↔ runsThrough lines.length cmds := by
  induction cmds generalizing lines with
  | nil => simp [applyEdCommands, runsThrough]
  | cons cmd cmds ih =>
    rw [applyEdCommands, foldlM_cons, applyEdCommand_eq, runsThrough]
    split
    next hfits =>
      have ⟨hfront, hle, hlast, _⟩ := hfits
      refine (ih _).trans ?_
      have hlen : (lines.take cmd.front.toNat ++ cmd.text ++ lines.drop (cmd.last lines.length).toNat).length =
            cmd.front.toNat + cmd.text.length + (lines.length - (cmd.last lines.length).toNat) := by
        simp only [length_append, length_take, length_drop]
        omega
      rw [hlen, and_iff_right hfits]
    next hfits => simp [hfits]

variable {cmd : EdCommand α}

lemma inReverseOrder_cons {j : ℤ} :
    inReverseOrder n j (cmd :: cmds) = true ↔
      cmd.last n ≤ j ∧ inReverseOrder n cmd.front cmds = true := by
  rw [inReverseOrder]
  split
  next h => simp; omega
  next h => simp; omega

lemma end_of_order {j : ℤ} (hfits : ∀ cmd ∈ cmds, cmd.Fits n)
    (horder : inReverseOrder n j cmds = true) (hend : cmds.any endToEOF = true) :
    n ≤ j := by
  induction cmds generalizing j with
  | nil => cases hend
  | cons cmd cmds ih =>
    obtain ⟨hlast, horder⟩ := inReverseOrder_cons.1 horder
    cases hcmd : cmd.endToEOF with
    | true =>
      rwa [last_of_end hcmd] at hlast
    | false =>
      rw [any_cons, hcmd] at hend
      have := ih (fun c hc => hfits c (mem_cons_of_mem _ hc)) horder hend
      have := (hfits cmd mem_cons_self).2.1
      omega

lemma noEndAfterAppend_cons :
    NoEndAfterAppend n (cmd :: cmds) ↔
      (cmd.op = .a → cmd.n1 = (n : ℤ) → cmd.block ≠ [] → cmds.any endToEOF = false) ∧ NoEndAfterAppend n cmds := by
  rw [NoEndAfterAppend, pairwise_cons]
  simp only [any_eq_false, Bool.not_eq_true]
  tauto

lemma EdCommand.Fits.extend (h : cmd.Fits n) (hlast : cmd.last n ≤ j) (hj : j ≤ n) {t : ℕ} : cmd.Fits (j + t) := by
  obtain ⟨hfront, hle, hlen, hopen⟩ := h
  cases hend : cmd.endToEOF with
  | true =>
    rw [EdCommand.Fits, last_of_end hend]
    refine ⟨hfront, by omega, le_rfl, fun h => .inr ⟨hend, ?_⟩⟩
    have := (hopen (by omega)).resolve_left (by simp [cmd.op_of_end hend])
    omega
  | false =>
    have hsame : cmd.last (j + t) = cmd.last n := by simp [last, hend]
    rw [EdCommand.Fits, hsame]
    exact ⟨hfront, hle, by omega, fun h => .inl ((hopen h).resolve_right (by simp [hend]))⟩

/-- **Commands that fit the document.**  On lines of which the first `j` are those of the document
they give what they say of the original, less the lines behind the document that a `$` reaches. -/
theorem apply_of_fits (hfits : ∀ cmd ∈ cmds, cmd.Fits doc.length) (hj : j ≤ doc.length)
    (horder : inReverseOrder doc.length j cmds = true) (rest : List α) :
    ∃ out lost, applyEdCommands (doc.take j ++ rest) cmds = some out ∧
      originalLines doc j cmds ++ rest = out ++ lost ∧
      (lost = [] ↔ (rest = [] ∨ cmds.any endToEOF = false) ∧ NoEndAfterAppend doc.length cmds) := by
  induction cmds generalizing j rest with
  | nil => exact ⟨_, [], rfl, by simp [originalLines], by simp [NoEndAfterAppend]⟩
  | cons cmd cmds ih =>
    obtain ⟨hlast, hnext⟩ := inReverseOrder_cons.1 horder
    obtain ⟨hfit, hfits⟩ := forall_mem_cons.1 hfits
    have hlen : (doc.take j ++ rest).length = j + rest.length := by
      rw [length_append, length_take_of_le hj]
    have happly := applyEdCommand_eq (doc.take j ++ rest) cmd
    rw [hlen, if_pos (hfit.extend hlast hj)] at happly
    obtain ⟨hfront, hle, hend_le, hopen⟩ := hfit
    rw [← Int.toNat_of_nonneg hfront] at hnext
    rw [take_append_of_le_length (by rw [length_take_of_le hj]; omega), take_take,
      Nat.min_eq_left (by omega)] at happly
    rw [applyEdCommands, foldlM_cons, happly, originalLines, noEndAfterAppend_cons, any_cons]
    cases hend : cmd.endToEOF with
    | true =>
      -- what stands behind the document is deleted with it
      rw [last_of_end hend] at hlast
      have htext : cmd.text = [] := by rw [text, if_pos (cmd.op_of_end hend)]
      obtain ⟨out, lost, hout, horig, hlost⟩ := ih hfits (by omega) hnext []
      refine ⟨out, lost ++ rest, ?_, ?_, ?_⟩
      · rw [last_of_end hend, htext, Int.toNat_natCast, ← hlen, drop_length, append_nil]
        exact hout
      · rw [last_of_end hend, htext, ← append_assoc, ← horig]
        simp
      · rw [append_eq_nil_iff, hlost]
        simp [cmd.op_of_end hend, and_comm]
    | false =>
      have hsame : cmd.last (j + rest.length) = cmd.last doc.length := by simp [last, hend]
      obtain ⟨out, lost, hout, horig, hlost⟩ := ih hfits (by omega) hnext
        (cmd.text ++ (doc.take j).drop (cmd.last doc.length).toNat ++ rest)
      refine ⟨out, lost, ?_, ?_, ?_⟩
      · rw [hsame, drop_append_of_le_length (by rw [length_take_of_le hj]; omega)]
        simpa [applyEdCommands] using hout
      · rw [← horig]
        simp
      rw [hlost]
      cases hany : cmds.any endToEOF with
      | false => simp
      | true =>
        -- a deletion to the end follows, so that this command appends behind the last line
        have hn := end_of_order hfits hnext hany
        have hop : cmd.op = .a := (hopen (by omega)).resolve_right (by simp [hend])
        rw [last_of_append hop] at *
        have hn1 : cmd.n1 = (doc.length : ℤ) := by omega
        simp only [text, hop, hn1]
        simp
        tauto

/-- **In reverse order the checks on the running lines are those on the original**, as long as no
`$` reaches lines that have been appended. -/
theorem fits_of_runsThrough {t : ℕ} (hj : j ≤ n) (horder : inReverseOrder n j cmds = true)
    (hruns : runsThrough (j + t) cmds) (hclean : NoEndAfterAppend n cmds)
    (htail : t ≠ 0 → cmds.any endToEOF = true → j < n) :
    ∀ cmd ∈ cmds, cmd.Fits n := by
  induction cmds generalizing j t with
  | nil => simp
  | cons cmd cmds ih =>
    obtain ⟨hlast, horder⟩ := inReverseOrder_cons.1 horder
    obtain ⟨⟨hfront, hle, hlen, hopen⟩, hruns⟩ := hruns
    obtain ⟨hhead, hclean⟩ := noEndAfterAppend_cons.1 hclean
    rw [← Int.toNat_of_nonneg hfront] at horder
    rw [Nat.add_assoc] at hruns
    cases hend : cmd.endToEOF with
    | true =>
      rw [last_of_end hend] at hlast hle hopen hruns
      -- nothing has been appended yet, so `$` is the last line of the document
      have ht : t = 0 := by
        by_contra ht
        have := htail ht (by simp [hend])
        omega
      subst ht
      obtain rfl : j = n := by omega
      refine forall_mem_cons.2 ⟨?_, ih (by omega) horder hruns hclean fun h => ?_⟩
      · rw [EdCommand.Fits, last_of_end hend]
        exact ⟨hfront, hle, le_rfl, hopen⟩
      · have htext : cmd.text = [] := by rw [text, if_pos (cmd.op_of_end hend)]
        rw [htext] at h
        simp at h
    | false =>
      have hsame : cmd.last (j + t) = cmd.last n := by simp [last, hend]
      rw [hsame] at hle hopen hruns
      have hop : cmd.front = cmd.last n → cmd.op = .a := fun h =>
        (hopen h).resolve_right (by simp [hend])
      refine forall_mem_cons.2 ⟨⟨hfront, hle, by omega, fun h => .inl (hop h)⟩,
        ih (by omega) horder hruns hclean fun ht hany => ?_⟩
      by_contra hge
      have hop := hop (by omega)
      rw [last_of_append hop] at *
      -- a command with `$` would follow an append
      have hblock : cmd.block = [] := by
        by_contra hne
        rw [hhead hop (by omega) hne] at hany
        cases hany
      simp only [text, hop, reduceCtorEq, if_false, hblock, length_nil] at ht
      have := htail (by omega) (by simp [hany])
      omega

/-- **When the two readings agree.**  A list of commands in reverse order that runs through gives on
the running lines what it says of the original numbering iff no `$` stands behind an append after the
last line; one that does not run through does not fit the original either. -/
theorem sequential_eq_original_iff (doc : List α) (cmds : List (EdCommand α))
    (horder : checkEdReverseOrder cmds doc.length = true) :
    applyEdCommands doc cmds = applyToOriginal doc cmds ↔
      (runsThrough doc.length cmds → NoEndAfterAppend doc.length cmds) := by
  rw [← isSome_applyEdCommands]
  by_cases hfits : ∀ cmd ∈ cmds, cmd.Fits doc.length
  · obtain ⟨out, lost, hout, horig, hlost⟩ := apply_of_fits hfits le_rfl horder []
    rw [take_length, append_nil] at hout
    rw [append_nil] at horig
    rw [applyToOriginal, if_pos hfits, hout, horig, Option.some.injEq, self_eq_append_right, hlost]
    simp
  · rw [applyToOriginal, if_neg hfits, ← Option.not_isSome_iff_eq_none]
    refine ⟨fun hnone hsome => absurd hsome hnone, fun hclean hsome => hfits ?_⟩
    exact fits_of_runsThrough (t := 0) le_rfl horder ((isSome_applyEdCommands doc cmds).1 hsome)
      (hclean hsome) fun h => absurd rfl h

theorem sequential_eq_original_three :
    let cmds : List (EdCommand String) := [{ op := .d, n1 := 3, n2 := 0, endToEOF := true },
      { op := .a, n1 := 2, block := ["v"] }, { op := .c, n1 := 1, block := ["w"] }]
    applyEdCommands ["x", "y", "z"] cmds = applyToOriginal ["x", "y", "z"] cmds :=
  (sequential_eq_original_iff _ _ (by decide)).2 fun _ => by decide

/-- `1a` and `1,$d` on one line are in reverse order; the deletion takes the line appended with it,
which is no line of the original. -/
theorem end_deletes_appended :
    let cmds : List (EdCommand String) := [{ op := .a, n1 := 1, block := ["y"] },
      { op := .d, n1 := 1, n2 := 0, endToEOF := true }]
    checkEdReverseOrder cmds 1 = true ∧ applyEdCommands ["x"] cmds = some [] ∧
      applyToOriginal ["x"] cmds = some ["y"] := by
  decide

end Scripts

end GoTor.Directory
