/-
The rows of an accepted run go to four files.

The code drops the results of its calls to the operating system, so that the rows are appended
together only where every answer is the good one.
-/
import ManetOlsr.Model.StagedPromotion

namespace ManetOlsr

namespace Harness

variable (h : Harness) (calls : StagedTable → SystemCalls)

/-- The rows of the run are appended to its files together, or nothing is and they stay staged.  A
table without a path has no file. -/
def AllOrNothing : Prop :=
  (∀ t, h.path t ≠ "" → (h.promoteStagedRows calls).rows t = h.body t) ∨
    (∀ t, (h.promoteStagedRows calls).rows t = []) ∧
      (h.promoteStagedRows calls).harness.staging = h.staging

end Harness

/-! ### One file -/

namespace SystemCalls

/-- The body is written in full. -/
def Completes (calls : SystemCalls) (body : Bytes) : Prop :=
  calls.openSucceeds = true ∧ calls.flockSucceeds = true ∧
    body.length ≤ calls.bodyWrite.getD 0

/-- Nothing of the body is written. -/
def TakesNothing (calls : SystemCalls) : Prop :=
  calls.openSucceeds = false ∨ calls.flockSucceeds = false ∨ calls.bodyWrite.getD 0 = 0

end SystemCalls

section AppendUnderLock

variable {path : String} {header body : Bytes} {calls : SystemCalls} {files : Files}

/-- How much of the body is written does not depend on the files. -/
lemma appendUnderLock_rows :
    (appendUnderLock path header body calls files).rows =
      if path = "" ∨ calls.openSucceeds = false ∨ calls.flockSucceeds = false then []
      else written body calls.bodyWrite := by
  unfold appendUnderLock
  by_cases hpath : path = ""
  · simp only [hpath, true_or, if_true]
  by_cases hbody : body = []
  · subst hbody
    simp only [or_true, if_true, written, List.take_nil, ite_self]
  rw [if_neg (not_or.mpr ⟨hpath, hbody⟩)]
  cases calls.openSucceeds <;> cases calls.flockSucceeds <;> simp [hpath]

lemma appendUnderLock_rows_eq_body_iff (hpath : path ≠ "") :
    (appendUnderLock path header body calls files).rows = body ↔
      body = [] ∨ calls.Completes body := by
  rw [appendUnderLock_rows, SystemCalls.Completes]
  by_cases hfail : path = "" ∨ calls.openSucceeds = false ∨ calls.flockSucceeds = false
  · rw [if_pos hfail]
    constructor
    · intro hnil
      exact Or.inl hnil.symm
    · rintro (hnil | ⟨hopen, hflock, -⟩)
      · exact hnil.symm
      · rcases hfail with hempty | hclosed | hunlocked
        · exact absurd hempty hpath
        · exact absurd (hopen.symm.trans hclosed) (by decide)
        · exact absurd (hflock.symm.trans hunlocked) (by decide)
  · rw [if_neg hfail, written, List.take_eq_self_iff]
    rw [not_or, not_or, Bool.not_eq_false, Bool.not_eq_false] at hfail
    obtain ⟨-, hopen, hflock⟩ := hfail
    constructor
    · intro hle
      exact Or.inr ⟨hopen, hflock, hle⟩
    · rintro (rfl | ⟨-, -, hle⟩)
      · exact Nat.zero_le _
      · exact hle

lemma appendUnderLock_rows_eq_nil_iff (hbody : body ≠ []) :
    (appendUnderLock path header body calls files).rows = [] ↔
      path = "" ∨ calls.TakesNothing := by
  rw [appendUnderLock_rows, SystemCalls.TakesNothing]
  by_cases hfail : path = "" ∨ calls.openSucceeds = false ∨ calls.flockSucceeds = false
  · rw [if_pos hfail]
    tauto
  · rw [if_neg hfail, written, List.take_eq_nil_iff]
    tauto

variable (path header body calls files) in
/-- A file holds what it held, with a part of the header line and what was written of the rows. -/
lemma appendUnderLock_content :
    ∃ headerPart, headerPart <+: header ++ [newline] ∧
      ((appendUnderLock path header body calls files).files path).getD [] =
        (files path).getD [] ++ headerPart ++
          (appendUnderLock path header body calls files).rows := by
  have hnothing : ∀ {content : Bytes}, content = (files path).getD [] →
      ∃ headerPart, headerPart <+: header ++ [newline] ∧
        content = (files path).getD [] ++ headerPart ++ [] := by
    rintro content rfl
    exact ⟨[], List.nil_prefix, by simp⟩
  unfold appendUnderLock
  split
  · exact hnothing rfl
  split
  · exact hnothing rfl
  dsimp only
  split
  · refine hnothing ?_
    dsimp only
    rw [Function.update_self, Option.getD_some]
  · refine ⟨if ((files path).getD []).length = 0 ∧ header ≠ [] then
      written (header ++ [newline]) calls.headerWrite else [], ?_, ?_⟩
    · split
      · exact List.take_prefix _ _
      · exact List.nil_prefix
    · dsimp only
      rw [Function.update_self, Option.getD_some]

/-- The other files are left alone. -/
lemma appendUnderLock_files_of_ne {path' : String} (hne : path' ≠ path) :
    (appendUnderLock path header body calls files).files path' = files path' := by
  unfold appendUnderLock
  split
  · rfl
  split
  · rfl
  dsimp only
  split
  · exact Function.update_of_ne hne _ _
  · exact Function.update_of_ne hne _ _

end AppendUnderLock

/-! ### The promotion -/

namespace Harness

variable {h : Harness} {calls : StagedTable → SystemCalls} {t : StagedTable} {p : Promotion}

/-- What a promotion has done with the tables that it has come to. -/
structure Promoted (h : Harness) (calls : StagedTable → SystemCalls) (ts : List StagedTable)
    (p : Promotion) : Prop where
  same : p.harness = { h with files := p.harness.files }
  rows : ∀ t ∈ ts, ∃ files,
    p.rows t = (appendUnderLock (h.path t) (h.header t) (h.body t) (calls t) files).rows

/-- The file of a table holds its rows, after a part of the header line. -/
def Stored (h : Harness) (p : Promotion) (t : StagedTable) : Prop :=
  ∃ headerPart, headerPart <+: h.header t ++ [newline] ∧
    (p.harness.files (h.path t)).getD [] =
      (h.files (h.path t)).getD [] ++ headerPart ++ p.rows t

lemma Promoted.append {ts : List StagedTable} (hp : Promoted h calls ts p) (t : StagedTable) :
    Promoted h calls (t :: ts) (p.append t (calls t)) := by
  have hpath : p.harness.path = h.path := by rw [hp.same]
  have hheader : p.harness.header = h.header := by rw [hp.same]
  have hbody : p.harness.body = h.body := by
    rw [hp.same]
    rfl
  refine ⟨?_, ?_⟩
  · unfold Promotion.append
    dsimp only
    rw [hp.same]
  · intro t' ht'
    by_cases heq : t' = t
    · subst heq
      refine ⟨p.harness.files, ?_⟩
      rw [← hpath, ← hheader, ← hbody]
      exact Function.update_self _ _ _
    · obtain ⟨files, hrows⟩ := hp.rows t' (List.mem_of_ne_of_mem heq ht')
      refine ⟨files, ?_⟩
      rw [← hrows]
      exact Function.update_of_ne heq _ _

/-- With a file of its own for every table, a file holds its rows after the table's turn. -/
lemma Promoted.content_append {ts : List StagedTable} (hp : Promoted h calls ts p)
    (hpaths : Function.Injective h.path) (ht : t ∉ ts)
    (hcontent : ∀ t', (t' ∈ ts → h.Stored p t') ∧
      (t' ∉ ts → p.harness.files (h.path t') = h.files (h.path t'))) (t' : StagedTable) :
    (t' ∈ t :: ts → h.Stored (p.append t (calls t)) t') ∧
      (t' ∉ t :: ts → (p.append t (calls t)).harness.files (h.path t') = h.files (h.path t')) := by
  have hpath : p.harness.path = h.path := by rw [hp.same]
  have hheader : p.harness.header = h.header := by rw [hp.same]
  by_cases heq : t' = t
  · subst heq
    refine ⟨fun _ => ?_, fun hnot => absurd List.mem_cons_self hnot⟩
    obtain ⟨headerPart, hprefix, hfile⟩ := appendUnderLock_content (h.path t')
      (h.header t') (p.harness.body t') (calls t') p.harness.files
    refine ⟨headerPart, hprefix, ?_⟩
    have hrows : (p.append t' (calls t')).rows t' = (appendUnderLock (h.path t') (h.header t')
        (p.harness.body t') (calls t') p.harness.files).rows := by
      rw [← hpath, ← hheader]
      exact Function.update_self _ _ _
    have hfiles : (p.append t' (calls t')).harness.files = (appendUnderLock (h.path t')
        (h.header t') (p.harness.body t') (calls t') p.harness.files).files := by
      rw [← hpath, ← hheader]
      rfl
    rw [hrows, hfiles, hfile, (hcontent t').2 ht]
  · have hother : (p.append t (calls t)).harness.files (h.path t') =
        p.harness.files (h.path t') := by
      refine appendUnderLock_files_of_ne ?_
      rw [hpath]
      exact hpaths.ne heq
    refine ⟨fun hmem => ?_, fun hnot => ?_⟩
    · obtain ⟨headerPart, hprefix, hfile⟩ := (hcontent t').1 (List.mem_of_ne_of_mem heq hmem)
      refine ⟨headerPart, hprefix, ?_⟩
      rw [hother, hfile]
      congr 1
      exact (Function.update_of_ne heq _ _).symm
    · rw [hother]
      exact (hcontent t').2 fun hmem => hnot (List.mem_cons_of_mem _ hmem)

variable (calls) in
/-- An accepted run tries every table and clears the staging buffers. -/
lemma promoteStagedRows_spec (haccepted : h.runRejected = false) :
    (h.promoteStagedRows calls).harness.staging = {} ∧
    ∀ t, ∃ files, (h.promoteStagedRows calls).rows t =
      (appendUnderLock (h.path t) (h.header t) (h.body t) (calls t) files).rows := by
  have hstart : Promoted h calls [] { harness := h } := ⟨rfl, by simp⟩
  have hall := (((hstart.append .features).append .labels).append .oracle).append .runs
  rw [promoteStagedRows, haccepted]
  refine ⟨rfl, fun t => hall.rows t ?_⟩
  cases t <;> decide

/-- The rows are what the files have got, where every table has a file of its own. -/
lemma promoteStagedRows_stored (hpaths : Function.Injective h.path)
    (haccepted : h.runRejected = false) (t : StagedTable) :
    h.Stored (h.promoteStagedRows calls) t := by
  have hstart : Promoted h calls [] { harness := h } := ⟨rfl, by simp⟩
  have h₁ := hstart.append .features
  have h₂ := h₁.append .labels
  have h₃ := h₂.append .oracle
  have hcontent := h₃.content_append (t := .runs) hpaths (by decide)
    (h₂.content_append hpaths (by decide)
      (h₁.content_append hpaths (by decide)
        (hstart.content_append hpaths (by decide) (by simp))))
  rw [promoteStagedRows, haccepted]
  refine (hcontent t).1 ?_
  cases t <;> decide

/-- **When the promotion is atomic.**  The rows of a run are appended together, or not at all and
kept, exactly if the run is rejected, or every file with rows to append is opened, locked and
written in full, or nothing was staged and nothing of the row of the run is written. -/
theorem allOrNothing_iff (h : Harness) (calls : StagedTable → SystemCalls) :
    h.AllOrNothing calls ↔
      h.runRejected = true ∨
      (∀ t, h.path t ≠ "" → h.body t ≠ [] → (calls t).Completes (h.body t)) ∨
      h.staging = {} ∧ (calls .runs).TakesNothing := by
  cases haccepted : h.runRejected with
  | true =>
    refine iff_of_true (Or.inr ⟨?_, ?_⟩) (Or.inl rfl)
    · intro t
      rw [promoteStagedRows, haccepted]
      rfl
    · rw [promoteStagedRows, haccepted]
      rfl
  | false =>
    obtain ⟨hcleared, hrows⟩ := promoteStagedRows_spec calls haccepted
    have hcomplete : ∀ t, h.path t ≠ "" → ((h.promoteStagedRows calls).rows t = h.body t ↔
        (h.body t ≠ [] → (calls t).Completes (h.body t))) := by
      intro t ht
      obtain ⟨files, hfiles⟩ := hrows t
      rw [hfiles, appendUnderLock_rows_eq_body_iff ht, or_iff_not_imp_left]
    have hrunsBody : h.body .runs ≠ [] := by simp [body]
    have hruns : (h.promoteStagedRows calls).rows .runs = [] ↔
        h.path .runs = "" ∨ (calls .runs).TakesNothing := by
      obtain ⟨files, hfiles⟩ := hrows .runs
      rw [hfiles, appendUnderLock_rows_eq_nil_iff hrunsBody]
    -- with nothing staged, only the row of the run is left to be appended
    have hbodies : h.staging = {} → ∀ t, t ≠ .runs → h.body t = [] := by
      intro hempty t ht
      cases t with
      | runs => exact absurd rfl ht
      | _ =>
        unfold body
        rw [hempty]
        rfl
    rw [AllOrNothing, hcleared]
    constructor
    · rintro (hall | ⟨hnone, hkept⟩)
      · exact Or.inr (Or.inl fun t ht => (hcomplete t ht).mp (hall t ht))
      · rcases hruns.mp (hnone .runs) with hpath | hnothing
        · refine Or.inr (Or.inl fun t ht hne => absurd (hbodies hkept.symm t ?_) hne)
          rintro rfl
          exact ht hpath
        · exact Or.inr (Or.inr ⟨hkept.symm, hnothing⟩)
    · rintro (hfalse | hall | ⟨hempty, hnothing⟩)
      · exact absurd hfalse (by decide)
      · exact Or.inl fun t ht => (hcomplete t ht).mpr (hall t ht)
      · refine Or.inr ⟨?_, hempty.symm⟩
        intro t
        by_cases ht : t = .runs
        · rw [ht]
          exact hruns.mpr (Or.inr hnothing)
        · obtain ⟨files, hfiles⟩ := hrows t
          rw [hfiles, hbodies hempty t ht, appendUnderLock_rows, written, List.take_nil, ite_self]

/-- An accepted run with one row for each table. -/
def sampleHarness : Harness where
  runRejected := false
  path
    | .features => "features.csv"
    | .labels => "labels.csv"
    | .oracle => "oracle.csv"
    | .runs => "runs.csv"
  header := fun _ => [114]
  runsColumns := [55]
  staging := { featureRows := [[49, 10]], labelRows := [[50, 10]], oracleRows := [[51, 10]] }
  files := fun _ => none

/-- Only the file of the oracle rows cannot be opened. -/
def oracleClosed (t : StagedTable) : SystemCalls where
  openSucceeds := t ≠ .oracle
  flockSucceeds := true
  headerWrite := some 2
  bodyWrite := some 2

/-- The other three rows are appended, and the oracle row is gone. -/
theorem sampleHarness_not_allOrNothing : ¬ sampleHarness.AllOrNothing oracleClosed := by
  rintro (hall | ⟨hnone, -⟩)
  · exact absurd (hall .oracle (by decide)) (by decide)
  · exact absurd (hnone .features) (by decide)

end Harness

end ManetOlsr
