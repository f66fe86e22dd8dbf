import Continuity.Proofs.Data.Lists
import Continuity.Proofs.Report.Collector
import Continuity.Proofs.Report.Tally

/-! # What a report says

The report on what a collector was called for has every finding once, in order, and counts what it
has. In which order the findings came makes no difference, provided that findings which are the
same do not differ in anything.
-/

namespace Continuity

namespace Report

/-- A report gives an account of issues that came in this order: it has them all in order, those of
one place as they came, and what else it says fits what it has. -/
structure IsAccount (r : Report) (failOn : FailOn) (cancelled : Bool) (issues : List Issue) :
    Prop where
  complete : r.issues.Perm issues
  sorted : r.issues.Pairwise fun a b => a.rank.compare b.rank ≠ .gt
  stable : ∀ rank, r.issues.filter (·.rank == rank) = issues.filter (·.rank == rank)
  errors : ∀ i ∈ r.errors, i.severity = .error
  warnings : ∀ i ∈ r.warnings, i.severity = .warning
  info : ∀ i ∈ r.info, i.severity = .info
  bySeverity : r.counts.bySeverity =
    Severity.all.map fun s => (s, r.issues.countP (·.severity == s))
  byValidator : IssueCounts.IsTally r.counts.byValidator (r.issues.map (·.validator))
  byFile : IssueCounts.IsTally r.counts.byFile (r.issues.map fun i => i.file.getD "")
  sum_bySeverity : (r.counts.bySeverity.map (·.2)).sum = r.total
  sum_byValidator : (r.counts.byValidator.map (·.2)).sum = r.total
  sum_byFile : (r.counts.byFile.map (·.2)).sum = r.total
  valid : r.valid = true ↔ cancelled = false ∧ ∀ threshold, failOn.threshold = some threshold →
    ∀ i ∈ r.issues, i.severity.atLeast threshold = false
  exitCode : r.exitCode = if cancelled then 130 else if r.valid then 0 else 1

variable {failOn : FailOn} {cancelled : Bool} {issues issues' : List Issue}

theorem issues_ofIssues : (ofIssues failOn cancelled issues).issues = Issue.sort issues := by
  have hsorted := List.pairwise_mergeSort Issue.le_trans Issue.le_total issues
  exact Issue.filter_severity_append (hsorted.imp Issue.severity_of_le)

theorem total_eq (r : Report) : r.total = r.issues.length := by
  rw [total, issues, List.length_append, List.length_append]

theorem fails_eq_false : fails failOn issues = false ↔
    ∀ threshold, failOn.threshold = some threshold →
      ∀ i ∈ issues, i.severity.atLeast threshold = false := by
  unfold fails
  cases failOn.threshold with
  | none => simp
  | some threshold => simp

theorem sum_bySeverity (issues : List Issue) :
    ((IssueCounts.ofIssues issues).bySeverity.map (·.2)).sum = issues.length := by
  induction issues with
  | nil => rfl
  | cons i rest ih =>
      simp only [IssueCounts.ofIssues, Severity.all, List.map_cons, List.map_nil, List.sum_cons,
        List.sum_nil, List.countP_cons, List.length_cons] at ih ⊢
      rw [← ih]
      cases i.severity <;> simp <;> omega

theorem isAccount_ofIssues (failOn : FailOn) (cancelled : Bool) (issues : List Issue) :
    (ofIssues failOn cancelled issues).IsAccount failOn cancelled issues where
  complete := by
    rw [issues_ofIssues]
    exact List.mergeSort_perm _ _
  sorted := by
    rw [issues_ofIssues]
    refine (List.pairwise_mergeSort Issue.le_trans Issue.le_total issues).imp ?_
    intro a b hab
    exact Ordering.isLE_iff_ne_gt.1 hab
  stable rank := by rw [issues_ofIssues, Issue.filter_rank_sort]
  errors i hi := beq_iff_eq.1 (List.mem_filter.1 hi).2
  warnings i hi := beq_iff_eq.1 (List.mem_filter.1 hi).2
  info i hi := beq_iff_eq.1 (List.mem_filter.1 hi).2
  bySeverity := by rw [issues_ofIssues]; rfl
  byValidator := by
    rw [issues_ofIssues]
    exact IssueCounts.isTally_tally _
  byFile := by
    rw [issues_ofIssues]
    exact IssueCounts.isTally_tally _
  sum_bySeverity := by
    rw [total_eq, issues_ofIssues]
    exact sum_bySeverity _
  sum_byValidator := by
    rw [total_eq, issues_ofIssues]
    exact (IssueCounts.sum_tally _).trans (List.length_map _)
  sum_byFile := by
    rw [total_eq, issues_ofIssues]
    exact (IssueCounts.sum_tally _).trans (List.length_map _)
  valid := by
    rw [issues_ofIssues, ← fails_eq_false]
    simp [ofIssues, and_comm]
  exitCode := rfl

/-- A report depends on its issues only by their order. -/
theorem ofIssues_congr (h : Issue.sort issues = Issue.sort issues') :
    ofIssues failOn cancelled issues = ofIssues failOn cancelled issues' := by
  rw [ofIssues, ofIssues, h]

end Report

namespace Collector

/-- Whatever a collector is called for, its report gives an account of the first issue of each
kind; and it makes no difference to any report when all calls are made again. -/
theorem report_run (calls : List Call) (failOn : FailOn) (cancelled : Bool) :
    ((run {} calls).report failOn cancelled).IsAccount failOn cancelled
        ((firsts (calls.flatMap Call.entries)).map (·.2)) ∧
      ∀ (later : List Call) (failOn' : FailOn) (cancelled' : Bool),
        (run {} (calls ++ calls ++ later)).report failOn' cancelled' =
          (run {} (calls ++ later)).report failOn' cancelled' := by
  constructor
  · rw [report, run_eq_addEach, issues_addEach]
    exact Report.isAccount_ofIssues failOn cancelled _
  · intro later failOn' cancelled'
    rw [run_again]

/-! ## The order of arrival -/

variable {entries entries' : List (String × Issue)}

/-- Issues that are the same do not differ in anything. -/
def Uniform (entries : List (String × Issue)) : Prop :=
  ∀ a ∈ entries, ∀ b ∈ entries, Same a b → a.2 = b.2

instance (entries : List (String × Issue)) : Decidable (Uniform entries) :=
  inferInstanceAs (Decidable (∀ a ∈ entries, ∀ b ∈ entries, Same a b → a.2 = b.2))

theorem mem_firsts_iff (h : Uniform entries) {entry : String × Issue} :
    entry ∈ firsts entries ↔ entry ∈ entries := by
  refine ⟨fun hentry => firsts_sublist.subset hentry, fun hentry => ?_⟩
  obtain ⟨first, hfirst, hsame⟩ := exists_mem_firsts hentry
  have hissue := h first (firsts_sublist.subset hfirst) entry hentry hsame
  have heq : first = entry := Prod.ext hsame.1 hissue
  exact heq ▸ hfirst

theorem nodup_firsts : (firsts entries).Nodup :=
  pairwise_firsts.imp fun hsame heq => hsame ⟨congrArg Prod.fst heq, heq ▸ rfl⟩

theorem firsts_perm (hperm : entries.Perm entries') (h : Uniform entries) :
    (firsts entries).Perm (firsts entries') := by
  have h' : Uniform entries' := fun a ha b hb =>
    h a (hperm.mem_iff.2 ha) b (hperm.mem_iff.2 hb)
  rw [List.perm_ext_iff_of_nodup nodup_firsts nodup_firsts]
  intro entry
  rw [mem_firsts_iff h, mem_firsts_iff h', hperm.mem_iff]

/-- In which order issues are recorded makes no difference to any report, if each is recorded for
the validator that it names, has its place counted from one, and does not differ from another that
is the same. -/
theorem report_addEach_perm (hperm : entries.Perm entries')
    (hvalidator : ∀ entry ∈ entries, entry.2.validator = entry.1)
    (hplaced : ∀ entry ∈ entries, entry.2.Placed) (huniform : Uniform entries)
    (failOn : FailOn) (cancelled : Bool) :
    (addEach {} entries).report failOn cancelled =
      (addEach {} entries').report failOn cancelled := by
  refine Report.ofIssues_congr ?_
  rw [issues_addEach, issues_addEach]
  refine Sorting.mergeSort_congr Issue.le_trans Issue.le_total
    ((firsts_perm hperm huniform).map _) ?_
  intro i hi j hj hij hji
  obtain ⟨a, ha, rfl⟩ := List.mem_map.1 hi
  obtain ⟨b, hb, rfl⟩ := List.mem_map.1 hj
  have ha' := firsts_sublist.subset ha
  have hb' := firsts_sublist.subset hb
  obtain ⟨hnames, hkey⟩ := Issue.validator_and_key_of_rank (hplaced a ha') (hplaced b hb')
    (Issue.rank_eq_of_le_of_le hij hji)
  rw [hvalidator a ha', hvalidator b hb'] at hnames
  exact huniform a ha' b hb' ⟨hnames, hkey⟩

/-- A finding comes twice, before another one and after it. -/
theorem report_addEach_swap :
    let broken : Issue := ⟨"LINK002", .error, "No such heading", "links", some "one.md", some 3,
      some 1, none, none, none, []⟩
    let unknown : Issue := ⟨"CHAR001", .warning, "Unknown name", "characters", none, none, none,
      none, none, none, []⟩
    (addEach {} [("links", broken), ("characters", unknown), ("links", broken)]).report .error
        false =
      (addEach {} [("characters", unknown), ("links", broken), ("links", broken)]).report .error
        false :=
  report_addEach_perm (.swap _ _ _) (by decide) (by decide) (by decide) .error false

end Collector

end Continuity
