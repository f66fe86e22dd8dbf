import Continuity.Proofs.Issue.Order
import Continuity.Report.Collector

/-! # What a collector keeps

Whatever is recorded stays recorded, and the report has it, or an issue that is the same. What is
recorded for one validator does not depend on what is recorded for others, neither in the collector
nor in the order of the report.
-/

namespace Continuity

namespace Collector

variable {c : Collector} {v w : String} {i j : Issue}

theorem holds_add_self : (c.add v i).holds v i = true := by
  unfold add
  split
  next h => exact h
  next => simp [holds]

theorem holds_add (h : c.holds w j = true) : (c.add v i).holds w j = true := by
  unfold add
  split
  next => exact h
  next =>
    rw [holds, List.any_append, Bool.or_eq_true]
    exact .inl h

/-- Records issues one by one, each for its validator. -/
def addEach (c : Collector) (entries : List (String × Issue)) : Collector :=
  entries.foldl (fun c entry => c.add entry.1 entry.2) c

theorem addAll_eq_addEach (c : Collector) (v : String) (issues : List Issue) :
    c.addAll v issues = c.addEach (issues.map (v, ·)) := by
  rw [addAll, addEach, List.foldl_map]

theorem holds_addEach (entries : List (String × Issue)) (h : c.holds w j = true) :
    (c.addEach entries).holds w j = true := by
  induction entries generalizing c with
  | nil => exact h
  | cons entry rest ih => exact ih (holds_add h)

theorem holds_addEach_of_mem {entries : List (String × Issue)} (h : (v, i) ∈ entries) :
    (c.addEach entries).holds v i = true := by
  induction entries generalizing c with
  | nil => cases h
  | cons entry rest ih =>
      rcases List.mem_cons.1 h with rfl | h
      · exact holds_addEach rest holds_add_self
      · exact ih h

theorem holds_addAll (issues : List Issue) (h : c.holds w j = true) :
    (c.addAll v issues).holds w j = true := by
  rw [addAll_eq_addEach]
  exact holds_addEach _ h

theorem holds_addAll_of_mem {issues : List Issue} (hi : i ∈ issues) :
    (c.addAll v issues).holds v i = true := by
  rw [addAll_eq_addEach]
  exact holds_addEach_of_mem (List.mem_map_of_mem hi)

/-- What is recorded is among the issues, or one that is the same. -/
theorem exists_of_holds (h : c.holds v i = true) : ∃ j ∈ c.issues, j.key = i.key := by
  obtain ⟨⟨w, j⟩, hj, hsame⟩ := List.any_eq_true.1 h
  rw [Bool.and_eq_true, beq_iff_eq, beq_iff_eq] at hsame
  exact ⟨j, List.mem_map.2 ⟨(w, j), hj, rfl⟩, hsame.2⟩

/-! ## The issues of one validator -/

/-- The issues recorded for a validator, in order. -/
def issuesOf (c : Collector) (v : String) : List Issue :=
  (c.recorded.filter (·.1 == v)).map (·.2)

theorem holds_eq : c.holds v i = (c.issuesOf v).any (·.key == i.key) := by
  rw [holds, issuesOf, List.any_map, List.any_filter]
  rfl

theorem issuesOf_add_self :
    (c.add v i).issuesOf v =
      if (c.issuesOf v).any (·.key == i.key) then c.issuesOf v else c.issuesOf v ++ [i] := by
  rw [add, holds_eq]
  split
  next => rfl
  next => simp [issuesOf]

theorem issuesOf_add_other (h : v ≠ w) : (c.add v i).issuesOf w = c.issuesOf w := by
  unfold add
  split
  next => rfl
  next => simp [issuesOf, h]

theorem issuesOf_addAll_other {issues : List Issue} (h : v ≠ w) :
    (c.addAll v issues).issuesOf w = c.issuesOf w := by
  induction issues generalizing c with
  | nil => rfl
  | cons i rest ih => exact ih.trans (issuesOf_add_other h)

/-- What is recorded for a validator depends on nothing but what was recorded for it before. -/
theorem issuesOf_add_congr {c' : Collector} (h : c.issuesOf v = c'.issuesOf v) :
    (c.add v i).issuesOf v = (c'.add v i).issuesOf v := by
  rw [issuesOf_add_self, issuesOf_add_self, h]

theorem issuesOf_addAll_congr {c' : Collector} (issues : List Issue)
    (h : c.issuesOf v = c'.issuesOf v) :
    (c.addAll v issues).issuesOf v = (c'.addAll v issues).issuesOf v := by
  induction issues generalizing c c' with
  | nil => exact h
  | cons i rest ih => exact ih (issuesOf_add_congr h)

/-- Issues of which no two are the same are all recorded. -/
theorem issuesOf_addAll_of_nodup {issues : List Issue}
    (h : ((c.issuesOf v ++ issues).map Issue.key).Nodup) :
    (c.addAll v issues).issuesOf v = c.issuesOf v ++ issues := by
  induction issues generalizing c with
  | nil => rw [List.append_nil]; rfl
  | cons i rest ih =>
      have hnew : (c.issuesOf v).any (·.key == i.key) = false := by
        rw [List.map_append, List.nodup_append] at h
        rw [List.any_eq_false]
        intro j hj hsame
        exact h.2.2 _ (List.mem_map_of_mem hj) _ List.mem_cons_self (beq_iff_eq.1 hsame)
      have hadd : (c.add v i).issuesOf v = c.issuesOf v ++ [i] := by
        rw [issuesOf_add_self, hnew]
        rfl
      refine (ih ?_).trans ?_
      · rwa [hadd, List.append_assoc]
      · rw [hadd, List.append_assoc]
        rfl

/-- Every issue is recorded for the validator that it names. -/
def Signed (c : Collector) : Prop := ∀ v i, (v, i) ∈ c.recorded → i.validator = v

theorem Signed.add (h : c.Signed) (hi : i.validator = v) : (c.add v i).Signed := by
  unfold Collector.add
  split
  next => exact h
  next =>
    intro w j hj
    rcases List.mem_append.1 hj with hj | hj
    · exact h w j hj
    · cases List.mem_singleton.1 hj
      exact hi

theorem Signed.addAll {issues : List Issue} (h : c.Signed)
    (hissues : ∀ i ∈ issues, i.validator = v) : (c.addAll v issues).Signed := by
  induction issues generalizing c with
  | nil => exact h
  | cons i rest ih =>
      refine ih (h.add (hissues i List.mem_cons_self)) fun j hj => ?_
      exact hissues j (List.mem_cons_of_mem _ hj)

theorem Signed.filter_issues (h : c.Signed) (v : String) :
    c.issues.filter (·.validator == v) = c.issuesOf v := by
  rw [issues, issuesOf, List.filter_map]
  refine congrArg _ (List.filter_congr fun recorded hmem => ?_)
  rw [Function.comp_apply, h recorded.1 recorded.2 hmem]

end Collector

/-- The part of a report that a question picks out is the report on the issues that it picks out. -/
theorem Report.filter_issues {failOn : FailOn} {cancelled : Bool} {issues : List Issue}
    (q : Issue → Bool) :
    (ofIssues failOn cancelled issues).issues.filter q =
      (ofIssues failOn cancelled (issues.filter q)).issues := by
  simp only [Report.issues, ofIssues, List.filter_append, ← Issue.filter_sort, List.filter_filter,
    Bool.and_comm]

/-- A report has all issues that it is made from. -/
theorem Report.mem_issues_ofIssues {failOn : FailOn} {cancelled : Bool} {issues : List Issue}
    {i : Issue} : i ∈ (ofIssues failOn cancelled issues).issues ↔ i ∈ issues := by
  have hsort : i ∈ Issue.sort issues ↔ i ∈ issues := List.mem_mergeSort
  rw [← hsort]
  cases hseverity : i.severity <;> simp [Report.issues, ofIssues, hseverity]

end Continuity

/-! ## Recording again and again

However a collector is called, it has the first issues of each kind in the end, in the order in
which they came. Calls that have been made before change nothing.
-/

namespace Continuity.Collector

/-- A call of a collector, for one issue of a validator or for several. -/
inductive Call where
  | add (validator : String) (issue : Issue)
  | addAll (validator : String) (issues : List Issue)

/-- The issues of a call, each with the validator that it is to be recorded for. -/
def Call.entries : Call → List (String × Issue)
  | add validator issue => [(validator, issue)]
  | addAll validator issues => issues.map (validator, ·)

/-- Does what a call says. -/
def apply (c : Collector) : Call → Collector
  | .add validator issue => c.add validator issue
  | .addAll validator issues => c.addAll validator issues

/-- Does what several calls say, one after the other. -/
def run (c : Collector) (calls : List Call) : Collector := calls.foldl apply c

/-- Two entries are the same finding of the same validator. -/
def Same (a b : String × Issue) : Prop := a.1 = b.1 ∧ a.2.key = b.2.key

instance : DecidableRel Same := fun _ _ => inferInstanceAs (Decidable (_ ∧ _))

/-- The entries that are not the same as one before them, in their order. -/
def firsts : List (String × Issue) → List (String × Issue)
  | [] => []
  | entry :: rest => entry :: (firsts rest).filter fun later => ¬ Same entry later

variable {c : Collector} {calls : List Call} {entries : List (String × Issue)}
  {entry other : String × Issue}

/-! ## First entries -/

theorem firsts_sublist : (firsts entries).Sublist entries := by
  induction entries with
  | nil => exact List.Sublist.slnil
  | cons entry rest ih => exact (List.filter_sublist.trans ih).cons_cons entry

theorem pairwise_firsts : (firsts entries).Pairwise fun a b => ¬ Same a b := by
  induction entries with
  | nil => exact List.Pairwise.nil
  | cons entry rest ih =>
      refine List.pairwise_cons.2 ⟨?_, ih.filter _⟩
      intro later hlater
      simpa using (List.mem_filter.1 hlater).2

theorem exists_mem_firsts (h : entry ∈ entries) : ∃ first ∈ firsts entries, Same first entry := by
  induction entries with
  | nil => cases h
  | cons head rest ih =>
      by_cases hsame : Same head entry
      · exact ⟨head, List.mem_cons_self, hsame⟩
      · rcases List.mem_cons.1 h with rfl | hrest
        · exact absurd ⟨rfl, rfl⟩ hsame
        · obtain ⟨first, hfirst, hentry⟩ := ih hrest
          refine ⟨first, List.mem_cons_of_mem _ (List.mem_filter.2 ⟨hfirst, ?_⟩), hentry⟩
          rw [decide_eq_true_iff]
          intro hhead
          exact hsame ⟨hhead.1.trans hentry.1, hhead.2.trans hentry.2⟩

/-- A last entry is a first one of its kind, if none before it is the same. -/
theorem firsts_concat (h : ∀ other ∈ entries, ¬ Same other entry) :
    firsts (entries ++ [entry]) = firsts entries ++ [entry] := by
  induction entries with
  | nil => rfl
  | cons head rest ih =>
      rw [List.forall_mem_cons] at h
      rw [List.cons_append, firsts, ih h.2, firsts, List.filter_append, List.cons_append,
        List.filter_cons_of_pos (by simpa using h.1), List.filter_nil]

/-! ## What is recorded -/

theorem holds_iff : c.holds entry.1 entry.2 = true ↔ ∃ first ∈ c.recorded, Same first entry := by
  rw [holds, List.any_eq_true]
  simp [Same]

theorem holds_add_iff : (c.add entry.1 entry.2).holds other.1 other.2 = true ↔
    c.holds other.1 other.2 = true ∨ Same entry other := by
  unfold add
  split
  next hentry =>
    rw [or_iff_left_of_imp]
    rintro ⟨hvalidator, hkey⟩
    rwa [holds, hvalidator, hkey] at hentry
  next =>
    rw [holds_iff, holds_iff]
    simp [or_and_right, exists_or]

/-- To what is recorded, the first entries are added that it does not have. -/
theorem recorded_addEach (c : Collector) (entries : List (String × Issue)) :
    (c.addEach entries).recorded =
      c.recorded ++ (firsts entries).filter fun entry => !c.holds entry.1 entry.2 := by
  induction entries generalizing c with
  | nil => exact (List.append_nil _).symm
  | cons entry rest ih =>
      have hstep : c.addEach (entry :: rest) = (c.add entry.1 entry.2).addEach rest := rfl
      have hlater (later : String × Issue) :
          (!(c.add entry.1 entry.2).holds later.1 later.2) =
            (!c.holds later.1 later.2 && decide (¬ Same entry later)) := by
        rw [Bool.eq_iff_iff]
        simp [← Bool.not_eq_true, holds_add_iff]
      rw [hstep, ih, firsts]
      simp only [hlater, ← List.filter_filter]
      cases hentry : c.holds entry.1 entry.2 with
      | true => rw [add, if_pos hentry, List.filter_cons_of_neg (by simp [hentry])]
      | false =>
          have hrecorded : (c.add entry.1 entry.2).recorded = c.recorded ++ [entry] := by
            rw [add, hentry]
            rfl
          rw [hrecorded, List.filter_cons_of_pos (by simp [hentry]), List.append_assoc]
          rfl

theorem issues_addEach (entries : List (String × Issue)) :
    (addEach {} entries).issues = (firsts entries).map (·.2) := by
  have hall : ((firsts entries).filter fun entry =>
      !({} : Collector).holds entry.1 entry.2) = firsts entries :=
    List.filter_eq_self.2 fun _ _ => rfl
  rw [issues, recorded_addEach, hall]
  rfl

theorem addEach_append (c : Collector) (entries more : List (String × Issue)) :
    c.addEach (entries ++ more) = (c.addEach entries).addEach more :=
  List.foldl_append

theorem run_eq_addEach (c : Collector) (calls : List Call) :
    c.run calls = c.addEach (calls.flatMap Call.entries) := by
  induction calls generalizing c with
  | nil => rfl
  | cons call rest ih =>
      have happly : c.apply call = c.addEach call.entries := by
        cases call with
        | add validator issue => rfl
        | addAll validator issues => exact addAll_eq_addEach c validator issues
      rw [List.flatMap_cons, addEach_append, ← happly]
      exact ih (c.apply call)

/-! ## Calls made again -/

/-- What is recorded already is not recorded again. -/
theorem addEach_of_holds (h : ∀ entry ∈ entries, c.holds entry.1 entry.2 = true) :
    c.addEach entries = c := by
  induction entries with
  | nil => rfl
  | cons entry rest ih =>
      rw [List.forall_mem_cons] at h
      have hadd : c.add entry.1 entry.2 = c := if_pos h.1
      have hstep : c.addEach (entry :: rest) = (c.add entry.1 entry.2).addEach rest := rfl
      rw [hstep, hadd, ih h.2]

/-- Calls that have been made can be made again without a difference. -/
theorem run_again (c : Collector) (calls later : List Call) :
    c.run (calls ++ calls ++ later) = c.run (calls ++ later) := by
  have hagain (c : Collector) (entries : List (String × Issue)) :
      (c.addEach entries).addEach entries = c.addEach entries :=
    addEach_of_holds fun _ hentry => holds_addEach_of_mem hentry
  simp only [run_eq_addEach, List.flatMap_append, addEach_append, hagain]

end Continuity.Collector
