import Continuity.Issue.Order

/-! # The order of issues

Issues are ordered field by field, which is a total order up to issues that have the same place.
Sorting is stable: what is sorted out of a list is sorted as it would be without the rest. Issues of
one place have the same validator and the same key, if their places are counted from one.
-/

namespace Continuity

namespace IssueRank

instance : Std.TransCmp compare :=
  inferInstanceAs (Std.TransCmp (compareLex (compareOn severity)
    (compareLex (compareOn hasFile) (compareLex (compareOn file)
    (compareLex (compareOn line) (compareLex (compareOn column)
    (compareLex (compareOn validator) (compareLex (compareOn code) (compareOn message)))))))))

instance : Std.LawfulEqCmp compare where
  eq_of_compare {a b} h := by
    simp only [compare, Ordering.then_eq_eq, Std.LawfulEqOrd.compare_eq_iff_eq] at h
    obtain ⟨hseverity, hhasFile, hfile, hline, hcolumn, hvalidator, hcode, hmessage⟩ := h
    cases a
    cases b
    simp_all

end IssueRank

namespace Issue

theorem le_trans (a b c : Issue) (hab : a.le b = true) (hbc : b.le c = true) : a.le c = true :=
  Std.TransCmp.isLE_trans hab hbc

theorem le_total (a b : Issue) : (a.le b || b.le a) = true := by
  rw [Bool.or_eq_true]
  cases hab : a.le b with
  | true => exact .inl rfl
  | false =>
      refine .inr ?_
      have hswap : b.rank.compare a.rank = (a.rank.compare b.rank).swap :=
        Std.OrientedCmp.eq_swap
      rw [le] at hab ⊢
      rw [hswap]
      generalize a.rank.compare b.rank = order at hab
      revert hab
      cases order <;> decide

/-- Two ways to part a list are the same, if one question parts it in both. -/
theorem parts_unique {α : Type} {q : α → Bool} {front back front' back' : List α}
    (heq : front ++ back = front' ++ back') (hfront : ∀ a ∈ front, q a = false)
    (hback : ∀ a ∈ back, q a = true) (hfront' : ∀ a ∈ front', q a = false)
    (hback' : ∀ a ∈ back', q a = true) : front = front' ∧ back = back' := by
  have hnone {l : List α} (hl : ∀ a ∈ l, q a = false) : l.filter q = [] := by
    simpa using hl
  have hsecond := congrArg (List.filter q) heq
  rw [List.filter_append, List.filter_append, hnone hfront, hnone hfront',
    List.filter_eq_self.2 hback, List.filter_eq_self.2 hback'] at hsecond
  obtain rfl : back = back' := hsecond
  exact ⟨List.append_cancel_right heq, rfl⟩

/-- Issues are sorted alike with others and without them. -/
theorem filter_sort (q : Issue → Bool) (issues : List Issue) :
    (sort issues).filter q = sort (issues.filter q) := by
  induction issues with
  | nil => simp [sort]
  | cons a rest ih =>
      obtain ⟨front, back, hall, hrest, hfront⟩ := List.mergeSort_cons le_trans le_total a rest
      have hsorted := List.pairwise_mergeSort le_trans le_total (a :: rest)
      rw [hall, List.pairwise_append, List.pairwise_cons] at hsorted
      rw [sort] at ih ⊢
      rw [hrest, List.filter_append] at ih
      rw [hall, List.filter_append]
      cases ha : q a with
      | false =>
          rw [List.filter_cons_of_neg (by simp [ha]), List.filter_cons_of_neg (by simp [ha]), ih]
      | true =>
          rw [List.filter_cons_of_pos ha, List.filter_cons_of_pos ha, sort]
          obtain ⟨front', back', hall', hrest', hfront'⟩ :=
            List.mergeSort_cons le_trans le_total a (rest.filter q)
          have hsorted' := List.pairwise_mergeSort le_trans le_total (a :: rest.filter q)
          rw [hall', List.pairwise_append, List.pairwise_cons] at hsorted'
          have hparts := parts_unique (q := a.le) (ih.trans hrest')
            (fun b hb => by simpa using hfront b (List.mem_filter.1 hb).1)
            (fun b hb => hsorted.2.1.1 b (List.mem_filter.1 hb).1)
            (fun b hb => by simpa using hfront' b hb) hsorted'.2.1.1
          rw [hall', hparts.1, hparts.2]

/-- Issues of one place stay as they came. -/
theorem filter_rank_sort (issues : List Issue) (rank : IssueRank) :
    (sort issues).filter (·.rank == rank) = issues.filter (·.rank == rank) := by
  rw [filter_sort]
  refine List.mergeSort_of_pairwise (List.pairwise_of_forall_mem_list ?_)
  intro a ha b hb
  rw [List.mem_filter, beq_iff_eq] at ha hb
  rw [le, ha.2, hb.2]
  exact Std.ReflCmp.isLE_rfl

theorem rank_eq_of_le_of_le {a b : Issue} (hab : a.le b = true) (hba : b.le a = true) :
    a.rank = b.rank :=
  Std.LawfulEqCmp.eq_of_compare (Std.OrientedCmp.isLE_antisymm hab hba)

theorem severity_of_le {a b : Issue} (h : a.le b = true) : b.severity.rank ≤ a.severity.rank := by
  have hseverity : 2 - a.severity.rank ≤ 2 - b.severity.rank :=
    Nat.isLE_compare.1 (Ordering.isLE_left_of_isLE_then h)
  revert hseverity
  cases a.severity <;> cases b.severity <;> decide

/-- The parts of sorted issues by severity, one behind the other, are all of them. -/
theorem filter_severity_append {issues : List Issue}
    (h : issues.Pairwise fun a b => b.severity.rank ≤ a.severity.rank) :
    issues.filter (·.severity == .error) ++ issues.filter (·.severity == .warning) ++
      issues.filter (·.severity == .info) = issues := by
  induction issues with
  | nil => rfl
  | cons a rest ih =>
      rw [List.pairwise_cons] at h
      have hrest := ih h.2
      -- Nothing behind an issue is graver.
      have hnone (severity : Severity) (hgraver : a.severity.rank < severity.rank) :
          rest.filter (·.severity == severity) = [] := by
        rw [List.filter_eq_nil_iff]
        intro b hb heq
        rw [← beq_iff_eq.1 heq] at hgraver
        exact absurd (h.1 b hb) (Nat.not_le.2 hgraver)
      cases ha : a.severity with
      | error => simpa [ha] using hrest
      | warning =>
          rw [hnone .error (by rw [ha]; decide)] at hrest
          simpa [ha, hnone .error (by rw [ha]; decide)] using hrest
      | info =>
          have herror := hnone .error (by rw [ha]; decide)
          have hwarning := hnone .warning (by rw [ha]; decide)
          rw [herror, hwarning] at hrest
          simpa [ha, herror, hwarning] using hrest

/-! ## Telling issues apart -/

/-- The line and the column, as far as they are known, are counted from one. -/
def Placed (i : Issue) : Prop := (∀ n ∈ i.line, 1 ≤ n) ∧ ∀ n ∈ i.column, 1 ≤ n

instance (i : Issue) : Decidable i.Placed := inferInstanceAs (Decidable (_ ∧ _))

/-- Counted from one, a number that is not known has no other for a match. -/
theorem eq_of_getD_eq {m n : Option Int} (hm : ∀ k ∈ m, 1 ≤ k) (hn : ∀ k ∈ n, 1 ≤ k)
    (h : m.getD 0 = n.getD 0) : m = n := by
  cases m with
  | none =>
      cases n with
      | none => rfl
      | some l =>
          have hl : 1 ≤ l := hn l rfl
          have hzero : 0 = l := h
          omega
  | some k =>
      cases n with
      | none =>
          have hk : 1 ≤ k := hm k rfl
          have hzero : k = 0 := h
          omega
      | some l => exact congrArg some h

theorem validator_and_key_of_rank {a b : Issue} (ha : a.Placed) (hb : b.Placed)
    (h : a.rank = b.rank) : a.validator = b.validator ∧ a.key = b.key := by
  have hfile : a.file = b.file := by
    have hsome : a.file.isSome = b.file.isSome := congrArg IssueRank.hasFile h
    have hname : a.file.getD "" = b.file.getD "" := congrArg IssueRank.file h
    cases hfile : a.file <;> cases hfile' : b.file <;> simp_all
  have hline : a.line = b.line := eq_of_getD_eq ha.1 hb.1 (congrArg IssueRank.line h)
  have hcolumn : a.column = b.column := eq_of_getD_eq ha.2 hb.2 (congrArg IssueRank.column h)
  have hcode : a.code = b.code := congrArg IssueRank.code h
  have hmessage : a.message = b.message := congrArg IssueRank.message h
  refine ⟨congrArg IssueRank.validator h, ?_⟩
  rw [key, key, hcode, hfile, hline, hcolumn, hmessage]

end Issue

end Continuity
