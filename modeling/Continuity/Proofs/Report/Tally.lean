import Mathlib.Algebra.GroupWithZero.Nat
import Mathlib.Data.String.Basic
import Continuity.Report.Basic

/-! # Tallies

A tally has each name that occurs in a list once, with the number of times that it occurs there.
-/

namespace Continuity.IssueCounts

variable {name : String} {names : List String} {table : List (String × Nat)}

/-- A table has exactly the names of a list, in ascending order, each with the number of times that
it is in the list. -/
structure IsTally (table : List (String × Nat)) (names : List String) : Prop where
  ascending : (table.map (·.1)).Pairwise (· < ·)
  mem_iff : ∀ name, name ∈ table.map (·.1) ↔ name ∈ names
  counted : ∀ entry ∈ table, entry.2 = names.count entry.1

theorem mem_keys_increment {other : String} :
    other ∈ (increment name table).map (·.1) ↔ other = name ∨ other ∈ table.map (·.1) := by
  fun_induction increment name table with
  | case1 => simp
  | case2 first n rest heq =>
      obtain rfl := beq_iff_eq.1 heq
      simp
  | case3 => simp
  | case4 first n rest _ _ ih =>
      rw [List.map_cons, List.mem_cons, ih, List.map_cons, List.mem_cons]
      tauto

theorem ascending_increment (h : (table.map (·.1)).Pairwise (· < ·)) :
    ((increment name table).map (·.1)).Pairwise (· < ·) := by
  fun_induction increment name table with
  | case1 => simp
  | case2 => exact h
  | case3 first n rest _ hlt =>
      rw [List.map_cons, List.pairwise_cons]
      refine ⟨?_, h⟩
      intro other hother
      rcases List.mem_cons.1 hother with rfl | hother
      · exact hlt
      · exact hlt.trans ((List.pairwise_cons.1 h).1 other hother)
  | case4 first n rest hne hlt ih =>
      rw [List.map_cons, List.pairwise_cons] at h ⊢
      refine ⟨?_, ih h.2⟩
      intro other hother
      rcases mem_keys_increment.1 hother with rfl | hother
      · exact lt_of_le_of_ne (not_lt.1 hlt) fun heq => hne (beq_iff_eq.2 heq.symm)
      · exact h.1 other hother

/-- Counting a name once more leaves the entries of other names alone; its own entry is new or one
higher. -/
theorem mem_increment {entry : String × Nat} (h : (table.map (·.1)).Pairwise (· < ·))
    (hentry : entry ∈ increment name table) :
    entry ∈ table ∧ entry.1 ≠ name ∨ entry = (name, 1) ∧ name ∉ table.map (·.1) ∨
      ∃ n, (name, n) ∈ table ∧ entry = (name, n + 1) := by
  fun_induction increment name table with
  | case1 => exact .inr (.inl ⟨List.mem_singleton.1 hentry, List.not_mem_nil⟩)
  | case2 first n rest heq =>
      obtain rfl := beq_iff_eq.1 heq
      rw [List.map_cons, List.pairwise_cons] at h
      rcases List.mem_cons.1 hentry with rfl | hrest
      · exact .inr (.inr ⟨n, List.mem_cons_self, rfl⟩)
      · have hlt := h.1 entry.1 (List.mem_map_of_mem hrest)
        exact .inl ⟨List.mem_cons_of_mem _ hrest, hlt.ne'⟩
  | case3 first n rest _ hlt =>
      rw [List.map_cons, List.pairwise_cons] at h
      have hbefore : ∀ other ∈ ((first, n) :: rest).map (·.1), name < other := by
        rw [List.map_cons, List.forall_mem_cons]
        exact ⟨hlt, fun other hother => hlt.trans (h.1 other hother)⟩
      rcases List.mem_cons.1 hentry with rfl | hrest
      · exact .inr (.inl ⟨rfl, fun hmem => (hbefore _ hmem).false⟩)
      · exact .inl ⟨hrest, (hbefore _ (List.mem_map_of_mem hrest)).ne'⟩
  | case4 first n rest hne _ ih =>
      have hfirst : first ≠ name := fun heq => hne (beq_iff_eq.2 heq.symm)
      rw [List.map_cons, List.pairwise_cons] at h
      rcases List.mem_cons.1 hentry with rfl | hrest
      · exact .inl ⟨List.mem_cons_self, hfirst⟩
      · rcases ih h.2 hrest with ⟨hmem, hother⟩ | ⟨hnew, hmem⟩ | ⟨k, hmem, hk⟩
        · exact .inl ⟨List.mem_cons_of_mem _ hmem, hother⟩
        · refine .inr (.inl ⟨hnew, ?_⟩)
          rw [List.map_cons, List.mem_cons, not_or]
          exact ⟨hfirst.symm, hmem⟩
        · exact .inr (.inr ⟨k, List.mem_cons_of_mem _ hmem, hk⟩)

theorem sum_increment : ((increment name table).map (·.2)).sum = (table.map (·.2)).sum + 1 := by
  fun_induction increment name table with
  | case1 => rfl
  | case2 => simp only [List.map_cons, List.sum_cons]; omega
  | case3 => simp only [List.map_cons, List.sum_cons]; omega
  | case4 first n rest _ _ ih => simp only [List.map_cons, List.sum_cons, ih]; omega

namespace IsTally

theorem nil : IsTally [] [] := ⟨List.Pairwise.nil, fun _ => Iff.rfl, by simp⟩

theorem increment (h : IsTally table names) (name : String) :
    IsTally (increment name table) (names ++ [name]) := by
  refine ⟨ascending_increment h.ascending, ?_, ?_⟩
  · intro other
    rw [mem_keys_increment, h.mem_iff, List.mem_append, List.mem_singleton, or_comm]
  · intro entry hentry
    rw [List.count_append]
    rcases mem_increment h.ascending hentry with ⟨hmem, hother⟩ | ⟨rfl, hnew⟩ | ⟨n, hmem, rfl⟩
    · rw [h.counted entry hmem, List.count_singleton, if_neg (by simpa using hother.symm)]
      rfl
    · rw [h.mem_iff] at hnew
      simp [List.count_eq_zero.2 hnew]
    · simp [← h.counted _ hmem]

theorem foldl (h : IsTally table names) (more : List String) :
    IsTally (more.foldl (fun counts name => IssueCounts.increment name counts) table)
      (names ++ more) := by
  induction more generalizing table names with
  | nil => rwa [List.append_nil]
  | cons name rest ih => simpa using ih (h.increment name)

end IsTally

theorem isTally_tally (names : List String) : IsTally (tally names) names :=
  IsTally.nil.foldl names

theorem sum_foldl_increment (names : List String) (table : List (String × Nat)) :
    ((names.foldl (fun counts name => increment name counts) table).map (·.2)).sum =
      (table.map (·.2)).sum + names.length := by
  induction names generalizing table with
  | nil => rfl
  | cons name rest ih =>
      rw [List.foldl_cons, ih, sum_increment, List.length_cons]
      omega

theorem sum_tally (names : List String) : ((tally names).map (·.2)).sum = names.length := by
  rw [tally, sum_foldl_increment]
  simp

end Continuity.IssueCounts
