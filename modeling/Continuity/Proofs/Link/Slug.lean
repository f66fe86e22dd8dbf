import Mathlib.Data.List.Nodup
import Mathlib.Data.List.Zip
import Continuity.Link.Slug
import Continuity.Proofs.Data.Merge
import Continuity.Proofs.Data.Lists

/-! # Slugs that are given twice

A heading gets its own slug if nothing has that slug yet, and otherwise its own slug with a number.
Numbers are counted for each slug, and nobody looks whether the numbered slug is another heading's
own. So two headings get the same slug exactly where a later one is given a number and an earlier
one is called just that.
-/

namespace Continuity.Link

/-- A slug with a number. -/
def numbered (base : String) (n : Nat) : String := base ++ "-" ++ toString n

theorem not_mem_digits (n : Nat) : '-' ∉ (toString n).toList := by
  intro h
  rw [Nat.toString_eq_repr, Nat.toList_repr] at h
  exact absurd (Nat.isDigit_of_mem_toDigits (by decide) (by decide) h) (by decide)

theorem digits_inj {n n' : Nat} (h : toString n = toString n') : n = n' := by
  have hdigits := congrArg String.toList h
  rw [Nat.toString_eq_repr, Nat.toString_eq_repr, Nat.toList_repr, Nat.toList_repr] at hdigits
  have hread := congrArg (fun digits => Nat.ofDigitChars 10 digits 0) hdigits
  simpa only [Nat.ofDigitChars_ten_toDigits] using hread

theorem reverse_numbered (base : String) (n : Nat) :
    (numbered base n).toList.reverse =
      (toString n).toList.reverse ++ '-' :: base.toList.reverse := by
  simp [numbered]

theorem numbered_inj {base base' : String} {n n' : Nat} :
    numbered base n = numbered base' n' ↔ base = base' ∧ n = n' := by
  refine ⟨fun heq => ?_, fun ⟨hbase, hn⟩ => hbase ▸ hn ▸ rfl⟩
  -- A slug may have hyphens, a number has none: it is what stands behind the last hyphen.
  have hreversed := congrArg (fun slug => slug.toList.reverse) heq
  simp only [reverse_numbered] at hreversed
  have hdigits := congrArg (List.takeWhile (· != '-')) hreversed
  rw [Lists.takeWhile_append_cons (by simpa using not_mem_digits n),
    Lists.takeWhile_append_cons (by simpa using not_mem_digits n'), List.reverse_inj,
    String.toList_inj] at hdigits
  rw [hdigits, List.append_cancel_left_eq, List.cons_inj_right, List.reverse_inj,
    String.toList_inj] at hreversed
  exact ⟨hreversed, digits_inj hdigits⟩

theorem numbered_ne (base : String) (n : Nat) : numbered base n ≠ base := by
  intro heq
  have hlength := congrArg (fun slug => slug.toList.length) heq
  simp only [numbered, String.toList_append, List.length_append] at hlength
  have hhyphen : "-".toList.length = 1 := rfl
  omega

namespace Slugger

/-! ## One heading -/

theorem count_request (s : Slugger) (slug slug' : String) :
    (s.request slug).count slug' = if slug' = slug then s.count slug + 1 else s.count slug' := by
  rw [request, count, SharedState.lookup_entry]
  split
  next => rfl
  next hne => rw [Entries.lookup_filter_of_ne hne, count]

theorem count_reserve (s : Slugger) (slug slug' : String) :
    (s.reserve slug).count slug' =
      if slug' = slug then max (s.count slug) 1 else s.count slug' := by
  unfold reserve
  by_cases hcount : s.count slug = 0
  · simp [hcount, count_request]
  · rw [if_neg (by simpa using hcount)]
    split
    next heq =>
      subst heq
      omega
    next => rfl

/-- A heading gets its own slug as long as that is new, and else a number. -/
theorem issue_cases (s : Slugger) (text : String) :
    (s.count (slug text) = 0 ∧ s.issue text = (slug text, s.request (slug text))) ∨
      (0 < s.count (slug text) ∧
        s.issue text = (numbered (slug text) (s.count (slug text)),
          (s.request (slug text)).reserve (numbered (slug text) (s.count (slug text))))) := by
  rcases Nat.eq_zero_or_pos (s.count (slug text)) with hcount | hcount
  · refine .inl ⟨hcount, ?_⟩
    simp [issue, hcount]
  · refine .inr ⟨hcount, ?_⟩
    simp [issue, numbered, Nat.ne_of_gt hcount]

theorem count_issue (s : Slugger) (text slug' : String) :
    (s.issue text).2.count slug' =
      if slug' = slug text then s.count slug' + 1
      else if slug' = (s.issue text).1 then max (s.count slug') 1
      else s.count slug' := by
  rcases s.issue_cases text with ⟨-, heq⟩ | ⟨-, heq⟩
  · rw [heq, count_request]
    by_cases hown : slug' = slug text
    · rw [if_pos hown, if_pos hown, hown]
    · rw [if_neg hown, if_neg hown, if_neg hown]
  · rw [heq, count_reserve, count_request, if_neg (numbered_ne _ _), count_request]
    by_cases hnumbered : slug' = numbered (slug text) (s.count (slug text))
    · rw [if_pos hnumbered, if_neg (hnumbered ▸ numbered_ne _ _), if_pos hnumbered, hnumbered]
    · rw [if_neg hnumbered, if_neg hnumbered]
      split
      next hown => rw [hown]
      next => rfl

theorem count_le_issue (s : Slugger) (text slug' : String) :
    s.count slug' ≤ (s.issue text).2.count slug' := by
  rw [s.count_issue text]
  split
  · omega
  · split <;> omega

/-- What is on record of headings with the slugs that they have been given: which slugs these are,
the own slugs of all headings among them, and that no number in them will be used again. -/
structure Accounts (s : Slugger) (given : List (String × String)) : Prop where
  given_iff : ∀ slug, slug ∈ given.map (·.2) ↔ 0 < s.count slug
  own_mem : ∀ heading ∈ given, slug heading.1 ∈ given.map (·.2)
  own_or_numbered : ∀ heading ∈ given, heading.2 = slug heading.1 ∨
    ∃ n, heading.2 = numbered (slug heading.1) n ∧ n < s.count (slug heading.1)

theorem accounts_nil : Accounts ⟨[]⟩ [] := by
  refine ⟨?_, ?_, ?_⟩
  · intro slug
    simp [count]
  · intro heading h
    cases h
  · intro heading h
    cases h

end Slugger

/-- Of two headings with their slugs, the later one has not been given the earlier one's own slug
by way of a number. -/
def Apart (earlier later : String × String) : Prop :=
  later.2 = slug later.1 ∨ later.2 ≠ slug earlier.1

/-- Two headings have the same slug only if the earlier one has it for its own, and the later one
by way of a number. -/
def Clash (earlier later : String × String) : Prop :=
  earlier.2 = later.2 → earlier.2 = slug earlier.1 ∧ later.2 ≠ slug later.1

namespace Slugger.Accounts

variable {s : Slugger} {given : List (String × String)}

theorem clash (h : s.Accounts given) (text : String) {earlier : String × String}
    (hearlier : earlier ∈ given) : Clash earlier (text, (s.issue text).1) := by
  intro hsame
  have hgiven : earlier.2 ∈ given.map (·.2) := List.mem_map_of_mem hearlier
  rcases s.issue_cases text with ⟨hcount, heq⟩ | ⟨-, heq⟩
  · -- An own slug is given only while it is new.
    rw [hsame, heq, h.given_iff, hcount] at hgiven
    exact absurd hgiven (Nat.lt_irrefl 0)
  · rw [heq] at hsame ⊢
    refine ⟨?_, numbered_ne _ _⟩
    rcases h.own_or_numbered earlier hearlier with hown | ⟨n, hnumbered, hn⟩
    · exact hown
    · -- The number would have been used before.
      obtain ⟨hbase, rfl⟩ := numbered_inj.1 (hnumbered.symm.trans hsame)
      rw [hbase] at hn
      exact absurd hn (Nat.lt_irrefl _)

theorem new_iff (h : s.Accounts given) (text : String) :
    (s.issue text).1 ∉ given.map (·.2) ↔
      ∀ earlier ∈ given, Apart earlier (text, (s.issue text).1) := by
  constructor
  · intro hnew earlier hearlier
    refine .inr fun heq => hnew ?_
    dsimp only at heq
    exact heq ▸ h.own_mem earlier hearlier
  · intro hapart hgiven
    obtain ⟨earlier, hearlier, hsame⟩ := List.mem_map.1 hgiven
    obtain ⟨hown, hnot⟩ := h.clash text hearlier hsame
    rcases hapart earlier hearlier with hown' | hne
    · exact hnot hown'
    · exact hne (hsame.symm.trans hown)

theorem issue (h : s.Accounts given) (text : String) :
    (s.issue text).2.Accounts (given ++ [(text, (s.issue text).1)]) := by
  have hown : slug text ∈ (given ++ [(text, (s.issue text).1)]).map (·.2) := by
    rw [List.map_append, List.mem_append]
    rcases s.issue_cases text with ⟨-, heq⟩ | ⟨hcount, -⟩
    · exact .inr (by simp [heq])
    · exact .inl ((h.given_iff _).2 hcount)
  refine ⟨?_, ?_, ?_⟩
  · intro slug'
    rw [s.count_issue text]
    split
    next heq => exact iff_of_true (heq ▸ hown) (Nat.succ_pos _)
    next =>
      rw [List.map_append, List.mem_append, h.given_iff]
      split
      next heq => exact iff_of_true (.inr (by simp [heq])) (by omega)
      next hne => exact or_iff_left (by simpa using hne)
  · intro heading hheading
    rcases List.mem_append.1 hheading with hheading | hheading
    · rw [List.map_append]
      exact List.mem_append_left _ (h.own_mem heading hheading)
    · obtain rfl := List.mem_singleton.1 hheading
      exact hown
  · intro heading hheading
    rcases List.mem_append.1 hheading with hheading | hheading
    · refine (h.own_or_numbered heading hheading).imp_right ?_
      rintro ⟨n, hslug, hn⟩
      exact ⟨n, hslug, Nat.lt_of_lt_of_le hn (s.count_le_issue text _)⟩
    · obtain rfl := List.mem_singleton.1 hheading
      rcases s.issue_cases text with ⟨-, heq⟩ | ⟨-, heq⟩
      · exact .inl (by rw [heq])
      · refine .inr ⟨s.count (slug text), by rw [heq], ?_⟩
        rw [s.count_issue text, if_pos rfl]
        exact Nat.lt_succ_self _

/-! ## All headings -/

theorem pairwise_clash (h : s.Accounts given) (texts : List String) :
    (texts.zip (s.issueAll texts)).Pairwise Clash ∧
      ∀ heading ∈ texts.zip (s.issueAll texts), ∀ earlier ∈ given, Clash earlier heading := by
  induction texts generalizing s given with
  | nil => simp [issueAll]
  | cons text rest ih =>
      obtain ⟨hrest, hgiven⟩ := ih (h.issue text)
      simp only [List.forall_mem_append, List.forall_mem_singleton] at hgiven
      rw [issueAll, List.zip_cons_cons, List.pairwise_cons, List.forall_mem_cons]
      refine ⟨⟨fun heading hheading => (hgiven heading hheading).2, hrest⟩, ?_, ?_⟩
      · exact fun earlier hearlier => h.clash text hearlier
      · exact fun heading hheading => (hgiven heading hheading).1

theorem nodup_issueAll_iff (h : s.Accounts given) (texts : List String) :
    ((s.issueAll texts).Nodup ∧ ∀ slug ∈ s.issueAll texts, slug ∉ given.map (·.2)) ↔
      (texts.zip (s.issueAll texts)).Pairwise Apart ∧
        ∀ heading ∈ texts.zip (s.issueAll texts), ∀ earlier ∈ given, Apart earlier heading := by
  induction texts generalizing s given with
  | nil => simp [issueAll]
  | cons text rest ih =>
      have hfirst := h.new_iff text
      have hrest := ih (h.issue text)
      -- For the rest, the first heading is one more of those that have been given slugs.
      simp only [List.forall_mem_append, List.forall_mem_singleton] at hrest
      simp only [List.map_append, List.map_cons, List.map_nil, List.mem_append, not_or,
        List.mem_singleton] at hrest
      rw [issueAll, List.zip_cons_cons, List.nodup_cons, List.pairwise_cons, List.forall_mem_cons,
        List.forall_mem_cons]
      constructor
      · rintro ⟨⟨hnew, hnodup⟩, hfresh, hothers⟩
        obtain ⟨hapart, hgiven⟩ := hrest.1 ⟨hnodup, fun slug hslug =>
          ⟨hothers slug hslug, fun heq => hnew (heq ▸ hslug)⟩⟩
        refine ⟨⟨fun heading hheading => (hgiven heading hheading).2, hapart⟩,
          hfirst.1 hfresh, fun heading hheading => (hgiven heading hheading).1⟩
      · rintro ⟨⟨hlater, hapart⟩, hfresh, hgiven⟩
        obtain ⟨hnodup, hothers⟩ := hrest.2 ⟨hapart, fun heading hheading =>
          ⟨hgiven heading hheading, hlater heading hheading⟩⟩
        refine ⟨⟨fun hslug => (hothers _ hslug).2 rfl, hnodup⟩, hfirst.2 hfresh, ?_⟩
        exact fun slug hslug => (hothers slug hslug).1

end Slugger.Accounts

namespace Slugger

theorem own_or_numbered (s : Slugger) (texts : List String) :
    ∀ heading ∈ texts.zip (s.issueAll texts), heading.2 = slug heading.1 ∨
      ∃ n, 0 < n ∧ heading.2 = numbered (slug heading.1) n := by
  induction texts generalizing s with
  | nil => simp
  | cons text rest ih =>
      rw [issueAll, List.zip_cons_cons, List.forall_mem_cons]
      refine ⟨?_, ih _⟩
      rcases s.issue_cases text with ⟨-, heq⟩ | ⟨hcount, heq⟩
      · exact .inl (by rw [heq])
      · exact .inr ⟨_, hcount, by rw [heq]⟩

theorem length_issueAll (s : Slugger) (texts : List String) :
    (s.issueAll texts).length = texts.length := by
  induction texts generalizing s with
  | nil => rfl
  | cons text rest ih => rw [issueAll, List.length_cons, ih, List.length_cons]

end Slugger

/-- The slugs of a document's headings are different from each other exactly if no heading is given
a number that makes the own slug of an earlier heading. Two headings have the same slug in no other
way, so no three have. No two have if no heading's own slug is that of a later heading with a
number. -/
theorem slugs_nodup_iff (headings : List String) :
    ((slugs headings).Nodup ↔ (headings.zip (slugs headings)).Pairwise Apart) ∧
      (headings.zip (slugs headings)).Pairwise Clash ∧
      ((headings.Pairwise fun earlier later => ∀ n, 0 < n →
        slug earlier ≠ numbered (slug later) n) → (slugs headings).Nodup) := by
  have hiff : (slugs headings).Nodup ↔ (headings.zip (slugs headings)).Pairwise Apart := by
    simpa [slugs] using Slugger.accounts_nil.nodup_issueAll_iff headings
  refine ⟨hiff, (Slugger.accounts_nil.pairwise_clash headings).1, fun hunlike => hiff.2 ?_⟩
  have hlength : headings.length ≤ (slugs headings).length :=
    Nat.le_of_eq (Slugger.length_issueAll _ headings).symm
  rw [← List.map_fst_zip hlength, List.pairwise_map] at hunlike
  refine hunlike.imp_of_mem fun {earlier later} _ hlater hn => ?_
  rcases Slugger.own_or_numbered _ headings later hlater with hown | ⟨n, hpos, hnumbered⟩
  · exact .inl hown
  · exact .inr fun heq => hn n hpos (heq.symm.trans hnumbered)

/-- A heading that looks like a numbered one does no harm if it comes last. -/
theorem lookalike_comes_last :
    (["A", "A", "A 1"].Pairwise fun earlier later => ∀ n, 0 < n →
      slug earlier ≠ numbered (slug later) n) ∧ (slugs ["A", "A", "A 1"]).Nodup := by
  have hne (base : String) (n : Nat) : slug "A" ≠ numbered base n := by
    intro heq
    have hhyphen : '-' ∈ (numbered base n).toList := by simp [numbered]
    rw [← heq] at hhyphen
    exact absurd hhyphen (by decide +kernel)
  have hunlike : ["A", "A", "A 1"].Pairwise fun earlier later => ∀ n, 0 < n →
      slug earlier ≠ numbered (slug later) n := by
    simp [hne]
  exact ⟨hunlike, (slugs_nodup_iff _).2.2 hunlike⟩

/-- A heading that looks like a numbered one comes first, and another one is given its slug. -/
theorem lookalike_slug_given_twice :
    slugs ["A 1", "A", "A"] = ["a-1", "a", "a-1"] ∧ ¬(slugs ["A 1", "A", "A"]).Nodup := by
  decide +kernel

end Continuity.Link
