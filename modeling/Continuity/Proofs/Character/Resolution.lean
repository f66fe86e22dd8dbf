import Continuity.Proofs.Character.Alias

/-! # The resolution of names

Other names resolve to the name at the end of their way, or to the smallest one on the circle into
which they lead. Either way the names of one declaration resolve alike, and what a name resolves to
resolves to itself.
-/

namespace Continuity.Character

open Relation (ReflTransGen TransGen)

/-! ## The resolution of names -/

section Resolved

open AliasLink (find? ofPairs leads_rightUnique find?_ofPairs_eq_some_iff
  find?_ofPairs_eq_none_iff key_of_find?)

variable {pairs : List (String × String)} {protectedKeys : List String}
  {name canonical other key key' : String}

/-- A name that is no other name resolves to itself. -/
theorem resolved_of_not_leads (h : ∀ key, ¬Leads pairs protectedKeys (Text.fold name) key) :
    resolved pairs protectedKeys name = name := by
  rw [resolved, AliasLink.lookup_resolveAliases, find?_ofPairs_eq_none_iff.2 h]
  rfl

/-- A name is no other name, or it resolves to the name at the end of its way, or to the smallest
other name on the circle into which it leads. -/
theorem resolved_cases (pairs : List (String × String)) (protectedKeys : List String)
    (name : String) :
    (∀ key, ¬Leads pairs protectedKeys (Text.fold name) key) ∨
    (∃ canonical last, ReflTransGen (Leads pairs protectedKeys) (Text.fold name) (Text.fold last) ∧
      Counts pairs protectedKeys canonical last ∧
      (∀ key, ¬Leads pairs protectedKeys (Text.fold canonical) key) ∧
      resolved pairs protectedKeys name = canonical) ∨
    ∃ key, ReflTransGen (Leads pairs protectedKeys) (Text.fold name) key ∧
      TransGen (Leads pairs protectedKeys) key key ∧
      IsLeast (circleOf pairs protectedKeys (Text.fold name))
        (resolved pairs protectedKeys name) := by
  cases hfound : find? (ofPairs pairs protectedKeys) (Text.fold name) with
  | none => exact .inl (find?_ofPairs_eq_none_iff.1 hfound)
  | some link =>
      right
      have hkey := key_of_find? hfound
      have hresolved : resolved pairs protectedKeys name =
          AliasLink.resolve (ofPairs pairs protectedKeys) link := by
        rw [resolved, AliasLink.lookup_resolveAliases, hfound]
        rfl
      rw [hresolved]
      rw [← hkey] at hfound ⊢
      refine (AliasLink.resolve_cases hfound).imp_left ?_
      rintro ⟨last, hlast, hreaches, hend, hresolve⟩
      obtain ⟨-, hspelling, hcounts⟩ := find?_ofPairs_eq_some_iff.1 hlast
      exact ⟨last.canonical, last.spelling, hspelling ▸ hreaches, hcounts,
        find?_ofPairs_eq_none_iff.1 hend, hresolve⟩

theorem Counts.find?_eq (h : Counts pairs protectedKeys canonical other) :
    find? (ofPairs pairs protectedKeys) (Text.fold other) =
      some ⟨Text.fold other, other, canonical⟩ :=
  find?_ofPairs_eq_some_iff.2 ⟨rfl, rfl, h⟩

theorem Counts.leads (h : Counts pairs protectedKeys canonical other) :
    Leads pairs protectedKeys (Text.fold other) (Text.fold canonical) :=
  ⟨canonical, other, h, rfl, rfl⟩

/-- What leads somewhere leads into the same circle as that. -/
theorem circleOf_eq (h : ReflTransGen (Leads pairs protectedKeys) key key') :
    circleOf pairs protectedKeys key = circleOf pairs protectedKeys key' := by
  ext other
  constructor
  · rintro ⟨hother, hcircle, hcounts⟩
    exact ⟨reaches_circle leads_rightUnique hcircle hother h, hcircle, hcounts⟩
  · rintro ⟨hother, hcircle, hcounts⟩
    exact ⟨h.trans hother, hcircle, hcounts⟩

/-- A name that leads into a circle resolves to the smallest other name there. -/
theorem resolved_of_circle
    (hreaches : ReflTransGen (Leads pairs protectedKeys) (Text.fold name) key)
    (hcircle : TransGen (Leads pairs protectedKeys) key key) :
    IsLeast (circleOf pairs protectedKeys (Text.fold name))
      (resolved pairs protectedKeys name) := by
  rcases resolved_cases pairs protectedKeys name with hnone | ⟨canonical, last, hlast, hcounts,
    hend, -⟩ | ⟨-, -, -, hleast⟩
  · obtain ⟨next, hnext⟩ := exists_next leads_rightUnique hcircle hreaches .refl
    exact absurd hnext (hnone next)
  · obtain ⟨next, hnext⟩ :=
      exists_next leads_rightUnique hcircle hreaches (hlast.tail hcounts.leads)
    exact absurd hnext (hend next)
  · exact hleast

theorem Counts.unique {canonical' other' : String}
    (h : Counts pairs protectedKeys canonical other)
    (h' : Counts pairs protectedKeys canonical' other') (hkey : Text.fold other = Text.fold other') :
    canonical = canonical' := by
  have hlink := h.find?_eq
  rw [hkey, h'.find?_eq] at hlink
  exact (congrArg AliasLink.canonical (Option.some.inj hlink)).symm

/-- Of two declarations on one way, the last one leads on to no other. -/
theorem Counts.eq_of_end {canonical' other' : String}
    (h : Counts pairs protectedKeys canonical other)
    (h' : Counts pairs protectedKeys canonical' other')
    (hend : ∀ key, ¬Leads pairs protectedKeys (Text.fold canonical) key)
    (hreaches : ReflTransGen (Leads pairs protectedKeys) (Text.fold other) (Text.fold other')) :
    canonical = canonical' := by
  rcases hreaches.cases_head with hkey | ⟨next, hnext, hrest⟩
  · exact h.unique h' hkey
  · obtain rfl := leads_rightUnique h.leads hnext
    rcases hrest.cases_head with hkey | ⟨next, hnext, -⟩
    · exact absurd (hkey ▸ h'.leads) (hend _)
    · exact absurd hnext (hend next)

/-- A way leads to one end only. -/
theorem resolved_of_end {last : String}
    (hreaches : ReflTransGen (Leads pairs protectedKeys) (Text.fold name) (Text.fold last))
    (hcounts : Counts pairs protectedKeys canonical last)
    (hend : ∀ key, ¬Leads pairs protectedKeys (Text.fold canonical) key) :
    resolved pairs protectedKeys name = canonical := by
  rcases resolved_cases pairs protectedKeys name with hnone | ⟨canonical', last', hlast, hcounts',
    hend', hresolved⟩ | ⟨key, hkey, hcircle, -⟩
  · rcases hreaches.cases_head with heq | ⟨next, hnext, -⟩
    · exact absurd (heq ▸ hcounts.leads) (hnone _)
    · exact absurd hnext (hnone _)
  · rw [hresolved]
    rcases ReflTransGen.total_of_right_unique leads_rightUnique hlast hreaches with h | h
    · exact hcounts'.eq_of_end hcounts hend' h
    · exact (hcounts.eq_of_end hcounts' hend h).symm
  · obtain ⟨next, hnext⟩ :=
      exists_next leads_rightUnique hcircle hkey (hreaches.tail hcounts.leads)
    exact absurd hnext (hend next)

/-- The name that a declaration gives and the one that it belongs to resolve alike. -/
theorem Counts.resolved_eq (h : Counts pairs protectedKeys canonical other) :
    resolved pairs protectedKeys other = resolved pairs protectedKeys canonical := by
  have hleads := ReflTransGen.single h.leads
  rcases resolved_cases pairs protectedKeys canonical with hnone | ⟨last, other', hlast, hcounts,
    hend, hresolved⟩ | ⟨key, hkey, hcircle, hleast⟩
  · rw [resolved_of_end .refl h hnone, resolved_of_not_leads hnone]
  · rw [hresolved, resolved_of_end (hleads.trans hlast) hcounts hend]
  · have hother := resolved_of_circle (hleads.trans hkey) hcircle
    rw [circleOf_eq hleads] at hother
    exact hother.unique hleast

/-- What a name resolves to resolves to itself. -/
theorem resolved_resolved (pairs : List (String × String)) (protectedKeys : List String)
    (name : String) :
    resolved pairs protectedKeys (resolved pairs protectedKeys name) =
      resolved pairs protectedKeys name := by
  rcases resolved_cases pairs protectedKeys name with hnone | ⟨canonical, last, -, -, hend,
    hresolved⟩ | ⟨key, -, -, hleast⟩
  · rw [resolved_of_not_leads hnone, resolved_of_not_leads hnone]
  · rw [hresolved, resolved_of_not_leads hend]
  · obtain ⟨⟨hreaches, hcircle, -⟩, -⟩ := id hleast
    have hagain := resolved_of_circle .refl hcircle
    rw [← circleOf_eq hreaches] at hagain
    exact hagain.unique hleast

/-- Names that lead into one circle resolve alike. -/
theorem resolved_eq_of_circle {name' : String}
    (hreaches : ReflTransGen (Leads pairs protectedKeys) (Text.fold name) key)
    (hreaches' : ReflTransGen (Leads pairs protectedKeys) (Text.fold name') key)
    (hcircle : TransGen (Leads pairs protectedKeys) key key) :
    resolved pairs protectedKeys name = resolved pairs protectedKeys name' := by
  have hleast := resolved_of_circle hreaches hcircle
  rw [circleOf_eq hreaches, ← circleOf_eq hreaches'] at hleast
  exact hleast.unique (resolved_of_circle hreaches' hcircle)

/-- A protected name is no other name. -/
theorem not_leads_of_protected (h : key ∈ protectedKeys) (key' : String) :
    ¬Leads pairs protectedKeys key key' := by
  rintro ⟨canonical, other, hcounts, rfl, -⟩
  exact hcounts.1.2.2 h

/-- A protected name is never looked up. -/
theorem lookup_protected (h : key ∈ protectedKeys) :
    (resolveAliases pairs protectedKeys).lookup key = none := by
  rw [AliasLink.lookup_resolveAliases, find?_ofPairs_eq_none_iff.2 (not_leads_of_protected h)]
  rfl

end Resolved

/-- What makes a function the resolution of declarations. -/
structure Resolves (pairs : List (String × String)) (protectedKeys : List String)
    (f : String → String) : Prop where
  idempotent : ∀ name, f (f name) = f name
  /-- The names of a declaration resolve alike. -/
  agrees : ∀ canonical other, Counts pairs protectedKeys canonical other → f other = f canonical
  /-- Other names only are resolved. -/
  keeps : ∀ name, (∀ key, ¬Leads pairs protectedKeys (Text.fold name) key) → f name = name
  protects : ∀ name, Text.fold name ∈ protectedKeys → f name = name
  /-- A way that comes to an end resolves to the name there, as the last declaration spells it. -/
  ends : ∀ name canonical last,
    ReflTransGen (Leads pairs protectedKeys) (Text.fold name) (Text.fold last) →
    Counts pairs protectedKeys canonical last →
    (∀ key, ¬Leads pairs protectedKeys (Text.fold canonical) key) → f name = canonical
  /-- A way into a circle resolves to the smallest other name there. -/
  circles : ∀ name key, ReflTransGen (Leads pairs protectedKeys) (Text.fold name) key →
    TransGen (Leads pairs protectedKeys) key key →
    IsLeast (circleOf pairs protectedKeys (Text.fold name)) (f name)
  /-- All ways into one circle resolve alike. -/
  gathers : ∀ name name' key, ReflTransGen (Leads pairs protectedKeys) (Text.fold name) key →
    ReflTransGen (Leads pairs protectedKeys) (Text.fold name') key →
    TransGen (Leads pairs protectedKeys) key key → f name = f name'

theorem resolves_resolved (pairs : List (String × String)) (protectedKeys : List String) :
    Resolves pairs protectedKeys (resolved pairs protectedKeys) where
  idempotent := resolved_resolved pairs protectedKeys
  agrees _ _ h := h.resolved_eq
  keeps _ h := resolved_of_not_leads h
  protects _ h := resolved_of_not_leads (not_leads_of_protected h)
  ends _ _ _ hreaches hcounts hend := resolved_of_end hreaches hcounts hend
  circles _ _ hreaches hcircle := resolved_of_circle hreaches hcircle
  gathers _ _ _ hreaches hreaches' hcircle := resolved_eq_of_circle hreaches hreaches' hcircle

/-- Following declarations ends within as many steps as there are declarations: at a name that is no
other name or at one that was met before, and there is no third way to go on. Protected names
are never other names, and the resolution is what the declarations say. -/
theorem resolveAliases_canonicalises (pairs : List (String × String))
    (protectedKeys : List String) :
    (∀ start fuel, (AliasLink.ofPairs pairs protectedKeys).length < fuel →
      ∃ walked stop, AliasLink.chain (AliasLink.ofPairs pairs protectedKeys) fuel [] start =
          (walked, stop) ∧
        AliasLink.Halted (AliasLink.ofPairs pairs protectedKeys) walked stop ∧
        AliasLink.chain (AliasLink.ofPairs pairs protectedKeys)
          ((AliasLink.ofPairs pairs protectedKeys).length + 1) [] start = (walked, stop)) ∧
    (∀ name, (∀ key, ¬Leads pairs protectedKeys (Text.fold name) key) ∨
      (∃ canonical last,
        ReflTransGen (Leads pairs protectedKeys) (Text.fold name) (Text.fold last) ∧
        Counts pairs protectedKeys canonical last ∧
        ∀ key, ¬Leads pairs protectedKeys (Text.fold canonical) key) ∨
      ∃ key, ReflTransGen (Leads pairs protectedKeys) (Text.fold name) key ∧
        TransGen (Leads pairs protectedKeys) key key) ∧
    (∀ key ∈ protectedKeys, (resolveAliases pairs protectedKeys).lookup key = none) ∧
    Resolves pairs protectedKeys (resolved pairs protectedKeys) := by
  refine ⟨?_, ?_, fun key hkey => lookup_protected hkey, resolves_resolved pairs protectedKeys⟩
  · intro start fuel hfuel
    exact ⟨_, _, rfl, AliasLink.halted_chain hfuel rfl, (AliasLink.chain_eq_of_lt hfuel start).symm⟩
  · intro name
    rcases resolved_cases pairs protectedKeys name with hnone | ⟨canonical, last, hlast, hcounts,
      hend, -⟩ | ⟨key, hkey, hcircle, -⟩
    · exact .inl hnone
    · exact .inr (.inl ⟨canonical, last, hlast, hcounts, hend⟩)
    · exact .inr (.inr ⟨key, hkey, hcircle⟩)

/-- Robbie leads into the circle of Bob and Robert, and goes by the smaller of these names. -/
theorem circle_with_tail_resolves :
    let pairs := [("Bob", "Robert"), ("Robert", "Bob"), ("Robert", "Robbie")]
    Counts pairs [] "Robert" "Robbie" ∧ TransGen (Leads pairs []) "robert" "robert" ∧
      resolved pairs [] "Robbie" = resolved pairs [] "Robert" ∧
      IsLeast (circleOf pairs [] (Text.fold "Robbie")) "Bob" := by
  intro pairs
  have hrobert : Counts pairs [] "Bob" "Robert" :=
    ⟨by decide +kernel, [], [("Robert", "Bob"), ("Robert", "Robbie")], rfl, by decide +kernel⟩
  have hbob : Counts pairs [] "Robert" "Bob" :=
    ⟨by decide +kernel, [("Bob", "Robert")], [("Robert", "Robbie")], rfl, by decide +kernel⟩
  have hrobbie : Counts pairs [] "Robert" "Robbie" :=
    ⟨by decide +kernel, [("Bob", "Robert"), ("Robert", "Bob")], [], rfl, by decide +kernel⟩
  have hcircle : TransGen (Leads pairs []) (Text.fold "Robert") (Text.fold "Robert") :=
    .tail (.single hrobert.leads) hbob.leads
  have hresolves := (resolveAliases_canonicalises pairs []).2.2.2
  have hleast := hresolves.circles "Robbie" _ (.single hrobbie.leads) hcircle
  have hname : resolved pairs [] "Robbie" = "Bob" := by decide +kernel
  rw [hname] at hleast
  exact ⟨hrobbie, hcircle, hresolves.agrees "Robert" "Robbie" hrobbie, hleast⟩

end Continuity.Character
