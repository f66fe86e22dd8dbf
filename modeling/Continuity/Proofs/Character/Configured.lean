import Continuity.Proofs.Character.Ledger
import Continuity.Proofs.Character.Resolution

/-! # Names that the options declare

The declarations of the options come before those of the files, and the names that they declare
others for are protected. So what the options say about a name is all that counts for it, whatever
the files say. It also means that the options' declarations are not followed from one to the next.
-/

namespace Continuity.Character

open Relation (TransGen)

/-- The options declare other names for a name. -/
def Settings.Heads (settings : Settings) (name : String) : Prop :=
  ∃ pair ∈ settings.aliases, Text.fold pair.1 = Text.fold name

instance (settings : Settings) (name : String) : Decidable (settings.Heads name) :=
  inferInstanceAs (Decidable (∃ pair ∈ settings.aliases, _))

section Precedence

variable {pairs more : List (String × String)} {protectedKeys : List String}
  {canonical other name key : String}

/-- A declaration that counts still counts before further declarations. -/
theorem Counts.append (h : Counts pairs protectedKeys canonical other)
    (more : List (String × String)) : Counts (pairs ++ more) protectedKeys canonical other := by
  obtain ⟨hdeclares, earlier, later, rfl, hearlier⟩ := h
  exact ⟨hdeclares, earlier, later ++ more, by simp, hearlier⟩

theorem Counts.mem (h : Counts pairs protectedKeys canonical other) :
    (canonical, other) ∈ pairs := by
  obtain ⟨-, earlier, later, rfl, -⟩ := h
  simp

/-- Where a declaration says something of a name, one counts. -/
theorem exists_counts {pair : String × String} (hpair : pair ∈ pairs)
    (hdeclares : Declares protectedKeys key pair) :
    ∃ canonical other, Counts pairs protectedKeys canonical other ∧ Text.fold other = key := by
  cases hfound : AliasLink.find? (AliasLink.ofPairs pairs protectedKeys) key with
  | none =>
      rw [AliasLink.find?_ofPairs, Option.map_eq_none_iff, List.find?_eq_none] at hfound
      simpa [hdeclares] using hfound pair hpair
  | some link =>
      obtain ⟨-, hkey, hcounts⟩ := AliasLink.find?_ofPairs_eq_some_iff.1 hfound
      exact ⟨link.canonical, link.spelling, hcounts, hkey⟩

/-- A declaration that counts for a protected name decides whatever follows it. -/
theorem Counts.resolved_append (h : Counts pairs protectedKeys canonical other)
    (hprotected : Text.fold canonical ∈ protectedKeys) (hname : Text.fold name = Text.fold other)
    (more : List (String × String)) :
    resolved (pairs ++ more) protectedKeys name = canonical :=
  resolved_of_end (hname ▸ .refl) (h.append more) (not_leads_of_protected hprotected)

end Precedence

section Options

variable {settings : Settings} {name : String} {pair : String × String}

/-- The names that the options declare others for. -/
def Settings.protectedKeys (settings : Settings) : List String :=
  settings.aliases.map fun (name, _) => Text.fold name

theorem Settings.heads_iff : settings.Heads name ↔ Text.fold name ∈ settings.protectedKeys := by
  simp only [Settings.Heads, Settings.protectedKeys, List.mem_map]

/-- The state resolves names by the declarations of the options and, after them, of the files. -/
theorem canonical_ofNotes (settings : Settings) (notes : List FileNotes) (name : String) :
    (State.ofNotes settings notes).canonical name =
      resolved (settings.aliases ++ (State.sortNotes notes).flatMap State.aliasesOf)
        settings.protectedKeys name := by
  rw [State.canonical, (ledger_ofNotes settings notes).names_eq]
  rfl

/-- A name that the options declare others for stays as it is spelled. -/
theorem canonical_of_heads (h : settings.Heads name) (notes : List FileNotes) :
    (State.ofNotes settings notes).canonical name = name := by
  rw [canonical_ofNotes]
  exact resolved_of_not_leads (not_leads_of_protected (Settings.heads_iff.1 h))

theorem heads_of_mem (hpair : pair ∈ settings.aliases) : settings.Heads pair.1 :=
  ⟨pair, hpair, rfl⟩

/-- A name that the options declare as another one's, and declare no others for, resolves to the
name that counts for it in the options. -/
theorem exists_canonical_of_other (hpair : pair ∈ settings.aliases)
    (hname : Text.fold name = Text.fold pair.2) (hheads : ¬settings.Heads name) :
    ∃ canonical other, (canonical, other) ∈ settings.aliases ∧
      Text.fold other = Text.fold name ∧
      ∀ notes, (State.ofNotes settings notes).canonical name = canonical := by
  rw [Settings.heads_iff] at hheads
  have hself : Text.fold pair.1 ≠ Text.fold name := by
    intro heq
    exact hheads (Settings.heads_iff.1 ⟨pair, hpair, heq⟩)
  obtain ⟨canonical, other, hcounts, hother⟩ :=
    exists_counts hpair (⟨hname.symm, hself, hheads⟩ : Declares settings.protectedKeys _ pair)
  have hprotected : settings.Heads canonical := ⟨(canonical, other), hcounts.mem, rfl⟩
  refine ⟨canonical, other, hcounts.mem, hother, ?_⟩
  intro notes
  rw [canonical_ofNotes]
  exact hcounts.resolved_append (Settings.heads_iff.1 hprotected) hother.symm _

/-- A name in the options resolves alike for all files. -/
theorem canonical_congr (hpair : pair ∈ settings.aliases)
    (hname : Text.fold name = Text.fold pair.1 ∨ Text.fold name = Text.fold pair.2)
    (notes notes' : List FileNotes) :
    (State.ofNotes settings notes).canonical name =
      (State.ofNotes settings notes').canonical name := by
  by_cases hheads : settings.Heads name
  · rw [canonical_of_heads hheads, canonical_of_heads hheads]
  · rcases hname with hname | hname
    · exact absurd ⟨pair, hpair, hname.symm⟩ hheads
    · obtain ⟨canonical, -, -, -, hcanonical⟩ := exists_canonical_of_other hpair hname hheads
      rw [hcanonical, hcanonical]

end Options

/-- Whatever the files declare, in whatever order and case: the names that the options declare
resolve alike, those that they declare others for to themselves, and the other ones to a name that
the options declare them for. -/
theorem options_before_text (settings : Settings) (notes notes' : List FileNotes) :
    (∀ pair ∈ settings.aliases, ∀ name,
      Text.fold name = Text.fold pair.1 ∨ Text.fold name = Text.fold pair.2 →
      (State.ofNotes settings notes).canonical name =
        (State.ofNotes settings notes').canonical name) ∧
    (∀ pair ∈ settings.aliases,
      (State.ofNotes settings notes).canonical pair.1 = pair.1 ∧
        (State.ofNotes settings notes').canonical pair.1 = pair.1) ∧
    ∀ pair ∈ settings.aliases, ¬settings.Heads pair.2 →
      ∃ canonical other, (canonical, other) ∈ settings.aliases ∧
        Text.fold other = Text.fold pair.2 ∧
        (State.ofNotes settings notes).canonical pair.2 = canonical := by
  refine ⟨fun _ hpair _ hname => canonical_congr hpair hname notes notes', ?_, ?_⟩
  · intro pair hpair
    have hheads := heads_of_mem hpair
    exact ⟨canonical_of_heads hheads notes, canonical_of_heads hheads notes'⟩
  · intro pair hpair hheads
    obtain ⟨canonical, other, hmem, hother, hcanonical⟩ :=
      exists_canonical_of_other hpair rfl hheads
    exact ⟨canonical, other, hmem, hother, hcanonical notes⟩

/-- Robert is no other name for Bob, because the options declare others for it, and Rob is one of
these; the text can change neither. -/
theorem robert_before_text :
    let settings : Settings := { aliases := [("Robert", "Rob"), ("Bob", "Robert")] }
    let notes : FileNotes :=
      { path := "a.md", aliases := [⟨"Bob", "ROB", none⟩, ⟨"Rob", "robert", none⟩] }
    ("Robert", "Rob") ∈ settings.aliases ∧
      (State.ofNotes settings [notes]).canonical "rob" =
        (State.ofNotes settings []).canonical "rob" ∧
      (State.ofNotes settings [notes]).canonical "Robert" = "Robert" := by
  intro settings notes
  have hpair : ("Robert", "Rob") ∈ settings.aliases := List.mem_cons_self
  have hbefore := options_before_text settings [notes] []
  exact ⟨hpair, hbefore.1 _ hpair "rob" (.inr (by decide +kernel)), (hbefore.2.1 _ hpair).1⟩

/-- Where the options declare each other name once, it resolves to the name that they declare it
for, unless they declare others for it as well: then it resolves to itself. -/
theorem configured_aliases_resolve (settings : Settings) (notes : List FileNotes)
    (hunique : (settings.aliases.map fun pair => Text.fold pair.2).Nodup) :
    ∀ pair ∈ settings.aliases,
      (¬settings.Heads pair.2 →
        (State.ofNotes settings notes).canonical pair.2 = pair.1 ∧
          (State.ofNotes settings notes).canonical pair.2 =
            (State.ofNotes settings notes).canonical pair.1) ∧
      (settings.Heads pair.2 → (State.ofNotes settings notes).canonical pair.2 = pair.2) := by
  intro pair hpair
  refine ⟨?_, fun hheads => canonical_of_heads hheads notes⟩
  intro hheads
  obtain ⟨canonical, other, hmem, hother, hcanonical⟩ :=
    exists_canonical_of_other hpair rfl hheads
  obtain rfl : (canonical, other) = pair :=
    List.inj_on_of_nodup_map hunique hmem hpair hother
  rw [hcanonical, canonical_of_heads (heads_of_mem hpair)]
  exact ⟨rfl, rfl⟩

/-- Liz has Lizzie as another name, but Lizzie and Liz are not merged with Elizabeth. -/
theorem lizzie_resolves :
    let settings : Settings := { aliases := [("Elizabeth", "Liz"), ("Liz", "Lizzie")] }
    (settings.aliases.map fun pair => Text.fold pair.2).Nodup ∧
      ¬settings.Heads "Lizzie" ∧ settings.Heads "Liz" ∧
      (State.ofNotes settings []).canonical "Lizzie" = "Liz" ∧
      (State.ofNotes settings []).canonical "Liz" = "Liz" := by
  intro settings
  have hunique : (settings.aliases.map fun pair => Text.fold pair.2).Nodup := by decide +kernel
  have hlizzie : ¬settings.Heads "Lizzie" := by decide +kernel
  have hliz : settings.Heads "Liz" := by decide +kernel
  have hresolve := configured_aliases_resolve settings [] hunique
  exact ⟨hunique, hlizzie, hliz,
    ((hresolve ("Liz", "Lizzie") (.tail _ List.mem_cons_self)).1 hlizzie).1,
    (hresolve ("Elizabeth", "Liz") List.mem_cons_self).2 hliz⟩

/-- The options declare an other name, apart from case, for a name. -/
def Settings.Declared (settings : Settings) (key key' : String) : Prop :=
  ∃ pair ∈ settings.aliases, Text.fold pair.2 = key ∧ Text.fold pair.1 = key'

/-- Declarations of the options are not followed from one to the next, though each other name is
declared once and there is no circle: Elizabeth is not the Liz who is also called Lizzie. -/
theorem configured_chain_not_followed :
    let settings : Settings := { aliases := [("Elizabeth", "Liz"), ("Liz", "Lizzie")] }
    (settings.aliases.map fun pair => Text.fold pair.2).Nodup ∧
      (∀ key, ¬TransGen settings.Declared key key) ∧
      ("Elizabeth", "Liz") ∈ settings.aliases ∧
      (State.ofNotes settings []).canonical "Liz" ≠
        (State.ofNotes settings []).canonical "Elizabeth" := by
  intro settings
  refine ⟨by decide +kernel, ?_, List.mem_cons_self, by decide +kernel⟩
  -- Each declaration leads to a name that comes before in the order of texts.
  have hstep : ∀ pair ∈ settings.aliases, Text.fold pair.1 < Text.fold pair.2 := by decide +kernel
  have hway {key key' : String} (h : TransGen settings.Declared key key') : key' < key := by
    induction h with
    | single h =>
        obtain ⟨pair, hpair, rfl, rfl⟩ := h
        exact hstep pair hpair
    | tail _ h ih =>
        obtain ⟨pair, hpair, rfl, rfl⟩ := h
        exact (hstep pair hpair).trans ih
  intro key hcircle
  exact lt_irrefl key (hway hcircle)

end Continuity.Character
