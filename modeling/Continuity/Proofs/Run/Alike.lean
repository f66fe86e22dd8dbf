import Continuity.Proofs.Run.Lifecycle

/-! # What a validator can tell apart

The others make no difference to a validator as long as each keeps to its own issues and to its own
entry, and reads only files for which it makes no difference when they are read. Then a run of all
validators and a run of it alone stay alike as far as it can tell.
-/

namespace Continuity.Run

/-- The same run with one validator alone. -/
def Setup.only (s : Setup) (v : Validator) : Setup := { s with validators := [v] }

/-- The hook reads only files for which it makes no difference when they are read. -/
def Hook.Spares {α : Type} (s : Setup) (hook : Hook α) : Prop :=
  hook.Obeys (fun
    | .load path => Document.Indifferent s.tree s.root (Path.resolve s.root path)
    | _ => True) fun _ => True

theorem Hook.NeverLoads.spares {α : Type} {s : Setup} {hook : Hook α} (h : hook.NeverLoads) :
    hook.Spares s :=
  h.mono (fun act hact => by cases act <;> trivial) fun _ _ => trivial

/-- A validator can be told apart from the others: all keep to themselves, and it does not depend on
the order in which the others read files. -/
structure Isolated (s : Setup) (v : Validator) : Prop where
  id : v.id ≠ Issue.engineId
  mem : v ∈ s.validators
  heeds : v.Each (Hook.Heeds v.id)
  discreet : ∀ w ∈ s.validators, w.Discreet
  spares : ∀ w ∈ s.validators, w.id ≠ v.id → w.Each (Hook.Spares s)

/-- As far as a validator can tell, two desks are alike. -/
structure Desk.Alike (s : Setup) (v : Validator) (d k : Desk) : Prop where
  issues : d.collector.issuesOf v.id = k.collector.issuesOf v.id
  signed : d.collector.Signed ∧ k.collector.Signed
  entry : d.shared.get? v.id = k.shared.get? v.id
  frozen : d.shared.frozen = k.shared.frozen
  genuine : d.cache.Genuine s.tree s.root
  cache : d.cache.Ahead s.tree s.root k.cache

namespace Desk.Alike

variable {s : Setup} {v w : Validator} {d d' k k' : Desk} {α : Type}

/-- Before anything is done, the desks are alike. -/
theorem start (s : Setup) (v : Validator) {early early' : Bool} :
    Alike s v { cancelRequested := early } { cancelRequested := early' } where
  issues := rfl
  signed := ⟨fun _ _ h => absurd h List.not_mem_nil, fun _ _ h => absurd h List.not_mem_nil⟩
  entry := rfl
  frozen := rfl
  genuine := fun _ _ h => absurd h List.not_mem_nil
  cache := .start

theorem of_core (h : Alike s v d k) (hd : d'.core = d.core) (hk : k'.core = k.core) :
    Alike s v d' k' := by
  have hc := collector_of_core hd
  have hc' := collector_of_core hk
  have hs := shared_of_core hd
  have hs' := shared_of_core hk
  have hm := cache_of_core hd
  have hm' := cache_of_core hk
  exact ⟨by rw [hc, hc', h.issues], by rw [hc, hc']; exact h.signed, by rw [hs, hs', h.entry],
    by rw [hs, hs', h.frozen], by rw [hm]; exact h.genuine, by rw [hm, hm']; exact h.cache⟩

/-- The validator has found issues in both runs. -/
theorem reportAll {issues : List Issue} (h : Alike s v d k)
    (hissues : ∀ i ∈ issues, i.validator = v.id) :
    Alike s v (d.reportAll v.id issues) (k.reportAll v.id issues) :=
  { h with
    issues := Collector.issuesOf_addAll_congr issues h.issues
    signed := ⟨h.signed.1.addAll hissues, h.signed.2.addAll hissues⟩ }

/-- Others have found issues in the first run. -/
theorem reportAll_left {name : String} {issues : List Issue} (h : Alike s v d k)
    (hname : name ≠ v.id) (hissues : ∀ i ∈ issues, i.validator = name) :
    Alike s v (d.reportAll name issues) k :=
  { h with
    issues := (Collector.issuesOf_addAll_other hname).trans h.issues
    signed := ⟨h.signed.1.addAll hissues, h.signed.2⟩ }

/-- Others have found issues in the second run. -/
theorem reportAll_right {name : String} {issues : List Issue} (h : Alike s v d k)
    (hname : name ≠ v.id) (hissues : ∀ i ∈ issues, i.validator = name) :
    Alike s v d (k.reportAll name issues) :=
  { h with
    issues := h.issues.trans (Collector.issuesOf_addAll_other hname).symm
    signed := ⟨h.signed.1, h.signed.2.addAll hissues⟩ }

theorem report {issue : Issue} (h : Alike s v d k) (hissue : issue.validator = v.id) :
    Alike s v (d.report v.id issue) (k.report v.id issue) :=
  h.reportAll (List.forall_mem_singleton.2 hissue)

theorem report_left {name : String} {issue : Issue} (h : Alike s v d k)
    (hname : name ≠ v.id) (hissue : issue.validator = name) :
    Alike s v (d.report name issue) k :=
  h.reportAll_left hname (List.forall_mem_singleton.2 hissue)

theorem report_right {name : String} {issue : Issue} (h : Alike s v d k)
    (hname : name ≠ v.id) (hissue : issue.validator = name) :
    Alike s v d (k.report name issue) :=
  h.reportAll_right hname (List.forall_mem_singleton.2 hissue)

/-- Both runs read the same. -/
theorem load (h : Alike s v d k) (path : Path) :
    (d.load s.tree s.root path).1 = (k.load s.tree s.root path).1 ∧
      Alike s v (d.load s.tree s.root path).2 (k.load s.tree s.root path).2 := by
  obtain ⟨hanswer, hcache⟩ := h.cache.load path
  exact ⟨hanswer, { h with genuine := (h.genuine.load path).1, cache := hcache }⟩

/-- The validator does the same in both runs. -/
theorem run (h : Alike s v d k) {hook : Hook α} (hprivate : hook.Private v.id)
    (hheeds : hook.Heeds v.id) :
    (hook.run (s.hostOf v) d).1 = (hook.run (s.hostOf v) k).1 ∧
      Alike s v (hook.run (s.hostOf v) d).2 (hook.run (s.hostOf v) k).2 := by
  -- The answers to the hook are the same in both runs, so that it goes on in the same way.
  induction hook generalizing d k with
  | done outcome => exact ⟨rfl, h⟩
  | report issue next ih => exact ih (h.report hprivate.1) hprivate.2 hheeds
  | emit event payload next ih => exact ih (h.of_core rfl rfl) hprivate.2 hheeds
  | cancel next ih => exact ih (h.of_core rfl rfl) hprivate.2 hheeds
  | look next ih =>
      have hnext := hheeds.1 d.shared k.shared h.entry h.frozen
      simp only [Hook.run, hnext]
      exact ih k.shared (h.of_core rfl rfl) (hprivate.2 _) (hheeds.2 _)
  | write key entry next ih => exact hprivate.1.elim
  | load path next ih =>
      obtain ⟨hanswer, hafter⟩ := h.load (Path.resolve s.root path)
      simp only [Hook.run, Setup.hostOf, hanswer]
      refine ih _ (hafter.of_core ?_ ?_) (hprivate.2 _) (hheeds _)
      · exact Desk.core_enterLoaded _ _
      · exact Desk.core_enterLoaded _ _

/-- Whatever another validator does in the first run, the desks stay alike. -/
theorem run_other (h : Alike s v d k) {hook : Hook α} (hne : w.id ≠ v.id)
    (hprivate : hook.Private w.id) (hspares : hook.Spares s) :
    Alike s v (hook.run (s.hostOf w) d).2 k := by
  apply (hprivate.and hspares).keeps (K := fun d => Alike s v d k) _ _ _ _ d h
  · exact fun d d' hcore hd => hd.of_core hcore rfl
  · exact fun issue d hmay hd => hd.report_left hne hmay.1
  · exact fun _ _ _ hmay _ => hmay.1.elim
  · intro path d hmay hd
    exact { hd with
      genuine := (hd.genuine.load _).1
      cache := hd.cache.load_left hmay.2 }

end Desk.Alike

/-- As far as a validator can tell, a run of all validators and a run of it alone have come to the
same. -/
structure Alike (s : Setup) (v : Validator) (p q : Progress) : Prop where
  everyone : p.validators = s.enabled
  alone : q.validators = s.enabled.filter (·.id == v.id)
  documents : p.documents = q.documents
  parts : Step.partsOf p v = Step.partsOf q v
  desk : p.desk.Alike s v q.desk

namespace Alike

variable {s : Setup} {v w : Validator} {p p' q q' : Progress} {α : Type}
  {turn : Except HookFault α → Turn} {hook : Hook α} {outcome outcome' : Except HookFault α}

theorem of_core (h : Alike s v p q) (hp : p'.core = p.core) (hq : q'.core = q.core) :
    Alike s v p' q' := by
  have hvalidators : p'.validators = p.validators := (congrArg Progress.validators hp :)
  have hvalidators' : q'.validators = q.validators := (congrArg Progress.validators hq :)
  have hdocuments : p'.documents = p.documents := (congrArg Progress.documents hp :)
  have hdocuments' : q'.documents = q.documents := (congrArg Progress.documents hq :)
  have hparts : p'.parts = p.parts := (congrArg Progress.parts hp :)
  have hparts' : q'.parts = q.parts := (congrArg Progress.parts hq :)
  exact
    { everyone := hvalidators.trans h.everyone
      alone := hvalidators'.trans h.alone
      documents := by rw [hdocuments, hdocuments', h.documents]
      parts := by rw [Step.partsOf, Step.partsOf, hparts, hparts']; exact h.parts
      desk := h.desk.of_core (congrArg Progress.desk hp :) (congrArg Progress.desk hq :) }

theorem ofCore_left : Progress.OfCore fun p => Alike s v p q :=
  fun _ _ hcore h => h.of_core hcore rfl

theorem ofCore_right : Progress.OfCore fun q => Alike s v p q :=
  fun _ _ hcore h => h.of_core rfl hcore

/-- Others have found issues in the first run. -/
theorem withIssues_left {name : String} {issues : List Issue} (h : Alike s v p q)
    (hname : name ≠ v.id) (hissues : ∀ i ∈ issues, i.validator = name) :
    Alike s v (p.withIssues name issues) q :=
  { h with desk := h.desk.reportAll_left hname hissues }

theorem withIssue_left {name : String} {issue : Issue} (h : Alike s v p q) (hname : name ≠ v.id)
    (hissue : issue.validator = name) : Alike s v (p.withIssue name issue) q :=
  { h with desk := h.desk.report_left hname hissue }

/-- The issue that a run is to be cancelled is no validator's. -/
theorem ask_left (hisolated : Isolated s v) (h : Alike s v p q) :
    Alike s v (p.ask s).2 q := by
  refine { h with desk := ?_ }
  unfold Progress.ask
  dsimp only
  split
  · exact h.desk.report_left hisolated.id.symm rfl
  · exact h.desk

theorem ask_right (hisolated : Isolated s v) (h : Alike s v p q) :
    Alike s v p (q.ask (s.only v)).2 := by
  refine { h with desk := ?_ }
  unfold Progress.ask
  dsimp only
  split
  · exact h.desk.report_right hisolated.id.symm rfl
  · exact h.desk

/-- The validator has the same turn in both runs. -/
theorem took (h : Alike s v p q) (hprivate : hook.Private v.id)
    (hheeds : hook.Heeds v.id) (hp : Took s v turn hook p outcome p')
    (hq : Took (s.only v) v turn hook q outcome' q') :
    outcome = outcome' ∧ Alike s v p' q' := by
  obtain ⟨d, hd, hrun⟩ := hp.ran
  obtain ⟨k, hk, hrun'⟩ := hq.ran
  obtain ⟨houtcome, hdesk⟩ := (h.desk.of_core hd hk).run hprivate hheeds
  have hleft : hook.run (s.hostOf v) k = (outcome', q'.desk) := hrun'
  rw [hrun, hleft] at houtcome hdesk
  refine ⟨houtcome, ?_, ?_, ?_, ?_, hdesk⟩
  · exact (Progress.Steady.of_took hp).validators.trans h.everyone
  · exact (Progress.Steady.of_took hq).validators.trans h.alone
  · rw [hp.documents_eq, hq.documents_eq, h.documents]
  · rw [Step.partsOf, Step.partsOf, hp.parts_eq, hq.parts_eq]
    exact h.parts

/-- The turn of another validator makes no difference. -/
theorem took_other (h : Alike s v p q) (hne : w.id ≠ v.id) (hprivate : hook.Private w.id)
    (hspares : hook.Spares s) (hp : Took s w turn hook p outcome p') :
    Alike s v p' q := by
  obtain ⟨d, hd, hrun⟩ := hp.ran
  have hdesk := (h.desk.of_core hd rfl).run_other hne hprivate hspares
  rw [hrun] at hdesk
  refine ⟨?_, h.alone, ?_, ?_, hdesk⟩
  · exact (Progress.Steady.of_took hp).validators.trans h.everyone
  · exact hp.documents_eq.trans h.documents
  · rw [Step.partsOf, hp.parts_eq]
    exact h.parts

/-- Both runs read the same from a file. -/
theorem read {path : Path} {result result' : Except Document.LoadFault Document}
    (h : Alike s v p q) (hp : Read s path p result p')
    (hq : Read (s.only v) path q result' q') : result = result' ∧ Alike s v p' q' := by
  have hload := h.desk.load path
  have hq' : q.desk.load s.tree s.root path = (result', q'.desk) := hq.loaded
  rw [hp.loaded, hq'] at hload
  refine ⟨hload.1, ?_, ?_, ?_, ?_, hload.2⟩
  · exact (Progress.Steady.of_read hp).validators.trans h.everyone
  · exact (Progress.Steady.of_read hq).validators.trans h.alone
  · rw [hp.documents_eq, hq.documents_eq, h.documents]
  · rw [Step.partsOf, Step.partsOf, hp.parts_eq, hq.parts_eq]
    exact h.parts

end Alike

end Continuity.Run
