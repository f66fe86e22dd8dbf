import Continuity.Proofs.Data.Lists
import Continuity.Proofs.Report.Account
import Continuity.Proofs.Run.Lifecycle

/-! # Runs that are cancelled

A run learns that it is to be cancelled when it asks. From then on it does nothing but ask again,
until validators are made to finish; and its report has all that was handed in before, and one issue
more that tells of the cancellation. Whoever asks for it, and when, makes no difference.
-/

namespace Continuity.Run

/-! ## What has been handed in -/

namespace Desk

/-- The collector has got what was handed in, and nothing else. -/
def Balanced (d : Desk) : Prop := d.collector = Collector.addEach {} d.submitted

variable {d d' : Desk} {validator : String}

theorem Balanced.of_core (h : d.Balanced) (hcore : d'.core = d.core) : d'.Balanced := by
  rw [Balanced, collector_of_core hcore, submitted_of_core hcore]
  exact h

theorem Balanced.reportAll (h : d.Balanced) (issues : List Issue) :
    (d.reportAll validator issues).Balanced := by
  show d.collector.addAll validator issues = _
  rw [Desk.reportAll, Collector.addEach_append, ← h, Collector.addAll_eq_addEach]

theorem Balanced.report (h : d.Balanced) (issue : Issue) : (d.report validator issue).Balanced :=
  h.reportAll [issue]

end Desk

namespace Hook

variable {α : Type} (hook : Hook α) (host : Host) (d : Desk)

theorem run_balanced (hd : d.Balanced) : (hook.run host d).2.Balanced := by
  apply (Obeys.true hook).keeps _ _ _ _ d hd
  · exact fun _ _ hcore h => h.of_core hcore
  · exact fun _ _ _ h => h.report _
  · intro key entry d' _ h
    unfold Desk.write
    split <;> exact h
  · exact fun _ _ _ h => h

/-- Whatever a hook hands in, it hands in for its validator. -/
theorem run_submitted : ∃ more : List Issue,
    (hook.run host d).2.submitted = d.submitted ++ more.map (host.validator, ·) := by
  apply (Obeys.true hook).keeps (K := fun d' => ∃ more : List Issue,
    d'.submitted = d.submitted ++ more.map (host.validator, ·))
  · rintro d₁ d₂ hcore ⟨more, h⟩
    exact ⟨more, (Desk.submitted_of_core hcore).trans h⟩
  · rintro issue d' - ⟨more, h⟩
    refine ⟨more ++ [issue], ?_⟩
    rw [Desk.report, h, List.map_append, List.append_assoc]
    rfl
  · intro key entry d' _ h
    unfold Desk.write
    split <;> exact h
  · exact fun _ _ _ h => h
  · exact ⟨[], (List.append_nil _).symm⟩

end Hook

/-- The issues that a turn of a validator brings with it, apart from those that its hook hands in
while it runs. -/
def Turn.issues (v : String) : Turn → List Issue
  | .validate _ (.ok issues) | .validateProject _ (.ok issues) => issues
  | .extract d (.error fault) => [Validator.failureIssue { id := v } (.extract d.name) fault]
  | .merge parts (.error fault) => [Validator.failureIssue { id := v } (.merge parts) fault]
  | .validate d (.error fault) => [Validator.failureIssue { id := v } (.validate d.name) fault]
  | .validateProject ds (.error fault) =>
    [Validator.failureIssue { id := v } (.validateProject (ds.map (·.name))) fault]
  | .extract _ (.ok _) | .merge _ (.ok _) | .start _ | .finish _ => []

/-- The issues that something done brings with it, apart from those that a hook hands in while it
runs. -/
def Deed.issues (s : Setup) : Deed → List (String × Issue)
  | .asked _ => []
  | .read _ (.ok d) => d.issues.map (Issue.engineId, ·)
  | .read path (.error fault) =>
    (fault.issue? (path.within s.root)).toList.map (Issue.engineId, ·)
  | .turn v _ t => (t.issues v).map (v, ·)

/-- The run itself tells of its cancellation. -/
def IsCancellation (entry : String × Issue) : Prop :=
  entry.1 = Issue.engineId ∧ entry.2.code = "cancelled"

/-! ## Before and after the request is noticed -/

/-- A run has not been told that it is to be cancelled. All that its deeds have brought has been
handed in, and the collector has got it. -/
structure Running (s : Setup) (p : Progress) : Prop where
  validators : p.validators = s.enabled
  started : ∀ v ∈ p.started, v ∈ s.enabled
  genuine : p.desk.cache.Genuine s.tree s.root
  balanced : p.desk.Balanced
  cancelled : p.cancelled = false
  unasked : .asked true ∉ p.deeds
  brought : (p.deeds.flatMap (Deed.issues s)).Sublist p.desk.submitted
  unnoticed : ∀ entry ∈ p.desk.submitted, ¬IsCancellation entry

/-- A run has been told that it is to be cancelled, after the deeds `before`, when the issues
`submitted` had been handed in. Since then it has only asked again. -/
structure Halting (s : Setup) (before : List Deed) (submitted : List (String × Issue))
    (p : Progress) : Prop where
  started : ∀ v ∈ p.started, v ∈ s.enabled
  balanced : p.desk.Balanced
  cancelled : p.cancelled = true
  deeds : ∃ again, p.deeds = before ++ .asked true :: List.replicate again (.asked true)
  unasked : .asked true ∉ before
  handedIn : p.desk.submitted = submitted ++ [(Issue.engineId, cancellation)]
  brought : (before.flatMap (Deed.issues s)).Sublist submitted
  unnoticed : ∀ entry ∈ submitted, ¬IsCancellation entry

/-- A run has been told that it is to be cancelled, and has only asked again since. -/
def Stopped (s : Setup) (p : Progress) : Prop :=
  ∃ before submitted, Halting s before submitted p

namespace Running

variable {s : Setup} {p q : Progress}

theorem ofCore : Progress.OfCore (Running s) := by
  refine .intro fun p => ⟨fun h => ?_, fun h => ?_⟩
  all_goals exact ⟨h.validators, h.started, h.genuine, h.balanced.of_core rfl, h.cancelled,
    h.unasked, h.brought, h.unnoticed⟩

/-- One more deed, with the issues that it has brought among those that were handed in. -/
theorem snoc {deed : Deed} (h : Running s p) (entries : List (String × Issue))
    (hsteady : p.Steady q) (hdeeds : q.deeds = p.deeds ++ [deed]) (hasked : deed ≠ .asked true)
    (hgenuine : q.desk.cache.Genuine s.tree s.root) (hbalanced : q.desk.Balanced)
    (hsubmitted : q.desk.submitted = p.desk.submitted ++ entries)
    (hissues : (deed.issues s).Sublist entries)
    (hunnoticed : ∀ entry ∈ entries, ¬IsCancellation entry) : Running s q where
  validators := hsteady.validators.trans h.validators
  started := hsteady.started ▸ h.started
  genuine := hgenuine
  balanced := hbalanced
  cancelled := hsteady.cancelled.trans h.cancelled
  unasked := by
    rw [hdeeds, List.mem_append, List.mem_singleton]
    exact fun hmem => hmem.elim h.unasked fun heq => hasked heq.symm
  brought := by
    rw [hdeeds, hsubmitted, List.flatMap_append, List.flatMap_singleton]
    exact h.brought.append hissues
  unnoticed := by
    rw [hsubmitted]
    exact fun entry hentry => (List.mem_append.1 hentry).elim (h.unnoticed entry)
      (hunnoticed entry)

section Turns

variable {α : Type} {v : Validator} {turn : Except HookFault α → Turn} {hook : Hook α}
  {outcome : Except HookFault α}

/-- A validator's turn has brought issues of its own. -/
theorem took_withIssues {issues : List Issue} (h : Running s p)
    (htook : Took s v turn hook p outcome q) (hv : v.id ≠ Issue.engineId)
    (hissues : (turn outcome).issues v.id = issues) :
    Running s (q.withIssues v.id issues) := by
  obtain ⟨d, hd, hrun⟩ := htook.ran
  obtain ⟨more, hmore⟩ := hook.run_submitted (s.hostOf v) d
  have hbalanced := hook.run_balanced (s.hostOf v) d (h.balanced.of_core hd)
  rw [hrun, Desk.submitted_of_core hd] at hmore
  rw [hrun] at hbalanced
  refine h.snoc (q := q.withIssues v.id issues) ((more ++ issues).map (v.id, ·))
    { Progress.Steady.of_took htook with } htook.deeds_eq nofun (htook.genuine h.genuine)
    (hbalanced.reportAll _) ?_ ?_ ?_
  · show q.desk.submitted ++ issues.map (v.id, ·) = _
    rw [hmore, List.map_append, List.append_assoc]
    rfl
  · rw [Deed.issues, hissues, List.map_append]
    exact List.sublist_append_right _ _
  · intro entry hentry hcancels
    obtain ⟨issue, -, rfl⟩ := List.mem_map.1 hentry
    exact hv hcancels.1

theorem took (h : Running s p) (htook : Took s v turn hook p outcome q)
    (hv : v.id ≠ Issue.engineId)
    (hissues : (turn outcome).issues v.id = []) : Running s q := by
  have hq := h.took_withIssues htook hv hissues
  have hsame : q.withIssues v.id [] = q := by
    rw [Progress.withIssues, Desk.reportAll, List.map_nil, List.append_nil]
    rfl
  rwa [hsame] at hq

end Turns

/-- A file has been read, with what is wrong with it. -/
theorem read {path : Path} {result : Except Document.LoadFault Document} {q' : Progress}
    (h : Running s p) (hread : Read s path p result q) (issues : List Issue)
    (hsteady : q.Steady q') (hdeeds : q'.deeds = q.deeds)
    (hdesk : q'.desk = q.desk.reportAll Issue.engineId issues)
    (hissues : (Deed.read path result).issues s = issues.map (Issue.engineId, ·))
    (hcode : ∀ issue ∈ issues, issue.code ≠ "cancelled") : Running s q' := by
  have hcollector := hread.collector_eq
  have hsubmitted : q.desk.submitted = p.desk.submitted :=
    (congrArg (·.2.submitted) hread.loaded).symm
  have hbalanced : q.desk.Balanced := by
    rw [Desk.Balanced, hcollector, hsubmitted]
    exact h.balanced
  refine h.snoc (issues.map (Issue.engineId, ·))
    ((Progress.Steady.of_read hread).trans hsteady) (hdeeds.trans hread.deeds_eq) nofun ?_ ?_ ?_
    (hissues ▸ List.Sublist.refl _) ?_
  · rw [hdesk]
    exact (hread.genuine h.genuine).1
  · exact hdesk ▸ hbalanced.reportAll issues
  · rw [hdesk, ← hsubmitted]
    rfl
  · intro entry hentry hcancels
    obtain ⟨issue, hissue, rfl⟩ := List.mem_map.1 hentry
    exact hcode issue hissue hcancels.2

/-- A run that asks and is not to be cancelled goes on. -/
theorem ask (h : Running s p) (hgo : (p.ask s).2.cancelled = false) : Running s (p.ask s).2 := by
  have hdesk : (p.ask s).2.desk = p.desk := by rw [Progress.desk_ask, hgo]; rfl
  refine h.snoc [] ⟨rfl, rfl, rfl, hgo.trans h.cancelled.symm⟩
    (Progress.deeds_ask s p) (by rw [hgo]; nofun) (hdesk ▸ h.genuine) (hdesk ▸ h.balanced) ?_
    List.Sublist.slnil (List.forall_mem_nil _)
  rw [hdesk, List.append_nil]

/-- A run that asks and is to be cancelled hands in an issue that tells of it. -/
theorem stop (h : Running s p) (hstop : (p.ask s).2.cancelled = true) :
    Stopped s (p.ask s).2 := by
  have hdesk : (p.ask s).2.desk = p.desk.report Issue.engineId cancellation := by
    rw [Progress.desk_ask, hstop, h.cancelled]
    rfl
  refine ⟨p.deeds, p.desk.submitted, h.started, hdesk ▸ h.balanced.report _, hstop, ⟨0, ?_⟩,
    h.unasked, ?_, h.brought, h.unnoticed⟩
  · rw [Progress.deeds_ask, hstop]
    rfl
  · rw [hdesk]
    rfl

theorem withStatus (h : Running s p) (status : Status) : Running s (p.withStatus status) :=
  { h with }

end Running

/-- A run that is to be cancelled is told so whenever it asks again. -/
theorem Stopped.ask {s : Setup} {p : Progress} (h : Stopped s p) : Stopped s (p.ask s).2 := by
  obtain ⟨before, submitted, h⟩ := h
  have hcancelled : (p.ask s).2.cancelled = true := by simp [Progress.ask, h.cancelled]
  have hdesk : (p.ask s).2.desk = p.desk := by
    rw [Progress.desk_ask, hcancelled, h.cancelled]
    rfl
  obtain ⟨again, hdeeds⟩ := h.deeds
  refine ⟨before, submitted, h.started, hdesk ▸ h.balanced, hcancelled, ⟨again + 1, ?_⟩, h.unasked,
    hdesk ▸ h.handedIn, h.brought, h.unnoticed⟩
  rw [Progress.deeds_ask, hcancelled, hdeeds, List.append_assoc, List.cons_append,
    ← List.replicate_succ']

namespace Step

variable {s : Setup} {v : Validator} {p : Progress}

/-! ## The way to the report -/

theorem running_register (desk : Desk) (hsubmitted : desk.submitted = [])
    (hcollector : desk.collector = {}) (hreadings : desk.cache.readings = []) :
    (register s).wp (fun _ => Running s) (fun _ _ => True) { desk } := by
  rw [register, wp_bind]
  refine wp_registerAll (p := { desk }) [] (fun _ => ?_) fun _ _ _ => trivial
  rw [enter, wp_modify]
  refine ⟨rfl, List.forall_mem_nil _, ?_, ?_, rfl, List.not_mem_nil, List.nil_sublist _, ?_⟩
  · simp [Document.Cache.Genuine, hreadings]
  · rw [Desk.Balanced, hcollector, hsubmitted]
    rfl
  · rw [hsubmitted]
    exact List.forall_mem_nil _

theorem running_start (hp : Running s p) (hengine : ∀ v ∈ s.enabled, v.id ≠ Issue.engineId) :
    (start s).wp (fun _ => Running s) (fun _ _ => True) p := by
  rw [start, wp_bind, wp_get, wp_bind, hp.validators]
  refine (wp_forM (I := fun _ => Running s) _ _ (fun before v after hl q hq => ?_) hp).mono
    (fun _ q hq => ?_) fun _ _ => id
  · have hv : v ∈ s.enabled := by simp [hl]
    refine wp_startWith (fun r htook => ?_) fun _ _ _ => trivial
    have hr := hq.took htook (hengine v hv) rfl
    refine { hr with started := fun w hw => ?_ }
    rcases List.mem_append.1 hw with hw | hw
    · exact hr.started w hw
    · exact List.mem_singleton.1 hw ▸ hv
  · rw [wp_bind, enter, wp_modify]
    exact wp_emit _ Running.ofCore (hq.withStatus .initialized)

theorem running_readDocument {path : Path} (hp : Running s p) :
    (readDocument s path).wp (fun _ => Running s) (fun _ _ => True) p := by
  refine wp_readDocument (fun _ => Running.ofCore) (fun d q hread => ?_)
    (fun fault issue q hread hissue => ?_) fun _ _ _ _ => trivial
  · refine hp.read hread d.issues ⟨rfl, rfl, rfl, rfl⟩ rfl rfl rfl fun issue hissue hcode => ?_
    have hmatter := ((hread.of_ok hp.genuine).2 issue hissue).2
    rw [hcode] at hmatter
    exact absurd hmatter (by decide)
  · refine hp.read hread [issue] ⟨rfl, rfl, rfl, rfl⟩ rfl rfl ?_ ?_
    · rw [Deed.issues, hissue]
      rfl
    · rintro issue' hissue' hcode
      obtain rfl := List.mem_singleton.1 hissue'
      rcases Document.LoadFault.code_of_issue hissue with hkind | hkind
      all_goals
        rw [hcode] at hkind
        exact absurd hkind (by decide)

theorem running_extractWith {d : Document} (hp : Running s p) (hv : v.id ≠ Issue.engineId) :
    (extractWith s d v).wp (fun _ => Running s) (fun _ _ => True) p := by
  refine wp_extractWith Running.ofCore (fun _ => hp) fun hook _ _ => ⟨fun entry q htook => ?_,
    fun _ _ _ => trivial, fun fault q htook _ => ?_⟩
  · exact { hp.took htook hv rfl with }
  · exact hp.took_withIssues htook hv rfl

theorem running_extractFile {path : Path} (hp : Running s p)
    (hengine : ∀ v ∈ s.enabled, v.id ≠ Issue.engineId) :
    (extractFile s path).wp (fun _ => Running s) (fun _ _ => True) p := by
  rw [extractFile, wp_bind]
  refine (running_readDocument hp).mono (fun found q hq => ?_) fun _ _ => id
  cases found with
  | none => exact hq
  | some d =>
      rw [wp_bind, wp_get, hq.validators]
      exact wp_forM (I := fun _ => Running s) _ _
        (fun before v after hl _ hr => running_extractWith hr (hengine v (by simp [hl]))) hq

theorem running_mergeWith (hp : Running s p) (hv : v.id ≠ Issue.engineId) :
    (mergeWith s v).wp (fun _ => Running s) (fun _ _ => True) p := by
  refine wp_mergeWith Running.ofCore (fun _ => hp) fun _ => ⟨fun entry q htook => ?_,
    fun _ _ _ => trivial, fun fault q htook _ => ?_⟩
  · split
    · trivial
    · exact { hp.took htook hv rfl with }
  · exact hp.took_withIssues htook hv rfl

theorem running_validateWith {d : Document} (hp : Running s p) (hv : v.id ≠ Issue.engineId) :
    (validateWith s d v).wp (fun _ => Running s) (fun _ _ => True) p := by
  refine wp_validateWith Running.ofCore (fun _ => hp) fun hook _ _ => ⟨fun issues q htook => ?_,
    fun _ _ _ => trivial, fun fault q htook _ => ?_⟩
  · exact hp.took_withIssues htook hv rfl
  · exact hp.took_withIssues htook hv rfl

theorem running_validateProjectWith (hp : Running s p) (hv : v.id ≠ Issue.engineId) :
    (validateProjectWith s v).wp (fun _ => Running s) (fun _ _ => True) p := by
  refine wp_validateProjectWith Running.ofCore (fun _ => hp) fun hook _ =>
    ⟨fun issues q htook => ?_, fun _ _ _ => trivial, fun fault q htook _ => ?_⟩
  · exact hp.took_withIssues htook hv rfl
  · exact hp.took_withIssues htook hv rfl

/-- A loop whose steps go on with the run is left only when the run is to be cancelled. -/
theorem running_whileRunning {α : Type} {step : α → Step Unit} {l : List α}
    (hstep : ∀ a ∈ l, ∀ p, Running s p →
      (step a).wp (fun _ => Running s) (fun _ _ => True) p) (hp : Running s p) :
    (whileRunning s step l).wp (fun all q => if all then Running s q else Stopped s q)
      (fun _ _ => True) p :=
  wp_whileRunning_or step l (fun _ h hgo => h.ask hgo) (fun _ h hstop => h.stop hstop) hstep hp

theorem running_extract (hp : Running s p) (hengine : ∀ v ∈ s.enabled, v.id ≠ Issue.engineId) :
    (extract s).wp (fun _ q => Running s q ∨ Stopped s q) (fun _ _ => True) p := by
  rw [extract, wp_bind]
  refine (wp_beginPhase (Q := fun _ => Running s) Running.ofCore (hp.withStatus _)).mono
    (fun _ q hq => ?_) fun _ _ => id
  rw [wp_bind]
  refine (running_whileRunning (fun _ _ _ hr => running_extractFile hr hengine) hq).mono
    (fun all r hr => ?_) fun _ _ => id
  cases all with
  | true => exact (wp_endPhase _ Running.ofCore hr).mono (fun _ _ => .inl) fun _ _ => id
  | false => exact .inr hr

theorem running_merge (hp : Running s p) (hengine : ∀ v ∈ s.enabled, v.id ≠ Issue.engineId) :
    (merge s).wp (fun _ q => Running s q ∨ Stopped s q) (fun _ _ => True) p := by
  rw [merge, wp_bind]
  refine (wp_beginPhase (Q := fun _ => Running s) Running.ofCore (hp.withStatus _)).mono
    (fun _ q hq => ?_) fun _ _ => id
  rw [wp_bind, wp_get, wp_bind, hq.validators]
  refine (wp_forM (I := fun _ => Running s) _ _ (fun before v after hl _ hr =>
    running_mergeWith hr (hengine v (by simp [hl]))) hq).mono (fun _ r hr => ?_) fun _ _ => id
  rw [wp_bind, onDesk, wp_modify]
  have hfrozen : Running s { r with desk.shared := r.desk.shared.freeze } := { hr with }
  exact (wp_endPhase _ Running.ofCore hfrozen).mono (fun _ _ => .inl) fun _ _ => id

theorem running_validate (hp : Running s p) (hengine : ∀ v ∈ s.enabled, v.id ≠ Issue.engineId) :
    (validate s).wp (fun _ q => Running s q ∨ Stopped s q) (fun _ _ => True) p := by
  rw [validate, wp_bind]
  refine (wp_beginPhase (Q := fun _ => Running s) Running.ofCore (hp.withStatus _)).mono
    (fun _ q hq => ?_) fun _ _ => id
  rw [wp_bind, wp_get, wp_bind]
  refine (running_whileRunning (fun d _ r hr => ?_) hq).mono (fun all r hr => ?_) fun _ _ => id
  · rw [validateDocument, wp_bind, wp_get, hr.validators]
    exact wp_forM (I := fun _ => Running s) _ _ (fun before v after hl _ ht =>
      running_validateWith ht (hengine v (by simp [hl]))) hr
  cases all with
  | false => exact .inr hr
  | true =>
      rw [if_pos rfl, wp_bind, wp_get, wp_bind]
      refine (running_whileRunning (fun v hv _ ht => ?_) hr).mono (fun all t ht => ?_)
        fun _ _ => id
      · rw [if_pos rfl] at hr
        rw [hr.validators] at hv
        exact running_validateProjectWith ht (hengine v (List.mem_filter.1 hv).1)
      cases all with
      | true => exact (wp_endPhase _ Running.ofCore ht).mono (fun _ _ => .inl) fun _ _ => id
      | false => exact .inr ht

/-- A phase is left out when the run is to be cancelled. -/
theorem running_unlessCancelled {step : Step Unit}
    (hstep : ∀ p, Running s p →
      step.wp (fun _ q => Running s q ∨ Stopped s q) (fun _ _ => True) p)
    (hp : Running s p ∨ Stopped s p) :
    (unlessCancelled s step).wp (fun _ q => Running s q ∨ Stopped s q) (fun _ _ => True) p := by
  rcases hp with hp | hp
  · exact wp_unlessCancelled (fun hstop => .inr (hp.stop hstop)) fun hgo => hstep _ (hp.ask hgo)
  · refine wp_unlessCancelled (fun _ => .inr hp.ask) fun hgo => ?_
    obtain ⟨before, submitted, hp⟩ := hp
    exact Bool.noConfusion (hp.cancelled.symm.trans (Progress.cancelled_of_ask hgo))

theorem running_toReport (cancelRequested : Bool)
    (hengine : ∀ v ∈ s.enabled, v.id ≠ Issue.engineId) :
    (toReport s).wp (fun report q => ∃ p, (Running s p ∨ Stopped s p) ∧
        q = p.withStatus .aggregating ∧
        report = p.desk.collector.report s.config.failOn p.cancelled)
      (fun _ _ => True) { desk := { cancelRequested } } := by
  rw [toReport, wp_bind]
  refine (running_register _ rfl rfl rfl).mono (fun _ p hp => ?_) fun _ _ => id
  rw [wp_bind]
  refine (running_start hp hengine).mono (fun _ p hp => ?_) fun _ _ => id
  rw [wp_bind]
  refine (running_unlessCancelled (fun _ h => running_extract h hengine) (.inl hp)).mono
    (fun _ p hp => ?_) fun _ _ => id
  rw [wp_bind]
  refine (running_unlessCancelled (fun _ h => running_merge h hengine) hp).mono
    (fun _ p hp => ?_) fun _ _ => id
  rw [wp_bind]
  refine (running_unlessCancelled (fun _ h => running_validate h hengine) hp).mono
    (fun _ p hp => ?_) fun _ _ => id
  rw [wp_report]
  exact ⟨p, hp, rfl, rfl⟩

end Step

/-! ## The report -/

/-- When validators are made to finish, they may hand in issues of their own. -/
theorem submitted_foldl_finishWith (s : Setup) (l : List Validator) (p : Progress) :
    ∃ later, (l.foldl (finishWith s) p).desk.submitted = p.desk.submitted ++ later ∧
      ∀ entry ∈ later, ∃ v ∈ l, entry.1 = v.id := by
  induction l generalizing p with
  | nil => exact ⟨[], (List.append_nil _).symm, List.forall_mem_nil _⟩
  | cons v rest ih =>
      obtain ⟨outcome, htook⟩ := took_finishWith s p v
      obtain ⟨d, hd, hrun⟩ := htook.ran
      obtain ⟨more, hmore⟩ := (v.finishing (s.contextOf v)).run_submitted (s.hostOf v) d
      rw [hrun, Desk.submitted_of_core hd] at hmore
      obtain ⟨later, hlater, howners⟩ := ih (finishWith s p v)
      refine ⟨more.map (v.id, ·) ++ later, ?_, fun entry hentry => ?_⟩
      · rw [List.foldl_cons, hlater, hmore, List.append_assoc]
        rfl
      · rcases List.mem_append.1 hentry with hentry | hentry
        · obtain ⟨issue, -, rfl⟩ := List.mem_map.1 hentry
          exact ⟨v, List.mem_cons_self, rfl⟩
        · obtain ⟨w, hw, howner⟩ := howners entry hentry
          exact ⟨w, List.mem_cons_of_mem _ hw, howner⟩

/-- An issue tells of a cancellation and is signed as the run's own. -/
def tellsOfCancellation (issue : Issue) : Bool :=
  issue.validator == Issue.engineId && issue.code == "cancelled"

/-- Only the run itself has handed in issues that are signed as its own. -/
def Unforged (submitted : List (String × Issue)) : Prop :=
  ∀ entry ∈ submitted, entry.2.validator = Issue.engineId → entry.1 = Issue.engineId

/-- A run was told after the deeds `before` that it is to be cancelled, when the issues `submitted`
had been handed in. After that it has only asked again and made validators finish, and its report
has the issues handed in before, each once, and the one that tells of the cancellation. -/
structure CutShort (s : Setup) (report : Report) (p : Progress) (before after : List Deed)
    (submitted later : List (String × Issue)) : Prop where
  idle : ∀ deed ∈ after, deed = .asked true ∨ deed.finished?.isSome = true
  cancelled : report.cancelled = true
  invalid : report.valid = false
  handedIn : p.desk.submitted = submitted ++ (Issue.engineId, cancellation) :: later
  brought : (before.flatMap (Deed.issues s)).Sublist submitted
  unnoticed : ∀ entry ∈ submitted ++ later, ¬IsCancellation entry
  issues : report.issues.Perm ((Collector.firsts submitted).map (·.2) ++ [cancellation])
  told : Unforged submitted → report.issues.filter tellsOfCancellation = [cancellation]

/-- A run was never told that it is to be cancelled, and nothing in its report tells of that. -/
structure Untold (report : Report) (p : Progress) : Prop where
  cancelled : report.cancelled = false
  unnoticed : ∀ entry ∈ p.desk.submitted, ¬IsCancellation entry
  issues : ∀ issue ∈ report.issues, ∃ v, (v, issue) ∈ p.desk.submitted
  told : Unforged p.desk.submitted → report.issues.filter tellsOfCancellation = []

section Report

variable {s : Setup} {p q : Progress} {report : Report} {submitted later : List (String × Issue)}

theorem Desk.Balanced.issues_perm {d : Desk} (h : d.Balanced) (failOn : FailOn)
    (cancelled : Bool) : (d.collector.report failOn cancelled).issues.Perm
      ((Collector.firsts d.submitted).map (·.2)) := by
  rw [← Collector.issues_addEach, ← h]
  exact (Report.isAccount_ofIssues failOn cancelled _).complete

/-- Of the issues that are not the run's own, none tells of its cancellation. -/
theorem filter_tellsOfCancellation (hunforged : Unforged submitted)
    (hunnoticed : ∀ entry ∈ submitted, ¬IsCancellation entry) :
    ((Collector.firsts submitted).map (·.2)).filter tellsOfCancellation = [] := by
  rw [List.filter_eq_nil_iff]
  intro issue hissue htells
  obtain ⟨entry, hentry, rfl⟩ := List.mem_map.1 hissue
  have hentry := Collector.firsts_sublist.subset hentry
  rw [tellsOfCancellation, Bool.and_eq_true, beq_iff_eq, beq_iff_eq] at htells
  exact hunnoticed entry hentry ⟨hunforged entry hentry htells.1, htells.2⟩

/-- A run that was not told until its report was never told. -/
theorem Running.untold (h : Running s q)
    (hreport : report = q.desk.collector.report s.config.failOn q.cancelled)
    (hsubmitted : p.desk.submitted = q.desk.submitted ++ later)
    (hlater : ∀ entry ∈ later, ¬IsCancellation entry) : Untold report p where
  cancelled := by rw [hreport]; exact h.cancelled
  unnoticed := by
    rw [hsubmitted, List.forall_mem_append]
    exact ⟨h.unnoticed, hlater⟩
  issues := by
    intro issue hissue
    rw [hreport, (h.balanced.issues_perm _ _).mem_iff] at hissue
    obtain ⟨entry, hentry, rfl⟩ := List.mem_map.1 hissue
    rw [hsubmitted]
    exact ⟨entry.1, List.mem_append_left _ (Collector.firsts_sublist.subset hentry)⟩
  told := by
    intro hunforged
    rw [hsubmitted, Unforged, List.forall_mem_append] at hunforged
    have hperm := (h.balanced.issues_perm s.config.failOn q.cancelled).filter tellsOfCancellation
    rw [filter_tellsOfCancellation hunforged.1 h.unnoticed, ← hreport] at hperm
    exact hperm.eq_nil

/-- A run that was told has the issues that were handed in before, and one more. -/
theorem Halting.cutShort {before after : List Deed} (h : Halting s before submitted q)
    (hreport : report = q.desk.collector.report s.config.failOn q.cancelled)
    (hsubmitted : p.desk.submitted = q.desk.submitted ++ later)
    (hlater : ∀ entry ∈ later, ¬IsCancellation entry)
    (hafter : ∀ deed ∈ after, deed = .asked true ∨ deed.finished?.isSome = true) :
    CutShort s report p before after submitted later := by
  have hnew : ∀ other ∈ submitted, ¬Collector.Same other (Issue.engineId, cancellation) :=
    fun other hother hsame => h.unnoticed other hother
      ⟨hsame.1, congrArg IssueKey.code hsame.2⟩
  have hperm : report.issues.Perm ((Collector.firsts submitted).map (·.2) ++ [cancellation]) := by
    have hall := h.balanced.issues_perm s.config.failOn q.cancelled
    rwa [h.handedIn, Collector.firsts_concat hnew, List.map_append, ← hreport] at hall
  refine ⟨hafter, ?_, ?_, ?_, h.brought, ?_, hperm, fun hunforged => ?_⟩
  · rw [hreport]
    exact h.cancelled
  · rw [hreport, h.cancelled]
    exact Bool.and_false _
  · rw [hsubmitted, h.handedIn, List.append_assoc]
    rfl
  · rw [List.forall_mem_append]
    exact ⟨h.unnoticed, hlater⟩
  · have hfilter := hperm.filter tellsOfCancellation
    rw [List.filter_append, filter_tellsOfCancellation hunforged h.unnoticed] at hfilter
    exact List.perm_singleton.1 hfilter

/-- A run that makes a report has come to it, and has then made validators finish. -/
theorem exists_of_execute {cancelRequested : Bool}
    (h : (execute s cancelRequested).result = .ok report) :
    ∃ p finishing later,
      (Step.toReport s).exec { desk := { cancelRequested } } = (.ok report, p) ∧
      (execute s cancelRequested).progress.deeds = p.deeds ++ finishing ∧
      (∀ deed ∈ finishing, deed.finished?.isSome = true) ∧
      (execute s cancelRequested).progress.desk.submitted = p.desk.submitted ++ later ∧
      ∀ entry ∈ later, ∃ v ∈ p.started, entry.1 = v.id := by
  unfold execute at h ⊢
  generalize (Step.toReport s).exec { desk := { cancelRequested } } = ending at h ⊢
  rcases ending with ⟨fault | report', p⟩
  · cases h
  cases h
  obtain ⟨finishing, hdeeds, hids, -⟩ := deeds_foldl_finishWith s p.started.reverse p
  obtain ⟨later, hsubmitted, howners⟩ := submitted_foldl_finishWith s p.started.reverse p
  refine ⟨p, finishing, later, rfl, hdeeds, fun deed hdeed => ?_, hsubmitted,
    fun entry hentry => ?_⟩
  · have hmem : deed.finished? ∈ finishing.map Deed.finished? := List.mem_map_of_mem hdeed
    rw [hids] at hmem
    obtain ⟨v, -, hv⟩ := List.mem_map.1 hmem
    rw [← hv]
    rfl
  · obtain ⟨v, hv, howner⟩ := howners entry hentry
    exact ⟨v, List.mem_reverse.1 hv, howner⟩

end Report

/-- Once a run that makes a report has asked and been told that it is to be cancelled, it takes
nothing up any more. Its report says that it was cancelled and is not valid; it has all issues
handed in by then, and one more that tells of the cancellation. A run that was never told makes a
report that says nothing of a cancellation. -/
theorem execute_cut_short (s : Setup) (cancelRequested : Bool) {report : Report}
    (hresult : (execute s cancelRequested).result = .ok report)
    (hengine : ∀ v ∈ s.enabled, v.id ≠ Issue.engineId) :
    let p := (execute s cancelRequested).progress
    (∀ before after, p.deeds = before ++ .asked true :: after → .asked true ∉ before →
      ∃ submitted later, CutShort s report p before after submitted later) ∧
    (.asked true ∉ p.deeds → Untold report p) := by
  obtain ⟨r, finishing, later, hexec, hdeeds, hfinished, hsubmitted, howners⟩ :=
    exists_of_execute hresult
  have hwp := Step.running_toReport (s := s) cancelRequested hengine
  rw [Step.wp, hexec] at hwp
  obtain ⟨q, hq, rfl, hreport⟩ := hwp
  have hlater (hstarted : ∀ v ∈ q.started, v ∈ s.enabled) :
      ∀ entry ∈ later, ¬IsCancellation entry := by
    intro entry hentry hcancels
    obtain ⟨v, hv, howner⟩ := howners entry hentry
    exact hengine v (hstarted v hv) (howner.symm.trans hcancels.1)
  rcases hq with hq | ⟨before', submitted, hq⟩
  · refine ⟨fun before after heq _ => ?_, fun _ => ?_⟩
    · have hasked : Deed.asked true ∈ q.deeds ++ finishing := by
        show _ ∈ (q.withStatus .aggregating).deeds ++ finishing
        rw [← hdeeds, heq]
        simp
      rcases List.mem_append.1 hasked with hasked | hasked
      · exact absurd hasked hq.unasked
      · cases hfinished _ hasked
    · exact hq.untold hreport hsubmitted (hlater hq.started)
  · obtain ⟨again, hagain⟩ := hq.deeds
    have hall : (execute s cancelRequested).progress.deeds =
        before' ++ .asked true :: (List.replicate again (.asked true) ++ finishing) := by
      rw [hdeeds]
      show q.deeds ++ finishing = _
      rw [hagain, List.append_assoc, List.cons_append]
    refine ⟨fun before after heq hunasked => ?_, fun hunasked => absurd ?_ hunasked⟩
    · -- The run is told for the first time at one place only.
      obtain ⟨rfl, rfl⟩ := Lists.append_cons_inj hunasked hq.unasked (heq.symm.trans hall)
      exact ⟨submitted, later, hq.cutShort hreport hsubmitted (hlater hq.started)
        fun deed hdeed => (List.mem_append.1 hdeed).imp List.eq_of_mem_replicate (hfinished deed)⟩
    · rw [hall]
      simp

/-- A validator that says something about a document and then wants no more of the run. -/
def quitting : Validator where
  id := "quitting"
  extract := some fun _ d =>
    .report ⟨"QUIT001", .info, "Enough", "quitting", some d.name, none, none, none, none, none, []⟩
      (.cancel (pure (.value .null)))
  validate := some fun _ _ => .fail (.failure "RuntimeError" "never called")

/-- A document, and a validator that quits. -/
def withQuitting : Setup where
  config := {}
  files := [⟨.absolute, ["a.md"]⟩]
  tree := .directory [("a.md", .file "A\n".toUTF8.toList)]
  validators := [quitting]

/-- The run is told after the validator has quit. Nobody else signs an issue as the run does, so
that one issue of the report tells of the cancellation, and no other. -/
theorem withQuitting_cut_short :
    (∀ v ∈ withQuitting.enabled, v.id ≠ Issue.engineId) ∧
      ∃ report before after submitted later,
        (execute withQuitting false).result = .ok report ∧
        CutShort withQuitting report (execute withQuitting false).progress before after submitted
          later ∧
        Unforged submitted ∧ report.issues.filter tellsOfCancellation = [cancellation] := by
  have hengine : ∀ v ∈ withQuitting.enabled, v.id ≠ Issue.engineId := by decide
  have hall : Unforged (execute withQuitting false).progress.desk.submitted := by
    unfold Unforged
    decide +kernel
  have hasked : ((execute withQuitting false).progress.deeds.any fun
      | .asked cancelled => cancelled
      | _ => false) = true := by decide +kernel
  have hreturns : (execute withQuitting false).result.isOk = true := by decide +kernel
  refine ⟨hengine, ?_⟩
  cases hresult : (execute withQuitting false).result with
  | error fault =>
      rw [hresult] at hreturns
      cases hreturns
  | ok report =>
      obtain ⟨deed, hdeed, htrue⟩ := List.any_eq_true.1 hasked
      split at htrue
      next =>
        subst htrue
        obtain ⟨before, after, hdeeds, hunasked⟩ := List.eq_append_cons_of_mem hdeed
        obtain ⟨submitted, later, hcut⟩ :=
          (execute_cut_short withQuitting false hresult hengine).1 before after hdeeds hunasked
        have hunforged : Unforged submitted := fun entry hentry => hall entry (by
          rw [hcut.handedIn]
          exact List.mem_append_left _ hentry)
        exact ⟨report, before, after, submitted, later, rfl, hcut, hunforged, hcut.told hunforged⟩
      next => cases htrue

end Continuity.Run
