import Continuity.Proofs.Files.Order
import Continuity.Proofs.Run.Lifecycle
import Continuity.Proofs.Run.Standard

/-! # What a run of the standard validators can fail for

The standard validators end a run only at the start, when they cannot use their options. After that
a run ends without a report only for a file whose front matter has a scalar that cannot be used;
whatever else is wrong with files or validators becomes an issue.
-/

namespace Continuity.Run

/-- The file that was read, and what came of it. -/
def Deed.read? : Deed → Option (Path × Except Document.LoadFault Document)
  | .read path result => some (path, result)
  | _ => none

theorem eq_read_of_read? {deed : Deed} {path : Path} {result : Except Document.LoadFault Document}
    (h : deed.read? = some (path, result)) : deed = .read path result := by
  unfold Deed.read? at h
  split at h
  · cases h
    rfl
  · cases h

namespace Setup

variable (s : Setup)

/-- What the files of a run come to when they are read one after another. -/
def readings : List (Path × Except Document.LoadFault Document) :=
  Document.readAll s.tree s.root {} s.paths

end Setup

/-- The issues that come of reading a file are as `told` says. Without any, a file that cannot be
read is nothing of the kind. -/
def Accounts (s : Setup) (told : Issue → Prop) (path : Path) :
    Except Document.LoadFault Document → Prop
  | .ok d => ∀ issue ∈ d.issues, told issue
  | .error fault => ∃ issue, fault.issue? (path.within s.root) = some issue ∧ told issue

theorem Accounts.mono {s : Setup} {told told' : Issue → Prop} {path : Path}
    {result : Except Document.LoadFault Document} (h : Accounts s told path result)
    (himp : ∀ issue, told issue → told' issue) : Accounts s told' path result := by
  cases result with
  | ok d => exact fun issue hissue => himp issue (h issue hissue)
  | error fault =>
      obtain ⟨issue, hissue, htold⟩ := h
      exact ⟨issue, hissue, himp issue htold⟩

/-- Of the files some have been read, and the `rest` is to be read yet. Nothing was so wrong that it
would end the run. -/
structure Untroubled (s : Setup) (frozen : Bool) (rest : List Path) (p : Progress) : Prop where
  validators : p.validators = s.enabled
  frozen : p.desk.shared.frozen = frozen
  reads : p.deeds.filterMap Deed.read? ++
    Document.readAll s.tree s.root p.desk.cache.session rest = s.readings
  unread : ∀ path ∈ rest, p.desk.cache.document? path = none
  noted : ∀ path result, .read path result ∈ p.deeds →
    Accounts s (fun issue => p.desk.collector.holds Issue.engineId issue = true) path result

/-- The files have been read, at least if the run is not to be cancelled. -/
def ReadOut (s : Setup) (frozen : Bool) (p : Progress) : Prop :=
  ∃ rest, Untroubled s frozen rest p ∧ (p.cancelled = false → rest = [])

/-- A run has ended for options that cannot be used before anything was read, or for the file that
was read last. -/
def Excused (s : Setup) : RunFault → Progress → Prop
  | .configuration .., p => p.deeds.filterMap Deed.read? = []
  | .document fault, p => p.deeds.filterMap Deed.read? <+: s.readings ∧
    ∃ path scalar, fault = .scalar scalar ∧
      (p.deeds.filterMap Deed.read?).getLast? = some (path, .error fault)
  | _, _ => False

namespace Untroubled

variable {s : Setup} {frozen : Bool} {rest : List Path} {p q : Progress}

theorem ofCore : Progress.OfCore (Untroubled s frozen rest) := by
  refine .intro fun p => ⟨fun h => ?_, fun h => ?_⟩
  all_goals exact ⟨h.validators, h.frozen, h.reads, h.unread, h.noted⟩

/-- Something was done, but nothing was read. -/
theorem snoc (deed : Deed) (h : Untroubled s frozen rest p) (hdeeds : q.deeds = p.deeds ++ [deed])
    (hread : deed.read? = none) (hvalidators : q.validators = p.validators)
    (hfrozen : q.desk.shared.frozen = p.desk.shared.frozen)
    (hcache : q.desk.cache = p.desk.cache)
    (hholds : ∀ v issue, p.desk.collector.holds v issue = true →
      q.desk.collector.holds v issue = true) : Untroubled s frozen rest q where
  validators := hvalidators.trans h.validators
  frozen := hfrozen.trans h.frozen
  reads := by
    rw [hdeeds, hcache, List.filterMap_append, List.filterMap_cons_none hread, List.filterMap_nil,
      List.append_nil]
    exact h.reads
  unread := hcache ▸ h.unread
  noted := by
    intro path result hmem
    rw [hdeeds, List.mem_append, List.mem_singleton] at hmem
    rcases hmem with hmem | rfl
    · exact (h.noted path result hmem).mono fun issue => hholds _ issue
    · cases hread

theorem took {α : Type} {v : Validator} {turn : Except HookFault α → Turn} {hook : Hook α}
    {outcome : Except HookFault α} (h : Untroubled s frozen rest p)
    (htook : Took s v turn hook p outcome q) (hobserves : hook.Observes) :
    Untroubled s frozen rest q :=
  h.snoc _ htook.deeds_eq rfl (Progress.Steady.of_took htook).validators htook.frozen_eq
    (htook.cache_eq hobserves.neverLoads) fun _ _ => htook.holds

theorem ask (h : Untroubled s frozen rest p) : Untroubled s frozen rest (p.ask s).2 := by
  refine h.snoc (.asked (p.ask s).1) rfl rfl rfl ?_ ?_ fun v issue hholds => ?_
  all_goals
    unfold Progress.ask
    dsimp only
    split
  · rfl
  · rfl
  · rfl
  · rfl
  · exact Collector.holds_add hholds
  · exact hholds

theorem withIssue (h : Untroubled s frozen rest p) (validator : String) (issue : Issue) :
    Untroubled s frozen rest (p.withIssue validator issue) :=
  { h with noted := fun path result hmem =>
      (h.noted path result hmem).mono fun _ => Collector.holds_add }

theorem withIssues (h : Untroubled s frozen rest p) (validator : String) (issues : List Issue) :
    Untroubled s frozen rest (p.withIssues validator issues) :=
  { h with noted := fun path result hmem =>
      (h.noted path result hmem).mono fun _ => Collector.holds_addAll issues }

/-- The next file was read, and what came of it was recorded. -/
theorem read {path : Path} {result : Except Document.LoadFault Document} {q' : Progress}
    (h : Untroubled s frozen (path :: rest) p) (hread : Read s path p result q)
    (hnew : path ∉ rest) (hdeeds : q'.deeds = q.deeds) (hvalidators : q'.validators = q.validators)
    (hshared : q'.desk.shared = q.desk.shared) (hcache : q'.desk.cache = q.desk.cache)
    (hholds : ∀ v issue, q.desk.collector.holds v issue = true →
      q'.desk.collector.holds v issue = true)
    (hnoted : Accounts s (fun issue => q'.desk.collector.holds Issue.engineId issue = true) path
      result) : Untroubled s frozen rest q' := by
  obtain ⟨hresult, hothers⟩ := hread.of_unread (h.unread path List.mem_cons_self)
  refine ⟨?_, ?_, ?_, ?_, ?_⟩
  · rw [hvalidators, (Progress.Steady.of_read hread).validators, h.validators]
  · rw [hshared, hread.shared_eq, h.frozen]
  · rw [← h.reads, Document.readAll, hresult, hdeeds, hcache, hread.deeds_eq,
      List.filterMap_append, List.append_assoc]
    rfl
  · intro path' hpath'
    rw [hcache, hothers path' fun heq => hnew (heq ▸ hpath')]
    exact h.unread path' (List.mem_cons_of_mem _ hpath')
  · intro path' result' hmem
    rw [hdeeds, hread.deeds_eq, List.mem_append, List.mem_singleton] at hmem
    rcases hmem with hmem | hmem
    · refine (h.noted path' result' hmem).mono fun issue hissue => hholds _ issue ?_
      rwa [hread.collector_eq]
    · cases hmem
      exact hnoted

/-- The file that is read next has been read. -/
theorem reads_prefix {path : Path} {result : Except Document.LoadFault Document}
    (h : Untroubled s frozen (path :: rest) p) (hread : Read s path p result q) :
    q.deeds.filterMap Deed.read? <+: s.readings := by
  obtain ⟨hresult, -⟩ := hread.of_unread (h.unread path List.mem_cons_self)
  refine ⟨Document.readAll s.tree s.root q.desk.cache.session rest, ?_⟩
  rw [← h.reads, Document.readAll, hresult, hread.deeds_eq, List.filterMap_append,
    List.append_assoc]
  rfl

end Untroubled

namespace ReadOut

variable {s : Setup} {frozen : Bool} {p q : Progress}

theorem ofCore : Progress.OfCore (ReadOut s frozen) := by
  rintro p q hcore ⟨rest, h, hrest⟩
  refine ⟨rest, Untroubled.ofCore p q hcore h, ?_⟩
  rw [(Progress.Steady.of_core hcore).cancelled]
  exact hrest

theorem took {α : Type} {v : Validator} {turn : Except HookFault α → Turn} {hook : Hook α}
    {outcome : Except HookFault α} (h : ReadOut s frozen p)
    (htook : Took s v turn hook p outcome q) (hobserves : hook.Observes) : ReadOut s frozen q := by
  obtain ⟨rest, h, hrest⟩ := h
  refine ⟨rest, h.took htook hobserves, ?_⟩
  rw [(Progress.Steady.of_took htook).cancelled]
  exact hrest

theorem validators (h : ReadOut s frozen p) : p.validators = s.enabled :=
  h.choose_spec.1.validators

theorem ask (h : ReadOut s frozen p) : ReadOut s frozen (p.ask s).2 := by
  obtain ⟨rest, h, hrest⟩ := h
  exact ⟨rest, h.ask, fun hcancelled => hrest (Progress.cancelled_of_ask hcancelled)⟩

end ReadOut

namespace Step

variable {s : Setup} {rest : List Path} {p : Progress} {v : Validator}

/-- Hooks that only observe do not end because the state is frozen. -/
theorem not_frozen {α : Type} {turn : Except HookFault α → Turn} {hook : Hook α} {message : String}
    {q : Progress} (htook : Took s v turn hook p (.error (.frozen message)) q)
    (hobserves : hook.Observes) : False :=
  htook.ends hobserves

/-! ## Extraction -/

theorem untroubled_readDocument {path : Path} (h : Untroubled s false (path :: rest) p)
    (hnew : path ∉ rest) :
    (readDocument s path).wp (fun _ => Untroubled s false rest) (Excused s) p := by
  refine wp_readDocument (fun _ => Untroubled.ofCore) (fun d q hread => ?_)
    (fun fault issue q hread hissue => ?_) fun fault q hread hissue => ?_
  · exact h.read hread hnew rfl rfl rfl rfl (fun _ _ => Collector.holds_addAll d.issues)
      fun _ => Collector.holds_addAll_of_mem
  · exact h.read hread hnew rfl rfl rfl rfl (fun _ _ => Collector.holds_add)
      ⟨issue, hissue, Collector.holds_add_self⟩
  -- A scalar is the only fault that no issue stands for.
  · refine ⟨h.reads_prefix hread, ?_⟩
    cases fault with
    | scalar scalar =>
        refine ⟨path, scalar, rfl, ?_⟩
        rw [hread.deeds_eq, List.filterMap_append]
        exact List.getLast?_concat
    | unreadable _ => cases hissue
    | encoding _ _ => cases hissue

theorem untroubled_extractWith {d : Document} (h : Untroubled s false rest p)
    (hv : v.Each Hook.Observes) :
    (extractWith s d v).wp (fun _ => Untroubled s false rest) (Excused s) p := by
  refine wp_extractWith Untroubled.ofCore (fun _ => h) fun hook hhook _ => ⟨fun entry q htook => ?_,
    fun message q htook => ?_, fun fault q htook _ => ?_⟩
  · have hq := h.took htook (hv.extract hook hhook _ _)
    exact { hq with }
  · exact (not_frozen htook (hv.extract hook hhook _ _)).elim
  · exact (h.took htook (hv.extract hook hhook _ _)).withIssue _ _

theorem untroubled_extractFile {path : Path} (h : Untroubled s false (path :: rest) p)
    (hnew : path ∉ rest) (hobserves : ∀ v ∈ s.enabled, v.Each Hook.Observes) :
    (extractFile s path).wp (fun _ => Untroubled s false rest) (Excused s) p := by
  rw [extractFile, wp_bind]
  refine (untroubled_readDocument h hnew).mono (fun found q hq => ?_) fun _ _ => id
  cases found with
  | none => exact hq
  | some d =>
      rw [wp_bind, wp_get, hq.validators]
      exact wp_forM (I := fun _ => Untroubled s false rest) _ _
        (fun before v after hl _ hr => untroubled_extractWith hr (hobserves v (by simp [hl]))) hq

theorem readOut_extract (h : Untroubled s false s.paths p)
    (hobserves : ∀ v ∈ s.enabled, v.Each Hook.Observes) :
    (extract s).wp (fun _ => ReadOut s false) (Excused s) p := by
  have hnodup : s.paths.Nodup := (Files.pairwise_sortPaths s.files).imp fun h => h.2
  rw [extract, wp_bind]
  refine (wp_beginPhase (Q := fun _ => Untroubled s false s.paths) Untroubled.ofCore
    { h with }).mono (fun _ q hq => ?_) fun _ _ => id
  rw [wp_bind]
  -- Each file is read with what the files before it have left in the session.
  refine (wp_whileRunning (I := fun before r => ∃ rest, s.paths = before ++ rest ∧
    Untroubled s false rest r) _ _ ?_ ?_ ⟨_, rfl, hq⟩).mono (fun all r hr => ?_) fun _ _ => id
  · rintro before r ⟨rest, hpaths, hr⟩
    exact ⟨rest, hpaths, hr.ask⟩
  · rintro before path after hl r ⟨rest, hpaths, hr⟩
    obtain rfl := List.append_cancel_left (hl.symm.trans hpaths)
    have hnew : path ∉ after := by
      rw [hl, List.nodup_append, List.nodup_cons] at hnodup
      exact hnodup.2.1.1
    exact (untroubled_extractFile hr hnew hobserves).mono
      (fun _ t ht => ⟨after, by simp [hl], ht⟩) fun _ _ => id
  · obtain ⟨before, after, hpaths, ⟨rest, hrest, hr⟩, hall⟩ := hr
    obtain rfl := List.append_cancel_left (hpaths.symm.trans hrest)
    split at hall
    next hrunning =>
      subst hrunning
      exact wp_endPhase _ ReadOut.ofCore ⟨after, hr, fun _ => hall⟩
    next hcancelled =>
      rw [if_neg hcancelled]
      exact ⟨after, hr, fun hnot => Bool.noConfusion (hall.symm.trans hnot)⟩

/-! ## Merging and validation -/

theorem readOut_mergeWith (h : ReadOut s false p) (hv : v.Each Hook.Observes) :
    (mergeWith s v).wp (fun _ => ReadOut s false) (fun _ _ => False) p := by
  refine wp_mergeWith ReadOut.ofCore (fun _ => h) fun _ => ⟨fun entry q htook => ?_,
    fun message q htook => not_frozen htook (hv.merge _ _), fun fault q htook _ => ?_⟩
  · obtain ⟨rest, hq, hrest⟩ := h.took htook (hv.merge _ _)
    rw [if_neg (by simp [hq.frozen])]
    exact ⟨rest, { hq with }, hrest⟩
  · obtain ⟨rest, hq, hrest⟩ := h.took htook (hv.merge _ _)
    exact ⟨rest, hq.withIssue _ _, hrest⟩

theorem readOut_merge (h : ReadOut s false p)
    (hobserves : ∀ v ∈ s.enabled, v.Each Hook.Observes) :
    (merge s).wp (fun _ => ReadOut s true) (fun _ _ => False) p := by
  obtain ⟨rest, h, hrest⟩ := h
  rw [merge, wp_bind]
  refine (wp_beginPhase (Q := fun _ => ReadOut s false) ReadOut.ofCore
    ⟨rest, { h with }, hrest⟩).mono (fun _ q hq => ?_) fun _ _ => id
  rw [wp_bind, wp_get, wp_bind, hq.validators]
  refine (wp_forM (I := fun _ => ReadOut s false) _ _ (fun before v after hl _ hr =>
    readOut_mergeWith hr (hobserves v (by simp [hl]))) hq).mono (fun _ r hr => ?_) fun _ _ => id
  obtain ⟨rest, hr, hrest⟩ := hr
  rw [wp_bind, onDesk, wp_modify]
  exact wp_endPhase _ ReadOut.ofCore ⟨rest, { hr with frozen := rfl }, hrest⟩

theorem readOut_validateWith {d : Document} (h : ReadOut s true p) (hv : v.Each Hook.Observes) :
    (validateWith s d v).wp (fun _ => ReadOut s true) (fun _ _ => False) p := by
  refine wp_validateWith ReadOut.ofCore (fun _ => h) fun hook hhook _ => ⟨fun issues q htook => ?_,
    fun message q htook => not_frozen htook (hv.validate hook hhook _ _), fun fault q htook _ => ?_⟩
  · obtain ⟨rest, hq, hrest⟩ := h.took htook (hv.validate hook hhook _ _)
    exact ⟨rest, hq.withIssues _ _, hrest⟩
  · obtain ⟨rest, hq, hrest⟩ := h.took htook (hv.validate hook hhook _ _)
    exact ⟨rest, hq.withIssue _ _, hrest⟩

theorem readOut_validateProjectWith (h : ReadOut s true p) (hv : v.Each Hook.Observes) :
    (validateProjectWith s v).wp (fun _ => ReadOut s true) (fun _ _ => False) p := by
  refine wp_validateProjectWith ReadOut.ofCore (fun _ => h) fun hook hhook =>
    ⟨fun issues q htook => ?_,
      fun message q htook => not_frozen htook (hv.validateProject hook hhook _ _),
      fun fault q htook _ => ?_⟩
  · obtain ⟨rest, hq, hrest⟩ := h.took htook (hv.validateProject hook hhook _ _)
    exact ⟨rest, hq.withIssues _ _, hrest⟩
  · obtain ⟨rest, hq, hrest⟩ := h.took htook (hv.validateProject hook hhook _ _)
    exact ⟨rest, hq.withIssue _ _, hrest⟩

theorem readOut_validate (h : ReadOut s true p)
    (hobserves : ∀ v ∈ s.enabled, v.Each Hook.Observes) :
    (validate s).wp (fun _ => ReadOut s true) (fun _ _ => False) p := by
  obtain ⟨rest, h, hrest⟩ := h
  rw [validate, wp_bind]
  refine (wp_beginPhase (Q := fun _ => ReadOut s true) ReadOut.ofCore
    ⟨rest, { h with }, hrest⟩).mono (fun _ q hq => ?_) fun _ _ => id
  rw [wp_bind, wp_get, wp_bind]
  refine (wp_whileRunning (I := fun _ => ReadOut s true) _ _ (fun _ _ h => h.ask)
    (fun before d after hl r hr => ?_) hq).mono (fun all r hr => ?_) fun _ _ => id
  · rw [validateDocument, wp_bind, wp_get, hr.validators]
    exact wp_forM (I := fun _ => ReadOut s true) _ _ (fun before v after hl _ ht =>
      readOut_validateWith ht (hobserves v (by simp [hl]))) hr
  obtain ⟨-, -, -, hr, -⟩ := hr
  split
  · rw [wp_bind, wp_get, wp_bind, hr.validators]
    refine (wp_whileRunning (I := fun _ => ReadOut s true) _ _ (fun _ _ h => h.ask)
      (fun before v after hl _ ht => ?_) hr).mono (fun all t ht => ?_) fun _ _ => id
    · have hv : v ∈ s.enabled.filter (·.validateProject.isSome) := by simp [hl]
      exact readOut_validateProjectWith ht (hobserves v (List.mem_filter.1 hv).1)
    obtain ⟨-, -, -, ht, -⟩ := ht
    split
    · exact wp_endPhase _ ReadOut.ofCore ht
    · exact ht
  · exact hr

/-! ## The way to the report -/

theorem untroubled_register {cancelRequested : Bool} (hfresh : Fresh [] s.validators) :
    (register s).wp (fun _ q => Untroubled s false s.paths q ∧ q.deeds.filterMap Deed.read? = [])
      (Excused s) { desk := { cancelRequested } } := by
  rw [register, wp_bind]
  refine wp_registerAll (p := { desk := { cancelRequested } }) [] (fun _ => ?_)
    fun hstale => absurd hfresh hstale
  rw [enter, wp_modify]
  exact ⟨⟨rfl, rfl, rfl, fun _ _ => rfl, fun _ _ h => absurd h List.not_mem_nil⟩, rfl⟩

theorem untroubled_start (h : Untroubled s false s.paths p)
    (hnothing : p.deeds.filterMap Deed.read? = [])
    (hobserves : ∀ v ∈ s.enabled, v.Each Hook.Observes)
    (hconfigures : ∀ v ∈ s.enabled, ∀ c, (v.starting c).Configures) :
    (start s).wp (fun _ => Untroubled s false s.paths) (Excused s) p := by
  rw [start, wp_bind, wp_get, wp_bind, h.validators]
  refine (wp_forM (I := fun _ r => Untroubled s false s.paths r ∧
    r.deeds.filterMap Deed.read? = []) _ _ (fun before v after hl q hq => ?_)
    ⟨h, hnothing⟩).mono (fun _ q hq => ?_) fun _ _ => id
  · have hv : v ∈ s.enabled := by simp [hl]
    have hreads {outcome r} (htook : Took s v .start (v.starting (s.contextOf v)) q outcome r) :
        r.deeds.filterMap Deed.read? = [] := by
      rw [htook.deeds_eq, List.filterMap_append, hq.2]
      rfl
    refine wp_startWith (fun r htook => ?_) fun fault r htook => ?_
    · have hr := hq.1.took htook ((hobserves v hv).start _)
      exact ⟨{ hr with }, (hreads htook :)⟩
    · have hends := htook.ends (hconfigures v hv _)
      cases fault with
      | configuration => exact hreads htook
      | _ => exact hends.elim
  · rw [wp_bind, enter, wp_modify]
    exact wp_emit _ Untroubled.ofCore { hq.1 with }

theorem readOut_toReport (cancelRequested : Bool) (hfresh : Fresh [] s.validators)
    (hobserves : ∀ v ∈ s.enabled, v.Each Hook.Observes)
    (hconfigures : ∀ v ∈ s.enabled, ∀ c, (v.starting c).Configures) :
    (toReport s).wp (fun report q => (∃ frozen, ReadOut s frozen q) ∧
        report = q.desk.collector.report s.config.failOn q.cancelled)
      (Excused s) { desk := { cancelRequested } } := by
  rw [toReport, wp_bind]
  refine (untroubled_register hfresh).mono (fun _ p hp => ?_) fun _ _ => id
  rw [wp_bind]
  refine (untroubled_start hp.1 hp.2 hobserves hconfigures).mono (fun _ p hp => ?_) fun _ _ => id
  rw [wp_bind]
  have hextract : (unlessCancelled s (extract s)).wp (fun _ => ReadOut s false) (Excused s) p :=
    wp_unlessCancelled (fun hcancelled => ⟨_, hp.ask, fun hnot =>
      Bool.noConfusion (hcancelled.symm.trans hnot)⟩) fun _ => readOut_extract hp.ask hobserves
  refine hextract.mono (fun _ p hp => ?_) fun _ _ => id
  rw [wp_bind]
  refine (wp_unlessCancelled_done (J := ReadOut s) hp.ask
    (readOut_merge hp.ask hobserves)).mono (fun _ p hp => ?_) fun _ _ => False.elim
  obtain ⟨frozen, hp, hfrozen⟩ := hp
  rw [wp_bind]
  have hvalidate : (unlessCancelled s (validate s)).wp (fun _ q => ∃ frozen, ReadOut s frozen q)
      (fun _ _ => False) p := by
    refine wp_unlessCancelled (fun _ => ⟨frozen, hp.ask⟩) fun hcancelled => ?_
    obtain rfl := hfrozen (Progress.cancelled_of_ask hcancelled)
    exact (readOut_validate hp.ask hobserves).mono (fun _ q hq => ⟨true, hq⟩) fun _ _ => id
  refine hvalidate.mono (fun _ p hp => ?_) fun _ _ => False.elim
  obtain ⟨frozen, rest, hp, hrest⟩ := hp
  rw [wp_report]
  exact ⟨⟨frozen, rest, { hp with }, hrest⟩, rfl⟩

end Step

/-! ## The whole run -/

/-- Nothing is read when validators are made to finish. -/
theorem reads_finish (s : Setup) (p : Progress) :
    (finish s p).deeds.filterMap Deed.read? = p.deeds.filterMap Deed.read? := by
  refine foldl_finishWith_induction s
    (J := fun q => q.deeds.filterMap Deed.read? = p.deeds.filterMap Deed.read?)
    (fun v _ q r outcome htook hq => ?_) rfl
  rw [htook.deeds_eq, List.filterMap_append, hq]
  exact List.append_nil _

/-- A report has an issue, or one that is the same. -/
def Tells (report : Report) (issue : Issue) : Prop := ∃ i ∈ report.issues, i.key = issue.key

theorem tells_of_holds {c : Collector} {failOn : FailOn} {cancelled : Bool} {v : String}
    {issue : Issue} (h : c.holds v issue = true) : Tells (c.report failOn cancelled) issue := by
  obtain ⟨i, hi, hkey⟩ := Collector.exists_of_holds h
  exact ⟨i, Report.mem_issues_ofIssues.2 hi, hkey⟩

/-- A run of the standard validators reads files in their order, and makes a report of all that is
wrong with them; if it is not cancelled it reads all files. It fails only for two reasons: for
options that cannot be used, before it reads anything; or for a file whose front matter has a scalar
that cannot be used, which is the last that it reads. -/
theorem execute_standard (config : Config) (files : List Path) (tree : FileTree)
    (listener : Listener) (interrupted : List Deed → Bool) (cancelRequested : Bool) :
    let s : Setup :=
      { config, files, tree, validators := standardValidators, listener, interrupted }
    let o := execute s cancelRequested
    let reads := o.progress.deeds.filterMap Deed.read?
    reads <+: s.readings ∧
      match o.result with
      | .ok report => (∀ path result, (path, result) ∈ reads →
          Accounts s (Tells report) path result) ∧ (report.cancelled = false → reads = s.readings)
      | .error (.configuration ..) => reads = []
      | .error (.document fault) => ∃ path scalar session bytes content raw,
          reads.getLast? = some (path, .error fault) ∧ fault = .scalar scalar ∧
          tree.read path = .ok bytes ∧ Document.decode bytes = .ok content ∧
          (Document.splitFrontMatter content).1 = some raw ∧
          (Yaml.readAfter session raw).1 = .error (.scalar scalar)
      | .error _ => False := by
  intro s o reads
  have hwp := Step.readOut_toReport (s := s) cancelRequested fresh_standard
    (fun v hv => standard_observes v (List.mem_filter.1 hv).1)
    fun v hv => standard_configures v (List.mem_filter.1 hv).1
  unfold Step.wp at hwp
  cases hexec : (Step.toReport s).exec { desk := { cancelRequested } } with
  | mk result p =>
      rw [hexec] at hwp
      have hreads : reads = p.deeds.filterMap Deed.read? := by
        rw [← reads_finish s p]
        simp only [reads, o, execute, hexec]
        cases result <;> rfl
      have hresult : o.result = result := by
        simp only [o, execute, hexec]
        cases result <;> rfl
      rw [hreads, hresult]
      cases result with
      | ok report =>
          obtain ⟨⟨frozen, rest, hp, hrest⟩, rfl⟩ := hwp
          refine ⟨⟨_, hp.reads⟩, fun path result hmem => ?_, fun hcancelled => ?_⟩
          · obtain ⟨deed, hdeed, heq⟩ := List.mem_filterMap.1 hmem
            refine (hp.noted path result (eq_read_of_read? heq ▸ hdeed)).mono fun issue hissue => ?_
            exact tells_of_holds hissue
          · rw [← hp.reads, hrest hcancelled]
            exact (List.append_nil _).symm
      | error fault =>
          cases fault with
          | configuration message problems =>
              refine ⟨?_, hwp⟩
              rw [show p.deeds.filterMap Deed.read? = [] from hwp]
              exact List.nil_prefix
          | document fault =>
              obtain ⟨hsofar, path, scalar, rfl, hlast⟩ := hwp
              obtain ⟨session, hread⟩ := Document.exists_of_mem_readAll
                (hsofar.subset (List.mem_of_getLast? hlast))
              obtain ⟨bytes, content, raw, hfile⟩ := Document.scalar_of_read hread
              exact ⟨hsofar, path, scalar, session, bytes, content, raw, hlast, rfl, hfile⟩
          | duplicate _ => exact hwp.elim
          | notStarted _ _ => exact hwp.elim
          | frozen _ => exact hwp.elim

/-- A date that there is not ends a run without a report. -/
theorem execute_date_out_of_range :
    (match (execute
        { config := {}
          files := [⟨.absolute, ["a.md"]⟩]
          tree := .directory [("a.md", .file "---\ndate: 2024-13-45\n---\n# T\n".toUTF8.toList)]
          validators := standardValidators } false).result with
      | .error (.document (.scalar fault)) => fault.message == "month must be in 1..12"
      | _ => false) = true := by
  decide +kernel

end Continuity.Run
