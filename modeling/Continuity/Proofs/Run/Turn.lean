import Continuity.Proofs.Run.Hook
import Continuity.Proofs.Run.Step

/-! # What one step of a phase can do

For every step of a run there is one rule that says all that it can do. The rules speak of
properties of the core of a progress: what is told to listeners, the journal, and the list of busy
validators are no part of it.
-/

namespace Continuity.Run

namespace Progress

/-- The progress without what is only told of it. -/
def core (p : Progress) : Progress := { p with desk := p.desk.core, busy := [] }

/-- A property of progresses that depends on their core only. -/
def OfCore (J : Progress → Prop) : Prop := ∀ p q, q.core = p.core → J p → J q

theorem OfCore.intro {J : Progress → Prop} (h : ∀ p, J p.core ↔ J p) : OfCore J :=
  fun p q hcore hp => (h q).1 (hcore ▸ (h p).2 hp)

/-- The progress in the next state. -/
def withStatus (status : Status) (p : Progress) : Progress :=
  { p with history := p.history ++ [status] }

/-- The progress with an issue of a validator. -/
def withIssue (validator : String) (issue : Issue) (p : Progress) : Progress :=
  { p with desk := p.desk.report validator issue }

/-- The progress with issues of a validator. -/
def withIssues (validator : String) (issues : List Issue) (p : Progress) : Progress :=
  { p with desk := p.desk.reportAll validator issues }

/-- The progress with a validator that has started. -/
def withStarted (v : Validator) (p : Progress) : Progress := { p with started := p.started ++ [v] }

/-- The progress with what a validator has taken from a document. -/
def withPart (v : Validator) (entry : Entry) (p : Progress) : Progress :=
  { p with parts := p.parts ++ [(v.id, entry)] }

/-- The progress with a document. -/
def withDocument (d : Document) (p : Progress) : Progress :=
  { p with documents := p.documents ++ [d] }

/-- The progress with an entry of the shared state. -/
def withEntry (key : String) (entry : Entry) (p : Progress) : Progress :=
  { p with desk.shared.entries := SharedState.write key entry p.desk.shared.entries }

/-- A frozen state refuses an entry, and any other takes it. -/
theorem write_eq (key : String) (entry : Entry) (p : Progress) :
    p.write key entry =
      if p.desk.shared.frozen then (.error ⟨key⟩, p) else (.ok (), p.withEntry key entry) := by
  unfold write Desk.write SharedState.set
  by_cases h : p.desk.shared.frozen = true
  · rw [if_pos h, if_pos h]
  · rw [if_neg h, if_neg h]
    rfl

/-- A run that is not to be cancelled was not to be cancelled before. -/
theorem cancelled_of_ask {s : Setup} {p : Progress} (h : (p.ask s).2.cancelled = false) :
    p.cancelled = false := by
  simp only [ask, Bool.or_eq_false_iff] at h
  exact h.1.1

end Progress

open Progress (OfCore)

/-- A turn of a validator has led from one progress to another: its hook has worked on the desk, and
the turn was taken down. Nothing else has changed. -/
structure Took {α : Type} (s : Setup) (v : Validator) (turn : Except HookFault α → Turn)
    (hook : Hook α) (p : Progress) (outcome : Except HookFault α) (q : Progress) : Prop where
  ran : ∃ d, d.core = p.desk.core ∧ hook.run (s.hostOf v) d = (outcome, q.desk)
  core_eq : q.core = { p.core with
    desk := q.desk.core
    deeds := p.deeds ++ [.turn v.id p.desk.shared (turn outcome)] }

namespace Took

variable {α : Type} {s : Setup} {v : Validator} {turn : Except HookFault α → Turn} {hook : Hook α}
  {p p' q : Progress} {outcome : Except HookFault α}

theorem of_perform (hcore : p'.core = p.core) (h : p'.perform s v turn hook = (outcome, q)) :
    Took s v turn hook p outcome q := by
  have hdesk : p'.desk.core = p.desk.core := (congrArg Progress.desk hcore :)
  have hdeeds : p'.deeds = p.deeds := (congrArg Progress.deeds hcore :)
  have hshared : p'.desk.shared = p.desk.shared := (congrArg (·.desk.shared) hcore :)
  cases h
  refine ⟨⟨p'.desk, hdesk, rfl⟩, ?_⟩
  rw [← hcore, ← hdeeds, ← hshared]
  rfl

theorem of_core (h : Took s v turn hook p' outcome q) (hcore : p'.core = p.core) :
    Took s v turn hook p outcome q := by
  have hdesk : p'.desk.core = p.desk.core := (congrArg Progress.desk hcore :)
  have hdeeds : p'.deeds = p.deeds := (congrArg Progress.deeds hcore :)
  have hshared : p'.desk.shared = p.desk.shared := (congrArg (·.desk.shared) hcore :)
  obtain ⟨⟨d, hd, hrun⟩, hrest⟩ := h
  refine ⟨⟨d, hd.trans hdesk, hrun⟩, ?_⟩
  rw [hrest, hcore, hdeeds, hshared]

theorem deeds_eq (h : Took s v turn hook p outcome q) :
    q.deeds = p.deeds ++ [.turn v.id p.desk.shared (turn outcome)] :=
  (congrArg Progress.deeds h.core_eq :)

theorem documents_eq (h : Took s v turn hook p outcome q) : q.documents = p.documents :=
  (congrArg Progress.documents h.core_eq :)

theorem parts_eq (h : Took s v turn hook p outcome q) : q.parts = p.parts :=
  (congrArg Progress.parts h.core_eq :)

theorem frozen_eq (h : Took s v turn hook p outcome q) :
    q.desk.shared.frozen = p.desk.shared.frozen := by
  obtain ⟨d, hd, hrun⟩ := h.ran
  have hfrozen := hook.run_frozen (s.hostOf v) d
  rwa [hrun, Desk.shared_of_core hd] at hfrozen

theorem shared_eq (h : Took s v turn hook p outcome q) (hnever : hook.NeverWrites) :
    q.desk.shared = p.desk.shared := by
  obtain ⟨d, hd, hrun⟩ := h.ran
  have hshared := hnever.shared (s.hostOf v) d
  rwa [hrun, Desk.shared_of_core hd] at hshared

theorem cache_eq (h : Took s v turn hook p outcome q) (hnever : hook.NeverLoads) :
    q.desk.cache = p.desk.cache := by
  obtain ⟨d, hd, hrun⟩ := h.ran
  have hcache := hnever.cache (s.hostOf v) d
  rwa [hrun, Desk.cache_of_core hd] at hcache

theorem holds (h : Took s v turn hook p outcome q) {w : String} {i : Issue}
    (hholds : p.desk.collector.holds w i = true) : q.desk.collector.holds w i = true := by
  obtain ⟨d, hd, hrun⟩ := h.ran
  have hafter := hook.run_holds (s.hostOf v) d (by rwa [Desk.collector_of_core hd])
  rwa [hrun] at hafter

theorem genuine (h : Took s v turn hook p outcome q)
    (hgenuine : p.desk.cache.Genuine s.tree s.root) : q.desk.cache.Genuine s.tree s.root := by
  obtain ⟨d, hd, hrun⟩ := h.ran
  have hcache := hook.run_genuine (s.hostOf v) d (by rwa [Desk.cache_of_core hd])
  rwa [hrun] at hcache

theorem ends (h : Took s v turn hook p outcome q) {may : Hook.Action → Prop}
    {ends : Except HookFault α → Prop} (hobeys : hook.Obeys may ends) : ends outcome := by
  obtain ⟨d, -, hrun⟩ := h.ran
  have hends := hobeys.outcome (s.hostOf v) d
  rwa [hrun] at hends

end Took

/-- The reading of a file has led from one progress to another. -/
structure Read (s : Setup) (path : Path) (p : Progress)
    (result : Except Document.LoadFault Document) (q : Progress) : Prop where
  loaded : p.desk.load s.tree s.root path = (result, q.desk)
  eq : q = { p with desk := q.desk, deeds := p.deeds ++ [.read path result] }

namespace Read

variable {s : Setup} {path : Path} {p q : Progress} {result : Except Document.LoadFault Document}

theorem of_read (h : p.read s path = (result, q)) : Read s path p result q := by
  cases h
  exact ⟨rfl, rfl⟩

theorem deeds_eq (h : Read s path p result q) : q.deeds = p.deeds ++ [.read path result] := by
  rw [h.eq]

theorem documents_eq (h : Read s path p result q) : q.documents = p.documents := by
  rw [h.eq]

theorem parts_eq (h : Read s path p result q) : q.parts = p.parts := by
  rw [h.eq]

theorem shared_eq (h : Read s path p result q) : q.desk.shared = p.desk.shared :=
  (congrArg (·.2.shared) h.loaded).symm

theorem collector_eq (h : Read s path p result q) : q.desk.collector = p.desk.collector :=
  (congrArg (·.2.collector) h.loaded).symm

theorem genuine (h : Read s path p result q) (hgenuine : p.desk.cache.Genuine s.tree s.root) :
    q.desk.cache.Genuine s.tree s.root ∧
      ∃ session, (Document.read s.tree s.root session path).1 = result := by
  obtain ⟨hcache, session, hread⟩ := hgenuine.load path
  have hloaded := h.loaded
  unfold Desk.load at hloaded
  generalize p.desk.cache.load s.tree s.root path = loaded at hloaded hcache hread
  obtain ⟨found, cache⟩ := loaded
  obtain ⟨hfound, hdesk⟩ := Prod.mk.injEq .. ▸ hloaded
  exact ⟨hdesk ▸ hcache, session, hread.symm.trans hfound⟩

/-- A document that is read has its path, and what is wrong with it is its front matter, which was
found by no validator. -/
theorem of_ok {d : Document} (h : Read s path p (.ok d) q)
    (hgenuine : p.desk.cache.Genuine s.tree s.root) :
    d.path = path ∧ ∀ issue ∈ d.issues,
      issue.validator = Issue.engineId ∧ issue.code = "front-matter-error" := by
  obtain ⟨-, session, hread⟩ := h.genuine hgenuine
  exact Document.of_read hread

/-- A file that has not been read before is read as it is now. -/
theorem of_unread (h : Read s path p result q) (hnew : p.desk.cache.document? path = none) :
    Document.read s.tree s.root p.desk.cache.session path = (result, q.desk.cache.session) ∧
      ∀ path', path' ≠ path → q.desk.cache.document? path' = p.desk.cache.document? path' := by
  have hload := Document.Cache.load_unread s.tree s.root hnew
  have hloaded := h.loaded
  unfold Desk.load at hloaded
  generalize p.desk.cache.load s.tree s.root path = loaded at hloaded hload
  obtain ⟨found, cache⟩ := loaded
  obtain ⟨hfound, hdesk⟩ := Prod.mk.injEq .. ▸ hloaded
  obtain ⟨hresult, hsession, hothers⟩ := hload
  rw [← hdesk, ← hfound, hresult]
  exact ⟨Prod.ext rfl hsession.symm, fun path' hne => (hothers path').trans (if_neg hne)⟩

end Read

/-- From one progress to another within a phase: the states passed through and the validators are
the same, and no one has asked whether the run is to be cancelled. -/
structure Progress.Steady (p q : Progress) : Prop where
  history : q.history = p.history
  validators : q.validators = p.validators
  started : q.started = p.started
  cancelled : q.cancelled = p.cancelled

namespace Progress.Steady

variable {p q r : Progress}

theorem trans (h : p.Steady q) (h' : q.Steady r) : p.Steady r where
  history := h'.history.trans h.history
  validators := h'.validators.trans h.validators
  started := h'.started.trans h.started
  cancelled := h'.cancelled.trans h.cancelled

theorem of_core (h : q.core = p.core) : p.Steady q where
  history := (congrArg Progress.history h :)
  validators := (congrArg Progress.validators h :)
  started := (congrArg Progress.started h :)
  cancelled := (congrArg Progress.cancelled h :)

theorem of_took {α : Type} {s : Setup} {v : Validator} {turn : Except HookFault α → Turn}
    {hook : Hook α} {outcome : Except HookFault α} (h : Took s v turn hook p outcome q) :
    p.Steady q where
  history := (congrArg Progress.history h.core_eq :)
  validators := (congrArg Progress.validators h.core_eq :)
  started := (congrArg Progress.started h.core_eq :)
  cancelled := (congrArg Progress.cancelled h.core_eq :)

theorem of_read {s : Setup} {path : Path} {result : Except Document.LoadFault Document}
    (h : Read s path p result q) : p.Steady q := by
  rw [h.eq]
  exact ⟨rfl, rfl, rfl, rfl⟩

end Progress.Steady

namespace Step

variable {α : Type} {s : Setup} {v : Validator} {p : Progress} {E : RunFault → Progress → Prop}

/-! ## Steps that leave the core as it is -/

theorem wp_emit {Q : Unit → Progress → Prop} (e : Event) (hcore : OfCore (Q ())) (h : Q () p) :
    (emit s e).wp Q E p :=
  hcore p _ rfl h

theorem wp_markBusy {Q : Unit → Progress → Prop} (h : ∀ q, q.core = p.core → Q () q) :
    (markBusy v).wp Q E p := by
  rw [markBusy, wp_modify]
  apply h
  split <;> rfl

/-- A call is entered in the journal if there is a hook to be called. -/
theorem wp_enterCall {Q : α → Progress → Prop} {called : Prop} [Decidable called] {call : Call}
    {next : Unit → Step α} (h : ∀ q, q.core = p.core → (next ()).wp Q E q) :
    (if called then enterCall v call >>= next else next ()).wp Q E p := by
  split
  · rw [wp_bind, enterCall, wp_modify]
    exact h _ rfl
  · exact h p rfl

theorem wp_beginPhase {Q : Unit → Progress → Prop} {status : Status} (hcore : OfCore (Q ()))
    (h : Q () (p.withStatus status)) : (beginPhase status).wp Q E p := by
  rw [beginPhase, wp_bind, enter, wp_modify, wp_modify]
  refine hcore _ _ ?_ h
  rfl

theorem wp_endPhase {Q : Unit → Progress → Prop} (phase : String) (hcore : OfCore (Q ()))
    (h : Q () p) : (endPhase s phase).wp Q E p := by
  rw [endPhase, wp_bind, wp_get, wp_bind]
  refine (wp_forM (I := fun _ => Q ()) _ _ ?_ h).mono (fun _ q hq => ?_) fun _ _ => id
  · exact fun _ _ _ _ q hq => wp_emit _ hcore hq
  · exact wp_emit _ hcore hq

theorem wp_report {Q : Report → Progress → Prop} :
    (report s).wp Q E p ↔
      Q (p.desk.collector.report s.config.failOn p.cancelled) (p.withStatus .aggregating) :=
  Iff.rfl

/-! ## Turns -/

/-- A hook returns, ends the run, or fails and leaves an issue. -/
theorem wp_attempt {Q : Option α → Progress → Prop} {call : Call}
    {turn : Except HookFault α → Turn} {hook : Hook α} (hcore : OfCore (Q none))
    (hok : ∀ a q, Took s v turn hook p (.ok a) q → Q (some a) q)
    (hfrozen : ∀ message q, Took s v turn hook p (.error (.frozen message)) q →
      E (.frozen message) q)
    (hfault : ∀ fault q, Took s v turn hook p (.error fault) q →
      (∀ message, fault ≠ .frozen message) →
        Q none (q.withIssue v.id (v.failureIssue call fault))) :
    (attempt s v call turn hook).wp Q E p := by
  rw [attempt, wp_bind]
  refine wp_markBusy fun p' hp' => ?_
  rw [perform, wp_bind, wp_modifyGet]
  rcases hperform : p'.perform s v turn hook with ⟨fault | a, q⟩
  · have htook := Took.of_perform hp' hperform
    cases fault with
    | frozen message => exact hfrozen message q htook
    | _ =>
        refine hcore _ _ ?_ (hfault _ q htook nofun)
        rfl
  · exact hok a q (Took.of_perform hp' hperform)

/-- A validator has started, or the run ends. -/
theorem wp_startWith {Q : Unit → Progress → Prop}
    (hok : ∀ q, Took s v .start (v.starting (s.contextOf v)) p (.ok ()) q → Q () (q.withStarted v))
    (hfault : ∀ fault q, Took s v .start (v.starting (s.contextOf v)) p (.error fault) q →
      E (match fault with
        | .configuration message problems => .configuration message problems
        | cause => .notStarted v.id cause) q) :
    (startWith s v).wp Q E p := by
  rw [startWith]
  refine wp_enterCall fun p' hp' => ?_
  rw [perform, wp_bind, wp_modifyGet]
  rcases hperform : p'.perform s v .start (v.starting (s.contextOf v)) with ⟨fault | _, q⟩
  · have hend := hfault fault q (Took.of_perform hp' hperform)
    cases fault <;> exact hend
  · exact hok q (Took.of_perform hp' hperform)

/-- A validator does not extract from the document, or it has a turn: then a part is kept, or the
run ends, or there is an issue. -/
theorem wp_extractWith {Q : Unit → Progress → Prop} {d : Document} (hcore : OfCore (Q ()))
    (hidle : (v.extract.isSome && v.supports d) = false → Q () p)
    (hturn : ∀ hook, v.extract = some hook → v.supports d = true →
      (∀ entry q, Took s v (.extract d) (hook (s.contextOf v) d) p (.ok entry) q →
        Q () (q.withPart v entry)) ∧
      (∀ message q, Took s v (.extract d) (hook (s.contextOf v) d) p (.error (.frozen message)) q →
        E (.frozen message) q) ∧
      ∀ fault q, Took s v (.extract d) (hook (s.contextOf v) d) p (.error fault) q →
        (∀ message, fault ≠ .frozen message) →
          Q () (q.withIssue v.id (v.failureIssue (.extract d.name) fault))) :
    (extractWith s d v).wp Q E p := by
  rw [extractWith]
  split
  next hnone => exact hidle (by simp [hnone])
  next hook hhook =>
    split
    next hsupports =>
      obtain ⟨hok, hfrozen, hfault⟩ := hturn hook hhook hsupports
      rw [wp_bind, enterCall, wp_modify, wp_bind]
      refine wp_attempt hcore (fun entry q h => ?_) (fun message q h => ?_)
        fun fault q h hother => ?_
      · rw [wp_bind, wp_modify]
        exact wp_emit _ hcore (hok entry q (h.of_core rfl))
      · exact hfrozen message q (h.of_core rfl)
      · exact hfault fault q (h.of_core rfl) hother
    next hsupports => exact hidle (by simp [hsupports])

/-- The document at a path is kept together with what is wrong with it; a fault becomes an issue, or
ends the run. -/
theorem wp_readDocument {Q : Option Document → Progress → Prop} {path : Path}
    (hcore : ∀ found, OfCore (Q found))
    (hok : ∀ d q, Read s path p (.ok d) q →
      Q (some d) ((q.withDocument d).withIssues Issue.engineId d.issues))
    (hfault : ∀ fault issue q, Read s path p (.error fault) q →
      fault.issue? (path.within s.root) = some issue → Q none (q.withIssue Issue.engineId issue))
    (hend : ∀ fault q, Read s path p (.error fault) q →
      fault.issue? (path.within s.root) = none → E (.document fault) q) :
    (readDocument s path).wp Q E p := by
  rw [readDocument, wp_bind, wp_modifyGet]
  rcases hread : p.read s path with ⟨fault | d, q⟩
  · dsimp only
    split
    next hissue => exact hend fault q (.of_read hread) hissue
    next issue hissue =>
      refine hcore none _ _ ?_ (hfault fault issue q (.of_read hread) hissue)
      rfl
  · refine hcore (some d) _ _ ?_ (hok d q (.of_read hread))
    rfl

/-- A validator leaves no entry, or it has a turn: then its entry is written, or the run ends, or
there is an issue. -/
theorem wp_mergeWith {Q : Unit → Progress → Prop} (hcore : OfCore (Q ()))
    (hidle : v.leavesEntry = false → Q () p)
    (hturn : v.leavesEntry = true →
      (∀ entry q, Took s v (.merge (partsOf p v)) (v.merging (s.contextOf v) (partsOf p v)) p
        (.ok entry) q → if q.desk.shared.frozen then E (.frozen (FrozenWrite.message ⟨v.id⟩)) q
          else Q () (q.withEntry v.id entry)) ∧
      (∀ message q, Took s v (.merge (partsOf p v)) (v.merging (s.contextOf v) (partsOf p v)) p
        (.error (.frozen message)) q → E (.frozen message) q) ∧
      ∀ fault q, Took s v (.merge (partsOf p v)) (v.merging (s.contextOf v) (partsOf p v)) p
        (.error fault) q → (∀ message, fault ≠ .frozen message) →
          Q () (q.withIssue v.id (v.failureIssue (.merge (partsOf p v)) fault))) :
    (mergeWith s v).wp Q E p := by
  rw [mergeWith]
  split
  next hleaves =>
    obtain ⟨hok, hfrozen, hfault⟩ := hturn hleaves
    rw [wp_bind, wp_get, wp_bind]
    rw [mergeParts]
    refine wp_enterCall fun p' hp' => ?_
    refine wp_attempt hcore (fun entry q h => ?_) (fun message q h => ?_)
      fun fault q h hother => ?_
    · have hentry := hok entry q (h.of_core hp')
      rw [wp_bind, wp_modifyGet, Progress.write_eq]
      split at hentry
      next hfrozen => rwa [if_pos hfrozen]
      next hfrozen => rwa [if_neg hfrozen]
    · exact hfrozen message q (h.of_core hp')
    · exact hfault fault q (h.of_core hp') hother
  next hleaves => exact hidle (by simpa using hleaves)

/-- A validator does not look at the document, or it has a turn: then its issues are kept, or the
run ends, or there is an issue. -/
theorem wp_validateWith {Q : Unit → Progress → Prop} {d : Document} (hcore : OfCore (Q ()))
    (hidle : (v.validate.isSome && v.supports d) = false → Q () p)
    (hturn : ∀ hook, v.validate = some hook → v.supports d = true →
      (∀ issues q, Took s v (.validate d) (hook (s.contextOf v) d) p (.ok issues) q →
        Q () (q.withIssues v.id issues)) ∧
      (∀ message q, Took s v (.validate d) (hook (s.contextOf v) d) p (.error (.frozen message)) q →
        E (.frozen message) q) ∧
      ∀ fault q, Took s v (.validate d) (hook (s.contextOf v) d) p (.error fault) q →
        (∀ message, fault ≠ .frozen message) →
          Q () (q.withIssue v.id (v.failureIssue (.validate d.name) fault))) :
    (validateWith s d v).wp Q E p := by
  rw [validateWith]
  split
  next hnone => exact hidle (by simp [hnone])
  next hook hhook =>
    split
    next hsupports =>
      obtain ⟨hok, hfrozen, hfault⟩ := hturn hook hhook hsupports
      rw [wp_bind, enterCall, wp_modify, wp_bind]
      refine wp_attempt hcore (fun issues q h => ?_) (fun message q h => ?_)
        fun fault q h hother => ?_
      · rw [wp_bind, onDesk, wp_modify]
        exact wp_emit _ hcore (hok issues q (h.of_core rfl))
      · exact hfrozen message q (h.of_core rfl)
      · exact hfault fault q (h.of_core rfl) hother
    next hsupports => exact hidle (by simp [hsupports])

/-- A validator does not look at the project, or it has a turn: then its issues are kept, or the
run ends, or there is an issue. -/
theorem wp_validateProjectWith {Q : Unit → Progress → Prop} (hcore : OfCore (Q ()))
    (hidle : v.validateProject.isSome = false → Q () p)
    (hturn : ∀ hook, v.validateProject = some hook →
      let ds := p.documents.filter v.supports
      (∀ issues q, Took s v (.validateProject ds) (hook (s.contextOf v) ds) p (.ok issues) q →
        Q () (q.withIssues v.id issues)) ∧
      (∀ message q, Took s v (.validateProject ds) (hook (s.contextOf v) ds) p
        (.error (.frozen message)) q → E (.frozen message) q) ∧
      ∀ fault q, Took s v (.validateProject ds) (hook (s.contextOf v) ds) p (.error fault) q →
        (∀ message, fault ≠ .frozen message) →
          Q () (q.withIssue v.id (v.failureIssue (.validateProject (ds.map (·.name))) fault))) :
    (validateProjectWith s v).wp Q E p := by
  rw [validateProjectWith]
  split
  next hnone => exact hidle (by rw [hnone]; rfl)
  next hook hhook =>
    obtain ⟨hok, hfrozen, hfault⟩ := hturn hook hhook
    rw [wp_bind, wp_get]
    dsimp only
    rw [wp_bind, enterCall, wp_modify, wp_bind]
    refine wp_attempt hcore (fun issues q h => ?_) (fun message q h => ?_)
      fun fault q h hother => ?_
    · exact hok issues q (h.of_core rfl)
    · exact hfrozen message q (h.of_core rfl)
    · exact hfault fault q (h.of_core rfl) hother

end Step

end Continuity.Run
