import Continuity.Proofs.Run.Cancellation

/-! # Requests to cancel a run

A run does not ask once more before its report. So a request to cancel it is heeded if it comes
before the last question, and lost if it comes after: from the last check of the project, or where
nobody checks the project, from a check of the last document, or from who is told that the checks
are over.
-/

namespace Continuity.Run

namespace Step

variable {α : Type} {s : Setup}

/-- What a run with these documents checks last before its report. -/
def lastCheck (s : Setup) (documents : List Document) : Step Unit :=
  match (s.enabled.filter (·.validateProject.isSome)).getLast? with
  | some v => validateProjectWith s v
  | none =>
    match documents.getLast? with
    | some d => validateDocument s d
    | none => beginPhase .validating

/-- What a run does after its last question. -/
def lastStretch (s : Setup) (documents : List Document) : Step Report := do
  lastCheck s documents
  endPhase s "validate"
  report s

/-- A step brings a run from one progress to another, right after the run has asked and was not to
be cancelled. -/
def Unasked (s : Setup) (I : Progress → Prop) (step : Step Unit) (q : Progress) : Prop :=
  ∃ p, I p ∧ (p.ask s).1 = false ∧ step.exec (p.ask s).2 = (.ok (), q)

/-- A loop that comes to its end has asked before its last step. -/
theorem wp_whileRunning_last {I : Progress → Prop} (step : α → Step Unit) (l : List α)
    (hask : ∀ p, I p → I (p.ask s).2)
    (hstep : ∀ a ∈ l, ∀ p, I p → (step a).wp (fun _ => I) (fun _ _ => True) p)
    {p : Progress} (h : I p) :
    (whileRunning s step l).wp (fun all q => if all then I q ∧ match l.getLast? with
        | some a => Unasked s I (step a) q
        | none => q = p
      else q.cancelled = true) (fun _ _ => True) p := by
  induction l generalizing p with
  | nil => exact ⟨h, rfl⟩
  | cons a rest ih =>
      rw [whileRunning, wp_bind, isCancelled, wp_modifyGet]
      split
      next hcancelled => exact hcancelled
      next hrunning =>
        rw [wp_bind]
        refine (hstep a List.mem_cons_self _ (hask p h)).and_exec.mono (fun _ q hq => ?_)
          fun _ _ => id
        refine (ih (fun b hb => hstep b (List.mem_cons_of_mem _ hb)) hq.1).mono
          (fun all r hr => ?_) fun _ _ => id
        cases all with
        | false => exact hr
        | true =>
            -- The last step is the one at hand if nothing is left, or the last one of the rest.
            refine ⟨hr.1, ?_⟩
            cases rest with
            | nil =>
                obtain rfl := hr.2
                exact ⟨p, h, Bool.eq_false_iff.2 hrunning, hq.2⟩
            | cons b rest =>
                rw [List.getLast?_cons_cons]
                exact hr.2

/-! ## Checks -/

/-- The documents have been read, and the validators take part. -/
def Prepared (s : Setup) (documents : List Document) (p : Progress) : Prop :=
  p.documents = documents ∧ p.validators = s.enabled

/-- From one progress to another, some checks have been made and nothing else. -/
structure Checked (p q : Progress) : Prop where
  documents : q.documents = p.documents
  validators : q.validators = p.validators
  deeds : ∃ checks, q.deeds = p.deeds ++ checks ∧ ∀ deed ∈ checks, deed.stage = 5

variable {documents : List Document} {v : Validator} {d : Document} {p q r t : Progress}

theorem Prepared.ofCore : Progress.OfCore (Prepared s documents) := .intro fun _ => Iff.rfl

theorem Prepared.ask (h : Prepared s documents p) : Prepared s documents (p.ask s).2 := h

namespace Checked

theorem refl : Checked p p := ⟨rfl, rfl, [], (List.append_nil _).symm, List.forall_mem_nil _⟩

theorem ofCore : Progress.OfCore (Checked p) := by
  refine .intro fun q => ⟨fun h => ?_, fun h => ?_⟩
  all_goals exact ⟨h.documents, h.validators, h.deeds⟩

theorem prepared (h : Checked p q) (hp : Prepared s documents p) : Prepared s documents q :=
  ⟨h.documents.trans hp.1, h.validators.trans hp.2⟩

theorem took {turn : Except HookFault α → Turn} {hook : Hook α} {outcome : Except HookFault α}
    (h : Checked p q) (htook : Took s v turn hook q outcome r)
    (hstage : (Deed.turn v.id q.desk.shared (turn outcome)).stage = 5) : Checked p r := by
  obtain ⟨checks, hdeeds, hchecks⟩ := h.deeds
  refine ⟨htook.documents_eq.trans h.documents,
    (Progress.Steady.of_took htook).validators.trans h.validators,
    checks ++ [.turn v.id q.desk.shared (turn outcome)], ?_, fun deed hdeed => ?_⟩
  · rw [htook.deeds_eq, hdeeds, List.append_assoc]
  · rcases List.mem_append.1 hdeed with hdeed | hdeed
    · exact hchecks deed hdeed
    · exact List.mem_singleton.1 hdeed ▸ hstage

theorem withIssue (h : Checked p q) (validator : String) (issue : Issue) :
    Checked p (q.withIssue validator issue) := { h with }

theorem withIssues (h : Checked p q) (validator : String) (issues : List Issue) :
    Checked p (q.withIssues validator issues) := { h with }

end Checked

theorem checked_validateWith (h : Checked p q) :
    (validateWith s d v).wp (fun _ => Checked p) (fun _ _ => True) q :=
  wp_validateWith Checked.ofCore (fun _ => h) fun _ _ _ =>
    ⟨fun _ _ htook => (h.took htook rfl).withIssues _ _, fun _ _ _ => trivial,
      fun _ _ htook _ => (h.took htook rfl).withIssue _ _⟩

theorem checked_validateDocument (h : Checked p q) :
    (validateDocument s d).wp (fun _ => Checked p) (fun _ _ => True) q := by
  rw [validateDocument, wp_bind, wp_get]
  exact wp_forM (I := fun _ => Checked p) _ _ (fun _ _ _ _ _ hr => checked_validateWith hr) h

theorem checked_validateProjectWith (h : Checked p q) :
    (validateProjectWith s v).wp (fun _ => Checked p) (fun _ _ => True) q :=
  wp_validateProjectWith Checked.ofCore (fun _ => h) fun _ _ =>
    ⟨fun _ _ htook => (h.took htook rfl).withIssues _ _, fun _ _ _ => trivial,
      fun _ _ htook _ => (h.took htook rfl).withIssue _ _⟩

theorem checked_lastCheck :
    (lastCheck s documents).wp (fun _ => Checked p) (fun _ _ => True) p := by
  unfold lastCheck
  split
  · exact checked_validateProjectWith .refl
  · split
    · exact checked_validateDocument .refl
    · exact wp_beginPhase Checked.ofCore { Checked.refl with }

/-! ## The last question -/

/-- A phase of checks that is not left before its end has asked before its last check. -/
theorem unasked_validate (hp : Prepared s documents p) (hgo : (p.ask s).1 = false) :
    (validate s).wp (fun _ q => q.cancelled = true ∨
      ∃ r, Unasked s (Prepared s documents) (lastCheck s documents) r ∧
        (endPhase s "validate").exec r = (.ok (), q)) (fun _ _ => True) (p.ask s).2 := by
  have hdocument (d : Document) (q : Progress) (hq : Prepared s documents q) :
      (validateDocument s d).wp (fun _ => Prepared s documents) (fun _ _ => True) q :=
    (checked_validateDocument .refl).mono (fun _ _ h => h.prepared hq) fun _ _ => id
  have hproject (v : Validator) (q : Progress) (hq : Prepared s documents q) :
      (validateProjectWith s v).wp (fun _ => Prepared s documents) (fun _ _ => True) q :=
    (checked_validateProjectWith .refl).mono (fun _ _ h => h.prepared hq) fun _ _ => id
  rw [validate, wp_bind]
  have hbegun : (beginPhase .validating).wp (fun _ => Prepared s documents) (fun _ _ => True)
      (p.ask s).2 := wp_beginPhase Prepared.ofCore hp
  refine hbegun.and_exec.mono (fun _ q hq => ?_) fun _ _ => id
  obtain ⟨hq, hbegin⟩ := hq
  rw [wp_bind, wp_get, wp_bind, hq.1]
  refine (wp_whileRunning_last _ _ (fun _ h => h.ask) (fun d _ => hdocument d) hq).mono
    (fun all r hr => ?_) fun _ _ => id
  cases all with
  | false => exact .inl hr
  | true =>
      obtain ⟨hr, hlastDocument⟩ := hr
      rw [if_pos rfl, wp_bind, wp_get, wp_bind, hr.2]
      refine (wp_whileRunning_last _ _ (fun _ h => h.ask) (fun v _ => hproject v) hr).mono
        (fun all t ht => ?_) fun _ _ => id
      cases all with
      | false => exact .inl ht
      | true =>
          refine (wp_endPhase (Q := fun _ _ => True) _ (fun _ _ _ => id) trivial).and_exec.mono
            (fun _ u hu => .inr ⟨t, ?_, hu.2⟩) fun _ _ => id
          replace ht := ht.2
          unfold lastCheck
          split at ht
          next v hlast => simpa only [hlast] using ht
          next hnone =>
            subst ht
            rw [hnone]
            split at hlastDocument
            next d hlast => simpa only [hlast] using hlastDocument
            next hnone =>
              subst hlastDocument
              simp only [hnone]
              exact ⟨p, hp, hgo, hbegin⟩

/-- The last question of a run that is never to be cancelled is asked in the progress `p`. Nobody
has asked for the cancellation by then; what follows, up to the progress `q`, are checks and the
report. -/
structure LastAsked (s : Setup) (report : Report) (p q : Progress) : Prop where
  validators : p.validators = s.enabled
  uncancelled : p.cancelled = false
  unrequested : p.desk.cancelRequested = false
  uninterrupted : s.interrupted p.deeds = false
  rest : (lastStretch s p.documents).exec (p.ask s).2 = (.ok report, q)
  deeds : ∃ checks, q.deeds = p.deeds ++ .asked false :: checks ∧ ∀ deed ∈ checks, deed.stage = 5

/-- After a last question, a run makes its last check and its report. -/
theorem exists_lastAsked (hunasked : Unasked s (Prepared s documents) (lastCheck s documents) q)
    (hend : (endPhase s "validate").exec q = (.ok (), r)) :
    ∃ p, LastAsked s (r.desk.collector.report s.config.failOn r.cancelled) p
      (r.withStatus .aggregating) := by
  obtain ⟨p, hp, hgo, hcheck⟩ := hunasked
  obtain rfl := hp.1
  have hended : (endPhase s "validate").wp (fun _ => Checked (p.ask s).2) (fun _ _ => True) q :=
    wp_endPhase _ Checked.ofCore (checked_lastCheck.ok hcheck)
  obtain ⟨checks, hdeeds, hchecks⟩ := (hended.ok hend).deeds
  rw [Progress.deeds_ask, show (p.ask s).2.cancelled = false from hgo, List.append_assoc] at hdeeds
  simp only [Progress.ask, Bool.or_eq_false_iff] at hgo
  refine ⟨p, hp.2, hgo.1.1, hgo.1.2, hgo.2, ?_, checks, hdeeds, hchecks⟩
  rw [lastStretch, exec_bind, hcheck]
  dsimp only
  rw [exec_bind, hend]
  rfl

/-- A run that comes to its report was cancelled, or nobody had asked for that by its last
question. -/
theorem lastAsked_toReport (cancelRequested : Bool) :
    (toReport s).wp (fun report q => report.cancelled = true ∧ report.valid = false ∨
      report.cancelled = false ∧ ∃ p, LastAsked s report p q) (fun _ _ => True)
      { desk := { cancelRequested } } := by
  refine wp_toReport (.told .nothing rfl) (fun _ _ _ => trivial) fun p hp => ?_
  obtain ⟨_, -, -, hunderway, -⟩ := hp
  rw [wp_bind]
  refine (wp_unlessCancelled .inl fun hgo =>
    unasked_validate ⟨rfl, hunderway.validators⟩ hgo).mono (fun _ q hq => ?_) fun _ _ => id
  rw [wp_report]
  cases hcancelled : q.cancelled with
  | true => exact .inl ⟨rfl, by simp [Collector.report, Report.ofIssues]⟩
  | false =>
      obtain hq | ⟨r, hunasked, hend⟩ := hq
      · exact Bool.noConfusion (hcancelled.symm.trans hq)
      · exact .inr ⟨rfl, hcancelled ▸ exists_lastAsked hunasked hend⟩

end Step

open Step

/-- A run that makes a report was cancelled, or nobody had asked for its cancellation when it asked
for the last time. It asks for the last time before its last check; so a request that comes later
is lost. -/
theorem execute_heeds_request (s : Setup) (cancelRequested : Bool) {report : Report}
    (hresult : (execute s cancelRequested).result = .ok report) :
    report.cancelled = true ∧ report.valid = false ∨
      report.cancelled = false ∧ ∃ p q, LastAsked s report p q ∧
        (toReport s).exec { desk := { cancelRequested } } = (.ok report, q) := by
  obtain ⟨q, -, -, hexec, -⟩ := exists_of_execute hresult
  exact ((lastAsked_toReport cancelRequested).ok hexec).imp id fun h =>
    ⟨h.1, h.2.elim fun p hp => ⟨p, q, hp, hexec⟩⟩

/-- A validator that has seen enough once it has checked a document. -/
def leaving : Validator where
  id := "leaving"
  validate := some fun _ _ => .cancel (pure [])

/-- A document, and a validator that leaves. -/
def withLeaving : Setup where
  config := {}
  files := [⟨.absolute, ["a.md"]⟩]
  tree := .directory [("a.md", .file "A\n".toUTF8.toList)]
  validators := [leaving]

theorem withLeaving_last_asked :
    ∃ report, (execute withLeaving false).result = .ok report ∧ report.cancelled = false ∧
      ∃ p q, LastAsked withLeaving report p q := by
  have hreturns : ((execute withLeaving false).result.toOption.any fun report =>
      !report.cancelled) = true := by decide +kernel
  cases hresult : (execute withLeaving false).result with
  | error fault =>
      rw [hresult] at hreturns
      cases hreturns
  | ok report =>
      rw [hresult] at hreturns
      rcases execute_heeds_request withLeaving false hresult with hcancelled | ⟨hnot, p, q, hp, -⟩
      · rw [Except.toOption, Option.any_some, hcancelled.1] at hreturns
        cases hreturns
      · exact ⟨report, rfl, hnot, p, q, hp⟩

/-- The cancellation is asked for before the report is made, and the report says nothing of it. -/
theorem late_request_lost : ¬∀ (s : Setup) (cancelRequested : Bool) (report : Report) (q : Progress),
    (toReport s).exec { desk := { cancelRequested } } = (.ok report, q) →
      q.desk.cancelRequested = true → report.cancelled = true ∧ report.valid = false := by
  intro hheeded
  have hlost : (match (toReport withLeaving).exec { desk := { cancelRequested := false } } with
      | (.ok report, q) => q.desk.cancelRequested && !report.cancelled
      | (.error _, _) => false) = true := by decide +kernel
  split at hlost
  next report q hexec =>
    rw [Bool.and_eq_true, Bool.not_eq_true'] at hlost
    have hcancelled := (hheeded withLeaving false report q hexec hlost.1).1
    rw [hlost.2] at hcancelled
    cases hcancelled
  next => cases hlost

end Continuity.Run
