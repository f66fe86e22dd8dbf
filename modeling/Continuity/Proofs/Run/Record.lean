import Continuity.Proofs.Run.Turn

/-! # The record of a run

The deeds of a run are its record. A turn stands there with what it came to, and that is what the
validator's own hook has come to, at the desk as the deeds before have left it. What the run then
does at its desk follows from the turn. So one can follow the record from an empty desk to the last,
and no hook has been at the desk of which the record does not tell.
-/

namespace Continuity.Run

/-- The validators that are turned on, in the order in which they are called. -/
def Setup.enabled (s : Setup) : List Validator :=
  s.validators.filter fun v => s.config.isEnabled v.id

/-- The issue that a request to cancel the run becomes when it is noticed. -/
def cancellation : Issue := .ofEngine "cancelled" "Run cancelled" .info none none

/-! ## What a deed does -/

/-- A hook has worked at a desk and come to an outcome. Where there is no hook the desk stays as it
is, and the outcome is one that is given without it. -/
def Worked {α : Type} (host : Host) (hook? : Option (Hook α))
    (without : Except HookFault α → Prop) (d : Desk) (outcome : Except HookFault α) (d' : Desk) :
    Prop :=
  match hook? with
  | some hook => hook.run host d = (outcome, d')
  | none => without outcome ∧ d' = d

/-- A turn is what the validator's hook has come to, and what it has made of the desk. Only a
validator without hooks for it starts and finishes with nothing done, and one that takes something
from documents may merge it into a list without a hook. -/
def Turn.Led (s : Setup) (v : Validator) (d d' : Desk) : Turn → Prop
  | .start outcome =>
    Worked (s.hostOf v) (v.start.map (· (s.contextOf v))) (· = .ok ()) d outcome d'
  | .extract document outcome => v.supports document = true ∧
    Worked (s.hostOf v) (v.extract.map (· (s.contextOf v) document)) (fun _ => False) d outcome d'
  | .merge parts outcome =>
    Worked (s.hostOf v) (v.merge.map (· (s.contextOf v) parts))
      (fun outcome => v.extract.isSome = true ∧ outcome = .ok (.list parts)) d outcome d'
  | .validate document outcome => v.supports document = true ∧
    Worked (s.hostOf v) (v.validate.map (· (s.contextOf v) document)) (fun _ => False) d outcome d'
  | .validateProject documents outcome =>
    Worked (s.hostOf v) (v.validateProject.map (· (s.contextOf v) documents)) (fun _ => False)
      d outcome d'
  | .finish outcome =>
    Worked (s.hostOf v) (v.finish.map (· (s.contextOf v))) (· = .ok ()) d outcome d'

namespace Desk

/-- The desk with the issue that a failure becomes. A write to the frozen state becomes none. -/
def blame (v : Validator) (call : Call) (d : Desk) : HookFault → Desk
  | .frozen _ => d
  | fault => d.report v.id (v.failureIssue call fault)

/-- The desk with what is wrong with a file that was read. -/
def withReading (s : Setup) (path : Path) (d : Desk) : Except Document.LoadFault Document → Desk
  | .ok document => d.reportAll Issue.engineId document.issues
  | .error fault =>
    match fault.issue? (path.within s.root) with
    | some issue => d.report Issue.engineId issue
    | none => d

end Desk

/-- What the run makes of a turn at its desk. -/
def Turn.settle (v : Validator) (d : Desk) : Turn → Desk
  | .start _ | .finish _ | .extract _ (.ok _) => d
  | .merge _ (.ok entry) => (d.write v.id entry).2
  | .validate _ (.ok issues) | .validateProject _ (.ok issues) => d.reportAll v.id issues
  | .extract document (.error fault) => d.blame v (.extract document.name) fault
  | .merge parts (.error fault) => d.blame v (.merge parts) fault
  | .validate document (.error fault) => d.blame v (.validate document.name) fault
  | .validateProject documents (.error fault) =>
    d.blame v (.validateProject (documents.map (·.name))) fault

/-- After the deeds `before`, a deed leads from one desk to another. -/
inductive Deed.Leads (s : Setup) (before : List Deed) (d : Desk) : Deed → Desk → Prop
  | unasked : Leads s before d (.asked false) d
  /-- A request to cancel the run becomes an issue when it is first noticed. -/
  | noticed (hnew : .asked true ∉ before) :
      Leads s before d (.asked true) (d.report Issue.engineId cancellation)
  | again (hasked : .asked true ∈ before) : Leads s before d (.asked true) d
  | read {path : Path} {result : Except Document.LoadFault Document} {d' : Desk}
      (hload : d.load s.tree s.root path = (result, d')) :
      Leads s before d (.read path result) (d'.withReading s path result)
  /-- The turn of a validator that is turned on, with the shared state as it is at the desk. -/
  | turn {v : Validator} {t : Turn} {d' : Desk} (hv : v ∈ s.enabled) (hled : t.Led s v d d') :
      Leads s before d (.turn v.id d.shared t) (t.settle v d')

/-- The desk to which deeds have led from an empty one. Besides, listeners were told, the journal
was kept and the shared state was frozen, but no hook has been at the desk. -/
inductive Recorded (s : Setup) : List Deed → Desk → Prop
  | nothing : Recorded s [] {}
  | deed {before : List Deed} {deed : Deed} {d d' : Desk} (h : Recorded s before d)
      (hdeed : deed.Leads s before d d') : Recorded s (before ++ [deed]) d'
  | told {deeds : List Deed} {d d' : Desk} (h : Recorded s deeds d) (hcore : d'.core = d.core) :
      Recorded s deeds d'
  | frozen {deeds : List Deed} {d : Desk} (h : Recorded s deeds d) :
      Recorded s deeds { d with shared := d.shared.freeze }

/-- What a run has come to is on record, but for what it has read, which is forgotten at the end. -/
def Progress.OnRecord (s : Setup) (p : Progress) : Prop :=
  ∃ d, Recorded s p.deeds d ∧ p.desk.core = { d.core with cache := d.cache.clear }

/-- What holds of each member of a list and those before it holds of them still with one more
member of which it holds. -/
theorem forall_cut_snoc {α : Type} {P : List α → α → Prop} {l : List α} {a : α}
    (h : ∀ before b after, l = before ++ b :: after → P before b) (ha : P l a) :
    ∀ before b after, l ++ [a] = before ++ b :: after → P before b := by
  intro before b after heq
  rcases List.eq_nil_or_concat after with rfl | ⟨after, c, rfl⟩
  · obtain ⟨rfl, hb⟩ := List.append_inj' heq rfl
    cases hb
    exact ha
  · rw [List.concat_eq_append, ← List.cons_append, ← List.append_assoc] at heq
    exact h before b after (List.append_inj' heq rfl).1

/-- Each deed on record was done at the desk to which the deeds before it have led. -/
theorem Recorded.exists_leads {s : Setup} {deeds : List Deed} {d : Desk} (h : Recorded s deeds d) :
    ∀ before deed after, deeds = before ++ deed :: after →
      ∃ d₁ d₂, Recorded s before d₁ ∧ deed.Leads s before d₁ d₂ := by
  induction h with
  | nothing => exact fun _ _ _ hdeeds => absurd hdeeds (by simp)
  | told _ _ ih | frozen _ ih => exact ih
  | @deed before deed d d' hbefore hdeed ih => exact forall_cut_snoc ih ⟨d, d', hbefore, hdeed⟩

theorem Progress.OnRecord.exists_leads {s : Setup} {p : Progress} {before after : List Deed}
    {deed : Deed} (h : p.OnRecord s) (hdeeds : p.deeds = before ++ deed :: after) :
    ∃ d d', Recorded s before d ∧ deed.Leads s before d d' := by
  obtain ⟨d, hrecorded, -⟩ := h
  exact hrecorded.exists_leads before deed after hdeeds

/-! ## What steps leave on record -/

section Led

variable {α : Type} {s : Setup} {v : Validator} {host : Host} {hook? : Option (Hook α)}
  {without : Except HookFault α → Prop} {d d' : Desk}

theorem Worked.of_some {hook : Hook α} {outcome : Except HookFault α} (hsome : hook? = some hook)
    (h : hook.run host d = (outcome, d')) : Worked host hook? without d outcome d' := by
  subst hsome
  exact h

/-- Where a hook is missing, one that does nothing comes to what is given without it. -/
theorem Worked.of_getD {a : α} {outcome : Except HookFault α}
    (hwithout : hook? = none → without (.ok a))
    (h : (hook?.getD (pure a)).run host d = (outcome, d')) :
    Worked host hook? without d outcome d' := by
  cases hook? with
  | some hook => exact h
  | none =>
      cases h
      exact ⟨hwithout rfl, rfl⟩

theorem led_start {outcome : Except HookFault Unit}
    (h : (v.starting (s.contextOf v)).run (s.hostOf v) d = (outcome, d')) :
    (Turn.start outcome).Led s v d d' := by
  unfold Turn.Led
  refine .of_getD (fun _ => rfl) ?_
  rw [← h, Validator.starting]
  cases v.start <;> rfl

theorem led_extract {hook : Context → Document → Hook Entry} {document : Document}
    {outcome : Except HookFault Entry} (hhook : v.extract = some hook)
    (hsupports : v.supports document = true)
    (h : (hook (s.contextOf v) document).run (s.hostOf v) d = (outcome, d')) :
    (Turn.extract document outcome).Led s v d d' :=
  ⟨hsupports, .of_some (congrArg (Option.map _) hhook) h⟩

theorem led_validate {hook : Context → Document → Hook (List Issue)} {document : Document}
    {outcome : Except HookFault (List Issue)} (hhook : v.validate = some hook)
    (hsupports : v.supports document = true)
    (h : (hook (s.contextOf v) document).run (s.hostOf v) d = (outcome, d')) :
    (Turn.validate document outcome).Led s v d d' :=
  ⟨hsupports, .of_some (congrArg (Option.map _) hhook) h⟩

theorem led_validateProject {hook : Context → List Document → Hook (List Issue)}
    {documents : List Document} {outcome : Except HookFault (List Issue)}
    (hhook : v.validateProject = some hook)
    (h : (hook (s.contextOf v) documents).run (s.hostOf v) d = (outcome, d')) :
    (Turn.validateProject documents outcome).Led s v d d' := by
  unfold Turn.Led
  exact .of_some (congrArg (Option.map _) hhook) h

theorem led_finish {outcome : Except HookFault Unit}
    (h : (v.finishing (s.contextOf v)).run (s.hostOf v) d = (outcome, d')) :
    (Turn.finish outcome).Led s v d d' := by
  unfold Turn.Led
  refine .of_getD (fun _ => rfl) ?_
  rw [← h, Validator.finishing]
  cases v.finish <;> rfl

theorem led_merge {parts : List Entry} {outcome : Except HookFault Entry}
    (hleaves : v.leavesEntry = true)
    (h : (v.merging (s.contextOf v) parts).run (s.hostOf v) d = (outcome, d')) :
    (Turn.merge parts outcome).Led s v d d' := by
  unfold Turn.Led
  refine .of_getD (fun hnone => ⟨?_, rfl⟩) ?_
  · rwa [Validator.leavesEntry, Option.map_eq_none_iff.1 hnone, Option.isSome_none,
      Bool.or_false] at hleaves
  · rw [← h, Validator.merging]
    cases v.merge <;> rfl

end Led

theorem Desk.blame_eq_report {v : Validator} {call : Call} {d : Desk} {fault : HookFault}
    (hother : ∀ message, fault ≠ .frozen message) :
    d.blame v call fault = d.report v.id (v.failureIssue call fault) := by
  cases fault with
  | frozen message => exact absurd rfl (hother message)
  | _ => rfl

theorem Took.recorded {α : Type} {s : Setup} {v : Validator} {turn : Except HookFault α → Turn}
    {hook : Hook α} {p q : Progress} {outcome : Except HookFault α}
    (h : Took s v turn hook p outcome q) (hp : Recorded s p.deeds p.desk) (hv : v ∈ s.enabled)
    (hled : ∀ {d}, hook.run (s.hostOf v) d = (outcome, q.desk) → (turn outcome).Led s v d q.desk) :
    Recorded s q.deeds ((turn outcome).settle v q.desk) := by
  obtain ⟨d, hd, hrun⟩ := h.ran
  have hnext := (hp.told hd).deed (.turn hv (hled hrun))
  rwa [Desk.shared_of_core hd, ← h.deeds_eq] at hnext

theorem Read.recorded {s : Setup} {path : Path} {p q : Progress}
    {result : Except Document.LoadFault Document} (h : Read s path p result q)
    (hp : Recorded s p.deeds p.desk) : Recorded s q.deeds (q.desk.withReading s path result) := by
  rw [h.deeds_eq]
  exact hp.deed (.read h.loaded)

namespace Progress

variable (s : Setup) (p : Progress)

/-- The first time that the answer is that the run is to be cancelled, it becomes an issue. -/
theorem desk_ask : (p.ask s).2.desk =
    if (p.ask s).2.cancelled && !p.cancelled then p.desk.report Issue.engineId cancellation
    else p.desk :=
  rfl

theorem deeds_ask : (p.ask s).2.deeds = p.deeds ++ [.asked (p.ask s).2.cancelled] := rfl

end Progress

theorem Recorded.ask {s : Setup} {p : Progress} (h : Recorded s p.deeds p.desk)
    (hcancelled : p.cancelled = true ↔ .asked true ∈ p.deeds) :
    Recorded s (p.ask s).2.deeds (p.ask s).2.desk := by
  rw [Progress.deeds_ask, Progress.desk_ask]
  cases (p.ask s).2.cancelled with
  | false => exact h.deed .unasked
  | true =>
      cases hbefore : p.cancelled with
      | false =>
          refine h.deed (.noticed fun hmem => ?_)
          rw [hcancelled.2 hmem] at hbefore
          cases hbefore
      | true => exact h.deed (.again (hcancelled.1 hbefore))

end Continuity.Run
