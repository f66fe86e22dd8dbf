import Continuity.Run.Outcome

/-! # Reasoning about steps

What is to be shown of a step is carried back through it: `step.wp Q E p` says that from the
progress `p` the step succeeds only as `Q` allows, and fails only as `E` allows. Loops are carried
by an invariant on the part of the list that has had its turn.
-/

namespace Continuity.Run.Step

variable {α β : Type} {p : Progress}

theorem exec_bind (step : Step α) (next : α → Step β) :
    (step >>= next).exec p =
      match step.exec p with
      | (.ok a, q) => (next a).exec q
      | (.error fault, q) => (.error fault, q) := by
  rcases h : step.exec p with ⟨_ | _, q⟩
  all_goals
    unfold exec at h ⊢
    rw [ExceptT.run_bind, StateT.run_bind, h]
    rfl

/-- From a progress, a step succeeds only as `Q` allows, and fails only as `E` allows. -/
def wp (step : Step α) (Q : α → Progress → Prop) (E : RunFault → Progress → Prop)
    (p : Progress) : Prop :=
  match step.exec p with
  | (.ok a, q) => Q a q
  | (.error fault, q) => E fault q

variable {Q : α → Progress → Prop} {E : RunFault → Progress → Prop}

section Rules

@[simp] theorem wp_pure (a : α) : (pure a : Step α).wp Q E p ↔ Q a p := Iff.rfl

@[simp] theorem wp_throw (fault : RunFault) : (throw fault : Step α).wp Q E p ↔ E fault p := Iff.rfl

@[simp] theorem wp_get {Q : Progress → Progress → Prop} :
    (get : Step Progress).wp Q E p ↔ Q p p := Iff.rfl

@[simp] theorem wp_modify {Q : Unit → Progress → Prop} (f : Progress → Progress) :
    (modify f : Step Unit).wp Q E p ↔ Q () (f p) := Iff.rfl

@[simp] theorem wp_modifyGet (f : Progress → α × Progress) :
    (modifyGet f : Step α).wp Q E p ↔ Q (f p).1 (f p).2 := Iff.rfl

@[simp] theorem wp_bind {Q : β → Progress → Prop} (step : Step α) (next : α → Step β) :
    (step >>= next).wp Q E p ↔ step.wp (fun a => (next a).wp Q E) E p := by
  unfold wp
  rw [exec_bind]
  rcases step.exec p with ⟨_ | _, q⟩ <;> rfl

theorem wp.mono {Q' : α → Progress → Prop} {E' : RunFault → Progress → Prop} {step : Step α}
    (h : step.wp Q E p) (hQ : ∀ a q, Q a q → Q' a q) (hE : ∀ fault q, E fault q → E' fault q) :
    step.wp Q' E' p := by
  unfold wp at h ⊢
  rcases hexec : step.exec p with ⟨fault | a, q⟩
  · rw [hexec] at h
    exact hE fault q h
  · rw [hexec] at h
    exact hQ a q h

theorem wp.ok {step : Step α} {a : α} {q : Progress} (h : step.wp Q E p)
    (hexec : step.exec p = (.ok a, q)) : Q a q := by
  rwa [wp, hexec] at h

/-- A step that succeeds comes to what it comes to. -/
theorem wp.and_exec {step : Step α} (h : step.wp Q E p) :
    step.wp (fun a q => Q a q ∧ step.exec p = (.ok a, q)) E p := by
  unfold wp at h ⊢
  rcases hexec : step.exec p with ⟨fault | a, q⟩
  all_goals rw [hexec] at h
  · exact h
  · exact ⟨h, rfl⟩

end Rules

/-- A step that is left out when the run is to be cancelled. -/
theorem wp_unlessCancelled {s : Setup} {step : Step Unit} {Q : Unit → Progress → Prop}
    (hcancelled : (p.ask s).2.cancelled = true → Q () (p.ask s).2)
    (hrun : (p.ask s).2.cancelled = false → step.wp Q E (p.ask s).2) :
    (unlessCancelled s step).wp Q E p := by
  rw [unlessCancelled, wp_bind, isCancelled, wp_modifyGet]
  split
  next h => exact hcancelled h
  next h => exact hrun (Bool.eq_false_iff.2 h)

/-- A step that brings about a change, or is left out when the run is to be cancelled. -/
theorem wp_unlessCancelled_done {s : Setup} {step : Step Unit} {J : Bool → Progress → Prop}
    (hleft : J false (p.ask s).2) (hdone : step.wp (fun _ => J true) E (p.ask s).2) :
    (unlessCancelled s step).wp
      (fun _ q => ∃ done, J done q ∧ (q.cancelled = false → done = true)) E p := by
  refine wp_unlessCancelled (fun hcancelled => ⟨false, hleft, fun hnot => ?_⟩) fun _ => ?_
  · exact Bool.noConfusion (hcancelled.symm.trans hnot)
  · exact hdone.mono (fun _ q hq => ⟨true, hq, fun _ => rfl⟩) fun _ _ => id

/-! ## Loops -/

/-- A step for each member of a list, with an invariant on the members that have had their turn. -/
theorem wp_forM {I : List α → Progress → Prop} (step : α → Step Unit) (l : List α)
    (hstep : ∀ before a after, l = before ++ a :: after → ∀ p, I before p →
      (step a).wp (fun _ => I (before ++ [a])) E p)
    (h : I [] p) : (l.forM step).wp (fun _ => I l) E p := by
  -- The induction is on the members that have not had their turn yet.
  suffices hgen : ∀ after before p, l = before ++ after → I before p →
      (after.forM step).wp (fun _ => I l) E p from hgen l [] p rfl h
  intro after
  induction after with
  | nil =>
      intro before p hl hbefore
      rw [List.append_nil] at hl
      rw [List.forM_eq_forM, List.forM_nil, wp_pure, hl]
      exact hbefore
  | cons a after ih =>
      intro before p hl hbefore
      rw [List.forM_eq_forM, List.forM_cons, wp_bind]
      refine (hstep before a after hl p hbefore).mono (fun _ q hq => ?_) fun _ _ => id
      exact ih (before ++ [a]) q (by simpa using hl) hq

/-- A loop that may be left before a member of the list, with an invariant on the members that have
had their turn. -/
theorem wp_whileRunning {s : Setup} {I : List α → Progress → Prop} (step : α → Step Unit)
    (l : List α) (hask : ∀ before p, I before p → I before (p.ask s).2)
    (hstep : ∀ before a after, l = before ++ a :: after → ∀ p, I before p →
      (step a).wp (fun _ => I (before ++ [a])) E p)
    (h : I [] p) :
    (whileRunning s step l).wp (fun all q => ∃ before after, l = before ++ after ∧ I before q ∧
      if all then after = [] else q.cancelled = true) E p := by
  suffices hgen : ∀ rest done p, l = done ++ rest → I done p →
      (whileRunning s step rest).wp (fun all q => ∃ before after, l = before ++ after ∧
        I before q ∧ if all then after = [] else q.cancelled = true) E p from hgen l [] p rfl h
  intro rest
  induction rest with
  | nil =>
      intro done p hl hdone
      exact ⟨done, [], hl, hdone, rfl⟩
  | cons a rest ih =>
      intro done p hl hdone
      rw [whileRunning, wp_bind, isCancelled, wp_modifyGet]
      split
      next hcancelled => exact ⟨done, a :: rest, hl, hask done p hdone, hcancelled⟩
      next =>
        rw [wp_bind]
        refine (hstep done a rest hl _ (hask done p hdone)).mono (fun _ q hq => ?_) fun _ _ => id
        exact ih (done ++ [a]) q (by simpa using hl) hq

/-- A loop with a property that lasts as long as it goes on, and another once it has been left. -/
theorem wp_whileRunning_or {s : Setup} {I C : Progress → Prop} (step : α → Step Unit) (l : List α)
    (hgo : ∀ p, I p → (p.ask s).2.cancelled = false → I (p.ask s).2)
    (hstop : ∀ p, I p → (p.ask s).2.cancelled = true → C (p.ask s).2)
    (hstep : ∀ a ∈ l, ∀ p, I p → (step a).wp (fun _ => I) E p) (h : I p) :
    (whileRunning s step l).wp (fun all q => if all then I q else C q) E p := by
  induction l generalizing p with
  | nil => exact h
  | cons a rest ih =>
      rw [whileRunning, wp_bind, isCancelled, wp_modifyGet]
      split
      next hcancelled => exact hstop p h hcancelled
      next hrunning =>
        rw [wp_bind]
        refine (hstep a List.mem_cons_self _ (hgo p h (Bool.eq_false_iff.2 hrunning))).mono
          (fun _ q hq => ?_) fun _ _ => id
        exact ih (fun b hb => hstep b (List.mem_cons_of_mem _ hb)) hq

end Continuity.Run.Step
