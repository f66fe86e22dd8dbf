import Mathlib.Data.List.Nodup
import Continuity.Proofs.Run.Alike
import Continuity.Proofs.Run.Pair
import Continuity.Proofs.Run.Standard
import Continuity.Proofs.Data.Merge

/-! # Validators by themselves

A run of many validators finds for one of them the issues that a run of that one alone finds. Both
runs are followed side by side: the turns of the others change nothing that the validator can tell,
and its own turns come to the same.
-/

namespace Continuity.Run

namespace Step

variable {s : Setup} {v w : Validator} {p q : Progress}

/-! ## Steps of other validators -/

section Others

variable (hne : w.id ≠ v.id) (hdiscreet : w.Discreet) (hspares : w.Each (Hook.Spares s))
  (h : Alike s v p q)

include hne hdiscreet hspares h

theorem alike_startWith :
    (startWith s w).wp (fun _ p' => Alike s v p' q) (fun _ _ => True) p := by
  refine wp_startWith (fun p' hp => ?_) fun _ _ _ => trivial
  exact { h.took_other hne (hdiscreet.acts.start _) (hspares.start _) hp with }

theorem alike_extractWith {d : Document} :
    (extractWith s d w).wp (fun _ p' => Alike s v p' q) (fun _ _ => True) p := by
  refine wp_extractWith Alike.ofCore_left (fun _ => h) fun hook hhook _ => ?_
  have htook {outcome p'} (hp : Took s w (.extract d) (hook (s.contextOf w) d) p outcome p') :
      Alike s v p' q :=
    h.took_other hne (hdiscreet.acts.extract hook hhook _ _)
      (hspares.extract hook hhook _ _) hp
  refine ⟨fun entry p' hp => ?_, fun _ _ _ => trivial, fun fault p' hp _ => ?_⟩
  · refine { htook hp with parts := ?_ }
    rw [← (htook hp).parts]
    simp [partsOf, Progress.withPart, hne]
  · exact (htook hp).withIssue_left hne rfl

theorem alike_mergeWith :
    (mergeWith s w).wp (fun _ p' => Alike s v p' q) (fun _ _ => True) p := by
  refine wp_mergeWith Alike.ofCore_left (fun _ => h) fun _ => ?_
  have htook {outcome p'} (hp : Took s w (.merge (partsOf p w))
      (w.merging (s.contextOf w) (partsOf p w)) p outcome p') : Alike s v p' q :=
    h.took_other hne (hdiscreet.acts.merge _ _) (hspares.merge _ _) hp
  refine ⟨fun entry p' hp => ?_, fun _ _ _ => trivial, fun fault p' hp _ => ?_⟩
  · split
    next => trivial
    next =>
      have hdesk := (htook hp).desk
      refine { htook hp with desk := { hdesk with entry := ?_ } }
      refine Eq.trans ?_ hdesk.entry
      exact (SharedState.lookup_write _ _ _ _).trans (if_neg hne.symm)
  · exact (htook hp).withIssue_left hne rfl

theorem alike_validateWith {d : Document} :
    (validateWith s d w).wp (fun _ p' => Alike s v p' q) (fun _ _ => True) p := by
  refine wp_validateWith Alike.ofCore_left (fun _ => h) fun hook hhook _ => ?_
  have htook {outcome p'} (hp : Took s w (.validate d) (hook (s.contextOf w) d) p outcome p') :
      Alike s v p' q :=
    h.took_other hne (hdiscreet.acts.validate hook hhook _ _)
      (hspares.validate hook hhook _ _) hp
  refine ⟨fun issues p' hp => ?_, fun _ _ _ => trivial, fun fault p' hp _ => ?_⟩
  · have hsigns := hp.ends (hdiscreet.validate hook hhook _ _)
    exact (htook hp).withIssues_left hne hsigns
  · exact (htook hp).withIssue_left hne rfl

theorem alike_validateProjectWith :
    (validateProjectWith s w).wp (fun _ p' => Alike s v p' q) (fun _ _ => True) p := by
  refine wp_validateProjectWith Alike.ofCore_left (fun _ => h) fun hook hhook => ?_
  have htook {outcome p'} (hp : Took s w (.validateProject (p.documents.filter w.supports))
      (hook (s.contextOf w) (p.documents.filter w.supports)) p outcome p') :
      Alike s v p' q :=
    h.took_other hne (hdiscreet.acts.validateProject hook hhook _ _)
      (hspares.validateProject hook hhook _ _) hp
  refine ⟨fun issues p' hp => ?_, fun _ _ _ => trivial, fun fault p' hp _ => ?_⟩
  · have hsigns := hp.ends (hdiscreet.validateProject hook hhook _ _)
    exact (htook hp).withIssues_left hne hsigns
  · exact (htook hp).withIssue_left hne rfl

end Others

/-! ## Steps of both runs -/

theorem both_get (h : Alike s v p q) :
    Both get get (fun a p' b q' => Alike s v a b ∧ Alike s v p' q') p q :=
  .of_wp ⟨h, h⟩

theorem both_emit {t : Setup} {e e' : Event} (h : Alike s v p q) :
    Both (emit s e) (emit t e') (fun _ p' _ q' => Alike s v p' q') p q :=
  .modify (h.of_core rfl rfl)

theorem both_enterCall {call call' : Call} (h : Alike s v p q) :
    Both (enterCall w call) (enterCall w call') (fun _ p' _ q' => Alike s v p' q') p q :=
  .modify (h.of_core rfl rfl)

theorem both_beginPhase {status : Status} (h : Alike s v p q) :
    Both (beginPhase status) (beginPhase status) (fun _ p' _ q' => Alike s v p' q') p q :=
  .bind (R := fun _ p' _ q' => Alike s v p' q') (.modify { h with })
    fun _ _ _ _ h => .modify { h with }

theorem both_endPhase {t : Setup} {phase : String} (h : Alike s v p q) :
    Both (endPhase s phase) (endPhase t phase) (fun _ p' _ q' => Alike s v p' q') p q := by
  refine .of_wp (wp_endPhase _ (fun p₁ p₂ hcore hp => ?_) ?_)
  · exact hp.mono (fun _ _ h => h.of_core hcore rfl) fun _ _ => id
  · exact wp_endPhase _ Alike.ofCore_right h

section Own

variable (h : Alike s v p q)

include h

/-- What a hook of the validator comes to is the same in both runs. -/
theorem both_attempt {α : Type} {call : Call} {turn : Except HookFault α → Turn} {hook : Hook α}
    {ends : Except HookFault α → Prop} (hprivate : hook.Private v.id) (hheeds : hook.Heeds v.id)
    (hends : hook.Obeys (fun _ => True) ends) :
    Both (attempt s v call turn hook) (attempt (s.only v) v call turn hook)
      (fun a p' b q' => a = b ∧ Alike s v p' q' ∧ ∀ value ∈ a, ends (.ok value)) p q := by
  refine .of_wp (wp_attempt (fun p₁ p₂ hcore hp => ?_) (fun value p' hp => ?_)
    (fun _ _ _ => trivial) fun fault p' hp _ => ?_)
  · exact hp.mono (fun _ _ h => ⟨h.1, h.2.1.of_core hcore rfl, nofun⟩) fun _ _ => id
  -- The hook cannot have failed in only one of the runs, as the desks were alike.
  · refine wp_attempt (fun _ _ _ hnot => nomatch hnot.1) (fun value' q' hq => ?_)
      (fun _ _ _ => trivial) fun fault' q' hq _ => ?_
    · obtain ⟨heq, halike⟩ := h.took hprivate hheeds hp hq
      cases heq
      refine ⟨rfl, halike, fun value' hvalue' => ?_⟩
      cases hvalue'
      exact hp.ends hends
    · exact nomatch (h.took hprivate hheeds hp hq).1
  · refine wp_attempt (fun _ _ hcore h => ⟨h.1, h.2.1.of_core rfl hcore, nofun⟩)
      (fun value' q' hq => ?_) (fun _ _ _ => trivial) fun fault' q' hq _ => ?_
    · exact nomatch (h.took hprivate hheeds hp hq).1
    · obtain ⟨heq, halike⟩ := h.took hprivate hheeds hp hq
      cases heq
      exact ⟨rfl, { halike with desk := halike.desk.report rfl }, nofun⟩

variable (hisolated : Isolated s v)

include hisolated

theorem both_startWith :
    Both (startWith s v) (startWith (s.only v) v) (fun _ p' _ q' => Alike s v p' q') p q := by
  have hown := hisolated.discreet v hisolated.mem
  refine .of_wp (wp_startWith (fun p' hp => ?_) fun _ _ _ => trivial)
  refine wp_startWith (fun q' hq => ?_) fun _ _ _ => trivial
  exact { (h.took (hown.acts.start _) (hisolated.heeds.start _) hp hq).2 with }

theorem both_extractWith {d : Document} :
    Both (extractWith s d v) (extractWith (s.only v) d v)
      (fun _ p' _ q' => Alike s v p' q') p q := by
  have hown := hisolated.discreet v hisolated.mem
  unfold extractWith
  cases hhook : v.extract with
  | none => exact .pure h
  | some hook =>
      by_cases hsupports : v.supports d = true
      · simp only [hsupports, if_true]
        refine (both_enterCall h).bind fun _ _ _ _ h => ?_
        refine (both_attempt h (hown.acts.extract hook hhook _ _)
          (hisolated.heeds.extract hook hhook _ _) (Hook.Obeys.true _)).bind fun a p' b q' h => ?_
        obtain ⟨rfl, h, -⟩ := h
        cases a with
        | none => exact .pure h
        | some entry =>
            refine Both.bind (R := fun _ p' _ q' => Alike s v p' q') (.modify ?_)
              fun _ _ _ _ h => both_emit h
            -- The part is added at the end of what others have taken in the first run.
            refine { h with parts := ?_ }
            have hparts := h.parts
            simp only [partsOf] at hparts
            simp [partsOf, hparts]
      · simp only [hsupports]
        exact .pure h

theorem both_mergeParts {parts : List Entry} :
    Both (mergeParts s v parts) (mergeParts (s.only v) v parts)
      (fun a p' b q' => a = b ∧ Alike s v p' q') p q := by
  have hown := hisolated.discreet v hisolated.mem
  have hattempt {p q} (h : Alike s v p q) :
      Both (attempt s v (.merge parts) (.merge parts) (v.merging (s.contextOf v) parts))
        (attempt (s.only v) v (.merge parts) (.merge parts) (v.merging (s.contextOf v) parts))
        (fun a p' b q' => a = b ∧ Alike s v p' q') p q :=
    (both_attempt h (hown.acts.merge _ _) (hisolated.heeds.merge _ _)
      (Hook.Obeys.true _)).mono fun _ _ _ _ h => ⟨h.1, h.2.1⟩
  unfold mergeParts
  by_cases hmerge : v.merge.isSome = true
  · simp only [hmerge, if_true]
    exact (both_enterCall h).bind fun _ _ _ _ h => hattempt h
  · simp only [hmerge]
    exact hattempt h

theorem both_mergeWith :
    Both (mergeWith s v) (mergeWith (s.only v) v) (fun _ p' _ q' => Alike s v p' q') p q := by
  have hown := hisolated.discreet v hisolated.mem
  unfold mergeWith
  by_cases hleaves : v.leavesEntry = true
  · simp only [hleaves, if_true]
    refine (both_get h).bind fun a p' b q' h => ?_
    obtain ⟨ha, h⟩ := h
    rw [ha.parts]
    refine (both_mergeParts h hisolated).bind fun a p' b q' h => ?_
    obtain ⟨rfl, h⟩ := h
    cases a with
    | none => exact .pure h
    | some entry =>
        refine .of_wp ?_
        rw [wp_bind, wp_modifyGet, Progress.write_eq]
        by_cases hfrozen : p'.desk.shared.frozen = true
        · rw [if_pos hfrozen]
          trivial
        · have hopen : ¬q'.desk.shared.frozen = true := h.desk.frozen ▸ hfrozen
          rw [if_neg hfrozen, wp_pure, wp_bind, wp_modifyGet, Progress.write_eq, if_neg hopen]
          refine { h with desk := { h.desk with entry := ?_ } }
          rw [Progress.withEntry, Progress.withEntry, SharedState.get?, SharedState.get?,
            SharedState.lookup_write, SharedState.lookup_write, if_pos rfl, if_pos rfl]
  · simp only [hleaves]
    exact .pure h

theorem both_validateWith {d : Document} :
    Both (validateWith s d v) (validateWith (s.only v) d v)
      (fun _ p' _ q' => Alike s v p' q') p q := by
  have hown := hisolated.discreet v hisolated.mem
  unfold validateWith
  cases hhook : v.validate with
  | none => exact .pure h
  | some hook =>
      by_cases hsupports : v.supports d = true
      · simp only [hsupports, if_true]
        refine (both_enterCall h).bind fun _ _ _ _ h => ?_
        refine (both_attempt h (hown.acts.validate hook hhook _ _)
          (hisolated.heeds.validate hook hhook _ _) (hown.validate hook hhook _ _)).bind
          fun a p' b q' h => ?_
        obtain ⟨rfl, h, hsigns⟩ := h
        cases a with
        | none => exact .pure h
        | some issues =>
            refine Both.bind (R := fun _ p' _ q' => Alike s v p' q') (.modify ?_)
              fun _ _ _ _ h => both_emit h
            exact { h with desk := h.desk.reportAll (hsigns issues rfl) }
      · simp only [hsupports]
        exact .pure h

theorem both_validateProjectWith :
    Both (validateProjectWith s v) (validateProjectWith (s.only v) v)
      (fun _ p' _ q' => Alike s v p' q') p q := by
  have hown := hisolated.discreet v hisolated.mem
  unfold validateProjectWith
  cases hhook : v.validateProject with
  | none => exact .pure h
  | some hook =>
      refine (both_get h).bind fun a p' b q' h => ?_
      obtain ⟨ha, h⟩ := h
      rw [ha.documents]
      refine (both_enterCall h).bind fun _ _ _ _ h => ?_
      refine (both_attempt h (hown.acts.validateProject hook hhook _ _)
        (hisolated.heeds.validateProject hook hhook _ _) (hown.validateProject hook hhook _ _)).bind
        fun a p' b q' h => ?_
      obtain ⟨rfl, h, hsigns⟩ := h
      cases a with
      | none => exact .pure h
      | some issues =>
          exact .modify { h with desk := h.desk.reportAll (hsigns issues rfl) }

theorem both_readDocument {path : Path} :
    Both (readDocument s path) (readDocument (s.only v) path)
      (fun a p' b q' => a = b ∧ Alike s v p' q') p q := by
  refine .of_wp (wp_readDocument (fun found p₁ p₂ hcore hp => ?_) (fun d p' hp => ?_)
    (fun fault issue p' hp hissue => ?_) fun _ _ _ _ => trivial)
  · exact hp.mono (fun _ _ h => ⟨h.1, h.2.of_core hcore rfl⟩) fun _ _ => id
  · refine wp_readDocument (fun found _ _ hcore h => ⟨h.1, h.2.of_core rfl hcore⟩)
      (fun d' q' hq => ?_) (fun fault issue q' hq _ => ?_) fun _ _ _ _ => trivial
    · obtain ⟨heq, halike⟩ := h.read hp hq
      cases heq
      -- What is wrong with the document counts as the run's own issue.
      have hissues : ∀ issue ∈ d.issues, issue.validator = Issue.engineId :=
        fun issue hissue => ((hp.of_ok h.desk.genuine).2 issue hissue).1
      refine ⟨rfl, { halike with documents := ?_, desk := ?_ }⟩
      · exact congrArg (· ++ [d]) halike.documents
      · exact (halike.desk.reportAll_left hisolated.id.symm hissues).reportAll_right
          hisolated.id.symm hissues
    · exact nomatch (h.read hp hq).1
  · refine wp_readDocument (fun found _ _ hcore h => ⟨h.1, h.2.of_core rfl hcore⟩)
      (fun d' q' hq => ?_) (fun fault' issue' q' hq hissue' => ?_) fun _ _ _ _ => trivial
    · exact nomatch (h.read hp hq).1
    · obtain ⟨-, halike⟩ := h.read hp hq
      have hengine := Document.LoadFault.validator_of_issue hissue
      have hengine' := Document.LoadFault.validator_of_issue hissue'
      refine ⟨rfl, { halike with desk := ?_ }⟩
      exact (halike.desk.report_left hisolated.id.symm hengine).report_right hisolated.id.symm
        hengine'

end Own

/-! ## Phases of both runs -/

section Phases

variable (hisolated : Isolated s v) (hdistinct : ∀ w ∈ s.validators, w.id = v.id → w = v)
  (h : Alike s v p q)

include hdistinct h

/-- All validators have their turns in one run, and the validator has its own in the other. -/
theorem both_forM_enabled {step step' : Validator → Step Unit}
    (hothers : ∀ w ∈ s.validators, w.id ≠ v.id → ∀ p q, Alike s v p q →
      (step w).wp (fun _ p' => Alike s v p' q) (fun _ _ => True) p)
    (hown : ∀ p q, Alike s v p q →
      Both (step v) (step' v) (fun _ p' _ q' => Alike s v p' q') p q) :
    Both (s.enabled.forM step) ((s.enabled.filter (·.id == v.id)).forM step')
      (fun _ p' _ q' => Alike s v p' q') p q := by
  refine both_forM _ _ (fun w hw hne => ?_) (fun w hw heq => ?_) h
  · exact hothers w (List.mem_filter.1 hw).1 (by simpa using hne)
  · rw [hdistinct w (List.mem_filter.1 hw).1 (by simpa using heq)]
    exact hown

include hisolated

theorem both_start :
    Both (start s) (start (s.only v)) (fun _ p' _ q' => Alike s v p' q') p q := by
  refine (both_get h).bind fun a p b q h => ?_
  obtain ⟨ha, h⟩ := h
  rw [ha.everyone, ha.alone]
  refine (both_forM_enabled hdistinct h
    (fun w hw hne _ _ h =>
      alike_startWith hne (hisolated.discreet w hw) (hisolated.spares w hw hne) h)
    fun _ _ h => both_startWith h hisolated).bind fun _ _ _ _ h => ?_
  refine Both.bind (R := fun _ p' _ q' => Alike s v p' q') (.modify { h with }) ?_
  exact fun _ _ _ _ h => both_emit h

theorem both_extractFile {path : Path} :
    Both (extractFile s path) (extractFile (s.only v) path)
      (fun _ p' _ q' => Alike s v p' q') p q := by
  refine (both_readDocument h hisolated).bind fun found p b q h => ?_
  obtain ⟨rfl, h⟩ := h
  cases found with
  | none => exact .pure h
  | some d =>
      refine (both_get h).bind fun a p b q h => ?_
      obtain ⟨ha, h⟩ := h
      rw [ha.everyone, ha.alone]
      exact both_forM_enabled hdistinct h
        (fun w hw hne _ _ h =>
      alike_extractWith hne (hisolated.discreet w hw) (hisolated.spares w hw hne) h)
        fun _ _ h => both_extractWith h hisolated

theorem both_extract :
    Both (extract s) (extract (s.only v))
      (fun _ p' _ q' => UnlessCancelled (Alike s v) p' q') p q := by
  refine (both_beginPhase h).bind fun _ p _ q h => ?_
  refine (both_whileRunning_same s.paths (fun _ _ h => h.ask_left hisolated)
    (fun _ _ h => h.ask_right hisolated)
    (fun _ _ _ _ h => both_extractFile hisolated hdistinct h) h).bind fun all p all' q h => ?_
  exact h.both fun h => (both_endPhase h).mono fun _ _ _ _ h => .inr (.inr h)

theorem both_merge :
    Both (merge s) (merge (s.only v)) (fun _ p' _ q' => UnlessCancelled (Alike s v) p' q')
      p q := by
  refine (both_beginPhase h).bind fun _ p _ q h => ?_
  refine (both_get h).bind fun a p b q h => ?_
  obtain ⟨ha, h⟩ := h
  rw [ha.everyone, ha.alone]
  refine (both_forM_enabled hdistinct h
    (fun w hw hne _ _ h =>
      alike_mergeWith hne (hisolated.discreet w hw) (hisolated.spares w hw hne) h)
    fun _ _ h => both_mergeWith h hisolated).bind fun _ _ _ _ h => ?_
  refine Both.bind (R := fun _ p' _ q' => Alike s v p' q') (.modify ?_) ?_
  · exact { h with desk := { h.desk with frozen := rfl } }
  · exact fun _ _ _ _ h => (both_endPhase h).mono fun _ _ _ _ h => .inr (.inr h)

theorem both_validateDocument {d : Document} :
    Both (validateDocument s d) (validateDocument (s.only v) d)
      (fun _ p' _ q' => Alike s v p' q') p q := by
  refine (both_get h).bind fun a p b q h => ?_
  obtain ⟨ha, h⟩ := h
  rw [ha.everyone, ha.alone]
  exact both_forM_enabled hdistinct h
    (fun w hw hne _ _ h =>
      alike_validateWith hne (hisolated.discreet w hw) (hisolated.spares w hw hne) h)
    fun _ _ h => both_validateWith h hisolated

theorem both_validateProject :
    Both (whileRunning s (validateProjectWith s) (s.enabled.filter (·.validateProject.isSome)))
      (whileRunning (s.only v) (validateProjectWith (s.only v))
        ((s.enabled.filter (·.id == v.id)).filter (·.validateProject.isSome)))
      (BothEnded (Alike s v)) p q := by
  rw [List.filter_filter, List.filter_congr fun _ _ => Bool.and_comm _ _, ← List.filter_filter]
  refine both_whileRunning _ _ (fun _ _ h => h.ask_left hisolated)
    (fun _ _ h => h.ask_right hisolated) (fun w hw hne _ _ h => ?_) (fun w hw heq _ _ h => ?_) h
  · have hmem := (List.mem_filter.1 (List.mem_filter.1 hw).1).1
    have hne : w.id ≠ v.id := by simpa using hne
    exact alike_validateProjectWith hne (hisolated.discreet w hmem) (hisolated.spares w hmem hne) h
  · have hmem := (List.mem_filter.1 (List.mem_filter.1 hw).1).1
    rw [hdistinct w hmem (by simpa using heq)]
    exact both_validateProjectWith h hisolated

theorem both_validate :
    Both (validate s) (validate (s.only v))
      (fun _ p' _ q' => UnlessCancelled (Alike s v) p' q') p q := by
  refine (both_beginPhase h).bind fun _ p _ q h => ?_
  refine (both_get h).bind fun a p b q h => ?_
  obtain ⟨ha, h⟩ := h
  rw [ha.documents]
  refine (both_whileRunning_same b.documents (fun _ _ h => h.ask_left hisolated)
    (fun _ _ h => h.ask_right hisolated)
    (fun _ _ _ _ h => both_validateDocument hisolated hdistinct h) h).bind fun all p all' q h => ?_
  refine h.both fun h => ?_
  refine (both_get h).bind fun a p b q h => ?_
  obtain ⟨ha, h⟩ := h
  rw [ha.everyone, ha.alone]
  refine (both_validateProject hisolated hdistinct h).bind fun all p all' q h => ?_
  exact h.both fun h => (both_endPhase h).mono fun _ _ _ _ h => .inr (.inr h)

end Phases

/-! ## The way to the report -/

/-- No other validator has the id of one if no two have one id. -/
theorem filter_id_eq {l : List Validator} (hnodup : (l.map (·.id)).Nodup) (hv : v ∈ l) :
    l.filter (·.id == v.id) = [v] := by
  induction l with
  | nil => cases hv
  | cons first rest ih =>
      rw [List.map_cons, List.nodup_cons] at hnodup
      rcases List.mem_cons.1 hv with rfl | hv
      · rw [List.filter_cons_of_pos (by simp), List.filter_eq_nil_iff.2]
        intro w hw heq
        exact hnodup.1 (List.mem_map.2 ⟨w, hw, beq_iff_eq.1 heq⟩)
      · have hne : first.id ≠ v.id := fun heq => hnodup.1 (heq ▸ List.mem_map_of_mem hv)
        rw [List.filter_cons_of_neg (by simpa using hne), ih hnodup.2 hv]

theorem both_register (hisolated : Isolated s v) (early early' : Bool) :
    Both (register s) (register (s.only v)) (fun _ p' _ q' =>
        (∀ w ∈ s.validators, w.id = v.id → w = v) ∧ Alike s v p' q')
      { desk := { cancelRequested := early } } { desk := { cancelRequested := early' } } := by
  refine .of_wp ?_
  rw [register, wp_bind]
  refine wp_registerAll (p := { desk := { cancelRequested := early } }) [] (fun hfresh => ?_)
    fun _ _ _ => trivial
  rw [enter, wp_modify, register, wp_bind]
  refine wp_registerAll (p := { desk := { cancelRequested := early' } }) [] (fun _ => ?_)
    fun _ _ _ => trivial
  rw [enter, wp_modify]
  refine ⟨fun w hw heq => List.inj_on_of_nodup_map hfresh.1 hw hisolated.mem heq, ?_⟩
  have halone : s.enabled.filter (·.id == v.id) = (s.only v).enabled := by
    rw [Setup.enabled, List.filter_filter, List.filter_congr fun _ _ => Bool.and_comm _ _,
      ← List.filter_filter, filter_id_eq hfresh.1 hisolated.mem]
    rfl
  exact ⟨rfl, halone.symm, rfl, rfl, .start s v⟩

theorem both_toReport (hisolated : Isolated s v) (early early' : Bool) :
    Both (toReport s) (toReport (s.only v)) (fun report p' report' q' =>
        UnlessCancelled (Alike s v) p' q' ∧
        report = p'.desk.collector.report s.config.failOn p'.cancelled ∧
        report' = q'.desk.collector.report s.config.failOn q'.cancelled)
      { desk := { cancelRequested := early } } { desk := { cancelRequested := early' } } := by
  have hleft p q (h : Alike s v p q) := h.ask_left hisolated
  have hright p q (h : Alike s v p q) := h.ask_right hisolated
  refine (both_register hisolated early early').bind fun _ p _ q h => ?_
  obtain ⟨hdistinct, h⟩ := h
  refine (both_start hisolated hdistinct h).bind fun _ p _ q h => ?_
  refine (both_unlessCancelled hleft hright (fun _ _ h => both_extract hisolated hdistinct h)
    (.inr (.inr h))).bind fun _ p _ q h => ?_
  refine (both_unlessCancelled hleft hright (fun _ _ h => both_merge hisolated hdistinct h)
    h).bind fun _ p _ q h => ?_
  refine (both_unlessCancelled hleft hright (fun _ _ h => both_validate hisolated hdistinct h)
    h).bind fun _ p _ q h => ?_
  refine .of_wp ⟨?_, rfl, rfl⟩
  rcases h with h | h | h
  · exact .inl h
  · exact .inr (.inl h)
  · exact .inr (.inr { h with })

end Step

/-- If a run of all validators and a run of one alone make reports and are not cancelled, then the
reports have the same issues of this one, in the same order. -/
theorem execute_isolates {s : Setup} {v : Validator} (h : Isolated s v) {early early' : Bool}
    {report report' : Report} (hreport : (execute s early).result = .ok report)
    (hreport' : (execute (s.only v) early').result = .ok report')
    (hcancelled : report.cancelled = false) (hcancelled' : report'.cancelled = false) :
    report.issues.filter (·.validator == v.id) = report'.issues.filter (·.validator == v.id) := by
  have hboth := Step.both_toReport h early early'
  unfold execute at hreport hreport'
  rcases hp : (Step.toReport s).exec { desk := { cancelRequested := early } } with ⟨_ | r, p⟩
  · rw [hp] at hreport
    cases hreport
  rcases hq : (Step.toReport (s.only v)).exec { desk := { cancelRequested := early' } } with
    ⟨_ | r', q⟩
  · rw [hq] at hreport'
    cases hreport'
  rw [hp] at hreport
  rw [hq] at hreport'
  cases hreport
  cases hreport'
  obtain ⟨halike, rfl, rfl⟩ := hboth report p report' q hp hq
  rcases halike with hnot | hnot | halike
  -- A run that is to be cancelled says so in its report.
  · exact Bool.noConfusion (hnot.symm.trans hcancelled)
  · exact Bool.noConfusion (hnot.symm.trans hcancelled')
  · rw [Collector.report, Collector.report, Report.filter_issues, Report.filter_issues,
      halike.desk.signed.1.filter_issues, halike.desk.signed.2.filter_issues, halike.desk.issues]
    rfl

/-- No standard validator depends on which others there are. -/
theorem standard_isolated {s : Setup} {v : Validator}
    (hs : ∀ w ∈ s.validators, w ∈ standardValidators) (hv : v ∈ s.validators) : Isolated s v where
  id := by
    rcases List.mem_cons.1 (hs v hv) with rfl | hstandard
    · decide
    · cases List.mem_singleton.1 hstandard
      decide
  mem := hv
  heeds := standard_heeds v (hs v hv)
  discreet w hw := standard_discreet w (hs w hw)
  spares w hw _ := (standard_observes w (hs w hw)).mono fun _ h => h.neverLoads.spares

/-! ## A validator that fails -/

/-- A run makes a report and is not cancelled. -/
def Completes (s : Setup) : Bool :=
  match (execute s false).result with
  | .ok report => !report.cancelled
  | .error _ => false

theorem Completes.exists_report {s : Setup} (h : Completes s = true) :
    ∃ report, (execute s false).result = .ok report ∧ report.cancelled = false := by
  unfold Completes at h
  split at h
  next report hreport => exact ⟨report, hreport, by simpa using h⟩
  next => cases h

/-- A validator that fails whenever it is called upon in a phase. -/
def faulty : Validator where
  id := "faulty"
  extract := some fun _ _ => .fail (.failure "RuntimeError" "no")
  merge := some fun _ _ => .fail (.failure "RuntimeError" "no")
  validate := some fun _ _ => .fail (.failure "RuntimeError" "no")
  validateProject := some fun _ _ => .fail (.failure "RuntimeError" "no")

theorem faulty_observes : faulty.Each Hook.Observes where
  start c := trivial
  extract := by
    rintro _ ⟨⟩ c d
    trivial
  merge c parts := trivial
  validate := by
    rintro _ ⟨⟩ c d
    trivial
  validateProject := by
    rintro _ ⟨⟩ c ds
    trivial
  finish c := trivial

/-- The standard validators, and one that fails. -/
def withFaulty : Setup where
  config := {}
  files := [⟨.absolute, ["a.md"]⟩]
  tree := .directory [("a.md", .file "[b](b.md)\n".toUTF8.toList)]
  validators := faulty :: standardValidators

theorem withFaulty_isolated : Isolated withFaulty Link.validator where
  id := by decide
  mem := .tail _ (.tail _ (.head _))
  heeds := link_heeds
  discreet := by
    intro w hw
    rcases List.mem_cons.1 hw with rfl | hw
    · refine ⟨faulty_observes.mono fun _ h => h.private _, ?_, ?_⟩
      · rintro _ ⟨⟩ c d
        trivial
      · rintro _ ⟨⟩ c ds
        trivial
    · exact standard_discreet w hw
  spares := by
    intro w hw _
    rcases List.mem_cons.1 hw with rfl | hw
    · exact faulty_observes.mono fun _ h => h.neverLoads.spares
    · exact (standard_observes w hw).mono fun _ h => h.neverLoads.spares

/-- The issues of links are the same as if nothing had failed. -/
theorem withFaulty_isolates :
    ∃ report report', (execute withFaulty false).result = .ok report ∧
      (execute (withFaulty.only Link.validator) false).result = .ok report' ∧
      report.issues.filter (·.validator == Link.validator.id) =
        report'.issues.filter (·.validator == Link.validator.id) := by
  obtain ⟨report, hreport, hcancelled⟩ :=
    Completes.exists_report (s := withFaulty) (by decide +kernel)
  obtain ⟨report', hreport', hcancelled'⟩ :=
    Completes.exists_report (s := withFaulty.only Link.validator) (by decide +kernel)
  exact ⟨report, report', hreport, hreport',
    execute_isolates withFaulty_isolated hreport hreport' hcancelled hcancelled'⟩

/-! ## A validator that reads -/

/-- A validator that reads a file when it starts. -/
def reading (path : Path) : Validator where
  id := "reading"
  start := some fun _ => Hook.document path >>= fun _ => pure ()

/-- A validator that objects to documents whose front matter is one truth value. -/
def objecting : Validator where
  id := "objecting"
  validate := some fun _ d => pure <| match d.frontMatter with
    | [(_, .bool _)] =>
      [{ code := "OBJ001", severity := .info, message := "truth value", validator := "objecting" }]
    | _ => []

/-- A file with a declaration of the version, which is read before the file to be examined. -/
def withReading : Setup where
  config := {}
  files := [⟨.absolute, ["a.md"]⟩]
  tree := .directory [("a.md", .file "---\ntitle: yes\n---\n".toUTF8.toList),
    ("z.md", .file "---\n%YAML 1.1\n--- x\n---\n".toUTF8.toList)]
  validators := [reading ⟨.absolute, ["z.md"]⟩, objecting]

theorem reading_discreet (path : Path) : (reading path).Discreet where
  acts :=
    { start := fun c => ⟨trivial, fun answer => by cases answer <;> trivial⟩
      extract := nofun
      merge := fun c parts => trivial
      validate := nofun
      validateProject := nofun
      finish := fun c => trivial }
  validate := nofun
  validateProject := nofun

theorem objecting_discreet : objecting.Discreet where
  acts :=
    { start := fun c => trivial
      extract := nofun
      merge := fun c parts => trivial
      validate := by
        rintro _ ⟨⟩ c d
        trivial
      validateProject := nofun
      finish := fun c => trivial }
  validate := by
    rintro _ ⟨⟩ c d
    show Hook.Signs "objecting" (.ok _)
    intro issue hissue
    split at hissue
    · cases List.mem_singleton.1 hissue
      rfl
    · cases hissue
  validateProject := nofun

theorem objecting_heeds : objecting.Each (Hook.Heeds objecting.id) where
  start c := trivial
  extract := nofun
  merge c parts := trivial
  validate := by
    rintro _ ⟨⟩ c d
    trivial
  validateProject := nofun
  finish c := trivial

/-- It is not enough that validators keep to themselves: a file that another validator has read can
change what the files read after it come to. -/
theorem withReading_not_isolated :
    ¬∀ (s : Setup) (v : Validator), v.id ≠ Issue.engineId → v ∈ s.validators →
      v.Each (Hook.Heeds v.id) → (∀ w ∈ s.validators, w.Discreet) →
      ∀ report report', (execute s false).result = .ok report →
        (execute (s.only v) false).result = .ok report' →
        report.cancelled = false → report'.cancelled = false →
        report.issues.filter (·.validator == v.id) =
          report'.issues.filter (·.validator == v.id) := by
  intro h
  obtain ⟨report, hreport, hcancelled⟩ :=
    Completes.exists_report (s := withReading) (by decide +kernel)
  obtain ⟨report', hreport', hcancelled'⟩ :=
    Completes.exists_report (s := withReading.only objecting) (by decide +kernel)
  have heq := h withReading objecting (by decide) (.tail _ (.head _)) objecting_heeds
    (by
      intro w hw
      rcases List.mem_cons.1 hw with rfl | hw
      · exact reading_discreet _
      · cases List.mem_singleton.1 hw
        exact objecting_discreet)
    report report' hreport hreport' hcancelled hcancelled'
  have hcount : (match (execute withReading false).result with
      | .ok report => (report.issues.filter (·.validator == objecting.id)).length
      | .error _ => 0) = 1 := by decide +kernel
  have hcount' : (match (execute (withReading.only objecting) false).result with
      | .ok report => (report.issues.filter (·.validator == objecting.id)).length
      | .error _ => 0) = 0 := by decide +kernel
  rw [hreport] at hcount
  rw [hreport'] at hcount'
  dsimp only at hcount hcount'
  rw [heq, hcount'] at hcount
  cases hcount

end Continuity.Run
