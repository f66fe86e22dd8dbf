import Continuity.Proofs.Run.Schedule

/-! # What a run has to do

What a run reads makes its agenda: what validators are to take from the documents, who is to merge,
and where issues are to be looked for. No phase begins before those in front of it are done with,
and a run that makes a report without being cancelled has left nothing out.
-/

namespace Continuity.Run

/-- The document that was read. -/
def Deed.document? : Deed → Option Document
  | .read _ (.ok d) => some d
  | _ => none

namespace Setup

variable (s : Setup)

/-- The slots of a document for the validators that support it and have a hook for it. -/
def turnsWith (hasHook : Validator → Bool) (slot : Path → String → Slot) (d : Document) :
    List Slot :=
  (s.enabled.filter fun v => hasHook v && v.supports d).map fun v => slot d.path v.id

/-- All files are to be read, and something is to be taken from the documents. -/
def toExtract (documents : List Document) : List Slot :=
  s.paths.map .read ++ documents.flatMap (s.turnsWith (·.extract.isSome) .extract)

/-- Those that leave an entry are to merge. -/
def toMerge : List Slot := (s.enabled.filter (·.leavesEntry)).map fun v => .merge v.id

/-- Issues are to be looked for in the documents and in the project. -/
def toValidate (documents : List Document) : List Slot :=
  documents.flatMap (s.turnsWith (·.validate.isSome) .validate) ++
    (s.enabled.filter (·.validateProject.isSome)).map fun v => .validateProject v.id

/-- What a run that reads these documents has to do before a phase. -/
def agenda (documents : List Document) : (phase : Nat) → List Slot
  | 0 => []
  | 1 => s.toExtract documents
  | 2 => s.toExtract documents ++ s.toMerge
  | _ => s.toExtract documents ++ s.toMerge ++ s.toValidate documents

end Setup

/-- All that is to be done before a phase has been done. -/
def DoneBefore (s : Setup) (phase : Nat) (deeds : List Deed) : Prop :=
  s.agenda (deeds.filterMap Deed.document?) phase ⊆ deeds.filterMap Deed.slot?

/-- No phase has begun before those in front of it were done with. -/
def InPhases (s : Setup) (deeds : List Deed) : Prop :=
  ∀ before deed after, deeds = before ++ deed :: after →
    ∀ slot ∈ deed.slot?, DoneBefore s slot.phase before

/-- A run that has read these documents has used these slots, among others. -/
structure Thorough (s : Setup) (documents : List Document) (done : List Slot) (p : Progress) :
    Prop where
  validators : p.validators = s.enabled
  documents_eq : p.documents = documents
  documents : p.documents = p.deeds.filterMap Deed.document?
  done : done ⊆ p.deeds.filterMap Deed.slot?
  inPhases : InPhases s p.deeds

/-- A run has been thorough up to a phase, unless it is to be cancelled. -/
def ThoroughTo (s : Setup) (phase : Nat) (p : Progress) : Prop :=
  InPhases s p.deeds ∧
    (p.cancelled = false → ∃ documents, Thorough s documents (s.agenda documents phase) p)

theorem filterMap_one {α β : Type} (f : α → Option β) (a : α) : [a].filterMap f = (f a).toList := by
  cases h : f a <;> simp [h]

section Snoc

variable {s : Setup} {phase : Nat} {deeds : List Deed} {deed : Deed}

theorem InPhases.snoc (h : InPhases s deeds)
    (hready : ∀ slot ∈ deed.slot?, DoneBefore s slot.phase deeds) :
    InPhases s (deeds ++ [deed]) :=
  forall_cut_snoc h hready

theorem DoneBefore.snoc (h : DoneBefore s phase deeds) (hdocument : deed.document? = none) :
    DoneBefore s phase (deeds ++ [deed]) := by
  unfold DoneBefore
  rw [List.filterMap_append, List.filterMap_append, filterMap_one, hdocument, Option.toList_none,
    List.append_nil]
  exact List.Subset.trans h (List.subset_append_left _ _)

end Snoc

namespace Thorough

variable {s : Setup} {documents : List Document} {done done' : List Slot} {p q : Progress}

theorem ofCore : Progress.OfCore (Thorough s documents done) := by
  refine .intro fun p => ⟨fun h => ?_, fun h => ?_⟩
  all_goals exact ⟨h.validators, h.documents_eq, h.documents, h.done, h.inPhases⟩

theorem mono (h : Thorough s documents done p) (hsub : done' ⊆ done) :
    Thorough s documents done' p :=
  { h with done := List.Subset.trans hsub h.done }

theorem doneBefore {phase : Nat} (h : Thorough s documents done p)
    (hsub : s.agenda documents phase ⊆ done) : DoneBefore s phase p.deeds := by
  unfold DoneBefore
  rw [← h.documents, h.documents_eq]
  exact List.Subset.trans hsub h.done

/-- One more deed, when it is time for it. -/
theorem step (deed : Deed) (h : Thorough s documents done p) (hdeeds : q.deeds = p.deeds ++ [deed])
    (hvalidators : q.validators = p.validators)
    (hdocuments : q.documents = p.documents ++ deed.document?.toList)
    (hready : ∀ slot ∈ deed.slot?, s.agenda documents slot.phase ⊆ done) :
    Thorough s (documents ++ deed.document?.toList) (done ++ deed.slot?.toList) q where
  validators := hvalidators.trans h.validators
  documents_eq := by rw [hdocuments, h.documents_eq]
  documents := by rw [hdocuments, hdeeds, List.filterMap_append, h.documents, filterMap_one]
  done := by
    rw [hdeeds, List.filterMap_append, filterMap_one]
    exact List.append_subset.2 ⟨List.Subset.trans h.done (List.subset_append_left _ _),
      List.subset_append_right _ _⟩
  inPhases := hdeeds ▸ h.inPhases.snoc fun slot hslot => h.doneBefore (hready slot hslot)

theorem ask (h : Thorough s documents done p) : Thorough s documents done (p.ask s).2 := by
  have hnext := h.step (q := (p.ask s).2) _ (Progress.deeds_ask s p) rfl (List.append_nil _).symm
    nofun
  simpa [Deed.document?, Deed.slot?] using hnext

theorem withStatus (h : Thorough s documents done p) (status : Status) :
    Thorough s documents done (p.withStatus status) :=
  { h with }

/-- A validator has had a turn. -/
theorem took {α : Type} {v : Validator} {turn : Except HookFault α → Turn} {hook : Hook α}
    {outcome : Except HookFault α} (h : Thorough s documents done p)
    (htook : Took s v turn hook p outcome q)
    (hready : ∀ slot ∈ (Deed.turn v.id p.desk.shared (turn outcome)).slot?,
      s.agenda documents slot.phase ⊆ done) :
    Thorough s documents (done ++ (Deed.turn v.id p.desk.shared (turn outcome)).slot?.toList)
      q := by
  have hnext := h.step _ htook.deeds_eq (Progress.Steady.of_took htook).validators
    (by rw [htook.documents_eq]; exact (List.append_nil _).symm) hready
  exact (List.append_nil documents) ▸ hnext

end Thorough

namespace ThoroughTo

variable {s : Setup} {phase : Nat} {p : Progress}

theorem of_thorough {documents : List Document}
    (h : Thorough s documents (s.agenda documents phase) p) : ThoroughTo s phase p :=
  ⟨h.inPhases, fun _ => ⟨documents, h⟩⟩

theorem of_cancelled (hcancelled : p.cancelled = true) (h : InPhases s p.deeds) :
    ThoroughTo s phase p :=
  ⟨h, fun hrunning => absurd (hcancelled.symm.trans hrunning) nofun⟩

theorem ask (h : ThoroughTo s phase p) : ThoroughTo s phase (p.ask s).2 := by
  refine ⟨h.1.snoc nofun, fun hrunning => ?_⟩
  obtain ⟨documents, hp⟩ := h.2 (Progress.cancelled_of_ask hrunning)
  exact ⟨documents, hp.ask⟩

end ThoroughTo

namespace Step

variable {s : Setup} {documents : List Document} {done : List Slot} {p : Progress} {v : Validator}
  {d : Document}

/-! ## Loops -/

/-- Each validator of a list uses its slot if it has to. -/
theorem thorough_forM {step : Validator → Step Unit} (due : Validator → Bool)
    (slot : Validator → Slot) (l : List Validator)
    (hstep : ∀ v ∈ l, ∀ done', done ⊆ done' → ∀ p, Thorough s documents done' p →
      (step v).wp (fun _ => Thorough s documents (done' ++ ([v].filter due).map slot))
        (fun _ q => InPhases s q.deeds) p)
    (h : Thorough s documents done p) :
    (l.forM step).wp (fun _ => Thorough s documents (done ++ (l.filter due).map slot))
      (fun _ q => InPhases s q.deeds) p := by
  refine wp_forM (I := fun before => Thorough s documents (done ++ (before.filter due).map slot))
    step l (fun before v after hl q hq => ?_) (by simpa using h)
  have hnext := hstep v (by simp [hl]) _ (List.subset_append_left _ _) q hq
  rwa [List.append_assoc, ← List.map_append, ← List.filter_append] at hnext

/-- The slots for each member of a list are used, unless the run is to be cancelled. -/
theorem thorough_whileRunning {α : Type} {step : α → Step Unit} (slots : α → List Slot)
    (l : List α)
    (hstep : ∀ a ∈ l, ∀ done', done ⊆ done' → ∀ p, Thorough s documents done' p →
      (step a).wp (fun _ => Thorough s documents (done' ++ slots a))
        (fun _ q => InPhases s q.deeds) p)
    (h : Thorough s documents done p) :
    (whileRunning s step l).wp
      (fun all q => if all then Thorough s documents (done ++ l.flatMap slots) q
        else q.cancelled = true ∧ InPhases s q.deeds) (fun _ q => InPhases s q.deeds) p := by
  refine (wp_whileRunning (I := fun before => Thorough s documents (done ++ before.flatMap slots))
    step l (fun _ _ hq => hq.ask) (fun before a after hl q hq => ?_) (by simpa using h)).mono
    (fun all q hq => ?_) fun _ _ => id
  · have hnext := hstep a (by simp [hl]) _ (List.subset_append_left _ _) q hq
    rwa [List.append_assoc, ← List.flatMap_singleton slots a, ← List.flatMap_append] at hnext
  · obtain ⟨before, after, rfl, hq, hall⟩ := hq
    split
    next hend =>
      rw [if_pos hend] at hall
      rwa [hall, List.append_nil]
    next hend =>
      rw [if_neg hend] at hall
      exact ⟨hall, hq.inPhases⟩

/-! ## Extraction -/

theorem thorough_readDocument {path : Path} (h : Thorough s documents done p) :
    (readDocument s path).wp
      (fun found => Thorough s (documents ++ found.toList) (done ++ [.read path]))
      (fun _ q => InPhases s q.deeds) p := by
  have hafter {fault q} (hread : Read s path p (.error fault) q) :
      Thorough s documents (done ++ [.read path]) q := by
    have hnext := h.step _ hread.deeds_eq (Progress.Steady.of_read hread).validators
      (hread.documents_eq.trans (List.append_nil _).symm) (by rintro _ ⟨⟩; exact List.nil_subset _)
    exact (List.append_nil documents) ▸ hnext
  refine wp_readDocument (fun _ => Thorough.ofCore) (fun d q hread => ?_)
    (fun fault issue q hread _ => ?_) fun fault q hread _ => (hafter hread).inPhases
  · have hnext := h.step (q := q.withDocument d) _ hread.deeds_eq
      (Progress.Steady.of_read hread).validators (congrArg (· ++ [d]) hread.documents_eq)
      (by rintro _ ⟨⟩; exact List.nil_subset _)
    exact { hnext with }
  · rw [Option.toList_none, List.append_nil]
    exact { hafter hread with }

theorem thorough_extractWith (h : Thorough s documents done p) :
    (extractWith s d v).wp
      (fun _ => Thorough s documents (done ++
        ([v].filter fun v => v.extract.isSome && v.supports d).map fun v => .extract d.path v.id))
      (fun _ q => InPhases s q.deeds) p := by
  refine wp_extractWith Thorough.ofCore (fun hidle => ?_) fun hook hhook hsupports => ?_
  · simpa only [List.filter_singleton, hidle, cond_false, List.map_nil, List.append_nil] using h
  · have htaken {outcome q}
        (htook : Took s v (.extract d) (hook (s.contextOf v) d) p outcome q) :
        Thorough s documents (done ++ ([v].filter fun v => v.extract.isSome && v.supports d).map
          fun v => .extract d.path v.id) q := by
      have hnext := h.took htook (by rintro _ ⟨⟩; exact List.nil_subset _)
      simpa [hhook, hsupports, Deed.slot?] using hnext
    exact ⟨fun _ _ htook => { htaken htook with }, fun _ _ htook => (htaken htook).inPhases,
      fun _ _ htook _ => { htaken htook with }⟩

/-- A file is read, and what is to be taken from it is taken, if it can be read. -/
theorem thorough_extractFile {path : Path} (h : Thorough s documents done p) :
    (extractFile s path).wp (fun _ q => ∃ found : List Document,
      Thorough s (documents ++ found)
        (done ++ [.read path] ++ found.flatMap (s.turnsWith (·.extract.isSome) .extract)) q)
      (fun _ q => InPhases s q.deeds) p := by
  rw [extractFile, wp_bind]
  refine (thorough_readDocument h).mono (fun found q hq => ?_) fun _ _ => id
  cases found with
  | none => exact ⟨[], by simpa using hq⟩
  | some d =>
      rw [wp_bind, wp_get, hq.validators]
      refine (thorough_forM (fun v => v.extract.isSome && v.supports d) _ s.enabled
        (fun v _ done' _ _ hr => thorough_extractWith hr) hq).mono (fun _ r hr => ⟨[d], ?_⟩)
        fun _ _ => id
      rwa [List.flatMap_singleton]

theorem thorough_extract (h : Thorough s [] [] p) :
    (extract s).wp (fun _ => ThoroughTo s 1) (fun _ q => InPhases s q.deeds) p := by
  rw [extract, wp_bind]
  refine (wp_beginPhase (Q := fun _ => Thorough s [] []) Thorough.ofCore
    (h.withStatus _)).mono (fun _ q hq => ?_) fun _ _ => id
  rw [wp_bind]
  refine (wp_whileRunning (I := fun before q => ∃ documents, Thorough s documents
    (before.map .read ++ documents.flatMap (s.turnsWith (·.extract.isSome) .extract)) q) _ _
    (fun _ _ hp => hp.imp fun _ hp => hp.ask)
    (fun before path after _ q hq => ?_) ⟨[], hq⟩).mono (fun all r hr => ?_) fun _ _ => id
  · obtain ⟨documents, hq⟩ := hq
    refine (thorough_extractFile hq).mono (fun _ r hr => ?_) fun _ _ => id
    obtain ⟨found, hr⟩ := hr
    refine ⟨documents ++ found, hr.mono fun slot hslot => ?_⟩
    rw [List.map_append, List.flatMap_append] at hslot
    simp only [List.mem_append] at hslot ⊢
    tauto
  · obtain ⟨before, after, hpaths, ⟨documents, hr⟩, hall⟩ := hr
    split
    next hend =>
      rw [if_pos hend] at hall
      rw [hall, List.append_nil] at hpaths
      have hr : Thorough s documents (s.agenda documents 1) r := by
        rwa [Setup.agenda, Setup.toExtract, hpaths]
      exact (wp_endPhase (Q := fun _ => Thorough s documents (s.agenda documents 1)) _
        Thorough.ofCore hr).mono (fun _ _ ht => .of_thorough ht)
        fun _ _ => id
    next hend =>
      rw [if_neg hend] at hall
      exact .of_cancelled hall hr.inPhases

/-! ## Merging -/

theorem thorough_mergeWith (h : Thorough s documents done p)
    (hready : s.agenda documents 1 ⊆ done) :
    (mergeWith s v).wp
      (fun _ => Thorough s documents
        (done ++ ([v].filter (·.leavesEntry)).map fun v => .merge v.id))
      (fun _ q => InPhases s q.deeds) p := by
  refine wp_mergeWith Thorough.ofCore (fun hidle => ?_) fun hleaves => ?_
  · simpa [hidle] using h
  · have htaken {outcome q} (htook : Took s v (.merge (partsOf p v))
          (v.merging (s.contextOf v) (partsOf p v)) p outcome q) :
        Thorough s documents (done ++ ([v].filter (·.leavesEntry)).map fun v => .merge v.id) q := by
      have hnext := h.took htook (by rintro _ ⟨⟩; exact hready)
      simpa [hleaves, Deed.slot?] using hnext
    refine ⟨fun entry q htook => ?_, fun _ _ htook => (htaken htook).inPhases,
      fun _ _ htook _ => { htaken htook with }⟩
    split
    · exact (htaken htook).inPhases
    · exact { htaken htook with }

theorem thorough_merge (h : Thorough s documents (s.agenda documents 1) p) :
    (merge s).wp (fun _ => Thorough s documents (s.agenda documents 2))
      (fun _ q => InPhases s q.deeds) p := by
  rw [merge, wp_bind]
  refine (wp_beginPhase (Q := fun _ => Thorough s documents (s.agenda documents 1)) Thorough.ofCore
    (h.withStatus _)).mono (fun _ q hq => ?_) fun _ _ => id
  rw [wp_bind, wp_get, wp_bind, hq.validators]
  refine (thorough_forM (·.leavesEntry) (fun v => .merge v.id) s.enabled
    (fun v _ done' hdone _ hr => thorough_mergeWith hr hdone) hq).mono (fun _ r hr => ?_)
    fun _ _ => id
  rw [wp_bind, onDesk, wp_modify]
  exact wp_endPhase _ Thorough.ofCore { hr with }

/-! ## Validation -/

theorem thorough_validateWith (h : Thorough s documents done p)
    (hready : s.agenda documents 2 ⊆ done) :
    (validateWith s d v).wp
      (fun _ => Thorough s documents (done ++
        ([v].filter fun v => v.validate.isSome && v.supports d).map fun v => .validate d.path v.id))
      (fun _ q => InPhases s q.deeds) p := by
  refine wp_validateWith Thorough.ofCore (fun hidle => ?_) fun hook hhook hsupports => ?_
  · simpa only [List.filter_singleton, hidle, cond_false, List.map_nil, List.append_nil] using h
  · have htaken {outcome q}
        (htook : Took s v (.validate d) (hook (s.contextOf v) d) p outcome q) :
        Thorough s documents (done ++ ([v].filter fun v => v.validate.isSome && v.supports d).map
          fun v => .validate d.path v.id) q := by
      have hnext := h.took htook (by rintro _ ⟨⟩; exact hready)
      simpa [hhook, hsupports, Deed.slot?] using hnext
    exact ⟨fun _ _ htook => { htaken htook with }, fun _ _ htook => (htaken htook).inPhases,
      fun _ _ htook _ => { htaken htook with }⟩

theorem thorough_validateDocument (h : Thorough s documents done p)
    (hready : s.agenda documents 2 ⊆ done) :
    (validateDocument s d).wp
      (fun _ => Thorough s documents (done ++ s.turnsWith (·.validate.isSome) .validate d))
      (fun _ q => InPhases s q.deeds) p := by
  rw [validateDocument, wp_bind, wp_get, h.validators]
  exact thorough_forM (fun v => v.validate.isSome && v.supports d) _ s.enabled
    (fun v _ done' hdone _ hq => thorough_validateWith hq (List.Subset.trans hready hdone)) h

theorem thorough_validateProjectWith (h : Thorough s documents done p)
    (hready : s.agenda documents 2 ⊆ done) (hhas : v.validateProject.isSome = true) :
    (validateProjectWith s v).wp (fun _ => Thorough s documents (done ++ [.validateProject v.id]))
      (fun _ q => InPhases s q.deeds) p := by
  refine wp_validateProjectWith Thorough.ofCore (fun hidle => ?_) fun hook hhook => ?_
  · rw [hhas] at hidle
    cases hidle
  · have htaken {outcome q} (htook : Took s v (.validateProject (p.documents.filter v.supports))
          (hook (s.contextOf v) (p.documents.filter v.supports)) p outcome q) :
        Thorough s documents (done ++ [.validateProject v.id]) q :=
      h.took htook (by rintro _ ⟨⟩; exact hready)
    exact ⟨fun _ _ htook => { htaken htook with }, fun _ _ htook => (htaken htook).inPhases,
      fun _ _ htook _ => { htaken htook with }⟩

theorem thorough_validate (h : Thorough s documents (s.agenda documents 2) p) :
    (validate s).wp (fun _ => ThoroughTo s 3) (fun _ q => InPhases s q.deeds) p := by
  rw [validate, wp_bind]
  refine (wp_beginPhase (Q := fun _ => Thorough s documents (s.agenda documents 2)) Thorough.ofCore
    (h.withStatus _)).mono (fun _ q hq => ?_) fun _ _ => id
  rw [wp_bind, wp_get, wp_bind, hq.documents_eq]
  refine (thorough_whileRunning (s.turnsWith (·.validate.isSome) .validate) documents
    (fun d _ done' hdone _ hr => thorough_validateDocument hr hdone) hq).mono
    (fun all r hr => ?_) fun _ _ => id
  split
  next hall =>
    rw [if_pos hall] at hr
    rw [wp_bind, wp_get, wp_bind, hr.validators]
    refine (thorough_whileRunning (fun v => [.validateProject v.id]) _
      (fun v hv done' hdone _ ht => ?_) hr).mono (fun all t ht => ?_) fun _ _ => id
    · exact thorough_validateProjectWith ht
        (List.Subset.trans (List.subset_append_left _ _) hdone) (List.mem_filter.1 hv).2
    · split
      next hall =>
        rw [if_pos hall, ← List.map_eq_flatMap, List.append_assoc] at ht
        exact (wp_endPhase (Q := fun _ => Thorough s documents (s.agenda documents 3)) _
          Thorough.ofCore ht).mono (fun _ _ ht => .of_thorough ht)
          fun _ _ => id
      next hall =>
        rw [if_neg hall] at ht
        exact .of_cancelled ht.1 ht.2
  next hall =>
    rw [if_neg hall] at hr
    exact .of_cancelled hr.1 hr.2

/-! ## The way to the report -/

theorem thoroughTo_unlessCancelled {step : Step Unit} {phase : Nat}
    (hstep : ∀ documents p, Thorough s documents (s.agenda documents phase) p →
      step.wp (fun _ => ThoroughTo s (phase + 1)) (fun _ q => InPhases s q.deeds) p)
    (h : ThoroughTo s phase p) :
    (unlessCancelled s step).wp (fun _ => ThoroughTo s (phase + 1))
      (fun _ q => InPhases s q.deeds) p := by
  refine wp_unlessCancelled (fun hcancelled => ?_) fun hrunning => ?_
  · exact .of_cancelled hcancelled h.ask.1
  · obtain ⟨documents, hp⟩ := h.ask.2 hrunning
    exact hstep documents _ hp

theorem thorough_register {desk : Desk} :
    (register s).wp (fun _ => Thorough s [] []) (fun _ q => InPhases s q.deeds) { desk } := by
  have hnothing : InPhases s [] := fun _ _ _ heq => absurd heq (by simp)
  rw [register, wp_bind]
  refine wp_registerAll (p := { desk }) [] (fun _ => ?_) fun _ _ _ => hnothing
  rw [enter, wp_modify]
  exact ⟨rfl, rfl, rfl, List.nil_subset _, hnothing⟩

theorem thorough_start (h : Thorough s documents done p) :
    (start s).wp (fun _ => Thorough s documents done) (fun _ q => InPhases s q.deeds) p := by
  rw [start, wp_bind, wp_get, wp_bind, h.validators]
  refine (wp_forM (I := fun _ => Thorough s documents done) _ _
    (fun before v after _ q hq => ?_) h).mono (fun _ q hq => ?_) fun _ _ => id
  · have htaken {outcome r} (htook : Took s v .start (v.starting (s.contextOf v)) q outcome r) :
        Thorough s documents done r := by
      have hnext := hq.took htook fun _ hslot => absurd hslot (Option.not_mem_none _)
      exact (List.append_nil done) ▸ hnext
    exact wp_startWith (fun r htook => { htaken htook with })
      fun fault r htook => (htaken htook).inPhases
  · rw [wp_bind, enter, wp_modify]
    exact wp_emit _ Thorough.ofCore (hq.withStatus .initialized)

theorem thorough_toReport (desk : Desk) :
    (toReport s).wp
      (fun report q => InPhases s q.deeds ∧ (report.cancelled = false → DoneBefore s 3 q.deeds))
      (fun _ q => InPhases s q.deeds) { desk } := by
  rw [toReport, wp_bind]
  refine thorough_register.mono (fun _ p hp => ?_) fun _ _ => id
  rw [wp_bind]
  refine (thorough_start hp).mono (fun _ p hp => ?_) fun _ _ => id
  rw [wp_bind]
  have hextract : (unlessCancelled s (extract s)).wp (fun _ => ThoroughTo s 1)
      (fun _ q => InPhases s q.deeds) p :=
    wp_unlessCancelled (fun hcancelled => .of_cancelled hcancelled hp.ask.inPhases)
      fun _ => thorough_extract hp.ask
  refine hextract.mono (fun _ p hp => ?_) fun _ _ => id
  rw [wp_bind]
  refine (thoroughTo_unlessCancelled (fun _ _ hp => ?_) hp).mono (fun _ p hp => ?_) fun _ _ => id
  · exact (thorough_merge hp).mono (fun _ _ hq => .of_thorough hq) fun _ _ => id
  rw [wp_bind]
  refine (thoroughTo_unlessCancelled (fun _ _ => thorough_validate) hp).mono (fun _ p hp => ?_)
    fun _ _ => id
  rw [wp_report]
  refine ⟨hp.1, fun hrunning => ?_⟩
  obtain ⟨documents, hp⟩ := hp.2 hrunning
  exact hp.doneBefore (List.Subset.refl _)

end Step

/-! ## The whole run -/

/-- No phase of a run begins before those in front of it are done with, and if the run makes a
report without being cancelled then all phases are done with. -/
theorem inPhases_execute (s : Setup) (cancelRequested : Bool) :
    let o := execute s cancelRequested
    InPhases s o.progress.deeds ∧
      ∀ report, o.result = .ok report → report.cancelled = false →
        DoneBefore s 3 o.progress.deeds := by
  -- To make validators finish is no part of a phase.
  have hfinish {p : Progress} (h : InPhases s p.deeds) : InPhases s (finish s p).deeds :=
    foldl_finishWith_induction s (J := fun p => InPhases s p.deeds)
      (fun _ _ _ _ _ htook h => htook.deeds_eq ▸ h.snoc nofun) h
  rcases execute_cases (Step.thorough_toReport { cancelRequested })
    with ⟨fault, p, hp, hends⟩ | ⟨report, p, ⟨hp, hdone⟩, hends⟩
  · rw [hends]
    exact ⟨hfinish hp, nofun⟩
  · rw [hends]
    refine ⟨hfinish hp, ?_⟩
    rintro _ ⟨⟩ hrunning
    exact foldl_finishWith_induction s (J := fun p => DoneBefore s 3 p.deeds)
      (fun _ _ _ _ _ htook h => htook.deeds_eq ▸ h.snoc rfl) (hdone hrunning)

end Continuity.Run
