import Continuity.Proofs.Run.Record

/-! # The course of a run

Whatever hooks do and whenever someone asks for cancellation, a run passes through its states in one
order, up to the first deed with a fault if there is one, and every validator that has started is
made to finish, once and last.
-/

namespace Continuity.Run

namespace Deed

/-- The validator that has started with this deed. -/
def started? : Deed → Option String
  | .turn v _ (.start (.ok ())) => some v
  | _ => none

/-- The validator that was made to finish by this deed. -/
def finished? : Deed → Option String
  | .turn v _ (.finish _) => some v
  | _ => none

/-- How many states a run has passed into when it does this, if it is a deed that can fail. -/
def stage : Deed → Nat
  | .asked _ => 0
  | .read .. => 3
  | .turn _ _ (.start _) => 1
  | .turn _ _ (.extract ..) => 3
  | .turn _ _ (.merge ..) => 4
  | .turn _ _ (.validate ..) | .turn _ _ (.validateProject ..) => 5
  | .turn _ _ (.finish _) => 6

end Deed

/-- The fault of a run in which a hook writes to the frozen state. -/
def HookFault.frozen? : HookFault → Option RunFault
  | .frozen message => some (.frozen message)
  | _ => none

theorem HookFault.frozen?_eq_none {fault : HookFault}
    (hother : ∀ message, fault ≠ .frozen message) : fault.frozen? = none := by
  cases fault with
  | frozen message => exact absurd rfl (hother message)
  | _ => rfl

/-- The fault with which a deed ends its run: a scalar in front matter that cannot be used, a start
that fails, or a write to the frozen state. -/
def Deed.fault? : Deed → Option RunFault
  | .read _ (.error fault) => if fault.kind?.isNone then some (.document fault) else none
  | .turn v _ (.start (.error fault)) =>
    match fault with
    | .configuration message problems => some (.configuration message problems)
    | cause => some (.notStarted v cause)
  | .turn v found (.merge _ (.ok _)) =>
    if found.frozen then some (.frozen (FrozenWrite.message ⟨v⟩)) else none
  | .turn _ _ (.extract _ (.error fault)) | .turn _ _ (.merge _ (.error fault))
  | .turn _ _ (.validate _ (.error fault)) | .turn _ _ (.validateProject _ (.error fault)) =>
    fault.frozen?
  | _ => none

/-- The states of a run before its report, in order. -/
def course : List Status := [.registered, .initialized, .extracting, .mergingState, .validating]

/-- The deeds tell who has started: the first of the validators that are turned on, in their order.
Nobody was made to finish yet. And the deeds have led to the desk. -/
structure Accounted (s : Setup) (p : Progress) : Prop where
  started : p.deeds.filterMap Deed.started? = p.started.map (·.id)
  finished : ∀ deed ∈ p.deeds, deed.finished? = none
  enabled : p.started <+: s.enabled
  nodup : (p.started.map (·.id)).Nodup
  recorded : Recorded s p.deeds p.desk

/-- A run with all validators that are turned on has passed through some states, and those at work
are the ones that have started. No deed was to end it. -/
structure Underway (s : Setup) (atWork : List Validator) (history : List Status) (p : Progress) :
    Prop extends Accounted s p where
  atWork_eq : p.started = atWork
  history : p.history = history
  validators : p.validators = s.enabled
  cancelled : p.cancelled = true ↔ .asked true ∈ p.deeds
  faultless : ∀ deed ∈ p.deeds, deed.fault? = none

/-- A run has passed into a number of states since all its validators have started. -/
abbrev Reached (s : Setup) (phase : Nat) (p : Progress) : Prop :=
  Underway s s.enabled (course.take phase) p

/-- A run with these deeds fails for the fault of the last one, and none before it has a fault; or
it fails before it does anything, as two validators have one id. -/
def FailsWith (s : Setup) (fault : RunFault) (deeds : List Deed) : Prop :=
  (∃ before deed, deeds = before ++ [deed] ∧ (∀ d ∈ before, d.fault? = none) ∧
    deed.fault? = some fault) ∨
  deeds = [] ∧ ¬(s.validators.map (·.id)).Nodup ∧ ∃ id, fault = .duplicate id

/-- A run has failed with its last deed, or before it did anything. -/
structure Halted (s : Setup) (fault : RunFault) (p : Progress) : Prop extends Accounted s p where
  history : p.history = course.take ((p.deeds.getLast?.map Deed.stage).getD 0)
  failsWith : FailsWith s fault p.deeds

/-- A run has passed through the states up to a phase, or through fewer as it is to be cancelled. -/
def Passed (s : Setup) (phase : Nat) (p : Progress) : Prop :=
  ∃ reached, 2 ≤ reached ∧ reached ≤ phase ∧ Reached s reached p ∧
    (p.cancelled = false → reached = phase)

/-- A run has ended: `before` its end nobody was made to finish; then exactly the validators that
have started were, once and the last one first. All this is on record: whoever has started or was
made to finish has had its own hook called, and no hook was called besides. Nothing is left of what
the run has read or taken from the documents. -/
structure WoundUp (s : Setup) (before finishing : List Deed) (p : Progress) : Prop where
  deeds : p.deeds = before ++ finishing
  unfinished : ∀ deed ∈ before, deed.finished? = none
  finished : finishing.map Deed.finished? = (before.filterMap Deed.started?).reverse.map some
  enabled : before.filterMap Deed.started? <+: s.enabled.map (·.id)
  nodup : (before.filterMap Deed.started?).Nodup
  onRecord : p.OnRecord s
  readings : p.desk.cache.readings = []
  parts : p.parts = []
  documents : p.documents = []

/-- A deed that starts nobody and makes nobody finish changes nothing. -/
theorem Accounted.snoc {s : Setup} {p q : Progress} {deed : Deed} (h : Accounted s p)
    (hstarters : q.started = p.started) (hdeeds : q.deeds = p.deeds ++ [deed])
    (hstarted : deed.started? = none) (hfinished : deed.finished? = none)
    (hrecorded : Recorded s q.deeds q.desk) : Accounted s q := by
  refine ⟨?_, ?_, hstarters ▸ h.enabled, hstarters ▸ h.nodup, hrecorded⟩
  · rw [hdeeds, hstarters, List.filterMap_append, h.started]
    simp [hstarted]
  · rw [hdeeds, List.forall_mem_append]
    exact ⟨h.finished, List.forall_mem_singleton.2 hfinished⟩

namespace Underway

variable {s : Setup} {atWork : List Validator} {history : List Status} {p q : Progress}

theorem congr (h : Underway s atWork history p) (hsteady : p.Steady q)
    (hdeeds : q.deeds = p.deeds) (hrecorded : Recorded s q.deeds q.desk) :
    Underway s atWork history q where
  started := by rw [hdeeds, hsteady.started, h.started]
  finished := by rw [hdeeds]; exact h.finished
  enabled := by rw [hsteady.started]; exact h.enabled
  nodup := by rw [hsteady.started]; exact h.nodup
  recorded := hrecorded
  atWork_eq := hsteady.started.trans h.atWork_eq
  history := by rw [hsteady.history, h.history]
  validators := by rw [hsteady.validators, h.validators]
  cancelled := by rw [hsteady.cancelled, hdeeds, h.cancelled]
  faultless := by rw [hdeeds]; exact h.faultless

theorem ofCore : Progress.OfCore (Underway s atWork history) := by
  intro p q hcore h
  have hdeeds : q.deeds = p.deeds := (congrArg Progress.deeds hcore :)
  have hdesk : q.desk.core = p.desk.core := (congrArg Progress.desk hcore :)
  exact h.congr (.of_core hcore) hdeeds (hdeeds ▸ h.recorded.told hdesk)

theorem snoc {deed : Deed} (h : Underway s atWork history p) (hsteady : p.Steady q)
    (hdeeds : q.deeds = p.deeds ++ [deed]) (hstarted : deed.started? = none)
    (hfinished : deed.finished? = none) (hasked : deed ≠ .asked true)
    (hfault : deed.fault? = none) (hrecorded : Recorded s q.deeds q.desk) :
    Underway s atWork history q where
  toAccounted := h.toAccounted.snoc hsteady.started hdeeds hstarted hfinished hrecorded
  atWork_eq := hsteady.started.trans h.atWork_eq
  history := hsteady.history.trans h.history
  validators := hsteady.validators.trans h.validators
  cancelled := by
    rw [hsteady.cancelled, hdeeds, List.mem_append, List.mem_singleton, h.cancelled]
    simp [hasked.symm]
  faultless := by
    rw [hdeeds, List.forall_mem_append]
    exact ⟨h.faultless, List.forall_mem_singleton.2 hfault⟩

theorem ask (h : Underway s atWork history p) : Underway s atWork history (p.ask s).2 where
  toAccounted :=
    h.toAccounted.snoc rfl (Progress.deeds_ask s p) rfl rfl (h.recorded.ask h.cancelled)
  atWork_eq := h.atWork_eq
  history := h.history
  validators := h.validators
  cancelled := by
    rw [Progress.ask, List.mem_append, ← h.cancelled]
    simp [or_assoc]
  faultless := by
    rw [Progress.deeds_ask, List.forall_mem_append]
    exact ⟨h.faultless, List.forall_mem_singleton.2 rfl⟩

theorem withStatus (h : Underway s atWork history p) (status : Status) :
    Underway s atWork (history ++ [status]) (p.withStatus status) where
  toAccounted := ⟨h.started, h.finished, h.enabled, h.nodup, h.recorded⟩
  atWork_eq := h.atWork_eq
  history := congrArg (· ++ [status]) h.history
  validators := h.validators
  cancelled := h.cancelled
  faultless := h.faultless

/-- A run fails in a state with a deed that has a fault, if that is what the state is for. -/
theorem halted {deed : Deed} {fault : RunFault} (h : Underway s atWork history p)
    (hsteady : p.Steady q) (hdeeds : q.deeds = p.deeds ++ [deed]) (hstarted : deed.started? = none)
    (hfinished : deed.finished? = none) (hstage : history = course.take deed.stage)
    (hfault : deed.fault? = some fault) (hrecorded : Recorded s q.deeds q.desk) :
    Halted s fault q where
  toAccounted := h.toAccounted.snoc hsteady.started hdeeds hstarted hfinished hrecorded
  history := by
    rw [hsteady.history, h.history, hdeeds, List.getLast?_concat, hstage]
    rfl
  failsWith := .inl ⟨p.deeds, deed, hdeeds, h.faultless, hfault⟩

end Underway

section Turns

variable {s : Setup} {v : Validator} {p q r : Progress} {α : Type}
  {turn : Except HookFault α → Turn} {hook : Hook α} {outcome : Except HookFault α}
  {atWork : List Validator} {history : List Status}

/-- A validator has had a turn that neither starts nor finishes it, and the run has made of it what
it does. -/
theorem Took.underway (h : Took s v turn hook p outcome q) (hp : Underway s atWork history p)
    (hv : v ∈ s.enabled)
    (hled : ∀ {d}, hook.run (s.hostOf v) d = (outcome, q.desk) → (turn outcome).Led s v d q.desk)
    (hfault : (Deed.turn v.id p.desk.shared (turn outcome)).fault? = none)
    (hdesk : r.desk = (turn outcome).settle v q.desk := by rfl)
    (hdeeds : r.deeds = q.deeds := by rfl) (hsteady : q.Steady r := by exact ⟨rfl, rfl, rfl, rfl⟩)
    (hstarted : (Deed.turn v.id p.desk.shared (turn outcome)).started? = none := by rfl)
    (hfinished : (Deed.turn v.id p.desk.shared (turn outcome)).finished? = none := by rfl) :
    Underway s atWork history r := by
  refine hp.snoc ((Progress.Steady.of_took h).trans hsteady) (hdeeds.trans h.deeds_eq) hstarted
    hfinished nofun hfault ?_
  rw [hdeeds, hdesk]
  exact h.recorded hp.recorded hv hled

/-- A validator has had a turn with a fault, and the run fails in the state that the turn is for. -/
theorem Took.halted {fault : RunFault} (h : Took s v turn hook p outcome q)
    (hp : Underway s atWork history p) (hv : v ∈ s.enabled)
    (hled : ∀ {d}, hook.run (s.hostOf v) d = (outcome, q.desk) → (turn outcome).Led s v d q.desk)
    (hfault : (Deed.turn v.id p.desk.shared (turn outcome)).fault? = some fault)
    (hdesk : q.desk = (turn outcome).settle v q.desk := by rfl)
    (hstage : history = course.take (Deed.turn v.id p.desk.shared (turn outcome)).stage := by rfl)
    (hstarted : (Deed.turn v.id p.desk.shared (turn outcome)).started? = none := by rfl)
    (hfinished : (Deed.turn v.id p.desk.shared (turn outcome)).finished? = none := by rfl) :
    Halted s fault q := by
  refine hp.halted (Progress.Steady.of_took h) h.deeds_eq hstarted hfinished hstage hfault ?_
  rw [hdesk]
  exact h.recorded hp.recorded hv hled

end Turns

/-- No validator has an id that has been seen, and no two have one. -/
def Fresh (seen : List String) (l : List Validator) : Prop :=
  (l.map (·.id)).Nodup ∧ ∀ v ∈ l, v.id ∉ seen

theorem fresh_cons {seen : List String} {v : Validator} {rest : List Validator} :
    Fresh seen (v :: rest) ↔ v.id ∉ seen ∧ Fresh (v.id :: seen) rest := by
  simp only [Fresh, List.map_cons, List.nodup_cons, List.mem_cons, List.mem_map, not_or,
    forall_eq_or_imp]
  constructor
  · rintro ⟨⟨hother, hnodup⟩, hv, hrest⟩
    exact ⟨hv, hnodup, fun w hw => ⟨fun hid => hother ⟨w, hw, hid⟩, hrest w hw⟩⟩
  · rintro ⟨hv, hnodup, hrest⟩
    exact ⟨⟨fun ⟨w, hw, hid⟩ => (hrest w hw).1 hid, hnodup⟩, hv, fun w hw => (hrest w hw).2⟩

namespace Step

variable {s : Setup} {v : Validator} {p : Progress}

/-! ## Registration and start -/

/-- Those validators take part that are turned on, if they have fresh ids. -/
theorem wp_registerAll {Q : Unit → Progress → Prop} {E : RunFault → Progress → Prop}
    {seen : List String} {l : List Validator} (taking : List Validator)
    (hok : Fresh seen l →
      Q () { p with validators := taking ++ l.filter fun v => s.config.isEnabled v.id })
    (hfault : ¬Fresh seen l → ∀ id taking, E (.duplicate id) { p with validators := taking }) :
    (registerAll s seen l).wp Q E { p with validators := taking } := by
  induction l generalizing seen taking with
  | nil => simpa [registerAll, Fresh] using hok
  | cons v rest ih =>
      rw [registerAll]
      rw [fresh_cons] at hok hfault
      split
      next hseen =>
        refine hfault (fun hfresh => hfresh.1 ?_) _ taking
        exact List.contains_iff_mem.1 hseen
      next hseen =>
        have hnew : v.id ∉ seen := fun hmem => hseen (List.contains_iff_mem.2 hmem)
        have hrest (taking' : List Validator) (heq : taking' ++ rest.filter (fun v =>
              s.config.isEnabled v.id) = taking ++ (v :: rest).filter fun v =>
              s.config.isEnabled v.id) :
            (registerAll s (v.id :: seen) rest).wp Q E { p with validators := taking' } :=
          ih taking' (fun hfresh => heq ▸ hok ⟨hnew, hfresh⟩) fun hstale =>
            hfault fun hfresh => hstale hfresh.2
        split
        next henabled => exact hrest (taking ++ [v]) (by simp [henabled])
        next henabled => exact hrest taking (by simp [henabled])

/-- Either all is well with the registration, or the run has failed before it did anything. -/
theorem underway_register {desk : Desk} (hdesk : Recorded s [] desk) :
    (register s).wp (fun _ q => Underway s [] (course.take 1) q ∧ (s.enabled.map (·.id)).Nodup)
      (Halted s) { desk } := by
  rw [register, wp_bind]
  refine wp_registerAll (p := { desk }) [] (fun hfresh => ?_) fun hstale id taking => ?_
  · have henabled : (s.enabled.map (·.id)).Nodup := hfresh.1.sublist (List.filter_sublist.map _)
    rw [enter, wp_modify]
    exact ⟨⟨⟨rfl, List.forall_mem_nil _, List.nil_prefix, List.nodup_nil, hdesk⟩, rfl, rfl, rfl,
      by simp, List.forall_mem_nil _⟩, henabled⟩
  · have hclash : ¬(s.validators.map (·.id)).Nodup := fun hnodup => hstale ⟨hnodup, by simp⟩
    exact ⟨⟨rfl, List.forall_mem_nil _, List.nil_prefix, List.nodup_nil, hdesk⟩, rfl,
      .inr ⟨rfl, hclash, id, rfl⟩⟩

/-- One more validator has started, or the run has failed. -/
theorem underway_startWith {before after : List Validator}
    (hp : Underway s before (course.take 1) p) (hl : s.enabled = before ++ v :: after)
    (hnodup : (s.enabled.map (·.id)).Nodup) :
    (startWith s v).wp (fun _ => Underway s (before ++ [v]) (course.take 1)) (Halted s)
      p := by
  have hv : v ∈ s.enabled := by simp [hl]
  refine wp_startWith (fun q h => ?_) fun fault q h => ?_
  -- The deed that starts the validator is the only one that accounts for it.
  · have hsteady := Progress.Steady.of_took h
    have hstarters : before ++ [v] <+: s.enabled := ⟨after, by rw [hl]; simp⟩
    have hq : (q.withStarted v).started = before ++ [v] := by
      rw [Progress.withStarted, hsteady.started, hp.atWork_eq]
    refine ⟨⟨?_, ?_, ?_, ?_, h.recorded hp.recorded hv led_start⟩, hq, ?_, ?_, ?_, ?_⟩
    · rw [hq, Progress.withStarted, h.deeds_eq, List.filterMap_append, hp.started, hp.atWork_eq]
      simp [Deed.started?]
    · intro deed hdeed
      rw [Progress.withStarted, h.deeds_eq, List.mem_append, List.mem_singleton] at hdeed
      rcases hdeed with hdeed | rfl
      · exact hp.finished deed hdeed
      · rfl
    · rwa [hq]
    · rw [hq]
      exact hnodup.sublist (hstarters.sublist.map _)
    · exact hsteady.history.trans hp.history
    · exact hsteady.validators.trans hp.validators
    · rw [Progress.withStarted, hsteady.cancelled, h.deeds_eq, List.mem_append, hp.cancelled]
      simp
    · rw [Progress.withStarted, h.deeds_eq, List.forall_mem_append]
      exact ⟨hp.faultless, List.forall_mem_singleton.2 rfl⟩
  · refine h.halted hp hv led_start ?_
    cases fault <;> rfl

theorem underway_start (hp : Underway s [] (course.take 1) p)
    (hnodup : (s.enabled.map (·.id)).Nodup) :
    (start s).wp (fun _ => Reached s 2) (Halted s) p := by
  rw [start, wp_bind, wp_get, wp_bind, hp.validators]
  refine (wp_forM (I := fun before => Underway s before (course.take 1)) _ _
    (fun before v after hl q hq => underway_startWith hq hl hnodup) hp).mono (fun _ q hq => ?_)
    fun _ _ => id
  rw [wp_bind, enter, wp_modify]
  exact wp_emit _ Underway.ofCore (hq.withStatus .initialized)

/-! ## Extraction -/

theorem underway_readDocument {path : Path} (hp : Reached s 3 p) :
    (readDocument s path).wp (fun _ => Reached s 3) (Halted s) p := by
  have hread {result q r} (h : Read s path p result q) (hsteady : q.Steady r)
      (hdeeds : r.deeds = q.deeds) (hfault : (Deed.read path result).fault? = none)
      (hdesk : r.desk = q.desk.withReading s path result) : Reached s 3 r := by
    refine hp.snoc ((Progress.Steady.of_read h).trans hsteady) (hdeeds.trans h.deeds_eq) rfl rfl
      nofun hfault ?_
    rw [hdeeds, hdesk]
    exact h.recorded hp.recorded
  refine wp_readDocument (fun _ => Underway.ofCore) (fun d q h => ?_)
    (fun fault issue q h hissue => ?_) fun fault q h hnone => ?_
  · exact hread h ⟨rfl, rfl, rfl, rfl⟩ rfl rfl rfl
  · refine hread h ⟨rfl, rfl, rfl, rfl⟩ rfl ?_ (by rw [Desk.withReading, hissue]; rfl)
    obtain ⟨kind, hkind, -⟩ := Option.map_eq_some_iff.1 hissue
    rw [Deed.fault?, hkind]
    rfl
  · have hrecorded := h.recorded hp.recorded
    rw [Desk.withReading, hnone] at hrecorded
    refine hp.halted (Progress.Steady.of_read h) h.deeds_eq rfl rfl rfl ?_ hrecorded
    rw [Deed.fault?, Option.map_eq_none_iff.1 hnone]
    rfl

theorem underway_extractWith {d : Document} (hp : Reached s 3 p)
    (hv : v ∈ s.enabled) :
    (extractWith s d v).wp (fun _ => Reached s 3) (Halted s) p := by
  refine wp_extractWith Underway.ofCore (fun _ => hp) fun hook hhook hsupports =>
    ⟨fun entry q h => ?_, fun message q h => ?_, fun fault q h hother => ?_⟩
  · exact h.underway hp hv (led_extract hhook hsupports) rfl
  · exact h.halted hp hv (led_extract hhook hsupports) rfl
  · exact h.underway hp hv (led_extract hhook hsupports) (HookFault.frozen?_eq_none hother)
      (Desk.blame_eq_report hother).symm

theorem underway_extractFile {path : Path} (hp : Reached s 3 p) :
    (extractFile s path).wp (fun _ => Reached s 3) (Halted s) p := by
  rw [extractFile, wp_bind]
  refine (underway_readDocument hp).mono (fun found q hq => ?_) fun _ _ => id
  cases found with
  | none => exact hq
  | some d =>
      rw [wp_bind, wp_get, hq.validators]
      exact wp_forM (I := fun _ => Reached s 3) _ _
        (fun before v after hl _ h => underway_extractWith h (by simp [hl])) hq

theorem underway_extract (hp : Reached s 2 p) :
    (extract s).wp (fun _ => Reached s 3) (Halted s) p := by
  rw [extract, wp_bind]
  refine (wp_beginPhase (Q := fun _ => Reached s 3) Underway.ofCore
    (hp.withStatus .extracting)).mono (fun _ q hq => ?_) fun _ _ => id
  rw [wp_bind]
  refine (wp_whileRunning (I := fun _ => Reached s 3) _ _ (fun _ _ h => h.ask)
    (fun _ _ _ _ _ h => underway_extractFile h) hq).mono (fun all r hr => ?_) fun _ _ => id
  obtain ⟨-, -, -, hr, -⟩ := hr
  split
  · exact wp_endPhase _ Underway.ofCore hr
  · exact hr

/-! ## Merging -/

theorem underway_mergeWith (hp : Reached s 4 p) (hv : v ∈ s.enabled) :
    (mergeWith s v).wp (fun _ => Reached s 4) (Halted s) p := by
  refine wp_mergeWith Underway.ofCore (fun _ => hp) fun hleaves => ⟨fun entry q h => ?_,
    fun message q h => ?_, fun fault q h hother => ?_⟩
  · have hwritten := congrArg (·.2.desk) (q.write_eq v.id entry)
    rw [h.frozen_eq] at hwritten ⊢
    split
    next hfrozen =>
      rw [if_pos hfrozen] at hwritten
      exact h.halted hp hv (led_merge hleaves) (if_pos hfrozen) hwritten.symm
    next hfrozen =>
      rw [if_neg hfrozen] at hwritten
      exact h.underway hp hv (led_merge hleaves) (if_neg hfrozen) hwritten.symm
  · exact h.halted hp hv (led_merge hleaves) rfl
  · exact h.underway hp hv (led_merge hleaves) (HookFault.frozen?_eq_none hother)
      (Desk.blame_eq_report hother).symm

theorem underway_merge (hp : Reached s 3 p) :
    (merge s).wp (fun _ => Reached s 4) (Halted s) p := by
  rw [merge, wp_bind]
  refine (wp_beginPhase (Q := fun _ => Reached s 4) Underway.ofCore
    (hp.withStatus .mergingState)).mono (fun _ q hq => ?_) fun _ _ => id
  rw [wp_bind, wp_get, wp_bind, hq.validators]
  refine (wp_forM (I := fun _ => Reached s 4) _ _
    (fun before v after hl _ h => underway_mergeWith h (by simp [hl])) hq).mono (fun _ r hr => ?_)
    fun _ _ => id
  rw [wp_bind, onDesk, wp_modify]
  exact wp_endPhase _ Underway.ofCore (hr.congr ⟨rfl, rfl, rfl, rfl⟩ rfl hr.recorded.frozen)

/-! ## Validation -/

theorem underway_validateWith {d : Document} (hp : Reached s 5 p)
    (hv : v ∈ s.enabled) :
    (validateWith s d v).wp (fun _ => Reached s 5) (Halted s) p := by
  refine wp_validateWith Underway.ofCore (fun _ => hp) fun hook hhook hsupports =>
    ⟨fun issues q h => ?_, fun message q h => ?_, fun fault q h hother => ?_⟩
  · exact h.underway hp hv (led_validate hhook hsupports) rfl
  · exact h.halted hp hv (led_validate hhook hsupports) rfl
  · exact h.underway hp hv (led_validate hhook hsupports) (HookFault.frozen?_eq_none hother)
      (Desk.blame_eq_report hother).symm

theorem underway_validateProjectWith (hp : Reached s 5 p) (hv : v ∈ s.enabled) :
    (validateProjectWith s v).wp (fun _ => Reached s 5) (Halted s) p := by
  refine wp_validateProjectWith Underway.ofCore (fun _ => hp) fun hook hhook =>
    ⟨fun issues q h => ?_, fun message q h => ?_, fun fault q h hother => ?_⟩
  · exact h.underway hp hv (led_validateProject hhook) rfl
  · exact h.halted hp hv (led_validateProject hhook) rfl
  · exact h.underway hp hv (led_validateProject hhook) (HookFault.frozen?_eq_none hother)
      (Desk.blame_eq_report hother).symm

theorem underway_validate (hp : Reached s 4 p) :
    (validate s).wp (fun _ => Reached s 5) (Halted s) p := by
  rw [validate, wp_bind]
  refine (wp_beginPhase (Q := fun _ => Reached s 5) Underway.ofCore
    (hp.withStatus .validating)).mono (fun _ q hq => ?_) fun _ _ => id
  rw [wp_bind, wp_get, wp_bind]
  refine (wp_whileRunning (I := fun _ => Reached s 5) _ _ (fun _ _ h => h.ask)
    (fun _ d _ _ _ h => ?_) hq).mono (fun all r hr => ?_) fun _ _ => id
  · rw [validateDocument, wp_bind, wp_get, h.validators]
    exact wp_forM (I := fun _ => Reached s 5) _ _
      (fun before v after hl _ h => underway_validateWith h (by simp [hl])) h
  obtain ⟨-, -, -, hr, -⟩ := hr
  split
  · rw [wp_bind, wp_get, wp_bind, hr.validators]
    refine (wp_whileRunning (I := fun _ => Reached s 5) _ _ (fun _ _ h => h.ask)
      (fun before v after hl _ h => ?_) hr).mono (fun all t ht => ?_) fun _ _ => id
    · have hv : v ∈ s.enabled.filter (·.validateProject.isSome) := by simp [hl]
      exact underway_validateProjectWith h (List.mem_filter.1 hv).1
    obtain ⟨-, -, -, ht, -⟩ := ht
    split
    · exact wp_endPhase _ Underway.ofCore ht
    · exact ht
  · exact hr

/-! ## The way to the report -/

/-- A phase that is left out when the run is to be cancelled. -/
theorem passed_unlessCancelled {step : Step Unit} {phase : Nat}
    (hstep : ∀ p, Reached s phase p →
      step.wp (fun _ => Reached s (phase + 1)) (Halted s) p)
    (hp : Passed s phase p) :
    (unlessCancelled s step).wp (fun _ => Passed s (phase + 1)) (Halted s) p := by
  obtain ⟨reached, hle, hlast, hunderway, hreached⟩ := hp
  refine wp_unlessCancelled (fun hcancelled => ?_) fun hcancelled => ?_
  · refine ⟨reached, hle, by omega, hunderway.ask, fun hnot => ?_⟩
    rw [hcancelled] at hnot
    cases hnot
  · obtain rfl := hreached (Progress.cancelled_of_ask hcancelled)
    refine (hstep _ hunderway.ask).mono (fun _ q hq => ?_) fun _ _ => id
    exact ⟨reached + 1, by omega, Nat.le_refl _, hq, fun _ => rfl⟩

/-- The way to the phase of the checks: a run fails on it, or comes to its end. -/
theorem wp_toReport {Q : Report → Progress → Prop} {E : RunFault → Progress → Prop} {desk : Desk}
    (hdesk : Recorded s [] desk) (hfault : ∀ fault q, Halted s fault q → E fault q)
    (hrest : ∀ p, Passed s 4 p → (do unlessCancelled s (validate s); report s).wp Q E p) :
    (toReport s).wp Q E { desk } := by
  rw [toReport, wp_bind]
  refine (underway_register hdesk).mono (fun _ p hp => ?_) hfault
  obtain ⟨hunderway, hnodup⟩ := hp
  rw [wp_bind]
  refine (underway_start hunderway hnodup).mono (fun _ p hp => ?_) hfault
  have hp : Passed s 2 p := ⟨2, Nat.le_refl _, Nat.le_refl _, hp, fun _ => rfl⟩
  rw [wp_bind]
  refine (passed_unlessCancelled (fun _ => underway_extract) hp).mono (fun _ p hp => ?_) hfault
  rw [wp_bind]
  exact (passed_unlessCancelled (fun _ => underway_merge) hp).mono (fun _ => hrest) hfault

theorem passed_toReport {desk : Desk} (hdesk : Recorded s [] desk) :
    (toReport s).wp (fun report q => ∃ p, Passed s 5 p ∧ q = p.withStatus .aggregating ∧
      report.cancelled = p.cancelled) (Halted s) { desk } := by
  refine wp_toReport hdesk (fun _ _ => id) fun p hp => ?_
  rw [wp_bind]
  refine (passed_unlessCancelled (fun _ => underway_validate) hp).mono (fun _ p hp => ?_)
    fun _ _ => id
  rw [wp_report]
  exact ⟨p, hp, rfl, rfl⟩

end Step

/-! ## The end of a run -/

section Finish

variable (s : Setup)

/-- To make a validator finish is a turn of it, whatever comes of it. -/
theorem took_finishWith (p : Progress) (v : Validator) :
    ∃ outcome, Took s v .finish (v.finishing (s.contextOf v)) p outcome (finishWith s p v) := by
  have hcore : (if v.finish.isSome then p.enterCall v .finish else p).core = p.core := by
    split <;> rfl
  exact ⟨_, .of_perform hcore rfl⟩

/-- Validators that are made to finish do so one by one. -/
theorem deeds_foldl_finishWith (l : List Validator) (p : Progress) :
    ∃ finishing, (l.foldl (finishWith s) p).deeds = p.deeds ++ finishing ∧
      finishing.map Deed.finished? = l.map (fun v => some v.id) ∧
      p.Steady (l.foldl (finishWith s) p) := by
  induction l generalizing p with
  | nil => exact ⟨[], (List.append_nil _).symm, rfl, rfl, rfl, rfl, rfl⟩
  | cons v rest ih =>
      obtain ⟨outcome, htook⟩ := took_finishWith s p v
      have hsteady := Progress.Steady.of_took htook
      obtain ⟨finishing, hdeeds, hids, hrest⟩ := ih (finishWith s p v)
      refine ⟨.turn v.id p.desk.shared (.finish outcome) :: finishing, ?_, ?_, ?_⟩
      · rw [List.foldl_cons, hdeeds, htook.deeds_eq, List.append_assoc, List.singleton_append]
      · rw [List.map_cons, List.map_cons, hids]
        rfl
      · exact hsteady.trans hrest

/-- Whatever lasts when one validator is made to finish lasts when several are. -/
theorem foldl_finishWith_induction {J : Progress → Prop} {l : List Validator} {p : Progress}
    (hstep : ∀ v ∈ l, ∀ p q outcome,
      Took s v .finish (v.finishing (s.contextOf v)) p outcome q → J p → J q)
    (h : J p) : J (l.foldl (finishWith s) p) := by
  induction l generalizing p with
  | nil => exact h
  | cons v rest ih =>
      rw [List.forall_mem_cons] at hstep
      obtain ⟨outcome, htook⟩ := took_finishWith s p v
      exact ih hstep.2 (hstep.1 p _ outcome htook h)

/-- Validators that are made to finish do so on record. -/
theorem onRecord_finish {p : Progress} (h : Accounted s p) : (finish s p).OnRecord s := by
  have hrecorded := foldl_finishWith_induction s (J := fun p => Recorded s p.deeds p.desk)
    (l := p.started.reverse) (fun v hv _ _ _ htook hp => htook.recorded hp
      (h.enabled.subset (List.mem_reverse.1 hv)) led_finish) h.recorded
  exact ⟨_, hrecorded, rfl⟩

/-- After a run that has accounted for who has started, exactly those are made to finish. -/
theorem woundUp_finish {p : Progress} (h : Accounted s p) :
    ∃ finishing, WoundUp s p.deeds finishing (finish s p) ∧
      (finish s p).history = p.history ++ [.finalized] := by
  obtain ⟨finishing, hdeeds, hids, hsteady⟩ := deeds_foldl_finishWith s p.started.reverse p
  refine ⟨finishing, ⟨hdeeds, h.finished, ?_, ?_, ?_, onRecord_finish s h, rfl, rfl, rfl⟩, ?_⟩
  · rw [hids, h.started, List.map_reverse, List.map_reverse, List.map_map]
    rfl
  · rw [h.started]
    exact h.enabled.map _
  · rw [h.started]
    exact h.nodup
  · exact congrArg (· ++ [.finalized]) hsteady.history

end Finish

/-- A run ends as the way to its report allows, after the validators have been made to finish. -/
theorem execute_cases {s : Setup} {cancelRequested : Bool} {Q : Report → Progress → Prop}
    {E : RunFault → Progress → Prop}
    (h : (Step.toReport s).wp Q E { desk := { cancelRequested } }) :
    (∃ fault p, E fault p ∧ execute s cancelRequested = ⟨.error fault, finish s p⟩) ∨
      ∃ report p, Q report p ∧
        execute s cancelRequested = ⟨.ok report, complete s report (finish s p)⟩ := by
  unfold Step.wp at h
  unfold execute
  generalize (Step.toReport s).exec { desk := { cancelRequested } } = ending at h ⊢
  rcases ending with ⟨fault | report, p⟩
  · exact .inl ⟨fault, p, h, rfl⟩
  · exact .inr ⟨report, p, h, rfl⟩

/-- However a run ends, all that was done at its desk is on record. -/
theorem onRecord_execute (s : Setup) (cancelRequested : Bool) :
    (execute s cancelRequested).progress.OnRecord s := by
  have hdesk : Recorded s [] { cancelRequested } := .told .nothing rfl
  rcases execute_cases (Step.passed_toReport hdesk) with ⟨_, p, hp, hends⟩ | ⟨_, _, hp, hends⟩
  · rw [hends]
    exact onRecord_finish s hp.toAccounted
  · obtain ⟨q, ⟨_, -, -, hq, -⟩, rfl, -⟩ := hp
    rw [hends]
    exact onRecord_finish s (hq.withStatus .aggregating).toAccounted

/-- However a run ends, it is wound up. It fails only with the first deed that has a fault, or at
once if two validators have one id, and it has passed through its states in their order up to there.
If it makes a report, then all validators that are turned on have started, and it may have left out
phases, but only if it was to be cancelled. -/
theorem execute_winds_up (s : Setup) (cancelRequested : Bool) :
    let o := execute s cancelRequested
    ∃ before finishing, WoundUp s before finishing o.progress ∧
      match o.result with
      | .ok report => (∀ deed ∈ before, deed.fault? = none) ∧
          before.filterMap Deed.started? = s.enabled.map (·.id) ∧
          ∃ reached, 2 ≤ reached ∧ reached ≤ 5 ∧
          (report.cancelled = false → reached = 5) ∧
          (report.cancelled = true ↔ .asked true ∈ before) ∧
          o.progress.history = course.take reached ++ [.aggregating, .finalized, .idle]
      | .error fault => FailsWith s fault before ∧
          o.progress.history =
            course.take ((before.getLast?.map Deed.stage).getD 0) ++ [.finalized] := by
  have hdesk : Recorded s [] { cancelRequested } := .told .nothing rfl
  rcases execute_cases (Step.passed_toReport hdesk) with ⟨_, p, hp, hends⟩ | ⟨_, _, hp, hends⟩
  · obtain ⟨finishing, hwound, hhistory⟩ := woundUp_finish s hp.toAccounted
    rw [hends]
    refine ⟨p.deeds, finishing, hwound, hp.failsWith, ?_⟩
    rw [← hp.history]
    exact hhistory
  · obtain ⟨q, ⟨reached, hle, hlast, hq, hreached⟩, rfl, hcancelled⟩ := hp
    rw [hends]
    have hfinish := (hq.withStatus .aggregating).toAccounted
    obtain ⟨finishing, hwound, hhistory⟩ := woundUp_finish s hfinish
    refine ⟨q.deeds, finishing, ⟨hwound.deeds, hwound.unfinished, hwound.finished, hwound.enabled,
      hwound.nodup, hwound.onRecord, rfl, rfl, rfl⟩, hq.faultless, ?_, reached, hle, hlast, ?_, ?_,
      ?_⟩
    · rw [← hq.atWork_eq]
      exact hq.started
    · rw [hcancelled]
      exact hreached
    · rw [hcancelled]
      exact hq.cancelled
    · show (finish s _).history ++ [.idle] = _
      rw [hhistory, Progress.withStatus, hq.history]
      simp

end Continuity.Run
