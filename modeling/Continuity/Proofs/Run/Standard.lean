import Continuity.Link.Rules
import Continuity.Proofs.Character.Rules
import Continuity.Proofs.Run.Lifecycle
import Continuity.Run.Standard

/-! # What the standard validators do to a run

The hooks of the standard validators look at the shared state and tell of what they have done. They
do nothing else to a run, and never end because the state is frozen.
-/

/-! ## Issues of links -/

namespace Continuity.Link

variable {g : Graph} {issue : Issue}

theorem validator_of_edgeIssues {least : Float} {e : Edge} (h : issue ∈ edgeIssues g least e) :
    issue.validator = validatorId := by
  simp only [edgeIssues, List.mem_append, Option.mem_toList] at h
  rcases h with (h | h) | h
  · unfold brokenIssue? at h
    split at h
    · cases h
    · cases h
      rfl
  · obtain ⟨node, -, h⟩ := Option.bind_eq_some_iff.1 h
    dsimp only at h
    split at h
    · cases h
    · cases h
      rfl
  · unfold anchorIssue? at h
    dsimp only at h
    split at h
    · obtain ⟨node, -, h⟩ := Option.bind_eq_some_iff.1 h
      split at h
      · cases h
      · cases h
        rfl
    · cases h

/-- All issues of a document have the name of the validator. -/
theorem validator_of_fileIssues {least : Float} {path : String}
    (h : issue ∈ fileIssues g least path) : issue.validator = validatorId := by
  obtain ⟨e, -, h⟩ := List.mem_flatMap.1 h
  exact validator_of_edgeIssues h

theorem validator_of_orphanIssues {entryPoints : List String}
    (h : issue ∈ orphanIssues g entryPoints) : issue.validator = validatorId := by
  obtain ⟨path, -, rfl⟩ := List.mem_map.1 h
  rfl

theorem validator_of_mutualIssues (h : issue ∈ mutualIssues g) : issue.validator = validatorId := by
  obtain ⟨pair, -, rfl⟩ := List.mem_map.1 h
  rfl

end Continuity.Link

namespace Continuity.Run

namespace Hook

variable {α : Type} {hook : Hook α}

/-- The hook looks and tells, but leaves everything as it is. -/
def Observes (hook : Hook α) : Prop :=
  hook.Obeys (fun | .look | .emit .. => True | _ => False)
    (fun | .error (.frozen _) => False | _ => True)

/-- The hook fails only for options that cannot be used. -/
def Configures (hook : Hook α) : Prop :=
  hook.Obeys (fun _ => True) (fun | .ok _ | .error (.configuration ..) => True | _ => False)

theorem Observes.neverWrites (h : hook.Observes) : hook.NeverWrites :=
  h.mono (fun act hact => by cases act <;> trivial) fun _ _ => trivial

theorem Observes.neverLoads (h : hook.Observes) : hook.NeverLoads :=
  h.mono (fun act hact => by cases act <;> trivial) fun _ _ => trivial

theorem Observes.private (h : hook.Observes) (validator : String) : hook.Private validator :=
  h.mono (fun act hact => by cases act <;> trivial) fun _ _ => trivial

theorem obeys_sharedState {may : Action → Prop} {ends : Except HookFault α → Prop}
    {next : SharedState Entry → Hook α} (hlook : may .look)
    (h : ∀ shared, (next shared).Obeys may ends) : (Hook.sharedState >>= next).Obeys may ends :=
  ⟨hlook, h⟩

/-- To look at the entry of a validator and to go on heeding nothing else. -/
theorem heeds_sharedState {validator : String} {next : SharedState Entry → Hook α}
    (hnext : ∀ shared shared', shared.get? validator = shared'.get? validator →
      next shared = next shared')
    (h : ∀ shared, (next shared).Heeds validator) : (Hook.sharedState >>= next).Heeds validator :=
  ⟨fun shared shared' hentry _ => hnext shared shared' hentry, h⟩

end Hook

theorem character_observes : Character.validator.Each Hook.Observes where
  start c := by
    show (Character.start c).Observes
    unfold Character.start
    split <;> trivial
  extract := by
    rintro _ ⟨⟩ c d
    unfold Character.extract
    split <;> trivial
  merge c parts := ⟨trivial, trivial⟩
  validate := by
    rintro _ ⟨⟩ c d
    refine Hook.obeys_sharedState trivial fun shared => ?_
    split
    · trivial
    · trivial
    · split <;> trivial
    · trivial
  validateProject := nofun
  finish c := trivial

theorem link_observes : Link.validator.Each Hook.Observes where
  start c := by
    show (Link.start c).Observes
    unfold Link.start
    split <;> trivial
  extract := by
    rintro _ ⟨⟩ c d
    trivial
  merge c parts := by
    show (Link.merge c parts).Observes
    unfold Link.merge
    dsimp only
    split <;> trivial
  validate := by
    rintro _ ⟨⟩ c d
    refine Hook.obeys_sharedState trivial fun shared => ?_
    split <;> trivial
  validateProject := by
    rintro _ ⟨⟩ c ds
    unfold Link.validateProject
    dsimp only
    split
    · trivial
    · refine Hook.obeys_sharedState trivial fun shared => ?_
      split <;> trivial
  finish c := trivial

/-- The validator of characters looks at its own entry only. -/
theorem character_heeds : Character.validator.Each (Hook.Heeds Character.validatorId) where
  start c := by
    show (Character.start c).Heeds _
    unfold Character.start
    split <;> trivial
  extract := by
    rintro _ ⟨⟩ c d
    unfold Character.extract
    split <;> trivial
  merge c parts := trivial
  validate := by
    rintro _ ⟨⟩ c d
    refine Hook.heeds_sharedState (fun shared shared' hentry => by rw [hentry]) fun shared => ?_
    split
    · trivial
    · trivial
    · split <;> trivial
    · trivial
  validateProject := nofun
  finish c := trivial

theorem link_withGraph_heeds (asked : String) (f : Link.Graph → List Issue) :
    (Link.withGraph asked f).Heeds Link.validatorId := by
  refine Hook.heeds_sharedState (fun shared shared' hentry => by rw [hentry]) fun shared => ?_
  split <;> trivial

/-- The validator of links looks at its own entry only. -/
theorem link_heeds : Link.validator.Each (Hook.Heeds Link.validatorId) where
  start c := by
    show (Link.start c).Heeds _
    unfold Link.start
    split <;> trivial
  extract := by
    rintro _ ⟨⟩ c d
    trivial
  merge c parts := by
    show (Link.merge c parts).Heeds _
    unfold Link.merge
    dsimp only
    split <;> trivial
  validate := by
    rintro _ ⟨⟩ c d
    exact link_withGraph_heeds _ _
  validateProject := by
    rintro _ ⟨⟩ c ds
    unfold Link.validateProject
    dsimp only
    split
    · trivial
    · exact link_withGraph_heeds _ _
  finish c := trivial

/-- The validator of characters keeps to itself. -/
theorem character_discreet : Character.validator.Discreet where
  acts := character_observes.mono fun hook h => h.private _
  validate := by
    rintro _ ⟨⟩ c d
    refine Hook.obeys_sharedState trivial fun shared => ?_
    split
    · exact List.forall_mem_nil _
    · exact List.forall_mem_nil _
    · split
      next issues hissues =>
        exact fun issue hissue => Character.State.validator_of_fileIssues hissues hissue
      next => trivial
    · trivial
  validateProject := nofun

theorem link_withGraph_signs {asked : String} {f : Link.Graph → List Issue}
    (hf : ∀ g, ∀ issue ∈ f g, issue.validator = Link.validatorId) :
    (Link.withGraph asked f).Obeys (fun _ => True) (Hook.Signs Link.validatorId) := by
  refine Hook.obeys_sharedState trivial fun shared => ?_
  split
  · exact List.forall_mem_nil _
  · exact List.forall_mem_nil _
  · exact hf _
  · trivial

/-- The validator of links keeps to itself. -/
theorem link_discreet : Link.validator.Discreet where
  acts := link_observes.mono fun hook h => h.private _
  validate := by
    rintro _ ⟨⟩ c d
    exact link_withGraph_signs fun g issue hissue => Link.validator_of_fileIssues hissue
  validateProject := by
    rintro _ ⟨⟩ c ds
    unfold Link.validateProject
    dsimp only
    split
    · exact List.forall_mem_nil _
    · refine link_withGraph_signs fun g issue hissue => ?_
      rcases List.mem_append.1 hissue with hissue | hissue
      · split at hissue
        · exact Link.validator_of_orphanIssues hissue
        · cases hissue
      · split at hissue
        · exact Link.validator_of_mutualIssues hissue
        · cases hissue

/-- No two standard validators have one id. -/
theorem fresh_standard : Fresh [] standardValidators := by
  unfold Fresh
  decide

/-- The standard validators start, unless they cannot use their options. -/
theorem standard_configures : ∀ v ∈ standardValidators, ∀ c, (v.starting c).Configures := by
  intro v hv c
  rcases List.mem_cons.1 hv with rfl | hv
  · show (Character.start c).Configures
    unfold Character.start
    split <;> trivial
  · obtain rfl := List.mem_singleton.1 hv
    show (Link.start c).Configures
    unfold Link.start
    split <;> trivial

/-- The standard validators look at their own entries only. -/
theorem standard_heeds : ∀ v ∈ standardValidators, v.Each (Hook.Heeds v.id) := by
  intro v hv
  rcases List.mem_cons.1 hv with rfl | hv
  · exact character_heeds
  · obtain rfl := List.mem_singleton.1 hv
    exact link_heeds

/-- The standard validators keep to themselves. -/
theorem standard_discreet : ∀ v ∈ standardValidators, v.Discreet := by
  intro v hv
  rcases List.mem_cons.1 hv with rfl | hv
  · exact character_discreet
  · obtain rfl := List.mem_singleton.1 hv
    exact link_discreet

/-- The standard validators leave a run as it is. -/
theorem standard_observes : ∀ v ∈ standardValidators, v.Each Hook.Observes := by
  intro v hv
  rcases List.mem_cons.1 hv with rfl | hv
  · exact character_observes
  · obtain rfl := List.mem_singleton.1 hv
    exact link_observes

end Continuity.Run
