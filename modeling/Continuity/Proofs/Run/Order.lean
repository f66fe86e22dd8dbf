import Mathlib.Data.List.Pairwise
import Continuity.Proofs.Run.Agenda
import Continuity.Proofs.Run.Standard
import Continuity.Proofs.Data.Merge

/-! # The order of a run and the flow of its data

Validators whose hooks leave the shared state alone are called in the order of the schedule, and
what they are called on follows from what was done before: the documents are those that were read, a
validator merges exactly what it has taken from them, and issues are looked for when the state is
frozen and holds exactly what was merged.
-/

namespace Continuity.Run

namespace Deed

/-- What a validator has taken from a document. -/
def part? : Deed → Option (String × Entry)
  | .turn v _ (.extract _ (.ok entry)) => some (v, entry)
  | _ => none

/-- What a validator has taken from a document, if it is the one with the given name. -/
def partOf? (validator : String) (deed : Deed) : Option Entry :=
  (deed.part?.filter (·.1 == validator)).map (·.2)

/-- What a validator has merged its parts into. -/
def merged? : Deed → Option (String × Entry)
  | .turn v _ (.merge _ (.ok entry)) => some (v, entry)
  | _ => none

/-- The documents that a validator is to find issues in, or to take something from. -/
def examined : Deed → List Document
  | .turn _ _ (.extract d _) | .turn _ _ (.validate d _) => [d]
  | .turn _ _ (.validateProject ds _) => ds
  | _ => []

end Deed

/-- The shared state is frozen, and a validator has an entry there exactly if it leaves one and its
merging has come to that. -/
def Settled (s : Setup) (before : List Deed) (found : SharedState Entry) : Prop :=
  found.frozen = true ∧ ∀ key entry, found.get? key = some entry ↔
    (∃ v ∈ s.enabled, v.id = key ∧ v.leavesEntry = true) ∧
      (key, entry) ∈ before.filterMap Deed.merged?

/-- What something done in a run has to do with what was done before. -/
def Deed.Follows (s : Setup) (before : List Deed) : Deed → Prop
  | .read path result => ∀ d, result = .ok d → d.path = path
  | .turn _ _ (.extract d _) => .read d.path (.ok d) ∈ before
  | .turn v _ (.merge parts _) =>
    (∃ w ∈ s.enabled, w.id = v ∧ w.leavesEntry = true) ∧
      parts = before.filterMap (Deed.partOf? v)
  | .turn _ found (.validate d _) => .read d.path (.ok d) ∈ before ∧ Settled s before found
  | .turn v found (.validateProject ds _) =>
    (∃ w ∈ s.enabled, w.id = v ∧ ds = (before.filterMap Deed.document?).filter w.supports) ∧
      Settled s before found
  | .asked _ | .turn _ _ (.start _) | .turn _ _ (.finish _) => True

/-- What was done keeps to slots of the schedule, and follows from what was done before. -/
structure Orderly (s : Setup) (done : List Slot) (deeds : List Deed) : Prop where
  slots : (deeds.filterMap Deed.slot?).Sublist done
  follows : ∀ before deed after, deeds = before ++ deed :: after → deed.Follows s before

/-- A run is in order: what it has got is what its deeds have come to. -/
structure InOrder (s : Setup) (documents : List Document) (frozen : Bool) (done : List Slot)
    (p : Progress) : Prop extends Orderly s done p.deeds where
  validators : p.validators = s.enabled
  documents_eq : p.documents = documents
  documents : p.documents = p.deeds.filterMap Deed.document?
  parts : p.parts = p.deeds.filterMap Deed.part?
  frozen : p.desk.shared.frozen = frozen
  entries : ∀ key entry, p.desk.shared.get? key = some entry ↔
    (key, entry) ∈ p.deeds.filterMap Deed.merged?
  genuine : p.desk.cache.Genuine s.tree s.root

/-- A run has done nothing in any phase, or it has kept to the schedule. -/
def Scheduled (s : Setup) (p : Progress) : Prop :=
  Orderly s [] p.deeds ∨ (s.enabled.map (·.id)).Nodup ∧ Orderly s s.schedule p.deeds

theorem filterMap_sublist {α β : Type} {f g : α → Option β} {l : List α}
    (h : ∀ a ∈ l, ∀ b, f a = some b → g a = some b) : (l.filterMap f).Sublist (l.filterMap g) := by
  induction l with
  | nil => exact List.Sublist.slnil
  | cons a rest ih =>
      have hrest := ih fun b hb => h b (List.mem_cons_of_mem _ hb)
      cases hf : f a with
      | none =>
          rw [List.filterMap_cons_none hf]
          exact hrest.trans ((List.sublist_cons_self a rest).filterMap g)
      | some b =>
          rw [List.filterMap_cons_some hf, List.filterMap_cons_some (h a List.mem_cons_self b hf)]
          exact hrest.cons_cons b

namespace Orderly

variable {s : Setup} {done done' : List Slot} {deeds : List Deed}

theorem weaken (h : Orderly s done deeds) (hsub : done.Sublist done') : Orderly s done' deeds :=
  ⟨h.slots.trans hsub, h.follows⟩

theorem snoc (deed : Deed) (h : Orderly s done deeds) (hfollows : deed.Follows s deeds) :
    Orderly s (done ++ deed.slot?.toList) (deeds ++ [deed]) := by
  refine ⟨?_, forall_cut_snoc h.follows hfollows⟩
  rw [List.filterMap_append]
  exact h.slots.append (by rw [filterMap_one])

/-- Whatever was read has the path that it was read from. -/
theorem path_of_read {path : Path} {d : Document} (h : Orderly s done deeds)
    (hread : .read path (.ok d) ∈ deeds) : d.path = path := by
  obtain ⟨before, after, rfl⟩ := List.append_of_mem hread
  exact h.follows before _ after rfl d rfl

/-- Only who leaves an entry has merged anything. -/
theorem leaves_of_merged {key : String} {entry : Entry} (h : Orderly s done deeds)
    (hmerged : (key, entry) ∈ deeds.filterMap Deed.merged?) :
    ∃ v ∈ s.enabled, v.id = key ∧ v.leavesEntry = true := by
  obtain ⟨deed, hdeed, heq⟩ := List.mem_filterMap.1 hmerged
  obtain ⟨before, after, rfl⟩ := List.append_of_mem hdeed
  have hfollows := h.follows before deed after rfl
  unfold Deed.merged? at heq
  split at heq
  · cases heq
    exact hfollows.1
  · cases heq

/-- Who has merged anything has used a slot for it. -/
theorem slot_of_merged {key : String} {entry : Entry}
    (hmerged : (key, entry) ∈ deeds.filterMap Deed.merged?) :
    .merge key ∈ deeds.filterMap Deed.slot? := by
  obtain ⟨deed, hdeed, heq⟩ := List.mem_filterMap.1 hmerged
  refine List.mem_filterMap.2 ⟨deed, hdeed, ?_⟩
  unfold Deed.merged? at heq
  split at heq
  · cases heq
    rfl
  · cases heq

end Orderly

namespace InOrder

variable {s : Setup} {documents : List Document} {frozen : Bool} {done done' : List Slot}
  {p q : Progress}

theorem ofCore : Progress.OfCore (InOrder s documents frozen done) := by
  refine .intro fun p => ⟨fun h => ?_, fun h => ?_⟩
  all_goals exact ⟨⟨h.slots, h.follows⟩, h.validators, h.documents_eq, h.documents, h.parts,
    h.frozen, h.entries, h.genuine⟩

theorem weaken (h : InOrder s documents frozen done p) (hsub : done.Sublist done') :
    InOrder s documents frozen done' p :=
  { h with toOrderly := h.toOrderly.weaken hsub }

/-- One more deed, which changes what the run has got by what it comes to. -/
theorem step (deed : Deed) (h : InOrder s documents frozen done p)
    (hdeeds : q.deeds = p.deeds ++ [deed]) (hfollows : deed.Follows s p.deeds)
    (hvalidators : q.validators = p.validators)
    (hdocuments : q.documents = p.documents ++ deed.document?.toList)
    (hparts : q.parts = p.parts ++ deed.part?.toList)
    (hfrozen : q.desk.shared.frozen = p.desk.shared.frozen)
    (hentries : ∀ key entry, q.desk.shared.get? key = some entry ↔
      p.desk.shared.get? key = some entry ∨ deed.merged? = some (key, entry))
    (hgenuine : q.desk.cache.Genuine s.tree s.root) :
    InOrder s (documents ++ deed.document?.toList) frozen (done ++ deed.slot?.toList) q where
  toOrderly := hdeeds ▸ h.toOrderly.snoc deed hfollows
  validators := hvalidators.trans h.validators
  documents_eq := by rw [hdocuments, h.documents_eq]
  documents := by rw [hdocuments, hdeeds, List.filterMap_append, h.documents, filterMap_one]
  parts := by rw [hparts, hdeeds, List.filterMap_append, h.parts, filterMap_one]
  frozen := hfrozen.trans h.frozen
  entries := by
    intro key entry
    rw [hentries, hdeeds, List.filterMap_append, List.mem_append, h.entries, filterMap_one,
      Option.mem_toList]
  genuine := hgenuine

theorem ask (h : InOrder s documents frozen done p) :
    InOrder s documents frozen done (p.ask s).2 := by
  have hshared : (p.ask s).2.desk.shared = p.desk.shared := by
    unfold Progress.ask
    dsimp only
    split <;> rfl
  have hcache : (p.ask s).2.desk.cache = p.desk.cache := by
    unfold Progress.ask
    dsimp only
    split <;> rfl
  have hstep := h.step (q := (p.ask s).2) (.asked (p.ask s).1) rfl trivial rfl
    (List.append_nil _).symm (List.append_nil _).symm (by rw [hshared])
    (by simp [hshared, Deed.merged?]) (hcache ▸ h.genuine)
  simpa [Deed.document?, Deed.slot?] using hstep

theorem withStatus (h : InOrder s documents frozen done p) (status : Status) :
    InOrder s documents frozen done (p.withStatus status) :=
  { h with }

theorem withIssue (h : InOrder s documents frozen done p) (validator : String) (issue : Issue) :
    InOrder s documents frozen done (p.withIssue validator issue) :=
  { h with }

/-- A document that was read is there to be read again at its path. -/
theorem read_mem {d : Document} (h : InOrder s documents frozen done p) (hd : d ∈ documents) :
    .read d.path (.ok d) ∈ p.deeds := by
  rw [← h.documents_eq, h.documents] at hd
  obtain ⟨deed, hdeed, heq⟩ := List.mem_filterMap.1 hd
  unfold Deed.document? at heq
  split at heq
  · cases heq
    rwa [h.path_of_read hdeed]
  · cases heq

/-- The paths of the documents are among those that were to be read, in their order. -/
theorem paths_sublist (h : InOrder s documents frozen done p) (hdone : done.Sublist s.schedule) :
    (documents.map (·.path)).Sublist s.paths := by
  have hslots := (h.slots.trans hdone).filterMap Slot.reading?
  rw [Setup.filterMap_reading_schedule, List.filterMap_filterMap] at hslots
  rw [← h.documents_eq, h.documents, List.map_filterMap]
  refine (filterMap_sublist fun deed hdeed path hpath => ?_).trans hslots
  obtain ⟨d, hd, rfl⟩ := Option.map_eq_some_iff.1 hpath
  unfold Deed.document? at hd
  split at hd
  · cases hd
    rw [h.path_of_read hdeed]
    rfl
  · cases hd

/-- The parts of a validator are what it has taken from the documents. -/
theorem partsOf_eq {v : Validator} (h : InOrder s documents frozen done p) :
    Step.partsOf p v = p.deeds.filterMap (Deed.partOf? v.id) := by
  rw [Step.partsOf, h.parts, ← List.filterMap_eq_filter, ← List.filterMap_eq_map,
    List.filterMap_filterMap, List.filterMap_filterMap]
  refine List.filterMap_congr fun deed _ => ?_
  rw [Deed.partOf?]
  cases deed.part? with
  | none => rfl
  | some part => by_cases hpart : part.1 = v.id <;> simp [hpart, Option.filter, Option.guard]

/-- When the state is frozen and all is in order, it holds exactly what was merged. -/
theorem settled (h : InOrder s documents true done p) :
    Settled s p.deeds p.desk.shared := by
  refine ⟨h.frozen, fun key entry => ?_⟩
  rw [h.entries]
  exact ⟨fun hmerged => ⟨h.leaves_of_merged hmerged, hmerged⟩, fun hmerged => hmerged.2⟩

section Turns

variable {α : Type} {v : Validator} {turn : Except HookFault α → Turn} {hook : Hook α}
  {outcome : Except HookFault α}

/-- A turn has come to nothing that the run keeps. -/
theorem took (h : InOrder s documents frozen done p) (htook : Took s v turn hook p outcome q)
    (hnever : hook.NeverWrites)
    (hfollows : (Deed.turn v.id p.desk.shared (turn outcome)).Follows s p.deeds)
    (hpart : (Deed.turn v.id p.desk.shared (turn outcome)).part? = none)
    (hmerged : (Deed.turn v.id p.desk.shared (turn outcome)).merged? = none) :
    InOrder s documents frozen
      (done ++ (Deed.turn v.id p.desk.shared (turn outcome)).slot?.toList) q := by
  have hstep := h.step _ htook.deeds_eq hfollows (Progress.Steady.of_took htook).validators
    (by rw [htook.documents_eq]; exact (List.append_nil _).symm)
    (by rw [htook.parts_eq, hpart]; exact (List.append_nil _).symm) htook.frozen_eq
    (by simp [htook.shared_eq hnever, hmerged]) (htook.genuine h.genuine)
  exact (List.append_nil documents) ▸ hstep

/-- A validator has taken something from a document. -/
theorem took_part {d : Document} {hook : Hook Entry} {entry : Entry}
    (h : InOrder s documents frozen done p) (htook : Took s v (.extract d) hook p (.ok entry) q)
    (hnever : hook.NeverWrites) (hread : .read d.path (.ok d) ∈ p.deeds) :
    InOrder s documents frozen (done ++ [.extract d.path v.id]) (q.withPart v entry) := by
  have hstep := h.step (q := q.withPart v entry) _ htook.deeds_eq hread
    (Progress.Steady.of_took htook).validators
    (htook.documents_eq.trans (List.append_nil _).symm) (congrArg (· ++ _) htook.parts_eq)
    htook.frozen_eq (fun key entry => ?_) (htook.genuine h.genuine)
  · exact (List.append_nil documents) ▸ hstep
  · show q.desk.shared.get? key = some entry ↔ _
    simp [htook.shared_eq hnever, Deed.merged?]

/-- A validator has merged what it has taken, for the first time. -/
theorem took_entry {parts : List Entry} {hook : Hook Entry} {entry : Entry}
    (h : InOrder s documents frozen done p) (htook : Took s v (.merge parts) hook p (.ok entry) q)
    (hnever : hook.NeverWrites) (hnew : .merge v.id ∉ done)
    (hfollows : (Deed.turn v.id p.desk.shared (.merge parts (.ok entry))).Follows s p.deeds) :
    InOrder s documents frozen (done ++ [.merge v.id]) (q.withEntry v.id entry) := by
  have hstep := h.step (q := q.withEntry v.id entry) _ htook.deeds_eq hfollows
    (Progress.Steady.of_took htook).validators
    (htook.documents_eq.trans (List.append_nil _).symm)
    (htook.parts_eq.trans (List.append_nil _).symm)
    htook.frozen_eq (fun key entry' => ?_) (htook.genuine h.genuine)
  · exact (List.append_nil documents) ▸ hstep
  -- Only one who has merged has an entry, and this validator has not merged before.
  · have hunwritten : p.desk.shared.get? v.id ≠ some entry' := by
      intro hwritten
      exact hnew (h.slots.subset (Orderly.slot_of_merged ((h.entries _ _).1 hwritten)))
    show (SharedState.write v.id entry q.desk.shared.entries).lookup key = some entry' ↔ _
    rw [SharedState.lookup_write, htook.shared_eq hnever]
    by_cases hkey : key = v.id
    · subst hkey
      simp [hunwritten, Deed.merged?]
    · simp [hkey, Ne.symm hkey, SharedState.get?, Deed.merged?]

end Turns

end InOrder

namespace Step

variable {s : Setup} {documents : List Document} {frozen : Bool} {done : List Slot} {p : Progress}
  {v : Validator}

/-! ## Loops

A loop uses the slots of one member of its list after those of another.
-/

/-- A loop over validators, with a slot for each. -/
theorem inOrder_forM {step : Validator → Step Unit} (slot : Validator → Slot) (l : List Validator)
    (hstep : ∀ before v after, l = before ++ v :: after → ∀ p,
      InOrder s documents frozen (done ++ before.map slot) p →
      (step v).wp (fun _ => InOrder s documents frozen (done ++ before.map slot ++ [slot v]))
        (fun _ q => Orderly s (done ++ before.map slot ++ [slot v]) q.deeds) p)
    (h : InOrder s documents frozen done p) :
    (l.forM step).wp (fun _ => InOrder s documents frozen (done ++ l.map slot))
      (fun _ q => Orderly s (done ++ l.map slot) q.deeds) p := by
  refine wp_forM (I := fun before => InOrder s documents frozen (done ++ before.map slot)) step l
    (fun before v after hl q hq => ?_) (by simpa using h)
  refine (hstep before v after hl q hq).mono (fun _ r hr => ?_) fun _ r hr => hr.weaken ?_
  · simpa using hr
  · rw [hl, List.append_assoc, List.map_append, List.map_cons]
    exact (((List.nil_sublist _).cons_cons _).append_left _).append_left _

/-- A loop that may be left, with slots for each member of its list. -/
theorem inOrder_whileRunning {α : Type} {J : List Slot → Progress → Prop} {step : α → Step Unit}
    (slots : α → List Slot) (l : List α)
    (hweaken : ∀ {done done' p}, done.Sublist done' → J done p → J done' p)
    (hask : ∀ {done p}, J done p → J done (p.ask s).2)
    (hstep : ∀ a ∈ l, ∀ done p, J done p → (step a).wp (fun _ => J (done ++ slots a))
      (fun _ q => Orderly s (done ++ slots a) q.deeds) p)
    (h : J done p) :
    (whileRunning s step l).wp (fun _ => J (done ++ l.flatMap slots))
      (fun _ q => Orderly s (done ++ l.flatMap slots) q.deeds) p := by
  refine (wp_whileRunning (I := fun before => J (done ++ before.flatMap slots)) step l
    (fun _ _ => hask) (fun before a after hl q hq => ?_) (by simpa using h)).mono
    (fun _ q hq => ?_) fun _ _ => id
  · refine (hstep a (by simp [hl]) _ q hq).mono (fun _ r hr => ?_) fun _ r hr => hr.weaken ?_
    · simpa using hr
    · rw [hl, List.append_assoc, List.flatMap_append, List.flatMap_cons]
      exact ((List.sublist_append_left _ _).append_left _).append_left _
  · obtain ⟨before, after, rfl, hq, -⟩ := hq
    refine hweaken ?_ hq
    rw [List.flatMap_append]
    exact (List.sublist_append_left _ _).append_left _

/-! ## Extraction -/

theorem inOrder_readDocument {path : Path} (h : InOrder s documents frozen done p) :
    (readDocument s path).wp (fun found q => match found with
      | none => InOrder s documents frozen (done ++ [.read path]) q
      | some d => d.path = path ∧ InOrder s (documents ++ [d]) frozen (done ++ [.read path]) q)
      (fun _ q => Orderly s (done ++ [.read path]) q.deeds) p := by
  have hfollows {result q} (hread : Read s path p result q) :
      (Deed.read path result).Follows s p.deeds := by
    rintro d rfl
    exact (hread.of_ok h.genuine).1
  have hafter {fault q} (hread : Read s path p (.error fault) q) :
      InOrder s documents frozen (done ++ [.read path]) q := by
    have hsteady := Progress.Steady.of_read hread
    have hstep := h.step _ hread.deeds_eq (hfollows hread) hsteady.validators
      (hread.documents_eq.trans (List.append_nil _).symm)
      (hread.parts_eq.trans (List.append_nil _).symm) (by rw [hread.shared_eq])
      (by simp [hread.shared_eq, Deed.merged?]) (hread.genuine h.genuine).1
    exact (List.append_nil documents) ▸ hstep
  refine wp_readDocument (fun found => ?_) (fun d q hread => ?_) (fun fault issue q hread _ => ?_)
    fun fault q hread _ => (hafter hread).toOrderly
  · cases found with
    | none => exact InOrder.ofCore
    | some d => exact fun p q hcore hp => ⟨hp.1, InOrder.ofCore p q hcore hp.2⟩
  · refine ⟨(hread.of_ok h.genuine).1, ?_⟩
    have hstep := h.step (q := q.withDocument d) _ hread.deeds_eq (hfollows hread)
      (Progress.Steady.of_read hread).validators (congrArg (· ++ [d]) hread.documents_eq)
      (hread.parts_eq.trans (List.append_nil _).symm)
      (congrArg SharedState.frozen hread.shared_eq) (fun key entry => ?_)
      (hread.genuine h.genuine).1
    · exact { hstep with }
    · show q.desk.shared.get? key = some entry ↔ _
      simp [hread.shared_eq, Deed.merged?]
  · exact (hafter hread).withIssue _ _

theorem inOrder_extractWith {d : Document} (h : InOrder s documents frozen done p)
    (hd : d ∈ documents) (hv : v.Each Hook.NeverWrites) :
    (extractWith s d v).wp
      (fun _ => InOrder s documents frozen (done ++ [.extract d.path v.id]))
      (fun _ q => Orderly s (done ++ [.extract d.path v.id]) q.deeds) p := by
  refine wp_extractWith InOrder.ofCore (fun _ => h.weaken (List.sublist_append_left _ _))
    fun hook hhook _ => ⟨fun entry q htook => ?_, fun message q htook => ?_,
      fun fault q htook _ => ?_⟩
  · exact h.took_part htook (hv.extract hook hhook _ _) (h.read_mem hd)
  · exact (h.took htook (hv.extract hook hhook _ _) (h.read_mem hd) rfl rfl).toOrderly
  · exact (h.took htook (hv.extract hook hhook _ _) (h.read_mem hd) rfl rfl).withIssue _ _

theorem inOrder_extractFile {path : Path} (h : InOrder s documents frozen done p)
    (hnever : ∀ v ∈ s.enabled, v.Each Hook.NeverWrites) :
    (extractFile s path).wp (fun _ q => ∃ documents, InOrder s documents frozen
        (done ++ s.extraction path) q)
      (fun _ q => Orderly s (done ++ s.extraction path) q.deeds) p := by
  have hfirst : (done ++ [Slot.read path]).Sublist (done ++ s.extraction path) :=
    ((List.nil_sublist _).cons_cons _).append_left _
  rw [extractFile, wp_bind]
  refine (inOrder_readDocument h).mono (fun found q hq => ?_) fun _ q hq => hq.weaken hfirst
  cases found with
  | none => exact ⟨documents, hq.weaken hfirst⟩
  | some d =>
      obtain ⟨rfl, hq⟩ := hq
      have hsplit : done ++ s.extraction d.path =
          done ++ [Slot.read d.path] ++ s.enabled.map fun v => Slot.extract d.path v.id := by
        rw [Setup.extraction, List.append_assoc, List.singleton_append]
      rw [wp_bind, wp_get, hq.validators, hsplit]
      refine (inOrder_forM (fun v => .extract d.path v.id) s.enabled (fun before v after hl r hr =>
        ?_) hq).mono (fun _ r hr => ⟨_, hr⟩) fun _ _ => id
      exact inOrder_extractWith hr (by simp) (hnever v (by simp [hl]))

theorem inOrder_extract (h : InOrder s documents frozen done p)
    (hnever : ∀ v ∈ s.enabled, v.Each Hook.NeverWrites) :
    (extract s).wp (fun _ q => ∃ documents, InOrder s documents frozen
        (done ++ s.paths.flatMap s.extraction) q)
      (fun _ q => Orderly s (done ++ s.paths.flatMap s.extraction) q.deeds) p := by
  rw [extract, wp_bind]
  refine (wp_beginPhase (Q := fun _ => InOrder s documents frozen done) InOrder.ofCore
    (h.withStatus _)).mono (fun _ q hq => ?_) fun _ _ => id
  rw [wp_bind]
  refine (inOrder_whileRunning (J := fun done q => ∃ documents, InOrder s documents frozen done q)
    s.extraction s.paths ?_ ?_ ?_ ⟨documents, hq⟩).mono (fun all r hr => ?_) fun _ _ => id
  · exact fun hsub hJ => ⟨_, hJ.choose_spec.weaken hsub⟩
  · exact fun hJ => ⟨_, hJ.choose_spec.ask⟩
  · exact fun path _ done q hJ => inOrder_extractFile hJ.choose_spec hnever
  · split
    · exact wp_endPhase (Q := fun _ q => ∃ documents, InOrder s documents frozen _ q) _
        (fun p q hcore hp => ⟨_, InOrder.ofCore p q hcore hp.choose_spec⟩) hr
    · exact hr

/-! ## Merging -/

theorem inOrder_mergeWith (h : InOrder s documents false done p) (hv : v ∈ s.enabled)
    (hnever : v.Each Hook.NeverWrites) (hnew : .merge v.id ∉ done) :
    (mergeWith s v).wp (fun _ => InOrder s documents false (done ++ [.merge v.id]))
      (fun _ q => Orderly s (done ++ [.merge v.id]) q.deeds) p := by
  refine wp_mergeWith InOrder.ofCore (fun _ => h.weaken (List.sublist_append_left _ _))
    fun hleaves => ?_
  have hfollows {outcome : Except HookFault Entry} :
      (Deed.turn v.id p.desk.shared (.merge (partsOf p v) outcome)).Follows s p.deeds :=
    ⟨⟨v, hv, rfl, hleaves⟩, h.partsOf_eq⟩
  refine ⟨fun entry q htook => ?_, fun message q htook => ?_, fun fault q htook _ => ?_⟩
  · have hopen : q.desk.shared.frozen = false := htook.frozen_eq.trans h.frozen
    rw [if_neg (by simp [hopen])]
    exact h.took_entry htook (hnever.merge _ _) hnew hfollows
  · exact (h.took htook (hnever.merge _ _) hfollows rfl rfl).toOrderly
  · exact (h.took htook (hnever.merge _ _) hfollows rfl rfl).withIssue _ _

theorem inOrder_merge (h : InOrder s documents false done p)
    (hnever : ∀ v ∈ s.enabled, v.Each Hook.NeverWrites) (hnodup : (s.enabled.map (·.id)).Nodup)
    (hnew : ∀ id, .merge id ∉ done) :
    (merge s).wp (fun _ => InOrder s documents true (done ++ s.merging))
      (fun _ q => Orderly s (done ++ s.merging) q.deeds) p := by
  rw [merge, wp_bind]
  refine (wp_beginPhase (Q := fun _ => InOrder s documents false done) InOrder.ofCore
    (h.withStatus _)).mono (fun _ q hq => ?_) fun _ _ => id
  rw [wp_bind, wp_get, wp_bind, hq.validators]
  refine (inOrder_forM (fun v => .merge v.id) s.enabled (fun before v after hl r hr => ?_) hq).mono
    (fun _ r hr => ?_) fun _ _ => id
  · refine inOrder_mergeWith hr (by simp [hl]) (hnever v (by simp [hl])) fun hmem => ?_
    -- A slot for merging was used in an earlier phase, or by a validator with the same id.
    rcases List.mem_append.1 hmem with hmem | hmem
    · exact hnew _ hmem
    · obtain ⟨w, hw, hid⟩ := List.mem_map.1 hmem
      rw [hl, List.map_append, List.map_cons, List.nodup_append] at hnodup
      exact hnodup.2.2 w.id (List.mem_map_of_mem hw) v.id List.mem_cons_self (Slot.merge.inj hid)
  · rw [wp_bind, onDesk, wp_modify]
    exact wp_endPhase _ InOrder.ofCore { hr with frozen := rfl }

/-! ## Validation -/

theorem inOrder_validateWith {d : Document} (h : InOrder s documents true done p)
    (hd : d ∈ documents) (hnever : v.Each Hook.NeverWrites) :
    (validateWith s d v).wp
      (fun _ => InOrder s documents true (done ++ [.validate d.path v.id]))
      (fun _ q => Orderly s (done ++ [.validate d.path v.id]) q.deeds) p := by
  have hfollows {outcome : Except HookFault (List Issue)} :
      (Deed.turn v.id p.desk.shared (.validate d outcome)).Follows s p.deeds :=
    ⟨h.read_mem hd, h.settled⟩
  refine wp_validateWith InOrder.ofCore (fun _ => h.weaken (List.sublist_append_left _ _))
    fun hook hhook _ => ⟨fun issues q htook => ?_, fun message q htook => ?_,
      fun fault q htook _ => ?_⟩
  · exact { h.took htook (hnever.validate hook hhook _ _) hfollows rfl rfl with }
  · exact (h.took htook (hnever.validate hook hhook _ _) hfollows rfl rfl).toOrderly
  · exact (h.took htook (hnever.validate hook hhook _ _) hfollows rfl rfl).withIssue _ _

theorem inOrder_validateDocument {d : Document} (h : InOrder s documents true done p)
    (hd : d ∈ documents) (hnever : ∀ v ∈ s.enabled, v.Each Hook.NeverWrites) :
    (validateDocument s d).wp
      (fun _ => InOrder s documents true (done ++ s.validation d.path))
      (fun _ q => Orderly s (done ++ s.validation d.path) q.deeds) p := by
  rw [validateDocument, wp_bind, wp_get, h.validators]
  exact inOrder_forM (fun v => .validate d.path v.id) s.enabled
    (fun before v after hl q hq => inOrder_validateWith hq hd (hnever v (by simp [hl]))) h

theorem inOrder_validateProjectWith (h : InOrder s documents true done p) (hv : v ∈ s.enabled)
    (hnever : v.Each Hook.NeverWrites) :
    (validateProjectWith s v).wp
      (fun _ => InOrder s documents true (done ++ [.validateProject v.id]))
      (fun _ q => Orderly s (done ++ [.validateProject v.id]) q.deeds) p := by
  have hfollows {outcome : Except HookFault (List Issue)} :
      (Deed.turn v.id p.desk.shared (.validateProject (p.documents.filter v.supports)
        outcome)).Follows s p.deeds :=
    ⟨⟨v, hv, rfl, h.documents ▸ rfl⟩, h.settled⟩
  refine wp_validateProjectWith InOrder.ofCore (fun _ => h.weaken (List.sublist_append_left _ _))
    fun hook hhook => ⟨fun issues q htook => ?_, fun message q htook => ?_,
      fun fault q htook _ => ?_⟩
  · exact { h.took htook (hnever.validateProject hook hhook _ _) hfollows rfl rfl with }
  · exact (h.took htook (hnever.validateProject hook hhook _ _) hfollows rfl rfl).toOrderly
  · exact (h.took htook (hnever.validateProject hook hhook _ _) hfollows rfl rfl).withIssue _ _

theorem inOrder_validate (h : InOrder s documents true done p)
    (hdone : done.Sublist s.schedule) (hnever : ∀ v ∈ s.enabled, v.Each Hook.NeverWrites) :
    (validate s).wp
      (fun _ => InOrder s documents true
        (done ++ s.paths.flatMap s.validation ++ s.projectValidation))
      (fun _ q => Orderly s (done ++ s.paths.flatMap s.validation ++ s.projectValidation) q.deeds)
      p := by
  -- Documents come from files in their order, so that slots of other files stay unused.
  have hslots : (done ++ documents.flatMap fun d => s.validation d.path).Sublist
      (done ++ s.paths.flatMap s.validation) := by
    rw [← List.flatMap_map Document.path s.validation]
    exact ((h.paths_sublist hdone).flatMap _).append_left _
  rw [validate, wp_bind]
  refine (wp_beginPhase (Q := fun _ => InOrder s documents true done) InOrder.ofCore
    (h.withStatus _)).mono (fun _ q hq => ?_) fun _ _ => id
  rw [wp_bind, wp_get, wp_bind, hq.documents_eq]
  refine (inOrder_whileRunning (J := InOrder s documents true) (fun d => s.validation d.path)
    documents (fun hsub hJ => hJ.weaken hsub) (fun hJ => hJ.ask)
    (fun d hd _ _ hJ => inOrder_validateDocument hJ hd hnever) hq).mono (fun all r hr => ?_)
    fun _ r hr => hr.weaken (hslots.trans (List.sublist_append_left _ _))
  have hr := hr.weaken hslots
  split
  · have hproject : ((s.enabled.filter (·.validateProject.isSome)).flatMap
        fun v => [Slot.validateProject v.id]).Sublist s.projectValidation := by
      rw [← List.map_eq_flatMap]
      exact List.filter_sublist.map _
    rw [wp_bind, wp_get, wp_bind, hr.validators]
    refine (inOrder_whileRunning (J := InOrder s documents true) (fun v => [.validateProject v.id])
      _ (fun hsub hJ => hJ.weaken hsub) (fun hJ => hJ.ask) (fun v hv _ _ hJ => ?_) hr).mono
      (fun all t ht => ?_) fun _ t ht => ht.weaken (hproject.append_left _)
    · have hv := (List.mem_filter.1 hv).1
      exact inOrder_validateProjectWith hJ hv (hnever v hv)
    · have ht := ht.weaken (hproject.append_left _)
      split
      · exact wp_endPhase _ InOrder.ofCore ht
      · exact ht
  · exact hr.weaken (List.sublist_append_left _ _)

/-! ## The way to the report -/

theorem inOrder_register {desk : Desk} (hshared : desk.shared = {})
    (hreadings : desk.cache.readings = []) :
    (register s).wp (fun _ q => InOrder s [] false [] q ∧ (s.enabled.map (·.id)).Nodup)
      (fun _ q => Orderly s [] q.deeds) { desk } := by
  have hnothing : Orderly s [] [] := ⟨List.Sublist.slnil, by simp⟩
  rw [register, wp_bind]
  refine wp_registerAll (p := { desk }) [] (fun hfresh => ?_) fun _ _ _ => hnothing
  rw [enter, wp_modify]
  refine ⟨⟨hnothing, rfl, rfl, rfl, rfl, ?_, ?_, ?_⟩, hfresh.1.sublist (List.filter_sublist.map _)⟩
  · rw [hshared]
  · simp [hshared, SharedState.get?]
  · simp [Document.Cache.Genuine, hreadings]

theorem inOrder_start (h : InOrder s documents frozen done p)
    (hnever : ∀ v ∈ s.enabled, v.Each Hook.NeverWrites) :
    (start s).wp (fun _ => InOrder s documents frozen done) (fun _ q => Orderly s done q.deeds)
      p := by
  rw [start, wp_bind, wp_get, wp_bind, h.validators]
  refine (wp_forM (I := fun _ => InOrder s documents frozen done) _ _
    (fun before v after hl q hq => ?_) h).mono (fun _ q hq => ?_) fun _ _ => id
  · have hv := hnever v (by simp [hl])
    have htaken {outcome r} (htook : Took s v .start (v.starting (s.contextOf v)) q outcome r) :
        InOrder s documents frozen done r := by
      have hafter := hq.took htook (hv.start _) trivial rfl rfl
      exact (List.append_nil done) ▸ hafter
    exact wp_startWith (fun r htook => { htaken htook with })
      fun fault r htook => (htaken htook).toOrderly
  · rw [wp_bind, enter, wp_modify]
    exact wp_emit _ InOrder.ofCore (hq.withStatus .initialized)

theorem inOrder_toReport (desk : Desk) (hnever : ∀ v ∈ s.enabled, v.Each Hook.NeverWrites)
    (hshared : desk.shared = {}) (hreadings : desk.cache.readings = []) :
    (toReport s).wp (fun _ => Scheduled s) (fun _ => Scheduled s) { desk } := by
  have hextraction : (s.paths.flatMap s.extraction).Sublist s.schedule := by
    rw [Setup.schedule, List.append_assoc, List.append_assoc]
    exact List.sublist_append_left _ _
  have hmerging : (s.paths.flatMap s.extraction ++ s.merging).Sublist s.schedule := by
    rw [Setup.schedule, List.append_assoc _ (s.paths.flatMap s.validation)]
    exact List.sublist_append_left _ _
  rw [toReport, wp_bind]
  refine (inOrder_register hshared hreadings).mono (fun _ p hp => ?_) fun _ q hq => .inl hq
  obtain ⟨hp, hnodup⟩ := hp
  refine wp.mono (Q := fun _ q => Orderly s s.schedule q.deeds)
    (E := fun _ q => Orderly s s.schedule q.deeds) ?_ (fun _ q hq => .inr ⟨hnodup, hq⟩)
    fun _ q hq => .inr ⟨hnodup, hq⟩
  rw [wp_bind]
  refine (inOrder_start hp hnever).mono (fun _ p hp => ?_)
    fun _ q hq => hq.weaken (List.nil_sublist _)
  rw [wp_bind]
  have hextract : (unlessCancelled s (extract s)).wp
      (fun _ q => ∃ documents, InOrder s documents false (s.paths.flatMap s.extraction) q)
      (fun _ q => Orderly s (s.paths.flatMap s.extraction) q.deeds) p := by
    refine wp_unlessCancelled (fun _ => ⟨[], hp.ask.weaken (List.nil_sublist _)⟩) fun _ => ?_
    exact inOrder_extract hp.ask hnever
  refine hextract.mono (fun _ p hp => ?_) fun _ q hq => hq.weaken hextraction
  obtain ⟨documents, hp⟩ := hp
  rw [wp_bind]
  have hmerge : (merge s).wp
      (fun _ => InOrder s documents true (s.paths.flatMap s.extraction ++ s.merging))
      (fun _ q => Orderly s (s.paths.flatMap s.extraction ++ s.merging) q.deeds) (p.ask s).2 := by
    refine inOrder_merge hp.ask hnever hnodup fun id hmem => ?_
    obtain ⟨path, -, hmem⟩ := List.mem_flatMap.1 hmem
    simpa [Slot.phase] using Setup.phase_of_mem_extraction hmem
  refine (wp_unlessCancelled_done
    (J := fun frozen => InOrder s documents frozen (s.paths.flatMap s.extraction ++ s.merging))
    (hp.ask.weaken (List.sublist_append_left _ _)) hmerge).mono (fun _ p hp => ?_)
    fun _ q hq => hq.weaken hmerging
  obtain ⟨frozen, hp, hfrozen⟩ := hp
  rw [wp_bind]
  have hvalidate : (unlessCancelled s (validate s)).wp (fun _ q => Orderly s s.schedule q.deeds)
      (fun _ q => Orderly s s.schedule q.deeds) p := by
    refine wp_unlessCancelled (fun _ => hp.ask.toOrderly.weaken hmerging) fun hcancelled => ?_
    obtain rfl := hfrozen (Progress.cancelled_of_ask hcancelled)
    exact (inOrder_validate hp.ask hmerging hnever).mono (fun _ q hq => hq.toOrderly) fun _ _ => id
  refine hvalidate.mono (fun _ p hp => ?_) fun _ _ => id
  rw [wp_report]
  exact hp

end Step

/-! ## The whole run -/

section Run

variable {s : Setup} {done : List Slot} {deeds : List Deed}

/-- Whatever is handed to a validator was read. -/
theorem Orderly.read_of_examined (h : Orderly s done deeds) {deed : Deed} (hdeed : deed ∈ deeds)
    {d : Document} (hd : d ∈ deed.examined) : .read d.path (.ok d) ∈ deeds := by
  obtain ⟨before, after, rfl⟩ := List.append_of_mem hdeed
  have hfollows := h.follows before deed after rfl
  refine List.mem_append_left _ ?_
  unfold Deed.examined at hd
  split at hd
  next =>
    obtain rfl := List.mem_singleton.1 hd
    exact hfollows
  next =>
    obtain rfl := List.mem_singleton.1 hd
    exact hfollows.1
  next =>
    obtain ⟨⟨w, -, -, rfl⟩, -⟩ := hfollows
    obtain ⟨read, hread, heq⟩ := List.mem_filterMap.1 (List.mem_filter.1 hd).1
    unfold Deed.document? at heq
    split at heq
    · cases heq
      rwa [h.path_of_read (List.mem_append_left _ hread)]
    · cases heq
  next => cases hd

/-- A file that cannot be read is not handed to anyone. -/
theorem Orderly.unexamined {path : Path} {fault : Document.LoadFault}
    (h : Orderly s s.schedule deeds) (hread : .read path (.error fault) ∈ deeds) :
    ∀ deed ∈ deeds, ∀ d ∈ deed.examined, d.path ≠ path := by
  rintro deed hdeed d hd rfl
  -- No file is read twice, so that its reading cannot have failed and succeeded.
  have hreads := h.slots.filterMap Slot.reading?
  rw [Setup.filterMap_reading_schedule, List.filterMap_filterMap] at hreads
  have honce := ((Files.pairwise_sortPaths s.files).imp fun hprecedes => hprecedes.2).sublist hreads
  rw [List.pairwise_filterMap] at honce
  have hsymm : Std.Symm fun a a' : Deed => ∀ path, a.slot?.bind Slot.reading? = some path →
      ∀ path', a'.slot?.bind Slot.reading? = some path' → path ≠ path' :=
    ⟨fun _ _ hdistinct path hpath path' hpath' => (hdistinct path' hpath' path hpath).symm⟩
  exact honce.forall hread (h.read_of_examined hdeed hd) nofun d.path rfl d.path rfl rfl

/-- To make validators finish takes up no slots. -/
theorem Orderly.finish {p : Progress} (h : Orderly s done p.deeds) :
    Orderly s done (finish s p).deeds := by
  refine foldl_finishWith_induction s (J := fun p => Orderly s done p.deeds)
    (fun v _ p q outcome htook hp => ?_) h
  have hnext := hp.snoc (.turn v.id p.desk.shared (.finish outcome)) trivial
  rw [← htook.deeds_eq] at hnext
  exact (List.append_nil done) ▸ hnext

theorem scheduled_execute (cancelRequested : Bool)
    (hnever : ∀ v ∈ s.enabled, v.Each Hook.NeverWrites) :
    Scheduled s (execute s cancelRequested).progress := by
  have hfinish {p : Progress} (h : Scheduled s p) : Scheduled s (finish s p) :=
    h.imp (·.finish) fun h => ⟨h.1, h.2.finish⟩
  rcases execute_cases (Step.inOrder_toReport { cancelRequested } hnever rfl rfl)
    with ⟨_, p, hp, hends⟩ | ⟨_, p, hp, hends⟩
  all_goals
    rw [hends]
    exact hfinish hp

end Run

/-- What a run does keeps to its order. No phase begins before the last one is over and all that is
to be done in it is done, and nothing is done twice in a phase; a run that makes a report without
being cancelled has done all that it has to. Files come in the order of their paths, and for each
file validators come in the order of registration. A file that cannot be read is not handed to
anyone. Whatever is done follows from what was done before, at the desk to which that has led: a
turn is what the validator's own hook has come to there. And no hook was at the desk besides. -/
theorem execute_in_order (s : Setup) (cancelRequested : Bool)
    (hnever : ∀ v ∈ s.enabled, v.Each Hook.NeverWrites) :
    let o := execute s cancelRequested
    let deeds := o.progress.deeds
    let slots := deeds.filterMap Deed.slot?
    slots.Pairwise (fun a b => a.phase ≤ b.phase) ∧ slots.Nodup ∧
      (slots.filterMap Slot.reading?).Pairwise Path.Precedes ∧
      (slots.filterMap Slot.extraction?).Pairwise s.Earlier ∧
      (slots.filterMap Slot.validation?).Pairwise s.Earlier ∧
      InPhases s deeds ∧
      (∀ report, o.result = .ok report → report.cancelled = false → DoneBefore s 3 deeds) ∧
      (∀ path fault, .read path (.error fault) ∈ deeds →
        ∀ deed ∈ deeds, ∀ d ∈ deed.examined, d.path ≠ path) ∧
      (∀ before deed after, deeds = before ++ deed :: after →
        deed.Follows s before ∧ ∃ d d', Recorded s before d ∧ deed.Leads s before d d') ∧
      o.progress.OnRecord s := by
  intro o deeds slots
  have hrecord : o.progress.OnRecord s := onRecord_execute s cancelRequested
  obtain ⟨hinPhases, hdone⟩ := inPhases_execute s cancelRequested
  rcases scheduled_execute cancelRequested hnever with h | ⟨hnodup, h⟩
  -- A run that has failed before the first phase has used no slots at all.
  · have hslots : slots = [] := List.sublist_nil.1 h.slots
    rw [hslots]
    exact ⟨.nil, .nil, .nil, .nil, .nil, hinPhases, hdone,
      fun _ _ => (h.weaken (List.nil_sublist _)).unexamined,
      fun before deed after heq => ⟨h.follows before deed after heq, hrecord.exists_leads heq⟩,
      hrecord⟩
  · have hsub : slots.Sublist s.schedule := h.slots
    have hread := hsub.filterMap Slot.reading?
    have hextracted := hsub.filterMap Slot.extraction?
    have hvalidated := hsub.filterMap Slot.validation?
    rw [Setup.filterMap_reading_schedule] at hread
    rw [Setup.filterMap_extraction_schedule] at hextracted
    rw [Setup.filterMap_validation_schedule] at hvalidated
    exact ⟨Setup.pairwise_schedule.sublist hsub, (Setup.nodup_schedule hnodup).sublist hsub,
      (Files.pairwise_sortPaths s.files).sublist hread,
      (Setup.pairwise_offers hnodup).sublist hextracted,
      (Setup.pairwise_offers hnodup).sublist hvalidated, hinPhases, hdone,
      fun _ _ => h.unexamined,
      fun before deed after heq => ⟨h.follows before deed after heq, hrecord.exists_leads heq⟩,
      hrecord⟩

/-- A document that the standard validators look at: it is read, both validators have their turns
with it and with what they have taken from it, and one looks at the project. -/
theorem standard_in_order :
    let s : Setup :=
      { config := {}
        files := [⟨.absolute, ["a.md"]⟩]
        tree := .directory [("a.md", .file "# A\n\n[B](b.md)\n".toUTF8.toList)]
        validators := standardValidators }
    let p := (execute s false).progress
    let slots := p.deeds.filterMap Deed.slot?
    (∀ v ∈ s.enabled, v.Each Hook.NeverWrites) ∧ slots.length = 8 ∧
      slots.Pairwise (fun a b => a.phase ≤ b.phase) ∧ slots.Nodup ∧ InPhases s p.deeds ∧
      p.OnRecord s := by
  intro s p slots
  have hnever : ∀ v ∈ s.enabled, v.Each Hook.NeverWrites := fun v hv =>
    (standard_observes v (List.mem_filter.1 hv).1).mono fun _ h => h.neverWrites
  obtain ⟨hphases, honce, -, -, -, hinPhases, -, -, -, hrecord⟩ := execute_in_order s false hnever
  exact ⟨hnever, by decide +kernel, hphases, honce, hinPhases, hrecord⟩

end Continuity.Run
