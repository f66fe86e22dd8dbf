import Mathlib.Data.List.Flatten
import Continuity.Proofs.Files.Order
import Continuity.Proofs.Run.Lifecycle

/-! # The schedule of a run

A run has a slot for every file that is to be read, and for every hook that may be called in a
phase. The schedule has these slots in the order in which they may be used.
-/

namespace Continuity.Run

/-- A place in the schedule of a run. -/
inductive Slot where
  | read (path : Path)
  | extract (path : Path) (validator : String)
  | merge (validator : String)
  | validate (path : Path) (validator : String)
  | validateProject (validator : String)

namespace Slot

/-- The number of the phase that a slot belongs to. -/
def phase : Slot → Nat
  | .read _ | .extract .. => 0
  | .merge _ => 1
  | .validate .. | .validateProject _ => 2

theorem phase_le_two (slot : Slot) : slot.phase ≤ 2 := by
  cases slot <;> simp [phase]

/-- The file that a slot is about. -/
def path? : Slot → Option Path
  | .read path | .extract path _ | .validate path _ => some path
  | .merge _ | .validateProject _ => none

/-- The file that is read. -/
def reading? : Slot → Option Path
  | .read path => some path
  | _ => none

/-- The file that a validator takes something from. -/
def extraction? : Slot → Option (Path × String)
  | .extract path validator => some (path, validator)
  | _ => none

/-- The file that a validator looks for issues in. -/
def validation? : Slot → Option (Path × String)
  | .validate path validator => some (path, validator)
  | _ => none

end Slot

/-- The slot that something done takes up, if it belongs to a phase. -/
def Deed.slot? : Deed → Option Slot
  | .asked _ => none
  | .read path _ => some (.read path)
  | .turn v _ (.extract d _) => some (.extract d.path v)
  | .turn v _ (.merge ..) => some (.merge v)
  | .turn v _ (.validate d _) => some (.validate d.path v)
  | .turn v _ (.validateProject ..) => some (.validateProject v)
  | .turn _ _ (.start _) | .turn _ _ (.finish _) => none

namespace Setup

variable (s : Setup)

/-- The slots for a file when things are taken from the files. -/
def extraction (path : Path) : List Slot :=
  .read path :: s.enabled.map fun v => .extract path v.id

/-- The slots for merging. -/
def merging : List Slot := s.enabled.map fun v => .merge v.id

/-- The slots for a file when issues are looked for. -/
def validation (path : Path) : List Slot := s.enabled.map fun v => .validate path v.id

/-- The slots for the project as a whole. -/
def projectValidation : List Slot := s.enabled.map fun v => .validateProject v.id

/-- All slots of a run. -/
def schedule : List Slot :=
  s.paths.flatMap s.extraction ++ s.merging ++ s.paths.flatMap s.validation ++ s.projectValidation

/-- A validator comes to one file earlier than another one to a file: by the order of the files, and
for one file by the order of registration. -/
def Earlier (a b : Path × String) : Prop :=
  a.1.Precedes b.1 ∨
    a.1 = b.1 ∧ (s.enabled.map (·.id)).idxOf a.2 < (s.enabled.map (·.id)).idxOf b.2

/-- The files for each validator, in their order. -/
def offers : List (Path × String) := s.paths.flatMap fun path => s.enabled.map fun v => (path, v.id)

variable {s}

theorem pairwise_offers (hnodup : (s.enabled.map (·.id)).Nodup) : s.offers.Pairwise s.Earlier := by
  rw [offers, List.pairwise_flatMap]
  constructor
  · intro path _
    rw [List.pairwise_map, List.pairwise_iff_getElem]
    intro i j hi hj hij
    refine .inr ⟨rfl, ?_⟩
    have hindex {k : Nat} (hk : k < s.enabled.length) :
        (s.enabled.map (·.id)).idxOf s.enabled[k].id = k := by
      have := hnodup.idxOf_getElem k (by simpa using hk)
      simpa using this
    rwa [hindex hi, hindex hj]
  · refine (Files.pairwise_sortPaths s.files).imp fun {p q} hprecedes a ha b hb => ?_
    obtain ⟨v, -, rfl⟩ := List.mem_map.1 ha
    obtain ⟨w, -, rfl⟩ := List.mem_map.1 hb
    exact .inl hprecedes

theorem phase_of_mem_extraction {path : Path} {slot : Slot} (h : slot ∈ s.extraction path) :
    slot.phase = 0 := by
  rcases List.mem_cons.1 h with rfl | h
  · rfl
  · obtain ⟨v, -, rfl⟩ := List.mem_map.1 h
    rfl

theorem phase_of_mem_merging {slot : Slot} (h : slot ∈ s.merging) : slot.phase = 1 := by
  obtain ⟨v, -, rfl⟩ := List.mem_map.1 h
  rfl

theorem phase_of_mem_validation {path : Path} {slot : Slot} (h : slot ∈ s.validation path) :
    slot.phase = 2 := by
  obtain ⟨v, -, rfl⟩ := List.mem_map.1 h
  rfl

theorem phase_of_mem_projectValidation {slot : Slot} (h : slot ∈ s.projectValidation) :
    slot.phase = 2 := by
  obtain ⟨v, -, rfl⟩ := List.mem_map.1 h
  rfl

theorem phase_of_mem_extractions {slot : Slot} (h : slot ∈ s.paths.flatMap s.extraction) :
    slot.phase = 0 := by
  obtain ⟨path, -, h⟩ := List.mem_flatMap.1 h
  exact phase_of_mem_extraction h

theorem phase_of_mem_validations {slot : Slot} (h : slot ∈ s.paths.flatMap s.validation) :
    slot.phase = 2 := by
  obtain ⟨path, -, h⟩ := List.mem_flatMap.1 h
  exact phase_of_mem_validation h

/-- The phases of the schedule follow one another. -/
theorem pairwise_schedule : s.schedule.Pairwise fun a b => a.phase ≤ b.phase := by
  have hone {l : List Slot} {n : Nat} (h : ∀ slot ∈ l, slot.phase = n) :
      l.Pairwise fun a b => a.phase ≤ b.phase :=
    List.pairwise_of_forall_mem_list fun a ha b hb => Nat.le_of_eq ((h a ha).trans (h b hb).symm)
  rw [schedule, List.pairwise_append, List.pairwise_append, List.pairwise_append]
  refine ⟨⟨⟨hone fun _ => phase_of_mem_extractions, hone fun _ => phase_of_mem_merging, ?_⟩,
    hone fun _ => phase_of_mem_validations, ?_⟩, hone fun _ => phase_of_mem_projectValidation, ?_⟩
  · intro a ha b hb
    rw [phase_of_mem_extractions ha]
    exact Nat.zero_le _
  · intro a ha b hb
    rw [phase_of_mem_validations hb]
    exact a.phase_le_two
  · intro a ha b hb
    rw [phase_of_mem_projectValidation hb]
    exact a.phase_le_two

/-- No slot is there twice. -/
theorem nodup_schedule (hnodup : (s.enabled.map (·.id)).Nodup) : s.schedule.Nodup := by
  have hids {slot : String → Slot} (hslot : Function.Injective slot) :
      (s.enabled.map fun v => slot v.id).Nodup := by
    have hmap := hnodup.map hslot
    rwa [List.map_map] at hmap
  have hpaths {slots : Path → List Slot} (hslots : ∀ path, (slots path).Nodup)
      (hpath : ∀ path, ∀ slot ∈ slots path, slot.path? = some path) :
      (s.paths.flatMap slots).Nodup := by
    rw [List.nodup_flatMap]
    refine ⟨fun path _ => hslots path, (Files.pairwise_sortPaths s.files).imp ?_⟩
    intro p q hprecedes slot hp hq
    exact hprecedes.2 (Option.some.inj ((hpath p slot hp).symm.trans (hpath q slot hq)))
  rw [schedule, List.nodup_append, List.nodup_append, List.nodup_append]
  refine ⟨⟨⟨hpaths (fun path => ?_) ?_, hids ?_, ?_⟩, hpaths (fun path => hids ?_) ?_, ?_⟩,
    hids ?_, ?_⟩
  · rw [extraction, List.nodup_cons]
    exact ⟨by simp, hids fun _ _ => by simp⟩
  · simp [extraction, Slot.path?]
  · exact fun _ _ => Slot.merge.inj
  · rintro a ha b hb rfl
    exact absurd ((phase_of_mem_extractions ha).symm.trans (phase_of_mem_merging hb)) nofun
  · exact fun _ _ => by simp
  · simp [validation, Slot.path?]
  · rintro a ha b hb rfl
    have hphase := phase_of_mem_validations hb
    rcases List.mem_append.1 ha with ha | ha
    · exact absurd ((phase_of_mem_extractions ha).symm.trans hphase) nofun
    · exact absurd ((phase_of_mem_merging ha).symm.trans hphase) nofun
  · exact fun _ _ => Slot.validateProject.inj
  · rintro a ha b hb rfl
    obtain ⟨v, -, rfl⟩ := List.mem_map.1 hb
    simp [extraction, merging, validation] at ha

theorem filterMap_reading_schedule : s.schedule.filterMap Slot.reading? = s.paths := by
  simp [schedule, extraction, merging, validation, projectValidation, List.filterMap_flatMap,
    List.filterMap_map, Function.comp_def, Slot.reading?]

theorem filterMap_extraction_schedule : s.schedule.filterMap Slot.extraction? = s.offers := by
  simp [schedule, extraction, merging, validation, projectValidation, List.filterMap_flatMap,
    List.filterMap_map, List.filterMap_cons, Function.comp_def, Slot.extraction?, offers]

theorem filterMap_validation_schedule : s.schedule.filterMap Slot.validation? = s.offers := by
  simp [schedule, extraction, merging, validation, projectValidation, List.filterMap_flatMap,
    List.filterMap_map, Function.comp_def, Slot.validation?, offers]

end Setup

end Continuity.Run
