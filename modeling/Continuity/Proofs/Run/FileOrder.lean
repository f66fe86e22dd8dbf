import Continuity.Proofs.Character.Merge
import Continuity.Proofs.Files.Order
import Continuity.Proofs.Link.Graph
import Continuity.Run.Standard

/-! # The order of files in a run and in what is merged

A run goes through its files in the order of their paths. What the standard validators merge is in
the order of the names that the files have in the project, whatever the order in which they arrive.
-/

namespace Continuity.Run

open Character (FileNotes Mention Rearranged Settings State)
open Link (Graph OneIndexEach Page)
open Continuity.Path (InStep)

/-! ## Merging in any order -/

/-- The characters of a project and the graph of its links do not depend on the order in which the
notes and the pages of different files arrive, nor on the order of the mentions and declarations of
pronouns in one file. Where no directory has two files that stand for it, they do not depend either
on the order in which the known files are gone through. -/
theorem merging_ignores_order (settings : Settings) {notes notes' : List FileNotes}
    (hnotes : Rearranged notes notes')
    (hnotePaths : (notes.map fun f => Path.ofString f.path).Nodup) {pages pages' : List Page}
    (hpages : pages.Perm pages')
    (hpagePaths : (pages.map fun p => Path.ofString p.path).Nodup) (exists? : String → Bool)
    (strict : Bool) :
    State.ofNotes settings notes = State.ofNotes settings notes' ∧
      Graph.ofPages pages exists? strict = Graph.ofPages pages' exists? strict ∧
      (OneIndexEach pages → ∀ known, (∀ path, path ∈ known ↔ path ∈ pages.map (·.path)) →
        Graph.ofPagesAmong known pages' exists? strict = Graph.ofPages pages exists? strict) := by
  have hsorted := Graph.sortPages_congr hpages hpagePaths
  refine ⟨State.ofNotes_congr settings hnotes hnotePaths, ?_, ?_⟩
  · rw [Graph.ofPages, Graph.ofPages, hsorted]
  · intro hone known hknown
    have hnames : (pages.map (·.path)).Nodup := by
      apply List.Nodup.of_map Path.ofString
      rw [List.map_map]
      exact hpagePaths
    rw [← Graph.ofPagesAmong_eq hnames hone hknown, Graph.ofPagesAmong, Graph.ofPagesAmong, hsorted]

/-- Two files arrive the other way round, and so do the mentions in one of them. Both pages link to
their directory, for which one of them stands. -/
theorem two_files_merge_in_any_order :
    let robert : Mention := { name := "Robert", location := ⟨"b.md", 1, 1, 0⟩ }
    let rupert : Mention := { name := "Rupert", location := ⟨"b.md", 2, 1, 9⟩ }
    let first : FileNotes := { path := "a.md", mentions := [robert] }
    let second : FileNotes := { path := "b.md", mentions := [rupert, robert] }
    let second' : FileNotes := { path := "b.md", mentions := [robert, rupert] }
    let page : Page := ⟨"b.md", "b", [⟨"./", "up", 1, 1, none, none⟩], []⟩
    let index : Page := ⟨"README.md", "a", [⟨".", "here", 1, 1, none, none⟩], []⟩
    let nothing : String → Bool := fun _ => false
    State.ofNotes {} [first, second] = State.ofNotes {} [second', first] ∧
      Graph.ofPages [page, index] nothing false = Graph.ofPages [index, page] nothing false ∧
      Graph.ofPagesAmong ["b.md", "README.md"] [index, page] nothing false =
        Graph.ofPages [page, index] nothing false := by
  intro robert rupert first second second' page index nothing
  have hsecond : second.Rearranged second' :=
    ⟨rfl, .inr ⟨.swap _ _ _, by decide⟩, rfl, rfl, .inl rfl, rfl, fun _ => Iff.rfl⟩
  have hnotes : Rearranged [first, second] [second', first] :=
    ⟨[second, first], .swap _ _ _, .cons hsecond (.cons (.refl first) .nil)⟩
  have hmerged := merging_ignores_order {} hnotes (by decide +kernel)
    (.swap index page []) (by decide +kernel) nothing false
  refine ⟨hmerged.1, hmerged.2.1, hmerged.2.2 (by decide +kernel) _ ?_⟩
  intro path
  rfl

/-! ## Merging in the order of the run -/

namespace Setup

variable {s : Setup}

/-- The files of a setup have whole paths. -/
def Rooted (s : Setup) : Prop := ∀ p ∈ s.files, p.isAbsolute = true ∧ p.IsPlain

instance : Decidable s.Rooted :=
  inferInstanceAs (Decidable (∀ p ∈ s.files, p.isAbsolute = true ∧ p.IsPlain))

theorem Rooted.of_sublist (h : s.Rooted) {read : List Path} (hread : read.Sublist s.paths) :
    ∀ p ∈ read, p.isAbsolute = true ∧ p.IsPlain := by
  intro p hp
  exact h p (Files.mem_sortPaths.1 (hread.subset hp))

end Setup

/-- The names of files of a run, in the order in which the run goes through them. -/
def Setup.namesOf (s : Setup) (read : List Path) : List String := read.map (·.within s.root)

/-- Names of files of a run are in the order in which the run goes through those inside the project,
and in the same way for those outside. They are in the order of the run altogether exactly where the
files are in step. -/
structure KeepsOrder (s : Setup) (read : List Path) (names : List String) : Prop where
  ofKind : ∀ inside : Bool,
    (s.namesOf (read.filter fun p => (p.relativeTo? s.root).isSome == inside)).Sublist names
  eq_iff : names = s.namesOf read ↔ InStep s.root read

section Order

variable {s : Setup} {read : List Path} {names : List String}

theorem nodup_namesOf (hrooted : s.Rooted) (hread : read.Sublist s.paths) :
    (s.namesOf read).Nodup :=
  Path.nodup_names (hrooted.of_sublist hread) ((Files.pairwise_sortPaths s.files).sublist hread)

/-- Names of files that are in their order keep the order of the run as far as that is possible. -/
theorem KeepsOrder.of_ordered (hrooted : s.Rooted) (hread : read.Sublist s.paths)
    (hnames : names.Perm (s.namesOf read))
    (hordered : (names.map Path.ofString).Pairwise fun p q => p.le q = true) :
    KeepsOrder s read names := by
  have hfiles := hrooted.of_sublist hread
  have hsorted := (Files.pairwise_sortPaths s.files).sublist hread
  exact ⟨Path.sublist_names hfiles hsorted hnames hordered,
    Path.names_eq_iff hfiles hsorted hnames hordered⟩

end Order

/-- What is merged of files of a run keeps the order of the run among the files inside the project
and among those outside, and it keeps the order of all exactly where they are in step, as they are
where all lie inside. Then what is noted of a character follows its mentions in the order of the
run. -/
theorem merged_in_run_order_iff_inStep (s : Setup) (hrooted : s.Rooted) {read : List Path}
    (hread : read.Sublist s.paths) (settings : Settings) {notes : List FileNotes}
    (hnotes : (notes.map (·.path)).Perm (s.namesOf read)) {pages : List Page}
    (hpages : (pages.map (·.path)).Perm (s.namesOf read)) (exists? : String → Bool)
    (strict : Bool) :
    let state := State.ofNotes settings notes
    let graph := Graph.ofPages pages exists? strict
    KeepsOrder s read state.files ∧ KeepsOrder s read graph.paths ∧ state.files = graph.paths ∧
      ((∀ p ∈ read, (p.relativeTo? s.root).isSome = true) → InStep s.root read) ∧
      (InStep s.root read → ∀ p ∈ state.characters, state.Follows (s.namesOf read) p) ∧
      ∀ path ∈ s.namesOf read, ((state.mentions.lookup path).getD []).Pairwise
        fun a b => a.location.offset ≤ b.location.offset := by
  intro state graph
  have hnodup := nodup_namesOf hrooted hread
  have hnotePaths : (notes.map (·.path)).Nodup := hnotes.nodup_iff.2 hnodup
  have hfiles : state.files = (State.sortNotes notes).map (·.path) :=
    (Character.ledger_ofNotes settings notes).files_eq
  have hpaths : graph.paths = (Graph.sortPages pages).map (·.path) :=
    Graph.paths_ofPages (hpages.nodup_iff.2 hnodup) exists? strict
  have hstate : state.files.Perm (s.namesOf read) :=
    hfiles ▸ ((State.sortNotes_perm notes).map _).trans hnotes
  have hgraph : graph.paths.Perm (s.namesOf read) :=
    hpaths ▸ ((Graph.sortPages_perm pages).map _).trans hpages
  have hstateOrdered : (state.files.map Path.ofString).Pairwise fun p q => p.le q = true := by
    rw [hfiles, List.map_map]
    exact State.pairwise_sortNotes notes
  have hgraphOrdered : (graph.paths.map Path.ofString).Pairwise fun p q => p.le q = true := by
    rw [hpaths, List.map_map]
    exact Graph.pairwise_sortPages pages
  have hkept : KeepsOrder s read state.files := .of_ordered hrooted hread hstate hstateOrdered
  refine ⟨hkept, .of_ordered hrooted hread hgraph hgraphOrdered, ?_, Path.inStep_of_inside, ?_, ?_⟩
  · exact Path.eq_of_ordered (hrooted.of_sublist hread) hstate.subset (hstate.trans hgraph.symm)
      hstateOrdered hgraphOrdered
  · intro hstep p hp
    rw [← hkept.eq_iff.2 hstep]
    exact Character.follows_ofNotes hnotePaths hp
  · intro path hpath
    obtain ⟨f, hf, rfl⟩ := List.mem_map.1 (hnotes.mem_iff.2 hpath)
    exact Character.pairwise_mentions_ofNotes hnotePaths hf

/-- A file outside the project that comes first in the run, and also by its name. -/
theorem outside_file_in_step :
    let s : Setup :=
      { config := { project := { root := ⟨.absolute, ["m"]⟩ } }
        files := [⟨.absolute, ["a.md"]⟩, ⟨.absolute, ["m", "b.md"]⟩]
        tree := .directory []
        validators := standardValidators }
    let anna : Mention := { name := "Anna", location := ⟨"b.md", 1, 1, 0⟩ }
    let notes : List FileNotes := [{ path := "b.md", mentions := [anna] }, { path := "/a.md" }]
    let pages : List Page := [⟨"/a.md", "A", [], []⟩, ⟨"b.md", "B", [], []⟩]
    let state := State.ofNotes {} notes
    InStep s.root s.paths ∧ state.files = ["/a.md", "b.md"] ∧
      (Graph.ofPages pages (fun _ => false) false).paths = ["/a.md", "b.md"] ∧
      ∀ p ∈ state.characters, state.Follows ["/a.md", "b.md"] p := by
  intro s anna notes pages state
  have hpaths : s.paths = s.files := Files.sortPaths_of_pairwise (by decide +kernel)
  have hnames : s.namesOf s.paths = ["/a.md", "b.md"] := by
    rw [hpaths]
    decide +kernel
  have hstep : InStep s.root s.paths := by
    rw [hpaths]
    decide +kernel
  have hnotes : (notes.map (·.path)).Perm (s.namesOf s.paths) := hnames ▸ .swap _ _ []
  have hpages : (pages.map (·.path)).Perm (s.namesOf s.paths) := hnames ▸ .refl _
  obtain ⟨hfiles, hgraph, -, -, hfollows, -⟩ := merged_in_run_order_iff_inStep s (by decide +kernel)
    (List.Sublist.refl s.paths) {} hnotes hpages (fun _ => false) false
  rw [← hnames]
  exact ⟨hstep, hfiles.eq_iff.2 hstep, hgraph.eq_iff.2 hstep, hfollows hstep⟩

/-- A file outside the project that comes last in the run, but not by its name. The name that comes
first in the run is taken for the misspelling of the other one. -/
theorem outside_file_merged_before_its_turn :
    let s : Setup :=
      { config := { project := { root := ⟨.absolute, ["m"]⟩ } }
        files := [⟨.absolute, ["m", "b.md"]⟩, ⟨.absolute, ["z.md"]⟩]
        tree := .directory []
        validators := standardValidators }
    let jonathan : Mention := { name := "Jonathan", location := ⟨"/z.md", 1, 6, 5⟩ }
    let jonathon : Mention := { name := "Jonathon", location := ⟨"b.md", 1, 6, 5⟩ }
    let notes : List FileNotes :=
      [{ path := "/z.md", mentions := [jonathan] }, { path := "b.md", mentions := [jonathon] }]
    let pages : List Page := [⟨"/z.md", "Z", [], []⟩, ⟨"b.md", "B", [], []⟩]
    let state := State.ofNotes {} notes
    s.Rooted ∧ s.namesOf s.paths = ["b.md", "/z.md"] ∧ state.files = ["/z.md", "b.md"] ∧
      (Graph.ofPages pages (fun _ => false) false).paths = ["/z.md", "b.md"] ∧
      state.misspellings = [⟨"Jonathon", "Jonathan"⟩] := by
  intro s jonathan jonathon notes pages state
  have hpaths : s.paths = s.files := Files.sortPaths_of_pairwise (by decide +kernel)
  have hsorted : State.sortNotes notes = notes := State.sortNotes_of_pairwise (by decide +kernel)
  have hpages : Graph.sortPages pages = pages := List.mergeSort_of_pairwise (by decide +kernel)
  refine ⟨by decide +kernel, ?_, ?_, ?_, ?_⟩
  · rw [hpaths]
    decide +kernel
  · rw [(Character.ledger_ofNotes {} notes).files_eq, hsorted]
    rfl
  · rw [Graph.paths_ofPages (by decide), hpages]
    rfl
  · show (State.ofNotes {} notes).misspellings = _
    rw [State.ofNotes, hsorted]
    dsimp only
    rw [State.compareAll, List.mergeSort_of_pairwise (by decide +kernel)]
    decide +kernel

end Continuity.Run
