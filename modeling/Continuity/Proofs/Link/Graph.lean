import Continuity.Link.Graph
import Continuity.Proofs.Data.Lists
import Continuity.Proofs.Files.Order

/-! # The order in which pages arrive

Pages are put into the order of their paths before the graph is made of them, so the graph does not
depend on the order in which they arrive. A link to a directory leads to the file that stands for
it. Where there is at most one such file, it does not matter either in which order the known files
are gone through to find it.
-/

namespace Continuity.Link

/-- No directory has two files that stand for it. -/
def OneIndexEach (pages : List Page) : Prop :=
  ∀ p ∈ pages, ∀ q ∈ pages, isIndex p.path = true → isIndex q.path = true →
    (Path.ofString p.path).parent = (Path.ofString q.path).parent → p = q

instance (pages : List Page) : Decidable (OneIndexEach pages) :=
  inferInstanceAs (Decidable (∀ p ∈ pages, ∀ q ∈ pages, _ → _ → _ → p = q))

/-! ## Where links lead -/

section Resolution

variable {known known' : List String} {directory : String}

theorem resolve_congr (hmem : ∀ path, path ∈ known ↔ path ∈ known')
    (hindex : ∀ directory, indexOf? known directory = indexOf? known' directory)
    (exists? : String → Bool) (strict : Bool) (raw source : String) :
    resolve known exists? strict raw source = resolve known' exists? strict raw source := by
  unfold resolve
  cases Reference.ofStrings raw source with
  | address wellFormed => rfl
  | here fragment => rfl
  | path place fragment => simp only [Reference.resolve, Lists.contains_congr hmem, hindex]

theorem parent_isPlain {p : Path} (h : p.IsPlain) : p.parent.IsPlain :=
  fun name hname => h name (List.dropLast_subset _ hname)

/-- Where no directory has two files that stand for it, the one found is the same for every order of
the known files. -/
theorem indexOf?_congr {pages : List Page} (hone : OneIndexEach pages)
    (hmem : ∀ path, path ∈ known ↔ path ∈ pages.map (·.path)) (directory : String) :
    indexOf? known directory = indexOf? (pages.map (·.path)) directory := by
  refine Lists.find?_congr_of_unique hmem ?_
  intro path hpath path' hpath' hkeep hkeep'
  obtain ⟨p, hp, rfl⟩ := List.mem_map.1 ((hmem path).1 hpath)
  obtain ⟨q, hq, rfl⟩ := List.mem_map.1 ((hmem path').1 hpath')
  rw [Bool.and_eq_true, beq_iff_eq] at hkeep hkeep'
  have hparent := hkeep.2.trans hkeep'.2.symm
  rw [Path.toString_inj (parent_isPlain (Path.isPlain_ofString _))
    (parent_isPlain (Path.isPlain_ofString _))] at hparent
  rw [hone p hp q hq hkeep.1 hkeep'.1 hparent]

end Resolution

namespace Graph

variable {g : Graph} {pages pages' : List Page}

/-! ## The documents of a graph -/

theorem has_eq_true_iff {path : String} : g.has path = true ↔ path ∈ g.paths := by
  simp [has, find?, paths]

theorem paths_modify {f : Node → Node} (hf : ∀ n, (f n).path = n.path) (path : String) :
    (g.modify path f).paths = g.paths := by
  rw [paths, modify, List.map_map]
  apply List.map_congr_left
  intro n _
  rw [Function.comp_apply]
  split
  · exact hf n
  · rfl

theorem paths_addEdge (g : Graph) (e : Edge) : (g.addEdge e).paths = g.paths := by
  unfold addEdge
  dsimp only
  split
  · refine (paths_modify ?_ _).trans (paths_modify ?_ _)
    · intro n
      rfl
    · intro n
      rfl
  · apply paths_modify
    intro n
    rfl

/-- Pages with paths of their own become documents one after the other. -/
theorem nodes_foldl_addPage (h : (g.paths ++ pages.map (·.path)).Nodup) :
    (pages.foldl addPage g).nodes =
      g.nodes ++ pages.map fun p => ⟨p.path, p.title, p.headings.map (·.slug), 0, []⟩ := by
  induction pages generalizing g with
  | nil => simp
  | cons p rest ih =>
      have hnew : g.has p.path = false := by
        rw [← Bool.not_eq_true, has_eq_true_iff]
        intro hmem
        exact (List.disjoint_of_nodup_append h) hmem List.mem_cons_self
      have hpaths : (g.addPage p).paths = g.paths ++ [p.path] := by
        simp [addPage, hnew, paths]
      rw [List.foldl_cons, ih, List.map_cons, addPage, hnew, if_neg Bool.false_ne_true,
        List.append_assoc]
      · rfl
      · rw [hpaths, List.append_assoc]
        exact h

theorem paths_foldl_addPage (h : (g.paths ++ pages.map (·.path)).Nodup) :
    (pages.foldl addPage g).paths = g.paths ++ pages.map (·.path) := by
  rw [paths, nodes_foldl_addPage h, List.map_append, List.map_map]
  rfl

/-! ## The graph of all pages -/

theorem sortPages_perm (pages : List Page) : (sortPages pages).Perm pages :=
  List.mergeSort_perm pages _

theorem sortPages_congr (h : pages.Perm pages')
    (hpaths : (pages.map fun p => Path.ofString p.path).Nodup) :
    sortPages pages = sortPages pages' :=
  Path.mergeSort_congr h hpaths

theorem pairwise_sortPages (pages : List Page) :
    ((sortPages pages).map fun p => Path.ofString p.path).Pairwise fun p q => p.le q = true :=
  Path.pairwise_mergeSort Page.path pages

theorem paths_addPages (hpaths : (pages.map (·.path)).Nodup) :
    ((sortPages pages).foldl addPage ⟨[], []⟩).paths = (sortPages pages).map (·.path) :=
  paths_foldl_addPage (((sortPages_perm pages).map _).nodup_iff.2 hpaths)

/-- The documents of the graph are the pages, in the order of their paths. -/
theorem paths_ofPages (hpaths : (pages.map (·.path)).Nodup) (exists? : String → Bool)
    (strict : Bool) : (ofPages pages exists? strict).paths = (sortPages pages).map (·.path) := by
  rw [ofPages, Lists.foldl_keeps paths_addEdge, paths_addPages hpaths]

/-- The graph of pages, where the files that stand for directories are looked for among known files
in an order of their own. -/
def ofPagesAmong (known : List String) (pages : List Page) (exists? : String → Bool)
    (strict : Bool) : Graph :=
  let pages := sortPages pages
  (pages.flatMap (edgesOf known exists? strict)).foldl addEdge (pages.foldl addPage ⟨[], []⟩)

/-- The graph of pages does not depend on the order of the known files. -/
theorem ofPagesAmong_eq {known : List String} (hpaths : (pages.map (·.path)).Nodup)
    (hone : OneIndexEach pages) (hmem : ∀ path, path ∈ known ↔ path ∈ pages.map (·.path))
    (exists? : String → Bool) (strict : Bool) :
    ofPagesAmong known pages exists? strict = ofPages pages exists? strict := by
  have hsorted (path : String) :
      path ∈ (sortPages pages).map (·.path) ↔ path ∈ pages.map (·.path) :=
    ((sortPages_perm pages).map _).mem_iff
  have hedges : edgesOf known exists? strict =
      edgesOf ((sortPages pages).map (·.path)) exists? strict := by
    funext p
    refine List.map_congr_left fun link _ => ?_
    rw [resolve_congr (fun path => (hmem path).trans (hsorted path).symm) fun directory => ?_]
    rw [indexOf?_congr hone hmem, indexOf?_congr hone hsorted]
  rw [ofPagesAmong, ofPages, hedges, paths_addPages hpaths]

end Graph

end Continuity.Link
