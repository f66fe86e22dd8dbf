import Mathlib.Data.Prod.Lex
import Continuity.Proofs.Link.Graph
import Continuity.Proofs.Link.Target

/-! # What the graph of pages shows

Edges are added to documents one by one, and each of them is kept three times: among all edges, at
the document that it leaves, and as a number where it arrives. The graph of pages has one document
for each page, one edge for each link, and the numbers that belong to them.
-/

namespace Continuity.Link

/-- What the edge of a link says of the link. -/
def Edge.record (e : Edge) : Record := ⟨e.raw, e.text, e.line, e.column, e.endLine, e.endColumn⟩

/-- Where an edge leads. -/
def Edge.destination (e : Edge) : Destination := ⟨e.kind, e.target, e.fragment⟩

section ToEdge

variable (link : Record) (source : String) (d : Destination)

@[simp] theorem Record.record_toEdge : (link.toEdge source d).record = link := rfl

@[simp] theorem Record.destination_toEdge : (link.toEdge source d).destination = d := rfl

@[simp] theorem Record.kind_toEdge : (link.toEdge source d).kind = d.kind := rfl

@[simp] theorem Record.target_toEdge : (link.toEdge source d).target = d.target := rfl

end ToEdge

/-- An internal edge leads to a document from another one. -/
def Edge.arrivesAt (e : Edge) (path : String) : Bool :=
  e.kind == .internal && e.target == some path && e.source != path

theorem Edge.arrivesAt_iff {e : Edge} {path : String} :
    e.arrivesAt path = true ↔ e.kind = .internal ∧ e.target = some path ∧ e.source ≠ path := by
  simp only [arrivesAt, Bool.and_eq_true, beq_iff_eq, bne_iff_ne, and_assoc]

namespace Graph

variable {g : Graph} {pages : List Page} {known : List String} {exists? : String → Bool}
  {strict : Bool}

/-! ## Edges one by one -/

theorem arrival?_eq_some_iff {e : Edge} {path : String} :
    g.arrival? e = some path ↔ e.arrivesAt path = true ∧ path ∈ g.paths := by
  rw [Edge.arrivesAt_iff, arrival?]
  split
  next hkind =>
    rw [Option.filter_eq_some_iff, Bool.and_eq_true, has_eq_true_iff, bne_iff_ne]
    have hkind : e.kind = .internal := beq_iff_eq.1 hkind
    constructor
    · rintro ⟨htarget, hpath, hne⟩
      exact ⟨⟨hkind, htarget, hne.symm⟩, hpath⟩
    · rintro ⟨⟨-, htarget, hne⟩, hpath⟩
      exact ⟨htarget, hpath, hne.symm⟩
  next hkind => exact iff_of_false (by simp) fun h => hkind (beq_iff_eq.2 h.1.1)

theorem nodes_addEdge (g : Graph) (e : Edge) :
    (g.addEdge e).nodes = g.nodes.map fun n => { n with
      incoming := n.incoming + (if e.arrivesAt n.path then 1 else 0)
      outgoing := n.outgoing ++ (if e.source == n.path then [e] else []) } := by
  have harrives (n : Node) (hn : n ∈ g.nodes) :
      e.arrivesAt n.path = true ↔ g.arrival? e = some n.path := by
    have hpath : n.path ∈ g.paths := List.mem_map_of_mem hn
    rw [arrival?_eq_some_iff, and_iff_left hpath]
  have hleaves (n : Node) : (if n.path == e.source then { n with outgoing := n.outgoing ++ [e] }
      else n) = { n with outgoing := n.outgoing ++ (if e.source == n.path then [e] else []) } := by
    by_cases h : n.path = e.source
    · simp [h]
    · simp [h, Ne.symm h]
  unfold addEdge
  cases harrival : g.arrival? e with
  | none =>
      refine List.map_congr_left fun n hn => (hleaves n).trans ?_
      have hnot : ¬e.arrivesAt n.path = true := by
        rw [harrives n hn, harrival]
        exact nofun
      rw [if_neg hnot]
      rfl
  | some target =>
      simp only [modify, List.map_map]
      refine List.map_congr_left fun n hn => ?_
      rw [Function.comp_apply, hleaves]
      have htarget : e.arrivesAt n.path = true ↔ target = n.path := by
        rw [harrives n hn, harrival, Option.some.injEq]
      by_cases heq : target = n.path
      · rw [if_pos (beq_iff_eq.2 heq.symm), if_pos (htarget.2 heq)]
      · rw [if_neg (mt beq_iff_eq.1 (Ne.symm heq)), if_neg (mt htarget.1 heq)]
        rfl

theorem edges_addEdge (g : Graph) (e : Edge) : (g.addEdge e).edges = g.edges ++ [e] := by
  unfold addEdge
  dsimp only
  split <;> rfl

/-- Each document gets the edges that leave it, and the number of those that arrive. -/
theorem nodes_foldl_addEdge (edges : List Edge) :
    (edges.foldl addEdge g).nodes = g.nodes.map fun n => { n with
      incoming := n.incoming + edges.countP (·.arrivesAt n.path)
      outgoing := n.outgoing ++ edges.filter (·.source == n.path) } := by
  induction edges generalizing g with
  | nil => simp
  | cons e rest ih =>
      rw [List.foldl_cons, ih, nodes_addEdge, List.map_map]
      refine List.map_congr_left fun n _ => ?_
      dsimp only [Function.comp_apply]
      rw [List.countP_cons, List.filter_cons]
      congr 1
      · omega
      · cases e.source == n.path <;> simp

theorem edges_foldl_addEdge (edges : List Edge) :
    (edges.foldl addEdge g).edges = g.edges ++ edges := by
  induction edges generalizing g with
  | nil => simp
  | cons e rest ih => rw [List.foldl_cons, ih, edges_addEdge, List.append_assoc]; rfl

/-! ## All pages -/

/-- The edges of all pages, in their order. -/
def allEdges (known : List String) (exists? : String → Bool) (strict : Bool) (pages : List Page) :
    List Edge :=
  (sortPages pages).flatMap (edgesOf known exists? strict)

theorem filter_allEdges (hpaths : (pages.map (·.path)).Nodup) {p : Page} (hp : p ∈ pages) :
    (allEdges known exists? strict pages).filter (·.source == p.path) =
      edgesOf known exists? strict p := by
  have hown (q : Page) : (edgesOf known exists? strict q).filter (·.source == p.path) =
      if q.path = p.path then edgesOf known exists? strict q else [] := by
    split
    next hpath =>
      refine List.filter_eq_self.2 fun e he => ?_
      obtain ⟨link, -, rfl⟩ := List.mem_map.1 he
      exact beq_iff_eq.2 hpath
    next hpath =>
      refine List.filter_eq_nil_iff.2 fun e he => ?_
      obtain ⟨link, -, rfl⟩ := List.mem_map.1 he
      exact mt beq_iff_eq.1 hpath
  rw [allEdges, List.filter_flatMap]
  simp only [hown]
  exact Lists.flatMap_ite_of_mem Page.path (((sortPages_perm pages).map _).nodup_iff.2 hpaths)
    ((sortPages_perm pages).mem_iff.2 hp) _

theorem edges_ofPagesAmong :
    (ofPagesAmong known pages exists? strict).edges = allEdges known exists? strict pages := by
  have hkept (g : Graph) (p : Page) : (g.addPage p).edges = g.edges := by
    unfold addPage
    dsimp only
    split <;> rfl
  rw [ofPagesAmong, edges_foldl_addEdge, Lists.foldl_keeps hkept]
  rfl

theorem nodes_ofPagesAmong (hpaths : (pages.map (·.path)).Nodup) :
    (ofPagesAmong known pages exists? strict).nodes = (sortPages pages).map fun p =>
      ⟨p.path, p.title, p.headings.map (·.slug),
        (allEdges known exists? strict pages).countP (·.arrivesAt p.path),
        edgesOf known exists? strict p⟩ := by
  have hnodup : (Graph.paths ⟨[], []⟩ ++ (sortPages pages).map (·.path)).Nodup :=
    ((sortPages_perm pages).map _).nodup_iff.2 hpaths
  rw [ofPagesAmong, nodes_foldl_addEdge, nodes_foldl_addPage hnodup, List.nil_append, List.map_map]
  refine List.map_congr_left fun p hp => ?_
  have houtgoing : (allEdges known exists? strict pages).filter (·.source == p.path) =
      edgesOf known exists? strict p := filter_allEdges hpaths ((sortPages_perm pages).mem_iff.1 hp)
  rw [Function.comp_apply, Nat.zero_add, List.nil_append, ← houtgoing]
  rfl

theorem ofPages_eq (hpaths : (pages.map (·.path)).Nodup) :
    ofPages pages exists? strict =
      ofPagesAmong ((sortPages pages).map (·.path)) pages exists? strict := by
  rw [ofPages, ofPagesAmong, paths_addPages hpaths]

theorem paths_ofPagesAmong (hpaths : (pages.map (·.path)).Nodup) :
    (ofPagesAmong known pages exists? strict).paths = (sortPages pages).map (·.path) := by
  rw [paths, nodes_ofPagesAmong hpaths, List.map_map]
  rfl

theorem mem_paths_ofPagesAmong (hpaths : (pages.map (·.path)).Nodup) {path : String} :
    path ∈ (ofPagesAmong known pages exists? strict).paths ↔ path ∈ pages.map (·.path) := by
  rw [paths_ofPagesAmong hpaths]
  exact ((sortPages_perm pages).map _).mem_iff

/-! ## Documents that link to each other -/

/-- An edge leads from one document to another. -/
def Connects (g : Graph) (a b : String) : Prop :=
  b ∈ g.paths ∧ ∃ e ∈ g.edges, e.source = a ∧ e.arrivesAt b = true

theorem mem_connections {a b : String} : (a, b) ∈ g.connections ↔ g.Connects a b := by
  simp only [connections, List.mem_filterMap, Option.map_eq_some_iff, arrival?_eq_some_iff,
    Prod.mk.injEq]
  constructor
  · rintro ⟨e, he, target, ⟨harrives, hpath⟩, rfl, rfl⟩
    exact ⟨hpath, e, he, rfl, harrives⟩
  · rintro ⟨hpath, e, he, rfl, harrives⟩
    exact ⟨e, he, b, ⟨harrives, hpath⟩, rfl, rfl⟩

theorem mem_mutualPairs {a b : String} :
    (a, b) ∈ g.mutualPairs ↔ a < b ∧ g.Connects a b ∧ g.Connects b a := by
  simp only [mutualPairs, List.mem_mergeSort, List.mem_eraseDups, List.mem_filter,
    Bool.and_eq_true, decide_eq_true_eq, List.contains_iff_mem, mem_connections]
  exact and_left_comm

theorem pairLe_eq : pairLe = fun p q => decide (toLex p ≤ toLex q) := by
  funext p q
  rw [pairLe, Bool.eq_iff_iff]
  simp [Prod.Lex.toLex_le_toLex]

theorem pairwise_mutualPairs (g : Graph) :
    g.mutualPairs.Pairwise fun p q => toLex p < toLex q := by
  have hsorted : g.mutualPairs.Pairwise fun p q => toLex p ≤ toLex q := by
    rw [mutualPairs, pairLe_eq]
    exact Sorting.pairwise_of_key toLex _
  have hnodup : g.mutualPairs.Nodup :=
    (List.mergeSort_perm _ _).nodup_iff.2 (Lists.nodup_eraseDups _)
  exact hsorted.imp₂ (fun p q hle hne => lt_of_le_of_ne hle (toLex.injective.ne hne)) hnodup

/-! ## The graph of all pages -/

/-- A document shows a page: it has an edge for each link of the page, in order, which says what
the link says and leads where the link leads. -/
structure Node.Shows (known : List String) (exists? : String → Bool) (strict : Bool) (n : Node)
    (p : Page) : Prop where
  path : n.path = p.path
  title : n.title = p.title
  slugs : n.slugs = p.headings.map (·.slug)
  outgoing : List.Forall₂ (fun e link => e.record = link ∧ e.source = p.path ∧
    e.destination = resolve known exists? strict link.target p.path) n.outgoing p.links

/-- A graph portrays pages. -/
structure Portrays (known : List String) (exists? : String → Bool) (strict : Bool) (g : Graph)
    (pages : List Page) : Prop where
  documents : ∃ sorted, sorted.Perm pages ∧ (sorted.Pairwise fun p q => pageLe p q = true) ∧
    List.Forall₂ (Node.Shows known exists? strict) g.nodes sorted
  nodup : g.paths.Nodup
  edges : g.edges = g.nodes.flatMap (·.outgoing)
  internal : ∀ e ∈ g.edges, e.kind = .internal → ∃ target, e.target = some target ∧
    (target ∈ g.paths ∨ isAsset target = true ∧ exists? target = true)
  anchor : ∀ e ∈ g.edges, e.kind = .anchor → e.target = some e.source
  external : ∀ e ∈ g.edges, e.kind = .external → e.target = none ∧ e.fragment = ""
  broken : ∀ e ∈ g.edges, e.kind = .broken → ∀ target, e.target = some target → target ∉ g.paths
  incoming : ∀ n ∈ g.nodes, n.incoming = g.edges.countP (·.arrivesAt n.path)
  mutual_iff : ∀ a b, (a, b) ∈ g.mutualPairs ↔ a < b ∧ g.Connects a b ∧ g.Connects b a
  mutual_sorted : g.mutualPairs.Pairwise fun p q => toLex p < toLex q

theorem shows_of_page (p : Page) (incoming : Nat) :
    Node.Shows known exists? strict ⟨p.path, p.title, p.headings.map (·.slug), incoming,
      edgesOf known exists? strict p⟩ p := by
  refine ⟨rfl, rfl, rfl, ?_⟩
  rw [edgesOf, List.forall₂_map_left_iff, List.forall₂_same]
  exact fun link _ => ⟨link.record_toEdge _ _, rfl, link.destination_toEdge _ _⟩

theorem comesTo_of_mem_edges {e : Edge}
    (he : e ∈ (ofPagesAmong known pages exists? strict).edges) :
    ComesTo known exists? e.source e.destination := by
  rw [edges_ofPagesAmong, allEdges, List.mem_flatMap] at he
  obtain ⟨p, -, he⟩ := he
  obtain ⟨link, -, rfl⟩ := List.mem_map.1 he
  rw [link.destination_toEdge]
  exact comesTo_resolve known exists? strict link.target p.path

theorem portrays_ofPagesAmong (hpaths : (pages.map (·.path)).Nodup)
    (hknown : ∀ path, path ∈ known ↔ path ∈ pages.map (·.path)) :
    (ofPagesAmong known pages exists? strict).Portrays known exists? strict pages where
  documents := by
    refine ⟨sortPages pages, sortPages_perm pages,
      List.pairwise_map.1 (pairwise_sortPages pages), ?_⟩
    rw [nodes_ofPagesAmong hpaths, List.forall₂_map_left_iff, List.forall₂_same]
    exact fun p _ => shows_of_page p _
  nodup := by
    rw [paths_ofPagesAmong hpaths]
    exact ((sortPages_perm pages).map _).nodup_iff.2 hpaths
  edges := by
    rw [edges_ofPagesAmong, nodes_ofPagesAmong hpaths, List.flatMap_map]
    rfl
  internal := by
    intro e he hkind
    obtain ⟨target, htarget, hplace⟩ := (comesTo_of_mem_edges he).target_of_internal hkind
    refine ⟨target, htarget, hplace.imp_left fun htarget => ?_⟩
    exact (mem_paths_ofPagesAmong hpaths).2 ((hknown target).1 htarget)
  anchor := fun e he hkind => (comesTo_of_mem_edges he).target_of_anchor hkind
  external := fun e he hkind => (comesTo_of_mem_edges he).eq_of_external hkind
  broken := by
    intro e he hkind target htarget hpath
    exact (comesTo_of_mem_edges he).target_of_broken hkind htarget
      ((hknown target).2 ((mem_paths_ofPagesAmong hpaths).1 hpath))
  incoming := by
    rw [nodes_ofPagesAmong hpaths, edges_ofPagesAmong]
    intro n hn
    obtain ⟨p, -, rfl⟩ := List.mem_map.1 hn
    rfl
  mutual_iff := fun _ _ => mem_mutualPairs
  mutual_sorted := pairwise_mutualPairs _

/-- The graph of pages portrays them. It does so too if the file that stands for a directory is
looked for in any other order of the known files. -/
theorem ofPages_portrays (hpaths : (pages.map (·.path)).Nodup) (exists? : String → Bool)
    (strict : Bool) :
    (ofPages pages exists? strict).Portrays ((sortPages pages).map (·.path)) exists? strict pages ∧
      ∀ known, (∀ path, path ∈ known ↔ path ∈ pages.map (·.path)) →
        (ofPagesAmong known pages exists? strict).Portrays known exists? strict pages := by
  refine ⟨?_, fun known hknown => portrays_ofPagesAmong hpaths hknown⟩
  rw [ofPages_eq hpaths]
  exact portrays_ofPagesAmong hpaths fun path => ((sortPages_perm pages).map _).mem_iff

/-- Two documents link to each other, one of them twice, and to their directory, to themselves, to
an image, and to nothing. -/
theorem two_pages_portrayed :
    let link (target : String) : Record := ⟨target, "", 1, 1, none, none⟩
    let index : Page := ⟨"README.md", "Home", ["a.md", "a.md#end", "#top", "map.png"].map link, []⟩
    let page : Page := ⟨"a.md", "A", [".", "a.md", "b.md", "https://a.org"].map link, []⟩
    let image : String → Bool := (· == "map.png")
    ([page, index].map (·.path)).Nodup ∧
      (∀ path, path ∈ ["a.md", "README.md"] ↔ path ∈ [page, index].map (·.path)) ∧
      (ofPages [page, index] image true).Portrays ((sortPages [page, index]).map (·.path)) image true
        [page, index] ∧
      (ofPagesAmong ["a.md", "README.md"] [page, index] image true).Portrays ["a.md", "README.md"]
        image true [page, index] := by
  intro link index page image
  have hpaths : ([page, index].map (·.path)).Nodup := by decide
  have hknown (path : String) :
      path ∈ ["a.md", "README.md"] ↔ path ∈ [page, index].map (·.path) := Iff.rfl
  obtain ⟨hportrays, hamong⟩ := ofPages_portrays hpaths image true
  exact ⟨hpaths, hknown, hportrays, hamong _ hknown⟩

end Graph

end Continuity.Link
