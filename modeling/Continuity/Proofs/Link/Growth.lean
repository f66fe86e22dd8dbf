import Continuity.Proofs.Link.Reachability

/-! # More pages

Where pages are added, links are resolved anew. A link to a directory may turn to an added document,
and so may a link to a file that was no document. But every file that stands for a directory is a
root. So a document that could be reached still can, and an internal link is never broken.
-/

namespace Continuity.Link.Graph

open Relation (ReflTransGen)

variable {pages pages' : List Page} {known known' entryPoints : List String}
  {exists? : String → Bool} {strict : Bool} {a b root path : String}

/-! ## Edges of the graph of pages -/

theorem edgesFrom_ofPagesAmong (hpaths : (pages.map (·.path)).Nodup) {p : Page} (hp : p ∈ pages) :
    (ofPagesAmong known pages exists? strict).edgesFrom p.path =
      edgesOf known exists? strict p := by
  have hfound : (sortPages pages).find? (·.path == p.path) = some p :=
    Lists.find?_key_of_mem Page.path (((sortPages_perm pages).map _).nodup_iff.2 hpaths)
      ((sortPages_perm pages).mem_iff.2 hp)
  rw [edgesFrom, find?, nodes_ofPagesAmong hpaths, List.find?_map]
  dsimp only [Function.comp_def]
  rw [hfound]
  rfl

theorem leadsTo_iff (hpaths : (pages.map (·.path)).Nodup) :
    (ofPagesAmong known pages exists? strict).LeadsTo a b ↔
      b ∈ pages.map (·.path) ∧ ∃ p ∈ pages, p.path = a ∧ ∃ link ∈ p.links,
        (resolve known exists? strict link.target a).kind = .internal ∧
          (resolve known exists? strict link.target a).target = some b := by
  have hedges (p : Page) : (∃ e ∈ edgesOf known exists? strict p, e.kind = .internal ∧
      e.target = some b) ↔ ∃ link ∈ p.links,
        (resolve known exists? strict link.target p.path).kind = .internal ∧
          (resolve known exists? strict link.target p.path).target = some b := by
    simp only [edgesOf, List.mem_map, exists_exists_and_eq_and, Record.kind_toEdge,
      Record.target_toEdge]
  rw [LeadsTo, mem_paths_ofPagesAmong hpaths, mem_paths_ofPagesAmong hpaths, List.mem_map]
  constructor
  · rintro ⟨⟨p, hp, rfl⟩, hb, hedge⟩
    rw [edgesFrom_ofPagesAmong hpaths hp, hedges] at hedge
    exact ⟨hb, p, hp, rfl, hedge⟩
  · rintro ⟨hb, p, hp, rfl, hlink⟩
    rw [← hedges, ← edgesFrom_ofPagesAmong hpaths hp] at hlink
    exact ⟨⟨p, hp, rfl⟩, hb, hlink⟩

/-! ## What is kept -/

/-- Whatever was not an orphan among some pages is none among more of them, and no internal edge
of theirs is lost. -/
structure Keeps (pages : List Page) (g g' : Graph) : Prop where
  orphans : ∀ entryPoints, ∀ p ∈ pages, p.path ∉ g.orphans entryPoints →
    p.path ∉ g'.orphans entryPoints
  edges : ∀ p ∈ pages, List.Forall₂ (fun e e' => e'.record = e.record ∧
    (e.kind = .internal → e'.kind = .internal)) (g.edgesFrom p.path) (g'.edgesFrom p.path)

/-- There are more pages, and orders in which the known files are gone through. -/
structure More (pages pages' : List Page) (known known' : List String) : Prop where
  sub : pages ⊆ pages'
  paths : (pages.map (·.path)).Nodup
  paths' : (pages'.map (·.path)).Nodup
  known_iff : ∀ path, path ∈ known ↔ path ∈ pages.map (·.path)
  known_iff' : ∀ path, path ∈ known' ↔ path ∈ pages'.map (·.path)

namespace More

theorem known_subset (h : More pages pages' known known') : known ⊆ known' := by
  intro path hpath
  exact (h.known_iff' path).2 (List.map_subset _ h.sub ((h.known_iff path).1 hpath))

/-- Where an edge turns away from a document, that one stands for its directory. -/
theorem leadsTo (h : More pages pages' known known')
    (hstep : (ofPagesAmong known pages exists? strict).LeadsTo a b) :
    isIndex b = true ∨ (ofPagesAmong known' pages' exists? strict).LeadsTo a b := by
  obtain ⟨hb, p, hp, rfl, link, hlink, hkind, htarget⟩ := (leadsTo_iff h.paths).1 hstep
  obtain ⟨hkind', hkept⟩ := resolve_grow h.known_subset link.target hkind
  rcases hkept b ((h.known_iff b).2 hb) htarget with hindex | htarget'
  · exact .inl hindex
  · have hb' : b ∈ pages'.map (·.path) := List.map_subset _ h.sub hb
    exact .inr ((leadsTo_iff h.paths').2 ⟨hb', p, h.sub hp, rfl, link, hlink, hkind', htarget'⟩)

theorem isRoot (h : More pages pages' known known')
    (hroot : (ofPagesAmong known pages exists? strict).IsRoot entryPoints root) :
    (ofPagesAmong known' pages' exists? strict).IsRoot entryPoints root := by
  refine ⟨?_, hroot.2⟩
  rw [mem_paths_ofPagesAmong h.paths']
  exact List.map_subset _ h.sub ((mem_paths_ofPagesAmong h.paths).1 hroot.1)

/-- Of a way from a root, what follows the last file that stands for a directory is still there. -/
theorem exists_way (h : More pages pages' known known')
    (hroot : (ofPagesAmong known pages exists? strict).IsRoot entryPoints root)
    (hway : ReflTransGen (ofPagesAmong known pages exists? strict).LeadsTo root path) :
    ∃ root, (ofPagesAmong known' pages' exists? strict).IsRoot entryPoints root ∧
      ReflTransGen (ofPagesAmong known' pages' exists? strict).LeadsTo root path := by
  induction hway with
  | refl => exact ⟨root, h.isRoot hroot, .refl⟩
  | @tail a b _ hstep ih =>
      rcases h.leadsTo hstep with hindex | hstep'
      · have hroot : (ofPagesAmong known pages exists? strict).IsRoot entryPoints b :=
          ⟨hstep.2.1, .inl hindex⟩
        exact ⟨b, h.isRoot hroot, .refl⟩
      · obtain ⟨root', hroot', hway'⟩ := ih
        exact ⟨root', hroot', hway'.tail hstep'⟩

theorem keeps (h : More pages pages' known known') :
    Keeps pages (ofPagesAmong known pages exists? strict)
      (ofPagesAmong known' pages' exists? strict) where
  orphans := by
    intro entryPoints p hp hreached
    have hpath : p.path ∈ (ofPagesAmong known pages exists? strict).paths :=
      (mem_paths_ofPagesAmong h.paths).2 (List.mem_map_of_mem hp)
    simp only [mem_orphans, not_and, not_forall, not_not] at hreached ⊢
    intro _
    obtain ⟨root, hroot, hway⟩ := hreached hpath
    obtain ⟨root', hroot', hway'⟩ := h.exists_way hroot hway
    exact ⟨root', hroot', hway'⟩
  edges := by
    intro p hp
    rw [edgesFrom_ofPagesAmong h.paths hp, edgesFrom_ofPagesAmong h.paths' (h.sub hp), edgesOf,
      edgesOf, List.forall₂_map_left_iff, List.forall₂_map_right_iff, List.forall₂_same]
    intro link _
    rw [link.record_toEdge, link.record_toEdge, link.kind_toEdge, link.kind_toEdge]
    exact ⟨rfl, fun hkind => (resolve_grow h.known_subset link.target hkind).1⟩

end More

/-- Pages that are added make no orphan of any other, and break no internal link. This does not
depend on the orders in which the files that stand for directories are looked for. -/
theorem more_pages_keep (hsub : pages ⊆ pages') (hpaths : (pages.map (·.path)).Nodup)
    (hpaths' : (pages'.map (·.path)).Nodup) (exists? : String → Bool) (strict : Bool) :
    Keeps pages (ofPages pages exists? strict) (ofPages pages' exists? strict) ∧
      ∀ known known', (∀ path, path ∈ known ↔ path ∈ pages.map (·.path)) →
        (∀ path, path ∈ known' ↔ path ∈ pages'.map (·.path)) →
        Keeps pages (ofPagesAmong known pages exists? strict)
          (ofPagesAmong known' pages' exists? strict) := by
  have hsorted (pages : List Page) (path : String) :
      path ∈ (sortPages pages).map (·.path) ↔ path ∈ pages.map (·.path) :=
    ((sortPages_perm pages).map _).mem_iff
  refine ⟨?_, fun known known' hknown hknown' =>
    More.keeps ⟨hsub, hpaths, hpaths', hknown, hknown'⟩⟩
  rw [ofPages_eq hpaths, ofPages_eq hpaths']
  exact More.keeps ⟨hsub, hpaths, hpaths', hsorted pages, hsorted pages'⟩

/-- An added page takes the place of the file that stood for its directory. -/
theorem page_takes_place_of_directory :
    let link (target : String) : Record := ⟨target, "", 1, 1, none, none⟩
    let page : Page := ⟨"a.md", "A", [link "map"], []⟩
    let index : Page := ⟨"map/README.md", "Map", [link "../a.md"], []⟩
    let added : Page := ⟨"map", "New", [link "none.md"], []⟩
    let nothing : String → Bool := fun _ => false
    [page, index] ⊆ [added, page, index] ∧ ([page, index].map (·.path)).Nodup ∧
      ([added, page, index].map (·.path)).Nodup ∧
      Keeps [page, index] (ofPages [page, index] nothing false)
        (ofPages [added, page, index] nothing false) ∧
      Keeps [page, index] (ofPagesAmong ["a.md", "map/README.md"] [page, index] nothing false)
        (ofPagesAmong ["map", "a.md", "map/README.md"] [added, page, index] nothing false) := by
  intro link page index added nothing
  have hsub : [page, index] ⊆ [added, page, index] := List.subset_cons_self _ _
  have hpaths : ([page, index].map (·.path)).Nodup := by decide
  have hpaths' : ([added, page, index].map (·.path)).Nodup := by decide
  obtain ⟨hkeeps, hamong⟩ := more_pages_keep hsub hpaths hpaths' nothing false
  exact ⟨hsub, hpaths, hpaths', hkeeps, hamong _ _ (fun _ => Iff.rfl) fun _ => Iff.rfl⟩

end Continuity.Link.Graph
