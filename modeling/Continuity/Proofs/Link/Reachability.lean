import Mathlib.Data.List.Nodup
import Mathlib.Data.String.Basic
import Mathlib.Logic.Relation
import Continuity.Proofs.Link.Edges

/-! # Documents that can be reached

Reading begins at the roots and follows internal edges from document to document. Every document is
visited at most once, so circles do no harm, and what is visited is what can be reached. The other
documents are orphans. Nothing becomes an orphan where there are more roots or more edges.
-/

namespace Continuity.Link.Graph

open Relation (ReflTransGen)

variable {g g' : Graph} {path root : String} {unvisited queue : List String}

/-- An internal edge leads from one document to another, or back to it. -/
def LeadsTo (g : Graph) (a b : String) : Prop :=
  a ∈ g.paths ∧ b ∈ g.paths ∧ ∃ e ∈ g.edgesFrom a, e.kind = .internal ∧ e.target = some b

/-- Reading begins at a document: it stands for its directory, or an entry point means it. -/
def IsRoot (g : Graph) (entryPoints : List String) (path : String) : Prop :=
  path ∈ g.paths ∧ (isIndex path = true ∨ ∃ entry ∈ entryPoints, entryPath entry = path)

theorem mem_successors {a b : String} :
    b ∈ g.successors a ↔ ∃ e ∈ g.edgesFrom a, e.kind = .internal ∧ e.target = some b := by
  simp [successors, List.mem_filterMap]

/-! ## Visiting -/

/-- A document is reached from a queue without leaving those that have not been visited. -/
inductive Reached (g : Graph) (unvisited queue : List String) : String → Prop where
  | queued {path : String} (hqueue : path ∈ queue) (hpath : path ∈ unvisited) :
      Reached g unvisited queue path
  | follow {path next : String} (h : Reached g unvisited queue path)
      (hstep : next ∈ g.successors path) (hnext : next ∈ unvisited) :
      Reached g unvisited queue next

namespace Reached

theorem mem (h : g.Reached unvisited queue path) : path ∈ unvisited := by
  cases h with
  | queued _ hpath => exact hpath
  | follow _ _ hnext => exact hnext

theorem mono {unvisited' queue' : List String} (hsub : unvisited ⊆ unvisited')
    (hqueue : ∀ first ∈ queue, first ∈ unvisited → g.Reached unvisited' queue' first)
    (h : g.Reached unvisited queue path) : g.Reached unvisited' queue' path := by
  induction h with
  | queued hfirst hpath => exact hqueue _ hfirst hpath
  | follow _ hstep hnext ih => exact .follow ih hstep (hsub hnext)

/-- A visit loses nothing but the document that is visited. -/
theorem after_visit {first : String} {rest : List String}
    (h : g.Reached unvisited (first :: rest) path) (hne : path ≠ first) :
    g.Reached (unvisited.erase first) (rest ++ g.successors first) path := by
  induction h with
  | queued hqueue hpath =>
      have hrest := List.mem_of_ne_of_mem hne hqueue
      exact .queued (List.mem_append_left _ hrest) ((List.mem_erase_of_ne hne).2 hpath)
  | @follow path next _ hstep hnext ih =>
      have hnext := (List.mem_erase_of_ne hne).2 hnext
      by_cases hpath : path = first
      · exact .queued (List.mem_append_right _ (hpath ▸ hstep)) hnext
      · exact .follow (ih hpath) hstep hnext

end Reached

theorem mem_visit : path ∈ g.visit unvisited queue ↔ g.Reached unvisited queue path := by
  fun_induction visit g unvisited queue with
  | case1 unvisited =>
      refine iff_of_false List.not_mem_nil fun h => ?_
      induction h with
      | queued hqueue => cases hqueue
      | follow _ _ _ ih => exact ih
  | case2 unvisited first rest hfirst ih =>
      rw [List.mem_cons, ih]
      constructor
      · -- What comes after the visit follows the document that is visited, or was queued before.
        rintro (rfl | h)
        · exact .queued List.mem_cons_self hfirst
        · refine h.mono List.erase_subset fun next hnext hmem => ?_
          have hmem := List.mem_of_mem_erase hmem
          rcases List.mem_append.1 hnext with hrest | hstep
          · exact .queued (List.mem_cons_of_mem _ hrest) hmem
          · exact .follow (.queued List.mem_cons_self hfirst) hstep hmem
      · intro h
        by_cases hpath : path = first
        · exact .inl hpath
        · exact .inr (h.after_visit hpath)
  | case3 unvisited first rest hfirst ih =>
      -- Nothing begins at a document that has been visited.
      rw [ih]
      constructor
      · intro h
        exact h.mono (List.Subset.refl _) fun next hnext hmem =>
          .queued (List.mem_cons_of_mem _ hnext) hmem
      · intro h
        refine h.mono (List.Subset.refl _) fun next hnext hmem => .queued ?_ hmem
        refine List.mem_of_ne_of_mem ?_ hnext
        rintro rfl
        exact hfirst hmem

theorem nodup_visit (h : unvisited.Nodup) : (g.visit unvisited queue).Nodup := by
  fun_induction visit g unvisited queue with
  | case1 => exact List.nodup_nil
  | case2 unvisited first rest hfirst ih =>
      refine List.nodup_cons.2 ⟨fun hmem => ?_, ih (h.erase first)⟩
      exact h.not_mem_erase (mem_visit.1 hmem).mem
  | case3 unvisited first rest hfirst ih => exact ih h

/-! ## Reachable documents -/

/-- A document is reachable from roots if internal edges lead to it from one that is a document. -/
theorem mem_reachable {roots : List String} :
    path ∈ g.reachable roots ↔
      ∃ root ∈ roots, root ∈ g.paths ∧ ReflTransGen g.LeadsTo root path := by
  rw [reachable, mem_visit]
  constructor
  · intro h
    induction h with
    | queued hroot hpath => exact ⟨_, hroot, hpath, .refl⟩
    | @follow path next h hstep hnext ih =>
        obtain ⟨root, hroot, hpath, hway⟩ := ih
        exact ⟨root, hroot, hpath, hway.tail ⟨h.mem, hnext, mem_successors.1 hstep⟩⟩
  · rintro ⟨root, hroot, hpath, hway⟩
    induction hway with
    | refl => exact .queued hroot hpath
    | tail _ hstep ih => exact .follow ih (mem_successors.2 hstep.2.2) hstep.2.1

/-! ## Roots and orphans -/

theorem mem_roots {entryPoints : List String} :
    path ∈ g.roots entryPoints ↔ g.IsRoot entryPoints path := by
  simp only [roots, List.mem_mergeSort, List.mem_eraseDups, List.mem_append, List.mem_filter,
    List.mem_map, has_eq_true_iff]
  rw [and_comm (a := path ∈ g.paths), ← or_and_right, and_comm, IsRoot]

theorem mem_orphans {entryPoints : List String} :
    path ∈ g.orphans entryPoints ↔
      path ∈ g.paths ∧ ∀ root, g.IsRoot entryPoints root → ¬ReflTransGen g.LeadsTo root path := by
  simp only [orphans, List.mem_mergeSort, List.mem_filter, Bool.not_eq_true',
    List.contains_eq_mem, decide_eq_false_iff_not, mem_reachable, mem_roots]
  refine and_congr_right fun _ => ⟨fun h root hroot hway => ?_, ?_⟩
  · exact h ⟨root, hroot, hroot.1, hway⟩
  · rintro h ⟨root, hroot, -, hway⟩
    exact h root hroot hway

theorem pairwise_orphans (g : Graph) (entryPoints : List String) :
    (g.orphans entryPoints).Pairwise (· ≤ ·) :=
  Sorting.pairwise_of_key id _

theorem nodup_orphans (h : g.paths.Nodup) (entryPoints : List String) :
    (g.orphans entryPoints).Nodup :=
  (List.mergeSort_perm _ _).nodup_iff.2 (h.filter _)

/-! ## More roots and edges -/

/-- A graph has the same documents as another one, and all its edges. -/
structure Extends (g' g : Graph) : Prop where
  paths : g'.paths = g.paths
  edges : ∀ path, g.edgesFrom path ⊆ g'.edgesFrom path

theorem LeadsTo.extend (hext : g'.Extends g) {a b : String} (h : g.LeadsTo a b) :
    g'.LeadsTo a b := by
  obtain ⟨ha, hb, e, he, hkind⟩ := h
  rw [LeadsTo, hext.paths]
  exact ⟨ha, hb, e, hext.edges a he, hkind⟩

theorem IsRoot.extend (hpaths : g'.paths = g.paths) {entryPoints entryPoints' : List String}
    (hentries : entryPoints ⊆ entryPoints') (h : g.IsRoot entryPoints path) :
    g'.IsRoot entryPoints' path := by
  refine ⟨hpaths ▸ h.1, h.2.imp_right ?_⟩
  rintro ⟨entry, hentry, heq⟩
  exact ⟨entry, hentries hentry, heq⟩

theorem orphans_anti (hext : g'.Extends g) {entryPoints entryPoints' : List String}
    (hentries : entryPoints ⊆ entryPoints') : g'.orphans entryPoints' ⊆ g.orphans entryPoints := by
  intro path h
  rw [mem_orphans] at h ⊢
  refine ⟨hext.paths ▸ h.1, fun root hroot hway => ?_⟩
  have hleads : g.LeadsTo ≤ g'.LeadsTo := fun _ _ hstep => hstep.extend hext
  exact h.2 root (hroot.extend hext.paths hentries) (ReflTransGen.mono hleads _ _ hway)

theorem extends_addEdge (g : Graph) (e : Edge) : (g.addEdge e).Extends g := by
  refine ⟨paths_addEdge g e, fun path => ?_⟩
  rw [edgesFrom, edgesFrom, find?, find?, nodes_addEdge, List.find?_map]
  dsimp only [Function.comp_def]
  cases g.nodes.find? fun n => n.path == path with
  | none => exact List.Subset.refl _
  | some n => exact List.subset_append_left _ _

/-- What is reachable from roots is exactly what internal edges lead to from those that are
documents, each document once. The orphans are the other documents in their order, and more roots
or more edges never make an orphan. -/
theorem reachable_exact (g : Graph) :
    (∀ roots path, path ∈ g.reachable roots ↔
      ∃ root ∈ roots, root ∈ g.paths ∧ ReflTransGen g.LeadsTo root path) ∧
    (∀ entryPoints path, path ∈ g.orphans entryPoints ↔ path ∈ g.paths ∧
      ∀ root, g.IsRoot entryPoints root → ¬ReflTransGen g.LeadsTo root path) ∧
    (∀ entryPoints, (g.orphans entryPoints).Pairwise (· ≤ ·)) ∧
    (g.paths.Nodup → (∀ roots, (g.reachable roots).Nodup) ∧
      ∀ entryPoints, (g.orphans entryPoints).Nodup) ∧
    (∀ (g' : Graph) entryPoints entryPoints', g'.Extends g → entryPoints ⊆ entryPoints' →
      g'.orphans entryPoints' ⊆ g.orphans entryPoints) ∧
    ∀ e entryPoints, (g.addEdge e).orphans entryPoints ⊆ g.orphans entryPoints := by
  refine ⟨fun _ _ => mem_reachable, fun _ _ => mem_orphans, g.pairwise_orphans, ?_, ?_, ?_⟩
  · exact fun hpaths => ⟨fun _ => nodup_visit hpaths, nodup_orphans hpaths⟩
  · exact fun _ _ _ hext hentries => orphans_anti hext hentries
  · exact fun e _ => orphans_anti (g.extends_addEdge e) (List.Subset.refl _)

/-- Two documents on a circle that no root leads to, and one that links to itself. An entry point
and an edge from it lead to all of them. -/
theorem circle_reached :
    let edge (source target : String) : Edge :=
      ⟨source, .internal, target, some target, "", "", 1, 1, none, none⟩
    let node (path : String) (targets : List String) : Node :=
      ⟨path, path, [], 0, targets.map (edge path)⟩
    let g : Graph := ⟨[node "a.md" ["b.md", "map.png"], node "b.md" ["a.md"], node "c.md" ["c.md"]],
      []⟩
    let g' := g.addEdge (edge "c.md" "b.md")
    g.paths.Nodup ∧ g'.Extends g ∧ (g.reachable ["b.md", "z.md"]).Nodup ∧
      (g.orphans ["c.md"]).Nodup ∧ g'.orphans ["c.md"] ⊆ g.orphans [] := by
  intro edge node g g'
  have hpaths : g.paths.Nodup := by decide
  have hext : g'.Extends g := extends_addEdge g _
  obtain ⟨-, -, -, hnodup, hanti, -⟩ := reachable_exact g
  obtain ⟨hreachable, horphans⟩ := hnodup hpaths
  exact ⟨hpaths, hext, hreachable _, horphans _, hanti g' [] ["c.md"] hext (List.nil_subset _)⟩

end Continuity.Link.Graph
