import Continuity.Document.Cache

/-! # What files come to when they are read

Whatever is read, be it from a file or from the cache, is what its file came to in some session. A
document knows its path, and its issues are the run's own and about its front matter.
-/

namespace Continuity.Document

variable {tree : FileTree} {root path : Path}

theorem LoadFault.validator_of_issue {fault : LoadFault} {name : String} {issue : Issue}
    (h : fault.issue? name = some issue) : issue.validator = Issue.engineId := by
  obtain ⟨kind, -, rfl⟩ := Option.map_eq_some_iff.1 h
  rfl

theorem LoadFault.code_of_issue {fault : LoadFault} {name : String} {issue : Issue}
    (h : fault.issue? name = some issue) :
    issue.code = "read-error" ∨ issue.code = "encoding-error" := by
  obtain ⟨kind, hkind, rfl⟩ := Option.map_eq_some_iff.1 h
  cases fault with
  | unreadable _ => exact .inl (Option.some.inj hkind).symm
  | encoding _ _ => exact .inr (Option.some.inj hkind).symm
  | scalar _ => cases hkind

theorem issues_of_readFrontMatter {session : Yaml.Session} {name : String} {raw : List Char}
    {entries : List (Value × Value)} {issues : List Issue}
    (h : (readFrontMatter session name raw).1 = .ok (entries, issues)) :
    ∀ issue ∈ issues, issue.validator = Issue.engineId ∧ issue.code = "front-matter-error" := by
  unfold readFrontMatter at h
  generalize Yaml.readAfter session raw = found at h
  dsimp only at h
  split at h <;> cases h <;> simp [frontMatterIssue, Issue.ofEngine]

/-- A document has the path that it was read from, and what is wrong with it is its front matter,
which was found by no validator. -/
theorem of_ofContent {session : Yaml.Session} {name : String} {content : List Char} {d : Document}
    (h : (ofContent session path name content).1 = .ok d) :
    d.path = path ∧ ∀ issue ∈ d.issues,
      issue.validator = Issue.engineId ∧ issue.code = "front-matter-error" := by
  unfold ofContent at h
  generalize splitFrontMatter content = split at h
  rcases split with ⟨_ | raw, start⟩
  · cases h
    exact ⟨rfl, List.forall_mem_nil _⟩
  · dsimp only at h
    cases hmatter : (readFrontMatter session name raw).1 with
    | error fault =>
        rw [hmatter] at h
        cases h
    | ok matter =>
        rw [hmatter] at h
        cases h
        exact ⟨rfl, issues_of_readFrontMatter hmatter⟩

theorem of_read {session : Yaml.Session} {d : Document}
    (h : (read tree root session path).1 = .ok d) :
    d.path = path ∧ ∀ issue ∈ d.issues,
      issue.validator = Issue.engineId ∧ issue.code = "front-matter-error" := by
  unfold read at h
  split at h
  next => cases h
  next bytes =>
    split at h
    next => cases h
    next => exact of_ofContent h

/-- A scalar of it is all that makes front matter count as a fault of the file. -/
theorem scalar_of_readFrontMatter {session : Yaml.Session} {name : String} {raw : List Char}
    {fault : LoadFault} (h : (readFrontMatter session name raw).1 = .error fault) :
    ∃ scalar, fault = .scalar scalar ∧
      (Yaml.readAfter session raw).1 = .error (.scalar scalar) := by
  unfold readFrontMatter at h
  generalize Yaml.readAfter session raw = found at h ⊢
  dsimp only at h
  split at h
  next => cases h
  next => cases h
  next => cases h
  next => cases h
  next scalar hscalar =>
    cases h
    exact ⟨scalar, rfl, hscalar⟩

/-- A file that is decoded is a document, unless its front matter has a scalar that cannot be
used. -/
theorem scalar_of_ofContent {session : Yaml.Session} {name : String} {content : List Char}
    {fault : LoadFault} (h : (ofContent session path name content).1 = .error fault) :
    ∃ scalar raw, fault = .scalar scalar ∧ (splitFrontMatter content).1 = some raw ∧
      (Yaml.readAfter session raw).1 = .error (.scalar scalar) := by
  unfold ofContent at h
  generalize splitFrontMatter content = split at h ⊢
  rcases split with ⟨_ | raw, start⟩
  · cases h
  · dsimp only at h
    cases hmatter : (readFrontMatter session name raw).1 with
    | ok matter =>
        rw [hmatter] at h
        cases h
    | error fault' =>
        rw [hmatter] at h
        cases h
        obtain ⟨scalar, hfault, hscalar⟩ := scalar_of_readFrontMatter hmatter
        exact ⟨scalar, raw, hfault, rfl, hscalar⟩

/-- A file of which no document comes has front matter with a scalar that cannot be used, or else
there is an issue for it. -/
theorem scalar_of_read {session : Yaml.Session} {scalar : Yaml.ScalarFault}
    (h : (read tree root session path).1 = .error (.scalar scalar)) :
    ∃ bytes content raw, tree.read path = .ok bytes ∧ decode bytes = .ok content ∧
      (splitFrontMatter content).1 = some raw ∧
      (Yaml.readAfter session raw).1 = .error (.scalar scalar) := by
  unfold read at h
  split at h
  next => cases h
  next bytes hbytes =>
    split at h
    next fault hfault =>
      unfold decode at hfault
      split at hfault
      · cases hfault
      · cases hfault
        cases h
    next content hcontent =>
      obtain ⟨scalar', raw, hscalar, hraw, hread⟩ := scalar_of_ofContent h
      cases hscalar
      exact ⟨bytes, content, raw, hbytes, hcontent, hraw, hread⟩

namespace Cache

variable {c : Cache}

/-- Every document is what its file came to when it was read. -/
def Genuine (tree : FileTree) (root : Path) (c : Cache) : Prop :=
  ∀ path reading, (path, reading) ∈ c.readings →
    ∃ session, (read tree root session path).1 = .ok reading.document

/-- Whatever is loaded is what its file comes to when it is read. -/
theorem Genuine.load (h : c.Genuine tree root) (path : Path) :
    (c.load tree root path).2.Genuine tree root ∧
      ∃ session, (c.load tree root path).1.map (·.document) = (read tree root session path).1 := by
  unfold Cache.load
  split
  next found hfound =>
    obtain ⟨before, after, hreadings, -⟩ := List.lookup_eq_some_iff.1 hfound
    obtain ⟨session, hread⟩ := h path found (by rw [hreadings]; simp)
    exact ⟨h, session, hread.symm⟩
  next =>
    have hread : ∃ session, read tree root session path = read tree root c.session path := ⟨_, rfl⟩
    generalize read tree root c.session path = found at hread ⊢
    obtain ⟨session, hread⟩ := hread
    rcases found with ⟨fault | d, after⟩
    · exact ⟨h, session, by rw [hread]; rfl⟩
    · refine ⟨?_, session, by rw [hread]; rfl⟩
      intro path' reading hmem
      rcases List.mem_append.1 hmem with hmem | hmem
      · exact h path' reading hmem
      · cases List.mem_singleton.1 hmem
        exact ⟨session, by rw [hread]⟩

/-- The document at an absolute path that was read before. -/
def document? (c : Cache) (path : Path) : Option Document := (c.find? path).map (·.document)

/-- A document that was read before is there to be read again. -/
theorem load_of_some {d : Document} (h : c.document? path = some d) :
    (c.load tree root path).1.map (·.document) = .ok d ∧ (c.load tree root path).2 = c := by
  obtain ⟨reading, hreading, rfl⟩ := Option.map_eq_some_iff.1 h
  unfold load
  rw [hreading]
  exact ⟨rfl, rfl⟩

/-- A path that was not read before is read now, and a document is kept. -/
theorem load_unread (tree : FileTree) (root : Path) (h : c.document? path = none) :
    (c.load tree root path).1.map (·.document) = (read tree root c.session path).1 ∧
      (c.load tree root path).2.session = (read tree root c.session path).2 ∧
      ∀ path', (c.load tree root path).2.document? path' =
        if path' = path then (read tree root c.session path).1.toOption else c.document? path' := by
  have hnone : c.find? path = none := Option.map_eq_none_iff.1 h
  unfold load
  rw [hnone]
  rcases read tree root c.session path with ⟨fault | d, session⟩
  · refine ⟨rfl, rfl, fun path' => ?_⟩
    by_cases hpath : path' = path
    · rw [if_pos hpath, hpath]
      exact h
    · rw [if_neg hpath]
      rfl
  · refine ⟨rfl, rfl, fun path' => ?_⟩
    simp only [document?, find?, List.lookup_append]
    by_cases hpath : path' = path
    · rw [if_pos hpath, hpath, show c.readings.lookup path = none from hnone]
      simp [Except.toOption]
    · simp [hpath, List.lookup_cons, beq_eq_false_iff_ne.2 hpath]

end Cache

/-! ## The order of reading -/

/-- A session that there can be after some files were read. -/
inductive Reached (tree : FileTree) (root : Path) : Yaml.Session → Prop where
  | start : Reached tree root {}
  | read {session : Yaml.Session} (path : Path) (h : Reached tree root session) :
    Reached tree root (Document.read tree root session path).2

/-- It makes no difference when a file is read: it always comes to the same, and leaves the session
as it is. -/
def Indifferent (tree : FileTree) (root path : Path) : Prop :=
  ∀ session, Reached tree root session →
    read tree root session path = ((read tree root {} path).1, session)

/-- One cache is ahead of another: it has read more, but only files for which it makes no difference
when they are read. -/
structure Cache.Ahead (tree : FileTree) (root : Path) (c k : Cache) : Prop where
  session : c.session = k.session
  reached : Reached tree root k.session
  found : ∀ path, c.document? path = k.document? path ∨
    k.document? path = none ∧ Indifferent tree root path ∧
      c.document? path = (read tree root {} path).1.toOption

theorem eq_ok_of_toOption {result : Except LoadFault Document} {d : Document}
    (h : some d = result.toOption) : result = .ok d := by
  cases result with
  | error fault => cases h
  | ok d' =>
      cases h
      rfl

namespace Cache.Ahead

variable {c k : Cache}

theorem start : Ahead tree root {} {} :=
  ⟨rfl, .start, fun _ => .inl rfl⟩

/-- Both caches answer alike, and stay as they are related. -/
theorem load (h : c.Ahead tree root k) (path : Path) :
    (c.load tree root path).1.map (·.document) = (k.load tree root path).1.map (·.document) ∧
      (c.load tree root path).2.Ahead tree root (k.load tree root path).2 := by
  have hreached : Reached tree root (read tree root k.session path).2 := h.reached.read path
  cases hk : k.document? path with
  | some d =>
      -- What the second cache has read, the first has as well.
      have hc : c.document? path = some d := by
        rcases h.found path with heq | ⟨hnone, -⟩
        · rw [heq, hk]
        · rw [hk] at hnone
          cases hnone
      rw [(load_of_some hc).1, (load_of_some hc).2, (load_of_some hk).1, (load_of_some hk).2]
      exact ⟨rfl, h⟩
  | none =>
      obtain ⟨hk₁, hk₂, hk₃⟩ := load_unread tree root hk
      cases hc : c.document? path with
      | none =>
          obtain ⟨hc₁, hc₂, hc₃⟩ := load_unread tree root hc
          rw [h.session] at hc₁ hc₂ hc₃
          refine ⟨hc₁.trans hk₁.symm, hc₂.trans hk₂.symm, hk₂ ▸ hreached, fun path' => ?_⟩
          rw [hc₃, hk₃]
          split
          next => exact .inl rfl
          next => exact h.found path'
      | some d =>
          -- Only the second cache has to read the file, and comes to the document of the first.
          rcases h.found path with heq | ⟨-, hpath, hd⟩
          · rw [hc, hk] at heq
            cases heq
          · have hread := hpath k.session h.reached
            rw [hc] at hd
            have hok := eq_ok_of_toOption hd
            rw [(load_of_some hc).1, (load_of_some hc).2, hk₁, hread, hok]
            refine ⟨rfl, ?_, hk₂ ▸ hreached, fun path' => ?_⟩
            · rw [hk₂, hread, h.session]
            · rw [hk₃, hread, hok]
              split
              next heq => exact .inl (heq ▸ hc)
              next => exact h.found path'

/-- The first cache may answer by itself where it makes no difference. -/
theorem load_left (h : c.Ahead tree root k) (hpath : Indifferent tree root path) :
    (c.load tree root path).2.Ahead tree root k := by
  cases hc : c.document? path with
  | some d =>
      rw [(load_of_some hc).2]
      exact h
  | none =>
      obtain ⟨-, hsession, hothers⟩ := load_unread tree root hc
      have hread := hpath k.session h.reached
      rw [h.session, hread] at hsession hothers
      refine ⟨hsession, h.reached, fun path' => ?_⟩
      rw [hothers]
      split
      next heq =>
        subst heq
        refine .inr ⟨?_, hpath, rfl⟩
        rcases h.found path' with heq | ⟨hnone, -⟩
        · rw [← heq, hc]
        · exact hnone
      next => exact h.found path'

end Cache.Ahead

/-- What files come to when they are read one after another. -/
def readAll (tree : FileTree) (root : Path) :
    Yaml.Session → List Path → List (Path × Except LoadFault Document)
  | _, [] => []
  | session, path :: rest =>
    let (result, session) := read tree root session path
    (path, result) :: readAll tree root session rest

theorem exists_of_mem_readAll {session : Yaml.Session} {paths : List Path}
    {result : Except LoadFault Document} (h : (path, result) ∈ readAll tree root session paths) :
    ∃ session', (read tree root session' path).1 = result := by
  induction paths generalizing session with
  | nil => cases h
  | cons first rest ih =>
      rcases List.mem_cons.1 h with heq | h
      · cases heq
        exact ⟨session, rfl⟩
      · exact ih h

end Continuity.Document
