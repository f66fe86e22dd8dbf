import Continuity.Proofs.Document.Cache
import Continuity.Proofs.Document.Content

/-! # The history of a cache

Files are asked for again and again, while others change them and the cache is cleared now and then.
Until it is cleared, a cache gives the same reading of a file whenever it is asked, and it makes no
difference whether one waits for a file or lets others go on in between. What a step can do to a
cache is said once; from it follows what every history of steps keeps.
-/

namespace Continuity.Document.Cache

/-! ## Steps -/

/-- Where a cache is used: the directory that paths are followed from, and the root of the project. -/
structure Site where
  here : Path
  root : Path

/-- What happens to a cache, or to the files that it reads. -/
inductive Use where
  | load (path : Path)
  /-- A file is asked for, and read when others have changed the files meanwhile. -/
  | process (path : Path) (meanwhile : FileTree → FileTree)
  | clear
  | change (f : FileTree → FileTree)

/-- The files, and what has been read of them. -/
structure Scene where
  files : FileTree
  cache : Cache := {}

/-- What a request has come to, with the absolute path of the file. -/
abbrev Answer := Path × Except LoadFault Reading

namespace Scene

/-- What happens, and the answer where a file was asked for. -/
def step (site : Site) (s : Scene) : Use → Option Answer × Scene
  | .load path =>
    let path := Path.resolve site.here path
    let (result, cache) := s.cache.load s.files site.root path
    (some (path, result), { s with cache })
  | .process path meanwhile =>
    let path := Path.resolve site.here path
    let request := s.cache.request path
    let files := meanwhile s.files
    let (result, cache) := s.cache.answer files site.root request
    (some (path, result), ⟨files, cache⟩)
  | .clear => (none, { s with cache := s.cache.clear })
  | .change f => (none, { s with files := f s.files })

/-- All answers in a history, and what it leads to. -/
def run (site : Site) (s : Scene) : List Use → List Answer × Scene
  | [] => ([], s)
  | use :: rest =>
    let (answer, s) := s.step site use
    let (answers, s) := s.run site rest
    (answer.toList ++ answers, s)

end Scene

variable {site : Site} {s : Scene} {use : Use} {history : List Use} {c : Cache} {tree : FileTree}
  {root path : Path} {reading : Reading}

/-- A reading of a file without an earlier one is put behind all others. -/
theorem assign_eq {readings : List (Path × Reading)} (h : readings.lookup path = none) :
    assign path reading readings = readings ++ [(path, reading)] := by
  induction readings with
  | nil => rfl
  | cons entry rest ih =>
      obtain ⟨other, old⟩ := entry
      rw [List.lookup_cons] at h
      split at h
      · cases h
      next hne =>
        have hother : (other == path) = false := by
          rw [← hne, BEq.comm]
        rw [assign, hother, if_neg Bool.false_ne_true, ih h, List.cons_append]

/-- An answer that is waited for is no other than one that comes at once. -/
theorem answer_request (c : Cache) (tree : FileTree) (root path : Path) :
    c.answer tree root (c.request path) = c.load tree root path := by
  unfold request load
  cases hfound : c.find? path with
  | some reading => rfl
  | none =>
      rw [find?] at hfound
      unfold answer
      dsimp only
      split
      · rfl
      · rw [assign_eq hfound]

/-! ## What a step can do -/

/-- A file that was read before is given again, and nothing else happens; otherwise the file is
read, and only a document is kept. -/
theorem load_cases (c : Cache) (tree : FileTree) (root path : Path) :
    (∃ reading, c.find? path = some reading ∧ c.load tree root path = (.ok reading, c)) ∨
    (∃ fault session, c.load tree root path = (.error fault, { c with session })) ∨
    c.find? path = none ∧ ∃ d session, (read tree root c.session path).1 = .ok d ∧
      c.load tree root path =
        (.ok ⟨c.count, d⟩, ⟨c.readings ++ [(path, ⟨c.count, d⟩)], c.count + 1, session⟩) := by
  unfold load
  cases hfound : c.find? path with
  | some reading => exact .inl ⟨reading, rfl, rfl⟩
  | none =>
      right
      rcases hread : read tree root c.session path with ⟨fault | d, session⟩
      · exact .inl ⟨fault, session, rfl⟩
      · exact .inr ⟨rfl, d, session, rfl, rfl⟩

theorem step_process (site : Site) (s : Scene) (path : Path) (meanwhile : FileTree → FileTree) :
    s.step site (.process path meanwhile) =
      Scene.step site ⟨meanwhile s.files, s.cache⟩ (.load path) := by
  unfold Scene.step
  dsimp only
  rw [answer_request]

/-- A step asks for a file, clears the cache, or changes the files. -/
theorem step_cases (site : Site) (s : Scene) (use : Use) :
    (∃ path files, s.step site use =
      (some (path, (s.cache.load files site.root path).1),
        ⟨files, (s.cache.load files site.root path).2⟩)) ∨
    (use = .clear ∧ s.step site use = (none, ⟨s.files, s.cache.clear⟩)) ∨
    ∃ files, s.step site use = (none, ⟨files, s.cache⟩) := by
  cases use with
  | load path => exact .inl ⟨Path.resolve site.here path, s.files, rfl⟩
  | process path meanwhile =>
      exact .inl ⟨Path.resolve site.here path, meanwhile s.files, step_process ..⟩
  | clear => exact .inr (.inl ⟨rfl, rfl⟩)
  | change f => exact .inr (.inr ⟨f s.files, rfl⟩)

/-- What is answered is the outcome of a request for that file. -/
theorem exists_load_of_answer {result : Except LoadFault Reading}
    (h : (s.step site use).1 = some (path, result)) :
    ∃ files, (s.step site use).2 = ⟨files, (s.cache.load files site.root path).2⟩ ∧
      (s.cache.load files site.root path).1 = result := by
  rcases step_cases site s use with ⟨asked, files, hstep⟩ | ⟨-, hstep⟩ | ⟨files, hstep⟩
  · rw [hstep] at h ⊢
    cases h
    exact ⟨files, rfl, rfl⟩
  · rw [hstep] at h
    cases h
  · rw [hstep] at h
    cases h

theorem run_cons (site : Site) (s : Scene) (use : Use) (rest : List Use) :
    s.run site (use :: rest) =
      ((s.step site use).1.toList ++ ((s.step site use).2.run site rest).1,
        ((s.step site use).2.run site rest).2) :=
  rfl

theorem run_append (site : Site) (s : Scene) (before after : List Use) :
    s.run site (before ++ after) =
      ((s.run site before).1 ++ ((s.run site before).2.run site after).1,
        ((s.run site before).2.run site after).2) := by
  induction before generalizing s with
  | nil => rfl
  | cons use rest ih => rw [List.cons_append, run_cons, ih, run_cons, List.append_assoc]

/-! ## Until the cache is cleared -/

theorem find?_append_of_some {entry : Path × Reading} {count : Nat} {session : Yaml.Session}
    (h : c.find? path = some reading) :
    find? ⟨c.readings ++ [entry], count, session⟩ path = some reading := by
  rw [find?] at h ⊢
  rw [List.lookup_append, h, Option.some_or]

/-- A file that has been read is known from then on. -/
theorem find?_load (h : c.find? path = some reading) (tree : FileTree) (root asked : Path) :
    (c.load tree root asked).2.find? path = some reading := by
  rcases load_cases c tree root asked with ⟨_, -, hload⟩ | ⟨_, _, hload⟩ | ⟨-, _, _, -, hload⟩
  · rw [hload]
    exact h
  · rw [hload]
    exact h
  · rw [hload]
    exact find?_append_of_some h

/-- What is asked for is known from then on, if it can be read. -/
theorem find?_load_of_ok (h : (c.load tree root path).1 = .ok reading) :
    (c.load tree root path).2.find? path = some reading := by
  rcases load_cases c tree root path with ⟨found, hfound, hload⟩ | ⟨_, _, hload⟩ |
    ⟨hnone, d, _, -, hload⟩
  · rw [hload] at h ⊢
    cases h
    exact hfound
  · rw [hload] at h
    cases h
  · rw [hload] at h ⊢
    cases h
    rw [find?] at hnone ⊢
    rw [List.lookup_append, hnone, Option.none_or, List.lookup_cons_self]

/-- A request that fails keeps all readings as they are. -/
theorem readings_load_of_error {fault : LoadFault} (h : (c.load tree root path).1 = .error fault) :
    (c.load tree root path).2.readings = c.readings := by
  rcases load_cases c tree root path with ⟨_, -, hload⟩ | ⟨_, _, hload⟩ | ⟨-, _, _, -, hload⟩
  · rw [hload]
  · rw [hload]
  · rw [hload] at h
    cases h

/-- A reading that is known is the answer to every request for its file. -/
theorem load_of_find? (h : c.find? path = some reading) (tree : FileTree) (root : Path) :
    c.load tree root path = (.ok reading, c) := by
  rw [load, h]

/-- Unless the cache is cleared, a reading that is known stays known and is what is answered. -/
theorem step_of_find? (h : s.cache.find? path = some reading) (hclear : use ≠ .clear) :
    (s.step site use).2.cache.find? path = some reading ∧
      ∀ answer ∈ (s.step site use).1, answer.1 = path → answer.2 = .ok reading := by
  rcases step_cases site s use with ⟨asked, files, hstep⟩ | ⟨rfl, -⟩ | ⟨files, hstep⟩
  · rw [hstep]
    refine ⟨find?_load h _ _ _, ?_⟩
    rintro answer hanswer hpath
    obtain rfl := Option.some.inj hanswer
    dsimp only at hpath ⊢
    rw [hpath, load_of_find? h]
  · exact absurd rfl hclear
  · rw [hstep]
    exact ⟨h, fun _ hanswer => nomatch hanswer⟩

theorem answers_of_find? (h : s.cache.find? path = some reading) (hclear : .clear ∉ history) :
    ∀ answer ∈ (s.run site history).1, answer.1 = path → answer.2 = .ok reading := by
  induction history generalizing s with
  | nil => exact fun _ hanswer => nomatch hanswer
  | cons use rest ih =>
      rw [List.mem_cons, not_or] at hclear
      obtain ⟨hknown, hfirst⟩ := step_of_find? h (Ne.symm hclear.1)
      intro answer hanswer hpath
      rw [run_cons, List.mem_append, Option.mem_toList] at hanswer
      rcases hanswer with hanswer | hanswer
      · exact hfirst answer hanswer hpath
      · exact ih hknown hclear.2 answer hanswer hpath

/-- What is answered to a request is known from then on. -/
theorem find?_step_of_ok {result : Except LoadFault Reading}
    (h : (s.step site use).1 = some (path, result)) (hok : result = .ok reading) :
    (s.step site use).2.cache.find? path = some reading := by
  obtain ⟨files, hstep, hload⟩ := exists_load_of_answer h
  rw [hstep]
  exact find?_load_of_ok (hload.trans hok)

/-- Without clearing, all answers about a file are the first reading of it from that reading on. -/
theorem pairwise_answers (hclear : .clear ∉ history) :
    (s.run site history).1.Pairwise fun earlier later =>
      earlier.1 = later.1 → ∀ reading, earlier.2 = .ok reading → later.2 = .ok reading := by
  induction history generalizing s with
  | nil => exact .nil
  | cons use rest ih =>
      rw [List.mem_cons, not_or] at hclear
      rw [run_cons]
      cases hanswer : (s.step site use).1 with
      | none => exact ih hclear.2
      | some earlier =>
          refine .cons (fun later hlater hpath reading hread => ?_) (ih hclear.2)
          have hknown := find?_step_of_ok hanswer hread
          exact answers_of_find? hknown hclear.2 later hlater hpath.symm

/-- A file of which nothing could be read is not known. -/
theorem find?_run_eq_none (h : s.cache.find? path = none)
    (hfailed : ∀ answer ∈ (s.run site history).1, answer.1 = path →
      ∀ reading, answer.2 ≠ .ok reading) :
    (s.run site history).2.cache.find? path = none := by
  induction history generalizing s with
  | nil => exact h
  | cons use rest ih =>
      rw [run_cons] at hfailed ⊢
      rw [List.forall_mem_append] at hfailed
      refine ih ?_ hfailed.2
      rcases step_cases site s use with ⟨asked, files, hstep⟩ | ⟨-, hstep⟩ | ⟨files, hstep⟩
      · rw [hstep]
        rcases load_cases s.cache files site.root asked with ⟨_, -, hload⟩ | ⟨_, _, hload⟩ |
          ⟨-, d, _, -, hload⟩
        · rw [hload]
          exact h
        · rw [hload]
          exact h
        · -- What is kept is another file, for it could be read.
          have hmem : (asked, .ok ⟨s.cache.count, d⟩) ∈ (s.step site use).1.toList := by
            rw [hstep, hload]
            exact List.mem_singleton_self _
          have hne : asked ≠ path := fun heq => hfailed.1 _ hmem heq _ rfl
          rw [find?] at h
          rw [hload, find?, List.lookup_append, h, Option.none_or]
          simp [List.lookup_cons, beq_eq_false_iff_ne.2 hne.symm]
      · rw [hstep]
        rfl
      · rw [hstep]
        exact h

/-! ## What every history keeps -/

/-- Every reading is kept under the path of its document, under no other, and with a number of its
own. -/
structure IsKeyed (c : Cache) : Prop where
  path_eq : ∀ entry ∈ c.readings, entry.2.document.path = entry.1
  nodup_path : (c.readings.map (·.1)).Nodup
  nodup_number : (c.readings.map (·.2.number)).Nodup
  number_lt : ∀ entry ∈ c.readings, entry.2.number < c.count

theorem IsKeyed.empty (h : c.readings = []) : c.IsKeyed := by
  constructor <;> simp [h]

theorem IsKeyed.load (h : c.IsKeyed) (tree : FileTree) (root path : Path) :
    (c.load tree root path).2.IsKeyed := by
  rcases load_cases c tree root path with ⟨_, -, hload⟩ | ⟨_, _, hload⟩ |
    ⟨hnone, d, session, hread, hload⟩
  · rw [hload]
    exact h
  · rw [hload]
    exact ⟨h.path_eq, h.nodup_path, h.nodup_number, h.number_lt⟩
  · rw [hload]
    refine ⟨?_, ?_, ?_, ?_⟩
    · refine List.forall_mem_append.2 ⟨h.path_eq, List.forall_mem_singleton.2 ?_⟩
      exact (of_read hread).1
    · rw [List.map_append]
      refine List.nodup_append.2 ⟨h.nodup_path, List.pairwise_singleton _ _, ?_⟩
      intro known hknown new hnew heq
      obtain ⟨entry, hentry, rfl⟩ := List.mem_map.1 hknown
      rw [find?, List.lookup_eq_none_iff] at hnone
      obtain rfl := List.mem_singleton.1 hnew
      simpa [heq] using hnone entry hentry
    · rw [List.map_append]
      refine List.nodup_append.2 ⟨h.nodup_number, List.pairwise_singleton _ _, ?_⟩
      intro known hknown new hnew
      obtain ⟨entry, hentry, rfl⟩ := List.mem_map.1 hknown
      obtain rfl := List.mem_singleton.1 hnew
      exact Nat.ne_of_lt (h.number_lt entry hentry)
    · refine List.forall_mem_append.2 ⟨fun entry hentry => ?_, List.forall_mem_singleton.2 ?_⟩
      · exact Nat.lt_succ_of_lt (h.number_lt entry hentry)
      · exact Nat.lt_succ_self _

theorem IsKeyed.step (h : s.cache.IsKeyed) (site : Site) (use : Use) :
    (s.step site use).2.cache.IsKeyed := by
  rcases step_cases site s use with ⟨asked, files, hstep⟩ | ⟨-, hstep⟩ | ⟨files, hstep⟩
  · rw [hstep]
    exact h.load _ _ _
  · rw [hstep]
    exact .empty rfl
  · rw [hstep]
    exact h

theorem IsKeyed.run (h : s.cache.IsKeyed) (site : Site) (history : List Use) :
    (s.run site history).2.cache.IsKeyed := by
  induction history generalizing s with
  | nil => exact h
  | cons use rest ih => exact ih (h.step site use)

/-- The number of a reading that is answered has been given out. -/
theorem number_lt_of_answer {result : Except LoadFault Reading} (h : s.cache.IsKeyed)
    (hanswer : (s.step site use).1 = some (path, result)) (hok : result = .ok reading) :
    reading.number < (s.step site use).2.cache.count := by
  have hknown := find?_step_of_ok hanswer hok
  obtain ⟨before, after, hreadings, -⟩ := List.lookup_eq_some_iff.1 hknown
  exact (h.step site use).number_lt (path, reading) (by rw [hreadings]; simp)

theorem count_le_load (c : Cache) (tree : FileTree) (root path : Path) :
    c.count ≤ (c.load tree root path).2.count := by
  rcases load_cases c tree root path with ⟨_, -, hload⟩ | ⟨_, _, hload⟩ | ⟨-, _, _, -, hload⟩
  · rw [hload]
  · rw [hload]
  · rw [hload]
    exact Nat.le_succ _

theorem count_le_step (site : Site) (s : Scene) (use : Use) :
    s.cache.count ≤ (s.step site use).2.cache.count := by
  rcases step_cases site s use with ⟨asked, files, hstep⟩ | ⟨-, hstep⟩ | ⟨files, hstep⟩
  · rw [hstep]
    exact count_le_load _ _ _ _
  · rw [hstep]
    exact Nat.le_refl _
  · rw [hstep]

theorem count_le_run (site : Site) (s : Scene) (history : List Use) :
    s.cache.count ≤ (s.run site history).2.cache.count := by
  induction history generalizing s with
  | nil => exact Nat.le_refl _
  | cons use rest ih => exact (count_le_step site s use).trans (ih _)

theorem number_lt_of_mem_answers (h : s.cache.IsKeyed) :
    ∀ answer ∈ (s.run site history).1, ∀ reading, answer.2 = .ok reading →
      reading.number < (s.run site history).2.cache.count := by
  induction history generalizing s with
  | nil => exact fun _ hanswer => nomatch hanswer
  | cons use rest ih =>
      intro answer hanswer reading hok
      rw [run_cons, List.mem_append, Option.mem_toList] at hanswer
      rcases hanswer with hanswer | hanswer
      · exact (number_lt_of_answer h hanswer hok).trans_le (count_le_run site _ rest)
      · exact ih (h.step site use) answer hanswer reading hok

/-! ## All histories -/

/-- A document is made of what its file holds. -/
structure Reflects (files : FileTree) (root : Path) (session : Yaml.Session) (path : Path)
    (d : Document) : Prop where
  content : ∃ bytes, files.read path = .ok bytes ∧ decode bytes = .ok d.content
  made : (ofContent session path (path.within root) d.content).1 = .ok d

theorem reflects_of_read {session : Yaml.Session} {d : Document}
    (h : (read tree root session path).1 = .ok d) : Reflects tree root session path d := by
  unfold read at h
  split at h
  next => cases h
  next bytes hbytes =>
    split at h
    next => cases h
    next content hcontent =>
      obtain ⟨rfl, -⟩ := content_of_ofContent h
      exact ⟨⟨bytes, hbytes, hcontent⟩, h⟩

/-- A reading of a file that was not known is new, and made of what the file holds now. -/
theorem step_of_find?_eq_none {result : Except LoadFault Reading}
    (h : s.cache.find? path = none) (hanswer : (s.step site use).1 = some (path, result))
    (hok : result = .ok reading) :
    Reflects (s.step site use).2.files site.root s.cache.session path reading.document ∧
      reading.number = s.cache.count := by
  obtain ⟨files, hstep, hresult⟩ := exists_load_of_answer hanswer
  rw [hok] at hresult
  rw [hstep]
  rcases load_cases s.cache files site.root path with ⟨_, hknown, -⟩ | ⟨_, _, hload⟩ |
    ⟨-, d, _, hread, hload⟩
  · rw [h] at hknown
    cases hknown
  · rw [hload] at hresult
    cases hresult
  · rw [hload] at hresult
    cases hresult
    exact ⟨reflects_of_read hread, rfl⟩

/-- What can be relied on in any history of requests for files, changes of the files, and clearing. -/
structure IsConsistent (site : Site) : Prop where
  /-- Until the cache is cleared, all answers about a file are the reading that was first made. -/
  same : ∀ (s : Scene) (history : List Use), .clear ∉ history →
    (s.run site history).1.Pairwise fun earlier later =>
      earlier.1 = later.1 → ∀ reading, earlier.2 = .ok reading → later.2 = .ok reading
  /-- To wait for a file is the same as to let others go on and ask for it afterwards. -/
  interchangeable : ∀ (s : Scene) (before after : List Use) (path : Path),
    s.run site (before ++ .process path id :: after) =
        s.run site (before ++ .load path :: after) ∧
      ∀ meanwhile, s.run site (before ++ .process path meanwhile :: after) =
        s.run site (before ++ .change meanwhile :: .load path :: after)
  /-- A request that fails keeps all readings as they are. -/
  untouched : ∀ (s : Scene) (use : Use) (path : Path) (fault : LoadFault),
    (s.step site use).1 = some (path, .error fault) →
      (s.step site use).2.cache.readings = s.cache.readings
  /-- Readings are kept under the paths of their documents. -/
  keyed : ∀ (files : FileTree) (history : List Use),
    (Scene.run site ⟨files, {}⟩ history).2.cache.IsKeyed
  /-- The first reading of a file since the cache was cleared is made of what the file holds then,
  and it is none of the readings before. -/
  renewed : ∀ (files : FileTree) (before since : List Use) (use : Use) (path : Path)
    (reading : Reading),
    let cleared := (Scene.run site ⟨files, {}⟩ (before ++ [.clear])).2
    let s := (cleared.run site since).2
    (∀ answer ∈ (cleared.run site since).1, answer.1 = path → ∀ other, answer.2 ≠ .ok other) →
      (s.step site use).1 = some (path, .ok reading) →
        Reflects (s.step site use).2.files site.root s.cache.session path reading.document ∧
          ∀ answer ∈ (Scene.run site ⟨files, {}⟩ before).1, ∀ earlier, answer.2 = .ok earlier →
            earlier.number ≠ reading.number

/-- A cache is consistent wherever it is used. -/
theorem always_consistent (site : Site) : IsConsistent site where
  same s history hclear := pairwise_answers hclear
  interchangeable s before after path := by
    refine ⟨?_, fun meanwhile => ?_⟩
    · rw [run_append, run_append, run_cons, run_cons, step_process]
      rfl
    · rw [run_append, run_append, run_cons, run_cons, run_cons, step_process]
      rfl
  untouched s use path fault h := by
    obtain ⟨files, hstep, hload⟩ := exists_load_of_answer h
    rw [hstep]
    exact readings_load_of_error hload
  keyed files history := IsKeyed.run (.empty rfl) site history
  renewed files before since use path reading := by
    intro cleared s hfailed hanswer
    have hcleared : cleared.cache.find? path = none := by
      rw [show cleared = _ from congrArg Prod.snd (run_append site _ before [.clear])]
      rfl
    obtain ⟨hreflects, hnumber⟩ :=
      step_of_find?_eq_none (find?_run_eq_none hcleared hfailed) hanswer rfl
    refine ⟨hreflects, fun answer hearlier earlier hok => Nat.ne_of_lt ?_⟩
    have hkeyed : IsKeyed (Scene.mk files {}).cache := .empty rfl
    calc earlier.number
        < (Scene.run site ⟨files, {}⟩ before).2.cache.count :=
          number_lt_of_mem_answers hkeyed answer hearlier earlier hok
      _ ≤ cleared.cache.count := by
          rw [show cleared = _ from congrArg Prod.snd (run_append site _ before [.clear])]
          exact count_le_run site _ [.clear]
      _ ≤ s.cache.count := count_le_run site cleared since
      _ = reading.number := hnumber.symm

end Continuity.Document.Cache
