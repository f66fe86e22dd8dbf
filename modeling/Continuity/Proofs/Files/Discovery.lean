import Continuity.Proofs.Files.Exclusion
import Continuity.Proofs.Files.Order
import Continuity.Proofs.Files.Tree

/-! # The files of a directory

The Markdown files of a directory are those at any depth below it that no pattern excludes, each of
them once and in the order of the paths. Patterns are held against the way from that directory. So a
directory that is named as a target has its own part of the project's files exactly where the
patterns say the same of the ways from the directory and from the root of the project.
-/

namespace Continuity.Files

variable {t found : FileTree} {root path file : Path} {excluded : List String}

/-! ## Names that fit a pattern -/

namespace Wildcard

theorem anySuffix_eq_true_iff {test : List Char → Bool} {name : List Char} :
    anySuffix test name = true ↔ ∃ back, back <:+ name ∧ test back = true := by
  induction name with
  | nil => simp [anySuffix]
  | cons c rest ih =>
      rw [anySuffix, Bool.or_eq_true, ih]
      simp only [List.suffix_cons_iff, or_and_right, exists_or, exists_eq_left]

/-- A star in front of a text stands for whatever comes before it. -/
theorem matchesAll_anyRun_chars {ending name : List Char} :
    matchesAll (.anyRun :: ending.map .char) name = true ↔ ending <:+ name := by
  have hending (back : List Char) : matchesAll (ending.map .char) back = true ↔ back = ending := by
    rw [← List.append_nil (ending.map Wildcard.char), matchesAll_append]
    simp [matchesAll]
  rw [matchesAll, anySuffix_eq_true_iff]
  simp [hending]

end Wildcard

/-! ## Paths that fit a pattern -/

/-- The paths of what a directory holds under names that fit a pattern. -/
def fittingIn (t : FileTree) (pieces : List Wildcard) (path : Path) : List Path :=
  ((entriesAt t path).filter fun entry => Wildcard.matchesAll pieces entry.1.toList).map
    fun entry => path ++ ⟨.relative, [entry.1]⟩

theorem globFrom_wildcard (t : FileTree) (pieces : List Wildcard) (path : Path) :
    globFrom t [.wildcard pieces] path = .ok (fittingIn t pieces path) := by
  have heach (names : List String) :
      names.mapM (fun name => globFrom t [] (path ++ ⟨.relative, [name]⟩)) =
        .ok (names.map fun name => [path ++ ⟨.relative, [name]⟩]) :=
    mapM_eq_map fun _ _ => rfl
  rw [globFrom, heach]
  refine congrArg Except.ok ?_
  rw [List.map_map, ← List.flatMap_def, fittingIn, List.map_eq_flatMap]
  rfl

theorem globFrom_anyDirectories (h : t.follow path = .ok found) (pieces : List Wildcard) :
    globFrom t [.anyDirectories, .wildcard pieces] path =
      .ok (found.directories.flatMap fun names =>
        fittingIn t pieces (path ++ ⟨.relative, names⟩)) := by
  have heach (ways : List (List String)) :
      ways.mapM (fun names => globFrom t [.wildcard pieces] (path ++ ⟨.relative, names⟩)) =
        .ok (ways.map fun names => fittingIn t pieces (path ++ ⟨.relative, names⟩)) :=
    mapM_eq_map fun _ _ => globFrom_wildcard t pieces _
  rw [globFrom, h]
  dsimp only
  rw [heach]
  rfl

/-- A path leads to something below a directory, and its name fits a pattern. -/
def FitsBelow (t : FileTree) (names : List String) (pieces : List Wildcard) (path : Path) : Prop :=
  ∃ before name found, path = ⟨.absolute, names ++ before ++ [name]⟩ ∧
    t.Leads path.parts found ∧ Wildcard.matchesAll pieces name.toList = true

section Fitting

variable {names : List String} {pieces : List Wildcard}

theorem mem_fittingIn_iff (h : t.IsProper) (hleads : t.Leads names found) :
    path ∈ fittingIn t pieces ⟨.absolute, names⟩ ↔
      ∃ entry ∈ found.entries, Wildcard.matchesAll pieces entry.1.toList = true ∧
        path = ⟨.absolute, names ++ [entry.1]⟩ := by
  have hentries : entriesAt t ⟨.absolute, names⟩ = found.entries := by
    rw [entriesAt, (h.follow_eq_ok_iff (h.up_not_mem_of_leads hleads)).2 hleads]
  rw [fittingIn, hentries]
  simp only [List.mem_map, List.mem_filter, and_assoc, eq_comm (b := path)]
  rfl

/-- The paths below a directory with names that fit a pattern are all found. -/
theorem mem_fittingBelow_iff (h : t.IsProper) {entries : List (String × FileTree)}
    (hroot : t.Leads names (.directory entries)) :
    (path ∈ (FileTree.directory entries).directories.flatMap fun before =>
        fittingIn t pieces ⟨.absolute, names ++ before⟩) ↔ FitsBelow t names pieces path := by
  simp only [List.mem_flatMap, FileTree.mem_directories_iff]
  constructor
  · rintro ⟨before, ⟨below, hbelow⟩, hpath⟩
    have hleads := FileTree.leads_append_iff.2 ⟨_, hroot, hbelow⟩
    obtain ⟨entry, hentry, hmatches, rfl⟩ := (mem_fittingIn_iff h hleads).1 hpath
    refine ⟨before, entry.1, entry.2, rfl, ?_, hmatches⟩
    exact FileTree.leads_append_iff.2 ⟨_, hleads, .through hentry (.here entry.2)⟩
  · rintro ⟨before, name, found, rfl, hleads, hmatches⟩
    obtain ⟨below, hbelow, hname⟩ := FileTree.leads_append_iff.1 hleads
    obtain ⟨entry, hentry, rfl, -⟩ := FileTree.leads_cons_iff.1 hname
    obtain ⟨directory, hdirectory, hbefore⟩ := FileTree.leads_append_iff.1 hbelow
    obtain rfl := h.eq_of_leads hdirectory hroot
    obtain ⟨inside, rfl⟩ : ∃ inside, below = .directory inside := by
      cases hname
      exact ⟨_, rfl⟩
    exact ⟨before, ⟨inside, hbefore⟩,
      (mem_fittingIn_iff h hbelow).2 ⟨entry, hentry, hmatches, rfl⟩⟩

theorem exists_globFrom (h : t.IsProper) {entries : List (String × FileTree)}
    (hroot : t.Leads names (.directory entries)) (pieces : List Wildcard) :
    ∃ paths, globFrom t [.anyDirectories, .wildcard pieces] ⟨.absolute, names⟩ = .ok paths ∧
      ∀ path, path ∈ paths ↔ FitsBelow t names pieces path := by
  have hfollow : t.follow ⟨.absolute, names⟩ = .ok (.directory entries) :=
    (h.follow_eq_ok_iff (h.up_not_mem_of_leads hroot)).2 hroot
  exact ⟨_, globFrom_anyDirectories hfollow pieces, fun path => mem_fittingBelow_iff h hroot⟩

end Fitting

/-! ## Markdown files -/

/-- A path is that of a Markdown file at some depth below a directory. -/
structure IsMarkdownBelow (t : FileTree) (base file : Path) : Prop where
  below : ∃ way, file.relativeTo? base = some way ∧ ".." ∉ way.parts
  isFile : t.isFile file = .ok true
  ending : ".md".toList <:+ file.name.toList

/-- The pieces of the pattern for the name of a Markdown file. -/
def markdownPieces : List Wildcard := .anyRun :: ".md".toList.map .char

theorem globParts_markdown :
    globParts "**/*.md" = .ok [.anyDirectories, .wildcard markdownPieces] := by
  decide +kernel

section Below

variable {names : List String} {entries : List (String × FileTree)}

theorem isMarkdownBelow_iff (h : t.IsProper) (hroot : t.Leads names (.directory entries)) :
    IsMarkdownBelow t ⟨.absolute, names⟩ file ↔
      FitsBelow t names markdownPieces file ∧ t.isFile file = .ok true := by
  have hname (before : List String) (name : String) :
      Path.name ⟨.absolute, names ++ before ++ [name]⟩ = name := by
    simp [Path.name]
  constructor
  · rintro ⟨⟨way, hway, hdown⟩, hfile, hending⟩
    obtain ⟨-, rfl⟩ := Path.relativeTo?_eq_some_iff.1 hway
    obtain ⟨content, hfollow⟩ := FileTree.isFile_eq_true_iff.1 hfile
    have hup : ".." ∉ names ++ way.parts := by
      simpa using ⟨h.up_not_mem_of_leads hroot, hdown⟩
    have hleads := (h.follow_eq_ok_iff hup).1 hfollow
    rcases List.eq_nil_or_concat way.parts with hnil | ⟨before, name, hlast⟩
    · -- A directory is no file.
      rw [hnil, List.append_nil] at hleads
      cases h.eq_of_leads hleads hroot
    · rw [List.concat_eq_append] at hlast
      rw [hlast, ← List.append_assoc] at hfile hending hleads ⊢
      rw [hname] at hending
      exact ⟨⟨before, name, _, rfl, hleads, Wildcard.matchesAll_anyRun_chars.2 hending⟩, hfile⟩
  · rintro ⟨⟨before, name, found, rfl, hleads, hmatches⟩, hfile⟩
    refine ⟨⟨⟨.relative, before ++ [name]⟩, ?_, ?_⟩, hfile, ?_⟩
    · rw [Path.relativeTo?_eq_some_iff]
      simp
    · have hup := h.up_not_mem_of_leads hleads
      rw [List.append_assoc, List.mem_append, not_or] at hup
      exact hup.2
    · rw [hname]
      exact Wildcard.matchesAll_anyRun_chars.1 hmatches

/-- The paths of Markdown files can be written. -/
theorem IsMarkdownBelow.isPlain (h : t.IsProper) (hroot : t.Leads names (.directory entries))
    (hfile : IsMarkdownBelow t ⟨.absolute, names⟩ file) : file.IsPlain := by
  obtain ⟨⟨_, _, found, -, hleads, -⟩, -⟩ := (isMarkdownBelow_iff h hroot).1 hfile
  exact fun name hname => (h.isFileName_of_leads hleads name hname).isName

theorem IsMarkdownBelow.ne_nil_of_relativeTo (h : t.IsProper)
    (hroot : t.Leads names (.directory entries)) (hfile : IsMarkdownBelow t ⟨.absolute, names⟩ file)
    {way : Path} (hway : file.relativeTo? ⟨.absolute, names⟩ = some way) : way.parts ≠ [] := by
  intro hnil
  obtain ⟨⟨before, last, _, rfl, -, -⟩, -⟩ := (isMarkdownBelow_iff h hroot).1 hfile
  obtain ⟨-, hparts⟩ := Path.relativeTo?_eq_some_iff.1 hway
  simp [hnil] at hparts

theorem isSelected_eq_true_iff : isSelected t root excluded path = .ok true ↔
    t.isFile path = .ok true ∧ isExcluded excluded (path.within root) = false := by
  rw [isSelected, examining, asking]
  cases t.isFile path <;> simp [Except.mapError, bind, Except.bind, pure, Except.pure]

theorem exists_isSelected (h : t.follow path = .ok found) (root : Path) (excluded : List String) :
    ∃ answer, isSelected t root excluded path = .ok answer := by
  obtain ⟨answer, hanswer⟩ := FileTree.exists_isFile_of_follow h
  exact ⟨_, by rw [isSelected, examining, asking, hanswer]; rfl⟩

/-- Files are the Markdown files below a directory that are not excluded there, each of them once
and in the order of their paths. -/
structure IsListing (t : FileTree) (base : Path) (excluded : List String) (files : List Path) :
    Prop where
  ordered : files.Pairwise Path.Precedes
  mem_iff : ∀ file, file ∈ files ↔
    IsMarkdownBelow t base file ∧ isExcluded excluded (file.within base) = false

theorem discover_of_select {pattern : String} {paths : List Path}
    (h : select t root excluded pattern = .ok paths) :
    discover t root ⟨[pattern], excluded⟩ = .ok (sortPaths paths) := by
  rw [discover]
  simp [bind, Except.bind, pure, Except.pure, h]

theorem exists_discover (h : t.IsProper) (hroot : t.Leads names (.directory entries))
    (excluded : List String) :
    ∃ files, discover t ⟨.absolute, names⟩ ⟨["**/*.md"], excluded⟩ = .ok files ∧
      IsListing t ⟨.absolute, names⟩ excluded files := by
  obtain ⟨paths, hpaths, hmem⟩ := exists_globFrom h hroot markdownPieces
  have hdirectory : t.isDirectory ⟨.absolute, names⟩ = .ok true :=
    FileTree.isDirectory_eq_true_iff.2
      ⟨entries, (h.follow_eq_ok_iff (h.up_not_mem_of_leads hroot)).2 hroot⟩
  have hglob : glob t ⟨.absolute, names⟩ "**/*.md" = .ok paths := by
    rw [glob, globParts_markdown, examining, asking, hdirectory]
    simp [Except.mapError, bind, Except.bind, hpaths]
  have hanswers : ∀ path ∈ paths,
      ∃ answer, isSelected t ⟨.absolute, names⟩ excluded path = .ok answer := by
    intro path hpath
    obtain ⟨_, _, found, -, hleads, -⟩ := (hmem path).1 hpath
    exact exists_isSelected ((h.follow_eq_ok_iff (h.up_not_mem_of_leads hleads)).2 hleads) _ _
  obtain ⟨kept, hkept, hmemKept⟩ := exists_filterM hanswers
  -- A path that is found has no names for "up", so it is what it means.
  have hresolved : kept.map (Path.resolve ⟨.absolute, names⟩) = kept := by
    refine (List.map_congr_left fun path hpath => ?_).trans (List.map_id kept)
    obtain ⟨_, _, found, rfl, hleads, -⟩ := (hmem path).1 ((hmemKept path).1 hpath).1
    exact Path.resolve_of_absolute (h.up_not_mem_of_leads hleads) _
  have hselect : select t ⟨.absolute, names⟩ excluded "**/*.md" = .ok kept := by
    rw [select, hglob]
    simp [bind, Except.bind, pure, Except.pure, hkept, hresolved]
  refine ⟨sortPaths kept, discover_of_select hselect, pairwise_sortPaths kept, fun file => ?_⟩
  rw [mem_sortPaths, hmemKept, isSelected_eq_true_iff, hmem, isMarkdownBelow_iff h hroot, and_assoc]

end Below

/-! ## Directories as targets -/

section Target

variable {here project target way : Path}

/-- What lies below a directory of a project is what lies below that directory in the project. -/
theorem isMarkdownBelow_iff_of_inside
    (hinside : (Path.resolve here target).relativeTo? (Path.resolve here project) = some way) :
    IsMarkdownBelow t (Path.resolve here target) file ↔
      IsMarkdownBelow t (Path.resolve here project) file ∧
        (file.relativeTo? (Path.resolve here target)).isSome = true := by
  obtain ⟨-, hdirectory⟩ := Path.relativeTo?_eq_some_iff.1 hinside
  have hup := Path.up_not_mem_resolve here target
  rw [hdirectory, List.mem_append, not_or] at hup
  constructor
  · rintro ⟨⟨rest, hrest, hdown⟩, hfile, hending⟩
    refine ⟨⟨⟨_, Path.relativeTo?_trans hinside hrest, ?_⟩, hfile, hending⟩, ?_⟩
    · simpa using ⟨hup.2, hdown⟩
    · rw [hrest]
      rfl
  · rintro ⟨⟨⟨whole, hwhole, hdown⟩, hfile, hending⟩, hbelow⟩
    obtain ⟨rest, hrest⟩ := Option.isSome_iff_exists.1 hbelow
    refine ⟨⟨rest, hrest, fun hmem => hdown ?_⟩, hfile, hending⟩
    rw [Path.relativeTo?_trans hinside hrest, Option.some_inj] at hwhole
    rw [← hwhole]
    exact List.mem_append_right _ hmem

/-- The files of a directory are its part of the project's files exactly where the patterns say the
same of the ways from the directory and from the root to each of its files. -/
theorem IsListing.eq_filter_iff (h : t.IsProper) {entries : List (String × FileTree)}
    (hleads : t.Leads (Path.resolve here target).parts (.directory entries))
    (hinside : (Path.resolve here target).relativeTo? (Path.resolve here project) = some way)
    {named all : List Path} (hnamed : IsListing t (Path.resolve here target) excluded named)
    (hall : IsListing t (Path.resolve here project) excluded all) :
    named = all.filter (fun file => (file.relativeTo? (Path.resolve here target)).isSome) ↔
      ∀ file, IsMarkdownBelow t (Path.resolve here target) file →
        isExcluded excluded (file.within (Path.resolve here target)) =
          isExcluded excluded (file.within (Path.resolve here project)) := by
  have hmem (file : Path) :
      file ∈ all.filter (fun file => (file.relativeTo? (Path.resolve here target)).isSome) ↔
        IsMarkdownBelow t (Path.resolve here target) file ∧
          isExcluded excluded (file.within (Path.resolve here project)) = false := by
    rw [List.mem_filter, hall.mem_iff, isMarkdownBelow_iff_of_inside hinside, and_right_comm]
  constructor
  · intro heq file hfile
    have hkept := hmem file
    rw [← heq, hnamed.mem_iff, and_congr_right_iff] at hkept
    rw [Bool.eq_iff_iff, ← Bool.not_eq_false, ← Bool.not_eq_false, hkept hfile]
  · intro hagree
    refine Path.eq_of_precedes ?_ hnamed.ordered (hall.ordered.filter _) fun file => ?_
    · exact fun file hfile => IsMarkdownBelow.isPlain h hleads ((hnamed.mem_iff file).1 hfile).1
    · rw [hmem, hnamed.mem_iff]
      exact and_congr_right fun hfile => by rw [hagree file hfile]

/-- Patterns for everything in directories with single names say the same of both ways, unless the
directory is such a directory itself or lies in one. -/
theorem isExcluded_eq_of_names (h : t.IsProper) {entries : List (String × FileTree)}
    (hleads : t.Leads (Path.resolve here target).parts (.directory entries))
    (hinside : (Path.resolve here target).relativeTo? (Path.resolve here project) = some way)
    (hfile : IsMarkdownBelow t (Path.resolve here target) file) {names : List String}
    (hnames : ∀ name ∈ names, IsLiteral name.toList ∧ '/' ∉ name.toList)
    (hway : ∀ name ∈ names, name ∉ way.parts) :
    isExcluded (names.map (· ++ "/**")) (file.within (Path.resolve here target)) =
      isExcluded (names.map (· ++ "/**")) (file.within (Path.resolve here project)) := by
  have hplain := hfile.isPlain h hleads
  obtain ⟨rest, hrest, -⟩ := hfile.below
  have hwhole := Path.relativeTo?_trans hinside hrest
  have hne := hfile.ne_nil_of_relativeTo h hleads hrest
  have hmem (name : String) (hname : name ∈ names) :
      isExcluded [name ++ "/**"] rest.toString = true ↔
        isExcluded [name ++ "/**"] (Path.toString ⟨.relative, way.parts ++ rest.parts⟩) = true := by
    obtain ⟨hliteral, hstroke⟩ := hnames name hname
    rw [isExcluded_iff_of_name hliteral hstroke (Path.relativeTo?_eq_some_iff.1 hrest).1
        (hplain.of_relativeTo hrest),
      isExcluded_iff_of_name hliteral hstroke rfl (hplain.of_relativeTo hwhole),
      List.dropLast_append_of_ne_nil hne, List.mem_append, or_iff_right (hway name hname)]
  rw [Path.within, Path.within, hrest, hwhole, Bool.eq_iff_iff, isExcluded_iff_exists,
    isExcluded_iff_exists]
  simp only [List.mem_map, exists_exists_and_eq_and, Option.getD_some]
  exact exists_congr fun name => and_congr_right (hmem name)

theorem resolveTargets_of_discover {selection : Selection} {files : List Path}
    (hdirectory : t.isDirectory (Path.resolve here target) = .ok true)
    (h : discover t (Path.resolve here target) selection = .ok files) (root : Path) :
    resolveTargets t here root selection [target] = .ok (sortPaths files) := by
  have hfiles : targetFiles t selection here target = .ok files := by
    rw [targetFiles, examining, asking, hdirectory]
    exact h
  rw [resolveTargets]
  simp [bind, Except.bind, pure, Except.pure, hfiles]

/-- A directory of a project that is named as a target stands for its Markdown files, as the project
does for its own, each time without those that patterns exclude by the way from there. So it stands
for its part of the project's files exactly where the patterns say the same of both ways to each of
its files. -/
theorem directory_target_agrees_iff (h : t.IsProper) (excluded : List String)
    (hdirectory : t.isDirectory (Path.resolve here target) = .ok true)
    (hinside : (Path.resolve here target).relativeTo? (Path.resolve here project) = some way) :
    let selection : Selection := ⟨["**/*.md"], excluded⟩
    let root := Path.resolve here project
    let directory := Path.resolve here target
    ∃ named all, resolveTargets t here root selection [target] = .ok named ∧
      resolveTargets t here root selection [] = .ok all ∧
      IsListing t directory excluded named ∧ IsListing t root excluded all ∧
      (named = all.filter (fun file => (file.relativeTo? directory).isSome) ↔
        ∀ file, IsMarkdownBelow t directory file →
          isExcluded excluded (file.within directory) =
            isExcluded excluded (file.within root)) := by
  intro selection root directory
  obtain ⟨entries, hfollow⟩ := FileTree.isDirectory_eq_true_iff.1 hdirectory
  have hleads := (h.follow_eq_ok_iff (Path.up_not_mem_resolve here target)).1 hfollow
  obtain ⟨above, habove⟩ : ∃ above, t.Leads root.parts (.directory above) := by
    obtain ⟨-, hparts⟩ := Path.relativeTo?_eq_some_iff.1 hinside
    rw [hparts] at hleads
    obtain ⟨middle, hroot, hrest⟩ := FileTree.leads_append_iff.1 hleads
    obtain ⟨above, rfl⟩ := hrest.exists_directory
    exact ⟨above, hroot⟩
  obtain ⟨named, hnamed, hlisting⟩ :
      ∃ named, discover t directory selection = .ok named ∧ IsListing t directory excluded named :=
    exists_discover h hleads excluded
  obtain ⟨all, hall, hlistingAll⟩ :
      ∃ all, discover t root selection = .ok all ∧ IsListing t root excluded all :=
    exists_discover h habove excluded
  have htarget := resolveTargets_of_discover hdirectory hnamed root
  rw [sortPaths_of_pairwise hlisting.ordered] at htarget
  exact ⟨named, all, htarget, hall, hlisting, hlistingAll,
    hlisting.eq_filter_iff h hleads hinside hlistingAll⟩

/-- What is excluded from the project by default is also excluded below a directory that is
named. -/
theorem part_listed_with_default_patterns :
    let t : FileTree := .directory [("story", .directory
      [("README.md", .file []), ("part", .directory
        [("one.md", .file []), ("node_modules", .directory [("two.md", .file [])])])])]
    let here : Path := ⟨.absolute, ["story"]⟩
    let part : Path := ⟨.relative, ["part"]⟩
    let selection : Selection := ⟨["**/*.md"], ["node_modules/**", ".git/**"]⟩
    t.IsProper ∧ t.isDirectory (Path.resolve here part) = .ok true ∧
      (Path.resolve here part).relativeTo? (Path.resolve here ⟨.relative, []⟩) = some part ∧
      ∃ named all, resolveTargets t here here selection [part] = .ok named ∧
        resolveTargets t here here selection [] = .ok all ∧
        named = all.filter fun file => (file.relativeTo? (Path.resolve here part)).isSome := by
  intro t here part selection
  have hproper : t.IsProper := by decide
  have hdirectory : t.isDirectory (Path.resolve here part) = .ok true := by decide +kernel
  have hinside : (Path.resolve here part).relativeTo? (Path.resolve here ⟨.relative, []⟩) =
      some part := by
    decide +kernel
  obtain ⟨entries, hfollow⟩ := FileTree.isDirectory_eq_true_iff.1 hdirectory
  have hleads := (hproper.follow_eq_ok_iff (Path.up_not_mem_resolve here part)).1 hfollow
  obtain ⟨named, all, hnamed, hall, -, -, hagree⟩ := directory_target_agrees_iff hproper
    ["node_modules/**", ".git/**"] hdirectory hinside
  refine ⟨hproper, hdirectory, hinside, named, all, hnamed, hall, hagree.2 fun file hfile => ?_⟩
  have hliteral : ∀ name ∈ ["node_modules", ".git"],
      IsLiteral name.toList ∧ '/' ∉ name.toList := by
    decide
  exact isExcluded_eq_of_names hproper hleads hinside hfile hliteral (by decide)

/-- Old drafts are excluded from the project, but not from their own directory; and a pattern for
what begins as their name does excludes them there only. -/
theorem old_drafts_listed_apart :
    let t : FileTree := .directory [("story", .directory
      [("README.md", .file []), ("drafts", .directory [("old.md", .file [])])])]
    let here : Path := ⟨.absolute, ["story"]⟩
    let drafts : Path := ⟨.relative, ["drafts"]⟩
    let files (excluded : List String) (targets : List Path) : Except DiscoveryFault (List Path) :=
      resolveTargets t here here ⟨["**/*.md"], excluded⟩ targets
    let old : Path := ⟨.absolute, ["story", "drafts", "old.md"]⟩
    let readme : Path := ⟨.absolute, ["story", "README.md"]⟩
    files ["drafts/**"] [drafts] = .ok [old] ∧ files ["drafts/**"] [] = .ok [readme] ∧
      files ["o*"] [drafts] = .ok [] ∧ files ["o*"] [] = .ok [readme, old] := by
  intro t here drafts files old readme
  have hall {excluded : List String} {base : Path} {paths : List Path}
      (hselect : select t base excluded "**/*.md" = .ok paths)
      (hordered : paths.Pairwise Path.Precedes) :
      discover t base ⟨["**/*.md"], excluded⟩ = .ok paths := by
    rw [discover_of_select hselect, sortPaths_of_pairwise hordered]
  have hnamed {excluded : List String} {paths : List Path}
      (hselect : select t (Path.resolve here drafts) excluded "**/*.md" = .ok paths)
      (hordered : paths.Pairwise Path.Precedes) : files excluded [drafts] = .ok paths := by
    have hfiles := resolveTargets_of_discover (by decide +kernel) (hall hselect hordered) here
    rwa [sortPaths_of_pairwise hordered] at hfiles
  refine ⟨hnamed ?_ ?_, hall ?_ ?_, hnamed ?_ ?_, hall ?_ ?_⟩ <;> decide +kernel

end Target

end Continuity.Files
