import Continuity.CommandLine.Response
import Continuity.Proofs.Config.Sections
import Continuity.Proofs.Path

/-! # What the command line asks for counts

What the command line asks for is laid over the entries of the configuration file, section by
section. A file that can be used without it can be used with it, and gives the same configuration
but for what was asked for. Only a file that gives the severity from which a run fails under the
name that does not take precedence is refused when the command line gives that severity too.
-/

namespace Continuity

open Schema (Reading Reader Problem Names Step)
open Value (lookup insertEntry mergeEntries mergeOver)

variable {es : List (Value × Value)}

/-! ## Laying a section over others -/

section Laying

open CommandLine (sectionOf)

/-- The entries of the section with a name; where there is none, it has none. -/
def entriesUnder (name : String) (es : List (Value × Value)) : List (Value × Value) :=
  match lookup (.text name) es with
  | some (.map below) => below
  | _ => []

variable {names : Names} {name other : String} {settings : List (Value × Value)}

theorem mergeOver_map (hnew : mergeEntries [] settings = settings) :
    mergeOver (lookup (.text name) es) (.map settings) =
      .map (mergeEntries (entriesUnder name es) settings) := by
  rw [entriesUnder]
  cases lookup (.text name) es with
  | none => exact congrArg Value.map hnew.symm
  | some v =>
      cases v with
      | map below => rfl
      | _ => exact congrArg Value.map hnew.symm

theorem mergeEntries_sectionOf (hnew : mergeEntries [] settings = settings)
    (hne : settings ≠ []) (name : String) (es : List (Value × Value)) :
    mergeEntries es (sectionOf name settings) =
      insertEntry (.text name) (.map (mergeEntries (entriesUnder name es) settings)) es := by
  rw [sectionOf, if_neg (by rwa [List.isEmpty_iff]), Value.mergeEntries_singleton,
    mergeOver_map hnew]

variable {α : Type} {read : Reader α} {absent a a' : α}

/-- Laying a section over others leaves those with other names as they were. -/
theorem fieldOr_sectionOf_of_ne (h : names.preferred other = other) (hne : name ≠ other)
    (hnew : mergeEntries [] settings = settings) (es : List (Value × Value)) :
    names.fieldOr (mergeEntries es (sectionOf name settings)) other read absent =
      names.fieldOr es other read absent := by
  by_cases hsettings : settings = []
  · rw [hsettings]
    rfl
  · rw [mergeEntries_sectionOf hnew hsettings, Names.fieldOr_insertEntry_of_ne h hne]

theorem extras_sectionOf (h : names.Plain) (hname : name ∈ names.fields)
    (hnew : mergeEntries [] settings = settings) (unknown : Schema.Unknown)
    (es : List (Value × Value)) :
    names.extras unknown (mergeEntries es (sectionOf name settings)) = names.extras unknown es := by
  by_cases hsettings : settings = []
  · rw [hsettings]
    rfl
  · rw [mergeEntries_sectionOf hnew hsettings, h.extras_insertEntry hname]

theorem fieldOr_sectionOf_self (h : names.preferred name = name) (hsettings : settings ≠ [])
    (hnew : mergeEntries [] settings = settings) (es : List (Value × Value)) :
    names.fieldOr (mergeEntries es (sectionOf name settings)) name read absent =
      (read (.map (mergeEntries (entriesUnder name es) settings))).inside (.name name) := by
  rw [mergeEntries_sectionOf hnew hsettings, Names.fieldOr_insertEntry_self h]

/-- A section that can be read is read from its entries, also where it is absent. -/
theorem read_entriesUnder (h : names.preferred name = name)
    (hread : names.fieldOr es name read absent = .ok a) (hempty : read (.map []) = .ok absent)
    (hmap : ∀ v, read v = .ok a → ∃ below, v = .map below) :
    read (.map (entriesUnder name es)) = .ok a := by
  rw [Names.fieldOr, Names.find?_of_preferred h] at hread
  rw [entriesUnder]
  cases hfound : lookup (.text name) es with
  | none =>
      rw [hfound] at hread
      exact hempty.trans hread
  | some v =>
      rw [hfound] at hread
      have hv := Reading.inside_eq_ok_iff.1 hread
      obtain ⟨below, rfl⟩ := hmap v hv
      exact hv

/-- A section that can be read after some settings were laid over it counts with them. -/
theorem fieldOr_sectionOf (h : names.preferred name = name)
    (hnew : mergeEntries [] settings = settings)
    (hread : names.fieldOr es name read absent = .ok a)
    (hbelow : read (.map (entriesUnder name es)) = .ok a)
    (hlaid : read (.map (mergeEntries (entriesUnder name es) settings)) = .ok a') :
    names.fieldOr (mergeEntries es (sectionOf name settings)) name read absent = .ok a' := by
  by_cases hsettings : settings = []
  · rw [hsettings] at hlaid ⊢
    exact hread.trans (hbelow.symm.trans hlaid)
  · rw [fieldOr_sectionOf_self h hsettings hnew, hlaid]
    rfl

end Laying

namespace Config

theorem plain_names : names.Plain := by decide +kernel

theorem read_eq_ok_iff {v : Value} {c : Config} : read v = .ok c ↔
    ∃ es, v = .map es ∧
      names.fieldOr es "project" ProjectSettings.read {} = .ok c.project ∧
      names.fieldOr es "validation" readFailOn .error = .ok c.failOn ∧
      names.fieldOr es "validators" (Schema.mapping ValidatorSettings.read) [] =
        .ok c.validators ∧
      names.fieldOr es "output" OutputSettings.read {} = .ok c.output ∧
      names.extras .kept es = .ok c.sections := by
  rw [read, Reading.map_eq_ok_iff]
  constructor
  · rintro ⟨⟨known, more⟩, hrecord, rfl⟩
    obtain ⟨es, hes, hknown, hmore⟩ := Schema.record_eq_ok_iff.1 hrecord
    obtain ⟨_, output, hthree, houtput, rfl⟩ := Reading.seq_eq_ok_iff.1 hknown
    obtain ⟨_, validators, htwo, hvalidators, rfl⟩ := Reading.seq_eq_ok_iff.1 hthree
    obtain ⟨_, failOn, hone, hfailOn, rfl⟩ := Reading.seq_eq_ok_iff.1 htwo
    obtain ⟨project, hproject, rfl⟩ := Reading.map_eq_ok_iff.1 hone
    exact ⟨es, hes, hproject, hfailOn, hvalidators, houtput, hmore⟩
  · rintro ⟨es, hes, hproject, hfailOn, hvalidators, houtput, hmore⟩
    have hknown : readKnown es = .ok { c with sections := [] } := by
      rw [readKnown, hproject, hfailOn, hvalidators, houtput]
      rfl
    exact ⟨(_, c.sections), Schema.record_eq_ok_iff.2 ⟨es, hes, hknown, hmore⟩, rfl⟩

/-! ## What a request lays over a configuration -/

open CommandLine (Request)

/-- The section for validation spells out the name of the severity from which a run fails. -/
def spellsOutFailOn (es : List (Value × Value)) : Bool := spellsOut (entriesUnder "validation" es)

/-- What is wrong with a configuration whose validation section has such a name. -/
def secondNameInSection : Problem :=
  { secondName with place := .name "validation" :: secondName.place }

theorem read_entriesUnder_validation {c : Config} (h : read (.map es) = .ok c) :
    readFailOn (.map (entriesUnder "validation" es)) = .ok c.failOn := by
  obtain ⟨_, heq, -, hfailOn, -⟩ := read_eq_ok_iff.1 h
  obtain rfl := Value.map.inj heq
  exact read_entriesUnder (plain_names _ (by decide)) hfailOn rfl
    fun v hv => (readFailOn_eq_ok_iff.1 hv).imp fun _ => And.left

end Config

namespace CommandLine.Request

variable {here : Path} {r : Request}

/-- The configuration with what the command line asks for. -/
def configured (here : Path) (r : Request) (c : Config) : Config :=
  let root := r.root.elim c.project.root fun root => Path.resolve here (.ofString root)
  { c with
    project := { c.project with root }
    failOn := r.failOn.getD c.failOn
    output := ⟨r.format.getD c.output.format, c.output.color && !r.noColor⟩ }

/-- The root for which the command line asks is a directory, and its names can be written. -/
def RootStands (t : FileTree) (here : Path) (r : Request) : Prop :=
  ∀ root ∈ r.root, let directory := Path.resolve here (.ofString root)
    t.isDirectory directory = .ok true ∧ directory.IsPlain ∧
      ∀ name ∈ directory.parts, '\x00' ∉ name.toList

theorem mergeEntries_validationSettings (r : Request) :
    mergeEntries [] r.validationSettings = r.validationSettings := by
  rw [validationSettings]
  cases r.failOn <;> rfl

theorem mergeEntries_outputSettings (r : Request) :
    mergeEntries [] r.outputSettings = r.outputSettings := by
  rw [outputSettings]
  cases r.format <;> cases r.noColor <;> rfl

theorem mergeEntries_projectSettings (here : Path) (r : Request) :
    mergeEntries [] (r.projectSettings here) = r.projectSettings here := by
  rw [projectSettings]
  cases r.root <;> rfl

theorem read_validationSettings {f : FailOn} (h : Config.readFailOn (.map es) = .ok f)
    (hname : (r.failOn.isSome && Config.spellsOut es) = false) :
    Config.readFailOn (.map (mergeEntries es r.validationSettings)) =
      .ok (r.failOn.getD f) := by
  rw [validationSettings]
  cases hfailOn : r.failOn with
  | none => exact h
  | some g =>
      rw [hfailOn] at hname
      exact Config.readFailOn_insert h hname g

theorem read_validationSettings_of_spellsOut {f : FailOn}
    (h : Config.readFailOn (.map es) = .ok f)
    (hname : (r.failOn.isSome && Config.spellsOut es) = true) : ∃ n,
      Config.readFailOn (.map (mergeEntries es r.validationSettings)) =
        .bad (List.replicate (n + 1) Config.secondName) := by
  rw [validationSettings]
  cases hfailOn : r.failOn with
  | none =>
      rw [hfailOn] at hname
      cases hname
  | some g =>
      rw [hfailOn] at hname
      exact Config.readFailOn_insert_of_spellsOut h hname g

theorem read_outputSettings {o : OutputSettings} (h : OutputSettings.read (.map es) = .ok o) :
    OutputSettings.read (.map (mergeEntries es r.outputSettings)) =
      .ok ⟨r.format.getD o.format, o.color && !r.noColor⟩ := by
  have hformat : OutputSettings.read (.map (mergeEntries es
      (r.format.map fun f => (Value.text "format", Value.text f.name)).toList)) =
      .ok { o with format := r.format.getD o.format } := by
    cases r.format with
    | none => exact h
    | some f => exact OutputSettings.read_insert_format h f
  rw [outputSettings, Value.mergeEntries_append]
  cases r.noColor with
  | false => rwa [Bool.not_false, Bool.and_true]
  | true =>
      rw [Bool.not_true, Bool.and_false]
      exact OutputSettings.read_insert_color hformat false

/-- The root that is laid over the one of a configuration, as it is read back. -/
def writtenRoot (here : Path) (r : Request) (root : Path) : Path :=
  r.root.elim root fun root => .ofString (Path.resolve here (.ofString root)).toString

theorem read_projectSettings {p : ProjectSettings} (h : ProjectSettings.read (.map es) = .ok p) :
    ProjectSettings.read (.map (mergeEntries es (r.projectSettings here))) =
      .ok { p with root := r.writtenRoot here p.root } := by
  rw [writtenRoot, projectSettings]
  cases r.root with
  | none => exact h
  | some root => exact ProjectSettings.read_insert_root h _

theorem mergeEntries_overrides (here : Path) (r : Request) (es : List (Value × Value)) :
    mergeEntries es (r.overrides here) =
      mergeEntries (mergeEntries (mergeEntries es (sectionOf "validation" r.validationSettings))
        (sectionOf "output" r.outputSettings)) (sectionOf "project" (r.projectSettings here)) := by
  rw [overrides, Value.mergeEntries_append, Value.mergeEntries_append]

/-- The sections other than the one for validation, and what no section is, once all that the
command line asks for is laid over the entries. -/
theorem fields_overrides (here : Path) (r : Request) {c : Config}
    (h : Config.read (.map es) = .ok c) :
    let laid := mergeEntries es (r.overrides here)
    Config.names.fieldOr laid "project" ProjectSettings.read {} =
        .ok { c.project with root := r.writtenRoot here c.project.root } ∧
      Config.names.fieldOr laid "validators" (Schema.mapping ValidatorSettings.read) [] =
        .ok c.validators ∧
      Config.names.fieldOr laid "output" OutputSettings.read {} = .ok (r.configured here c).output ∧
      Config.names.extras .kept laid = .ok c.sections := by
  obtain ⟨_, heq, hproject, -, hvalidators, houtput, hmore⟩ := Config.read_eq_ok_iff.1 h
  obtain rfl := Value.map.inj heq
  have hplain := Config.plain_names
  have hvalidation' := mergeEntries_validationSettings r
  have houtput' := mergeEntries_outputSettings r
  have hproject' := mergeEntries_projectSettings here r
  rw [mergeEntries_overrides]
  refine ⟨?project, ?validators, ?output, ?extras⟩
  case project =>
    have hbefore : Config.names.fieldOr (mergeEntries (mergeEntries es
        (sectionOf "validation" r.validationSettings)) (sectionOf "output" r.outputSettings))
        "project" ProjectSettings.read {} = .ok c.project := by
      rwa [fieldOr_sectionOf_of_ne (hplain _ (by decide)) (by decide) houtput',
        fieldOr_sectionOf_of_ne (hplain _ (by decide)) (by decide) hvalidation']
    have hbelow := read_entriesUnder (hplain _ (by decide)) hbefore rfl
      fun v hv => (ProjectSettings.read_eq_ok_iff.1 hv).imp fun _ => And.left
    exact fieldOr_sectionOf (hplain _ (by decide)) hproject' hbefore hbelow
      (read_projectSettings hbelow)
  case validators =>
    rwa [fieldOr_sectionOf_of_ne (hplain _ (by decide)) (by decide) hproject',
      fieldOr_sectionOf_of_ne (hplain _ (by decide)) (by decide) houtput',
      fieldOr_sectionOf_of_ne (hplain _ (by decide)) (by decide) hvalidation']
  case output =>
    rw [fieldOr_sectionOf_of_ne (hplain _ (by decide)) (by decide) hproject']
    have hbefore : Config.names.fieldOr (mergeEntries es
        (sectionOf "validation" r.validationSettings)) "output" OutputSettings.read {} =
        .ok c.output := by
      rwa [fieldOr_sectionOf_of_ne (hplain _ (by decide)) (by decide) hvalidation']
    have hbelow := read_entriesUnder (hplain _ (by decide)) hbefore rfl
      fun v hv => (OutputSettings.read_eq_ok_iff.1 hv).imp fun _ => And.left
    exact fieldOr_sectionOf (hplain _ (by decide)) houtput' hbefore hbelow
      (read_outputSettings hbelow)
  case extras =>
    rwa [extras_sectionOf hplain (by decide) hproject', extras_sectionOf hplain (by decide) houtput',
      extras_sectionOf hplain (by decide) hvalidation']

/-- Of all that is laid over the entries, only one section concerns validation. -/
theorem fieldOr_overrides_validation (here : Path) (r : Request) (es : List (Value × Value)) :
    Config.names.fieldOr (mergeEntries es (r.overrides here)) "validation" Config.readFailOn
        .error =
      Config.names.fieldOr (mergeEntries es (sectionOf "validation" r.validationSettings))
        "validation" Config.readFailOn .error := by
  rw [mergeEntries_overrides,
    fieldOr_sectionOf_of_ne (Config.plain_names _ (by decide)) (by decide)
      (mergeEntries_projectSettings here r),
    fieldOr_sectionOf_of_ne (Config.plain_names _ (by decide)) (by decide)
      (mergeEntries_outputSettings r)]

/-- What is read once all that the command line asks for is laid over the entries. -/
theorem read_overrides (here : Path) {c : Config} (h : Config.read (.map es) = .ok c)
    (hname : (r.failOn.isSome && Config.spellsOutFailOn es) = false) :
    Config.read (.map (mergeEntries es (r.overrides here))) = .ok { r.configured here c with
      project := { c.project with root := r.writtenRoot here c.project.root } } := by
  obtain ⟨hproject, hvalidators, houtput, hmore⟩ := fields_overrides here r h
  refine Config.read_eq_ok_iff.2 ⟨_, rfl, hproject, ?_, hvalidators, houtput, hmore⟩
  obtain ⟨_, heq, -, hfailOn, -⟩ := Config.read_eq_ok_iff.1 h
  obtain rfl := Value.map.inj heq
  have hbelow := Config.read_entriesUnder_validation h
  rw [fieldOr_overrides_validation]
  exact fieldOr_sectionOf (Config.plain_names _ (by decide)) (mergeEntries_validationSettings r)
    hfailOn hbelow (read_validationSettings hbelow hname)

/-- What is wrong once the severity from which a run fails has two names. -/
theorem read_overrides_of_spellsOut (here : Path) {c : Config} (h : Config.read (.map es) = .ok c)
    (hname : (r.failOn.isSome && Config.spellsOutFailOn es) = true) : ∃ n,
    Config.read (.map (mergeEntries es (r.overrides here))) =
      .bad (List.replicate (n + 1) Config.secondNameInSection) := by
  obtain ⟨hproject, hvalidators, houtput, hmore⟩ := fields_overrides here r h
  have hbelow := Config.read_entriesUnder_validation h
  obtain ⟨n, hn⟩ := read_validationSettings_of_spellsOut hbelow hname
  have hne : r.validationSettings ≠ [] := by
    rw [Bool.and_eq_true] at hname
    obtain ⟨f, hf⟩ := Option.isSome_iff_exists.1 hname.1
    rw [validationSettings, hf]
    exact List.cons_ne_nil _ _
  have hvalidation := fieldOr_overrides_validation here r es
  rw [fieldOr_sectionOf_self (Config.plain_names _ (by decide)) hne
    (mergeEntries_validationSettings r), hn, Reading.inside_bad, List.map_replicate] at hvalidation
  refine ⟨n, ?_⟩
  rw [Config.read, Schema.record, Config.readKnown, hproject, hvalidation, hvalidators, houtput,
    hmore]
  simp only [Functor.map, Seq.seq, Reading.apply, Reading.problems, List.append_nil,
    List.nil_append]
  rfl

end CommandLine.Request

/-! ## Loading the file -/

namespace Config

variable {t : FileTree} {base here start start' file : Path} {path path' : Option Path}

theorem rooted_eq_ok_iff {c c' : Config} : c.rooted t base = .ok c' ↔ c.badSection? = none ∧
    ∃ root, resolveRoot t base c.project.root = .ok root ∧
      { c with project := { c.project with root } } = c' := by
  rw [rooted]
  cases c.badSection? with
  | some name => exact ⟨nofun, fun h => nomatch h.1⟩
  | none =>
      cases resolveRoot t base c.project.root with
      | error e => exact ⟨nofun, fun ⟨_, _, h, _⟩ => nomatch h⟩
      | ok root =>
          refine ⟨fun h => ⟨rfl, root, rfl, Except.ok.inj h⟩, ?_⟩
          rintro ⟨-, _, hroot, rfl⟩
          obtain rfl := Except.ok.inj hroot
          rfl

theorem ofEntries_eq_ok_iff {source : Option Path} {c : Config} :
    ofEntries t base source es = .ok c ↔
      ∃ raw, read (.map es) = .ok raw ∧ raw.rooted t base = .ok c := by
  rw [ofEntries]
  cases read (.map es) with
  | ok raw => exact ⟨fun h => ⟨raw, rfl, h⟩, fun ⟨_, hraw, h⟩ => Reading.ok.inj hraw ▸ h⟩
  | bad problems => exact ⟨nofun, fun ⟨_, hraw, _⟩ => nomatch hraw⟩

theorem load_of_file (hfile : sourceFile t here start path = .ok (some file))
    (hentries : entriesOfFile t file = .ok es) (overrides : List (Value × Value)) :
    load t here start path overrides =
      ofEntries t file.parent (some file) (mergeEntries es overrides) := by
  rw [load, hfile]
  change (entriesOfFile t file >>= _) = _
  rw [hentries]
  rfl

theorem resolveRoot_of_directory {p : Path}
    (hdirectory : t.isDirectory (Path.resolve base p) = .ok true)
    (hnull : ∀ name ∈ p.parts, '\x00' ∉ name.toList) :
    resolveRoot t base p = .ok (Path.resolve base p) := by
  have hany : (p.parts.any fun name => name.toList.contains '\x00') = false := by
    simpa using hnull
  simp only [resolveRoot, hany, hdirectory]
  rfl

/-- A file that can be used gives, with what the command line asks for, the same configuration but
for that. Only where the file gives the severity from which a run fails under the name that does not
take precedence, and the command line gives it too, the file is refused for that name. -/
theorem load_overrides {r : CommandLine.Request} {c : Config}
    (hfile : sourceFile t here start path = .ok (some file))
    (hfile' : sourceFile t here start' path' = .ok (some file))
    (hentries : entriesOfFile t file = .ok es) (hload : load t here start path [] = .ok c)
    (hroot : r.RootStands t here) :
    ((r.failOn.isSome && spellsOutFailOn es) = false →
      load t here start' path' (r.overrides here) = .ok (r.configured here c)) ∧
    ((r.failOn.isSome && spellsOutFailOn es) = true → ∃ n,
      load t here start' path' (r.overrides here) =
        .error (.invalid (some file) (List.replicate (n + 1) secondNameInSection))) := by
  rw [load_of_file hfile hentries, mergeEntries] at hload
  obtain ⟨raw, hraw, hrooted⟩ := ofEntries_eq_ok_iff.1 hload
  rw [load_of_file hfile' hentries]
  constructor
  · intro hname
    refine ofEntries_eq_ok_iff.2 ⟨_, CommandLine.Request.read_overrides here hraw hname, ?_⟩
    obtain ⟨hsections, root, hresolve, rfl⟩ := rooted_eq_ok_iff.1 hrooted
    refine rooted_eq_ok_iff.2 ⟨hsections, ?_⟩
    cases hroot' : r.root with
    | none =>
        refine ⟨root, ?_, ?_⟩
        · rw [CommandLine.Request.writtenRoot, hroot']
          exact hresolve
        · simp only [CommandLine.Request.configured, hroot', Option.elim]
    | some given =>
        obtain ⟨hdirectory, hplain, hnull⟩ := hroot given hroot'
        refine ⟨Path.resolve here (.ofString given), ?_, ?_⟩
        · -- The root was written out and read back, and it is absolute already.
          rw [CommandLine.Request.writtenRoot, hroot', Option.elim, Path.ofString_toString hplain,
            resolveRoot_of_directory ?_ hnull, Path.resolve_resolve]
          rwa [Path.resolve_resolve]
        · simp only [CommandLine.Request.configured, hroot', Option.elim]
  · intro hname
    obtain ⟨n, hn⟩ := CommandLine.Request.read_overrides_of_spellsOut here hraw hname
    refine ⟨n, ?_⟩
    rw [ofEntries, hn]

/-- A directory with a configuration file and one more directory. -/
def storyTree (content : String) : FileTree :=
  .directory [("story", .directory [(".story-linter.yml", .file content.toUTF8.toList),
    ("drafts", .directory [])])]

theorem camel_case_overridden :
    let t := storyTree "validation:\n  failOn: warning\noutput: \x7bformat: json\x7d\n"
    let here : Path := ⟨.absolute, ["story"]⟩
    let r : CommandLine.Request :=
      { format := some .html, failOn := some .none, root := some "drafts", noColor := true }
    ∃ c, load t here here none [] = .ok c ∧
      load t here here none (r.overrides here) = .ok (r.configured here c) := by
  intro t here r
  have hfile : sourceFile t here here none =
      .ok (some (.ofString "/story/.story-linter.yml")) := rfl
  have hread : ((entriesOfFile t (.ofString "/story/.story-linter.yml")).toOption.any
      (!spellsOutFailOn ·)) = true := by decide +kernel
  have hloads : (load t here here none []).isOk = true := by decide +kernel
  have hroot : r.RootStands t here := by
    rintro root ⟨⟩
    exact ⟨by decide +kernel, by decide +kernel, by decide +kernel⟩
  cases hentries : entriesOfFile t (.ofString "/story/.story-linter.yml") with
  | error e =>
      rw [hentries] at hread
      cases hread
  | ok es =>
      rw [hentries] at hread
      cases hload : load t here here none [] with
      | error e =>
          rw [hload] at hloads
          cases hloads
      | ok c =>
          have hname : spellsOutFailOn es = false := by simpa [Except.toOption] using hread
          exact ⟨c, rfl, (load_overrides hfile hfile hentries hload hroot).1 hname⟩

/-- The severity from which a run fails cannot be given on the command line where the file gives it
under the other name. -/
theorem snake_case_refused :
    let t := storyTree "validation:\n  fail_on: warning\n"
    let here : Path := ⟨.absolute, ["story"]⟩
    let r : CommandLine.Request := { failOn := some .error }
    (∃ c, load t here here none [] = .ok c) ∧
      ¬∃ c, load t here here none (r.overrides here) = .ok c := by
  intro t here r
  have hloads : (load t here here none []).isOk = true := by decide +kernel
  have hrefused : (load t here here none (r.overrides here)).isOk = false := by decide +kernel
  constructor
  · cases hload : load t here here none [] with
    | error e =>
        rw [hload] at hloads
        cases hloads
    | ok c => exact ⟨c, rfl⟩
  · rintro ⟨c, hload⟩
    rw [hload] at hrefused
    cases hrefused

end Config

end Continuity
