import Continuity.Config.File
import Continuity.Proofs.Config.Overrides
import Continuity.Proofs.Data.Lists

/-! # What comes of loading a configuration

The root of a configuration that is loaded is a directory. Most of what may be wrong with a
configuration is told as a fault of it. What is wrong with the encoding of the file, with a scalar
in it or with a name that the file system refuses is not: it is passed on as it comes.
-/

namespace Continuity

/-! ## Names that are too long -/

namespace FileTree

variable {above : List FileTree} {t : FileTree} {names : List String} {path : Path}
  {fault : FileFault}

/-- On the way of a path, a name that is too long is looked for in a directory. -/
def Overlong (t : FileTree) (path : Path) : Prop :=
  ∃ front name back entries, path.parts = front ++ name :: back ∧
    t.follow ⟨path.root, front⟩ = .ok (.directory entries) ∧ name ≠ ".." ∧
      maxNameBytes < name.utf8ByteSize

/-- Names can only fail to be known where one of them is too long, and all before it lead to a
directory. -/
theorem find_eq_nameTooLong_iff :
    find above t names = .error .nameTooLong ↔
      ∃ front name back entries, names = front ++ name :: back ∧
        find above t front = .ok (.directory entries) ∧ name ≠ ".." ∧
          maxNameBytes < name.utf8ByteSize := by
  induction names generalizing above t with
  | nil => simp [find]
  | cons name rest ih =>
      have hfront : (∃ front name' back entries, name :: rest = front ++ name' :: back ∧
          find above t front = .ok (.directory entries) ∧ name' ≠ ".." ∧
            maxNameBytes < name'.utf8ByteSize) ↔
          (∃ entries, t = .directory entries) ∧ name ≠ ".." ∧ maxNameBytes < name.utf8ByteSize ∨
            ∃ front name' back entries, rest = front ++ name' :: back ∧
              find above t (name :: front) = .ok (.directory entries) ∧ name' ≠ ".." ∧
                maxNameBytes < name'.utf8ByteSize := by
        constructor
        · rintro ⟨front, name', back, entries, hsplit, hfound, hname⟩
          cases front with
          | nil =>
              obtain ⟨rfl, rfl⟩ := List.cons.inj hsplit
              rw [find] at hfound
              exact .inl ⟨⟨entries, Except.ok.inj hfound⟩, hname⟩
          | cons first front =>
              obtain ⟨rfl, rfl⟩ := List.cons.inj hsplit
              exact .inr ⟨front, name', back, entries, rfl, hfound, hname⟩
        · rintro (⟨⟨entries, rfl⟩, hname⟩ | ⟨front, name', back, entries, rfl, hfound, hname⟩)
          · exact ⟨[], name, rest, entries, rfl, by rw [find], hname⟩
          · exact ⟨name :: front, name', back, entries, rfl, hfound, hname⟩
      rw [hfront]
      cases t with
      | file content => simp [find]
      | directory entries =>
          simp only [find]
          by_cases hup : name = ".."
          · subst hup
            cases above <;> simp [ih]
          · by_cases hlong : maxNameBytes < name.utf8ByteSize
            · simp [hup, hlong]
            · cases entries.lookup name <;> simp [hup, hlong, ih]

/-- Only a name that is too long makes the question fail whether a path is that of a directory. -/
theorem isDirectory_eq_error_iff :
    t.isDirectory path = .error fault ↔ fault = .nameTooLong ∧ t.Overlong path := by
  have hoverlong : t.Overlong path ↔ t.follow path = .error .nameTooLong :=
    find_eq_nameTooLong_iff.symm
  rw [hoverlong, isDirectory]
  cases t.follow path with
  | ok found => cases found <;> simp
  | error e => cases e <;> simp [eq_comm]

end FileTree

namespace Config

open Files (PathFault asking)

variable {t : FileTree} {here start base file : Path} {path : Option Path}
  {overrides : List (Value × Value)} {fault : ConfigFault} {c : Config}

/-! ## Faults that are passed on -/

/-- A configuration is read from the file, if there is one, and from what goes over it; its root is
to be taken from a directory. -/
structure Gives (t : FileTree) (here start : Path) (path : Option Path)
    (overrides : List (Value × Value)) (c : Config) (base : Path) : Prop where
  read : ∃ source es, sourceFile t here start path = .ok source ∧
    source.elim (.ok []) (entriesOfFile t) = .ok es ∧
      read (.map (Value.mergeEntries es overrides)) = .ok c ∧ base = source.elim start Path.parent
  sections : c.badSection? = none

/-- A fault is found in loading a configuration that is not told as a fault of it. -/
inductive PassesOn (t : FileTree) (here start : Path) (path : Option Path)
    (overrides : List (Value × Value)) : ConfigFault → Prop
  /-- The question for the file fails. -/
  | source {fault : PathFault}
    (source : sourceFile t here start path = .error (.inaccessible fault)) :
    PassesOn t here start path overrides (.inaccessible fault)
  /-- The bytes of the file are no text. -/
  | encoding {file : Path} {bytes : List UInt8} {error : Text.Utf8Error}
    (source : sourceFile t here start path = .ok (some file)) (content : t.read file = .ok bytes)
    (undecodable : Text.decodeUtf8 bytes = .error error) :
    PassesOn t here start path overrides (.encoding error)
  /-- A scalar of a file with YAML cannot be constructed. -/
  | scalar {file : Path} {bytes : List UInt8} {text : List Char} {fault : Yaml.ScalarFault}
    (source : sourceFile t here start path = .ok (some file)) (content : t.read file = .ok bytes)
    (decoded : Text.decodeUtf8 bytes = .ok text)
    (suffix : file.suffix = ".yml" ∨ file.suffix = ".yaml")
    (scalar : Yaml.read (Text.unifyNewlines text) = .error (.scalar fault)) :
    PassesOn t here start path overrides (.scalar fault)
  /-- The root has a character that no path can have. -/
  | nullCharacter {c : Config} {base : Path} (gives : Gives t here start path overrides c base)
    (null : ∃ name ∈ c.project.root.parts, '\x00' ∈ name.toList) :
    PassesOn t here start path overrides .nullCharacter
  /-- The root has a name that is too long. -/
  | overlong {c : Config} {base : Path} (gives : Gives t here start path overrides c base)
    (plain : ∀ name ∈ c.project.root.parts, '\x00' ∉ name.toList)
    (overlong : t.Overlong (Path.resolve base c.project.root)) :
    PassesOn t here start path overrides
      (.inaccessible ⟨Path.resolve base c.project.root, .nameTooLong⟩)

/-- What is passed on goes by the name of another failure. -/
theorem kind_eq_iff : fault.toFailure.kind = "config-error" ↔
    (∀ error, fault ≠ .encoding error) ∧ (∀ found, fault ≠ .scalar found) ∧
      (∀ found, fault ≠ .inaccessible found) ∧ fault ≠ .nullCharacter := by
  cases fault with
  | scalar found =>
      cases found <;> simp [ConfigFault.toFailure, Yaml.ScalarFault.sort, Failure.unforeseen]
  | _ => simp [ConfigFault.toFailure, Failure.configuration, Failure.unforeseen]

theorem sourceFile_eq_error_iff :
    sourceFile t here start path = .error fault ∧ fault.toFailure.kind ≠ "config-error" ↔
      ∃ found, sourceFile t here start path = .error (.inaccessible found) ∧
        fault = .inaccessible found := by
  constructor
  · rintro ⟨hsource, hkind⟩
    have hcases : (∃ path, fault = .notFound path) ∨ ∃ found, fault = .inaccessible found := by
      unfold sourceFile at hsource
      cases path with
      | none =>
          obtain ⟨found, -, rfl⟩ := mapError_eq_error_iff.1 hsource
          exact .inr ⟨found, rfl⟩
      | some path =>
          rcases bind_eq_error_iff.1 hsource with hsource | ⟨isDirectory, -, hsource⟩
          · obtain ⟨found, -, rfl⟩ := mapError_eq_error_iff.1 hsource
            exact .inr ⟨found, rfl⟩
          · split at hsource
            · obtain ⟨found, -, rfl⟩ := mapError_eq_error_iff.1 hsource
              exact .inr ⟨found, rfl⟩
            · rcases bind_eq_error_iff.1 hsource with hsource | ⟨isFile, -, hsource⟩
              · obtain ⟨found, -, rfl⟩ := mapError_eq_error_iff.1 hsource
                exact .inr ⟨found, rfl⟩
              · split at hsource
                · cases hsource
                · cases hsource
                  exact .inl ⟨path, rfl⟩
    rcases hcases with ⟨path, rfl⟩ | ⟨found, rfl⟩
    · exact absurd rfl hkind
    · exact ⟨found, hsource, rfl⟩
  · rintro ⟨found, hsource, rfl⟩
    exact ⟨hsource, by rw [ne_eq, kind_eq_iff]; simp⟩

/-- The value in a file with a text, by the ending of its name. -/
def valueIn (path : Path) (text : List Char) : Except ConfigFault Value :=
  if path.suffix == ".json" then readJson path text
  else if path.suffix == ".yml" || path.suffix == ".yaml" then readYaml path text
  else .error (.unsupported path)

/-- The entries of the value in a file. -/
def entriesIn (path : Path) : Value → Except ConfigFault (List (Value × Value))
  | .null => .ok []
  | .map entries => .ok entries
  | _ => .error (.notMapping path)

theorem kind_of_entriesIn {v : Value} (h : entriesIn file v = .error fault) :
    fault.toFailure.kind = "config-error" := by
  cases v <;> cases h <;> rfl

theorem entriesOfFile_of_unreadable {e : FileFault} (hread : t.read file = .error e) :
    entriesOfFile t file = .error (.unreadable ⟨file, e⟩) := by
  rw [entriesOfFile, hread]
  rfl

theorem entriesOfFile_of_undecodable {bytes : List UInt8} {error : Text.Utf8Error}
    (hread : t.read file = .ok bytes) (hdecode : Text.decodeUtf8 bytes = .error error) :
    entriesOfFile t file = .error (.encoding error) := by
  rw [entriesOfFile, hread]
  change ((Text.decodeUtf8 bytes).mapError _ >>= _) = _
  rw [hdecode]
  rfl

theorem entriesOfFile_of_text {bytes : List UInt8} {text : List Char}
    (hread : t.read file = .ok bytes) (hdecode : Text.decodeUtf8 bytes = .ok text) :
    entriesOfFile t file = valueIn file (Text.unifyNewlines text) >>= entriesIn file := by
  have hentries : (fun v : Value => match v with
      | .null => pure []
      | .map entries => pure entries
      | _ => throw (.notMapping file)) = entriesIn file := by
    funext v
    cases v <;> rfl
  rw [entriesOfFile, hread]
  change ((Text.decodeUtf8 bytes).mapError _ >>= _) = _
  rw [hdecode, valueIn, ← hentries]
  by_cases hjson : (file.suffix == ".json") = true
  · simp only [if_pos hjson]
    rfl
  · by_cases hyaml : (file.suffix == ".yml" || file.suffix == ".yaml") = true
    · simp only [if_neg hjson, if_pos hyaml]
      rfl
    · simp only [if_neg hjson, if_neg hyaml]
      rfl

/-- What is in a text is passed on where a scalar cannot be constructed. -/
theorem valueIn_eq_error_iff (file : Path) (text : List Char) (fault : ConfigFault) :
    valueIn file text = .error fault ∧ fault.toFailure.kind ≠ "config-error" ↔
      (file.suffix = ".yml" ∨ file.suffix = ".yaml") ∧
        ∃ found, Yaml.read text = .error (.scalar found) ∧ fault = .scalar found := by
  constructor
  · rintro ⟨herror, hkind⟩
    unfold valueIn at herror
    split at herror
    next =>
      unfold readJson at herror
      split at herror
      · cases herror
      · split at herror
        · cases herror
        · cases herror
          exact absurd rfl hkind
    next =>
      split at herror
      next hsuffix =>
        unfold readYaml at herror
        split at herror
        next => cases herror
        next =>
          cases herror
          exact absurd rfl hkind
        next found hyaml =>
          cases herror
          exact ⟨by simpa using hsuffix, found, hyaml, rfl⟩
      next =>
        cases herror
        exact absurd rfl hkind
  · rintro ⟨hsuffix, found, hyaml, rfl⟩
    have hjson : ¬(file.suffix == ".json") = true := by
      rcases hsuffix with hsuffix | hsuffix <;> simp [hsuffix]
    refine ⟨?_, by rw [ne_eq, kind_eq_iff]; simp⟩
    rw [valueIn, if_neg hjson, if_pos (by simpa using hsuffix), readYaml, hyaml]

/-- Of what may be wrong with a file, its encoding and its scalars are passed on. -/
theorem entriesOfFile_eq_error_iff :
    entriesOfFile t file = .error fault ∧ fault.toFailure.kind ≠ "config-error" ↔
      ∃ bytes, t.read file = .ok bytes ∧
        ((∃ error, Text.decodeUtf8 bytes = .error error ∧ fault = .encoding error) ∨
          ∃ text, Text.decodeUtf8 bytes = .ok text ∧
            (file.suffix = ".yml" ∨ file.suffix = ".yaml") ∧
            ∃ found, Yaml.read (Text.unifyNewlines text) = .error (.scalar found) ∧
              fault = .scalar found) := by
  cases hread : t.read file with
  | error e =>
      rw [entriesOfFile_of_unreadable hread]
      refine iff_of_false ?_ (by simp)
      rintro ⟨⟨⟩, hkind⟩
      exact hkind rfl
  | ok bytes =>
      cases hdecode : Text.decodeUtf8 bytes with
      | error error =>
          have hkind : (ConfigFault.encoding error).toFailure.kind ≠ "config-error" := by
            rw [ne_eq, kind_eq_iff]
            simp
          rw [entriesOfFile_of_undecodable hread hdecode]
          constructor
          · rintro ⟨⟨⟩, -⟩
            exact ⟨bytes, rfl, .inl ⟨error, hdecode, rfl⟩⟩
          · rintro ⟨_, ⟨⟩, ⟨_, herror, rfl⟩ | ⟨_, htext, -⟩⟩
            · obtain rfl := Except.error.inj (hdecode.symm.trans herror)
              exact ⟨rfl, hkind⟩
            · cases hdecode.symm.trans htext
      | ok text =>
          have hvalue := valueIn_eq_error_iff file (Text.unifyNewlines text) fault
          rw [entriesOfFile_of_text hread hdecode, bind_eq_error_iff]
          constructor
          · rintro ⟨herror | ⟨v, -, herror⟩, hkind⟩
            · exact ⟨bytes, rfl, .inr ⟨text, hdecode, hvalue.1 ⟨herror, hkind⟩⟩⟩
            · exact absurd (kind_of_entriesIn herror) hkind
          · rintro ⟨_, ⟨⟩, ⟨_, herror, -⟩ | ⟨_, htext, hfault⟩⟩
            · cases hdecode.symm.trans herror
            · obtain rfl := Except.ok.inj (hdecode.symm.trans htext)
              exact (hvalue.2 hfault).imp_left .inl

/-- Where a root has no null character, it is resolved to a directory. -/
theorem resolveRoot_eq {root : Path} (hplain : ∀ name ∈ root.parts, '\x00' ∉ name.toList) :
    resolveRoot t base root =
      (asking (Path.resolve base root) (t.isDirectory (Path.resolve base root))).mapError
        .inaccessible >>= fun found =>
          if found then .ok (Path.resolve base root)
          else .error (.rootNotDirectory (Path.resolve base root)) := by
  have hany : (root.parts.any fun name => name.toList.contains '\x00') = false := by
    simpa using hplain
  simp only [resolveRoot, hany]
  rfl

theorem resolveRoot_of_null {root : Path} (hnull : ∃ name ∈ root.parts, '\x00' ∈ name.toList) :
    resolveRoot t base root = .error .nullCharacter := by
  have hany : (root.parts.any fun name => name.toList.contains '\x00') = true := by
    simpa using hnull
  simp only [resolveRoot, hany, if_true]
  rfl

/-- Of what may be wrong with a root, what the file system refuses is passed on. -/
theorem resolveRoot_eq_error_iff {root : Path} :
    resolveRoot t base root = .error fault ∧ fault.toFailure.kind ≠ "config-error" ↔
      ((∃ name ∈ root.parts, '\x00' ∈ name.toList) ∧ fault = .nullCharacter) ∨
      ((∀ name ∈ root.parts, '\x00' ∉ name.toList) ∧ t.Overlong (Path.resolve base root) ∧
        fault = .inaccessible ⟨Path.resolve base root, .nameTooLong⟩) := by
  by_cases hnull : ∃ name ∈ root.parts, '\x00' ∈ name.toList
  · rw [resolveRoot_of_null hnull]
    constructor
    · rintro ⟨hfault, -⟩
      cases hfault
      exact .inl ⟨hnull, rfl⟩
    · rintro (⟨-, rfl⟩ | ⟨hplain, -⟩)
      · exact ⟨rfl, by rw [ne_eq, kind_eq_iff]; simp⟩
      · obtain ⟨name, hname, hmem⟩ := hnull
        exact absurd hmem (hplain name hname)
  · have hplain : ∀ name ∈ root.parts, '\x00' ∉ name.toList := by simpa using hnull
    rw [resolveRoot_eq hplain, bind_eq_error_iff]
    constructor
    · rintro ⟨herror | ⟨found, -, herror⟩, hkind⟩
      · obtain ⟨found, hasking, rfl⟩ := mapError_eq_error_iff.1 herror
        rw [asking, mapError_eq_error_iff] at hasking
        obtain ⟨e, hdirectory, rfl⟩ := hasking
        obtain ⟨rfl, hoverlong⟩ := FileTree.isDirectory_eq_error_iff.1 hdirectory
        exact .inr ⟨hplain, hoverlong, rfl⟩
      · split at herror
        · cases herror
        · cases herror
          exact absurd rfl hkind
    · rintro (⟨hnull', -⟩ | ⟨-, hoverlong, rfl⟩)
      · exact absurd hnull' hnull
      · refine ⟨.inl ?_, by rw [ne_eq, kind_eq_iff]; simp⟩
        rw [FileTree.isDirectory_eq_error_iff.2 ⟨rfl, hoverlong⟩]
        rfl

/-- A resolved root is an absolute directory. -/
theorem resolveRoot_eq_ok {root directory : Path} (h : resolveRoot t base root = .ok directory) :
    directory.isAbsolute = true ∧ t.isDirectory directory = .ok true := by
  by_cases hnull : ∃ name ∈ root.parts, '\x00' ∈ name.toList
  · rw [resolveRoot_of_null hnull] at h
    cases h
  · rw [resolveRoot_eq (by simpa using hnull)] at h
    obtain ⟨found, hasking, h⟩ := bind_eq_ok_iff.1 h
    have hdirectory := mapError_eq_ok_iff.1 (mapError_eq_ok_iff.1 hasking)
    split at h
    next hfound =>
      cases h
      exact ⟨rfl, hfound ▸ hdirectory⟩
    next => cases h

theorem rooted_eq_error_iff :
    c.rooted t base = .error fault ∧ fault.toFailure.kind ≠ "config-error" ↔
      c.badSection? = none ∧ resolveRoot t base c.project.root = .error fault ∧
        fault.toFailure.kind ≠ "config-error" := by
  rw [rooted]
  cases c.badSection? with
  | some name =>
      refine iff_of_false ?_ (by simp)
      rintro ⟨hfault, hkind⟩
      cases hfault
      exact hkind rfl
  | none =>
      rw [and_iff_right rfl]
      refine and_congr_left fun _ => ?_
      change resolveRoot t base c.project.root >>= _ = _ ↔ _
      rw [bind_eq_error_iff]
      refine or_iff_left ?_
      rintro ⟨_, -, herror⟩
      cases herror

theorem ofEntries_eq_error_iff {source : Option Path} {es : List (Value × Value)} :
    ofEntries t base source es = .error fault ∧ fault.toFailure.kind ≠ "config-error" ↔
      ∃ raw, read (.map es) = .ok raw ∧ raw.rooted t base = .error fault ∧
        fault.toFailure.kind ≠ "config-error" := by
  rw [ofEntries]
  cases read (.map es) with
  | ok raw => simp
  | bad problems =>
      refine iff_of_false ?_ (by simp)
      rintro ⟨hfault, hkind⟩
      cases hfault
      exact hkind rfl

/-- Loading goes from the file to its entries, and from them and what goes over them to the
configuration. -/
theorem load_eq (t : FileTree) (here start : Path) (path : Option Path)
    (overrides : List (Value × Value)) :
    load t here start path overrides =
      sourceFile t here start path >>= fun source =>
        source.elim (.ok []) (entriesOfFile t) >>= fun es =>
          ofEntries t (source.elim start Path.parent) source (Value.mergeEntries es overrides) := by
  rw [load]
  congr 1
  funext source
  cases source <;> rfl

theorem load_of_source {source : Option Path}
    (h : sourceFile t here start path = .ok source) :
    load t here start path overrides = source.elim (.ok []) (entriesOfFile t) >>= fun es =>
      ofEntries t (source.elim start Path.parent) source (Value.mergeEntries es overrides) := by
  rw [load_eq, h]
  rfl

/-- A fault of the root of a configuration that is read is one of loading it. -/
theorem Gives.load_eq_error {raw : Config} (h : Gives t here start path overrides raw base)
    (herror : resolveRoot t base raw.project.root = .error fault) :
    load t here start path overrides = .error fault := by
  obtain ⟨⟨source, es, hsource, hes, hraw, rfl⟩, hsections⟩ := h
  have hrooted : raw.rooted t (source.elim start Path.parent) = .error fault := by
    rw [rooted, hsections]
    exact bind_eq_error_iff.2 (.inl herror)
  rw [load_of_source hsource]
  refine bind_eq_error_iff.2 (.inr ⟨es, hes, ?_⟩)
  rw [ofEntries, hraw]
  exact hrooted

/-! ## What a configuration comes to -/

/-- What is passed on is what loading comes to. -/
theorem PassesOn.load_eq_error (h : PassesOn t here start path overrides fault) :
    load t here start path overrides = .error fault ∧
      fault.toFailure.kind ≠ "config-error" := by
  have hfile {file : Path} {fault : ConfigFault}
      (hsource : sourceFile t here start path = .ok (some file))
      (h : entriesOfFile t file = .error fault) :
      load t here start path overrides = .error fault := by
    rw [load_of_source hsource]
    exact bind_eq_error_iff.2 (.inl h)
  cases h with
  | source hsource =>
      refine (sourceFile_eq_error_iff.2 ⟨_, hsource, rfl⟩).imp_left fun hsource => ?_
      rw [load_eq, hsource]
      rfl
  | encoding hsource hread hdecode =>
      exact (entriesOfFile_eq_error_iff.2
        ⟨_, hread, .inl ⟨_, hdecode, rfl⟩⟩).imp_left (hfile hsource)
  | scalar hsource hread hdecode hsuffix hyaml =>
      exact (entriesOfFile_eq_error_iff.2
        ⟨_, hread, .inr ⟨_, hdecode, hsuffix, _, hyaml, rfl⟩⟩).imp_left (hfile hsource)
  | nullCharacter hgives hnull =>
      exact (resolveRoot_eq_error_iff.2 (.inl ⟨hnull, rfl⟩)).imp_left hgives.load_eq_error
  | overlong hgives hplain hoverlong =>
      exact (resolveRoot_eq_error_iff.2 (.inr ⟨hplain, hoverlong, rfl⟩)).imp_left
        hgives.load_eq_error

/-- What loading comes to under the name of another failure is passed on. -/
theorem passesOn_of_load (hload : load t here start path overrides = .error fault)
    (hkind : fault.toFailure.kind ≠ "config-error") :
    PassesOn t here start path overrides fault := by
  -- the steps of loading one by one, each after all before it have given a result
  rw [load_eq] at hload
  rcases bind_eq_error_iff.1 hload with hsource | ⟨source, hsource, herror⟩
  · obtain ⟨found, hsource, rfl⟩ := sourceFile_eq_error_iff.1 ⟨hsource, hkind⟩
    exact .source hsource
  rcases bind_eq_error_iff.1 herror with herror | ⟨es, hes, herror⟩
  · cases source with
    | none => cases herror
    | some file =>
        obtain ⟨bytes, hread, hfault⟩ := entriesOfFile_eq_error_iff.1 ⟨herror, hkind⟩
        rcases hfault with ⟨_, hdecode, rfl⟩ | ⟨_, hdecode, hsuffix, _, hyaml, rfl⟩
        · exact .encoding hsource hread hdecode
        · exact .scalar hsource hread hdecode hsuffix hyaml
  · obtain ⟨raw, hraw, herror, -⟩ := ofEntries_eq_error_iff.1 ⟨herror, hkind⟩
    obtain ⟨hsections, herror, -⟩ := rooted_eq_error_iff.1 ⟨herror, hkind⟩
    have hgives : Gives t here start path overrides raw (source.elim start Path.parent) :=
      ⟨⟨source, es, hsource, hes, hraw, rfl⟩, hsections⟩
    rcases resolveRoot_eq_error_iff.1 ⟨herror, hkind⟩ with
      ⟨hnull, rfl⟩ | ⟨hplain, hoverlong, rfl⟩
    · exact .nullCharacter hgives hnull
    · exact .overlong hgives hplain hoverlong

/-- The root of a configuration that is loaded is an absolute directory. -/
theorem root_of_load (h : load t here start path overrides = .ok c) :
    c.project.root.isAbsolute = true ∧ t.isDirectory c.project.root = .ok true := by
  rw [load_eq] at h
  obtain ⟨source, -, h⟩ := bind_eq_ok_iff.1 h
  obtain ⟨es, -, h⟩ := bind_eq_ok_iff.1 h
  obtain ⟨raw, -, hrooted⟩ := ofEntries_eq_ok_iff.1 h
  obtain ⟨-, root, hresolve, rfl⟩ := rooted_eq_ok_iff.1 hrooted
  exact resolveRoot_eq_ok hresolve

/-- Loading gives a configuration with a directory for its root, or a fault of the configuration, or
else one of the faults that are passed on; and these do come to that. -/
theorem load_outcome (t : FileTree) (here start : Path) (path : Option Path)
    (overrides : List (Value × Value)) :
    (match load t here start path overrides with
      | .ok c => c.project.root.isAbsolute = true ∧ t.isDirectory c.project.root = .ok true
      | .error fault => fault.toFailure.kind = "config-error" ∨
          PassesOn t here start path overrides fault) ∧
    ∀ fault, PassesOn t here start path overrides fault ↔
      load t here start path overrides = .error fault ∧
        fault.toFailure.kind ≠ "config-error" := by
  refine ⟨?_, fun fault => ⟨PassesOn.load_eq_error, fun h => passesOn_of_load h.1 h.2⟩⟩
  cases hload : load t here start path overrides with
  | ok c => exact root_of_load hload
  | error fault =>
      by_cases hkind : fault.toFailure.kind = "config-error"
      · exact .inl hkind
      · exact .inr (passesOn_of_load hload hkind)

/-- Bytes that are no text, a day in no month and a root with a null character are no faults of the
configuration. -/
theorem bad_files_passed_on :
    let here : Path := ⟨.absolute, ["story"]⟩
    let kind (content : List UInt8) : Option String :=
      let t : FileTree := .directory
        [("story", .directory [(".story-linter.yml", .file content)])]
      match load t here here none [] with
      | .ok _ => none
      | .error fault => some fault.toFailure.kind
    kind [0xFF] = some "UnicodeDecodeError" ∧
      kind "day: 2024-13-45\n".toUTF8.toList = some "ValueError" ∧
      kind "project: \x7broot: \"a\\0b\"\x7d\n".toUTF8.toList = some "ValueError" := by
  decide +kernel

end Config

end Continuity
