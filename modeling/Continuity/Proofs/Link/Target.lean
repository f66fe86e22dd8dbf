import Mathlib.Data.List.Basic
import Continuity.Link.Graph
import Continuity.Proofs.Path.Way
import Continuity.Proofs.Text.Property

/-! # What links come to

A path in a link comes to a known file, to the one that stands for a directory, to another file that
exists, or to nothing. Where more files are known, a link that led somewhere still does. It leads to
another place only where a file stood for a directory, or where a file was not known before.
-/

namespace Continuity.Link

variable {known known' : List String} {exists? : String → Bool} {strict : Bool}
  {path source target directory file : String} {kind : Kind} {d : Destination}

theorem indexOf?_spec (h : indexOf? known directory = some file) :
    file ∈ known ∧ isIndex file = true := by
  have hkeep := List.find?_some h
  rw [Bool.and_eq_true] at hkeep
  exact ⟨List.mem_of_find?_eq_some h, hkeep.1⟩

theorem isSome_indexOf?_of_subset (hsub : known ⊆ known')
    (h : (indexOf? known directory).isSome = true) :
    (indexOf? known' directory).isSome = true := by
  rw [indexOf?, List.find?_isSome] at h ⊢
  obtain ⟨file, hfile, hkeep⟩ := h
  exact ⟨file, hsub hfile, hkeep⟩

/-! ## Paths -/

/-- What a path comes to: the kind of link, and where it leads or would have led. -/
inductive Found (known : List String) (exists? : String → Bool) (path : String) :
    Kind → String → Prop where
  | file (hknown : path ∈ known) : Found known exists? path .internal path
  | index {file : String} (hnew : path ∉ known) (hindex : indexOf? known path = some file) :
      Found known exists? path .internal file
  | asset (hnew : path ∉ known) (hindex : indexOf? known path = none)
      (hasset : isAsset path = true) (hexists : exists? path = true) :
      Found known exists? path .internal path
  | missing (hnew : path ∉ known) (hindex : indexOf? known path = none)
      (hnothing : (isAsset path && exists? path) = false) : Found known exists? path .broken path

theorem resolve_path (known : List String) (exists? : String → Bool) (strict : Bool)
    (source : String) (place : Path) (fragment : String) :
    ∃ kind target, Found known exists? place.toString kind target ∧
      (Reference.path place fragment).resolve known exists? strict source =
        ⟨kind, some target, fragment⟩ := by
  unfold Reference.resolve
  dsimp only
  by_cases hknown : place.toString ∈ known
  · exact ⟨_, _, .file hknown, if_pos (List.contains_iff_mem.2 hknown)⟩
  · rw [if_neg (by simpa using hknown)]
    cases hindex : indexOf? known place.toString with
    | some file => exact ⟨_, _, .index hknown hindex, rfl⟩
    | none =>
        cases hasset : isAsset place.toString && exists? place.toString with
        | true =>
            obtain ⟨hplace, hexists⟩ := Bool.and_eq_true_iff.1 hasset
            exact ⟨_, _, .asset hknown hindex hplace hexists, rfl⟩
        | false => exact ⟨_, _, .missing hknown hindex hasset, rfl⟩

/-- A path that comes to something still does so among more known files. If it came to a known file,
it still comes to that one, unless the file stood for a directory. -/
theorem Found.grow (hsub : known ⊆ known') {target' : String} {kind' : Kind}
    (h : Found known exists? path .internal target)
    (h' : Found known' exists? path kind' target') :
    kind' = .internal ∧ (target ∈ known → isIndex target = true ∨ target' = target) := by
  cases h with
  | file hknown =>
      cases h' with
      | file => exact ⟨rfl, fun _ => .inr rfl⟩
      | index hnew => exact absurd (hsub hknown) hnew
      | asset hnew => exact absurd (hsub hknown) hnew
      | missing hnew => exact absurd (hsub hknown) hnew
  | index _ hindex =>
      refine ⟨?_, fun _ => .inl (indexOf?_spec hindex).2⟩
      cases h' with
      | missing _ hnone _ =>
          have hsome := isSome_indexOf?_of_subset hsub (Option.isSome_of_eq_some hindex)
          simp [hnone] at hsome
      | _ => rfl
  | asset hnew _ hasset hexists =>
      refine ⟨?_, fun hknown => absurd hknown hnew⟩
      cases h' with
      | missing _ _ hnothing => simp [hasset, hexists] at hnothing
      | _ => rfl

/-! ## Links -/

/-- What a link in a document comes to. -/
inductive ComesTo (known : List String) (exists? : String → Bool) (source : String) :
    Destination → Prop where
  | address : ComesTo known exists? source ⟨.external, none, ""⟩
  | malformed : ComesTo known exists? source ⟨.broken, none, ""⟩
  | here (fragment : String) : ComesTo known exists? source ⟨.anchor, some source, fragment⟩
  | path {path target : String} {kind : Kind} (fragment : String)
      (hfound : Found known exists? path kind target) :
      ComesTo known exists? source ⟨kind, some target, fragment⟩

theorem comesTo_resolve (known : List String) (exists? : String → Bool) (strict : Bool)
    (raw source : String) :
    ComesTo known exists? source (resolve known exists? strict raw source) := by
  unfold resolve
  cases Reference.ofStrings raw source with
  | address wellFormed =>
      unfold Reference.resolve
      dsimp only
      split
      · exact .malformed
      · exact .address
  | here fragment => exact .here fragment
  | path place fragment =>
      obtain ⟨kind, target, hfound, heq⟩ :=
        resolve_path known exists? strict source place fragment
      rw [heq]
      exact .path fragment hfound

namespace ComesTo

theorem target_of_internal (h : ComesTo known exists? source d) (hkind : d.kind = .internal) :
    ∃ target, d.target = some target ∧
      (target ∈ known ∨ isAsset target = true ∧ exists? target = true) := by
  cases h with
  | path fragment hfound =>
      obtain rfl := hkind
      refine ⟨_, rfl, ?_⟩
      cases hfound with
      | file hknown => exact .inl hknown
      | index _ hindex => exact .inl (indexOf?_spec hindex).1
      | asset _ _ hasset hexists => exact .inr ⟨hasset, hexists⟩
  | _ => cases hkind

theorem target_of_anchor (h : ComesTo known exists? source d) (hkind : d.kind = .anchor) :
    d.target = some source := by
  cases h with
  | here => rfl
  | path fragment hfound =>
      obtain rfl := hkind
      cases hfound
  | _ => cases hkind

theorem eq_of_external (h : ComesTo known exists? source d) (hkind : d.kind = .external) :
    d.target = none ∧ d.fragment = "" := by
  cases h with
  | address => exact ⟨rfl, rfl⟩
  | path fragment hfound =>
      obtain rfl := hkind
      cases hfound
  | _ => cases hkind

theorem target_of_broken (h : ComesTo known exists? source d) (hkind : d.kind = .broken)
    (htarget : d.target = some target) : target ∉ known := by
  cases h with
  | malformed => cases htarget
  | path fragment hfound =>
      obtain rfl := hkind
      obtain rfl := Option.some.inj htarget
      cases hfound with
      | missing hnew => exact hnew
  | _ => cases hkind

end ComesTo

/-- An internal link stays one among more known files. If it led to a known file, it still leads
there, unless the file stood for a directory. -/
theorem resolve_grow (hsub : known ⊆ known') (raw : String)
    (h : (resolve known exists? strict raw source).kind = .internal) :
    (resolve known' exists? strict raw source).kind = .internal ∧
      ∀ target ∈ known, (resolve known exists? strict raw source).target = some target →
        isIndex target = true ∨
          (resolve known' exists? strict raw source).target = some target := by
  unfold resolve at h ⊢
  generalize Reference.ofStrings raw source = reference at h ⊢
  cases reference with
  | address wellFormed => exact ⟨h, fun _ _ htarget => nomatch htarget⟩
  | here fragment => cases h
  | path place fragment =>
      obtain ⟨kind, target, hfound, heq⟩ :=
        resolve_path known exists? strict source place fragment
      obtain ⟨kind', target', hfound', heq'⟩ :=
        resolve_path known' exists? strict source place fragment
      rw [heq] at h ⊢
      rw [heq']
      obtain rfl : kind = .internal := h
      obtain ⟨hkind, htarget⟩ := hfound.grow hsub hfound'
      refine ⟨hkind, ?_⟩
      intro target hknown heq
      obtain rfl := Option.some.inj heq
      exact (htarget hknown).imp_right (congrArg some)

/-! ## Files that are looked for -/

/-- A path stays in the project, is in normal form, and has no ending of documents in either
case. -/
structure IsProbe (path : String) : Prop where
  inProject : Path.IsProjectPath path
  noDocument : ∀ ending ∈ [".md", ".markdown"], ¬ ending.toList <:+ (Text.lower path).toList

theorem isAsset_iff : isAsset path = true ↔ ¬ "..".toList <+: path.toList ∧
    ∀ ending ∈ [".md", ".markdown"], ¬ ending.toList <:+ (Text.lower path).toList := by
  simp only [isAsset, Bool.and_eq_true, Bool.not_eq_true', ← Bool.not_eq_true, List.all_eq_true,
    Text.startsWith_iff, List.reverse_prefix]

theorem rootOf_eq_relative_iff {text : List Char} :
    Path.rootOf text = .relative ↔ text.head? ≠ some '/' := by
  refine ⟨?_, Path.rootOf_of_head?⟩
  rintro hroot hhead
  cases text with
  | nil => cases hhead
  | cons c rest =>
      obtain rfl := Option.some.inj hhead
      rw [Path.rootOf.eq_def] at hroot
      split at hroot <;> simp_all

theorem root_directoryOfChars {text : List Char} (h : Path.rootOf text = .relative) :
    (Path.directoryOfChars text).root = .relative := by
  rw [rootOf_eq_relative_iff] at h
  obtain ⟨name, hname⟩ := List.rdropWhile_prefix (· != '/') text
  refine Path.rootOf_of_head? fun hhead => h ?_
  rw [← hname, List.head?_append]
  exact congrArg (Option.or · _) hhead

theorem isPlain_ofChars (text : List Char) : (Path.ofChars text).IsPlain := by
  have hplain := Path.isPlain_ofString (String.ofList text)
  rwa [Path.ofString, String.toList_ofList] at hplain

/-- Wherever a path in a document leads, it is in normal form, and names for "up" stand at its front
alone. It is a way from the root of the project if the document's own path is one. -/
theorem pathFrom_spec {source : List Char} (hsource : Path.rootOf source = .relative)
    (path : List Char) : (pathFrom source path).root = .relative ∧
      (pathFrom source path).IsPlain ∧
      ∃ n down, (pathFrom source path).parts = List.replicate n ".." ++ down ∧ ".." ∉ down := by
  rw [pathFrom]
  split
  next =>
    have hroot : (Path.ofChars (path.dropWhile (· == '/'))).root = .relative := by
      refine Path.rootOf_of_head? fun hhead => ?_
      have hstroke := List.head?_dropWhile_not (· == '/') path
      rw [hhead] at hstroke
      simp at hstroke
    exact ⟨hroot, Path.isPlain_normalize (isPlain_ofChars _), Path.normalize_up_first hroot⟩
  next hhead =>
    have hroot : (Path.directoryOfChars source ++ Path.ofChars path).root = .relative := by
      rw [beq_iff_eq] at hhead
      rw [Path.root_append (Path.rootOf_of_head? hhead)]
      exact root_directoryOfChars hsource
    have hplain : (Path.directoryOfChars source ++ Path.ofChars path).IsPlain :=
      Path.isPlain_append (isPlain_ofChars _) (isPlain_ofChars path)
    exact ⟨hroot, Path.isPlain_normalize hplain, Path.normalize_up_first hroot⟩

/-- What names for "up" at the front of a path would lead out of the project is no asset. -/
theorem isProbe_of_isAsset {place : Path} (hroot : place.root = .relative) (hplain : place.IsPlain)
    (hup : ∃ n down, place.parts = List.replicate n ".." ++ down ∧ ".." ∉ down)
    (hasset : isAsset place.toString = true) : IsProbe place.toString := by
  obtain ⟨hinside, hnoDocument⟩ := isAsset_iff.1 hasset
  have hread := Path.ofString_toString hplain
  refine ⟨⟨?_, ?_, ?_⟩, hnoDocument⟩
  · rw [hread, hroot]
  · rw [hread]
    obtain ⟨n, down, hparts, hdown⟩ := hup
    cases n with
    | zero => rwa [hparts]
    | succ n =>
        refine absurd ?_ hinside
        obtain ⟨root, parts⟩ := place
        obtain rfl : root = .relative := hroot
        obtain rfl : parts = ".." :: (List.replicate n ".." ++ down) := hparts
        rw [Path.toList_of_relative hplain, if_neg (List.cons_ne_nil _ _)]
        cases List.replicate n ".." ++ down with
        | nil => exact List.prefix_rfl
        | cons second rest =>
            rw [Path.namesText_cons_cons]
            exact List.prefix_append _ _
  · rw [hread]

theorem exists_of_ofStrings {raw : String} {place : Path} {fragment : String}
    (h : Reference.ofStrings raw source = .path place fragment) :
    ∃ path, place = pathFrom source.toList path := by
  rw [Reference.ofStrings, Reference.ofChars] at h
  dsimp only at h
  split at h
  · cases h
  · split at h
    · cases h
    · cases h
      exact ⟨_, rfl⟩

theorem isProbe_of_path {raw : String} {place : Path} {fragment : String}
    (hsource : (Path.ofString source).root = .relative)
    (h : Reference.ofStrings raw source = .path place fragment)
    (hasset : isAsset place.toString = true) : IsProbe place.toString := by
  obtain ⟨path, rfl⟩ := exists_of_ofStrings h
  obtain ⟨hroot, hplain, hup⟩ := pathFrom_spec hsource path
  exact isProbe_of_isAsset hroot hplain hup hasset

theorem asks?_eq_some_iff {reference : Reference} : reference.asks? known = some path ↔
    ∃ place fragment, reference = .path place fragment ∧ place.toString = path ∧ path ∉ known ∧
      indexOf? known path = none ∧ isAsset path = true := by
  unfold Reference.asks?
  cases reference with
  | address | here => simp
  | path place fragment =>
      simp only [Option.ite_none_left_eq_some, Bool.or_eq_true, not_or, List.contains_iff_mem,
        Bool.not_eq_true, Option.isSome_eq_false_iff, Option.isNone_iff_eq_none,
        Bool.not_eq_true', Bool.not_eq_false, Option.some.injEq, Reference.path.injEq]
      constructor
      · rintro ⟨⟨⟨hnew, hindex⟩, hasset⟩, rfl⟩
        exact ⟨place, fragment, ⟨rfl, rfl⟩, rfl, hnew, hindex, hasset⟩
      · rintro ⟨_, _, ⟨rfl, rfl⟩, rfl, hnew, hindex, hasset⟩
        exact ⟨⟨⟨hnew, hindex⟩, hasset⟩, rfl⟩

theorem isProbe_of_asks? {raw : String} (hsource : (Path.ofString source).root = .relative)
    (h : (Reference.ofStrings raw source).asks? known = some path) : IsProbe path := by
  obtain ⟨place, fragment, hreference, rfl, -, -, hasset⟩ := asks?_eq_some_iff.1 h
  exact isProbe_of_path hsource hreference hasset

/-- Which files exist matters only at the path that is asked about. -/
theorem resolve_eq_of_asks? {exists?' : String → Bool} {raw : String}
    (h : ∀ path, (Reference.ofStrings raw source).asks? known = some path →
      exists? path = exists?' path) :
    resolve known exists? strict raw source = resolve known exists?' strict raw source := by
  unfold resolve
  generalize Reference.ofStrings raw source = reference at h ⊢
  cases reference with
  | address | here => rfl
  | path place fragment =>
      unfold Reference.resolve
      dsimp only
      split
      next => rfl
      next hnew =>
        split
        next => rfl
        next hindex =>
          cases hasset : isAsset place.toString with
          | false => rfl
          | true =>
              have hnew : place.toString ∉ known := by simpa using hnew
              rw [h _ (asks?_eq_some_iff.2 ⟨place, fragment, rfl, rfl, hnew, hindex, hasset⟩)]

theorem isProbe_of_internal {raw : String} (hsource : (Path.ofString source).root = .relative)
    (hkind : (resolve known exists? strict raw source).kind = .internal)
    (htarget : (resolve known exists? strict raw source).target = some target)
    (hnew : target ∉ known) : IsProbe target ∧ exists? target = true := by
  unfold resolve at hkind htarget
  cases hreference : Reference.ofStrings raw source with
  | address wellFormed =>
      rw [hreference] at htarget
      cases htarget
  | here fragment =>
      rw [hreference] at hkind
      cases hkind
  | path place fragment =>
      obtain ⟨kind, found, hfound, heq⟩ := resolve_path known exists? strict source place fragment
      rw [hreference, heq] at hkind htarget
      obtain rfl : kind = .internal := hkind
      obtain rfl := Option.some.inj htarget
      cases hfound with
      | file hknown => exact absurd hknown hnew
      | index _ hindex => exact absurd (indexOf?_spec hindex).1 hnew
      | asset _ _ hasset hexists => exact ⟨isProbe_of_path hsource hreference hasset, hexists⟩

/-- Among the files that are not known, a link from a document in the project asks only about one
that is in the project and is no document, and is internal only if that one exists. -/
theorem probes_stay_inside (known : List String) (raw : String)
    (hsource : (Path.ofString source).root = .relative) :
    (∀ path, (Reference.ofStrings raw source).asks? known = some path → IsProbe path) ∧
      (∀ (exists? exists?' : String → Bool) (strict : Bool),
        (∀ path, (Reference.ofStrings raw source).asks? known = some path →
          exists? path = exists?' path) →
        resolve known exists? strict raw source = resolve known exists?' strict raw source) ∧
      ∀ (exists? : String → Bool) (strict : Bool) (target : String),
        (resolve known exists? strict raw source).kind = .internal →
        (resolve known exists? strict raw source).target = some target → target ∉ known →
        IsProbe target ∧ exists? target = true := by
  refine ⟨fun path => isProbe_of_asks? hsource, fun _ _ _ => resolve_eq_of_asks?, ?_⟩
  intro exists? strict target hkind htarget hnew
  exact isProbe_of_internal hsource hkind htarget hnew

theorem map_probed_from_below :
    (Path.ofString "plot/one/storm.md").root = .relative ∧
      (Reference.ofStrings "..%2F//../maps/./Coast.PNG?raw=1" "plot/one/storm.md").asks? [] =
        some "maps/Coast.PNG" ∧ IsProbe "maps/Coast.PNG" := by
  have hsource : (Path.ofString "plot/one/storm.md").root = .relative := rfl
  have hasks : (Reference.ofStrings "..%2F//../maps/./Coast.PNG?raw=1" "plot/one/storm.md").asks?
      [] = some "maps/Coast.PNG" := by decide +kernel
  exact ⟨hsource, hasks, (probes_stay_inside [] _ hsource).1 _ hasks⟩

/-- What would lead out of the project is not asked about, nor is a document. -/
example : (Reference.ofStrings "../../../maps/coast.png" "plot/one/storm.md").asks? [] = none ∧
    (Reference.ofStrings "storm.MD" "plot/one/storm.md").asks? [] = none := by
  decide +kernel

/-- Merging pages asks only about files in the project that are no documents. -/
theorem Graph.isProbe_of_mem_asks {pages : List Page}
    (hpages : ∀ p ∈ pages, (Path.ofString p.path).root = .relative)
    (h : path ∈ Graph.asks pages) : IsProbe path := by
  obtain ⟨p, hp, hpath⟩ := List.mem_flatMap.1 h
  obtain ⟨link, -, hasks⟩ := List.mem_filterMap.1 hpath
  exact isProbe_of_asks? (hpages p ((List.mergeSort_perm _ _).mem_iff.1 hp)) hasks

end Continuity.Link
