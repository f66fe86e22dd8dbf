import Mathlib.Data.List.Infix
import Continuity.Proofs.Link.Target
import Continuity.Proofs.Path.Way
import Continuity.Proofs.Text.Property
import Continuity.Proofs.Text.Casing
import Continuity.Proofs.Web.Percent

/-! # Links between documents

A link may name a document by the way from the directory where it stands, or by the way from the
root of the project behind a stroke. Unless such a way looks like something else, the link leads to
the document, with a fragment or without.
-/

namespace Continuity.Link

/-- A way can stand in a link as it is. -/
structure IsPlainWay (way : String) : Prop where
  percent : '%' ∉ way.toList
  hash : '#' ∉ way.toList
  question : '?' ∉ way.toList
  unpadded : Text.Unpadded way.toList
  noScheme : Web.scheme? way.toList = none

/-! ## Ways and what follows them -/

section Reading

variable {raw way rest source : List Char}

/-- What follows a way is nothing or begins with a hash. -/
def Follows (rest : List Char) : Prop := ∀ c ∈ rest.head?, c = '#'

theorem follows_nil : Follows [] := by simp [Follows]

theorem follows_hash (fragment : List Char) : Follows ('#' :: fragment) := by simp [Follows]

theorem takeWhile_append_of_follows {p : Char → Bool} (hp : p '#' = false) (h : Follows rest)
    (way : List Char) : (way ++ rest).takeWhile p = way.takeWhile p := by
  have hnone : rest.takeWhile p = [] := by
    cases rest with
    | nil => rfl
    | cons c more =>
        obtain rfl := h c rfl
        rw [List.takeWhile_cons, hp]
        rfl
  rw [List.takeWhile_append, hnone, List.append_nil]
  split
  next hall => exact (List.takeWhile_prefix p).eq_of_length hall |>.symm
  next => rfl

theorem takeWhile_eq_self {c : Char} (h : c ∉ way) : way.takeWhile (· != c) = way := by
  rw [List.takeWhile_eq_self_iff]
  intro d hd
  rw [bne_iff_ne]
  rintro rfl
  exact h hd

theorem scheme?_append (h : Follows rest) (hway : Web.scheme? way = none) :
    Web.scheme? (way ++ rest) = none := by
  have hletter : Web.isSchemeLetter '#' = false := by decide
  have hlength : (way.takeWhile Web.isSchemeLetter).length ≤ way.length :=
    (List.takeWhile_prefix _).length_le
  rw [Web.scheme?] at hway ⊢
  rw [takeWhile_append_of_follows hletter h, List.drop_append_of_le_length hlength]
  cases hbehind : way.drop (way.takeWhile Web.isSchemeLetter).length with
  | nil =>
      cases rest with
      | nil => rfl
      | cons c more =>
          obtain rfl := h c rfl
          rfl
  | cons c more =>
      rw [hbehind] at hway
      rw [List.cons_append]
      by_cases hc : c = ':'
      · subst hc
        exact hway
      · split
        next heq =>
          cases heq
          exact absurd rfl hc
        next => rfl

theorem isAddress_append (h : Follows rest) (hway : isAddress way = false) :
    isAddress (way ++ rest) = false := by
  rw [isAddress, Bool.or_eq_false_iff, Option.isSome_eq_false_iff, Option.isNone_iff_eq_none] at *
  refine ⟨scheme?_append h hway.1, ?_⟩
  -- The two strokes would have to be in the way itself.
  match way, rest, hway.2 with
  | [], [], _ => rfl
  | [], c :: more, _ => simp [Text.startsWith, h c rfl]
  | [c], [], hstrokes => exact hstrokes
  | [c], d :: more, _ => simp [Text.startsWith, h d rfl]
  | c :: d :: more, rest, hstrokes => simpa [Text.startsWith] using hstrokes

theorem startsWith_of_head? {c : Char} (cs : List Char) (h : way.head? ≠ some c) :
    Text.startsWith (c :: cs) way = false := by
  cases way with
  | nil => rfl
  | cons d rest =>
      have hne : c ≠ d := fun heq => h (congrArg some heq.symm)
      simp [Text.startsWith, hne]

/-- A link that is a way with what follows it leads where the way leads. -/
theorem ofChars_append (h : Follows rest)
    (htarget : Web.decodePercent (Text.trim raw) = way ++ rest) (hne : way ≠ [])
    (haddress : isAddress way = false) (hhash : '#' ∉ way) (hquestion : '?' ∉ way) :
    Reference.ofChars raw source =
      .path (pathFrom source way) (String.ofList (rest.drop 1)) := by
  have hbefore : (way ++ rest).takeWhile (· != '#') = way := by
    rw [takeWhile_append_of_follows (by decide) h, takeWhile_eq_self hhash]
  have hdrop : (way ++ rest).drop (way.length + 1) = rest.drop 1 := by
    rw [← List.drop_drop, List.drop_left]
  rw [Reference.ofChars]
  dsimp only
  rw [htarget, isAddress_append h haddress, hbefore, takeWhile_eq_self hquestion,
    hdrop]
  simp [hne]

theorem trim_append (hway : Text.Unpadded way) (hne : way ≠ [])
    (hrest : ∀ c ∈ rest.getLast?, Text.isBlank c = false) :
    Text.trim (way ++ rest) = way ++ rest := by
  refine Text.trim_of_unpadded ⟨?_, ?_⟩
  · rw [List.head?_append_of_ne_nil _ hne]
    exact hway.1
  · intro c hc
    rw [List.getLast?_append] at hc
    cases hlast : rest.getLast? with
    | none =>
        rw [hlast] at hc
        exact hway.2 c hc
    | some d =>
        rw [hlast] at hc
        exact hrest c (hlast ▸ hc)

end Reading

/-! ## Ways to documents -/

section Documents

variable {known : List String} {source target way : String}

theorem pathFrom_wayFrom (hsource : Path.IsProjectPath source)
    (htarget : Path.IsProjectPath target) :
    pathFrom source.toList (Path.wayFrom source target).toList = Path.ofString target := by
  have hnames : ∀ name ∈ Path.wayBetween (Path.ofString source).parent.parts
      (Path.ofString target).parts, Path.IsName name :=
    Path.isName_wayBetween (Path.isPlain_ofString target)
  have hhead : ((Path.wayFrom source target).toList.head? == some '/') = false := by
    rw [beq_eq_false_iff_ne]
    exact Path.head?_of_relative hnames
  have hway : Path.ofChars (Path.wayFrom source target).toList =
      ⟨.relative, Path.wayBetween (Path.ofString source).parent.parts
        (Path.ofString target).parts⟩ :=
    Path.ofString_toString hnames
  have hdown : ".." ∉ (Path.ofString source).parent.parts :=
    fun hmem => hsource.down (List.mem_of_mem_dropLast hmem)
  rw [pathFrom, hhead, hsource.directoryOfChars_eq, hway]
  calc _ = Path.normalize ⟨(Path.ofString source).parent.root,
        (Path.ofString source).parent.parts ++
          Path.wayBetween (Path.ofString source).parent.parts (Path.ofString target).parts⟩ := rfl
    _ = ⟨(Path.ofString source).parent.root, (Path.ofString target).parts⟩ :=
        Path.normalize_wayBetween hdown htarget.down _
    _ = Path.ofString target := by rw [Path.parent, hsource.relative, ← htarget.ofString_eq]

theorem pathFrom_cons_stroke (source : List Char) {path : List Char} (h : path.head? ≠ some '/') :
    pathFrom source ('/' :: path) = (Path.ofChars path).normalize := by
  have hdrop : path.dropWhile (· == '/') = path := by
    cases path with
    | nil => rfl
    | cons c rest => exact List.dropWhile_cons_of_neg (by simpa using h)
  rw [pathFrom, if_pos (by simp), List.dropWhile_cons_of_pos rfl, hdrop]

theorem pathFrom_stroke (source : List Char) (htarget : Path.IsProjectPath target) :
    pathFrom source ('/' :: target.toList) = Path.ofString target := by
  rw [pathFrom_cons_stroke source htarget.head?_ne]
  exact Path.normalize_of_down htarget.down

/-- A way to a document leads there, and does not begin with two strokes. -/
theorem way_spec (hsource : Path.IsProjectPath source) (htarget : Path.IsProjectPath target)
    (hway : way = Path.wayFrom source target ∨ way = "/" ++ target) :
    pathFrom source.toList way.toList = Path.ofString target ∧ way.toList ≠ [] ∧
      Text.startsWith ['/', '/'] way.toList = false := by
  rcases hway with rfl | rfl
  · refine ⟨pathFrom_wayFrom hsource htarget, Path.toList_toString_ne_nil _, ?_⟩
    exact startsWith_of_head? _ (Path.head?_of_relative
      (Path.isName_wayBetween (Path.isPlain_ofString target)))
  · rw [String.toList_append]
    refine ⟨pathFrom_stroke _ htarget, List.cons_ne_nil _ _, ?_⟩
    have hstroke := startsWith_of_head? [] htarget.head?_ne
    simpa [Text.startsWith] using hstroke

/-- Whatever follows a way to a document, the link leads to the document. -/
theorem resolve_way (hsource : Path.IsProjectPath source) (htarget : Path.IsProjectPath target)
    (hknown : target ∈ known) (hway : way = Path.wayFrom source target ∨ way = "/" ++ target)
    (hplain : IsPlainWay way) (exists? : String → Bool) (strict : Bool) (rest : String)
    (hrest : Follows rest.toList) (hpercent : '%' ∉ rest.toList)
    (hlast : ∀ c ∈ rest.toList.getLast?, Text.isBlank c = false) :
    resolve known exists? strict (way ++ rest) source =
      ⟨.internal, some target, String.ofList (rest.toList.drop 1)⟩ := by
  obtain ⟨hpath, hne, hstrokes⟩ := way_spec hsource htarget hway
  have haddress : isAddress way.toList = false := by
    rw [isAddress, hplain.noScheme, hstrokes]
    rfl
  have hdecoded : Web.decodePercent (Text.trim (way ++ rest).toList) =
      way.toList ++ rest.toList := by
    have hall : '%' ∉ way.toList ++ rest.toList := by
      rw [List.mem_append, not_or]
      exact ⟨hplain.percent, hpercent⟩
    rw [String.toList_append, trim_append hplain.unpadded hne hlast,
      Web.decodePercent_of_form (.refl hall)]
  rw [resolve, Reference.ofStrings,
    ofChars_append hrest hdecoded hne haddress hplain.hash hplain.question, hpath,
    Reference.resolve, htarget.shortest, if_pos (List.contains_iff_mem.2 hknown)]

/-- A link that names a document by a way to it leads to the document, and to the place in it that
stands behind a hash. -/
theorem way_leads_to_document (hsource : Path.IsProjectPath source)
    (htarget : Path.IsProjectPath target) (hknown : target ∈ known)
    (hway : way = Path.wayFrom source target ∨ way = "/" ++ target) (hplain : IsPlainWay way)
    (fragment : String) (hpercent : '%' ∉ fragment.toList)
    (hlast : ∀ c ∈ fragment.toList.getLast?, Text.isBlank c = false) (exists? : String → Bool)
    (strict : Bool) :
    resolve known exists? strict (way ++ "#" ++ fragment) source =
        ⟨.internal, some target, fragment⟩ ∧
      resolve known exists? strict way source = ⟨.internal, some target, ""⟩ := by
  have hleads := resolve_way hsource htarget hknown hway hplain exists? strict
  constructor
  · have htext : ("#" ++ fragment).toList = '#' :: fragment.toList := String.toList_append
    have hlast' : ∀ c ∈ ("#" ++ fragment).toList.getLast?, Text.isBlank c = false := by
      rw [htext, List.getLast?_cons]
      intro c hc
      cases hfragment : fragment.toList.getLast? with
      | none =>
          rw [hfragment] at hc
          obtain rfl := Option.some.inj hc
          decide
      | some d =>
          rw [hfragment] at hc
          obtain rfl := Option.some.inj hc
          exact hlast d hfragment
    rw [String.append_assoc, hleads ("#" ++ fragment) (htext ▸ follows_hash _)
      (by simp [htext, hpercent]) hlast', htext, List.drop_succ_cons, List.drop_zero,
      String.ofList_toList]
  · have hnothing := hleads "" follows_nil (by simp) (by simp)
    rwa [String.append_empty] at hnothing

theorem cousin_found_from_below :
    resolve ["cast/mara.md", "plot/one/storm.md"] (fun _ => false) false
        ("../../cast/mara.md" ++ "#" ++ "Her past") "plot/one/storm.md" =
      ⟨.internal, some "cast/mara.md", "Her past"⟩ := by
  have hsource : Path.IsProjectPath "plot/one/storm.md" := ⟨rfl, by decide, rfl⟩
  have htarget : Path.IsProjectPath "cast/mara.md" := ⟨rfl, by decide, rfl⟩
  have hway : "../../cast/mara.md" = Path.wayFrom "plot/one/storm.md" "cast/mara.md" := rfl
  have hunpadded : Text.Unpadded "../../cast/mara.md".toList := by
    constructor
    · rintro _ ⟨⟩
      decide
    · rintro _ ⟨⟩
      decide
  have hplain : IsPlainWay "../../cast/mara.md" :=
    ⟨by decide, by decide, by decide, hunpadded, by decide⟩
  have hknown : "cast/mara.md" ∈ ["cast/mara.md", "plot/one/storm.md"] := by decide
  have hlast : ∀ c ∈ "Her past".toList.getLast?, Text.isBlank c = false := by
    rintro _ ⟨⟩
    decide
  exact (way_leads_to_document hsource htarget hknown (.inl hway) hplain "Her past" (by decide)
    hlast _ false).1

end Documents

/-! ## Escaped paths -/

section Escaped

variable {known : List String} {source target : String} {keep : Char → Bool}

/-- Characters that may stay as they are where a path is escaped: none of them is a blank, and
percent signs are escaped. -/
def Keeps (keep : Char → Bool) : Prop :=
  ∀ c, keep c = true → c ≠ '%' ∧ Text.isBlank c = false

/-- The link to a path from the root of the project, with all characters escaped that are not
kept. -/
def escapedLink (keep : Char → Bool) (target : String) : String :=
  "/" ++ String.ofList (Web.escapeBut keep target.toList)

theorem decoded_escapedLink (hkeep : Keeps keep) (target : String) :
    Web.decodePercent (Text.trim (escapedLink keep target).toList) = '/' :: target.toList := by
  have htext : (escapedLink keep target).toList = '/' :: Web.escapeBut keep target.toList := by
    rw [escapedLink, String.toList_append]
    exact congrArg ('/' :: ·) String.toList_ofList
  have hblank : ∀ c ∈ '/' :: Web.escapeBut keep target.toList, Text.isBlank c = false :=
    List.forall_mem_cons.2
      ⟨by decide, Web.isBlank_of_mem_escapeBut fun c hc => (hkeep c hc).2⟩
  have hform : Web.PercentForm ('/' :: target.toList) ('/' :: Web.escapeBut keep target.toList) :=
    .plain (by decide) (Web.percentForm_escapeBut (fun c hc => (hkeep c hc).1) _)
  rw [htext, Text.trim_of_unpadded (Text.unpadded_of_forall hblank),
    Web.decodePercent_of_form hform]

theorem isAddress_cons_stroke {path : List Char} (h : path.head? ≠ some '/') :
    isAddress ('/' :: path) = false := by
  have hletter : Web.isSchemeLetter '/' = false := by decide
  have hstroke := startsWith_of_head? [] h
  simpa [isAddress, Web.scheme?, hletter, Text.startsWith] using hstroke

/-- A path up to the first mark of a fragment or a query. -/
def beforeMarks (path : List Char) : List Char :=
  (path.takeWhile (· != '#')).takeWhile (· != '?')

theorem beforeMarks_prefix (path : List Char) : beforeMarks path <+: path :=
  (List.takeWhile_prefix _).trans (List.takeWhile_prefix _)

theorem ne_of_mem_beforeMarks {c : Char} {path : List Char} (h : c ∈ beforeMarks path) :
    c ≠ '#' ∧ c ≠ '?' := by
  have hhash := List.mem_takeWhile_imp ((List.takeWhile_prefix _).subset h)
  have hquestion := List.mem_takeWhile_imp h
  exact ⟨bne_iff_ne.1 hhash, bne_iff_ne.1 hquestion⟩

theorem beforeMarks_eq_self {path : List Char} (hhash : '#' ∉ path) (hquestion : '?' ∉ path) :
    beforeMarks path = path := by
  rw [beforeMarks, takeWhile_eq_self hhash, takeWhile_eq_self hquestion]

theorem head?_beforeMarks {path : List Char} (h : path.head? ≠ some '/') :
    (beforeMarks path).head? ≠ some '/' := by
  obtain ⟨rest, hrest⟩ := beforeMarks_prefix path
  intro hhead
  refine h ?_
  rw [← hrest, List.head?_append, hhead]
  rfl

/-- Once its escapes are decoded, a link is read up to the first mark of a fragment or a query,
whether the mark was escaped or not. -/
theorem ofStrings_escapedLink (hkeep : Keeps keep) (htarget : target.toList.head? ≠ some '/')
    (source : String) : Reference.ofStrings (escapedLink keep target) source =
      .path (Path.ofChars (beforeMarks target.toList)).normalize
        (String.ofList (target.toList.drop ((target.toList.takeWhile (· != '#')).length + 1))) := by
  rw [Reference.ofStrings, Reference.ofChars]
  dsimp only
  rw [decoded_escapedLink hkeep, isAddress_cons_stroke htarget,
    List.takeWhile_cons_of_pos (by decide), List.takeWhile_cons_of_pos (by decide)]
  change Reference.path (pathFrom _ ('/' :: beforeMarks target.toList)) _ = _
  rw [pathFrom_cons_stroke _ (head?_beforeMarks htarget)]
  rfl

/-- A mark of a fragment or a query. -/
def IsMark (c : Char) : Prop := c = '#' ∨ c = '?'

theorem IsMark.ne {c : Char} (h : IsMark c) :
    c ≠ '/' ∧ c ≠ '.' ∧ Text.lowerChar c = [c] ∧ c ∉ indexName.toList := by
  rcases h with rfl | rfl <;> decide +kernel

theorem IsMark.not_mem_normalize {c : Char} (h : IsMark c) (path : List Char) :
    c ∉ (Path.ofChars (beforeMarks path)).normalize.toString.toList := by
  intro hmem
  obtain ⟨name, hname, hc⟩ := Path.mem_of_mem_normalize (isPlain_ofChars _) h.ne.1 h.ne.2.1 hmem
  obtain ⟨hhash, hquestion⟩ :=
    ne_of_mem_beforeMarks ((Path.mem_namesOf_iff h.ne.1 h.ne.2.1).2 ⟨name, hname, hc⟩)
  rcases h with rfl | rfl
  · exact hhash rfl
  · exact hquestion rfl

/-- The file that stands for a directory has no marks but those of the directory. -/
theorem IsMark.not_mem_indexOf? {c : Char} (h : IsMark c) {directory file : String}
    (hindex : indexOf? known directory = some file) (hdirectory : c ∉ directory.toList) :
    c ∉ file.toList := by
  have hfile := List.find?_some hindex
  rw [Bool.and_eq_true, isIndex, beq_iff_eq, beq_iff_eq] at hfile
  obtain ⟨hname, hparent⟩ := hfile
  have hplain := Path.isPlain_ofString file
  intro hmem
  obtain ⟨name, hpart, hc⟩ := (Path.mem_namesOf_iff h.ne.1 h.ne.2.1).1 hmem
  have hpart : name ∈ (Path.ofString file).parts := hpart
  have hparts : (Path.ofString file).parts ≠ [] := List.ne_nil_of_mem hpart
  rw [← List.dropLast_concat_getLast hparts, List.mem_append, List.mem_singleton] at hpart
  rcases hpart with habove | rfl
  · refine hdirectory (hparent ▸ ?_)
    exact (Path.mem_toString_iff h.ne.1 h.ne.2.1 fun name hname =>
      hplain name (List.mem_of_mem_dropLast hname)).2 ⟨name, habove, hc⟩
  · refine h.ne.2.2.2 ?_
    rw [← hname, Path.name, List.getLastD_eq_getLast?, List.getLast?_eq_some_getLast hparts,
      Text.lower, String.toList_ofList]
    exact Text.mem_lowerChars h.ne.2.2.1 hc

theorem IsMark.not_mem_of_resolve {c : Char} (h : IsMark c) (hkeep : Keeps keep)
    (htarget : target.toList.head? ≠ some '/') {exists? : String → Bool} {strict : Bool}
    {fragment : String} (hresolve : resolve known exists? strict (escapedLink keep target) source =
      ⟨.internal, some target, fragment⟩) : c ∉ target.toList := by
  have hplace := h.not_mem_normalize target.toList
  rw [resolve, ofStrings_escapedLink hkeep htarget] at hresolve
  obtain ⟨kind, found, hfound, heq⟩ := resolve_path known exists? strict source
    (Path.ofChars (beforeMarks target.toList)).normalize
    (String.ofList (target.toList.drop ((target.toList.takeWhile (· != '#')).length + 1)))
  rw [heq, Destination.mk.injEq] at hresolve
  obtain ⟨rfl, hfile, -⟩ := hresolve
  rw [← Option.some.inj hfile]
  cases hfound with
  | file | asset => exact hplace
  | index _ hindex => exact h.not_mem_indexOf? hindex hplace

/-- An escaped path from the root of the project leads back to a known file, with no fragment,
exactly if it has no mark of a fragment or a query: escapes are decoded before these are sought. -/
theorem escaped_path_leads_back_iff (hkeep : Keeps keep) (htarget : Path.IsNormal target)
    (hknown : target ∈ known) (exists? : String → Bool) (strict : Bool) (source : String) :
    resolve known exists? strict (escapedLink keep target) source =
        ⟨.internal, some target, ""⟩ ↔ '#' ∉ target.toList ∧ '?' ∉ target.toList := by
  have hhead := rootOf_eq_relative_iff.1 htarget.relative
  constructor
  · intro h
    exact ⟨IsMark.not_mem_of_resolve (.inl rfl) hkeep hhead h,
      IsMark.not_mem_of_resolve (.inr rfl) hkeep hhead h⟩
  · rintro ⟨hhash, hquestion⟩
    have hread := ofStrings_escapedLink hkeep hhead source
    rw [beforeMarks_eq_self hhash hquestion, takeWhile_eq_self hhash,
      List.drop_eq_nil_of_le (Nat.le_succ _)] at hread
    have hplace : (Path.ofChars target.toList).normalize.toString = target := htarget.normal
    rw [resolve, hread, Reference.resolve, hplace, if_pos (List.contains_iff_mem.2 hknown)]

/-- Keeps strokes alone. -/
def keepStrokes (c : Char) : Bool := c == '/'

theorem keeps_keepStrokes : Keeps keepStrokes := by
  intro c hc
  obtain rfl := eq_of_beq hc
  decide

theorem escaped_percent_leads_back :
    "a/50%: b.md" ∈ ["a/50%: b.md", "c.md"] ∧
      resolve ["a/50%: b.md", "c.md"] (fun _ => false) false
        (escapedLink keepStrokes "a/50%: b.md") "c.md" = ⟨.internal, some "a/50%: b.md", ""⟩ := by
  have hknown : "a/50%: b.md" ∈ ["a/50%: b.md", "c.md"] := by decide
  have htarget : Path.IsNormal "a/50%: b.md" := ⟨rfl, by decide +kernel⟩
  refine ⟨hknown, ?_⟩
  exact (escaped_path_leads_back_iff keeps_keepStrokes htarget hknown _ false "c.md").2 (by decide)

/-- An escaped hash sets a fragment apart all the same. -/
theorem escaped_hash_cuts_off :
    ¬ ∀ (known : List String) (source target : String), (∀ path ∈ known, Path.IsNormal path) →
      target ∈ known → source ∈ known →
      resolve known (fun _ => false) false (escapedLink keepStrokes target) source =
        ⟨.internal, some target, ""⟩ := by
  intro hall
  have hknown : ∀ path ∈ ["a#b.md"], Path.IsNormal path := by
    intro path hpath
    obtain rfl := List.mem_singleton.1 hpath
    exact ⟨rfl, by decide +kernel⟩
  have hresolve := hall ["a#b.md"] "a#b.md" "a#b.md" hknown (by decide) (by decide)
  exact absurd hresolve (by decide +kernel)

end Escaped

end Continuity.Link
