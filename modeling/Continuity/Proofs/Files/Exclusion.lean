import Mathlib.Data.List.Infix
import Continuity.Files.Discovery
import Continuity.Proofs.Data.Lists
import Continuity.Proofs.Path.Way
import Continuity.Proofs.Text.Property

/-! # What a pattern for a directory excludes

A pattern for everything in a directory excludes exactly the paths that lead through a directory of
that name, or through several of them one below the other if the name has strokes, at any depth.
Names that only contain the name do not count, nor does the last name of a path.
-/

namespace Continuity

namespace Text

theorem isSome_indexOf?_iff {needle cs : List Char} :
    (indexOf? needle cs).isSome = true ↔ needle <:+: cs := by
  induction cs with
  | nil =>
      rw [indexOf?, List.infix_nil]
      cases needle <;> simp
  | cons c rest ih =>
      rw [indexOf?, List.infix_cons_iff, ← startsWith_iff, ← ih]
      cases startsWith needle (c :: rest) <;> simp

theorem splitOn_ne_nil (separator : Char) (cs : List Char) : splitOn separator cs ≠ [] := by
  rw [splitOn_eq]
  exact List.splitOn_ne_nil separator cs

theorem splitOn_cons_self (separator : Char) (cs : List Char) :
    splitOn separator (separator :: cs) = [] :: splitOn separator cs := by
  rw [splitOn, if_pos (beq_self_eq_true separator)]

/-- A text with a separator on either side stands among separated pieces where its own pieces
stand, with at least one more behind them. -/
theorem separated_infix_iff {separator : Char} {text : List Char} {pieces : List (List Char)}
    (hne : pieces ≠ []) (hpieces : ∀ piece ∈ pieces, separator ∉ piece) :
    separator :: text ++ [separator] <:+: separator :: [separator].intercalate pieces ↔
      ∃ before after, after ≠ [] ∧ pieces = before ++ splitOn separator text ++ after := by
  constructor
  · rintro ⟨front, back, heq⟩
    -- Cut at all separators, both sides give the same pieces.
    have hsplit := calc
      [] :: pieces = splitOn separator (separator :: [separator].intercalate pieces) := by
        rw [splitOn_cons_self, splitOn_eq, List.splitOn_intercalate separator hpieces hne]
      _ = splitOn separator (front ++ separator :: (text ++ separator :: back)) := by
        rw [← heq]
        simp
      _ = splitOn separator front ++ (splitOn separator text ++ splitOn separator back) := by
        rw [splitOn_append_cons, splitOn_append_cons]
    obtain ⟨first, before, hfront⟩ := List.exists_cons_of_ne_nil (splitOn_ne_nil separator front)
    rw [hfront, List.cons_append] at hsplit
    refine ⟨before, splitOn separator back, splitOn_ne_nil separator back, ?_⟩
    rw [List.append_assoc]
    exact (List.cons.inj hsplit).2
  · rintro ⟨before, after, hafter, heq⟩
    have htext : (splitOn separator text).flatMap (separator :: ·) = separator :: text := by
      rw [← Lists.cons_intercalate separator (splitOn_ne_nil separator text), splitOn_eq,
        List.intercalate_splitOn]
    have hback : after.flatMap (separator :: ·) = separator :: [separator].intercalate after :=
      (Lists.cons_intercalate separator hafter).symm
    rw [Lists.cons_intercalate separator hne, heq, List.flatMap_append, List.flatMap_append, htext, hback]
    exact ⟨before.flatMap (separator :: ·), [separator].intercalate after, by simp⟩

end Text

namespace Files

/-! ## Patterns without wildcards -/

/-- No character of a text is a wildcard or opens one. -/
def IsLiteral (cs : List Char) : Prop := ∀ c ∈ cs, c ≠ '*' ∧ c ≠ '?' ∧ c ≠ '['

-- All characters could be gone through instead, but they are too many.
instance (cs : List Char) : Decidable (IsLiteral cs) :=
  List.decidableBAll (fun c => c ≠ '*' ∧ c ≠ '?' ∧ c ≠ '[') cs

namespace Wildcard

theorem parseFrom_append {front : List Char} (h : IsLiteral front) (back : List Char) :
    parseFrom 0 (front ++ back) = front.map .char ++ parseFrom 0 back := by
  induction front with
  | nil => rfl
  | cons c rest ih =>
      obtain ⟨⟨hstar, hmark, hbracket⟩, hrest⟩ := List.forall_mem_cons.1 h
      rw [List.cons_append, parseFrom, ih hrest]
      simp [hstar, hmark, hbracket]

theorem matchesAll_char (c d : Char) (pieces : List Wildcard) (name : List Char) :
    matchesAll (.char c :: pieces) (d :: name) = (d == c && matchesAll pieces name) := rfl

theorem matchesAll_append (front : List Char) (pieces : List Wildcard) (name : List Char) :
    matchesAll (front.map .char ++ pieces) name = true ↔
      ∃ back, name = front ++ back ∧ matchesAll pieces back = true := by
  induction front generalizing name with
  | nil => simp
  | cons c rest ih =>
      cases name with
      | nil => simp [matchesAll]
      | cons d name =>
          rw [List.map_cons, List.cons_append, matchesAll_char, Bool.and_eq_true, beq_iff_eq, ih]
          constructor
          · rintro ⟨rfl, back, rfl, hback⟩
            exact ⟨back, rfl, hback⟩
          · rintro ⟨back, heq, hback⟩
            obtain ⟨rfl, rfl⟩ := List.cons.inj heq
            exact ⟨rfl, back, rfl, hback⟩

end Wildcard

/-! ## Patterns for directories -/

/-- What follows the name of a directory in a pattern for everything in it. -/
theorem directoryOf?_append (directory : List Char) :
    directoryOf? (directory ++ ['/', '*', '*']) = some directory := by
  simp [directoryOf?]

theorem excludes_directory_iff {directory : List Char} (h : IsLiteral directory)
    (path : List Char) :
    excludes path (directory ++ ['/', '*', '*']) = true ↔
      '/' :: directory ++ ['/'] <:+: '/' :: path := by
  rw [excludes, directoryOf?_append, Bool.or_eq_true, Text.isSome_indexOf?_iff,
    or_iff_right_iff_imp]
  -- What the wildcards match leads through the directory from the start.
  rw [Wildcard.parseFrom_append h, Wildcard.matchesAll_append]
  rintro ⟨back, rfl, hback⟩
  cases back with
  | nil => cases hback
  | cons c rest =>
      change Wildcard.matchesAll [.char '/', .anyRun, .anyRun] (c :: rest) = true at hback
      rw [Wildcard.matchesAll_char, Bool.and_eq_true, beq_iff_eq] at hback
      obtain ⟨rfl, -⟩ := hback
      exact ⟨[], rest, by simp⟩

/-- The text of a way has the name of a directory between strokes where the names of the way lead
through that directory. -/
theorem directory_infix_iff {directory : String} {names : List String}
    (h : ∀ name ∈ names, Path.IsName name) :
    '/' :: directory.toList ++ ['/'] <:+: '/' :: (Path.toString ⟨.relative, names⟩).toList ↔
      ∃ before after, after ≠ [] ∧ names = before ++ splitString '/' directory ++ after := by
  rw [Path.toList_of_relative h]
  by_cases hnames : names = []
  · -- A way that leads nowhere has the text of a single name.
    subst hnames
    have hdot : '/' :: directory.toList ++ ['/'] <:+: '/' :: ['/'].intercalate [['.']] ↔
        ∃ before after, after ≠ [] ∧
          [['.']] = before ++ Text.splitOn '/' directory.toList ++ after :=
      Text.separated_infix_iff (List.cons_ne_nil _ _) (by decide)
    rw [List.intercalate_singleton] at hdot
    rw [if_pos rfl, hdot]
    have hpieces := List.length_pos_iff.2 (Text.splitOn_ne_nil '/' directory.toList)
    constructor
    · rintro ⟨before, after, hafter, heq⟩
      have hlength := congrArg List.length heq
      have := List.length_pos_iff.2 hafter
      simp only [List.length_append, List.length_singleton] at hlength
      omega
    · rintro ⟨before, after, hafter, heq⟩
      simp_all
  · rw [if_neg hnames, Path.namesText, Text.separated_infix_iff (by simpa using hnames)]
    · constructor
      · rintro ⟨before, after, hafter, heq⟩
        refine ⟨before.map String.ofList, after.map String.ofList, by simpa using hafter, ?_⟩
        rw [splitString, ← List.map_append, ← List.map_append, ← heq, List.map_map]
        simp
      · rintro ⟨before, after, hafter, rfl⟩
        refine ⟨before.map String.toList, after.map String.toList, by simpa using hafter, ?_⟩
        simp [splitString]
    · intro piece hpiece
      obtain ⟨name, hname, rfl⟩ := List.mem_map.1 hpiece
      exact (h name hname).2.2

theorem isExcluded_iff_of_directory {directory : String} (hliteral : IsLiteral directory.toList)
    {way : Path} (hroot : way.root = .relative) (hplain : way.IsPlain) :
    isExcluded [directory ++ "/**"] way.toString = true ↔
      ∃ before after, after ≠ [] ∧ way.parts = before ++ splitString '/' directory ++ after := by
  obtain ⟨root, names⟩ := way
  obtain rfl := hroot
  have hpattern : (directory ++ "/**").toList = directory.toList ++ ['/', '*', '*'] := by
    rw [String.toList_append]
    rfl
  rw [isExcluded, List.any_cons, List.any_nil, Bool.or_false, hpattern,
    excludes_directory_iff hliteral]
  exact directory_infix_iff hplain

/-- A directory with a single name is on the way to what lies below it. -/
theorem isExcluded_iff_of_name {name : String} (hliteral : IsLiteral name.toList)
    (hname : '/' ∉ name.toList) {way : Path} (hroot : way.root = .relative)
    (hplain : way.IsPlain) :
    isExcluded [name ++ "/**"] way.toString = true ↔ name ∈ way.parts.dropLast := by
  have hsingle : splitString '/' name = [name] := by
    rw [splitString, Text.splitOn_eq, List.splitOn_eq_singleton hname]
    simp
  rw [isExcluded_iff_of_directory hliteral hroot hplain, hsingle]
  constructor
  · rintro ⟨before, after, hafter, heq⟩
    rw [heq, List.dropLast_append_of_ne_nil hafter]
    simp
  · intro hmem
    obtain ⟨before, after, heq⟩ := List.append_of_mem hmem
    have hne : way.parts ≠ [] := by
      intro hnil
      simp [hnil] at hmem
    refine ⟨before, after ++ [way.parts.getLast hne], by simp, ?_⟩
    calc
      way.parts = way.parts.dropLast ++ [way.parts.getLast hne] :=
        (List.dropLast_append_getLast hne).symm
      _ = before ++ [name] ++ (after ++ [way.parts.getLast hne]) := by
        rw [heq]
        simp

theorem isExcluded_iff_exists {patterns : List String} {path : String} :
    isExcluded patterns path = true ↔
      ∃ pattern ∈ patterns, isExcluded [pattern] path = true := by
  simp [isExcluded]

/-- A pattern for everything in a directory excludes the paths that lead through that directory to
something in it, wherever it lies. A list of patterns excludes what one of them does. -/
theorem isExcluded_directory_iff {directory : String} (hliteral : IsLiteral directory.toList) :
    (∀ way : Path, way.root = .relative → way.IsPlain →
      (isExcluded [directory ++ "/**"] way.toString = true ↔
        ∃ before after, after ≠ [] ∧
          way.parts = before ++ splitString '/' directory ++ after)) ∧
    ∀ patterns path, isExcluded patterns path = true ↔
      ∃ pattern ∈ patterns, isExcluded [pattern] path = true :=
  ⟨fun _ hroot hplain => isExcluded_iff_of_directory hliteral hroot hplain,
    fun _ _ => isExcluded_iff_exists⟩

/-- Old drafts are excluded further down too, but neither their directory itself nor one whose name
only ends like theirs. -/
theorem oldDrafts_excluded :
    IsLiteral "drafts/old".toList ∧
    isExcluded ["drafts/old" ++ "/**"]
      (Path.toString ⟨.relative, ["part", "drafts", "old", "a.md"]⟩) = true ∧
    ¬isExcluded ["drafts/old" ++ "/**"]
      (Path.toString ⟨.relative, ["part", "drafts", "old"]⟩) = true ∧
    ¬isExcluded ["drafts/old" ++ "/**"]
      (Path.toString ⟨.relative, ["mydrafts", "old", "a.md"]⟩) = true := by
  have hliteral : IsLiteral "drafts/old".toList := by decide
  have hpieces : splitString '/' "drafts/old" = ["drafts", "old"] := by decide
  have hexcluded := (isExcluded_directory_iff hliteral).1
  rw [hpieces] at hexcluded
  -- Three names have room for the directory only right at their front.
  have hkept {first second third : String} (hne : first ≠ "drafts") :
      ¬∃ before after : List String, after ≠ [] ∧
        [first, second, third] = before ++ ["drafts", "old"] ++ after := by
    rintro ⟨before, after, hafter, heq⟩
    cases before with
    | nil => exact hne (List.cons.inj heq).1
    | cons name before =>
        have hlength := congrArg List.length heq
        have hpos := List.length_pos_iff.2 hafter
        simp only [List.length_append, List.length_cons, List.length_nil] at hlength
        omega
  refine ⟨hliteral, ?_, ?_, ?_⟩
  · exact (hexcluded _ rfl (by decide)).2 ⟨["part"], ["a.md"], List.cons_ne_nil _ _, rfl⟩
  · rw [hexcluded _ rfl (by decide)]
    exact hkept (by decide)
  · rw [hexcluded _ rfl (by decide)]
    exact hkept (by decide)

end Files

end Continuity
