import Mathlib.Data.List.Lex
import Mathlib.Data.String.Basic
import Continuity.Path

/-! # Paths and their texts

The names of a path that is read from a text have no strokes, and none of them is empty or means
"here". Such a path is read back from its own text. So different paths are written differently, and
the order of paths tells them apart.
-/

namespace Continuity

namespace Text

theorem splitOn_eq (separator : Char) (cs : List Char) :
    splitOn separator cs = List.splitOn separator cs := by
  induction cs with
  | nil => rfl
  | cons c rest ih =>
      rw [splitOn, List.splitOn_cons_eq_if_modifyHead, ih]
      split
      next => rfl
      next =>
        cases hrest : List.splitOn separator rest with
        | nil => exact absurd hrest (List.splitOn_ne_nil separator rest)
        | cons piece pieces => rfl

theorem not_mem_of_mem_splitOn {separator : Char} {piece cs : List Char}
    (h : piece ∈ splitOn separator cs) : separator ∉ piece := by
  induction cs generalizing piece with
  | nil =>
      obtain rfl := List.mem_singleton.1 h
      exact List.not_mem_nil
  | cons c rest ih =>
      rw [splitOn] at h
      split at h
      next =>
        rcases List.mem_cons.1 h with rfl | h
        · exact List.not_mem_nil
        · exact ih h
      next hc =>
        have hc : separator ≠ c := fun heq => hc (by simp [heq])
        split at h
        next => simp_all
        next first pieces heq =>
          rcases List.mem_cons.1 h with rfl | h
          · exact List.not_mem_cons_of_ne_of_not_mem hc (ih (heq ▸ List.mem_cons_self))
          · exact ih (heq ▸ List.mem_cons_of_mem _ h)

theorem mem_iff_exists_mem_splitOn {separator c : Char} (hne : c ≠ separator) {cs : List Char} :
    c ∈ cs ↔ ∃ piece ∈ splitOn separator cs, c ∈ piece := by
  induction cs with
  | nil => simp [splitOn]
  | cons d rest ih =>
      rw [splitOn, List.mem_cons, ih]
      split
      next hd =>
        obtain rfl := eq_of_beq hd
        simp [hne]
      next =>
        cases splitOn separator rest with
        | nil => simp
        | cons piece pieces => simp [or_assoc]

theorem joinWith_cons {separator : Char} (piece : List Char) {pieces : List (List Char)}
    (h : pieces ≠ []) : joinWith separator (piece :: pieces) =
      piece ++ separator :: joinWith separator pieces := by
  cases pieces with
  | nil => exact absurd rfl h
  | cons => rfl

theorem joinWith_splitOn (separator : Char) (cs : List Char) :
    joinWith separator (splitOn separator cs) = cs := by
  induction cs with
  | nil => rfl
  | cons c rest ih =>
      have hne : splitOn separator rest ≠ [] :=
        splitOn_eq separator rest ▸ List.splitOn_ne_nil separator rest
      rw [splitOn]
      split
      next hc => rw [joinWith_cons [] hne, ih, List.nil_append, eq_of_beq hc]
      next =>
        cases hpieces : splitOn separator rest with
        | nil => exact absurd hpieces hne
        | cons piece pieces =>
            rw [hpieces] at ih
            cases pieces with
            | nil => exact congrArg (c :: ·) ih
            | cons => exact congrArg (c :: ·) ih

end Text

namespace Path

/-- A name can stand in the text of a path. -/
def IsName (name : String) : Prop := name ≠ "" ∧ name ≠ "." ∧ '/' ∉ name.toList

/-- All names of a path can stand in its text. -/
def IsPlain (p : Path) : Prop := ∀ name ∈ p.parts, IsName name

instance (p : Path) : Decidable p.IsPlain :=
  inferInstanceAs (Decidable (∀ name ∈ p.parts, name ≠ "" ∧ name ≠ "." ∧ '/' ∉ name.toList))

variable {p q : Path}

theorem isPlain_ofString (text : String) : (ofString text).IsPlain := by
  intro name hname
  obtain ⟨piece, hpiece, rfl⟩ := List.mem_map.1 hname
  obtain ⟨hmem, hkept⟩ := List.mem_filter.1 hpiece
  rw [Bool.and_eq_true, Bool.not_eq_true', List.isEmpty_eq_false_iff, bne_iff_ne] at hkept
  refine ⟨?_, ?_, ?_⟩
  · intro hempty
    exact hkept.1 (by simpa using congrArg String.toList hempty)
  · intro hhere
    exact hkept.2 (by simpa using congrArg String.toList hhere)
  · rw [String.toList_ofList]
    exact Text.not_mem_of_mem_splitOn hmem

/-! ## Reading a text back -/

/-- The names of a path with strokes between them. -/
def namesText (names : List String) : List Char := ['/'].intercalate (names.map String.toList)

theorem toList_toString (p : Path) :
    p.toString.toList = if (rootText p.root).toList ++ namesText p.parts = [] then ['.']
      else (rootText p.root).toList ++ namesText p.parts := by
  have htext : (rootText p.root ++ "/".intercalate p.parts).toList =
      (rootText p.root).toList ++ namesText p.parts := by
    rw [String.toList_append, String.toList_intercalate]
    rfl
  rw [toString]
  split
  next hempty =>
    rw [String.isEmpty_iff] at hempty
    rw [if_pos (by rw [← htext, hempty]; rfl)]
    rfl
  next hnonempty =>
    rw [if_neg ?_, htext]
    rw [← htext]
    intro hnil
    exact hnonempty (String.isEmpty_iff.2 (String.toList_inj.1 hnil))

theorem namesOf_namesText {names : List String} (h : ∀ name ∈ names, IsName name) :
    namesOf (namesText names) = names := by
  cases names with
  | nil => rfl
  | cons first rest =>
      have hpieces : ∀ piece ∈ (first :: rest).map String.toList, '/' ∉ piece := by
        intro piece hpiece
        obtain ⟨name, hname, rfl⟩ := List.mem_map.1 hpiece
        exact (h name hname).2.2
      have hkept : ∀ piece ∈ (first :: rest).map String.toList,
          (!piece.isEmpty && piece != ['.']) = true := by
        intro piece hpiece
        obtain ⟨name, hname, rfl⟩ := List.mem_map.1 hpiece
        obtain ⟨hempty, hhere, -⟩ := h name hname
        rw [Bool.and_eq_true, Bool.not_eq_true', List.isEmpty_eq_false_iff, bne_iff_ne]
        refine ⟨fun heq => hempty (String.toList_inj.1 heq), fun heq => hhere ?_⟩
        exact String.toList_inj.1 heq
      -- The pieces between the strokes are the names, and none of them is left out.
      rw [namesOf, namesText, Text.splitOn_eq, List.splitOn_intercalate '/' hpieces (by simp),
        List.filter_eq_self.2 hkept, List.map_map]
      simp

/-- Strokes in front do not add names. -/
theorem namesOf_cons_stroke (text : List Char) : namesOf ('/' :: text) = namesOf text := by
  simp [namesOf, Text.splitOn]

theorem head?_namesText {names : List String} (h : ∀ name ∈ names, IsName name) :
    (namesText names).head? ≠ some '/' := by
  cases names with
  | nil => simp [namesText]
  | cons first rest =>
      obtain ⟨hempty, -, hstroke⟩ := h first List.mem_cons_self
      cases hfirst : first.toList with
      | nil => exact absurd (String.toList_inj.1 hfirst) hempty
      | cons c cs =>
          have hc : c ≠ '/' := by
            rintro rfl
            exact hstroke (hfirst ▸ List.mem_cons_self)
          cases rest <;> simp [namesText, hfirst, hc]

/-- What stands in a text of names besides strokes and dots stands in one of the names. -/
theorem mem_namesOf_iff {c : Char} (hstroke : c ≠ '/') (hdot : c ≠ '.') {text : List Char} :
    c ∈ text ↔ ∃ name ∈ namesOf text, c ∈ name.toList := by
  rw [Text.mem_iff_exists_mem_splitOn hstroke]
  constructor
  · rintro ⟨piece, hpiece, hc⟩
    have hkept : (!piece.isEmpty && piece != ['.']) = true := by
      rw [Bool.and_eq_true, Bool.not_eq_true', List.isEmpty_eq_false_iff, bne_iff_ne]
      refine ⟨List.ne_nil_of_mem hc, ?_⟩
      rintro rfl
      exact hdot (List.mem_singleton.1 hc)
    refine ⟨_, List.mem_map_of_mem (List.mem_filter.2 ⟨hpiece, hkept⟩), ?_⟩
    rwa [String.toList_ofList]
  · rintro ⟨name, hname, hc⟩
    obtain ⟨piece, hpiece, rfl⟩ := List.mem_map.1 hname
    rw [String.toList_ofList] at hc
    exact ⟨piece, (List.mem_filter.1 hpiece).1, hc⟩

theorem rootOf_append {names : List String} (h : ∀ name ∈ names, IsName name) (root : PathRoot) :
    rootOf ((rootText root).toList ++ namesText names) = root := by
  -- The names start with no stroke, so all strokes in front belong to the root.
  have hhead := head?_namesText h
  cases htext : namesText names with
  | nil => cases root <;> rfl
  | cons c cs =>
      have hc : c ≠ '/' := by
        rintro rfl
        exact hhead (by simp [htext])
      cases root <;> simp [rootText, rootOf, hc]

theorem ofString_toString (h : p.IsPlain) : ofString p.toString = p := by
  obtain ⟨root, names⟩ := p
  rw [ofString, toList_toString, ofChars]
  split
  next hempty =>
    -- Only the way to where one stands has no text of its own.
    obtain ⟨hroot, hnames⟩ := List.append_eq_nil_iff.1 hempty
    obtain rfl : names = [] := (namesOf_namesText h).symm.trans (congrArg namesOf hnames)
    cases root with
    | relative => rfl
    | absolute => cases hroot
    | double => cases hroot
  next =>
    rw [rootOf_append h]
    cases root <;> simp [rootText, namesOf_cons_stroke, namesOf_namesText h]

theorem mem_toString_iff {c : Char} (hstroke : c ≠ '/') (hdot : c ≠ '.') (h : p.IsPlain) :
    c ∈ p.toString.toList ↔ ∃ name ∈ p.parts, c ∈ name.toList := by
  have hread : namesOf p.toString.toList = p.parts := congrArg parts (ofString_toString h)
  rw [mem_namesOf_iff hstroke hdot, hread]

theorem toString_inj (hp : p.IsPlain) (hq : q.IsPlain) : p.toString = q.toString ↔ p = q := by
  refine ⟨fun heq => ?_, fun heq => heq ▸ rfl⟩
  rw [← ofString_toString hp, heq, ofString_toString hq]

/-! ## What a path means -/

theorem up_not_mem_foldl_step (names : List String) {reversed : List String}
    (h : ".." ∉ reversed) : ".." ∉ names.foldl step reversed := by
  induction names generalizing reversed with
  | nil => exact h
  | cons name rest ih =>
      apply ih
      rw [step]
      split
      next => exact fun hmem => h (List.mem_of_mem_tail hmem)
      next hname => exact List.not_mem_cons_of_ne_of_not_mem (fun heq => hname (by simp [← heq])) h

theorem foldl_step_of_up_not_mem {names : List String} (h : ".." ∉ names)
    (reversed : List String) : names.foldl step reversed = names.reverse ++ reversed := by
  induction names generalizing reversed with
  | nil => rfl
  | cons name rest ih =>
      have hname : ¬(name == "..") = true := fun heq => h (by simp [eq_of_beq heq])
      rw [List.foldl_cons, step, if_neg hname, ih fun hmem => h (List.mem_cons_of_mem _ hmem)]
      simp

theorem up_not_mem_resolve (here p : Path) : ".." ∉ (resolve here p).parts := by
  intro hmem
  exact up_not_mem_foldl_step _ List.not_mem_nil (List.mem_reverse.1 hmem)

theorem resolve_of_absolute {names : List String} (h : ".." ∉ names) (here : Path) :
    resolve here ⟨.absolute, names⟩ = ⟨.absolute, names⟩ := by
  have habsolute : here ++ (⟨.absolute, names⟩ : Path) = ⟨.absolute, names⟩ := rfl
  rw [resolve, habsolute, foldl_step_of_up_not_mem h, List.append_nil, List.reverse_reverse]

/-- What a path means does not depend on where one stands, once it is known. -/
theorem resolve_resolve (base here p : Path) : resolve base (resolve here p) = resolve here p :=
  resolve_of_absolute (up_not_mem_resolve here p) base

end Path

end Continuity
