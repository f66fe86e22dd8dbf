import Mathlib.Data.List.DropRight
import Continuity.Proofs.Path

/-! # Ways between places

The way from a directory to a place leads up to where the ways to both part, and down from there.
Followed from the directory and normalized, it arrives at the place.
-/

namespace Continuity

namespace Text

theorem splitOn_append_cons (separator : Char) (front back : List Char) :
    splitOn separator (front ++ separator :: back) =
      splitOn separator front ++ splitOn separator back := by
  induction front with
  | nil => simp [splitOn]
  | cons c rest ih =>
      rw [List.cons_append, splitOn, splitOn, ih]
      split
      next => rfl
      next =>
        cases hrest : splitOn separator rest with
        | nil =>
            rw [splitOn_eq] at hrest
            exact absurd hrest (List.splitOn_ne_nil separator rest)
        | cons piece pieces => rfl

end Text

namespace Path

/-! ## The directory of a text -/

theorem namesOf_append_cons (front back : List Char) :
    namesOf (front ++ '/' :: back) = namesOf front ++ namesOf back := by
  rw [namesOf, Text.splitOn_append_cons, List.filter_append, List.map_append]
  rfl

theorem namesText_cons_cons (first second : String) (rest : List String) :
    namesText (first :: second :: rest) = first.toList ++ '/' :: namesText (second :: rest) := by
  simp [namesText, List.intercalate]

/-- What stands behind the last stroke is cut off, whatever stands in front of another stroke. -/
theorem rdropWhile_append_cons (front back : List Char) :
    (front ++ '/' :: back).rdropWhile (· != '/') =
      front ++ '/' :: back.rdropWhile (· != '/') := by
  rw [List.rdropWhile, List.rdropWhile, List.reverse_append, List.reverse_cons, List.append_assoc,
    List.dropWhile_append]
  split
  next hnone =>
    rw [List.isEmpty_iff] at hnone
    simp [hnone]
  next => simp

theorem namesOf_rdropWhile {names : List String} (h : ∀ name ∈ names, IsName name) :
    namesOf ((namesText names).rdropWhile (· != '/')) = names.dropLast := by
  induction names with
  | nil => rfl
  | cons first rest ih =>
      rw [List.forall_mem_cons] at h
      cases rest with
      | nil =>
          have hall : (namesText [first]).rdropWhile (· != '/') = [] := by
            rw [List.rdropWhile_eq_nil_iff]
            intro c hc
            rw [bne_iff_ne]
            rintro rfl
            exact h.1.2.2 (by simpa [namesText] using hc)
          rw [hall]
          rfl
      | cons second rest =>
          have hsingle : ∀ name ∈ [first], IsName name := by simpa using h.1
          have hfirst : namesOf first.toList = [first] := by
            simpa [namesText] using namesOf_namesText hsingle
          rw [namesText_cons_cons, rdropWhile_append_cons, namesOf_append_cons, ih h.2, hfirst]
          rfl

/-! ## Places in a project -/

/-- A text names a place in a project by the way down from its root, in the shortest form. -/
structure IsProjectPath (text : String) : Prop where
  relative : (ofString text).root = .relative
  down : ".." ∉ (ofString text).parts
  shortest : (ofString text).toString = text

/-- The names that lead from a directory to a place, both given by the names that lead there from
the root. -/
def wayBetween : List String → List String → List String
  | first :: directory, first' :: place =>
    if first = first' then wayBetween directory place
    else (first :: directory).map (fun _ => "..") ++ first' :: place
  | directory, place => directory.map (fun _ => "..") ++ place

/-- The text of the way from the directory of a file to a place. -/
def wayFrom (source target : String) : String :=
  toString ⟨.relative, wayBetween (ofString source).parent.parts (ofString target).parts⟩

theorem wayBetween_eq (directory place : List String) : ∃ above up down,
    directory = above ++ up ∧ place = above ++ down ∧
      wayBetween directory place = up.map (fun _ => "..") ++ down := by
  fun_induction wayBetween directory place with
  | case1 directory first place ih =>
      obtain ⟨above, up, down, rfl, rfl, hway⟩ := ih
      exact ⟨first :: above, up, down, rfl, rfl, hway⟩
  | case2 => exact ⟨[], _, _, rfl, rfl, rfl⟩
  | case3 => exact ⟨[], _, _, rfl, rfl, rfl⟩

/-! ## Following a way -/

theorem foldl_normalStep_down {names : List String} (h : ".." ∉ names) (rooted : Bool)
    (reversed : List String) :
    names.foldl (normalStep rooted) reversed = names.reverse ++ reversed := by
  induction names generalizing reversed with
  | nil => rfl
  | cons first rest ih =>
      rw [List.mem_cons, not_or] at h
      have hstep : normalStep rooted reversed first = first :: reversed := by
        cases reversed <;> simp [normalStep, Ne.symm h.1]
      rw [List.foldl_cons, hstep, ih h.2]
      simp

theorem foldl_normalStep_up {names : List String} (h : ".." ∉ names) (rooted : Bool)
    (reversed : List String) :
    (names.map fun _ => "..").foldl (normalStep rooted) (names ++ reversed) = reversed := by
  induction names with
  | nil => rfl
  | cons first rest ih =>
      rw [List.mem_cons, not_or] at h
      have hstep : normalStep rooted (first :: (rest ++ reversed)) ".." = rest ++ reversed := by
        simp [normalStep, Ne.symm h.1]
      rw [List.map_cons, List.foldl_cons, List.cons_append, hstep, ih h.2]

theorem normalize_of_down {p : Path} (h : ".." ∉ p.parts) : p.normalize = p := by
  rw [normalize, foldl_normalStep_down h]
  simp

/-- The way from a directory to a place arrives there. -/
theorem normalize_wayBetween {directory place : List String} (hdirectory : ".." ∉ directory)
    (hplace : ".." ∉ place) (root : PathRoot) :
    normalize ⟨root, directory ++ wayBetween directory place⟩ = ⟨root, place⟩ := by
  obtain ⟨above, up, down, rfl, rfl, hway⟩ := wayBetween_eq directory place
  rw [List.mem_append, not_or] at hdirectory hplace
  -- The names are stacked up in reverse, so the last ones are left first on the way up.
  have hup : up.map (fun _ => "..") = up.reverse.map fun _ => ".." := by
    rw [List.map_const', List.map_const', List.length_reverse]
  have hup' : ".." ∉ up.reverse := by simpa using hdirectory.2
  rw [hway, normalize]
  dsimp only
  rw [List.foldl_append, List.foldl_append, List.foldl_append, foldl_normalStep_down hdirectory.1,
    foldl_normalStep_down hdirectory.2, hup, foldl_normalStep_up hup',
    foldl_normalStep_down hplace.2]
  simp

/-! ## The normal form -/

theorem mem_of_mem_foldl_normalStep {rooted : Bool} {names reversed : List String} {name : String}
    (h : name ∈ names.foldl (normalStep rooted) reversed) : name ∈ names ∨ name ∈ reversed := by
  induction names generalizing reversed with
  | nil => exact .inr h
  | cons first rest ih =>
      have hstep {other : String} (hother : other ∈ normalStep rooted reversed first) :
          other = first ∨ other ∈ reversed := by
        cases reversed with
        | nil =>
            rw [normalStep] at hother
            split at hother
            · cases hother
            · exact .inl (List.mem_singleton.1 hother)
        | cons last rest =>
            rw [normalStep] at hother
            split at hother
            · exact List.mem_cons.1 hother
            · exact .inr (List.mem_cons_of_mem _ hother)
      rcases ih h with hrest | hlater
      · exact .inl (List.mem_cons_of_mem _ hrest)
      · exact (hstep hlater).imp_left fun heq => List.mem_cons.2 (.inl heq)

theorem isPlain_normalize {p : Path} (h : p.IsPlain) : p.normalize.IsPlain := by
  intro name hname
  rcases mem_of_mem_foldl_normalStep (List.mem_reverse.1 hname) with hmem | hnone
  · exact h name hmem
  · cases hnone

theorem isPlain_append {p q : Path} (hp : p.IsPlain) (hq : q.IsPlain) : (p ++ q).IsPlain := by
  show (append p q).IsPlain
  rw [append]
  split
  · exact hq
  · exact List.forall_mem_append.2 ⟨hp, hq⟩

theorem root_append {p q : Path} (h : q.root = .relative) : (p ++ q).root = p.root := by
  show (append p q).root = p.root
  rw [append, isAbsolute, h]
  rfl

/-- One more name keeps the names for "up" where they are reached last on the way back. -/
theorem normalStep_up_last {back : List String} (h : ".." ∉ back) (n : Nat) (name : String) :
    ∃ m back', normalStep false (back ++ List.replicate n "..") name =
      back' ++ List.replicate m ".." ∧ ".." ∉ back' := by
  by_cases hname : name = ".."
  · subst hname
    cases back with
    | nil =>
        refine ⟨n + 1, [], ?_, List.not_mem_nil⟩
        cases n <;> simp [normalStep, List.replicate_succ]
    | cons last rest =>
        rw [List.mem_cons, not_or] at h
        exact ⟨n, rest, by simp [normalStep, Ne.symm h.1], h.2⟩
  · refine ⟨n, name :: back, ?_, by simp [h, Ne.symm hname]⟩
    rw [List.cons_append]
    generalize back ++ List.replicate n ".." = reversed
    cases reversed <;> simp [normalStep, hname]

theorem foldl_normalStep_up_last (names : List String) {back : List String} (h : ".." ∉ back)
    (n : Nat) : ∃ m back', names.foldl (normalStep false) (back ++ List.replicate n "..") =
      back' ++ List.replicate m ".." ∧ ".." ∉ back' := by
  induction names generalizing back n with
  | nil => exact ⟨n, back, rfl, h⟩
  | cons first rest ih =>
      obtain ⟨m, back', hstep, hback⟩ := normalStep_up_last h n first
      rw [List.foldl_cons, hstep]
      exact ih hback m

/-- On a way from where one stands, names for "up" are left at the front alone. -/
theorem normalize_up_first {p : Path} (h : p.root = .relative) :
    ∃ n down, p.normalize.parts = List.replicate n ".." ++ down ∧ ".." ∉ down := by
  have hrooted : p.isAbsolute = false := by
    rw [isAbsolute, h]
    rfl
  obtain ⟨n, back, heq, hback⟩ := foldl_normalStep_up_last p.parts List.not_mem_nil 0
  refine ⟨n, back.reverse, ?_, fun hmem => hback (List.mem_reverse.1 hmem)⟩
  rw [normalize, hrooted]
  dsimp only
  rw [List.replicate_zero, List.append_nil] at heq
  rw [heq, List.reverse_append, List.reverse_replicate]

/-- A text is a way from where one stands in normal form. -/
structure IsNormal (text : String) : Prop where
  relative : (ofString text).root = .relative
  normal : (ofString text).normalize.toString = text

/-- The normal form has no characters but those of the way, besides strokes and dots. -/
theorem mem_of_mem_normalize {p : Path} (h : p.IsPlain) {c : Char} (hstroke : c ≠ '/')
    (hdot : c ≠ '.') (hc : c ∈ p.normalize.toString.toList) :
    ∃ name ∈ p.parts, c ∈ name.toList := by
  obtain ⟨name, hname, hc⟩ := (mem_toString_iff hstroke hdot (isPlain_normalize h)).1 hc
  rcases mem_of_mem_foldl_normalStep (List.mem_reverse.1 hname) with hmem | hnone
  · exact ⟨name, hmem, hc⟩
  · cases hnone

/-! ## Texts of places and ways -/

section Texts

variable {source target : String}

theorem toList_of_relative {names : List String} (h : ∀ name ∈ names, IsName name) :
    (toString ⟨.relative, names⟩).toList = if names = [] then ['.'] else namesText names := by
  have hnil : (rootText .relative).toList ++ namesText names = [] ↔ names = [] := by
    refine ⟨fun hnil => ?_, fun hnil => hnil ▸ rfl⟩
    exact (namesOf_namesText h).symm.trans (congrArg namesOf hnil)
  rw [toList_toString]
  simp only [hnil]
  rfl

theorem rootOf_of_head? {text : List Char} (h : text.head? ≠ some '/') :
    rootOf text = .relative := by
  cases text with
  | nil => rfl
  | cons c rest =>
      have hc : c ≠ '/' := fun heq => h (congrArg some heq)
      rw [rootOf] <;> simp [hc]

theorem head?_of_relative {names : List String} (h : ∀ name ∈ names, IsName name) :
    (toString ⟨.relative, names⟩).toList.head? ≠ some '/' := by
  rw [toList_of_relative h]
  split
  next => decide
  next => exact head?_namesText h

theorem toList_toString_ne_nil (p : Path) : p.toString.toList ≠ [] := by
  rw [toList_toString]
  split
  next => exact List.cons_ne_nil _ _
  next h => exact h

namespace IsProjectPath

theorem ofString_eq (h : IsProjectPath source) :
    ofString source = ⟨.relative, (ofString source).parts⟩ :=
  congrArg (Path.mk · _) h.relative

theorem toList_eq (h : IsProjectPath source) :
    source.toList =
      if (ofString source).parts = [] then ['.'] else namesText (ofString source).parts := by
  rw [← toList_of_relative (isPlain_ofString source), ← h.ofString_eq, h.shortest]

theorem head?_ne (h : IsProjectPath source) : source.toList.head? ≠ some '/' := by
  have hhead := head?_of_relative (isPlain_ofString source)
  rwa [← h.ofString_eq, h.shortest] at hhead

/-- The directory that the text of a place begins with. -/
theorem directoryOfChars_eq (h : IsProjectPath source) :
    directoryOfChars source.toList = (ofString source).parent := by
  rw [h.toList_eq, parent, h.relative]
  split
  next hnil =>
    rw [hnil]
    rfl
  next =>
    have hplain := isPlain_ofString source
    obtain ⟨tail, htail⟩ := List.rdropWhile_prefix (· != '/') (namesText (ofString source).parts)
    have hhead : ((namesText (ofString source).parts).rdropWhile (· != '/')).head? ≠ some '/' := by
      intro hhead
      refine head?_namesText hplain ?_
      rw [← htail, List.head?_append, hhead]
      rfl
    exact congrArg₂ Path.mk (rootOf_of_head? hhead) (namesOf_rdropWhile hplain)

end IsProjectPath

theorem isName_wayBetween {directory place : List String} (h : ∀ name ∈ place, IsName name) :
    ∀ name ∈ wayBetween directory place, IsName name := by
  obtain ⟨above, up, down, -, rfl, hway⟩ := wayBetween_eq directory place
  rw [hway]
  intro name hname
  rcases List.mem_append.1 hname with hname | hname
  · obtain ⟨-, -, rfl⟩ := List.mem_map.1 hname
    exact ⟨by decide, by decide, by decide⟩
  · exact h name (List.mem_append_right _ hname)

end Texts

end Path

end Continuity
