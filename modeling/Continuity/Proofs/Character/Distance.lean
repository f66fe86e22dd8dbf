import Mathlib.Data.List.Basic
import Mathlib.Data.List.Induction
import Mathlib.Order.Bounds.Defs
import Mathlib.Order.MinMax
import Continuity.Character.Distance
import Continuity.Proofs.Text.Casing

/-! # What the table of distances holds

The cell of two beginnings of texts is their distance, which follows from the distances of shorter
beginnings. Two texts are treated alike by that, so their distance is the same either way round.

An alignment goes through two texts from left to right, by edits that make the second one of the
first. The table leads to the least cost that an alignment of the two texts has.
-/

namespace Continuity.Character

/-- The distance if the last letters of two texts are inserted, deleted, replaced or kept: `up` is
the distance without the one, `left` without the other, and `diagonal` without both. -/
def editedCell (x y : Char) (up left diagonal : Nat) : Nat :=
  min (min (up + 1) (left + 1)) (diagonal + if x = y then 0 else 1)

theorem editedCell_comm (x y : Char) (up left diagonal : Nat) :
    editedCell x y up left diagonal = editedCell y x left up diagonal := by
  simp only [editedCell, min_comm (up + 1), eq_comm (a := x)]

/-- The distance of two texts that are given with their last letters first. -/
def distanceBack : (a b : List Char) → Nat
  | [], b => b.length
  | a, [] => a.length
  | x :: a, y :: b =>
    let edited := editedCell x y (distanceBack a (y :: b)) (distanceBack (x :: a) b)
      (distanceBack a b)
    match a, b with
    | w :: a, z :: b => if x = z ∧ w = y then min edited (distanceBack a b + 1) else edited
    | _, _ => edited
termination_by a b => a.length + b.length

@[simp] theorem distanceBack_nil (b : List Char) : distanceBack [] b = b.length := by
  rw [distanceBack]

@[simp] theorem distanceBack_nil_right (a : List Char) : distanceBack a [] = a.length := by
  cases a <;> simp [distanceBack]

theorem distanceBack_comm (a b : List Char) : distanceBack a b = distanceBack b a := by
  -- A swap of the last two letters looks the same from either text, and so does a lack of one.
  fun_induction distanceBack a b with
  | case1 b => simp
  | case2 a => simp
  | case3 x y w a z b hswap edited hrow hcolumn hboth htwo =>
      have hswap' : y = w ∧ z = x := ⟨hswap.2.symm, hswap.1.symm⟩
      rw [distanceBack]
      rw [if_pos hswap', ← hrow, ← hcolumn, ← hboth, ← htwo, editedCell_comm]
  | case4 x y w a z b hswap edited hrow hcolumn hboth =>
      have hswap' : ¬(y = w ∧ z = x) := fun h => hswap ⟨h.2.symm, h.1.symm⟩
      rw [distanceBack]
      rw [if_neg hswap', ← hrow, ← hcolumn, ← hboth, editedCell_comm]
  | case5 x a y b edited hshort hrow hcolumn hboth =>
      have hshort' : ∀ w a' z b', b = w :: a' → a = z :: b' → False :=
        fun w a' z b' hb ha => hshort z b' w a' ha hb
      rw [distanceBack]
      · rw [← hrow, ← hcolumn, ← hboth, editedCell_comm]
      · exact hshort'

/-! ## The table -/

/-- The rest of the row of a text: its distances to a beginning and to the longer ones that more
letters make of it. -/
def rowBack (a b : List Char) : List Char → List Nat
  | [] => [distanceBack a b]
  | y :: ys => distanceBack a b :: rowBack a (y :: b) ys

/-- The row that a swap would come from, if the row is not the first one and a swap is possible. -/
def rowOfSwap (b ys : List Char) : List Char → List Nat
  | [] => []
  | _ :: a =>
    match b with
    | [] => rowBack a [] ys
    | z :: b => rowBack a b (z :: ys)

theorem rowBack_eq_cons (a b ys : List Char) :
    rowBack a b ys = distanceBack a b :: (rowBack a b ys).tail := by
  cases ys <;> rfl

theorem getLastD_rowBack (a b ys : List Char) (n : Nat) :
    (rowBack a b ys).getLastD n = distanceBack a (ys.reverse ++ b) := by
  induction ys generalizing b n with
  | nil => rfl
  | cons y ys ih => rw [rowBack, List.getLastD_cons, ih, List.reverse_cons, List.append_assoc]; rfl

theorem rowBack_nil (b ys : List Char) :
    rowBack [] b ys = List.range' b.length (ys.length + 1) := by
  induction ys generalizing b with
  | nil => simp [rowBack]
  | cons y ys ih => rw [rowBack, ih, List.length_cons, List.range'_succ, distanceBack_nil]; rfl

/-- A cell is filled from the cells around it with the distance that it stands for, and the next one
is filled in the same way. -/
theorem cells_cons (x y : Char) (a b ys : List Char) :
    cells x a.head? b.head? (distanceBack (x :: a) b) (y :: ys) (rowBack a b (y :: ys))
        (rowOfSwap b (y :: ys) a) =
      distanceBack (x :: a) (y :: b) ::
        cells x a.head? (some y) (distanceBack (x :: a) (y :: b)) ys (rowBack a (y :: b) ys)
          (rowOfSwap (y :: b) ys a) := by
  have hrow := rowBack_eq_cons a (y :: b) ys
  generalize (rowBack a (y :: b) ys).tail = above at hrow
  rw [rowBack, hrow]
  -- Letters can only be swapped where both beginnings have two of them.
  cases a with
  | nil => simp [cells, distanceBack, editedCell, rowOfSwap]
  | cons w a =>
      cases b with
      | nil => simp [cells, distanceBack, editedCell, rowOfSwap]
      | cons z b => simp [cells, distanceBack, editedCell, rowOfSwap, rowBack]

/-- The cells of a row are the distances of the beginnings that they belong to. -/
theorem cells_eq (x : Char) (a b ys : List Char) :
    cells x a.head? b.head? (distanceBack (x :: a) b) ys (rowBack a b ys) (rowOfSwap b ys a) =
      (rowBack (x :: a) b ys).tail := by
  induction ys generalizing b with
  | nil => rfl
  | cons y ys ih =>
      rw [cells_cons, rowBack, List.tail_cons, rowBack_eq_cons (x :: a) (y :: b)]
      exact congrArg _ (ih (y :: b))

/-- Below the row of a beginning, the table leads to the distance of the whole texts. -/
theorem lastCell_eq (b a rest : List Char) :
    lastCell b a.head? a.length (rowBack a [] b) (rowOfSwap [] b a) rest =
      distanceBack (rest.reverse ++ a) b.reverse := by
  induction rest generalizing a with
  | nil => rw [lastCell, getLastD_rowBack, List.append_nil]; rfl
  | cons x rest ih =>
      have hrow : (a.length + 1) :: cells x a.head? none (a.length + 1) b (rowBack a [] b)
          (rowOfSwap [] b a) = rowBack (x :: a) [] b := by
        have hcells := cells_eq x a [] b
        rw [distanceBack_nil_right] at hcells
        rw [rowBack_eq_cons (x :: a), ← hcells, distanceBack_nil_right]
        rfl
      rw [lastCell, hrow, List.reverse_cons, List.append_assoc]
      exact ih (x :: a)

theorem distance_eq (a b : List Char) : distance a b = distanceBack a.reverse b.reverse := by
  have hrow : List.range (b.length + 1) = rowBack [] [] b := by
    rw [rowBack_nil, List.range_eq_range']
    rfl
  rw [distance, hrow, ← List.append_nil a.reverse]
  exact lastCell_eq b [] a

theorem distance_comm (a b : List Char) : distance a b = distance b a := by
  rw [distance_eq, distance_eq, distanceBack_comm]

theorem length_le_add_distanceBack (a b : List Char) :
    a.length ≤ b.length + distanceBack a b := by
  fun_induction distanceBack a b with
  | case1 b => exact Nat.zero_le _
  | case2 a => simp
  | case3 x y w a z b hswap edited hrow hcolumn hboth htwo =>
      simp only [edited, editedCell, List.length_cons] at hrow hcolumn hboth htwo ⊢
      omega
  | case4 x y w a z b hswap edited hrow hcolumn hboth =>
      simp only [edited, editedCell, List.length_cons] at hrow hcolumn hboth ⊢
      omega
  | case5 x a y b edited hshort hrow hcolumn hboth =>
      simp only [edited, editedCell, List.length_cons] at hrow hcolumn hboth ⊢
      omega

/-- No fewer letters are to be edited than one text is longer by. -/
theorem length_le_add_distance (a b : List Char) : a.length ≤ b.length + distance a b := by
  rw [distance_eq]
  simpa using length_le_add_distanceBack a.reverse b.reverse

/-- The lengths need no look of their own: they differ by no more than the distance. -/
theorem isWithin_iff {limit : Int} {a b : List Char} :
    isWithin limit a b = true ↔ Text.foldChars a ≠ Text.foldChars b ∧
      (distance (Text.foldChars a) (Text.foldChars b) : Int) ≤ limit := by
  have hlength := length_le_add_distance (Text.foldChars a) (Text.foldChars b)
  have hlength' := length_le_add_distance (Text.foldChars b) (Text.foldChars a)
  rw [distance_comm] at hlength'
  simp only [isWithin, Bool.and_eq_true, bne_iff_ne, decide_eq_true_eq]
  constructor
  · rintro ⟨⟨hapart, -⟩, hnear⟩
    exact ⟨hapart, hnear⟩
  · rintro ⟨hapart, hnear⟩
    exact ⟨⟨hapart, by omega⟩, hnear⟩

theorem isWithin_comm (limit : Int) (a b : List Char) :
    isWithin limit a b = isWithin limit b a := by
  rw [Bool.eq_iff_iff, isWithin_iff, isWithin_iff, ne_comm, distance_comm]

theorem isWithin_mono {limit larger : Int} {a b : List Char} (h : limit ≤ larger)
    (hwithin : isWithin limit a b = true) : isWithin larger a b = true := by
  obtain ⟨hapart, hnear⟩ := isWithin_iff.1 hwithin
  exact isWithin_iff.2 ⟨hapart, hnear.trans h⟩

theorem isWithin_congr {limit : Int} {a b a' b' : List Char}
    (ha : Text.foldChars a' = Text.foldChars a) (hb : Text.foldChars b' = Text.foldChars b) :
    isWithin limit a' b' = isWithin limit a b := by
  rw [isWithin, isWithin, ha, hb]

/-! ## Alignments -/

/-- What is done with the next letters of two texts. -/
inductive Edit where
  | keep (c : Char)
  | replace (c d : Char)
  | insert (d : Char)
  | delete (c : Char)
  /-- Two neighbours change places, and are not edited again. -/
  | swap (c d : Char)
  deriving Repr, DecidableEq

namespace Edit

/-- The letters of the first text that an edit goes past. -/
def source : Edit → List Char
  | keep c => [c]
  | replace c _ => [c]
  | insert _ => []
  | delete c => [c]
  | swap c d => [c, d]

/-- The letters of the second text that an edit goes past. -/
def target : Edit → List Char
  | keep c => [c]
  | replace _ d => [d]
  | insert d => [d]
  | delete _ => []
  | swap c d => [d, c]

def cost : Edit → Nat
  | keep _ => 0
  | _ => 1

/-- Only letters that are kept cost nothing. -/
theorem source_eq_target : ∀ {e : Edit}, e.cost = 0 → e.source = e.target
  | keep _, _ => rfl

end Edit

/-- Edits that go through all of two texts. -/
structure Alignment (a b : List Char) where
  edits : List Edit
  source_eq : edits.flatMap Edit.source = a
  target_eq : edits.flatMap Edit.target = b

namespace Alignment

variable {a b : List Char}

def cost (A : Alignment a b) : Nat := (A.edits.map Edit.cost).sum

def empty : Alignment [] [] := ⟨[], rfl, rfl⟩

/-- An alignment that goes on with an edit. -/
def push (A : Alignment a b) (e : Edit) : Alignment (a ++ e.source) (b ++ e.target) where
  edits := A.edits ++ [e]
  source_eq := by rw [List.flatMap_append, A.source_eq, List.flatMap_singleton]
  target_eq := by rw [List.flatMap_append, A.target_eq, List.flatMap_singleton]

/-- The alignment of a text with itself that keeps all letters. -/
def refl (a : List Char) : Alignment a a where
  edits := a.map .keep
  source_eq := by simp [List.flatMap_map, Edit.source]
  target_eq := by simp [List.flatMap_map, Edit.target]

theorem cost_refl (a : List Char) : (refl a).cost = 0 := by
  have hkept : Edit.cost ∘ .keep = fun _ => 0 := rfl
  simp [cost, refl, hkept]

theorem cost_push (A : Alignment a b) (e : Edit) : (A.push e).cost = A.cost + e.cost := by
  simp [cost, push]

/-- An alignment that costs nothing keeps all letters. -/
theorem eq_of_cost_eq_zero (A : Alignment a b) (h : A.cost = 0) : a = b := by
  have hkept : ∀ e ∈ A.edits, e.source = e.target := fun e he =>
    Edit.source_eq_target (List.sum_eq_zero_iff_forall_eq_nat.1 h _ (List.mem_map_of_mem he))
  calc
    a = A.edits.flatMap Edit.source := A.source_eq.symm
    _ = A.edits.flatMap Edit.target := List.flatMap_congr hkept
    _ = b := A.target_eq

/-- What the alignments of two texts cost. -/
def costs (a b : List Char) : Set Nat := {n | ∃ A : Alignment a b, A.cost = n}

theorem push_mem_costs {n : Nat} (h : n ∈ costs a b) (e : Edit) :
    n + e.cost ∈ costs (a ++ e.source) (b ++ e.target) := by
  obtain ⟨A, rfl⟩ := h
  exact ⟨A.push e, A.cost_push e⟩

theorem min_mem_costs {m n : Nat} (hm : m ∈ costs a b) (hn : n ∈ costs a b) :
    min m n ∈ costs a b := by
  rcases min_choice m n with h | h
  · exact h.symm ▸ hm
  · exact h.symm ▸ hn

/-! ## The table gives the cost of an alignment -/

theorem length_mem_costs (b : List Char) : b.length ∈ costs [] b.reverse := by
  induction b with
  | nil => exact ⟨empty, rfl⟩
  | cons d b ih =>
      rw [List.reverse_cons]
      exact push_mem_costs ih (.insert d)

theorem length_mem_costs_nil (a : List Char) : a.length ∈ costs a.reverse [] := by
  induction a with
  | nil => exact ⟨empty, rfl⟩
  | cons c a ih =>
      rw [List.reverse_cons]
      exact push_mem_costs ih (.delete c)

/-- Each way to edit the last letters goes on from an alignment of what is before them. -/
theorem editedCell_mem_costs {x y : Char} {a b : List Char} {up left diagonal : Nat}
    (hup : up ∈ costs a.reverse (y :: b).reverse) (hleft : left ∈ costs (x :: a).reverse b.reverse)
    (hdiagonal : diagonal ∈ costs a.reverse b.reverse) :
    editedCell x y up left diagonal ∈ costs (x :: a).reverse (y :: b).reverse := by
  rw [List.reverse_cons] at hup hleft
  rw [List.reverse_cons, List.reverse_cons]
  refine min_mem_costs (min_mem_costs ?_ ?_) ?_
  · have hpush := push_mem_costs hup (.delete x)
    rwa [Edit.target, List.append_nil] at hpush
  · have hpush := push_mem_costs hleft (.insert y)
    rwa [Edit.source, List.append_nil] at hpush
  · split
    next heq => exact heq ▸ push_mem_costs hdiagonal (.keep x)
    next => exact push_mem_costs hdiagonal (.replace x y)

theorem distanceBack_mem_costs (a b : List Char) :
    distanceBack a b ∈ costs a.reverse b.reverse := by
  fun_induction distanceBack a b with
  | case1 b => exact length_mem_costs b
  | case2 a => exact length_mem_costs_nil a
  | case3 x y w a z b hswap edited hrow hcolumn hboth htwo =>
      refine min_mem_costs (editedCell_mem_costs hrow hcolumn hboth) ?_
      obtain ⟨rfl, rfl⟩ := hswap
      simpa [Edit.source, Edit.target, Edit.cost] using push_mem_costs htwo (.swap w x)
  | case4 x y w a z b hswap edited hrow hcolumn hboth =>
      exact editedCell_mem_costs hrow hcolumn hboth
  | case5 x a y b edited hshort hrow hcolumn hboth =>
      exact editedCell_mem_costs hrow hcolumn hboth

end Alignment

/-! ## No alignment costs less -/

theorem distanceBack_cons_le (x y : Char) (a b : List Char) :
    distanceBack (x :: a) (y :: b) ≤ editedCell x y (distanceBack a (y :: b))
      (distanceBack (x :: a) b) (distanceBack a b) := by
  rw [distanceBack.eq_def (x :: a) (y :: b)]
  dsimp only
  split
  · split
    · exact min_le_left _ _
    · exact le_rfl
  · exact le_rfl

/-- An edit makes two texts no more distant than it costs. -/
theorem distanceBack_edit_le (e : Edit) (a b : List Char) :
    distanceBack (e.source.reverse ++ a) (e.target.reverse ++ b) ≤ distanceBack a b + e.cost := by
  cases e with
  | keep c =>
      refine (distanceBack_cons_le c c a b).trans ?_
      simp [editedCell]
  | replace c d =>
      refine (distanceBack_cons_le c d a b).trans ((min_le_right _ _).trans ?_)
      split <;> simp [Edit.cost]
  | insert d =>
      cases a with
      | nil => simp [Edit.source, Edit.target, Edit.cost]
      | cons x a =>
          exact (distanceBack_cons_le x d a b).trans ((min_le_left _ _).trans (min_le_right _ _))
  | delete c =>
      cases b with
      | nil => simp [Edit.source, Edit.target, Edit.cost]
      | cons y b =>
          exact (distanceBack_cons_le c y a b).trans ((min_le_left _ _).trans (min_le_left _ _))
  | swap c d =>
      show distanceBack (d :: c :: a) (c :: d :: b) ≤ _
      rw [distanceBack, if_pos ⟨rfl, rfl⟩]
      exact min_le_right _ _

theorem distanceBack_le_cost (edits : List Edit) :
    distanceBack (edits.flatMap Edit.source).reverse (edits.flatMap Edit.target).reverse ≤
      (edits.map Edit.cost).sum := by
  induction edits using List.reverseRecOn with
  | nil => simp
  | append_singleton edits e ih =>
      rw [List.flatMap_append, List.flatMap_append, List.reverse_append, List.reverse_append,
        List.flatMap_singleton, List.flatMap_singleton, List.map_append, List.sum_append,
        List.map_singleton, List.sum_singleton]
      exact (distanceBack_edit_le e _ _).trans (Nat.add_le_add_right ih _)

/-- The distance of two texts is the least that an alignment of them costs. -/
theorem distance_isLeast (a b : List Char) : IsLeast (Alignment.costs a b) (distance a b) := by
  rw [distance_eq]
  constructor
  · simpa using Alignment.distanceBack_mem_costs a.reverse b.reverse
  · rintro n ⟨⟨edits, rfl, rfl⟩, rfl⟩
    exact distanceBack_le_cost edits

/-! ## What the distance tells -/

theorem distanceBack_le_max (a b : List Char) : distanceBack a b ≤ max a.length b.length := by
  induction a generalizing b with
  | nil => simp
  | cons x a ih =>
      cases b with
      | nil => simp
      | cons y b =>
          have hreplace := distanceBack_edit_le (.replace x y) a b
          have hrest := ih b
          simp only [Edit.source, Edit.target, Edit.cost, List.reverse_singleton,
            List.singleton_append, List.length_cons] at hreplace ⊢
          omega

theorem distance_eq_zero_iff {a b : List Char} : distance a b = 0 ↔ a = b := by
  have hleast := distance_isLeast a b
  constructor
  · intro h
    obtain ⟨A, hcost⟩ := hleast.1
    exact A.eq_of_cost_eq_zero (hcost.trans h)
  · rintro rfl
    exact Nat.le_zero.1 (hleast.2 ⟨.refl a, Alignment.cost_refl a⟩)

/-- The distance of two texts is the least that an alignment of them costs. It is the same either
way round, tells equal texts from others, and lies between the difference and the maximum of the
lengths. -/
theorem distance_optimal (a b : List Char) :
    IsLeast (Alignment.costs a b) (distance a b) ∧
      distance b a = distance a b ∧
      (distance a b = 0 ↔ a = b) ∧
      ((a.length : Int) - b.length).natAbs ≤ distance a b ∧
      distance a b ≤ max a.length b.length := by
  have hlength := length_le_add_distance a b
  have hlength' := length_le_add_distance b a
  rw [distance_comm] at hlength'
  refine ⟨distance_isLeast a b, distance_comm b a, distance_eq_zero_iff, by omega, ?_⟩
  rw [distance_eq]
  simpa using distanceBack_le_max a.reverse b.reverse

-- Letters that were swapped are not edited again.
example : distance ['c', 'a'] ['a', 'b', 'c'] = 3 := by decide

/-- Two texts are within a limit if they differ, apart from case, and if an alignment of least cost
keeps to the limit. So it does not matter which comes first or in what case they are, and a larger
limit takes in no fewer texts. -/
theorem isWithin_optimal (limit : Int) (a b : List Char) :
    (isWithin limit a b = true ↔ Text.foldChars a ≠ Text.foldChars b ∧
      ∃ n, IsLeast (Alignment.costs (Text.foldChars a) (Text.foldChars b)) n ∧
        (n : Int) ≤ limit) ∧
    isWithin limit b a = isWithin limit a b ∧
    (∀ larger, limit ≤ larger → isWithin limit a b = true → isWithin larger a b = true) ∧
    isWithin limit (Text.foldChars a) (Text.foldChars b) = isWithin limit a b ∧
    ∀ a' b', Text.foldChars a' = Text.foldChars a → Text.foldChars b' = Text.foldChars b →
      isWithin limit a' b' = isWithin limit a b := by
  refine ⟨?_, isWithin_comm limit b a, fun _ => isWithin_mono, ?_, fun _ _ => isWithin_congr⟩
  · rw [isWithin_iff]
    refine and_congr_right fun _ => ⟨fun h => ⟨_, distance_isLeast _ _, h⟩, ?_⟩
    rintro ⟨n, hleast, hn⟩
    rwa [(distance_isLeast _ _).unique hleast]
  · exact isWithin_congr (Text.foldChars_foldChars a) (Text.foldChars_foldChars b)

theorem sarha_within_larger :
    isWithin 2 "Sarah".toList "Sarha".toList = true ∧
      isWithin 1 "SARAH".toList "sarha".toList = true := by
  have hnear : isWithin 1 "Sarah".toList "Sarha".toList = true := by decide +kernel
  obtain ⟨-, -, hmono, -, hcase⟩ := isWithin_optimal 1 "Sarah".toList "Sarha".toList
  exact ⟨hmono 2 (by decide) hnear, hnear ▸ hcase _ _ (by decide +kernel) (by decide +kernel)⟩

end Continuity.Character
