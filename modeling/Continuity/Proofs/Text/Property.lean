import Mathlib.Data.List.Chain
import Mathlib.Data.List.DropRight
import Continuity.Text.Blank
import Continuity.Text.Property

/-! # Characters by their properties

The search in a table stops where the ranges begin after the code point. Each table has its ranges
in the order of their first code points, so nothing is missed. No blank is a letter or another
character of a word, and trimming leaves a text alone that neither begins nor ends with a blank.
-/

namespace Continuity.Text

/-! ## Tables of code ranges -/

namespace CodeRange

/-- The ranges come in the order of their first code points. -/
def Ordered (table : List CodeRange) : Prop := (table.map (·.first)).IsChain (· < ·)

instance (table : List CodeRange) : Decidable (Ordered table) :=
  inferInstanceAs (Decidable (List.IsChain _ _))

/-- The search in an ordered table finds every range that contains the code point. -/
theorem anyContainsCode_eq_any {table : List CodeRange} (h : Ordered table) (code : Nat) :
    anyContainsCode table code = table.any (·.contains code) := by
  have hordered : table.Pairwise fun r r' => r.first < r'.first :=
    List.pairwise_map.1 (List.isChain_iff_pairwise.1 h)
  clear h
  induction hordered with
  | nil => rfl
  | @cons r rest hfirst _ ih =>
      rw [anyContainsCode, List.any_cons, ih]
      by_cases hle : r.first ≤ code
      · simp [hle]
      · -- Neither this range nor a later one can contain the code point.
        have hlt := Nat.lt_of_not_le hle
        have hself : r.contains code = false := by simp [contains, hle]
        have hrest : rest.any (·.contains code) = false := by
          rw [List.any_eq_false]
          intro r' hr'
          simp [contains, Nat.not_le_of_lt (hlt.trans (hfirst r' hr'))]
        simp [hle, hself, hrest]

end CodeRange

/-- The tables of all character properties. -/
def propertyTables : List (List CodeRange) := [
  letterTable, letterOrNumberTable, decimalTable, digitTable, uppercaseTable, lowercaseTable,
  titlecaseTable, casedTable, caseIgnorableTable, punctuationTable, unprintableTable]

theorem ordered_of_mem_propertyTables : ∀ table ∈ propertyTables, CodeRange.Ordered table := by
  decide +kernel

/-- A character has a property if one of the ranges of its table contains it. -/
theorem anyContains_iff {table : List CodeRange} (h : table ∈ propertyTables) (c : Char) :
    CodeRange.anyContains table c = true ↔ ∃ r ∈ table, r.contains c.toNat = true := by
  rw [CodeRange.anyContains,
    CodeRange.anyContainsCode_eq_any (ordered_of_mem_propertyTables table h), List.any_eq_true]

/-- No character of a table has a code that is not in the table. -/
theorem CodeRange.not_mem_of_anyContains {table : List CodeRange} {codes : List Nat} {c : Char}
    (h : CodeRange.anyContains table c = true)
    (hnone : ∀ code ∈ codes, CodeRange.anyContainsCode table code = false) : c.toNat ∉ codes := by
  intro hmem
  rw [CodeRange.anyContains, hnone _ hmem] at h
  exact Bool.false_ne_true h

/-! ## Texts without blanks around them -/

/-- A text neither begins nor ends with a blank. -/
def Unpadded (cs : List Char) : Prop :=
  (∀ c ∈ cs.head?, isBlank c = false) ∧ ∀ c ∈ cs.getLast?, isBlank c = false

theorem trim_of_unpadded {cs : List Char} (h : Unpadded cs) : trim cs = cs := by
  have hstart : trimStart cs = cs := by
    rw [trimStart, List.dropWhile_eq_self_iff]
    intro hpos
    have hfirst := h.1 cs[0] (by rw [List.head?_eq_getElem?]; exact List.getElem?_eq_getElem hpos)
    rw [hfirst]
    exact Bool.false_ne_true
  have hend : cs.rdropWhile isBlank = cs := by
    rw [List.rdropWhile_eq_self_iff]
    intro hne
    rw [h.2 _ (List.getLast?_eq_some_getLast hne)]
    exact Bool.false_ne_true
  rw [trim, hstart]
  exact hend

theorem unpadded_of_forall {cs : List Char} (h : ∀ c ∈ cs, isBlank c = false) : Unpadded cs :=
  ⟨fun c hc => h c (List.mem_of_mem_head? hc), fun c hc => h c (List.mem_of_getLast? hc)⟩

theorem startsWith_iff {front cs : List Char} : startsWith front cs = true ↔ front <+: cs := by
  induction front generalizing cs with
  | nil => exact iff_of_true rfl List.nil_prefix
  | cons p ps ih =>
      cases cs with
      | nil => simp [startsWith]
      | cons c cs => rw [startsWith, Bool.and_eq_true, beq_iff_eq, ih, List.cons_prefix_cons]

/-! ## Blanks and words -/

/-- The code points of all blanks. -/
def blankCodes : List Nat :=
  List.range' 0x09 5 ++ List.range' 0x1C 5 ++ [0x85, 0xA0, 0x1680] ++ List.range' 0x2000 11 ++
    [0x2028, 0x2029, 0x202F, 0x205F, 0x3000]

theorem mem_blankCodes {c : Char} (h : isBlank c = true) : c.toNat ∈ blankCodes := by
  simp only [isBlank, Bool.or_eq_true, Bool.and_eq_true, decide_eq_true_eq, beq_iff_eq] at h
  simp only [blankCodes, List.mem_append, List.mem_range'_1, List.mem_cons, List.not_mem_nil]
  omega

theorem isBlank_of_isWord {c : Char} (h : isWord c = true) : isBlank c = false := by
  rw [isWord, Bool.or_eq_true, beq_iff_eq] at h
  rcases h with rfl | h
  · decide
  · rw [← Bool.not_eq_true]
    exact fun hblank =>
      CodeRange.not_mem_of_anyContains h (by decide +kernel) (mem_blankCodes hblank)

/-! ## Letters -/

variable {c d : Char}

theorem ne_of_isLetter (h : isLetter c = true) (hd : isLetter d = false) : c ≠ d := by
  rintro rfl
  rw [hd] at h
  cases h

theorem isBlank_of_isLetter (h : isLetter c = true) : isBlank c = false := by
  rw [← Bool.not_eq_true]
  exact fun hblank => CodeRange.not_mem_of_anyContains h (by decide +kernel) (mem_blankCodes hblank)

theorem isDigit_of_isLetter (h : isLetter c = true) : c.isDigit = false := by
  rw [← Bool.not_eq_true]
  intro hdigit
  have hcode : c.toNat ∈ List.range' 48 10 := by
    simp only [Char.isDigit, Bool.and_eq_true, decide_eq_true_eq, ge_iff_le, UInt32.le_iff_toNat_le]
      at hdigit
    rw [List.mem_range'_1]
    exact ⟨hdigit.1, Nat.lt_succ_of_le hdigit.2⟩
  exact CodeRange.not_mem_of_anyContains h (by decide) hcode

/-- No letter is a control character or a space of ASCII. -/
theorem graphic_of_isLetter (h : isLetter c = true) : ¬(c.toNat ≤ 0x20 ∨ c.toNat = 0x7F) := by
  have hcode : c.toNat ∉ 0x7F :: List.range 0x21 :=
    CodeRange.not_mem_of_anyContains h (by decide)
  rw [List.mem_cons, List.mem_range] at hcode
  omega

end Continuity.Text
