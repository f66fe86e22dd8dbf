import Mathlib
import Continuity.Text.Casing

/-! # Case is changed once

The characters that lowering gives are left alone when a text is lowered once more, whatever stands
around them: no character becomes one that has another lowercase itself. In the same way a folded
text stays as it is when it is folded again.
-/

namespace Continuity.Text

/-! ## Sets of code points -/

/-- A number whose bits are set at so many multiples of a step. -/
def multiples (step : Nat) : Nat → Nat
  | 0 => 0
  | n + 1 => 1 ||| multiples step n <<< step

theorem testBit_multiples (step : Nat) {n i : Nat} (h : i < n) :
    (multiples step n).testBit (step * i) = true := by
  induction n generalizing i with
  | zero => cases h
  | succ n ih =>
      rw [multiples, Nat.testBit_or, Bool.or_eq_true]
      cases i with
      | zero => exact .inl (by rw [Nat.mul_zero]; rfl)
      | succ i =>
          rw [Nat.mul_succ, Nat.testBit_shiftLeft, Nat.add_sub_cancel]
          exact .inr (by simp [ih (Nat.lt_of_succ_lt_succ h)])

namespace CodeRange

variable {r : CodeRange} {ranges ranges' : List CodeRange} {code : Nat}

theorem contains_iff : r.contains code = true ↔
    r.first ≤ code ∧ code ≤ r.last ∧ (code - r.first) % r.step = 0 := by
  simp [contains, and_assoc]

/-- The code points of a range, as the bits of one number. -/
def bits (r : CodeRange) : Nat := multiples r.step ((r.last - r.first) / r.step + 1) <<< r.first

theorem testBit_bits (h : r.contains code = true) : r.bits.testBit code = true := by
  obtain ⟨hfirst, hlast, hstep⟩ := contains_iff.1 h
  have hcount : (code - r.first) / r.step < (r.last - r.first) / r.step + 1 :=
    Nat.lt_succ_of_le (Nat.div_le_div_right (by omega))
  have hcode := testBit_multiples r.step hcount
  rw [Nat.mul_div_cancel' (Nat.dvd_of_mod_eq_zero hstep)] at hcode
  rw [bits, Nat.testBit_shiftLeft, hcode, Bool.and_true, decide_eq_true_eq]
  exact hfirst

/-- The code points of ranges. -/
def allBits (ranges : List CodeRange) : Nat := ranges.foldr (fun r n => r.bits ||| n) 0

theorem testBit_allBits (hr : r ∈ ranges) (h : r.contains code = true) :
    (allBits ranges).testBit code = true := by
  induction ranges with
  | nil => cases hr
  | cons r' ranges ih =>
      rw [allBits, List.foldr_cons, Nat.testBit_or, Bool.or_eq_true]
      rcases List.mem_cons.1 hr with rfl | hrest
      · exact .inl (testBit_bits h)
      · exact .inr (ih hrest)

/-- Ranges have no code point in common if no bit is set for both. -/
theorem contains_eq_false {r' : CodeRange} (hapart : allBits ranges &&& allBits ranges' = 0)
    (hr : r ∈ ranges) (hr' : r' ∈ ranges') (h : r.contains code = true) :
    r'.contains code = false := by
  rw [← Bool.not_eq_true]
  intro h'
  have hboth : (allBits ranges &&& allBits ranges').testBit code = true := by
    rw [Nat.testBit_and, testBit_allBits hr h, testBit_allBits hr' h', Bool.and_self]
  rw [hapart, Nat.zero_testBit] at hboth
  cases hboth

/-- The code points of a range are those of characters. -/
def isCharacters (r : CodeRange) : Bool :=
  Nat.blt r.last 0xD800 || Nat.blt 0xDFFF r.first && Nat.blt r.last 0x110000

theorem isValidChar_of_contains (hr : r.isCharacters = true) (hcode : r.contains code = true) :
    code.isValidChar := by
  obtain ⟨hfirst, hlast, -⟩ := contains_iff.1 hcode
  simp only [isCharacters, Bool.and_eq_true, Bool.or_eq_true, Nat.blt_eq] at hr
  unfold Nat.isValidChar
  omega

/-- The range of one code point. -/
def single (code : Nat) : CodeRange := ⟨code, code, 1⟩

theorem contains_single (code : Nat) : (single code).contains code = true := by
  simp [contains_iff, single]

end CodeRange

namespace CodeShift

variable {s : CodeShift} {code : Nat}

/-- The code points that a shift moves. -/
def departures (s : CodeShift) : CodeRange := ⟨s.first, s.last, s.step⟩

/-- The code points that a shift arrives at. -/
def arrivals (s : CodeShift) : CodeRange :=
  ⟨(s.first + s.distance).toNat, (s.last + s.distance).toNat, s.step⟩

theorem contains_departures : s.departures.contains code = s.contains code := rfl

theorem contains_arrivals (hpos : 0 ≤ s.first + s.distance) (hcode : s.contains code = true) :
    s.arrivals.contains (code + s.distance).toNat = true := by
  rw [← contains_departures, CodeRange.contains_iff] at hcode
  obtain ⟨hfirst, hlast, hstep⟩ := hcode
  simp only [departures] at hfirst hlast hstep
  have hdistance : (code + s.distance).toNat - (s.first + s.distance).toNat = code - s.first := by
    omega
  rw [CodeRange.contains_iff]
  dsimp only [arrivals]
  rw [hdistance]
  exact ⟨by omega, by omega, hstep⟩

end CodeShift

/-! ## Characters -/

/-- The capitals of ASCII. -/
theorem contains_of_isUpper {c : Char} (h : c.isUpper = true) :
    (CodeRange.mk 0x41 0x5A 1).contains c.toNat = true := by
  simp only [Char.isUpper, decide_eq_true_eq, ge_iff_le, UInt32.le_iff_toNat_le] at h
  exact CodeRange.contains_iff.2 ⟨h.1, h.2, Nat.mod_one _⟩

theorem toNat_toLower_lt {c : Char} (h : c.toNat < 0x80) : c.toLower.toNat < 0x80 := by
  by_cases hupper : c.isUpper = true
  · obtain ⟨-, hlast, -⟩ := CodeRange.contains_iff.1 (contains_of_isUpper hupper)
    rw [Char.toLower_eq_of_isUpper hupper, Char.toNat_ofNat]
    dsimp only at hlast
    split <;> omega
  · rwa [Char.toLower_eq_of_not_isUpper hupper]

section Tables

variable {expansions : Array (Nat × List Nat)} {shifts : Array CodeShift} {c d : Char}

theorem mapChar_eq_self (hexpansions : ∀ e ∈ expansions, e.1 ≠ c.toNat)
    (hshifts : ∀ s ∈ shifts, s.contains c.toNat = false) :
    mapChar expansions shifts c = [c] := by
  have hexpansion : expansions.find? (·.1 == c.toNat) = none := by
    rw [Array.find?_eq_none]
    intro e he
    simpa using hexpansions e he
  have hshift : (shifts.find? fun s => s.contains c.toNat) = none := by
    rw [Array.find?_eq_none]
    intro s hs
    simpa using hshifts s hs
  rw [mapChar, hexpansion, CodeShift.apply, hshift]

/-- A character comes from an expansion or from a shift, or it is the same as before. -/
theorem mem_mapChar (h : d ∈ mapChar expansions shifts c) :
    (∃ e ∈ expansions, d ∈ e.2.map Char.ofNat) ∨
      (∃ s ∈ shifts, s.contains c.toNat = true ∧
        d = Char.ofNat (c.toNat + s.distance).toNat) ∨
      d = c ∧ mapChar expansions shifts c = [c] := by
  rw [mapChar] at h ⊢
  cases hexpansion : expansions.find? (·.1 == c.toNat) with
  | some e =>
      rw [hexpansion] at h
      exact .inl ⟨e, Array.mem_of_find?_eq_some hexpansion, h⟩
  | none =>
      rw [hexpansion, CodeShift.apply] at h
      rw [CodeShift.apply]
      cases hshift : shifts.find? fun s => s.contains c.toNat with
      | some s =>
          rw [hshift] at h
          have hcode : s.contains c.toNat = true :=
            Array.find?_some (p := fun s : CodeShift => s.contains c.toNat) hshift
          exact .inr (.inl ⟨s, Array.mem_of_find?_eq_some hshift, hcode, List.mem_singleton.1 h⟩)
      | none =>
          rw [hshift] at h
          exact .inr (.inr ⟨List.mem_singleton.1 h, rfl⟩)

/-- A mapping of characters by tables that leave ASCII to the letters' usual small forms. -/
def caseChar (expansions : Array (Nat × List Nat)) (shifts : Array CodeShift) (c : Char) :
    List Char :=
  if c.toNat < 0x80 then [c.toLower] else mapChar expansions shifts c

/-- The code points that the tables change. -/
def changed (expansions : Array (Nat × List Nat)) (shifts : Array CodeShift) : List CodeRange :=
  expansions.toList.map (.single ·.1) ++ shifts.toList.map CodeShift.departures

/-- The code points that the tables make of others. -/
def made (expansions : Array (Nat × List Nat)) (shifts : Array CodeShift) : List CodeRange :=
  expansions.toList.flatMap (·.2.map .single) ++ shifts.toList.map CodeShift.arrivals

/-- What tables make is made of characters that they do not change. -/
structure ChangesOnce (expansions : Array (Nat × List Nat)) (shifts : Array CodeShift) :
    Prop where
  latin : shifts[0]? = some ⟨0x41, 0x5A, 1, 32⟩
  positive : ∀ s ∈ shifts.toList, 0 ≤ s.first + s.distance
  characters : ∀ r ∈ made expansions shifts, r.isCharacters = true
  apart : CodeRange.allBits (made expansions shifts) &&&
    CodeRange.allBits (changed expansions shifts) = 0

namespace ChangesOnce

variable (h : ChangesOnce expansions shifts)
include h

theorem caseChar_eq_self (hc : ∀ r ∈ changed expansions shifts, r.contains c.toNat = false) :
    caseChar expansions shifts c = [c] := by
  rw [changed, List.forall_mem_append, List.forall_mem_map, List.forall_mem_map] at hc
  obtain ⟨hexpansions, hshifts⟩ := hc
  unfold caseChar
  split
  next =>
    have hlatin := hshifts _ (Array.mem_toList_iff.2 (Array.mem_of_getElem? h.latin))
    have hupper : ¬c.isUpper = true := fun hupper =>
      absurd (contains_of_isUpper hupper) (Bool.not_eq_true _ ▸ hlatin)
    rw [Char.toLower_eq_of_not_isUpper hupper]
  next =>
    refine mapChar_eq_self (fun e he heq => ?_) fun s hs => ?_
    · have hapart := hexpansions e (Array.mem_toList_iff.2 he)
      rw [← heq, CodeRange.contains_single] at hapart
      cases hapart
    · exact hshifts s (Array.mem_toList_iff.2 hs)

/-- A character that the tables make is not changed once more. -/
theorem caseChar_ofNat {r : CodeRange} {code : Nat} (hr : r ∈ made expansions shifts)
    (hcode : r.contains code = true) :
    caseChar expansions shifts (Char.ofNat code) = [Char.ofNat code] := by
  have hvalid := CodeRange.isValidChar_of_contains (h.characters r hr) hcode
  refine h.caseChar_eq_self fun r' hr' => ?_
  rw [Char.toNat_ofNat, if_pos hvalid]
  exact CodeRange.contains_eq_false h.apart hr hr' hcode

/-- What the mapping makes of a character is not changed once more. -/
theorem caseChar_of_mem (hd : d ∈ caseChar expansions shifts c) :
    caseChar expansions shifts d = [d] := by
  by_cases hascii : c.toNat < 0x80
  · rw [caseChar, if_pos hascii, List.mem_singleton] at hd
    rw [hd, caseChar, if_pos (toNat_toLower_lt hascii), Char.toLower_toLower_eq_toLower]
  · rw [caseChar, if_neg hascii] at hd
    rcases mem_mapChar hd with ⟨e, he, hd⟩ | ⟨s, hs, hcode, hd⟩ | ⟨hd, hself⟩
    · obtain ⟨code, hcode, rfl⟩ := List.mem_map.1 hd
      refine h.caseChar_ofNat (List.mem_append_left _ ?_) (CodeRange.contains_single code)
      exact List.mem_flatMap.2 ⟨e, Array.mem_toList_iff.2 he, List.mem_map_of_mem hcode⟩
    · have hs' : s ∈ shifts.toList := Array.mem_toList_iff.2 hs
      refine hd ▸ h.caseChar_ofNat (List.mem_append_right _ (List.mem_map_of_mem hs')) ?_
      exact CodeShift.contains_arrivals (h.positive s hs') hcode
    · rw [hd, caseChar, if_neg hascii, hself]

end ChangesOnce

end Tables

variable {c d : Char}

theorem changesOnce_lower : ChangesOnce lowerExpansions lowerShifts where
  latin := by decide +kernel
  positive := by decide +kernel
  characters := by decide +kernel
  apart := by decide +kernel

theorem changesOnce_fold : ChangesOnce foldExpansions foldShifts where
  latin := by decide +kernel
  positive := by decide +kernel
  characters := by decide +kernel
  apart := by decide +kernel

/-- What a character becomes is its own lowercase. -/
theorem lowerChar_of_mem (h : d ∈ lowerChar c) : lowerChar d = [d] :=
  changesOnce_lower.caseChar_of_mem h

/-- Both small sigmas are lowercase, and a capital one becomes the first. -/
theorem lowerChar_sigmas :
    lowerChar 'Σ' = ['σ'] ∧ lowerChar 'σ' = ['σ'] ∧ lowerChar 'ς' = ['ς'] :=
  ⟨by decide +kernel, changesOnce_lower.caseChar_eq_self (by decide +kernel),
    changesOnce_lower.caseChar_eq_self (by decide +kernel)⟩

/-- What a character folds to is folded. -/
theorem foldChar_of_mem (h : d ∈ foldChar c) : foldChar d = [d] :=
  changesOnce_fold.caseChar_of_mem h

/-! ## Texts -/

variable {cs : List Char}

/-- A capital sigma becomes one of the small ones, and any other character its own lowercase. -/
theorem lowerAux_cons (before : List Char) (c : Char) (rest : List Char) :
    (c = 'Σ' ∧ ∃ d, (d = 'ς' ∨ d = 'σ') ∧
        lowerAux before (c :: rest) = d :: lowerAux (c :: before) rest) ∨
      c ≠ 'Σ' ∧ lowerAux before (c :: rest) = lowerChar c ++ lowerAux (c :: before) rest := by
  by_cases hsigma : c = 'Σ'
  · refine .inl ⟨hsigma, if nextIsCased before && !nextIsCased rest then 'ς' else 'σ', ?_, ?_⟩
    · exact ite_eq_or_eq _ _ _
    · rw [lowerAux, if_pos (beq_iff_eq.2 hsigma)]
      rfl
  · refine .inr ⟨hsigma, ?_⟩
    rw [lowerAux, if_neg (by simpa using hsigma)]

theorem lowerAux_eq_self (before : List Char) (h : ∀ c ∈ cs, lowerChar c = [c]) :
    lowerAux before cs = cs := by
  induction cs generalizing before with
  | nil => rfl
  | cons c rest ih =>
      rw [List.forall_mem_cons] at h
      rcases lowerAux_cons before c rest with ⟨rfl, -⟩ | ⟨-, heq⟩
      · rw [lowerChar_sigmas.1] at h
        exact absurd h.1 (by decide)
      · rw [heq, h.1, ih _ h.2, List.singleton_append]

/-- A text of lowercase characters is in lowercase. -/
theorem lowerChars_eq_self (h : ∀ c ∈ cs, lowerChar c = [c]) : lowerChars cs = cs :=
  lowerAux_eq_self [] h

theorem mem_lowerAux (before : List Char) (hlower : lowerChar d = [d]) (h : d ∈ cs) :
    d ∈ lowerAux before cs := by
  induction cs generalizing before with
  | nil => cases h
  | cons c rest ih =>
      rcases lowerAux_cons before c rest with ⟨rfl, small, -, heq⟩ | ⟨-, heq⟩
      · rcases List.mem_cons.1 h with rfl | hrest
        · rw [lowerChar_sigmas.1] at hlower
          exact absurd hlower (by decide)
        · exact heq ▸ List.mem_cons_of_mem small (ih _ hrest)
      · rw [heq, List.mem_append]
        rcases List.mem_cons.1 h with rfl | hrest
        · exact .inl (hlower ▸ List.mem_singleton_self d)
        · exact .inr (ih _ hrest)

/-- A character that is its own lowercase form stays in a text. -/
theorem mem_lowerChars (hlower : lowerChar d = [d]) (h : d ∈ cs) : d ∈ lowerChars cs :=
  mem_lowerAux [] hlower h

theorem exists_of_mem_lowerAux {before : List Char} (h : d ∈ lowerAux before cs) :
    ∃ c ∈ cs, c = 'Σ' ∨ d ∈ lowerChar c := by
  induction cs generalizing before with
  | nil => cases h
  | cons c rest ih =>
      rcases lowerAux_cons before c rest with ⟨rfl, -⟩ | ⟨-, heq⟩
      · exact ⟨_, List.mem_cons_self, .inl rfl⟩
      · rw [heq, List.mem_append] at h
        rcases h with h | h
        · exact ⟨c, List.mem_cons_self, .inr h⟩
        · obtain ⟨origin, hmem, horigin⟩ := ih h
          exact ⟨origin, List.mem_cons_of_mem _ hmem, horigin⟩

/-- A text in lowercase is made of the lowercase forms of its characters, and of small sigmas. -/
theorem exists_of_mem_lowerChars (h : d ∈ lowerChars cs) : ∃ c ∈ cs, c = 'Σ' ∨ d ∈ lowerChar c :=
  exists_of_mem_lowerAux h

theorem lowerChar_of_mem_lowerAux (before : List Char) (h : d ∈ lowerAux before cs) :
    lowerChar d = [d] := by
  induction cs generalizing before with
  | nil => cases h
  | cons c rest ih =>
      rcases lowerAux_cons before c rest with ⟨-, small, hsmall, heq⟩ | ⟨-, heq⟩
      · rw [heq, List.mem_cons] at h
        rcases h with rfl | h
        · rcases hsmall with rfl | rfl
          · exact lowerChar_sigmas.2.2
          · exact lowerChar_sigmas.2.1
        · exact ih _ h
      · rw [heq, List.mem_append] at h
        exact h.elim lowerChar_of_mem (ih _)

/-- All characters of a text in lowercase are lowercase. -/
theorem lowerChar_of_mem_lowerChars (h : d ∈ lowerChars cs) : lowerChar d = [d] :=
  lowerChar_of_mem_lowerAux [] h

/-- A folded text is folded already. -/
theorem foldChars_foldChars (cs : List Char) : foldChars (foldChars cs) = foldChars cs := by
  rw [foldChars, foldChars, List.flatMap_assoc]
  refine List.flatMap_congr fun c _ => ?_
  rw [List.flatMap_congr fun _ hd => foldChar_of_mem hd, List.flatMap_singleton']

end Continuity.Text
