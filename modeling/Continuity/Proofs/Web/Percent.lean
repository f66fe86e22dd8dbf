import Continuity.Proofs.Text.Property
import Continuity.Proofs.Text.Casing
import Continuity.Proofs.Text.Utf8
import Continuity.Web.Url

/-! # Texts in percent form

A text in percent form writes each character as itself or as the escapes of its bytes, in digits of
either case. Decoding gives the text back, whichever characters are escaped. The address that a word
is has a percent form with ASCII letters only, and is never refused.
-/

namespace Continuity.Web

open Text (encodeChar encodeUtf8 hexDigit hexDigitValue?)

/-- A character writes a number below sixteen as a hexadecimal digit. -/
def Writes (c : Char) (n : Nat) : Prop := c = upperHexDigit n ∨ c = hexDigit n

/-- A text writes bytes as escapes. -/
inductive ByteForm : List UInt8 → List Char → Prop where
  | nil : ByteForm [] []
  | cons {b : UInt8} {bytes : List UInt8} {high low : Char} {form : List Char}
      (hhigh : Writes high (b.toNat / 16)) (hlow : Writes low (b.toNat % 16))
      (hrest : ByteForm bytes form) : ByteForm (b :: bytes) ('%' :: high :: low :: form)

/-- A text is another one in percent form: any of its characters may be escaped, and a percent sign
must be. -/
inductive PercentForm : List Char → List Char → Prop where
  | nil : PercentForm [] []
  | plain {c : Char} {cs form : List Char} (hc : c ≠ '%') (hrest : PercentForm cs form) :
      PercentForm (c :: cs) (c :: form)
  | escaped {c : Char} {cs escapes form : List Char} (hc : ByteForm (encodeChar c) escapes)
      (hrest : PercentForm cs form) : PercentForm (c :: cs) (escapes ++ form)

variable {bytes : List UInt8} {cs form : List Char}

/-- A text without percent signs is its own percent form. -/
theorem PercentForm.refl (h : '%' ∉ cs) : PercentForm cs cs := by
  induction cs with
  | nil => exact .nil
  | cons c rest ih =>
      rw [List.mem_cons, not_or] at h
      exact .plain (Ne.symm h.1) (ih h.2)

theorem isBlank_of_writes {c : Char} {n : Nat} (h : Writes c n) (hn : n < 16) :
    Text.isBlank c = false := by
  have hall : ∀ n < 16, Text.isBlank (upperHexDigit n) = false ∧
      Text.isBlank (hexDigit n) = false := by
    decide
  rcases h with rfl | rfl
  · exact (hall n hn).1
  · exact (hall n hn).2

theorem ByteForm.isBlank_eq_false (h : ByteForm bytes form) :
    ∀ c ∈ form, Text.isBlank c = false := by
  induction h with
  | nil => simp
  | @cons b _ _ _ _ hhigh hlow _ ih =>
      have hb : b.toNat < 256 := b.toNat_lt
      simp only [List.forall_mem_cons]
      exact ⟨by decide, isBlank_of_writes hhigh (by omega),
        isBlank_of_writes hlow (Nat.mod_lt _ (by decide)), ih⟩

/-- A percent form brings in no blanks. -/
theorem PercentForm.isBlank_eq_false (h : PercentForm cs form)
    (hcs : ∀ c ∈ cs, Text.isBlank c = false) : ∀ c ∈ form, Text.isBlank c = false := by
  induction h with
  | nil => exact hcs
  | plain _ _ ih =>
      rw [List.forall_mem_cons] at hcs ⊢
      exact ⟨hcs.1, ih hcs.2⟩
  | escaped hc _ ih =>
      rw [List.forall_mem_cons] at hcs
      exact List.forall_mem_append.2 ⟨hc.isBlank_eq_false, ih hcs.2⟩

/-- A text with all characters escaped that are not kept. -/
def escapeBut (keep : Char → Bool) (cs : List Char) : List Char :=
  cs.flatMap fun c => if keep c then [c] else (encodeChar c).flatMap percentByte

theorem byteForm_percentByte (bytes : List UInt8) : ByteForm bytes (bytes.flatMap percentByte) := by
  induction bytes with
  | nil => exact .nil
  | cons b rest ih => exact .cons (.inl rfl) (.inl rfl) ih

theorem percentForm_escapeBut {keep : Char → Bool} (h : ∀ c, keep c = true → c ≠ '%')
    (cs : List Char) : PercentForm cs (escapeBut keep cs) := by
  induction cs with
  | nil => exact .nil
  | cons c rest ih =>
      rw [escapeBut, List.flatMap_cons]
      split
      next hkeep => exact .plain (h c hkeep) ih
      next => exact .escaped (byteForm_percentByte _) ih

/-- Escaping brings in no blanks, and leaves none but those that are kept. -/
theorem isBlank_of_mem_escapeBut {keep : Char → Bool}
    (h : ∀ c, keep c = true → Text.isBlank c = false) :
    ∀ c ∈ escapeBut keep cs, Text.isBlank c = false := by
  intro c hc
  obtain ⟨original, -, hc⟩ := List.mem_flatMap.1 hc
  split at hc
  next hkeep => exact List.mem_singleton.1 hc ▸ h original hkeep
  next => exact (byteForm_percentByte _).isBlank_eq_false c hc

/-- Without percent signs there are no escapes that could be kept. -/
theorem encodePercent_eq_escapeBut (safe : Char → Bool) (h : '%' ∉ cs) :
    encodePercent safe cs = escapeBut safe cs := by
  induction cs with
  | nil => rfl
  | cons c rest ih =>
      rw [List.mem_cons, not_or] at h
      rw [encodePercent, ih h.2, escapeBut, escapeBut, List.flatMap_cons]
      · split <;> rfl
      · rintro a b more rfl
        exact absurd rfl h.1

/-! ## Escapes -/

theorem hexDigitValue?_of_writes {c : Char} {n : Nat} (h : Writes c n) (hn : n < 16) :
    hexDigitValue? c = some n := by
  have hall : ∀ n < 16, hexDigitValue? (upperHexDigit n) = some n ∧
      hexDigitValue? (hexDigit n) = some n := by
    decide
  rcases h with rfl | rfl
  · exact (hall n hn).1
  · exact (hall n hn).2

theorem hexByte?_of_writes {b : UInt8} {high low : Char} (hhigh : Writes high (b.toNat / 16))
    (hlow : Writes low (b.toNat % 16)) : hexByte? high low = some b := by
  have hb : b.toNat < 256 := b.toNat_lt
  rw [hexByte?, hexDigitValue?_of_writes hhigh (by omega),
    hexDigitValue?_of_writes hlow (Nat.mod_lt _ (by decide))]
  dsimp only
  rw [Nat.div_add_mod', UInt8.ofNat_toNat]

/-- Escaped bytes are read together with those that follow. -/
theorem escapedBytes_append {escapes : List Char} (h : ByteForm bytes escapes)
    (rest : List Char) : escapedBytes (escapes ++ rest) =
      (bytes ++ (escapedBytes rest).1, (escapedBytes rest).2) := by
  induction h with
  | nil => rfl
  | cons hhigh hlow _ ih =>
      rw [List.cons_append, List.cons_append, List.cons_append, escapedBytes,
        hexByte?_of_writes hhigh hlow]
      dsimp only
      rw [ih]
      rfl

theorem escapedBytes_of_ne {c : Char} (h : c ≠ '%') (rest : List Char) :
    escapedBytes (c :: rest) = ([], c :: rest) := by
  rw [escapedBytes]
  rintro a b more ⟨⟩
  exact h rfl

theorem escapedBytes_of_char {c : Char} {escapes front rest : List Char}
    (hc : ByteForm (encodeChar c) escapes)
    (hbytes : escapedBytes form = (encodeUtf8 front, rest)) :
    escapedBytes (escapes ++ form) = (encodeUtf8 (c :: front), rest) := by
  rw [escapedBytes_append hc, hbytes]
  rfl

/-- The escapes at the front of a text's percent form are those of whole characters. -/
theorem PercentForm.exists_run (h : PercentForm cs form) : ∃ front back rest,
    cs = front ++ back ∧ escapedBytes form = (encodeUtf8 front, rest) ∧ PercentForm back rest := by
  induction h with
  | nil => exact ⟨[], [], [], rfl, rfl, .nil⟩
  | plain hc hrest => exact ⟨[], _, _, rfl, escapedBytes_of_ne hc _, .plain hc hrest⟩
  | @escaped c cs escapes form hc _ ih =>
      obtain ⟨front, back, rest, hcs, hbytes, hback⟩ := ih
      exact ⟨c :: front, back, rest, congrArg (c :: ·) hcs, escapedBytes_of_char hc hbytes, hback⟩

theorem length_escapedBytes (cs : List Char) :
    (escapedBytes cs).2.length + 3 * (escapedBytes cs).1.length = cs.length := by
  fun_induction escapedBytes cs with
  | case1 a b rest byte hbyte bytes more heq ih =>
      rw [heq] at ih
      simp only [List.length_cons] at ih ⊢
      omega
  | case2 => simp
  | case3 => simp

/-! ## Decoding -/

theorem encodeChar_ne_nil (c : Char) : encodeChar c ≠ [] := by
  obtain ⟨lead, tail, hbytes, -⟩ := Text.decodeChar_encodeChar 0 c []
  exact hbytes ▸ List.cons_ne_nil _ _

theorem PercentForm.eq_nil_iff (h : PercentForm cs form) : form = [] ↔ cs = [] := by
  cases h with
  | nil => rfl
  | plain => simp
  | @escaped c cs escapes form hc hrest =>
      have hescapes : escapes ≠ [] := by
        rintro rfl
        cases hbytes : encodeChar c with
        | nil => exact encodeChar_ne_nil c hbytes
        | cons lead tail =>
            rw [hbytes] at hc
            cases hc
      simp [hescapes]

/-- The bytes of a text are decoded to the text. -/
theorem decodeLossy_encodeUtf8 {fuel : Nat} (hfuel : (encodeUtf8 cs).length ≤ fuel) :
    decodeLossy fuel (encodeUtf8 cs) = cs := by
  induction cs generalizing fuel with
  | nil => cases fuel <;> rfl
  | cons c rest ih =>
      obtain ⟨lead, tail, hbytes, hread⟩ := Text.decodeChar_encodeChar 0 c (encodeUtf8 rest)
      have hall : encodeUtf8 (c :: rest) = lead :: (tail ++ encodeUtf8 rest) := by
        rw [encodeUtf8, List.flatMap_cons, hbytes]
        rfl
      rw [hall, List.length_cons, List.length_append] at hfuel
      obtain ⟨fuel, rfl⟩ : ∃ n, fuel = n + 1 := ⟨fuel - 1, by omega⟩
      rw [hall, decodeLossy, hread]
      dsimp only
      rw [List.drop_succ_cons, List.drop_left, ih (by omega)]

theorem decodePercentAux_of_ne {c : Char} (h : c ≠ '%') (fuel : Nat) (rest : List Char) :
    decodePercentAux (fuel + 1) (c :: rest) = c :: decodePercentAux fuel rest := by
  rw [decodePercentAux, escapedBytes_of_ne h]

theorem decodePercentAux_of_bytes {rest : List Char}
    (hbytes : escapedBytes form = (bytes, rest)) (hne : bytes ≠ []) (fuel : Nat) :
    decodePercentAux (fuel + 1) form =
      decodeLossy bytes.length bytes ++ decodePercentAux fuel rest := by
  cases form with
  | nil => cases hbytes; exact absurd rfl hne
  | cons c more =>
      rw [decodePercentAux, hbytes]
      cases bytes with
      | nil => exact absurd rfl hne
      | cons b bytes => rfl

theorem decodePercentAux_of_form {fuel : Nat} (h : PercentForm cs form)
    (hfuel : form.length ≤ fuel) : decodePercentAux fuel form = cs := by
  induction fuel generalizing cs form with
  | zero =>
      obtain rfl := List.length_eq_zero_iff.1 (Nat.le_zero.1 hfuel)
      exact (h.eq_nil_iff.1 rfl).symm
  | succ fuel ih =>
      cases h with
      | nil => rfl
      | plain hc hrest =>
          rw [decodePercentAux_of_ne hc, ih hrest (Nat.le_of_succ_le_succ hfuel)]
      | @escaped c cs escapes form hc hrest =>
          -- The characters that are escaped right behind this one are decoded together with it.
          obtain ⟨front, back, rest, rfl, hbytes, hback⟩ := hrest.exists_run
          have hrun := escapedBytes_of_char hc hbytes
          have hne : encodeUtf8 (c :: front) ≠ [] :=
            List.append_ne_nil_of_left_ne_nil (encodeChar_ne_nil c) _
          have hlength := length_escapedBytes (escapes ++ form)
          rw [hrun] at hlength
          have hpos := List.length_pos_iff.2 hne
          rw [decodePercentAux_of_bytes hrun hne, decodeLossy_encodeUtf8 (Nat.le_refl _),
            ih hback (by dsimp only at hlength; omega)]
          rfl

/-- Percent-encoded text stands for the text that it encodes. -/
theorem decodePercent_of_form (h : PercentForm cs form) : decodePercent form = cs :=
  decodePercentAux_of_form h (Nat.le_refl _)

/-! ## Words as addresses -/

namespace Url

open Text (isLetter)

variable {c : Char} {word : List Char}

/-- An ASCII letter or digit, or the percent sign of an escape. -/
def isEncoded (c : Char) : Bool := c.isAlphanum || c == '%'

theorem ascii_of_isEncoded (h : isEncoded c = true) : c.toNat < 0x80 := by
  simp only [isEncoded, Char.isAlphanum, Char.isAlpha, Char.isUpper, Char.isLower, Char.isDigit,
    Bool.or_eq_true, Bool.and_eq_true, decide_eq_true_eq, beq_iff_eq, ge_iff_le,
    UInt32.le_iff_toNat_le, Char.toNat_val, UInt32.reduceToNat, Char.reduceVal] at h
  rcases h with (⟨-, h⟩ | ⟨-, h⟩) | ⟨-, h⟩ | rfl
  · omega
  · omega
  · omega
  · decide

theorem plain_of_isEncoded (h : isEncoded c = true) :
    Text.isBlank c = false ∧ ':' ∉ Text.lowerChar c := by
  have hall : ∀ code < 0x80, isEncoded (Char.ofNat code) = true →
      Text.isBlank (Char.ofNat code) = false ∧ ':' ∉ Text.lowerChar (Char.ofNat code) := by
    decide +kernel
  have hchar := hall c.toNat (ascii_of_isEncoded h)
  rw [Char.ofNat_toNat] at hchar
  exact hchar h

/-- Encoded text has no scheme, so it is never refused. -/
theorem isAllowed_of_isEncoded (h : ∀ c ∈ cs, isEncoded c = true) : isAllowed cs = true := by
  have hcolon : ':' ∉ Text.lowerChars cs := by
    intro hmem
    obtain ⟨c, hc, rfl | hlower⟩ := Text.exists_of_mem_lowerChars hmem
    · exact absurd (h _ hc) (by decide)
    · exact (plain_of_isEncoded (h c hc)).2 hlower
  have htrim : Text.trim cs = cs :=
    Text.trim_of_unpadded (Text.unpadded_of_forall fun c hc => (plain_of_isEncoded (h c hc)).1)
  have hrefused : ["vbscript:", "javascript:", "file:", "data:"].any
      (Text.startsWith ·.toList (Text.lowerChars cs)) = false := by
    rw [List.any_eq_false]
    intro scheme hscheme
    have hmem : ':' ∈ scheme.toList := by
      revert scheme
      decide
    rw [Text.startsWith_iff]
    exact fun hfront => hcolon (hfront.subset hmem)
  rw [isAllowed, htrim, hrefused]
  rfl

theorem isEncoded_of_mem_percentByte {b : UInt8} (h : c ∈ percentByte b) : isEncoded c = true := by
  have hdigit : ∀ n < 16, isEncoded (upperHexDigit n) = true := by decide
  have hb : b.toNat < 256 := b.toNat_lt
  rw [percentByte, List.mem_cons, List.mem_pair] at h
  rcases h with rfl | rfl | rfl
  · decide
  · exact hdigit _ (by omega)
  · exact hdigit _ (Nat.mod_lt _ (by decide))

/-- No letter is kept as a mark. -/
theorem isAlphanum_of_isKept (hletter : isLetter c = true) (h : isKept c = true) :
    c.isAlphanum = true := by
  rw [isKept, Bool.or_eq_true, List.contains_iff_mem] at h
  refine h.resolve_right fun hmark => ?_
  have hnone : (";/?:@&=+$,-_.!~*'()#".toList.all (!isLetter ·)) = true := by decide +kernel
  have hmark := List.all_eq_true.1 hnone c hmark
  rw [hletter] at hmark
  cases hmark

theorem splitScheme_eq (h : ':' ∉ cs) : splitScheme cs = ([], cs) := by
  rw [splitScheme]
  split
  next rest hdrop =>
    have hmem : ':' ∈ cs.drop (cs.takeWhile isSchemeChar).length := hdrop ▸ List.mem_cons_self
    exact absurd (List.mem_of_mem_drop hmem) h
  next => rfl

variable (hword : ∀ c ∈ word, isLetter c = true)
include hword

theorem not_mem_word {d : Char} (hd : isLetter d = false) : d ∉ word :=
  fun hmem => Text.ne_of_isLetter (hword d hmem) hd rfl

/-- A word is all path. -/
theorem parse_word : parse word = ⟨[], false, [], [], [], word, [], []⟩ := by
  have htrim : Text.trim word = word := Text.trim_of_unpadded
    (Text.unpadded_of_forall fun c hc => Text.isBlank_of_isLetter (hword c hc))
  have hscheme : splitScheme word = ([], word) :=
    splitScheme_eq (not_mem_word hword (by decide))
  have hslashes : Text.startsWith ['/', '/'] word = false := by
    rw [← Bool.not_eq_true, Text.startsWith_iff]
    exact fun hfront => not_mem_word hword (by decide) (hfront.subset List.mem_cons_self)
  have hkeep : ∀ d, isLetter d = false →
      word.takeWhile (· != d) = word ∧ word.dropWhile (· != d) = [] := by
    intro d hd
    rw [List.takeWhile_eq_self_iff, List.dropWhile_eq_nil_iff, and_self]
    exact fun c hc => bne_iff_ne.2 (Text.ne_of_isLetter (hword c hc) hd)
  simp [parse, htrim, hscheme, hslashes, hkeep '#' (by decide), hkeep '?' (by decide)]

theorem normalize_word : normalize word = escapeBut isKept word := by
  rw [← encodePercent_eq_escapeBut isKept (not_mem_word hword (by decide)), normalize,
    parse_word hword]
  simp [hasDomainName, asciiHost, labels, format, Text.joinWith]

/-- The letters of a word that are kept are ASCII. -/
theorem isEncoded_of_mem_escapeBut (h : c ∈ escapeBut isKept word) : isEncoded c = true := by
  obtain ⟨original, hmem, h⟩ := List.mem_flatMap.1 h
  split at h
  next hkept =>
    obtain rfl := List.mem_singleton.1 h
    rw [isEncoded, isAlphanum_of_isKept (hword c hmem) hkept, Bool.true_or]
  next =>
    obtain ⟨b, -, h⟩ := List.mem_flatMap.1 h
    exact isEncoded_of_mem_percentByte h

theorem isAllowed_normalize_word : isAllowed (normalize word) = true := by
  rw [normalize_word hword]
  exact isAllowed_of_isEncoded fun c hc => isEncoded_of_mem_escapeBut hword hc

end Url

end Continuity.Web
