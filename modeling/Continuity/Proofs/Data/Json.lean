import Mathlib.Data.List.Nodup
import Mathlib.Tactic.IntervalCases
import Continuity.Data.Json.Reader

/-! # Documents are read back

What a document is written as is read back as that document, on one line or with a member on each:
texts with all that is escaped in them, whole numbers of any size, and lists and objects with the
blanks between their members. Only numbers with a point are left out, and objects have each name
once.
-/

namespace Continuity.Json

/-! ## Texts -/

section Texts

variable {start offset : Nat} {read cs rest : List Char} {c : Char}

theorem hexValue?_hexDigits {n : Nat} (h : n < 0x20) :
    hexValue? (Text.hexDigits n 4) = some n := by
  have hall : ∀ n < 0x20, hexValue? (Text.hexDigits n 4) = some n := by decide +kernel
  exact hall n h

theorem length_hexDigits (n width : Nat) : (Text.hexDigits n width).length = width := by
  induction width generalizing n with
  | zero => rfl
  | succ width ih => rw [Text.hexDigits, List.length_append, ih, List.length_singleton]

/-- A control character is read back from its code unit. -/
theorem escapedUnit_hexDigits (h : c.toNat < 0x20) (hrest : rest ≠ []) :
    escapedUnit (Text.hexDigits c.toNat 4 ++ rest) = .ok (c, 4) := by
  have hlength := length_hexDigits c.toNat 4
  have hunit : codeUnit? (Text.hexDigits c.toNat 4 ++ rest) = some c.toNat := by
    have hpos := List.length_pos_of_ne_nil hrest
    rw [codeUnit?, List.length_append, hlength, if_pos (by omega), List.take_left' hlength,
      hexValue?_hexDigits h]
  have hlone : loneUnit c.toNat = c := by
    rw [loneUnit, if_neg (by omega), Char.ofNat_toNat]
  rw [escapedUnit, hunit]
  dsimp only
  split
  · rw [if_neg (by omega), hlone]
  · rw [hlone]

/-- What belongs to an escape is passed over. -/
theorem readText_skip (start offset : Nat) (read skipped rest : List Char) :
    readText start offset skipped.length read (skipped ++ rest) =
      readText start (offset + skipped.length) 0 read rest := by
  induction skipped generalizing offset with
  | nil => rfl
  | cons c skipped ih =>
      rw [List.length_cons, List.cons_append, readText, ih]
      congr 1
      omega

/-- An escaped code unit stands for its character. -/
theorem readText_escapedUnit (start offset : Nat) (read : List Char) {size : Nat}
    (hunit : escapedUnit rest = .ok (c, size)) :
    readText start offset 0 read ('\\' :: 'u' :: rest) =
      readText start (offset + 1) (size + 1) (c :: read) ('u' :: rest) := by
  rw [readText.eq_def]
  simp [hunit]

/-- A character is read back from its writing. -/
theorem readText_escapeChar (start offset : Nat) (read : List Char) (c : Char)
    (rest : List Char) (hrest : rest ≠ []) :
    ∃ offset', readText start offset 0 read (escapeChar .controls c ++ rest) =
      readText start offset' 0 (c :: read) rest := by
  unfold escapeChar
  split_ifs with hquote hslash hnewline hreturn htab hbackspace hfeed hcontrol hascii
  · obtain rfl := eq_of_beq hquote
    exact ⟨offset + 2, rfl⟩
  · obtain rfl := eq_of_beq hslash
    exact ⟨offset + 2, rfl⟩
  · obtain rfl := eq_of_beq hnewline
    exact ⟨offset + 2, rfl⟩
  · obtain rfl := eq_of_beq hreturn
    exact ⟨offset + 2, rfl⟩
  · obtain rfl := eq_of_beq htab
    exact ⟨offset + 2, rfl⟩
  · obtain rfl := eq_of_beq hbackspace
    exact ⟨offset + 2, rfl⟩
  · obtain rfl := eq_of_beq hfeed
    exact ⟨offset + 2, rfl⟩
  · have hskip := readText_skip start (offset + 1) (c :: read)
      ('u' :: Text.hexDigits c.toNat 4) rest
    rw [List.length_cons, length_hexDigits, List.cons_append] at hskip
    rw [escapeUnits, if_pos (by omega), List.cons_append, List.cons_append,
      readText_escapedUnit start offset read (escapedUnit_hexDigits hcontrol hrest)]
    exact ⟨_, hskip⟩
  · cases hascii
  · refine ⟨offset + 1, ?_⟩
    rw [List.singleton_append, readText.eq_def]
    simp only [if_neg hquote, if_neg hcontrol, if_neg hslash]

/-- A text is read back up to its closing quote. -/
theorem readText_quoted (start offset : Nat) (read cs rest : List Char) :
    ∃ offset', readText start offset 0 read (cs.flatMap (escapeChar .controls) ++ '"' :: rest) =
      .ok (String.ofList (read.reverse ++ cs), ⟨offset', rest⟩) := by
  induction cs generalizing offset read with
  | nil => exact ⟨offset + 1, by rw [List.append_nil]; rfl⟩
  | cons c cs ih =>
      rw [List.flatMap_cons, List.append_assoc]
      obtain ⟨offset', hc⟩ := readText_escapeChar start offset read c
        (cs.flatMap (escapeChar .controls) ++ '"' :: rest) (by simp)
      obtain ⟨offset'', hcs⟩ := ih offset' (c :: read)
      exact ⟨offset'', by rw [hc, hcs, List.reverse_cons, List.append_assoc]; rfl⟩

end Texts

/-! ## Whole numbers -/

section Numbers

/-- What follows does not belong to a number. -/
def EndsNumber (rest : List Char) : Prop :=
  ∀ c ∈ rest.head?, c.isDigit = false ∧ c ≠ '.' ∧ c ≠ 'e' ∧ c ≠ 'E'

/-- The digits of a number do not begin with a zero, but for zero itself. -/
theorem exists_toDigits_eq_cons {n : Nat} (h : 0 < n) :
    ∃ d digits, Nat.toDigits 10 n = d :: digits ∧ d ≠ '0' := by
  induction n using Nat.strongRecOn with
  | ind n ih =>
      by_cases hn : n < 10
      · refine ⟨n.digitChar, [], Nat.toDigits_of_lt_base hn, ?_⟩
        interval_cases n <;> decide
      · obtain ⟨d, digits, hdigits, hd⟩ := ih (n / 10) (by omega) (by omega)
        exact ⟨d, digits ++ [(n % 10).digitChar],
          by rw [Nat.toDigits_of_base_le (by decide) (by omega), hdigits, List.cons_append], hd⟩

theorem exists_isDigit (n : Nat) :
    ∃ d digits, Nat.toDigits 10 n = d :: digits ∧ d.isDigit = true := by
  have hne : Nat.toDigits 10 n ≠ [] := Nat.toDigits_ne_nil
  obtain ⟨d, digits, hdigits⟩ := List.exists_cons_of_ne_nil hne
  have hd : d ∈ Nat.toDigits 10 n := by
    rw [hdigits]
    exact List.mem_cons_self
  exact ⟨d, digits, hdigits, Nat.isDigit_of_mem_toDigits (by decide) (by decide) hd⟩

theorem digitsValue_toDigits (n : Nat) : digitsValue (Nat.toDigits 10 n) = n := by
  have hfold : digitsValue (Nat.toDigits 10 n) = Nat.ofDigitChars 10 (Nat.toDigits 10 n) 0 := by
    rw [digitsValue, Nat.ofDigitChars_eq_foldl]
    simp only [Nat.mul_comm]
  rw [hfold, Nat.ofDigitChars_ten_toDigits]

variable {rest : List Char}

theorem wholeDigits_toDigits (n : Nat) (hrest : EndsNumber rest) :
    wholeDigits (Nat.toDigits 10 n ++ rest) = Nat.toDigits 10 n := by
  rcases Nat.eq_zero_or_pos n with rfl | hn
  · rfl
  · obtain ⟨d, digits, hdigits, hd⟩ := exists_toDigits_eq_cons hn
    have hall : ∀ c ∈ d :: digits, c.isDigit = true := fun c hc =>
      Nat.isDigit_of_mem_toDigits (by decide) (by decide) (hdigits ▸ hc)
    have hend : rest.takeWhile Char.isDigit = [] := by
      cases rest with
      | nil => rfl
      | cons c more => simp [(hrest c rfl).1]
    rw [hdigits, List.cons_append, wholeDigits, ← List.cons_append,
      List.takeWhile_append_of_pos hall, hend, List.append_nil]
    rintro _ heq
    exact hd (List.cons.inj heq).1

theorem decimals?_of_endsNumber (hrest : EndsNumber rest) : decimals? rest = none := by
  unfold decimals?
  split
  next more => exact absurd rfl (hrest '.' rfl).2.1
  next => rfl

theorem exponent?_of_endsNumber (hrest : EndsNumber rest) : exponent? rest = none := by
  cases rest with
  | nil => rfl
  | cons c more =>
      obtain ⟨-, -, he, hE⟩ := hrest c rfl
      exact if_neg (by simp [he, hE])

/-- The digits of a number are read up to the last, after its sign. -/
theorem numberParts?_of_signed {cs : List Char} {negative : Bool} {n : Nat}
    (hrest : EndsNumber rest) (hsigned : signed cs = (negative, Nat.toDigits 10 n ++ rest)) :
    numberParts? cs = some ⟨negative, Nat.toDigits 10 n, none, none,
      (if negative then 1 else 0) + (Nat.toDigits 10 n).length⟩ := by
  rw [numberParts?, hsigned]
  simp [wholeDigits_toDigits n hrest, Nat.toDigits_ne_nil, decimals?_of_endsNumber hrest,
    exponent?_of_endsNumber hrest]

/-- A whole number is written as its digits, after a minus sign where it is negative. -/
theorem toList_toString (n : Int) : (toString n).toList =
    (if n < 0 then ['-'] else []) ++ Nat.toDigits 10 n.natAbs := by
  rw [Int.toString_eq_repr]
  cases n with
  | ofNat n =>
      rw [Int.repr, Nat.toList_repr, if_neg (by simp)]
      rfl
  | negSucc n =>
      rw [Int.repr, String.toList_append, Nat.toList_repr, if_pos (Int.negSucc_lt_zero n)]
      rfl

/-- A whole number is read back. -/
theorem exists_numberParts? (n : Int) (hrest : EndsNumber rest) :
    ∃ p, numberParts? ((toString n).toList ++ rest) = some p ∧ p.value = .int n ∧
      p.size = (toString n).toList.length := by
  have hsigned : signed ((toString n).toList ++ rest) =
      (decide (n < 0), Nat.toDigits 10 n.natAbs ++ rest) := by
    rw [toList_toString]
    by_cases hn : n < 0
    · simp [hn, signed]
    · obtain ⟨d, digits, hdigits, hd⟩ := exists_isDigit n.natAbs
      rw [if_neg hn, decide_eq_false hn, hdigits, List.nil_append, List.cons_append, signed]
      rintro _ heq
      obtain rfl := (List.cons.inj heq).1
      exact absurd hd (by decide)
  refine ⟨_, numberParts?_of_signed hrest hsigned, ?_, ?_⟩
  · simp only [NumberParts.value, digitsValue_toDigits, decide_eq_true_eq]
    split
    · congr 1
      omega
    · congr 1
      omega
  · rw [toList_toString, List.length_append]
    by_cases hn : n < 0 <;> simp [hn]

end Numbers

/-! ## Blanks -/

section Blanks

variable {blanks rest : List Char}

/-- A text has no blanks in front. -/
def StartsPlain (cs : List Char) : Prop := ∀ c ∈ cs.head?, isJsonBlank c = false

/-- Blanks are passed over. -/
theorem skipBlanks_append (offset : Nat) (hblanks : ∀ c ∈ blanks, isJsonBlank c = true)
    (hrest : StartsPlain rest) :
    Cursor.skipBlanks ⟨offset, blanks ++ rest⟩ = ⟨offset + blanks.length, rest⟩ := by
  have hend : rest.takeWhile isJsonBlank = [] := by
    cases rest with
    | nil => rfl
    | cons c more => simp [hrest c rfl]
  have htake : (blanks ++ rest).takeWhile isJsonBlank = blanks := by
    rw [List.takeWhile_append_of_pos hblanks, hend, List.append_nil]
  rw [Cursor.skipBlanks, htake, List.drop_left]

theorem isJsonBlank_lineStart (layout : Layout) : ∀ c ∈ layout.lineStart, isJsonBlank c = true := by
  cases layout with
  | line => simp [Layout.lineStart]
  | indented level =>
      simp only [Layout.lineStart, List.mem_cons, List.mem_replicate]
      rintro c (rfl | ⟨-, rfl⟩) <;> decide

/-- Members are separated by a comma and blanks. -/
theorem exists_separator_eq (layout : Layout) :
    ∃ blanks, layout.separator = ',' :: blanks ∧ ∀ c ∈ blanks, isJsonBlank c = true := by
  cases layout with
  | line => exact ⟨[' '], rfl, by simp [isJsonBlank]⟩
  | indented level => exact ⟨_, rfl, isJsonBlank_lineStart (.indented level)⟩

end Blanks

/-! ## Documents -/

/-- A document without floating-point numbers, whose objects have each name once. -/
inductive Exact : Json → Prop where
  | null : Exact .null
  | bool (b : Bool) : Exact (.bool b)
  | int (n : Int) : Exact (.int n)
  | text (s : String) : Exact (.text s)
  | list {items : List Json} (items_exact : ∀ item ∈ items, Exact item) : Exact (.list items)
  | object {members : List (String × Json)} (names : (members.map (·.1)).Nodup)
      (members_exact : ∀ m ∈ members, Exact m.2) : Exact (.object members)

/-- A document is read back from its writing, whatever follows. -/
structure ReadsBack (finite : Float → String) (j : Json) : Prop where
  starts : ∀ layout, ∃ c cs, chars .controls finite layout j = c :: cs ∧
    isJsonBlank c = false ∧ c ≠ ']' ∧ c ≠ '\uFEFF'
  reads : ∀ layout fuel offset rest, 2 * (chars .controls finite layout j).length ≤ fuel →
    EndsNumber rest → ∃ last, readValue fuel ⟨offset, chars .controls finite layout j ++ rest⟩ =
      .ok (j, ⟨last, rest⟩)

section Documents

variable {finite : Float → String} {rest : List Char}

/-- Reading takes a step, as there is a first character. -/
theorem ReadsBack.of_succ {j : Json} (hstarts : ∀ layout, ∃ c cs,
      chars .controls finite layout j = c :: cs ∧ isJsonBlank c = false ∧ c ≠ ']' ∧ c ≠ '\uFEFF')
    (hreads : ∀ layout fuel offset rest,
      2 * (chars .controls finite layout j).length ≤ fuel + 1 → EndsNumber rest →
      ∃ last, readValue (fuel + 1) ⟨offset, chars .controls finite layout j ++ rest⟩ =
        .ok (j, ⟨last, rest⟩)) : ReadsBack finite j where
  starts := hstarts
  reads := by
    intro layout fuel offset rest hfuel hrest
    obtain ⟨c, cs, hchars, -⟩ := hstarts layout
    have hlength : 0 < (chars .controls finite layout j).length := by
      rw [hchars]
      exact Nat.succ_pos _
    obtain ⟨fuel, rfl⟩ : ∃ f, fuel = f + 1 := ⟨fuel - 1, by omega⟩
    exact hreads layout fuel offset rest hfuel hrest

/-! ### Values that have no parts -/

theorem readValue_of_ne (fuel offset : Nat) {c : Char} (cs : List Char) (hquote : c ≠ '"')
    (hbrace : c ≠ '\x7b') (hbracket : c ≠ '[') :
    readValue (fuel + 1) ⟨offset, c :: cs⟩ =
      match word? (c :: cs) with
      | some (size, v) => .ok (v, Cursor.advance ⟨offset, c :: cs⟩ size)
      | none =>
        match numberParts? (c :: cs) with
        | some p => .ok (p.value, Cursor.advance ⟨offset, c :: cs⟩ p.size)
        | none => .error ⟨.value, offset⟩ := by
  rw [readValue]
  simp only
  split
  · next heq => cases heq
  · next heq => exact absurd (List.cons.inj heq).1 hquote
  · next heq => exact absurd (List.cons.inj heq).1 hbrace
  · next heq => exact absurd (List.cons.inj heq).1 hbracket
  · rfl

/-- What is written as a word or a number is read back as that. -/
theorem ReadsBack.of_plain {written : List Char} {j : Json} {c : Char} {cs : List Char}
    (hchars : ∀ layout, chars .controls finite layout j = written) (hwritten : written = c :: cs)
    (hc : isJsonBlank c = false ∧ c ≠ ']' ∧ c ≠ '\uFEFF' ∧ c ≠ '"' ∧ c ≠ '\x7b' ∧ c ≠ '[')
    (hread : ∀ rest, EndsNumber rest → word? (written ++ rest) = some (written.length, j) ∨
      word? (written ++ rest) = none ∧ ∃ p, numberParts? (written ++ rest) = some p ∧
        p.value = j ∧ p.size = written.length) : ReadsBack finite j := by
  refine .of_succ (fun layout => ⟨c, cs, (hchars layout).trans hwritten, hc.1, hc.2.1, hc.2.2.1⟩)
    fun layout fuel offset rest _ hrest => ?_
  have hadvance : Cursor.advance ⟨offset, written ++ rest⟩ written.length =
      ⟨offset + written.length, rest⟩ := by
    rw [Cursor.advance, List.drop_left]
  have hvalue := readValue_of_ne fuel offset (cs ++ rest) hc.2.2.2.1 hc.2.2.2.2.1 hc.2.2.2.2.2
  rw [← List.cons_append, ← hwritten] at hvalue
  refine ⟨offset + written.length, ?_⟩
  rw [hchars, hvalue]
  rcases hread rest hrest with hword | ⟨hword, p, hparts, rfl, hsize⟩
  · rw [hword]
    dsimp only
    rw [hadvance]
  · rw [hword, hparts]
    dsimp only
    rw [hsize, hadvance]

theorem ReadsBack.null : ReadsBack finite .null :=
  .of_plain (fun _ => rfl) rfl (by decide) fun _ _ => .inl rfl

theorem ReadsBack.bool (b : Bool) : ReadsBack finite (.bool b) := by
  cases b with
  | true => exact .of_plain (fun _ => rfl) rfl (by decide) fun _ _ => .inl rfl
  | false => exact .of_plain (fun _ => rfl) rfl (by decide) fun _ _ => .inl rfl

/-- No word begins as a whole number does. -/
theorem word?_toString (n : Int) (rest : List Char) :
    word? ((toString n).toList ++ rest) = none := by
  obtain ⟨d, digits, hdigits, hd⟩ := exists_isDigit n.natAbs
  have hletters : ∀ c ∈ ['n', 't', 'f', 'N', 'I', '-'], ¬c.isDigit = true := by
    simp [Char.isDigit]
  have hne : ∀ c ∈ ['n', 't', 'f', 'N', 'I', '-'], c ≠ d := fun c hc hcd =>
    hletters c hc (hcd ▸ hd)
  simp only [List.forall_mem_cons] at hne
  rw [toList_toString, hdigits]
  by_cases hn : n < 0 <;> simp [hn, word?, words, hne]

theorem ReadsBack.int (n : Int) : ReadsBack finite (.int n) := by
  obtain ⟨d, digits, hdigits, hd⟩ := exists_isDigit n.natAbs
  have hhead : ∃ c cs, (toString n).toList = c :: cs ∧ (c = '-' ∨ c.isDigit = true) := by
    rw [toList_toString, hdigits]
    by_cases hn : n < 0
    · exact ⟨_, _, by rw [if_pos hn]; rfl, .inl rfl⟩
    · exact ⟨_, _, by rw [if_neg hn]; rfl, .inr hd⟩
  obtain ⟨c, cs, hwritten, hc⟩ := hhead
  refine .of_plain (fun _ => rfl) hwritten ?_ fun rest hrest =>
    .inr ⟨word?_toString n rest, exists_numberParts? n hrest⟩
  have hothers : ∀ e ∈ [' ', '\t', '\n', '\r', ']', '\uFEFF', '"', '\x7b', '['],
      ¬(e = '-' ∨ e.isDigit = true) := by
    simp [Char.isDigit]
  have hne : ∀ e ∈ [' ', '\t', '\n', '\r', ']', '\uFEFF', '"', '\x7b', '['], c ≠ e :=
    fun e he hce => hothers e he (hce ▸ hc)
  simpa [isJsonBlank, and_assoc] using hne

theorem readValue_quote (fuel offset : Nat) (cs : List Char) :
    readValue (fuel + 1) ⟨offset, '"' :: cs⟩ =
      match readText offset (offset + 1) 0 [] cs with
      | .error e => .error e
      | .ok (s, next) => .ok (.text s, next) := by
  rw [readValue]
  rfl

theorem ReadsBack.text (s : String) : ReadsBack finite (.text s) := by
  refine .of_succ (fun _ => ⟨_, _, rfl, by decide⟩) fun layout fuel offset rest _ _ => ?_
  have hchars : chars .controls finite layout (.text s) ++ rest =
      '"' :: (s.toList.flatMap (escapeChar .controls) ++ '"' :: rest) := by
    simp [chars, quotedText]
  obtain ⟨last, htext⟩ := readText_quoted offset (offset + 1) [] s.toList rest
  rw [List.reverse_nil, List.nil_append, String.ofList_toList] at htext
  exact ⟨last, by rw [hchars, readValue_quote, htext]⟩

/-! ### What stands between the parts of a value -/

variable {layout : Layout} {blanks closing more : List Char} {c : Char}

theorem ReadsBack.startsPlain {j : Json} (h : ReadsBack finite j) (layout : Layout)
    (rest : List Char) : StartsPlain (chars .controls finite layout j ++ rest) := by
  obtain ⟨c, cs, hchars, hc, -⟩ := h.starts layout
  rw [hchars]
  rintro _ ⟨⟩
  exact hc

/-- A number ends at blanks and at a mark. -/
theorem endsNumber_append (hblanks : ∀ c ∈ blanks, isJsonBlank c = true)
    (hc : c ∈ [',', ']', '\x7d']) (rest : List Char) : EndsNumber (blanks ++ c :: rest) := by
  cases blanks with
  | nil =>
      rintro _ ⟨⟩
      simp only [List.mem_cons, List.not_mem_nil, or_false] at hc
      rcases hc with rfl | rfl | rfl <;> decide
  | cons b blanks =>
      rintro _ ⟨⟩
      have hb := hblanks b List.mem_cons_self
      simp only [isJsonBlank, Bool.or_eq_true, beq_iff_eq] at hb
      rcases hb with ((rfl | rfl) | rfl) | rfl <;> decide

theorem endsNumber_separator (layout : Layout) (rest : List Char) :
    EndsNumber (layout.separator ++ rest) := by
  obtain ⟨blanks, hsep, -⟩ := exists_separator_eq layout
  rw [hsep]
  exact endsNumber_append (List.forall_mem_nil _) (by decide) _

theorem length_separator_pos (layout : Layout) : 0 < layout.separator.length := by
  obtain ⟨blanks, hsep, -⟩ := exists_separator_eq layout
  rw [hsep]
  exact Nat.succ_pos _

theorem startsPlain_cons (hc : isJsonBlank c = false) (rest : List Char) :
    StartsPlain (c :: rest) := by
  rintro _ ⟨⟩
  exact hc

/-- A separator is passed over in two steps, up to its comma and past it. -/
theorem skipBlanks_separator (layout : Layout) (offset : Nat) (hmore : StartsPlain more) :
    ∃ cs next, Cursor.skipBlanks ⟨offset, layout.separator ++ more⟩ = ⟨offset, ',' :: cs⟩ ∧
      Cursor.skipBlanks (Cursor.advance ⟨offset, ',' :: cs⟩ 1) = ⟨next, more⟩ := by
  obtain ⟨blanks, hsep, hblanks⟩ := exists_separator_eq layout
  rw [hsep]
  exact ⟨blanks ++ more, _,
    skipBlanks_append offset (List.forall_mem_nil _) (startsPlain_cons (by decide) _),
    skipBlanks_append (offset + 1) hblanks hmore⟩

/-! ### Lists -/

/-- An item is read back, and what follows it decides whether the list goes on. -/
theorem readItems_item (layout : Layout) {item : Json} (hitem : ReadsBack finite item)
    {fuel : Nat} (hfuel : 2 * (chars .controls finite layout item).length ≤ fuel) (offset : Nat)
    (read : List Json) {rest : List Char} (hrest : EndsNumber rest) : ∃ past,
      readItems (fuel + 1) read ⟨offset, chars .controls finite layout item ++ rest⟩ =
        let c := Cursor.skipBlanks ⟨past, rest⟩
        match c.rest with
        | ']' :: _ => .ok (.list (item :: read).reverse, c.advance 1)
        | ',' :: _ => readItems fuel (item :: read) (c.advance 1).skipBlanks
        | _ => .error ⟨.comma, c.offset⟩ := by
  obtain ⟨past, hvalue⟩ := hitem.reads layout fuel offset rest hfuel hrest
  refine ⟨past, ?_⟩
  rw [readItems]
  exact hvalue ▸ rfl

/-- The items of a list are read back up to its closing bracket. -/
theorem readItems_chars (layout : Layout) (hclosing : ∀ c ∈ closing, isJsonBlank c = true)
    (rest : List Char) {items : List Json} (hitems : ∀ j ∈ items, ReadsBack finite j) {item : Json}
    (hitem : ReadsBack finite item) (fuel offset : Nat) (read : List Json)
    (hfuel : 2 * (chars .controls finite layout item).length +
      2 * (itemChars .controls finite layout items).length < fuel) :
    ∃ last, readItems fuel read ⟨offset, chars .controls finite layout item ++
        (itemChars .controls finite layout items ++ (closing ++ ']' :: rest))⟩ =
      .ok (.list (read.reverse ++ item :: items), ⟨last, rest⟩) := by
  -- every item takes a step of its own, and has a character of its own to pay for it
  obtain ⟨fuel, rfl⟩ : ∃ f, fuel = f + 1 := ⟨fuel - 1, by omega⟩
  induction items generalizing item fuel offset read with
  | nil =>
      have hends : EndsNumber (closing ++ ']' :: rest) :=
        endsNumber_append hclosing (by decide) rest
      have hfuel : 2 * (chars .controls finite layout item).length ≤ fuel := by omega
      obtain ⟨past, hread⟩ := readItems_item layout hitem hfuel offset read hends
      refine ⟨past + closing.length + 1, hread.trans ?_⟩
      rw [skipBlanks_append past hclosing (startsPlain_cons (by decide) rest), List.reverse_cons]
      rfl
  | cons next items ih =>
      obtain ⟨hnext, hitems⟩ := List.forall_mem_cons.1 hitems
      have hchars : itemChars .controls finite layout (next :: items) =
          layout.separator ++ chars .controls finite layout next ++
            itemChars .controls finite layout items := rfl
      have hsep := length_separator_pos layout
      rw [hchars, List.length_append, List.length_append] at hfuel
      obtain ⟨fuel, rfl⟩ : ∃ f, fuel = f + 1 := ⟨fuel - 1, by omega⟩
      have hfuel' : 2 * (chars .controls finite layout item).length ≤ fuel + 1 := by omega
      obtain ⟨past, hread⟩ := readItems_item layout hitem hfuel' offset read
        (endsNumber_separator layout (chars .controls finite layout next ++
          (itemChars .controls finite layout items ++ (closing ++ ']' :: rest))))
      obtain ⟨cs, start, hcomma, hstart⟩ := skipBlanks_separator layout past
        (hnext.startsPlain layout (itemChars .controls finite layout items ++
          (closing ++ ']' :: rest)))
      obtain ⟨last, hmore⟩ := ih hitems hnext start (item :: read) fuel (by omega)
      rw [List.reverse_cons, List.append_assoc, List.singleton_append] at hmore
      refine ⟨last, ?_⟩
      rw [hchars, List.append_assoc, List.append_assoc, hread, hcomma, ← hmore, ← hstart]
      rfl

theorem readValue_bracket (fuel offset : Nat) (cs : List Char) :
    readValue (fuel + 1) ⟨offset, '[' :: cs⟩ =
      let c := Cursor.skipBlanks ⟨offset + 1, cs⟩
      match c.rest with
      | ']' :: _ => .ok (.list [], c.advance 1)
      | _ => readItems fuel [] c := by
  rw [readValue]
  rfl

theorem ReadsBack.list {items : List Json} (hitems : ∀ j ∈ items, ReadsBack finite j) :
    ReadsBack finite (.list items) := by
  cases items with
  | nil =>
      exact .of_succ (fun _ => ⟨_, _, rfl, by decide⟩) fun _ _ offset _ _ _ => ⟨offset + 2, rfl⟩
  | cons item items =>
      obtain ⟨hitem, hitems⟩ := List.forall_mem_cons.1 hitems
      refine .of_succ (fun _ => ⟨_, _, rfl, by decide⟩) fun layout fuel offset rest hfuel _ => ?_
      have hchars : chars .controls finite layout (.list (item :: items)) =
          '[' :: (layout.inner.lineStart ++ (chars .controls finite layout.inner item ++
            (itemChars .controls finite layout.inner items ++ (layout.lineStart ++ [']'])))) := by
        simp [chars]
      have hfuel : 2 * (chars .controls finite layout.inner item).length +
          2 * (itemChars .controls finite layout.inner items).length < fuel := by
        simp only [hchars, List.length_cons, List.length_append] at hfuel
        omega
      obtain ⟨c, cs, hc, -, hbracket, -⟩ := hitem.starts layout.inner
      obtain ⟨last, hread⟩ := readItems_chars layout.inner (isJsonBlank_lineStart layout) rest
        hitems hitem fuel (offset + 1 + layout.inner.lineStart.length) [] hfuel
      have hskip := skipBlanks_append (offset + 1) (isJsonBlank_lineStart layout.inner)
        (hitem.startsPlain layout.inner (itemChars .controls finite layout.inner items ++
          (layout.lineStart ++ ']' :: rest)))
      have hrest : chars .controls finite layout (.list (item :: items)) ++ rest =
          '[' :: (layout.inner.lineStart ++ (chars .controls finite layout.inner item ++
            (itemChars .controls finite layout.inner items ++
              (layout.lineStart ++ ']' :: rest)))) := by simp [hchars]
      refine ⟨last, ?_⟩
      rw [hrest, readValue_bracket, hskip]
      dsimp only
      rw [hc] at hread ⊢
      split
      next heq => exact absurd (List.cons.inj heq).1 hbracket
      next => exact hread

/-! ### Objects -/

/-- A name that is new comes last. -/
theorem insertMember_of_notMem {name : String} {members : List (String × Json)}
    (h : name ∉ members.map (·.1)) (item : Json) :
    insertMember name item members = members ++ [(name, item)] := by
  induction members with
  | nil => rfl
  | cons first members ih =>
      obtain ⟨hne, hmembers⟩ := not_or.1 (mt List.mem_cons.2 h)
      rw [insertMember, if_neg (by simpa using Ne.symm hne), ih hmembers, List.cons_append]

/-- The colon after a name is passed over in two steps, up to it and past it. -/
theorem skipBlanks_colon (offset : Nat) {cs : List Char} (hcs : StartsPlain cs) :
    Cursor.skipBlanks ⟨offset, ':' :: ' ' :: cs⟩ = ⟨offset, ':' :: ' ' :: cs⟩ ∧
      Cursor.skipBlanks (Cursor.advance ⟨offset, ':' :: ' ' :: cs⟩ 1) = ⟨offset + 1 + 1, cs⟩ := by
  have hblank : ∀ c ∈ [' '], isJsonBlank c = true := by simp [isJsonBlank]
  exact ⟨skipBlanks_append offset (List.forall_mem_nil _) (startsPlain_cons (by decide) _),
    skipBlanks_append (offset + 1) hblank hcs⟩

/-- A member of an object, as it is written. -/
def namedChars (finite : Float → String) (layout : Layout) (m : String × Json) : List Char :=
  quotedText .controls m.1.toList ++ ':' :: ' ' :: chars .controls finite layout m.2

theorem startsPlain_namedChars (finite : Float → String) (layout : Layout) (m : String × Json)
    (rest : List Char) : StartsPlain (namedChars finite layout m ++ rest) :=
  startsPlain_cons (by decide) _

/-- A member is read back, and what follows it decides whether the object goes on. -/
theorem readMembers_member (layout : Layout) {m : String × Json} (hm : ReadsBack finite m.2)
    {fuel : Nat} (hfuel : 2 * (namedChars finite layout m).length ≤ fuel) (offset : Nat)
    {read : List (String × Json)} (hnew : m.1 ∉ read.map (·.1)) {rest : List Char}
    (hrest : EndsNumber rest) : ∃ past,
      readMembers (fuel + 1) read ⟨offset, namedChars finite layout m ++ rest⟩ =
        let c := Cursor.skipBlanks ⟨past, rest⟩
        match c.rest with
        | '\x7d' :: _ => .ok (.object (read ++ [m]), c.advance 1)
        | ',' :: _ => readMembers fuel (read ++ [m]) (c.advance 1).skipBlanks
        | _ => .error ⟨.comma, c.offset⟩ := by
  have hnamed : namedChars finite layout m ++ rest =
      '"' :: (m.1.toList.flatMap (escapeChar .controls) ++ '"' :: ':' :: ' ' ::
        (chars .controls finite layout m.2 ++ rest)) := by
    simp [namedChars, quotedText]
  have hlength : (chars .controls finite layout m.2).length ≤
      (namedChars finite layout m).length := by
    rw [namedChars, List.length_append, List.length_cons, List.length_cons]
    omega
  obtain ⟨quote, htext⟩ := readText_quoted offset (offset + 1) [] m.1.toList
    (':' :: ' ' :: (chars .controls finite layout m.2 ++ rest))
  rw [List.reverse_nil, List.nil_append, String.ofList_toList] at htext
  obtain ⟨hcolon, hblank⟩ := skipBlanks_colon quote (hm.startsPlain layout rest)
  obtain ⟨past, hvalue⟩ := hm.reads layout fuel (quote + 1 + 1) rest (by omega) hrest
  have hinsert : read ++ [m] = insertMember m.1 m.2 read :=
    (insertMember_of_notMem hnew m.2).symm
  refine ⟨past, ?_⟩
  rw [hnamed, hinsert, readMembers]
  split
  next heq =>
    obtain rfl := (List.cons.inj heq).2
    rw [htext]
    dsimp only
    rw [hcolon]
    dsimp only
    rw [hblank, hvalue]
    rfl
  next hother => exact absurd rfl (hother _)

theorem notMem_of_nodup {read members : List (String × Json)} {m : String × Json}
    (h : ((read ++ m :: members).map (·.1)).Nodup) : m.1 ∉ read.map (·.1) := by
  rw [List.map_append] at h
  exact fun hmem => List.disjoint_of_nodup_append h hmem List.mem_cons_self

/-- The members of an object are read back up to its closing bracket. -/
theorem readMembers_chars (layout : Layout) (hclosing : ∀ c ∈ closing, isJsonBlank c = true)
    (rest : List Char) {members : List (String × Json)}
    (hmembers : ∀ m ∈ members, ReadsBack finite m.2) {m : String × Json}
    (hm : ReadsBack finite m.2) (fuel offset : Nat) (read : List (String × Json))
    (hnames : ((read ++ m :: members).map (·.1)).Nodup)
    (hfuel : 2 * (namedChars finite layout m).length +
      2 * (memberChars .controls finite layout members).length < fuel) :
    ∃ last, readMembers fuel read ⟨offset, namedChars finite layout m ++
        (memberChars .controls finite layout members ++ (closing ++ '\x7d' :: rest))⟩ =
      .ok (.object (read ++ m :: members), ⟨last, rest⟩) := by
  obtain ⟨fuel, rfl⟩ : ∃ f, fuel = f + 1 := ⟨fuel - 1, by omega⟩
  have hnew := notMem_of_nodup hnames
  induction members generalizing m fuel offset read with
  | nil =>
      have hends : EndsNumber (closing ++ '\x7d' :: rest) :=
        endsNumber_append hclosing (by decide) rest
      have hfuel : 2 * (namedChars finite layout m).length ≤ fuel := by omega
      obtain ⟨past, hread⟩ := readMembers_member layout hm hfuel offset hnew hends
      refine ⟨past + closing.length + 1, hread.trans ?_⟩
      rw [skipBlanks_append past hclosing (startsPlain_cons (by decide) rest)]
      rfl
  | cons next members ih =>
      obtain ⟨hnext, hmembers⟩ := List.forall_mem_cons.1 hmembers
      have hchars : memberChars .controls finite layout (next :: members) =
          layout.separator ++ (namedChars finite layout next ++
            memberChars .controls finite layout members) := by
        simp [memberChars, namedChars]
      have hsep := length_separator_pos layout
      rw [hchars, List.length_append, List.length_append] at hfuel
      obtain ⟨fuel, rfl⟩ : ∃ f, fuel = f + 1 := ⟨fuel - 1, by omega⟩
      have hfuel' : 2 * (namedChars finite layout m).length ≤ fuel + 1 := by omega
      obtain ⟨past, hread⟩ := readMembers_member layout hm hfuel' offset hnew
        (endsNumber_separator layout (namedChars finite layout next ++
          (memberChars .controls finite layout members ++ (closing ++ '\x7d' :: rest))))
      obtain ⟨cs, start, hcomma, hstart⟩ := skipBlanks_separator layout past
        (startsPlain_namedChars finite layout next (memberChars .controls finite layout members ++
          (closing ++ '\x7d' :: rest)))
      have hnames' : (((read ++ [m]) ++ next :: members).map (·.1)).Nodup := by
        rwa [List.append_assoc]
      obtain ⟨last, hmore⟩ := ih hmembers hnext start (read ++ [m]) hnames' fuel (by omega)
        (notMem_of_nodup hnames')
      rw [List.append_assoc, List.singleton_append] at hmore
      refine ⟨last, ?_⟩
      rw [hchars, List.append_assoc, List.append_assoc, hread, hcomma, ← hmore, ← hstart]
      rfl

theorem readValue_brace (fuel offset : Nat) (cs : List Char) :
    readValue (fuel + 1) ⟨offset, '\x7b' :: cs⟩ =
      let c := Cursor.skipBlanks ⟨offset + 1, cs⟩
      match c.rest with
      | '\x7d' :: _ => .ok (.object [], c.advance 1)
      | _ => readMembers fuel [] c := by
  rw [readValue]
  rfl

theorem ReadsBack.object {members : List (String × Json)} (hnames : (members.map (·.1)).Nodup)
    (hmembers : ∀ m ∈ members, ReadsBack finite m.2) : ReadsBack finite (.object members) := by
  cases members with
  | nil =>
      exact .of_succ (fun _ => ⟨_, _, rfl, by decide⟩) fun _ _ offset _ _ _ => ⟨offset + 2, rfl⟩
  | cons m members =>
      obtain ⟨hm, hmembers⟩ := List.forall_mem_cons.1 hmembers
      refine .of_succ (fun _ => ⟨_, _, rfl, by decide⟩) fun layout fuel offset rest hfuel _ => ?_
      have hchars : chars .controls finite layout (.object (m :: members)) =
          '\x7b' :: (layout.inner.lineStart ++ (namedChars finite layout.inner m ++
            (memberChars .controls finite layout.inner members ++
              (layout.lineStart ++ ['\x7d'])))) := by
        simp [chars, namedChars]
      have hfuel : 2 * (namedChars finite layout.inner m).length +
          2 * (memberChars .controls finite layout.inner members).length < fuel := by
        simp only [hchars, List.length_cons, List.length_append] at hfuel
        omega
      obtain ⟨last, hread⟩ := readMembers_chars layout.inner (isJsonBlank_lineStart layout) rest
        hmembers hm fuel (offset + 1 + layout.inner.lineStart.length) [] hnames hfuel
      have hskip := skipBlanks_append (offset + 1) (isJsonBlank_lineStart layout.inner)
        (startsPlain_namedChars finite layout.inner m
          (memberChars .controls finite layout.inner members ++
            (layout.lineStart ++ '\x7d' :: rest)))
      have hrest : chars .controls finite layout (.object (m :: members)) ++ rest =
          '\x7b' :: (layout.inner.lineStart ++ (namedChars finite layout.inner m ++
            (memberChars .controls finite layout.inner members ++
              (layout.lineStart ++ '\x7d' :: rest)))) := by simp [hchars]
      refine ⟨last, ?_⟩
      rw [hrest, readValue_brace, hskip]
      exact hread

/-! ### Every document -/

theorem Exact.readsBack {j : Json} (h : Exact j) : ReadsBack finite j := by
  induction h with
  | null => exact .null
  | bool b => exact .bool b
  | int n => exact .int n
  | text s => exact .text s
  | list _ ih => exact .list ih
  | object names _ ih => exact .object names ih

/-- A document is read back from its writing. -/
theorem read_indented {j : Json} (h : Exact j) : read (indented finite j).toList = .ok j := by
  have hj : ReadsBack finite j := h.readsBack
  rw [indented, String.toList_ofList]
  obtain ⟨c, cs, hchars, hblank, -, hmark⟩ := hj.starts (.indented 0)
  obtain ⟨last, hvalue⟩ := hj.reads (.indented 0)
    (2 * (chars .controls finite (.indented 0) j).length + 2) 0 [] (by omega) nofun
  rw [List.append_nil] at hvalue
  have hskip : Cursor.skipBlanks ⟨0, c :: cs⟩ = ⟨0, c :: cs⟩ :=
    skipBlanks_append 0 (List.forall_mem_nil _) (startsPlain_cons hblank cs)
  rw [hchars] at hvalue ⊢
  rw [read, hskip, hvalue]
  · rfl
  · exact fun _ heq => hmark (List.cons.inj heq).1

end Documents

end Continuity.Json
