import Continuity.Text.Utf8

/-! # Characters read back from their bytes

The bytes of a character are well formed, whatever follows them, and stand for that character.
-/

namespace Continuity.Text

theorem toNat_byte {n : Nat} (h : n < 256) : (UInt8.ofNat n).toNat = n := UInt8.toNat_ofNat_of_lt h

/-- The kind of a leading byte by its number. -/
theorem leadShape?_ofNat {lead : Nat} (h : lead < 256) :
    leadShape? (UInt8.ofNat lead) =
      if 0xC2 ≤ lead ∧ lead ≤ 0xDF then some (1, 0x80, 0xBF)
      else if lead = 0xE0 then some (2, 0xA0, 0xBF)
      else if lead = 0xED then some (2, 0x80, 0x9F)
      else if 0xE1 ≤ lead ∧ lead ≤ 0xEF then some (2, 0x80, 0xBF)
      else if lead = 0xF0 then some (3, 0x90, 0xBF)
      else if 0xF1 ≤ lead ∧ lead ≤ 0xF3 then some (3, 0x80, 0xBF)
      else if lead = 0xF4 then some (3, 0x80, 0x8F)
      else none := by
  simp only [leadShape?, UInt8.le_iff_toNat_le, ← UInt8.toNat_inj, toNat_byte h]
  rfl

/-- A continuation byte within its bounds adds six bits. -/
theorem readTail_cons {low high : UInt8} {value read count n : Nat} {rest : List UInt8}
    (hlow : low.toNat ≤ 0x80 + n % 64) (hhigh : 0x80 + n % 64 ≤ high.toNat) :
    readTail low high value read (count + 1) (UInt8.ofNat (0x80 + n % 64) :: rest) =
      readTail 0x80 0xBF (value * 64 + n % 64) (read + 1) count rest := by
  have hbyte : (UInt8.ofNat (0x80 + n % 64)).toNat = 0x80 + n % 64 := toNat_byte (by omega)
  have hbounds : low ≤ UInt8.ofNat (0x80 + n % 64) ∧ UInt8.ofNat (0x80 + n % 64) ≤ high := by
    rw [UInt8.le_iff_toNat_le, UInt8.le_iff_toNat_le, hbyte]
    exact ⟨hlow, hhigh⟩
  rw [readTail, if_pos hbounds, hbyte, Nat.add_sub_cancel_left]

/-- All continuation bytes but the first have the same bounds, and are within them. -/
theorem readTail_cons_later (value read count n : Nat) (rest : List UInt8) :
    readTail 0x80 0xBF value read (count + 1) (UInt8.ofNat (0x80 + n % 64) :: rest) =
      readTail 0x80 0xBF (value * 64 + n % 64) (read + 1) count rest := by
  have hlow : (0x80 : UInt8).toNat = 0x80 := rfl
  have hhigh : (0xBF : UInt8).toNat = 0xBF := rfl
  exact readTail_cons (by omega) (by omega)

theorem decodeChar_of_leadShape {position lead count value : Nat} {low high : UInt8}
    {bytes : List UInt8} (hlead : 0x80 ≤ lead ∧ lead < 256)
    (hshape : leadShape? (UInt8.ofNat lead) = some (count, low, high))
    (htail : readTail low high (leadValue count (UInt8.ofNat lead)) 1 count bytes = .ok value) :
    decodeChar position (UInt8.ofNat lead) bytes = .ok (Char.ofNat value, count + 1) := by
  have hascii : ¬UInt8.ofNat lead < 0x80 := by
    have hbound : (0x80 : UInt8).toNat = 0x80 := rfl
    rw [UInt8.lt_iff_toNat_lt, toNat_byte hlead.2]
    omega
  rw [decodeChar, if_neg hascii, hshape]
  dsimp only
  rw [htail]

theorem leadValue_one (b : UInt8) : leadValue 1 b = b.toNat - 0xC0 := rfl

theorem leadValue_two (b : UInt8) : leadValue 2 b = b.toNat - 0xE0 := rfl

theorem leadValue_three (b : UInt8) : leadValue 3 b = b.toNat - 0xF0 := rfl

section Shapes

variable {n : Nat} (position : Nat) (rest : List UInt8)

theorem decodeChar_one (hn : n < 0x80) :
    decodeChar position (UInt8.ofNat n) rest = .ok (Char.ofNat n, 1) := by
  have hbyte : (UInt8.ofNat n).toNat = n := toNat_byte (by omega)
  have hascii : UInt8.ofNat n < 0x80 := by
    rw [UInt8.lt_iff_toNat_lt, hbyte]
    exact hn
  rw [decodeChar, if_pos hascii, hbyte]

theorem decodeChar_two (hn : 0x80 ≤ n ∧ n < 0x800) :
    decodeChar position (UInt8.ofNat (0xC0 + n / 64)) (UInt8.ofNat (0x80 + n % 64) :: rest) =
      .ok (Char.ofNat n, 2) := by
  have hlead : 0x80 ≤ 0xC0 + n / 64 ∧ 0xC0 + n / 64 < 256 := by omega
  have hshape : leadShape? (UInt8.ofNat (0xC0 + n / 64)) = some (1, 0x80, 0xBF) := by
    rw [leadShape?_ofNat hlead.2, if_pos (by omega)]
  refine decodeChar_of_leadShape hlead hshape ?_
  rw [readTail_cons_later, readTail, leadValue_one, toNat_byte hlead.2]
  refine congrArg Except.ok ?_
  omega

theorem decodeChar_three (hn : 0x800 ≤ n ∧ n < 0x10000) (hvalid : n < 0xD800 ∨ 0xDFFF < n) :
    decodeChar position (UInt8.ofNat (0xE0 + n / 4096))
        (UInt8.ofNat (0x80 + n / 64 % 64) :: UInt8.ofNat (0x80 + n % 64) :: rest) =
      .ok (Char.ofNat n, 3) := by
  have hlead : 0x80 ≤ 0xE0 + n / 4096 ∧ 0xE0 + n / 4096 < 256 := by omega
  -- The bounds are narrower where a shorter form would do, and around the surrogates.
  obtain ⟨low, high, hshape, hlow, hhigh⟩ : ∃ low high,
      leadShape? (UInt8.ofNat (0xE0 + n / 4096)) = some (2, low, high) ∧
        low.toNat ≤ 0x80 + n / 64 % 64 ∧ 0x80 + n / 64 % 64 ≤ high.toNat := by
    rw [leadShape?_ofNat hlead.2, if_neg (by omega)]
    split
    next => exact ⟨_, _, rfl, by simp; omega, by simp; omega⟩
    next =>
      split
      next => exact ⟨_, _, rfl, by simp, by simp; omega⟩
      next =>
        rw [if_pos (by omega)]
        exact ⟨_, _, rfl, by simp, by simp; omega⟩
  refine decodeChar_of_leadShape hlead hshape ?_
  rw [readTail_cons hlow hhigh, readTail_cons_later, readTail, leadValue_two, toNat_byte hlead.2]
  refine congrArg Except.ok ?_
  omega

theorem decodeChar_four (hn : 0x10000 ≤ n ∧ n < 0x110000) :
    decodeChar position (UInt8.ofNat (0xF0 + n / 262144))
        (UInt8.ofNat (0x80 + n / 4096 % 64) :: UInt8.ofNat (0x80 + n / 64 % 64) ::
          UInt8.ofNat (0x80 + n % 64) :: rest) =
      .ok (Char.ofNat n, 4) := by
  have hlead : 0x80 ≤ 0xF0 + n / 262144 ∧ 0xF0 + n / 262144 < 256 := by omega
  -- The bounds are narrower where a shorter form would do, and at the end of all characters.
  obtain ⟨low, high, hshape, hlow, hhigh⟩ : ∃ low high,
      leadShape? (UInt8.ofNat (0xF0 + n / 262144)) = some (3, low, high) ∧
        low.toNat ≤ 0x80 + n / 4096 % 64 ∧ 0x80 + n / 4096 % 64 ≤ high.toNat := by
    rw [leadShape?_ofNat hlead.2, if_neg (by omega), if_neg (by omega), if_neg (by omega),
      if_neg (by omega)]
    split
    next => exact ⟨_, _, rfl, by simp; omega, by simp; omega⟩
    next =>
      split
      next => exact ⟨_, _, rfl, by simp, by simp; omega⟩
      next =>
        rw [if_pos (by omega)]
        exact ⟨_, _, rfl, by simp, by simp; omega⟩
  refine decodeChar_of_leadShape hlead hshape ?_
  rw [readTail_cons hlow hhigh, readTail_cons_later, readTail_cons_later, readTail,
    leadValue_three, toNat_byte hlead.2]
  refine congrArg Except.ok ?_
  omega

end Shapes

/-- A character's bytes are read back, whatever follows them. -/
theorem decodeChar_encodeChar (position : Nat) (c : Char) (rest : List UInt8) :
    ∃ lead tail, encodeChar c = lead :: tail ∧
      decodeChar position lead (tail ++ rest) = .ok (c, tail.length + 1) := by
  have hvalid : c.toNat < 0xD800 ∨ 0xDFFF < c.toNat ∧ c.toNat < 0x110000 := c.valid
  have hself : Char.ofNat c.toNat = c := Char.ofNat_toNat c
  unfold encodeChar
  dsimp only
  split
  next hone => exact ⟨_, _, rfl, by rw [decodeChar_one _ _ hone, hself]; rfl⟩
  next hone =>
    split
    next htwo =>
      refine ⟨_, _, rfl, (decodeChar_two _ _ ?_).trans (by rw [hself]; rfl)⟩
      omega
    next htwo =>
      split
      next hthree =>
        refine ⟨_, _, rfl, (decodeChar_three _ _ ?_ ?_).trans (by rw [hself]; rfl)⟩
        · omega
        · omega
      next hthree =>
        refine ⟨_, _, rfl, (decodeChar_four _ _ ?_).trans (by rw [hself]; rfl)⟩
        omega

/-! ## Bytes that stand for characters -/

/-- A continuation byte that is read adds its six bits. -/
theorem exists_of_readTail {low high : UInt8} {value read count v : Nat} {bytes : List UInt8}
    (h : readTail low high value read (count + 1) bytes = .ok v) :
    ∃ b rest, bytes = b :: rest ∧ low.toNat ≤ b.toNat ∧ b.toNat ≤ high.toNat ∧
      readTail 0x80 0xBF (value * 64 + (b.toNat - 0x80)) (read + 1) count rest = .ok v := by
  cases bytes with
  | nil => cases h
  | cons b rest =>
      rw [readTail] at h
      split at h
      next hbounds =>
        rw [UInt8.le_iff_toNat_le, UInt8.le_iff_toNat_le] at hbounds
        exact ⟨b, rest, rfl, hbounds.1, hbounds.2, h⟩
      next => cases h

theorem exists_of_readTail_later {value read count v : Nat} {bytes : List UInt8}
    (h : readTail 0x80 0xBF value read (count + 1) bytes = .ok v) :
    ∃ b rest, bytes = b :: rest ∧ (0x80 ≤ b.toNat ∧ b.toNat ≤ 0xBF) ∧
      readTail 0x80 0xBF (value * 64 + (b.toNat - 0x80)) (read + 1) count rest = .ok v := by
  obtain ⟨b, rest, hbytes, hlow, hhigh, htail⟩ := exists_of_readTail h
  exact ⟨b, rest, hbytes, ⟨hlow, hhigh⟩, htail⟩

/-- The bytes of the character with a number. -/
theorem encodeChar_ofNat {n : Nat} (h : n.isValidChar) : encodeChar (Char.ofNat n) =
    if n < 0x80 then [UInt8.ofNat n]
    else if n < 0x800 then [UInt8.ofNat (0xC0 + n / 64), UInt8.ofNat (0x80 + n % 64)]
    else if n < 0x10000 then
      [UInt8.ofNat (0xE0 + n / 4096), UInt8.ofNat (0x80 + n / 64 % 64), UInt8.ofNat (0x80 + n % 64)]
    else
      [UInt8.ofNat (0xF0 + n / 262144), UInt8.ofNat (0x80 + n / 4096 % 64),
        UInt8.ofNat (0x80 + n / 64 % 64), UInt8.ofNat (0x80 + n % 64)] := by
  have hself : (Char.ofNat n).toNat = n := by
    rw [Char.ofNat, dif_pos h]
    rfl
  rw [encodeChar, hself]

theorem ofNat_eq_byte {n : Nat} {b : UInt8} (h : n = b.toNat) : UInt8.ofNat n = b := by
  rw [h, UInt8.ofNat_toNat]

/-- What a leading byte tells of the bytes after it. -/
theorem leadShape?_eq_some {b low high : UInt8} {count : Nat}
    (h : leadShape? b = some (count, low, high)) :
    0x80 ≤ low.toNat ∧ high.toNat ≤ 0xBF ∧
      (count = 1 ∧ 0xC2 ≤ b.toNat ∧ b.toNat ≤ 0xDF ∨
        count = 2 ∧ 0xE0 ≤ b.toNat ∧ b.toNat ≤ 0xEF ∧ (b.toNat = 0xE0 → 0xA0 ≤ low.toNat) ∧
          (b.toNat = 0xED → high.toNat ≤ 0x9F) ∨
        count = 3 ∧ 0xF0 ≤ b.toNat ∧ b.toNat ≤ 0xF4 ∧ (b.toNat = 0xF0 → 0x90 ≤ low.toNat) ∧
          (b.toNat = 0xF4 → high.toNat ≤ 0x8F)) := by
  have hb : b.toNat < 256 := b.toNat_lt
  rw [← UInt8.ofNat_toNat (x := b), leadShape?_ofNat hb] at h
  repeat' split at h
  all_goals cases h
  all_goals
    simp
    omega

section Bytes

variable {lead b b' b'' : UInt8}

theorem encodeChar_two (hlead : 0xC2 ≤ lead.toNat ∧ lead.toNat ≤ 0xDF)
    (hb : 0x80 ≤ b.toNat ∧ b.toNat ≤ 0xBF) :
    encodeChar (Char.ofNat ((lead.toNat - 0xC0) * 64 + (b.toNat - 0x80))) = [lead, b] := by
  rw [encodeChar_ofNat (.inl (by omega)), if_neg (by omega), if_pos (by omega),
    ofNat_eq_byte (b := lead) (by omega), ofNat_eq_byte (b := b) (by omega)]

/-- Neither a shorter form nor a surrogate is meant. -/
theorem encodeChar_three (hlead : 0xE0 ≤ lead.toNat ∧ lead.toNat ≤ 0xEF)
    (hlow : lead.toNat = 0xE0 → 0xA0 ≤ b.toNat) (hhigh : lead.toNat = 0xED → b.toNat ≤ 0x9F)
    (hb : 0x80 ≤ b.toNat ∧ b.toNat ≤ 0xBF) (hb' : 0x80 ≤ b'.toNat ∧ b'.toNat ≤ 0xBF) :
    encodeChar (Char.ofNat (((lead.toNat - 0xE0) * 64 + (b.toNat - 0x80)) * 64 +
      (b'.toNat - 0x80))) = [lead, b, b'] := by
  have hvalid : (((lead.toNat - 0xE0) * 64 + (b.toNat - 0x80)) * 64 +
      (b'.toNat - 0x80)).isValidChar := by
    unfold Nat.isValidChar
    omega
  rw [encodeChar_ofNat hvalid, if_neg (by omega), if_neg (by omega), if_pos (by omega),
    ofNat_eq_byte (b := lead) (by omega), ofNat_eq_byte (b := b) (by omega),
    ofNat_eq_byte (b := b') (by omega)]

/-- Neither a shorter form nor a number past all characters is meant. -/
theorem encodeChar_four (hlead : 0xF0 ≤ lead.toNat ∧ lead.toNat ≤ 0xF4)
    (hlow : lead.toNat = 0xF0 → 0x90 ≤ b.toNat) (hhigh : lead.toNat = 0xF4 → b.toNat ≤ 0x8F)
    (hb : 0x80 ≤ b.toNat ∧ b.toNat ≤ 0xBF) (hb' : 0x80 ≤ b'.toNat ∧ b'.toNat ≤ 0xBF)
    (hb'' : 0x80 ≤ b''.toNat ∧ b''.toNat ≤ 0xBF) :
    encodeChar (Char.ofNat ((((lead.toNat - 0xF0) * 64 + (b.toNat - 0x80)) * 64 +
      (b'.toNat - 0x80)) * 64 + (b''.toNat - 0x80))) = [lead, b, b', b''] := by
  have hvalid : ((((lead.toNat - 0xF0) * 64 + (b.toNat - 0x80)) * 64 +
      (b'.toNat - 0x80)) * 64 + (b''.toNat - 0x80)).isValidChar := by
    unfold Nat.isValidChar
    omega
  rw [encodeChar_ofNat hvalid, if_neg (by omega), if_neg (by omega), if_neg (by omega),
    ofNat_eq_byte (b := lead) (by omega), ofNat_eq_byte (b := b) (by omega),
    ofNat_eq_byte (b := b') (by omega), ofNat_eq_byte (b := b'') (by omega)]

end Bytes

/-- A character that is read takes the bytes that stand for it. -/
theorem exists_of_decodeChar {position size : Nat} {lead : UInt8} {bytes : List UInt8} {c : Char}
    (h : decodeChar position lead bytes = .ok (c, size)) :
    ∃ tail rest, bytes = tail ++ rest ∧ encodeChar c = lead :: tail ∧ size = tail.length + 1 := by
  rw [decodeChar] at h
  split at h
  next hascii =>
    cases h
    have hlead : lead.toNat < 0x80 := UInt8.lt_iff_toNat_lt.1 hascii
    refine ⟨[], bytes, rfl, ?_, rfl⟩
    rw [encodeChar_ofNat (.inl (by omega)), if_pos hlead, UInt8.ofNat_toNat]
  next =>
    split at h
    next => cases h
    next count low high hshape =>
      obtain ⟨hlow, hhigh, hcount⟩ := leadShape?_eq_some hshape
      split at h
      next value htail =>
        cases h
        -- All bytes but the leading one are read one after another.
        rcases hcount with ⟨rfl, hlead⟩ | ⟨rfl, hlead⟩ | ⟨rfl, hlead⟩
        · obtain ⟨b, rest, rfl, hb, hb', htail⟩ := exists_of_readTail htail
          rw [readTail, Except.ok.injEq] at htail
          refine ⟨[b], rest, rfl, htail ▸ encodeChar_two hlead ?_, rfl⟩
          omega
        · obtain ⟨b, _, rfl, hfirst, hfirst', htail⟩ := exists_of_readTail htail
          obtain ⟨b', rest, rfl, hb', htail⟩ := exists_of_readTail_later htail
          rw [readTail, Except.ok.injEq] at htail
          refine ⟨[b, b'], rest, rfl, htail ▸ encodeChar_three ?_ ?_ ?_ ?_ hb', rfl⟩
          all_goals omega
        · obtain ⟨b, _, rfl, hfirst, hfirst', htail⟩ := exists_of_readTail htail
          obtain ⟨b', _, rfl, hb', htail⟩ := exists_of_readTail_later htail
          obtain ⟨b'', rest, rfl, hb'', htail⟩ := exists_of_readTail_later htail
          rw [readTail, Except.ok.injEq] at htail
          refine ⟨[b, b', b''], rest, rfl, htail ▸ encodeChar_four ?_ ?_ ?_ ?_ hb' hb'', rfl⟩
          all_goals omega
      next => cases h

/-! ## Where bytes stop being text -/

variable {bytes rest : List UInt8} {cs : List Char} {position n : Nat} {e : Utf8Error}

theorem position_of_decodeChar {lead : UInt8} (h : decodeChar position lead bytes = .error e) :
    e.position = position := by
  rw [decodeChar] at h
  split at h
  next => cases h
  next =>
    split at h
    next => cases h; rfl
    next =>
      split at h
      next => cases h
      next => cases h; rfl

theorem decodeFrom_skip {skip : Nat} (h : skip ≤ bytes.length) :
    decodeFrom position skip bytes = decodeFrom (position + skip) 0 (bytes.drop skip) := by
  induction bytes generalizing position skip with
  | nil => rw [Nat.le_zero.1 h]; rfl
  | cons b bytes ih =>
      cases skip with
      | zero => rfl
      | succ skip =>
          rw [decodeFrom, ih (Nat.le_of_succ_le_succ h), List.drop_succ_cons, Nat.add_assoc,
            Nat.add_comm 1]

/-- A character's bytes are passed, and the reading goes on behind them. -/
theorem decodeFrom_encodeChar (position : Nat) (c : Char) (rest : List UInt8) :
    decodeFrom position 0 (encodeChar c ++ rest) =
      (decodeFrom (position + (encodeChar c).length) 0 rest).map (c :: ·) := by
  obtain ⟨lead, tail, hbytes, hread⟩ := decodeChar_encodeChar position c rest
  rw [hbytes, List.cons_append, decodeFrom, hread]
  dsimp only
  rw [Nat.add_sub_cancel, decodeFrom_skip (by simp), List.drop_left, List.length_cons,
    Nat.add_assoc, Nat.add_comm 1]

theorem decodeFrom_encodeUtf8 (position : Nat) (cs : List Char) (rest : List UInt8) :
    decodeFrom position 0 (encodeUtf8 cs ++ rest) =
      (decodeFrom (position + (encodeUtf8 cs).length) 0 rest).map (cs ++ ·) := by
  induction cs generalizing position with
  | nil => cases h : decodeFrom position 0 rest <;> simp [encodeUtf8, h, Except.map]
  | cons c cs ih =>
      have hbytes : encodeUtf8 (c :: cs) = encodeChar c ++ encodeUtf8 cs := List.flatMap_cons
      rw [hbytes, List.append_assoc, decodeFrom_encodeChar, ih, List.length_append, Nat.add_assoc]
      cases decodeFrom (position + ((encodeChar c).length + (encodeUtf8 cs).length)) 0 rest <;> rfl

/-- Bytes are those of a text, which is read, or they begin with those of a text behind which no
character can be read. -/
theorem decodeFrom_cases (position : Nat) (bytes : List UInt8) :
    (∃ cs, bytes = encodeUtf8 cs ∧ decodeFrom position 0 bytes = .ok cs) ∨
      ∃ cs rest e, bytes = encodeUtf8 cs ++ rest ∧ rest ≠ [] ∧
        e.position = position + (encodeUtf8 cs).length ∧
        decodeFrom position 0 bytes = .error e := by
  cases bytes with
  | nil => exact .inl ⟨[], rfl, rfl⟩
  | cons lead tail =>
      cases hread : decodeChar position lead tail with
      | error e =>
          refine .inr ⟨[], _, e, rfl, List.cons_ne_nil _ _, position_of_decodeChar hread, ?_⟩
          rw [decodeFrom, hread]
      | ok read =>
          obtain ⟨c, size⟩ := read
          obtain ⟨tail, rest, rfl, hbytes, -⟩ := exists_of_decodeChar hread
          have hall : lead :: (tail ++ rest) = encodeChar c ++ rest := by
            rw [hbytes, List.cons_append]
          have hcons : ∀ cs, encodeUtf8 (c :: cs) = encodeChar c ++ encodeUtf8 cs :=
            fun _ => List.flatMap_cons
          rw [hall, decodeFrom_encodeChar]
          rcases decodeFrom_cases (position + (encodeChar c).length) rest with
            ⟨cs, rfl, hcs⟩ | ⟨cs, rest, e, rfl, hne, hposition, he⟩
          · exact .inl ⟨c :: cs, (hcons cs).symm, by rw [hcs]; rfl⟩
          · refine .inr ⟨c :: cs, rest, e, ?_, hne, ?_, by rw [he]; rfl⟩
            · rw [hcons, List.append_assoc]
            · rw [hposition, hcons, List.length_append, Nat.add_assoc]
termination_by bytes.length

/-- Just the bytes of texts are read, and they are read back. -/
theorem decodeUtf8_eq_ok_iff : decodeUtf8 bytes = .ok cs ↔ bytes = encodeUtf8 cs := by
  constructor
  · intro h
    rcases decodeFrom_cases 0 bytes with ⟨cs', hbytes, hcs⟩ | ⟨_, _, e, _, _, _, he⟩
    · obtain rfl : cs = cs' := Except.ok.inj (h.symm.trans hcs)
      exact hbytes
    · exact absurd (h.symm.trans he) (by simp)
  · rintro rfl
    have hread := decodeFrom_encodeUtf8 0 cs []
    rw [List.append_nil] at hread
    rw [decodeUtf8, hread]
    exact congrArg Except.ok (List.append_nil cs)

/-- The longest front of bytes that is a text, but not all of them. -/
structure LongestText (bytes : List UInt8) (n : Nat) (cs : List Char) : Prop where
  lt_length : n < bytes.length
  front : bytes.take n = encodeUtf8 cs
  le_of_text : ∀ m cs', bytes.take m = encodeUtf8 cs' → m ≤ n

/-- What cannot be read is told with the place at which it begins. -/
theorem exists_longestText (h : ∀ cs, bytes ≠ encodeUtf8 cs) :
    ∃ e cs, decodeUtf8 bytes = .error e ∧ LongestText bytes e.position cs := by
  rcases decodeFrom_cases 0 bytes with ⟨cs, hbytes, _⟩ | ⟨cs, rest, e, rfl, hne, hposition, he⟩
  · exact absurd hbytes (h cs)
  rw [Nat.zero_add] at hposition
  refine ⟨e, cs, he, ?_, ?_, fun m cs' htext => ?_⟩
  · rw [hposition, List.length_append]
    exact Nat.lt_add_of_pos_right (List.length_pos_iff.2 hne)
  · rw [hposition, List.take_left]
  · -- The reading passes whatever is text, so it does not stop before the end of that.
    have hm : m ≤ (encodeUtf8 cs ++ rest).length := by
      refine Nat.le_of_not_lt fun hlt => h cs' ?_
      rw [← htext, List.take_of_length_le (Nat.le_of_lt hlt)]
    have hlength : (encodeUtf8 cs').length = m := by
      rw [← htext, List.length_take_of_le hm]
    rw [← List.take_append_drop m (encodeUtf8 cs ++ rest), htext, decodeFrom_encodeUtf8] at he
    rcases decodeFrom_cases (0 + (encodeUtf8 cs').length) ((encodeUtf8 cs ++ rest).drop m) with
      ⟨_, _, hok⟩ | ⟨_, _, e', _, _, hposition', he'⟩
    · rw [hok] at he
      cases he
    · rw [he'] at he
      cases he
      omega

/-! ## Line ends -/

/-- The number of carriage returns that no line feed follows. -/
def loneReturns : List Char → Nat
  | [] => 0
  | c :: rest => (if c = '\r' ∧ rest.head? ≠ some '\n' then 1 else 0) + loneReturns rest

/-- A line feed is a byte of no other character. -/
theorem newline_not_mem_encodeChar {c : Char} (h : c ≠ '\n') : 0x0A ∉ encodeChar c := by
  have hcode : c.toNat ≠ 0x0A := fun heq => h (Char.toNat_inj.1 heq)
  have hbyte : ∀ n < 256, n ≠ 0x0A → (0x0A : UInt8) ≠ UInt8.ofNat n := by
    intro n hn hne heq
    have hnat := congrArg UInt8.toNat heq
    rw [toNat_byte hn] at hnat
    exact hne hnat.symm
  have hbound : c.toNat < 0x110000 := by
    have hvalid := c.valid
    unfold UInt32.isValidChar Nat.isValidChar at hvalid
    unfold Char.toNat
    omega
  unfold encodeChar
  dsimp only
  repeat' split
  all_goals
    simp only [List.mem_cons, List.not_mem_nil, or_false, not_or]
    repeat' apply And.intro
    all_goals exact hbyte _ (by omega) (by omega)

theorem count_encodeUtf8 (cs : List Char) : (encodeUtf8 cs).count 0x0A = cs.count '\n' := by
  induction cs with
  | nil => rfl
  | cons c cs ih =>
      rw [encodeUtf8, List.flatMap_cons, List.count_append, List.count_cons, Nat.add_comm]
      by_cases hc : c = '\n'
      · subst hc
        exact congrArg (· + 1) ih
      · rw [List.count_eq_zero_of_not_mem (newline_not_mem_encodeChar hc),
          if_neg (by simpa using hc)]
        exact ih

/-- Unifying line ends makes line feeds of the carriage returns that have none. -/
theorem count_unifyNewlines (cs : List Char) :
    (unifyNewlines cs).count '\n' = cs.count '\n' + loneReturns cs := by
  fun_induction unifyNewlines cs with
  | case1 => rfl
  | case2 rest ih =>
      have hpair : loneReturns ('\r' :: '\n' :: rest) = loneReturns rest := by simp [loneReturns]
      have hcount : ('\r' :: '\n' :: rest).count '\n' = rest.count '\n' + 1 := by simp
      rw [List.count_cons_self, ih, hpair, hcount, Nat.add_right_comm]
  | case3 c rest hpair ih =>
      have hlone : c = '\r' → rest.head? ≠ some '\n' := by
        intro hreturn hhead
        obtain ⟨rest', rfl⟩ := List.head?_eq_some_iff.1 hhead
        exact hpair rest' hreturn rfl
      have hone : loneReturns (c :: rest) = (if c = '\r' then 1 else 0) + loneReturns rest := by
        simp only [loneReturns, and_iff_left_of_imp hlone]
      rw [List.count_cons, List.count_cons, ih, hone]
      by_cases hreturn : c = '\r'
      · subst hreturn
        exact (Nat.add_assoc _ _ _).trans (congrArg _ (Nat.add_comm _ _))
      · rw [beq_eq_false_iff_ne.2 hreturn, if_neg Bool.false_ne_true, if_neg hreturn, Nat.zero_add,
          Nat.add_right_comm]

end Continuity.Text
