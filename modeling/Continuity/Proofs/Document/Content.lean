import Continuity.Document.Reader
import Continuity.Proofs.Text.Position
import Continuity.Proofs.Text.Utf8

/-! # The content of documents

Front matter is blanked out before the rest is read as Markdown. That keeps all lines where they
are, so that places in the tree are places in the file.

Bytes that are no text are reported on a line. It is the line on which what can be read ends, but
for the carriage returns without a line feed: they end lines of a text, and are not counted here.
-/

namespace Continuity.Document

/-- Line feeds are not blanked out. -/
theorem index_blankUpTo (offset : Nat) (content : List Char) :
    Text.LineIndex.ofText (blankUpTo offset content) = .ofText content := by
  have hblank : ((· == '\n') ∘ fun c => if c == '\n' then c else ' ') = (· == '\n') := by
    funext c
    rw [Function.comp_apply]
    split
    · rfl
    next h => exact (Bool.eq_false_iff.2 h).symm
  apply Text.LineIndex.ofText_congr
  rw [blankUpTo, List.map_append, List.map_map, hblank, ← List.map_append, List.take_append_drop]

/-- What stands behind the part that is blanked out stays as it is. -/
theorem drop_blankUpTo {start offset : Nat} (h : start ≤ offset) (content : List Char) :
    (blankUpTo start content).drop offset = content.drop offset := by
  have hfront :
      ((content.take start).map fun c => if c == '\n' then c else ' ').length ≤ offset := by
    rw [List.length_map, List.length_take]
    omega
  rw [blankUpTo, List.drop_append, List.drop_eq_nil_of_le hfront, List.nil_append, List.drop_drop,
    List.length_map, List.length_take]
  rcases Nat.le_total start content.length with hstart | hstart
  · rw [Nat.min_eq_left hstart, Nat.add_sub_cancel' h]
  · rw [List.drop_eq_nil_of_le (by omega), List.drop_eq_nil_of_le (by omega)]

/-- A document holds its content, and the tree that was read from it. -/
theorem content_of_ofContent {session : Yaml.Session} {path : Path} {name : String}
    {content : List Char} {d : Document} (h : (ofContent session path name content).1 = .ok d) :
    d.content = content ∧ d.index = .ofText content ∧
      d.root = Markdown.parseWith (blankUpTo (splitFrontMatter content).2 content)
        (.ofText content) := by
  unfold ofContent at h
  generalize splitFrontMatter content = split at h ⊢
  rcases split with ⟨_ | raw, start⟩
  · cases h
    exact ⟨rfl, rfl, rfl⟩
  · dsimp only at h
    cases hmatter : (readFrontMatter session name raw).1 with
    | error fault =>
        rw [hmatter] at h
        cases h
    | ok matter =>
        rw [hmatter] at h
        cases h
        exact ⟨rfl, rfl, rfl⟩

/-- A document without front matter can always be read. -/
theorem exists_ofContent (session : Yaml.Session) (path : Path) (name : String)
    (content : List Char) (h : (splitFrontMatter content).1 = none) :
    ∃ d, (ofContent session path name content).1 = .ok d := by
  unfold ofContent
  generalize splitFrontMatter content = split at h
  obtain ⟨raw, start⟩ := split
  cases h
  exact ⟨_, rfl⟩

/-! ## Bytes that are no text -/

theorem withoutOrderMark_cases (cs : List Char) :
    withoutOrderMark cs = cs ∨ cs = '\uFEFF' :: withoutOrderMark cs := by
  unfold withoutOrderMark
  split
  · exact .inr rfl
  · exact .inl rfl

/-- The line on which a text ends, once its line ends are unified. -/
theorem locate_end (cs : List Char) :
    ((Text.LineIndex.ofText (Text.unifyNewlines (withoutOrderMark cs))).locate
      (Text.unifyNewlines (withoutOrderMark cs)).length).1 =
        cs.count '\n' + Text.loneReturns cs + 1 := by
  rw [Text.LineIndex.locate_ofText (Nat.le_refl _), List.take_length, Text.count_unifyNewlines]
  rcases withoutOrderMark_cases cs with h | h
  · rw [h]
  · conv_rhs => rw [h]
    simp [Text.loneReturns]

/-- Bytes that are no text are refused where the longest text that they begin with ends. The line
that is told falls short of the line on which that text ends by the carriage returns without a line
feed, so it is that line if and only if there are none. -/
theorem decode_refused_line (bytes : List UInt8) (h : ∀ cs, bytes ≠ Text.encodeUtf8 cs) :
    ∃ offset line cs text, decode bytes = .error (.encoding offset line) ∧
      Text.LongestText bytes offset cs ∧ decode (bytes.take offset) = .ok text ∧
      line + Text.loneReturns cs = ((Text.LineIndex.ofText text).locate text.length).1 ∧
      (line = ((Text.LineIndex.ofText text).locate text.length).1 ↔ Text.loneReturns cs = 0) := by
  obtain ⟨e, cs, hdecode, hlongest⟩ := Text.exists_longestText h
  have hrefused : decode bytes =
      .error (.encoding e.position ((bytes.take e.position).count 0x0A + 1)) := by
    rw [decode, hdecode]
  have hread : decode (bytes.take e.position) =
      .ok (Text.unifyNewlines (withoutOrderMark cs)) := by
    rw [decode, hlongest.front, Text.decodeUtf8_eq_ok_iff.2 rfl]
  have hline : (bytes.take e.position).count 0x0A = cs.count '\n' := by
    rw [hlongest.front, Text.count_encodeUtf8]
  have hend := locate_end cs
  refine ⟨e.position, _, cs, _, hrefused, hlongest, hread, ?_, ?_⟩ <;> omega

/-- Line feeds are counted, whether or not they follow a carriage return. -/
theorem counted_line_ends :
    decode [0x61, 0x0A, 0xC3, 0xA9, 0x0D, 0x0A, 0x62, 0xFF] = .error (.encoding 7 3) ∧
      ∃ text, decode [0x61, 0x0A, 0xC3, 0xA9, 0x0D, 0x0A, 0x62] = .ok text ∧
        ((Text.LineIndex.ofText text).locate text.length).1 = 3 := by
  have hrefused : decode [0x61, 0x0A, 0xC3, 0xA9, 0x0D, 0x0A, 0x62, 0xFF] =
      .error (.encoding 7 3) := by decide
  have hfront : Text.decodeUtf8 [0x61, 0x0A, 0xC3, 0xA9, 0x0D, 0x0A, 0x62] =
      .ok ['a', '\n', 'é', '\r', '\n', 'b'] := by decide
  have hnoText : ∀ cs, [0x61, 0x0A, 0xC3, 0xA9, 0x0D, 0x0A, 0x62, 0xFF] ≠ Text.encodeUtf8 cs := by
    intro cs heq
    rw [decode, Text.decodeUtf8_eq_ok_iff.2 heq] at hrefused
    cases hrefused
  obtain ⟨offset, line, cs, text, herror, hlongest, htext, -, hline⟩ :=
    decode_refused_line _ hnoText
  cases hrefused.symm.trans herror
  have hcs := Text.decodeUtf8_eq_ok_iff.2 hlongest.front
  cases hfront.symm.trans hcs
  exact ⟨hrefused, text, htext, (hline.2 (by decide)).symm⟩

/-- The carriage return ends a line of what can be read, but the line that is told is the first. -/
theorem lone_return_uncounted :
    decode [0x61, 0x0D, 0x62, 0xFF] = .error (.encoding 3 1) ∧
      decode [0x61, 0x0D, 0x62] = .ok ['a', '\n', 'b'] ∧
      ((Text.LineIndex.ofText ['a', '\n', 'b']).locate 3).1 = 2 := by
  decide

end Continuity.Document
