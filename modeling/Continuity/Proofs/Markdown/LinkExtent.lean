import Continuity.Proofs.Markdown.LinkParts
import Continuity.Proofs.Markdown.OneLine
import Continuity.Proofs.Markdown.TextRuns

/-! # The extent of a link

A link of one line, with a title, is found where it is written, and its end is sought by counting
parentheses. Those of the title are counted too. So the link ends where its source text ends if and
only if the parentheses of the title are balanced.
-/

namespace Continuity.Markdown

open Text (LineIndex isLetter)
open Web (Url)

variable {src : Array Char} {pos stop fuel : Nat} {c : Char} {cs rest : List Char}

/-! ## Lines with a link -/

/-- A letter, a space or a parenthesis. -/
def isProseOrParenthesis (c : Char) : Bool := isProse c || c == '(' || c == ')'

/-- A line of letters and spaces with one link, whose title may hold parentheses. -/
structure LinkLine where
  before : List Char
  label : List Char
  destination : List Char
  title : List Char
  after : List Char
  before_head : before.head?.any isLetter = true
  before_prose : before.all isProse = true
  label_head : label.head?.any isLetter = true
  label_last : label.getLast?.any isLetter = true
  label_prose : label.all isProse = true
  destination_ne_nil : destination ≠ []
  destination_letters : destination.all isLetter = true
  title_ne_nil : title ≠ []
  title_plain : title.all isProseOrParenthesis = true
  after_last : after.getLast?.any isLetter = true
  after_prose : after.all isProse = true

namespace LinkLine

/-- Destination and title of the link, in their parentheses. -/
def target (l : LinkLine) : List Char :=
  '(' :: (l.destination ++ ' ' :: '"' :: (l.title ++ ['"', ')']))

/-- The source text of the link. -/
def link (l : LinkLine) : List Char := '[' :: (l.label ++ ']' :: l.target)

/-- The whole line. -/
def text (l : LinkLine) : List Char := l.before ++ (l.link ++ l.after)

variable (l : LinkLine)

theorem length_target : l.target.length = l.destination.length + l.title.length + 5 := by
  simp [target]
  omega

theorem length_link : l.link.length = l.label.length + l.target.length + 2 := by
  simp [link]
  omega

theorem before_ne_nil : l.before ≠ [] := fun h => by simpa [h] using l.before_head

theorem label_ne_nil : l.label ≠ [] := fun h => by simpa [h] using l.label_head

theorem after_ne_nil : l.after ≠ [] := fun h => by simpa [h] using l.after_last

theorem title_quiet : ∀ c ∈ l.title, c ≠ '"' ∧ c ≠ '\\' ∧ c ≠ '&' := by
  intro c hc
  have hplain := List.all_eq_true.1 l.title_plain c hc
  refine ⟨?_, ?_, ?_⟩ <;>
  · rintro rfl
    exact absurd hplain (by decide)

open InlineReader

theorem not_mem_of_all {cs : List Char} (h : cs.all isProse = true) {c : Char}
    (hc : isProse c = false) : c ∉ cs := by
  intro hmem
  rw [List.all_eq_true.1 h c hmem] at hc
  cases hc

theorem quiet_of_all {cs : List Char} (h : cs.all isProse = true) :
    ∀ c ∈ cs, isTerminator c = false := fun c hc =>
  isTerminator_of_isProse (List.all_eq_true.1 h c hc)

variable (definitions : Definitions) (budget : Nat) {memo : Memo}

/-- The link is read as it is written. -/
theorem link?_eq (h : Stands src pos (l.link ++ rest)) (hstop : pos + l.link.length ≤ stop)
    (hmemo : memo.passed? (pos + 1) = none) :
    ∃ memo', link? src definitions stop (pass src definitions stop (budget + 1)) memo pos =
      (memo', some ⟨pos + 1, pos + 1 + l.label.length, Url.normalize l.destination, l.title,
        pos + l.link.length⟩) := by
  have hlength := l.length_target
  rw [l.length_link] at hstop ⊢
  simp only [link, target, List.cons_append, List.append_assoc, List.nil_append] at h
  obtain ⟨memo', hlabel⟩ : ∃ memo',
      label? src stop (pass src definitions stop (budget + 1)) true memo pos =
        (memo', some (pos + 1 + l.label.length)) :=
    label?_plain h l.label_ne_nil (quiet_of_all l.label_prose) (by omega) hmemo
  have hopen : src[pos + 1 + l.label.length + 1]? = some '(' := h.succ.add.succ.head?_eq
  have hinside := h.succ.add.succ.succ
  have htarget : target? src stop (pos + 1 + l.label.length + 2) = some
      ⟨Url.normalize l.destination, l.title, pos + l.label.length + l.target.length + 1⟩ := by
    rw [target?_titled l.destination_ne_nil (List.all_eq_true.1 l.destination_letters)
      l.title_quiet hinside (by omega), hlength]
    congr 2
    omega
  have hclose : src[pos + l.label.length + l.target.length + 1]? = some ')' :=
    (hinside.add.succ.succ.add.succ.of_eq (by omega)).head?_eq
  refine ⟨memo', ?_⟩
  rw [link?, hlabel]
  dsimp only
  rw [hopen, if_pos (by simp; omega), htarget]
  dsimp only
  rw [hclose, if_pos (by simp; omega)]
  congr 3
  omega

theorem stands_label (h : Stands src pos (l.link ++ rest)) :
    Stands src (pos + 1) (l.label ++ ']' :: (l.target ++ rest)) := by
  rw [link, List.cons_append, List.append_assoc] at h
  exact h.succ

theorem readFrom_link (h : Stands src pos (l.link ++ rest)) (hstop : pos + l.link.length ≤ stop)
    (hfuel : 0 < fuel) (hmemo : memo.passed? (pos + 1) = none) (d : Draft) :
    ∃ memo', readFrom src definitions stop (budget + 2) (content src definitions (budget + 1)) fuel
        memo pos d =
      readFrom src definitions stop (budget + 2) (content src definitions (budget + 1)) (fuel - 1)
        memo' (pos + l.link.length)
        (d.add (.link false (Url.normalize l.destination) l.title [.text l.label])) := by
  obtain ⟨fuel, rfl⟩ := Nat.exists_eq_add_one.2 hfuel
  obtain ⟨memo', hlink⟩ := l.link?_eq definitions (budget + 1) h hstop hmemo
  have hlength := l.length_link
  have hopen : src[pos]? = some '[' := h.head?_eq
  have hlabel : content src definitions (budget + 1) memo' (pos + 1) (pos + 1 + l.label.length) =
      (memo', [.text l.label]) :=
    content_plain (l.stands_label h) l.label_ne_nil (quiet_of_all l.label_prose)
      (by rintro _ ⟨⟩; decide)
  have hone : readOne src definitions stop (budget + 2) (content src definitions (budget + 1)) memo
      pos '[' d = (memo', d.add (.link false (Url.normalize l.destination) l.title
        [.text l.label]), pos + l.link.length) := by
    have hbracket : isTerminator '[' = true := by decide
    rw [readOne, hbracket, hlink]
    simp only [hlabel]
    rfl
  refine ⟨memo', ?_⟩
  rw [readFrom, if_neg (by omega), hopen]
  dsimp only
  rw [hone, Nat.add_sub_cancel]

/-- The content of the line: its link, and what stands before and after it. -/
theorem inlineParse_eq : Inline.parse [] l.text =
    [.text l.before, .link false (Url.normalize l.destination) l.title [.text l.label],
      .text l.after] := by
  have hbefore : Stands l.text.toArray 0 (l.before ++ (l.link ++ l.after)) := rfl
  have hlink := hbefore.add
  have hafter : Stands l.text.toArray (0 + l.before.length + l.link.length) (l.after ++ []) := by
    rw [List.append_nil]
    exact hlink.add
  have hsize : l.text.toArray.size = l.before.length + l.link.length + l.after.length := by
    simp [text, Nat.add_assoc]
  have hpos := List.length_pos_iff.2 l.before_ne_nil
  have hlast := List.length_pos_iff.2 l.after_ne_nil
  have hlength := l.length_link
  have hfuel : 0 < l.text.toArray.size - 0 - 1 := by omega
  have hstop : 0 + l.before.length + l.link.length ≤ l.text.toArray.size := by omega
  obtain ⟨memo, hread⟩ := l.readFrom_link [] 18 hlink hstop hfuel (passed?_ofText _ _)
    (({} : Draft).append l.before)
  -- Three steps are taken: to the link, over it, and to the end.
  rw [Inline.parse, maxNesting, content,
    readFrom_plain hbefore l.before_ne_nil (quiet_of_all l.before_prose) (by rintro _ ⟨⟩; decide)
      (by omega) (by omega),
    hread,
    readFrom_plain hafter l.after_ne_nil (quiet_of_all l.after_prose) (by rintro _ ⟨⟩) (by omega)
      (by omega),
    readFrom_end (by omega)]
  dsimp only
  rw [Draft.finish, Draft.add, flush_append l.before_ne_nil rfl, flush_append l.after_ne_nil rfl]
  rfl

end LinkLine

/-! ## Parentheses -/

/-- Parentheses are balanced: as many are closed as opened, and never more on the way. -/
def Balanced (cs : List Char) : Prop :=
  cs.count '(' = cs.count ')' ∧ ∀ front ∈ cs.inits, front.count ')' ≤ front.count '('

instance (cs : List Char) : Decidable (Balanced cs) := inferInstanceAs (Decidable (_ ∧ _))

/-- How many parentheses are open after a text, if it never closes more than are open. -/
def depthAfter? (depth : Nat) : List Char → Option Nat
  | [] => some depth
  | c :: rest =>
    if c = '(' then depthAfter? (depth + 1) rest
    else if c = ')' then if depth = 0 then none else depthAfter? (depth - 1) rest
    else depthAfter? depth rest

variable {depth last : Nat}

theorem forall_prefix_cons {α : Type} {P : List α → Prop} {a : α} {as : List α} (hnil : P []) :
    (∀ front, front <+: a :: as → P front) ↔ ∀ front, front <+: as → P (a :: front) := by
  simp only [List.prefix_cons_iff]
  constructor
  · exact fun h front hfront => h _ (.inr ⟨front, rfl, hfront⟩)
  · rintro h _ (rfl | ⟨front, rfl, hfront⟩)
    · exact hnil
    · exact h front hfront

/-- The depth is the difference of the counts, and no front of the text closes more than is open. -/
theorem depthAfter?_eq_some_iff : depthAfter? depth cs = some last ↔
    depth + cs.count '(' = last + cs.count ')' ∧
      ∀ front, front <+: cs → front.count ')' ≤ depth + front.count '(' := by
  induction cs generalizing depth with
  | nil => simp [depthAfter?]
  | cons c rest ih =>
      rw [forall_prefix_cons (by simp), depthAfter?]
      split
      next hopen =>
        subst hopen
        simp only [ih, List.count_cons_self, List.count_cons_of_ne (show '(' ≠ ')' by decide)]
        simp only [Nat.add_comm, Nat.add_left_comm]
      next hopen =>
        split
        next hclose =>
          subst hclose
          simp only [List.count_cons_self, List.count_cons_of_ne (show ')' ≠ '(' by decide)]
          split
          next hzero =>
            simp only [reduceCtorEq, false_iff, not_and, not_forall]
            intro _
            exact ⟨[], List.nil_prefix, by simp [hzero]⟩
          next hpos =>
            rw [ih]
            refine and_congr (by omega) (forall_congr' fun front => imp_congr_right fun _ => ?_)
            omega
        next hclose =>
          simp only [ih, List.count_cons_of_ne hopen, List.count_cons_of_ne hclose]

theorem balanced_iff : Balanced cs ↔ depthAfter? 0 cs = some 0 := by
  simp only [Balanced, depthAfter?_eq_some_iff, Nat.zero_add, List.mem_inits]

theorem depthAfter?_append (more : List Char) : depthAfter? depth (cs ++ more) =
    (depthAfter? depth cs).bind (depthAfter? · more) := by
  induction cs generalizing depth with
  | nil => rfl
  | cons c rest ih =>
      rw [List.cons_append, depthAfter?, depthAfter?, ih, ih, ih]
      split_ifs <;> rfl

theorem depthAfter?_plain (hopen : '(' ∉ cs) (hclose : ')' ∉ cs) :
    depthAfter? depth cs = some depth := by
  rw [depthAfter?_eq_some_iff, List.count_eq_zero.2 hopen, List.count_eq_zero.2 hclose]
  refine ⟨rfl, fun front hfront => ?_⟩
  rw [List.count_eq_zero.2 fun hmem => hclose (hfront.subset hmem)]
  exact Nat.zero_le _

namespace Source

variable {s : Source}

/-- What one character does to the depth. -/
theorem parenthesesEnd?_cons (h : Stands s.src pos (c :: rest)) (hc : c ≠ '\\')
    (hstop : pos < stop) :
    s.parenthesesEnd? stop (fuel + 1) (depth + 1) pos =
      if c = '(' then s.parenthesesEnd? stop fuel (depth + 2) (pos + 1)
      else if c = ')' then
        if depth = 0 then some (pos + 1) else s.parenthesesEnd? stop fuel depth (pos + 1)
      else s.parenthesesEnd? stop fuel (depth + 1) (pos + 1) := by
  rw [parenthesesEnd?, if_neg (Nat.not_le_of_lt hstop), h.head?_eq, List.head?_cons]
  split
  next heq => exact absurd (Option.some.inj heq) hc
  next heq => rw [if_pos (Option.some.inj heq)]
  next heq =>
    obtain rfl := Option.some.inj heq
    simp
  next _ hopen hclose =>
    rw [if_neg fun heq => hopen (congrArg some heq), if_neg fun heq => hclose (congrArg some heq)]

/-- A text that leaves the parenthesis open is passed. -/
theorem parenthesesEnd?_open (h : Stands s.src pos (cs ++ rest)) (hplain : '\\' ∉ cs)
    (hstop : pos + cs.length ≤ stop) (hdepth : depthAfter? depth cs = some last) :
    s.parenthesesEnd? stop (cs.length + fuel) (depth + 1) pos =
      s.parenthesesEnd? stop fuel (last + 1) (pos + cs.length) := by
  induction cs generalizing pos depth with
  | nil =>
      obtain rfl := Option.some.inj hdepth
      rw [List.length_nil, Nat.zero_add]
      rfl
  | cons c cs ih =>
      rw [List.mem_cons, not_or] at hplain
      rw [List.length_cons] at hstop ⊢
      have hrest := fun depth (hdepth : depthAfter? depth cs = some last) =>
        ih h.succ hplain.2 (by omega) hdepth
      have hlast : pos + (cs.length + 1) = pos + 1 + cs.length := by omega
      rw [Nat.add_right_comm, parenthesesEnd?_cons h (Ne.symm hplain.1) (by omega), hlast]
      rw [depthAfter?] at hdepth
      split_ifs at hdepth ⊢ with hopen hclose hzero
      · exact hrest _ hdepth
      · obtain ⟨depth, rfl⟩ := Nat.exists_eq_add_one_of_ne_zero hzero
        exact hrest _ hdepth
      · exact hrest _ hdepth

/-- A text that closes the parenthesis is not passed. -/
theorem parenthesesEnd?_closed (fuel : Nat) (h : Stands s.src pos (cs ++ rest)) (hplain : '\\' ∉ cs)
    (hstop : pos + cs.length ≤ stop) (hdepth : depthAfter? depth cs = none) :
    ∃ found ≤ pos + cs.length,
      s.parenthesesEnd? stop (cs.length + fuel) (depth + 1) pos = some found := by
  induction cs generalizing pos depth with
  | nil => cases hdepth
  | cons c cs ih =>
      rw [List.mem_cons, not_or] at hplain
      rw [List.length_cons] at hstop ⊢
      have hrest := fun depth (hdepth : depthAfter? depth cs = none) =>
        ih h.succ hplain.2 (by omega) hdepth
      have hlast : pos + (cs.length + 1) = pos + 1 + cs.length := by omega
      rw [Nat.add_right_comm, parenthesesEnd?_cons h (Ne.symm hplain.1) (by omega), hlast]
      rw [depthAfter?] at hdepth
      split_ifs at hdepth ⊢ with hopen hclose hzero
      · exact hrest _ hdepth
      · exact ⟨pos + 1, Nat.le_add_right _ _, rfl⟩
      · obtain ⟨depth, rfl⟩ := Nat.exists_eq_add_one_of_ne_zero hzero
        exact hrest _ hdepth
      · exact hrest _ hdepth

/-! ## Placement -/

/-- What stands where the cursor is, is found there. -/
theorem find?_of_stands {needle : List Char} (h : Stands s.src pos (needle ++ rest))
    (hne : needle ≠ []) (hstop : pos + needle.length ≤ stop) :
    s.find? needle pos stop = some pos := by
  have hat : s.hasAt needle pos = true := by
    have hreads : s.ReadsFrom s.src.toList 0 := fun _ _ => rfl
    rw [hreads.hasAt_iff (Nat.zero_le _), h]
    exact List.prefix_append _ _
  obtain ⟨fuel, hfuel⟩ := Nat.exists_eq_add_one.2
    (show 0 < stop + 1 - needle.length - pos by omega)
  rw [find?, if_neg (by simpa using hne), hfuel, seek?, if_pos hat]

theorem placeLeaf_of_stands {needle : List Char} (h : Stands s.src pos (needle ++ rest))
    (hne : needle ≠ []) (hstop : pos + needle.length ≤ stop) (kind : NodeKind)
    (value : Option String) : s.placeLeaf stop pos kind value needle =
      (.mk kind (some (s.index.span pos (pos + needle.length))) value none none none [],
        pos + needle.length) := by
  rw [placeLeaf, find?_of_stands h hne hstop]

end Source

namespace LinkLine

variable (l : LinkLine)

/-- What stands between the parentheses of the link. -/
def inner (l : LinkLine) : List Char := l.destination ++ ' ' :: '"' :: (l.title ++ ['"'])

theorem target_eq : l.target = '(' :: (l.inner ++ [')']) := by
  simp [target, inner]

theorem not_mem_destination {c : Char} (hc : isLetter c = false) : c ∉ l.destination := fun hmem =>
  Text.ne_of_isLetter (List.all_eq_true.1 l.destination_letters c hmem) hc rfl

/-- Of the characters in the parentheses only those of the title change the depth. -/
theorem depthAfter?_inner : depthAfter? 0 l.inner = depthAfter? 0 l.title := by
  have hdestination : depthAfter? 0 l.destination = some 0 :=
    depthAfter?_plain (l.not_mem_destination (by decide)) (l.not_mem_destination (by decide))
  have hmarks : depthAfter? 0 (' ' :: '"' :: l.title) = depthAfter? 0 l.title := rfl
  have hinner : l.inner = l.destination ++ ((' ' :: '"' :: l.title) ++ ['"']) := rfl
  rw [hinner, depthAfter?_append, hdestination, Option.bind_some, depthAfter?_append, hmarks]
  exact Option.bind_fun_some _

/-- No other characters than letters, spaces, brackets, parentheses and quotation marks occur. -/
theorem not_mem_text {c : Char} (hc : isProse c = false) (hmark : c ∉ ['[', ']', '(', ')', '"']) :
    c ∉ l.text := by
  have hspace : c ≠ ' ' := fun heq => by simp [heq, isProse] at hc
  have hletter : isLetter c = false := by
    rw [isProse, Bool.or_eq_false_iff] at hc
    exact hc.1
  have htitle : c ∉ l.title := by
    intro hmem
    have hplain := List.all_eq_true.1 l.title_plain c hmem
    simp_all [isProseOrParenthesis]
  simp only [List.mem_cons, List.not_mem_nil, or_false, not_or] at hmark
  simp [text, link, target, not_mem_of_all l.before_prose hc, not_mem_of_all l.label_prose hc,
    not_mem_of_all l.after_prose hc, l.not_mem_destination hletter, htitle, hmark, hspace]

/-- The line begins with a letter and ends with one, and has no line feeds. -/
theorem isProseLine : IsProseLine l.text := by
  refine ⟨?_, ?_, ?_, ?_, ?_⟩
  · obtain ⟨c, more, hbefore⟩ := List.exists_cons_of_ne_nil l.before_ne_nil
    have hhead := l.before_head
    rw [hbefore] at hhead
    exact ⟨c, more ++ (l.link ++ l.after), by rw [text, hbefore, List.cons_append], hhead⟩
  · have hlast := l.after_last
    cases hd : l.after.getLast? with
    | none => simp [hd] at hlast
    | some d =>
        rw [hd] at hlast
        have htext : l.text.getLast? = some d := by
          rw [text, ← List.append_assoc, List.getLast?_append, hd, Option.some_or]
        rintro c hc
        obtain rfl := Option.some.inj (htext.symm.trans hc)
        exact Text.isBlank_of_isLetter hlast
  · exact l.not_mem_text (by decide) (by decide)
  · exact l.not_mem_text (by decide) (by decide)
  · exact l.not_mem_text (by decide) (by decide)

/-- The end of the link, sought from the bracket that closes its label on: it is the end of the
link's source text if and only if the parentheses of the title are balanced, and never later. -/
theorem skipTail_spec {s : Source} (h : Stands s.src pos (']' :: (l.target ++ l.after)))
    (hstop : stop = pos + 1 + l.target.length + l.after.length) :
    s.skipTail stop pos ≤ pos + 1 + l.target.length ∧
      (s.skipTail stop pos = pos + 1 + l.target.length ↔ Balanced l.title) := by
  have hbracket : s.find? [']'] pos stop = some pos :=
    Source.find?_of_stands h (by simp) (by rw [List.length_singleton]; omega)
  have htarget := h.succ
  rw [l.target_eq, List.cons_append, List.append_assoc] at htarget
  have hopen : s.src[pos + 1]? = some '(' := htarget.head?_eq
  have hlength : l.target.length = l.inner.length + 2 := by simp [target_eq]
  have hfuel : stop - (pos + 1) = l.inner.length + (l.after.length + 1) + 1 := by omega
  have hstart : s.skipTail stop pos = (s.parenthesesEnd? stop
      (l.inner.length + (l.after.length + 1)) 1 (pos + 2)).getD (pos + 1) := by
    rw [Source.skipTail, hbracket]
    dsimp only
    rw [hopen]
    change (s.parenthesesEnd? stop (stop - (pos + 1)) 0 (pos + 1)).getD (pos + 1) = _
    rw [hfuel, Source.parenthesesEnd?, if_neg (by omega), hopen]
    rfl
  have hinside : Stands s.src (pos + 2) (l.inner ++ ')' :: l.after) := htarget.succ
  have hplain : '\\' ∉ l.inner := by
    have htitle : '\\' ∉ l.title := fun hmem => (l.title_quiet _ hmem).2.1 rfl
    have hdestination : '\\' ∉ l.destination := l.not_mem_destination (by decide)
    simp [inner, hdestination, htitle]
  rw [hstart, balanced_iff, hlength, ← l.depthAfter?_inner]
  cases hdepth : depthAfter? 0 l.inner with
  | none =>
      have hend : pos + 2 + l.inner.length ≤ stop := by omega
      obtain ⟨found, hle, hfound⟩ :=
        Source.parenthesesEnd?_closed (l.after.length + 1) hinside hplain hend hdepth
      rw [hfound, Option.getD_some]
      exact ⟨by omega, iff_of_false (by omega) (by rintro ⟨⟩)⟩
  | some depth =>
      rw [Source.parenthesesEnd?_open hinside hplain (by omega) hdepth,
        Source.parenthesesEnd?_cons hinside.add (by decide) (by omega), if_neg (by decide),
        if_pos rfl]
      split
      next hzero =>
        rw [Option.getD_some, hzero]
        exact ⟨by omega, iff_of_true (by omega) rfl⟩
      next hpos =>
        -- No parenthesis follows that could close the one that is open.
        have hafter : Stands s.src (pos + 2 + l.inner.length + 1) (l.after ++ []) := by
          rw [List.append_nil]
          exact hinside.add.succ
        obtain ⟨depth, rfl⟩ := Nat.exists_eq_add_one_of_ne_zero hpos
        have hnone : s.parenthesesEnd? stop l.after.length (depth + 1)
            (pos + 2 + l.inner.length + 1) = none := by
          rw [← Nat.add_zero l.after.length, Source.parenthesesEnd?_open hafter
            (not_mem_of_all l.after_prose (by decide)) (by omega)
            (depthAfter?_plain (not_mem_of_all l.after_prose (by decide))
              (not_mem_of_all l.after_prose (by decide)))]
          rfl
        rw [hnone, Option.getD_none, Option.some_inj]
        exact ⟨by omega, iff_of_false (by omega) (by omega)⟩

/-! ## The paragraph -/

/-- The line as a text to be searched. -/
def source (l : LinkLine) : Source := .ofText l.text (.ofText l.text)

/-- Where the cursor is after the link. -/
def linkEnd (l : LinkLine) : Nat :=
  l.source.skipTail l.text.length (l.before.length + 1 + l.label.length)

theorem length_text : l.text.length = l.before.length + l.link.length + l.after.length := by
  simp [text, Nat.add_assoc]

theorem stands_link : Stands l.source.src l.before.length (l.link ++ l.after) := by
  have hline : Stands l.source.src 0 (l.before ++ (l.link ++ l.after)) := rfl
  exact hline.add.of_eq (Nat.zero_add _)

theorem linkEnd_spec : l.linkEnd ≤ l.before.length + l.link.length ∧
    (l.linkEnd = l.before.length + l.link.length ↔ Balanced l.title) := by
  have hlength := l.length_link
  have htext := l.length_text
  have hend : l.before.length + l.link.length =
      l.before.length + 1 + l.label.length + 1 + l.target.length := by omega
  rw [hend]
  exact l.skipTail_spec (l.stands_label l.stands_link).add (by omega)

/-- The text before the link. -/
def frontNode (l : LinkLine) : Node :=
  .mk .text (some (l.source.index.span 0 l.before.length)) (some (String.ofList l.before)) none none
    none []

/-- The label of the link. -/
def labelNode (l : LinkLine) : Node :=
  .mk .text
    (some (l.source.index.span (l.before.length + 1) (l.before.length + 1 + l.label.length)))
    (some (String.ofList l.label)) none none none []

/-- The link. -/
def linkNode (l : LinkLine) : Node :=
  .mk .link (some (l.source.index.span l.before.length l.linkEnd)) none
    (some (String.ofList (Url.normalize l.destination))) (Source.titleOf l.title) none [l.labelNode]

/-- The text after the link. -/
def backNode (l : LinkLine) : Node :=
  (l.source.placeLeaf l.text.length l.linkEnd .text (some (String.ofList l.after)) l.after).1

theorem placeInlines_eq :
    (l.source.placeInlines l.text.length 0 (Inline.parse [] l.text)).1 =
      [l.frontNode, l.linkNode, l.backNode] := by
  have hlength := l.length_link
  have htext := l.length_text
  have hline : Stands l.source.src 0 (l.before ++ (l.link ++ l.after)) := rfl
  have hbracket : Stands l.source.src l.before.length
      (['['] ++ (l.label ++ ']' :: l.target ++ l.after)) := l.stands_link
  have hopen : l.source.find? ['['] l.before.length l.text.length = some l.before.length :=
    Source.find?_of_stands hbracket (by simp) (by rw [List.length_singleton]; omega)
  rw [l.inlineParse_eq]
  simp only [Source.placeInlines, Source.placeInline]
  rw [Source.placeLeaf_of_stands hline l.before_ne_nil (by omega), Nat.zero_add]
  simp only [Source.openAt, Bool.false_eq_true, if_false, hopen, List.length_singleton]
  rw [Source.placeLeaf_of_stands (l.stands_label l.stands_link) l.label_ne_nil (by omega)]
  rfl

/-- The line is one paragraph: a text, its only link, which begins where the line says, and the text
after it. -/
structure IsParagraph (l : LinkLine) (paragraph link back : Node) : Prop where
  alone : (parse l.text).children = [paragraph]
  kind : paragraph.kind = .paragraph
  children : ∃ front, paragraph.children = [front, link, back]
  onlyLink : paragraph.findAll .link = [link]
  linkStart : link.span.map (·.start.offset) = some l.before.length
  backKind : back.kind = .text
  backValue : back.value = some (String.ofList l.after)

/-- The link ends with its source text, and the text after it begins there. -/
def EndsWithSource (l : LinkLine) (link back : Node) : Prop :=
  link.span.map (·.stop.offset) = some (l.before.length + l.link.length) ∧
    back.span.map (·.start.offset) = some (l.before.length + l.link.length)

/-- An offset of the line is the offset of its place. -/
theorem offset_point {offset : Nat} (h : offset ≤ l.text.length) :
    (l.source.index.point offset).offset = offset :=
  LineIndex.clamp_of_le h

theorem exists_paragraph : ∃ paragraph, l.IsParagraph paragraph l.linkNode l.backNode := by
  have hlength := l.length_text
  have hnodes : ((Source.ofText l.text (.ofText l.text)).placeInlines l.text.length 0
      (Inline.parse [] l.text)).1 = [l.frontNode, l.linkNode, l.backNode] := l.placeInlines_eq
  have hparse := parse_line l.isProseLine
  rw [hnodes] at hparse
  refine ⟨.mk .paragraph (some (l.source.index.span 0 l.text.length)) none none none none
    [l.frontNode, l.linkNode, l.backNode], ?_, rfl, ⟨_, rfl⟩, ?_, ?_, rfl, rfl⟩
  · rw [hparse]
    rfl
  · rfl
  · exact congrArg some (l.offset_point (by omega))

/-- The line is a paragraph with one link, which begins where its source text begins and does not
reach beyond it. The link ends with its source text, and the text after it begins there, if and only
if the parentheses of the title are balanced. -/
theorem ends_with_source_iff_balanced (l : LinkLine) : ∃ paragraph link back : Node,
    l.IsParagraph paragraph link back ∧
      (∃ stop ≤ l.before.length + l.link.length, link.span.map (·.stop.offset) = some stop) ∧
      (l.EndsWithSource link back ↔ Balanced l.title) := by
  obtain ⟨paragraph, hparagraph⟩ := l.exists_paragraph
  obtain ⟨hle, hbalanced⟩ := l.linkEnd_spec
  have hlength := l.length_text
  have hstop : l.linkNode.span.map (·.stop.offset) = some l.linkEnd :=
    congrArg some (l.offset_point (by omega))
  refine ⟨paragraph, l.linkNode, l.backNode, hparagraph, ⟨l.linkEnd, hle, hstop⟩, ?_⟩
  rw [EndsWithSource, hstop, Option.some_inj, ← hbalanced, and_iff_left_iff_imp]
  intro heq
  have hafter : Stands l.source.src l.linkEnd (l.after ++ []) := by
    rw [List.append_nil, heq]
    exact l.stands_link.add
  rw [backNode, Source.placeLeaf_of_stands hafter l.after_ne_nil (by omega), heq]
  exact congrArg some (l.offset_point (by omega))

/-- A line with a link in a few letters. -/
def short (title : List Char) (hne : title ≠ []) (hplain : title.all isProseOrParenthesis = true) :
    LinkLine where
  before := ['a', ' ']
  label := ['b']
  destination := ['c']
  title := title
  after := ['d']
  before_head := by decide
  before_prose := by decide
  label_head := by decide
  label_last := by decide
  label_prose := by decide
  destination_ne_nil := by decide
  destination_letters := by decide
  title_ne_nil := hne
  title_plain := hplain
  after_last := by decide
  after_prose := by decide

/-- A link whose title is an aside in parentheses. -/
theorem aside_ends_with_source : Balanced ['(', 'x', ')'] ∧ ∃ paragraph link back : Node,
    (short ['(', 'x', ')'] (by decide) (by decide)).IsParagraph paragraph link back ∧
      (short ['(', 'x', ')'] (by decide) (by decide)).EndsWithSource link back := by
  have hbalanced : Balanced ['(', 'x', ')'] := by decide
  obtain ⟨paragraph, link, back, hparagraph, -, hends⟩ :=
    ends_with_source_iff_balanced (short ['(', 'x', ')'] (by decide) (by decide))
  exact ⟨hbalanced, paragraph, link, back, hparagraph, hends.2 hbalanced⟩

/-- A closing parenthesis in the title is taken for the end of the link. -/
theorem cut_short_in_title : ¬∀ l : LinkLine, ∃ paragraph link back : Node,
    l.IsParagraph paragraph link back ∧ l.EndsWithSource link back := by
  intro hall
  obtain ⟨paragraph, link, back, hparagraph, hstop, -⟩ :=
    hall (short [')', 'd'] (by decide) (by decide))
  have hfound : ((parse (short [')', 'd'] (by decide) (by decide)).text).children.map fun n =>
      (n.findAll .link).map fun m => m.span.map (·.stop.offset)) = [[some 10]] := by
    decide +kernel
  rw [hparagraph.alone, List.map_singleton, hparagraph.onlyLink, List.map_singleton, hstop]
    at hfound
  exact absurd hfound (by decide)

end LinkLine

end Continuity.Markdown
