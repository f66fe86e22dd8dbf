import Continuity.Markdown.Escape
import Continuity.Proofs.Data.Lists

/-! # Reading web pages

A page is read character by character: outside of tags a character is text, and a less-than sign
opens a tag, in which a name and attributes follow. Text without that sign shows no tag and leaves
the reader where it was, so that a page put together from tags and such text is read back piece by
piece. References to characters are resolved afterwards, in the text between two tags.
-/

namespace Continuity.Web

/-! ## Tags and characters -/

/-- A tag or a declaration, with its attributes in their order. -/
structure Tag where
  closes : Bool := false
  name : List Char
  attributes : List (List Char × List Char) := []
  deriving Repr, DecidableEq

/-- The tag with one more attribute. -/
def Tag.add (t : Tag) (name value : List Char) : Tag :=
  { t with attributes := t.attributes ++ [(name, value)] }

/-- What a page consists of. -/
inductive PageItem where
  | tag (t : Tag)
  | char (c : Char)
  deriving Repr, DecidableEq

/-- The tag that an item is. -/
def PageItem.tag? : PageItem → Option Tag
  | .tag t => some t
  | .char _ => none

@[simp] theorem PageItem.tag?_tag (t : Tag) : (PageItem.tag t).tag? = some t := rfl

@[simp] theorem PageItem.tag?_char (c : Char) : (PageItem.char c).tag? = none := rfl

/-- Where in a page a reader is. -/
inductive PageMode where
  | text
  /-- Past the sign that opens a tag. -/
  | opened
  | name (t : Tag)
  /-- Between the attributes of a tag. -/
  | inside (t : Tag)
  /-- In the name of an attribute. -/
  | key (t : Tag) (name : List Char)
  /-- Past the sign of equality of an attribute. -/
  | value (t : Tag) (name : List Char)
  /-- In a value between two marks. -/
  | quoted (t : Tag) (name : List Char) (mark : Char) (value : List Char)
  /-- In a value without marks. -/
  | bare (t : Tag) (name value : List Char)
  deriving Repr, DecidableEq

namespace PageMode

/-- A character that parts what stands in a tag. -/
def isSeparator (c : Char) : Bool := c.isWhitespace || c == '\x0c'

/-- What a character shows, and where the reader is after it. -/
def step : PageMode → Char → List PageItem × PageMode
  | text, c => if c == '<' then ([], opened) else ([.char c], text)
  | opened, c =>
    if c == '/' then ([], name { closes := true, name := [] })
    else if c.isAlpha || c == '!' then ([], name { name := [c] })
    else if c == '<' then ([.char '<'], opened)
    else ([.char '<', .char c], text)
  | name t, c =>
    if c == '>' then ([.tag t], text)
    else if isSeparator c || c == '/' then ([], inside t)
    else ([], name { t with name := t.name ++ [c] })
  | inside t, c =>
    if c == '>' then ([.tag t], text)
    else if isSeparator c || c == '/' then ([], inside t)
    else ([], key t [c])
  | key t n, c =>
    if c == '>' then ([.tag (t.add n [])], text)
    else if c == '=' then ([], value t n)
    else if isSeparator c || c == '/' then ([], inside (t.add n []))
    else ([], key t (n ++ [c]))
  | value t n, c =>
    if c == '"' || c == '\'' then ([], quoted t n c [])
    else if c == '>' then ([.tag (t.add n [])], text)
    else if isSeparator c then ([], value t n)
    else ([], bare t n [c])
  | quoted t n mark v, c =>
    if c == mark then ([], inside (t.add n v)) else ([], quoted t n mark (v ++ [c]))
  | bare t n v, c =>
    if c == '>' then ([.tag (t.add n v)], text)
    else if isSeparator c then ([], inside (t.add n v))
    else ([], bare t n (v ++ [c]))

/-- Where the reader is after some characters. -/
def after (m : PageMode) (cs : List Char) : PageMode := cs.foldl (fun m c => (m.step c).2) m

/-- What some characters show. -/
def items (m : PageMode) : List Char → List PageItem
  | [] => []
  | c :: rest => (m.step c).1 ++ (m.step c).2.items rest

theorem after_append (m : PageMode) (cs ds : List Char) :
    m.after (cs ++ ds) = (m.after cs).after ds :=
  List.foldl_append

theorem items_append (m : PageMode) (cs ds : List Char) :
    m.items (cs ++ ds) = m.items cs ++ (m.after cs).items ds := by
  induction cs generalizing m with
  | nil => rfl
  | cons c rest ih => rw [List.cons_append, items, ih, items, List.append_assoc]; rfl

end PageMode

/-- A part of a page shows some items, and neither begins nor ends inside a tag. -/
structure Shows (cs : List Char) (items : List PageItem) : Prop where
  after : PageMode.text.after cs = .text
  items : PageMode.text.items cs = items

namespace Shows

variable {cs ds : List Char} {xs ys : List PageItem}

theorem nil : Shows [] [] := ⟨rfl, rfl⟩

theorem append (hcs : Shows cs xs) (hds : Shows ds ys) : Shows (cs ++ ds) (xs ++ ys) where
  after := by rw [PageMode.after_append, hcs.after, hds.after]
  items := by rw [PageMode.items_append, hcs.after, hcs.items, hds.items]

/-- Text that opens no tag is shown as it stands. -/
theorem plain (h : '<' ∉ cs) : Shows cs (cs.map .char) := by
  induction cs with
  | nil => exact nil
  | cons c rest ih =>
      rw [List.mem_cons, not_or] at h
      have hchar : Shows [c] [.char c] := by
        have hstep : PageMode.text.step c = ([.char c], .text) :=
          if_neg (by simpa using Ne.symm h.1)
        constructor
        · exact congrArg Prod.snd hstep
        · exact (List.append_nil _).trans (congrArg Prod.fst hstep)
      exact hchar.append (ih h.2)

theorem flatMap {α : Type} {as : List α} {f : α → List Char} {g : α → List PageItem}
    (h : ∀ a ∈ as, Shows (f a) (g a)) : Shows (as.flatMap f) (as.flatMap g) := by
  induction as with
  | nil => exact nil
  | cons a rest ih =>
      rw [List.forall_mem_cons] at h
      exact h.1.append (ih h.2)

end Shows

/-- A tag, a text, and the tag that ends it. -/
def element (t u : Tag) (text : List Char) : List PageItem := .tag t :: (text.map .char ++ [.tag u])

theorem Shows.element {front text back : List Char} {t u : Tag} (hfront : Shows front [.tag t])
    (htext : '<' ∉ text) (hback : Shows back [.tag u]) :
    Shows (front ++ text ++ back) (element t u text) :=
  (hfront.append (.plain htext)).append hback

@[simp] theorem filterMap_tag?_element (t u : Tag) (text : List Char) :
    (element t u text).filterMap PageItem.tag? = [t, u] := by
  simp [element]

@[simp] theorem tag_mem_element {t u v : Tag} {text : List Char} :
    .tag v ∈ element t u text ↔ v = t ∨ v = u := by
  simp [element]

/-! ## What is read in a page -/

/-- The tags of a page. -/
def tags (page : String) : List Tag := (PageMode.text.items page.toList).filterMap PageItem.tag?

/-- The characters before the next tag. -/
def textBeforeTag : List PageItem → List Char
  | .char c :: rest => c :: textBeforeTag rest
  | _ => []

/-- The text behind each occurrence of a tag, up to the next tag. -/
def textsBehind (t : Tag) : List PageItem → List (List Char)
  | [] => []
  | .tag u :: rest =>
    if u = t then textBeforeTag rest :: textsBehind t rest else textsBehind t rest
  | .char _ :: rest => textsBehind t rest

/-- The texts of a page that stand behind a tag. -/
def textsIn (t : Tag) (page : String) : List (List Char) :=
  textsBehind t (PageMode.text.items page.toList)

theorem textBeforeTag_append_tag (cs : List Char) (t : Tag) (rest : List PageItem) :
    textBeforeTag (cs.map .char ++ .tag t :: rest) = cs := by
  induction cs with
  | nil => rfl
  | cons c cs ih => exact congrArg (c :: ·) ih

/-- A part of a page has these texts behind a tag, whatever follows the part. -/
def HasTexts (t : Tag) (xs : List PageItem) (texts : List (List Char)) : Prop :=
  ∀ rest, textsBehind t (xs ++ rest) = texts ++ textsBehind t rest

namespace HasTexts

variable {t u : Tag} {xs ys : List PageItem} {as bs : List (List Char)}

theorem textsBehind_eq (h : HasTexts t xs as) : textsBehind t xs = as := by
  have hnil := h []
  rwa [List.append_nil, textsBehind, List.append_nil] at hnil

theorem append (hxs : HasTexts t xs as) (hys : HasTexts t ys bs) :
    HasTexts t (xs ++ ys) (as ++ bs) := by
  intro rest
  rw [List.append_assoc, hxs, hys, List.append_assoc]

theorem of_not_mem (h : .tag t ∉ xs) : HasTexts t xs [] := by
  intro rest
  induction xs with
  | nil => rfl
  | cons x xs ih =>
      rw [List.mem_cons, not_or] at h
      cases x with
      | tag u =>
          have hne : u ≠ t := fun heq => h.1 (heq ▸ rfl)
          rw [List.cons_append, textsBehind, if_neg hne, ih h.2]
      | char c => exact ih h.2

theorem flatMap {α : Type} {items : List α} {f : α → List PageItem} {g : α → List (List Char)}
    (h : ∀ a ∈ items, HasTexts t (f a) (g a)) : HasTexts t (items.flatMap f) (items.flatMap g) := by
  induction items with
  | nil => exact fun _ => rfl
  | cons a rest ih =>
      rw [List.forall_mem_cons] at h
      exact h.1.append (ih h.2)

/-- The text of an element is what stands behind its tag. -/
theorem element (text : List Char) (hne : u ≠ t) : HasTexts t (element t u text) [text] := by
  intro rest
  have hchars : HasTexts t (text.map .char ++ [.tag u]) [] := by
    refine of_not_mem ?_
    simpa using hne.symm
  rw [Web.element, List.cons_append, textsBehind, if_pos rfl, hchars rest, List.append_assoc,
    List.singleton_append, textBeforeTag_append_tag]
  rfl

end HasTexts

/-! ## Lines -/

/-- Lines with a line feed in front of each of them. -/
def withFeeds (lines : List String) : List Char := lines.flatMap fun line => '\n' :: line.toList

theorem cons_intercalate_eq_withFeeds {lines : List String} (hne : lines ≠ []) :
    '\n' :: ("\n".intercalate lines).toList = withFeeds lines := by
  rw [String.toList_intercalate]
  exact (Lists.cons_intercalate '\n' (by simpa using hne)).trans (List.flatMap_map _ _ _)

theorem Shows.withFeeds_singleton {line : String} {xs : List PageItem} (h : Shows line.toList xs) :
    Shows (withFeeds [line]) (.char '\n' :: xs) := by
  have hfeed : Shows ['\n'] [.char '\n'] := ⟨rfl, rfl⟩
  rw [withFeeds, List.flatMap_singleton]
  exact hfeed.append h

/-- What is read in a page is what its lines show. -/
theorem Shows.of_lines {lines : List String} {xs : List PageItem} (hne : lines ≠ [])
    (h : Shows (withFeeds lines) xs) :
    PageMode.text.after ("\n".intercalate lines).toList = .text ∧
      tags ("\n".intercalate lines) = xs.filterMap PageItem.tag? ∧
        ∀ t, textsIn t ("\n".intercalate lines) = textsBehind t xs := by
  rw [← cons_intercalate_eq_withFeeds hne] at h
  obtain ⟨hafter, rfl⟩ := h
  exact ⟨hafter, rfl, fun _ => rfl⟩

/-! ## References -/

/-- The text with its references to characters resolved; `skip` characters belong to a reference
already resolved. -/
def unescapeFrom (skip : Nat) : List Char → List Char
  | [] => []
  | c :: rest =>
    match skip with
    | skip + 1 => unescapeFrom skip rest
    | 0 =>
      if c == '&' then
        match Markdown.reference? rest with
        | some (image, size) => image ++ unescapeFrom (size - 1) rest
        | none => '&' :: unescapeFrom 0 rest
      else c :: unescapeFrom 0 rest

/-- The text that a part of a page without tags stands for. -/
def unescape (cs : List Char) : String := String.ofList (unescapeFrom 0 cs)

theorem unescapeFrom_append (front rest : List Char) :
    unescapeFrom front.length (front ++ rest) = unescapeFrom 0 rest := by
  induction front with
  | nil => rfl
  | cons c front ih => exact ih

/-- Between an ampersand and a semicolon there is the body of a reference. -/
theorem referenceBody?_append {body : List Char}
    (h : body.all fun c => c.isAlphanum || c == '#') (rest : List Char) :
    Markdown.referenceBody? (body ++ ';' :: rest) = some body := by
  have htake : (body ++ ';' :: rest).takeWhile (fun c => c.isAlphanum || c == '#') = body := by
    rw [List.takeWhile_append_of_pos (List.all_eq_true.1 h), List.takeWhile_cons_of_neg (by decide), List.append_nil]
  rw [Markdown.referenceBody?, htake, List.drop_left]
  rfl

/-- A part of a page stands for a character, whatever follows the part. -/
def StandsFor (part : List Char) (c : Char) : Prop :=
  ∀ rest, unescapeFrom 0 (part ++ rest) = c :: unescapeFrom 0 rest

namespace StandsFor

variable {c d : Char} {part body name : List Char}

theorem self (h : c ≠ '&') : StandsFor [c] c := by
  intro rest
  rw [List.singleton_append, unescapeFrom, if_neg (by simpa using h)]

/-- A reference stands for the character that it is understood as. -/
theorem reference (hpart : part = '&' :: (body ++ [';']))
    (h : ∀ rest, Markdown.reference? (body ++ ';' :: rest) = some ([c], body.length + 2)) :
    StandsFor part c := by
  intro rest
  have hskip := unescapeFrom_append (body ++ [';']) rest
  rw [List.length_append, List.append_assoc] at hskip
  rw [hpart, List.cons_append, List.append_assoc, List.singleton_append, unescapeFrom,
    if_pos (by decide), h rest]
  exact congrArg (c :: ·) hskip

/-- A name that is known stands for its character. -/
theorem entity (hpart : part = '&' :: (d :: name ++ [';'])) (hd : d.isAlpha = true)
    (hname : (d :: name).all Char.isAlphanum) (hne : name ≠ []) (hlength : name.length < 32)
    (hc : Markdown.entity? (d :: name) = some [c]) : StandsFor part c := by
  refine reference hpart fun rest => ?_
  have hbody : Markdown.referenceBody? (d :: name ++ ';' :: rest) = some (d :: name) :=
    referenceBody?_append (List.all_eq_true.2 fun e he => by
      rw [List.all_eq_true.1 hname e he, Bool.true_or]) rest
  have hhash : d ≠ '#' := by
    rintro rfl
    cases hd
  have hpos := List.length_pos_iff.2 hne
  rw [Markdown.reference?, hbody, Option.bind_some]
  split
  next heq => exact absurd (List.cons.inj heq).1 hhash
  next heq =>
    obtain ⟨rfl, rfl⟩ := List.cons.inj heq
    rw [if_pos (by simp [hd]; omega), hc]
    rfl
  next heq => cases heq

end StandsFor

/-- A text is read back where each of its characters was written as what stands for it. -/
theorem unescape_flatMap {written : Char → List Char} (h : ∀ c, StandsFor (written c) c)
    (s : String) : unescape (s.toList.flatMap written) = s := by
  have hchars (cs : List Char) : unescapeFrom 0 (cs.flatMap written) = cs := by
    induction cs with
    | nil => rfl
    | cons c rest ih => rw [List.flatMap_cons, h c, ih]
  rw [unescape, hchars, String.ofList_toList]

end Continuity.Web
