import Continuity.Link.Rules
import Continuity.Proofs.Link.Slug
import Continuity.Proofs.Text.Casing
import Continuity.Proofs.Web.Percent

/-! # Links to headings

The slug of a heading consists of characters that a link may hold as they are, and that stay the
same when they are read in lowercase. So a link to it, be it in percent form, leads to the heading,
and no rule objects to it.
-/

namespace Continuity.Link

/-! ## The characters of slugs -/

/-- A character of a word or a hyphen, in lowercase. -/
structure IsAnchorChar (c : Char) : Prop where
  word_or_hyphen : Text.isWord c = true ∨ c = '-'
  lowercase : Text.lowerChar c = [c]

theorem isAnchorChar_hyphen : IsAnchorChar '-' := ⟨.inr rfl, by decide +kernel⟩

theorem isAnchorChar_digit {c : Char} (h : c.isDigit = true) : IsAnchorChar c := by
  have hall : ∀ n < 10, Text.isWord (Char.ofNat (48 + n)) = true ∧
      Text.lowerChar (Char.ofNat (48 + n)) = [Char.ofNat (48 + n)] := by
    decide +kernel
  have hcode : 48 ≤ c.toNat ∧ c.toNat ≤ 57 := by
    simpa [Char.isDigit, UInt32.le_iff_toNat_le] using h
  have hdigit := hall (c.toNat - 48) (by omega)
  rw [Nat.add_sub_cancel' hcode.1, Char.ofNat_toNat] at hdigit
  exact ⟨.inl hdigit.1, hdigit.2⟩

theorem isAnchorChar_of_mem_slug {text : String} {c : Char} (h : c ∈ (slug text).toList) :
    IsAnchorChar c := by
  rw [slug, String.toList_ofList, slugChars, List.mem_map] at h
  obtain ⟨d, hd, rfl⟩ := h
  obtain ⟨hlower, hkept⟩ := List.mem_filter.1 hd
  split
  next => exact isAnchorChar_hyphen
  next hspace =>
    refine ⟨?_, Text.lowerChar_of_mem_lowerChars hlower⟩
    simpa [isSlugChar, hspace] using hkept

theorem isAnchorChar_of_mem_numbered {text : String} {n : Nat} {c : Char}
    (h : c ∈ (numbered (slug text) n).toList) : IsAnchorChar c := by
  rw [numbered, String.toList_append, String.toList_append, List.mem_append,
    List.mem_append] at h
  rcases h with (h | h) | h
  · exact isAnchorChar_of_mem_slug h
  · obtain rfl : c = '-' := by simpa using h
    exact isAnchorChar_hyphen
  · rw [Nat.toString_eq_repr, Nat.toList_repr] at h
    exact isAnchorChar_digit (Nat.isDigit_of_mem_toDigits (by decide) (by decide) h)

/-- Whatever heading a slug is given to, it can stand in a link. -/
theorem isAnchorChar_of_mem_slugs {headings : List String} {s : String} (hs : s ∈ slugs headings) :
    ∀ c ∈ s.toList, IsAnchorChar c := by
  have hlength : (slugs headings).length ≤ headings.length :=
    Nat.le_of_eq (Slugger.length_issueAll _ headings)
  rw [← List.map_snd_zip hlength, List.mem_map] at hs
  obtain ⟨heading, hheading, rfl⟩ := hs
  intro c hc
  rcases Slugger.own_or_numbered _ headings heading hheading with hown | ⟨n, -, hnumbered⟩
  · exact isAnchorChar_of_mem_slug (hown ▸ hc)
  · exact isAnchorChar_of_mem_numbered (hnumbered ▸ hc)

section Anchors

variable {anchor : List Char}

theorem lowerChars_of_isAnchorChar (h : ∀ c ∈ anchor, IsAnchorChar c) :
    Text.lowerChars anchor = anchor :=
  Text.lowerChars_eq_self fun c hc => (h c hc).lowercase

theorem isBlank_of_isAnchorChar (h : ∀ c ∈ anchor, IsAnchorChar c) :
    ∀ c ∈ anchor, Text.isBlank c = false := by
  intro c hc
  rcases (h c hc).word_or_hyphen with hword | rfl
  · exact Text.isBlank_of_isWord hword
  · decide

theorem percent_not_mem (h : ∀ c ∈ anchor, IsAnchorChar c) : '%' ∉ anchor := by
  intro hmem
  have hpercent : ¬(Text.isWord '%' = true ∨ '%' = '-') := by decide +kernel
  exact hpercent (h '%' hmem).word_or_hyphen

end Anchors

/-! ## Links within a document -/

theorem isAddress_hash (cs : List Char) : isAddress ('#' :: cs) = false := by
  have hletter : Web.isSchemeLetter '#' = false := by decide
  simp [isAddress, Web.scheme?, Text.startsWith, hletter]

/-- A link that begins with a hash stays in its document. -/
theorem ofChars_hash {raw target : List Char} (source : List Char)
    (h : Web.decodePercent (Text.trim raw) = '#' :: target) :
    Reference.ofChars raw source = .here (String.ofList target) := by
  simp [Reference.ofChars, h, isAddress_hash]

theorem resolve_hash {s form : String} (h : Web.PercentForm s.toList form.toList)
    (hblank : ∀ c ∈ s.toList, Text.isBlank c = false) (known : List String)
    (exists? : String → Bool) (strict : Bool) (source : String) :
    resolve known exists? strict ("#" ++ form) source = ⟨.anchor, some source, s⟩ := by
  have hform : Web.PercentForm ('#' :: s.toList) ("#" ++ form).toList := by
    rw [String.toList_append]
    exact .plain (by decide) h
  have hpadding : Text.Unpadded ("#" ++ form).toList := by
    refine Text.unpadded_of_forall (hform.isBlank_eq_false ?_)
    exact List.forall_mem_cons.2 ⟨by decide, hblank⟩
  have htarget : Web.decodePercent (Text.trim ("#" ++ form).toList) = '#' :: s.toList := by
    rw [Text.trim_of_unpadded hpadding, Web.decodePercent_of_form hform]
  rw [resolve, Reference.ofStrings, ofChars_hash _ htarget, String.ofList_toList,
    Reference.resolve]

theorem anchorIssue?_of_mem {g : Graph} {e : Edge} {node : Graph.Node} {target : String}
    (htarget : e.target = some target) (hnode : g.find? target = some node)
    (hslug : Text.lower e.fragment ∈ node.slugs) : anchorIssue? g e = none := by
  have hcontains : node.slugs.contains (Text.lower e.fragment) = true :=
    List.contains_iff_mem.2 hslug
  unfold anchorIssue?
  dsimp only
  split
  next =>
    rw [htarget, Option.bind_some, hnode, Option.bind_eq_bind, Option.bind_some, if_pos hcontains]
  next => rfl

/-- A link to the slug of a heading, the slug being in percent form or not, leads to this slug in
its own document, and is in order wherever the document has these slugs. -/
theorem slug_leads_to_heading {headings : List String} {s raw : String}
    (hs : s ∈ slugs headings)
    (hraw : raw = "#" ++ s ∨
      ∃ form : String, Web.PercentForm s.toList form.toList ∧ raw = "#" ++ form)
    (known : List String) (exists? : String → Bool) (strict : Bool) (path : String) :
    resolve known exists? strict raw path = ⟨.anchor, some path, s⟩ ∧
      ∀ (g : Graph) (node : Graph.Node) (link : Record), g.find? path = some node →
        node.slugs = slugs headings → link.target = raw →
        anchorIssue? g (link.toEdge path (resolve known exists? strict link.target path)) =
          none := by
  have hchars := isAnchorChar_of_mem_slugs hs
  have hform : ∃ form : String, Web.PercentForm s.toList form.toList ∧ raw = "#" ++ form := by
    rcases hraw with rfl | hform
    · exact ⟨s, .refl (percent_not_mem hchars), rfl⟩
    · exact hform
  obtain ⟨form, hform, rfl⟩ := hform
  have hresolve := resolve_hash hform (isBlank_of_isAnchorChar hchars) known exists? strict path
  refine ⟨hresolve, ?_⟩
  intro g node link hnode hslugs hlink
  rw [hlink, hresolve]
  refine anchorIssue?_of_mem rfl hnode ?_
  have hlower : Text.lower s = s := by
    rw [Text.lower, lowerChars_of_isAnchorChar hchars, String.ofList_toList]
  rw [hslugs]
  exact hlower.symm ▸ hs

/-- A link with an escaped letter outside ASCII, and another one, in digits of either case. -/
theorem cafe_leads_to_heading :
    "cafés-1" ∈ slugs ["CAFÉS!", "Cafés"] ∧
      Web.PercentForm "cafés-1".toList "c%61f%C3%a9s-1".toList ∧
      resolve [] (fun _ => false) true "#c%61f%C3%a9s-1" "p.md" =
        ⟨.anchor, some "p.md", "cafés-1"⟩ ∧
      anchorIssue? ⟨[⟨"p.md", "", slugs ["CAFÉS!", "Cafés"], 0, []⟩], []⟩
        (Record.toEdge ⟨"#c%61f%C3%a9s-1", "", 1, 1, none, none⟩ "p.md"
          (resolve [] (fun _ => false) true "#c%61f%C3%a9s-1" "p.md")) = none := by
  have hs : "cafés-1" ∈ slugs ["CAFÉS!", "Cafés"] := by decide +kernel
  have ha : Web.ByteForm (Text.encodeChar 'a') ['%', '6', '1'] :=
    .cons (.inl rfl) (.inl rfl) .nil
  have he : Web.ByteForm (Text.encodeChar 'é') ['%', 'C', '3', '%', 'a', '9'] :=
    .cons (.inl rfl) (.inl rfl) (.cons (.inr rfl) (.inl rfl) .nil)
  have hform : Web.PercentForm "cafés-1".toList "c%61f%C3%a9s-1".toList :=
    .plain (by decide) <| .escaped ha <| .plain (by decide) <| .escaped he <| .refl (by decide)
  have hleads := slug_leads_to_heading hs (.inr ⟨_, hform, rfl⟩) [] (fun _ => false) true "p.md"
  exact ⟨hs, hform, hleads.1, hleads.2 _ _ ⟨_, "", 1, 1, none, none⟩ rfl rfl rfl⟩

end Continuity.Link
