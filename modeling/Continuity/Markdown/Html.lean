import Continuity.Text.Blank
import Continuity.Text.Casing
import Continuity.Text.Pattern

/-! # Tags, comments and other HTML

Where HTML may stand among text, and which lines begin and end a block of it.
-/

namespace Continuity.Markdown.Html

open Text (Pattern isBlank patternKey)

/-- An ASCII letter. -/
def isAsciiLetter (c : Char) : Bool := c.isAlpha

/-- The name of a tag. -/
def tagName : Pattern :=
  .sequence (.one isAsciiLetter) (.run fun c => c.isAlphanum || c == '-')

/-- The name of an attribute. -/
def attributeName : Pattern :=
  .sequence (.one fun c => isAsciiLetter c || c == '_' || c == ':')
    (.run fun c => c.isAlphanum || c == ':' || c == '.' || c == '_' || c == '-')

/-- A value without quotes, or in quotes of either kind. -/
def attributeValue : Pattern :=
  .choice [
    .some fun c => !(c == '"' || c == '\'' || c == '=' || c == '<' || c == '>' || c.toNat == 0x60 ||
      c.toNat ≤ 0x20),
    .all [.oneOf "'", .run (· != '\''), .oneOf "'"],
    .all [.oneOf "\"", .run (· != '"'), .oneOf "\""]]

/-- An attribute with the blanks before it. -/
def attributePattern : Pattern :=
  .all [.some isBlank, attributeName,
    .optional (.all [.run isBlank, .oneOf "=", .run isBlank, attributeValue])]

/-- An opening tag. -/
def openTag : Pattern :=
  .all [.oneOf "<", tagName, .many attributePattern, .run isBlank, .optional (.oneOf "/"),
    .oneOf ">"]

/-- A closing tag. -/
def closeTag : Pattern :=
  .all [.literal "</", tagName, .run isBlank, .oneOf ">"]

/-- A comment; two hyphens end it only together with a bracket. -/
def comment : Pattern :=
  .choice [.literal "<!-->", .literal "<!--->",
    .all [.literal "<!--",
      .many (.choice [.one (· != '-'), .all [.oneOf "-", .one (· != '-')],
        .all [.literal "--", .one (· != '>')]]),
      .literal "-->"]]

/-- A declaration. -/
def declaration : Pattern :=
  .all [.literal "<!", .one isAsciiLetter, .run (· != '>'), .oneOf ">"]

/-- The length of the shortest text that `opening` begins and `closing` ends. -/
def enclosedLength? (opening closing : String) (cs : List Char) : Option Nat :=
  if opening.toList.isPrefixOf cs then
    (Text.indexOf? closing.toList (cs.drop opening.length)).map fun n =>
      opening.length + n + closing.length
  else none

/-- The length of the HTML at the front of a text. -/
def inlineLength? (cs : List Char) : Option Nat :=
  (Pattern.choice [openTag, closeTag, comment]).length? cs
    <|> enclosedLength? "<?" "?>" cs
    <|> declaration.length? cs
    <|> enclosedLength? "<![CDATA[" "]]>" cs

/-- What ends a block of HTML. -/
inductive BlockEnd where
  /-- A line that holds one of these texts, compared without case. -/
  | mark (texts : List String)
  /-- An empty line. -/
  | emptyLine
  deriving Repr, DecidableEq

/-- A kind of HTML block. -/
structure BlockKind where
  stop : BlockEnd
  interruptsParagraph : Bool
  deriving Repr, DecidableEq

/-- Elements whose content is raw text. -/
def rawElements : List String := ["script", "pre", "style", "textarea"]

/-- Elements that form blocks. -/
def blockElements : List String :=
  ["address", "article", "aside", "base", "basefont", "blockquote", "body", "caption", "center",
    "col", "colgroup", "dd", "details", "dialog", "dir", "div", "dl", "dt", "fieldset",
    "figcaption", "figure", "footer", "form", "frame", "frameset", "h1", "h2", "h3", "h4", "h5",
    "h6", "head", "header", "hr", "html", "iframe", "legend", "li", "link", "main", "menu",
    "menuitem", "nav", "noframes", "ol", "optgroup", "option", "p", "param", "search", "section",
    "summary", "table", "tbody", "td", "tfoot", "th", "thead", "title", "tr", "track", "ul"]

/-- What follows a name at the front of a text, compared without case. -/
def afterName? (name : List Char) : List Char → Option (List Char) :=
  match name with
  | [] => some
  | n :: ns => fun
    | [] => none
    | c :: cs => if patternKey n == patternKey c then afterName? ns cs else none

/-- Some name stands at the front of a text, and what follows it satisfies `after`. -/
def namedBefore (names : List String) (after : List Char → Bool) (cs : List Char) : Bool :=
  names.any fun name => (afterName? name.toList cs).any after

/-- The end of a name: the end of the text, a blank or the end of the tag. -/
def endsRawName : List Char → Bool
  | [] => true
  | c :: _ => isBlank c || c == '>'

/-- The end of a block element's name. -/
def endsBlockName : List Char → Bool
  | [] => true
  | '/' :: '>' :: _ => true
  | c :: _ => isBlank c || c == '>'

/-- The kind of block that a line begins, if it begins one. -/
def blockKind? (line : List Char) : Option BlockKind :=
  match line with
  | '<' :: rest =>
    if namedBefore rawElements endsRawName rest then
      some ⟨.mark (rawElements.map fun name => "</" ++ name ++ ">"), true⟩
    else if "!--".toList.isPrefixOf rest then some ⟨.mark ["-->"], true⟩
    else if "?".toList.isPrefixOf rest then some ⟨.mark ["?>"], true⟩
    else if (match rest with | '!' :: c :: _ => 'A' ≤ c && c ≤ 'Z' | _ => false) then
      some ⟨.mark [">"], true⟩
    else if "![CDATA[".toList.isPrefixOf rest then some ⟨.mark ["]]>"], true⟩
    else
      let name := match rest with | '/' :: more => more | _ => rest
      if namedBefore blockElements endsBlockName name then some ⟨.emptyLine, true⟩
      else if ((Pattern.either openTag closeTag).rests line).any (·.all isBlank) then
        some ⟨.emptyLine, false⟩
      else none
  | _ => none

/-- A text occurs in another, compared without case. -/
def containsText (text : List Char) (line : List Char) : Bool :=
  (Text.indexOf? (text.map patternKey) (line.map patternKey)).isSome

/-- A line that ends a block. -/
def BlockEnd.reached (stop : BlockEnd) (line : List Char) : Bool :=
  match stop with
  | .emptyLine => line.isEmpty
  | .mark texts => texts.any fun text => containsText text.toList line

end Continuity.Markdown.Html
