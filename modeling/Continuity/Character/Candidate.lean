import Continuity.Character.Word
import Continuity.Markdown.Node
import Continuity.Text.Casing
import Continuity.Text.Sentence
import Continuity.Text.Word

/-! # Candidates for names

Only the paragraphs of a document are searched for names. A paragraph is rebuilt from its runs of
text, with spaces for all else, so that its offsets agree with the source. A name is a run of at
most three capitalised words with nothing but blanks between them. A capital at the front of a
sentence shows a name only if the word stands capitalised inside some sentence of the document, or
never in lowercase.
-/

namespace Continuity.Character

open Text (Word slice splice)

/-- A paragraph, by where its text begins in the source. -/
structure Paragraph where
  offset : Nat
  text : List Char
  /-- It stands in a quotation. -/
  quoted : Bool
  sentences : List (Nat × Nat)
  deriving Repr, DecidableEq, Inhabited

namespace Paragraph

/-- A text that stands for the source from `first` up to `last`, with a run of the source written
over what stands there; `source` is the source from `first` on. -/
def writeRun (source : List Char) (first last : Nat) (written : List Char) (run : Text.Span) :
    List Char :=
  let start := max run.start.offset first
  let stop := min run.stop.offset last
  splice (start - first) ((stop : Int) - first) (slice (start - first) (stop - first) source)
    written

/-- The runs of text inside a node. -/
def runsOf (node : Markdown.Node) : List Text.Span :=
  (node.findAll .text).filterMap (·.span)

/-- The source of a node with spaces for all that is no run of text. -/
def textOf (content : List Char) (span : Text.Span) (node : Markdown.Node) : List Char :=
  let first := span.start.offset
  let last := span.stop.offset
  (runsOf node).foldl (writeRun (slice first last content) first last)
    (List.replicate (last - first) ' ')

/-- The paragraph that a node is. -/
def ofNode? (content : List Char) (node : Markdown.Node) (quoted : Bool) : Option Paragraph :=
  match node.kind, node.span with
  | .paragraph, some span =>
    let text := textOf content span node
    some ⟨span.start.offset, text, quoted, Text.sentences text⟩
  | _, _ => none

/-- The paragraphs of a document. -/
def all (content : List Char) (root : Markdown.Node) : List Paragraph :=
  (root.walkQuoted false).filterMap fun (node, quoted) => ofNode? content node quoted

/-- The words of a sentence. -/
def words (p : Paragraph) (sentence : Nat × Nat) : List Word :=
  Text.wordsBetween sentence.1 sentence.2 p.text

end Paragraph

/-- The words of a document that show what its capitals mean. -/
structure Vocabulary where
  /-- Words capitalised inside a sentence. -/
  capitalized : List (List Char)
  /-- Words in lowercase. -/
  lowercase : List (List Char)
  deriving Repr, DecidableEq, Inhabited

namespace Vocabulary

/-- The words of a sentence that are capitalised but not at its front. -/
def innerCapitals (words : List Word) : List (List Char) :=
  ((words.drop 1).map (·.letters)).filter isCapitalized

/-- The words of a sentence in lowercase. -/
def lowercaseOf (words : List Word) : List (List Char) :=
  (words.map (·.letters)).filter isLowercaseWord

/-- The vocabulary of paragraphs. -/
def ofParagraphs (paragraphs : List Paragraph) : Vocabulary :=
  let sentences := paragraphs.flatMap fun p => p.sentences.map p.words
  ⟨(sentences.flatMap innerCapitals).eraseDups, (sentences.flatMap lowercaseOf).eraseDups⟩

/-- A word at the front of a sentence belongs to a name. -/
def keepsInitial (v : Vocabulary) (word : List Char) : Bool :=
  v.capitalized.contains word || !v.lowercase.contains (Text.lowerChars word)

end Vocabulary

/-- A name where it stands in a paragraph. -/
structure Candidate where
  name : String
  start : Nat
  stop : Nat
  /-- The number of its sentence. -/
  sentence : Nat
  /-- Only the front of a sentence shows it. -/
  initial : Bool
  deriving Repr, DecidableEq, Inhabited

/-- The largest number of words in a name. -/
def maxNameWords : Nat := 3

/-- A word that may belong to a name. -/
def isNameWord (w : Word) : Bool := isCapitalized w.letters && !isExcludedWord w.text

/-- A run that has been collected in reverse. -/
def closeRun (run : List Word) : List (List Word) := if run.isEmpty then [] else [run.reverse]

/-- The runs of words that may be names; `current` is the run at hand in reverse. -/
def nameRuns (text : List Char) (current : List Word) : List Word → List (List Word)
  | [] => closeRun current
  | w :: rest =>
    if isNameWord w then
      match current with
      | [] => nameRuns text [w] rest
      | last :: _ =>
        if current.length = maxNameWords || !Text.isBlankRun (slice last.stop w.start text) then
          closeRun current ++ nameRuns text [w] rest
        else nameRuns text (w :: current) rest
    else closeRun current ++ nameRuns text [] rest

/-- The candidate of a run of words in a sentence; `opens` says that it stands at the front. -/
def candidateOf? (v : Vocabulary) (sentence : Nat) (opens : Bool) (run : List Word) :
    Option Candidate := do
  let first ← run.head?
  let keeps := v.keepsInitial first.letters
  let run := if opens && !keeps then run.drop 1 else run
  let initial := opens && keeps
  let first ← run.head?
  let last ← run.getLast?
  return {
    name := " ".intercalate (run.map (·.text)), start := first.start, stop := last.stop, sentence
    initial := initial && !v.capitalized.contains first.letters }

/-- The candidates of a sentence with its words, names to be ignored aside. -/
def sentenceCandidates (v : Vocabulary) (ignored : List String) (text : List Char)
    (sentence : Nat) (words : List Word) : List Candidate :=
  ((nameRuns text [] words).filterMap fun run =>
    candidateOf? v sentence (run.head? == words.head?) run).filter fun c =>
      !ignored.contains (Text.fold c.name)

/-- The candidates of a paragraph. -/
def Paragraph.candidates (p : Paragraph) (v : Vocabulary) (ignored : List String) :
    List Candidate :=
  p.sentences.zipIdx.flatMap fun (sentence, n) =>
    sentenceCandidates v ignored p.text n (p.words sentence)

end Continuity.Character
