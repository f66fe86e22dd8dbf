/-! # Control sequences of terminals -/

namespace Continuity.Text

/-- The numbers and signs within a control sequence. -/
def isSequenceChar (c : Char) : Bool := c.isDigit || c == ';' || c == '?'

/-- What follows a control sequence whose beginning has been read, if it ends as one. -/
def afterSequence? (cs : List Char) : Option (List Char) :=
  match cs.dropWhile isSequenceChar with
  | c :: rest => if c.isAlpha then some rest else none
  | [] => none

/-- What is left after a control sequence is shorter than what was there. -/
theorem length_afterSequence? {cs rest : List Char} (h : afterSequence? cs = some rest) :
    rest.length < cs.length := by
  unfold afterSequence? at h
  split at h
  · next c tail found =>
    split at h
    · cases h
      have := (cs.dropWhile_suffix isSequenceChar).length_le
      rw [found] at this
      exact this
    · contradiction
  · contradiction

/-- The text without control sequences. -/
def withoutSequences : List Char → List Char
  | [] => []
  | '\x1b' :: '[' :: rest =>
    match _h : afterSequence? rest with
    | some after => withoutSequences after
    | none => '\x1b' :: '[' :: withoutSequences rest
  | c :: rest => c :: withoutSequences rest
termination_by cs => cs.length
decreasing_by
  · have := length_afterSequence? _h
    simp only [List.length_cons]
    omega
  · simp only [List.length_cons]
    omega
  · simp only [List.length_cons]
    omega

end Continuity.Text
