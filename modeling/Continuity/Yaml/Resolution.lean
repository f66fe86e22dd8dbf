import Continuity.Text.Pattern
import Continuity.Yaml.Node

/-! # The kinds of plain scalars

A plain scalar without a tag is what it looks like: a truth value, a number, nothing, a date or a
text. The two versions of the language differ in what looks like a truth value or a number.
-/

namespace Continuity.Yaml

open Text (Pattern)
open Text.Pattern (all choice optional some literal oneOf)

/-- A decimal digit. -/
def digit : Pattern := .one Char.isDigit

/-- Digits and underscores, possibly none. -/
def digitRun : Pattern := .run fun c => c.isDigit || c == '_'

/-- A digit, and further digits and underscores. -/
def number : Pattern := .sequence digit digitRun

/-- A sign, or none. -/
def sign : Pattern := optional (oneOf "+-")

/-- An exponent with a sign or without. -/
def exponent : Pattern := all [oneOf "eE", sign, some Char.isDigit]

/-- An exponent with a sign. -/
def signedExponent : Pattern := all [oneOf "eE", oneOf "+-", some Char.isDigit]

/-- Up to two digits, the number they stand for being below sixty. -/
def sixtieth : Pattern :=
  .sequence (optional (.one fun c => '0' ≤ c && c ≤ '5')) digit

/-- Parts of a number to the base sixty. -/
def sixtieths : Pattern :=
  let part := Pattern.sequence (oneOf ":") sixtieth
  .sequence part (.many part)

/-- A word as it is, with a capital, or in capitals. -/
def spelled (word : String) : Pattern :=
  choice [literal word, literal word.capitalize, literal word.toUpper]

/-- What looks like a truth value. -/
def truthForm (modern : Bool) : Pattern :=
  if modern then choice [spelled "true", spelled "false"]
  else choice [oneOf "yYnN", spelled "yes", spelled "no", spelled "true", spelled "false",
    spelled "on", spelled "off"]

/-- Digits and underscores, at least one. -/
def digitsAfterPoint : Pattern := some fun c => c.isDigit || c == '_'

/-- What looks like a floating-point number. -/
def numberForm (modern : Bool) : Pattern :=
  choice [
    all [sign, number, oneOf ".", digitRun, optional exponent],
    all [sign, number, exponent],
    all [if modern then sign else .empty, oneOf ".", digitsAfterPoint, optional signedExponent],
    if modern then .one fun _ => false else all [sign, number, sixtieths, oneOf ".", digitRun],
    all [sign, oneOf ".", spelled "inf"],
    all [oneOf ".", choice [literal "nan", literal "NaN", literal "NAN"]]]

/-- An octal digit or underscore. -/
def isOctal (c : Char) : Bool := ('0' ≤ c && c ≤ '7') || c == '_'

/-- A hexadecimal digit or underscore. -/
def isHex (c : Char) : Bool := (Text.hexDigitValue? c).isSome || c == '_'

/-- What looks like a whole number. -/
def wholeForm (modern : Bool) : Pattern :=
  let binary := all [sign, literal "0b", some fun c => c == '0' || c == '1' || c == '_']
  let hex := all [sign, literal "0x", some isHex]
  if modern then
    choice [binary, all [sign, oneOf "0", optional (oneOf "o"), some isOctal],
      all [sign, some fun c => c.isDigit || c == '_'], hex]
  else
    let nonzero := Pattern.one fun c => '1' ≤ c && c ≤ '9'
    choice [binary, all [sign, optional (oneOf "0"), some isOctal],
      all [sign, choice [oneOf "0", .sequence nonzero digitRun]], hex,
      all [sign, nonzero, digitRun, sixtieths]]

/-- Four digits, two and two, with hyphens between them. -/
def dateForm : Pattern :=
  all [digit, digit, digit, digit, oneOf "-", digit, digit, oneOf "-", digit, digit]

/-- A date with the time of the day, and perhaps the distance from universal time. -/
def momentForm : Pattern :=
  let upToTwo := Pattern.sequence digit (optional digit)
  let blanks := Pattern.run fun c => c == ' ' || c == '\t'
  let zone := choice [oneOf "Z",
    all [oneOf "+-", upToTwo, optional (all [oneOf ":", digit, digit])]]
  all [digit, digit, digit, digit, oneOf "-", upToTwo, oneOf "-", upToTwo,
    choice [oneOf "Tt", some fun c => c == ' ' || c == '\t'], upToTwo, oneOf ":", digit, digit,
    oneOf ":", digit, digit, optional (all [oneOf ".", .run Char.isDigit]),
    optional (.sequence blanks zone)]

/-- A character of those with which a number may begin. -/
def beginsNumber (c : Char) : Bool := c.isDigit || c == '-' || c == '+'

/-- The tag of a plain scalar without one. -/
def resolve (modern : Bool) (text : List Char) : String :=
  let front (test : Char → Bool) := text.head?.any test
  let fits (p : Pattern) := p.accepts text
  if front Char.isAlpha && fits (truthForm modern) then coreTag "bool"
  else if front (fun c => beginsNumber c || c == '.') && fits (numberForm modern) then
    coreTag "float"
  else if front beginsNumber && fits (wholeForm modern) then coreTag "int"
  else if text == ['<', '<'] then coreTag "merge"
  else if text.isEmpty || text == ['~'] || fits (spelled "null") then coreTag "null"
  else if front Char.isDigit && (fits dateForm || fits momentForm) then coreTag "timestamp"
  else if text == ['='] then coreTag "value"
  else coreTag "str"

end Continuity.Yaml
