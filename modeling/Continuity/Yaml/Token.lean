/-! # Tokens of YAML -/

namespace Continuity.Yaml

/-- The kinds of tokens. Collections in block style are opened and closed by tokens of their own,
which indentation decides. -/
inductive TokenKind where
  | version (major minor : Nat)
  | tagHandle (handle replacement : String)
  | otherDirective
  | documentStart
  | documentEnd
  | streamEnd
  | blockSequence
  | blockMapping
  | blockEnd
  | openBracket
  | closeBracket
  | openBrace
  | closeBrace
  | entry
  | comma
  | key
  | value
  | alias (name : String)
  | anchor (name : String)
  /-- A tag without a handle stands for itself. -/
  | tag (handle : Option String) (name : String)
  | scalar (plain : Bool) (text : String)
  deriving Repr, DecidableEq, Inhabited

/-- A token and the line on which it begins. -/
structure Token where
  kind : TokenKind
  line : Nat
  deriving Repr, DecidableEq, Inhabited

/-- The name of a kind of token in messages. -/
def TokenKind.name : TokenKind → String
  | .version .. | .tagHandle .. | .otherDirective => "<directive>"
  | .documentStart => "<document start>"
  | .documentEnd => "<document end>"
  | .streamEnd => "<stream end>"
  | .blockSequence => "<block sequence start>"
  | .blockMapping => "<block mapping start>"
  | .blockEnd => "<block end>"
  | .openBracket => "["
  | .closeBracket => "]"
  | .openBrace => "\x7b"
  | .closeBrace => "\x7d"
  | .entry => "-"
  | .comma => ","
  | .key => "?"
  | .value => ":"
  | .alias .. => "<alias>"
  | .anchor .. => "<anchor>"
  | .tag .. => "<tag>"
  | .scalar .. => "<scalar>"

end Continuity.Yaml
