/-!
# Token kinds

The kinds of token of the language: operators and punctuation, the six keywords, the four
kinds of literal, identifiers, and the end of the input. Each kind has a display text, used
in error messages: a symbol or keyword is shown in single quotes, the other kinds by a name.
-/

namespace ImpFront

/-- The kinds of token. -/
inductive TokenKind where
  | plus | minus | star | slash
  | lParen | rParen | lBrace | rBrace | lBracket | rBracket
  | comma | colon | semicolon | dot
  | eq | bang | lt | gt | eqEq | notEq | le | ge | andAnd | orOr
  | ifKw | elseKw | whileKw | forKw | returnKw | varKw
  | boolLit | intLit | floatLit | stringLit | ident | eof
deriving DecidableEq, Repr, Inhabited

namespace TokenKind

/-- The text that names a kind in messages: a quoted symbol or keyword, or a name. -/
def display : TokenKind → String
  | plus => "'+'"
  | minus => "'-'"
  | star => "'*'"
  | slash => "'/'"
  | lParen => "'('"
  | rParen => "')'"
  | lBrace => "'\x7b'"
  | rBrace => "'\x7d'"
  | lBracket => "'['"
  | rBracket => "']'"
  | comma => "','"
  | colon => "':'"
  | semicolon => "';'"
  | dot => "'.'"
  | eq => "'='"
  | bang => "'!'"
  | lt => "'<'"
  | gt => "'>'"
  | eqEq => "'=='"
  | notEq => "'!='"
  | le => "'<='"
  | ge => "'>='"
  | andAnd => "'&&'"
  | orOr => "'||'"
  | ifKw => "'if'"
  | elseKw => "'else'"
  | whileKw => "'while'"
  | forKw => "'for'"
  | returnKw => "'return'"
  | varKw => "'var'"
  | boolLit => "bool literal"
  | intLit => "int literal"
  | floatLit => "float literal"
  | stringLit => "string literal"
  | ident => "identifier"
  | eof => "end of file"

/-- The kinds that can start an expression: a literal, a name, or an opening parenthesis. -/
def exprStart : List TokenKind :=
  [intLit, floatLit, boolLit, stringLit, ident, lParen]

/--
The kind of a word made of letters, digits and underscores: one of the six keywords, a
boolean literal for "true" and "false", and an identifier otherwise.
-/
def ofWord (w : String) : TokenKind :=
  if w = "if" then ifKw
  else if w = "else" then elseKw
  else if w = "while" then whileKw
  else if w = "for" then forKw
  else if w = "return" then returnKw
  else if w = "var" then varKw
  else if w = "true" ∨ w = "false" then boolLit
  else ident

end TokenKind

end ImpFront
