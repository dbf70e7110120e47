import ImpFront.Token.Basic
import ImpFront.Scope.Entry

/-!
# Reading errors

Reading stops at the first error. An error is a token that the grammar does not allow
there, a scanning error met when pulling the next token, a name that cannot be resolved or
defined, a name of the wrong role, a type that does not fit, or a literal out of range.
Each error has a location and a message that starts with the kind of error and the
location.
-/

namespace ImpFront

/-- The ways reading fails. -/
inductive ParseError where
  /-- The lookahead token is none of the kinds the grammar allows there. -/
  | unexpectedToken (found : TokenKind) (lexeme : String) (expected : List TokenKind)
      (loc : Location)
  /-- Pulling a token met a scanning error. -/
  | lex (error : LexError)
  /-- No visible scope binds the name. -/
  | undefinedName (name : String) (loc : Location)
  /-- The current scope binds the name already. -/
  | duplicateName (name : String) (loc : Location)
  /-- A call of a name that is not a function. -/
  | notCallable (name : String) (role : Role) (loc : Location)
  /-- A read of a name that is not a variable. -/
  | notAVariable (name : String) (role : Role) (loc : Location)
  /-- A name used as a type that is not one. -/
  | notAType (name : String) (role : Role) (loc : Location)
  /-- A return whose type differs from the function's first return. -/
  | inconsistentReturnType (func : String) (loc : Location)
  /-- A function body without a return. -/
  | missingReturn (func : String) (loc : Location)
  /-- A call with the wrong number of arguments. -/
  | arityMismatch (func : String) (expected found : Nat) (loc : Location)
  /-- An expression of another type than the one required. -/
  | typeMismatch (expected found : String) (loc : Location)
  /-- An assignment to something other than a variable. -/
  | invalidAssignTarget (loc : Location)
  /-- A number literal that cannot be read, or is out of range. -/
  | invalidLiteral (lexeme : String) (loc : Location)
deriving DecidableEq, Repr, Inhabited

/-- How a message lists the kinds that were expected. -/
def TokenKind.listText : List TokenKind → String
  | [] => "nothing"
  | [k] => k.display
  | ks => "one of " ++ ", ".intercalate (ks.map TokenKind.display)

namespace ParseError

/-- Where the error is. -/
def loc : ParseError → Location
  | unexpectedToken _ _ _ l => l
  | lex e => e.loc
  | undefinedName _ l => l
  | duplicateName _ l => l
  | notCallable _ _ l => l
  | notAVariable _ _ l => l
  | notAType _ _ l => l
  | inconsistentReturnType _ l => l
  | missingReturn _ l => l
  | arityMismatch _ _ _ l => l
  | typeMismatch _ _ l => l
  | invalidAssignTarget l => l
  | invalidLiteral _ l => l

/-- The message of an error. -/
def message : ParseError → String
  | unexpectedToken found lexeme expected l =>
    "Parse error at " ++ l.render ++ ": unexpected " ++ Token.describe found lexeme ++
      ", expected " ++ TokenKind.listText expected
  | lex e => "Lexer error: " ++ e.message
  | undefinedName name l => "Name error at " ++ l.render ++ ": '" ++ name ++ "' is not defined"
  | duplicateName name l =>
    "Name error at " ++ l.render ++ ": '" ++ name ++ "' is already defined in this scope"
  | notCallable name role l =>
    "Name error at " ++ l.render ++ ": '" ++ name ++ "' is a " ++ role.text ++ ", not a function"
  | notAVariable name role l =>
    "Name error at " ++ l.render ++ ": '" ++ name ++ "' is a " ++ role.text ++ ", not a variable"
  | notAType name role l =>
    "Name error at " ++ l.render ++ ": '" ++ name ++ "' is a " ++ role.text ++ ", not a type"
  | inconsistentReturnType func l =>
    "Type error at " ++ l.render ++ ": return statements of '" ++ func ++
      "' disagree on the return type"
  | missingReturn func l =>
    "Type error at " ++ l.render ++ ": function '" ++ func ++ "' has no reachable return statement"
  | arityMismatch func expected found l =>
    "Type error at " ++ l.render ++ ": '" ++ func ++ "' takes " ++ toString expected ++
      " argument(s), got " ++ toString found
  | typeMismatch expected found l =>
    "Type error at " ++ l.render ++ ": expected '" ++ expected ++ "', found '" ++ found ++ "'"
  | invalidAssignTarget l => "Parse error at " ++ l.render ++ ": left side of '=' must be a variable"
  | invalidLiteral lexeme l => "Parse error at " ++ l.render ++ ": invalid literal '" ++ lexeme ++ "'"

end ParseError

end ImpFront
