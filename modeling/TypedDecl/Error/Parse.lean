import TypedDecl.Diagnostic
import TypedDecl.Token.Kind

/-!
Faults of grammar: a token other than the one a declaration needs next, or a literal that does
not fit the declared type.
-/

namespace TypedDecl

/-- What the grammar needs next. -/
inductive Expectation where
  | declaration
  | identifier
  | equals
  | literal
  | semicolon
  deriving DecidableEq

inductive ParseError where
  | unexpected (wanted : Expectation) (found : TokenKind) (offset : Nat)
  | typeMismatch (declared : Ty) (literal : LiteralKind) (offset : Nat)
  deriving DecidableEq

namespace ParseError

def offset : ParseError → Nat
  | .unexpected _ _ offset => offset
  | .typeMismatch _ _ offset => offset

def message : ParseError → String
  | .unexpected .declaration found _ => "unexpected " ++ found.describe ++ " at top level"
  | .unexpected .identifier found _ => "expected an identifier, found " ++ found.describe
  | .unexpected .equals found _ => "expected '=', found " ++ found.describe
  | .unexpected .literal found _ =>
      "invalid expression: " ++ found.describe ++ " is not a literal"
  | .unexpected .semicolon found _ =>
      "expected ';' at the end of the statement, found " ++ found.describe
  | .typeMismatch declared literal _ =>
      "type mismatch: cannot initialize '" ++ declared.keyword ++ "' with " ++ literal.describe

def code : ParseError → String
  | .unexpected .declaration .. => "idk::parse::unexpected_token"
  | .unexpected .identifier .. => "idk::parse::expected_identifier"
  | .unexpected .equals .. => "idk::parse::expected_equals"
  | .unexpected .literal .. => "idk::parse::invalid_expression"
  | .unexpected .semicolon .. => "idk::parse::expected_semicolon"
  | .typeMismatch .. => "idk::parse::type_mismatch"

def help : ParseError → Option String
  | .unexpected .declaration .. =>
      some "a statement starts with one of the types int, float, bool or string"
  | .unexpected .literal .. => some "initializers are number, boolean or string literals"
  | .unexpected .. => none
  | .typeMismatch .. =>
      some "literals are never converted; write a literal of the declared type"

def remark : ParseError → String
  | .unexpected .declaration .. => "expected a declaration"
  | .unexpected .identifier .. => "variable name expected here"
  | .unexpected .equals .. => "'=' expected here"
  | .unexpected .literal .. => "literal expected here"
  | .unexpected .semicolon .. => "';' expected here"
  | .typeMismatch .. => "literal of another type"

def diagnostic (error : ParseError) : Diagnostic where
  message := error.message
  code := error.code
  help := error.help
  labels := [⟨error.remark, error.offset⟩]

end ParseError

end TypedDecl
