import TypedDecl.Diagnostic

/-!
Lexical faults: text at which no token can be read.
-/

namespace TypedDecl

inductive LexError where
  | invalidCharacter (c : Char) (offset : Nat)
  | unterminatedString (offset : Nat)
  | malformedNumber (lexeme : String) (offset : Nat)
  deriving DecidableEq

namespace LexError

def offset : LexError → Nat
  | .invalidCharacter _ offset => offset
  | .unterminatedString offset => offset
  | .malformedNumber _ offset => offset

def message : LexError → String
  | .invalidCharacter c _ => "invalid character '" ++ String.singleton c ++ "'"
  | .unterminatedString _ => "unterminated string literal"
  | .malformedNumber lexeme _ => "malformed numeric literal '" ++ lexeme ++ "'"

def code : LexError → String
  | .invalidCharacter .. => "idk::lex::invalid_character"
  | .unterminatedString _ => "idk::lex::unterminated_string"
  | .malformedNumber .. => "idk::lex::malformed_number"

def help : LexError → Option String
  | .invalidCharacter .. => none
  | .unterminatedString _ => some "add a closing '\"' before the end of the file"
  | .malformedNumber .. => some "a number may contain at most one '.'"

def remark : LexError → String
  | .invalidCharacter .. => "not part of any token"
  | .unterminatedString _ => "string starts here"
  | .malformedNumber .. => "more than one '.'"

def diagnostic (error : LexError) : Diagnostic where
  message := error.message
  code := error.code
  help := error.help
  labels := [⟨error.remark, error.offset⟩]

end LexError

end TypedDecl
