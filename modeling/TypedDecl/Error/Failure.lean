import TypedDecl.Error.Lex
import TypedDecl.Error.Parse

/-!
Why a source gives no program.
-/

namespace TypedDecl

inductive Failure where
  | lex (error : LexError)
  | parse (error : ParseError)
  /-- Every error that a recovering parse met. -/
  | recovered (errors : List ParseError)
  deriving DecidableEq

namespace Failure

def diagnostic : Failure → Diagnostic
  | .lex error => error.diagnostic
  | .parse error => error.diagnostic
  | .recovered errors =>
    { message := "found " ++ errors.length.repr ++ " errors while parsing"
      code := "idk::parse::recovered"
      related := errors.map ParseError.message }

end Failure

end TypedDecl
