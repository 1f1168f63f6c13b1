import TypedDecl.Diagnostic

/-!
Why a list of tokens is no token sequence.
-/

namespace TypedDecl

inductive SequenceError where
  | missingEnd
  | duplicateEnd
  deriving DecidableEq

namespace SequenceError

def message : SequenceError → String
  | .missingEnd => "token sequence does not end with end of input"
  | .duplicateEnd => "token sequence contains more than one end of input"

def code : SequenceError → String
  | .missingEnd => "idk::tokens::missing_eof"
  | .duplicateEnd => "idk::tokens::duplicate_eof"

def diagnostic (error : SequenceError) : Diagnostic where
  message := error.message
  code := error.code

end SequenceError

end TypedDecl
