import TypedDecl.Token.Sequence
import TypedDecl.Text.Columns

/-!
The table of a token sequence: one line per token, with its offset, the name of its kind and
its text.
-/

namespace TypedDecl

open Text

def Token.row (token : Token) : String :=
  alignRight 5 token.offset.repr ++ "  " ++ alignLeft 16 token.kind.name ++ " " ++ token.text

def TokenSequence.dump (ts : TokenSequence) : String :=
  "\n".intercalate (ts.toList.map Token.row)

end TypedDecl
