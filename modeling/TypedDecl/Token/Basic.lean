import TypedDecl.Token.Kind

/-!
Tokens: classified pieces of a source text.
-/

namespace TypedDecl

/-- The lexeme of a string literal leaves out its quotes; the offset counts the bytes before
the token. -/
structure Token where
  kind : TokenKind
  lexeme : String
  offset : Nat
  deriving DecidableEq

namespace Token

/-- The characters the token is read from. -/
def text (token : Token) : String :=
  if token.kind = .quoted then "\"" ++ token.lexeme ++ "\"" else token.lexeme

/-- The number of bytes the token takes up in its source. -/
def extent (token : Token) : Nat :=
  if token.kind = .quoted then token.lexeme.utf8ByteSize + 2 else token.lexeme.utf8ByteSize

def isEnd (token : Token) : Bool := token.kind = .endOfInput

@[simp] theorem isEnd_eq_true {token : Token} :
    token.isEnd = true ↔ token.kind = .endOfInput := by simp [isEnd]

@[simp] theorem isEnd_eq_false {token : Token} :
    token.isEnd = false ↔ token.kind ≠ .endOfInput := by simp [isEnd]

theorem not_isEnd_of_mem_nil : ∀ token ∈ ([] : List Token), token.kind ≠ .endOfInput := nofun

theorem utf8ByteSize_text (token : Token) : token.text.utf8ByteSize = token.extent := by
  unfold text extent
  split
  · have quote : ("\"" : String).utf8ByteSize = 1 := by decide
    simp only [String.utf8ByteSize_append, quote]
    omega
  · rfl

end Token

end TypedDecl
