import TypedDecl.Error.Failure
import TypedDecl.Program
import TypedDecl.Token.Sequence

/-!
Other places and other lexemes for the same tokens.  A relabeling keeps the kinds of the tokens, and
goes through everything that is made of them.
-/

namespace TypedDecl

structure Relabeling where
  place : Nat → Nat
  spelling : String → String

namespace Relabeling

/-- All places so many bytes further on. -/
def shift (bytes : Nat) : Relabeling := ⟨(bytes + ·), id⟩

/-- The same texts at other places. -/
def move (place : Nat → Nat) : Relabeling := ⟨place, id⟩

variable (f : Relabeling)

def token (token : Token) : Token := ⟨token.kind, f.spelling token.lexeme, f.place token.offset⟩

@[simp] theorem kind_token (token : Token) : (f.token token).kind = token.kind := rfl

@[simp] theorem lexeme_token (token : Token) :
    (f.token token).lexeme = f.spelling token.lexeme := rfl

@[simp] theorem offset_token (token : Token) :
    (f.token token).offset = f.place token.offset := rfl

def sequence (ts : TokenSequence) : TokenSequence where
  body := ts.body.map f.token
  last := f.token ts.last
  body_ne_end := by simpa using ts.body_ne_end
  last_eq_end := ts.last_eq_end

@[simp] theorem body_sequence (ts : TokenSequence) :
    (f.sequence ts).body = ts.body.map f.token := rfl

@[simp] theorem last_sequence (ts : TokenSequence) :
    (f.sequence ts).last = f.token ts.last := rfl

@[simp] theorem toList_sequence (ts : TokenSequence) :
    (f.sequence ts).toList = ts.toList.map f.token := by
  simp [TokenSequence.toList]

@[simp] theorem first_sequence (ts : TokenSequence) :
    (f.sequence ts).first = f.token ts.first := by
  cases ts using TokenSequence.induction <;> rfl

@[simp] theorem atEnd_sequence (ts : TokenSequence) : (f.sequence ts).atEnd = ts.atEnd := by
  simp only [TokenSequence.atEnd, first_sequence]
  rfl

/-- A truth value is no text, and is kept. -/
def literal : Literal → Literal
  | .integer digits => .integer (f.spelling digits)
  | .floating digits => .floating (f.spelling digits)
  | .truth value => .truth value
  | .quoted content => .quoted (f.spelling content)

@[simp] theorem kind_literal (value : Literal) : (f.literal value).kind = value.kind := by
  cases value <;> rfl

def declaration (declaration : Declaration) : Declaration :=
  ⟨declaration.type, f.spelling declaration.name, f.literal declaration.initializer⟩

def parseError : ParseError → ParseError
  | .unexpected wanted found offset => .unexpected wanted found (f.place offset)
  | .typeMismatch declared literal offset => .typeMismatch declared literal (f.place offset)

def lexError : LexError → LexError
  | .invalidCharacter c offset => .invalidCharacter c (f.place offset)
  | .unterminatedString offset => .unterminatedString (f.place offset)
  | .malformedNumber lexeme offset => .malformedNumber (f.spelling lexeme) (f.place offset)

def failure : Failure → Failure
  | .lex error => .lex (f.lexError error)
  | .parse error => .parse (f.parseError error)
  | .recovered errors => .recovered (errors.map f.parseError)

/-- Declarations have no places. -/
@[simp] theorem declaration_move (place : Nat → Nat) : (move place).declaration = id := by
  funext declaration
  obtain ⟨type, name, initializer⟩ := declaration
  cases initializer <;> rfl

@[simp] theorem declaration_shift (bytes : Nat) : (shift bytes).declaration = id :=
  declaration_move (bytes + ·)

end Relabeling

end TypedDecl
