import TypedDecl.Token.Lexer
import TypedDecl.Token.Sequence

/-!
A scan reads a whole source: its tokens, then the end of input or the first lexical fault.
-/

namespace TypedDecl

structure Scan where
  body : List Token
  stop : Except LexError Token
  body_ne_end : ∀ token ∈ body, token.kind ≠ .endOfInput
  stop_eq_end : ∀ last, stop = .ok last → last.kind = .endOfInput

namespace Scan

def ofFault (error : LexError) : Scan :=
  ⟨[], .error error, Token.not_isEnd_of_mem_nil, fun _ same => nomatch same⟩

def ofEnd (last : Token) (isEnd : last.kind = .endOfInput) : Scan :=
  ⟨[], .ok last, Token.not_isEnd_of_mem_nil, fun _ same => Except.ok.inj same ▸ isEnd⟩

def cons (token : Token) (notEnd : token.kind ≠ .endOfInput) (scan : Scan) : Scan :=
  ⟨token :: scan.body, scan.stop, List.forall_mem_cons.mpr ⟨notEnd, scan.body_ne_end⟩,
    scan.stop_eq_end⟩

/-- Every token that was read, the end included where it was reached. -/
def tokens (scan : Scan) : List Token :=
  scan.body ++ match scan.stop with
    | .ok last => [last]
    | .error _ => []

def sequence (scan : Scan) : Except LexError TokenSequence :=
  match stop : scan.stop with
  | .ok last => .ok ⟨scan.body, last, scan.body_ne_end, scan.stop_eq_end last stop⟩
  | .error error => .error error

section Views

variable (error : LexError) (last : Token) (isEnd : last.kind = .endOfInput)
  (token : Token) (notEnd : token.kind ≠ .endOfInput) (scan : Scan)

@[simp] theorem tokens_ofFault : (ofFault error).tokens = [] := rfl
@[simp] theorem tokens_ofEnd : (ofEnd last isEnd).tokens = [last] := rfl
@[simp] theorem tokens_cons : (cons token notEnd scan).tokens = token :: scan.tokens := rfl
@[simp] theorem sequence_ofFault : (ofFault error).sequence = .error error := rfl
@[simp] theorem sequence_ofEnd :
    (ofEnd last isEnd).sequence = .ok (TokenSequence.ofEnd last isEnd) := rfl

@[simp] theorem sequence_cons :
    (cons token notEnd scan).sequence = scan.sequence.map (TokenSequence.cons token notEnd) := by
  obtain ⟨body, stop, _, _⟩ := scan
  cases stop <;> rfl

end Views

theorem tokens_of_sequence {scan : Scan} {ts : TokenSequence} (found : scan.sequence = .ok ts) :
    scan.tokens = ts.toList := by
  obtain ⟨body, stop, _, _⟩ := scan
  cases stop with
  | error error => cases found
  | ok last => cases found; rfl

end Scan

/-- Read to the end of input or the first fault. -/
def Lexer.scan (lexer : Lexer) : Scan :=
  match read : lexer.next.1 with
  | .error error => .ofFault error
  | .ok token =>
    if isEnd : token.kind = .endOfInput then .ofEnd token isEnd
    else
      have := length_next_lt read isEnd
      .cons token isEnd lexer.next.2.scan
termination_by lexer.rest.length

def scan (source : String) : Scan := (Lexer.ofSource source).scan

def tokenize (source : String) : Except LexError TokenSequence := (scan source).sequence

end TypedDecl
