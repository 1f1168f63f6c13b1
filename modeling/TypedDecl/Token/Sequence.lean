import TypedDecl.Token.Basic
import TypedDecl.Error.Sequence

/-!
Token sequences: the tokens of a source, then one end of input.  Whatever is left of a sequence
is a sequence again, so a reader that moves through one always has a token to look at.
-/

namespace TypedDecl

structure TokenSequence where
  body : List Token
  last : Token
  body_ne_end : ∀ token ∈ body, token.kind ≠ .endOfInput
  last_eq_end : last.kind = .endOfInput
  deriving DecidableEq

namespace TokenSequence

/-- The sequence that holds nothing but the end. -/
def ofEnd (last : Token) (isEnd : last.kind = .endOfInput) : TokenSequence :=
  ⟨[], last, Token.not_isEnd_of_mem_nil, isEnd⟩

def cons (token : Token) (notEnd : token.kind ≠ .endOfInput) (ts : TokenSequence) :
    TokenSequence :=
  ⟨token :: ts.body, ts.last, List.forall_mem_cons.mpr ⟨notEnd, ts.body_ne_end⟩,
    ts.last_eq_end⟩

@[elab_as_elim, induction_eliminator]
theorem induction {motive : TokenSequence → Prop}
    (ofEnd : ∀ last isEnd, motive (ofEnd last isEnd))
    (cons : ∀ token notEnd ts, motive ts → motive (cons token notEnd ts))
    (ts : TokenSequence) : motive ts := by
  obtain ⟨body, last, body_ne_end, last_eq_end⟩ := ts
  induction body with
  | nil => exact ofEnd last last_eq_end
  | cons token body ih =>
    have ⟨notEnd, others⟩ := List.forall_mem_cons.mp body_ne_end
    exact cons token notEnd ⟨body, last, others, last_eq_end⟩ (ih others)

def toList (ts : TokenSequence) : List Token := ts.body ++ [ts.last]

def length (ts : TokenSequence) : Nat := ts.toList.length

def kinds (ts : TokenSequence) : List TokenKind := ts.toList.map Token.kind

/-- The token a reader looks at. -/
def first (ts : TokenSequence) : Token := ts.body.head?.getD ts.last

def atEnd (ts : TokenSequence) : Bool := ts.first.isEnd

/-- What is left after the first token.  The end is never passed. -/
def advance (ts : TokenSequence) : TokenSequence :=
  ⟨ts.body.tail, ts.last, fun token mem => ts.body_ne_end token (List.mem_of_mem_tail mem),
    ts.last_eq_end⟩

section Views

variable (last : Token) (isEnd : last.kind = .endOfInput)
  (token : Token) (notEnd : token.kind ≠ .endOfInput) (ts : TokenSequence)

@[simp] theorem body_ofEnd : (ofEnd last isEnd).body = [] := rfl
@[simp] theorem body_cons : (cons token notEnd ts).body = token :: ts.body := rfl
@[simp] theorem last_ofEnd : (ofEnd last isEnd).last = last := rfl
@[simp] theorem last_cons : (cons token notEnd ts).last = ts.last := rfl
@[simp] theorem toList_ofEnd : (ofEnd last isEnd).toList = [last] := rfl
@[simp] theorem toList_cons : (cons token notEnd ts).toList = token :: ts.toList := rfl
@[simp] theorem first_ofEnd : (ofEnd last isEnd).first = last := rfl
@[simp] theorem first_cons : (cons token notEnd ts).first = token := rfl
@[simp] theorem advance_ofEnd : (ofEnd last isEnd).advance = ofEnd last isEnd := rfl
@[simp] theorem advance_cons : (cons token notEnd ts).advance = ts := rfl
@[simp] theorem atEnd_ofEnd : (ofEnd last isEnd).atEnd = true := by simpa [atEnd] using isEnd
@[simp] theorem atEnd_cons : (cons token notEnd ts).atEnd = false := by simpa [atEnd] using notEnd
@[simp] theorem body_advance : ts.advance.body = ts.body.tail := rfl
@[simp] theorem last_advance : ts.advance.last = ts.last := rfl

end Views

theorem atEnd_iff {ts : TokenSequence} : ts.atEnd = true ↔ ts.body = [] := by
  cases ts using induction <;> simp

theorem length_advance_lt {ts : TokenSequence} (more : ts.atEnd = false) :
    ts.advance.body.length < ts.body.length := by
  cases ts using induction <;> simp_all

/-- A reader that started with the second sequence may come to stand at the first. -/
def IsRestOf (rest ts : TokenSequence) : Prop := rest.body <:+ ts.body ∧ rest.last = ts.last

theorem IsRestOf.refl (ts : TokenSequence) : ts.IsRestOf ts := ⟨List.suffix_rfl, rfl⟩

theorem IsRestOf.trans {first second third : TokenSequence} (early : second.IsRestOf third)
    (late : first.IsRestOf second) : first.IsRestOf third :=
  ⟨late.1.trans early.1, late.2.trans early.2⟩

theorem IsRestOf.length_le {rest ts : TokenSequence} (isRest : rest.IsRestOf ts) :
    rest.body.length ≤ ts.body.length := isRest.1.length_le

theorem advance_isRestOf (ts : TokenSequence) : ts.advance.IsRestOf ts :=
  ⟨List.tail_suffix ts.body, rfl⟩

private theorem kind_ne_of_mem_takeWhile {tokens : List Token} {token : Token}
    (mem : token ∈ tokens.takeWhile (!·.isEnd)) : token.kind ≠ .endOfInput := by
  simpa using List.all_eq_true.mp List.all_takeWhile token mem

private theorem kind_eq_of_dropWhile_eq_cons {tokens later : List Token} {token : Token}
    (found : tokens.dropWhile (!·.isEnd) = token :: later) : token.kind = .endOfInput := by
  have stop := List.head?_dropWhile_not (!·.isEnd) tokens
  simpa [found] using stop

/-- The body is what comes before the first end of input, and nothing may come after it. -/
def ofTokens (tokens : List Token) : Except SequenceError TokenSequence :=
  match found : tokens.dropWhile (!·.isEnd) with
  | [] => .error .missingEnd
  | [last] => .ok ⟨tokens.takeWhile (!·.isEnd), last, fun _ => kind_ne_of_mem_takeWhile,
      kind_eq_of_dropWhile_eq_cons found⟩
  | _ :: later => .error (if later.any Token.isEnd then .duplicateEnd else .missingEnd)

end TokenSequence

end TypedDecl
