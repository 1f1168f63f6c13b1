import TypedDecl.Error.Failure
import TypedDecl.Grammar.Program

/-!
Recovering parsing: an error is put on record, and reading goes on behind the next semicolon.
-/

namespace TypedDecl

/-- The declarations that could be read and the errors of the others, both in source order. -/
structure Recovered where
  program : Program
  errors : List ParseError
  deriving DecidableEq

namespace Recovered

def declared (declaration : Declaration) (recovered : Recovered) : Recovered :=
  ⟨recovered.program.cons declaration, recovered.errors⟩

def failed (error : ParseError) (recovered : Recovered) : Recovered :=
  ⟨recovered.program, error :: recovered.errors⟩

/-- One error stands for itself; several are gathered. -/
def toResult (recovered : Recovered) : Except Failure Program :=
  match recovered.errors with
  | [] => .ok recovered.program
  | [error] => .error (.parse error)
  | errors => .error (.recovered errors)

end Recovered

/-- What is left behind the next semicolon, or nothing but the end. -/
def TokenSequence.afterStatement (ts : TokenSequence) : TokenSequence :=
  ⟨(ts.body.dropWhile (·.kind ≠ .symbol .semicolon)).tail, ts.last,
    fun token mem => ts.body_ne_end token
      ((List.dropWhile_sublist _).mem (List.mem_of_mem_tail mem)),
    ts.last_eq_end⟩

theorem TokenSequence.afterStatement_isRestOf (ts : TokenSequence) :
    ts.afterStatement.IsRestOf ts :=
  ⟨(List.tail_suffix _).trans (List.dropWhile_suffix _), rfl⟩

theorem TokenSequence.length_afterStatement_le (ts : TokenSequence) :
    ts.afterStatement.body.length ≤ ts.body.length - 1 := by
  have := (List.dropWhile_suffix (·.kind ≠ .symbol .semicolon) : _ <:+ ts.body).length_le
  simp only [afterStatement, List.length_tail]
  omega

namespace Grammar

theorem length_afterStatement_lt {ts : TokenSequence} (more : ts.atEnd = false) :
    (statement ts).rest.afterStatement.body.length < ts.body.length := by
  have moved := (statement ts).rest.length_afterStatement_le
  have read := (goesForward_statement ts).length_le
  have := ts.length_advance_lt more
  omega

def programRecovering (ts : TokenSequence) : Reply Recovered :=
  if isEnd : ts.atEnd then ⟨⟨⟨[]⟩, []⟩, ts, []⟩
  else match read : (statement ts).value with
    | .ok declaration =>
      have := progresses_statement ts declaration read
      ((programRecovering (statement ts).rest).map (.declared declaration)).after
        (statement ts).events
    | .error error =>
      have := length_afterStatement_lt (by simpa using isEnd)
      ((programRecovering (statement ts).rest.afterStatement).map (.failed error)).after
        ((statement ts).events ++ [.recovering error])
termination_by ts.body.length

theorem programRecovering_isRestOf (ts : TokenSequence) :
    (programRecovering ts).rest.IsRestOf ts := by
  fun_induction programRecovering ts with
  | case1 ts => exact .refl ts
  | case2 ts _ declaration read _ ih => exact (goesForward_statement ts).trans ih
  | case3 ts _ error read _ ih =>
    exact (goesForward_statement ts).trans ((TokenSequence.afterStatement_isRestOf _).trans ih)

end Grammar

def parseRecovering (ts : TokenSequence) : Recovered := (Grammar.programRecovering ts).value

end TypedDecl
