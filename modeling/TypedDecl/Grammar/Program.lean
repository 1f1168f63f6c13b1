import TypedDecl.Grammar.Declaration

/-!
Strict parsing: statements up to the end of input, and the first error ends it.
-/

namespace TypedDecl

def Program.cons (declaration : Declaration) (program : Program) : Program :=
  ⟨declaration :: program.declarations⟩

namespace Grammar

def program (ts : TokenSequence) : Reply (Except ParseError Program) :=
  if ts.atEnd then ⟨.ok ⟨[]⟩, ts, []⟩
  else match read : (statement ts).value with
    | .error error => ⟨.error error, (statement ts).rest, (statement ts).events⟩
    | .ok declaration =>
      have := progresses_statement ts declaration read
      ((program (statement ts).rest).map (·.map (.cons declaration))).after (statement ts).events
termination_by ts.body.length

theorem program_isRestOf (ts : TokenSequence) : (program ts).rest.IsRestOf ts := by
  fun_induction program ts with
  | case1 ts => exact .refl ts
  | case2 ts => exact goesForward_statement ts
  | case3 ts _ declaration read _ ih => exact (goesForward_statement ts).trans ih

end Grammar

def parse (ts : TokenSequence) : Except ParseError Program := (Grammar.program ts).value

end TypedDecl
