import TypedDecl.Proofs.Grammar.FirstError

/-!
What errors report.  An error is about one token, and tells its place and its kind.  A recovering
run goes on behind the token it has reported, so its errors are about later and later tokens.
-/

namespace TypedDecl

/-- The error tells the place of the token, and its kind or the kind of literal it is. -/
inductive ParseError.PointsAt : ParseError → Token → Prop where
  | unexpected {wanted token} : PointsAt (.unexpected wanted token.kind token.offset) token
  | mismatch {declared literal token} : token.kind.literalKind? = some literal →
      PointsAt (.typeMismatch declared literal token.offset) token

theorem ParseError.PointsAt.offset_eq {error : ParseError} {token : Token}
    (points : error.PointsAt token) : error.offset = token.offset := by
  cases points <;> rfl

theorem Refusal.pointsAt {begun : List Token} {token : Token} {error : ParseError}
    (refused : Refusal begun token error) : error.PointsAt token := by
  cases refused with
  | unexpected => exact .unexpected
  | mismatch _ _ literal _ => exact .mismatch literal

namespace TokenSequence

theorem IsRestOf.toList_suffix {rest ts : TokenSequence} (isRest : rest.IsRestOf ts) :
    rest.toList <:+ ts.toList := by
  obtain ⟨⟨front, body⟩, last⟩ := isRest
  refine ⟨front, ?_⟩
  rw [toList, toList, ← body, last, List.append_assoc]

theorem StartsWith.isRestOf {ts rest : TokenSequence} {tokens : List Token}
    (starts : ts.StartsWith tokens rest) : rest.IsRestOf ts :=
  ⟨⟨tokens, starts.1.symm⟩, starts.2⟩

/-- Whatever the first token is, the next statement begins behind it. -/
theorem afterStatement_isRestOf_advance (ts : TokenSequence) :
    ts.afterStatement.IsRestOf ts.advance := by
  by_cases semicolon : ts.first.kind = .symbol .semicolon
  · rw [afterStatement_of_semicolon semicolon]
    exact .refl _
  · rw [afterStatement_of_ne semicolon]
    exact ts.advance.afterStatement_isRestOf

theorem toList_of_more {ts : TokenSequence} (more : ts.atEnd = false) :
    ts.toList = ts.first :: ts.advance.toList := by
  cases ts using TokenSequence.induction with
  | ofEnd last isEnd => simp at more
  | cons token notEnd ts => rfl

end TokenSequence

section Sublists

variable {errors : List ParseError} {error : ParseError} {ts rest : TokenSequence}

theorem sublistForall₂_of_isRestOf (isRest : rest.IsRestOf ts)
    (reported : List.SublistForall₂ ParseError.PointsAt errors rest.toList) :
    List.SublistForall₂ ParseError.PointsAt errors ts.toList := by
  obtain ⟨tokens, each, inside⟩ := List.sublistForall₂_iff.mp reported
  apply List.sublistForall₂_iff.mpr
  exact ⟨tokens, each, inside.trans isRest.toList_suffix.sublist⟩

theorem exists_token_of_sublistForall₂ {tokens : List Token}
    (reported : List.SublistForall₂ ParseError.PointsAt errors tokens) (mem : error ∈ errors) :
    ∃ token ∈ tokens, error.PointsAt token := by
  induction reported with
  | nil => cases mem
  | cons points _ ih =>
    rcases List.mem_cons.mp mem with rfl | mem
    · exact ⟨_, List.mem_cons_self, points⟩
    · obtain ⟨token, found, points⟩ := ih mem
      exact ⟨token, List.mem_cons_of_mem _ found, points⟩
  | cons_right _ ih =>
    obtain ⟨token, found, points⟩ := ih mem
    exact ⟨token, List.mem_cons_of_mem _ found, points⟩

/-- A reported token is followed by the next statement, unless it is the end. -/
theorem sublistForall₂_cons_of_first (points : error.PointsAt ts.first)
    (reported : List.SublistForall₂ ParseError.PointsAt errors ts.afterStatement.toList)
    (done : ts.afterStatement.atEnd = true → errors = []) :
    List.SublistForall₂ ParseError.PointsAt (error :: errors) ts.toList := by
  cases isEnd : ts.atEnd with
  | true =>
    have none : ts.afterStatement.atEnd = true := by
      rw [TokenSequence.atEnd_iff] at isEnd ⊢
      simp [TokenSequence.afterStatement, isEnd]
    obtain ⟨later, spelled⟩ := ts.toList_eq_cons
    rw [done none, spelled]
    exact .cons points .nil
  | false =>
    rw [TokenSequence.toList_of_more isEnd]
    apply List.SublistForall₂.cons points
    exact sublistForall₂_of_isRestOf ts.afterStatement_isRestOf_advance reported

end Sublists

/-- A recovering run reports tokens of the sequence, and each one behind the one before. -/
theorem sublistForall₂_errors (ts : TokenSequence) :
    List.SublistForall₂ ParseError.PointsAt (parseRecovering ts).errors ts.toList := by
  rw [parseRecovering_eq]
  fun_induction outcomes ts with
  | case1 ts isEnd => exact .nil
  | case2 ts more _ ih =>
    rw [Bool.not_eq_true] at more
    cases read : (Grammar.statement ts).value with
    | ok declaration => exact sublistForall₂_of_isRestOf ts.afterStatement_isRestOf ih
    | error error =>
      obtain ⟨begun, wanted, rest, opening, starts, refused⟩ :=
        Grammar.refusal_of_statement more read
      have same := starts.afterStatement_of_free opening.semicolonFree
      rw [← same] at ih ⊢
      apply sublistForall₂_of_isRestOf starts.isRestOf
      apply sublistForall₂_cons_of_first refused.pointsAt ih
      intro isEnd
      rw [outcomes_of_atEnd isEnd]
      rfl

theorem exists_token_of_mem_errors {ts : TokenSequence} {error : ParseError}
    (mem : error ∈ (parseRecovering ts).errors) : ∃ token ∈ ts.toList, error.PointsAt token :=
  exists_token_of_sublistForall₂ (sublistForall₂_errors ts) mem

theorem mem_errors_of_parse {ts : TokenSequence} {error : ParseError}
    (failed : parse ts = .error error) : error ∈ (parseRecovering ts).errors := by
  rw [parse_eq_first_error] at failed
  cases found : (parseRecovering ts).errors with
  | nil => simp [found] at failed
  | cons first errors =>
    obtain rfl : first = error := by simpa [found] using failed
    exact List.mem_cons_self

end TypedDecl
