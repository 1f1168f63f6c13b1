import TypedDecl.Proofs.Grammar.Outcomes

/-!
Recovery keeps to segments: what a recovering run makes of a segment is what a strict run would
make of that segment alone, and the tokens behind the last semicolon are one statement more.
-/

namespace TypedDecl

/-- Parse some of the tokens of a sequence by themselves, with an end of input behind them. -/
def parseAlone (tokens : List Token) (last : Token) :
    Except SequenceError (Except ParseError Program) :=
  (TokenSequence.ofTokens (tokens ++ [last])).map parse

/-- A segment is a declaration, or it is refused with the error that it has by itself. -/
inductive Verdict (segment : List Token) : Outcome → Prop where
  | declared {declaration} : Group segment declaration → Verdict segment (.ok declaration)
  | refused {error} : (∀ declaration, ¬ Group segment declaration) →
      (∀ last : Token, last.kind = .endOfInput → parseAlone segment last = .ok (.error error)) →
      Verdict segment (.error error)

/-- Tokens that no semicolon ends are refused, if there are any. -/
inductive TailVerdict (last : Token) : List Token → List ParseError → Prop where
  | nothing : TailVerdict last [] []
  | refused {tail error} : tail ≠ [] → parseAlone tail last = .ok (.error error) →
      TailVerdict last tail [error]

namespace TokenSequence

theorem ofTokens_toList (ts : TokenSequence) : ofTokens ts.toList = .ok ts := by
  have body : ∀ token ∈ ts.body, (!token.isEnd) = true := by simpa using ts.body_ne_end
  have isEnd : ts.last.isEnd = true := by simpa using ts.last_eq_end
  have dropped : ts.toList.dropWhile (!·.isEnd) = [ts.last] := by
    simp [toList, List.dropWhile_append_of_pos body, isEnd]
  have taken : ts.toList.takeWhile (!·.isEnd) = ts.body := by
    simp [toList, List.takeWhile_append_of_pos body, isEnd]
  unfold ofTokens
  split
  · next found => cases dropped.symm.trans found
  · next found =>
    cases dropped.symm.trans found
    exact congrArg Except.ok (eq_of_body_last taken rfl)
  · next first later other found =>
    rw [dropped, List.cons.injEq] at found
    exact absurd found.2.symm other

/-- Tokens of a sequence are the body of a sequence of their own, whatever its end. -/
theorem StartsWith.exists_alone {ts rest : TokenSequence} {tokens : List Token} {last : Token}
    (starts : ts.StartsWith tokens rest) (isEnd : last.kind = .endOfInput) :
    ∃ alone : TokenSequence, alone.StartsWith tokens (ofEnd last isEnd) :=
  ⟨⟨tokens, last, fun token mem => ts.body_ne_end token (by simp [starts.1, mem]), isEnd⟩,
    by simp [StartsWith]⟩

end TokenSequence

theorem parseAlone_of_failed {ts : TokenSequence} {error : ParseError} (more : ts.atEnd = false)
    (failed : (Grammar.statement ts).value = .error error) :
    parseAlone ts.body ts.last = .ok (.error error) := by
  rw [parseAlone, ← TokenSequence.toList, TokenSequence.ofTokens_toList, Except.map, parse,
    Grammar.program_of_error more failed]

theorem verdict_of_segment {ts rest : TokenSequence} {segment : List Token}
    (isSegment : Segment segment) (starts : ts.StartsWith segment rest) :
    Verdict segment (Grammar.statement ts).value := by
  cases read : (Grammar.statement ts).value with
  | ok declaration =>
    obtain ⟨group, isGroup, begins⟩ := Grammar.group_of_statement read
    have same : (Grammar.statement ts).rest = rest :=
      (begins.afterStatement_eq isGroup.segment).symm.trans (starts.afterStatement_eq isSegment)
    rw [same] at begins
    obtain rfl := List.append_cancel_right (begins.1.symm.trans starts.1)
    exact .declared isGroup
  | error error =>
    apply Verdict.refused
    · intro declaration isGroup
      rw [Grammar.statement_of_group isGroup starts] at read
      cases read
    · intro last isEnd
      obtain ⟨alone, there⟩ := starts.exists_alone isEnd
      have again := Grammar.statement_fails_elsewhere isSegment starts there read
      have body : alone.body = segment := by simpa using there.1
      have more : alone.atEnd = false := by
        rw [← Bool.not_eq_true, TokenSequence.atEnd_iff, body]
        exact isSegment.ne_nil
      have parsed := parseAlone_of_failed more again
      rwa [body, ← there.2] at parsed

/-- A declaration needs a semicolon. -/
theorem failed_of_semicolonFree {ts : TokenSequence} (free : SemicolonFree ts.body) :
    ∃ error, (Grammar.statement ts).value = .error error := by
  cases read : (Grammar.statement ts).value with
  | error error => exact ⟨error, rfl⟩
  | ok declaration =>
    obtain ⟨_, isGroup, starts⟩ := Grammar.group_of_statement read
    obtain ⟨_, _, _, _, semicolon⟩ := isGroup
    exact absurd semicolon (free _ (by simp [starts.1]))

theorem length_cut (tokens : List Token) :
    (cut tokens).1.length = tokens.countP (·.kind = .symbol .semicolon) := by
  induction tokens with
  | nil => rfl
  | cons token tokens ih =>
    unfold cut
    split
    · next semicolon => simp [semicolon, ih]
    · next other =>
      split <;> simp_all

theorem outcomes_of_semicolonFree {ts : TokenSequence} (more : ts.atEnd = false)
    (free : SemicolonFree ts.body) : outcomes ts = [(Grammar.statement ts).value] := by
  have whole : ts.StartsWith ts.body (.ofEnd ts.last ts.last_eq_end) := ⟨by simp, rfl⟩
  rw [outcomes_of_more more, ← whole.afterStatement_of_free free]
  exact congrArg _ (outcomes_of_atEnd (TokenSequence.atEnd_iff.mpr rfl))

section Groups

variable {ts : TokenSequence} {groups : List (List Token)} {tokens others : List Token}
  {declarations : List Declaration}

theorem cut_of_groups (each : List.Forall₂ Group groups declarations) :
    cut groups.flatten = (groups, []) := by
  refine cut_eq_iff.mpr ⟨(List.append_nil _).symm, ?_, semicolonFree_nil⟩
  induction each with
  | nil => nofun
  | cons isGroup _ ih => exact List.forall_mem_cons.mpr ⟨isGroup.segment, ih⟩

/-- The segments among the first tokens of some groups are the first of the groups. -/
theorem groups_of_beginning (split : groups.flatten = tokens ++ others)
    (each : List.Forall₂ Group groups declarations) :
    List.Forall₂ Group (cut tokens).1 (declarations.take (cut tokens).1.length) := by
  obtain ⟨joined, segments, -⟩ := cut_pieces tokens
  have whole := cut_of_groups each
  rw [split, joined, List.append_assoc, cut_append segments, Prod.mk.injEq] at whole
  have taken := List.forall₂_take (cut tokens).1.length each
  rwa [← whole.1, List.take_left] at taken

/-- Tokens that no semicolon ends declare nothing and are one error, if there are any. -/
theorem parseRecovering_of_semicolonFree (free : SemicolonFree ts.body) :
    (parseRecovering ts).program = ⟨[]⟩ ∧
      (parseRecovering ts).errors.length = if ts.body = [] then 0 else 1 := by
  rw [parseRecovering_eq]
  by_cases none : ts.body = []
  · simp [none, outcomes_eq_nil_iff.mpr none]
  · have more : ts.atEnd = false := by
      rw [← Bool.not_eq_true, TokenSequence.atEnd_iff]
      exact none
    obtain ⟨error, failed⟩ := failed_of_semicolonFree free
    simp [none, outcomes_of_semicolonFree more free, failed]

end Groups

/-- The outcomes of a sequence are the verdicts on its segments, then what its tail comes to. -/
theorem exists_verdicts (ts : TokenSequence) :
    ∃ verdicts trailing, List.Forall₂ Verdict (cut ts.body).1 verdicts ∧
      TailVerdict ts.last (cut ts.body).2 trailing ∧
      outcomes ts = verdicts ++ trailing.map .error := by
  fun_induction outcomes ts with
  | case1 ts isEnd =>
    rw [TokenSequence.atEnd_iff.mp isEnd]
    exact ⟨[], [], .nil, .nothing, rfl⟩
  | case2 ts more _ ih =>
    rw [Bool.not_eq_true] at more
    rcases semicolonFree_or_segment ts.body with free | ⟨segment, later, isSegment, body⟩
    -- without a semicolon all tokens are the tail, and the statement was the last one
    · obtain ⟨error, failed⟩ := failed_of_semicolonFree free
      rw [cut_of_semicolonFree free, ← outcomes_of_more more, outcomes_of_semicolonFree more free,
        failed]
      have tail : ts.body ≠ [] := by simp [← TokenSequence.atEnd_iff, more]
      exact ⟨[], [error], .nil, .refused tail (parseAlone_of_failed more failed), rfl⟩
    · obtain ⟨rest, starts, -⟩ := TokenSequence.exists_startsWith body
      obtain ⟨verdicts, trailing, each, tail, run⟩ := ih
      rw [starts.afterStatement_eq isSegment] at each tail run ⊢
      rw [starts.1, cut_of_segment isSegment, run]
      rw [starts.2] at tail
      exact ⟨_ :: verdicts, trailing, .cons (verdict_of_segment isSegment starts) each, tail, rfl⟩

theorem TailVerdict.length {last : Token} {tail : List Token} {trailing : List ParseError}
    (verdict : TailVerdict last tail trailing) :
    trailing.length = if tail = [] then 0 else 1 := by
  cases verdict with
  | nothing => rfl
  | refused more => simp [more]

/-- Cut a sequence behind its semicolons.  Recovery gives one declaration or one error for each
segment, and one error for the tail unless it is empty. -/
theorem parseRecovering_by_segment (ts : TokenSequence) :
    ∃ verdicts trailing, List.Forall₂ Verdict (cut ts.body).1 verdicts ∧
      TailVerdict ts.last (cut ts.body).2 trailing ∧
      (parseRecovering ts).program.declarations = verdicts.filterMap Outcome.declaration? ∧
      (parseRecovering ts).errors = verdicts.filterMap Outcome.error? ++ trailing ∧
      (parseRecovering ts).program.declarations.length + (parseRecovering ts).errors.length =
        ts.body.countP (·.kind = .symbol .semicolon) + if (cut ts.body).2 = [] then 0 else 1 := by
  obtain ⟨verdicts, trailing, each, tail, run⟩ := exists_verdicts ts
  have kept : trailing.filterMap (Outcome.error? ∘ Except.error) = trailing := List.filterMap_some
  refine ⟨verdicts, trailing, each, tail, ?_⟩
  rw [parseRecovering_eq, run, ← length_cut, each.length_eq, ← tail.length,
    Outcome.length_declarations_add_errors]
  simp [kept]

end TypedDecl
