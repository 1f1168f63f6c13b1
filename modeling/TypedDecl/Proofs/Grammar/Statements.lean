import Mathlib.Data.List.Pairwise
import TypedDecl.Proofs.Grammar.Recovery
import TypedDecl.Proofs.Grammar.Reports

/-!
The statements of a sequence are its segments and what stands behind the last of them.  A recovering
run comes to one outcome for each; the errors it records tell by their places which statements were
at fault.
-/

namespace TypedDecl

namespace TokenSequence

/-- The segments, and the tail unless it is empty. -/
def statements (ts : TokenSequence) : List (List Token) :=
  (cut ts.body).1 ++ if (cut ts.body).2 = [] then [] else [(cut ts.body).2]

theorem ne_nil_of_mem_statements {ts : TokenSequence} {statement : List Token}
    (mem : statement ∈ ts.statements) : statement ≠ [] := by
  rcases List.mem_append.mp mem with inSegments | inTail
  · exact ((cut_pieces ts.body).2.1 statement inSegments).ne_nil
  · split at inTail
    · cases inTail
    · next nonempty => rwa [List.mem_singleton.mp inTail]

theorem flatten_statements (ts : TokenSequence) : ts.statements.flatten = ts.body := by
  rw [statements, List.flatten_append]
  refine Eq.trans ?_ (cut_pieces ts.body).1.symm
  split
  · next none => rw [none]; rfl
  · simp

/-- The first statement goes up to the next semicolon, or to the end where there is none. -/
inductive OpensWith (ts : TokenSequence) (statement : List Token) : Prop where
  | segment : Segment statement → ts.StartsWith statement ts.afterStatement → OpensWith ts statement
  | tail : SemicolonFree statement → statement ≠ [] → ts.body = statement →
      ts.afterStatement.statements = [] → OpensWith ts statement

theorem statements_of_body_nil {ts : TokenSequence} (none : ts.body = []) :
    ts.statements = [] := by
  simp [statements, none, cut]

theorem exists_opensWith {ts : TokenSequence} (more : ts.atEnd = false) :
    ∃ statement, ts.OpensWith statement ∧
      ts.statements = statement :: ts.afterStatement.statements := by
  have nonempty : ts.body ≠ [] := by simp [← atEnd_iff, more]
  rcases semicolonFree_or_segment ts.body with free | ⟨segment, later, isSegment, body⟩
  · have done : ts.afterStatement.statements = [] := by
      rw [← ts.startsWith_body.afterStatement_of_free free]
      exact statements_of_body_nil rfl
    refine ⟨ts.body, .tail free nonempty rfl done, ?_⟩
    rw [done, statements, cut_of_semicolonFree free]
    simp [nonempty]
  · obtain ⟨rest, starts, -⟩ := exists_startsWith body
    have same := starts.afterStatement_eq isSegment
    refine ⟨segment, .segment isSegment (same ▸ starts), ?_⟩
    rw [same, statements, statements, starts.1, cut_of_segment isSegment, List.cons_append]

/-- Statements are taken off the front one by one, as a recovering run does. -/
@[elab_as_elim]
theorem statements_induction {motive : TokenSequence → Prop}
    (atEnd : ∀ ts, ts.body = [] → motive ts)
    (more : ∀ ts statement, ts.atEnd = false → ts.OpensWith statement →
      ts.statements = statement :: ts.afterStatement.statements → motive ts.afterStatement →
      motive ts)
    (ts : TokenSequence) : motive ts := by
  fun_induction outcomes ts with
  | case1 ts isEnd => exact atEnd ts (atEnd_iff.mp isEnd)
  | case2 ts others _ ih =>
    rw [Bool.not_eq_true] at others
    obtain ⟨statement, opens, split⟩ := exists_opensWith others
    exact more ts statement others opens split ih

end TokenSequence

/-- The tokens that a statement can look at, and its errors can be about.  Without a semicolon the
end of input is among them. -/
def inView (last : Token) (statement : List Token) : List Token :=
  if statement.any (·.kind = .symbol .semicolon) then statement else statement ++ [last]

/-- A recovering run has recorded an error for the statement. -/
def TokenSequence.isFaulty (ts : TokenSequence) (statement : List Token) : Bool :=
  (parseRecovering ts).errors.any fun error =>
    (inView ts.last statement).any (·.offset = error.offset)

/-- The error is about one of the tokens. -/
def ParseError.PointsInto (error : ParseError) (tokens : List Token) : Prop :=
  ∃ token ∈ tokens, error.PointsAt token

/-- A statement is a declaration, or has an error of its own. -/
inductive Account (last : Token) (statement : List Token) : Outcome → Prop where
  | declared {declaration} : Group statement declaration →
      Account last statement (.ok declaration)
  | refused {error} : error.PointsInto (inView last statement) →
      Account last statement (.error error)

theorem Segment.any_semicolon {segment : List Token} (isSegment : Segment segment) :
    segment.any (·.kind = .symbol .semicolon) = true := by
  induction isSegment with
  | semicolon semicolon => simp [semicolon]
  | cons _ _ ih => simp [ih]

theorem inView_of_segment {segment : List Token} (last : Token)
    (isSegment : Segment segment) : inView last segment = segment :=
  if_pos isSegment.any_semicolon

theorem inView_of_free {tail : List Token} (last : Token) (free : SemicolonFree tail) :
    inView last tail = tail ++ [last] := by
  apply if_neg
  simpa [SemicolonFree] using free

namespace TokenSequence

variable {ts : TokenSequence} {statement : List Token}

theorem OpensWith.eq_of_segment {segment : List Token} {rest : TokenSequence}
    (opens : ts.OpensWith statement) (starts : ts.StartsWith segment rest)
    (isSegment : Segment segment) : statement = segment := by
  cases opens with
  | segment _ starts' =>
    rw [starts.afterStatement_eq isSegment] at starts'
    exact List.append_cancel_right (starts'.1.symm.trans starts.1)
  | tail free _ body =>
    rw [← body, starts.1] at free
    obtain ⟨token, mem, semicolon⟩ := List.any_eq_true.mp isSegment.any_semicolon
    exact absurd (of_decide_eq_true semicolon) (free token (List.mem_append_left _ mem))

/-- What stands in front of the semicolon is in view, and the token behind it as well. -/
theorem OpensWith.exists_inView {begun : List Token} {rest : TokenSequence}
    (opens : ts.OpensWith statement) (begins : ts.StartsWith begun rest)
    (free : SemicolonFree begun) :
    ∃ later, inView ts.last statement = begun ++ rest.first :: later := by
  cases opens with
  | segment isSegment starts =>
    obtain ⟨later, rfl, found⟩ := starts.inside isSegment begins free
    obtain ⟨others, rfl⟩ := List.head?_eq_some_iff.mp found
    exact ⟨others, inView_of_segment _ isSegment⟩
  | tail none _ body =>
    obtain ⟨later, onward⟩ := rest.toList_eq_cons
    refine ⟨later, ?_⟩
    rw [inView_of_free _ none, ← body, ← toList, startsWith_iff_toList.mp begins, onward]

/-- A declaration never ends in the middle of a statement, nor behind it. -/
theorem OpensWith.account (opens : ts.OpensWith statement) (more : ts.atEnd = false) :
    Account ts.last statement (Grammar.statement ts).value := by
  cases read : (Grammar.statement ts).value with
  | ok declaration =>
    obtain ⟨group, isGroup, starts⟩ := Grammar.group_of_statement read
    rw [opens.eq_of_segment starts isGroup.segment]
    exact .declared isGroup
  | error error =>
    obtain ⟨begun, wanted, rest, opening, begins, refused⟩ :=
      Grammar.refusal_of_statement more read
    obtain ⟨later, seen⟩ := opens.exists_inView begins opening.semicolonFree
    refine .refused ⟨rest.first, ?_, refused.pointsAt⟩
    simp [seen]

theorem forall₂_account (ts : TokenSequence) :
    List.Forall₂ (Account ts.last) ts.statements (outcomes ts) := by
  induction ts using statements_induction with
  | atEnd ts none =>
    rw [statements_of_body_nil none, outcomes_eq_nil_iff.mpr none]
    exact .nil
  | more ts statement more opens split ih =>
    rw [split, outcomes_of_more more]
    exact .cons (opens.account more) ih

/-- No token is a place of two statements. -/
theorem inView_sublist (ts : TokenSequence) :
    (ts.statements.flatMap (inView ts.last)).Sublist ts.toList := by
  induction ts using statements_induction with
  | atEnd ts none => simp [statements_of_body_nil none]
  | more ts statement _ opens split ih =>
    rw [split, List.flatMap_cons]
    cases opens with
    | segment isSegment starts =>
      rw [inView_of_segment _ isSegment, startsWith_iff_toList.mp starts]
      exact ih.append_left statement
    | tail free _ body done =>
      rw [done, inView_of_free _ free, toList, body]
      simp

end TokenSequence

section Faulty

variable {ts : TokenSequence} {statement : List Token} {outcome : Outcome}

theorem mem_errors_iff {error : ParseError} :
    error ∈ (parseRecovering ts).errors ↔ .error error ∈ outcomes ts := by
  rw [parseRecovering_eq, List.mem_filterMap]
  constructor
  · rintro ⟨outcome, mem, found⟩
    cases outcome with
    | ok declaration => cases found
    | error first =>
      cases found
      exact mem
  · intro mem
    exact ⟨_, mem, rfl⟩

/-- Errors of the two statements have different places. -/
def Apart (last : Token) (first second : List Token) : Prop :=
  ∀ token ∈ inView last first, ∀ token' ∈ inView last second,
    token.offset ≠ token'.offset

instance (last : Token) :
    Std.Symm fun first second : List Token × Outcome => Apart last first.1 second.1 where
  symm _ _ apart token mem token' mem' := (apart token' mem' token mem).symm

theorem pairwise_apart (distinct : ts.toList.Pairwise (·.offset ≠ ·.offset)) :
    (ts.statements.zip (outcomes ts)).Pairwise fun first second =>
      Apart ts.last first.1 second.1 := by
  have apart := (List.pairwise_flatMap.mp (distinct.sublist ts.inView_sublist)).2
  rw [← List.map_fst_zip (Nat.le_of_eq ts.forall₂_account.length_eq)] at apart
  exact List.pairwise_map.mp apart

/-- Where no two tokens share a place, the errors of a statement are not taken for another's. -/
theorem isFaulty_iff (distinct : ts.toList.Pairwise (·.offset ≠ ·.offset))
    (mem : (statement, outcome) ∈ ts.statements.zip (outcomes ts)) :
    ts.isFaulty statement = true ↔ ∃ error, outcome = .error error := by
  have accounts := ts.forall₂_account
  constructor
  · intro faulty
    simp only [TokenSequence.isFaulty, List.any_eq_true, decide_eq_true_eq] at faulty
    obtain ⟨error, recorded, token, here, place⟩ := faulty
    have among : .error error ∈ (ts.statements.zip (outcomes ts)).map Prod.snd := by
      rw [List.map_snd_zip (Nat.le_of_eq accounts.length_eq.symm)]
      exact mem_errors_iff.mp recorded
    obtain ⟨⟨other, _⟩, mem', rfl⟩ := List.mem_map.mp among
    obtain ⟨-⟩ | ⟨token', there, points⟩ := List.forall₂_zip accounts mem'
    -- the error belongs to this pair or to another one, which has no place in common with it
    by_cases same : (statement, outcome) = (other, .error error)
    · exact ⟨error, (Prod.mk.inj same).2⟩
    · have differ := (pairwise_apart distinct).forall mem mem' same token here token' there
      exact absurd (place.trans points.offset_eq) differ
  · rintro ⟨error, rfl⟩
    obtain ⟨-⟩ | ⟨token, there, points⟩ := List.forall₂_zip accounts mem
    have recorded : error ∈ (parseRecovering ts).errors :=
      mem_errors_iff.mpr (List.of_mem_zip mem).2
    simp only [TokenSequence.isFaulty, List.any_eq_true, decide_eq_true_eq]
    exact ⟨error, recorded, token, there, points.offset_eq.symm⟩

/-- The statements that are not faulty are the declarations, and each error is about a faulty
statement of its own. -/
theorem forall₂_filter_isFaulty (distinct : ts.toList.Pairwise (·.offset ≠ ·.offset)) :
    List.Forall₂ Group (ts.statements.filter (!ts.isFaulty ·))
        (parseRecovering ts).program.declarations ∧
      List.Forall₂ (fun statement error => error.PointsInto (inView ts.last statement))
        (ts.statements.filter ts.isFaulty) (parseRecovering ts).errors := by
  have tells : List.Forall₂ (fun statement outcome => Account ts.last statement outcome ∧
      (ts.isFaulty statement = true ↔ ∃ error, outcome = .error error))
      ts.statements (outcomes ts) := by
    have accounts := ts.forall₂_account
    refine List.forall₂_iff_zip.mpr ⟨accounts.length_eq, ?_⟩
    intro statement outcome mem
    exact ⟨List.forall₂_zip accounts mem, isFaulty_iff distinct mem⟩
  rw [parseRecovering_eq]
  generalize ts.statements = statements, outcomes ts = results at tells
  induction tells with
  | nil => exact ⟨.nil, .nil⟩
  | @cons statement outcome statements results here _ ih =>
    obtain ⟨account, faulty⟩ := here
    cases account with
    | declared isGroup =>
      have sound : ts.isFaulty statement = false := by simpa using faulty
      simp only [List.filter_cons, sound, List.filterMap_cons, Outcome.declaration?_ok,
        Outcome.error?_ok]
      exact ⟨.cons isGroup ih.1, ih.2⟩
    | refused points =>
      have wrong : ts.isFaulty statement = true := by simpa using faulty
      simp only [List.filter_cons, wrong, List.filterMap_cons, Outcome.declaration?_error,
        Outcome.error?_error]
      exact ⟨ih.1, .cons points ih.2⟩

end Faulty

end TypedDecl
