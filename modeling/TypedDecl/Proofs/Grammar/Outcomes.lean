import Mathlib.Data.List.Forall2
import TypedDecl.Proofs.Grammar.Segment

/-!
Runs, statement by statement.  Every statement has an outcome of its own; a strict run stops at
the first error among them, and a recovering run sorts the declarations from the errors.
-/

namespace TypedDecl

abbrev Outcome : Type := Except ParseError Declaration

def Outcome.declaration? : Outcome → Option Declaration
  | .ok declaration => some declaration
  | .error _ => none

def Outcome.error? : Outcome → Option ParseError
  | .ok _ => none
  | .error error => some error

namespace Outcome

variable (declaration : Declaration) (error : ParseError)

@[simp] theorem declaration?_ok : declaration? (.ok declaration) = some declaration := rfl
@[simp] theorem declaration?_error : declaration? (.error error) = none := rfl
@[simp] theorem error?_ok : error? (.ok declaration) = none := rfl
@[simp] theorem error?_error : error? (.error error) = some error := rfl

@[simp] theorem filterMap_declaration?_map_ok (declarations : List Declaration) :
    (declarations.map .ok).filterMap declaration? = declarations := by
  rw [List.filterMap_map]
  exact List.filterMap_some

@[simp] theorem filterMap_error?_map_ok (declarations : List Declaration) :
    (declarations.map .ok).filterMap error? = [] := by
  simp [List.filterMap_map, Function.comp_def]

/-- Every outcome is either a declaration or an error. -/
theorem length_declarations_add_errors (outcomes : List Outcome) :
    (outcomes.filterMap declaration?).length + (outcomes.filterMap error?).length =
      outcomes.length := by
  induction outcomes with
  | nil => rfl
  | cons outcome outcomes ih => cases outcome <;> simp [List.filterMap_cons] <;> omega

end Outcome

/-- What becomes of each statement when the next one is read behind the next semicolon. -/
def outcomes (ts : TokenSequence) : List Outcome :=
  if isEnd : ts.atEnd then []
  else
    have := ts.length_afterStatement_lt (by simpa using isEnd)
    (Grammar.statement ts).value :: outcomes ts.afterStatement
termination_by ts.body.length

theorem outcomes_of_atEnd {ts : TokenSequence} (isEnd : ts.atEnd = true) : outcomes ts = [] := by
  rw [outcomes, dif_pos isEnd]

theorem outcomes_of_more {ts : TokenSequence} (more : ts.atEnd = false) :
    outcomes ts = (Grammar.statement ts).value :: outcomes ts.afterStatement := by
  rw [outcomes, dif_neg (by simp [more])]

theorem outcomes_eq_cons_iff {ts : TokenSequence} {outcome : Outcome} {later : List Outcome} :
    outcomes ts = outcome :: later ↔ ts.atEnd = false ∧ (Grammar.statement ts).value = outcome ∧
      outcomes ts.afterStatement = later := by
  cases isEnd : ts.atEnd with
  | true => simp [outcomes_of_atEnd isEnd]
  | false => simp [outcomes_of_more isEnd]

namespace Grammar

variable {ts : TokenSequence} {declaration : Declaration} {error : ParseError}

theorem program_of_atEnd (isEnd : ts.atEnd = true) : program ts = ⟨.ok ⟨[]⟩, ts, []⟩ := by
  rw [program, if_pos isEnd]

theorem program_of_ok (read : (statement ts).value = .ok declaration) :
    program ts = ((program ts.afterStatement).map (·.map (.cons declaration))).after
      (statement ts).events := by
  obtain ⟨more, rest⟩ := rest_of_ok read
  rw [program, if_neg (by simp [more]), ← rest]
  split
  · next failed => cases read.symm.trans failed
  · next found =>
    cases read.symm.trans found
    rfl

theorem program_of_error (more : ts.atEnd = false) (failed : (statement ts).value = .error error) :
    program ts = ⟨.error error, (statement ts).rest, (statement ts).events⟩ := by
  rw [program, if_neg (by simp [more])]
  split
  · next found =>
    cases failed.symm.trans found
    rfl
  · next read => cases failed.symm.trans read

theorem programRecovering_of_atEnd (isEnd : ts.atEnd = true) :
    programRecovering ts = ⟨⟨⟨[]⟩, []⟩, ts, []⟩ := by
  rw [programRecovering, dif_pos isEnd]

theorem programRecovering_of_ok (read : (statement ts).value = .ok declaration) :
    programRecovering ts = ((programRecovering ts.afterStatement).map (.declared declaration)).after
      (statement ts).events := by
  obtain ⟨more, rest⟩ := rest_of_ok read
  rw [programRecovering, dif_neg (by simp [more]), ← rest]
  split
  · next found =>
    cases read.symm.trans found
    rfl
  · next failed => cases read.symm.trans failed

theorem programRecovering_of_error (more : ts.atEnd = false)
    (failed : (statement ts).value = .error error) :
    programRecovering ts = ((programRecovering ts.afterStatement).map (.failed error)).after
      ((statement ts).events ++ [.recovering error]) := by
  rw [programRecovering, dif_neg (by simp [more]), ← afterStatement_of_failed failed]
  split
  · next read => cases failed.symm.trans read
  · next found =>
    cases failed.symm.trans found
    rfl

end Grammar

theorem parseRecovering_eq (ts : TokenSequence) :
    parseRecovering ts = ⟨⟨(outcomes ts).filterMap Outcome.declaration?⟩,
      (outcomes ts).filterMap Outcome.error?⟩ := by
  fun_induction outcomes ts with
  | case1 ts isEnd => rw [parseRecovering, Grammar.programRecovering_of_atEnd isEnd]; rfl
  | case2 ts more _ ih =>
    rw [Bool.not_eq_true] at more
    rw [parseRecovering] at ih ⊢
    cases read : (Grammar.statement ts).value with
    | ok declaration =>
      rw [Grammar.programRecovering_of_ok read, Reply.value_after, Reply.value_map, ih]
      rfl
    | error error =>
      rw [Grammar.programRecovering_of_error more read, Reply.value_after, Reply.value_map, ih]
      rfl

theorem parse_eq (ts : TokenSequence) : parse ts = ((outcomes ts).mapM id).map .mk := by
  fun_induction outcomes ts with
  | case1 ts isEnd => rw [parse, Grammar.program_of_atEnd isEnd]; rfl
  | case2 ts more _ ih =>
    rw [Bool.not_eq_true] at more
    rw [parse] at ih ⊢
    rw [List.mapM_cons]
    cases read : (Grammar.statement ts).value with
    | ok declaration =>
      rw [Grammar.program_of_ok read, Reply.value_after, Reply.value_map, ih]
      cases (outcomes ts.afterStatement).mapM id <;> rfl
    | error error =>
      rw [Grammar.program_of_error more read]
      rfl

theorem Outcome.mapM_id_eq (outcomes : List Outcome) :
    outcomes.mapM id = match outcomes.filterMap error? with
      | [] => .ok (outcomes.filterMap declaration?)
      | error :: _ => .error error := by
  induction outcomes with
  | nil => rfl
  | cons outcome outcomes ih =>
    rw [List.mapM_cons, ih]
    cases outcome with
    | error error => simp [bind, Except.bind]
    | ok declaration =>
      simp only [List.filterMap_cons, error?_ok, declaration?_ok]
      cases outcomes.filterMap error? <;> rfl

theorem exists_first_error {results : List Outcome} {error : ParseError} {errors : List ParseError}
    (found : results.filterMap Outcome.error? = error :: errors) :
    ∃ (completed : List Declaration) (later : List Outcome),
      results = completed.map .ok ++ .error error :: later := by
  induction results with
  | nil => cases found
  | cons result results ih =>
    cases result with
    | ok declaration =>
      obtain ⟨completed, later, rfl⟩ := ih found
      exact ⟨declaration :: completed, later, rfl⟩
    | error first =>
      obtain ⟨rfl, -⟩ := List.cons.inj found
      exact ⟨[], results, rfl⟩

theorem parse_eq_error_iff_outcomes {ts : TokenSequence} {error : ParseError} :
    parse ts = .error error ↔ ∃ (completed : List Declaration) (later : List Outcome),
      outcomes ts = completed.map .ok ++ .error error :: later := by
  rw [parse_eq, Outcome.mapM_id_eq]
  constructor
  · intro failed
    split at failed
    · cases failed
    · next found =>
      cases failed
      exact exists_first_error found
  · rintro ⟨completed, later, run⟩
    rw [run, List.filterMap_append, Outcome.filterMap_error?_map_ok]
    rfl

/-- A strict run reports the first error that a recovering run meets. -/
theorem parse_eq_first_error (ts : TokenSequence) :
    parse ts = match (parseRecovering ts).errors with
      | [] => .ok (parseRecovering ts).program
      | error :: _ => .error error := by
  rw [parse_eq, parseRecovering_eq, Outcome.mapM_id_eq]
  dsimp only
  cases (outcomes ts).filterMap Outcome.error? <;> rfl

section Groups

variable {ts rest : TokenSequence} {group : List Token} {declaration : Declaration}
  {declarations : List Declaration} {later : List Outcome}

theorem outcomes_of_group (isGroup : Group group declaration) (starts : ts.StartsWith group rest) :
    outcomes ts = .ok declaration :: outcomes rest := by
  have read : (Grammar.statement ts).value = .ok declaration := by
    rw [Grammar.statement_of_group isGroup starts]
  rw [outcomes_of_more (Grammar.rest_of_ok read).1, read,
    starts.afterStatement_eq isGroup.segment]

theorem group_of_outcomes (found : outcomes ts = .ok declaration :: later) :
    ∃ group rest, Group group declaration ∧ ts.StartsWith group rest ∧ outcomes rest = later := by
  obtain ⟨-, read, found⟩ := outcomes_eq_cons_iff.mp found
  obtain ⟨group, isGroup, starts⟩ := Grammar.group_of_statement read
  rw [(Grammar.rest_of_ok read).2] at starts
  exact ⟨group, _, isGroup, starts, found⟩

theorem outcomes_eq_nil_iff : outcomes ts = [] ↔ ts.body = [] := by
  rw [← TokenSequence.atEnd_iff]
  cases isEnd : ts.atEnd with
  | true => simp [outcomes_of_atEnd isEnd]
  | false => simp [outcomes_of_more isEnd]

/-- Declarations up to the first error are read from their groups and from nothing else. -/
theorem outcomes_eq_append_iff :
    outcomes ts = declarations.map .ok ++ later ↔
      ∃ groups rest, ts.StartsWith groups.flatten rest ∧
        List.Forall₂ Group groups declarations ∧ outcomes rest = later := by
  induction declarations generalizing ts with
  | nil =>
    constructor
    · intro found
      exact ⟨[], ts, by simp, .nil, found⟩
    · rintro ⟨groups, rest, starts, each, found⟩
      cases each
      rw [← found, TokenSequence.startsWith_nil.mp starts]
      rfl
  | cons declaration declarations ih =>
    constructor
    · intro found
      obtain ⟨group, middle, isGroup, starts, found⟩ := group_of_outcomes found
      obtain ⟨groups, rest, onward, each, found⟩ := ih.mp found
      exact ⟨group :: groups, rest, starts.append onward, .cons isGroup each, found⟩
    · rintro ⟨groups, rest, starts, each, found⟩
      cases each with
      | cons isGroup each =>
        obtain ⟨middle, begins, onward⟩ := starts.split
        rw [outcomes_of_group isGroup begins, ih.mpr ⟨_, rest, onward, each, found⟩]
        rfl

/-- Behind declarations recovery goes on as it would begin. -/
theorem parseRecovering_of_groups {groups : List (List Token)}
    (starts : ts.StartsWith groups.flatten rest)
    (each : List.Forall₂ Group groups declarations) :
    parseRecovering ts = ⟨⟨declarations ++ (parseRecovering rest).program.declarations⟩,
      (parseRecovering rest).errors⟩ := by
  have run := outcomes_eq_append_iff.mpr ⟨groups, rest, starts, each, rfl⟩
  rw [parseRecovering_eq, parseRecovering_eq, run, List.filterMap_append, List.filterMap_append,
    Outcome.filterMap_declaration?_map_ok, Outcome.filterMap_error?_map_ok, List.nil_append]

theorem mapM_id_eq_ok_iff {results : List Outcome} :
    results.mapM id = .ok declarations ↔ results = declarations.map .ok := by
  induction results generalizing declarations with
  | nil => cases declarations <;> simp [pure, Except.pure]
  | cons result results ih =>
    rw [List.mapM_cons]
    cases result with
    | error error => cases declarations <;> simp [bind, Except.bind]
    | ok declaration =>
      cases declarations with
      | nil => cases results.mapM id <;> simp [bind, Except.bind, pure, Except.pure]
      | cons first others =>
        rw [List.map_cons, List.cons.injEq, ← ih]
        cases results.mapM id <;> simp [bind, Except.bind, pure, Except.pure]

theorem parse_of_groups {groups : List (List Token)} (body : ts.body = groups.flatten)
    (each : List.Forall₂ Group groups declarations) : parse ts = .ok ⟨declarations⟩ := by
  obtain ⟨rest, starts, none⟩ :=
    TokenSequence.exists_startsWith (body.trans (List.append_nil _).symm)
  have run : outcomes ts = declarations.map .ok ++ [] :=
    outcomes_eq_append_iff.mpr ⟨groups, rest, starts, each, outcomes_eq_nil_iff.mpr none⟩
  rw [List.append_nil] at run
  rw [parse_eq, mapM_id_eq_ok_iff.mpr run]
  rfl

theorem parse_eq_ok_iff_outcomes {program : Program} :
    parse ts = .ok program ↔ outcomes ts = program.declarations.map .ok := by
  rw [parse_eq, ← mapM_id_eq_ok_iff]
  cases program
  cases (outcomes ts).mapM id <;> simp [Except.map]

theorem groups_of_parse {program : Program} (accepted : parse ts = .ok program) :
    ∃ groups, ts.body = groups.flatten ∧ List.Forall₂ Group groups program.declarations := by
  have run : outcomes ts = program.declarations.map .ok ++ [] := by
    rw [List.append_nil, parse_eq_ok_iff_outcomes.mp accepted]
  obtain ⟨groups, rest, starts, each, none⟩ := outcomes_eq_append_iff.mp run
  refine ⟨groups, ?_, each⟩
  rw [starts.1, outcomes_eq_nil_iff.mp none, List.append_nil]

/-- A strict run accepts the groups of five tokens, one group for each declaration. -/
theorem parse_eq_ok_iff (ts : TokenSequence) (program : Program) :
    parse ts = .ok program ↔ ∃ groups, ts.body = groups.flatten ∧
      List.Forall₂ Group groups program.declarations := by
  constructor
  · exact groups_of_parse
  · rintro ⟨groups, body, each⟩
    exact parse_of_groups body each

end Groups

end TypedDecl
