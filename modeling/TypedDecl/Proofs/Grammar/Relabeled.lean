import TypedDecl.Proofs.Grammar.Outcomes
import TypedDecl.Proofs.Relabeling

/-!
Parsing is blind to places and lexemes.  On relabeled tokens every rule does the same, and what it
reads, reports and leaves behind is relabeled with them.
-/

namespace TypedDecl

namespace Relabeling

variable (f : Relabeling)

def outcome (outcome : Outcome) : Outcome :=
  (outcome.map f.declaration).mapError f.parseError

@[simp] theorem outcome_ok (declaration : Declaration) :
    f.outcome (.ok declaration) = .ok (f.declaration declaration) := rfl

@[simp] theorem outcome_error (error : ParseError) :
    f.outcome (.error error) = .error (f.parseError error) := rfl

theorem filterMap_declaration?_outcome (outcomes : List Outcome) :
    (outcomes.map f.outcome).filterMap Outcome.declaration? =
      (outcomes.filterMap Outcome.declaration?).map f.declaration := by
  rw [List.filterMap_map, List.map_filterMap]
  congr 1
  funext outcome
  cases outcome <;> rfl

theorem filterMap_error?_outcome (outcomes : List Outcome) :
    (outcomes.map f.outcome).filterMap Outcome.error? =
      (outcomes.filterMap Outcome.error?).map f.parseError := by
  rw [List.filterMap_map, List.map_filterMap]
  congr 1
  funext outcome
  cases outcome <;> rfl

theorem advance_sequence (ts : TokenSequence) :
    (f.sequence ts).advance = f.sequence ts.advance :=
  TokenSequence.eq_of_body_last (by simp) rfl

theorem afterStatement_sequence (ts : TokenSequence) :
    (f.sequence ts).afterStatement = f.sequence ts.afterStatement := by
  refine TokenSequence.eq_of_body_last ?_ rfl
  simp only [TokenSequence.afterStatement, body_sequence, List.dropWhile_map, List.map_tail]
  rfl

theorem ofToken?_token (token : Token) :
    Literal.ofToken? (f.token token) = (Literal.ofToken? token).map f.literal := by
  unfold Literal.ofToken?
  rw [kind_token]
  cases token.kind <;> rfl

end Relabeling

/-- On relabeled tokens the second rule does what the first one does, its value mapped. -/
def Rule.Follows {α : Type} (f : Relabeling) (map : α → α) (rule rule' : Rule α) : Prop :=
  ∀ ts, (rule' (f.sequence ts)).value = ((rule ts).value.map map).mapError f.parseError ∧
    (rule' (f.sequence ts)).rest = f.sequence (rule ts).rest

namespace Rule

variable {α β : Type} (f : Relabeling)

theorem follows_pure {map : α → α} {a b : α} (same : b = map a) :
    Follows f map (pure a) (pure b) := by
  intro ts
  simp [same, Except.map, Except.mapError]

theorem follows_look : Follows f f.token look look := by
  intro ts
  simp [Except.map, Except.mapError]

theorem follows_log (first second : Event) : Follows f id (log first) (log second) :=
  fun _ => ⟨rfl, rfl⟩

theorem follows_fail {map : α → α} {first second : ParseError}
    (same : second = f.parseError first) : Follows f map (fail first) (fail second) := by
  intro ts
  simp [same, Except.map, Except.mapError]

theorem follows_take {map : α → α} {wanted : Expectation} {read : Token → Option α}
    (same : ∀ token, read (f.token token) = (read token).map map) :
    Follows f map (take wanted read) (take wanted read) := by
  intro ts
  cases found : read ts.first with
  | none =>
    have here : read (f.sequence ts).first = none := by simp [same, found]
    rw [take_of_none found, take_of_none here, f.first_sequence]
    exact ⟨rfl, rfl⟩
  | some a =>
    have here : read (f.sequence ts).first = some (map a) := by simp [same, found]
    rw [take_of_some found, take_of_some here]
    exact ⟨rfl, f.advance_sequence ts⟩

variable {f}

theorem Follows.bind {map : α → α} {map' : β → β} {rule rule' : Rule α} {next next' : α → Rule β}
    (first : Follows f map rule rule') (later : ∀ a, Follows f map' (next a) (next' (map a))) :
    Follows f map' (rule >>= next) (rule' >>= next') := by
  intro ts
  obtain ⟨value, rest⟩ := first ts
  cases read : (rule ts).value with
  | error error =>
    have read' : (rule' (f.sequence ts)).value = .error (f.parseError error) := by
      rw [value, read]
      rfl
    rw [bind_apply_error next read, bind_apply_error next' read']
    exact ⟨rfl, rest⟩
  | ok a =>
    have read' : (rule' (f.sequence ts)).value = .ok (map a) := by
      rw [value, read]
      rfl
    rw [bind_apply_ok next read, bind_apply_ok next' read', rest]
    exact later a _

end Rule

namespace Grammar

variable (f : Relabeling)

theorem follows_type : Rule.Follows f id type type :=
  Rule.follows_take f fun _ => by simp

theorem follows_identifier : Rule.Follows f f.spelling identifier identifier :=
  Rule.follows_take f fun token => by
    by_cases kind : token.kind = .identifier <;> simp [kind]

theorem follows_symbol (wanted : Expectation) (wantedSymbol : Symbol) :
    Rule.Follows f id (symbol wanted wantedSymbol) (symbol wanted wantedSymbol) :=
  Rule.follows_take f fun token => by
    by_cases kind : token.kind = .symbol wantedSymbol <;> simp [kind]

theorem follows_expression : Rule.Follows f f.literal expression expression :=
  (Rule.follows_look f).bind fun _ => (Rule.follows_log f _ _).bind fun _ =>
    Rule.follows_take f f.ofToken?_token

theorem follows_initializer (type : Ty) :
    Rule.Follows f f.literal (initializer type) (initializer type) := by
  refine (Rule.follows_look f).bind fun first => (follows_expression f).bind fun literal => ?_
  rw [f.kind_literal]
  split
  · exact Rule.follows_pure f rfl
  · exact Rule.follows_fail f rfl

theorem follows_declaration : Rule.Follows f f.declaration declaration declaration :=
  (follows_type f).bind fun _ => (follows_identifier f).bind fun _ =>
    (follows_symbol f _ _).bind fun _ => (follows_initializer f _).bind fun _ =>
      (follows_symbol f _ _).bind fun _ => (Rule.follows_log f _ _).bind fun _ =>
        Rule.follows_pure f rfl

theorem follows_statement : Rule.Follows f f.declaration statement statement :=
  (Rule.follows_look f).bind fun _ => (Rule.follows_log f _ _).bind fun _ => follows_declaration f

end Grammar

theorem outcomes_sequence (f : Relabeling) (ts : TokenSequence) :
    outcomes (f.sequence ts) = (outcomes ts).map f.outcome := by
  fun_induction outcomes ts with
  | case1 ts isEnd => rw [outcomes_of_atEnd (by simpa using isEnd), List.map_nil]
  | case2 ts more _ ih =>
    rw [Bool.not_eq_true] at more
    rw [outcomes_of_more (by simpa using more), f.afterStatement_sequence, ih,
      (Grammar.follows_statement f ts).1]
    rfl

theorem parseRecovering_sequence (f : Relabeling) (ts : TokenSequence) :
    parseRecovering (f.sequence ts) =
      ⟨⟨(parseRecovering ts).program.declarations.map f.declaration⟩,
        (parseRecovering ts).errors.map f.parseError⟩ := by
  rw [parseRecovering_eq, parseRecovering_eq, outcomes_sequence, f.filterMap_declaration?_outcome,
    f.filterMap_error?_outcome]

theorem Recovered.toResult_map (f : Relabeling) (change : Program → Program)
    (recovered : Recovered) :
    toResult ⟨change recovered.program, recovered.errors.map f.parseError⟩ =
      (recovered.toResult.map change).mapError f.failure := by
  obtain ⟨program, errors⟩ := recovered
  rcases errors with _ | ⟨first, _ | ⟨second, errors⟩⟩ <;> rfl

end TypedDecl
