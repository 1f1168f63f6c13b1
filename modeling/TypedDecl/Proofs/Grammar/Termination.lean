import TypedDecl.Proofs.Grammar.Indexing

/-!
Why the loops of a parser end.  A round of the recovering loop takes the index further, also where
the statement fails at its first token and has taken nothing, and no round takes it past the end of
input.  So the loop ends there, after no more rounds than there are tokens in front of the end; over
the same tokens without the end it goes round for ever.
-/

namespace TypedDecl

namespace Recovered

/-- The declarations sorted from the errors. -/
def ofOutcomes (outcomes : List Outcome) : Recovered :=
  ⟨⟨outcomes.filterMap Outcome.declaration?⟩, outcomes.filterMap Outcome.error?⟩

/-- Puts in front what an earlier statement came to. -/
def record : Outcome → Recovered → Recovered
  | .ok declaration => declared declaration
  | .error error => failed error

/-- The number of statements that were read or reported. -/
def count (recovered : Recovered) : Nat :=
  recovered.program.declarations.length + recovered.errors.length

theorem ofOutcomes_cons (outcome : Outcome) (outcomes : List Outcome) :
    ofOutcomes (outcome :: outcomes) = (ofOutcomes outcomes).record outcome := by
  cases outcome <;> rfl

theorem count_ofOutcomes (outcomes : List Outcome) :
    (ofOutcomes outcomes).count = outcomes.length :=
  Outcome.length_declarations_add_errors outcomes

end Recovered

namespace Probe

instance : LawfulMonad Probe := by
  refine LawfulMonad.mk' Probe ?_ ?_ ?_
  · intro α probe
    funext tokens position
    cases done : probe tokens position with
    | mk value after =>
      cases value with
      | error setback => simp [Functor.map, andThen, done]
      | ok a =>
        simp only [Functor.map, andThen, done]
        rfl
  · intro α β a next
    rfl
  · intro α β γ probe next later
    funext tokens position
    cases done : probe tokens position with
    | mk value after => cases value <;> simp [bind, andThen, done]

/-- Where the probe stands. -/
def index : Probe Nat := fun _ position => (.ok position, position)

/-- One round of the recovering loop: a statement, and behind a failed one the way to the next. -/
def round (rounds : Nat) : Probe Outcome := do
  match ← attempt statement with
  | .ok declaration => return .ok declaration
  | .error error => do
    synchronize rounds
    return .error error

/-- The recovering loop with its rounds on record: where each begins and what it comes to. -/
def laps : Nat → Probe (List (Nat × Outcome))
  | 0 => stop .unfinished
  | rounds + 1 => do
    if ← atEnd then return []
    else
      let start ← index
      let outcome ← round (rounds + 1)
      let later ← laps rounds
      return (start, outcome) :: later

theorem programRecovering_succ (rounds : Nat) : programRecovering (rounds + 1) = (do
    if ← atEnd then return ⟨⟨[]⟩, []⟩
    else
      let outcome ← round (rounds + 1)
      let recovered ← programRecovering rounds
      return recovered.record outcome) := by
  rw [programRecovering]
  refine bind_congr fun isEnd => ?_
  split
  · rfl
  · rw [round, bind_assoc]
    refine bind_congr fun outcome => ?_
    cases outcome with
    | ok declaration => simp only [pure_bind, Recovered.record]
    | error error => simp only [bind_assoc, pure_bind, Recovered.record]

/-- Over any vector and from any index, the loop returns what its rounds come to. -/
theorem programRecovering_eq_laps (rounds : Nat) : programRecovering rounds = (do
    let laps ← laps rounds
    return Recovered.ofOutcomes (laps.map Prod.snd)) := by
  induction rounds with
  | zero => rfl
  | succ rounds ih =>
    rw [programRecovering_succ, laps, bind_assoc]
    refine bind_congr fun isEnd => ?_
    split
    · rfl
    · simp only [bind_assoc, pure_bind, ih, List.map_cons, Recovered.ofOutcomes_cons]
      rfl

end Probe

namespace Cursor

/-- The cursor at an index, or at the end of input if the index is beyond it. -/
def atIndex (ts : TokenSequence) (index : Nat) : Cursor where
  tokens := ts
  rest := ⟨ts.body.drop index, ts.last,
    fun token mem => ts.body_ne_end token (List.mem_of_mem_drop mem), ts.last_eq_end⟩
  isRestOf := ⟨List.drop_suffix index ts.body, rfl⟩

/-- The cursor behind the statement where it stands, be that read or skipped. -/
def afterRound (cursor : Cursor) : Cursor := cursor.onward cursor.rest.afterStatement_isRestOf

/-- The rounds from the cursor on, each with the index where it begins and what it comes to. -/
def laps (cursor : Cursor) : List (Nat × Outcome) :=
  if isEnd : cursor.rest.atEnd then []
  else
    have := cursor.rest.length_afterStatement_lt (by simpa using isEnd)
    (cursor.position, (Grammar.statement cursor.rest).value) :: cursor.afterRound.laps
termination_by cursor.rest.body.length

/-- Allowed more rounds than there are tokens in front of the end, the loop ends with this value and
leaves this index. -/
def Finishes {α : Type} (cursor : Cursor) (loop : Nat → Probe α) (value : Except Setback α)
    (after : Nat) : Prop :=
  ∀ rounds, cursor.tokens.body.length - cursor.position < rounds →
    loop rounds cursor.tokens.toList cursor.position = (value, after)

/-- How the loops end that begin where the cursor stands. -/
structure LoopsEnd (cursor : Cursor) : Prop where
  synchronize : cursor.Finishes Probe.synchronize (.ok ()) cursor.afterRound.position
  program : cursor.Finishes Probe.program ((Grammar.program cursor.rest).value.mapError .refused)
    (cursor.after .program).position
  programRecovering : cursor.Finishes Probe.programRecovering
    (.ok (Grammar.programRecovering cursor.rest).value) (cursor.after .programRecovering).position
  /-- Whatever the statement comes to, its round leaves the index further on. -/
  round : cursor.position < cursor.tokens.body.length →
    cursor.Finishes Probe.round (.ok (Grammar.statement cursor.rest).value)
      cursor.afterRound.position ∧ cursor.position < cursor.afterRound.position
  /-- From round to round the indexes grow, from where the cursor stands to the end of input. -/
  laps : ∃ laps, cursor.Finishes Probe.laps (.ok laps) cursor.tokens.body.length ∧
    (Grammar.programRecovering cursor.rest).value = .ofOutcomes (laps.map Prod.snd) ∧
    ∃ later, laps.map Prod.fst ++ [cursor.tokens.body.length] = cursor.position :: later ∧
      (cursor.position :: later).Pairwise (· < ·)
  count_le : (Grammar.programRecovering cursor.rest).value.count ≤
    cursor.tokens.body.length - cursor.position
  atEnd : (cursor.after .programRecovering).position = cursor.tokens.body.length

theorem position_atIndex {ts : TokenSequence} {index : Nat} (within : index ≤ ts.body.length) :
    (atIndex ts index).position = index := by
  simp only [position, atIndex, List.length_drop]
  omega

section Rounds

variable (cursor : Cursor)

theorem position_lt_afterRound (more : cursor.rest.atEnd = false) :
    cursor.position < cursor.afterRound.position := by
  have shorter : cursor.afterRound.rest.body.length < cursor.rest.body.length :=
    TokenSequence.length_afterStatement_lt more
  have same : cursor.afterRound.tokens = cursor.tokens := rfl
  have here := cursor.position_add_length
  have there := cursor.afterRound.position_add_length
  rw [same] at there
  omega

theorem laps_of_atEnd (isEnd : cursor.rest.atEnd = true) : cursor.laps = [] := by
  rw [laps, dif_pos isEnd]

theorem laps_of_more (more : cursor.rest.atEnd = false) : cursor.laps =
    (cursor.position, (Grammar.statement cursor.rest).value) :: cursor.afterRound.laps := by
  rw [laps, dif_neg (by simp [more])]

/-- Each round takes the index on by one token at least. -/
theorem position_add_laps_le :
    cursor.position + cursor.laps.length ≤ cursor.tokens.body.length := by
  fun_induction laps cursor with
  | case1 cursor => exact cursor.position_le
  | case2 cursor more _ ih =>
    rw [Bool.not_eq_true] at more
    have forward := cursor.position_lt_afterRound more
    have same : cursor.afterRound.tokens = cursor.tokens := rfl
    rw [same] at ih
    rw [List.length_cons]
    omega

theorem ascending_laps : ∃ later,
    cursor.laps.map Prod.fst ++ [cursor.tokens.body.length] = cursor.position :: later ∧
      (cursor.position :: later).Pairwise (· < ·) := by
  simp only [← List.isChain_iff_pairwise]
  fun_induction laps cursor with
  | case1 cursor isEnd =>
    refine ⟨[], ?_, .singleton _⟩
    rw [cursor.position_of_atEnd isEnd]
    rfl
  | case2 cursor more _ ih =>
    rw [Bool.not_eq_true] at more
    obtain ⟨later, indexes, ascending⟩ := ih
    refine ⟨cursor.afterRound.position :: later, ?_, ?_⟩
    · rw [← indexes]
      rfl
    · exact .cons_cons (cursor.position_lt_afterRound more) ascending

theorem Finishes.of_rest {α : Type} {cursor : Cursor} {loop : Nat → Probe α}
    {value : Except Setback α} {after : Nat}
    (run : ∀ {rounds}, cursor.rest.body.length < rounds →
      loop rounds cursor.tokens.toList cursor.position = (value, after)) :
    cursor.Finishes loop value after := by
  intro rounds enough
  apply run
  have here := cursor.position_add_length
  omega

end Rounds

end Cursor

namespace Probe

variable (cursor : Cursor) {rounds : Nat}

theorem round_apply (enough : cursor.rest.body.length < rounds) :
    round rounds cursor.tokens.toList cursor.position =
      (.ok (Grammar.statement cursor.rest).value, cursor.afterRound.position) := by
  rw [round, bind_of_ok _ (attempt_of_mapError (mirrors_statement cursor))]
  cases read : (Grammar.statement cursor.rest).value with
  | ok declaration =>
    rw [(Grammar.rest_of_ok read).2]
    rfl
  | error error => exact bind_of_ok _ (synchronize_of_failed cursor read enough)

theorem laps_apply (enough : cursor.rest.body.length < rounds) :
    laps rounds cursor.tokens.toList cursor.position =
      (.ok cursor.laps, cursor.tokens.body.length) := by
  induction rounds generalizing cursor with
  | zero => exact absurd enough (Nat.not_lt_zero _)
  | succ rounds ih =>
    rw [laps, bind_of_ok _ (atEnd_apply cursor)]
    cases isEnd : cursor.rest.atEnd with
    | true =>
      rw [cursor.laps_of_atEnd isEnd, cursor.position_of_atEnd isEnd]
      rfl
    | false =>
      have shorter := TokenSequence.length_afterStatement_lt isEnd
      have later := ih cursor.afterRound (Nat.lt_of_lt_of_le shorter (Nat.le_of_lt_succ enough))
      rw [cursor.laps_of_more isEnd]
      exact (bind_of_ok _ (round_apply cursor enough)).trans (bind_of_ok _ later)

end Probe

namespace Cursor

variable (cursor : Cursor)

theorem programRecovering_eq_laps : (Grammar.programRecovering cursor.rest).value =
    .ofOutcomes (cursor.laps.map Prod.snd) := by
  have enough := Nat.lt_succ_self cursor.rest.body.length
  have run := Probe.programRecovering_apply cursor enough
  rw [Probe.programRecovering_eq_laps, Probe.bind_of_ok _ (Probe.laps_apply cursor enough)] at run
  exact (Except.ok.inj (congrArg Prod.fst run)).symm

theorem loopsEnd : cursor.LoopsEnd where
  synchronize := .of_rest (Probe.synchronize_apply cursor)
  program := .of_rest (Probe.program_apply cursor)
  programRecovering := .of_rest (Probe.programRecovering_apply cursor)
  round := by
    intro inside
    refine ⟨.of_rest (Probe.round_apply cursor), cursor.position_lt_afterRound ?_⟩
    rw [← Bool.not_eq_true]
    intro isEnd
    exact Nat.ne_of_lt inside (cursor.position_of_atEnd isEnd)
  laps := ⟨cursor.laps, .of_rest (Probe.laps_apply cursor), cursor.programRecovering_eq_laps,
    cursor.ascending_laps⟩
  count_le := by
    have bound := cursor.position_add_laps_le
    rw [cursor.programRecovering_eq_laps, Recovered.count_ofOutcomes, List.length_map]
    omega
  atEnd := cursor.position_after_programRecovering

end Cursor

namespace Probe

section Endless

variable {α β : Type} {tokens : List Token}

/-- From any index the probe comes to a value or to an error of grammar. -/
def Concludes (probe : Probe α) (tokens : List Token) : Prop :=
  ∀ position, ∃ (result : Except ParseError α) (after : Nat),
    probe tokens position = (result.mapError .refused, after)

theorem concludes_pure (a : α) : Concludes (pure a) tokens :=
  fun position => ⟨.ok a, position, rfl⟩

theorem concludes_stop (error : ParseError) :
    Concludes (stop (.refused error) : Probe α) tokens :=
  fun position => ⟨.error error, position, rfl⟩

theorem concludes_pass (token : Token) : Concludes (pass token) tokens :=
  fun position => ⟨.ok token, position + 1, rfl⟩

theorem Concludes.bind {probe : Probe α} {next : α → Probe β} (first : Concludes probe tokens)
    (later : ∀ a, Concludes (next a) tokens) : Concludes (probe >>= next) tokens := by
  intro position
  obtain ⟨result, after, done⟩ := first position
  cases result with
  | error error => exact ⟨.error error, after, bind_of_error _ done⟩
  | ok a =>
    rw [bind_of_ok _ done]
    exact later a after

variable (nonempty : tokens ≠ [])
include nonempty

theorem exists_peek (position : Nat) :
    ∃ token ∈ tokens, peek tokens position = (.ok token, position) := by
  -- an index behind the last token is taken back to it, so there is always one to look at
  obtain ⟨last, length⟩ : ∃ last, tokens.length = last + 1 :=
    Nat.exists_eq_succ_of_ne_zero (by simpa using nonempty)
  have inside : min position last < tokens.length := by omega
  refine ⟨tokens[min position last], List.getElem_mem inside, ?_⟩
  simp only [peek, look, length, List.getElem?_eq_getElem inside]

theorem concludes_peek : Concludes peek tokens := by
  intro position
  obtain ⟨token, -, seen⟩ := exists_peek nonempty position
  exact ⟨.ok token, position, seen⟩

theorem concludes_take (wanted : Expectation) (read : Token → Option α) :
    Concludes (take wanted read) tokens := by
  have advances : Concludes advance tokens := by
    refine (concludes_peek nonempty).bind fun token => ?_
    split
    · exact concludes_pure token
    · exact concludes_pass token
  refine (concludes_peek nonempty).bind fun token => ?_
  cases read token with
  | none => exact concludes_stop _
  | some a => exact advances.bind fun _ => concludes_pure a

theorem concludes_initializer (type : Ty) : Concludes (initializer type) tokens := by
  refine (concludes_peek nonempty).bind fun first => ?_
  refine (concludes_take nonempty _ _).bind fun literal => ?_
  split
  · exact concludes_pure literal
  · exact concludes_stop _

theorem concludes_declaration : Concludes declaration tokens := by
  refine (concludes_take nonempty _ _).bind fun type => ?_
  refine (concludes_take nonempty _ _).bind fun name => ?_
  refine (concludes_take nonempty _ _).bind fun _ => ?_
  refine (concludes_initializer nonempty type).bind fun initializer => ?_
  refine (concludes_take nonempty _ _).bind fun _ => ?_
  exact concludes_pure _

theorem concludes_statement : Concludes statement tokens := by
  refine (concludes_peek nonempty).bind fun first => ?_
  split
  · exact concludes_declaration nonempty
  · exact concludes_stop _

variable (endless : ∀ token ∈ tokens, token.kind ≠ .endOfInput)
include endless

theorem atEnd_of_endless (position : Nat) : atEnd tokens position = (.ok false, position) := by
  obtain ⟨token, mem, seen⟩ := exists_peek nonempty position
  rw [atEnd, bind_of_ok _ seen, Token.isEnd_eq_false.mpr (endless token mem)]
  rfl

theorem synchronize_of_endless (rounds position : Nat) :
    ∃ after, synchronize rounds tokens position = (.ok (), after) ∨
      synchronize rounds tokens position = (.error .unfinished, after) := by
  induction rounds generalizing position with
  | zero => exact ⟨position, .inr rfl⟩
  | succ rounds ih =>
    obtain ⟨token, mem, seen⟩ := exists_peek nonempty position
    have taken : advance tokens position = (.ok token, position + 1) := by
      rw [advance, bind_of_ok _ seen, Token.isEnd_eq_false.mpr (endless token mem)]
      rfl
    rw [synchronize, bind_of_ok _ (atEnd_of_endless nonempty endless position)]
    simp only [Bool.false_eq_true, ↓reduceIte]
    rw [bind_of_ok _ taken]
    split
    · exact ⟨position + 1, .inl rfl⟩
    · exact ih (position + 1)

theorem round_of_endless (rounds position : Nat) :
    ∃ after, (∃ outcome, round rounds tokens position = (.ok outcome, after)) ∨
      round rounds tokens position = (.error .unfinished, after) := by
  obtain ⟨result, after, done⟩ := concludes_statement nonempty position
  rw [round, bind_of_ok _ (attempt_of_mapError done)]
  cases result with
  | ok declaration => exact ⟨after, .inl ⟨.ok declaration, rfl⟩⟩
  | error error =>
    obtain ⟨stopped, skipped | unfinished⟩ :=
      synchronize_of_endless nonempty endless rounds after
    · exact ⟨stopped, .inl ⟨.error error, bind_of_ok _ skipped⟩⟩
    · exact ⟨stopped, .inr (bind_of_error _ unfinished)⟩

/-- Where no token ends the input, no number of rounds is enough. -/
theorem programRecovering_of_endless (rounds position : Nat) :
    (programRecovering rounds tokens position).1 = .error .unfinished := by
  induction rounds generalizing position with
  | zero => rfl
  | succ rounds ih =>
    rw [programRecovering_succ, bind_of_ok _ (atEnd_of_endless nonempty endless position)]
    simp only [Bool.false_eq_true, ↓reduceIte]
    -- a round that is left leads to an index where the loop does not end either
    obtain ⟨after, ⟨outcome, gone⟩ | unfinished⟩ :=
      round_of_endless nonempty endless (rounds + 1) position
    · have later : programRecovering rounds tokens after =
          (.error .unfinished, (programRecovering rounds tokens after).2) :=
        Prod.ext (ih after) rfl
      rw [bind_of_ok _ gone, bind_of_error _ later]
    · rw [bind_of_error _ unfinished]

end Endless

end Probe

/-- From every index up to that of the end of input the loops come to their end, and the recovering
loop does so on the end of input; if that token is left out it never does. -/
theorem loops_end {ts : TokenSequence} {start : Nat} (within : start ≤ ts.body.length) :
    (Cursor.atIndex ts start).position = start ∧ (Cursor.atIndex ts start).LoopsEnd ∧
      (ts.body ≠ [] → ∀ rounds,
        (Probe.programRecovering rounds ts.body start).1 = .error .unfinished) := by
  refine ⟨Cursor.position_atIndex within, Cursor.loopsEnd _, ?_⟩
  intro nonempty rounds
  exact Probe.programRecovering_of_endless nonempty ts.body_ne_end rounds start

/-- The tokens of `; y int x = 1; z`. -/
def strayNames : TokenSequence where
  body := [⟨.symbol .semicolon, ";", 0⟩, ⟨.identifier, "y", 2⟩, ⟨.type .int, "int", 4⟩,
    ⟨.identifier, "x", 8⟩, ⟨.symbol .equals, "=", 10⟩, ⟨.integer, "1", 12⟩,
    ⟨.symbol .semicolon, ";", 13⟩, ⟨.identifier, "z", 15⟩]
  last := ⟨.endOfInput, "", 16⟩
  body_ne_end := by decide
  last_eq_end := rfl

/-- The statement at the first name takes nothing, and its round comes to the last one. -/
theorem loops_end_strayNames :
    1 ≤ strayNames.body.length ∧
      Probe.statement strayNames.toList 1 =
        (.error (.refused (.unexpected .declaration .identifier 2)), 1) ∧
      Probe.round 8 strayNames.toList 1 =
        (.ok (.error (.unexpected .declaration .identifier 2)), 7) ∧
      Probe.programRecovering 8 strayNames.toList 1 =
        (.ok ⟨⟨[]⟩, [.unexpected .declaration .identifier 2,
          .unexpected .declaration .identifier 15]⟩, 8) ∧
      (Probe.programRecovering 8 strayNames.body 1).1 = .error .unfinished := by
  have within : 1 ≤ strayNames.body.length := by decide
  obtain ⟨-, ends, never⟩ := loops_end within
  refine ⟨within, by decide +kernel, ?_, ?_, never (by decide) 8⟩
  · refine ((ends.round (by decide)).1 8 (by decide)).trans ?_
    decide +kernel
  · refine (ends.programRecovering 8 (by decide)).trans ?_
    rw [ends.atEnd]
    decide +kernel

end TypedDecl
