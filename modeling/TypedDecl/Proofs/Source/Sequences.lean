import TypedDecl.Proofs.Grammar.Indexing
import TypedDecl.Proofs.Source.Log

/-!
Token sequences as vectors.  A vector is a sequence if it has one end of input and has it last,
which is what the lexer's tokens come to; and over such a vector no index of a parser is out of
range.
-/

namespace TypedDecl

/-- The vector has one end of input, and no token behind it. -/
def EndsOnce (tokens : List Token) : Prop :=
  tokens.countP Token.isEnd = 1 ∧ ∃ last ∈ tokens.getLast?, last.kind = .endOfInput

/-- What is said about a vector when a sequence is to be made of it. -/
structure Checks (tokens : List Token) : Prop where
  accepted : (∃ ts, TokenSequence.ofTokens tokens = .ok ts) ↔ EndsOnce tokens
  kept : ∀ ts, TokenSequence.ofTokens tokens = .ok ts → ts.toList = tokens
  duplicate : TokenSequence.ofTokens tokens = .error .duplicateEnd ↔
    2 ≤ tokens.countP Token.isEnd
  missing : TokenSequence.ofTokens tokens = .error .missingEnd ↔
    ¬ EndsOnce tokens ∧ ¬ 2 ≤ tokens.countP Token.isEnd

/-- The cursor's index into its tokens can be used, and so can the index of the last token. -/
structure Cursor.InRange (cursor : Cursor) (tokens : List Token) : Prop where
  nonempty : 1 ≤ tokens.length
  index_lt : min cursor.position (tokens.length - 1) < tokens.length
  peek : Probe.peek tokens cursor.position = (.ok cursor.rest.first, cursor.position)
  last : Probe.last tokens cursor.position = (.ok cursor.tokens.last, cursor.position)

namespace TokenSequence

variable {tokens : List Token} {ts : TokenSequence}

theorem countP_toList (ts : TokenSequence) : ts.toList.countP Token.isEnd = 1 := by
  have body : ts.body.countP Token.isEnd = 0 := by simpa using ts.body_ne_end
  rw [toList, List.countP_append, body, List.countP_singleton, if_pos (by simp [ts.last_eq_end])]

theorem endsOnce_iff : EndsOnce tokens ↔ ∃ ts : TokenSequence, ts.toList = tokens := by
  constructor
  · rintro ⟨once, last, final, isEnd⟩
    obtain ⟨body, rfl⟩ := List.getLast?_eq_some_iff.mp final
    have others : body.countP Token.isEnd = 0 := by
      rw [List.countP_append, List.countP_singleton, if_pos (by simp [isEnd])] at once
      omega
    exact ⟨⟨body, last, by simpa using others, isEnd⟩, rfl⟩
  · rintro ⟨ts, rfl⟩
    exact ⟨ts.countP_toList, ts.last, by simp [toList], ts.last_eq_end⟩

theorem toList_of_ofTokens (found : ofTokens tokens = .ok ts) : ts.toList = tokens := by
  unfold ofTokens at found
  split at found
  · cases found
  · next last rest =>
    have whole := List.takeWhile_append_dropWhile (p := (!·.isEnd)) (l := tokens)
    rw [rest] at whole
    cases found
    exact whole
  · cases found

theorem exists_ofTokens_iff : (∃ ts, ofTokens tokens = .ok ts) ↔ EndsOnce tokens := by
  rw [endsOnce_iff]
  constructor
  · rintro ⟨ts, found⟩
    exact ⟨ts, toList_of_ofTokens found⟩
  · rintro ⟨ts, rfl⟩
    exact ⟨ts, ofTokens_toList ts⟩

/-- In front of the first end of input there is none to be counted. -/
theorem countP_dropWhile (tokens : List Token) :
    (tokens.dropWhile (!·.isEnd)).countP Token.isEnd = tokens.countP Token.isEnd := by
  have none : (tokens.takeWhile (!·.isEnd)).countP Token.isEnd = 0 := by
    rw [List.countP_eq_zero]
    intro token mem
    simpa using List.all_eq_true.mp List.all_takeWhile token mem
  have split := congrArg (List.countP Token.isEnd)
    (List.takeWhile_append_dropWhile (p := (!·.isEnd)) (l := tokens))
  rw [List.countP_append, none, Nat.zero_add] at split
  exact split

theorem eq_of_ofTokens_error {error : SequenceError} (failed : ofTokens tokens = .error error) :
    error = if 2 ≤ tokens.countP Token.isEnd then .duplicateEnd else .missingEnd := by
  have count := countP_dropWhile tokens
  unfold ofTokens at failed
  split at failed
  · next rest =>
    rw [rest, List.countP_nil] at count
    rw [if_neg (by omega)]
    exact (Except.error.inj failed).symm
  · cases failed
  · next first later _ rest =>
    have isEnd : first.isEnd = true := by
      have stop := List.head?_dropWhile_not (!·.isEnd) tokens
      simpa [rest] using stop
    rw [rest, List.countP_cons_of_pos isEnd] at count
    rw [← Except.error.inj failed]
    by_cases more : later.any Token.isEnd = true
    · have : 0 < later.countP Token.isEnd := List.countP_pos_iff.mpr (List.any_eq_true.mp more)
      rw [if_pos more, if_pos (by omega)]
    · have : later.countP Token.isEnd = 0 := by simpa [List.countP_eq_zero] using more
      rw [if_neg more, if_neg (by omega)]

theorem checks (tokens : List Token) : Checks tokens where
  accepted := exists_ofTokens_iff
  kept := fun _ => toList_of_ofTokens
  duplicate := by
    constructor
    · intro failed
      by_contra few
      have := eq_of_ofTokens_error failed
      simp [few] at this
    · intro many
      cases answer : ofTokens tokens with
      | error error => rw [eq_of_ofTokens_error answer, if_pos many]
      | ok ts =>
        obtain ⟨once, -⟩ := exists_ofTokens_iff.mp ⟨ts, answer⟩
        omega
  missing := by
    constructor
    · intro failed
      constructor
      · intro once
        obtain ⟨ts, found⟩ := exists_ofTokens_iff.mpr once
        cases found.symm.trans failed
      · intro many
        have := eq_of_ofTokens_error failed
        simp [many] at this
    · rintro ⟨other, few⟩
      cases answer : ofTokens tokens with
      | error error => rw [eq_of_ofTokens_error answer, if_neg few]
      | ok ts => exact absurd (exists_ofTokens_iff.mp ⟨ts, answer⟩) other

/-- An end of input that another token follows is none. -/
example : ofTokens [.endAt 0, ⟨.symbol .comma, ",", 0⟩] = .error .missingEnd := by decide

end TokenSequence

namespace Cursor

theorem tokens_of_mem_answers (cursor : Cursor) (calls : List Call) :
    ∀ step ∈ cursor.answers calls, step.2.tokens = cursor.tokens := by
  induction calls generalizing cursor with
  | nil =>
    intro step mem
    cases mem
  | cons call calls ih =>
    intro step mem
    rcases List.mem_cons.mp mem with rfl | later
    · rfl
    · exact ih (cursor.after call) step later

theorem inRange (cursor : Cursor) : cursor.InRange cursor.tokens.toList where
  nonempty := by simp [TokenSequence.toList]
  index_lt := by
    rw [TokenSequence.toList, List.length_append, List.length_singleton]
    exact Nat.lt_succ_of_le (Nat.min_le_right _ _)
  peek := Probe.peek_apply cursor
  last := Probe.last_apply cursor cursor.position

end Cursor

/-- A sequence is made of the vectors with one end of input and that one last, and of the lexer's
tokens too.  Whatever is called on it, a parser that goes by an index never looks outside of it. -/
theorem sequences_in_range :
    (∀ tokens, Checks tokens) ∧
    (∀ source ts, tokenize source = .ok ts → ∃ tokens : List Token,
      (Lexer.ofSource source).reads tokens.length = tokens.map .ok ∧
      (∀ token ∈ tokens.dropLast, token.kind ≠ .endOfInput) ∧
      TokenSequence.ofTokens tokens = .ok ts) ∧
    ∀ (ts : TokenSequence) (calls : List Call) (rounds : Nat), ts.length ≤ rounds →
      Probe.answers rounds ts.toList 0 calls =
        ((Cursor.start ts).answers calls).map (fun step => (.ok step.1, step.2.position)) ∧
      ∀ cursor ∈ Cursor.start ts :: ((Cursor.start ts).answers calls).map Prod.snd,
        cursor.InRange ts.toList := by
  refine ⟨TokenSequence.checks, ?_, ?_⟩
  · intro source ts found
    refine ⟨ts.toList, reads_of_tokenize found, ?_, ts.ofTokens_toList⟩
    rw [TokenSequence.toList, List.dropLast_concat]
    exact ts.body_ne_end
  · intro ts calls rounds enough
    have start : (Cursor.start ts).position = 0 := Nat.sub_self _
    constructor
    · have length : ts.length = ts.body.length + 1 := by
        simp [TokenSequence.length, TokenSequence.toList]
      rw [← start]
      exact Probe.answers_apply (Cursor.start ts) calls (by simp only [Cursor.start]; omega)
    · intro cursor mem
      have same : cursor.tokens = ts := by
        rcases List.mem_cons.mp mem with rfl | later
        · rfl
        · obtain ⟨step, here, rfl⟩ := List.mem_map.mp later
          exact (Cursor.start ts).tokens_of_mem_answers calls step here
      have safe := cursor.inRange
      rwa [same] at safe

end TypedDecl
