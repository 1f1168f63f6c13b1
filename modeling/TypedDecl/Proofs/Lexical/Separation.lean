import TypedDecl.Proofs.Lexical.Faults

/-!
Texts with a gap between them.  A blank ends every token but a string, so a gap keeps two texts
apart: the first one is read as it would be by itself, and the second one as well, only further on.
A string left open goes on behind the gap, up to a quote in the second text.
-/

namespace TypedDecl

open Text

namespace TokenSequence

/-- The tokens of the first sequence in front of those of the second, whose end stays. -/
def append (first second : TokenSequence) : TokenSequence where
  body := first.body ++ second.body
  last := second.last
  body_ne_end := List.forall_mem_append.mpr ⟨first.body_ne_end, second.body_ne_end⟩
  last_eq_end := second.last_eq_end

instance : Append TokenSequence := ⟨append⟩

theorem toList_append (first second : TokenSequence) :
    (first ++ second).toList = first.body ++ second.toList :=
  List.append_assoc first.body second.body [second.last]

theorem toList_inj {ts us : TokenSequence} : ts.toList = us.toList ↔ ts = us := by
  constructor
  · obtain ⟨body, last, -, -⟩ := ts
    obtain ⟨body', last', -, -⟩ := us
    intro same
    obtain ⟨rfl, lasts⟩ := List.append_inj' same rfl
    obtain rfl : last = last' := (List.cons.inj lasts).1
    rfl
  · rintro rfl
    rfl

end TokenSequence

theorem tokenize_eq_iff_tokens {source : String} {result : Except LexError TokenSequence} :
    tokenize source = result ↔
      (Lexer.ofSource source).tokens = result.map TokenSequence.toList := by
  change _ ↔ (tokenize source).map TokenSequence.toList = _
  constructor
  · rintro rfl
    rfl
  · cases tokenize source <;> cases result <;> simp [Except.map, TokenSequence.toList_inj]

theorem AllBlank.append {first second : List Char} (front : AllBlank first)
    (back : AllBlank second) : AllBlank (first ++ second) :=
  List.forall_mem_append.mpr ⟨front, back⟩

/-- Text that does not touch the last piece leaves it as it is. -/
theorem EndBefore.append {pieces : List Piece} {text : List Char} (ends : EndBefore pieces text)
    (nonempty : text ≠ []) (later : List Char) : EndBefore pieces (text ++ later) := by
  intro piece last c head
  rw [List.head?_append_of_ne_nil _ nonempty] at head
  exact ends piece last c head

theorem quote_not_mem_of_blank {gap : List Char} (blank : AllBlank gap) : '"' ∉ gap := by
  intro mem
  exact absurd (blank _ mem) (by decide)

namespace Lexer

variable {offset : Nat} {error : LexError} {gap taken rest later : List Char}

/-- A fault reaches up to the gap at most, unless it is an open string. -/
theorem Fault.separated (fault : Fault offset error taken rest) (blank : AllBlank gap)
    (nonempty : gap ≠ []) (unclosed : ∀ place, error = .unterminatedString place → '"' ∉ later) :
    ∃ taken' rest', taken ++ rest ++ (gap ++ later) = taken' ++ rest' ∧
      Fault offset error taken' rest' := by
  cases fault with
  | @invalidCharacter c rest solid word number string unknown =>
    exact ⟨[], _, rfl, .invalidCharacter solid word number string unknown⟩
  | @malformedNumber c cs rest starts inside stop points =>
    refine ⟨c :: cs, rest ++ (gap ++ later), List.append_assoc .., ?_⟩
    apply Fault.malformedNumber starts inside _ points
    intro d head
    cases rest with
    | cons first rest => exact stop d head
    | nil =>
      rw [List.nil_append, List.head?_append_of_ne_nil _ nonempty] at head
      exact continuesNumber_of_isBlank (blank d (List.mem_of_mem_head? head))
  | @unterminatedString cs inside =>
    have quoteless := unclosed offset rfl
    refine ⟨'"' :: (cs ++ (gap ++ later)), [], by simp, .unterminatedString ?_⟩
    simp [inside, quote_not_mem_of_blank blank, quoteless]

theorem Yield.separated {text : List Char} (yields : Yield ⟨text, offset⟩ (.error error))
    (blank : AllBlank gap) (nonempty : gap ≠ [])
    (unclosed : ∀ place, error = .unterminatedString place → '"' ∉ later) :
    Yield ⟨text ++ (gap ++ later), offset⟩ (.error error) := by
  cases yields with
  | @fault pieces closing _ taken rest laid closed ends spelled fault =>
    obtain ⟨taken', rest', split, fault'⟩ := fault.separated blank nonempty unclosed
    have more : closing ++ (taken ++ rest) ≠ [] := List.append_ne_nil_of_right_ne_nil _ fault.ne_nil
    have ends' := ends.append more (gap ++ later)
    rw [List.append_assoc, split] at ends'
    simp only at laid spelled fault'
    refine .fault laid closed ends' ?_ fault'
    rw [spelled, List.append_assoc, split]

/-- Laid out text is read up to the gap, and the text behind the gap where it stands. -/
theorem tokens_separated {pieces : List Piece} {closing : List Char}
    (laid : WellLaid offset pieces) (closed : AllBlank closing) (blank : AllBlank gap)
    (nonempty : gap ≠ []) :
    tokens ⟨spell pieces ++ closing ++ (gap ++ later), offset⟩ =
      (tokens ⟨later, offset + byteLength (spell pieces ++ closing ++ gap)⟩).map
        (pieces.map Piece.token ++ ·) := by
  have ends : EndBefore pieces (closing ++ gap ++ later) := by
    apply (endBefore_gap_iff (closed.append blank)).mpr
    intro none
    exact absurd (List.append_eq_nil_iff.mp none).2 nonempty
  have whole := tokens_laid_append laid (closed.append blank) ends
  simpa only [List.append_assoc] using whole

end Lexer

/-- A gap keeps two texts apart.  Where the first one has tokens, the second one is read behind them
as it would be by itself, only further on.  Where the first one is at fault, the fault stays, unless
it is a string left open and the second text has a quote to close it. -/
theorem tokenize_separated {gap : String} (blank : AllBlank gap.toList) (nonempty : gap ≠ "")
    (first second : String) :
    (∀ ts, tokenize first = .ok ts →
      tokenize (first ++ gap ++ second) =
        ((tokenize second).map fun us =>
          ts ++ (Relabeling.shift (first ++ gap).utf8ByteSize).sequence us).mapError
            (Relabeling.shift (first ++ gap).utf8ByteSize).lexError) ∧
    ∀ error, tokenize first = .error error →
      (∀ offset, error = .unterminatedString offset → '"' ∉ second.toList) →
      tokenize (first ++ gap ++ second) = .error error := by
  have more : gap.toList ≠ [] := by simpa using nonempty
  have split : (first ++ gap ++ second).toList = first.toList ++ (gap.toList ++ second.toList) := by
    simp
  constructor
  · intro ts found
    obtain ⟨pieces, closing, laid, closed, spelled, body⟩ := exists_laid_of_tokenize found
    have place : 0 + byteLength (spell pieces ++ closing ++ gap.toList) =
        (first ++ gap).utf8ByteSize + 0 := by
      rw [← spelled, ← String.toList_append, byteLength_toList, Nat.zero_add, Nat.add_zero]
    rw [tokenize_eq_iff_tokens, Lexer.ofSource, split, spelled,
      Lexer.tokens_separated laid closed blank more, place, Lexer.tokens_shift, ← body]
    have behind : Lexer.tokens ⟨second.toList, 0⟩ = (tokenize second).map TokenSequence.toList := rfl
    rw [behind]
    cases tokenize second with
    | error error => rfl
    | ok us => simp [Except.map, Except.mapError, TokenSequence.toList_append]
  · intro error found unclosed
    rw [tokenize_eq_error_iff_yield] at found ⊢
    rw [Lexer.ofSource, split]
    exact found.separated blank more unclosed

/-- The line break ends a number but no string, and the second text is moved by its two bytes. -/
theorem tokenize_separated_by_line_break :
    AllBlank "\r\n".toList ∧ "\r\n" ≠ "" ∧
      tokenize ("é \";\" 7." ++ "\r\n" ++ "1²") = .error (.invalidCharacter '²' 12) ∧
      tokenize ("é \"7." ++ "\r\n" ++ "1;²") = .error (.unterminatedString 3) := by
  have blank : AllBlank "\r\n".toList := List.all_eq_true.mp (by decide)
  refine ⟨blank, by decide, ?_, ?_⟩
  · have found : tokenize "é \";\" 7." = .ok ⟨[⟨.identifier, "é", 0⟩, ⟨.quoted, ";", 3⟩,
        ⟨.floating, "7.", 7⟩], .endAt 9, by decide, rfl⟩ := by decide +kernel
    rw [(tokenize_separated blank (by decide) _ _).1 _ found]
    decide +kernel
  · have failed : tokenize "é \"7." = .error (.unterminatedString 3) := by decide +kernel
    refine (tokenize_separated blank (by decide) _ _).2 _ failed ?_
    rintro offset -
    decide

end TypedDecl
