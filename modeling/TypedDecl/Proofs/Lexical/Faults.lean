import TypedDecl.Proofs.Lexical.Yield

/-!
The place of a lexical fault.  Reading a source fails exactly where laid out tokens are followed by
text that opens no token, so the fault that is reported is the leftmost one.
-/

namespace TypedDecl

open Text

/-- Tokens are laid out up to the fault, which does not make the last one longer. -/
structure BreaksOff (before rest : String) (error : LexError) : Prop where
  place : error.offset = before.utf8ByteSize
  laid : ∃ pieces closing, WellLaid 0 pieces ∧ AllBlank closing ∧
    before.toList = spell pieces ++ closing ∧ (closing = [] → EndBefore pieces rest.toList)
  fault : ∃ taken later, rest.toList = taken ++ later ∧
    Lexer.Fault error.offset error taken later

theorem Lexer.Fault.offset_eq {offset : Nat} {error : LexError} {taken rest : List Char}
    (fault : Fault offset error taken rest) : error.offset = offset := by
  cases fault <;> rfl

theorem Lexer.Fault.ne_nil {offset : Nat} {error : LexError} {taken rest : List Char}
    (fault : Fault offset error taken rest) : taken ++ rest ≠ [] := by
  cases fault <;> simp

/-- A gap keeps the last piece from the text that follows. -/
theorem endBefore_gap_iff {pieces : List Piece} {closing rest : List Char}
    (blank : AllBlank closing) :
    EndBefore pieces (closing ++ rest) ↔ (closing = [] → EndBefore pieces rest) := by
  cases closing with
  | nil => simp
  | cons c closing =>
    constructor
    · rintro - ⟨⟩
    · intro _ piece last d head
      obtain rfl : c = d := by simpa using head
      exact TokenKind.extendedBy_of_isBlank (blank c List.mem_cons_self) piece.token.kind

theorem exists_breaksOff {source : String} {error : LexError}
    (yields : Lexer.Yield (.ofSource source) (.error error)) :
    ∃ before rest, source = before ++ rest ∧ BreaksOff before rest error := by
  cases yields with
  | @fault pieces closing _ taken later laid blank ends spelled fault =>
    have place : error.offset = (String.ofList (spell pieces ++ closing)).utf8ByteSize := by
      rw [fault.offset_eq, utf8ByteSize_ofList]
      exact Nat.zero_add _
    refine ⟨.ofList (spell pieces ++ closing), .ofList (taken ++ later), ?_, place, ?_, ?_⟩
    · rw [← String.ofList_append, ← String.ofList_toList (s := source)]
      exact congrArg String.ofList spelled
    · refine ⟨pieces, closing, laid, blank, String.toList_ofList, ?_⟩
      rw [String.toList_ofList]
      exact (endBefore_gap_iff blank).mp ends
    · refine ⟨taken, later, String.toList_ofList, ?_⟩
      rw [fault.offset_eq]
      exact fault

namespace BreaksOff

variable {before rest : String} {error : LexError}

theorem yields (breaks : BreaksOff before rest error) :
    Lexer.Yield (.ofSource (before ++ rest)) (.error error) := by
  obtain ⟨place, ⟨pieces, closing, laid, blank, spelled, ends⟩, taken, later, split, fault⟩ := breaks
  rw [split] at ends
  apply Lexer.Yield.fault laid blank ((endBefore_gap_iff blank).mpr ends)
  · rw [Lexer.ofSource, String.toList_append, spelled, split]
  · rw [← spelled, byteLength_toList, Lexer.ofSource, Nat.zero_add, ← place]
    exact fault

theorem exists_tokenize (breaks : BreaksOff before rest error) :
    ∃ ts, tokenize before = .ok ts := by
  obtain ⟨pieces, closing, laid, blank, spelled, -⟩ := breaks.laid
  obtain ⟨ts, found, -⟩ := exists_tokenize_of_laid laid blank spelled
  exact ⟨ts, found⟩

end BreaksOff

/-- A source fails at the leftmost fault, and what stands before the fault has tokens. -/
theorem tokenize_eq_error_iff (source : String) (error : LexError) :
    (tokenize source = .error error ↔
      ∃ before rest, source = before ++ rest ∧ BreaksOff before rest error) ∧
    ∀ before rest, BreaksOff before rest error → ∃ ts, tokenize before = .ok ts := by
  refine ⟨?_, ?_⟩
  · rw [tokenize_eq_error_iff_yield]
    constructor
    · exact exists_breaksOff
    · rintro ⟨before, rest, rfl, breaks⟩
      exact breaks.yields
  · intro before rest breaks
    exact breaks.exists_tokenize

end TypedDecl
